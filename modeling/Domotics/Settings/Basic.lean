import Domotics.CentralUnit
/-!
# Settings

What the user decides about the client: where the central unit is and who logs in there, how long
the client waits, and whether it listens to everything. Durations are whole numbers of 64 bits.
-/

namespace Domotics

/-- Where the central unit is. -/
structure ServerSettings where
  url : String
  /-- Listen to the root, and so connect, on start. -/
  autoConnect : Bool
deriving DecidableEq

/-- How long the client waits. -/
structure ConnectionSettings where
  connectTimeoutMillis : UInt64
  readTimeoutMillis : UInt64
  retryDelayMillis : UInt64
  /-- The time between two pings; zero for none. -/
  pingIntervalSeconds : UInt64
deriving DecidableEq

/-- How the client behaves. -/
structure BehaviorSettings where
  /-- Listen to every container as soon as it is announced. -/
  listenAll : Bool
deriving DecidableEq

/-- What the user decides about the client. -/
structure Settings where
  server : ServerSettings
  login : Credentials
  connection : ConnectionSettings
  behavior : BehaviorSettings
deriving DecidableEq

/-- The times a connection goes by, in milliseconds. -/
structure Timeouts where
  connect : UInt64
  read : UInt64
  write : UInt64
  retry : UInt64
deriving DecidableEq

namespace ConnectionSettings

/-- The times of a connection. Writing may take as long as connecting. -/
def timeouts (settings : ConnectionSettings) : Timeouts :=
  ⟨settings.connectTimeoutMillis, settings.readTimeoutMillis, settings.connectTimeoutMillis,
    settings.retryDelayMillis⟩

/-- The time between two pings, if there are any. -/
def pingInterval? (settings : ConnectionSettings) : Option UInt64 :=
  if settings.pingIntervalSeconds = 0 then none else some settings.pingIntervalSeconds

end ConnectionSettings

namespace Settings

/-- The settings of a user who decided nothing. -/
def initial : Settings where
  server := ⟨"http://127.0.0.1:18000/", true⟩
  login := ⟨"", ""⟩
  connection := ⟨5000, 5000, 5000, 0⟩
  behavior := ⟨false⟩

/-- The central unit that the settings name. -/
def centralUnit (settings : Settings) : Except Error CentralUnit := do
  let unit ← CentralUnit.atUrl settings.server.url
  return { unit with credentials := settings.login, autoConnect := settings.server.autoConnect }

end Settings

end Domotics
