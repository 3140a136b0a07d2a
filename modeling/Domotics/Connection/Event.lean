import Domotics.Listening
/-!
# What is told of a connection

A client that runs posts an event whenever its connection changes or something arrives on it. An
event names the epoch of the connection it belongs to.
-/

namespace Domotics

/-- An event of a connection. -/
inductive ConnectionEvent where
  /-- A connection is up, and the login is on its way. -/
  | connected (epoch : Epoch)
  /-- An attempt to connect failed; attempts count from one after every connection. -/
  | connectFailed (attempt : Nat) (reason : String)
  /-- The connection was lost. -/
  | disconnected (epoch : Epoch)
  /-- A message arrived. -/
  | message (epoch : Epoch) (message : Message)
  /-- Something arrived that is no message. -/
  | protocolError (epoch : Epoch) (text : String)
deriving DecidableEq

/-- The label of a kind of event. -/
def ConnectionEvent.label : ConnectionEvent → String
  | connected _ => "connected"
  | connectFailed _ _ => "connect_failed"
  | disconnected _ => "disconnected"
  | message _ _ => "message"
  | protocolError _ _ => "protocol_error"

/-- How far a client is. -/
inductive ConnectionState where
  /-- No client runs. -/
  | offline
  /-- The client connects, or waits to try again. -/
  | connecting
  | online (epoch : Epoch)
deriving DecidableEq

namespace ConnectionState

/-- How a client that is in a state may be shown. -/
def shown (state : ConnectionState) : String :=
  let name := match state with
    | offline => "Offline"
    | connecting => "Connecting"
    | online epoch => s!"Online \x7b epoch: {epoch} \x7d"
  "OhapClient \x7b connection_state: " ++ name ++ " \x7d"

end ConnectionState

end Domotics
