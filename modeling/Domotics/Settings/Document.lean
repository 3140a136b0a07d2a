import Domotics.Settings.Basic
import Domotics.Toml.Reader
import Domotics.Toml.Text
/-!
# Settings as a document

Settings are written as a TOML document with four sections. `Settings.sections?` writes them down,
which fails only for a duration beyond the whole numbers that TOML has, and `Settings.ofEntries?`
reads them back.

Reading is lenient about what is missing and strict about what is there: an absent section or value
is the initial one, unknown names are passed over, but a value of the wrong type spoils the whole
document. A section may also be an array of its values in order.
-/

namespace Domotics

open Toml (Node Entries Section Scalar)

/-! ## Writing -/

/-- A duration as a whole number of TOML. -/
def durationScalar? (n : UInt64) : Option Scalar :=
  if n.toNat ≤ Int64.maxValue.toInt then some (.integer n.toNat) else none

namespace Settings

/-- The sections of the document that settings are written as. -/
def sections? (settings : Settings) : Option (List Section) := do
  let connection := settings.connection
  return [
    ⟨"server", [("url", .string settings.server.url),
      ("auto_connect", .boolean settings.server.autoConnect)]⟩,
    ⟨"login", [("username", .string settings.login.username),
      ("password", .string settings.login.password)]⟩,
    ⟨"connection", [
      ("connect_timeout_ms", ← durationScalar? connection.connectTimeoutMillis),
      ("read_timeout_ms", ← durationScalar? connection.readTimeoutMillis),
      ("retry_delay_ms", ← durationScalar? connection.retryDelayMillis),
      ("ping_interval_secs", ← durationScalar? connection.pingIntervalSeconds)]⟩,
    ⟨"behavior", [("listen_all", .boolean settings.behavior.listenAll)]⟩]

/-! ## Reading -/

/-- The values of a section by name and place: a table has them by name, an array by place. A point
in time says nothing about any of them. -/
def valuesOf? : Node → Option (String → Nat → Option Node)
  | .table _ entries => some fun name _ => entries.lookup name
  | .array elements => some fun _ place => elements[place]?
  | .tables elements => some fun _ place => elements[place]?.map (.table .header)
  | .dateTime => some fun _ _ => none
  | _ => none

/-- The values of a section that may be absent. -/
def readSection? : Option Node → Option (String → Nat → Option Node)
  | none => some fun _ _ => none
  | some node => valuesOf? node

/-- A text that may be absent. -/
def readText? (fallback : String) : Option Node → Option String
  | none => some fallback
  | some (.string text) => some text
  | some _ => none

/-- A truth value that may be absent. -/
def readBool? (fallback : Bool) : Option Node → Option Bool
  | none => some fallback
  | some (.boolean b) => some b
  | some _ => none

/-- A duration that may be absent. -/
def readDuration? (fallback : UInt64) : Option Node → Option UInt64
  | none => some fallback
  | some (.integer n) => if 0 ≤ n then some (UInt64.ofNat n.toNat) else none
  | some _ => none

/-- The settings in a document. -/
def ofEntries? (entries : Entries) : Option Settings := do
  let server ← readSection? (entries.lookup "server")
  let login ← readSection? (entries.lookup "login")
  let connection ← readSection? (entries.lookup "connection")
  let behavior ← readSection? (entries.lookup "behavior")
  return {
    server := {
      url := ← readText? initial.server.url (server "url" 0)
      autoConnect := ← readBool? initial.server.autoConnect (server "auto_connect" 1) }
    login := {
      username := ← readText? initial.login.username (login "username" 0)
      password := ← readText? initial.login.password (login "password" 1) }
    connection := {
      connectTimeoutMillis := ← readDuration? initial.connection.connectTimeoutMillis
        (connection "connect_timeout_ms" 0)
      readTimeoutMillis := ← readDuration? initial.connection.readTimeoutMillis
        (connection "read_timeout_ms" 1)
      retryDelayMillis := ← readDuration? initial.connection.retryDelayMillis
        (connection "retry_delay_ms" 2)
      pingIntervalSeconds := ← readDuration? initial.connection.pingIntervalSeconds
        (connection "ping_interval_secs" 3) }
    behavior := {
      listenAll := ← readBool? initial.behavior.listenAll (behavior "listen_all" 0) } }

end Settings

end Domotics
