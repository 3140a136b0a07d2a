/-!
# The state of the connection, for the user

What is reported of the connection when it changes.
-/

namespace Domotics

/-- What became of the connection. -/
inductive Activity where
  | connected
  /-- The first attempt to connect failed. -/
  | noConnection
  /-- A further attempt failed. -/
  | reconnecting
  /-- The connection was lost. -/
  | closed
deriving DecidableEq

namespace Activity

def text : Activity → String
  | connected => "Connected"
  | noConnection => "No connection"
  | reconnecting => "Reconnecting"
  | closed => "Connection closed"

/-- What the failure of an attempt is reported as; attempts count from one. -/
def ofFailedAttempt (attempt : Nat) : Activity :=
  if attempt ≤ 1 then noConnection else reconnecting

end Activity

end Domotics
