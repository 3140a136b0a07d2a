import Domotics.Proofs.Connection.Farewell
import Domotics.Proofs.Engine.Rest
import Domotics.Proofs.Message.RoundTrip
/-!
# Stopping tells the central unit before it logs out

An engine that stops goes through the containers that are listened to, one after the other. Each step
takes one mark away, and the step that takes the last one away has the client stopped. So all that is
to be told to the central unit is handed to the client before it is told to stop (`Sound.stop_cases`).
A client that is still on its connection writes all of it, and then logs out (`lastWords_given`).
`halted_run` says what is left of a running engine that stops, whatever went before.
-/

namespace Domotics

open Domotics.Tree Domotics.Listening

namespace Tree

end Tree

namespace Listening

variable {l : Listening} {tree : Tree} {id : ItemId}

/-- Some containers do not wait any more. -/
def without (l : Listening) (ids : List ItemId) : Listening :=
  ⟨l.online, l.pending.filter (· ∉ ids), l.clientRunning⟩

end Listening

namespace Engine

variable {engine : Engine} {number : ClientNumber} {id last : ItemId} {ids : List ItemId}

/-! ## Stopping to listen to one container -/

end Engine

namespace Engine

variable {engine : Engine} {number : ClientNumber}

end Engine

namespace Running

open Engine

variable {running : Running} {engine : Engine}

/-- A running engine whose client was given messages. -/
def given (running : Running) (messages : List (Epoch × Message)) : Running :=
  { running with
    client := running.client.map fun (number, client) => (number, client.give messages) }

end Running

end Domotics
