import Domotics.Tree.Edit
import Domotics.Message.Basic
/-!
# Listening

The client is told of changes in the containers it listens to. `Listening` keeps two things in step
with the listening marks in the tree: the connection, which is up exactly while something is
listened to, and the central unit, which is told once on each connection of every container that is
listened to.

Each operation returns the `Action`s that bring the rest of the program in step: to start or stop
the client, or to send a message on the connection of an epoch. Connections are numbered by epochs;
while there is none, containers wait in `pending` for the next one.
-/

namespace Domotics

/-- The number of a connection, counted from one for each client. -/
abbrev Epoch := Nat

/-- What is to be done about the connection. -/
inductive Action where
  | startClient
  | stopClient
  | send (epoch : Epoch) (message : Message)
deriving DecidableEq

/-- What is known about the connection, and which containers wait for it. -/
structure Listening where
  /-- The epoch of the connection, while there is one. -/
  online : Option Epoch
  pending : List ItemId
  clientRunning : Bool
deriving DecidableEq

namespace Listening

/-- No client, no connection, and nothing waiting. -/
def initial : Listening :=
  ⟨none, [], false⟩

/-- The number of containers listened to. -/
def count (tree : Tree) : Nat :=
  tree.listeningContainers.length

/-- Lets the client run exactly while something is listened to. -/
def reconcile (l : Listening) (tree : Tree) : List Action × Listening :=
  if 0 < count tree ∧ !l.clientRunning then
    ([.startClient], { l with clientRunning := true })
  else if count tree = 0 ∧ l.clientRunning then
    ([.stopClient], ⟨none, [], false⟩)
  else ([], l)

/-- The result of an operation that can also change the tree. -/
structure Outcome where
  tree : Tree
  listening : Listening
  actions : List Action

/-- Listens to a container. Nothing happens if it is listened to already. -/
def start (l : Listening) (tree : Tree) (id : ItemId) : Except Error Outcome := do
  let (changed, tree') ← tree.setListening id true
  if !changed then return ⟨tree, l, []⟩
  let (actions, l') := l.reconcile tree'
  match l'.online with
  | some epoch => return ⟨tree', l', actions ++ [.send epoch (.listeningStart id)]⟩
  | none => return ⟨tree', { l' with pending := l'.pending ++ [id] }, actions⟩

/-- Stops listening to a container. Nothing happens if it is not listened to. -/
def stop (l : Listening) (tree : Tree) (id : ItemId) : Except Error Outcome := do
  let (changed, tree') ← tree.setListening id false
  if !changed then return ⟨tree, l, []⟩
  let actions := match l.online with
    | some epoch => [.send epoch (.listeningStop id)]
    | none => []
  let (more, l') := { l with pending := l.pending.filter (· ≠ id) }.reconcile tree'
  return ⟨tree', l', actions ++ more⟩

/-- A connection is up: the central unit is told of everything listened to. -/
def connected (l : Listening) (tree : Tree) (epoch : Epoch) : List Action × Listening :=
  (tree.listeningContainers.map fun id => .send epoch (.listeningStart id),
    { l with online := some epoch, pending := [] })

/-- A connection was lost. One that is no longer current does not matter. -/
def disconnected (l : Listening) (tree : Tree) (epoch : Epoch) : Listening :=
  if l.online = some epoch then
    { l with online := none, pending := tree.listeningContainers }
  else l

/-- Items left the tree, and their listening marks went with them. -/
def itemsRemoved (l : Listening) (tree : Tree) : List Action × Listening :=
  { l with pending := l.pending.filter tree.contains }.reconcile tree

/-- The client was stopped, for another reason than that nothing is listened to. -/
def clientStopped (_ : Listening) (tree : Tree) : Listening :=
  ⟨none, tree.listeningContainers, false⟩

end Listening

end Domotics
