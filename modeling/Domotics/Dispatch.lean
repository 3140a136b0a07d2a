import Domotics.Listening
/-!
# Applying messages

`dispatch` applies a message of the central unit to the tree. A message that cannot be applied
changes nothing and is reported as a problem.
-/

namespace Domotics

/-- What came of a message. -/
structure Dispatched where
  tree : Tree
  listening : Listening
  actions : List Action
  /-- What was wrong with the message, in words for the user. -/
  problem : Option String

namespace Dispatched

/-- The message was applied, or there was nothing to apply. -/
def done (tree : Tree) (listening : Listening) (actions : List Action) : Dispatched :=
  ⟨tree, listening, actions, none⟩

/-- The message was refused. -/
def refused (tree : Tree) (listening : Listening) (problem : String) : Dispatched :=
  ⟨tree, listening, [], some problem⟩

end Dispatched

/-- Applies an announcement. With `listenAll`, a container is listened to as soon as it is known. -/
def dispatchAnnouncement (tree : Tree) (listening : Listening) (listenAll : Bool)
    (parent : ItemId) (item : Item) : Dispatched :=
  let id := item.id
  if id ≠ rootId ∧ !tree.contains parent then
    .refused tree listening s!"Announced item {id} refers to unknown parent {parent}"
  else
    let announced := tree.announcing parent item
    let tree' := announced.tree
    match announced.result with
    | .error e =>
      .refused tree' listening s!"Could not apply announcement of item {id}: {e.message}"
    | .ok () =>
      let (actions, listening') := listening.itemsRemoved tree'
      let heard := (tree'.get? id).all (·.isListening)
      if listenAll ∧ item.isContainer ∧ !heard then
        match listening'.start tree' id with
        | .ok outcome => .done outcome.tree outcome.listening (actions ++ outcome.actions)
        | .error _ => .done tree' listening' actions
      else .done tree' listening' actions

/-- Applies a value to a device. -/
def dispatchValue (tree : Tree) (listening : Listening) (id : ItemId)
    (result : Except Error Tree) : Dispatched :=
  match result with
  | .ok tree' => .done tree' listening []
  | .error (.itemNotFound _) => .refused tree listening s!"Value change for unknown item {id}"
  | .error e => .refused tree listening s!"Could not apply value change: {e.message}"

/-- Applies a message that came on the connection of an epoch. A ping is answered, and what the
central unit only acknowledges needs no answer. -/
def dispatch (tree : Tree) (listening : Listening) (listenAll : Bool) (epoch : Epoch)
    (message : Message) : Dispatched :=
  match message with
  | .decimalDevice _ _ _ | .binaryDevice _ _ _ | .container _ =>
    match message.toItem? with
    | some (parent, item) => dispatchAnnouncement tree listening listenAll parent item
    | none => .done tree listening []
  | .decimalValueChanged id value =>
    dispatchValue tree listening id (tree.setDecimal id value)
  | .binaryValueChanged id on => dispatchValue tree listening id (tree.setBinary id on)
  | .itemRemoved id =>
    match tree.remove id with
    | ([], _) => .done tree listening []
    | (_, tree') =>
      let (actions, listening') := listening.itemsRemoved tree'
      .done tree' listening' actions
  | .ping id => .done tree listening [.send epoch (.pong id)]
  | .pong _ | .logout _ | .listeningStart _ | .listeningStop _ => .done tree listening []
  | .login _ _ _ => .refused tree listening "Unexpected login message from the server"

end Domotics
