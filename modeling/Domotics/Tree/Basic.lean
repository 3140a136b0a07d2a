import Std.Data.ExtTreeMap
import Domotics.Item
/-!
# The tree of items

`Tree` is the client's picture of what a central unit describes: an index from numbers to items, in
which a container lists its children and every item but the root names its parent. Both directions
are kept, so each change edits both. Changes queue `TreeEvent`s, oldest first, until somebody takes
them.

The root is always there. Walks up and down the tree take at most as many steps as the index has
items, which a tree without cycles never exceeds.
-/

namespace Domotics

/-- A change of the tree. -/
inductive TreeEvent where
  | itemAdded (parent id : ItemId)
  | itemRemoved (parent id : ItemId)
  | itemChanged (id : ItemId)
  | listeningChanged (id : ItemId) (listening : Bool)
deriving DecidableEq

/-- The label of a kind of change. -/
def TreeEvent.label : TreeEvent → String
  | .itemAdded _ _ => "item_added"
  | .itemRemoved _ _ => "item_removed"
  | .itemChanged _ => "item_changed"
  | .listeningChanged _ _ => "listening_changed"

/-- Items by their numbers, with the changes nobody has taken yet. -/
structure Tree where
  items : Std.ExtTreeMap ItemId Item
  events : List TreeEvent

namespace Tree

/-- A tree that holds the root alone. -/
def empty : Tree :=
  { items := (∅ : Std.ExtTreeMap ItemId Item).insert rootId
      (.ofContainer rootId "Central unit" "" false)
    events := [] }

/-! ## Looking things up -/

def get? (tree : Tree) (id : ItemId) : Option Item :=
  tree.items[id]?

def contains (tree : Tree) (id : ItemId) : Bool :=
  tree.items.contains id

def size (tree : Tree) : Nat :=
  tree.items.size

/-- The item with a number, which must be there. -/
def item (tree : Tree) (id : ItemId) : Except Error Item :=
  match tree.get? id with
  | some item => .ok item
  | none => .error (.itemNotFound id)

/-- The children of a container, which must be there. -/
def children (tree : Tree) (id : ItemId) : Except Error (List ItemId) := do
  (← tree.item id).children

/-- The child at a place in a container. -/
def childAt (tree : Tree) (id : ItemId) (index : Nat) : Except Error Item := do
  let children ← tree.children id
  match children[index]? with
  | some child => tree.item child
  | none => .error (.indexOutOfRange id index children.length)

def parent? (tree : Tree) (id : ItemId) : Option ItemId :=
  (tree.get? id).bind (·.parent)

/-- The name of the root. -/
def name (tree : Tree) : String :=
  ((tree.get? rootId).map (·.name)).getD ""

/-! ## Walking up and down -/

/-- The parents above an item, the nearest first, at most `steps` of them. -/
def ancestorsWithin (tree : Tree) : Nat → ItemId → List ItemId
  | 0, _ => []
  | steps + 1, id =>
    match tree.parent? id with
    | none => []
    | some parent => parent :: tree.ancestorsWithin steps parent

/-- The containers an item is in, from its parent up to the root. -/
def ancestors (tree : Tree) (id : ItemId) : List ItemId :=
  tree.ancestorsWithin tree.size id

/-- An item and what is below it, each item after everything below it. -/
def postorderWithin (tree : Tree) : Nat → ItemId → List ItemId
  | 0, _ => []
  | steps + 1, id =>
    match tree.get? id with
    | none => []
    | some item => item.childIds.flatMap (tree.postorderWithin steps) ++ [id]

/-- An item and what is below it, each item before everything below it and with its depth. -/
def preorderWithin (tree : Tree) (depth : Nat) : Nat → ItemId → List (Nat × Item)
  | 0, _ => []
  | steps + 1, id =>
    match tree.get? id with
    | none => []
    | some item =>
      (depth, item) :: item.childIds.flatMap (tree.preorderWithin (depth + 1) steps)

/-- All items from the root down, each with the number of containers it is in. -/
def outline (tree : Tree) : List (Nat × Item) :=
  tree.preorderWithin 0 tree.size rootId

/-- The tree as text: one line for each item, indented by two spaces for each container it is in. -/
def render (tree : Tree) : String :=
  let lineOf (depth : Nat) (item : Item) : String :=
    String.ofList (List.replicate (2 * depth) ' ') ++ item.line ++ "\n"
  tree.outline.foldl (fun out (depth, item) => out ++ lineOf depth item) ""

/-! ## Listening -/

/-- Whether the client listens to a container. -/
def isListening (tree : Tree) (id : ItemId) : Except Error Bool := do
  let item ← tree.item id
  discard item.children
  return item.isListening

/-- Whether the client listens to an item or to a container it is in. -/
def isListeningInherited (tree : Tree) (id : ItemId) : Bool :=
  (id :: tree.ancestors id).any fun above => (tree.get? above).any (·.isListening)

/-- The containers the client listens to, in ascending order. -/
def listeningContainers (tree : Tree) : List ItemId :=
  (tree.items.toList.filter fun entry => entry.2.isListening).map (·.1)

/-! ## Editing single items -/

/-- Replaces an item by a function of it. -/
def modify (tree : Tree) (id : ItemId) (change : Item → Item) : Tree :=
  { tree with items := tree.items.modify id change }

/-- Queues a change. -/
def note (tree : Tree) (event : TreeEvent) : Tree :=
  { tree with events := tree.events ++ [event] }

/-- Puts a number at the end of a container's children. -/
def attach (tree : Tree) (parent id : ItemId) : Tree :=
  tree.modify parent fun item => item.withChildren (item.childIds ++ [id])

/-- Takes a number out of a container's children. -/
def detach (tree : Tree) (parent id : ItemId) : Tree :=
  tree.modify parent fun item => item.withChildren (item.childIds.filter (· ≠ id))

/-- Takes the queued changes. -/
def takeEvents (tree : Tree) : List TreeEvent × Tree :=
  (tree.events, { tree with events := [] })

end Tree

end Domotics
