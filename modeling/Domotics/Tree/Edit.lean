import Domotics.Tree.Basic
/-!
# Changing the tree

Items are added, removed, announced again, given values and listened to. An operation that checks
everything before it changes anything returns the cause of its failure and no tree. One that can
fail in the middle returns the tree it leaves as well. Everything that succeeds queues what
happened: one event for each item that came, went, moved (it goes and comes) or changed.
-/

namespace Domotics.Tree

/-- Puts a new item at the end of a container. It comes without children, whatever it had before. -/
def addUnder (tree : Tree) (parent : ItemId) (item : Item) : Tree :=
  let attached := tree.attach parent item.id
  let added := (item.withChildren []).under parent
  { attached with items := attached.items.insert item.id added }.note (.itemAdded parent item.id)

/-- Adds an item at the end of a container. -/
def add (tree : Tree) (parent : ItemId) (item : Item) : Except Error Tree := do
  if tree.contains item.id then throw (.duplicateId item.id)
  discard (tree.children parent)
  return tree.addUnder parent item

/-- Removes an item and everything below it, and returns the items removed, each after what was
below it. The root and unknown items stay away from harm: nothing is removed. -/
def remove (tree : Tree) (id : ItemId) : List Item × Tree :=
  if id = rootId then ([], tree)
  else
    match tree.parent? id with
    | none => ([], tree)
    | some parent =>
      let detached := tree.detach parent id
      let ids := detached.postorderWithin tree.size id
      let removed := ids.filterMap detached.get?
      (removed,
        { items := ids.foldl (fun items gone => items.erase gone) detached.items
          events := tree.events ++
            removed.map fun item => .itemRemoved (item.parent.getD rootId) item.id })

/-- Whether an item may stand under a container: not under itself or below itself, and only under
something that is there and is a container. -/
def checkParent (tree : Tree) (id parent : ItemId) : Except Error Unit := do
  if parent = id ∨ id ∈ tree.ancestors parent then
    throw (.protocol s!"moving item {id} under {parent} would create a cycle")
  discard (tree.children parent)

/-- Takes an item with everything below it to the end of another container. -/
def moveUnder (tree : Tree) (id parent : ItemId) : Tree :=
  let attached := tree.attach parent id
  let left := match attached.parent? id with
    | none => attached
    | some old => (attached.detach old id).note (.itemRemoved old id)
  (left.modify id fun item => item.under parent).note (.itemAdded parent id)

/-- Moves an item with everything below it to the end of another container. -/
def move (tree : Tree) (id parent : ItemId) : Except Error Tree := do
  tree.checkParent id parent
  return tree.moveUnder id parent

/-- What an operation made of a tree that can fail in the middle: whether it failed, and the tree it
leaves, with what was done to it before. -/
structure Edited where
  result : Except Error Unit
  tree : Tree

namespace Edited

/-- Nothing failed. -/
def done (tree : Tree) : Edited :=
  ⟨.ok (), tree⟩

/-- The outcome of an operation that leaves the tree as it was if it is refused. -/
def ofExcept (tree : Tree) : Except Error Edited → Edited
  | .ok edited => edited
  | .error e => ⟨.error e, tree⟩

/-- The tree, if nothing failed. -/
def toExcept (edited : Edited) : Except Error Tree :=
  edited.result.map fun _ => edited.tree

end Edited

/-- Puts an item in the place of one with its number, which goes with everything below it. Where
the new one cannot be added, the old one is gone all the same. -/
def replace (tree : Tree) (parent : ItemId) (item : Item) : Edited :=
  let removed := (tree.remove item.id).2
  .ofExcept removed ((removed.add parent item).map .done)

/-- Takes over name, description and the internal mark, and nothing else. -/
def rename (current announced : Item) : Item :=
  { current with
    name := announced.name
    description := announced.description
    internal := announced.internal }

/-- Takes over name, description and the internal mark, and the role and value of a device. -/
def refresh (current announced : Item) : Item :=
  { rename current announced with
    kind := match current.kind, announced.kind with
      | .device _ _, .device role value => .device role value
      | kind, _ => kind }

/-- Applies the announcement of an item that is already there. The root only takes over how it is
called. A container that is announced as a device, or the other way round, is replaced and loses
what was below it; any other item keeps its children and its listening mark, and moves if it is
announced under another container. -/
def updating (tree : Tree) (parent : ItemId) (item : Item) : Edited :=
  .ofExcept tree do
    let id := item.id
    if id = rootId then
      discard (tree.item rootId)
      return .done ((tree.modify rootId fun root => rename root item).note (.itemChanged id))
    let existing ← tree.item id
    if existing.isContainer ≠ item.isContainer then
      tree.checkParent id parent
      return tree.replace parent item
    else
      let placed ← if existing.parent = some parent then pure tree else tree.move id parent
      return .done ((placed.modify id fun current => refresh current item).note (.itemChanged id))

/-- Applies the announcement of an item: adds it, or updates it if its number is known. -/
def announcing (tree : Tree) (parent : ItemId) (item : Item) : Edited :=
  if tree.contains item.id then tree.updating parent item
  else .ofExcept tree ((tree.add parent item).map .done)

/-- The tree after the announcement of an item that is already there, if it could be applied. -/
def update (tree : Tree) (parent : ItemId) (item : Item) : Except Error Tree :=
  (tree.updating parent item).toExcept

/-- The tree after the announcement of an item, if it could be applied. -/
def announce (tree : Tree) (parent : ItemId) (item : Item) : Except Error Tree :=
  (tree.announcing parent item).toExcept

/-- Renames the root. -/
def setName (tree : Tree) (name : String) : Tree :=
  tree.modify rootId fun root => { root with name }

/-- Gives a binary device a value. -/
def setBinary (tree : Tree) (id : ItemId) (on : Bool) : Except Error Tree := do
  discard (← tree.item id).binaryValue
  return (tree.modify id fun item => item.withValue (.binary on)).note (.itemChanged id)

/-- Gives a decimal device a value; its range and unit stay. -/
def setDecimal (tree : Tree) (id : ItemId) (value : Binary64) : Except Error Tree := do
  let quantity ← (← tree.item id).quantity
  return (tree.modify id fun item => item.withValue (.decimal { quantity with value })).note
    (.itemChanged id)

/-- Gives a device a value; the range and unit of a decimal device stay. -/
def setValue (tree : Tree) (id : ItemId) : DeviceValue → Except Error Tree
  | .binary on => tree.setBinary id on
  | .decimal quantity => tree.setDecimal id quantity.value

/-- Marks a container as listened to or not, and tells whether that changed anything. -/
def setListening (tree : Tree) (id : ItemId) (listening : Bool) : Except Error (Bool × Tree) := do
  if (← tree.isListening id) = listening then return (false, tree)
  return (true, (tree.modify id fun item => item.withListening listening).note
    (.listeningChanged id listening))

end Domotics.Tree
