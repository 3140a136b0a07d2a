import Domotics.Proofs.Tree.Preservation
/-!
# What is queued does not matter

An edit looks at the items of a tree and adds to the end of its queue. So it makes the same of the
items, fails with the same cause and queues the same events, whichever other events are queued
before its own: each operation commutes with putting a tree `behind` events.

Events that were taken from a tree can be put back before it (`behind_takeEvents`), so a tree whose
events are taken now and then is compared with one whose events are never taken (`run_behind`).
-/

namespace Domotics.Tree

/-- The tree with other events queued before its own. -/
def behind (tree : Tree) (events : List TreeEvent) : Tree :=
  { tree with events := events ++ tree.events }

variable (tree : Tree) (events : List TreeEvent)

theorem behind_behind (events' : List TreeEvent) :
    (tree.behind events').behind events = tree.behind (events ++ events') := by
  simp only [behind, List.append_assoc]

/-- Taken events are behind the tree that they were taken from. -/
theorem behind_takeEvents : tree.takeEvents.2.behind tree.takeEvents.1 = tree := by
  simp only [behind, takeEvents, List.append_nil]

@[simp] theorem behind_mk (items : Std.ExtTreeMap ItemId Item) (events' : List TreeEvent) :
    behind ⟨items, events'⟩ events = ⟨items, events ++ events'⟩ :=
  rfl

@[simp] theorem items_behind : (tree.behind events).items = tree.items :=
  rfl

@[simp] theorem events_behind : (tree.behind events).events = events ++ tree.events :=
  rfl

@[simp] theorem get?_behind : (tree.behind events).get? = tree.get? :=
  rfl

@[simp] theorem contains_behind : (tree.behind events).contains = tree.contains :=
  rfl

@[simp] theorem size_behind : (tree.behind events).size = tree.size :=
  rfl

@[simp] theorem item_behind : (tree.behind events).item = tree.item :=
  rfl

@[simp] theorem children_behind : (tree.behind events).children = tree.children :=
  rfl

@[simp] theorem parent?_behind : (tree.behind events).parent? = tree.parent? :=
  rfl

@[simp] theorem isListening_behind : (tree.behind events).isListening = tree.isListening :=
  rfl

@[simp] theorem modify_behind (id : ItemId) (change : Item → Item) :
    (tree.behind events).modify id change = (tree.modify id change).behind events :=
  rfl

@[simp] theorem attach_behind (parent id : ItemId) :
    (tree.behind events).attach parent id = (tree.attach parent id).behind events :=
  rfl

@[simp] theorem detach_behind (parent id : ItemId) :
    (tree.behind events).detach parent id = (tree.detach parent id).behind events :=
  rfl

@[simp] theorem note_behind (event : TreeEvent) :
    (tree.behind events).note event = (tree.note event).behind events := by
  simp only [note, behind, List.append_assoc]

@[simp] theorem ancestors_behind (id : ItemId) :
    (tree.behind events).ancestors id = tree.ancestors id := by
  have hwithin : ∀ steps id,
      (tree.behind events).ancestorsWithin steps id = tree.ancestorsWithin steps id := by
    intro steps
    induction steps with
    | zero => exact fun _ => rfl
    | succ steps ih => simp only [ancestorsWithin, parent?_behind, ih, implies_true]
  exact hwithin tree.size id

@[simp] theorem postorderWithin_behind (steps : Nat) :
    (tree.behind events).postorderWithin steps = tree.postorderWithin steps := by
  induction steps with
  | zero => rfl
  | succ steps ih =>
    funext id
    simp only [postorderWithin, get?_behind, ih]

theorem addUnder_behind (parent : ItemId) (item : Item) :
    (tree.behind events).addUnder parent item = (tree.addUnder parent item).behind events := by
  simp [addUnder, behind, note, attach, modify]

theorem add_behind (parent : ItemId) (item : Item) :
    (tree.behind events).add parent item = (tree.add parent item).map (·.behind events) := by
  simp only [add, contains_behind, children_behind, addUnder_behind]
  split
  · rfl
  · cases tree.children parent <;> rfl

theorem remove_behind (id : ItemId) :
    (tree.behind events).remove id =
      ((tree.remove id).1, (tree.remove id).2.behind events) := by
  simp only [remove, parent?_behind]
  split
  · rfl
  · cases tree.parent? id with
    | none => rfl
    | some parent => simp

theorem checkParent_behind (id parent : ItemId) :
    (tree.behind events).checkParent id parent = tree.checkParent id parent := by
  simp only [checkParent, ancestors_behind, children_behind]

theorem moveUnder_behind (id parent : ItemId) :
    (tree.behind events).moveUnder id parent = (tree.moveUnder id parent).behind events := by
  simp only [moveUnder, attach_behind, parent?_behind, detach_behind, note_behind]
  cases (tree.attach parent id).parent? id <;> simp

theorem move_behind (id parent : ItemId) :
    (tree.behind events).move id parent = (tree.move id parent).map (·.behind events) := by
  simp only [move, checkParent_behind, moveUnder_behind]
  cases tree.checkParent id parent <;> rfl

/-- The outcome of an operation on a tree with other events queued before its own. -/
def Edited.behind (edited : Edited) (events : List TreeEvent) : Edited :=
  ⟨edited.result, edited.tree.behind events⟩

theorem ofExcept_behind (outcome : Except Error Edited) :
    Edited.ofExcept (tree.behind events) (outcome.map (·.behind events)) =
      (Edited.ofExcept tree outcome).behind events := by
  cases outcome <;> rfl

theorem replace_behind (parent : ItemId) (item : Item) :
    (tree.behind events).replace parent item = (tree.replace parent item).behind events := by
  simp only [replace, remove_behind, add_behind]
  cases (tree.remove item.id).2.add parent item <;> rfl

theorem updating_behind (parent : ItemId) (item : Item) :
    (tree.behind events).updating parent item = (tree.updating parent item).behind events := by
  unfold updating
  rw [← ofExcept_behind]
  refine congrArg _ ?_
  simp only [item_behind, checkParent_behind, replace_behind, move_behind, modify_behind,
    note_behind]
  split
  · cases tree.item rootId <;> rfl
  · cases tree.item item.id with
    | error e => rfl
    | ok existing =>
      dsimp only [bind, Except.bind]
      split
      · cases tree.checkParent item.id parent <;> rfl
      · split
        · simp [pure, Except.pure, Except.map, Edited.done, Edited.behind]
        · cases tree.move item.id parent with
          | error e => rfl
          | ok placed => simp [pure, Except.pure, Except.map, Edited.done, Edited.behind]

theorem announcing_behind (parent : ItemId) (item : Item) :
    (tree.behind events).announcing parent item = (tree.announcing parent item).behind events := by
  simp only [announcing, contains_behind, updating_behind, add_behind]
  split
  · rfl
  · cases tree.add parent item <;> rfl

theorem setBinary_behind (id : ItemId) (on : Bool) :
    (tree.behind events).setBinary id on = (tree.setBinary id on).map (·.behind events) := by
  simp only [setBinary, item_behind, modify_behind, note_behind]
  cases tree.item id with
  | error e => rfl
  | ok item =>
    dsimp only [bind, Except.bind]
    cases discard item.binaryValue <;> rfl

theorem setDecimal_behind (id : ItemId) (value : Binary64) :
    (tree.behind events).setDecimal id value =
      (tree.setDecimal id value).map (·.behind events) := by
  simp only [setDecimal, item_behind, modify_behind, note_behind]
  cases tree.item id with
  | error e => rfl
  | ok item =>
    dsimp only [bind, Except.bind]
    cases item.quantity <;> rfl

theorem setListening_behind (id : ItemId) (listening : Bool) :
    (tree.behind events).setListening id listening =
      (tree.setListening id listening).map fun outcome => (outcome.1, outcome.2.behind events) := by
  simp only [setListening, isListening_behind, modify_behind, note_behind]
  cases tree.isListening id with
  | error e => rfl
  | ok now =>
    dsimp only [bind, Except.bind]
    split <;> rfl

theorem mutate_behind (mutation : Mutation) :
    (tree.behind events).mutate mutation = (tree.mutate mutation).behind events := by
  cases mutation with
  | add parent item =>
    simp only [mutate, add_behind]
    cases tree.add parent item <;> rfl
  | remove id =>
    simp only [mutate, remove_behind]
    rfl
  | announce parent item => exact tree.announcing_behind events parent item
  | update parent item => exact tree.updating_behind events parent item
  | setName name => rfl
  | setBinary id on =>
    simp only [mutate, setBinary_behind]
    cases tree.setBinary id on <;> rfl
  | setDecimal id value =>
    simp only [mutate, setDecimal_behind]
    cases tree.setDecimal id value <;> rfl
  | setListening id listening =>
    simp only [mutate, setListening_behind]
    cases tree.setListening id listening <;> rfl

/-- Whatever is done to a tree, the events that are queued before its own stay there. -/
theorem run_behind (mutations : List Mutation) :
    (tree.behind events).run mutations = (tree.run mutations).behind events := by
  induction mutations generalizing tree with
  | nil => rfl
  | cons mutation mutations ih =>
    simp only [run, List.foldl_cons, mutate_behind] at ih ⊢
    exact ih _

end Domotics.Tree
