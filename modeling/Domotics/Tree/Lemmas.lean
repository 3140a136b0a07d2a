import Domotics.Tree.Edit
/-!
# Looking up after edits

What is found under a number after each of the single edits that the operations on a tree are made
of. A tree is looked at through `Tree.get?` alone, so these equations are all that is used of the
index.
-/

namespace Domotics.Tree

section Lookup

variable (tree : Tree) (id x : ItemId)

@[simp] theorem contains_eq_isSome : tree.contains x = (tree.get? x).isSome :=
  Std.ExtTreeMap.contains_eq_isSome_getElem?

theorem mem_keys_iff : x ∈ tree.items.keys ↔ ∃ item, tree.get? x = some item := by
  rw [Std.ExtTreeMap.mem_keys, Std.ExtTreeMap.mem_iff_isSome_getElem?, Option.isSome_iff_exists]
  rfl

@[simp] theorem get?_note (event : TreeEvent) : (tree.note event).get? x = tree.get? x :=
  rfl

theorem get?_modify (change : Item → Item) :
    (tree.modify id change).get? x = if x = id then (tree.get? x).map change else tree.get? x := by
  unfold modify get?
  rw [Std.ExtTreeMap.getElem?_modify]
  by_cases h : x = id
  · subst h
    simp
  · rw [if_neg h, if_neg]
    intro hc
    exact h (Std.LawfulEqCmp.eq_of_compare hc).symm

theorem get?_insert (items : Std.ExtTreeMap ItemId Item) (events : List TreeEvent) (item : Item) :
    get? ⟨items.insert id item, events⟩ x = if x = id then some item else items[x]? := by
  unfold get?
  rw [Std.ExtTreeMap.getElem?_insert]
  by_cases h : x = id
  · subst h
    simp
  · rw [if_neg h, if_neg]
    intro hc
    exact h (Std.LawfulEqCmp.eq_of_compare hc).symm

theorem get?_empty : empty.get? x =
    if x = rootId then some (.ofContainer rootId "Central unit" "" false) else none :=
  (get?_insert rootId x ∅ [] _).trans (by rw [Std.ExtTreeMap.getElem?_empty])

/-- Erasing numbers one after the other leaves the items under the other numbers. -/
theorem getElem?_foldl_erase (ids : List ItemId) (items : Std.ExtTreeMap ItemId Item) :
    (ids.foldl (fun items gone => items.erase gone) items)[x]? =
      if x ∈ ids then none else items[x]? := by
  induction ids generalizing items with
  | nil => simp
  | cons id ids ih =>
    rw [List.foldl_cons, ih, Std.ExtTreeMap.getElem?_erase]
    by_cases h : x = id
    · subst h
      simp
    · have hc : ¬ compare id x = .eq := fun hc => h (Std.LawfulEqCmp.eq_of_compare hc).symm
      simp [h, hc]

end Lookup

/-! ## Looking up items that must be there -/

variable {tree : Tree} {id : ItemId} {item : Item}

/-- A new tree holds the root alone. -/
theorem eq_of_get?_empty (h : empty.get? id = some item) :
    id = rootId ∧ item = .ofContainer rootId "Central unit" "" false := by
  rw [get?_empty] at h
  split at h
  · exact ⟨‹_›, (Option.some.inj h).symm⟩
  · cases h

theorem parent?_eq_some {parent : ItemId} :
    tree.parent? id = some parent ↔
      ∃ item, tree.get? id = some item ∧ item.parent = some parent := by
  unfold parent?
  rw [Option.bind_eq_some_iff]

theorem parent?_of_get? (h : tree.get? id = some item) : tree.parent? id = item.parent := by
  unfold parent?
  rw [h]
  rfl

theorem parent?_of_get?_eq_none (h : tree.get? id = none) : tree.parent? id = none := by
  unfold parent?
  rw [h]
  rfl

/-- What is found under a number tells its parent. -/
theorem parent?_congr {tree' : Tree} (h : tree'.get? id = tree.get? id) :
    tree'.parent? id = tree.parent? id := by
  unfold parent?
  rw [h]

/-- What names a parent is there. -/
theorem isSome_of_parent? {parent : ItemId} (h : tree.parent? id = some parent) :
    (tree.get? id).isSome = true := by
  obtain ⟨item, hi, -⟩ := parent?_eq_some.mp h
  rw [hi]
  rfl

theorem item_eq_ok (h : tree.get? id = some item) : tree.item id = .ok item := by
  unfold Tree.item
  rw [h]

theorem get?_of_item_eq_ok (h : tree.item id = .ok item) : tree.get? id = some item := by
  unfold Tree.item at h
  split at h <;> simp_all

theorem item_eq_error (h : tree.get? id = none) : tree.item id = .error (.itemNotFound id) := by
  unfold Tree.item
  rw [h]

/-- The children are those of a container that is there. -/
theorem children_eq_ok_iff {children : List ItemId} :
    tree.children id = .ok children ↔
      ∃ item, tree.get? id = some item ∧ item.isContainer = true ∧ item.childIds = children := by
  unfold Tree.children
  constructor
  · intro h
    cases hi : tree.item id with
    | error e =>
      rw [hi] at h
      cases h
    | ok item =>
      rw [hi] at h
      exact ⟨item, get?_of_item_eq_ok hi, Item.children_eq_ok_iff.mp h⟩
  · rintro ⟨item, hi, hc⟩
    rw [item_eq_ok hi]
    exact Item.children_eq_ok_iff.mpr hc

/-! ## Parents and children after edits

`kids?` is the list of children of a container that is there, so that `parent?` and `kids?` are the
two directions of a tree.
-/

/-- The children of an item, if it is there and is a container. -/
def kids? (tree : Tree) (id : ItemId) : Option (List ItemId) :=
  (tree.get? id).bind fun item => if item.isContainer then some item.childIds else none

theorem kids?_eq_some {children : List ItemId} :
    tree.kids? id = some children ↔
      ∃ item, tree.get? id = some item ∧ item.isContainer = true ∧ item.childIds = children := by
  unfold kids?
  simp only [Option.bind_eq_some_iff, Option.ite_none_right_eq_some, Option.some.injEq]

theorem isSome_of_kids? {children : List ItemId} (h : tree.kids? id = some children) :
    (tree.get? id).isSome = true := by
  obtain ⟨item, hi, -⟩ := kids?_eq_some.mp h
  rw [hi]
  rfl

/-- What an edit that only concerns single items does not touch: the numbers they are found under,
their numbers, parents and children. -/
structure SameLinks (tree tree' : Tree) : Prop where
  isSome : ∀ x, (tree'.get? x).isSome = (tree.get? x).isSome
  parent? : ∀ x, tree'.parent? x = tree.parent? x
  kids? : ∀ x, tree'.kids? x = tree.kids? x
  own_id : (∀ {x item}, tree.get? x = some item → item.id = x) →
    ∀ {x item}, tree'.get? x = some item → item.id = x

section Edits

variable (tree : Tree) (id x parent : ItemId)

@[simp] theorem parent?_note (event : TreeEvent) : (tree.note event).parent? x = tree.parent? x :=
  rfl

@[simp] theorem kids?_note (event : TreeEvent) : (tree.note event).kids? x = tree.kids? x :=
  rfl

theorem isSome_get?_modify (change : Item → Item) :
    ((tree.modify id change).get? x).isSome = (tree.get? x).isSome := by
  rw [get?_modify]
  split <;> simp

theorem own_id_modify {change : Item → Item} (hid : ∀ item, (change item).id = item.id)
    (h : ∀ {x item}, tree.get? x = some item → item.id = x) {item : Item}
    (hx : (tree.modify id change).get? x = some item) : item.id = x := by
  rw [get?_modify] at hx
  split at hx
  · obtain ⟨before, hb, rfl⟩ := Option.map_eq_some_iff.mp hx
    rw [hid]
    exact h hb
  · exact h hx

theorem parent?_modify {change : Item → Item} (h : ∀ item, (change item).parent = item.parent) :
    (tree.modify id change).parent? x = tree.parent? x := by
  unfold parent?
  rw [get?_modify]
  split
  · cases tree.get? x <;> simp [h]
  · rfl

theorem kids?_modify {change : Item → Item}
    (hc : ∀ item, (change item).isContainer = item.isContainer)
    (hk : ∀ item, (change item).childIds = item.childIds) :
    (tree.modify id change).kids? x = tree.kids? x := by
  unfold kids?
  rw [get?_modify]
  split
  · cases tree.get? x <;> simp [hc, hk]
  · rfl

theorem parent?_attach : (tree.attach parent id).parent? x = tree.parent? x :=
  tree.parent?_modify parent x fun item => item.parent_withChildren _

theorem parent?_detach : (tree.detach parent id).parent? x = tree.parent? x :=
  tree.parent?_modify parent x fun item => item.parent_withChildren _

theorem kids?_attach :
    (tree.attach parent id).kids? x =
      if x = parent then (tree.kids? x).map (· ++ [id]) else tree.kids? x := by
  unfold kids? attach
  rw [get?_modify]
  split
  · cases tree.get? x with
    | none => rfl
    | some item =>
      by_cases hc : item.isContainer = true <;> simp [Item.childIds_withChildren, hc]
  · rfl

theorem kids?_detach :
    (tree.detach parent id).kids? x =
      if x = parent then (tree.kids? x).map (·.filter (· ≠ id)) else tree.kids? x := by
  unfold kids? detach
  rw [get?_modify]
  split
  · cases tree.get? x with
    | none => rfl
    | some item =>
      by_cases hc : item.isContainer = true <;> simp [Item.childIds_withChildren, hc]
  · rfl

/-- A change of one item that keeps its number, parent and children keeps all links. -/
theorem sameLinks_modify {change : Item → Item} (hid : ∀ item, (change item).id = item.id)
    (hp : ∀ item, (change item).parent = item.parent)
    (hc : ∀ item, (change item).isContainer = item.isContainer)
    (hk : ∀ item, (change item).childIds = item.childIds) :
    SameLinks tree (tree.modify id change) where
  isSome x := tree.isSome_get?_modify id x change
  parent? x := tree.parent?_modify id x hp
  kids? x := tree.kids?_modify id x hc hk
  own_id h := fun hx => tree.own_id_modify id _ hid h hx

end Edits

end Domotics.Tree
