import Mathlib.Data.List.Basic
import Domotics.Proofs.Tree.WellFormed
/-!
# What the operations on a tree come to

Each operation either fails, with a cause that is read off the tree before it, or leaves a tree that
is described by its views. The proofs that follow use these descriptions and do not open the
operations again.
-/

namespace Domotics.Tree

variable {tree : Tree} {id x parent : ItemId} {item : Item}

theorem children_eq_ok_iff_kids? {children : List ItemId} :
    tree.children id = .ok children ↔ tree.kids? id = some children :=
  children_eq_ok_iff.trans kids?_eq_some.symm

/-! ## Adding -/

/-- Adding fails if the number is taken, or as looking up the parent does; otherwise it succeeds. -/
theorem add_cases (tree : Tree) (parent : ItemId) (item : Item) :
    (∃ found, tree.get? item.id = some found ∧
        tree.add parent item = .error (.duplicateId item.id)) ∨
      (∃ e, tree.get? item.id = none ∧ tree.children parent = .error e ∧
        tree.add parent item = .error e) ∨
      ∃ children, tree.get? item.id = none ∧ tree.kids? parent = some children ∧
        tree.add parent item = .ok (tree.addUnder parent item) := by
  have taken := tree.contains_eq_isSome item.id
  cases hi : tree.get? item.id with
  | some found =>
    refine Or.inl ⟨found, rfl, ?_⟩
    unfold add
    rw [taken, hi]
    rfl
  | none =>
    refine Or.inr ?_
    cases hc : tree.children parent with
    | error e =>
      refine Or.inl ⟨e, rfl, rfl, ?_⟩
      unfold add
      rw [taken, hi, hc]
      rfl
    | ok children =>
      refine Or.inr ⟨children, rfl, children_eq_ok_iff_kids?.mp hc, ?_⟩
      unfold add
      rw [taken, hi, hc]
      rfl

/-- What is not there yet can be added to every container. -/
theorem add_of_new {children : List ItemId} (hnew : tree.get? item.id = none)
    (hk : tree.kids? parent = some children) :
    tree.add parent item = .ok (tree.addUnder parent item) := by
  unfold add
  rw [contains_eq_isSome, hnew, children_eq_ok_iff_kids?.mpr hk]
  rfl

/-! ## Checking a new parent -/

/-- What an item may be moved under: a container that is there, and that is not the item or below
it as far as the walk up tells. -/
theorem checkParent_cases (tree : Tree) (id parent : ItemId) :
    ((parent = id ∨ id ∈ tree.ancestors parent) ∧
        tree.checkParent id parent =
          .error (.protocol s!"moving item {id} under {parent} would create a cycle")) ∨
      (∃ e, ¬ (parent = id ∨ id ∈ tree.ancestors parent) ∧ tree.children parent = .error e ∧
        tree.checkParent id parent = .error e) ∨
      ∃ children, ¬ (parent = id ∨ id ∈ tree.ancestors parent) ∧
        tree.kids? parent = some children ∧ tree.checkParent id parent = .ok () := by
  by_cases h : parent = id ∨ id ∈ tree.ancestors parent
  · refine Or.inl ⟨h, ?_⟩
    unfold checkParent
    rw [if_pos h]
    rfl
  · refine Or.inr ?_
    cases hc : tree.children parent with
    | error e =>
      refine Or.inl ⟨e, h, rfl, ?_⟩
      unfold checkParent
      rw [if_neg h, hc]
      rfl
    | ok children =>
      refine Or.inr ⟨children, h, children_eq_ok_iff_kids?.mp hc, ?_⟩
      unfold checkParent
      rw [if_neg h, hc]
      rfl

/-- In a well-formed tree an item may move exactly under the containers that are not below it. -/
theorem WellFormed.checkParent_eq_ok_iff (wf : tree.WellFormed) :
    tree.checkParent id parent = .ok () ↔
      ¬ tree.Within id parent ∧ ∃ children, tree.kids? parent = some children := by
  have hwithin : ∀ {children}, tree.kids? parent = some children →
      (parent = id ∨ id ∈ tree.ancestors parent ↔ tree.Within id parent) := by
    intro children hk
    obtain ⟨container, hc, -⟩ := kids?_eq_some.mp hk
    exact wf.mem_ancestors_iff hc
  rcases tree.checkParent_cases id parent with ⟨h, heq⟩ | ⟨e, h, hc, heq⟩ | ⟨children, h, hk, heq⟩
  · rw [heq]
    refine ⟨fun h => (nomatch h), fun ⟨hw, children, hk⟩ => absurd ((hwithin hk).mp h) hw⟩
  · rw [heq]
    refine ⟨fun h => (nomatch h), fun ⟨_, children, hk⟩ => ?_⟩
    rw [children_eq_ok_iff_kids?.mpr hk] at hc
    cases hc
  · exact ⟨fun _ => ⟨fun hw => h ((hwithin hk).mpr hw), children, hk⟩, fun _ => heq⟩

/-! ## Updating -/

/-- What the announcement of an item that is already there can come to. -/
inductive Update (tree : Tree) (parent : ItemId) (item : Item) : Edited → Prop
  | rootMissing (isRoot : item.id = rootId) (absent : tree.get? rootId = none) :
    Update tree parent item ⟨.error (.itemNotFound rootId), tree⟩
  | rootRenamed (isRoot : item.id = rootId) :
    Update tree parent item
      (.done ((tree.modify rootId fun root => rename root item).note (.itemChanged item.id)))
  | missing (other : item.id ≠ rootId) (absent : tree.get? item.id = none) :
    Update tree parent item ⟨.error (.itemNotFound item.id), tree⟩
  | refused {existing : Item} {e : Error} (other : item.id ≠ rootId)
    (found : tree.get? item.id = some existing)
    (leaves : existing.isContainer ≠ item.isContainer ∨ existing.parent ≠ some parent)
    (check : tree.checkParent item.id parent = .error e) :
    Update tree parent item ⟨.error e, tree⟩
  | replaced {existing : Item} (other : item.id ≠ rootId)
    (found : tree.get? item.id = some existing)
    (kind : existing.isContainer ≠ item.isContainer)
    (check : tree.checkParent item.id parent = .ok ()) :
    Update tree parent item (tree.replace parent item)
  | refreshed {existing : Item} (other : item.id ≠ rootId)
    (found : tree.get? item.id = some existing)
    (kind : existing.isContainer = item.isContainer) (stays : existing.parent = some parent) :
    Update tree parent item
      (.done ((tree.modify item.id fun current => refresh current item).note
        (.itemChanged item.id)))
  | moved {existing : Item} (other : item.id ≠ rootId)
    (found : tree.get? item.id = some existing)
    (kind : existing.isContainer = item.isContainer) (leaves : existing.parent ≠ some parent)
    (check : tree.checkParent item.id parent = .ok ()) :
    Update tree parent item
      (.done (((tree.moveUnder item.id parent).modify item.id fun current =>
        refresh current item).note (.itemChanged item.id)))

/-- The root only takes over how it is called. -/
theorem updating_of_root {root : Item} (hid : item.id = rootId)
    (hroot : tree.get? rootId = some root) :
    tree.updating parent item =
      .done ((tree.modify rootId fun root => rename root item).note (.itemChanged rootId)) := by
  unfold updating
  rw [if_pos hid, item_eq_ok hroot, hid]
  rfl

theorem updating_cases (tree : Tree) (parent : ItemId) (item : Item) :
    Update tree parent item (tree.updating parent item) := by
  unfold updating
  by_cases hroot : item.id = rootId
  · rw [if_pos hroot]
    cases hr : tree.get? rootId with
    | none =>
      rw [item_eq_error hr]
      exact .rootMissing hroot hr
    | some root =>
      rw [item_eq_ok hr]
      exact .rootRenamed hroot
  · rw [if_neg hroot]
    cases hi : tree.get? item.id with
    | none =>
      rw [item_eq_error hi]
      exact .missing hroot hi
    | some existing =>
      rw [item_eq_ok hi]
      by_cases hkind : existing.isContainer = item.isContainer
      · by_cases hstays : existing.parent = some parent
        · have h := Update.refreshed hroot hi hkind hstays
          simpa [hkind, hstays, Edited.ofExcept, bind, Except.bind, pure, Except.pure] using h
        · cases hc : tree.checkParent item.id parent with
          | error e =>
            have h := Update.refused hroot hi (Or.inr hstays) hc
            simpa [hkind, hstays, move, hc, Edited.ofExcept, bind, Except.bind] using h
          | ok _ =>
            have h := Update.moved hroot hi hkind hstays hc
            simpa [hkind, hstays, move, hc, Edited.ofExcept, bind, Except.bind, pure,
              Except.pure] using h
      · cases hc : tree.checkParent item.id parent with
        | error e =>
          have h := Update.refused hroot hi (Or.inl hkind) hc
          simpa [hkind, hc, Edited.ofExcept, bind, Except.bind] using h
        | ok _ =>
          have h := Update.replaced hroot hi hkind hc
          simpa [hkind, hc, Edited.ofExcept, bind, Except.bind, pure, Except.pure] using h

/-! ## The views after an edit -/

section Views

variable (tree : Tree) (parent : ItemId) (item : Item) (x : ItemId)

theorem get?_addUnder :
    (tree.addUnder parent item).get? x =
      if x = item.id then some ((item.withChildren []).under parent)
      else (tree.attach parent item.id).get? x :=
  get?_insert item.id x _ _ _

theorem isSome_addUnder :
    ((tree.addUnder parent item).get? x).isSome = true ↔
      x = item.id ∨ (tree.get? x).isSome = true := by
  rw [get?_addUnder]
  split
  · simp_all
  · simp_all [attach, isSome_get?_modify]

theorem parent?_addUnder :
    (tree.addUnder parent item).parent? x =
      if x = item.id then some parent else tree.parent? x := by
  have h := tree.get?_addUnder parent item x
  split at h
  · rw [if_pos ‹_›, parent?_of_get? h]
    rfl
  · rw [if_neg ‹_›, ← tree.parent?_attach item.id x parent, parent?_congr h]

theorem kids?_addUnder :
    (tree.addUnder parent item).kids? x =
      if x = item.id then if item.isContainer then some [] else none
      else if x = parent then (tree.kids? x).map (· ++ [item.id]) else tree.kids? x := by
  have h := tree.get?_addUnder parent item x
  split at h
  · rw [if_pos ‹_›]
    obtain ⟨_, _, _, _, _, _ | _⟩ := item <;> simp [kids?, h] <;> rfl
  · rw [if_neg ‹_›, ← kids?_attach]
    unfold kids?
    rw [h]

theorem own_id_addUnder (own_id : ∀ {x found}, tree.get? x = some found → found.id = x)
    {found : Item} (h : (tree.addUnder parent item).get? x = some found) : found.id = x := by
  rw [get?_addUnder] at h
  split at h
  · obtain rfl := Option.some.inj h
    rw [‹x = item.id›]
    exact item.id_withChildren []
  · exact tree.own_id_modify parent x (fun item => item.id_withChildren _) own_id h

variable (id : ItemId)

/-- Moving an item that has a parent, step by step. -/
theorem moveUnder_eq {old : ItemId} (h : tree.parent? id = some old) :
    tree.moveUnder id parent =
      ((((tree.attach parent id).detach old id).note (.itemRemoved old id)).modify id fun item =>
        item.under parent).note (.itemAdded parent id) := by
  unfold moveUnder
  simp only [parent?_attach, h]

/-- Moving an item changes it and the two containers, if these are three. -/
theorem get?_moveUnder {old : ItemId} (h : tree.parent? id = some old) (hoi : old ≠ id)
    (hpi : parent ≠ id) (hne : old ≠ parent) :
    (tree.moveUnder id parent).get? x =
      if x = id then (tree.get? x).map (·.under parent)
      else if x = parent then
        (tree.get? x).map fun item => item.withChildren (item.childIds ++ [id])
      else if x = old then
        (tree.get? x).map fun item => item.withChildren (item.childIds.filter (· ≠ id))
      else tree.get? x := by
  rw [moveUnder_eq tree parent id h, get?_note, get?_modify, get?_note, detach, get?_modify, attach,
    get?_modify]
  by_cases hx : x = id
  · rw [if_pos hx, if_pos hx, if_neg (hx ▸ hoi.symm), if_neg (hx ▸ hpi.symm)]
  · rw [if_neg hx, if_neg hx]
    by_cases hxp : x = parent
    · rw [if_pos hxp, if_pos hxp, if_neg (hxp ▸ hne.symm)]
    · rw [if_neg hxp, if_neg hxp]

theorem isSome_moveUnder {old : ItemId} (h : tree.parent? id = some old) :
    ((tree.moveUnder id parent).get? x).isSome = (tree.get? x).isSome := by
  rw [moveUnder_eq tree parent id h, get?_note, isSome_get?_modify, get?_note, detach,
    isSome_get?_modify, attach, isSome_get?_modify]

theorem parent?_moveUnder {old : ItemId} (h : tree.parent? id = some old) :
    (tree.moveUnder id parent).parent? x =
      if x = id then some parent else tree.parent? x := by
  rw [moveUnder_eq tree parent id h, parent?_note]
  have hrest : (((tree.attach parent id).detach old id).note (.itemRemoved old id)).parent? x =
      tree.parent? x := by
    rw [parent?_note, parent?_detach, parent?_attach]
  generalize ((tree.attach parent id).detach old id).note (.itemRemoved old id) = left at *
  by_cases hx : x = id
  · subst hx
    rw [if_pos rfl]
    rw [h] at hrest
    obtain ⟨item, hi, -⟩ := parent?_eq_some.mp hrest
    refine parent?_eq_some.mpr ⟨item.under parent, ?_, rfl⟩
    rw [get?_modify, if_pos rfl, hi]
    rfl
  · rw [if_neg hx, ← hrest]
    refine parent?_congr ?_
    rw [get?_modify, if_neg hx]

theorem kids?_moveUnder {old : ItemId} (h : tree.parent? id = some old) (hne : old ≠ parent) :
    (tree.moveUnder id parent).kids? x =
      if x = parent then (tree.kids? x).map (· ++ [id])
      else if x = old then (tree.kids? x).map (·.filter (· ≠ id)) else tree.kids? x := by
  have hkeep : ∀ left : Tree, (left.modify id fun item => item.under parent).kids? x =
      left.kids? x := fun left => left.kids?_modify id x (fun _ => rfl) (fun _ => rfl)
  rw [moveUnder_eq tree parent id h, kids?_note, hkeep, kids?_note, kids?_detach, kids?_attach]
  by_cases hx : x = parent
  · rw [if_pos hx, if_pos hx, if_neg (by rw [hx]; exact hne.symm)]
  · rw [if_neg hx, if_neg hx]

theorem own_id_moveUnder {old : ItemId} (h : tree.parent? id = some old)
    (own_id : ∀ {x found}, tree.get? x = some found → found.id = x) {found : Item}
    (hx : (tree.moveUnder id parent).get? x = some found) : found.id = x := by
  rw [moveUnder_eq tree parent id h, get?_note] at hx
  refine own_id_modify _ id x (fun item => (rfl : (item.under parent).id = item.id)) ?_ hx
  intro y found hy
  refine own_id_modify _ old y (fun item => item.id_withChildren _) ?_ hy
  intro z found hz
  exact own_id_modify _ parent z (fun item => item.id_withChildren _) own_id hz

end Views

/-! ## Removing -/

/-- The walk down sees only what is below its start. -/
theorem WellFormed.postorderWithin_congr (wf : tree.WellFormed) {tree' : Tree} {steps : Nat} :
    ∀ {top : ItemId}, (∀ x, tree.Within top x → tree'.get? x = tree.get? x) →
      tree'.postorderWithin steps top = tree.postorderWithin steps top := by
  induction steps with
  | zero => exact fun _ => rfl
  | succ steps ih =>
    intro top same
    rw [postorderWithin, postorderWithin, same top (.refl tree top)]
    cases ht : tree.get? top with
    | none => rfl
    | some item =>
      have hbelow : ∀ child ∈ item.childIds,
          tree'.postorderWithin steps child = tree.postorderWithin steps child := by
        intro child hchild
        refine ih fun x hx => same x ?_
        obtain ⟨n, hx⟩ := hx
        exact ⟨n + 1, hx.above ((wf.mem_childIds_iff ht).mp hchild)⟩
      simp only [List.flatMap_congr hbelow]

theorem remove_of_eq_root (h : id = rootId) : tree.remove id = ([], tree) := by
  unfold remove
  rw [if_pos h]

theorem remove_of_parent?_eq_none (h : tree.parent? id = none) : tree.remove id = ([], tree) := by
  unfold remove
  rw [h]
  split <;> rfl

/-- Taking an item out of its container leaves everything below the item as it is. -/
theorem WellFormed.get?_detach_of_within (wf : tree.WellFormed) (h : tree.parent? id = some parent)
    (hx : tree.Within id x) : (tree.detach parent id).get? x = tree.get? x := by
  rw [detach, get?_modify, if_neg]
  rintro rfl
  exact wf.not_within_of_parent? h hx

theorem WellFormed.postorderWithin_detach (wf : tree.WellFormed)
    (h : tree.parent? id = some parent) {steps : Nat} :
    (tree.detach parent id).postorderWithin steps id = tree.postorderWithin steps id :=
  wf.postorderWithin_congr fun _ hx => wf.get?_detach_of_within h hx

/-- The numbers that removing an item takes out of the index. -/
theorem WellFormed.mem_removed_iff (wf : tree.WellFormed) (h : tree.parent? id = some parent) :
    x ∈ (tree.detach parent id).postorderWithin tree.size id ↔
      (tree.get? x).isSome = true ∧ tree.Within id x := by
  rw [wf.postorderWithin_detach h, wf.mem_postorderWithin_iff, Option.isSome_iff_exists]

theorem remove_eq (hne : id ≠ rootId) (h : tree.parent? id = some parent) :
    tree.remove id =
      (((tree.detach parent id).postorderWithin tree.size id).filterMap
          (tree.detach parent id).get?,
        { items := ((tree.detach parent id).postorderWithin tree.size id).foldl
            (fun items gone => items.erase gone) (tree.detach parent id).items
          events := tree.events ++
            (((tree.detach parent id).postorderWithin tree.size id).filterMap
              (tree.detach parent id).get?).map fun item =>
                .itemRemoved (item.parent.getD rootId) item.id }) := by
  unfold remove
  rw [if_neg hne, h]

/-- What is removed has the fields that it had in the tree. -/
theorem WellFormed.removed_eq (wf : tree.WellFormed) (hne : id ≠ rootId)
    (h : tree.parent? id = some parent) :
    (tree.remove id).1 = (tree.postorderWithin tree.size id).filterMap tree.get? := by
  rw [remove_eq hne h, wf.postorderWithin_detach h]
  exact List.filterMap_congr fun x hx =>
    wf.get?_detach_of_within h (wf.within_of_mem_postorderWithin hx)

/-- One event is queued for each item that is removed. -/
theorem events_remove_eq (hne : id ≠ rootId) (h : tree.parent? id = some parent) :
    (tree.remove id).2.events = tree.events ++
      (tree.remove id).1.map fun item => .itemRemoved (item.parent.getD rootId) item.id := by
  rw [remove_eq hne h]

/-- Removing an item takes everything out that is below it. -/
theorem WellFormed.get?_remove_of_within (wf : tree.WellFormed) (hne : id ≠ rootId)
    (h : tree.parent? id = some parent) (hx : tree.Within id x) :
    (tree.remove id).2.get? x = none := by
  rw [remove_eq hne h]
  unfold get?
  rw [getElem?_foldl_erase]
  split
  · rfl
  · rename_i hmem
    rw [wf.mem_removed_iff h] at hmem
    have hnone : ¬ ((tree.detach parent id).get? x).isSome = true := by
      rw [detach, isSome_get?_modify]
      exact fun hs => hmem ⟨hs, hx⟩
    exact Option.not_isSome_iff_eq_none.mp hnone

/-- Removing an item leaves everything else, and its parent without it. -/
theorem WellFormed.get?_remove_of_not_within (wf : tree.WellFormed) (hne : id ≠ rootId)
    (h : tree.parent? id = some parent) (hx : ¬ tree.Within id x) :
    (tree.remove id).2.get? x = (tree.detach parent id).get? x := by
  rw [remove_eq hne h]
  unfold get?
  rw [getElem?_foldl_erase, if_neg]
  rw [wf.mem_removed_iff h]
  exact fun hmem => hx hmem.2

theorem WellFormed.parent?_remove (wf : tree.WellFormed) (hne : id ≠ rootId)
    (h : tree.parent? id = some parent) (hx : ¬ tree.Within id x) :
    (tree.remove id).2.parent? x = tree.parent? x := by
  rw [← tree.parent?_detach id x parent, parent?_congr (wf.get?_remove_of_not_within hne h hx)]

theorem WellFormed.kids?_remove (wf : tree.WellFormed) (hne : id ≠ rootId)
    (h : tree.parent? id = some parent) (hx : ¬ tree.Within id x) :
    (tree.remove id).2.kids? x = (tree.detach parent id).kids? x := by
  unfold kids?
  rw [wf.get?_remove_of_not_within hne h hx]

/-- An item that may move and has to leaves another container, and is not above the new one. -/
theorem WellFormed.exists_move (wf : tree.WellFormed) {existing : Item} (hne : item.id ≠ rootId)
    (found : tree.get? item.id = some existing) (leaves : existing.parent ≠ some parent)
    (check : tree.checkParent item.id parent = .ok ()) :
    ∃ old children, tree.parent? item.id = some old ∧ old ≠ parent ∧
      ¬ tree.Within item.id parent ∧ tree.kids? parent = some children := by
  obtain ⟨hapart, children, hk⟩ := wf.checkParent_eq_ok_iff.mp check
  obtain ⟨old, hold⟩ := wf.exists_parent found hne
  refine ⟨old, children, hold, ?_, hapart, hk⟩
  rintro rfl
  exact leaves ((parent?_of_get? found).symm.trans hold)

/-- A device takes the place of a container, or the other way round, whenever it may stand there:
once the old item is gone, nothing can fail any more. -/
theorem WellFormed.replace_eq (wf : tree.WellFormed) {existing : Item} (hne : item.id ≠ rootId)
    (found : tree.get? item.id = some existing)
    (check : tree.checkParent item.id parent = .ok ()) :
    (∃ children, (tree.remove item.id).2.kids? parent = some children) ∧
      (tree.remove item.id).2.get? item.id = none ∧
      tree.replace parent item = .done ((tree.remove item.id).2.addUnder parent item) := by
  obtain ⟨old, hold⟩ := wf.exists_parent found hne
  obtain ⟨hapart, children, hk⟩ := wf.checkParent_eq_ok_iff.mp check
  have hgone := wf.get?_remove_of_within hne hold (.refl tree item.id)
  have hkids : ∃ children, (tree.remove item.id).2.kids? parent = some children := by
    have hstays := wf.get?_remove_of_not_within hne hold hapart
    have hdetach := tree.kids?_detach item.id parent old
    unfold kids? at hdetach ⊢
    rw [hstays, hdetach]
    unfold kids? at hk
    rw [hk]
    split <;> exact ⟨_, rfl⟩
  refine ⟨hkids, hgone, ?_⟩
  obtain ⟨children', hk'⟩ := hkids
  simp only [replace]
  rw [add_of_new hgone hk']
  rfl

/-- An announcement that is refused leaves a well-formed tree as it was. -/
theorem WellFormed.updating_of_error (wf : tree.WellFormed) {e : Error}
    (h : (tree.updating parent item).result = .error e) :
    (tree.updating parent item).tree = tree := by
  have hcases := tree.updating_cases parent item
  generalize tree.updating parent item = edited at h hcases
  cases hcases with
  | rootMissing _ _ => rfl
  | missing _ _ => rfl
  | refused _ _ _ _ => rfl
  | rootRenamed _ => cases h
  | refreshed _ _ _ _ => cases h
  | moved _ _ _ _ _ => cases h
  | replaced other found _ check =>
    obtain ⟨-, -, heq⟩ := wf.replace_eq other found check
    rw [heq] at h
    cases h

theorem announcing_cases (tree : Tree) (parent : ItemId) (item : Item) :
    (∃ found, tree.get? item.id = some found ∧
        tree.announcing parent item = tree.updating parent item) ∨
      (∃ e, tree.get? item.id = none ∧ tree.add parent item = .error e ∧
        tree.announcing parent item = ⟨.error e, tree⟩) ∨
      ∃ children, tree.get? item.id = none ∧ tree.kids? parent = some children ∧
        tree.announcing parent item = .done (tree.addUnder parent item) := by
  have known := tree.contains_eq_isSome item.id
  unfold announcing
  rw [known]
  cases hi : tree.get? item.id with
  | some found => exact Or.inl ⟨found, rfl, rfl⟩
  | none =>
    refine Or.inr ?_
    rcases tree.add_cases parent item with ⟨found, hf, -⟩ | ⟨e, -, -, hadd⟩ |
      ⟨children, -, hk, hadd⟩
    · rw [hi] at hf
      cases hf
    · exact Or.inl ⟨e, rfl, hadd, by rw [hadd]; rfl⟩
    · exact Or.inr ⟨children, rfl, hk, by rw [hadd]; rfl⟩

/-- The root that is announced takes over how it is called. -/
theorem announcing_of_root {root : Item} (hid : item.id = rootId)
    (hroot : tree.get? rootId = some root) :
    tree.announcing parent item =
      .done ((tree.modify rootId fun root => rename root item).note (.itemChanged rootId)) := by
  unfold announcing
  rw [contains_eq_isSome, hid, hroot, Option.isSome_some, if_pos rfl]
  exact updating_of_root hid hroot

/-- An item that is not there yet and is announced under a container is added to it. -/
theorem announcing_of_new {children : List ItemId} (hnew : tree.get? item.id = none)
    (hk : tree.kids? parent = some children) :
    tree.announcing parent item = .done (tree.addUnder parent item) := by
  unfold announcing
  rw [contains_eq_isSome, hnew, add_of_new hnew hk]
  rfl

theorem WellFormed.announcing_of_error (wf : tree.WellFormed) {e : Error}
    (h : (tree.announcing parent item).result = .error e) :
    (tree.announcing parent item).tree = tree := by
  rcases tree.announcing_cases parent item with ⟨-, -, heq⟩ | ⟨e, -, -, heq⟩ | ⟨_, -, -, heq⟩
  · rw [heq] at h ⊢
    exact wf.updating_of_error h
  · rw [heq]
  · rw [heq] at h
    cases h

/-! ## Values and listening marks -/

section Marks

variable {tree' : Tree}

theorem setBinary_eq_ok {on : Bool} (h : tree.setBinary id on = .ok tree') :
    tree' = (tree.modify id fun item => item.withValue (.binary on)).note (.itemChanged id) := by
  obtain ⟨item, -, h⟩ := bind_eq_ok_iff.mp h
  obtain ⟨-, -, h⟩ := bind_eq_ok_iff.mp h
  exact (Except.ok.inj h).symm

theorem setDecimal_eq_ok {value : Binary64} (h : tree.setDecimal id value = .ok tree') :
    ∃ quantity, tree' =
      (tree.modify id fun item => item.withValue (.decimal quantity)).note (.itemChanged id) := by
  obtain ⟨item, -, h⟩ := bind_eq_ok_iff.mp h
  obtain ⟨quantity, -, h⟩ := bind_eq_ok_iff.mp h
  exact ⟨{ quantity with value }, (Except.ok.inj h).symm⟩

theorem isListening_eq_ok_iff {listening : Bool} :
    tree.isListening id = .ok listening ↔
      ∃ item, tree.get? id = some item ∧ item.isContainer = true ∧
        item.isListening = listening := by
  constructor
  · intro h
    obtain ⟨item, hi, h⟩ := bind_eq_ok_iff.mp h
    obtain ⟨_, hc, h⟩ := bind_eq_ok_iff.mp h
    obtain ⟨children, hc⟩ := discard_eq_ok_iff.mp hc
    exact ⟨item, get?_of_item_eq_ok hi, (Item.children_eq_ok_iff.mp hc).1, Except.ok.inj h⟩
  · rintro ⟨item, hi, hc, rfl⟩
    refine bind_eq_ok_iff.mpr ⟨item, item_eq_ok hi, bind_eq_ok_iff.mpr ⟨(), ?_, rfl⟩⟩
    exact discard_eq_ok_iff.mpr ⟨_, Item.children_eq_ok_iff.mpr ⟨hc, rfl⟩⟩

/-- Setting a listening mark fails as reading it does, finds it as wanted, or changes it. -/
theorem setListening_cases (tree : Tree) (id : ItemId) (listening : Bool) :
    (∃ e, tree.isListening id = .error e ∧ tree.setListening id listening = .error e) ∨
      (tree.isListening id = .ok listening ∧
        tree.setListening id listening = .ok (false, tree)) ∨
      (tree.isListening id = .ok (!listening) ∧ tree.setListening id listening =
        .ok (true, (tree.modify id fun item => item.withListening listening).note
          (.listeningChanged id listening))) := by
  unfold setListening
  cases hl : tree.isListening id with
  | error e => exact Or.inl ⟨e, rfl, rfl⟩
  | ok now =>
    refine Or.inr ?_
    by_cases h : now = listening
    · subst h
      refine Or.inl ⟨rfl, ?_⟩
      simp only [bind, Except.bind, if_pos]
      rfl
    · have hnow : now = !listening := Bool.eq_not.mpr h
      refine Or.inr ⟨by rw [hnow], ?_⟩
      simp only [bind, Except.bind, if_neg h]
      rfl

end Marks

end Domotics.Tree
