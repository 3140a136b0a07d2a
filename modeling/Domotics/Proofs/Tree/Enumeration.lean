import Domotics.Proofs.Tree.WellFormed
/-!
# Going through a tree

An order of the items of a tree in which they can be told to somebody who knows nothing of it has
no item before its parent and the children of each container as the container lists them: the items
below the root in such an order enumerate the tree (`Tree.Enumerates`), and with the root anywhere
among them they present it (`Tree.Presents`, `Enumerates.presents`).

Every well-formed tree has such an order: the outline is one (`WellFormed.enumerates_outline`). It
visits the same items as the walk down that has each item after what is below it
(`WellFormed.preorderWithin_perm`), so what that walk visits need not be proved again.
-/

namespace Domotics.Tree

variable {tree : Tree} {items : List Item} {item root : Item} {id top : ItemId}

/-- The items of a tree but for the root, one after the other: none comes before its parent, and the
children of a container come in their order. -/
structure Enumerates (tree : Tree) (items : List Item) : Prop where
  mem_iff : ∀ item, item ∈ items ↔ tree.get? item.id = some item ∧ item.id ≠ rootId
  nodup : items.Nodup
  parents : items.Pairwise fun earlier later => earlier.parent ≠ some later.id
  siblings : ∀ {id container}, tree.get? id = some container →
    container.childIds.Sublist (items.map (·.id))

/-- All items of a tree one after the other, with the root anywhere. -/
structure Presents (tree : Tree) (items : List Item) : Prop where
  mem_iff : ∀ item, item ∈ items ↔ tree.get? item.id = some item
  nodup : (items.map (·.id)).Nodup
  parents : items.Pairwise fun earlier later =>
    later.id ≠ rootId → earlier.parent ≠ some later.id
  siblings : ∀ {id container}, tree.get? id = some container →
    container.childIds.Sublist (items.map (·.id))

theorem mem_toList_iff : (id, item) ∈ tree.items.toList ↔ tree.get? id = some item :=
  Std.ExtTreeMap.mem_toList_iff_getElem?_eq_some

instance (tree : Tree) (items : List Item) : Decidable (tree.Enumerates items) :=
  decidable_of_iff
    ((∀ item ∈ items, tree.get? item.id = some item ∧ item.id ≠ rootId) ∧
      (∀ entry ∈ tree.items.toList, entry.1 = entry.2.id ∧ entry.1 ≠ rootId → entry.2 ∈ items) ∧
      items.Nodup ∧ (items.Pairwise fun earlier later => earlier.parent ≠ some later.id) ∧
      ∀ entry ∈ tree.items.toList, entry.2.childIds.Sublist (items.map (·.id))) <| by
    constructor
    · rintro ⟨hthere, hall, hnodup, hparents, hsiblings⟩
      refine ⟨fun item => ⟨hthere item, fun ⟨hget, hne⟩ => ?_⟩, hnodup, hparents, fun hget => ?_⟩
      · exact hall (item.id, item) (mem_toList_iff.mpr hget) ⟨rfl, hne⟩
      · exact hsiblings _ (mem_toList_iff.mpr hget)
    · intro h
      refine ⟨fun item => (h.mem_iff item).mp, ?_, h.nodup, h.parents,
        fun _ hmem => h.siblings (mem_toList_iff.mp hmem)⟩
      rintro ⟨id, item⟩ hmem ⟨hid, hne⟩
      dsimp only at hid hne ⊢
      subst hid
      exact (h.mem_iff item).mpr ⟨mem_toList_iff.mp hmem, hne⟩

/-- Items that are found under their numbers have different numbers. -/
theorem nodup_map_id (found : ∀ item ∈ items, tree.get? item.id = some item)
    (nodup : items.Nodup) : (items.map (·.id)).Nodup := by
  refine nodup.map_on fun item hitem other hother heq => ?_
  have hget := found item hitem
  rw [heq, found other hother] at hget
  exact (Option.some.inj hget).symm

/-- The root may come anywhere in an enumeration of the others. -/
theorem Enumerates.presents (wf : tree.WellFormed) (hroot : tree.get? rootId = some root)
    {before after : List Item} (h : tree.Enumerates (before ++ after)) :
    tree.Presents (before ++ root :: after) := by
  have hid : root.id = rootId := wf.own_id hroot
  have hmem : ∀ item, item ∈ before ++ root :: after ↔ tree.get? item.id = some item := by
    intro item
    rw [List.mem_append, List.mem_cons, or_left_comm, ← List.mem_append, h.mem_iff]
    constructor
    · rintro (rfl | ⟨hget, -⟩)
      · rw [hid, hroot]
      · exact hget
    · intro hget
      by_cases hne : item.id = rootId
      · rw [hne, hroot] at hget
        exact Or.inl (Option.some.inj hget).symm
      · exact Or.inr ⟨hget, hne⟩
  refine ⟨hmem, ?_, ?_, fun hget => (h.siblings hget).trans ?_⟩
  · have hout : root ∉ before ++ after := fun hin => ((h.mem_iff root).mp hin).2 hid
    exact nodup_map_id (fun item => (hmem item).mp)
      (List.nodup_middle.mpr (List.nodup_cons.mpr ⟨hout, h.nodup⟩))
  · have hothers : (before ++ after).Pairwise fun earlier later =>
        later.id ≠ rootId → earlier.parent ≠ some later.id := by
      refine h.parents.imp ?_
      intro _ _ hne _
      exact hne
    obtain ⟨hbefore, hafter, hacross⟩ := List.pairwise_append.mp hothers
    have hlast : ∀ later ∈ after, later.id ≠ rootId → root.parent ≠ some later.id := by
      rw [(wf.root_spec hroot).2]
      exact nofun
    refine List.pairwise_append.mpr ⟨hbefore, List.pairwise_cons.mpr ⟨hlast, hafter⟩, ?_⟩
    intro earlier hearlier later hlater hne
    rcases List.mem_cons.mp hlater with rfl | hlater
    · exact absurd hid hne
    · exact hacross earlier hearlier later hlater hne
  · exact ((List.Sublist.refl before).append (List.sublist_cons_self root after)).map (·.id)

/-! ## The outline -/

/-- A list is found in order in what its elements come to, if each comes to something with itself
in it. -/
theorem sublist_flatMap {below : ItemId → List ItemId} :
    ∀ {ids : List ItemId}, (∀ id ∈ ids, id ∈ below id) → ids.Sublist (ids.flatMap below)
  | [], _ => .slnil
  | id :: ids, h => by
    have hfirst := List.singleton_sublist.mpr (h id List.mem_cons_self)
    exact hfirst.append (sublist_flatMap fun id hid => h id (List.mem_cons_of_mem _ hid))

theorem get?_of_mem_preorderWithin {entry : Nat × Item} {steps : Nat} (wf : tree.WellFormed) :
    ∀ {depth : Nat} {top : ItemId}, entry ∈ tree.preorderWithin depth steps top →
      tree.get? entry.2.id = some entry.2 := by
  induction steps with
  | zero => exact fun h => nomatch h
  | succ steps ih =>
    intro depth top h
    cases ht : tree.get? top with
    | none =>
      simp only [preorderWithin, ht] at h
      cases h
    | some item =>
      simp only [preorderWithin, ht] at h
      rcases List.mem_cons.mp h with rfl | h
      · rw [wf.own_id ht]
        exact ht
      · obtain ⟨child, -, h⟩ := List.mem_flatMap.mp h
        exact ih h

namespace WellFormed

/-- Both walks down visit the same items. -/
theorem preorderWithin_perm (wf : tree.WellFormed) {steps : Nat} :
    ∀ {depth : Nat} {top : ItemId},
      ((tree.preorderWithin depth steps top).map (·.2.id)).Perm
        (tree.postorderWithin steps top) := by
  induction steps with
  | zero => exact .nil
  | succ steps ih =>
    intro depth top
    cases ht : tree.get? top with
    | none => simp only [preorderWithin, postorderWithin, ht, List.map_nil, List.Perm.refl]
    | some item =>
      simp only [preorderWithin, postorderWithin, ht]
      rw [List.map_cons, List.map_flatMap, wf.own_id ht]
      refine .trans ?_ (List.perm_append_singleton top _).symm
      exact (List.Perm.flatMap_left _ fun _ _ => ih).cons top

theorem within_of_mem_preorderWithin (wf : tree.WellFormed) {entry : Nat × Item}
    {depth steps : Nat} (h : entry ∈ tree.preorderWithin depth steps top) :
    tree.Within top entry.2.id :=
  wf.within_of_mem_postorderWithin
    (wf.preorderWithin_perm.mem_iff.mp (List.mem_map_of_mem h))

/-- The outline has no item before its parent. -/
theorem pairwise_preorderWithin (wf : tree.WellFormed) {steps : Nat} :
    ∀ {depth : Nat} {top : ItemId}, (tree.preorderWithin depth steps top).Pairwise
      fun earlier later => earlier.2.parent ≠ some later.2.id := by
  induction steps with
  | zero => exact .nil
  | succ steps ih =>
    intro depth top
    cases ht : tree.get? top with
    | none => simp only [preorderWithin, ht, List.Pairwise.nil]
    | some item =>
      have hchild : ∀ {child}, child ∈ item.childIds → tree.parent? child = some top :=
        (wf.mem_childIds_iff ht).mp
      simp only [preorderWithin, ht]
      refine List.pairwise_cons.mpr ⟨fun later hlater hparent => ?_,
        List.pairwise_flatMap.mpr ⟨fun _ _ => ih, ?_⟩⟩
      · obtain ⟨child, hmem, hlater⟩ := List.mem_flatMap.mp hlater
        refine wf.not_within_of_parent? (parent?_eq_some.mpr ⟨item, ht, hparent⟩) ?_
        exact (wf.within_of_mem_preorderWithin hlater).trans (.under (hchild hmem) (.refl _ _))
      · refine (wf.nodup_childIds ht).imp_of_mem ?_
        intro child child' hmem hmem' hne earlier hearlier later hlater hparent
        have hget := get?_of_mem_preorderWithin wf hearlier
        have hstep := parent?_eq_some.mpr ⟨earlier.2, hget, hparent⟩
        exact wf.disjoint_of_siblings (hchild hmem) (hchild hmem') hne
          (wf.within_of_mem_preorderWithin hearlier)
          (.under hstep (wf.within_of_mem_preorderWithin hlater))

/-- The outline has the children of a container in their order, if it goes on below them. -/
theorem childIds_sublist_preorderWithin (wf : tree.WellFormed) {container : Item}
    (h : tree.get? id = some container) {levels : Nat} :
    ∀ (depth : Nat) {steps : Nat} {top : ItemId}, tree.Below top levels id → levels + 1 < steps →
      container.childIds.Sublist ((tree.preorderWithin depth steps top).map (·.2.id)) := by
  induction levels with
  | zero =>
    intro depth steps top hbelow hlt
    cases hbelow
    obtain ⟨steps, rfl⟩ := Nat.exists_eq_add_of_le' hlt
    simp only [preorderWithin, h]
    rw [List.map_cons, List.map_flatMap]
    refine (sublist_flatMap fun child hchild => ?_).cons _
    obtain ⟨item, hitem, -⟩ := wf.named h hchild
    exact wf.preorderWithin_perm.mem_iff.mpr
      (wf.mem_postorderWithin_of_below hitem .here (Nat.succ_pos steps))
  | succ levels ih =>
    intro depth steps top hbelow hlt
    obtain ⟨child, hchild, hbelow⟩ := hbelow.exists_child
    obtain ⟨above, habove, -⟩ := wf.exists_container hchild
    obtain ⟨steps, rfl⟩ := Nat.exists_eq_add_of_le' (Nat.zero_lt_of_lt hlt)
    simp only [preorderWithin, habove]
    rw [List.map_cons, List.map_flatMap]
    have hbranch := ih (depth + 1) hbelow (Nat.lt_of_succ_lt_succ hlt)
    refine (hbranch.trans ?_).cons _
    exact List.sublist_flatten_of_mem
      (List.mem_map_of_mem ((wf.mem_childIds_iff habove).mpr hchild))

theorem within_root (wf : tree.WellFormed) (h : tree.get? id = some item) :
    tree.Within rootId id := by
  obtain ⟨above, hl⟩ := wf.lineage h
  induction hl generalizing item with
  | root => exact .refl _ _
  | under step rest ih =>
    obtain ⟨container, hc, -⟩ := wf.exists_container step
    exact .under step (ih hc)

/-- The outline has all items of the tree. -/
theorem mem_outline_iff (wf : tree.WellFormed) :
    item ∈ tree.outline.map (·.2) ↔ tree.get? item.id = some item := by
  constructor
  · intro h
    obtain ⟨entry, hentry, rfl⟩ := List.mem_map.mp h
    exact get?_of_mem_preorderWithin wf hentry
  · intro h
    have hdown := wf.mem_postorderWithin_iff.mpr ⟨⟨item, h⟩, wf.within_root h⟩
    have hid : item.id ∈ tree.outline.map (·.2.id) := wf.preorderWithin_perm.mem_iff.mpr hdown
    obtain ⟨entry, hentry, heq⟩ := List.mem_map.mp hid
    have hget := get?_of_mem_preorderWithin wf hentry
    rw [heq, h] at hget
    exact List.mem_map.mpr ⟨entry, hentry, (Option.some.inj hget).symm⟩

theorem nodup_outline (wf : tree.WellFormed) : ((tree.outline.map (·.2)).map (·.id)).Nodup := by
  rw [List.map_map]
  exact wf.preorderWithin_perm.nodup_iff.mpr wf.nodup_postorderWithin

/-- The outline has no item before its parent. -/
theorem pairwise_outline (wf : tree.WellFormed) :
    (tree.outline.map (·.2)).Pairwise fun earlier later => earlier.parent ≠ some later.id :=
  List.pairwise_map.mpr wf.pairwise_preorderWithin

/-- The outline has the children of every container in their order. -/
theorem childIds_sublist_outline (wf : tree.WellFormed) {container : Item}
    (h : tree.get? id = some container) :
    container.childIds.Sublist ((tree.outline.map (·.2)).map (·.id)) := by
  cases hchildren : container.childIds with
  | nil => exact List.nil_sublist _
  | cons child children =>
    -- A container with a child is less deep than the deepest item, so the walk goes on below it.
    have hchild : tree.parent? child = some id :=
      (wf.mem_childIds_iff h).mp (hchildren ▸ List.mem_cons_self)
    obtain ⟨levels, hbelow⟩ := wf.within_root h
    have hlt := wf.lt_size_of_below (isSome_of_parent? hchild) (.under hchild hbelow)
    rw [← hchildren, List.map_map]
    exact wf.childIds_sublist_preorderWithin h 0 hbelow hlt

/-- The outline begins with the root, and what follows enumerates the others. -/
theorem enumerates_outline (wf : tree.WellFormed) (hroot : tree.get? rootId = some root) :
    ∃ items, tree.outline.map (·.2) = root :: items ∧ tree.Enumerates items := by
  have hpos : 0 < tree.size := wf.lt_size_of_below (Option.isSome_of_eq_some hroot) .here
  obtain ⟨steps, hsize⟩ := Nat.exists_eq_add_of_le' hpos
  obtain ⟨items, houtline⟩ : ∃ items, tree.outline.map (·.2) = root :: items := by
    refine ⟨(root.childIds.flatMap (tree.preorderWithin 1 steps)).map (·.2), ?_⟩
    rw [outline, hsize]
    simp only [preorderWithin, hroot, List.map_cons]
  have hid : root.id = rootId := wf.own_id hroot
  have hids := wf.nodup_outline
  rw [houtline, List.map_cons, hid] at hids
  obtain ⟨hout, hnodup⟩ := List.nodup_cons.mp hids
  have hmem : ∀ item, item ∈ root :: items ↔ tree.get? item.id = some item := fun _ =>
    houtline ▸ wf.mem_outline_iff
  refine ⟨items, houtline, fun item => ⟨fun hitem => ?_, fun ⟨hget, hne⟩ => ?_⟩,
    hnodup.of_map, (List.pairwise_cons.mp (houtline ▸ wf.pairwise_outline)).2, fun h => ?_⟩
  · exact ⟨(hmem item).mp (List.mem_cons_of_mem root hitem), fun heq =>
      hout (heq ▸ List.mem_map_of_mem hitem)⟩
  · rcases List.mem_cons.mp ((hmem item).mpr hget) with rfl | hitem
    · exact absurd hid hne
    · exact hitem
  · have hsublist := wf.childIds_sublist_outline h
    rw [houtline, List.map_cons] at hsublist
    rcases List.sublist_cons_iff.mp hsublist with hsublist | ⟨children, hchildren, -⟩
    · exact hsublist
    · -- No container has the root in it.
      have hroot' := (wf.mem_childIds_iff h).mp (hchildren ▸ List.mem_cons_self)
      rw [hid, wf.parent?_root] at hroot'
      cases hroot'

end WellFormed

end Domotics.Tree
