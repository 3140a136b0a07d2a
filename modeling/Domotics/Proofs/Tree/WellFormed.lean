import Mathlib.Data.List.Nodup
import Mathlib.Data.List.Perm.Subperm
import Domotics.Tree.Lemmas
/-!
# Well-formed trees

A tree keeps two directions: a container lists its children, and an item names its parent. In a
well-formed tree they say the same, and the parents of every item lead to the root.

`Lineage` walks from an item up to the root, and `Below` from an item up to one above it. A lineage
visits no item twice (`Lineage.nodup`), so it is shorter than the index
(`WellFormed.length_lt_size`), and the walks of the program, which stop after as many steps as the
index has items, never stop early: `WellFormed.mem_ancestors_iff` and
`WellFormed.mem_postorderWithin_iff` say what they visit. The walk down visits nothing twice
(`WellFormed.nodup_postorderWithin`), as nothing is below two children of one container.
-/

namespace Domotics.Tree

/-- Following parents from an item visits the containers `above`, the nearest first, and ends at
the root. -/
inductive Lineage (tree : Tree) : ItemId → List ItemId → Prop
  | root : Lineage tree rootId []
  | under {id parent : ItemId} {above : List ItemId} (step : tree.parent? id = some parent)
      (rest : Lineage tree parent above) : Lineage tree id (parent :: above)

/-- Following parents from an item for `steps` steps leads to `top`. -/
inductive Below (tree : Tree) (top : ItemId) : Nat → ItemId → Prop
  | here : Below tree top 0 top
  | under {id parent : ItemId} {steps : Nat} (step : tree.parent? id = some parent)
      (rest : Below tree top steps parent) : Below tree top (steps + 1) id

/-- An item is `top` or somewhere below it. -/
def Within (tree : Tree) (top id : ItemId) : Prop :=
  ∃ steps, tree.Below top steps id

/-- The two directions of a tree agree, and everything hangs on the root. -/
structure WellFormed (tree : Tree) : Prop where
  /-- The root is a container and stands in no other one. -/
  root : ∃ root, tree.get? rootId = some root ∧ root.isContainer = true ∧ root.parent = none
  /-- Every item is found under its own number. -/
  own_id : ∀ {id item}, tree.get? id = some item → item.id = id
  /-- Every other item names a container that lists it exactly once. -/
  listed : ∀ {id item}, tree.get? id = some item → id ≠ rootId →
    ∃ parent container, item.parent = some parent ∧ tree.get? parent = some container ∧
      container.isContainer = true ∧ container.childIds.count id = 1
  /-- Every child of a container is there and names the container. -/
  named : ∀ {id container child}, tree.get? id = some container → child ∈ container.childIds →
    ∃ item, tree.get? child = some item ∧ item.parent = some id
  /-- The parents of every item lead to the root. -/
  lineage : ∀ {id item}, tree.get? id = some item → ∃ above, tree.Lineage id above

variable {tree : Tree} {id x top : ItemId}

/-! ## Walking up -/

namespace Lineage

variable {above : List ItemId}

/-- Everything on the way to the root has a shorter way. -/
theorem exists_of_mem (h : tree.Lineage id above) (hx : x ∈ above) :
    ∃ rest, tree.Lineage x rest ∧ rest.length < above.length := by
  induction h with
  | root => cases hx
  | under step rest ih =>
    rcases List.mem_cons.mp hx with rfl | hx
    · exact ⟨_, rest, Nat.lt_succ_self _⟩
    · obtain ⟨rest', h, hlt⟩ := ih hx
      exact ⟨rest', h, Nat.lt_succ_of_lt hlt⟩

/-- There is one way to the root. -/
theorem unique (hroot : tree.parent? rootId = none) (h : tree.Lineage id above) :
    ∀ {other : List ItemId}, tree.Lineage id other → other = above := by
  induction h with
  | root =>
    intro other h
    cases h with
    | root => rfl
    | under step _ =>
      rw [hroot] at step
      cases step
  | under step rest ih =>
    intro other h
    cases h with
    | root =>
      rw [hroot] at step
      cases step
    | under step' rest' =>
      rw [step] at step'
      obtain rfl := Option.some.inj step'
      rw [ih rest']

/-- The way to the root visits no item twice. -/
theorem nodup (hroot : tree.parent? rootId = none) (h : tree.Lineage id above) :
    (id :: above).Nodup := by
  induction h with
  | root => exact List.nodup_singleton _
  | @under id parent above step rest ih =>
    refine List.nodup_cons.mpr ⟨fun hmem => ?_, ih⟩
    have whole : tree.Lineage id (parent :: above) := under step rest
    obtain ⟨shorter, h, hlt⟩ := whole.exists_of_mem hmem
    rw [unique hroot whole h] at hlt
    exact Nat.lt_irrefl _ hlt

/-- The walk up takes the way to the root, if it may take enough steps. -/
theorem ancestorsWithin_eq (hroot : tree.parent? rootId = none) (h : tree.Lineage id above) :
    ∀ {steps : Nat}, above.length ≤ steps → tree.ancestorsWithin steps id = above := by
  induction h with
  | root =>
    intro steps _
    cases steps with
    | zero => rfl
    | succ steps => simp only [ancestorsWithin, hroot]
  | under step rest ih =>
    intro steps hle
    cases steps with
    | zero => simp at hle
    | succ steps =>
      simp only [ancestorsWithin, step]
      rw [ih (Nat.le_of_succ_le_succ hle)]

/-- What is on the way to the root is what the item is below. -/
theorem mem_cons_iff (hroot : tree.parent? rootId = none) (h : tree.Lineage id above) :
    x ∈ id :: above ↔ tree.Within x id := by
  constructor
  · intro hx
    induction h with
    | root =>
      obtain rfl := List.mem_singleton.mp hx
      exact ⟨0, .here⟩
    | under step rest ih =>
      rcases List.mem_cons.mp hx with rfl | hx
      · exact ⟨0, .here⟩
      · obtain ⟨steps, h⟩ := ih hx
        exact ⟨steps + 1, .under step h⟩
  · rintro ⟨steps, hx⟩
    induction hx generalizing above with
    | here => exact List.mem_cons_self
    | under step rest ih =>
      cases h with
      | root =>
        rw [hroot] at step
        cases step
      | under step' rest' =>
        rw [step] at step'
        obtain rfl := Option.some.inj step'
        exact List.mem_cons_of_mem _ (ih rest')

/-- No more steps lead up from an item than the way to the root has. -/
theorem steps_le (hroot : tree.parent? rootId = none) {steps : Nat} (hx : tree.Below top steps id) :
    ∀ {above : List ItemId}, tree.Lineage id above → steps ≤ above.length := by
  induction hx with
  | here => exact fun _ => Nat.zero_le _
  | under step rest ih =>
    intro above h
    cases h with
    | root =>
      rw [hroot] at step
      cases step
    | under step' rest' =>
      rw [step] at step'
      obtain rfl := Option.some.inj step'
      exact Nat.succ_le_succ (ih rest')

end Lineage

namespace Below

variable {steps : Nat} {child : ItemId}

/-- One step more at the upper end. -/
theorem above (h : tree.Below child steps id) (hc : tree.parent? child = some top) :
    tree.Below top (steps + 1) id := by
  induction h with
  | here => exact under hc here
  | under step _ ih => exact under step ih

/-- The last step up leaves a child of the upper end. -/
theorem exists_child (h : tree.Below top (steps + 1) id) :
    ∃ child, tree.parent? child = some top ∧ tree.Below child steps id := by
  induction steps generalizing id with
  | zero =>
    cases h with
    | under step rest =>
      cases rest with
      | here => exact ⟨id, step, here⟩
  | succ steps ih =>
    cases h with
    | under step rest =>
      obtain ⟨child, hc, h⟩ := ih rest
      exact ⟨child, hc, under step h⟩

end Below

namespace Within

theorem refl (tree : Tree) (id : ItemId) : tree.Within id id :=
  ⟨0, .here⟩

theorem under {parent : ItemId} (step : tree.parent? id = some parent)
    (h : tree.Within top parent) : tree.Within top id := by
  obtain ⟨steps, h⟩ := h
  exact ⟨steps + 1, .under step h⟩

theorem trans {middle : ItemId} (h : tree.Within middle id) (h' : tree.Within top middle) :
    tree.Within top id := by
  obtain ⟨steps, h⟩ := h
  induction h with
  | here => exact h'
  | under step _ ih => exact ih.under step

/-- What is below an item is the item, or its parent is below it as well. -/
theorem eq_or_parent (h : tree.Within top id) :
    id = top ∨ ∃ parent, tree.parent? id = some parent ∧ tree.Within top parent := by
  obtain ⟨steps, h⟩ := h
  cases h with
  | here => exact Or.inl rfl
  | under step rest => exact Or.inr ⟨_, step, _, rest⟩

/-- Of two items above the same one, one is above the other. -/
theorem total {top' : ItemId} (h : tree.Within top x) (h' : tree.Within top' x) :
    tree.Within top top' ∨ tree.Within top' top := by
  obtain ⟨steps, h⟩ := h
  induction h with
  | here => exact Or.inr h'
  | under step rest ih =>
    rcases h'.eq_or_parent with rfl | ⟨parent, hp, hwithin⟩
    · exact Or.inl ⟨_, .under step rest⟩
    · rw [step] at hp
      obtain rfl := Option.some.inj hp
      exact ih hwithin

end Within

/-! ## What a well-formed tree gives -/

namespace WellFormed

variable {item container : Item} {parent : ItemId}

/-- What is found as the root is a container and stands in no other one. -/
theorem root_spec (wf : tree.WellFormed) (h : tree.get? rootId = some item) :
    item.isContainer = true ∧ item.parent = none := by
  obtain ⟨root, hroot, hspec⟩ := wf.root
  rw [h] at hroot
  obtain rfl := Option.some.inj hroot
  exact hspec

theorem parent?_root (wf : tree.WellFormed) : tree.parent? rootId = none := by
  obtain ⟨root, hroot, -, hparent⟩ := wf.root
  exact (parent?_of_get? hroot).trans hparent

theorem ne_root_of_parent? (wf : tree.WellFormed) (h : tree.parent? id = some parent) :
    id ≠ rootId := by
  rintro rfl
  rw [wf.parent?_root] at h
  cases h

/-- The parent that an item names is a container that lists it once. -/
theorem exists_container (wf : tree.WellFormed) (h : tree.parent? id = some parent) :
    ∃ container, tree.get? parent = some container ∧ container.isContainer = true ∧
      container.childIds.count id = 1 := by
  obtain ⟨item, hitem, hp⟩ := parent?_eq_some.mp h
  obtain ⟨parent', container, hp', hc⟩ := wf.listed hitem (wf.ne_root_of_parent? h)
  rw [hp] at hp'
  obtain rfl := Option.some.inj hp'
  exact ⟨container, hc⟩

/-- A container lists an item exactly if the item names the container. -/
theorem mem_childIds_iff (wf : tree.WellFormed) (h : tree.get? parent = some container) :
    id ∈ container.childIds ↔ tree.parent? id = some parent := by
  constructor
  · intro hmem
    exact parent?_eq_some.mpr (wf.named h hmem)
  · intro hp
    obtain ⟨container', hc, -, hcount⟩ := wf.exists_container hp
    rw [h] at hc
    obtain rfl := Option.some.inj hc
    exact List.count_pos_iff.mp (by omega)

theorem exists_parent (wf : tree.WellFormed) (h : tree.get? id = some item) (hne : id ≠ rootId) :
    ∃ parent, tree.parent? id = some parent := by
  obtain ⟨parent, -, hp, -⟩ := wf.listed h hne
  exact ⟨parent, parent?_eq_some.mpr ⟨item, h, hp⟩⟩

/-- Everything on the way from an item to the root is in the tree. -/
theorem exists_get?_of_within (wf : tree.WellFormed) (h : tree.get? id = some item)
    (hx : tree.Within top id) : ∃ found, tree.get? top = some found := by
  obtain ⟨steps, hx⟩ := hx
  induction hx generalizing item with
  | here => exact ⟨item, h⟩
  | under step _ ih =>
    obtain ⟨container, hc, -⟩ := wf.exists_container step
    exact ih hc

/-- The way from an item to the root is shorter than the index. -/
theorem length_lt_size (wf : tree.WellFormed) (h : tree.get? id = some item) {above : List ItemId}
    (hl : tree.Lineage id above) : above.length < tree.size := by
  have hsub : id :: above ⊆ tree.items.keys := by
    intro x hx
    rw [mem_keys_iff]
    exact wf.exists_get?_of_within h ((hl.mem_cons_iff wf.parent?_root).mp hx)
  have hle := ((hl.nodup wf.parent?_root).subperm hsub).length_le
  rw [Std.ExtTreeMap.length_keys] at hle
  exact hle

theorem ancestors_eq (wf : tree.WellFormed) (h : tree.get? id = some item) {above : List ItemId}
    (hl : tree.Lineage id above) : tree.ancestors id = above :=
  hl.ancestorsWithin_eq wf.parent?_root (Nat.le_of_lt (wf.length_lt_size h hl))

/-- The walk up from an item visits what the item is below. -/
theorem mem_ancestors_iff (wf : tree.WellFormed) (h : tree.get? id = some item) :
    id = x ∨ x ∈ tree.ancestors id ↔ tree.Within x id := by
  obtain ⟨above, hl⟩ := wf.lineage h
  rw [wf.ancestors_eq h hl, ← hl.mem_cons_iff wf.parent?_root, List.mem_cons, eq_comm]

/-- Nothing is below itself: the parent of an item is not below the item. -/
theorem not_within_of_parent? (wf : tree.WellFormed) (h : tree.parent? id = some parent) :
    ¬ tree.Within id parent := by
  intro hw
  obtain ⟨container, hc, -⟩ := wf.exists_container h
  obtain ⟨above, hl⟩ := wf.lineage hc
  have hnodup := (Lineage.under h hl).nodup wf.parent?_root
  exact (List.nodup_cons.mp hnodup).1 ((hl.mem_cons_iff wf.parent?_root).mpr hw)

theorem not_within_root (wf : tree.WellFormed) (hne : id ≠ rootId) : ¬ tree.Within id rootId := by
  intro h
  rcases h.eq_or_parent with h | ⟨parent, hp, -⟩
  · exact hne h.symm
  · rw [wf.parent?_root] at hp
    cases hp

/-- Nothing is below two children of one container. -/
theorem disjoint_of_siblings (wf : tree.WellFormed) {child child' : ItemId}
    (hc : tree.parent? child = some parent) (hc' : tree.parent? child' = some parent)
    (hne : child ≠ child') (h : tree.Within child x) : ¬ tree.Within child' x := by
  have hapart : ∀ {a b}, tree.parent? a = some parent → tree.parent? b = some parent → a ≠ b →
      ¬ tree.Within a b := by
    intro a b ha hb hab hwithin
    rcases hwithin.eq_or_parent with rfl | ⟨p, hp, hwithin⟩
    · exact hab rfl
    · rw [hb] at hp
      obtain rfl := Option.some.inj hp
      exact wf.not_within_of_parent? ha hwithin
  intro h'
  rcases h.total h' with hw | hw
  · exact hapart hc hc' hne hw
  · exact hapart hc' hc hne.symm hw

/-- A container lists nothing twice. -/
theorem nodup_childIds (wf : tree.WellFormed) (h : tree.get? parent = some container) :
    container.childIds.Nodup := by
  refine List.nodup_iff_count_eq_one.mpr fun child hchild => ?_
  obtain ⟨container', hc, -, hcount⟩ := wf.exists_container ((wf.mem_childIds_iff h).mp hchild)
  rw [h] at hc
  obtain rfl := Option.some.inj hc
  exact hcount

/-! ## Walking down -/

/-- Fewer steps lead down to an item than the index has items. -/
theorem lt_size_of_below (wf : tree.WellFormed) (hthere : (tree.get? x).isSome = true)
    {levels : Nat} (h : tree.Below top levels x) : levels < tree.size := by
  obtain ⟨item, hitem⟩ := Option.isSome_iff_exists.mp hthere
  obtain ⟨above, hl⟩ := wf.lineage hitem
  exact Nat.lt_of_le_of_lt (Lineage.steps_le wf.parent?_root h hl) (wf.length_lt_size hitem hl)

theorem within_of_mem_postorderWithin (wf : tree.WellFormed) {steps : Nat} :
    ∀ {top : ItemId}, x ∈ tree.postorderWithin steps top → tree.Within top x := by
  induction steps with
  | zero => exact fun hx => nomatch hx
  | succ steps ih =>
    intro top hx
    cases ht : tree.get? top with
    | none =>
      simp only [postorderWithin, ht] at hx
      cases hx
    | some item =>
      simp only [postorderWithin, ht] at hx
      rcases List.mem_append.mp hx with hx | hx
      · obtain ⟨child, hchild, hx⟩ := List.mem_flatMap.mp hx
        obtain ⟨n, hbelow⟩ := ih hx
        exact ⟨n + 1, hbelow.above ((wf.mem_childIds_iff ht).mp hchild)⟩
      · obtain rfl := List.mem_singleton.mp hx
        exact .refl tree _

theorem mem_postorderWithin_of_below (wf : tree.WellFormed) (h : tree.get? x = some item)
    {levels : Nat} : ∀ {top : ItemId} {steps : Nat}, tree.Below top levels x → levels < steps →
      x ∈ tree.postorderWithin steps top := by
  induction levels with
  | zero =>
    intro top steps hx hlt
    obtain ⟨steps, rfl⟩ := Nat.exists_eq_add_of_lt hlt
    cases hx with
    | here =>
      rw [Nat.zero_add]
      simp only [postorderWithin, h]
      exact List.mem_append_right _ List.mem_cons_self
  | succ levels ih =>
    intro top steps hx hlt
    obtain ⟨child, hchild, hx'⟩ := hx.exists_child
    obtain ⟨container, hc, -⟩ := wf.exists_container hchild
    cases steps with
    | zero => exact absurd hlt (Nat.not_lt_zero _)
    | succ steps =>
      simp only [postorderWithin, hc]
      refine List.mem_append_left _ (List.mem_flatMap.mpr ⟨child, ?_, ?_⟩)
      · exact (wf.mem_childIds_iff hc).mpr hchild
      · exact ih hx' (Nat.lt_of_succ_lt_succ hlt)

theorem exists_get?_of_mem_postorderWithin {steps : Nat} :
    ∀ {top : ItemId}, x ∈ tree.postorderWithin steps top → ∃ item, tree.get? x = some item := by
  induction steps with
  | zero => exact fun hx => nomatch hx
  | succ steps ih =>
    intro top hx
    cases ht : tree.get? top with
    | none =>
      simp only [postorderWithin, ht] at hx
      cases hx
    | some item =>
      simp only [postorderWithin, ht] at hx
      rcases List.mem_append.mp hx with hx | hx
      · obtain ⟨child, -, hx⟩ := List.mem_flatMap.mp hx
        exact ih hx
      · obtain rfl := List.mem_singleton.mp hx
        exact ⟨item, ht⟩

/-- The walk down visits nothing twice. -/
theorem nodup_postorderWithin (wf : tree.WellFormed) {steps : Nat} :
    ∀ {top : ItemId}, (tree.postorderWithin steps top).Nodup := by
  induction steps with
  | zero => exact List.nodup_nil
  | succ steps ih =>
    intro top
    cases ht : tree.get? top with
    | none => simp only [postorderWithin, ht, List.nodup_nil]
    | some item =>
      have hchild : ∀ {child}, child ∈ item.childIds → tree.parent? child = some top :=
        (wf.mem_childIds_iff ht).mp
      simp only [postorderWithin, ht]
      refine List.nodup_append.mpr ⟨List.nodup_flatMap.mpr ⟨fun _ _ => ih, ?_⟩,
        List.nodup_singleton _, ?_⟩
      · refine (wf.nodup_childIds ht).imp_of_mem fun {child child'} hmem hmem' hne x hx hx' => ?_
        exact wf.disjoint_of_siblings (hchild hmem) (hchild hmem') hne
          (wf.within_of_mem_postorderWithin hx) (wf.within_of_mem_postorderWithin hx')
      · rintro x hx _ htop rfl
        obtain ⟨child, hmem, hx⟩ := List.mem_flatMap.mp hx
        obtain rfl := List.mem_singleton.mp htop
        exact wf.not_within_of_parent? (hchild hmem) (wf.within_of_mem_postorderWithin hx)

/-- The walk down from an item visits what is below it. -/
theorem mem_postorderWithin_iff (wf : tree.WellFormed) :
    x ∈ tree.postorderWithin tree.size top ↔
      (∃ item, tree.get? x = some item) ∧ tree.Within top x := by
  constructor
  · exact fun hx => ⟨exists_get?_of_mem_postorderWithin hx, wf.within_of_mem_postorderWithin hx⟩
  · rintro ⟨⟨item, hitem⟩, levels, hx⟩
    have hthere : (tree.get? x).isSome = true := Option.isSome_of_eq_some hitem
    exact wf.mem_postorderWithin_of_below hitem hx (wf.lt_size_of_below hthere hx)

end WellFormed

end Domotics.Tree
