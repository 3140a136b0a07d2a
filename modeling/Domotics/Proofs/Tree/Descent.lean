import Mathlib.Logic.Relation
import Domotics.Proofs.Tree.WellFormed
/-!
# Going down a tree

`Within` goes up, from an item to the containers it is in. Going down the lists of children, an item
`Reaches` what is below it, and `Postorder` tells in which order a walk down comes back up: an item
after everything below it, and siblings as their container lists them.

In a well-formed tree both directions agree (`WellFormed.reaches_iff`). The walk down of the program
stops after as many steps as the index has items. It comes back up from everything that is reached
all the same (`WellFormed.postorder_postorderWithin`), as no way down is that long.
-/

namespace Domotics.Tree

variable {tree : Tree} {id x top parent child : ItemId} {ids : List ItemId} {item : Item}
  {items : List Item}

/-- A container lists an item. -/
def HasChild (tree : Tree) (parent child : ItemId) : Prop :=
  ∃ container, tree.get? parent = some container ∧ child ∈ container.childIds

/-- Going down from `top` through lists of children, for any number of steps, leads to an item. -/
def Reaches (tree : Tree) : ItemId → ItemId → Prop :=
  Relation.ReflTransGen tree.HasChild

/-- What a walk down that begins at each of some numbers comes back up from: each item after
everything below it, and what is below one number before what is below the next. -/
inductive Postorder (tree : Tree) : List ItemId → List Item → Prop
  | nil : Postorder tree [] []
  | cons {id : ItemId} {ids : List ItemId} {item : Item} {below others : List Item}
    (found : tree.get? id = some item) (inside : Postorder tree item.childIds below)
    (rest : Postorder tree ids others) : Postorder tree (id :: ids) (below ++ item :: others)

/-! ## Reaching -/

theorem hasChild_of_get? (h : tree.get? id = some item) :
    tree.HasChild id child ↔ child ∈ item.childIds := by
  constructor
  · rintro ⟨container, hc, hmem⟩
    rw [h] at hc
    exact Option.some.inj hc ▸ hmem
  · exact fun hmem => ⟨item, h, hmem⟩

/-- The first step down leads to a child. -/
theorem reaches_iff_eq_or (h : tree.get? id = some item) :
    tree.Reaches id x ↔ x = id ∨ ∃ child ∈ item.childIds, tree.Reaches child x := by
  unfold Reaches
  rw [Relation.ReflTransGen.cases_head_iff]
  simp only [hasChild_of_get? h, eq_comm]

namespace WellFormed

theorem hasChild_iff (wf : tree.WellFormed) :
    tree.HasChild parent child ↔ tree.parent? child = some parent := by
  constructor
  · rintro ⟨container, hc, hmem⟩
    exact (wf.mem_childIds_iff hc).mp hmem
  · intro hp
    obtain ⟨container, hc, -⟩ := wf.exists_container hp
    exact ⟨container, hc, (wf.mem_childIds_iff hc).mpr hp⟩

/-- What is reached from an item has the item above it. -/
theorem reaches_iff (wf : tree.WellFormed) : tree.Reaches top x ↔ tree.Within top x := by
  constructor
  · intro h
    induction h with
    | refl => exact .refl tree top
    | tail _ step ih => exact .under (wf.hasChild_iff.mp step) ih
  · rintro ⟨steps, h⟩
    induction h with
    | here => exact .refl
    | under step _ ih => exact ih.tail (wf.hasChild_iff.mpr step)

/-- Nothing is reached from two children of one container. -/
theorem not_reaches_of_siblings (wf : tree.WellFormed) {container : Item} {child' : ItemId}
    (h : tree.get? parent = some container) (hc : child ∈ container.childIds)
    (hc' : child' ∈ container.childIds) (hne : child ≠ child') (hx : tree.Reaches child x) :
    ¬ tree.Reaches child' x := by
  rw [wf.mem_childIds_iff h] at hc hc'
  rw [wf.reaches_iff] at hx ⊢
  exact wf.disjoint_of_siblings hc hc' hne hx

/-- No child leads back up to its container. -/
theorem not_reaches_of_mem_childIds (wf : tree.WellFormed) {container : Item}
    (h : tree.get? parent = some container) (hc : child ∈ container.childIds) :
    ¬ tree.Reaches child parent := by
  rw [wf.reaches_iff]
  exact wf.not_within_of_parent? ((wf.mem_childIds_iff h).mp hc)

end WellFormed

/-! ## Postorder -/

namespace Postorder

theorem append {ids' : List ItemId} {items' : List Item} (h : tree.Postorder ids items)
    (h' : tree.Postorder ids' items') : tree.Postorder (ids ++ ids') (items ++ items') := by
  induction h with
  | nil => exact h'
  | cons found inside _ _ ih =>
    rw [List.cons_append, List.append_assoc, List.cons_append]
    exact .cons found inside ih

theorem flatMap {below : ItemId → List Item} :
    ∀ {ids : List ItemId}, (∀ id ∈ ids, tree.Postorder [id] (below id)) →
      tree.Postorder ids (ids.flatMap below)
  | [], _ => .nil
  | id :: _, h =>
    (h id List.mem_cons_self).append (flatMap fun id hid => h id (List.mem_cons_of_mem _ hid))

/-- The item that a walk down begins at comes last. -/
theorem exists_eq_append (h : tree.Postorder [id] items) :
    ∃ below item, tree.get? id = some item ∧ items = below ++ [item] := by
  cases h with
  | cons found _ rest =>
    cases rest with
    | nil => exact ⟨_, _, found, rfl⟩

/-- A walk down ends where it begins if nothing is below. -/
theorem eq_singleton (h : tree.Postorder [id] items) (found : tree.get? id = some item)
    (bare : item.childIds = []) : items = [item] := by
  cases h with
  | cons found' inside rest =>
    rw [found] at found'
    obtain rfl := Option.some.inj found'
    rw [bare] at inside
    cases inside with
    | nil =>
      cases rest with
      | nil => rfl

/-- A walk down comes back up from what is reached, and from nothing else. -/
theorem mem_iff (own_id : ∀ {x item}, tree.get? x = some item → item.id = x)
    (h : tree.Postorder ids items) :
    item ∈ items ↔ tree.get? item.id = some item ∧ ∃ id ∈ ids, tree.Reaches id item.id := by
  induction h with
  | nil => simp
  | @cons id ids top below others found _ _ ihbelow ihothers =>
    have htop : item = top ↔ tree.get? item.id = some item ∧ item.id = id := by
      constructor
      · rintro rfl
        rw [own_id found]
        exact ⟨found, rfl⟩
      · rintro ⟨hget, heq⟩
        rw [heq, found] at hget
        exact (Option.some.inj hget).symm
    rw [List.mem_append, List.mem_cons, ihbelow, ihothers, htop, List.exists_mem_cons_iff,
      reaches_iff_eq_or found, ← and_or_left, ← and_or_left, or_left_comm, or_assoc]

/-- A walk down comes back up from an item after everything below it. Nothing may be reached from two
of the numbers it begins at. -/
theorem pairwise (wf : tree.WellFormed) (h : tree.Postorder ids items)
    (apart : ids.Pairwise fun id id' => ∀ x, tree.Reaches id x → ¬ tree.Reaches id' x) :
    items.Pairwise fun earlier later => ¬ tree.Reaches earlier.id later.id := by
  induction h with
  | nil => exact .nil
  | @cons id ids top below others found inside rest ihbelow ihothers =>
    obtain ⟨hfirst, hothers⟩ := List.pairwise_cons.mp apart
    have hid : top.id = id := wf.own_id found
    have hbelow : below.Pairwise fun earlier later => ¬ tree.Reaches earlier.id later.id :=
      ihbelow ((wf.nodup_childIds found).imp_of_mem fun hc hc' hne _ =>
        wf.not_reaches_of_siblings found hc hc' hne)
    have hapart : ∀ {x}, tree.Reaches id x → ∀ later ∈ others, ¬ tree.Reaches x later.id := by
      intro x hx later hlater hreaches
      obtain ⟨-, id', hid', hlater⟩ := (rest.mem_iff wf.own_id).mp hlater
      exact hfirst id' hid' later.id (hx.trans hreaches) hlater
    refine List.pairwise_append.mpr ⟨hbelow, List.pairwise_cons.mpr ⟨?_, ihothers hothers⟩, ?_⟩
    · exact hid ▸ hapart .refl
    · intro earlier hearlier later hlater
      obtain ⟨-, child, hchild, hearlier⟩ := (inside.mem_iff wf.own_id).mp hearlier
      rcases List.mem_cons.mp hlater with rfl | hlater
      · rw [hid]
        exact fun hback => wf.not_reaches_of_mem_childIds found hchild (hearlier.trans hback)
      · exact hapart ((reaches_iff_eq_or found).mpr (Or.inr ⟨child, hchild, hearlier⟩)) later hlater

end Postorder

namespace WellFormed

/-- The walk down comes back up from everything below an item, if it may take more steps than lead
down from there. -/
theorem postorder_within (wf : tree.WellFormed) {steps : Nat} :
    ∀ {top : ItemId}, (tree.get? top).isSome = true →
      (∀ {x n}, (tree.get? x).isSome = true → tree.Below top n x → n < steps) →
      tree.Postorder [top] ((tree.postorderWithin steps top).filterMap tree.get?) := by
  induction steps with
  | zero => exact fun hthere deep => absurd (deep hthere .here) (Nat.not_lt_zero 0)
  | succ steps ih =>
    intro top hthere deep
    obtain ⟨item, ht⟩ := Option.isSome_iff_exists.mp hthere
    have hchildren : ∀ child ∈ item.childIds,
        tree.Postorder [child] ((tree.postorderWithin steps child).filterMap tree.get?) := by
      intro child hchild
      have hp := (wf.mem_childIds_iff ht).mp hchild
      refine ih (isSome_of_parent? hp) fun hx hbelow => ?_
      exact Nat.lt_of_succ_lt_succ (deep hx (hbelow.above hp))
    simp only [postorderWithin, ht, List.filterMap_append, List.filterMap_flatMap]
    rw [List.filterMap_cons_some ht, List.filterMap_nil]
    exact .cons ht (.flatMap hchildren) .nil

/-- The walk down comes back up from everything below an item. -/
theorem postorder_postorderWithin (wf : tree.WellFormed) (h : (tree.get? id).isSome = true) :
    tree.Postorder [id] ((tree.postorderWithin tree.size id).filterMap tree.get?) :=
  wf.postorder_within h fun hx hbelow => wf.lt_size_of_below hx hbelow

end WellFormed

end Domotics.Tree
