import Domotics.Proofs.Tree.Descent
import Domotics.Proofs.Tree.Listened
/-!
# Going up a tree

Parents lead up from an item and lists of children lead down to it. In a well-formed tree both tell
the same (`WellFormed.coherent`): the containers that the walk up visits are those from which going
down leads to the item, and an item is listened to by inheritance just if it is reached from a
container that is listened to.

The walk up of the program stops after as many steps as the index has items. `Climbs` goes on for as
long as there is a parent; that it comes to an end, and visits just what the walk of the program
visits, is part of what is shown.
-/

namespace Domotics.Tree

variable {tree : Tree} {id x top : ItemId} {above : List ItemId}

/-- Following parents for as long as there is one comes to an end, after it visited the containers
`above`, the nearest first. -/
inductive Climbs (tree : Tree) : ItemId → List ItemId → Prop
  | top {id : ItemId} (last : tree.parent? id = none) : Climbs tree id []
  | up {id parent : ItemId} {above : List ItemId} (step : tree.parent? id = some parent)
      (rest : Climbs tree parent above) : Climbs tree id (parent :: above)

/-- What the walk up from a number tells is what going down the lists of children tells. -/
structure Coherent (tree : Tree) (x : ItemId) : Prop where
  /-- The walk up comes to an end, and there is one way for it to go. -/
  climbs_iff : ∀ above, tree.Climbs x above ↔ above = tree.ancestors x
  /-- An item but the root names its parent. The walk begins there and ends at the root. -/
  ends : ∀ item, tree.get? x = some item → x ≠ rootId →
    ∃ parent, item.parent = some parent ∧ (tree.ancestors x).head? = some parent ∧
      (tree.ancestors x).getLast? = some rootId
  /-- Nothing is visited twice, nor is the walk back where it began. -/
  nodup : (x :: tree.ancestors x).Nodup
  /-- What is visited is what one or more steps down lead from. -/
  mem_iff : ∀ top, top ∈ tree.ancestors x ↔ Relation.TransGen tree.HasChild top x
  /-- What is listened to by inheritance is what is reached from a container that is listened to. -/
  inherited_iff : tree.isListeningInherited x = true ↔
    ∃ top ∈ tree.listeningContainers, tree.Reaches top x
  /-- Nothing is above the root, or above a number that stands for nothing. -/
  bare : x = rootId ∨ tree.get? x = none → tree.ancestors x = []

/-! ## Climbing -/

/-- Without a parent the walk up ends where it begins. -/
theorem ancestors_of_parent?_eq_none (h : tree.parent? id = none) : tree.ancestors id = [] := by
  unfold ancestors
  cases tree.size with
  | zero => rfl
  | succ steps => simp only [ancestorsWithin, h]

/-- The way to the root is one that cannot go on. -/
theorem Lineage.climbs (hroot : tree.parent? rootId = none) (h : tree.Lineage id above) :
    tree.Climbs id above := by
  induction h with
  | root => exact .top hroot
  | under step _ ih => exact .up step ih

/-- The way to the root ends there. -/
theorem Lineage.getLast?_eq (h : tree.Lineage id above) :
    (id :: above).getLast? = some rootId := by
  induction h with
  | root => rfl
  | under _ _ ih => rwa [List.getLast?_cons_cons]

namespace Climbs

/-- There is one way up. -/
theorem unique (h : tree.Climbs id above) {other : List ItemId} (h' : tree.Climbs id other) :
    other = above := by
  induction h generalizing other with
  | top last =>
    cases h' with
    | top _ => rfl
    | up step _ => exact nomatch last.symm.trans step
  | up step _ ih =>
    cases h' with
    | top last => exact nomatch last.symm.trans step
    | up step' rest' =>
      obtain rfl := Option.some.inj (step.symm.trans step')
      rw [ih rest']

/-- One or more steps down lead from what is visited on the way up, and from nothing else. -/
theorem mem_iff (wf : tree.WellFormed) (h : tree.Climbs id above) :
    x ∈ above ↔ Relation.TransGen tree.HasChild x id := by
  induction h with
  | top last =>
    refine ⟨nofun, fun hdown => ?_⟩
    obtain ⟨parent, -, hchild⟩ := Relation.TransGen.tail'_iff.mp hdown
    exact nomatch last.symm.trans (wf.hasChild_iff.mp hchild)
  | @up id parent above step _ ih =>
    -- The last step down is the first step up, as an item has one parent.
    rw [List.mem_cons, ih, eq_comm, ← Relation.reflTransGen_iff_eq_or_transGen,
      Relation.TransGen.tail'_iff]
    constructor
    · exact fun hdown => ⟨parent, hdown, wf.hasChild_iff.mpr step⟩
    · rintro ⟨parent', hdown, hchild⟩
      obtain rfl := Option.some.inj (step.symm.trans (wf.hasChild_iff.mp hchild))
      exact hdown

end Climbs

/-! ## Both directions -/

namespace WellFormed

/-- From every number, the walk up of the program is one that cannot go on. -/
theorem climbs_ancestors (wf : tree.WellFormed) (x : ItemId) :
    tree.Climbs x (tree.ancestors x) := by
  cases h : tree.get? x with
  | none =>
    have hnone := parent?_of_get?_eq_none h
    rw [ancestors_of_parent?_eq_none hnone]
    exact .top hnone
  | some item =>
    obtain ⟨above, hl⟩ := wf.lineage h
    rw [wf.ancestors_eq h hl]
    exact hl.climbs wf.parent?_root

theorem mem_cons_ancestors_iff (wf : tree.WellFormed) :
    top ∈ x :: tree.ancestors x ↔ tree.Reaches top x := by
  rw [List.mem_cons, (wf.climbs_ancestors x).mem_iff wf, eq_comm]
  exact Relation.reflTransGen_iff_eq_or_transGen.symm

theorem nodup_ancestors (wf : tree.WellFormed) (x : ItemId) : (x :: tree.ancestors x).Nodup := by
  cases h : tree.get? x with
  | none =>
    rw [ancestors_of_parent?_eq_none (parent?_of_get?_eq_none h)]
    exact List.nodup_singleton x
  | some item =>
    obtain ⟨above, hl⟩ := wf.lineage h
    rw [wf.ancestors_eq h hl]
    exact hl.nodup wf.parent?_root

/-- The walk up from an item that is not the root begins at its parent and ends at the root. -/
theorem ends_ancestors (wf : tree.WellFormed) {item : Item} (h : tree.get? x = some item)
    (hne : x ≠ rootId) :
    ∃ parent, item.parent = some parent ∧ (tree.ancestors x).head? = some parent ∧
      (tree.ancestors x).getLast? = some rootId := by
  obtain ⟨above, hl⟩ := wf.lineage h
  rw [wf.ancestors_eq h hl]
  cases hl with
  | root => exact absurd rfl hne
  | under step rest => exact ⟨_, (parent?_of_get? h).symm.trans step, rfl, rest.getLast?_eq⟩

theorem isListeningInherited_iff (wf : tree.WellFormed) :
    tree.isListeningInherited x = true ↔
      ∃ top ∈ tree.listeningContainers, tree.Reaches top x := by
  unfold isListeningInherited
  rw [List.any_eq_true]
  refine exists_congr fun top => ?_
  rw [wf.mem_cons_ancestors_iff, mem_listeningContainers_iff, and_comm, Option.any_eq_true]
  rfl

/-- In a well-formed tree both directions tell the same of every number. -/
theorem coherent (wf : tree.WellFormed) (x : ItemId) : tree.Coherent x where
  climbs_iff above := by
    refine ⟨fun h => (wf.climbs_ancestors x).unique h, ?_⟩
    rintro rfl
    exact wf.climbs_ancestors x
  ends _ := wf.ends_ancestors
  nodup := wf.nodup_ancestors x
  mem_iff _ := (wf.climbs_ancestors x).mem_iff wf
  inherited_iff := wf.isListeningInherited_iff
  bare := by
    rintro (rfl | hnone)
    · exact ancestors_of_parent?_eq_none wf.parent?_root
    · exact ancestors_of_parent?_eq_none (parent?_of_get?_eq_none hnone)

end WellFormed

/-- Whatever is done to a new tree, and whichever of its changes wait, both directions tell the same
of every number. -/
theorem coherent_run (mutations : List Mutation) (events : List TreeEvent) (x : ItemId) :
    { Tree.empty.run mutations with events }.Coherent x := by
  have wf : { Tree.empty.run mutations with events }.WellFormed :=
    (WellFormed.empty.run mutations).of_get?_eq fun _ => rfl
  exact wf.coherent x

/-- A lamp in a kitchen on the ground floor is listened to with the ground floor, the root is not. -/
example :
    let tree := Tree.empty.run [.add rootId (.ofContainer 1 "Ground floor" "" false),
      .add 1 (.ofContainer 2 "Kitchen" "" false),
      .add 2 (.ofDevice 3 "Lamp" "" false .actuator (.binary true)), .setListening 1 true]
    tree.ancestors 3 = [2, 1, rootId] ∧ tree.isListeningInherited 3 = true ∧
      tree.isListeningInherited rootId = false := by
  decide +kernel

end Domotics.Tree
