import Domotics.Proofs.Tree.Ascent
import Domotics.Proofs.Tree.Enumeration
/-!
# The text of a tree covers the tree

The text of a well-formed tree is made of one entry for each item (`WellFormed.render_eq`), in the
order of a walk down that visits each item before everything below it (`Preorder`). An entry is
indented by two spaces for each container that a walk up from the item visits, and only what is
listened to has the mark of that in it.

The program goes down for as many steps as the index has items, and counts the depth on its way.
`Preorder` goes down without a bound. Both visit the same (`WellFormed.preorder_outline`), and the
depth that was counted is the number of containers above
(`WellFormed.length_ancestors_of_mem_outline`), as there is one way up from an item.
-/

namespace Domotics

open Domotics.Tree

/-- What an item says of itself, whether or not it is listened to. -/
def Item.caption (item : Item) : String :=
  match item.value?, item.role? with
  | some value, some role =>
    s!"{item.name} ({item.id}) {value.type.text} {role.text} = {value.text}"
  | _, _ => s!"{item.name} ({item.id})"

/-- The mark of a container that is listened to. -/
def listeningMark : String := " [listening]"

theorem Item.line_eq (item : Item) :
    item.line = item.caption ++ if item.isListening then listeningMark else "" := by
  obtain ⟨_, _, _, _, _, _ | _⟩ := item
  · rfl
  · exact (String.append_empty).symm

namespace Tree

variable {tree : Tree} {id top : ItemId} {ids : List ItemId} {item : Item} {items : List Item}

/-- What a walk down that begins at each of some numbers visits: each item before everything below
it, what is below it in the order in which it lists its children, and what is below one number
before what is below the next. -/
inductive Preorder (tree : Tree) : List ItemId → List Item → Prop
  | nil : Preorder tree [] []
  | cons {id : ItemId} {ids : List ItemId} {item : Item} {below others : List Item}
    (found : tree.get? id = some item) (inside : Preorder tree item.childIds below)
    (rest : Preorder tree ids others) : Preorder tree (id :: ids) (item :: below ++ others)

/-- What the text of a tree has of an item: two spaces for each container it is in, what it says of
itself, the mark if it is listened to, and the end of the line. -/
def entry (tree : Tree) (item : Item) : String :=
  String.ofList (List.replicate (2 * (tree.ancestors item.id).length) ' ') ++ item.caption ++
    (if item.id ∈ tree.listeningContainers then listeningMark else "") ++ "\n"

/-- All items of a tree in the order of a walk down from the root. -/
structure Unfolds (tree : Tree) (items : List Item) : Prop where
  /-- The walk comes to an end, and there is one way for it to go. -/
  preorder_iff : ∀ visited, tree.Preorder [rootId] visited ↔ visited = items
  /-- Everything in the index is visited, and nothing else. -/
  get?_iff : ∀ id item, tree.get? id = some item ↔ item ∈ items ∧ item.id = id
  /-- Nothing is visited twice. -/
  nodup : (items.map (·.id)).Nodup

/-- Just the containers that are listened to are listed as such, so each has the mark that it has on
its own line. -/
theorem entry_eq (h : tree.get? item.id = some item) :
    tree.entry item = String.ofList (List.replicate (2 * (tree.ancestors item.id).length) ' ') ++
      item.line ++ "\n" := by
  have hmark : item.id ∈ tree.listeningContainers ↔ item.isListening = true := by
    rw [mem_listeningContainers_iff]
    refine ⟨fun ⟨found, hf, hl⟩ => ?_, fun hl => ⟨item, h, hl⟩⟩
    obtain rfl := Option.some.inj (h.symm.trans hf)
    exact hl
  unfold entry
  rw [Item.line_eq]
  simp only [hmark, String.append_assoc]

/-! ## Preorder -/

namespace Preorder

theorem append {ids' : List ItemId} {items' : List Item} (h : tree.Preorder ids items)
    (h' : tree.Preorder ids' items') : tree.Preorder (ids ++ ids') (items ++ items') := by
  induction h with
  | nil => exact h'
  | cons found inside _ _ ih =>
    rw [List.cons_append, List.cons_append, List.cons_append, List.append_assoc]
    exact .cons found inside ih

theorem flatMap {below : ItemId → List Item} :
    ∀ {ids : List ItemId}, (∀ id ∈ ids, tree.Preorder [id] (below id)) →
      tree.Preorder ids (ids.flatMap below)
  | [], _ => .nil
  | id :: _, h =>
    (h id List.mem_cons_self).append (flatMap fun id hid => h id (List.mem_cons_of_mem _ hid))

/-- There is one way to walk down. -/
theorem unique (h : tree.Preorder ids items) {other : List Item} (h' : tree.Preorder ids other) :
    other = items := by
  induction h generalizing other with
  | nil =>
    cases h' with
    | nil => rfl
  | cons found _ _ ihbelow ihothers =>
    cases h' with
    | cons found' inside' rest' =>
      obtain rfl := Option.some.inj (found.symm.trans found')
      rw [ihbelow inside', ihothers rest']

end Preorder

/-! ## The walk of the program -/

/-- The way to the root is as long as the root is far. -/
theorem Lineage.length_eq (hroot : tree.parent? rootId = none) {above : List ItemId}
    (h : tree.Lineage id above) {steps : Nat} (hbelow : tree.Below rootId steps id) :
    above.length = steps := by
  induction h generalizing steps with
  | root =>
    cases hbelow with
    | here => rfl
    | under step _ => exact nomatch hroot.symm.trans step
  | under step rest ih =>
    cases hbelow with
    | here => exact nomatch hroot.symm.trans step
    | under step' hbelow =>
      obtain rfl := Option.some.inj (step.symm.trans step')
      rw [List.length_cons, ih hbelow]

namespace WellFormed

/-- The walk down visits everything below an item, if it may take more steps than lead down from
there. -/
theorem preorder_within (wf : tree.WellFormed) {steps : Nat} :
    ∀ {depth : Nat} {top : ItemId}, (tree.get? top).isSome = true →
      (∀ {x n}, (tree.get? x).isSome = true → tree.Below top n x → n < steps) →
      tree.Preorder [top] ((tree.preorderWithin depth steps top).map (·.2)) := by
  induction steps with
  | zero => exact fun hthere deep => absurd (deep hthere .here) (Nat.not_lt_zero 0)
  | succ steps ih =>
    intro depth top hthere deep
    obtain ⟨item, ht⟩ := Option.isSome_iff_exists.mp hthere
    have hchildren : ∀ child ∈ item.childIds,
        tree.Preorder [child] ((tree.preorderWithin (depth + 1) steps child).map (·.2)) := by
      intro child hchild
      have hp := (wf.mem_childIds_iff ht).mp hchild
      refine ih (isSome_of_parent? hp) fun hx hbelow => ?_
      exact Nat.lt_of_succ_lt_succ (deep hx (hbelow.above hp))
    simp only [preorderWithin, ht]
    rw [List.map_cons, List.map_flatMap, ← List.append_nil (List.flatMap _ _)]
    exact .cons ht (.flatMap hchildren) .nil

/-- The walk down from the root visits everything. -/
theorem preorder_outline (wf : tree.WellFormed) :
    tree.Preorder [rootId] (tree.outline.map (·.2)) := by
  obtain ⟨root, hroot, -⟩ := wf.root
  exact wf.preorder_within (Option.isSome_of_eq_some hroot) fun hx hbelow =>
    wf.lt_size_of_below hx hbelow

/-- The depth is counted on from where the walk down begins. -/
theorem exists_below_of_mem_preorderWithin (wf : tree.WellFormed) {entry : Nat × Item}
    {steps : Nat} : ∀ {depth : Nat} {top : ItemId}, entry ∈ tree.preorderWithin depth steps top →
      ∃ levels, tree.Below top levels entry.2.id ∧ entry.1 = depth + levels := by
  induction steps with
  | zero => exact fun h => nomatch h
  | succ steps ih =>
    intro depth top h
    cases ht : tree.get? top with
    | none =>
      simp only [preorderWithin, ht] at h
      cases h
    | some item =>
      simp only [preorderWithin, ht] at h
      rcases List.mem_cons.mp h with rfl | h
      · exact ⟨0, wf.own_id ht ▸ .here, rfl⟩
      · obtain ⟨child, hchild, h⟩ := List.mem_flatMap.mp h
        obtain ⟨levels, hbelow, hdepth⟩ := ih h
        refine ⟨levels + 1, hbelow.above ((wf.mem_childIds_iff ht).mp hchild), ?_⟩
        omega

/-- The depth of an item is the number of containers that a walk up from it visits. -/
theorem length_ancestors_of_mem_outline (wf : tree.WellFormed) {entry : Nat × Item}
    (h : entry ∈ tree.outline) : (tree.ancestors entry.2.id).length = entry.1 := by
  have hget := get?_of_mem_preorderWithin wf h
  obtain ⟨levels, hbelow, hdepth⟩ := wf.exists_below_of_mem_preorderWithin h
  obtain ⟨above, hl⟩ := wf.lineage hget
  rw [wf.ancestors_eq hget hl, hl.length_eq wf.parent?_root hbelow, hdepth, Nat.zero_add]

/-- The text of a tree is what its items come to, in the order of the outline. -/
theorem render_eq (wf : tree.WellFormed) :
    tree.render = String.join ((tree.outline.map (·.2)).map tree.entry) := by
  have hentries : (tree.outline.map (·.2)).map tree.entry = tree.outline.map fun entry =>
      String.ofList (List.replicate (2 * entry.1) ' ') ++ entry.2.line ++ "\n" := by
    rw [List.map_map]
    refine List.map_congr_left fun entry hentry => ?_
    rw [Function.comp_apply, entry_eq (get?_of_mem_preorderWithin wf hentry),
      wf.length_ancestors_of_mem_outline hentry]
  rw [hentries, String.join, List.foldl_map]
  rfl

theorem unfolds_outline (wf : tree.WellFormed) : tree.Unfolds (tree.outline.map (·.2)) where
  preorder_iff visited := by
    refine ⟨wf.preorder_outline.unique, ?_⟩
    rintro rfl
    exact wf.preorder_outline
  get?_iff id item := by
    rw [wf.mem_outline_iff]
    constructor
    · intro h
      have hid := wf.own_id h
      exact ⟨hid ▸ h, hid⟩
    · rintro ⟨h, rfl⟩
      exact h
  nodup := wf.nodup_outline

end WellFormed

/-- Whatever is done to a new tree, and whichever of its changes wait, its text has one entry for each
item, in the order of a walk down from the root that comes to an end. -/
theorem render_run (mutations : List Mutation) (events : List TreeEvent) :
    ∃ items, { Tree.empty.run mutations with events }.Unfolds items ∧
      { Tree.empty.run mutations with events }.render =
        String.join (items.map { Tree.empty.run mutations with events }.entry) := by
  have wf : { Tree.empty.run mutations with events }.WellFormed :=
    (WellFormed.empty.run mutations).of_get?_eq fun _ => rfl
  exact ⟨_, wf.unfolds_outline, wf.render_eq⟩

/-- A kitchen is listened to that was moved to the ground floor, with a lamp in it. -/
example :
    (Tree.empty.run
      [.add rootId (.ofContainer 2 "Kitchen" "" false), .setListening 2 true,
        .add 2 (.ofDevice 3 "Lamp" "" false .actuator (.binary true)),
        .add rootId (.ofContainer 1 "Ground floor" "" false),
        .announce 1 (.ofContainer 2 "Kitchen" "" false)]).render =
      "Central unit (0)\n  Ground floor (1)\n    Kitchen (2) [listening]\n" ++
        "      Lamp (3) binary actuator = true\n" := by
  decide +kernel

end Tree

end Domotics
