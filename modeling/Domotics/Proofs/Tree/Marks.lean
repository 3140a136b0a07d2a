import Mathlib.Data.Finset.Basic
import Domotics.Proofs.Tree.Listened
import Domotics.Proofs.Tree.Removal
/-!
# What the events tell about listening

Whoever is told the events of a tree may keep the containers that are listened to: one is when its
mark is said to be put, and is not any more when the mark is said to be taken away or the container
is removed, for what comes later under its number is a new item. `heard` is what they keep.

They never keep too much. They miss a container that `Came` with its mark, since an item that comes
is told without it: one that is added with a mark, be it new or in the place of a device, and one
that moves, which is told as a removal and an addition. `heard_run` says that what is heard is what
is listened to just as long as no listened-to container comes that way.
-/

namespace Domotics

/-- What is kept of an event about listening. -/
def TreeEvent.hear (kept : Finset ItemId) : TreeEvent → Finset ItemId
  | .listeningChanged id true => insert id kept
  | .listeningChanged id false | .itemRemoved _ id => kept.erase id
  | .itemAdded _ _ | .itemChanged _ => kept

namespace Tree

variable {tree tree' : Tree} {id x parent : ItemId} {item : Item} {news : List TreeEvent}

/-- The containers that are listened to as far as events tell. -/
def heard (events : List TreeEvent) : Finset ItemId :=
  events.foldl TreeEvent.hear ∅

/-- The containers that are listened to. -/
def marks (tree : Tree) : Finset ItemId :=
  tree.listeningContainers.toFinset

/-- The events of a tree tell what is listened to. -/
def InStep (tree : Tree) : Prop :=
  heard tree.events = tree.marks

instance (tree : Tree) : Decidable tree.InStep :=
  inferInstanceAs (Decidable (_ = _))

/-- A container was not there before, or was a device, or stood somewhere else. -/
def Came (tree tree' : Tree) (id : ItemId) : Prop :=
  tree.kind? id ≠ some true ∨ tree'.parent? id ≠ tree.parent? id

/-- What was queued on the way from one tree to another tells what is listened to afterwards, except
for what came. -/
structure Marked (tree : Tree) (news : List TreeEvent) (tree' : Tree) : Prop where
  events : tree'.events = tree.events ++ news
  mem_iff : ∀ x, x ∈ news.foldl TreeEvent.hear tree.marks ↔
    x ∈ tree'.marks ∧ ¬ Came tree tree' x

theorem mem_marks : id ∈ tree.marks ↔ id ∈ tree.listened :=
  List.mem_toFinset.trans mem_listeningContainers_iff

theorem Alike.mem_marks_iff (h : Alike tree tree' x) : x ∈ tree'.marks ↔ x ∈ tree.marks := by
  rw [mem_marks, mem_marks]
  exact h.2

theorem heard_append (events : List TreeEvent) :
    heard (events ++ news) = news.foldl TreeEvent.hear (heard events) :=
  List.foldl_append

/-- Whoever keeps more keeps more after each event. -/
theorem foldl_hear_mono {kept kept' : Finset ItemId} (h : kept ⊆ kept') :
    news.foldl TreeEvent.hear kept ⊆ news.foldl TreeEvent.hear kept' := by
  induction news generalizing kept kept' with
  | nil => exact h
  | cons event news ih =>
    refine ih ?_
    cases event with
    | itemAdded _ _ => exact h
    | itemRemoved _ id => exact Finset.erase_subset_erase id h
    | itemChanged _ => exact h
    | listeningChanged id listening =>
      cases listening with
      | false => exact Finset.erase_subset_erase id h
      | true => exact Finset.insert_subset_insert id h

/-- Removals leave what is not removed. -/
theorem mem_foldl_hear_removed {kept : Finset ItemId} (parent : Item → ItemId) (items : List Item) :
    x ∈ (items.map fun item => TreeEvent.itemRemoved (parent item) item.id).foldl
        TreeEvent.hear kept ↔ x ∈ kept ∧ ∀ item ∈ items, x ≠ item.id := by
  induction items generalizing kept with
  | nil => simp
  | cons item items ih =>
    rw [List.map_cons, List.foldl_cons, ih, TreeEvent.hear, Finset.mem_erase, List.forall_mem_cons]
    tauto

/-- What is listened to did not come if its number stood for the same kind under the same parent. -/
theorem not_came (hx : x ∈ tree'.marks) (kind : tree'.kind? x = tree.kind? x)
    (parent : tree'.parent? x = tree.parent? x) : ¬ Came tree tree' x := by
  rintro (hkind | hparent)
  · exact hkind (kind ▸ kind?_of_mem_listened (mem_marks.mp hx))
  · exact hparent parent

namespace Marked

theorem refl (tree : Tree) : Marked tree [] tree where
  events := (List.append_nil _).symm
  mem_iff _ := (and_iff_left_of_imp fun hx => not_came hx rfl rfl).symm

/-- A change of one item that leaves its kind, its mark and its parent has nothing to tell. -/
theorem modify (h : Marked tree news tree') (id : ItemId) {change : Item → Item}
    (hc : ∀ item, (change item).isContainer = item.isContainer)
    (hl : ∀ item, (change item).isListening = item.isListening)
    (hp : ∀ item, (change item).parent = item.parent) :
    Marked tree news (tree'.modify id change) where
  events := h.events
  mem_iff x := by
    rw [h.mem_iff, (tree'.allAlike_modify id hc hl x).mem_marks_iff, Came, Came,
      tree'.parent?_modify id x hp]

theorem itemChanged (h : Marked tree news tree') (id : ItemId) :
    Marked tree (news ++ [.itemChanged id]) (tree'.note (.itemChanged id)) where
  events := by rw [note, h.events, List.append_assoc]
  mem_iff x := by
    rw [List.foldl_append]
    exact h.mem_iff x

/-- Events that tell too little before tell too little after. -/
theorem heard_subset (h : Marked tree news tree') (sub : heard tree.events ⊆ tree.marks) :
    heard tree'.events ⊆ tree'.marks := by
  rw [h.events, heard_append]
  exact fun x hx => ((h.mem_iff x).mp (foldl_hear_mono sub hx)).1

/-- What is heard stays what is listened to just if nothing comes that is listened to. -/
theorem inStep_iff (h : Marked tree news tree') (before : tree.InStep) :
    tree'.InStep ↔ ∀ x ∈ tree'.marks, ¬ Came tree tree' x := by
  unfold InStep
  rw [h.events, heard_append, before, Finset.ext_iff]
  simp only [h.mem_iff, and_iff_left_iff_imp]

/-- What takes over another item's name and value keeps its own mark. -/
theorem refreshed (h : Marked tree news tree') (id : ItemId) (item : Item) :
    Marked tree news (tree'.modify id fun current => refresh current item) := by
  refine h.modify id ?_ ?_ (fun _ => rfl) <;> obtain ⟨_, _, _, _, _, _ | _⟩ := item <;>
    rintro ⟨_, _, _, _, _, _ | _⟩ <;> rfl

theorem withValue (h : Marked tree news tree') (id : ItemId) (value : DeviceValue) :
    Marked tree news (tree'.modify id fun item => item.withValue value) := by
  refine h.modify id ?_ ?_ ?_ <;> rintro ⟨_, _, _, _, _, _ | _⟩ <;> rfl

/-- An item that is added under a number that did not stand for its kind comes, and its mark is not
told. -/
theorem addUnder (h : Marked tree news tree') (quiet : ∀ x ∈ tree'.marks, ¬ Came tree tree' x)
    (gone : tree'.get? item.id = none) (other : tree.kind? item.id ≠ some item.isContainer)
    (parent : ItemId) :
    Marked tree (news ++ [.itemAdded parent item.id]) (tree'.addUnder parent item) where
  events := by
    rw [← List.append_assoc, ← h.events]
    rfl
  mem_iff x := by
    rw [List.foldl_append]
    change x ∈ news.foldl TreeEvent.hear tree.marks ↔ _
    rw [h.mem_iff, and_iff_left_of_imp (quiet x)]
    by_cases hx : x = item.id
    · subst hx
      refine iff_of_false (fun hmem => ?_) fun ⟨hmem, stays⟩ => stays (Or.inl ?_)
      · exact not_mem_listened_of_get?_eq_none gone (mem_marks.mp hmem)
      · rwa [← kind?_of_mem_listened (mem_marks.mp hmem), kind?_addUnder]
    · have hparent := tree'.parent?_addUnder parent item x
      rw [if_neg hx] at hparent
      rw [(tree'.alike_addUnder parent item hx).mem_marks_iff, Came, hparent]
      exact (and_iff_left_of_imp (quiet x)).symm

/-- An item that moves comes from elsewhere, and its mark is not told. -/
theorem moveUnder {old : ItemId} (hold : tree.parent? id = some old) (hne : old ≠ parent) :
    Marked tree [.itemRemoved old id, .itemAdded parent id] (tree.moveUnder id parent) where
  events := by
    rw [moveUnder_eq tree parent id hold]
    exact List.append_assoc _ _ _
  mem_iff x := by
    change x ∈ tree.marks.erase id ↔ _
    have halike := tree.allAlike_moveUnder id parent x
    have hparent := tree.parent?_moveUnder parent x id hold
    rw [Finset.mem_erase, and_comm, ← halike.mem_marks_iff]
    refine and_congr_right fun hmem => ?_
    by_cases hx : x = id
    · subst hx
      rw [if_pos rfl] at hparent
      refine iff_of_false (fun h => h rfl) (fun stays => stays (Or.inr ?_))
      rw [hparent, hold]
      exact fun heq => hne (Option.some.inj heq).symm
    · rw [if_neg hx] at hparent
      exact iff_of_true hx (not_came hmem halike.1 hparent)

/-- A mark that is put or taken away is told. -/
theorem setListening {listening changed : Bool}
    (h : tree.setListening id listening = .ok (changed, tree')) :
    ∃ news, Marked tree news tree' := by
  rcases tree.setListening_cases id listening with ⟨_, -, heq⟩ | ⟨-, heq⟩ | ⟨hnow, heq⟩
  · rw [heq] at h
    cases h
  · rw [heq] at h
    cases h
    exact ⟨[], .refl tree⟩
  · rw [heq] at h
    cases h
    obtain ⟨item, hi, hc, -⟩ := isListening_eq_ok_iff.mp hnow
    obtain ⟨hkinds, hmarks⟩ := withListening_of_get?_eq_some hi hc listening
    refine ⟨[.listeningChanged id listening], rfl, fun x => ?_⟩
    have hparent : (tree.modify id fun item => item.withListening listening).parent? x =
        tree.parent? x := by
      refine tree.parent?_modify id x ?_
      rintro ⟨_, _, _, _, _, _ | _⟩ <;> rfl
    refine Iff.trans ?_ (and_iff_left_of_imp fun hmem => not_came hmem (hkinds x) hparent).symm
    rw [mem_marks]
    refine Iff.trans ?_ (hmarks x).symm
    rw [← mem_marks]
    cases listening with
    | false =>
      change x ∈ tree.marks.erase id ↔ _
      split <;> simp_all
    | true =>
      change x ∈ insert id tree.marks ↔ _
      split <;> simp_all

end Marked

namespace WellFormed

/-- What was there is there after a removal just if it was not removed. -/
theorem forall_removed_ne_iff (wf : tree.WellFormed) (hne : id ≠ rootId)
    (hp : tree.parent? id = some parent) (h : tree.get? x = some item) :
    (∀ gone ∈ (tree.remove id).1, x ≠ gone.id) ↔ ((tree.remove id).2.get? x).isSome = true := by
  have hcascades := wf.cascades_remove hne hp
  constructor
  · intro hstays
    have hx : ¬ tree.Within id x := by
      intro hw
      obtain rfl := wf.own_id h
      exact hstays item ((hcascades.mem_iff item).mpr ⟨h, wf.reaches_iff.mpr hw⟩) rfl
    rw [wf.get?_remove_of_not_within hne hp hx, detach, isSome_get?_modify, h]
    rfl
  · rintro hthere gone hgone rfl
    rw [hcascades.gone gone hgone] at hthere
    cases hthere

/-- What stays when an item is removed did not come. -/
theorem not_came_remove (wf : tree.WellFormed) (hne : id ≠ rootId)
    (hp : tree.parent? id = some parent) (hx : x ∈ (tree.remove id).2.marks) :
    ¬ Came tree (tree.remove id).2 x := by
  have hthere : (tree.remove id).2.get? x ≠ none :=
    fun hnone => not_mem_listened_of_get?_eq_none hnone (mem_marks.mp hx)
  have hw : ¬ tree.Within id x := fun hw => hthere (wf.get?_remove_of_within hne hp hw)
  exact not_came hx ((wf.prunes_remove id x).resolve_left hthere).1 (wf.parent?_remove hne hp hw)

/-- What is removed is told, and nothing comes. -/
theorem marked_remove (wf : tree.WellFormed) (id : ItemId) :
    ∃ news, Marked tree news (tree.remove id).2 ∧
      ∀ x ∈ (tree.remove id).2.marks, ¬ Came tree (tree.remove id).2 x := by
  by_cases hroot : id = rootId
  · rw [remove_of_eq_root hroot]
    exact ⟨[], .refl tree, fun x hx => not_came hx rfl rfl⟩
  cases hp : tree.parent? id with
  | none =>
    rw [remove_of_parent?_eq_none hp]
    exact ⟨[], .refl tree, fun x hx => not_came hx rfl rfl⟩
  | some parent =>
    have hquiet := fun x => wf.not_came_remove hroot hp (x := x)
    refine ⟨_, ⟨events_remove_eq hroot hp, fun x => ?_⟩, hquiet⟩
    rw [mem_foldl_hear_removed (fun item => item.parent.getD rootId), and_iff_left_of_imp (hquiet x),
      mem_marks, mem_marks, (wf.prunes_remove id).mem_listened_iff]
    refine and_congr_right fun hl => ?_
    obtain ⟨item, hi, -⟩ := hl
    exact wf.forall_removed_ne_iff hroot hp hi

/-! ## Every operation -/

theorem marked_updating (wf : tree.WellFormed) (parent : ItemId) (item : Item) :
    ∃ news, Marked tree news (tree.updating parent item).tree := by
  have hrefl := Marked.refl tree
  have hcases := tree.updating_cases parent item
  generalize tree.updating parent item = edited at hcases
  cases hcases with
  | rootMissing _ _ => exact ⟨_, hrefl⟩
  | missing _ _ => exact ⟨_, hrefl⟩
  | refused _ _ _ _ => exact ⟨_, hrefl⟩
  | rootRenamed _ =>
    have hrename : Marked tree [] (tree.modify rootId fun root => rename root item) :=
      hrefl.modify rootId (fun _ => rfl) (fun _ => rfl) (fun _ => rfl)
    exact ⟨_, hrename.itemChanged item.id⟩
  | refreshed _ _ _ _ => exact ⟨_, (hrefl.refreshed item.id item).itemChanged item.id⟩
  | moved other found _ leaves check =>
    obtain ⟨old, children, hold, hne, -, -⟩ := wf.exists_move other found leaves check
    exact ⟨_, ((Marked.moveUnder hold hne).refreshed item.id item).itemChanged item.id⟩
  | replaced other found kind check =>
    obtain ⟨-, hgone, heq⟩ := wf.replace_eq other found check
    obtain ⟨news, hremoved, hquiet⟩ := wf.marked_remove item.id
    rw [heq]
    refine ⟨_, hremoved.addUnder hquiet hgone ?_ parent⟩
    rw [kind?, found]
    exact fun same => kind (Option.some.inj same)

end WellFormed

/-- What is added did not stand for anything before. -/
theorem marked_addUnder (hnew : tree.get? item.id = none) (parent : ItemId) :
    Marked tree [.itemAdded parent item.id] (tree.addUnder parent item) := by
  refine (Marked.refl tree).addUnder (fun x hx => not_came hx rfl rfl) hnew ?_ parent
  rw [kind?, hnew]
  exact (Option.some_ne_none _).symm

namespace WellFormed

theorem marked_announcing (wf : tree.WellFormed) (parent : ItemId) (item : Item) :
    ∃ news, Marked tree news (tree.announcing parent item).tree := by
  rcases tree.announcing_cases parent item with ⟨_, -, heq⟩ | ⟨_, -, -, heq⟩ | ⟨_, hnew, -, heq⟩
  · rw [heq]
    exact wf.marked_updating parent item
  · rw [heq]
    exact ⟨_, .refl tree⟩
  · rw [heq]
    exact ⟨_, marked_addUnder hnew parent⟩

theorem marked_mutate (wf : tree.WellFormed) (mutation : Mutation) :
    ∃ news, Marked tree news (tree.mutate mutation).tree := by
  have hrefl := Marked.refl tree
  cases mutation with
  | add parent item =>
    simp only [Tree.mutate]
    rcases tree.add_cases parent item with ⟨_, _, h⟩ | ⟨_, _, _, h⟩ | ⟨_, hnew, _, h⟩
    · rw [h]
      exact ⟨_, hrefl⟩
    · rw [h]
      exact ⟨_, hrefl⟩
    · rw [h]
      exact ⟨_, marked_addUnder hnew parent⟩
  | remove id =>
    obtain ⟨news, hremoved, -⟩ := wf.marked_remove id
    exact ⟨news, hremoved⟩
  | announce parent item => exact wf.marked_announcing parent item
  | update parent item => exact wf.marked_updating parent item
  | setName name => exact ⟨_, hrefl.modify rootId (fun _ => rfl) (fun _ => rfl) (fun _ => rfl)⟩
  | setBinary id on =>
    simp only [Tree.mutate]
    cases h : tree.setBinary id on with
    | error e => exact ⟨_, hrefl⟩
    | ok tree' =>
      rw [setBinary_eq_ok h]
      exact ⟨_, (hrefl.withValue id _).itemChanged id⟩
  | setDecimal id value =>
    simp only [Tree.mutate]
    cases h : tree.setDecimal id value with
    | error e => exact ⟨_, hrefl⟩
    | ok tree' =>
      obtain ⟨quantity, rfl⟩ := setDecimal_eq_ok h
      exact ⟨_, (hrefl.withValue id _).itemChanged id⟩
  | setListening id listening =>
    simp only [Tree.mutate]
    cases h : tree.setListening id listening with
    | error e => exact ⟨_, hrefl⟩
    | ok outcome => exact Marked.setListening h

end WellFormed

/-! ## Runs -/

theorem run_concat (mutations : List Mutation) (mutation : Mutation) :
    tree.run (mutations ++ [mutation]) = ((tree.run mutations).mutate mutation).tree :=
  List.foldl_concat _ _ _ _

/-- In a new tree nothing is listened to, and nothing was told. -/
theorem inStep_empty : Tree.empty.InStep := by
  decide +kernel

/-- Whatever is done to a new tree: nothing is heard of that is not listened to, and what is heard is
what is listened to just as long as no container that is listened to comes: is added with its mark,
takes the place of a device with it, or moves. -/
theorem heard_run (mutations : List Mutation) :
    heard (Tree.empty.run mutations).events ⊆
        (Tree.empty.run mutations).listeningContainers.toFinset ∧
      ((∀ done, done <+: mutations → (Tree.empty.run done).InStep) ↔
        ∀ done mutation, done ++ [mutation] <+: mutations →
          ∀ id ∈ (Tree.empty.run (done ++ [mutation])).listeningContainers,
            ¬ Came (Tree.empty.run done) (Tree.empty.run (done ++ [mutation])) id) := by
  have hstep : ∀ done mutation, ∃ news,
      Marked (Tree.empty.run done) news (Tree.empty.run (done ++ [mutation])) := by
    intro done mutation
    rw [run_concat]
    exact (WellFormed.empty.run done).marked_mutate mutation
  refine ⟨?_, fun hin done mutation hdone => ?_, fun hnone done hdone => ?_⟩
  · change heard _ ⊆ (Tree.empty.run mutations).marks
    induction mutations using List.reverseRecOn with
    | nil => exact (inStep_empty : heard _ = _).subset
    | append_singleton done mutation ih =>
      obtain ⟨news, h⟩ := hstep done mutation
      exact h.heard_subset ih
  · obtain ⟨news, h⟩ := hstep done mutation
    have hbefore := hin done ((List.prefix_append done [mutation]).trans hdone)
    intro id hid
    exact (h.inStep_iff hbefore).mp (hin _ hdone) id (List.mem_toFinset.mpr hid)
  · induction done using List.reverseRecOn with
    | nil => exact inStep_empty
    | append_singleton done mutation ih =>
      obtain ⟨news, h⟩ := hstep done mutation
      have hbefore := ih ((List.prefix_append done [mutation]).trans hdone)
      refine (h.inStep_iff hbefore).mpr fun id hid => ?_
      exact hnone done mutation hdone id (List.mem_toFinset.mp hid)

/-- A floor that is listened to is not heard of any more when it moves, though it is still listened
to, and not when it was removed and a copy of it with its mark is added again. -/
theorem not_inStep_floor :
    let floor : Item := .ofContainer 1 "Floor" "" false
    let attic : Item := .ofContainer 2 "Attic" "" false
    ¬ (Tree.empty.run [.add rootId floor, .add rootId attic, .setListening 1 true,
        .announce 2 floor]).InStep ∧
      ¬ (Tree.empty.run [.add rootId floor, .setListening 1 true, .remove 1,
        .add rootId (floor.withListening true)]).InStep := by
  decide +kernel

end Tree

end Domotics
