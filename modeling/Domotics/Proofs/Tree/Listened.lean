import Mathlib.Order.BooleanAlgebra.Set
import Mathlib.Data.Set.Insert
import Domotics.Proofs.Tree.Preservation
/-!
# What is listened to, and what is lost

For listening, a tree is looked at through two views: which containers are listened to (`listened`),
and whether a number stands for a container, a device or nothing (`kind?`). An item is `lost` on the
way from one tree to another if its number stands for nothing any more, or for the other kind.

Edits of single items and moves leave both views alone (`AllAlike`). Removing prunes a tree
(`Prunes`): what stays is as it was. `WellFormed.listened_announcing` puts this together for
announcements: afterwards just that is listened to which was before and is not lost.
-/

namespace Domotics.Tree

variable {tree tree' tree'' : Tree} {id x parent : ItemId} {item : Item}

/-! ## The views -/

/-- Whether a number stands for a container, if it stands for an item. -/
def kind? (tree : Tree) (id : ItemId) : Option Bool :=
  (tree.get? id).map (·.isContainer)

/-- The containers that are listened to. -/
def listened (tree : Tree) : Set ItemId :=
  {id | ∃ item, tree.get? id = some item ∧ item.isListening = true}

/-- The items of a tree that are not in a later one any more, or made way for one of the other kind
under their number. -/
def lost (tree tree' : Tree) : Set ItemId :=
  {id | tree.kind? id ≠ none ∧ tree'.kind? id ≠ tree.kind? id}

/-- A number is listened to, and stands for a container or a device, as before. -/
def Alike (tree tree' : Tree) (x : ItemId) : Prop :=
  tree'.kind? x = tree.kind? x ∧ (x ∈ tree'.listened ↔ x ∈ tree.listened)

/-- All numbers are as before. -/
def AllAlike (tree tree' : Tree) : Prop :=
  ∀ x, Alike tree tree' x

/-- Some items were taken out, and the others are as before. -/
def Prunes (tree tree' : Tree) : Prop :=
  ∀ x, tree'.get? x = none ∨ Alike tree tree' x

theorem not_mem_listened_of_get?_eq_none (h : tree.get? id = none) : id ∉ tree.listened := by
  rintro ⟨item, hi, -⟩
  rw [h] at hi
  cases hi

theorem kind?_of_mem_listened (h : id ∈ tree.listened) : tree.kind? id = some true := by
  obtain ⟨item, hi, hl⟩ := h
  unfold kind?
  rw [hi]
  exact congrArg some (Item.isContainer_of_isListening hl)

/-- Both views depend on the items alone. -/
theorem alike_of_get?_eq (h : tree'.get? x = tree.get? x) : Alike tree tree' x := by
  refine ⟨congrArg (Option.map _) h, ?_⟩
  change (∃ item, _) ↔ ∃ item, _
  rw [h]

theorem lost_eq_empty (h : ∀ x, tree'.kind? x = tree.kind? x) : lost tree tree' = ∅ :=
  Set.eq_empty_of_forall_notMem fun x hx => hx.2 (h x)

namespace AllAlike

theorem refl (tree : Tree) : AllAlike tree tree :=
  fun _ => ⟨rfl, Iff.rfl⟩

theorem trans (h : AllAlike tree tree') (h' : AllAlike tree' tree'') : AllAlike tree tree'' :=
  fun x => ⟨(h' x).1.trans (h x).1, (h' x).2.trans (h x).2⟩

theorem listened_eq (h : AllAlike tree tree') : tree'.listened = tree.listened :=
  Set.ext fun x => (h x).2

theorem prunes (h : AllAlike tree tree') : Prunes tree tree' :=
  fun x => Or.inr (h x)

end AllAlike

namespace Prunes

theorem refl (tree : Tree) : Prunes tree tree :=
  fun x => Or.inr (AllAlike.refl tree x)

theorem trans (h : Prunes tree tree') (h' : Prunes tree' tree'') : Prunes tree tree'' := by
  intro x
  rcases h' x with hx' | hx'
  · exact Or.inl hx'
  · rcases h x with hx | hx
    · refine Or.inl ?_
      have := hx'.1
      unfold kind? at this
      rw [hx] at this
      exact Option.map_eq_none_iff.mp this
    · exact Or.inr ⟨hx'.1.trans hx.1, hx'.2.trans hx.2⟩

/-- Pruning leaves what was listened to and is still there. -/
theorem mem_listened_iff (h : Prunes tree tree') :
    x ∈ tree'.listened ↔ x ∈ tree.listened ∧ (tree'.get? x).isSome = true := by
  rcases h x with hx | hx
  · rw [hx]
    exact ⟨fun hl => absurd hl (not_mem_listened_of_get?_eq_none hx), fun hl => nomatch hl.2⟩
  · rw [hx.2]
    refine ⟨fun hl => ⟨hl, ?_⟩, fun hl => hl.1⟩
    obtain ⟨item, hi, -⟩ := hx.2.mpr hl
    rw [hi]
    rfl

theorem listened_eq (h : Prunes tree tree') : tree'.listened = tree.listened \ lost tree tree' := by
  ext x
  rw [Set.mem_sdiff]
  rcases h x with hx | hx
  · refine ⟨fun hl => absurd hl (not_mem_listened_of_get?_eq_none hx), fun ⟨hl, hstays⟩ => ?_⟩
    refine absurd ⟨?_, ?_⟩ hstays
    · rw [kind?_of_mem_listened hl]
      exact Option.some_ne_none true
    · rw [kind?_of_mem_listened hl, kind?, hx]
      exact (Option.some_ne_none true).symm
  · rw [hx.2]
    exact ⟨fun hl => ⟨hl, fun hlost => hlost.2 hx.1⟩, fun hl => hl.1⟩

end Prunes

/-! ## Edits -/

section Edits

variable (tree id parent item)

/-- A change of one item that leaves it the container or device it is, and its mark, is not seen. -/
theorem allAlike_modify {change : Item → Item}
    (hc : ∀ item, (change item).isContainer = item.isContainer)
    (hl : ∀ item, (change item).isListening = item.isListening) :
    AllAlike tree (tree.modify id change) := by
  intro x
  by_cases hx : x = id
  · subst hx
    have hget := tree.get?_modify x x change
    rw [if_pos rfl] at hget
    cases h : tree.get? x with
    | none =>
      rw [h] at hget
      exact alike_of_get?_eq (hget.trans h.symm)
    | some item =>
      rw [h] at hget
      refine ⟨?_, ?_⟩
      · unfold kind?
        rw [hget, h]
        exact congrArg some (hc item)
      · change (∃ item, _) ↔ ∃ item, _
        rw [hget, h]
        simp [hl]
  · refine alike_of_get?_eq ?_
    rw [get?_modify, if_neg hx]

theorem allAlike_note (event : TreeEvent) : AllAlike tree (tree.note event) :=
  fun _ => alike_of_get?_eq rfl

theorem allAlike_attach : AllAlike tree (tree.attach parent id) :=
  tree.allAlike_modify parent (fun item => item.isContainer_withChildren _)
    (fun item => item.isListening_withChildren _)

theorem allAlike_detach : AllAlike tree (tree.detach parent id) :=
  tree.allAlike_modify parent (fun item => item.isContainer_withChildren _)
    (fun item => item.isListening_withChildren _)

theorem allAlike_refresh : AllAlike tree (tree.modify id fun current => refresh current item) := by
  refine tree.allAlike_modify id ?_ ?_ <;> obtain ⟨_, _, _, _, _, _ | _⟩ := item <;>
    rintro ⟨_, _, _, _, _, _ | _⟩ <;> rfl

theorem allAlike_withValue (value : DeviceValue) :
    AllAlike tree (tree.modify id fun item => item.withValue value) := by
  refine tree.allAlike_modify id ?_ ?_ <;> rintro ⟨_, _, _, _, _, _ | _⟩ <;> rfl

theorem allAlike_moveUnder : AllAlike tree (tree.moveUnder id parent) := by
  have hunder : ∀ left : Tree, AllAlike left (left.modify id fun item => item.under parent) :=
    fun left => left.allAlike_modify id (fun _ => rfl) (fun _ => rfl)
  simp only [moveUnder]
  refine AllAlike.trans (AllAlike.trans ?_ (hunder _)) (allAlike_note _ _)
  split
  · exact tree.allAlike_attach id parent
  · exact ((tree.allAlike_attach id parent).trans (allAlike_detach _ id _)).trans
      (allAlike_note _ _)

/-- A new item that is not listened to is all that adding it brings. -/
theorem alike_addUnder (hx : x ≠ item.id) : Alike tree (tree.addUnder parent item) x := by
  have h := tree.get?_addUnder parent item x
  rw [if_neg hx] at h
  have hattach := tree.allAlike_attach item.id parent x
  have hadd := alike_of_get?_eq h
  exact ⟨hadd.1.trans hattach.1, hadd.2.trans hattach.2⟩

theorem kind?_addUnder : (tree.addUnder parent item).kind? item.id = some item.isContainer := by
  unfold kind?
  rw [get?_addUnder, if_pos rfl]
  exact congrArg some (item.isContainer_withChildren [])

theorem not_mem_listened_addUnder (quiet : item.isListening = false) :
    item.id ∉ (tree.addUnder parent item).listened := by
  rintro ⟨found, hf, hl⟩
  rw [get?_addUnder, if_pos rfl] at hf
  obtain rfl := Option.some.inj hf
  change (item.withChildren []).isListening = true at hl
  rw [item.isListening_withChildren, quiet] at hl
  cases hl

end Edits

theorem allAlike_setBinary {on : Bool} (h : tree.setBinary id on = .ok tree') :
    AllAlike tree tree' := by
  rw [setBinary_eq_ok h]
  exact (tree.allAlike_withValue id _).trans (allAlike_note _ _)

theorem allAlike_setDecimal {value : Binary64} (h : tree.setDecimal id value = .ok tree') :
    AllAlike tree tree' := by
  obtain ⟨quantity, rfl⟩ := setDecimal_eq_ok h
  exact (tree.allAlike_withValue id _).trans (allAlike_note _ _)

/-- Adding what is not listened to, under a number that does not stand for its kind, to what is left
of a tree, changes only that number. -/
theorem Prunes.listened_addUnder (h : Prunes tree tree')
    (other : tree.kind? item.id ≠ some item.isContainer) (quiet : item.isListening = false) :
    (tree'.addUnder parent item).listened =
      tree.listened \ lost tree (tree'.addUnder parent item) := by
  ext x
  rw [Set.mem_sdiff]
  by_cases hx : x = item.id
  · subst hx
    refine ⟨fun hl => absurd hl (tree'.not_mem_listened_addUnder parent item quiet),
      fun ⟨hl, hstays⟩ => absurd ⟨?_, ?_⟩ hstays⟩
    · rw [kind?_of_mem_listened hl]
      exact Option.some_ne_none true
    · rw [kind?_addUnder]
      exact other.symm
  · have halike := tree'.alike_addUnder parent item hx
    rw [halike.2, h.listened_eq, Set.mem_sdiff]
    unfold lost
    rw [Set.mem_ofPred_eq, Set.mem_ofPred_eq, halike.1]

/-! ## Removing -/

namespace WellFormed

theorem prunes_remove (wf : tree.WellFormed) (id : ItemId) : Prunes tree (tree.remove id).2 := by
  by_cases hroot : id = rootId
  · rw [remove_of_eq_root hroot]
    exact .refl tree
  cases hp : tree.parent? id with
  | none =>
    rw [remove_of_parent?_eq_none hp]
    exact .refl tree
  | some parent =>
    intro x
    by_cases hx : tree.Within id x
    · exact Or.inl (wf.get?_remove_of_within hroot hp hx)
    · refine Or.inr ?_
      have hdetach := tree.allAlike_detach id parent x
      have hstays := alike_of_get?_eq (wf.get?_remove_of_not_within hroot hp hx)
      exact ⟨hstays.1.trans hdetach.1, hstays.2.trans hdetach.2⟩

/-- An announcement leaves every item the kind it was, with its mark, or puts a new item in the
place of nothing or of one of the other kind, which goes with everything below it. -/
theorem announcing_alike (wf : tree.WellFormed) (parent : ItemId) (item : Item) :
    AllAlike tree (tree.announcing parent item).tree ∨
      tree.kind? item.id ≠ some item.isContainer ∧
        (tree.announcing parent item).tree = (tree.remove item.id).2.addUnder parent item := by
  rcases tree.announcing_cases parent item with ⟨_, -, heq⟩ | ⟨_, -, -, heq⟩ | ⟨_, hnew, -, heq⟩
  · rw [heq]
    have hcases := tree.updating_cases parent item
    generalize tree.updating parent item = edited at hcases
    cases hcases with
    | rootMissing _ _ => exact Or.inl (.refl tree)
    | missing _ _ => exact Or.inl (.refl tree)
    | refused _ _ _ _ => exact Or.inl (.refl tree)
    | rootRenamed _ =>
      have same : AllAlike tree (tree.modify rootId fun root => rename root item) :=
        tree.allAlike_modify rootId (fun _ => rfl) (fun _ => rfl)
      exact Or.inl (same.trans (allAlike_note _ _))
    | refreshed _ _ _ _ =>
      exact Or.inl ((tree.allAlike_refresh item.id item).trans (allAlike_note _ _))
    | moved _ _ _ _ _ =>
      exact Or.inl (((tree.allAlike_moveUnder item.id parent).trans
        (allAlike_refresh _ _ item)).trans (allAlike_note _ _))
    | replaced other found kind check =>
      obtain ⟨-, -, heq⟩ := wf.replace_eq other found check
      refine Or.inr ⟨?_, congrArg Edited.tree heq⟩
      rw [kind?, found]
      exact fun h => kind (Option.some.inj h)
  · rw [heq]
    exact Or.inl (.refl tree)
  · rw [heq, remove_of_parent?_eq_none (parent?_of_get?_eq_none hnew)]
    refine Or.inr ⟨?_, rfl⟩
    rw [kind?, hnew]
    exact (Option.some_ne_none _).symm

/-- After an announcement, whether or not it can be applied, just that is listened to which was
before and is not lost. -/
theorem listened_announcing (wf : tree.WellFormed) (quiet : item.isListening = false) :
    (tree.announcing parent item).tree.listened =
      tree.listened \ lost tree (tree.announcing parent item).tree := by
  rcases wf.announcing_alike parent item with same | ⟨other, heq⟩
  · exact same.prunes.listened_eq
  · rw [heq]
    exact (wf.prunes_remove item.id).listened_addUnder other quiet

end WellFormed

/-! ## Listening marks -/

/-- A container that gets a mark or loses it stays a container, and the other marks stay. -/
theorem withListening_of_get?_eq_some (hi : tree.get? id = some item)
    (hc : item.isContainer = true) (listening : Bool) :
    (∀ x, (tree.modify id fun item => item.withListening listening).kind? x = tree.kind? x) ∧
      ∀ x, x ∈ (tree.modify id fun item => item.withListening listening).listened ↔
        if x = id then listening = true else x ∈ tree.listened := by
  have hget := fun x => tree.get?_modify id x fun item => item.withListening listening
  constructor
  · intro x
    unfold kind?
    rw [hget]
    split
    · cases tree.get? x <;> simp
    · rfl
  · intro x
    by_cases hx : x = id
    · subst hx
      have hx := hget x
      rw [if_pos rfl, hi] at hx
      rw [if_pos rfl]
      refine ⟨fun ⟨found, hf, hl⟩ => ?_, fun hl => ⟨_, hx, ?_⟩⟩
      · rw [hx] at hf
        obtain rfl := Option.some.inj hf
        rw [item.isListening_withListening, hc] at hl
        exact hl
      · rw [item.isListening_withListening, hc]
        exact hl
    · rw [if_neg hx]
      refine (alike_of_get?_eq ?_).2
      rw [hget, if_neg hx]

/-- Setting a mark that is as wanted changes nothing. -/
theorem setListening_eq_ok_false {listening : Bool}
    (h : tree.setListening id listening = .ok (false, tree')) : tree' = tree := by
  rcases tree.setListening_cases id listening with ⟨_, -, heq⟩ | ⟨-, heq⟩ | ⟨-, heq⟩
  · rw [heq] at h
    cases h
  · rw [heq] at h
    cases h
    rfl
  · rw [heq] at h
    cases h

/-- Setting a mark that was not as wanted changes that mark alone. -/
theorem setListening_eq_ok_true {listening : Bool}
    (h : tree.setListening id listening = .ok (true, tree')) :
    (∀ x, tree'.kind? x = tree.kind? x) ∧ (id ∈ tree.listened ↔ listening = false) ∧
      ∀ x, x ∈ tree'.listened ↔ if x = id then listening = true else x ∈ tree.listened := by
  rcases tree.setListening_cases id listening with ⟨_, -, heq⟩ | ⟨-, heq⟩ | ⟨hnow, heq⟩
  · rw [heq] at h
    cases h
  · rw [heq] at h
    cases h
  · rw [heq] at h
    cases h
    obtain ⟨item, hi, hc, hl⟩ := isListening_eq_ok_iff.mp hnow
    obtain ⟨hkinds, hmarks⟩ := withListening_of_get?_eq_some hi hc listening
    have hnote := allAlike_note (tree.modify id fun item => item.withListening listening)
      (.listeningChanged id listening)
    refine ⟨fun x => (hnote x).1.trans (hkinds x), ?_, fun x => (hnote x).2.trans (hmarks x)⟩
    refine ⟨fun ⟨found, hf, hl'⟩ => ?_, fun hoff => ⟨item, hi, ?_⟩⟩
    · rw [hi] at hf
      obtain rfl := Option.some.inj hf
      rw [hl] at hl'
      exact Bool.not_eq_true' _ ▸ hl'
    · rw [hl, hoff]
      rfl

/-- A mark that is put changes that mark alone. -/
theorem setListening_true_eq_ok (h : tree.setListening id true = .ok (true, tree')) :
    (∀ x, tree'.kind? x = tree.kind? x) ∧ id ∉ tree.listened ∧
      tree'.listened = insert id tree.listened := by
  obtain ⟨hkinds, hid, hmarks⟩ := setListening_eq_ok_true h
  refine ⟨hkinds, fun hmem => (nomatch hid.mp hmem), ?_⟩
  ext x
  rw [hmarks, Set.mem_insert_iff]
  split <;> simp_all

/-- A mark that is taken away changes that mark alone. -/
theorem setListening_false_eq_ok (h : tree.setListening id false = .ok (true, tree')) :
    (∀ x, tree'.kind? x = tree.kind? x) ∧ id ∈ tree.listened ∧
      tree'.listened = tree.listened \ {id} := by
  obtain ⟨hkinds, hid, hmarks⟩ := setListening_eq_ok_true h
  refine ⟨hkinds, hid.mpr rfl, ?_⟩
  ext x
  rw [hmarks, Set.mem_sdiff, Set.mem_singleton_iff]
  split <;> simp_all

/-- What cannot get a mark, or has none to lose, is not listened to. -/
theorem not_mem_listened_of_setListening {result : Except Error (Bool × Tree)}
    (h : tree.setListening id false = result) (hno : ∀ tree', result ≠ .ok (true, tree')) :
    id ∉ tree.listened := by
  rintro ⟨item, hi, hl⟩
  have hnow : tree.isListening id = .ok true :=
    isListening_eq_ok_iff.mpr ⟨item, hi, Item.isContainer_of_isListening hl, hl⟩
  rcases tree.setListening_cases id false with ⟨_, hnow', -⟩ | ⟨hnow', -⟩ | ⟨-, heq⟩
  · rw [hnow] at hnow'
    cases hnow'
  · rw [hnow] at hnow'
    cases hnow'
  · exact hno _ (h.symm.trans heq)

theorem mem_listeningContainers_iff : id ∈ tree.listeningContainers ↔ id ∈ tree.listened := by
  unfold listeningContainers
  simp only [List.mem_map, List.mem_filter]
  constructor
  · rintro ⟨⟨x, item⟩, ⟨hmem, hl⟩, rfl⟩
    exact ⟨item, Std.ExtTreeMap.mem_toList_iff_getElem?_eq_some.mp hmem, hl⟩
  · rintro ⟨item, hi, hl⟩
    exact ⟨(id, item), ⟨Std.ExtTreeMap.mem_toList_iff_getElem?_eq_some.mpr hi, hl⟩, rfl⟩

theorem listeningContainers_eq_nil_iff : tree.listeningContainers = [] ↔ tree.listened = ∅ := by
  rw [List.eq_nil_iff_forall_not_mem, Set.eq_empty_iff_forall_notMem]
  exact forall_congr' fun _ => not_congr mem_listeningContainers_iff

/-- The containers listened to are listed in ascending order. -/
theorem pairwise_listeningContainers : tree.listeningContainers.Pairwise (· < ·) := by
  unfold listeningContainers
  rw [List.pairwise_map]
  refine List.Pairwise.filter _ (Std.ExtTreeMap.ordered_keys_toList.imp ?_)
  intro a b h
  exact Std.compare_eq_lt.mp h

theorem nodup_listeningContainers : tree.listeningContainers.Nodup :=
  pairwise_listeningContainers.imp fun h => Int32.ne_of_lt h

end Domotics.Tree
