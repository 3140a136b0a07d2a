import Domotics.Proofs.Tree.Descent
import Domotics.Proofs.Tree.Preservation
/-!
# Removing an item with everything below it

Removing an item that is not the root `Cascades`: the item and everything below it go in postorder,
with one event for each of them, the container of the item lists it no more, and all other items
are as they were (`WellFormed.cascades_remove`). So an item that was just added, and has nothing
below it yet, leaves no trace in the items when it is removed (`WellFormed.remove_addUnder`).
-/

namespace Domotics.Tree

variable {tree tree' : Tree} {id parent : ItemId} {item : Item} {removed : List Item}

/-- An item and everything below it go. -/
structure Cascades (tree : Tree) (id : ItemId) (removed : List Item) (tree' : Tree) : Prop where
  /-- What goes is the item and what is reached from it, with the fields that it had. -/
  mem_iff : ∀ item, item ∈ removed ↔ tree.get? item.id = some item ∧ tree.Reaches id item.id
  /-- Nothing goes twice. -/
  nodup : (removed.map (·.id)).Nodup
  /-- Siblings go in the order in which they are listed, each with what is below it. -/
  postorder : tree.Postorder [id] removed
  /-- Nothing goes before what is below it. -/
  below_first : removed.Pairwise fun earlier later => ¬ tree.Reaches earlier.id later.id
  /-- The item itself goes last. -/
  last : ∃ below item, tree.get? id = some item ∧ removed = below ++ [item]
  /-- Each item is told to go from its own parent. -/
  told : ∃ events, tree'.events = tree.events ++ events ∧
    List.Forall₂ (fun item event => ∃ parent, item.parent = some parent ∧
      event = TreeEvent.itemRemoved parent item.id) removed events
  /-- What went is not there any more. -/
  gone : ∀ item ∈ removed, tree'.get? item.id = none
  /-- The container of the item lists the others as before. -/
  left : ∃ parent container, tree.parent? id = some parent ∧ tree.get? parent = some container ∧
    tree'.get? parent = some (container.withChildren (container.childIds.filter (· ≠ id)))
  /-- Everything else stays as it is. -/
  kept : ∀ x, ¬ tree.Reaches id x → tree.parent? id ≠ some x → tree'.get? x = tree.get? x

namespace WellFormed

/-- Everything below an item that is not the root has a parent. -/
theorem exists_parent_of_reaches (wf : tree.WellFormed) (hne : id ≠ rootId)
    (h : tree.get? item.id = some item) (hx : tree.Reaches id item.id) :
    ∃ parent, item.parent = some parent := by
  have hroot : item.id ≠ rootId := by
    intro hroot
    rw [hroot, wf.reaches_iff] at hx
    exact wf.not_within_root hne hx
  obtain ⟨parent, -, hp, -⟩ := wf.listed h hroot
  exact ⟨parent, hp⟩

theorem cascades_remove (wf : tree.WellFormed) (hne : id ≠ rootId)
    (h : tree.parent? id = some parent) :
    tree.Cascades id (tree.remove id).1 (tree.remove id).2 := by
  have hpostorder : tree.Postorder [id] (tree.remove id).1 := by
    rw [wf.removed_eq hne h]
    exact wf.postorder_postorderWithin (isSome_of_parent? h)
  have hmem : ∀ item, item ∈ (tree.remove id).1 ↔
      tree.get? item.id = some item ∧ tree.Reaches id item.id := by
    intro item
    rw [hpostorder.mem_iff wf.own_id]
    simp
  have hbelow := hpostorder.pairwise wf (List.pairwise_singleton _ _)
  obtain ⟨container, hcontainer, -⟩ := wf.exists_container h
  refine ⟨hmem, ?_, hpostorder, hbelow, hpostorder.exists_eq_append, ?_, ?_, ?_, ?_⟩
  · refine List.pairwise_map.mpr (hbelow.imp fun hne heq => hne ?_)
    rw [heq]
    exact .refl
  · refine ⟨_, events_remove_eq hne h, List.forall₂_map_right_iff.mpr ?_⟩
    refine List.forall₂_same.mpr fun item hitem => ?_
    obtain ⟨hget, hreaches⟩ := (hmem item).mp hitem
    obtain ⟨above, ha⟩ := wf.exists_parent_of_reaches hne hget hreaches
    exact ⟨above, ha, by rw [ha, Option.getD_some]⟩
  · intro item hitem
    exact wf.get?_remove_of_within hne h (wf.reaches_iff.mp ((hmem item).mp hitem).2)
  · refine ⟨parent, container, h, hcontainer, ?_⟩
    rw [wf.get?_remove_of_not_within hne h (wf.not_within_of_parent? h), detach, get?_modify,
      if_pos rfl, hcontainer, Option.map_some]
  · intro x hx hparent
    rw [wf.reaches_iff] at hx
    rw [wf.get?_remove_of_not_within hne h hx, detach, get?_modify, if_neg]
    rintro rfl
    exact hparent h

/-- An item that was just added is all that goes when it is removed, and the items are as they were
before it came. -/
theorem remove_addUnder (wf : tree.WellFormed) (hnew : tree.get? item.id = none)
    {children : List ItemId} (hk : tree.kids? parent = some children) :
    ((tree.addUnder parent item).remove item.id).1 = [(item.withChildren []).under parent] ∧
      ((tree.addUnder parent item).remove item.id).2.items = tree.items := by
  obtain ⟨container, hcontainer, hc, -⟩ := kids?_eq_some.mp hk
  obtain ⟨root, hroot, -⟩ := wf.root
  have hother : ∀ {x}, (tree.get? x).isSome = true → x ≠ item.id := ne_of_get?_eq_none hnew
  have hne : item.id ≠ rootId := (hother (Option.isSome_of_eq_some hroot)).symm
  have hpi : parent ≠ item.id := hother (Option.isSome_of_eq_some hcontainer)
  have hadded : (tree.addUnder parent item).get? item.id =
      some ((item.withChildren []).under parent) := by
    rw [get?_addUnder, if_pos rfl]
  have hbare : ((item.withChildren []).under parent).childIds = [] :=
    (item.childIds_withChildren []).trans (ite_self _)
  have hparent : (tree.addUnder parent item).parent? item.id = some parent := by
    rw [parent?_addUnder, if_pos rfl]
  have halone : ∀ {x}, (tree.addUnder parent item).Reaches item.id x ↔ x = item.id := by
    intro x
    rw [reaches_iff_eq_or hadded, hbare]
    simp
  have hcascades := (wf.addUnder hnew hk).cascades_remove hne hparent
  have hremoved := hcascades.postorder.eq_singleton hadded hbare
  refine ⟨hremoved, Std.ExtTreeMap.ext_getElem? fun {x} => ?_⟩
  change ((tree.addUnder parent item).remove item.id).2.get? x = tree.get? x
  by_cases hx : x = item.id
  · have hgone := hcascades.gone _ (hremoved ▸ List.mem_singleton_self _)
    rw [hx, hnew]
    exact (item.id_withChildren []) ▸ hgone
  by_cases hxp : x = parent
  · subst hxp
    obtain ⟨parent', container', hparent', hcontainer', hleft⟩ := hcascades.left
    rw [hparent] at hparent'
    obtain rfl := Option.some.inj hparent'
    rw [get?_addUnder, if_neg hx, attach, get?_modify, if_pos rfl, hcontainer] at hcontainer'
    obtain rfl := Option.some.inj hcontainer'
    have hout : item.id ∉ container.childIds := fun hmem =>
      hother (isSome_of_parent? ((wf.mem_childIds_iff hcontainer).mp hmem)) rfl
    have hsame : (container.childIds ++ [item.id]).filter (· ≠ item.id) = container.childIds := by
      rw [List.filter_append, List.filter_cons_of_neg (by simp), List.filter_nil, List.append_nil]
      exact List.filter_eq_self.mpr fun y hy => decide_eq_true fun heq => hout (heq ▸ hy)
    rw [hleft, hcontainer, Item.withChildren_withChildren, Item.childIds_withChildren, if_pos hc,
      hsame, Item.withChildren_childIds]
  · rw [hcascades.kept x (fun h => hx (halone.mp h)) (by simpa [hparent, eq_comm] using hxp),
      get?_addUnder, if_neg hx, attach, get?_modify, if_neg hxp]

end WellFormed

/-- Removing the root, or what is not there, does nothing. Removing anything else takes it out with
everything below it, tells so and leaves the rest. So removing an item that was just added brings
the items back that were there before. -/
theorem WellFormed.remove_effect (wf : tree.WellFormed) (id : ItemId) :
    (id = rootId ∨ tree.get? id = none → tree.remove id = ([], tree)) ∧
      (id ≠ rootId → (tree.get? id).isSome = true →
        tree.Cascades id (tree.remove id).1 (tree.remove id).2) ∧
      ∀ {parent item tree'}, tree.add parent item = .ok tree' →
        (tree'.remove item.id).1 = [(item.withChildren []).under parent] ∧
          (tree'.remove item.id).2.items = tree.items := by
  refine ⟨?_, fun hne hthere => ?_, fun {parent item tree'} hadd => ?_⟩
  · rintro (hroot | hnone)
    · exact remove_of_eq_root hroot
    · exact remove_of_parent?_eq_none (parent?_of_get?_eq_none hnone)
  · obtain ⟨item, hitem⟩ := Option.isSome_iff_exists.mp hthere
    obtain ⟨parent, hp⟩ := wf.exists_parent hitem hne
    exact wf.cascades_remove hne hp
  · rcases tree.add_cases parent item with ⟨_, _, h⟩ | ⟨_, _, _, h⟩ | ⟨children, hnew, hk, h⟩
    · rw [h] at hadd
      cases hadd
    · rw [h] at hadd
      cases hadd
    · rw [h] at hadd
      obtain rfl := Except.ok.inj hadd
      exact wf.remove_addUnder hnew hk

/-- A floor goes with a room, the lamp in the room and a sensor beside it, and a lamp that was put
into the garden goes alone. -/
theorem remove_effect_floor :
    let tree := Tree.empty.run
      [.add rootId (.ofContainer 1 "Ground floor" "" false),
        .add 1 (.ofContainer 2 "Kitchen" "" false), .setListening 2 true,
        .add rootId (.ofContainer 5 "Garden" "" false),
        .add 1 (.ofDevice 4 "Door" "" true .sensor (.binary false)),
        .add 2 (.ofDevice 3 "Lamp" "" false .actuator (.binary true))]
    let lamp : Item := .ofDevice 6 "Lamp" "" false .actuator (.binary true)
    tree.WellFormed ∧
      tree.Cascades 1
        [⟨3, "Lamp", "", false, some 2, .device .actuator (.binary true)⟩,
          ⟨2, "Kitchen", "", false, some 1, .container [3] true⟩,
          ⟨4, "Door", "", true, some 1, .device .sensor (.binary false)⟩,
          ⟨1, "Ground floor", "", false, some rootId, .container [2, 4] false⟩]
        (tree.remove 1).2 ∧
      tree.remove rootId = ([], tree) ∧ tree.remove 7 = ([], tree) ∧
      ∃ tree', tree.add 5 lamp = .ok tree' ∧ (tree'.remove 6).2.items = tree.items := by
  intro tree lamp
  have wf : tree.WellFormed := WellFormed.empty.run _
  have hremoved : (tree.remove 1).1 =
      [⟨3, "Lamp", "", false, some 2, .device .actuator (.binary true)⟩,
        ⟨2, "Kitchen", "", false, some 1, .container [3] true⟩,
        ⟨4, "Door", "", true, some 1, .device .sensor (.binary false)⟩,
        ⟨1, "Ground floor", "", false, some rootId, .container [2, 4] false⟩] := by
    decide +kernel
  have hadd : tree.add 5 lamp = .ok (tree.addUnder 5 lamp) := rfl
  refine ⟨wf, ?_, (wf.remove_effect rootId).1 (Or.inl rfl),
    (wf.remove_effect 7).1 (Or.inr (by decide +kernel)), _, hadd, ?_⟩
  · exact hremoved ▸ (wf.remove_effect 1).2.1 (by decide) (by decide +kernel)
  · exact ((wf.remove_effect 6).2.2 hadd).2

end Domotics.Tree
