import Domotics.Proofs.Tree.Removal
/-!
# Announcing an item again

An item that is there already and is announced again stays where it is (`Refreshed`), moves with
everything below it to the end of another container (`Moved`), or makes way for one of the other
kind with everything below it (`Replaced`). In each case the items are told apart that change, and
all others are as they were. `WellFormed.update_effect` puts the cases together, with the root,
which only ever changes how it is called.

Both a move and a replacement take an item out of one list and put it at the end of one, possibly
the same (`Relisted`).
-/

namespace Domotics.Tree

variable {tree tree' tree'' : Tree} {id x parent old new : ItemId} {item existing container : Item}

/-- An item is called as announced, and a device has the role and the value that were announced.
Children and listening mark are its own. -/
structure Renews (before announced after : Item) : Prop where
  id : after.id = before.id
  name : after.name = announced.name
  description : after.description = announced.description
  internal : after.internal = announced.internal
  role? : after.role? = announced.role?
  value? : after.value? = announced.value?
  isContainer : after.isContainer = before.isContainer
  childIds : after.childIds = before.childIds
  isListening : after.isListening = before.isListening

/-- An item left the list of one container and stands at the end of the list of one, the others in
both lists as before, and what is not below the item is otherwise as it was. -/
structure Relisted (tree : Tree) (id old new : ItemId) (tree' : Tree) : Prop where
  left : old ≠ new → ∃ container, tree.get? old = some container ∧
    tree'.get? old = some (container.withChildren (container.childIds.filter (· ≠ id)))
  entered : ∃ container, tree.get? new = some container ∧ container.isContainer = true ∧
    tree'.get? new = some (container.withChildren (container.childIds.filter (· ≠ id) ++ [id]))
  kept : ∀ x, ¬ tree.Reaches id x → x ≠ old → x ≠ new → tree'.get? x = tree.get? x

/-- Nothing changed but how the root is called. -/
structure RootRenamed (tree : Tree) (item : Item) (tree' : Tree) : Prop where
  renamed : ∃ root, tree.get? rootId = some root ∧ tree'.get? rootId = some
    { root with name := item.name, description := item.description, internal := item.internal }
  kept : ∀ x, x ≠ rootId → tree'.get? x = tree.get? x

/-- Nothing changed but the item itself, which has the parent it had. -/
structure Refreshed (tree : Tree) (before item : Item) (tree' : Tree) : Prop where
  renewed : ∃ after, tree'.get? item.id = some after ∧ Renews before item after ∧
    after.parent = before.parent
  kept : ∀ x, x ≠ item.id → tree'.get? x = tree.get? x

/-- The item stands in another container, with everything below it as it was. -/
structure Moved (tree : Tree) (before item : Item) (old new : ItemId) (tree' : Tree) : Prop where
  renewed : ∃ after, tree'.get? item.id = some after ∧ Renews before item after ∧
    after.parent = some new
  below : ∀ x, x ≠ item.id → tree.Reaches item.id x → tree'.get? x = tree.get? x
  reaches : ∀ x, tree'.Reaches item.id x ↔ tree.Reaches item.id x
  lists : tree.Relisted item.id old new tree'

/-- Everything below the item is gone, and the announced item stands in its place. -/
structure Replaced (tree : Tree) (item : Item) (old new : ItemId) (tree' : Tree) : Prop where
  stands : tree'.get? item.id = some ((item.withChildren []).under new)
  gone : ∀ x, x ≠ item.id → tree.Reaches item.id x → tree'.get? x = none
  lists : tree.Relisted item.id old new tree'

theorem renews_refresh (kind : existing.isContainer = item.isContainer) :
    Renews existing item (refresh existing item) := by
  obtain ⟨_, _, _, _, _, _ | _⟩ := existing <;> obtain ⟨_, _, _, _, _, _ | _⟩ := item <;>
    first | exact ⟨rfl, rfl, rfl, rfl, rfl, rfl, rfl, rfl, rfl⟩ | cases kind

theorem Renews.under (h : Renews existing item container) (parent : ItemId) :
    Renews existing item (container.under parent) :=
  ⟨h.id, h.name, h.description, h.internal, h.role?, h.value?, h.isContainer, h.childIds,
    h.isListening⟩

/-- What becomes of the item itself does not matter to the others. -/
theorem Relisted.congr (h : tree.Relisted id old new tree')
    (same : ∀ x, x ≠ id → tree''.get? x = tree'.get? x) (hoi : old ≠ id) (hni : new ≠ id) :
    tree.Relisted id old new tree'' where
  left hne := by
    rw [same old hoi]
    exact h.left hne
  entered := by
    rw [same new hni]
    exact h.entered
  kept x hx hxo hxn := by
    rw [same x (fun heq => hx (heq ▸ .refl))]
    exact h.kept x hx hxo hxn

/-- What is below an item is below it still if all parents but its own are the same. -/
theorem Within.congr {top : ItemId} (h : tree.Within top x)
    (same : ∀ y, y ≠ top → tree'.parent? y = tree.parent? y) : tree'.Within top x := by
  obtain ⟨steps, h⟩ := h
  induction h with
  | here => exact .refl tree' top
  | @under y _ _ step _ ih =>
    by_cases hy : y = top
    · exact hy ▸ .refl tree' y
    · exact .under ((same y hy).trans step) ih

theorem rootRenamed_rename {root : Item} (hroot : tree.get? rootId = some root)
    (event : TreeEvent) :
    tree.RootRenamed item ((tree.modify rootId fun root => rename root item).note event) := by
  refine ⟨⟨root, hroot, ?_⟩, fun x hx => ?_⟩
  · rw [get?_note, get?_modify, if_pos rfl, hroot]
    rfl
  · rw [get?_note, get?_modify, if_neg hx]

theorem refreshed_refresh (found : tree.get? item.id = some existing)
    (kind : existing.isContainer = item.isContainer) (event : TreeEvent) :
    tree.Refreshed existing item
      ((tree.modify item.id fun current => refresh current item).note event) := by
  refine ⟨⟨refresh existing item, ?_, renews_refresh kind, rfl⟩, fun x hx => ?_⟩
  · rw [get?_note, get?_modify, if_pos rfl, found, Option.map_some]
  · rw [get?_note, get?_modify, if_neg hx]

namespace WellFormed

/-- A container that an item does not name does not list it. -/
theorem filter_childIds (wf : tree.WellFormed) (h : tree.get? x = some container)
    (hp : tree.parent? id ≠ some x) : container.childIds.filter (· ≠ id) = container.childIds := by
  refine List.filter_eq_self.mpr fun child hchild => decide_eq_true ?_
  rintro rfl
  exact hp ((wf.mem_childIds_iff h).mp hchild)

/-- Whatever is not removed with an item lists it no more. -/
theorem get?_remove_of_not_reaches (wf : tree.WellFormed) (hne : id ≠ rootId)
    (h : tree.parent? id = some old) (hx : ¬ tree.Reaches id x) :
    (tree.remove id).2.get? x =
      (tree.get? x).map fun item => item.withChildren (item.childIds.filter (· ≠ id)) := by
  rw [wf.reaches_iff] at hx
  rw [wf.get?_remove_of_not_within hne h hx, detach, get?_modify]
  by_cases hxo : x = old
  · rw [if_pos hxo]
  · rw [if_neg hxo]
    cases hget : tree.get? x with
    | none => rfl
    | some container =>
      have hp : tree.parent? id ≠ some x := by
        rw [h]
        exact fun heq => hxo (Option.some.inj heq).symm
      rw [Option.map_some, wf.filter_childIds hget hp, Item.withChildren_childIds]

/-- An item that may move there and the containers it moves between are three. -/
theorem ne_of_move (wf : tree.WellFormed) (hold : tree.parent? id = some old)
    (hapart : ¬ tree.Within id new) : old ≠ id ∧ new ≠ id := by
  constructor
  · rintro rfl
    exact wf.not_within_of_parent? hold (.refl tree _)
  · rintro rfl
    exact hapart (.refl tree _)

/-- Neither container is below the item that moves. -/
theorem ne_of_reaches (wf : tree.WellFormed) (hold : tree.parent? id = some old)
    (hapart : ¬ tree.Within id new) (hx : tree.Reaches id x) : x ≠ old ∧ x ≠ new := by
  rw [wf.reaches_iff] at hx
  constructor
  · rintro rfl
    exact wf.not_within_of_parent? hold hx
  · rintro rfl
    exact hapart hx

theorem relisted_moveUnder (wf : tree.WellFormed) (hold : tree.parent? id = some old)
    (hne : old ≠ new) (hapart : ¬ tree.Within id new) {children : List ItemId}
    (hk : tree.kids? new = some children) : tree.Relisted id old new (tree.moveUnder id new) := by
  obtain ⟨hoi, hni⟩ := wf.ne_of_move hold hapart
  have hget := fun x => tree.get?_moveUnder new x id hold hoi hni hne
  obtain ⟨oldContainer, ho, -⟩ := wf.exists_container hold
  obtain ⟨newContainer, hn, hc, -⟩ := kids?_eq_some.mp hk
  refine ⟨fun _ => ⟨oldContainer, ho, ?_⟩, ⟨newContainer, hn, hc, ?_⟩, fun x hx hxo hxn => ?_⟩
  · rw [hget, if_neg hoi, if_neg hne, if_pos rfl, ho, Option.map_some]
  · have hlist : newContainer.childIds.filter (· ≠ id) = newContainer.childIds :=
      wf.filter_childIds hn (by simpa [hold] using hne)
    rw [hget, if_neg hni, if_pos rfl, hn, Option.map_some, hlist]
  · have hxi : x ≠ id := by
      rintro rfl
      exact hx .refl
    rw [hget, if_neg hxi, if_neg hxn, if_neg hxo]

theorem moved_moveUnder (wf : tree.WellFormed) (found : tree.get? item.id = some existing)
    (kind : existing.isContainer = item.isContainer) (hold : tree.parent? item.id = some old)
    (hne : old ≠ new) (hapart : ¬ tree.Within item.id new) {children : List ItemId}
    (hk : tree.kids? new = some children) (event : TreeEvent) :
    tree.Moved existing item old new
      (((tree.moveUnder item.id new).modify item.id fun current =>
        refresh current item).note event) := by
  obtain ⟨hoi, hni⟩ := wf.ne_of_move hold hapart
  have hget := fun x => tree.get?_moveUnder new x item.id hold hoi hni hne
  have hlists := wf.relisted_moveUnder hold hne hapart hk
  have wf' := ((wf.moveUnder hold hne hapart hk).refreshed item.id item).note event
  generalize hafter : ((tree.moveUnder item.id new).modify item.id fun current =>
    refresh current item).note event = after at wf' ⊢
  have hother : ∀ x, x ≠ item.id → after.get? x = (tree.moveUnder item.id new).get? x := by
    intro x hx
    rw [← hafter, get?_note, get?_modify, if_neg hx]
  have hparent : ∀ x, x ≠ item.id → after.parent? x = tree.parent? x := by
    intro x hx
    have hmove := tree.parent?_moveUnder new x item.id hold
    rw [if_neg hx] at hmove
    rw [← hmove, parent?_congr (hother x hx)]
  refine ⟨⟨refresh (existing.under new) item, ?_, (renews_refresh kind).under new, rfl⟩,
    fun x hx hreaches => ?_, fun x => ?_, hlists.congr hother hoi hni⟩
  · rw [← hafter, get?_note, get?_modify, if_pos rfl, hget, if_pos rfl, found, Option.map_some,
      Option.map_some]
  · obtain ⟨hxo, hxn⟩ := wf.ne_of_reaches hold hapart hreaches
    rw [hother x hx, hget, if_neg hx, if_neg hxn, if_neg hxo]
  · rw [wf'.reaches_iff, wf.reaches_iff]
    exact ⟨fun h => h.congr fun y hy => (hparent y hy).symm, fun h => h.congr hparent⟩

theorem replaced_addUnder (wf : tree.WellFormed) (hne : item.id ≠ rootId)
    (hold : tree.parent? item.id = some old) (hapart : ¬ tree.Within item.id new)
    {children : List ItemId} (hk : tree.kids? new = some children) :
    tree.Replaced item old new ((tree.remove item.id).2.addUnder new item) := by
  rw [← wf.reaches_iff] at hapart
  have hadd : ∀ x, x ≠ item.id → ((tree.remove item.id).2.addUnder new item).get? x =
      ((tree.remove item.id).2.attach new item.id).get? x := by
    intro x hx
    rw [get?_addUnder, if_neg hx]
  have hself : ∀ {x}, ¬ tree.Reaches item.id x → x ≠ item.id := by
    rintro x hx rfl
    exact hx .refl
  have hold' : ¬ tree.Reaches item.id old := by
    rw [wf.reaches_iff]
    exact wf.not_within_of_parent? hold
  obtain ⟨oldContainer, ho, -⟩ := wf.exists_container hold
  obtain ⟨newContainer, hn, hc, -⟩ := kids?_eq_some.mp hk
  refine ⟨?_, fun x hx hreaches => ?_, fun hon => ⟨oldContainer, ho, ?_⟩,
    ⟨newContainer, hn, hc, ?_⟩, fun x hx hxo hxn => ?_⟩
  · rw [get?_addUnder, if_pos rfl]
  · have hxn : x ≠ new := by
      rintro rfl
      exact hapart hreaches
    rw [hadd x hx, attach, get?_modify, if_neg hxn]
    exact wf.get?_remove_of_within hne hold (wf.reaches_iff.mp hreaches)
  · rw [hadd old (hself hold'), attach, get?_modify, if_neg hon,
      wf.get?_remove_of_not_reaches hne hold hold', ho, Option.map_some]
  · rw [hadd new (hself hapart), attach, get?_modify, if_pos rfl,
      wf.get?_remove_of_not_reaches hne hold hapart, hn, Option.map_some, Option.map_some,
      Item.withChildren_withChildren, Item.childIds_withChildren, if_pos hc]
  · rw [hadd x (hself hx), attach, get?_modify, if_neg hxn]
    exact (wf.cascades_remove hne hold).kept x hx (by simpa [hold, eq_comm] using hxo)

end WellFormed

theorem update_eq_ok_iff : tree.update parent item = .ok tree' ↔
    (tree.updating parent item).result = .ok () ∧ (tree.updating parent item).tree = tree' := by
  unfold update Edited.toExcept
  cases (tree.updating parent item).result with
  | error e => exact ⟨nofun, nofun⟩
  | ok _ => exact ⟨fun h => ⟨rfl, Except.ok.inj h⟩, fun h => congrArg Except.ok h.2⟩

theorem WellFormed.update_root (wf : tree.WellFormed) (isRoot : item.id = rootId)
    (parent : ItemId) :
    ∃ tree', tree.update parent item = .ok tree' ∧ tree.RootRenamed item tree' := by
  obtain ⟨root, hroot, -⟩ := wf.root
  have hdone : tree.updating parent item = _ := updating_of_root isRoot hroot
  exact ⟨_, update_eq_ok_iff.mpr ⟨by rw [hdone]; rfl, by rw [hdone]; rfl⟩,
    rootRenamed_rename hroot _⟩

/-- What the announcement of an item that is there already does, if it can be applied. The root only
ever changes how it is called. Another item of the same kind stays where it is if it is announced
under the container it is in, and moves if it is announced under another one. An item of the other
kind takes the place of the old one and of everything below it. -/
theorem WellFormed.update_effect (wf : tree.WellFormed) (parent : ItemId) (item : Item) :
    (item.id = rootId →
      ∃ tree', tree.update parent item = .ok tree' ∧ tree.RootRenamed item tree') ∧
    ∀ {existing tree'}, item.id ≠ rootId → tree.get? item.id = some existing →
      tree.update parent item = .ok tree' →
        ∃ old, existing.parent = some old ∧
          (existing.isContainer = item.isContainer → old = parent →
            tree.Refreshed existing item tree') ∧
          (existing.isContainer = item.isContainer → old ≠ parent →
            tree.Moved existing item old parent tree') ∧
          (existing.isContainer ≠ item.isContainer → tree.Replaced item old parent tree') := by
  refine ⟨fun isRoot => wf.update_root isRoot parent, fun {existing tree'} other found h => ?_⟩
  obtain ⟨hok, rfl⟩ := update_eq_ok_iff.mp h
  obtain ⟨old, hold⟩ := wf.exists_parent found other
  have hparent : existing.parent = some old := (parent?_of_get? found).symm.trans hold
  refine ⟨old, hparent, ?_⟩
  clear h
  have hcases := tree.updating_cases parent item
  generalize tree.updating parent item = edited at hcases hok ⊢
  cases hcases with
  | rootMissing isRoot _ => exact absurd isRoot other
  | rootRenamed isRoot => exact absurd isRoot other
  | missing _ absent =>
    rw [found] at absent
    cases absent
  | refused _ _ _ _ => cases hok
  | replaced _ found' kind check =>
    rw [found] at found'
    obtain rfl := Option.some.inj found'
    obtain ⟨hapart, children, hk⟩ := wf.checkParent_eq_ok_iff.mp check
    obtain ⟨-, -, heq⟩ := wf.replace_eq other found check
    refine ⟨fun same => absurd same kind, fun same => absurd same kind, fun _ => ?_⟩
    rw [heq]
    exact wf.replaced_addUnder other hold hapart hk
  | refreshed _ found' kind stays =>
    rw [found] at found'
    obtain rfl := Option.some.inj found'
    refine ⟨fun _ _ => refreshed_refresh found kind _, fun _ hne => ?_,
      fun differs => absurd kind differs⟩
    rw [hparent] at stays
    exact absurd (Option.some.inj stays) hne
  | moved _ found' kind leaves check =>
    rw [found] at found'
    obtain rfl := Option.some.inj found'
    obtain ⟨hapart, children, hk⟩ := wf.checkParent_eq_ok_iff.mp check
    refine ⟨fun _ heq => ?_, fun _ hne => wf.moved_moveUnder found kind hold hne hapart hk _,
      fun differs => absurd kind differs⟩
    rw [hparent, heq] at leaves
    exact absurd rfl leaves

/-- The root is renamed, a lamp switched, a kitchen moved from a floor to the garden with the lamp in
it, and the kitchen replaced by a socket on the same floor. -/
theorem update_effect_house :
    let tree := Tree.empty.run
      [.add rootId (.ofContainer 1 "Ground floor" "" false),
        .add 1 (.ofContainer 2 "Kitchen" "" false), .setListening 2 true,
        .add 2 (.ofDevice 3 "Lamp" "" false .actuator (.binary false)),
        .add 1 (.ofDevice 4 "Door" "" true .sensor (.binary false)),
        .add rootId (.ofContainer 5 "Garden" "" false)]
    let home : Item := .ofContainer rootId "Home" "" true
    let lamp : Item := ⟨3, "Lamp", "", false, some 2, .device .actuator (.binary false)⟩
    let lit : Item := .ofDevice 3 "Lamp" "" false .actuator (.binary true)
    let kitchen : Item := ⟨2, "Kitchen", "", false, some 1, .container [3] true⟩
    let outdoors : Item := .ofContainer 2 "Outdoor kitchen" "" false
    let socket : Item := .ofDevice 2 "Socket" "" false .actuator (.binary false)
    tree.WellFormed ∧
      (∃ tree', tree.update 7 home = .ok tree' ∧ tree.RootRenamed home tree') ∧
      (∃ tree', tree.update 2 lit = .ok tree' ∧ tree.Refreshed lamp lit tree') ∧
      (∃ tree', tree.update 5 outdoors = .ok tree' ∧ tree.Moved kitchen outdoors 1 5 tree') ∧
      ∃ tree', tree.update 1 socket = .ok tree' ∧ tree.Replaced socket 1 1 tree' := by
  intro tree home lamp lit kitchen outdoors socket
  have wf : tree.WellFormed := WellFormed.empty.run _
  have hlamp : tree.get? 3 = some lamp := by decide +kernel
  have hkitchen : tree.get? 2 = some kitchen := by decide +kernel
  have hlit : tree.update 2 lit = .ok (tree.updating 2 lit).tree := rfl
  have houtdoors : tree.update 5 outdoors = .ok (tree.updating 5 outdoors).tree := rfl
  have hsocket : tree.update 1 socket = .ok (tree.updating 1 socket).tree := rfl
  refine ⟨wf, (wf.update_effect 7 home).1 rfl, ⟨_, hlit, ?_⟩, ⟨_, houtdoors, ?_⟩, ⟨_, hsocket, ?_⟩⟩
  · obtain ⟨old, hold, hrefreshed, -, -⟩ :=
      (wf.update_effect 2 lit).2 (by decide) hlamp hlit
    exact hrefreshed rfl (Option.some.inj hold).symm
  · obtain ⟨old, hold, -, hmoved, -⟩ :=
      (wf.update_effect 5 outdoors).2 (by decide) hkitchen houtdoors
    obtain rfl := Option.some.inj hold
    exact hmoved rfl (by decide)
  · obtain ⟨old, hold, -, -, hreplaced⟩ :=
      (wf.update_effect 1 socket).2 (by decide) hkitchen hsocket
    obtain rfl := Option.some.inj hold
    exact hreplaced (by decide)

end Domotics.Tree
