import Domotics.Proofs.Tree.Reannouncement
/-!
# Announcing an item twice

A central unit announces all items of a container again each time the client starts to listen to it.
Whatever the first announcement of an item did, it left the item where and as it was announced, if
it did anything (`WellFormed.stands_announcing`). What stands as it is announced is not changed by
the announcement, apart from the event that is queued (`Stands.announcing`). So announcing an item
twice comes to announcing it once (`WellFormed.announcing_twice`).
-/

namespace Domotics.Tree

variable {tree : Tree} {parent : ItemId} {item existing : Item}

/-! ## What has been taken over already -/

theorem rename_rename (current announced : Item) :
    rename (rename current announced) announced = rename current announced :=
  rfl

theorem refresh_refresh (current announced : Item) :
    refresh (refresh current announced) announced = refresh current announced := by
  obtain ⟨_, _, _, _, _, _ | _⟩ := current <;> obtain ⟨_, _, _, _, _, _ | _⟩ := announced <;> rfl

/-- An item that was added as it was announced has nothing to take over. -/
theorem refresh_under (item : Item) (children : List ItemId) (parent : ItemId) :
    refresh ((item.withChildren children).under parent) item =
      (item.withChildren children).under parent := by
  obtain ⟨_, _, _, _, _, _ | _⟩ := item <;> rfl

theorem isContainer_refresh (current announced : Item) :
    (refresh current announced).isContainer = current.isContainer := by
  obtain ⟨_, _, _, _, _, _ | _⟩ := current <;> obtain ⟨_, _, _, _, _, _ | _⟩ := announced <;> rfl

/-- A change that an item does not show is no change of the tree. -/
theorem modify_eq_self {id : ItemId} {change : Item → Item} (found : tree.get? id = some existing)
    (same : change existing = existing) : tree.modify id change = tree := by
  refine congrArg (fun items => Tree.mk items tree.events) (Std.ExtTreeMap.ext_getElem? fun x => ?_)
  have hget := tree.get?_modify id x change
  split at hget
  · rename_i heq
    rw [heq, found, Option.map_some, same, ← found] at hget
    rw [heq]
    exact hget
  · exact hget

/-! ## Items that stand as announced -/

/-- The root is called as announced, or an item stands in the container it is announced under, is of
the announced kind and has nothing to take over. -/
inductive Stands (tree : Tree) (parent : ItemId) (item : Item) : Prop
  | root {root : Item} (isRoot : item.id = rootId) (found : tree.get? rootId = some root)
    (called : rename root item = root)
  | other {current : Item} (other : item.id ≠ rootId) (found : tree.get? item.id = some current)
    (kind : current.isContainer = item.isContainer) (placed : current.parent = some parent)
    (taken : refresh current item = current)

/-- An item of the announced kind that is in the container already is refreshed there. -/
theorem updating_of_placed (other : item.id ≠ rootId) (found : tree.get? item.id = some existing)
    (kind : existing.isContainer = item.isContainer) (placed : existing.parent = some parent) :
    tree.updating parent item =
      .done ((tree.modify item.id fun current => refresh current item).note
        (.itemChanged item.id)) := by
  have hcases := tree.updating_cases parent item
  generalize tree.updating parent item = edited at hcases
  cases hcases with
  | rootMissing isRoot _ => exact absurd isRoot other
  | rootRenamed isRoot => exact absurd isRoot other
  | missing _ absent =>
    rw [found] at absent
    cases absent
  | refused _ found' leaves _ =>
    rw [found] at found'
    obtain rfl := Option.some.inj found'
    exact absurd leaves (not_or.mpr ⟨not_not.mpr kind, not_not.mpr placed⟩)
  | replaced _ found' differs _ =>
    rw [found] at found'
    obtain rfl := Option.some.inj found'
    exact absurd kind differs
  | refreshed _ _ _ _ => rfl
  | moved _ found' _ leaves _ =>
    rw [found] at found'
    obtain rfl := Option.some.inj found'
    exact absurd placed leaves

/-- What stands as it is announced stays as it is, and the announcement is noted. -/
theorem Stands.announcing (h : tree.Stands parent item) :
    tree.announcing parent item = .done (tree.note (.itemChanged item.id)) := by
  cases h with
  | root isRoot found called =>
    rw [announcing_of_root isRoot found, modify_eq_self found called, isRoot]
  | other other found kind placed taken =>
    have hknown : tree.announcing parent item = tree.updating parent item := by
      unfold Tree.announcing
      rw [contains_eq_isSome, found, Option.isSome_some, if_pos rfl]
    rw [hknown, updating_of_placed other found kind placed, modify_eq_self found taken]

/-! ## What an announcement leaves -/

theorem stands_rename (isRoot : item.id = rootId) (hroot : tree.get? rootId = some existing)
    (event : TreeEvent) :
    ((tree.modify rootId fun root => rename root item).note event).Stands parent item := by
  refine .root isRoot ?_ (rename_rename existing item)
  rw [get?_note, get?_modify, if_pos rfl, hroot, Option.map_some]

theorem stands_refresh (other : item.id ≠ rootId) (found : tree.get? item.id = some existing)
    (kind : existing.isContainer = item.isContainer) (placed : existing.parent = some parent)
    (event : TreeEvent) :
    ((tree.modify item.id fun current => refresh current item).note event).Stands parent item := by
  have hkind : (refresh existing item).isContainer = item.isContainer :=
    (isContainer_refresh existing item).trans kind
  refine .other other ?_ hkind placed (refresh_refresh existing item)
  rw [get?_note, get?_modify, if_pos rfl, found, Option.map_some]

theorem stands_addUnder (other : item.id ≠ rootId) (tree : Tree) :
    (tree.addUnder parent item).Stands parent item := by
  have hadded : (tree.addUnder parent item).get? item.id =
      some ((item.withChildren []).under parent) := by
    rw [get?_addUnder, if_pos rfl]
  exact .other other hadded (item.isContainer_withChildren []) rfl (refresh_under item [] parent)

namespace WellFormed

theorem stands_updating (wf : tree.WellFormed)
    (h : (tree.updating parent item).result = .ok ()) :
    (tree.updating parent item).tree.Stands parent item := by
  have hcases := tree.updating_cases parent item
  generalize tree.updating parent item = edited at h hcases
  cases hcases with
  | rootMissing _ _ => cases h
  | rootRenamed isRoot =>
    obtain ⟨root, hroot, -⟩ := wf.root
    exact stands_rename isRoot hroot _
  | missing _ _ => cases h
  | refused _ _ _ _ => cases h
  | replaced other found _ check =>
    obtain ⟨-, -, heq⟩ := wf.replace_eq other found check
    rw [heq]
    exact stands_addUnder other _
  | refreshed other found kind placed => exact stands_refresh other found kind placed _
  | @moved existing other found kind leaves check =>
    obtain ⟨old, -, hold, hne, hapart, -⟩ := wf.exists_move other found leaves check
    obtain ⟨hoi, hpi⟩ := wf.ne_of_move hold hapart
    have hmoved : (tree.moveUnder item.id parent).get? item.id = some (existing.under parent) := by
      rw [get?_moveUnder tree parent item.id item.id hold hoi hpi hne, if_pos rfl, found,
        Option.map_some]
    exact stands_refresh other hmoved kind rfl _

/-- An announcement that is not refused leaves the item as it was announced. -/
theorem stands_announcing (wf : tree.WellFormed)
    (h : (tree.announcing parent item).result = .ok ()) :
    (tree.announcing parent item).tree.Stands parent item := by
  rcases tree.announcing_cases parent item with ⟨_, _, heq⟩ | ⟨_, _, _, heq⟩ | ⟨_, new, _, heq⟩
  · rw [heq] at h ⊢
    exact wf.stands_updating h
  · rw [heq] at h
    cases h
  · obtain ⟨root, hroot, -⟩ := wf.root
    have other : item.id ≠ rootId := (ne_of_get?_eq_none new (by rw [hroot]; rfl)).symm
    rw [heq]
    exact stands_addUnder other tree

/-- Announcing an item again right after it was announced comes to the same result and leaves the
same items, with their children and listening marks. If nothing fails, one event is queued, that the
item changed; otherwise the tree is left as it was. -/
theorem announcing_twice (wf : tree.WellFormed) (parent : ItemId) (item : Item) :
    let once := tree.announcing parent item
    let twice := once.tree.announcing parent item
    twice.result = once.result ∧ twice.tree.items = once.tree.items ∧
      (twice.result = .ok () →
        twice.tree.events = once.tree.events ++ [.itemChanged item.id]) ∧
      ∀ e, twice.result = .error e → once.tree = tree ∧ twice.tree = tree := by
  intro once twice
  cases hresult : once.result with
  | ok _ =>
    have htwice : twice = .done (once.tree.note (.itemChanged item.id)) :=
      (wf.stands_announcing hresult).announcing
    rw [htwice]
    exact ⟨rfl, rfl, fun _ => rfl, nofun⟩
  | error e =>
    have honce : once.tree = tree := wf.announcing_of_error hresult
    have htwice : twice = once := by
      change once.tree.announcing parent item = tree.announcing parent item
      rw [honce]
    rw [htwice]
    refine ⟨hresult, rfl, fun h => ?_, fun _ _ => ⟨honce, honce⟩⟩
    rw [hresult] at h
    cases h

/-- A kitchen that is announced in the garden moves there, and with the second announcement it stays
there; under a lamp it is refused both times. -/
theorem announcing_twice_kitchen :
    let tree := Tree.empty.run
      [.add rootId (.ofContainer 1 "Ground floor" "" false),
        .add 1 (.ofContainer 2 "Kitchen" "" false), .setListening 2 true,
        .add 1 (.ofDevice 3 "Lamp" "" false .actuator (.binary false)),
        .add rootId (.ofContainer 5 "Garden" "" false)]
    let kitchen : Item := .ofContainer 2 "Outdoor kitchen" "" false
    let once := tree.announcing 5 kitchen
    let twice := once.tree.announcing 5 kitchen
    let refused := (tree.announcing 3 kitchen).tree.announcing 3 kitchen
    tree.WellFormed ∧
      (twice.result = .ok () ∧ twice.tree.items = once.tree.items ∧
        twice.tree.events = once.tree.events ++ [.itemChanged 2]) ∧
      refused.result = .error (.notAContainer 3) ∧ refused.tree = tree := by
  intro tree kitchen once twice refused
  have wf : tree.WellFormed := WellFormed.empty.run _
  obtain ⟨hresult, hitems, hevents, -⟩ := wf.announcing_twice 5 kitchen
  obtain ⟨hrefused, -, -, hsame⟩ := wf.announcing_twice 3 kitchen
  have honce : once.result = .ok () := rfl
  have hthere : (tree.announcing 3 kitchen).result = .error (.notAContainer 3) := rfl
  have htwice : twice.result = .ok () := hresult.trans honce
  have hagain : refused.result = .error (.notAContainer 3) := hrefused.trans hthere
  exact ⟨wf, ⟨htwice, hitems, hevents htwice⟩, hagain, (hsame _ hagain).2⟩

end WellFormed

end Domotics.Tree
