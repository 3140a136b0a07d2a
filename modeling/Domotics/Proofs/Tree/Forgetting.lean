import Domotics.Engine.Control
import Domotics.Proofs.Tree.Enumeration
import Domotics.Proofs.Tree.Removal
/-!
# Forgetting everything but the root

All that the root lists is removed, one after the other. What goes before does not disturb what goes
later: a walk down sees only what it reaches (`Postorder.congr`), and nothing is reached from two
children of the root. So all items but the root go, as in one walk down from it, each after
everything below it, and the root is left with its name and its mark and without children
(`WellFormed.forgets`).
-/

namespace Domotics.Tree

variable {tree tree' : Tree} {id x : ItemId} {ids : List ItemId} {items : List Item}

/-- The event that tells of an item that goes. -/
def goneEvent (item : Item) : TreeEvent :=
  .itemRemoved (item.parent.getD rootId) item.id

/-- A walk down does not see what it does not reach. -/
theorem Postorder.congr (h : tree.Postorder ids items)
    (same : ∀ id ∈ ids, ∀ x, tree.Reaches id x → tree'.get? x = tree.get? x) :
    tree'.Postorder ids items := by
  induction h with
  | nil => exact .nil
  | @cons id ids item below others found inside rest ihinside ihrest =>
    have htop := same id List.mem_cons_self
    refine .cons ((htop id .refl).trans found) (ihinside fun child hchild x hx => ?_)
      (ihrest fun id' hid' => same id' (List.mem_cons_of_mem id hid'))
    exact htop x ((reaches_iff_eq_or found).mpr (.inr ⟨child, hchild, hx⟩))

/-- All items but the root go, and the root stays without children. -/
structure Forgets (tree : Tree) (root : Item) (removed : List Item) (tree' : Tree) : Prop where
  /-- What goes are all items but the root, with the fields that they had. -/
  mem_iff : ∀ item, item ∈ removed ↔ tree.get? item.id = some item ∧ item.id ≠ rootId
  /-- Each of them stands in a container. -/
  placed : ∀ item ∈ removed, ∃ parent, item.parent = some parent
  /-- Nothing goes twice. -/
  nodup : (removed.map (·.id)).Nodup
  /-- Nothing goes before what is below it. -/
  below_first : removed.Pairwise fun earlier later => ¬ tree.Reaches earlier.id later.id
  /-- The root is all that stays. -/
  left : ∀ x, tree'.get? x = if x = rootId then some (root.withChildren []) else none

namespace WellFormed

/-- Without children the root is alone. -/
theorem get?_of_bare (wf : tree.WellFormed) {root : Item} (hroot : tree.get? rootId = some root)
    (bare : root.childIds = []) : tree.get? x = if x = rootId then some root else none := by
  split
  · rename_i hx
    rw [hx, hroot]
  · rename_i hx
    refine Option.eq_none_iff_forall_ne_some.mpr fun item hitem => hx ?_
    have hreaches := wf.reaches_iff.mpr (wf.within_root hitem)
    rw [reaches_iff_eq_or hroot, bare] at hreaches
    simpa using hreaches

/-- Removing what the root lists, one after the other, is one walk down from it. -/
theorem postorder_forget (children : List ItemId) : ∀ {tree : Tree} {root : Item},
    tree.WellFormed → tree.get? rootId = some root → root.childIds = children →
      let tree' := children.foldl (fun tree id => (tree.remove id).2) tree
      ∃ removed, tree.Postorder children removed ∧
        tree'.events = tree.events ++ removed.map goneEvent ∧
        ∀ x, tree'.get? x = if x = rootId then some (root.withChildren []) else none := by
  induction children with
  | nil =>
    intro tree root wf hroot bare
    refine ⟨[], .nil, (List.append_nil _).symm, fun x => ?_⟩
    rw [List.foldl_nil, wf.get?_of_bare hroot bare, ← bare, Item.withChildren_childIds]
  | cons id children ih =>
    intro tree root wf hroot hchildren
    have hid : tree.parent? id = some rootId :=
      (wf.mem_childIds_iff hroot).mp (hchildren ▸ List.mem_cons_self)
    have hne := wf.ne_root_of_parent? hid
    have hcascades := wf.cascades_remove hne hid
    have wf' := wf.remove id
    have hroot' : (tree.remove id).2.get? rootId = some (root.withChildren children) := by
      obtain ⟨parent, container, hparent, hcontainer, hleft⟩ := hcascades.left
      obtain rfl := Option.some.inj (hid.symm.trans hparent)
      obtain rfl := Option.some.inj (hroot.symm.trans hcontainer)
      have hout : id ∉ children :=
        (List.nodup_cons.mp (hchildren ▸ wf.nodup_childIds hroot)).1
      have hothers : (id :: children).filter (· ≠ id) = children := by
        rw [List.filter_cons_of_neg (by simp)]
        exact List.filter_eq_self.mpr fun y hy => decide_eq_true fun heq => hout (heq ▸ hy)
      rw [hleft, hchildren, hothers]
    have hchildren' : (root.withChildren children).childIds = children := by
      rw [Item.childIds_withChildren, if_pos (wf.root_spec hroot).1]
    obtain ⟨removed, hpostorder, hevents, hleft⟩ := ih wf' hroot' hchildren'
    refine ⟨(tree.remove id).1 ++ removed, hcascades.postorder.append (hpostorder.congr ?_), ?_,
      fun x => ?_⟩
    · -- What is reached from the other children is as before the item went.
      intro child hchild x hx
      have hunder := (wf'.mem_childIds_iff hroot').mp (hchildren'.symm ▸ hchild)
      have hx' : ∃ parent, (tree.remove id).2.parent? x = some parent := by
        rcases (wf'.reaches_iff.mp hx).eq_or_parent with rfl | ⟨parent, hparent, -⟩
        · exact ⟨rootId, hunder⟩
        · exact ⟨parent, hparent⟩
      obtain ⟨parent, hparent⟩ := hx'
      refine (hcascades.kept x (fun hbelow => ?_) fun habove => ?_).symm
      · have hgone := wf.get?_remove_of_within hne hid (wf.reaches_iff.mp hbelow)
        simpa [hgone] using isSome_of_parent? hparent
      · exact wf'.ne_root_of_parent? hparent (Option.some.inj (habove.symm.trans hid))
    · rw [List.foldl_cons, hevents, events_remove_eq hne hid, List.map_append, List.append_assoc]
      rfl
    · rw [List.foldl_cons, hleft, Item.withChildren_withChildren]

/-- All that a well-formed tree lists under its root is removed with everything below it, and one
event is queued for each item that goes. -/
theorem forgets (wf : tree.WellFormed) {root : Item} (hroot : tree.get? rootId = some root) :
    ∃ removed tree', Engine.forgetItems tree = .ok tree' ∧ tree.Forgets root removed tree' ∧
      tree'.events = tree.events ++ removed.map goneEvent := by
  obtain ⟨hc, -⟩ := wf.root_spec hroot
  obtain ⟨removed, hpostorder, hevents, hleft⟩ := postorder_forget root.childIds wf hroot rfl
  have hbelow := hpostorder.pairwise wf ((wf.nodup_childIds hroot).imp_of_mem
    fun hchild hother hne _ => wf.not_reaches_of_siblings hroot hchild hother hne)
  have hmem : ∀ item, item ∈ removed ↔ tree.get? item.id = some item ∧ item.id ≠ rootId := by
    intro item
    rw [hpostorder.mem_iff wf.own_id]
    refine and_congr_right fun hitem => ⟨?_, fun hother => ?_⟩
    · rintro ⟨child, hchild, hreaches⟩ heq
      exact wf.not_reaches_of_mem_childIds hroot hchild (heq ▸ hreaches)
    · have hreaches := wf.reaches_iff.mpr (wf.within_root hitem)
      exact ((reaches_iff_eq_or hroot).mp hreaches).resolve_left hother
  refine ⟨removed, _, ?_, ⟨hmem, fun item hitem => ?_, ?_, hbelow, hleft⟩, hevents⟩
  · rw [Engine.forgetItems,
      children_eq_ok_iff_kids?.mpr (kids?_eq_some.mpr ⟨root, hroot, hc, rfl⟩)]
    rfl
  · obtain ⟨hget, hother⟩ := (hmem item).mp hitem
    obtain ⟨parent, -, hparent, -⟩ := wf.listed hget hother
    exact ⟨parent, hparent⟩
  · refine List.pairwise_map.mpr (hbelow.imp fun hne heq => hne ?_)
    rw [heq]
    exact .refl

end WellFormed

end Domotics.Tree
