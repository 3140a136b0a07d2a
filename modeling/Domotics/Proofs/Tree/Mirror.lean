import Domotics.Proofs.Tree.Preservation
/-!
# The events of a tree tell its shape

Whoever is told the events of a tree can keep the lists of children without looking at the tree. A
`Mirror` is what they keep: it appends what was added and deletes what was removed. `Replay` says
that events make one mirror of another and that each of them fits the mirror it comes to: what is
added stands in no list yet, and what is removed stands in the list it is removed from.

Every edit of a well-formed tree queues events that make the lists after it of the ones before
(`Mirrored`), and so does a run of edits (`WellFormed.mirrored_run`). The one edit that takes more
than a look is a removal, which has an event for each item that goes: an item below another one goes
first, none goes twice (`WellFormed.nodup_postorderWithin`), and each stands in the list of its
parent alone, so in the end just what goes is missing from each list (`Mirror.replay_removed`).
-/

namespace Domotics

/-! ## Mirrors -/

/-- Lists of children as somebody keeps them who is told the events of a tree. -/
def Mirror : Type :=
  ItemId → List ItemId

namespace Mirror

/-- Nothing has been told yet. -/
def blank : Mirror :=
  fun _ => []

/-- Takes an event in. -/
def apply (mirror : Mirror) : TreeEvent → Mirror
  | .itemAdded parent id => fun p => if p = parent then mirror p ++ [id] else mirror p
  | .itemRemoved parent id =>
    fun p => if p = parent then (mirror p).filter (· ≠ id) else mirror p
  | .itemChanged _ | .listeningChanged _ _ => mirror

/-- What is added stands in no list, and what is removed stands in the list it is removed from. -/
def Admits (mirror : Mirror) : TreeEvent → Prop
  | .itemAdded _ id => ∀ parent, id ∉ mirror parent
  | .itemRemoved parent id => id ∈ mirror parent
  | .itemChanged _ | .listeningChanged _ _ => True

/-- Events that fit, one after the other, make the second mirror of the first. -/
inductive Replay : Mirror → List TreeEvent → Mirror → Prop
  | nil (mirror : Mirror) : Replay mirror [] mirror
  | cons {mirror mirror' : Mirror} {event : TreeEvent} {events : List TreeEvent}
    (fits : mirror.Admits event) (rest : Replay (mirror.apply event) events mirror') :
    Replay mirror (event :: events) mirror'

variable {mirror mirror' mirror'' : Mirror}

theorem Replay.append {events events' : List TreeEvent} (h : Replay mirror events mirror')
    (h' : Replay mirror' events' mirror'') : Replay mirror (events ++ events') mirror'' := by
  induction h with
  | nil mirror => exact h'
  | cons fits rest ih => exact .cons fits (ih h')

/-- Removing an item that stands in one list only takes it out of all lists. -/
theorem apply_itemRemoved {parent id : ItemId} (h : ∀ p, id ∈ mirror p ↔ p = parent) :
    mirror.apply (.itemRemoved parent id) = fun p => (mirror p).filter (· ≠ id) := by
  funext p
  by_cases hp : p = parent
  · exact if_pos hp
  · refine (if_neg hp).trans (List.filter_eq_self.mpr fun x hx => ?_).symm
    have hne : x ≠ id := fun hxid => hp ((h p).mp (hxid ▸ hx))
    exact decide_eq_true hne

/-- Removing items one after the other, each from the one list it stands in, takes them out of all
lists. -/
theorem replay_removed (parent : ItemId → ItemId) (ids : List ItemId) :
    ∀ mirror : Mirror, ids.Nodup → (∀ id ∈ ids, ∀ p, id ∈ mirror p ↔ p = parent id) →
      Replay mirror (ids.map fun id => .itemRemoved (parent id) id)
        fun p => (mirror p).filter (· ∉ ids) := by
  induction ids with
  | nil =>
    intro mirror _ _
    simpa using Replay.nil mirror
  | cons id ids ih =>
    intro mirror hnodup hstands
    obtain ⟨hid, hnodup⟩ := List.nodup_cons.mp hnodup
    have hfirst := hstands id List.mem_cons_self
    refine .cons ((hfirst _).mpr rfl) ?_
    rw [apply_itemRemoved hfirst]
    have hrest := ih (fun p => (mirror p).filter (· ≠ id)) hnodup fun x hx p => by
      have hne : x ≠ id := fun h => hid (h ▸ hx)
      simpa [hne] using hstands x (List.mem_cons_of_mem _ hx) p
    simpa [List.filter_filter, Bool.and_comm] using hrest

end Mirror

namespace Tree

variable {tree tree' tree'' : Tree} {id x parent : ItemId} {item : Item}

/-- The children of each container in order; of anything else, none. -/
def childLists (tree : Tree) : Mirror :=
  fun id => (tree.kids? id).getD []

/-- The events that were queued in between make the lists of children after it of the ones
before. -/
def Mirrored (tree tree' : Tree) : Prop :=
  ∃ events, tree'.events = tree.events ++ events ∧
    Mirror.Replay tree.childLists events tree'.childLists

namespace Mirrored

theorem refl (tree : Tree) : Mirrored tree tree :=
  ⟨[], (List.append_nil _).symm, .nil _⟩

theorem trans (h : Mirrored tree tree') (h' : Mirrored tree' tree'') : Mirrored tree tree'' := by
  obtain ⟨events, hevents, hreplay⟩ := h
  obtain ⟨events', hevents', hreplay'⟩ := h'
  refine ⟨events ++ events', ?_, hreplay.append hreplay'⟩
  rw [hevents', hevents, List.append_assoc]

/-- An edit that queues nothing and leaves all children has nothing to tell. -/
theorem of_kids?_eq (events : tree'.events = tree.events)
    (kids : ∀ x, tree'.kids? x = tree.kids? x) : Mirrored tree tree' := by
  have hlists : tree'.childLists = tree.childLists := by
    funext x
    simp only [childLists, kids]
  exact ⟨[], by rw [events, List.append_nil], hlists ▸ .nil _⟩

end Mirrored

/-- One event that fits tells what an edit did. -/
theorem mirrored_note {event : TreeEvent} (events : tree'.events = tree.events)
    (fits : tree.childLists.Admits event)
    (lists : tree'.childLists = tree.childLists.apply event) :
    Mirrored tree (tree'.note event) := by
  refine ⟨[event], by rw [note, events], .cons fits ?_⟩
  rw [← lists]
  exact .nil _

theorem mirrored_modify (tree : Tree) (id : ItemId) (change : Item → Item)
    (hc : ∀ item, (change item).isContainer = item.isContainer)
    (hk : ∀ item, (change item).childIds = item.childIds) :
    Mirrored tree (tree.modify id change) :=
  .of_kids?_eq rfl fun x => tree.kids?_modify id x hc hk

theorem mirrored_itemChanged (tree : Tree) (id : ItemId) :
    Mirrored tree (tree.note (.itemChanged id)) :=
  mirrored_note rfl trivial rfl

theorem mirrored_listeningChanged (tree : Tree) (id : ItemId) (listening : Bool) :
    Mirrored tree (tree.note (.listeningChanged id listening)) :=
  mirrored_note rfl trivial rfl

/-! ## Where an item stands -/

theorem kids?_eq_none_of_get? (h : tree.get? id = none) : tree.kids? id = none := by
  unfold kids?
  rw [h]
  rfl

namespace WellFormed

/-- An item stands in the list of its parent alone. -/
theorem mem_childLists_iff (wf : tree.WellFormed) :
    x ∈ tree.childLists parent ↔ tree.parent? x = some parent := by
  unfold childLists
  cases hk : tree.kids? parent with
  | some children => exact (wf.lists hk).2 x
  | none =>
    refine ⟨nofun, fun hp => ?_⟩
    obtain ⟨children, hk'⟩ := wf.exists_kids? hp
    rw [hk] at hk'
    cases hk'

theorem not_mem_childLists (wf : tree.WellFormed) (h : tree.get? x = none) :
    x ∉ tree.childLists parent := by
  intro hmem
  have hthere := isSome_of_parent? (wf.mem_childLists_iff.mp hmem)
  rw [h] at hthere
  cases hthere

/-! ## Adding and moving -/

theorem mirrored_addUnder (wf : tree.WellFormed) (hnew : tree.get? item.id = none)
    {children : List ItemId} (hk : tree.kids? parent = some children) :
    Mirrored tree (tree.addUnder parent item) := by
  have hparent : parent ≠ item.id := ne_of_get?_eq_none hnew (isSome_of_kids? hk)
  refine ⟨[.itemAdded parent item.id], rfl, .cons (fun p => wf.not_mem_childLists hnew) ?_⟩
  have hlists : (tree.addUnder parent item).childLists =
      tree.childLists.apply (.itemAdded parent item.id) := by
    funext x
    simp only [childLists, kids?_addUnder, Mirror.apply]
    by_cases hx : x = item.id
    · subst hx
      rw [if_pos rfl, if_neg hparent.symm, kids?_eq_none_of_get? hnew]
      split <;> rfl
    · rw [if_neg hx]
      by_cases hxp : x = parent
      · rw [if_pos hxp, if_pos hxp, hxp, hk]
        rfl
      · rw [if_neg hxp, if_neg hxp]
  rw [hlists]
  exact .nil _

theorem mirrored_moveUnder (wf : tree.WellFormed) {old : ItemId}
    (hold : tree.parent? id = some old) (hne : old ≠ parent) {children : List ItemId}
    (hk : tree.kids? parent = some children) : Mirrored tree (tree.moveUnder id parent) := by
  have hstands : ∀ p, id ∈ tree.childLists p ↔ p = old := by
    intro p
    rw [wf.mem_childLists_iff, hold, Option.some.injEq, eq_comm]
  have hevents : (tree.moveUnder id parent).events =
      tree.events ++ [.itemRemoved old id, .itemAdded parent id] := by
    rw [moveUnder_eq tree parent id hold]
    exact List.append_assoc _ _ _
  refine ⟨_, hevents, .cons ((hstands old).mpr rfl) ?_⟩
  rw [Mirror.apply_itemRemoved hstands]
  refine .cons (fun p => by simp) ?_
  have hlists : (tree.moveUnder id parent).childLists =
      Mirror.apply (fun p => (tree.childLists p).filter (· ≠ id)) (.itemAdded parent id) := by
    have hstays : ∀ p, p ≠ old → (tree.childLists p).filter (· ≠ id) = tree.childLists p := by
      intro p hp
      refine List.filter_eq_self.mpr fun x hx => decide_eq_true ?_
      rintro rfl
      exact hp ((hstands p).mp hx)
    funext x
    by_cases hxp : x = parent
    · have hparent := hstays parent hne.symm
      simp only [Mirror.apply, hxp, if_true, hparent]
      simp [childLists, kids?_moveUnder _ _ _ _ hold hne, hk]
    · simp only [Mirror.apply, if_neg hxp]
      by_cases hxo : x = old
      · simp only [childLists, kids?_moveUnder _ _ _ _ hold hne, if_neg hxp, if_pos hxo]
        cases tree.kids? x <;> rfl
      · rw [hstays x hxo]
        simp only [childLists, kids?_moveUnder _ _ _ _ hold hne, if_neg hxp, if_neg hxo]
  rw [hlists]
  exact .nil _

/-! ## Removing -/

/-- What goes is missing from each list, and nothing else is. -/
theorem childLists_remove (wf : tree.WellFormed) (hne : id ≠ rootId)
    (h : tree.parent? id = some parent) (p : ItemId) :
    (tree.remove id).2.childLists p =
      (tree.childLists p).filter (· ∉ tree.postorderWithin tree.size id) := by
  have hgone : ∀ {x}, x ∈ tree.childLists p →
      (x ∈ tree.postorderWithin tree.size id ↔ tree.Within id x) := by
    intro x hx
    rw [wf.mem_postorderWithin_iff, ← Option.isSome_iff_exists]
    exact and_iff_right (isSome_of_parent? (wf.mem_childLists_iff.mp hx))
  by_cases hp : tree.Within id p
  · have hnone := kids?_eq_none_of_get? (wf.get?_remove_of_within hne h hp)
    have hall : (tree.childLists p).filter (· ∉ tree.postorderWithin tree.size id) = [] := by
      refine List.filter_eq_nil_iff.mpr fun x hx => ?_
      simpa using (hgone hx).mpr (hp.under (wf.mem_childLists_iff.mp hx))
    rw [hall, childLists, hnone]
    rfl
  · have honly : ∀ x ∈ tree.childLists p,
        decide (x ∉ tree.postorderWithin tree.size id) = decide (x ≠ id) := by
      intro x hx
      refine decide_eq_decide.mpr (not_congr ((hgone hx).trans ⟨fun hw => ?_, ?_⟩))
      · rcases hw.eq_or_parent with hxid | ⟨above, ha, hw⟩
        · exact hxid
        · rw [wf.mem_childLists_iff.mp hx] at ha
          obtain rfl := Option.some.inj ha
          exact absurd hw hp
      · rintro rfl
        exact .refl tree x
    rw [List.filter_congr honly]
    simp only [childLists, wf.kids?_remove hne h hp, kids?_detach]
    by_cases hpp : p = parent
    · rw [if_pos hpp]
      cases tree.kids? p <;> rfl
    · rw [if_neg hpp]
      refine (List.filter_eq_self.mpr fun x hx => decide_eq_true ?_).symm
      rintro rfl
      have hp' := wf.mem_childLists_iff.mp hx
      rw [h] at hp'
      exact hpp (Option.some.inj hp').symm

/-- Each item that goes is told to go from its parent. -/
theorem events_remove (wf : tree.WellFormed) (hne : id ≠ rootId)
    (h : tree.parent? id = some parent) :
    (tree.remove id).2.events = tree.events ++ (tree.postorderWithin tree.size id).map fun x =>
      .itemRemoved ((tree.parent? x).getD rootId) x := by
  rw [events_remove_eq hne h, wf.removed_eq hne h, List.map_filterMap, ← List.filterMap_eq_map]
  refine congrArg (tree.events ++ ·) (List.filterMap_congr fun x hx => ?_)
  obtain ⟨⟨item, hitem⟩, -⟩ := wf.mem_postorderWithin_iff.mp hx
  simp [hitem, parent?_of_get? hitem, wf.own_id hitem]

theorem mirrored_remove (wf : tree.WellFormed) (id : ItemId) :
    Mirrored tree (tree.remove id).2 := by
  by_cases hroot : id = rootId
  · rw [remove_of_eq_root hroot]
    exact .refl tree
  cases hp : tree.parent? id with
  | none =>
    rw [remove_of_parent?_eq_none hp]
    exact .refl tree
  | some parent =>
    refine ⟨_, wf.events_remove hroot hp, ?_⟩
    have hstands : ∀ x ∈ tree.postorderWithin tree.size id, ∀ p,
        x ∈ tree.childLists p ↔ p = (tree.parent? x).getD rootId := by
      intro x hx p
      obtain ⟨⟨item, hitem⟩, hw⟩ := wf.mem_postorderWithin_iff.mp hx
      have hxroot : x ≠ rootId := by
        rintro rfl
        exact wf.not_within_root hroot hw
      obtain ⟨above, ha⟩ := wf.exists_parent hitem hxroot
      rw [wf.mem_childLists_iff, ha, Option.some.injEq, Option.getD_some, eq_comm]
    have hreplay := Mirror.replay_removed _ _ _ wf.nodup_postorderWithin hstands
    rwa [← funext (wf.childLists_remove hroot hp)] at hreplay

/-! ## Every operation -/

theorem mirrored_updating (wf : tree.WellFormed) (parent : ItemId) (item : Item) :
    Mirrored tree (tree.updating parent item).tree := by
  have hrefresh : ∀ tree : Tree,
      Mirrored tree ((tree.modify item.id fun current => refresh current item).note
        (.itemChanged item.id)) := by
    intro tree
    refine (tree.mirrored_modify item.id _ ?_ ?_).trans (mirrored_itemChanged _ _) <;>
      obtain ⟨_, _, _, _, _, _ | _⟩ := item <;> rintro ⟨_, _, _, _, _, _ | _⟩ <;> rfl
  have hcases := tree.updating_cases parent item
  generalize tree.updating parent item = edited at hcases
  cases hcases with
  | rootMissing _ _ => exact .refl tree
  | missing _ _ => exact .refl tree
  | refused _ _ _ _ => exact .refl tree
  | rootRenamed _ =>
    have hrename := tree.mirrored_modify rootId (fun root => rename root item)
      (fun _ => rfl) (fun _ => rfl)
    exact hrename.trans (mirrored_itemChanged _ _)
  | replaced other found _ check =>
    obtain ⟨⟨children, hk⟩, hgone, heq⟩ := wf.replace_eq other found check
    rw [heq]
    exact (wf.mirrored_remove item.id).trans ((wf.remove item.id).mirrored_addUnder hgone hk)
  | refreshed _ _ _ _ => exact hrefresh tree
  | moved other found _ leaves check =>
    obtain ⟨old, children, hold, hne, -, hk⟩ := wf.exists_move other found leaves check
    exact (wf.mirrored_moveUnder hold hne hk).trans (hrefresh _)

theorem mirrored_announcing (wf : tree.WellFormed) (parent : ItemId) (item : Item) :
    Mirrored tree (tree.announcing parent item).tree := by
  rcases tree.announcing_cases parent item with ⟨-, -, heq⟩ | ⟨e, -, -, heq⟩ |
    ⟨children, hnew, hk, heq⟩
  · rw [heq]
    exact wf.mirrored_updating parent item
  · rw [heq]
    exact .refl tree
  · rw [heq]
    exact wf.mirrored_addUnder hnew hk

end WellFormed

theorem mirrored_withValue (tree : Tree) (id : ItemId) (value : DeviceValue) :
    Mirrored tree ((tree.modify id fun item => item.withValue value).note (.itemChanged id)) := by
  refine (tree.mirrored_modify id _ ?_ ?_).trans (mirrored_itemChanged _ _) <;>
    rintro ⟨_, _, _, _, _, _ | _⟩ <;> rfl

theorem mirrored_setListening {listening changed : Bool}
    (h : tree.setListening id listening = .ok (changed, tree')) : Mirrored tree tree' := by
  rcases tree.setListening_cases id listening with ⟨e, -, heq⟩ | ⟨-, heq⟩ | ⟨-, heq⟩
  · rw [heq] at h
    cases h
  · rw [heq] at h
    cases h
    exact .refl tree
  · rw [heq] at h
    cases h
    refine (tree.mirrored_modify id _ ?_ ?_).trans (mirrored_listeningChanged _ _ _) <;>
      rintro ⟨_, _, _, _, _, _ | _⟩ <;> rfl

theorem WellFormed.mirrored_mutate (wf : tree.WellFormed) (mutation : Mutation) :
    Mirrored tree (tree.mutate mutation).tree := by
  cases mutation with
  | add parent item =>
    simp only [Tree.mutate]
    rcases tree.add_cases parent item with ⟨_, _, h⟩ | ⟨e, _, _, h⟩ | ⟨children, hnew, hk, h⟩
    · rw [h]
      exact .refl tree
    · rw [h]
      exact .refl tree
    · rw [h]
      exact wf.mirrored_addUnder hnew hk
  | remove id => exact wf.mirrored_remove id
  | announce parent item => exact wf.mirrored_announcing parent item
  | update parent item => exact wf.mirrored_updating parent item
  | setName name =>
    exact tree.mirrored_modify rootId (fun root => { root with name }) (fun _ => rfl) (fun _ => rfl)
  | setBinary id on =>
    simp only [Tree.mutate]
    cases h : tree.setBinary id on with
    | error e => exact .refl tree
    | ok tree' =>
      rw [setBinary_eq_ok h]
      exact tree.mirrored_withValue id _
  | setDecimal id value =>
    simp only [Tree.mutate]
    cases h : tree.setDecimal id value with
    | error e => exact .refl tree
    | ok tree' =>
      obtain ⟨quantity, rfl⟩ := setDecimal_eq_ok h
      exact tree.mirrored_withValue id _
  | setListening id listening =>
    simp only [Tree.mutate]
    cases h : tree.setListening id listening with
    | error e => exact .refl tree
    | ok outcome => exact mirrored_setListening h

/-- Whatever is done to a well-formed tree, its events tell what became of the lists of children. -/
theorem WellFormed.mirrored_run (wf : tree.WellFormed) (mutations : List Mutation) :
    Mirrored tree (tree.run mutations) := by
  induction mutations generalizing tree with
  | nil => exact .refl tree
  | cons mutation mutations ih =>
    exact (wf.mirrored_mutate mutation).trans (ih (wf.mutate mutation))

/-- In a new tree nothing has children. -/
theorem childLists_empty : Tree.empty.childLists = Mirror.blank := by
  funext x
  unfold childLists kids?
  rw [get?_empty]
  split <;> rfl

/-- The events of a tree that began as a new one make its lists of children out of nothing. -/
theorem replay_run (mutations : List Mutation) :
    Mirror.Replay Mirror.blank (Tree.empty.run mutations).events
      (Tree.empty.run mutations).childLists := by
  obtain ⟨events, hevents, hreplay⟩ := WellFormed.empty.mirrored_run mutations
  rw [childLists_empty] at hreplay
  rwa [hevents, show Tree.empty.events = [] from rfl, List.nil_append]

end Tree

end Domotics
