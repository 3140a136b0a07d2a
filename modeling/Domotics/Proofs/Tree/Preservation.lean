import Domotics.Proofs.Tree.Operations
/-!
# Edits keep a tree well-formed

`WellFormed` is read off three views of a tree: where something is found, `parent?` and `kids?`
(`wellFormed_of_links`): what an item names is a container, and a container `Lists` what names it.
For each edit there are equations for these views after it, and from them the edit is shown to keep
a tree well-formed. An item moves only under what is not below it, so the ways to the root that go
through it get a new upper part (`Lineage.moved`), and all others stay.

`wellFormed_run` puts the edits together: whatever is done to a new tree, it stays well-formed.
-/

namespace Domotics.Tree

variable {tree tree' : Tree} {id x parent : ItemId}

/-! ## The views of a well-formed tree -/

/-- The list has each item that names `parent` once, and nothing else. -/
def Lists (tree : Tree) (parent : ItemId) (children : List ItemId) : Prop :=
  children.Nodup ∧ ∀ x, x ∈ children ↔ tree.parent? x = some parent

namespace Lists

variable {children : List ItemId}

/-- The same items name the container as before. -/
theorem congr (h : tree.Lists parent children)
    (same : ∀ x, tree'.parent? x = some parent ↔ tree.parent? x = some parent) :
    tree'.Lists parent children :=
  ⟨h.1, fun x => (h.2 x).trans (same x).symm⟩

/-- One item more names the container. -/
theorem append (h : tree.Lists parent children) (new : tree.parent? id ≠ some parent)
    (more : ∀ x, tree'.parent? x = some parent ↔ x = id ∨ tree.parent? x = some parent) :
    tree'.Lists parent (children ++ [id]) := by
  refine ⟨List.nodup_append_comm.mp (List.nodup_cons.mpr ⟨?_, h.1⟩), fun x => ?_⟩
  · exact fun hmem => new ((h.2 id).mp hmem)
  · rw [List.mem_append, List.mem_singleton, or_comm, h.2, more]

/-- One item does not name the container any more. -/
theorem filter (h : tree.Lists parent children)
    (less : ∀ x, tree'.parent? x = some parent ↔ tree.parent? x = some parent ∧ x ≠ id) :
    tree'.Lists parent (children.filter (· ≠ id)) := by
  refine ⟨h.1.filter _, fun x => ?_⟩
  rw [List.mem_filter, h.2, less, decide_eq_true_iff]

end Lists

namespace WellFormed

theorem kids?_root (wf : tree.WellFormed) : ∃ children, tree.kids? rootId = some children := by
  obtain ⟨root, hroot, hc, -⟩ := wf.root
  exact ⟨root.childIds, kids?_eq_some.mpr ⟨root, hroot, hc, rfl⟩⟩

/-- What an item names is a container. -/
theorem exists_kids? (wf : tree.WellFormed) (h : tree.parent? id = some parent) :
    ∃ children, tree.kids? parent = some children := by
  obtain ⟨container, hc, hcontainer, -⟩ := wf.exists_container h
  exact ⟨container.childIds, kids?_eq_some.mpr ⟨container, hc, hcontainer, rfl⟩⟩

theorem lists (wf : tree.WellFormed) {children : List ItemId}
    (h : tree.kids? parent = some children) : tree.Lists parent children := by
  obtain ⟨container, hc, -, rfl⟩ := kids?_eq_some.mp h
  refine ⟨List.nodup_iff_count_eq_one.mpr fun x hx => ?_, fun x => wf.mem_childIds_iff hc⟩
  obtain ⟨container', hc', -, hcount⟩ := wf.exists_container ((wf.mem_childIds_iff hc).mp hx)
  rw [hc] at hc'
  obtain rfl := Option.some.inj hc'
  exact hcount

theorem exists_lineage (wf : tree.WellFormed) (h : (tree.get? x).isSome = true) :
    ∃ above, tree.Lineage x above := by
  obtain ⟨item, hi⟩ := Option.isSome_iff_exists.mp h
  exact wf.lineage hi

end WellFormed

/-- A tree is well-formed if its views are. -/
theorem wellFormed_of_links (own_id : ∀ {x item}, tree.get? x = some item → item.id = x)
    (root : ∃ children, tree.kids? rootId = some children) (top : tree.parent? rootId = none)
    (container : ∀ {x parent}, tree.parent? x = some parent →
      ∃ children, tree.kids? parent = some children)
    (lists : ∀ {parent children}, tree.kids? parent = some children → tree.Lists parent children)
    (lineage : ∀ {x}, (tree.get? x).isSome = true → ∃ above, tree.Lineage x above) :
    tree.WellFormed where
  own_id := own_id
  root := by
    obtain ⟨children, hk⟩ := root
    obtain ⟨item, hi, hc, -⟩ := kids?_eq_some.mp hk
    refine ⟨item, hi, hc, ?_⟩
    exact (parent?_of_get? hi).symm.trans top
  listed := by
    intro x item hi hne
    obtain ⟨above, hl⟩ := lineage (x := x) (by rw [hi]; rfl)
    cases hl with
    | root => exact absurd rfl hne
    | @under _ parent _ step _ =>
      obtain ⟨children, hk⟩ := container step
      obtain ⟨hnodup, hmem⟩ := lists hk
      obtain ⟨found, hc, hcontainer, rfl⟩ := kids?_eq_some.mp hk
      have hcount := List.count_eq_one_of_mem hnodup ((hmem x).mpr step)
      rw [parent?_of_get? hi] at step
      exact ⟨parent, found, step, hc, hcontainer, hcount⟩
  named := by
    intro x found child hc hmem
    have hk := kids?_eq_some.mpr ⟨found, hc, Item.isContainer_of_mem_childIds hmem, rfl⟩
    exact parent?_eq_some.mp (((lists hk).2 child).mp hmem)
  lineage := by
    intro x item hi
    exact lineage (by rw [hi]; rfl)

/-! ## Ways to the root after an edit -/

namespace Lineage

variable {above : List ItemId}

/-- A way to the root stays if the parents on it do. -/
theorem congr (h : tree.Lineage id above)
    (same : ∀ x, tree.Within x id → tree'.parent? x = tree.parent? x) : tree'.Lineage id above := by
  induction h with
  | root => exact .root
  | under step rest ih =>
    refine .under ((same _ (.refl tree _)).trans step) (ih fun x hx => same x (hx.under step))

/-- If one item gets a new parent that has a way to the root, everything keeps one. -/
theorem moved (h : tree.Lineage x above) (same : ∀ x, x ≠ id → tree'.parent? x = tree.parent? x)
    (new : ∃ above, tree'.Lineage id above) : ∃ above, tree'.Lineage x above := by
  induction h with
  | root => exact ⟨[], .root⟩
  | @under x parent above step rest ih =>
    by_cases hx : x = id
    · exact hx ▸ new
    · obtain ⟨above', h⟩ := ih
      exact ⟨parent :: above', .under ((same x hx).trans step) h⟩

end Lineage

/-- An edit that keeps all links keeps a tree well-formed. -/
theorem WellFormed.sameLinks (wf : tree.WellFormed) (h : SameLinks tree tree') :
    tree'.WellFormed := by
  refine wellFormed_of_links (h.own_id wf.own_id) ?_ ?_ ?_ ?_ ?_
  · rw [h.kids?]
    exact wf.kids?_root
  · rw [h.parent?]
    exact wf.parent?_root
  · intro x parent hp
    rw [h.parent?] at hp
    rw [h.kids?]
    exact wf.exists_kids? hp
  · intro parent children hk
    rw [h.kids?] at hk
    exact (wf.lists hk).congr fun x => by rw [h.parent?]
  · intro x hx
    rw [h.isSome] at hx
    obtain ⟨above, hl⟩ := wf.exists_lineage hx
    exact ⟨above, hl.congr fun y _ => h.parent? y⟩

/-- Whether a tree is well-formed is read off its items. -/
theorem WellFormed.of_get?_eq (wf : tree.WellFormed) (h : ∀ x, tree'.get? x = tree.get? x) :
    tree'.WellFormed := by
  refine wf.sameLinks ⟨fun x => ?_, fun x => ?_, fun x => ?_, fun own x item hi => ?_⟩
  · rw [h]
  · exact parent?_congr (h x)
  · unfold kids?
    rw [h]
  · rw [h] at hi
    exact own hi

/-! ## Adding -/

section Adding

variable {item : Item} {p : ItemId}

theorem ne_of_get?_eq_none (h : tree.get? id = none) (hx : (tree.get? x).isSome = true) :
    x ≠ id := by
  rintro rfl
  rw [h] at hx
  cases hx

/-- The new item names the container it is added to, and the others name what they did. -/
theorem parent?_addUnder_eq_some (hnew : tree.get? item.id = none) :
    (tree.addUnder parent item).parent? x = some p ↔
      x = item.id ∧ p = parent ∨ tree.parent? x = some p := by
  rw [parent?_addUnder]
  by_cases hx : x = item.id
  · have hnone : tree.parent? x ≠ some p :=
      fun hp => ne_of_get?_eq_none hnew (isSome_of_parent? hp) hx
    simp [hx ▸ hnone, hx, eq_comm]
  · simp [hx]

theorem exists_kids?_addUnder (hnew : tree.get? item.id = none)
    (h : ∃ children, tree.kids? p = some children) :
    ∃ children, (tree.addUnder parent item).kids? p = some children := by
  obtain ⟨children, hk⟩ := h
  rw [kids?_addUnder, if_neg (ne_of_get?_eq_none hnew (isSome_of_kids? hk)), hk]
  split <;> exact ⟨_, rfl⟩

namespace WellFormed

theorem lists_addUnder (wf : tree.WellFormed) (hnew : tree.get? item.id = none)
    (hparent : parent ≠ item.id) {children : List ItemId}
    (hk : (tree.addUnder parent item).kids? p = some children) :
    (tree.addUnder parent item).Lists p children := by
  rw [kids?_addUnder] at hk
  by_cases hp : p = item.id
  · -- Nobody names an item that was not there.
    have hnobody : ∀ x, (tree.addUnder parent item).parent? x ≠ some p := by
      intro x hx
      rcases (parent?_addUnder_eq_some hnew).mp hx with ⟨-, rfl⟩ | hx
      · exact hparent hp
      · obtain ⟨siblings, hs⟩ := wf.exists_kids? hx
        exact ne_of_get?_eq_none hnew (isSome_of_kids? hs) hp
    rw [if_pos hp] at hk
    split at hk
    · obtain rfl := Option.some.inj hk
      exact ⟨List.nodup_nil, fun x => ⟨nofun, fun hx => absurd hx (hnobody x)⟩⟩
    · cases hk
  rw [if_neg hp] at hk
  by_cases hpp : p = parent
  · subst hpp
    rw [if_pos rfl] at hk
    obtain ⟨before, hb, rfl⟩ := Option.map_eq_some_iff.mp hk
    have hid : tree.parent? item.id ≠ some p :=
      fun hid => ne_of_get?_eq_none hnew (isSome_of_parent? hid) rfl
    refine (wf.lists hb).append hid fun x => ?_
    rw [parent?_addUnder_eq_some hnew, and_iff_left rfl]
  · rw [if_neg hpp] at hk
    refine (wf.lists hk).congr fun x => ?_
    rw [parent?_addUnder_eq_some hnew]
    exact or_iff_right fun hx => hpp hx.2

theorem addUnder (wf : tree.WellFormed) (hnew : tree.get? item.id = none)
    {children : List ItemId} (hk : tree.kids? parent = some children) :
    (tree.addUnder parent item).WellFormed := by
  have hne : ∀ {x}, (tree.get? x).isSome = true → x ≠ item.id := ne_of_get?_eq_none hnew
  have hold : ∀ {x above}, tree.Lineage x above → (tree.get? x).isSome = true →
      (tree.addUnder parent item).Lineage x above := by
    intro x above hl hx
    obtain ⟨found, hf⟩ := Option.isSome_iff_exists.mp hx
    refine hl.congr fun y hy => ?_
    obtain ⟨found', hf'⟩ := wf.exists_get?_of_within hf hy
    rw [parent?_addUnder, if_neg (hne (by rw [hf']; rfl))]
  refine wellFormed_of_links (own_id_addUnder _ _ _ _ wf.own_id)
    (exists_kids?_addUnder hnew wf.kids?_root) ?_ ?_
    (wf.lists_addUnder hnew (hne (isSome_of_kids? hk))) ?_
  · obtain ⟨top, htop⟩ := wf.kids?_root
    rw [parent?_addUnder, if_neg (hne (isSome_of_kids? htop))]
    exact wf.parent?_root
  · intro x p hp
    rcases (parent?_addUnder_eq_some hnew).mp hp with ⟨-, rfl⟩ | hp
    · exact exists_kids?_addUnder hnew ⟨children, hk⟩
    · exact exists_kids?_addUnder hnew (wf.exists_kids? hp)
  · intro x hx
    rcases (tree.isSome_addUnder parent item x).mp hx with rfl | hx
    · obtain ⟨above, hl⟩ := wf.exists_lineage (isSome_of_kids? hk)
      refine ⟨parent :: above, .under ?_ (hold hl (isSome_of_kids? hk))⟩
      rw [parent?_addUnder, if_pos rfl]
    · obtain ⟨above, hl⟩ := wf.exists_lineage hx
      exact ⟨above, hold hl hx⟩

end WellFormed

end Adding

/-! ## Moving -/

section Moving

variable {old p : ItemId}

theorem exists_kids?_moveUnder (hold : tree.parent? id = some old) (hne : old ≠ parent)
    (h : ∃ children, tree.kids? p = some children) :
    ∃ children, (tree.moveUnder id parent).kids? p = some children := by
  obtain ⟨children, hk⟩ := h
  rw [kids?_moveUnder _ _ _ _ hold hne, hk]
  split
  · exact ⟨_, rfl⟩
  · split <;> exact ⟨_, rfl⟩

namespace WellFormed

theorem lists_moveUnder (wf : tree.WellFormed) (hold : tree.parent? id = some old)
    (hne : old ≠ parent) {children : List ItemId}
    (hk : (tree.moveUnder id parent).kids? p = some children) :
    (tree.moveUnder id parent).Lists p children := by
  have hparent? := fun x => tree.parent?_moveUnder parent x id hold
  rw [kids?_moveUnder _ _ _ _ hold hne] at hk
  by_cases hp : p = parent
  · rw [if_pos hp] at hk
    obtain ⟨before, hb, rfl⟩ := Option.map_eq_some_iff.mp hk
    refine (wf.lists hb).append (by simpa [hold, hp] using hne) fun x => ?_
    by_cases hx : x = id <;> simp [hparent?, hx, hp]
  rw [if_neg hp] at hk
  by_cases hpo : p = old
  · rw [if_pos hpo] at hk
    obtain ⟨before, hb, rfl⟩ := Option.map_eq_some_iff.mp hk
    refine (wf.lists hb).filter fun x => ?_
    by_cases hx : x = id <;> simp [hparent?, hx, Ne.symm hp]
  · rw [if_neg hpo] at hk
    refine (wf.lists hk).congr fun x => ?_
    by_cases hx : x = id <;> simp [hparent?, hx, hold, Ne.symm hp, Ne.symm hpo]

theorem moveUnder (wf : tree.WellFormed) (hold : tree.parent? id = some old)
    (hne : old ≠ parent) (hapart : ¬ tree.Within id parent) {children : List ItemId}
    (hk : tree.kids? parent = some children) : (tree.moveUnder id parent).WellFormed := by
  have hid : (tree.moveUnder id parent).parent? id = some parent := by
    rw [parent?_moveUnder _ _ _ _ hold, if_pos rfl]
  have hsame : ∀ x, x ≠ id → (tree.moveUnder id parent).parent? x = tree.parent? x :=
    fun x hx => by rw [parent?_moveUnder _ _ _ _ hold, if_neg hx]
  refine wellFormed_of_links (own_id_moveUnder _ _ _ _ hold wf.own_id)
    (exists_kids?_moveUnder hold hne wf.kids?_root) ?_ ?_ (wf.lists_moveUnder hold hne) ?_
  · rw [hsame rootId (wf.ne_root_of_parent? hold).symm]
    exact wf.parent?_root
  · intro x p hp
    by_cases hx : x = id
    · rw [hx, hid] at hp
      obtain rfl := Option.some.inj hp
      exact exists_kids?_moveUnder hold hne ⟨children, hk⟩
    · rw [hsame x hx] at hp
      exact exists_kids?_moveUnder hold hne (wf.exists_kids? hp)
  · intro x hx
    rw [isSome_moveUnder _ _ _ _ hold] at hx
    obtain ⟨above, hl⟩ := wf.exists_lineage hx
    obtain ⟨above', hl'⟩ := wf.exists_lineage (isSome_of_kids? hk)
    refine hl.moved hsame ⟨parent :: above', .under hid (hl'.congr fun y hy => hsame y ?_)⟩
    rintro rfl
    exact hapart hy

end WellFormed

end Moving

/-! ## Removing -/

namespace WellFormed

variable {p : ItemId}

/-- What named a container that stays, names it still, but for the item that is removed. -/
theorem parent?_remove_eq_some (wf : tree.WellFormed) (hne : id ≠ rootId)
    (h : tree.parent? id = some parent) (hp : ¬ tree.Within id p) :
    (tree.remove id).2.parent? x = some p ↔ tree.parent? x = some p ∧ x ≠ id := by
  by_cases hx : tree.Within id x
  · have hgone := wf.get?_remove_of_within hne h hx
    refine ⟨fun hxp => ?_, fun ⟨hxp, hxid⟩ => ?_⟩
    · have hthere := isSome_of_parent? hxp
      rw [hgone] at hthere
      cases hthere
    · rcases hx.eq_or_parent with rfl | ⟨above, ha, hwithin⟩
      · exact absurd rfl hxid
      · rw [hxp] at ha
        obtain rfl := Option.some.inj ha
        exact absurd hwithin hp
  · have hxid : x ≠ id := by
      rintro rfl
      exact hx (.refl tree x)
    rw [wf.parent?_remove hne h hx]
    exact (and_iff_left hxid).symm

theorem lists_remove (wf : tree.WellFormed) (hne : id ≠ rootId)
    (h : tree.parent? id = some parent) (hp : ¬ tree.Within id p) {children : List ItemId}
    (hk : (tree.remove id).2.kids? p = some children) : (tree.remove id).2.Lists p children := by
  have hnames : ∀ x, (tree.remove id).2.parent? x = some p ↔ tree.parent? x = some p ∧ x ≠ id :=
    fun x => wf.parent?_remove_eq_some hne h hp
  rw [wf.kids?_remove hne h hp, kids?_detach] at hk
  by_cases hpp : p = parent
  · rw [if_pos hpp] at hk
    obtain ⟨before, hb, rfl⟩ := Option.map_eq_some_iff.mp hk
    exact (wf.lists hb).filter hnames
  · rw [if_neg hpp] at hk
    refine (wf.lists hk).congr fun x => (hnames x).trans (and_iff_left_of_imp ?_)
    rintro hx rfl
    rw [h] at hx
    exact hpp (Option.some.inj hx).symm

theorem remove (wf : tree.WellFormed) (id : ItemId) : (tree.remove id).2.WellFormed := by
  by_cases hroot : id = rootId
  · rw [remove_of_eq_root hroot]
    exact wf
  cases hp : tree.parent? id with
  | none =>
    rw [remove_of_parent?_eq_none hp]
    exact wf
  | some parent =>
    have hstays : ∀ {x}, ((tree.remove id).2.get? x).isSome = true → ¬ tree.Within id x := by
      intro x hx hw
      rw [wf.get?_remove_of_within hroot hp hw] at hx
      cases hx
    have hparent? : ∀ {x}, ¬ tree.Within id x →
        (tree.remove id).2.parent? x = tree.parent? x := wf.parent?_remove hroot hp
    have hkids? : ∀ {p}, ¬ tree.Within id p → (∃ children, tree.kids? p = some children) →
        ∃ children, (tree.remove id).2.kids? p = some children := by
      rintro p hw ⟨siblings, hs⟩
      rw [wf.kids?_remove hroot hp hw, kids?_detach, hs]
      split <;> exact ⟨_, rfl⟩
    refine wellFormed_of_links ?_ (hkids? (wf.not_within_root hroot) wf.kids?_root) ?_ ?_ ?_ ?_
    · intro x found hf
      rw [wf.get?_remove_of_not_within hroot hp (hstays (by rw [hf]; rfl))] at hf
      exact own_id_modify _ parent x (fun item => item.id_withChildren _) wf.own_id hf
    · rw [hparent? (wf.not_within_root hroot)]
      exact wf.parent?_root
    · intro x p hxp
      have hx := hstays (isSome_of_parent? hxp)
      rw [hparent? hx] at hxp
      exact hkids? (fun hw => hx (hw.under hxp)) (wf.exists_kids? hxp)
    · exact fun hs => wf.lists_remove hroot hp (hstays (isSome_of_kids? hs)) hs
    · intro x hx
      have hw := hstays hx
      rw [wf.get?_remove_of_not_within hroot hp hw, detach, isSome_get?_modify] at hx
      obtain ⟨above, hl⟩ := wf.exists_lineage hx
      exact ⟨above, hl.congr fun y hy => hparent? fun hwy => hw (hy.trans hwy)⟩

/-! ## Every operation -/

theorem note (wf : tree.WellFormed) (event : TreeEvent) : (tree.note event).WellFormed :=
  wf.sameLinks ⟨fun _ => rfl, fun _ => rfl, fun _ => rfl, fun h => h⟩

theorem refreshed (wf : tree.WellFormed) (id : ItemId) (item : Item) :
    (tree.modify id fun current => refresh current item).WellFormed := by
  refine wf.sameLinks (tree.sameLinks_modify id (fun _ => rfl) (fun _ => rfl) ?_ ?_) <;>
    obtain ⟨_, _, _, _, _, _ | _⟩ := item <;> rintro ⟨_, _, _, _, _, _ | _⟩ <;> rfl

theorem updating (wf : tree.WellFormed) (parent : ItemId) (item : Item) :
    (tree.updating parent item).tree.WellFormed := by
  have hcases := tree.updating_cases parent item
  generalize tree.updating parent item = edited at hcases
  cases hcases with
  | rootMissing _ _ => exact wf
  | missing _ _ => exact wf
  | refused _ _ _ _ => exact wf
  | rootRenamed _ =>
    have same : SameLinks tree (tree.modify rootId fun root => rename root item) :=
      tree.sameLinks_modify rootId (fun _ => rfl) (fun _ => rfl) (fun _ => rfl) (fun _ => rfl)
    exact (wf.sameLinks same).note _
  | replaced other found _ check =>
    obtain ⟨⟨children, hk⟩, hgone, heq⟩ := wf.replace_eq other found check
    rw [heq]
    exact (wf.remove item.id).addUnder hgone hk
  | refreshed _ _ _ _ => exact (wf.refreshed item.id item).note _
  | moved other found _ leaves check =>
    obtain ⟨old, children, hold, hne, hapart, hk⟩ := wf.exists_move other found leaves check
    exact ((wf.moveUnder hold hne hapart hk).refreshed item.id item).note _

theorem announcing (wf : tree.WellFormed) (parent : ItemId) (item : Item) :
    (tree.announcing parent item).tree.WellFormed := by
  rcases tree.announcing_cases parent item with ⟨-, -, heq⟩ | ⟨e, -, -, heq⟩ |
    ⟨children, hnew, hk, heq⟩
  · rw [heq]
    exact wf.updating parent item
  · rw [heq]
    exact wf
  · rw [heq]
    exact wf.addUnder hnew hk

theorem withValue (wf : tree.WellFormed) (id : ItemId) (value : DeviceValue) :
    (tree.modify id fun item => item.withValue value).WellFormed := by
  refine wf.sameLinks (tree.sameLinks_modify id ?_ ?_ ?_ ?_) <;>
    rintro ⟨_, _, _, _, _, _ | _⟩ <;> rfl

theorem setBinary (wf : tree.WellFormed) {on : Bool} (h : tree.setBinary id on = .ok tree') :
    tree'.WellFormed := by
  rw [setBinary_eq_ok h]
  exact (wf.withValue id _).note _

theorem setDecimal (wf : tree.WellFormed) {value : Binary64}
    (h : tree.setDecimal id value = .ok tree') : tree'.WellFormed := by
  obtain ⟨quantity, rfl⟩ := setDecimal_eq_ok h
  exact (wf.withValue id _).note _

theorem setListening (wf : tree.WellFormed) {listening changed : Bool}
    (h : tree.setListening id listening = .ok (changed, tree')) : tree'.WellFormed := by
  rcases tree.setListening_cases id listening with ⟨e, -, heq⟩ | ⟨-, heq⟩ | ⟨-, heq⟩
  · rw [heq] at h
    cases h
  · rw [heq] at h
    cases h
    exact wf
  · rw [heq] at h
    cases h
    have same : SameLinks tree (tree.modify id fun item => item.withListening listening) := by
      refine tree.sameLinks_modify id ?_ ?_ ?_ ?_ <;> rintro ⟨_, _, _, _, _, _ | _⟩ <;> rfl
    exact (wf.sameLinks same).note _

theorem setName (wf : tree.WellFormed) (name : String) : (tree.setName name).WellFormed :=
  wf.sameLinks (tree.sameLinks_modify rootId (fun _ => rfl) (fun _ => rfl) (fun _ => rfl)
    (fun _ => rfl))

/-- A new tree is well-formed. -/
theorem empty : Tree.empty.WellFormed := by
  refine ⟨⟨_, by rw [get?_empty, if_pos rfl], rfl, rfl⟩, fun h => ?_, fun h hne => ?_,
    fun h hc => ?_, fun h => ?_⟩
  · obtain ⟨rfl, rfl⟩ := eq_of_get?_empty h
    rfl
  · exact absurd (eq_of_get?_empty h).1 hne
  · obtain ⟨-, rfl⟩ := eq_of_get?_empty h
    cases hc
  · obtain ⟨rfl, -⟩ := eq_of_get?_empty h
    exact ⟨[], .root⟩

end WellFormed

/-! ## Runs -/

/-- What can be done to a tree. -/
inductive Mutation where
  | add (parent : ItemId) (item : Item)
  | remove (id : ItemId)
  | announce (parent : ItemId) (item : Item)
  | update (parent : ItemId) (item : Item)
  | setName (name : String)
  | setBinary (id : ItemId) (on : Bool)
  | setDecimal (id : ItemId) (value : Binary64)
  | setListening (id : ItemId) (listening : Bool)

/-- What a mutation comes to: whether it failed, and the tree it leaves. -/
def mutate (tree : Tree) : Mutation → Edited
  | .add parent item => .ofExcept tree ((tree.add parent item).map .done)
  | .remove id => .done (tree.remove id).2
  | .announce parent item => tree.announcing parent item
  | .update parent item => tree.updating parent item
  | .setName name => .done (tree.setName name)
  | .setBinary id on => .ofExcept tree ((tree.setBinary id on).map .done)
  | .setDecimal id value => .ofExcept tree ((tree.setDecimal id value).map .done)
  | .setListening id listening =>
    .ofExcept tree ((tree.setListening id listening).map fun outcome => .done outcome.2)

/-- The tree after mutations one after the other, whether or not each of them succeeds. -/
def run (tree : Tree) (mutations : List Mutation) : Tree :=
  mutations.foldl (fun tree mutation => (tree.mutate mutation).tree) tree

theorem WellFormed.mutate (wf : tree.WellFormed) (mutation : Mutation) :
    (tree.mutate mutation).tree.WellFormed := by
  cases mutation with
  | add parent item =>
    simp only [Tree.mutate]
    rcases tree.add_cases parent item with ⟨_, _, h⟩ | ⟨e, _, _, h⟩ | ⟨children, hnew, hk, h⟩
    · rw [h]
      exact wf
    · rw [h]
      exact wf
    · rw [h]
      exact wf.addUnder hnew hk
  | remove id => exact wf.remove id
  | announce parent item => exact wf.announcing parent item
  | update parent item => exact wf.updating parent item
  | setName name => exact wf.setName name
  | setBinary id on =>
    simp only [Tree.mutate]
    cases h : tree.setBinary id on with
    | error e => exact wf
    | ok tree' => exact wf.setBinary h
  | setDecimal id value =>
    simp only [Tree.mutate]
    cases h : tree.setDecimal id value with
    | error e => exact wf
    | ok tree' => exact wf.setDecimal h
  | setListening id listening =>
    simp only [Tree.mutate]
    cases h : tree.setListening id listening with
    | error e => exact wf
    | ok outcome => exact wf.setListening h

theorem WellFormed.run (wf : tree.WellFormed) (mutations : List Mutation) :
    (tree.run mutations).WellFormed := by
  induction mutations generalizing tree with
  | nil => exact wf
  | cons mutation mutations ih => exact ih (wf.mutate mutation)

/-- Whatever is done to a new tree, and whether or not it succeeds, the tree stays well-formed. -/
theorem wellFormed_run (mutations : List Mutation) : (Tree.empty.run mutations).WellFormed :=
  WellFormed.empty.run mutations

end Domotics.Tree
