import Domotics.Proofs.Tree.Descent
import Domotics.Proofs.Tree.Preservation
/-!
# What an edit fails of

`Fault` lists what an edit of a tree can fail of, with the cause that is told. The causes of one
edit exclude each other, so the list says which of several is told. In a well-formed tree an edit
fails of just these, and leaves the tree as it was (`WellFormed.mutate_eq_error_iff`).

An update looks for the item among those above its new parent, going up. What it fails of is told
by going down: an item cannot stand under what it `Reaches`. Taking a replaced item out before the
new one is put in could fail in the middle. It never does, as all that could be wrong was looked at
before.
-/

namespace Domotics

/-! ## Reading values -/

namespace Item

/-- Reads values of a type, which fails for a container and for a device with a value of another
type. -/
def Reads {α : Type} (read : Item → Except Error α) (type : ValueType) : Prop :=
  ∀ item e, read item = .error e ↔
    item.isContainer = true ∧ e = .notADevice item.id ∨
      ∃ value, item.value? = some value ∧ value.type ≠ type ∧ e = .wrongValueType item.id type

theorem reads_binaryValue : Reads binaryValue .binary := by
  rintro ⟨_, _, _, _, _, _ | ⟨_, _ | _⟩⟩ e <;>
    simp [binaryValue, value, isContainer, value?, DeviceValue.type, bind, Except.bind, eq_comm]

theorem reads_quantity : Reads quantity .decimal := by
  rintro ⟨_, _, _, _, _, _ | ⟨_, _ | _⟩⟩ e <;>
    simp [quantity, value, isContainer, value?, DeviceValue.type, bind, Except.bind, eq_comm]

end Item

namespace Tree

variable {tree : Tree} {id parent : ItemId} {item : Item} {e : Error} {α : Type}

/-! ## Causes -/

/-- Nothing can be put under a number that stands for nothing or for a device. -/
inductive NoContainer (tree : Tree) (id : ItemId) : Error → Prop
  | missing (absent : tree.get? id = none) : NoContainer tree id (.itemNotFound id)
  | device {item : Item} (found : tree.get? id = some item) (device : item.isContainer = false) :
    NoContainer tree id (.notAContainer id)

/-- A value of a type can only be given to a device that has one of the same type. -/
inductive NoValue (tree : Tree) (id : ItemId) (type : ValueType) : Error → Prop
  | missing (absent : tree.get? id = none) : NoValue tree id type (.itemNotFound id)
  | container {item : Item} (found : tree.get? id = some item)
    (container : item.isContainer = true) : NoValue tree id type (.notADevice id)
  | otherType {item : Item} {value : DeviceValue} (found : tree.get? id = some item)
    (carried : item.value? = some value) (other : value.type ≠ type) :
    NoValue tree id type (.wrongValueType id type)

/-- An item cannot stand under itself or under what is below it, nor where there is no container. -/
inductive Misplaced (tree : Tree) (id parent : ItemId) : Error → Prop
  | cycle (below : tree.Reaches id parent) :
    Misplaced tree id parent (.protocol s!"moving item {id} under {parent} would create a cycle")
  | nowhere {e : Error} (apart : ¬ tree.Reaches id parent) (no : tree.NoContainer parent e) :
    Misplaced tree id parent e

/-- What an edit fails of. -/
inductive Fault (tree : Tree) : Mutation → Error → Prop
  | taken {parent : ItemId} {item found : Item} (found : tree.get? item.id = some found) :
    Fault tree (.add parent item) (.duplicateId item.id)
  | nowhere {parent : ItemId} {item : Item} {e : Error} (new : tree.get? item.id = none)
    (no : tree.NoContainer parent e) : Fault tree (.add parent item) e
  | unknown {parent : ItemId} {item : Item} (other : item.id ≠ rootId)
    (absent : tree.get? item.id = none) :
    Fault tree (.update parent item) (.itemNotFound item.id)
  | misplaced {parent : ItemId} {item existing : Item} {e : Error} (other : item.id ≠ rootId)
    (found : tree.get? item.id = some existing)
    (leaves : existing.isContainer ≠ item.isContainer ∨ existing.parent ≠ some parent)
    (no : tree.Misplaced item.id parent e) : Fault tree (.update parent item) e
  | announcedNew {parent : ItemId} {item : Item} {e : Error} (new : tree.get? item.id = none)
    (fault : Fault tree (.add parent item) e) : Fault tree (.announce parent item) e
  | announcedAgain {parent : ItemId} {item existing : Item} {e : Error}
    (found : tree.get? item.id = some existing)
    (fault : Fault tree (.update parent item) e) : Fault tree (.announce parent item) e
  | notBinary {id : ItemId} {on : Bool} {e : Error} (no : tree.NoValue id .binary e) :
    Fault tree (.setBinary id on) e
  | notDecimal {id : ItemId} {value : Binary64} {e : Error} (no : tree.NoValue id .decimal e) :
    Fault tree (.setDecimal id value) e
  | noMark {id : ItemId} {listening : Bool} {e : Error} (no : tree.NoContainer id e) :
    Fault tree (.setListening id listening) e

section Inversion

variable {existing : Item}

/-- What updating an item that is there fails of. -/
theorem fault_update_iff (other : item.id ≠ rootId) (found : tree.get? item.id = some existing) :
    tree.Fault (.update parent item) e ↔
      (existing.isContainer ≠ item.isContainer ∨ existing.parent ≠ some parent) ∧
        tree.Misplaced item.id parent e := by
  refine ⟨fun h => ?_, fun ⟨leaves, no⟩ => .misplaced other found leaves no⟩
  cases h with
  | unknown _ absent =>
    rw [found] at absent
    cases absent
  | misplaced _ found' leaves no =>
    rw [found] at found'
    exact Option.some.inj found' ▸ ⟨leaves, no⟩

/-- What announcing an item that is not there fails of. -/
theorem fault_announce_iff (new : tree.get? item.id = none) :
    tree.Fault (.announce parent item) e ↔ tree.Fault (.add parent item) e := by
  refine ⟨fun h => ?_, .announcedNew new⟩
  cases h with
  | announcedNew _ fault => exact fault
  | announcedAgain found _ =>
    rw [new] at found
    cases found

end Inversion

/-! ## Looking up -/

theorem item_eq_ok_iff : tree.item id = .ok item ↔ tree.get? id = some item :=
  ⟨get?_of_item_eq_ok, item_eq_ok⟩

theorem item_eq_error_iff :
    tree.item id = .error e ↔ tree.get? id = none ∧ e = .itemNotFound id := by
  cases h : tree.get? id with
  | none =>
    rw [item_eq_error h]
    exact ⟨fun h => ⟨rfl, (Except.error.inj h).symm⟩, fun h => congrArg Except.error h.2.symm⟩
  | some item =>
    rw [item_eq_ok h]
    exact ⟨nofun, nofun⟩

namespace WellFormed

theorem children_eq_error_iff (wf : tree.WellFormed) :
    tree.children id = .error e ↔ tree.NoContainer id e := by
  unfold Tree.children
  simp only [bind_eq_error_iff, item_eq_error_iff, item_eq_ok_iff, Item.children_eq_error_iff]
  constructor
  · rintro (⟨absent, rfl⟩ | ⟨item, found, device, rfl⟩)
    · exact .missing absent
    · rw [wf.own_id found]
      exact .device found device
  · rintro (absent | ⟨found, device⟩)
    · exact Or.inl ⟨absent, rfl⟩
    · exact Or.inr ⟨_, found, device, by rw [wf.own_id found]⟩

theorem eq_of_noContainer (wf : tree.WellFormed) {cause : Error}
    (hc : tree.children id = .error cause) (no : tree.NoContainer id e) : cause = e := by
  rw [← wf.children_eq_error_iff, hc] at no
  exact Except.error.inj no

theorem not_noContainer (wf : tree.WellFormed) {children : List ItemId}
    (hk : tree.kids? id = some children) : ¬ tree.NoContainer id e := by
  rw [← wf.children_eq_error_iff, children_eq_ok_iff_kids?.mpr hk]
  exact nofun

/-- A value that cannot be read off an item cannot be read off what stands under its number. -/
theorem read_eq_error_iff (wf : tree.WellFormed) {read : Item → Except Error α} {type : ValueType}
    (reads : Item.Reads read type) :
    (tree.item id >>= read) = .error e ↔ tree.NoValue id type e := by
  simp only [bind_eq_error_iff, item_eq_error_iff, item_eq_ok_iff, reads _ _]
  constructor
  · rintro (⟨absent, rfl⟩ | ⟨item, found, ⟨container, rfl⟩ | ⟨value, carried, other, rfl⟩⟩)
    · exact .missing absent
    · rw [wf.own_id found]
      exact .container found container
    · rw [wf.own_id found]
      exact .otherType found carried other
  · rintro (absent | ⟨found, container⟩ | ⟨found, carried, other⟩)
    · exact Or.inl ⟨absent, rfl⟩
    · exact Or.inr ⟨_, found, Or.inl ⟨container, by rw [wf.own_id found]⟩⟩
    · exact Or.inr ⟨_, found, Or.inr ⟨_, carried, other, by rw [wf.own_id found]⟩⟩

/-- Going up from a number finds an item exactly if going down from the item leads to the number,
also if the number stands for nothing. -/
theorem mem_ancestors_iff_reaches (wf : tree.WellFormed) :
    parent = id ∨ id ∈ tree.ancestors parent ↔ tree.Reaches id parent := by
  rw [wf.reaches_iff]
  cases h : tree.get? parent with
  | some container => exact wf.mem_ancestors_iff h
  | none =>
    have hparent := parent?_of_get?_eq_none h
    have hnone : tree.ancestors parent = [] := by
      unfold ancestors
      cases tree.size with
      | zero => rfl
      | succ steps => simp only [ancestorsWithin, hparent]
    rw [hnone]
    constructor
    · rintro (rfl | hmem)
      · exact .refl tree _
      · cases hmem
    · intro hw
      rcases hw.eq_or_parent with heq | ⟨above, ha, -⟩
      · exact Or.inl heq
      · rw [hparent] at ha
        cases ha

theorem checkParent_eq_error_iff (wf : tree.WellFormed) :
    tree.checkParent id parent = .error e ↔ tree.Misplaced id parent e := by
  have hcases := tree.checkParent_cases id parent
  rw [wf.mem_ancestors_iff_reaches] at hcases
  rcases hcases with ⟨below, heq⟩ | ⟨cause, apart, hc, heq⟩ | ⟨children, apart, hk, heq⟩
  · rw [heq]
    constructor
    · rintro ⟨⟩
      exact .cycle below
    · rintro (_ | ⟨apart, _⟩)
      · rfl
      · exact absurd below apart
  · rw [heq]
    constructor
    · rintro ⟨⟩
      exact .nowhere apart (wf.children_eq_error_iff.mp hc)
    · rintro (below | ⟨_, no⟩)
      · exact absurd below apart
      · exact congrArg Except.error (wf.eq_of_noContainer hc no)
  · rw [heq]
    constructor
    · rintro ⟨⟩
    · rintro (below | ⟨_, no⟩)
      · exact absurd below apart
      · exact absurd no (wf.not_noContainer hk)

/-! ## Editing -/

theorem add_eq_error_iff (wf : tree.WellFormed) :
    tree.add parent item = .error e ↔ tree.Fault (.add parent item) e := by
  rcases tree.add_cases parent item with ⟨found, hf, heq⟩ | ⟨cause, hnew, hc, heq⟩ |
    ⟨children, hnew, hk, heq⟩
  · rw [heq]
    constructor
    · rintro ⟨⟩
      exact .taken hf
    · rintro (_ | ⟨new, _⟩)
      · rfl
      · rw [hf] at new
        cases new
  · rw [heq]
    constructor
    · rintro ⟨⟩
      exact .nowhere hnew (wf.children_eq_error_iff.mp hc)
    · rintro (found | ⟨_, no⟩)
      · rw [hnew] at found
        cases found
      · exact congrArg Except.error (wf.eq_of_noContainer hc no)
  · rw [heq]
    constructor
    · rintro ⟨⟩
    · rintro (found | ⟨_, no⟩)
      · rw [hnew] at found
        cases found
      · exact absurd no (wf.not_noContainer hk)

theorem updating_eq_error_iff (wf : tree.WellFormed) :
    (tree.updating parent item).result = .error e ↔ tree.Fault (.update parent item) e := by
  have hcases := tree.updating_cases parent item
  generalize tree.updating parent item = edited at hcases
  cases hcases with
  | rootMissing isRoot absent =>
    obtain ⟨root, hroot, -⟩ := wf.root
    rw [hroot] at absent
    cases absent
  | rootRenamed isRoot =>
    refine ⟨nofun, fun h => ?_⟩
    cases h with
    | unknown other _ => exact absurd isRoot other
    | misplaced other _ _ _ => exact absurd isRoot other
  | missing other absent =>
    constructor
    · rintro ⟨⟩
      exact .unknown other absent
    · intro h
      cases h with
      | unknown _ _ => rfl
      | misplaced _ found _ _ =>
        rw [absent] at found
        cases found
  | refused other found leaves check =>
    rw [fault_update_iff other found, ← wf.checkParent_eq_error_iff, check]
    exact ⟨fun h => ⟨leaves, congrArg Except.error (Except.error.inj h)⟩, fun h =>
      congrArg Except.error (Except.error.inj h.2)⟩
  | replaced other found kind check =>
    obtain ⟨-, -, heq⟩ := wf.replace_eq other found check
    rw [heq, fault_update_iff other found, ← wf.checkParent_eq_error_iff, check]
    exact ⟨nofun, nofun⟩
  | refreshed other found kind stays =>
    rw [fault_update_iff other found]
    refine ⟨nofun, fun ⟨leaves, _⟩ => ?_⟩
    rcases leaves with differs | leaves
    · exact absurd kind differs
    · exact absurd stays leaves
  | moved other found kind leaves check =>
    rw [fault_update_iff other found, ← wf.checkParent_eq_error_iff, check]
    exact ⟨nofun, nofun⟩

theorem announcing_eq_error_iff (wf : tree.WellFormed) :
    (tree.announcing parent item).result = .error e ↔ tree.Fault (.announce parent item) e := by
  rcases tree.announcing_cases parent item with ⟨existing, found, heq⟩ | ⟨cause, new, hadd, heq⟩ |
    ⟨children, new, hk, heq⟩
  · rw [heq, wf.updating_eq_error_iff]
    refine ⟨.announcedAgain found, fun h => ?_⟩
    cases h with
    | announcedNew new _ =>
      rw [found] at new
      cases new
    | announcedAgain _ fault => exact fault
  · rw [heq, fault_announce_iff new, ← wf.add_eq_error_iff, hadd]
    constructor <;> exact fun h => congrArg Except.error (Except.error.inj h)
  · rw [heq, fault_announce_iff new, ← wf.add_eq_error_iff, add_of_new new hk]
    exact ⟨nofun, nofun⟩

theorem setBinary_eq_error_iff (wf : tree.WellFormed) {on : Bool} :
    tree.setBinary id on = .error e ↔ tree.Fault (.setBinary id on) e := by
  have hread : tree.setBinary id on = .error e ↔
      (tree.item id >>= Item.binaryValue) = .error e := by
    unfold Tree.setBinary
    simp only [bind_eq_error_iff, discard_eq_error_iff, pure, Except.pure, reduceCtorEq, and_false,
      exists_false, or_false]
  rw [hread, wf.read_eq_error_iff Item.reads_binaryValue]
  exact ⟨.notBinary, fun | .notBinary no => no⟩

theorem setDecimal_eq_error_iff (wf : tree.WellFormed) {value : Binary64} :
    tree.setDecimal id value = .error e ↔ tree.Fault (.setDecimal id value) e := by
  have hread : tree.setDecimal id value = .error e ↔
      (tree.item id >>= Item.quantity) = .error e := by
    unfold Tree.setDecimal
    simp only [bind_eq_error_iff, pure, Except.pure, reduceCtorEq, and_false, exists_false,
      or_false]
  rw [hread, wf.read_eq_error_iff Item.reads_quantity]
  exact ⟨.notDecimal, fun | .notDecimal no => no⟩

theorem setListening_eq_error_iff (wf : tree.WellFormed) {listening : Bool} :
    tree.setListening id listening = .error e ↔ tree.Fault (.setListening id listening) e := by
  have hmark : tree.isListening id = .error e ↔ tree.children id = .error e := by
    unfold isListening Tree.children
    simp only [bind_eq_error_iff, discard_eq_error_iff, pure, Except.pure, reduceCtorEq, and_false,
      exists_false, or_false]
  have hset : tree.setListening id listening = .error e ↔ tree.isListening id = .error e := by
    rcases tree.setListening_cases id listening with ⟨cause, hl, heq⟩ | ⟨hl, heq⟩ | ⟨hl, heq⟩
    · rw [hl, heq]
      constructor <;> exact fun h => congrArg Except.error (Except.error.inj h)
    · rw [hl, heq]
      exact ⟨nofun, nofun⟩
    · rw [hl, heq]
      exact ⟨nofun, nofun⟩
  rw [hset, hmark, wf.children_eq_error_iff]
  exact ⟨.noMark, fun | .noMark no => no⟩

end WellFormed

/-! ## Refused edits -/

section Refused

variable {result : Except Error α} {edit : α → Edited}

/-- An edit that leaves the tree as it was if it is refused, and cannot fail after that. -/
theorem ofExcept_map_eq_error_iff (succeeds : ∀ a, (edit a).result = .ok ()) :
    (Edited.ofExcept tree (result.map edit)).result = .error e ↔ result = .error e := by
  cases result with
  | error cause =>
    constructor <;> exact fun h => congrArg Except.error (Except.error.inj h)
  | ok a =>
    refine ⟨fun h => ?_, nofun⟩
    cases (succeeds a).symm.trans h

theorem tree_ofExcept_map (h : result = .error e) :
    (Edited.ofExcept tree (result.map edit)).tree = tree := by
  rw [h]
  rfl

end Refused

/-- An edit of a well-formed tree fails of just what is listed, and leaves the items and the queue as
they were. -/
theorem WellFormed.mutate_eq_error_iff (wf : tree.WellFormed) (mutation : Mutation) (e : Error) :
    ((tree.mutate mutation).result = .error e ↔ tree.Fault mutation e) ∧
      ((tree.mutate mutation).result = .error e → (tree.mutate mutation).tree = tree) := by
  have hdone : ∀ tree : Tree, (Edited.done tree).result = .ok () := fun _ => rfl
  have hsecond : ∀ outcome : Bool × Tree, (Edited.done outcome.2).result = .ok () := fun _ => rfl
  cases mutation with
  | add parent item =>
    simp only [Tree.mutate, ofExcept_map_eq_error_iff hdone]
    exact ⟨wf.add_eq_error_iff, tree_ofExcept_map⟩
  | remove id => refine ⟨⟨fun h => ?_, fun h => ?_⟩, fun h => ?_⟩ <;> cases h
  | announce parent item => exact ⟨wf.announcing_eq_error_iff, wf.announcing_of_error⟩
  | update parent item => exact ⟨wf.updating_eq_error_iff, wf.updating_of_error⟩
  | setName name => refine ⟨⟨fun h => ?_, fun h => ?_⟩, fun h => ?_⟩ <;> cases h
  | setBinary id on =>
    simp only [Tree.mutate, ofExcept_map_eq_error_iff hdone]
    exact ⟨wf.setBinary_eq_error_iff, tree_ofExcept_map⟩
  | setDecimal id value =>
    simp only [Tree.mutate, ofExcept_map_eq_error_iff hdone]
    exact ⟨wf.setDecimal_eq_error_iff, tree_ofExcept_map⟩
  | setListening id listening =>
    simp only [Tree.mutate, ofExcept_map_eq_error_iff hsecond]
    exact ⟨wf.setListening_eq_error_iff, tree_ofExcept_map⟩

/-- On a floor with a kitchen and a lamp in it: what is refused, and why. -/
theorem mutate_eq_error_iff_floor :
    let floor : Item := .ofContainer 1 "Ground floor" "" false
    let kitchen : Item := .ofContainer 2 "Kitchen" "" false
    let lamp : Item := .ofDevice 3 "Lamp" "" false .actuator (.binary false)
    let garden : Item := .ofContainer 5 "Garden" "" false
    let tree := Tree.empty.run [.add rootId floor, .add 1 kitchen, .add 2 lamp]
    let refuses (mutation : Mutation) (e : Error) : Prop :=
      (tree.mutate mutation).result = .error e ∧ (tree.mutate mutation).tree = tree
    tree.WellFormed ∧
      refuses (.add 2 kitchen) (.duplicateId 2) ∧
      refuses (.announce 3 garden) (.notAContainer 3) ∧
      refuses (.update 1 garden) (.itemNotFound 5) ∧
      refuses (.update 2 floor) (.protocol "moving item 1 under 2 would create a cycle") ∧
      refuses (.update 7 kitchen) (.itemNotFound 7) ∧
      refuses (.setDecimal 3 (.zero false)) (.wrongValueType 3 .decimal) ∧
      refuses (.setListening 3 true) (.notAContainer 3) := by
  intro floor kitchen lamp garden tree refuses
  have wf : tree.WellFormed := WellFormed.empty.run _
  have hfloor : tree.get? 1 = some ⟨1, "Ground floor", "", false, some rootId,
    .container [2] false⟩ := by decide +kernel
  have hkitchen : tree.get? 2 = some ⟨2, "Kitchen", "", false, some 1, .container [3] false⟩ := by
    decide +kernel
  have hlamp : tree.get? 3 = some { lamp with parent := some 2 } := by decide +kernel
  have hgarden : tree.get? 5 = none := by decide +kernel
  have hnowhere : tree.get? 7 = none := by decide +kernel
  have hbelow : tree.Reaches 1 2 := .single ⟨_, hfloor, List.mem_singleton_self 2⟩
  have hapart : ¬ tree.Reaches 2 7 := by
    rw [← wf.mem_ancestors_iff_reaches]
    decide +kernel
  have hrefuses : ∀ {mutation e}, tree.Fault mutation e → refuses mutation e := by
    intro mutation e fault
    obtain ⟨hfails, hsame⟩ := wf.mutate_eq_error_iff mutation e
    exact ⟨hfails.mpr fault, hsame (hfails.mpr fault)⟩
  refine ⟨wf, hrefuses (.taken hkitchen), hrefuses (.announcedNew hgarden ?_),
    hrefuses (.unknown (by decide) hgarden), hrefuses ?_, hrefuses ?_, hrefuses ?_, hrefuses ?_⟩
  · exact .nowhere hgarden (.device hlamp rfl)
  · exact .misplaced (by decide) hfloor (Or.inr (by decide)) (.cycle hbelow)
  · exact .misplaced (by decide) hkitchen (Or.inr (by decide))
      (.nowhere hapart (.missing hnowhere))
  · exact .notDecimal (.otherType hlamp rfl (by decide))
  · exact .noMark (.device hlamp rfl)

end Tree

end Domotics
