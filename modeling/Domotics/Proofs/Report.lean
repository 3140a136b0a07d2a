import Domotics.Proofs.Edits
import Domotics.Proofs.Message.RoundTrip
import Domotics.Proofs.Text.Lines
import Domotics.Proofs.Text.Scanning
import Domotics.Proofs.Tree.Rendering
import Domotics.Report
/-!
# The report of a tree

At the end the tree is reported as the lines of its text, and who reads the report takes each line
for an item. The text has one entry for each item, ended by a line feed, but names and units come
from the central unit, which may send line feeds in them, and they are not escaped. So there is one
more line for each line feed, and a carriage return at the end of a unit is lost
(`not_reported_name`). `reported_received` says for every tree how many lines there are, and that
they are the indented texts of the items just if no name has a line feed in it and each unit
abbreviation is a line.

What an item says of itself has its name at the front, its unit at the end, and nothing but plain
characters in between (`Item.exists_line_eq`), so nothing else matters.
-/

namespace Domotics

open Domotics.Tree

/-- The abbreviation of the unit that a value is measured in, if it is. -/
def DeviceValue.abbreviation : DeviceValue → String
  | binary _ => ""
  | decimal quantity => quantity.abbreviation

/-- The abbreviation of the unit that an item is measured in, if it is. -/
def Item.abbreviation (item : Item) : String :=
  (item.value?.map DeviceValue.abbreviation).getD ""

/-- The line feeds in what an item brings along from the central unit. -/
def Item.lineFeeds (item : Item) : Nat :=
  item.name.toList.count '\n' + item.abbreviation.toList.count '\n'

/-- Neither the name nor the unit of an item breaks its line. -/
def Item.KeepsLine (item : Item) : Prop :=
  '\n' ∉ item.name.toList ∧ Text.IsLine item.abbreviation

namespace Tree

/-- A message with everything that is looked at when it is applied to the tree. -/
structure Delivery where
  listening : Listening
  listenAll : Bool
  epoch : Epoch
  message : Message

def deliver (tree : Tree) (delivery : Delivery) : Tree :=
  (dispatch tree delivery.listening delivery.listenAll delivery.epoch delivery.message).tree

/-- The tree after some messages, the first one first. -/
def received (deliveries : List Delivery) : Tree :=
  deliveries.foldl deliver empty

/-- The text of an item in the text of a tree, without the end of its line. -/
def indented (tree : Tree) (item : Item) : String :=
  String.ofList (List.replicate (2 * (tree.ancestors item.id).length) ' ') ++ item.caption ++
    if item.id ∈ tree.listeningContainers then listeningMark else ""

/-- The lines in which a tree is reported, which has these items in the order of a walk down. -/
structure Reported (tree : Tree) (items : List Item) (lines : List String) : Prop where
  unfolds : tree.Unfolds items
  members : (Report.tree tree.render).members = [("lines", .strings lines)]
  /-- There is one line for each item, and one more for each line feed that came with it. -/
  length : lines.length = items.length + (items.map Item.lineFeeds).sum
  /-- Each line is the text of its item just if there is nothing in the items that breaks a line. -/
  lines_eq_iff : lines = items.map tree.indented ↔ ∀ item ∈ items, item.KeepsLine

end Tree

/-! ## What items say of themselves -/

/-- Something to read that neither ends a line nor is lost at the end of one. -/
def IsPlainText (text : String) : Prop :=
  ∀ c ∈ text.toList, ' ' ≤ c

section Plain

variable {text text' : String} {item : Item}

instance (text : String) : Decidable (IsPlainText text) :=
  List.decidableBAll (' ' ≤ ·) text.toList

theorem IsPlainText.append (h : IsPlainText text) (h' : IsPlainText text') :
    IsPlainText (text ++ text') := by
  intro c hc
  rw [String.toList_append] at hc
  exact (List.mem_append.mp hc).elim (h c) (h' c)

theorem IsPlainText.notMem (h : IsPlainText text) {c : Char} (hc : c < ' ') : c ∉ text.toList :=
  fun hmem => absurd (h c hmem) (Char.not_le.mpr hc)

theorem isPlainText_ofList {chars : List Char} :
    IsPlainText (String.ofList chars) ↔ ∀ c ∈ chars, ' ' ≤ c := by
  rw [IsPlainText, String.toList_ofList]

theorem le_of_mem_toDigits {n : Nat} {c : Char} (h : c ∈ Nat.toDigits 10 n) : ' ' ≤ c := by
  have hdigit := Text.isDigit_of_mem_toDigits h
  exact Char.le_trans (by decide) (of_decide_eq_true (Bool.and_eq_true_iff.mp hdigit).1)

theorem isPlainText_id (id : ItemId) : IsPlainText (toString id) := by
  have hnat : ∀ n : Nat, IsPlainText n.repr := by
    intro n
    rw [Nat.repr_eq_ofList_toDigits, isPlainText_ofList]
    exact fun _ => le_of_mem_toDigits
  change IsPlainText id.toInt.repr
  cases id.toInt with
  | ofNat n => exact hnat n
  | negSucc n => exact .append (by decide) (hnat n.succ)

theorem isPlainText_positional (d : Decimal.Scientific) : IsPlainText d.positional := by
  have hdigits : ∀ c ∈ Nat.toDigits 10 d.digits, ' ' ≤ c := fun _ => le_of_mem_toDigits
  have hzeros : ∀ n, ∀ c ∈ List.replicate n '0', ' ' ≤ c := fun n c hc =>
    List.eq_of_mem_replicate hc ▸ by decide
  unfold Decimal.Scientific.positional
  dsimp only
  split
  · exact isPlainText_ofList.mpr (List.forall_mem_append.mpr ⟨hdigits, hzeros _⟩)
  · split <;> refine isPlainText_ofList.mpr ?_
    · refine List.forall_mem_append.mpr ⟨fun c hc => hdigits c (List.mem_of_mem_take hc), ?_⟩
      exact List.forall_mem_cons.mpr ⟨by decide, fun c hc => hdigits c (List.mem_of_mem_drop hc)⟩
    · refine List.forall_mem_cons.mpr ⟨by decide, List.forall_mem_cons.mpr ⟨by decide, ?_⟩⟩
      exact List.forall_mem_append.mpr ⟨hzeros _, hdigits⟩

theorem isPlainText_number (x : Binary64) : IsPlainText x.text := by
  have hsign : ∀ negative : Bool, IsPlainText (if negative then "-" else "") := by decide
  unfold Binary64.text
  cases x.shape with
  | nan => decide
  | infinite negative => exact (hsign negative).append (by decide)
  | finite negative significand exponent =>
    refine (hsign negative).append ?_
    split
    · decide
    · exact isPlainText_positional _

/-- The text of a value ends with the abbreviation of its unit. -/
theorem DeviceValue.exists_text_eq (value : DeviceValue) :
    ∃ shown, value.text = shown ++ value.abbreviation ∧ IsPlainText shown := by
  cases value with
  | binary on => exact ⟨boolText on, (String.append_empty).symm, by cases on <;> decide⟩
  | decimal quantity =>
    have hnumber := isPlainText_number quantity.value
    unfold text abbreviation
    dsimp only
    split
    · rename_i hempty
      refine ⟨quantity.value.text, ?_, hnumber⟩
      rw [String.isEmpty_iff.mp hempty, String.append_empty]
    · exact ⟨_, rfl, hnumber.append (by decide)⟩

/-- What an item says of itself has its name at the front and the abbreviation of its unit at the
end. -/
theorem Item.exists_line_eq (item : Item) :
    ∃ middle, item.line = item.name ++ middle ++ item.abbreviation ∧
      IsPlainText middle ∧ middle ≠ "" := by
  obtain ⟨id, name, description, internal, parent, kind⟩ := item
  have hid : IsPlainText (" (" ++ toString id) := .append (by decide) (isPlainText_id id)
  cases kind with
  | container children listening =>
    have hmark : IsPlainText (if listening then " [listening]" else "") := by
      cases listening <;> decide
    refine ⟨" (" ++ toString id ++ ")" ++ if listening then " [listening]" else "", ?_,
      (hid.append (by decide)).append hmark, by simp⟩
    have hline : line ⟨id, name, description, internal, parent, .container children listening⟩ =
        name ++ " (" ++ toString id ++ ")" ++ if listening then " [listening]" else "" := rfl
    have hnone : abbreviation ⟨id, name, description, internal, parent,
        .container children listening⟩ = "" := rfl
    rw [hline, hnone]
    simp only [String.append_empty, String.append_assoc]
  | device role value =>
    obtain ⟨shown, htext, hshown⟩ := value.exists_text_eq
    have hwords : ∀ (type : ValueType) (role : DeviceRole),
        IsPlainText (type.text ++ " " ++ role.text ++ " = ") := by
      intro type role
      cases type <;> cases role <;> decide
    refine ⟨" (" ++ toString id ++ ") " ++ (value.type.text ++ " " ++ role.text ++ " = ") ++ shown,
      ?_, ((hid.append (by decide)).append (hwords value.type role)).append hshown, by simp⟩
    have hline : line ⟨id, name, description, internal, parent, .device role value⟩ =
        name ++ " (" ++ toString id ++ ") " ++ value.type.text ++ " " ++ role.text ++ " = " ++
          value.text := rfl
    have hunit : abbreviation ⟨id, name, description, internal, parent, .device role value⟩ =
        value.abbreviation := rfl
    rw [hline, htext, hunit]
    simp only [String.append_assoc]

end Plain

namespace Tree

variable {tree : Tree} {item : Item} {items : List Item}

/-- In the text of a tree an item has its line, indented. -/
theorem indented_eq (h : tree.get? item.id = some item) : tree.indented item =
    String.ofList (List.replicate (2 * (tree.ancestors item.id).length) ' ') ++ item.line :=
  (String.append_left_inj "\n").mp (entry_eq h)

theorem exists_indented_eq (h : tree.get? item.id = some item) :
    ∃ before middle, tree.indented item = before ++ item.name ++ middle ++ item.abbreviation ∧
      IsPlainText before ∧ IsPlainText middle ∧ middle ≠ "" := by
  obtain ⟨middle, hline, hmiddle, hne⟩ := item.exists_line_eq
  refine ⟨String.ofList (List.replicate (2 * (tree.ancestors item.id).length) ' '), middle, ?_,
    isPlainText_ofList.mpr fun c hc => ?_, hmiddle, hne⟩
  · rw [indented_eq h, hline, ← String.append_assoc, ← String.append_assoc]
  · obtain rfl := List.eq_of_mem_replicate hc
    exact Char.le_refl ' '

theorem count_indented (h : tree.get? item.id = some item) :
    (tree.indented item).toList.count '\n' = item.lineFeeds := by
  obtain ⟨before, middle, heq, hbefore, hmiddle, -⟩ := exists_indented_eq h
  have hnone : ∀ {text : String}, IsPlainText text → text.toList.count '\n' = 0 := fun htext =>
    List.count_eq_zero.mpr (htext.notMem (by decide))
  simp only [heq, String.toList_append, List.count_append, hnone hbefore, hnone hmiddle,
    Item.lineFeeds, Nat.zero_add, Nat.add_zero]

theorem isLine_indented_iff (h : tree.get? item.id = some item) :
    Text.IsLine (tree.indented item) ↔ item.KeepsLine := by
  obtain ⟨before, middle, heq, hbefore, hmiddle, hne⟩ := exists_indented_eq h
  have hlast : (tree.indented item).toList.getLast? ≠ some '\r' ↔
      item.abbreviation.toList.getLast? ≠ some '\r' := by
    rw [heq, String.toList_append, String.toList_append, List.getLast?_append, List.getLast?_append]
    cases hunit : item.abbreviation.toList.getLast? with
    | some c => rfl
    | none =>
      have hmiddle' : middle.toList.getLast? ≠ some '\r' := fun hlast =>
        hmiddle.notMem (by decide) (List.mem_of_getLast? hlast)
      cases hend : middle.toList.getLast? with
      | none => exact absurd (String.toList_eq_nil_iff.mp (List.getLast?_eq_none_iff.mp hend)) hne
      | some c =>
        rw [hend] at hmiddle'
        exact iff_of_true hmiddle' nofun
  have hmem : '\n' ∉ (tree.indented item).toList ↔
      '\n' ∉ item.name.toList ∧ '\n' ∉ item.abbreviation.toList := by
    simp only [heq, String.toList_append, List.mem_append, hbefore.notMem (by decide : '\n' < ' '),
      hmiddle.notMem (by decide : '\n' < ' '), false_or, or_false, not_or]
  rw [Text.IsLine, hmem, hlast, and_assoc]
  rfl

/-- The lines in which a well-formed tree is reported. -/
theorem WellFormed.reported (wf : tree.WellFormed) :
    tree.Reported (tree.outline.map (·.2)) (Text.lines tree.render) := by
  have hget : ∀ item ∈ tree.outline.map (·.2), tree.get? item.id = some item := fun _ =>
    wf.mem_outline_iff.mp
  have hrender : tree.render =
      String.join (((tree.outline.map (·.2)).map tree.indented).map Text.terminated) := by
    rw [wf.render_eq, @List.map_map _ _ _ Text.terminated]
    rfl
  have hunfolds := wf.unfolds_outline
  generalize tree.outline.map (·.2) = items at hget hrender hunfolds
  refine ⟨hunfolds, rfl, ?_, ?_⟩
  · rw [hrender, Text.lines_join_terminated, List.length_flatMap, List.map_map]
    have hlength : items.map ((fun text => (Text.lines (Text.terminated text)).length) ∘
        tree.indented) = items.map fun item => 1 + item.lineFeeds := by
      refine List.map_congr_left fun item hitem => ?_
      rw [Function.comp_apply, Text.length_lines_terminated, count_indented (hget item hitem),
        Nat.add_comm]
    rw [hlength, List.sum_map_add, List.map_const', List.sum_replicate_nat, Nat.mul_one]
  · rw [hrender, Text.lines_join_terminated_iff, List.forall_mem_map]
    exact forall₂_congr fun item hitem => isLine_indented_iff (hget item hitem)

theorem wellFormed_received (deliveries : List Delivery) : (received deliveries).WellFormed := by
  have hrun : ∀ {tree : Tree}, tree.WellFormed → (deliveries.foldl deliver tree).WellFormed := by
    intro tree wf
    induction deliveries generalizing tree with
    | nil => exact wf
    | cons delivery deliveries ih =>
      refine ih ?_
      rw [deliver, ← wf.run_dispatchEdits]
      exact wf.run _
  exact hrun .empty

/-- Whatever the central unit sends, the tree is reported in one line for each item and one more for
each line feed that was sent in a name or a unit. -/
theorem reported_received (deliveries : List Delivery) :
    ∃ items lines, (received deliveries).Reported items lines :=
  ⟨_, _, (wellFormed_received deliveries).reported⟩

/-- A container whose name has a line feed in it takes two lines, so a tree of two items is reported
in three. -/
theorem not_reported_name :
    let message : Message := .container ⟨1, rootId, "a\nb", "", false⟩
    let tree := received [⟨.initial, false, 1, message⟩]
    decode [8, 0, 0, 0, 1, 0, 0, 0, 0, 0, 3, 97, 10, 98, 0, 0, 0] = .complete (.ok message) [] ∧
    (Report.tree tree.render).members =
      [("lines", .strings ["Central unit (0)", "  a", "b (1)"])] ∧
    ¬ ∃ items, tree.Unfolds items ∧
      (Report.tree tree.render).members = [("lines", .strings (items.map tree.indented))] := by
  intro message tree
  have hlines : Text.lines tree.render = ["Central unit (0)", "  a", "b (1)"] := by decide +kernel
  have hfits : message.Fits := by decide +kernel
  obtain ⟨frame, hframe, hdecode⟩ := hfits.exists_frame
  have hencode : message.encode = .ok [8, 0, 0, 0, 1, 0, 0, 0, 0, 0, 3, 97, 10, 98, 0, 0, 0] := rfl
  obtain rfl := Except.ok.inj (hencode.symm.trans hframe)
  refine ⟨hdecode, by rw [Report.members, hlines], ?_⟩
  rintro ⟨items, hunfolds, hmembers⟩
  have houtline : tree.outline.map (·.2) = items :=
    (hunfolds.preorder_iff _).mp (wellFormed_received _).preorder_outline
  have htwo : tree.outline.length = 2 := by decide +kernel
  rw [Report.members, hlines] at hmembers
  have hsame := JsonValue.strings.inj (Prod.mk.inj (List.singleton_inj.mp hmembers)).2
  have hlength := congrArg List.length hsame
  rw [← houtline, List.length_map, List.length_map, htwo] at hlength
  cases hlength

end Tree

end Domotics
