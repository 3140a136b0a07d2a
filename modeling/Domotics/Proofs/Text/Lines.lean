import Mathlib.Algebra.BigOperators.Group.List.Basic
import Domotics.Text.Blank
/-!
# Texts that are written line by line

Where several texts are written one after the other, each with a line feed at its end, the lines
that are found are those of the one after those of the other (`lines_join_terminated`). A text comes
to as many lines as it has line feeds and one more (`length_lines_terminated`), so each is found as
it was written just if there is none in it and no carriage return at its end
(`lines_join_terminated_iff`).
-/

namespace Domotics.Text

/-- A text with a line feed at its end. -/
def terminated (text : String) : String :=
  text ++ "\n"

/-- A text that is found as it is where it is written as a line. -/
def IsLine (text : String) : Prop :=
  '\n' ∉ text.toList ∧ text.toList.getLast? ≠ some '\r'

variable {before chars rest : List Char} {text : String} {texts : List String}

theorem linesAfter_terminated :
    linesAfter before (chars ++ '\n' :: rest) =
      linesAfter before (chars ++ ['\n']) ++ linesAfter [] rest := by
  induction chars generalizing before with
  | nil => simp [linesAfter]
  | cons c chars ih =>
    simp only [List.cons_append, linesAfter]
    split
    · rw [ih, List.cons_append]
    · exact ih

theorem length_linesAfter :
    (linesAfter before (chars ++ ['\n'])).length = chars.count '\n' + 1 := by
  induction chars generalizing before with
  | nil => simp [linesAfter]
  | cons c chars ih =>
    simp only [List.cons_append, linesAfter]
    split
    · rename_i hc
      rw [hc, List.length_cons, ih, List.count_cons_self]
    · rename_i hc
      rw [ih, List.count_cons_of_ne hc]

theorem length_lines_terminated :
    (lines (terminated text)).length = text.toList.count '\n' + 1 := by
  rw [lines, terminated, String.toList_append]
  exact length_linesAfter

/-- The lines of texts that are written line by line. -/
theorem lines_join_terminated (texts : List String) :
    lines (String.join (texts.map terminated)) =
      texts.flatMap fun text => lines (terminated text) := by
  induction texts with
  | nil => rfl
  | cons text texts ih =>
    rw [List.map_cons, String.join_cons, List.flatMap_cons, ← ih]
    simp only [lines, terminated, String.toList_append]
    rw [show "\n".toList = ['\n'] from rfl, List.append_assoc]
    exact linesAfter_terminated

theorem linesAfter_of_notMem (h : '\n' ∉ chars) :
    linesAfter before (chars ++ ['\n']) = [endedLine (chars.reverse ++ before)] := by
  induction chars generalizing before with
  | nil => simp [linesAfter]
  | cons c chars ih =>
    obtain ⟨hc, hchars⟩ := not_or.mp (mt List.mem_cons.mpr h)
    rw [List.cons_append, linesAfter, if_neg (Ne.symm hc), ih hchars, List.reverse_cons,
      List.append_assoc]
    rfl

theorem endedLine_eq_iff :
    endedLine before = String.ofList before.reverse ↔ before.head? ≠ some '\r' := by
  unfold endedLine
  split
  · rename_i line
    refine iff_of_false (fun h => ?_) (fun h => h rfl)
    have hlength := congrArg List.length (String.ofList_injective h)
    simp at hlength
  · rename_i hne
    refine iff_of_true rfl fun h => ?_
    obtain ⟨line, rfl⟩ := List.head?_eq_some_iff.mp h
    exact hne line rfl

theorem lines_terminated_eq_iff : lines (terminated text) = [text] ↔ IsLine text := by
  by_cases hmem : '\n' ∈ text.toList
  · refine iff_of_false (fun h => ?_) (fun h => h.1 hmem)
    have hlength := @length_lines_terminated text
    rw [h, List.length_singleton] at hlength
    have hpos := List.count_pos_iff.mpr hmem
    omega
  · have hended : lines (terminated text) = [endedLine text.toList.reverse] := by
      rw [lines, terminated, String.toList_append]
      exact (linesAfter_of_notMem hmem).trans (by rw [List.append_nil])
    have htext : text = String.ofList text.toList.reverse.reverse := by
      rw [List.reverse_reverse, String.ofList_toList]
    rw [hended, List.singleton_inj]
    conv_lhs => rw [htext]
    rw [String.toList_ofList, List.reverse_reverse, endedLine_eq_iff, List.head?_reverse]
    exact ⟨fun h => ⟨hmem, h⟩, And.right⟩

theorem length_le_length_flatMap {f : String → List String} (h : ∀ text, f text ≠ [])
    (texts : List String) : texts.length ≤ (texts.flatMap f).length := by
  rw [List.length_flatMap, ← List.length_map fun text => (f text).length]
  refine List.length_le_sum_of_one_le _ fun length hlength => ?_
  obtain ⟨text, -, rfl⟩ := List.mem_map.mp hlength
  exact List.length_pos_iff.mpr (h text)

/-- Texts of which each comes to something come to themselves just if each comes to itself. -/
theorem flatMap_eq_self_iff {f : String → List String} (h : ∀ text, f text ≠ []) :
    texts.flatMap f = texts ↔ ∀ text ∈ texts, f text = [text] := by
  induction texts with
  | nil => simp
  | cons text texts ih =>
    rw [List.flatMap_cons, List.forall_mem_cons]
    constructor
    · intro heq
      have hlength := congrArg List.length heq
      rw [List.length_append, List.length_cons] at hlength
      have hone : (f text).length = 1 := by
        have hpos := List.length_pos_iff.mpr (h text)
        have hrest := length_le_length_flatMap h texts
        omega
      obtain ⟨first, hfirst⟩ := List.length_eq_one_iff.mp hone
      rw [hfirst] at heq ⊢
      obtain ⟨rfl, hrest⟩ := List.cons.inj heq
      exact ⟨rfl, ih.mp hrest⟩
    · rintro ⟨hfirst, hrest⟩
      rw [hfirst, ih.mpr hrest]
      rfl

/-- Texts that are written line by line are found as they were just if each of them is a line. -/
theorem lines_join_terminated_iff :
    lines (String.join (texts.map terminated)) = texts ↔ ∀ text ∈ texts, IsLine text := by
  rw [lines_join_terminated, flatMap_eq_self_iff]
  · simp only [lines_terminated_eq_iff]
  · intro text h
    have hlength := @length_lines_terminated text
    rw [h] at hlength
    cases hlength

end Domotics.Text
