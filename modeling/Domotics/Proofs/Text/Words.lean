import Mathlib.Data.List.Basic
import Domotics.Text.Blank
/-!
# A text is words with white space around them

`Text.Spaced` says of a text and some words that the text is just these words in order, with white
space of any kind and length before, between and after them, and at least some of it between two of
them. Every text is so for one list of words, and `Text.words` finds it (`words_eq_iff`).
-/

namespace Domotics.Text

/-- Something without white space in it. -/
def IsWord (word : String) : Prop :=
  word ≠ "" ∧ ∀ c ∈ word.toList, isBlank c = false

instance (word : String) : Decidable (IsWord word) :=
  @instDecidableAnd _ _ _ (List.decidableBAll (isBlank · = false) word.toList)

/-- Characters that are words with white space around them. What follows a word is nothing or begins
with white space. -/
inductive Spaced : List Char → List String → Prop
  | blank {gap : List Char} (hgap : ∀ c ∈ gap, isBlank c = true) : Spaced gap []
  | word {gap rest : List Char} {word : String} {words : List String}
    (hgap : ∀ c ∈ gap, isBlank c = true) (hword : IsWord word)
    (apart : ∀ c ∈ rest.head?, isBlank c = true) (hrest : Spaced rest words) :
    Spaced (gap ++ word.toList ++ rest) (word :: words)

theorem isBlank_of_isDigit {c : Char} (h : c.isDigit = true) : isBlank c = false := by
  obtain ⟨hlow, hhigh⟩ := Bool.and_eq_true_iff.mp h
  have hlow : 48 ≤ c.toNat := of_decide_eq_true hlow
  have hhigh : c.toNat ≤ 57 := of_decide_eq_true hhigh
  simp only [isBlank, Char.le_def, UInt32.le_iff_toNat_le, Char.ext_iff, UInt32.ext_iff,
    Char.toNat_val, decide_eq_false_iff_not, Char.reduceVal, UInt32.reduceToNat]
  omega

/-- The code points with the Unicode property `White_Space`. -/
def whiteSpace : List Nat :=
  [0x09, 0x0a, 0x0b, 0x0c, 0x0d, 0x20, 0x85, 0xa0, 0x1680, 0x2000, 0x2001, 0x2002, 0x2003, 0x2004,
    0x2005, 0x2006, 0x2007, 0x2008, 0x2009, 0x200a, 0x2028, 0x2029, 0x202f, 0x205f, 0x3000]

theorem isBlank_iff {c : Char} : isBlank c = true ↔ c.toNat ∈ whiteSpace := by
  simp only [isBlank, whiteSpace, Char.le_def, UInt32.le_iff_toNat_le, Char.ext_iff, UInt32.ext_iff,
    Char.toNat_val, decide_eq_true_eq, Char.reduceVal, UInt32.reduceToNat, List.mem_cons,
    List.not_mem_nil, or_false]
  omega

variable {gap rest before : List Char} {words : List String} {text : String}

theorem wordsAfter_gap (hgap : ∀ c ∈ gap, isBlank c = true) :
    wordsAfter [] (gap ++ rest) = wordsAfter [] rest := by
  induction gap with
  | nil => rfl
  | cons c gap ih =>
    rw [List.cons_append, wordsAfter, if_pos (hgap c List.mem_cons_self)]
    exact ih fun c hc => hgap c (List.mem_cons_of_mem _ hc)

theorem wordsAfter_word {word : List Char} (hword : ∀ c ∈ word, isBlank c = false) :
    wordsAfter before (word ++ rest) = wordsAfter (word.reverse ++ before) rest := by
  induction word generalizing before with
  | nil => rfl
  | cons c word ih =>
    rw [List.cons_append, wordsAfter, if_neg (by simp [hword c List.mem_cons_self]),
      ih fun c hc => hword c (List.mem_cons_of_mem _ hc), List.reverse_cons, List.append_assoc]
    rfl

/-- A word ends where white space begins. -/
theorem wordsAfter_apart (hbefore : before ≠ []) (apart : ∀ c ∈ rest.head?, isBlank c = true) :
    wordsAfter before rest = String.ofList before.reverse :: wordsAfter [] rest := by
  have hsome : before.isEmpty = false := List.isEmpty_eq_false_iff.mpr hbefore
  cases rest with
  | nil => simp [wordsAfter, hsome]
  | cons c rest => simp [wordsAfter, apart c rfl, hsome]

namespace Spaced

/-- Nothing else has the same words. -/
theorem wordsAfter_eq {chars : List Char} (h : Spaced chars words) :
    wordsAfter [] chars = words := by
  induction h with
  | @blank gap hgap =>
    rw [← List.append_nil gap, wordsAfter_gap hgap]
    rfl
  | @word _ _ word _ hgap hword apart _ ih =>
    have hsome : word.toList.reverse ++ [] ≠ [] := by
      simpa using hword.1
    rw [List.append_assoc, wordsAfter_gap hgap, wordsAfter_word hword.2,
      wordsAfter_apart hsome apart, ih, List.append_nil, List.reverse_reverse, String.ofList_toList]

/-- White space may come before. -/
theorem cons {chars : List Char} {c : Char} (hc : isBlank c = true) (h : Spaced chars words) :
    Spaced (c :: chars) words := by
  cases h with
  | blank hgap => exact .blank (List.forall_mem_cons.mpr ⟨hc, hgap⟩)
  | word hgap hword apart hrest =>
    exact .word (List.forall_mem_cons.mpr ⟨hc, hgap⟩) hword apart hrest

/-- A word may come before what begins with white space. -/
theorem ofList_cons {chars word : List Char} (hne : word ≠ [])
    (hword : ∀ c ∈ word, isBlank c = false) (apart : ∀ c ∈ chars.head?, isBlank c = true)
    (h : Spaced chars words) : Spaced (word ++ chars) (String.ofList word :: words) := by
  have hisWord : IsWord (String.ofList word) :=
    ⟨mt String.ofList_eq_empty_iff.mp hne, by rwa [String.toList_ofList]⟩
  have hspaced := @Spaced.word [] chars _ _ nofun hisWord apart h
  rwa [String.toList_ofList] at hspaced

end Spaced

/-- Words may stand with one blank between them. -/
theorem spaced_intercalate : ∀ {words : List String}, (∀ word ∈ words, IsWord word) →
    Spaced (" ".intercalate words).toList words
  | [], _ => .blank nofun
  | [word], h => by
    have hspaced := @Spaced.word [] [] word [] nofun (h word List.mem_cons_self) nofun
      (.blank nofun)
    simpa using hspaced
  | word :: next :: words, h => by
    obtain ⟨hword, hwords⟩ := List.forall_mem_cons.mp h
    have hblank : isBlank ' ' = true := by decide
    have hspaced := @Spaced.word [] _ word _ nofun hword (by simpa using hblank)
      ((spaced_intercalate hwords).cons hblank)
    simpa [String.toList_intercalate] using hspaced

/-- What is found in a text are words with white space around them. The induction goes on inside of
a word, with the part of it that was passed. -/
theorem spaced_wordsAfter : ∀ (chars before : List Char), (∀ c ∈ before, isBlank c = false) →
    Spaced (before.reverse ++ chars) (wordsAfter before chars)
  | [], [], _ => .blank nofun
  | [], _ :: _, hbefore =>
    .ofList_cons (by simp) (fun c hc => hbefore c (List.mem_reverse.mp hc)) nofun
      (.blank nofun)
  | c :: chars, before, hbefore => by
    cases hc : isBlank c with
    | false =>
      have ih := spaced_wordsAfter chars (c :: before) (List.forall_mem_cons.mpr ⟨hc, hbefore⟩)
      rw [List.reverse_cons, List.append_assoc] at ih
      rw [wordsAfter, if_neg (by simp [hc])]
      exact ih
    | true =>
      have ih := (spaced_wordsAfter chars [] nofun).cons hc
      rw [wordsAfter, if_pos hc]
      cases before with
      | nil => exact ih
      | cons d before =>
        exact .ofList_cons (by simp) (fun c hc => hbefore c (List.mem_reverse.mp hc))
          (by simpa using hc) ih

/-- A text is spaced for the words found in it, and for no others. -/
theorem words_eq_iff : Text.words text = words ↔ Spaced text.toList words := by
  refine ⟨?_, Spaced.wordsAfter_eq⟩
  rintro rfl
  exact spaced_wordsAfter text.toList [] nofun

end Domotics.Text
