import Domotics.Proofs.Toml.Strings
/-!
# Values are read as they were written

A value of a section is a string, a whole number or a truth value, and its first character decides
what is read (`readValue?_text`). A whole number looks like the beginning of a point in time or of a
number with a fraction until the line ends behind its digits, so the end of the line is part of what
is read. Only numbers of 64 bits have a place in a document (`Scalar.Fits`).

A key without quotes reaches up to the first character that cannot be in it (`readKey?_bare`).
-/

namespace Domotics.Toml

open Text

/-! ## Whole numbers -/

section Numbers

variable {digits rest : List Char} {n : Nat}

theorem readDigits?_digits {done : List Char} (hdigits : ∀ c ∈ digits, c.isDigit = true)
    (hne : done ≠ [] ∨ digits ≠ []) :
    readDigits? Char.isDigit done (digits ++ '\n' :: rest) =
      some (done.reverse ++ digits, '\n' :: rest) := by
  induction digits generalizing done with
  | nil =>
    have hdone : done ≠ [] := hne.resolve_right fun hnil => hnil rfl
    rw [List.nil_append, readDigits?.eq_def]
    simp [hdone]
  | cons c digits ih =>
    obtain ⟨hc, hdigits⟩ := List.forall_mem_cons.mp hdigits
    rw [List.cons_append, readDigits?.eq_def]
    simp only [hc, if_true]
    rw [ih hdigits (Or.inl (List.cons_ne_nil _ _)), List.reverse_cons, List.append_assoc]
    rfl

/-- Two digits are read where there are two. -/
theorem readTwo?_cases (low high : Nat) (text : List Char) : readTwo? low high text = none ∨
    ∃ a b value rest, text = a :: b :: rest ∧ a.isDigit = true ∧ b.isDigit = true ∧
      readTwo? low high text = some (value, rest) := by
  unfold readTwo?
  split
  · rename_i a b rest
    split
    · rename_i h
      simp only
      split
      · exact Or.inr ⟨a, b, _, rest, rfl, h.1, h.2, rfl⟩
      · exact Or.inl rfl
    · exact Or.inl rfl
  · exact Or.inl rfl

/-- Digits up to the end of a line are the beginning of no point in time, -/
theorem readHours?_digits (hdigits : ∀ c ∈ digits, c.isDigit = true) :
    readHours? (digits ++ '\n' :: rest) = none := by
  rw [readHours?]
  rcases readTwo?_cases 0 23 (digits ++ '\n' :: rest) with h | ⟨a, b, value, after, heq, ha, hb, h⟩
  · rw [h]
    rfl
  · have hafter : ∃ c rest, after = c :: rest ∧ c ≠ ':' := by
      rcases digits with _ | ⟨d, _ | ⟨e, _ | ⟨f, digits⟩⟩⟩
      · obtain ⟨rfl, -⟩ := List.cons.inj heq
        cases ha
      · obtain ⟨-, heq⟩ := List.cons.inj heq
        obtain ⟨rfl, -⟩ := List.cons.inj heq
        cases hb
      · exact ⟨'\n', rest, (List.cons.inj (List.cons.inj heq).2).2.symm, by decide⟩
      · refine ⟨f, digits ++ '\n' :: rest, (List.cons.inj (List.cons.inj heq).2).2.symm, ?_⟩
        rintro rfl
        exact absurd (hdigits ':' (by simp)) (by decide)
    obtain ⟨c, rest, rfl, hc⟩ := hafter
    rw [h]
    exact if_neg hc

/-- and no year either. -/
theorem not_year (hdigits : ∀ c ∈ digits, c.isDigit = true) {text : List Char}
    (htext : text = digits ++ '\n' :: rest ∨ text = '-' :: (digits ++ '\n' :: rest)) :
    ¬ ((text.take 4).length = 4 ∧ (text.take 4).all Char.isDigit ∧
      (text.drop 4).head? = some '-') := by
  rintro ⟨hlength, hall, hhead⟩
  rcases htext with rfl | rfl
  · rcases digits with _ | ⟨a, _ | ⟨b, _ | ⟨c, _ | ⟨d, _ | ⟨e, digits⟩⟩⟩⟩⟩
    · simp at hall
    · simp at hall
    · simp at hall
    · simp at hall
    · simp at hhead
    · obtain rfl : e = '-' := by simpa using hhead
      exact absurd (hdigits '-' (by simp)) (by decide)
  · simp at hall

theorem readSign_digits (n : Nat) (text : List Char) :
    readSign (Nat.toDigits 10 n ++ text) = (false, Nat.toDigits 10 n ++ text) := by
  obtain ⟨c, digits, heq, hc, -⟩ := exists_toDigits_eq_cons n
  rw [heq, List.cons_append]
  unfold readSign
  split
  · rename_i h
    obtain ⟨rfl, -⟩ := List.cons.inj h
    cases hc
  · rename_i h
    obtain ⟨rfl, -⟩ := List.cons.inj h
    cases hc
  · rfl

/-- A whole number is read back at the end of a line, if it has a place in the document. -/
theorem readDecimal?_digits {text : List Char} {negative : Bool} {value : Int}
    (hsign : readSign text = (negative, Nat.toDigits 10 n ++ '\n' :: rest))
    (hvalue : (if negative then -(n : Int) else n) = value)
    (hplace : integer? value = some (.integer value)) :
    readDecimal? text = some (.integer value, '\n' :: rest) := by
  have hread := @readDigits?_digits (Nat.toDigits 10 n) rest [] (fun _ => isDigit_of_mem_toDigits)
    (Or.inr Nat.toDigits_ne_nil)
  have hdigitsValue : Decimal.digitsValue (Nat.toDigits 10 n) = n := Nat.ofDigitChars_ten_toDigits
  rw [readDecimal?, hsign]
  rcases toDigits_cases n with ⟨rfl, heq⟩ | ⟨c, digits, heq, hc⟩
  · obtain rfl : value = 0 := by simpa using hvalue.symm
    rw [heq] at hdigitsValue ⊢
    simp [readExponent?, hdigitsValue, hplace]
  · simp only
    split
    · rename_i h
      rw [heq] at h
      exact absurd (List.cons.inj h).1 hc
    · simp [hread, readExponent?, hdigitsValue, hvalue, hplace]

/-- What begins like no point in time, no special value and no other base is a decimal. -/
theorem readNumber?_of_second {text : List Char} (hyear : ¬ ((text.take 4).length = 4 ∧
      (text.take 4).all Char.isDigit ∧ (text.drop 4).head? = some '-'))
    (hhours : readHours? text = none) (hspecial : readSpecial? text = none)
    (hsecond : ∀ c ∈ text[1]?, c.isDigit = true ∨ c = '\n') :
    readNumber? text = readDecimal? text := by
  have hbase : ∀ mark, mark = 'x' ∨ mark = 'o' ∨ mark = 'b' → ∀ after,
      text ≠ '0' :: mark :: after := by
    rintro mark hmark after rfl
    have hdigit := hsecond mark rfl
    rcases hmark with rfl | rfl | rfl <;> exact absurd hdigit (by decide)
  rw [readNumber?]
  · simp only [if_neg hyear, hhours, hspecial]
  · exact hbase 'x' (by simp)
  · exact hbase 'o' (by simp)
  · exact hbase 'b' (by simp)

/-- A whole number is read back at the end of a line, if it has a place in the document. -/
theorem readNumber?_toString {n : Int} (hplace : integer? n = some (.integer n)) :
    readNumber? ((toString n).toList ++ '\n' :: rest) = some (.integer n, '\n' :: rest) := by
  have hdigits : ∀ c ∈ Nat.toDigits 10 n.natAbs, c.isDigit = true := fun _ =>
    isDigit_of_mem_toDigits
  obtain ⟨c, digits, heq, hc, htail⟩ := exists_toDigits_eq_cons n.natAbs
  have hletter : c ≠ 'i' ∧ c ≠ 'n' := by
    constructor <;> rintro rfl <;> cases hc
  have hspecial {text : List Char} {negative : Bool}
      (hsign : readSign text = (negative, Nat.toDigits 10 n.natAbs ++ '\n' :: rest)) :
      readSpecial? text = none := by
    rw [readSpecial?, hsign, heq]
    simp [hletter]
  rw [toList_toString]
  by_cases hn : n < 0
  · have hsign : readSign ('-' :: (Nat.toDigits 10 n.natAbs ++ '\n' :: rest)) =
        (true, Nat.toDigits 10 n.natAbs ++ '\n' :: rest) := rfl
    have hhours : readHours? ('-' :: (Nat.toDigits 10 n.natAbs ++ '\n' :: rest)) = none := by
      simp [readHours?, readTwo?, heq]
    rw [if_pos hn, List.append_assoc, List.singleton_append,
      readNumber?_of_second (not_year hdigits (Or.inr rfl)) hhours (hspecial hsign)]
    · have hvalue : -(n.natAbs : Int) = n := by omega
      exact readDecimal?_digits hsign hvalue hplace
    · simp [heq, hc]
  · have hsign := readSign_digits n.natAbs ('\n' :: rest)
    rw [if_neg hn, List.nil_append, readNumber?_of_second (not_year hdigits (Or.inl rfl))
      (readHours?_digits hdigits) (hspecial hsign)]
    · have hvalue : (n.natAbs : Int) = n := by omega
      exact readDecimal?_digits hsign hvalue hplace
    · rw [heq]
      cases digits with
      | nil => simp
      | cons d digits => simpa using Or.inl (htail d List.mem_cons_self)

end Numbers

/-! ## Values -/

/-- What a value of a section is in a document. -/
def Scalar.node : Scalar → Node
  | string text => .string text
  | integer n => .integer n
  | boolean b => .boolean b

/-- Whether a value has a place in a document. -/
def Scalar.Fits : Scalar → Prop
  | integer n => Int64.minValue.toInt ≤ n ∧ n ≤ Int64.maxValue.toInt
  | string _ | boolean _ => True

theorem exists_quote_of_readString? {chars : List Char} {read : String × List Char}
    (h : readString? chars = some read) :
    ∃ c rest, chars = c :: rest ∧ (c = '"' ∨ c = '\'') := by
  cases chars with
  | nil => cases h
  | cons c rest =>
    refine ⟨c, rest, rfl, ?_⟩
    by_contra hc
    unfold readString? at h
    simp only [if_neg hc] at h
    cases h

theorem exists_stringText_eq_cons (text : String) :
    ∃ c chars, (stringText text).toList = c :: chars ∧ (c = '"' ∨ c = '\'') := by
  have hread := @readString?_stringText text [] (by simp)
  rw [List.append_nil] at hread
  exact exists_quote_of_readString? hread

theorem exists_toString_eq_cons (n : Int) :
    ∃ c chars, (toString n).toList = c :: chars ∧ (c = '-' ∨ c.isDigit = true) := by
  rw [toList_toString]
  by_cases hn : n < 0
  · exact ⟨'-', _, by rw [if_pos hn]; rfl, Or.inl rfl⟩
  · obtain ⟨c, digits, heq, hc, -⟩ := exists_toDigits_eq_cons n.natAbs
    exact ⟨c, digits, by rw [if_neg hn, heq]; rfl, Or.inr hc⟩

/-- No value begins with a blank. -/
theorem skipBlank_text (value : Scalar) (rest : List Char) :
    skipBlank (value.text.toList ++ rest) = value.text.toList ++ rest := by
  have hfirst : ∃ c chars, value.text.toList = c :: chars ∧ ¬ (c = ' ' ∨ c = '\t') := by
    cases value with
    | string text =>
      obtain ⟨c, chars, heq, hc⟩ := exists_stringText_eq_cons text
      exact ⟨c, chars, heq, by rcases hc with rfl | rfl <;> decide⟩
    | integer n =>
      obtain ⟨c, chars, heq, hc⟩ := exists_toString_eq_cons n
      refine ⟨c, chars, heq, ?_⟩
      rintro (rfl | rfl) <;> exact absurd hc (by decide)
    | boolean b => cases b <;> exact ⟨_, _, rfl, by decide⟩
  obtain ⟨c, chars, heq, hc⟩ := hfirst
  rw [heq, List.cons_append, skipBlank, List.dropWhile_cons_of_neg (by simpa using hc)]

/-- A value is read back at the end of a line, if it has a place in the document. -/
theorem readValue?_text {depth steps : Nat} {value : Scalar} (hfits : value.Fits)
    (rest : List Char) : readValue? depth (steps + 1) (value.text.toList ++ '\n' :: rest) =
      some (value.node, '\n' :: rest) := by
  cases value with
  | string text =>
    obtain ⟨c, chars, heq, hc⟩ := exists_stringText_eq_cons text
    have hread := @readString?_stringText text ('\n' :: rest) (by simp)
    rw [heq] at hread
    rw [Scalar.text, heq, List.cons_append, readValue?, if_pos hc, ← List.cons_append, hread]
    rfl
  | boolean b => cases b <;> rfl
  | integer n =>
    have hplace : integer? n = some (.integer n) := if_pos hfits
    have hread := @readNumber?_toString rest n hplace
    obtain ⟨c, chars, heq, hc⟩ := exists_toString_eq_cons n
    rw [heq, List.cons_append] at hread
    have hnot : ∀ d, d ∈ ['"', '\'', '[', '\x7b', 't', 'f'] → c ≠ d := by
      rintro d hd rfl
      simp at hd
      rcases hd with rfl | rfl | rfl | rfl | rfl | rfl <;> exact absurd hc (by decide)
    rw [Scalar.text, heq, List.cons_append]
    unfold readValue?
    simp [hnot, hread, Scalar.node]

/-! ## Keys -/

/-- A key that needs no quotes. -/
def IsBare (key : String) : Prop :=
  key.toList ≠ [] ∧ key.toList.all isKeyChar = true

instance (key : String) : Decidable (IsBare key) :=
  inferInstanceAs (Decidable (_ ∧ _))

section Keys

variable {key : String} {rest : List Char}

theorem IsBare.exists_toList_eq_cons (h : IsBare key) :
    ∃ c chars, key.toList = c :: chars ∧ isKeyChar c = true := by
  obtain ⟨c, chars, heq⟩ := List.exists_cons_of_ne_nil h.1
  exact ⟨c, chars, heq, List.all_eq_true.mp h.2 c (heq ▸ List.mem_cons_self)⟩

theorem ne_of_isKeyChar {c d : Char} (hc : isKeyChar c = true) (hd : isKeyChar d = false) :
    c ≠ d := by
  rintro rfl
  exact Bool.false_ne_true (hd.symm.trans hc)

/-- A key does not begin with a blank. -/
theorem skipBlank_of_isKeyChar {c : Char} (hc : isKeyChar c = true) (rest : List Char) :
    skipBlank (c :: rest) = c :: rest := by
  have hne : ¬ (c = ' ' ∨ c = '\t') :=
    not_or.mpr ⟨ne_of_isKeyChar hc (by decide), ne_of_isKeyChar hc (by decide)⟩
  rw [skipBlank, List.dropWhile_cons_of_neg (by simpa using hne)]

/-- A key without quotes is one part, whatever may end it. -/
theorem readKey?_bare {steps : Nat} (h : IsBare key)
    (hrest : ∀ c ∈ rest.head?, isKeyChar c = false)
    (hdot : (skipBlank rest).head? ≠ some '.') :
    readKey? [] (steps + 1) (key.toList ++ rest) = some (([], key), skipBlank rest) := by
  obtain ⟨c, chars, heq, hc⟩ := h.exists_toList_eq_cons
  have hblank : skipBlank (key.toList ++ rest) = key.toList ++ rest := by
    rw [heq, List.cons_append, skipBlank_of_isKeyChar hc]
  have hpart : readKeyPart? (key.toList ++ rest) = some (key, rest) := by
    rw [readKeyPart?]
    · have hkey := List.all_eq_true.mp h.2
      rw [takeWhile_run hkey hrest, dropWhile_run hkey hrest]
      simp [h.1]
    · rw [heq]
      exact fun _ hquote => ne_of_isKeyChar hc (by decide) (List.cons.inj hquote).1
    · rw [heq]
      exact fun _ hquote => ne_of_isKeyChar hc (by decide) (List.cons.inj hquote).1
  rw [readKey?, hblank, hpart]
  simp only [Option.bind_eq_bind, Option.bind_some]
  split
  · rename_i hhead
    rw [hhead] at hdot
    exact absurd rfl hdot
  · rfl

end Keys

end Domotics.Toml
