import Mathlib.Data.List.Basic
/-!
# Runs, digits and signs

What a reader of characters meets at the front of a text: a run of characters of one kind, up to
the first other one, digits, and a sign before them. A natural number is written with digits, of
which the first one is a zero only for the number zero (`toDigits_cases`), and a negative number
with a sign (`toList_toString`).
-/

namespace Domotics.Text

/-! ## Runs -/

section Runs

variable {p : Char → Bool} {run rest : List Char}

theorem takeWhile_run (hrun : ∀ c ∈ run, p c = true) (hrest : ∀ c ∈ rest.head?, p c = false) :
    (run ++ rest).takeWhile p = run := by
  have hnone : rest.takeWhile p = [] := by
    cases rest with
    | nil => rfl
    | cons c rest => exact List.takeWhile_cons_of_neg (by simp [hrest c rfl])
  rw [List.takeWhile_append_of_pos hrun, hnone, List.append_nil]

theorem dropWhile_run (hrun : ∀ c ∈ run, p c = true) (hrest : ∀ c ∈ rest.head?, p c = false) :
    (run ++ rest).dropWhile p = rest := by
  have hall : rest.dropWhile p = rest := by
    cases rest with
    | nil => rfl
    | cons c rest => exact List.dropWhile_cons_of_neg (by simp [hrest c rfl])
  rw [List.dropWhile_append_of_pos hrun, hall]

end Runs

/-! ## Digits -/

variable {n : Nat}

theorem isDigit_of_mem_toDigits {c : Char} (hc : c ∈ Nat.toDigits 10 n) : c.isDigit = true :=
  Nat.isDigit_of_mem_toDigits (by decide) (by decide) hc

theorem exists_toDigits_eq_cons (n : Nat) : ∃ c digits, Nat.toDigits 10 n = c :: digits ∧
    c.isDigit = true ∧ ∀ d ∈ digits, d.isDigit = true := by
  obtain ⟨c, digits, heq⟩ := List.exists_cons_of_ne_nil (@Nat.toDigits_ne_nil n 10)
  have hdigits : ∀ d ∈ c :: digits, d.isDigit = true := heq ▸ fun _ => isDigit_of_mem_toDigits
  exact ⟨c, digits, heq, List.forall_mem_cons.mp hdigits⟩

theorem eq_zero_of_head?_toDigits (h : (Nat.toDigits 10 n).head? = some '0') : n = 0 := by
  induction n using Nat.strongRecOn with
  | _ n ih =>
    have hsmall : ∀ d < 10, [Nat.digitChar d].head? = some '0' → d = 0 := by decide
    rw [Nat.toDigits_eq_if (by decide)] at h
    by_cases hlt : n < 10
    · rw [if_pos hlt] at h
      exact hsmall n hlt h
    · rw [if_neg hlt, List.head?_append_of_ne_nil _ Nat.toDigits_ne_nil] at h
      have hzero := ih (n / 10) (by omega) h
      omega

/-- The digits of a number do not begin with a zero that more of them follow. -/
theorem toDigits_cases (n : Nat) : (n = 0 ∧ Nat.toDigits 10 n = ['0']) ∨
    ∃ c digits, Nat.toDigits 10 n = c :: digits ∧ c ≠ '0' := by
  by_cases hn : n = 0
  · subst hn
    exact Or.inl ⟨rfl, rfl⟩
  · obtain ⟨c, digits, heq, -⟩ := exists_toDigits_eq_cons n
    refine Or.inr ⟨c, digits, heq, ?_⟩
    rintro rfl
    exact hn (eq_zero_of_head?_toDigits (by rw [heq]; rfl))

theorem toList_toString (n : Int) : (toString n).toList =
    (if n < 0 then ['-'] else []) ++ Nat.toDigits 10 n.natAbs := by
  change n.repr.toList = _
  cases n with
  | ofNat n =>
    rw [Int.repr, Nat.repr_eq_ofList_toDigits, String.toList_ofList]
    rfl
  | negSucc n =>
    rw [Int.repr, String.toList_append, Nat.repr_eq_ofList_toDigits, String.toList_ofList,
      String.toList_ofList, if_pos (Int.negSucc_lt_zero n)]
    rfl

/-! ## Signs -/

/-- A sign that may be absent, and whether it makes a number negative. -/
inductive Sign : List Char → Bool → Prop
  | none : Sign [] false
  | plus : Sign ['+'] false
  | minus : Sign ['-'] true

/-- Takes a sign off. -/
def splitSign : List Char → Bool × List Char
  | '-' :: rest => (true, rest)
  | '+' :: rest => (false, rest)
  | rest => (false, rest)

section Signs

variable {sign rest : List Char} {negative : Bool}

theorem splitSign_append (hsign : Sign sign negative)
    (hrest : ∀ c ∈ rest.head?, c ≠ '-' ∧ c ≠ '+') :
    splitSign (sign ++ rest) = (negative, rest) := by
  cases hsign with
  | plus | minus => rfl
  | none =>
    rw [List.nil_append]
    unfold splitSign
    split
    · exact absurd rfl (hrest '-' rfl).1
    · exact absurd rfl (hrest '+' rfl).2
    · rfl

theorem exists_sign (chars : List Char) :
    ∃ sign, Sign sign (splitSign chars).1 ∧ chars = sign ++ (splitSign chars).2 := by
  unfold splitSign
  split
  · exact ⟨['-'], .minus, rfl⟩
  · exact ⟨['+'], .plus, rfl⟩
  · exact ⟨[], .none, rfl⟩

end Signs

/-! ## Whole numbers -/

/-- The value of digits with a sign. -/
def signedValue (negative : Bool) (digits : List Char) : Int :=
  if negative then -Nat.ofDigitChars 10 digits 0 else Nat.ofDigitChars 10 digits 0

/-- How a whole number is written: a sign that may be absent and one or more decimal digits. -/
inductive Numeral : List Char → Int → Prop
  | mk {sign digits : List Char} {negative : Bool} (hsign : Sign sign negative) (hne : digits ≠ [])
    (hdigits : ∀ c ∈ digits, c.isDigit = true) :
    Numeral (sign ++ digits) (signedValue negative digits)

/-- Whether something is a number is seen when its sign is taken off. -/
theorem numeral_iff {chars : List Char} {value : Int} : Numeral chars value ↔
    ((splitSign chars).2 ≠ [] ∧ (splitSign chars).2.all Char.isDigit = true) ∧
      value = signedValue (splitSign chars).1 (splitSign chars).2 := by
  constructor
  · rintro ⟨hsign, hne, hdigits⟩
    rename_i sign digits negative
    have hfirst : ∀ c ∈ digits.head?, c ≠ '-' ∧ c ≠ '+' := by
      intro c hc
      have hdigit := hdigits c (List.mem_of_mem_head? hc)
      constructor <;> rintro rfl <;> cases hdigit
    rw [splitSign_append hsign hfirst]
    exact ⟨⟨hne, List.all_eq_true.mpr hdigits⟩, rfl⟩
  · rintro ⟨⟨hne, hdigits⟩, rfl⟩
    obtain ⟨sign, hsign, heq⟩ := exists_sign chars
    have hnumeral := Numeral.mk hsign hne (List.all_eq_true.mp hdigits)
    rwa [← heq] at hnumeral

/-- A number as it is printed is written like that. -/
theorem numeral_toString (value : Int) : Numeral (toString value).toList value := by
  have hdigits : ∀ c ∈ Nat.toDigits 10 value.natAbs, c.isDigit = true := fun _ =>
    isDigit_of_mem_toDigits
  rw [toList_toString]
  by_cases hneg : value < 0
  · rw [if_pos hneg]
    have hnumeral := Numeral.mk .minus Nat.toDigits_ne_nil hdigits
    have hvalue : signedValue true (Nat.toDigits 10 value.natAbs) = value := by
      rw [signedValue, if_pos rfl, Nat.ofDigitChars_ten_toDigits]
      omega
    rwa [hvalue] at hnumeral
  · rw [if_neg hneg]
    have hnumeral := Numeral.mk .none Nat.toDigits_ne_nil hdigits
    have hvalue : signedValue false (Nat.toDigits 10 value.natAbs) = value := by
      rw [signedValue, if_neg Bool.false_ne_true, Nat.ofDigitChars_ten_toDigits]
      omega
    rwa [hvalue] at hnumeral

end Domotics.Text
