import Domotics.Proofs.Decimal.Rounding
import Domotics.Proofs.Text.Scanning
/-!
# The language of numbers

`Literal` is the grammar of a number apart from its reader: a sign, then digits with a point in or
around them and an exponent, or a word for what is not finite. The value of a decimal is the number
that is nearest to it (`Binary64.Nearest`). `read?` takes just the texts of the grammar, and gives
their values (`read?_eq_some_iff`).

Two things have to be seen for that. Leading digits end where the grammar has something else, a
point or an exponent (`spanDigits_digits`). And no word begins like digits do, so it does not matter
that words are tried last (`readUnsigned?_word`).
-/

namespace Domotics.Decimal

open Text

/-! ## The grammar -/

/-- Digits before and behind a point. Without digits behind it the point may be absent. -/
inductive Pointed : List Char → List Char → List Char → Prop
  | whole (whole : List Char) : Pointed whole whole []
  | point (whole places : List Char) : Pointed (whole ++ '.' :: places) whole places

/-- An exponent that may be absent, and its value. -/
inductive Exponent : List Char → Int → Prop
  | none : Exponent [] 0
  | some {mark : Char} {chars : List Char} {value : Int} (hmark : mark = 'e' ∨ mark = 'E')
    (hchars : Numeral chars value) : Exponent (mark :: chars) value

/-- A decimal without a sign, and the number nearest to it. -/
inductive Unsigned (negative : Bool) : List Char → Binary64 → Prop
  | mk {pointed whole places exponent : List Char} {value : Int} {x : Binary64}
    (hpointed : Pointed pointed whole places) (hwhole : ∀ c ∈ whole, c.isDigit = true)
    (hplaces : ∀ c ∈ places, c.isDigit = true) (hne : ¬ (whole = [] ∧ places = []))
    (hexponent : Exponent exponent value)
    (hnearest : Binary64.Nearest negative
      (Nat.ofDigitChars 10 (whole ++ places) 0 * 10 ^ (value - places.length)) x) :
    Unsigned negative (pointed ++ exponent) x

/-- A word in any case for what is not finite. What is no number is quiet and has no payload. -/
inductive Word (negative : Bool) : List Char → Binary64 → Prop
  | infinity {word : List Char} {x : Binary64}
    (hword : String.ofList (word.map Char.toLower) = "inf" ∨
      String.ofList (word.map Char.toLower) = "infinity")
    (hx : x.shape = .infinite negative) : Word negative word x
  | nan {word : List Char} {x : Binary64}
    (hword : String.ofList (word.map Char.toLower) = "nan")
    (hx : x.bits = if negative then 0xfff8000000000000 else 0x7ff8000000000000) :
    Word negative word x

/-- How a number is written, and its value. -/
inductive Literal : String → Binary64 → Prop
  | mk {sign chars : List Char} {negative : Bool} {x : Binary64} (hsign : Sign sign negative)
    (hchars : Unsigned negative chars x ∨ Word negative chars x) :
    Literal (String.ofList (sign ++ chars)) x

variable {chars digits rest sign : List Char} {negative : Bool} {x : Binary64} {value : Int}

/-! ## Decimals -/

theorem spanDigits_digits (hdigits : ∀ c ∈ digits, c.isDigit = true)
    (hrest : ∀ c ∈ rest.head?, c.isDigit = false) :
    spanDigits (digits ++ rest) = (digits, rest) := by
  rw [spanDigits, takeWhile_run hdigits hrest, dropWhile_run hdigits hrest]

theorem readExponent?_eq_some_iff : readExponent? chars = some value ↔ Exponent chars value := by
  cases chars with
  | nil => exact ⟨fun h => Option.some.inj h ▸ .none, fun h => by cases h; rfl⟩
  | cons mark chars =>
    have hread : readExponent? (mark :: chars) =
        if mark = 'e' ∨ mark = 'E' then
          if (splitSign chars).2 ≠ [] ∧ (splitSign chars).2.all Char.isDigit = true then
            some (signedValue (splitSign chars).1 (splitSign chars).2)
          else none
        else none := rfl
    rw [hread, Option.ite_none_right_eq_some, Option.ite_none_right_eq_some, Option.some_inj,
      @eq_comm _ _ value, ← numeral_iff]
    constructor
    · exact fun h => .some h.1 h.2
    · rintro (_ | ⟨hmark, hchars⟩)
      exact ⟨hmark, hchars⟩

/-- An exponent begins with neither a digit nor a point. -/
theorem Exponent.head (h : Exponent chars value) :
    ∀ c ∈ chars.head?, c.isDigit = false ∧ c ≠ '.' := by
  cases h with
  | none => exact fun _ hc => by cases hc
  | some hmark _ =>
    intro c hc
    obtain rfl := Option.some.inj hc
    rcases hmark with rfl | rfl <;> decide

/-- The digits behind a point, if there is one. -/
def splitPlaces : List Char → List Char × List Char
  | '.' :: rest => spanDigits rest
  | rest => ([], rest)

theorem readUnsigned?_eq (negative : Bool) (chars : List Char) : readUnsigned? negative chars =
    if (spanDigits chars).1 = [] ∧ (splitPlaces (spanDigits chars).2).1 = [] then none
    else
      (readExponent? (splitPlaces (spanDigits chars).2).2).map fun exponent =>
        nearestDecimal negative
          (digitsValue ((spanDigits chars).1 ++ (splitPlaces (spanDigits chars).2).1))
          (exponent - (splitPlaces (spanDigits chars).2).1.length) := rfl

theorem exists_spanDigits (chars : List Char) : ∃ digits rest, spanDigits chars = (digits, rest) ∧
    chars = digits ++ rest ∧ ∀ c ∈ digits, c.isDigit = true :=
  ⟨_, _, rfl, List.takeWhile_append_dropWhile.symm, List.all_eq_true.mp List.all_takeWhile⟩

/-- What is taken for digits with a point is written like that. -/
theorem exists_pointed (chars : List Char) : ∃ pointed whole places rest,
    spanDigits chars = (whole, (spanDigits chars).2) ∧
      splitPlaces (spanDigits chars).2 = (places, rest) ∧ chars = pointed ++ rest ∧
      Pointed pointed whole places ∧ (∀ c ∈ whole, c.isDigit = true) ∧
      ∀ c ∈ places, c.isDigit = true := by
  obtain ⟨whole, after, hspan, rfl, hwhole⟩ := exists_spanDigits chars
  rw [hspan]
  unfold splitPlaces
  split
  · rename_i behind heq
    obtain ⟨places, rest, hspan', rfl, hplaces⟩ := exists_spanDigits behind
    refine ⟨_, whole, places, rest, rfl, hspan', ?_, .point whole places, hwhole, hplaces⟩
    rw [List.append_assoc, List.cons_append]
    exact congrArg _ heq
  · exact ⟨whole, whole, [], _, rfl, rfl, rfl, .whole whole, hwhole, nofun⟩

theorem readUnsigned?_eq_some_iff :
    readUnsigned? negative chars = some x ↔ Unsigned negative chars x := by
  rw [readUnsigned?_eq]
  constructor
  · intro h
    obtain ⟨pointed, whole, places, rest, hspan, hplaces, hchars, hpointed, hdigits, hdigits'⟩ :=
      exists_pointed chars
    rw [hplaces, congrArg Prod.fst hspan, Option.ite_none_left_eq_some] at h
    obtain ⟨hne, h⟩ := h
    obtain ⟨value, hvalue, rfl⟩ := Option.map_eq_some_iff.mp h
    rw [hchars]
    exact .mk hpointed hdigits hdigits' hne (readExponent?_eq_some_iff.mp hvalue)
      (nearest_nearestDecimal ..)
  · rintro ⟨hpointed, hwhole, hplaces, hne, hexponent, hnearest⟩
    rename_i pointed whole places exponent value
    have hspan : (spanDigits (pointed ++ exponent)).1 = whole ∧
        splitPlaces (spanDigits (pointed ++ exponent)).2 = (places, exponent) := by
      cases hpointed with
      | whole =>
        rw [spanDigits_digits hwhole fun c hc => (hexponent.head c hc).1]
        refine ⟨rfl, ?_⟩
        unfold splitPlaces
        split
        · rename_i heq
          change exponent = _ at heq
          exact absurd rfl (hexponent.head '.' (by rw [heq]; rfl)).2
        · rfl
      | point =>
        rw [List.append_assoc, List.cons_append, spanDigits_digits hwhole (by simp)]
        exact ⟨rfl, spanDigits_digits hplaces fun c hc => (hexponent.head c hc).1⟩
    rw [hspan.1, hspan.2, if_neg hne, readExponent?_eq_some_iff.mpr hexponent]
    exact congrArg some (nearest_iff_eq.mp hnearest).symm

/-! ## Words -/

theorem readWord?_eq_some_iff : readWord? negative chars = some x ↔ Word negative chars x := by
  unfold readWord?
  dsimp only
  constructor
  · intro h
    split at h
    · rename_i hword
      obtain rfl := Option.some.inj h
      exact .infinity hword (Binary64.shape_infinity negative)
    · split at h
      · rename_i hword
        obtain rfl := Option.some.inj h
        exact .nan hword (Binary64.bits_eq_quietNaN_iff.mpr rfl)
      · cases h
  · rintro (⟨hword, hx⟩ | ⟨hword, hx⟩)
    · rw [if_pos hword, Binary64.shape_eq_infinite_iff.mp hx]
    · rw [hword, Binary64.bits_eq_quietNaN_iff.mp hx]
      rfl

/-- A decimal begins with a digit or a point. -/
theorem Unsigned.head (h : Unsigned negative chars x) :
    ∃ c rest, chars = c :: rest ∧ (c.isDigit = true ∨ c = '.') := by
  obtain ⟨hpointed, hwhole, -, hne, -, -⟩ := h
  rename_i whole places _ _
  cases hpointed with
  | whole =>
    obtain ⟨c, rest, rfl⟩ := List.exists_cons_of_ne_nil fun hnil => hne ⟨hnil, rfl⟩
    exact ⟨c, _, rfl, Or.inl (hwhole c List.mem_cons_self)⟩
  | point =>
    cases whole with
    | nil => exact ⟨'.', _, rfl, Or.inr rfl⟩
    | cons c whole => exact ⟨c, _, rfl, Or.inl (hwhole c List.mem_cons_self)⟩

theorem nine_lt_of_toLower {c : Char} (h : c.toLower = 'i' ∨ c.toLower = 'n') : '9' < c := by
  have hlow : ∀ n < 58, (Char.ofNat n).toLower ≠ 'i' ∧ (Char.ofNat n).toLower ≠ 'n' := by decide
  by_contra hle
  have hne := hlow c.toNat (Nat.lt_succ_of_le (Char.not_lt.mp hle))
  rw [Char.ofNat_toNat] at hne
  exact h.elim hne.1 hne.2

/-- A word begins with a letter, which comes later than digits, points and signs. -/
theorem Word.head (h : Word negative chars x) :
    ∃ c rest, chars = c :: rest ∧ '9' < c := by
  cases chars with
  | nil => rcases h with ⟨hword | hword, -⟩ | ⟨hword, -⟩ <;> exact absurd hword (by decide)
  | cons c rest =>
    refine ⟨c, rest, rfl, nine_lt_of_toLower ?_⟩
    rcases h with ⟨hword | hword, -⟩ | ⟨hword, -⟩
    · exact Or.inl (List.cons.inj (String.ofList_injective hword)).1
    · exact Or.inl (List.cons.inj (String.ofList_injective hword)).1
    · exact Or.inr (List.cons.inj (String.ofList_injective hword)).1

theorem readUnsigned?_word (h : Word negative chars x) : readUnsigned? negative chars = none := by
  refine Option.eq_none_iff_forall_ne_some.mpr fun y hy => ?_
  obtain ⟨c, rest, rfl, hc⟩ := h.head
  obtain ⟨d, rest', heq, hd⟩ := (readUnsigned?_eq_some_iff.mp hy).head
  obtain ⟨rfl, -⟩ := List.cons.inj heq
  rcases hd with hd | rfl
  · exact Char.not_le.mpr hc (of_decide_eq_true (Bool.and_eq_true_iff.mp hd).2)
  · exact absurd hc (by decide)

/-! ## Numbers -/

theorem read?_eq_some_iff {text : String} : read? text = some x ↔ Literal text x := by
  have hread : read? text =
      (readUnsigned? (splitSign text.toList).1 (splitSign text.toList).2).orElse fun _ =>
        readWord? (splitSign text.toList).1 (splitSign text.toList).2 := rfl
  rw [hread, Option.orElse_eq_or, Option.or_eq_some_iff]
  constructor
  · intro h
    obtain ⟨sign, hsign, heq⟩ := exists_sign text.toList
    rw [← @String.ofList_toList text, heq]
    rcases h with h | ⟨-, h⟩
    · exact .mk hsign (.inl (readUnsigned?_eq_some_iff.mp h))
    · exact .mk hsign (.inr (readWord?_eq_some_iff.mp h))
  · rintro ⟨hsign, hchars⟩
    rename_i sign chars negative
    have hfirst : ∀ c ∈ chars.head?, c ≠ '-' ∧ c ≠ '+' := by
      rcases hchars with h | h
      · obtain ⟨c, rest, rfl, hc⟩ := h.head
        rintro _ ⟨⟩
        rcases hc with hc | rfl
        · constructor <;> rintro rfl <;> cases hc
        · decide
      · obtain ⟨c, rest, rfl, hc⟩ := h.head
        rintro _ ⟨⟩
        constructor <;> rintro rfl <;> exact absurd hc (by decide)
    rw [String.toList_ofList, splitSign_append hsign hfirst]
    rcases hchars with h | h
    · exact Or.inl (readUnsigned?_eq_some_iff.mpr h)
    · exact Or.inr ⟨readUnsigned?_word h, readWord?_eq_some_iff.mpr h⟩

/-- Half way between two numbers the one with an even significand is taken, `2 ^ 53`. -/
example : read? "9007199254740993" = some ⟨0x4340000000000000⟩ := by decide +kernel

end Domotics.Decimal
