import Domotics.Binary64
/-!
# Reading a number

The grammar of a number: an optional sign, then either digits with an optional point among or
around them and an optional exponent, or one of the words `inf`, `infinity` and `nan` in any case.
At least one digit stands beside the point, and an exponent has at least one digit.

The value is the binary64 number nearest to the decimal, the one with an even significand if two
are equally near; from half a unit above the greatest finite number on it is infinite.
-/

namespace Domotics.Decimal

/-- The quotient `numerator / denominator`, rounded to the nearest integer, a half to the even
one. -/
def roundHalfEven (numerator denominator : Nat) : Nat :=
  let quotient := numerator / denominator
  let twice := 2 * (numerator % denominator)
  if twice < denominator then quotient
  else if denominator < twice then quotient + 1
  else if quotient % 2 = 0 then quotient else quotient + 1

/-- The exponent `q ≥ -1074` at which a positive rational has a significand of at most fifty-three
bits before the point. -/
def binaryExponent (numerator denominator : Nat) : Int :=
  let estimate : Int := (numerator.log2 : Int) - denominator.log2 - 52
  let tooSmall :=
    numerator * Nat.pow 2 (-estimate).toNat <
      denominator * Nat.pow 2 estimate.toNat * Binary64.leadingBit
  max (if tooSmall then estimate - 1 else estimate) (-1074)

/-- The number `± significand · 2 ^ exponent`, for a significand of at most fifty-three bits. It is
infinite if the exponent is too great. -/
def ofScaled (negative : Bool) (significand : Nat) (exponent : Int) : Binary64 :=
  if 971 < exponent then .infinity negative
  else if significand < Binary64.leadingBit then .ofParts negative 0 significand
  else .ofParts negative (exponent + 1075).toNat (significand - Binary64.leadingBit)

/-- The binary64 number nearest to a positive rational. -/
def nearest (negative : Bool) (numerator denominator : Nat) : Binary64 :=
  let q := binaryExponent numerator denominator
  let rounded := roundHalfEven (numerator * Nat.pow 2 (-q).toNat) (denominator * Nat.pow 2 q.toNat)
  if rounded = 2 * Binary64.leadingBit then ofScaled negative Binary64.leadingBit (q + 1)
  else ofScaled negative rounded q

/-- The binary64 number nearest to `digits · 10 ^ exponent`. A decimal whose first digit stands far
outside the range of finite numbers is settled by that alone. -/
def nearestDecimal (negative : Bool) (digits : Nat) (exponent : Int) : Binary64 :=
  if digits = 0 then .zero negative
  else
    let magnitude := (Nat.toDigits 10 digits).length + exponent
    if 400 < magnitude then .infinity negative
    else if magnitude < -400 then .zero negative
    else nearest negative (digits * Nat.pow 10 exponent.toNat) (Nat.pow 10 (-exponent).toNat)

/-- The value of a list of decimal digits. -/
def digitsValue (digits : List Char) : Nat :=
  digits.foldl (fun n c => 10 * n + (c.toNat - '0'.toNat)) 0

/-- Splits a list of characters after its leading decimal digits. -/
def spanDigits (text : List Char) : List Char × List Char :=
  (text.takeWhile Char.isDigit, text.dropWhile Char.isDigit)

/-- The exponent at the end of a number: nothing, or `e` with an optional sign and digits. -/
def readExponent? : List Char → Option Int
  | [] => some 0
  | c :: rest =>
    if c = 'e' ∨ c = 'E' then
      let (negative, digits) := match rest with
        | '-' :: r => (true, r)
        | '+' :: r => (false, r)
        | r => (false, r)
      if digits ≠ [] ∧ digits.all Char.isDigit then
        some (if negative then -(digitsValue digits : Int) else digitsValue digits)
      else none
    else none

/-- The unsigned decimal numbers. -/
def readUnsigned? (negative : Bool) (text : List Char) : Option Binary64 :=
  let (whole, rest) := spanDigits text
  let (places, rest) := match rest with
    | '.' :: r => spanDigits r
    | r => ([], r)
  if whole = [] ∧ places = [] then none
  else
    (readExponent? rest).map fun exponent =>
      nearestDecimal negative (digitsValue (whole ++ places)) (exponent - places.length)

/-- The words for values that no decimal has. -/
def readWord? (negative : Bool) (text : List Char) : Option Binary64 :=
  let word := String.ofList (text.map Char.toLower)
  if word = "inf" ∨ word = "infinity" then some (.infinity negative)
  else if word = "nan" then some (.quietNaN negative)
  else none

/-- Reads a whole text as a number. -/
def read? (text : String) : Option Binary64 :=
  let (negative, rest) := match text.toList with
    | '-' :: r => (true, r)
    | '+' :: r => (false, r)
    | r => (false, r)
  (readUnsigned? negative rest).orElse fun _ => readWord? negative rest

end Domotics.Decimal
