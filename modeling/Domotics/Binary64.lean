/-!
# Binary floating point numbers as bits

A measured value travels as the 64 bits of an IEEE 754 binary64 number. `Binary64` keeps exactly
those bits: two numbers are equal when their bits are, so every NaN payload and both zeros stay
apart, and nothing is lost on the way from the wire to the tree and back.

`Binary64.shape` reads the bits as what they stand for: not a number, an infinity, or
`significand · 2 ^ exponent` with a sign.
-/

namespace Domotics

/-- A binary64 number, identified with its bits. -/
structure Binary64 where
  bits : UInt64
deriving DecidableEq, Inhabited

namespace Binary64

/-- What the bits of a number stand for. -/
inductive Shape where
  | nan
  | infinite (negative : Bool)
  /-- `± significand · 2 ^ exponent`, with `significand < 2 ^ 53` and `-1074 ≤ exponent`. -/
  | finite (negative : Bool) (significand : Nat) (exponent : Int)
deriving DecidableEq

/-- The place of the sign, `2 ^ 63`. -/
def signBit : Nat := 0x8000000000000000

/-- The leading bit of the significand of a normal number, `2 ^ 52`. It is not stored. -/
def leadingBit : Nat := 0x10000000000000

/-- The biased exponent of the infinities and of what is no number. -/
def specialBiased : Nat := 0x7ff

/-- The sign bit. -/
def negative (x : Binary64) : Bool :=
  signBit ≤ x.bits.toNat

/-- The eleven bits of the biased exponent. -/
def biased (x : Binary64) : Nat :=
  x.bits.toNat / leadingBit % (specialBiased + 1)

/-- The fifty-two bits after the binary point. -/
def fraction (x : Binary64) : Nat :=
  x.bits.toNat % leadingBit

/-- The value of a number. Subnormal numbers have no implicit leading bit. -/
def shape (x : Binary64) : Shape :=
  if x.biased = specialBiased then
    if x.fraction = 0 then .infinite x.negative else .nan
  else if x.biased = 0 then
    .finite x.negative x.fraction (-1074)
  else
    .finite x.negative (leadingBit + x.fraction) (x.biased - 1075)

/-- The number with the given sign, biased exponent and fraction. -/
def ofParts (negative : Bool) (biased fraction : Nat) : Binary64 :=
  ⟨UInt64.ofNat ((if negative then signBit else 0) + biased * leadingBit + fraction)⟩

/-- An infinity. -/
def infinity (negative : Bool) : Binary64 :=
  ofParts negative specialBiased 0

/-- The quiet NaN with an empty payload. -/
def quietNaN (negative : Bool) : Binary64 :=
  ofParts negative specialBiased (leadingBit / 2)

/-- A zero. -/
def zero (negative : Bool) : Binary64 :=
  ofParts negative 0 0

end Binary64

end Domotics
