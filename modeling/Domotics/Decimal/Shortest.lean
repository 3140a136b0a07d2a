import Domotics.Binary64
/-!
# The shortest decimal that reads back

The reals that round to a finite number form an interval around it. Among the decimals in that
interval `shortest` picks one with the fewest digits, and of those the one nearest to the number;
of two equally near ones it takes the larger. All arithmetic is on natural numbers, so the choice
is exact.

A number `m · 2 ^ q` has neighbours at distance `2 ^ q`, except that the one below a power of two
is half as far. Scaled by four the interval is therefore `[4m - 2, 4m + 2]` or `[4m - 1, 4m + 2]`.
Its ends round to even, so they belong to it exactly when `m` is even.
-/

namespace Domotics.Decimal

/-- `digits · 10 ^ exponent`. -/
structure Scientific where
  digits : Nat
  exponent : Int
deriving DecidableEq

/-- A positive rational number `numerator / denominator` and the interval around it, all three over
the same denominator. -/
structure Window where
  lower : Nat
  value : Nat
  upper : Nat
  denominator : Nat
  /-- Whether the two ends are in the interval. -/
  closed : Bool

/-- The interval of reals that round to `significand · 2 ^ exponent`. -/
def Window.of (significand : Nat) (exponent : Int) : Window :=
  let below := if significand = Binary64.leadingBit ∧ -1074 < exponent then 1 else 2
  let scale := Nat.pow 2 (exponent - 2).toNat
  { lower := (4 * significand - below) * scale
    value := 4 * significand * scale
    upper := (4 * significand + 2) * scale
    denominator := Nat.pow 2 (2 - exponent).toNat
    closed := significand % 2 = 0 }

/-- The number of decimal digits of `n`, at least one. -/
def digitCount (n : Nat) : Nat :=
  (Nat.toDigits 10 n).length

/-- The exponent of the first digit of a positive rational: the greatest `k` with
`10 ^ k ≤ numerator / denominator`. -/
def leadingExponent (numerator denominator : Nat) : Int :=
  if denominator ≤ numerator then
    (digitCount (numerator / denominator) : Int) - 1
  else
    let count := digitCount (denominator / numerator)
    if denominator ≤ numerator * Nat.pow 10 (count - 1) then 1 - (count : Int) else -(count : Int)

/-- The point of the grid of multiples of `10 ^ exponent` that lies in the window and nearest to its
value, if one of the value's two neighbours on that grid does. -/
def Window.onGrid? (w : Window) (exponent : Int) : Option Scientific :=
  let grid := Nat.pow 10 exponent.toNat
  let scale := Nat.pow 10 (-exponent).toNat
  let unit := w.denominator * grid
  let down := w.value * scale / unit
  let up := down + 1
  let downIn := if w.closed then w.lower * scale ≤ down * unit else w.lower * scale < down * unit
  let upIn := if w.closed then up * unit ≤ w.upper * scale else up * unit < w.upper * scale
  let upNearer := (up * unit - w.value * scale) ≤ (w.value * scale - down * unit)
  if downIn ∧ upIn then
    some ⟨if upNearer then up else down, exponent⟩
  else if downIn then some ⟨down, exponent⟩
  else if upIn then some ⟨up, exponent⟩
  else none

/-- Tries `count` digits and one more at a time, up to the seventeen that always suffice. -/
def Window.search (w : Window) (leading : Int) (count : Nat) : Nat → Scientific
  | 0 =>
    let last := leading - 17
    ⟨w.value * Nat.pow 10 (-last).toNat / (w.denominator * Nat.pow 10 last.toNat), last⟩
  | rest + 1 =>
    match w.onGrid? (leading + 1 - count) with
    | some point => point
    | none => w.search leading (count + 1) rest

/-- Drops zeros at the end of the digits. -/
def Scientific.stripZeros (digits : Nat) (exponent : Int) : Nat → Scientific
  | 0 => ⟨digits, exponent⟩
  | fuel + 1 =>
    if digits ≠ 0 ∧ digits % 10 = 0 then stripZeros (digits / 10) (exponent + 1) fuel
    else ⟨digits, exponent⟩

/-- The shortest decimal that rounds to `significand · 2 ^ exponent`, for a positive significand. -/
def shortest (significand : Nat) (exponent : Int) : Scientific :=
  let window := Window.of significand exponent
  let leading := leadingExponent window.value window.denominator
  let found := window.search leading 1 17
  Scientific.stripZeros found.digits found.exponent 20

end Domotics.Decimal
