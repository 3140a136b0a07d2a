import Domotics.Decimal.Shortest
/-!
# Positional text of a number

A value is shown in positional notation, never with an exponent: `0.1`, `20`, `-0.5`, `1` followed
by three hundred zeros. Whole numbers have no point. A zero keeps its sign, not-a-number has none.
-/

namespace Domotics.Decimal

/-- `digits · 10 ^ exponent` without an exponent. -/
def Scientific.positional (d : Scientific) : String :=
  let text := Nat.toDigits 10 d.digits
  if 0 ≤ d.exponent then
    String.ofList (text ++ List.replicate d.exponent.toNat '0')
  else
    let places := (-d.exponent).toNat
    if places < text.length then
      let whole := text.length - places
      String.ofList (text.take whole ++ '.' :: text.drop whole)
    else
      String.ofList ('0' :: '.' :: (List.replicate (places - text.length) '0' ++ text))

end Domotics.Decimal

namespace Domotics.Binary64

/-- The text that shows a number. -/
def text (x : Binary64) : String :=
  match x.shape with
  | .nan => "NaN"
  | .infinite negative => (if negative then "-" else "") ++ "inf"
  | .finite negative significand exponent =>
    (if negative then "-" else "") ++
      if significand = 0 then "0" else (Decimal.shortest significand exponent).positional

end Domotics.Binary64
