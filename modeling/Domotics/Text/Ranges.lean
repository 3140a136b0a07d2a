/-!
# Classes of characters as ranges

A class of characters is written as text: inclusive ranges of code points in hexadecimal, in
ascending order, such as `"20-7e a1 ae-377"`. `RangeTable.ofText` reads that form and
`RangeTable.contains` looks a character up by halving.
-/

namespace Domotics.Text

/-- The value of a hexadecimal digit. -/
def hexDigit? (c : Char) : Option Nat :=
  if '0' ≤ c ∧ c ≤ '9' then some (c.toNat - '0'.toNat)
  else if 'a' ≤ c ∧ c ≤ 'f' then some (c.toNat - 'a'.toNat + 10)
  else if 'A' ≤ c ∧ c ≤ 'F' then some (c.toNat - 'A'.toNat + 10)
  else none

/-- Inclusive ranges of code points, ascending and apart. -/
structure RangeTable where
  ranges : Array (Nat × Nat)

namespace RangeTable

/-- What has been read of a table: the ranges so far, the start of an open range, and the number
being read. -/
structure Reading where
  ranges : Array (Nat × Nat) := #[]
  start : Option Nat := none
  number : Option Nat := none

/-- A number has ended. -/
def Reading.close (r : Reading) : Reading :=
  match r.number with
  | none => r
  | some last => { ranges := r.ranges.push (r.start.getD last, last) }

/-- Reads one character of a table. -/
def Reading.next (r : Reading) (c : Char) : Reading :=
  match hexDigit? c with
  | some digit => { r with number := some (r.number.getD 0 * 16 + digit) }
  | none => if c = '-' then { r with start := r.number, number := none } else r.close

/-- The table a text writes down. -/
def ofText (text : String) : RangeTable :=
  ⟨(text.foldl Reading.next {}).close.ranges⟩

/-- Looks for `code` among the ranges from `low` up to but not including `high`. -/
def search (ranges : Array (Nat × Nat)) (code : Nat) (low high : Nat) : Nat → Bool
  | 0 => false
  | fuel + 1 =>
    if high ≤ low then false
    else
      let middle := (low + high) / 2
      match ranges[middle]? with
      | none => false
      | some (first, last) =>
        if code < first then search ranges code low middle fuel
        else if last < code then search ranges code (middle + 1) high fuel
        else true

/-- Whether a character is in the class. -/
def contains (table : RangeTable) (c : Char) : Bool :=
  search table.ranges c.toNat 0 table.ranges.size (table.ranges.size + 1)

end RangeTable

end Domotics.Text
