import Domotics.Text.Ranges
/-!
# Maps of characters as runs

A map from characters to texts is written as text: runs of code points in hexadecimal, in ascending
order, each with its image. `a0:20` sends one character to another, `a8:20+308` to a text of two,
`c0-d6:e0` sends a range to the range that begins at the image, and `100/12e` sends every second
character of a range to the one after it. `CharMap.ofText` reads that form and `CharMap.find?` looks
a character up by halving.
-/

namespace Domotics.Text

/-- Every `stride`-th code point from `first` to `last`. The image belongs to `first`; that of
another code point is as far from it as the code point is from `first`. -/
structure CharRun where
  first : Nat
  last : Nat
  stride : Nat
  image : List Nat

/-- Runs, ascending and apart. -/
structure CharMap where
  runs : Array CharRun

/-- The number that hexadecimal digits write. -/
def hexNumber (digits : String) : Nat :=
  digits.foldl (fun n c => n * 16 + (hexDigit? c).getD 0) 0

namespace CharRun

/-- The run that a word writes down. -/
def ofWord? (word : String) : Option CharRun :=
  match word.splitOn "/", word.splitOn ":" with
  | [first, last], _ =>
    let first := hexNumber first
    some ⟨first, hexNumber last, 2, [first + 1]⟩
  | _, [range, image] =>
    let image := (image.splitOn "+").map hexNumber
    match range.splitOn "-" with
    | [first, last] => some ⟨hexNumber first, hexNumber last, 1, image⟩
    | _ => some ⟨hexNumber range, hexNumber range, 1, image⟩
  | _, _ => none

/-- The image of a code point. -/
def find? (run : CharRun) (code : Nat) : Option (List Char) :=
  let distance := code - run.first
  if run.first ≤ code ∧ code ≤ run.last ∧ distance % run.stride = 0 then
    some (run.image.map fun image => Char.ofNat (image + distance))
  else none

end CharRun

namespace CharMap

/-- The words of a text, which stand between spaces and line feeds. -/
def wordsOf (text : String) : List String :=
  ((text.splitOn "\n").flatMap (·.splitOn " ")).filter (· ≠ "")

/-- The map a text writes down. -/
def ofText (text : String) : CharMap :=
  ⟨((wordsOf text).filterMap CharRun.ofWord?).toArray⟩

/-- Looks for `code` among the runs from `low` up to but not including `high`. -/
def search (runs : Array CharRun) (code : Nat) (low high : Nat) : Nat → Option (List Char)
  | 0 => none
  | fuel + 1 =>
    if high ≤ low then none
    else
      let middle := (low + high) / 2
      match runs[middle]? with
      | none => none
      | some run =>
        if code < run.first then search runs code low middle fuel
        else if run.last < code then search runs code (middle + 1) high fuel
        else run.find? code

/-- The image of a character, if the map has one. -/
def find? (map : CharMap) (c : Char) : Option (List Char) :=
  search map.runs c.toNat 0 map.runs.size (map.runs.size + 1)

end CharMap

end Domotics.Text
