/-!
# Punycode

A text with any characters is written in ASCII: first its ASCII characters, then a hyphen if there
were any, and then where which other character goes in. The characters go in by ascending code
points, and of equal ones the first comes first. Each step is one number: how many places are passed
over, counted around the text once for every code point in between. Numbers are written in base 36
with the least digit first, and the digits that may end a number are chosen by how large the numbers
were so far.
-/

namespace Domotics.Url.Punycode

/-- A digit as a character: letters, then numerals. -/
def digitChar (digit : Nat) : Char :=
  if digit < 26 then Char.ofNat ('a'.toNat + digit) else Char.ofNat ('0'.toNat + (digit - 26))

/-- The value of a digit. -/
def digit? (c : Char) : Option Nat :=
  if 'a' ≤ c ∧ c ≤ 'z' then some (c.toNat - 'a'.toNat)
  else if '0' ≤ c ∧ c ≤ '9' then some (c.toNat - '0'.toNat + 26)
  else none

/-- The least digit that does not end a number, at a position that grows by 36 with each digit. -/
def threshold (position bias : Nat) : Nat :=
  min 26 (max 1 (position - bias))

/-- Divides by 35 until at most 455 is left, and counts 36 for each time. -/
def scaleDown (delta counted : Nat) : Nat × Nat :=
  if 455 < delta then scaleDown (delta / 35) (counted + 36) else (delta, counted)
termination_by delta
decreasing_by exact Nat.div_lt_self (by omega) (by decide)

/-- How digits are chosen after a number, given the length of the text with the new character. -/
def adapt (delta length : Nat) (isFirst : Bool) : Nat :=
  let delta := if isFirst then delta / 700 else delta / 2
  let (delta, counted) := scaleDown (delta + delta / length) 0
  counted + 36 * delta / (delta + 38)

/-! ## Writing -/

/-- The digits of a number; a number has fewer than `steps` of them. -/
def digits (bias : Nat) : Nat → Nat → Nat → List Char
  | 0, _, _ => []
  | steps + 1, position, n =>
    let t := threshold position bias
    if n < t then [digitChar n]
    else
      digitChar (t + (n - t) % (36 - t)) ::
        digits bias steps (position + 36) ((n - t) / (36 - t))

/-- What has been written. -/
structure Writing where
  /-- The digits so far. -/
  written : List Char
  /-- How many characters of the text are in already. -/
  length : Nat
  /-- How many places have been passed over since the last number. -/
  delta : Nat
  bias : Nat

/-- Goes on over one character of the text, to put it in if it is `next`. -/
def Writing.pass (basics next : Nat) (w : Writing) (c : Char) : Writing :=
  if c.toNat < next then { w with delta := w.delta + 1 }
  else if c.toNat = next then
    { written := w.written ++ digits w.bias (w.delta + 1) 36 w.delta
      length := w.length + 1
      delta := 0
      bias := adapt w.delta (w.length + 1) (w.length = basics) }
  else w

/-- Puts in the characters from a code point on, `steps` different ones at most. -/
def Writing.go (basics : Nat) (text : List Char) (w : Writing) (code : Nat) : Nat → Writing
  | 0 => w
  | steps + 1 =>
    match (text.filter (code ≤ ·.toNat)).map Char.toNat |>.min? with
    | none => w
    | some next =>
      let reached := { w with delta := w.delta + (next - code) * (w.length + 1) }
      let passed := text.foldl (Writing.pass basics next) reached
      Writing.go basics text { passed with delta := passed.delta + 1 } (next + 1) steps

/-- A text in ASCII. -/
def encode (text : List Char) : List Char :=
  let basic := text.filter (· < '\x80')
  let first := if basic = [] then [] else basic ++ ['-']
  first ++ (Writing.go basic.length text ⟨[], basic.length, 0, 72⟩ 0x80 text.length).written

/-! ## Reading -/

/-- Reads a number: what its digits add to `sum`, and the characters after it. -/
def readNumber? (bias position weight sum : Nat) : List Char → Option (Nat × List Char)
  | [] => none
  | c :: rest => do
    let digit ← digit? c
    let sum := sum + digit * weight
    let t := threshold position bias
    if digit < t then some (sum, rest)
    else readNumber? bias (position + 36) (weight * (36 - t)) sum rest

/-- The character of a code point that is one. -/
def char? (code : Nat) : Option Char :=
  if code < 0xd800 ∨ (0xdfff < code ∧ code < 0x110000) then some (Char.ofNat code) else none

/-- Puts characters into a text, `steps` at most. -/
def insertAll? (text : List Char) (code place bias : Nat) : Nat → List Char → Option (List Char)
  | _, [] => some text
  | 0, _ => none
  | steps + 1, written => do
    let (reached, rest) ← readNumber? bias 36 1 place written
    let length := text.length + 1
    let code := code + reached / length
    let index := reached % length
    let c ← char? code
    insertAll? (text.take index ++ c :: text.drop index) code (index + 1)
      (adapt (reached - place) length (place = 0)) steps rest

/-- The text that ASCII characters stand for. A hyphen in front marks off nothing, and is no
digit. -/
def decode? (written : List Char) : Option (List Char) :=
  let tail := (written.reverse.takeWhile (· ≠ '-')).reverse
  let basic := written.take (written.length - tail.length - 1)
  let inserted := if basic = [] then written else tail
  insertAll? basic 0x80 0 72 inserted.length inserted

end Domotics.Url.Punycode
