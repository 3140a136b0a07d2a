import Domotics.Text.Ranges
/-!
# Internet addresses

Addresses of version 4 and 6 of the internet protocol as they stand in the host of a URL.

A version 4 address is one to four numbers between points, in decimal, octal (after `0`) or
hexadecimal (after `0x`); the last one fills all the bytes that are left. A version 6 address is
eight groups of sixteen bits in hexadecimal between colons, where one run of zero groups may be
left out and the last two groups may be written as a version 4 address. It is written back in
lower case, without leading zeros, with the first of its longest runs of at least two zero groups
left out.
-/

namespace Domotics.Url

/-- The visible characters of ASCII that the name of a host does not hold. -/
def isDelimiter (c : Char) : Bool :=
  ['#', '/', ':', '<', '>', '?', '@', '[', '\\', ']', '^', '|'].contains c

/-! ## Version 4 -/

/-- A version 4 address. -/
structure Ipv4 where
  bits : UInt32
deriving DecidableEq

/-- The four bytes of an address, between points. -/
def Ipv4.text (address : Ipv4) : String :=
  let byte (shift : Nat) := toString ((address.bits.toNat >>> shift) % 256)
  s!"{byte 24}.{byte 16}.{byte 8}.{byte 0}"

/-- The value of digits in a base, if all of them are digits of that base. -/
def numeral? (base : Nat) (digits : List Char) : Option Nat :=
  let addDigit (value : Nat) (c : Char) : Option Nat := do
    let digit ← Text.hexDigit? c
    if digit < base then some (value * base + digit) else none
  digits.foldlM addDigit 0

/-- A number of a version 4 address. -/
def ipv4Number? : List Char → Option Nat
  | [] => none
  | '0' :: 'x' :: digits | '0' :: 'X' :: digits => numeral? 16 digits
  | '0' :: d :: digits => numeral? 8 (d :: digits)
  | digits => numeral? 10 digits

/-- Splits characters at each separator. -/
def splitAt (separator : Char) : List Char → List (List Char)
  | [] => [[]]
  | c :: rest =>
    let parts := splitAt separator rest
    if c = separator then [] :: parts
    else
      match parts with
      | part :: parts => (c :: part) :: parts
      | [] => [[c]]

/-- The labels of a domain, without an empty one at the end. -/
def labelsOf (domain : List Char) : List (List Char) :=
  let labels := splitAt '.' domain
  if labels.getLast? = some [] then labels.dropLast else labels

/-- Whether the last label of a domain reads as a number, so that it must be an address. -/
def endsInNumber (domain : List Char) : Bool :=
  match (labelsOf domain).getLast? with
  | none => false
  | some label => (label ≠ [] ∧ label.all Char.isDigit) ∨ (ipv4Number? label).isSome

/-- Reads a version 4 address. -/
def Ipv4.read? (domain : List Char) : Option Ipv4 := do
  let labels := labelsOf domain
  if 4 < labels.length then none
  let numbers ← labels.mapM ipv4Number?
  let last ← numbers.getLast?
  let front := numbers.dropLast
  if Nat.pow 256 (4 - front.length) ≤ last then none
  if front.any (255 < ·) then none
  let high := (front.zipIdx).foldl (fun sum (n, i) => sum + n * Nat.pow 256 (3 - i)) 0
  return ⟨UInt32.ofNat (high + last)⟩

/-! ## Version 6 -/

/-- A version 6 address: its eight groups. -/
structure Ipv6 where
  groups : List Nat
deriving DecidableEq

/-- A number in lower-case hexadecimal. -/
def hexText (n : Nat) : String :=
  String.ofList (Nat.toDigits 16 n)

/-- The runs of zero groups, as start and length, from place `index` on. -/
def zeroRuns (index : Nat) (run : Nat) : List Nat → List (Nat × Nat)
  | [] => if run = 0 then [] else [(index - run, run)]
  | group :: groups =>
    if group = 0 then zeroRuns (index + 1) (run + 1) groups
    else if run = 0 then zeroRuns (index + 1) 0 groups
    else (index - run, run) :: zeroRuns (index + 1) 0 groups

/-- The first of the longest runs of at least two zero groups. -/
def longestZeroRun? (groups : List Nat) : Option (Nat × Nat) :=
  (zeroRuns 0 0 groups).foldl
    (fun best run =>
      if run.2 < 2 then best
      else match best with
        | none => some run
        | some (start, length) => if length < run.2 then some run else some (start, length))
    none

/-- The address as it stands in a URL, without the brackets. -/
def Ipv6.text (address : Ipv6) : String :=
  let join (groups : List Nat) := ":".intercalate (groups.map hexText)
  match longestZeroRun? address.groups with
  | none => join address.groups
  | some (start, length) =>
    join (address.groups.take start) ++ "::" ++ join (address.groups.drop (start + length))

/-- The address as a network address. One that stands for a version 4 address shows that. -/
def Ipv6.networkText (address : Ipv6) : String :=
  match address.groups with
  | [0, 0, 0, 0, 0, 0xffff, high, low] =>
    "::ffff:" ++ (Ipv4.mk (UInt32.ofNat (high * 0x10000 + low))).text
  | _ => address.text

/-- Reads up to `count` hexadecimal digits. -/
def readHex (count value : Nat) : List Char → Nat × List Char
  | [] => (value, [])
  | c :: rest =>
    match count, Text.hexDigit? c with
    | count + 1, some digit => readHex count (value * 16 + digit) rest
    | _, _ => (value, c :: rest)

/-- Reads the four decimal bytes at the end of a version 6 address as two groups. No byte has a
leading zero. -/
def readDottedGroups? (text : List Char) : Option (List Nat) := do
  let byte? (digits : List Char) : Option Nat := do
    if digits = [] ∨ 3 < digits.length ∨ (digits.head? = some '0' ∧ digits.length ≠ 1) then none
    let value ← numeral? 10 digits
    if value ≤ 255 then some value else none
  match ← (splitAt '.' text).mapM byte? with
  | [a, b, c, d] => some [a * 256 + b, c * 256 + d]
  | _ => none

/-- What has been read of a version 6 address: its groups, and how many of them come before the
zero groups that were left out. -/
structure Ipv6Reading where
  groups : List Nat
  gap : Option Nat

/-- Reads groups after those already read, at most `steps` of them. -/
def Ipv6Reading.continue? (reading : Ipv6Reading) : Nat → List Char → Option Ipv6Reading
  | 0, _ => none
  | _ + 1, [] => some reading
  | steps + 1, text@(c :: rest) =>
    if reading.groups.length + (if reading.gap.isSome then 1 else 0) = 8 then none
    else if c = ':' then
      if reading.gap.isSome then none
      else { reading with gap := some reading.groups.length }.continue? steps rest
    else
      let (value, after) := readHex 4 0 text
      match after with
      | [] => some { reading with groups := reading.groups ++ [value] }
      | '.' :: _ =>
        let places := reading.groups.length + (if reading.gap.isSome then 1 else 0)
        if after.length = text.length ∨ 6 < places then none
        else
          (readDottedGroups? text).map fun groups =>
            { reading with groups := reading.groups ++ groups }
      | ':' :: after' =>
        if after' = [] then none
        else { reading with groups := reading.groups ++ [value] }.continue? steps after'
      | _ :: _ => none

/-- Reads a version 6 address, without the brackets. -/
def Ipv6.read? (text : List Char) : Option Ipv6 := do
  let start : Ipv6Reading × List Char ← match text with
    | ':' :: ':' :: rest => some (⟨[], some 0⟩, rest)
    | ':' :: _ => none
    | [] | [_] => none
    | text => some (⟨[], none⟩, text)
  let reading ← start.1.continue? (text.length + 1) start.2
  match reading.gap with
  | none => if reading.groups.length = 8 then some ⟨reading.groups⟩ else none
  | some before =>
    if 8 < reading.groups.length then none
    else
      some ⟨reading.groups.take before ++ List.replicate (8 - reading.groups.length) 0 ++
        reading.groups.drop before⟩

end Domotics.Url
