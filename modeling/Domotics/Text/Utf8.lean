/-!
# UTF-8

The bytes of a text, and the text of bytes. Reading goes through the bytes once and keeps the
character it is in the middle of. Bytes that are no text are refused where the first character
that is wrong begins, with the number of bytes that show it: as many as could still have begun a
character. A text that ends inside a character is told apart, because more bytes could mend it.
-/

namespace Domotics.Text

/-- The bytes of a text. -/
def bytes (text : String) : List UInt8 :=
  text.toList.flatMap String.utf8EncodeChar

/-- Why bytes are no text. -/
inductive Utf8Error where
  /-- At `index` stand `length` bytes that begin no character. -/
  | invalid (length index : Nat)
  /-- The character that begins at `index` has no end. -/
  | incomplete (index : Nat)
deriving DecidableEq

/-- The wording of an error. -/
def Utf8Error.message : Utf8Error → String
  | .invalid length index => s!"invalid utf-8 sequence of {length} bytes from index {index}"
  | .incomplete index => s!"incomplete utf-8 byte sequence from index {index}"

/-- A character of which some bytes have been read. The next byte must lie between `low` and
`high`; the ones after it are plain continuation bytes. -/
structure PartialChar where
  start : Nat
  taken : Nat
  /-- How many bytes follow the next one. -/
  later : Nat
  low : UInt8
  high : UInt8
  code : Nat

/-- What a byte that begins a character says about it: the bytes after the next one, the bounds of
the next one, and the leading bits of the code point. Bytes that begin no character of more than
one byte have none. -/
def leadByte? (b : UInt8) : Option (Nat × UInt8 × UInt8 × Nat) :=
  if 0xc2 ≤ b ∧ b ≤ 0xdf then some (0, 0x80, 0xbf, b.toNat - 0xc0)
  else if b = 0xe0 then some (1, 0xa0, 0xbf, 0)
  else if b = 0xed then some (1, 0x80, 0x9f, 13)
  else if 0xe1 ≤ b ∧ b ≤ 0xef then some (1, 0x80, 0xbf, b.toNat - 0xe0)
  else if b = 0xf0 then some (2, 0x90, 0xbf, 0)
  else if 0xf1 ≤ b ∧ b ≤ 0xf3 then some (2, 0x80, 0xbf, b.toNat - 0xf0)
  else if b = 0xf4 then some (2, 0x80, 0x8f, 4)
  else none

/-- Reads bytes from `index` on, after the characters `done`, the last one first, inside of
`inside` if that is given. -/
def readChars (index : Nat) (inside : Option PartialChar) (done : List Char) :
    List UInt8 → Except Utf8Error (List Char)
  | [] =>
    match inside with
    | none => .ok done.reverse
    | some char => .error (.incomplete char.start)
  | b :: rest =>
    match inside with
    | none =>
      if b < 0x80 then readChars (index + 1) none (Char.ofNat b.toNat :: done) rest
      else
        match leadByte? b with
        | none => .error (.invalid 1 index)
        | some (later, low, high, code) =>
          readChars (index + 1) (some ⟨index, 1, later, low, high, code⟩) done rest
    | some char =>
      if char.low ≤ b ∧ b ≤ char.high then
        let code := char.code * 64 + (b.toNat - 0x80)
        if char.later = 0 then readChars (index + 1) none (Char.ofNat code :: done) rest
        else
          readChars (index + 1)
            (some ⟨char.start, char.taken + 1, char.later - 1, 0x80, 0xbf, code⟩) done rest
      else .error (.invalid char.taken char.start)

/-- The text that bytes encode. -/
def ofBytes (data : List UInt8) : Except Utf8Error String :=
  (readChars 0 none [] data).map String.ofList

end Domotics.Text
