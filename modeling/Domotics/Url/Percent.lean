import Domotics.Text.Ranges
import Domotics.Text.Utf8
/-!
# Percent encoding

A byte that may not stand in a part of a URL is written as a percent sign and two hexadecimal
digits. Which bytes those are depends on the part; bytes outside of ASCII and control characters
are written so in every part.
-/

namespace Domotics.Url

/-- The ASCII characters, besides the control characters, that a part of a URL encodes. -/
structure EncodeSet where
  characters : List Char

namespace EncodeSet

/-- Hosts of schemes without rules of their own, and paths that are no hierarchy. -/
def controls : EncodeSet := ⟨[]⟩

def fragment : EncodeSet := ⟨[' ', '"', '<', '>', '\x60']⟩

def query : EncodeSet := ⟨[' ', '"', '#', '<', '>']⟩

/-- Queries of the schemes the standard knows also encode the apostrophe. -/
def specialQuery : EncodeSet := ⟨query.characters ++ ['\x27']⟩

def path : EncodeSet := ⟨fragment.characters ++ ['#', '?', '\x7b', '\x7d']⟩

def userinfo : EncodeSet := ⟨path.characters ++ ['/', ':', ';', '=', '@', '[', '\\', ']', '^', '|']⟩

/-- Whether a byte is encoded. -/
def encodes (set : EncodeSet) (b : UInt8) : Bool :=
  b < 0x20 ∨ 0x7f ≤ b ∨ set.characters.contains (Char.ofNat b.toNat)

end EncodeSet

/-- A byte as a percent sign and two hexadecimal digits. -/
def percentByte (b : UInt8) : String :=
  let digit (n : Nat) := (Nat.digitChar n).toUpper
  String.ofList ['%', digit (b.toNat / 16), digit (b.toNat % 16)]

/-- A character as it stands in a part of a URL. -/
def encodeChar (set : EncodeSet) (c : Char) : String :=
  String.join ((String.utf8EncodeChar c).map fun b =>
    if set.encodes b then percentByte b else String.singleton (Char.ofNat b.toNat))

/-- Characters as they stand in a part of a URL. -/
def encode (set : EncodeSet) (text : List Char) : String :=
  text.foldl (fun out c => out ++ encodeChar set c) ""

/-- Replaces each percent sign that two hexadecimal digits follow by the byte they write. -/
def percentDecode : List UInt8 → List UInt8
  | b :: high :: low :: rest =>
    let digit? (d : UInt8) := Text.hexDigit? (Char.ofNat d.toNat)
    match if b = 0x25 then (digit? high, digit? low) else (none, none) with
    | (some h, some l) => UInt8.ofNat (16 * h + l) :: percentDecode rest
    | _ => b :: percentDecode (high :: low :: rest)
  | short => short

end Domotics.Url
