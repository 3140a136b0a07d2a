import Domotics.Message.Basic
/-!
# Frames

On the wire a message is a frame: its tag, then its fields one after the other, as the layout of
its kind lists them. Numbers are big-endian, a truth value is one byte, and a text is two bytes of
length and that many bytes. Frames carry no length of their own, so where one ends is known only
by reading its fields.

`Frame` is what stands between bytes and messages: the fields are told apart, but the bytes of a
text need not be UTF-8. `Frame.bytes` writes a frame down and `Frame.read?` finds the one at the
front of a buffer.
-/

namespace Domotics

/-! ## Numbers as bytes -/

/-- Sixteen bits, the high byte first. -/
def bytesOfLength (n : Nat) : List UInt8 :=
  [UInt8.ofNat (n / 256), UInt8.ofNat n]

/-- Thirty-two bits, the high byte first. -/
def bytesOfInt (n : Int32) : List UInt8 :=
  let u := n.toUInt32
  [(u >>> 24).toUInt8, (u >>> 16).toUInt8, (u >>> 8).toUInt8, u.toUInt8]

/-- The number that four bytes write, the high byte first. -/
def intOfBytes (a b c d : UInt8) : Int32 :=
  (a.toUInt32 <<< 24 ||| b.toUInt32 <<< 16 ||| c.toUInt32 <<< 8 ||| d.toUInt32).toInt32

/-- Sixty-four bits, the high byte first. -/
def bytesOfFloat (x : Binary64) : List UInt8 :=
  let u := x.bits
  [(u >>> 56).toUInt8, (u >>> 48).toUInt8, (u >>> 40).toUInt8, (u >>> 32).toUInt8,
    (u >>> 24).toUInt8, (u >>> 16).toUInt8, (u >>> 8).toUInt8, u.toUInt8]

/-- The number that eight bytes write, the high byte first. -/
def floatOfBytes (a b c d e f g h : UInt8) : Binary64 :=
  ⟨a.toUInt64 <<< 56 ||| b.toUInt64 <<< 48 ||| c.toUInt64 <<< 40 ||| d.toUInt64 <<< 32 |||
    e.toUInt64 <<< 24 ||| f.toUInt64 <<< 16 ||| g.toUInt64 <<< 8 ||| h.toUInt64⟩

/-! ## Fields -/

/-- The types of fields. -/
inductive FieldType where
  | byte
  | flag
  | int
  | float
  | text
deriving DecidableEq

/-- The length of a text on the wire takes two bytes, so a text is shorter than this. -/
def textLimit : Nat := 0x10000

/-- The bytes of a text as they stand on the wire. -/
structure RawText where
  bytes : List UInt8
  short : bytes.length < textLimit

/-- A field as it stands on the wire. Any byte will do for a truth value. -/
def FieldType.Raw : FieldType → Type
  | .byte => UInt8
  | .flag => UInt8
  | .int => Int32
  | .float => Binary64
  | .text => RawText

/-- What a field means. -/
def FieldType.Value : FieldType → Type
  | .byte => UInt8
  | .flag => Bool
  | .int => Int32
  | .float => Binary64
  | .text => String

/-- One field of each type of a layout. -/
def Fields (field : FieldType → Type) : List FieldType → Type
  | [] => Unit
  | type :: layout => field type × Fields field layout

/-- The bytes of a field. -/
def FieldType.bytes : (type : FieldType) → type.Raw → List UInt8
  | .byte, (b : UInt8) => [b]
  | .flag, (b : UInt8) => [b]
  | .int, n => bytesOfInt n
  | .float, x => bytesOfFloat x
  | .text, (raw : RawText) => bytesOfLength raw.bytes.length ++ raw.bytes

theorem length_lt_textLimit (high low : UInt8) (data : List UInt8) :
    (data.take (high.toNat * 256 + low.toNat)).length < textLimit := by
  have := high.toNat_lt
  have := low.toNat_lt
  simp only [List.length_take, textLimit]
  omega

/-- Reads a text: two bytes of length, then as many bytes as that. -/
def readText? : List UInt8 → Option (RawText × List UInt8)
  | high :: low :: rest =>
    let length := high.toNat * 256 + low.toNat
    if length ≤ rest.length then
      some (⟨rest.take length, length_lt_textLimit high low rest⟩, rest.drop length)
    else none
  | _ => none

/-- Reads a field from the front of the bytes; nothing if they end too soon. -/
def FieldType.read? : (type : FieldType) → List UInt8 → Option (type.Raw × List UInt8)
  | .byte, b :: rest => some (b, rest)
  | .flag, b :: rest => some (b, rest)
  | .int, a :: b :: c :: d :: rest => some (intOfBytes a b c d, rest)
  | .float, a :: b :: c :: d :: e :: f :: g :: h :: rest =>
    some (floatOfBytes a b c d e f g h, rest)
  | .text, data => readText? data
  | _, _ => none

/-- The bytes of the fields of a layout. -/
def Fields.bytes : (layout : List FieldType) → Fields FieldType.Raw layout → List UInt8
  | [], _ => []
  | type :: layout, (field, fields) => type.bytes field ++ Fields.bytes layout fields

/-- Reads the fields of a layout from the front of the bytes. -/
def Fields.read? : (layout : List FieldType) → List UInt8 →
    Option (Fields FieldType.Raw layout × List UInt8)
  | [], data => some ((), data)
  | type :: layout, data => do
    let (field, data) ← type.read? data
    let (fields, data) ← Fields.read? layout data
    return ((field, fields), data)

/-! ## Frames -/

/-- The fields of each kind of message, in order. -/
def MessageKind.layout : MessageKind → List FieldType
  | .login => [.byte, .text, .text]
  | .logout => [.text]
  | .decimalDevice _ =>
    [.int, .float, .int, .text, .text, .flag, .float, .float, .text, .text]
  | .binaryDevice _ => [.int, .flag, .int, .text, .text, .flag]
  | .container => [.int, .int, .text, .text, .flag]
  | .decimalValueChanged => [.int, .float]
  | .binaryValueChanged => [.int, .flag]
  | .ping | .pong | .itemRemoved | .listeningStart | .listeningStop => [.int]

/-- A frame: a kind and the fields of its layout. -/
structure Frame where
  kind : MessageKind
  fields : Fields FieldType.Raw kind.layout

namespace Frame

/-- A frame on the wire. -/
def bytes (frame : Frame) : List UInt8 :=
  frame.kind.tag :: Fields.bytes frame.kind.layout frame.fields

/-- Reads the frame of a kind from the bytes after its tag. -/
def readBody? (kind : MessageKind) (data : List UInt8) : Option (Frame × List UInt8) :=
  (Fields.read? kind.layout data).map fun (fields, rest) => (⟨kind, fields⟩, rest)

end Frame

end Domotics
