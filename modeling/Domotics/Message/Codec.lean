import Domotics.Message.Frame
import Domotics.Text.Utf8
/-!
# Messages on the wire

A message is encoded by writing its fields into a frame, which fails only if a text is too long.
Onto a buffer they are written one after the other, so what was written before a text that is too
long has to be cut off again.
Decoding takes what is at the front of a buffer: a frame and what it means, or one byte that begins
no frame. Texts are checked once the frame is complete, so a frame with a text that is not UTF-8
is skipped as a whole and what follows it is not misread.

`decodeAll` empties a buffer as far as it goes and leaves the beginning of a frame that is not
complete yet.
-/

namespace Domotics

/-! ## Fields and what they mean -/

/-- Writes the meaning of a field down. Only a text can fail: if it is too long. -/
def FieldType.toRaw : (type : FieldType) → type.Value → Except Error type.Raw
  | .byte, (b : UInt8) => .ok b
  | .flag, (on : Bool) => .ok (if on then (1 : UInt8) else (0 : UInt8))
  | .int, n => .ok n
  | .float, x => .ok x
  | .text, (value : String) =>
    let data := Text.bytes value
    if short : data.length < textLimit then .ok (⟨data, short⟩ : RawText)
    else .error (.textTooLong data.length)

/-- What a field means. Only a text can fail: if it is not UTF-8. -/
def FieldType.ofRaw : (type : FieldType) → type.Raw → Except Text.Utf8Error type.Value
  | .byte, (b : UInt8) => .ok b
  | .flag, (b : UInt8) => .ok (decide (b ≠ 0))
  | .int, n => .ok n
  | .float, x => .ok x
  | .text, (raw : RawText) => Text.ofBytes raw.bytes

/-- Writes down the fields of a layout; the first text that is too long decides the failure. -/
def Fields.toRaw : (layout : List FieldType) → Fields FieldType.Value layout →
    Except Error (Fields FieldType.Raw layout)
  | [], _ => .ok ()
  | type :: layout, (value, values) => do
    let field ← type.toRaw value
    let fields ← Fields.toRaw layout values
    return (field, fields)

/-- What the fields of a layout mean; the first text that is not UTF-8 decides the failure. -/
def Fields.ofRaw : (layout : List FieldType) → Fields FieldType.Raw layout →
    Except Text.Utf8Error (Fields FieldType.Value layout)
  | [], _ => .ok ()
  | type :: layout, (field, fields) => do
    let value ← type.ofRaw field
    let values ← Fields.ofRaw layout fields
    return (value, values)

namespace Message

/-- The fields of a message. -/
def fields : (m : Message) → Fields FieldType.Value m.kind.layout
  | login minor username password => (minor, username, password, ())
  | logout reason => (reason, ())
  | ping id | pong id | itemRemoved id | listeningStart id | listeningStop id => (id, ())
  | decimalDevice _ info quantity =>
    (info.id, quantity.value, info.parent, info.name, info.description, info.internal,
      quantity.min, quantity.max, quantity.unit, quantity.abbreviation, ())
  | binaryDevice _ info on =>
    (info.id, on, info.parent, info.name, info.description, info.internal, ())
  | container info => (info.id, info.parent, info.name, info.description, info.internal, ())
  | decimalValueChanged id value => (id, value, ())
  | binaryValueChanged id on => (id, on, ())

/-- The message of a kind with given fields. -/
def ofFields : (kind : MessageKind) → Fields FieldType.Value kind.layout → Message
  | .login, (minor, username, password, ()) => login minor username password
  | .logout, (reason, ()) => logout reason
  | .ping, (id, ()) => ping id
  | .pong, (id, ()) => pong id
  | .decimalDevice role,
      (id, value, parent, name, description, internal, min, max, unit, abbreviation, ()) =>
    decimalDevice role ⟨id, parent, name, description, internal⟩
      ⟨value, min, max, unit, abbreviation⟩
  | .binaryDevice role, (id, on, parent, name, description, internal, ()) =>
    binaryDevice role ⟨id, parent, name, description, internal⟩ on
  | .container, (id, parent, name, description, internal, ()) =>
    container ⟨id, parent, name, description, internal⟩
  | .decimalValueChanged, (id, value, ()) => decimalValueChanged id value
  | .binaryValueChanged, (id, on, ()) => binaryValueChanged id on
  | .itemRemoved, (id, ()) => itemRemoved id
  | .listeningStart, (id, ()) => listeningStart id
  | .listeningStop, (id, ()) => listeningStop id

end Message

/-- What a frame means. -/
def Frame.message (frame : Frame) : Except Error Message :=
  match Fields.ofRaw frame.kind.layout frame.fields with
  | .ok values => .ok (.ofFields frame.kind values)
  | .error e => .error (.protocol s!"invalid UTF-8 in {frame.kind.name} message: {e.message}")

/-- The frame of a message. -/
def Message.frame (m : Message) : Except Error Frame :=
  (Fields.toRaw m.kind.layout m.fields).map fun fields => ⟨m.kind, fields⟩

/-! ## Buffers -/

/-- The bytes of a message on the wire. -/
def Message.encode (m : Message) : Except Error (List UInt8) :=
  m.frame.map Frame.bytes

/-- Writes the fields of a layout at the end of a buffer, one after the other. A text that is too
long ends it, and the fields before it are written by then. -/
def Fields.writeOnto (buffer : List UInt8) : (layout : List FieldType) →
    Fields FieldType.Value layout → Except Error Unit × List UInt8
  | [], _ => (.ok (), buffer)
  | type :: layout, (value, values) =>
    match type.toRaw value with
    | .ok field => Fields.writeOnto (buffer ++ type.bytes field) layout values
    | .error e => (.error e, buffer)

/-- Encodes a message onto a buffer. If that fails, the buffer is cut back to what it held. -/
def Message.encodeOnto (m : Message) (buffer : List UInt8) :
    Except Error Unit × List UInt8 :=
  match Fields.writeOnto (buffer ++ [m.kind.tag]) m.kind.layout m.fields with
  | (.ok (), written) => (.ok (), written)
  | (.error e, written) => (.error e, written.take buffer.length)

/-- What is at the front of a buffer. -/
inductive Decoding where
  /-- The beginning of a frame, or nothing; more bytes are needed. -/
  | incomplete
  /-- A message, or something malformed, and the bytes after it. -/
  | complete (result : Except Error Message) (rest : List UInt8)

/-- Decodes what is at the front of a buffer. -/
def decode : List UInt8 → Decoding
  | [] => .incomplete
  | tag :: data =>
    match MessageKind.ofTag? tag with
    | none => .complete (.error (.unknownMessageType tag)) data
    | some kind =>
      match Frame.readBody? kind data with
      | none => .incomplete
      | some (frame, rest) => .complete frame.message rest

/-- Decodes up to `steps` messages, after the results `done`, the last one first. -/
def decodeWithin (done : List (Except Error Message)) :
    Nat → List UInt8 → List (Except Error Message) × List UInt8
  | 0, buffer => (done.reverse, buffer)
  | steps + 1, buffer =>
    match decode buffer with
    | .incomplete => (done.reverse, buffer)
    | .complete result rest => decodeWithin (result :: done) steps rest

/-- Decodes everything complete in a buffer, and returns what is left of it. Each result takes at
least one byte, so there are at most as many as bytes. -/
def decodeAll (buffer : List UInt8) : List (Except Error Message) × List UInt8 :=
  decodeWithin [] buffer.length buffer

end Domotics
