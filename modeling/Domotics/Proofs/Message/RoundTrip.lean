import Domotics.Proofs.Message.Stream
import Domotics.Proofs.Text.Utf8
/-!
# Decoding undoes encoding

A message whose texts fit their two bytes of length can be encoded, and its frame is a piece that
comes to the message itself (`Message.Fits.exists_piece`). Pieces are read off a stream whatever
follows them, so a stream of such frames is read back message by message (`decode_encode`).
-/

namespace Domotics

/-! ## Fields -/

/-- The texts of a field. -/
def FieldType.texts : (type : FieldType) → type.Value → List String
  | .text, (value : String) => [value]
  | _, _ => []

/-- The texts in the fields of a layout. -/
def Fields.texts : (layout : List FieldType) → Fields FieldType.Value layout → List String
  | [], _ => []
  | type :: layout, (value, values) => type.texts value ++ Fields.texts layout values

/-- A field whose text fits can be written down, and what is written means the same. -/
theorem FieldType.exists_toRaw : ∀ {type : FieldType} (value : type.Value),
    (∀ text ∈ type.texts value, text.utf8ByteSize ≤ 65535) →
      ∃ raw, type.toRaw value = .ok raw ∧ type.ofRaw raw = .ok value
  | .byte, (b : UInt8), _ => ⟨b, rfl, rfl⟩
  | .flag, (on : Bool), _ => by
    cases on
    · exact ⟨(0 : UInt8), rfl, rfl⟩
    · exact ⟨(1 : UInt8), rfl, rfl⟩
  | .int, (n : Int32), _ => ⟨n, rfl, rfl⟩
  | .float, (x : Binary64), _ => ⟨x, rfl, rfl⟩
  | .text, (value : String), fits => by
    have short : (Text.bytes value).length < textLimit := by
      rw [Text.length_bytes]
      exact Nat.lt_succ_of_le (fits value (List.mem_singleton_self value))
    refine ⟨(⟨Text.bytes value, short⟩ : RawText), ?_, Text.ofBytes_bytes value⟩
    simp only [toRaw, dif_pos short]

/-- Fields whose texts fit can be written down, and what is written means the same. -/
theorem Fields.exists_toRaw : ∀ {layout : List FieldType} (values : Fields FieldType.Value layout),
    (∀ text ∈ Fields.texts layout values, text.utf8ByteSize ≤ 65535) →
      ∃ fields, Fields.toRaw layout values = .ok fields ∧ Fields.ofRaw layout fields = .ok values
  | [], (), _ => ⟨(), rfl, rfl⟩
  | type :: layout, (value, values), fits => by
    obtain ⟨field, hto, hof⟩ := FieldType.exists_toRaw value fun text h =>
      fits text (List.mem_append_left _ h)
    obtain ⟨fields, htos, hofs⟩ := Fields.exists_toRaw values fun text h =>
      fits text (List.mem_append_right _ h)
    refine ⟨(field, fields), ?_, ?_⟩
    · rw [toRaw, hto, htos]
      rfl
    · rw [ofRaw, hof, hofs]
      rfl

/-! ## Messages -/

namespace Message

/-- The texts of a message. -/
def texts : Message → List String
  | login _ username password => [username, password]
  | logout reason => [reason]
  | decimalDevice _ info quantity =>
    [info.name, info.description, quantity.unit, quantity.abbreviation]
  | binaryDevice _ info _ | container info => [info.name, info.description]
  | _ => []

/-- Each text of the message is at most as long as the wire can carry. -/
def Fits (m : Message) : Prop :=
  ∀ text ∈ m.texts, text.utf8ByteSize ≤ 65535

instance (m : Message) : Decidable m.Fits :=
  inferInstanceAs (Decidable (∀ text ∈ m.texts, text.utf8ByteSize ≤ 65535))

theorem texts_fields (m : Message) : Fields.texts m.kind.layout m.fields = m.texts := by
  cases m <;> rfl

theorem ofFields_fields (m : Message) : ofFields m.kind m.fields = m := by
  cases m <;> rfl

/-- A message that fits has a frame, and the frame means the message. -/
theorem Fits.exists_piece {m : Message} (fits : m.Fits) :
    ∃ data, m.encode = .ok data ∧ Piece data (.ok m) := by
  obtain ⟨fields, hto, hof⟩ := Fields.exists_toRaw m.fields (by rw [texts_fields]; exact fits)
  have hmeans : (Frame.mk m.kind fields).message = .ok m := by
    simp only [Frame.message, hof, ofFields_fields]
  refine ⟨(Frame.mk m.kind fields).bytes, ?_, hmeans ▸ .frame ⟨m.kind, fields⟩⟩
  simp only [encode, frame, hto]
  rfl

/-- A message that fits has a frame, which is read as the message and nothing else. -/
theorem Fits.exists_frame {m : Message} (fits : m.Fits) :
    ∃ frame, m.encode = .ok frame ∧ decode frame = .complete (.ok m) [] := by
  obtain ⟨frame, hframe, hpiece⟩ := fits.exists_piece
  have hdecode := hpiece.decode_append []
  rw [List.append_nil] at hdecode
  exact ⟨frame, hframe, hdecode⟩

/-- Messages that fit have frames that are read back one after the other. -/
theorem Fits.exists_reading : ∀ {messages : List Message}, (∀ m ∈ messages, m.Fits) →
    ∃ frames, messages.mapM encode = .ok frames ∧
      Reading frames.flatten frames (messages.map .ok) []
  | [], _ => ⟨[], rfl, .stop rfl⟩
  | m :: messages, fits => by
    obtain ⟨data, hdata, hpiece⟩ := (fits m List.mem_cons_self).exists_piece
    obtain ⟨frames, hframes, hreading⟩ :=
      exists_reading fun m' h => fits m' (List.mem_cons_of_mem m h)
    refine ⟨data :: frames, ?_, .take hpiece hreading⟩
    rw [List.mapM_cons, hdata, hframes]
    rfl

/-- A message whose texts fit can be encoded, and its frame is decoded to the message itself, up to
where whatever follows begins. So the frames of such messages, one after the other, are decoded to
the messages, and nothing is left. -/
theorem decode_encode :
    (∀ m : Message, m.Fits →
      ∃ data, m.encode = .ok data ∧ ∀ rest, decode (data ++ rest) = .complete (.ok m) rest) ∧
    ∀ messages : List Message, (∀ m ∈ messages, m.Fits) →
      ∃ frames, messages.mapM encode = .ok frames ∧
        decodeAll frames.flatten = (messages.map .ok, []) := by
  constructor
  · intro m fits
    obtain ⟨data, hdata, hpiece⟩ := fits.exists_piece
    exact ⟨data, hdata, hpiece.decode_append⟩
  · intro messages fits
    obtain ⟨frames, hframes, hreading⟩ := Fits.exists_reading fits
    exact ⟨frames, hframes, hreading.decodeAll_eq⟩

theorem decode_encode_login_pong :
    (login 1 "alice" "grün").Fits ∧
      (∃ data, (login 1 "alice" "grün").encode = .ok data ∧
        ∀ rest, decode (data ++ rest) = .complete (.ok (login 1 "alice" "grün")) rest) ∧
      ∃ frames, [pong (-1), login 1 "alice" "grün"].mapM encode = .ok frames ∧
        decodeAll frames.flatten = ([.ok (pong (-1)), .ok (login 1 "alice" "grün")], []) := by
  have hlogin : (login 1 "alice" "grün").Fits := by decide
  have hpong : (pong (-1)).Fits := by decide
  refine ⟨hlogin, decode_encode.1 _ hlogin, decode_encode.2 [pong (-1), login 1 "alice" "grün"] ?_⟩
  intro m hm
  rcases List.mem_pair.mp hm with rfl | rfl
  · exact hpong
  · exact hlogin

end Message

end Domotics
