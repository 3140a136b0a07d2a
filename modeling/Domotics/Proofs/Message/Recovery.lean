import Domotics.Proofs.Message.Writing
import Domotics.Proofs.Text.Malformed
/-!
# Malformed input

Input is malformed in two ways: a byte begins no frame, or the bytes of a text in a frame are not
UTF-8. Neither hides where the next frame begins, because the end of a frame is found by the lengths
in it, whatever stands in its texts.

`Yields` says what comes of a byte or of a frame on its own. What a frame means goes by its bytes,
field by field (`Fields.Means`), and of the texts that are malformed it is the first that a frame
fails of (`FirstMalformed`). `decodeAll_units`: any such units, one after the other, are decoded each
to what it yields.
-/

namespace Domotics

/-! ## What bytes mean -/

/-- Bytes that spell a field, and the value that they mean. -/
inductive FieldType.Means : (type : FieldType) → List UInt8 → type.Value → Prop
  | byte (b : UInt8) : Means .byte [b] b
  | flag (b : UInt8) : Means .flag [b] (decide (b ≠ 0))
  | int (n : Int32) {data : List UInt8} (length : data.length = 4)
    (worth : bigEndian data = n.toUInt32.toNat) : Means .int data n
  | float (x : Binary64) {data : List UInt8} (length : data.length = 8)
    (worth : bigEndian data = x.bits.toNat) : Means .float data x
  | text (value : String) {high low : UInt8}
    (length : value.utf8ByteSize = 256 * high.toNat + low.toNat) :
    Means .text (high :: low :: Text.bytes value) value

/-- Bytes that spell fields one after the other, and the values that they mean. -/
inductive Fields.Means :
    (layout : List FieldType) → List UInt8 → Fields FieldType.Value layout → Prop
  | nil : Means [] [] ()
  | cons {type : FieldType} {layout : List FieldType} {field data : List UInt8} {value : type.Value}
    {values : Fields FieldType.Value layout} (first : type.Means field value)
    (rest : Means layout data values) : Means (type :: layout) (field ++ data) (value, values)

/-- A frame that means a message: the tag of its kind, and its fields in order. -/
inductive Message.Means : Message → List UInt8 → Prop
  | intro {m : Message} {data : List UInt8} (fields : Fields.Means m.kind.layout data m.fields) :
    m.Means (m.kind.tag :: data)

/-- Of the texts of a frame, in order, one is the first whose bytes are no text, and why they are
none. -/
def FirstMalformed (texts : List (List UInt8)) (e : Text.Utf8Error) : Prop :=
  FirstWrong (fun text => text.toByteArray.IsValidUTF8) Text.Malformed texts e

/-- What comes of a byte that begins no frame, or of a frame. -/
inductive Yields : List UInt8 → Except Error Message → Prop
  | stray {tag : UInt8} (above : 0x0d < tag) : Yields [tag] (.error (.unknownMessageType tag))
  | message {frame : List UInt8} {m : Message} (means : m.Means frame) : Yields frame (.ok m)
  | malformed {kind : MessageKind} {texts : List (List UInt8)} {data : List UInt8}
    {e : Text.Utf8Error} (frame : IsFrame texts (kind.tag :: data))
    (first : FirstMalformed texts e) :
    Yields (kind.tag :: data)
      (.error (.protocol s!"invalid UTF-8 in {kind.name} message: {e.message}"))

/-! ## Fields -/

/-- The bytes of a field mean what the field means. -/
theorem FieldType.means_of_ofRaw : ∀ {type : FieldType} {field : type.Raw} {value : type.Value},
    type.ofRaw field = .ok value → type.Means (type.bytes field) value
  | .byte, (b : UInt8), _, h => by
    cases h
    exact .byte b
  | .flag, (b : UInt8), _, h => by
    cases h
    exact .flag b
  | .int, (n : Int32), _, h => by
    cases h
    exact .int n rfl (bigEndian_bytesOfInt n)
  | .float, (x : Binary64), _, h => by
    cases h
    exact .float x rfl (bigEndian_bytesOfFloat x)
  | .text, (raw : RawText), (value : String), h => by
    obtain ⟨data, short⟩ := raw
    obtain rfl : Text.bytes value = data := Text.bytes_of_ofBytes h
    refine .text value ?_
    rw [← Text.length_bytes]
    exact toNat_bytesOfLength short

/-- No other bytes mean it. -/
theorem FieldType.Means.exists_raw {type : FieldType} {data : List UInt8} {value : type.Value}
    (h : type.Means data value) :
    ∃ field, type.bytes field = data ∧ type.ofRaw field = .ok value := by
  cases h with
  | byte b | flag b => exact ⟨b, rfl, rfl⟩
  | int n length worth =>
    exact ⟨n, bigEndian_injective length.symm ((bigEndian_bytesOfInt n).trans worth.symm), rfl⟩
  | float x length worth =>
    exact ⟨x, bigEndian_injective length.symm ((bigEndian_bytesOfFloat x).trans worth.symm), rfl⟩
  | @text value high low length =>
    rw [← Text.length_bytes] at length
    refine ⟨(⟨Text.bytes value, lt_textLimit_of_eq length⟩ : RawText), ?_,
      Text.ofBytes_bytes value⟩
    simp only [bytes, bytesOfLength_of_eq length]
    rfl

theorem Fields.means_of_ofRaw : ∀ {layout : List FieldType} {fields : Fields FieldType.Raw layout}
    {values : Fields FieldType.Value layout},
    ofRaw layout fields = .ok values → Means layout (bytes layout fields) values
  | [], _, _, _ => .nil
  | type :: layout, (field, fields), values, h => by
    obtain ⟨value, hfield, h⟩ := bind_eq_ok_iff.mp h
    obtain ⟨values, hfields, h⟩ := bind_eq_ok_iff.mp h
    cases h
    exact .cons (FieldType.means_of_ofRaw hfield) (means_of_ofRaw hfields)

theorem Fields.Means.exists_raw {layout : List FieldType} {data : List UInt8}
    {values : Fields FieldType.Value layout} (h : Means layout data values) :
    ∃ fields, bytes layout fields = data ∧ ofRaw layout fields = .ok values := by
  induction h with
  | nil => exact ⟨(), rfl, rfl⟩
  | cons first rest ih =>
    obtain ⟨field, rfl, hfield⟩ := first.exists_raw
    obtain ⟨fields, rfl, hfields⟩ := ih
    refine ⟨(field, fields), rfl, ?_⟩
    rw [ofRaw, hfield, hfields]
    rfl

theorem FieldType.ofRaw_eq_error_iff : ∀ {type : FieldType} {field : type.Raw} {e : Text.Utf8Error},
    type.ofRaw field = .error e ↔ FirstMalformed (type.contents field) e
  | .byte, (_ : UInt8), _ | .flag, (_ : UInt8), _ | .int, _, _ | .float, _, _ =>
    ⟨fun h => (nomatch h), fun h => absurd h FirstWrong.not_nil⟩
  | .text, (raw : RawText), e => by
    rw [contents, FirstMalformed, FirstWrong.singleton_iff]
    exact Text.ofBytes_eq_error_iff

/-- Fields mean nothing exactly if a text of theirs is none, and the first such text decides the
failure. -/
theorem Fields.ofRaw_eq_error_iff : ∀ {layout : List FieldType}
    {fields : Fields FieldType.Raw layout} {e : Text.Utf8Error},
    ofRaw layout fields = .error e ↔ FirstMalformed (contents layout fields) e
  | [], (), _ => ⟨fun h => (nomatch h), fun h => absurd h FirstWrong.not_nil⟩
  | type :: layout, (field, fields), e => by
    refine Iff.trans pair_eq_error_iff ?_
    rw [FieldType.ofRaw_eq_error_iff, FieldType.exists_ofRaw_iff, ofRaw_eq_error_iff]
    exact FirstWrong.append_iff.symm

/-! ## Units -/

theorem Message.means_ofFields {kind : MessageKind} {values : Fields FieldType.Value kind.layout}
    {data : List UInt8} (h : Fields.Means kind.layout data values) :
    (ofFields kind values).Means (kind.tag :: data) := by
  cases kind <;> exact .intro h

/-- What is decoded at once yields what it is decoded to. -/
theorem Piece.yields {unit : List UInt8} {result : Except Error Message} (h : Piece unit result) :
    Yields unit result := by
  cases h with
  | stray tag unknown => exact .stray (ofTag?_eq_none_iff.mp unknown)
  | frame frame =>
    cases h : frame.message with
    | ok m =>
      obtain ⟨values, hvalues, rfl⟩ := Frame.message_eq_ok_iff.mp h
      exact .message (Message.means_ofFields (Fields.means_of_ofRaw hvalues))
    | error e =>
      obtain ⟨cause, hcause, rfl⟩ := Frame.message_eq_error_iff.mp h
      exact .malformed (isFrame_iff.mpr ⟨frame, rfl, rfl⟩) (Fields.ofRaw_eq_error_iff.mp hcause)

/-- What yields a result is decoded to it at once. -/
theorem Yields.piece {unit : List UInt8} {result : Except Error Message} (h : Yields unit result) :
    Piece unit result := by
  cases h with
  | stray above => exact .stray _ (ofTag?_eq_none_iff.mpr above)
  | @message _ m means =>
    obtain ⟨fields⟩ := means
    obtain ⟨raw, rfl, hfields⟩ := fields.exists_raw
    have hmessage : (Frame.mk m.kind raw).message = .ok m :=
      Frame.message_eq_ok_iff.mpr ⟨m.fields, hfields, m.ofFields_fields⟩
    exact hmessage ▸ .frame ⟨m.kind, raw⟩
  | malformed isFrame first =>
    obtain ⟨frame, hbytes, rfl⟩ := isFrame_iff.mp isFrame
    obtain ⟨htag, rfl⟩ := List.cons_eq_cons.mp hbytes
    obtain rfl := MessageKind.eq_of_tag_eq htag
    have hmessage := Frame.message_eq_error_iff.mpr
      ⟨_, Fields.ofRaw_eq_error_iff.mpr first, rfl⟩
    exact hmessage ▸ .frame frame

theorem Piece.unique {unit : List UInt8} {result result' : Except Error Message}
    (h : Piece unit result) (h' : Piece unit result') : result = result' := by
  have heq := (h.decode_append []).symm.trans (h'.decode_append [])
  injection heq

/-- Units that are put together are read one by one. -/
theorem Reading.of_forall₂ {units : List (List UInt8)} {results : List (Except Error Message)}
    (h : List.Forall₂ Yields units results) : Reading units.flatten units results [] := by
  induction h with
  | nil => exact .stop rfl
  | cons first rest ih => exact .take first.piece ih

theorem exists_forall₂_yields : ∀ {units : List (List UInt8)},
    (∀ unit ∈ units, ∃ result, Yields unit result) → ∃ results, List.Forall₂ Yields units results
  | [], _ => ⟨[], .nil⟩
  | unit :: units, h => by
    obtain ⟨⟨result, first⟩, hrest⟩ := List.forall_mem_cons.mp h
    obtain ⟨results, rest⟩ := exists_forall₂_yields hrest
    exact ⟨result :: results, .cons first rest⟩

/-- Bytes that begin no frame, and frames with any bytes in their texts, one after the other, are
decoded each to what it yields, and nothing is left. A frame yields a message exactly if all its
texts are UTF-8; otherwise it yields an error, and what follows it is not misread. -/
theorem decodeAll_units :
    (∀ units : List (List UInt8),
      (∀ unit ∈ units, (∃ tag, 0x0d < tag ∧ unit = [tag]) ∨ ∃ texts, IsFrame texts unit) →
        (decodeAll units.flatten).2 = [] ∧
        ∀ results, (decodeAll units.flatten).1 = results ↔ List.Forall₂ Yields units results) ∧
    ∀ texts frame, IsFrame texts frame →
      ((∃ m, Yields frame (.ok m)) ↔ ∀ text ∈ texts, text.toByteArray.IsValidUTF8) := by
  constructor
  · intro units h
    have hyields : ∀ unit ∈ units, ∃ result, Yields unit result := by
      intro unit hunit
      rcases h unit hunit with ⟨tag, above, rfl⟩ | ⟨texts, isFrame⟩
      · exact ⟨_, .stray above⟩
      · obtain ⟨frame, rfl, -⟩ := isFrame_iff.mp isFrame
        exact ⟨_, (Piece.frame frame).yields⟩
    obtain ⟨results, hresults⟩ := exists_forall₂_yields hyields
    have hdecode := (Reading.of_forall₂ hresults).decodeAll_eq
    refine ⟨congrArg Prod.snd hdecode, fun results' => ⟨?_, fun hresults' => ?_⟩⟩
    · rintro rfl
      rw [hdecode]
      exact hresults
    · exact congrArg Prod.fst (Reading.of_forall₂ hresults').decodeAll_eq
  · intro texts data isFrame
    obtain ⟨frame, rfl, rfl⟩ := isFrame_iff.mp isFrame
    rw [← Frame.exists_message_iff]
    constructor
    · rintro ⟨m, h⟩
      exact ⟨m, (Piece.frame frame).unique h.piece⟩
    · rintro ⟨m, h⟩
      exact ⟨m, h ▸ (Piece.frame frame).yields⟩

/-- A byte that begins no frame, a login with a password that breaks off inside of a character, and
a ping. -/
theorem decodeAll_units_login :
    let login : List UInt8 := [0x00, 1] ++ [0, 1, 0x61] ++ [0, 4, 0x62, 0xe2, 0x82, 0x29]
    let ping : List UInt8 := [0x02, 0, 0, 0, 7]
    (∀ unit ∈ [[0x42], login, ping],
        (∃ tag, 0x0d < tag ∧ unit = [tag]) ∨ ∃ texts, IsFrame texts unit) ∧
      decodeAll [[0x42], login, ping].flatten =
        ([.error (.unknownMessageType 0x42),
          .error (.protocol
            "invalid UTF-8 in login message: invalid utf-8 sequence of 2 bytes from index 1"),
          .ok (.ping 7)], []) ∧
      ∃ m, Yields ping (.ok m) := by
  intro login ping
  have hlogin : IsFrame [[0x61], [0x62, 0xe2, 0x82, 0x29]] login :=
    .intro rfl (.cons (.byte 1) (.cons (.text 0 1 [0x61] rfl)
      (.cons (.text 0 4 [0x62, 0xe2, 0x82, 0x29] rfl) .nil)))
  have hping : IsFrame [] ping := .intro rfl (.cons (.int 0 0 0 7) .nil)
  have hunits : ∀ unit ∈ [[0x42], login, ping],
      (∃ tag, 0x0d < tag ∧ unit = [tag]) ∨ ∃ texts, IsFrame texts unit := by
    simp only [List.forall_mem_cons]
    exact ⟨Or.inl ⟨0x42, by decide, rfl⟩, Or.inr ⟨_, hlogin⟩, Or.inr ⟨_, hping⟩,
      fun _ h => nomatch h⟩
  have hfirst : FirstMalformed [[0x61], [0x62, 0xe2, 0x82, 0x29]] (.invalid 2 1) :=
    .there (Text.exists_ofBytes_eq_ok_iff.mp ⟨"a", rfl⟩) (.here (Text.ofBytes_eq_error_iff.mp rfl))
  have hmeans : (Message.ping 7).Means ping :=
    .intro (.cons (@FieldType.Means.int 7 [0, 0, 0, 7] rfl (by decide)) .nil)
  obtain ⟨hleft, hresults⟩ := decodeAll_units.1 _ hunits
  refine ⟨hunits, Prod.ext ?_ hleft, (decodeAll_units.2 _ _ hping).mpr fun _ h => nomatch h⟩
  exact (hresults _).mpr (.cons (.stray (by decide))
    (.cons (@Yields.malformed .login _ _ _ hlogin hfirst) (.cons (.message hmeans) .nil)))

end Domotics
