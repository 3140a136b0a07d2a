import Domotics.Proofs.Message.Grammar
/-!
# Encoding undoes decoding

A truth value takes one byte, and every byte but zero says that it is true. So a message can stand
on the wire in several frames, of which only one is ever written: the one in which the bytes of
truth values are zero or one. `flagPlaces` finds these bytes, going through a frame by the catalog.

What is written for the message of a frame is the frame with these bytes mended and all others as
they were (`Frame.encode_of_message`, `Frame.getElem?_bytes_canonical`). `encode_decode` says so of
buffers, and that a message has one frame only of the kind that is written.
-/

namespace Domotics

/-! ## Where truth values stand -/

/-- How many bytes a field takes at the front of a buffer. -/
def FieldType.width : FieldType → List UInt8 → Nat
  | .byte, _ | .flag, _ => 1
  | .int, _ => 4
  | .float, _ => 8
  | .text, high :: low :: _ => 2 + (256 * high.toNat + low.toNat)
  | .text, _ => 2

/-- The places of truth values in the fields of a layout, the first of which stands at `start`. -/
def Fields.flagPlaces (start : Nat) : List FieldType → List UInt8 → List Nat
  | [], _ => []
  | type :: layout, data =>
    let width := type.width data
    let later := flagPlaces (start + width) layout (data.drop width)
    if type = .flag then start :: later else later

/-- The places of truth values in a frame. -/
def flagPlaces : List UInt8 → List Nat
  | [] => []
  | tag :: data => Fields.flagPlaces 1 (catalog[tag.toNat]?.getD []) data

/-- The byte that is written for the truth value that a byte means. -/
def canonicalByte (b : UInt8) : UInt8 :=
  if b = 0 then 0 else 1

/-- Every truth value in a frame is a zero or a one. -/
def IsCanonical (frame : List UInt8) : Prop :=
  ∀ i ∈ flagPlaces frame, frame[i]? = some 0 ∨ frame[i]? = some 1

instance (frame : List UInt8) : Decidable (IsCanonical frame) :=
  inferInstanceAs (Decidable (∀ i ∈ flagPlaces frame, frame[i]? = some 0 ∨ frame[i]? = some 1))

/-- In the announcement of a switch: whether it is on, and whether it is internal. -/
example : flagPlaces ([0x06, 0, 0, 0, 5, 0x7f, 0, 0, 0, 1] ++ [0, 2, 0x68, 0x69] ++ [0, 0] ++ [0]) =
    [5, 16] := by
  decide

/-! ## Fields that are written as they were read -/

/-- The field that is written for what a field means. -/
def FieldType.canonical : (type : FieldType) → type.Raw → type.Raw
  | .byte, b => b
  | .flag, (b : UInt8) => canonicalByte b
  | .int, n => n
  | .float, x => x
  | .text, raw => raw

/-- The fields that are written for what the fields of a layout mean. -/
def Fields.canonical : (layout : List FieldType) → Fields FieldType.Raw layout →
    Fields FieldType.Raw layout
  | [], _ => ()
  | type :: layout, (field, fields) => (type.canonical field, Fields.canonical layout fields)

/-- The frame that is written for what a frame means. -/
def Frame.canonical (frame : Frame) : Frame :=
  ⟨frame.kind, Fields.canonical frame.kind.layout frame.fields⟩

theorem FieldType.toRaw_of_ofRaw : ∀ {type : FieldType} {field : type.Raw} {value : type.Value},
    type.ofRaw field = .ok value → type.toRaw value = .ok (type.canonical field)
  | .byte, (_ : UInt8), _, h | .int, _, _, h | .float, _, _, h => by
    cases h
    rfl
  | .flag, (b : UInt8), _, h => by
    cases h
    by_cases hb : b = 0 <;> simp [toRaw, canonical, canonicalByte, hb]
  | .text, (raw : RawText), (value : String), h => by
    obtain ⟨data, short⟩ := raw
    obtain rfl : Text.bytes value = data := Text.bytes_of_ofBytes h
    simp only [toRaw, dif_pos short, canonical]

theorem Fields.toRaw_of_ofRaw : ∀ {layout : List FieldType} {fields : Fields FieldType.Raw layout}
    {values : Fields FieldType.Value layout},
    ofRaw layout fields = .ok values → toRaw layout values = .ok (canonical layout fields)
  | [], _, _, _ => rfl
  | type :: layout, (field, fields), values, h => by
    obtain ⟨value, hfield, h⟩ := bind_eq_ok_iff.mp h
    obtain ⟨values, hfields, h⟩ := bind_eq_ok_iff.mp h
    cases h
    simp only [toRaw, FieldType.toRaw_of_ofRaw hfield, Fields.toRaw_of_ofRaw hfields]
    rfl

theorem Message.frame_ofFields (kind : MessageKind) (values : Fields FieldType.Value kind.layout) :
    (ofFields kind values).frame = (Fields.toRaw kind.layout values).map (Frame.mk kind) := by
  cases kind <;> rfl

/-- What a frame means is written as the frame with its truth values mended. -/
theorem Frame.encode_of_message {frame : Frame} {m : Message} (h : frame.message = .ok m) :
    m.encode = .ok frame.canonical.bytes := by
  obtain ⟨values, hvalues, rfl⟩ := message_eq_ok_iff.mp h
  rw [Message.encode, Message.frame_ofFields, Fields.toRaw_of_ofRaw hvalues]
  rfl

/-! ## What mending changes -/

/-- At the given places, counted from `start` on, stands what is written for the bytes there, and at
all others the bytes themselves. -/
def Mended (start : Nat) (places : List Nat) (data mended : List UInt8) : Prop :=
  ∀ i, mended[i]? = if start + i ∈ places then data[i]?.map canonicalByte else data[i]?

theorem canonicalByte_eq_iff {b : UInt8} : canonicalByte b = b ↔ b = 0 ∨ b = 1 := by
  unfold canonicalByte
  split
  · exact ⟨fun h => Or.inl h.symm, fun _ => Eq.symm ‹_›⟩
  · exact ⟨fun h => Or.inr h.symm, fun h => (h.resolve_left ‹_›).symm⟩

namespace Mended

variable {start : Nat} {places : List Nat} {data mended : List UInt8}

theorem flag (h : Mended (start + 1) places data mended) (b : UInt8) :
    Mended start (start :: places) (b :: data) (canonicalByte b :: mended) := by
  intro i
  cases i with
  | zero =>
    rw [Nat.add_zero, if_pos List.mem_cons_self]
    rfl
  | succ j =>
    have hmem : start + (j + 1) ∈ start :: places ↔ start + 1 + j ∈ places := by
      rw [List.mem_cons, or_iff_right (by omega), Nat.add_comm j, Nat.add_assoc]
    simp only [List.getElem?_cons_succ, hmem]
    exact h j

theorem append {field : List UInt8} (h : Mended (start + field.length) places data mended)
    (later : ∀ i ∈ places, start + field.length ≤ i) :
    Mended start places (field ++ data) (field ++ mended) := by
  intro i
  rw [List.getElem?_append, List.getElem?_append]
  by_cases hi : i < field.length
  · have hmem : start + i ∉ places := fun h => by
      have := later _ h
      omega
    rw [if_pos hi, if_pos hi, if_neg hmem]
  · obtain ⟨j, rfl⟩ := Nat.exists_eq_add_of_le (Nat.not_lt.mp hi)
    rw [if_neg hi, if_neg hi, Nat.add_sub_cancel_left, ← Nat.add_assoc]
    exact h j

/-- Nothing is inserted and nothing left out. -/
theorem length_eq (h : Mended start places data mended) : mended.length = data.length := by
  have hnone : ∀ i : Nat, mended.length ≤ i ↔ data.length ≤ i := by
    intro i
    rw [← List.getElem?_eq_none_iff, ← List.getElem?_eq_none_iff, h i]
    split
    · exact Option.map_eq_none_iff
    · rfl
  exact Nat.le_antisymm ((hnone _).mpr (Nat.le_refl _)) ((hnone _).mp (Nat.le_refl _))

/-- What is mended already is not changed. -/
theorem eq_iff (h : Mended 0 places data mended) (inside : ∀ i ∈ places, i < data.length) :
    mended = data ↔ ∀ i ∈ places, data[i]? = some 0 ∨ data[i]? = some 1 := by
  rw [List.ext_getElem?_iff]
  refine forall_congr' fun i => ?_
  rw [h i, Nat.zero_add]
  by_cases hmem : i ∈ places
  · rw [if_pos hmem, List.getElem?_eq_getElem (inside i hmem), Option.map_some, Option.some.injEq,
      Option.some.injEq, Option.some.injEq, canonicalByte_eq_iff]
    exact ⟨fun h _ => h, fun h => h hmem⟩
  · rw [if_neg hmem]
    exact ⟨fun _ h => absurd h hmem, fun _ => rfl⟩

end Mended

/-- A field takes as many bytes as it has. -/
theorem FieldType.width_bytes_append : ∀ {type : FieldType} (field : type.Raw) (rest : List UInt8),
    type.width (type.bytes field ++ rest) = (type.bytes field).length
  | .byte, (_ : UInt8), _ | .flag, (_ : UInt8), _ | .int, _, _ | .float, _, _ => rfl
  | .text, (raw : RawText), rest => by
    change 2 + (256 * _ + _) = (bytesOfLength raw.bytes.length ++ raw.bytes).length
    rw [← toNat_bytesOfLength raw.short, List.length_append]
    rfl

theorem FieldType.canonical_of_ne : ∀ {type : FieldType} (field : type.Raw), type ≠ .flag →
    type.canonical field = field
  | .byte, _, _ | .int, _, _ | .float, _, _ | .text, _, _ => rfl
  | .flag, _, h => absurd rfl h

namespace Fields

variable {layout : List FieldType} {start : Nat}

theorem flagPlaces_of_ne {type : FieldType} (field : type.Raw)
    (fields : Fields FieldType.Raw layout) (h : type ≠ .flag) :
    flagPlaces start (type :: layout) (bytes (type :: layout) (field, fields)) =
      flagPlaces (start + (type.bytes field).length) layout (bytes layout fields) := by
  rw [flagPlaces, bytes, FieldType.width_bytes_append, List.drop_left]
  exact if_neg h

/-- The places of truth values are places of bytes. -/
theorem mem_flagPlaces_bounds : ∀ {layout : List FieldType} {start i : Nat}
    {fields : Fields FieldType.Raw layout}, i ∈ flagPlaces start layout (bytes layout fields) →
      start ≤ i ∧ i < start + (bytes layout fields).length
  | [], _, _, _, h => nomatch h
  | type :: layout, start, i, (field, fields), h => by
    have hlen : (bytes (type :: layout) (field, fields)).length =
        (type.bytes field).length + (bytes layout fields).length := List.length_append
    by_cases hflag : type = .flag
    · subst hflag
      change i ∈ start :: flagPlaces (start + 1) layout (bytes layout fields) at h
      change _ = 1 + _ at hlen
      rcases List.mem_cons.mp h with rfl | h
      · omega
      · have := mem_flagPlaces_bounds h
        omega
    · rw [flagPlaces_of_ne field fields hflag] at h
      have := mem_flagPlaces_bounds h
      omega

/-- Mending fields changes the bytes of truth values. -/
theorem mended_canonical : ∀ {layout : List FieldType} (fields : Fields FieldType.Raw layout)
    (start : Nat), Mended start (flagPlaces start layout (bytes layout fields))
      (bytes layout fields) (bytes layout (canonical layout fields))
  | [], (), _ => fun _ => rfl
  | type :: layout, (field, fields), start => by
    by_cases hflag : type = .flag
    · subst hflag
      exact (mended_canonical fields (start + 1)).flag field
    · rw [flagPlaces_of_ne field fields hflag, canonical, FieldType.canonical_of_ne field hflag]
      exact (mended_canonical fields _).append fun i hi => (mem_flagPlaces_bounds hi).1

end Fields

namespace Frame

variable (frame : Frame)

theorem flagPlaces_bytes : flagPlaces frame.bytes =
    Fields.flagPlaces 1 frame.kind.layout (Fields.bytes frame.kind.layout frame.fields) := by
  rw [bytes, flagPlaces, catalog_eq, MessageKind.ofTag?_tag]
  rfl

theorem lt_length_of_mem_flagPlaces {i : Nat} (h : i ∈ flagPlaces frame.bytes) :
    i < frame.bytes.length := by
  rw [flagPlaces_bytes] at h
  rw [bytes, List.length_cons, Nat.add_comm]
  exact (Fields.mem_flagPlaces_bounds h).2

/-- Mending a frame changes the bytes of truth values. -/
theorem mended_canonical : Mended 0 (flagPlaces frame.bytes) frame.bytes frame.canonical.bytes := by
  have h := Fields.mended_canonical frame.fields (0 + [frame.kind.tag].length)
  rw [flagPlaces_bytes]
  exact h.append fun i hi => (Fields.mem_flagPlaces_bounds hi).1

end Frame

/-- A buffer that is decoded to a message begins with a frame, and the message is encoded as that
frame, byte for byte, but for the truth values that are neither zero nor one: these become one. So
exactly the frames without such truth values are what is encoded, and no two of them mean the same
message. -/
theorem encode_decode :
    (∀ {buffer m rest}, decode buffer = .complete (.ok m) rest →
      ∃ frame data, buffer = frame ++ rest ∧ m.encode = .ok data ∧ data.length = frame.length ∧
        (∀ i : Nat, data[i]? =
          if i ∈ flagPlaces frame then frame[i]?.map fun b => if b = 0 then 0 else 1
          else frame[i]?) ∧
        (data = frame ↔ IsCanonical frame)) ∧
    ∀ {frame frame' m}, decode frame = .complete (.ok m) [] →
      decode frame' = .complete (.ok m) [] → IsCanonical frame → IsCanonical frame' →
        frame = frame' := by
  have hencode : ∀ {frame : Frame} {m}, frame.message = .ok m → IsCanonical frame.bytes →
      m.encode = .ok frame.bytes := by
    intro frame m hmeans hcanonical
    have hsame := frame.mended_canonical.eq_iff fun i => frame.lt_length_of_mem_flagPlaces
    rw [Frame.encode_of_message hmeans, hsame.mpr hcanonical]
  constructor
  · intro buffer m rest h
    obtain ⟨frame, rfl, hmeans⟩ := exists_frame_of_decode h
    have hmended := frame.mended_canonical
    refine ⟨frame.bytes, frame.canonical.bytes, rfl, Frame.encode_of_message hmeans,
      hmended.length_eq, fun i => ?_,
      hmended.eq_iff fun i => frame.lt_length_of_mem_flagPlaces⟩
    have hi := hmended i
    rw [Nat.zero_add] at hi
    exact hi
  · intro frame frame' m h h' hcanonical hcanonical'
    obtain ⟨frame, rfl, hmeans⟩ := exists_frame_of_decode h
    obtain ⟨frame', rfl, hmeans'⟩ := exists_frame_of_decode h'
    rw [List.append_nil] at hcanonical hcanonical' ⊢
    have heq := (hencode hmeans hcanonical).symm.trans (hencode hmeans' hcanonical')
    rw [List.append_nil]
    exact Except.ok.inj heq

/-- A switch that is on with a byte other than one, before a byte of what follows: it is encoded
with a one. -/
theorem encode_decode_switch :
    let frame : List UInt8 :=
      [0x06, 0, 0, 0, 5, 0x7f, 0, 0, 0, 1] ++ [0, 2, 0x68, 0x69] ++ [0, 0] ++ [0]
    let canonical : List UInt8 :=
      [0x06, 0, 0, 0, 5, 1, 0, 0, 0, 1] ++ [0, 2, 0x68, 0x69] ++ [0, 0] ++ [0]
    let switch : Message := .binaryDevice .sensor ⟨5, 1, "hi", "", false⟩ true
    decode (frame ++ [0x02]) = .complete (.ok switch) [0x02] ∧
      (∃ data, switch.encode = .ok data ∧ data.length = 17 ∧ data[5]? = some 1 ∧ data ≠ frame) ∧
      decode canonical = .complete (.ok switch) [] ∧ IsCanonical canonical ∧
      ∀ frame', decode frame' = .complete (.ok switch) [] → IsCanonical frame' →
        frame' = canonical := by
  intro frame canonical switch
  let raw (on : UInt8) : Frame :=
    ⟨.binaryDevice .sensor, (5 : Int32), on, (1 : Int32), (⟨[0x68, 0x69], by decide⟩ : RawText),
      (⟨[], by decide⟩ : RawText), (0 : UInt8), ()⟩
  have hdecode (rest : List UInt8) : decode (frame ++ rest) = .complete (.ok switch) rest :=
    (raw 0x7f).decode_append rest
  have hdecode' (rest : List UInt8) : decode (canonical ++ rest) = .complete (.ok switch) rest :=
    (raw 1).decode_append rest
  have hcanonical : IsCanonical canonical := by decide
  obtain ⟨frame', data, heq, hdata, hlength, hplaces, hsame⟩ := encode_decode.1 (hdecode [0x02])
  obtain rfl : frame = frame' := List.append_cancel_right heq
  refine ⟨hdecode [0x02], ⟨data, hdata, hlength, ?_, ?_⟩, hdecode' [], hcanonical, ?_⟩
  · rw [hplaces]
    decide
  · rw [ne_eq, hsame]
    decide
  · intro frame' hframe' hcanonical'
    exact encode_decode.2 hframe' (hdecode' []) hcanonical' hcanonical

end Domotics
