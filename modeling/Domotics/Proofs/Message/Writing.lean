import Domotics.Proofs.Message.Grammar
import Domotics.Proofs.Message.RoundTrip
/-!
# Encoding onto a buffer

The fields of a message are written at the end of a buffer one after the other, so a text that is
too long is noticed when the fields before it are written already. Whatever was written stands after
what the buffer held (`Fields.writeOnto_cases`), so cutting the buffer to its old length takes all
of it off again, and encoding onto a buffer comes to appending a frame or nothing
(`Message.encodeOnto_eq`).

What encoding fails of is the first text that does not fit (`TooLong`). `Message.encodeOnto_atomic`
puts the two together, and says what is left of messages that are encoded onto one buffer one after
the other.
-/

namespace Domotics

/-! ## The first that is wrong -/

/-- Going through a list, one comes to something wrong, and everything before it is sound. -/
inductive FirstWrong {α ε : Type} (sound : α → Prop) (wrong : α → ε → Prop) : List α → ε → Prop
  | here {x : α} {xs : List α} {e : ε} (h : wrong x e) : FirstWrong sound wrong (x :: xs) e
  | there {x : α} {xs : List α} {e : ε} (h : sound x) (later : FirstWrong sound wrong xs e) :
    FirstWrong sound wrong (x :: xs) e

namespace FirstWrong

variable {α ε : Type} {sound : α → Prop} {wrong : α → ε → Prop} {x : α} {xs ys : List α} {e : ε}

theorem not_nil : ¬ FirstWrong sound wrong [] e := fun h => nomatch h

theorem singleton_iff : FirstWrong sound wrong [x] e ↔ wrong x e := by
  constructor
  · intro h
    cases h with
    | here h => exact h
    | there h later => exact absurd later not_nil
  · exact .here

theorem append_iff : FirstWrong sound wrong (xs ++ ys) e ↔
    FirstWrong sound wrong xs e ∨ (∀ x ∈ xs, sound x) ∧ FirstWrong sound wrong ys e := by
  induction xs with
  | nil =>
    constructor
    · exact fun h => Or.inr ⟨fun _ hx => (nomatch hx), h⟩
    · exact fun h => (h.resolve_left not_nil).2
  | cons x xs ih =>
    constructor
    · intro h
      cases h with
      | here h => exact Or.inl (.here h)
      | there h later =>
        rcases ih.mp later with later | ⟨hsound, later⟩
        · exact Or.inl (.there h later)
        · exact Or.inr ⟨List.forall_mem_cons.mpr ⟨h, hsound⟩, later⟩
    · rintro (h | ⟨hsound, later⟩)
      · cases h with
        | here h => exact .here h
        | there h later => exact .there h (ih.mpr (Or.inl later))
      · obtain ⟨h, hsound⟩ := List.forall_mem_cons.mp hsound
        exact .there h (ih.mpr (Or.inr ⟨hsound, later⟩))

theorem exists_mem (h : FirstWrong sound wrong xs e) : ∃ x ∈ xs, wrong x e := by
  induction h with
  | here h => exact ⟨_, List.mem_cons_self, h⟩
  | there h later ih =>
    obtain ⟨x, hx, hwrong⟩ := ih
    exact ⟨x, List.mem_cons_of_mem _ hx, hwrong⟩

/-- Where everything is sound or wrong, all is sound or something is the first that is wrong. -/
theorem forall_or_exists (h : ∀ x, sound x ∨ ∃ e, wrong x e) :
    ∀ xs : List α, (∀ x ∈ xs, sound x) ∨ ∃ e, FirstWrong sound wrong xs e
  | [] => Or.inl fun _ hx => nomatch hx
  | x :: xs => by
    rcases h x with hx | ⟨e, hx⟩
    · rcases forall_or_exists h xs with hxs | ⟨e, hxs⟩
      · exact Or.inl (List.forall_mem_cons.mpr ⟨hx, hxs⟩)
      · exact Or.inr ⟨e, .there hx hxs⟩
    · exact Or.inr ⟨e, .here hx⟩

end FirstWrong

/-- Two results together fail as the first one does, or as the second one does if the first one is
there. -/
theorem pair_eq_error_iff {ε α β : Type} {first : Except ε α} {second : Except ε β} {e : ε} :
    (do let a ← first; let b ← second; return (a, b) : Except ε (α × β)) = .error e ↔
      first = .error e ∨ (∃ a, first = .ok a) ∧ second = .error e := by
  cases first <;> cases second <;> simp [bind, Except.bind, pure, Except.pure]

/-- Of texts, in order, one is the first that is too long for the wire, and the error says how many
bytes it has. -/
def TooLong (texts : List String) (e : Error) : Prop :=
  FirstWrong (fun text => text.utf8ByteSize ≤ 65535)
    (fun text e => 65535 < text.utf8ByteSize ∧ e = .textTooLong text.utf8ByteSize) texts e

theorem fit_or_tooLong (texts : List String) :
    (∀ text ∈ texts, text.utf8ByteSize ≤ 65535) ∨ ∃ e, TooLong texts e :=
  FirstWrong.forall_or_exists (fun text =>
    (Nat.lt_or_ge 65535 text.utf8ByteSize).symm.imp_right fun long => ⟨_, long, rfl⟩) texts

/-! ## Fields -/

/-- A field can be written down exactly if its text fits. -/
theorem FieldType.exists_toRaw_iff : ∀ {type : FieldType} {value : type.Value},
    (∃ field, type.toRaw value = .ok field) ↔
      ∀ text ∈ type.texts value, text.utf8ByteSize ≤ 65535
  | .byte, (_ : UInt8) | .flag, (_ : Bool) | .int, _ | .float, _ =>
    ⟨fun _ _ h => (nomatch h), fun _ => ⟨_, rfl⟩⟩
  | .text, (value : String) => by
    rw [texts, List.forall_mem_singleton, ← Text.length_bytes]
    by_cases short : (Text.bytes value).length < textLimit
    · simp only [toRaw, dif_pos short]
      exact ⟨fun _ => Nat.le_of_lt_succ short, fun _ => ⟨_, rfl⟩⟩
    · simp only [toRaw, dif_neg short]
      constructor
      · rintro ⟨field, hfield⟩
        cases hfield
      · exact fun fits => absurd (Nat.lt_succ_of_le fits) short

theorem FieldType.toRaw_eq_error_iff : ∀ {type : FieldType} {value : type.Value} {e : Error},
    type.toRaw value = .error e ↔ TooLong (type.texts value) e
  | .byte, (_ : UInt8), _ | .flag, (_ : Bool), _ | .int, _, _ | .float, _, _ =>
    ⟨fun h => (nomatch h), fun h => absurd h FirstWrong.not_nil⟩
  | .text, (value : String), e => by
    rw [texts, TooLong, FirstWrong.singleton_iff, ← Text.length_bytes]
    by_cases short : (Text.bytes value).length < textLimit
    · simp only [toRaw, dif_pos short]
      constructor
      · intro h
        cases h
      · rintro ⟨long, -⟩
        exact absurd short (Nat.not_lt.mpr long)
    · simp only [toRaw, dif_neg short]
      constructor
      · exact fun h => ⟨Nat.not_lt.mp short, (Except.error.inj h).symm⟩
      · rintro ⟨-, rfl⟩
        rfl

/-- Fields cannot be written down exactly if there is a text that is too long, and the first such
text decides the failure. -/
theorem Fields.toRaw_eq_error_iff : ∀ {layout : List FieldType}
    {values : Fields FieldType.Value layout} {e : Error},
    toRaw layout values = .error e ↔ TooLong (texts layout values) e
  | [], (), _ => ⟨fun h => (nomatch h), fun h => absurd h FirstWrong.not_nil⟩
  | type :: layout, (value, values), e => by
    refine Iff.trans pair_eq_error_iff ?_
    rw [FieldType.toRaw_eq_error_iff, FieldType.exists_toRaw_iff, toRaw_eq_error_iff]
    exact FirstWrong.append_iff.symm

/-- Fields that are written onto a buffer are written after what it holds, and this fails of what
writing them down fails of. -/
theorem Fields.writeOnto_cases : ∀ {layout : List FieldType}
    (values : Fields FieldType.Value layout),
    (∃ fields, toRaw layout values = .ok fields ∧
      ∀ buffer, writeOnto buffer layout values = (.ok (), buffer ++ bytes layout fields)) ∨
    ∃ e written, toRaw layout values = .error e ∧
      ∀ buffer, writeOnto buffer layout values = (.error e, buffer ++ written)
  | [], () => Or.inl ⟨(), rfl, fun buffer => by simp only [writeOnto, bytes, List.append_nil]⟩
  | type :: layout, (value, values) => by
    cases hfield : type.toRaw value with
    | error e =>
      refine Or.inr ⟨e, [], ?_, fun buffer => ?_⟩
      · rw [toRaw, hfield]
        rfl
      · simp only [writeOnto, hfield, List.append_nil]
    | ok field =>
      rcases writeOnto_cases values with ⟨fields, hfields, hwritten⟩ | ⟨e, written, he, hwritten⟩
      · refine Or.inl ⟨(field, fields), ?_, fun buffer => ?_⟩
        · rw [toRaw, hfield, hfields]
          rfl
        · simp only [writeOnto, hfield, hwritten, bytes, List.append_assoc]
      · refine Or.inr ⟨e, type.bytes field ++ written, ?_, fun buffer => ?_⟩
        · rw [toRaw, hfield, he]
          rfl
        · simp only [writeOnto, hfield, hwritten, List.append_assoc]

/-- What stands in the text of a field that means something are the bytes of its text. -/
theorem FieldType.contents_of_ofRaw : ∀ {type : FieldType} {field : type.Raw} {value : type.Value},
    type.ofRaw field = .ok value → type.contents field = (type.texts value).map Text.bytes
  | .byte, _, _, _ | .flag, _, _, _ | .int, _, _, _ | .float, _, _, _ => rfl
  | .text, (raw : RawText), (value : String), h => by
    rw [contents, texts, List.map_singleton, Text.bytes_of_ofBytes h]

theorem Fields.contents_of_ofRaw : ∀ {layout : List FieldType}
    {fields : Fields FieldType.Raw layout} {values : Fields FieldType.Value layout},
    ofRaw layout fields = .ok values →
      contents layout fields = (texts layout values).map Text.bytes
  | [], _, _, _ => rfl
  | type :: layout, (field, fields), values, h => by
    obtain ⟨value, hfield, h⟩ := bind_eq_ok_iff.mp h
    obtain ⟨values, hfields, h⟩ := bind_eq_ok_iff.mp h
    cases h
    rw [contents, texts, List.map_append, FieldType.contents_of_ofRaw hfield,
      contents_of_ofRaw hfields]

/-! ## Messages -/

namespace Message

variable {m : Message}

theorem texts_ofFields (kind : MessageKind) (values : Fields FieldType.Value kind.layout) :
    (ofFields kind values).texts = Fields.texts kind.layout values := by
  cases kind <;> rfl

/-- Encoding fails exactly if a text is too long, and of the first one that is. -/
theorem encode_eq_error_iff {e : Error} : m.encode = .error e ↔ TooLong m.texts e := by
  rw [← texts_fields, ← Fields.toRaw_eq_error_iff, encode, frame]
  cases Fields.toRaw m.kind.layout m.fields <;> simp [Except.map]

/-- Encoding a message onto a buffer appends its frame or changes nothing. -/
theorem encodeOnto_eq (m : Message) (buffer : List UInt8) :
    m.encodeOnto buffer =
      match m.encode with
      | .ok frame => (.ok (), buffer ++ frame)
      | .error e => (.error e, buffer) := by
  rcases Fields.writeOnto_cases m.fields with ⟨fields, hraw, hwritten⟩ | ⟨e, written, he, hwritten⟩
  · have hencode : m.encode = .ok (Frame.mk m.kind fields).bytes := by
      rw [encode, frame, hraw]
      rfl
    simp only [encodeOnto, hwritten, hencode, List.append_assoc]
    rfl
  · have hencode : m.encode = .error e := by
      rw [encode, frame, he]
      rfl
    simp only [encodeOnto, hwritten, hencode, List.append_assoc, List.take_left]

end Message

/-- What is decoded to a message is a frame that has the texts of the message. -/
theorem isFrame_of_decode {frame : List UInt8} {m : Message}
    (h : decode frame = .complete (.ok m) []) : IsFrame (m.texts.map Text.bytes) frame := by
  obtain ⟨raw, rfl, hmeans⟩ := exists_frame_of_decode h
  refine isFrame_iff.mpr ⟨raw, (List.append_nil _).symm, ?_⟩
  obtain ⟨values, hvalues, rfl⟩ := Frame.message_eq_ok_iff.mp hmeans
  rw [Message.texts_ofFields, Frame.contents, Fields.contents_of_ofRaw hvalues]

namespace Message

/-- A message that fits is encoded, and what is encoded is decoded to it; of any other message, some
text is the first that is too long. -/
theorem encode_cases (m : Message) :
    (∃ frame, m.encode = .ok frame ∧ m.Fits ∧ decode frame = .complete (.ok m) []) ∨
    ∃ e, m.encode = .error e ∧ TooLong m.texts e := by
  rcases fit_or_tooLong m.texts with fits | ⟨e, hlong⟩
  · obtain ⟨frame, hframe, hpiece⟩ := Fits.exists_piece fits
    have hdecode := hpiece.decode_append []
    rw [List.append_nil] at hdecode
    exact Or.inl ⟨frame, hframe, fits, hdecode⟩
  · exact Or.inr ⟨e, encode_eq_error_iff.mpr hlong, hlong⟩

/-- Encoding messages onto a buffer, one after the other, appends the frames there are. -/
theorem foldl_encodeOnto (messages : List Message) : ∀ buffer : List UInt8,
    messages.foldl (fun buffer m => (m.encodeOnto buffer).2) buffer =
      buffer ++ (messages.filterMap fun m => m.encode.toOption).flatten := by
  induction messages with
  | nil =>
    intro buffer
    exact (List.append_nil buffer).symm
  | cons m messages ih =>
    intro buffer
    rw [List.foldl_cons, ih, encodeOnto_eq]
    cases hm : m.encode with
    | ok frame =>
      rw [List.filterMap_cons_some (by rw [hm]; rfl), List.flatten_cons, List.append_assoc]
    | error e => rw [List.filterMap_cons_none (by rw [hm]; rfl)]

/-- Encoding a message onto a buffer fails exactly if one of its texts is too long. The error is
about the first such text then, and the buffer stays as it was. Otherwise a frame is appended that
has the texts of the message and is decoded to it, and it does not depend on the buffer. So messages
that are encoded one after the other leave, after what the buffer held, the frames of those that
have one. -/
theorem encodeOnto_atomic :
    (∀ (m : Message) (buffer : List UInt8), (∃ e, (m.encodeOnto buffer).1 = .error e) ↔
      ∃ text ∈ m.texts, 65535 < text.utf8ByteSize) ∧
    (∀ m : Message,
      (∃ frame, m.encode = .ok frame ∧ IsFrame (m.texts.map Text.bytes) frame ∧
        decode frame = .complete (.ok m) [] ∧
        ∀ buffer, m.encodeOnto buffer = (.ok (), buffer ++ frame)) ∨
      ∃ e, m.encode = .error e ∧ TooLong m.texts e ∧
        ∀ buffer, m.encodeOnto buffer = (.error e, buffer)) ∧
    ∀ (messages : List Message) (buffer : List UInt8),
      messages.foldl (fun buffer m => (m.encodeOnto buffer).2) buffer =
        buffer ++ (messages.filterMap fun m => m.encode.toOption).flatten := by
  refine ⟨fun m buffer => ?_, fun m => ?_, foldl_encodeOnto⟩
  · rcases m.encode_cases with ⟨frame, hframe, fits, -⟩ | ⟨e, he, hlong⟩
    · simp only [encodeOnto_eq, hframe]
      constructor
      · rintro ⟨e, he⟩
        cases he
      · rintro ⟨text, hmem, hlong⟩
        exact absurd hlong (Nat.not_lt.mpr (fits text hmem))
    · simp only [encodeOnto_eq, he]
      obtain ⟨text, hmem, long, -⟩ := hlong.exists_mem
      exact ⟨fun _ => ⟨text, hmem, long⟩, fun _ => ⟨e, rfl⟩⟩
  · rcases m.encode_cases with ⟨frame, hframe, -, hdecode⟩ | ⟨e, he, hlong⟩
    · refine Or.inl ⟨frame, hframe, isFrame_of_decode hdecode, hdecode, fun buffer => ?_⟩
      simp only [encodeOnto_eq, hframe]
    · refine Or.inr ⟨e, he, hlong, fun buffer => ?_⟩
      simp only [encodeOnto_eq, he]

end Message

end Domotics
