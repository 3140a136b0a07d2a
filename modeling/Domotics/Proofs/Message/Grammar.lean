import Domotics.Proofs.Message.Stream
import Domotics.Proofs.Text.Utf8
/-!
# The grammar of frames

What a frame is can be said without a reader: a tag, and then the fields that `catalog` lists for
it, each spelled in bytes (`Fields.Spelled`). Any bytes will do inside of a text. The bytes that
spell frames are exactly the ones that a `Frame` writes (`isFrame_iff`), and bytes from which the
fields of a layout cannot be read are the beginning of bytes that spell them
(`Fields.exists_completion`). No frame is longer than four texts of full length and the numbers
around them (`IsFrame.length_le`).

`decode_iff_grammar` puts decoding beside this grammar. A buffer is the beginning of a frame, or
begins with a byte that begins none, or begins with one frame and no other, and which of the three
it is decides what comes of it. So what `decodeAll` leaves is the beginning of a frame, and short.
-/

namespace Domotics

/-! ## Spelling -/

/-- Bytes that spell a field, and what stands in the text that they spell. -/
inductive FieldType.Spelled : FieldType → List (List UInt8) → List UInt8 → Prop
  | byte (b : UInt8) : Spelled .byte [] [b]
  | flag (b : UInt8) : Spelled .flag [] [b]
  | int (a b c d : UInt8) : Spelled .int [] [a, b, c, d]
  | float (a b c d e f g h : UInt8) : Spelled .float [] [a, b, c, d, e, f, g, h]
  | text (high low : UInt8) (body : List UInt8)
    (length : body.length = 256 * high.toNat + low.toNat) :
    Spelled .text [body] (high :: low :: body)

/-- Bytes that spell fields one after the other, and what stands in their texts. -/
inductive Fields.Spelled : List FieldType → List (List UInt8) → List UInt8 → Prop
  | nil : Spelled [] [] []
  | cons {type : FieldType} {layout : List FieldType} {texts texts' : List (List UInt8)}
    {field data : List UInt8} (first : type.Spelled texts field)
    (rest : Spelled layout texts' data) :
    Spelled (type :: layout) (texts ++ texts') (field ++ data)

/-- The fields that follow each tag, from the first tag on. -/
def catalog : List (List FieldType) :=
  [[.byte, .text, .text],
    [.text],
    [.int],
    [.int],
    [.int, .float, .int, .text, .text, .flag, .float, .float, .text, .text],
    [.int, .float, .int, .text, .text, .flag, .float, .float, .text, .text],
    [.int, .flag, .int, .text, .text, .flag],
    [.int, .flag, .int, .text, .text, .flag],
    [.int, .int, .text, .text, .flag],
    [.int, .float],
    [.int, .flag],
    [.int],
    [.int],
    [.int]]

/-- Bytes that are a frame, and what stands in its texts. -/
inductive IsFrame : List (List UInt8) → List UInt8 → Prop
  | intro {tag : UInt8} {layout : List FieldType} {texts : List (List UInt8)} {data : List UInt8}
    (listed : catalog[tag.toNat]? = some layout) (spelled : Fields.Spelled layout texts data) :
    IsFrame texts (tag :: data)

/-- Bytes that begin a frame and do not end it. -/
def Unfinished (data : List UInt8) : Prop :=
  ∃ more texts, more ≠ [] ∧ IsFrame texts (data ++ more)

/-! ## What is written is spelled -/

/-- What stands in the text of a field. -/
def FieldType.contents : (type : FieldType) → type.Raw → List (List UInt8)
  | .text, (raw : RawText) => [raw.bytes]
  | _, _ => []

/-- What stands in the texts of a layout. -/
def Fields.contents : (layout : List FieldType) → Fields FieldType.Raw layout → List (List UInt8)
  | [], _ => []
  | type :: layout, (field, fields) => type.contents field ++ Fields.contents layout fields

/-- What stands in the texts of a frame. -/
def Frame.contents (frame : Frame) : List (List UInt8) :=
  Fields.contents frame.kind.layout frame.fields

/-- The two bytes of a length are worth it. -/
theorem toNat_bytesOfLength {n : Nat} (h : n < textLimit) :
    n = 256 * (UInt8.ofNat (n / 256)).toNat + (UInt8.ofNat n).toNat := by
  unfold textLimit at h
  simp only [UInt8.toNat_ofNat']
  omega

/-- Two bytes of length suffice for what they are worth. -/
theorem lt_textLimit_of_eq {n : Nat} {high low : UInt8} (h : n = 256 * high.toNat + low.toNat) :
    n < textLimit := by
  have := high.toNat_lt
  have := low.toNat_lt
  unfold textLimit
  omega

theorem bytesOfLength_of_eq {n : Nat} {high low : UInt8} (h : n = 256 * high.toNat + low.toNat) :
    bytesOfLength n = [high, low] := by
  refine bigEndian_injective rfl ?_
  rw [bigEndian_bytesOfLength (lt_textLimit_of_eq h)]
  simp only [bigEndian, List.foldl_cons, List.foldl_nil]
  omega

namespace FieldType

/-- A field is spelled by the bytes that it writes. -/
theorem spelled_bytes : ∀ {type : FieldType} (field : type.Raw),
    type.Spelled (type.contents field) (type.bytes field)
  | .byte, (b : UInt8) => .byte b
  | .flag, (b : UInt8) => .flag b
  | .int, (_ : Int32) => .int _ _ _ _
  | .float, (_ : Binary64) => .float _ _ _ _ _ _ _ _
  | .text, (raw : RawText) => .text _ _ raw.bytes (toNat_bytesOfLength raw.short)

/-- No other bytes spell a field. -/
theorem Spelled.exists_raw {type : FieldType} {texts : List (List UInt8)} {data : List UInt8}
    (h : type.Spelled texts data) :
    ∃ field : type.Raw, type.bytes field = data ∧ type.contents field = texts := by
  cases h with
  | byte b => exact ⟨b, rfl, rfl⟩
  | flag b => exact ⟨b, rfl, rfl⟩
  | int a b c d => exact ⟨intOfBytes a b c d, bytesOfInt_intOfBytes a b c d, rfl⟩
  | float a b c d e f g h =>
    exact ⟨floatOfBytes a b c d e f g h, bytesOfFloat_floatOfBytes a b c d e f g h, rfl⟩
  | text high low body length =>
    refine ⟨(⟨body, lt_textLimit_of_eq length⟩ : RawText), ?_, rfl⟩
    simp only [bytes, bytesOfLength_of_eq length]
    rfl

end FieldType

/-- Fields are spelled by the bytes that they write. -/
theorem Fields.spelled_bytes : ∀ {layout : List FieldType} (fields : Fields FieldType.Raw layout),
    Spelled layout (contents layout fields) (bytes layout fields)
  | [], () => .nil
  | _ :: _, (field, fields) => .cons (FieldType.spelled_bytes field) (spelled_bytes fields)

/-- No other bytes spell fields. -/
theorem Fields.Spelled.exists_raw {layout : List FieldType} {texts : List (List UInt8)}
    {data : List UInt8} (h : Spelled layout texts data) :
    ∃ fields : Fields FieldType.Raw layout,
      bytes layout fields = data ∧ contents layout fields = texts := by
  induction h with
  | nil => exact ⟨(), rfl, rfl⟩
  | cons first rest ih =>
    obtain ⟨field, rfl, rfl⟩ := first.exists_raw
    obtain ⟨fields, rfl, rfl⟩ := ih
    exact ⟨(field, fields), rfl, rfl⟩

/-! ## Tags -/

theorem ofTag?_of_le {tag : UInt8} (h : 14 ≤ tag.toNat) : MessageKind.ofTag? tag = none := by
  unfold MessageKind.ofTag?
  split
  case h_15 => rfl
  all_goals omega

theorem catalog_of_lt : ∀ n < 14,
    catalog[n]? = (MessageKind.ofTag? (UInt8.ofNat n)).map MessageKind.layout := by
  decide

/-- The catalog lists what the layouts of the kinds of messages are. -/
theorem catalog_eq (tag : UInt8) :
    catalog[tag.toNat]? = (MessageKind.ofTag? tag).map MessageKind.layout := by
  by_cases h : tag.toNat < 14
  · rw [catalog_of_lt tag.toNat h, UInt8.ofNat_toNat]
  · rw [ofTag?_of_le (Nat.not_lt.mp h), List.getElem?_eq_none (Nat.not_lt.mp h)]
    rfl

/-- The bytes that stand for no kind are the ones above the last tag. -/
theorem ofTag?_eq_none_iff {tag : UInt8} : MessageKind.ofTag? tag = none ↔ 0x0d < tag := by
  have h := catalog_eq tag
  rw [UInt8.lt_iff_toNat_lt]
  change _ ↔ 0x0d < tag.toNat
  rw [← Option.map_eq_none_iff (f := MessageKind.layout), ← h, List.getElem?_eq_none_iff]
  rfl

/-- The bytes of frames, and nothing else, are frames. -/
theorem isFrame_iff {texts : List (List UInt8)} {data : List UInt8} :
    IsFrame texts data ↔ ∃ frame : Frame, frame.bytes = data ∧ frame.contents = texts := by
  constructor
  · rintro ⟨listed, spelled⟩
    rw [catalog_eq] at listed
    obtain ⟨kind, hkind, rfl⟩ := Option.map_eq_some_iff.mp listed
    obtain ⟨fields, rfl, rfl⟩ := spelled.exists_raw
    obtain rfl := MessageKind.tag_of_ofTag?_eq_some hkind
    exact ⟨⟨kind, fields⟩, rfl, rfl⟩
  · rintro ⟨frame, rfl, rfl⟩
    refine .intro ?_ (Fields.spelled_bytes frame.fields)
    rw [catalog_eq, MessageKind.ofTag?_tag]
    rfl

/-! ## Texts -/

/-- A field means something exactly if its text is UTF-8. -/
theorem FieldType.exists_ofRaw_iff : ∀ {type : FieldType} (field : type.Raw),
    (∃ value, type.ofRaw field = .ok value) ↔
      ∀ text ∈ type.contents field, text.toByteArray.IsValidUTF8
  | .byte, (_ : UInt8) | .flag, (_ : UInt8) | .int, _ | .float, _ =>
    ⟨fun _ _ h => (nomatch h), fun _ => ⟨_, rfl⟩⟩
  | .text, (raw : RawText) => by
    rw [contents, List.forall_mem_singleton]
    exact Text.exists_ofBytes_eq_ok_iff

/-- Fields mean something exactly if all their texts are UTF-8. -/
theorem Fields.exists_ofRaw_iff : ∀ {layout : List FieldType}
    (fields : Fields FieldType.Raw layout),
    (∃ values, ofRaw layout fields = .ok values) ↔
      ∀ text ∈ contents layout fields, text.toByteArray.IsValidUTF8
  | [], () => ⟨fun _ _ h => (nomatch h), fun _ => ⟨(), rfl⟩⟩
  | type :: layout, (field, fields) => by
    have hfirst := FieldType.exists_ofRaw_iff field
    have hrest := exists_ofRaw_iff fields
    rw [contents, List.forall_mem_append, ← hfirst, ← hrest, ofRaw]
    cases type.ofRaw field with
    | error e => simp [bind, Except.bind]
    | ok value =>
      cases ofRaw layout fields with
      | error e => simp [bind, Except.bind]
      | ok values => exact ⟨fun _ => ⟨⟨value, rfl⟩, values, rfl⟩, fun _ => ⟨(value, values), rfl⟩⟩

namespace Frame

variable {frame : Frame}

/-- A frame means a message exactly if all its texts are UTF-8. -/
theorem exists_message_iff :
    (∃ m, frame.message = .ok m) ↔ ∀ text ∈ frame.contents, text.toByteArray.IsValidUTF8 := by
  rw [contents, ← Fields.exists_ofRaw_iff]
  cases h : Fields.ofRaw frame.kind.layout frame.fields <;> simp [message, h]

/-- A frame that means no message breaks the protocol. -/
theorem exists_reason_iff :
    (∃ reason, frame.message = .error (.protocol reason)) ↔
      ¬ ∀ text ∈ frame.contents, text.toByteArray.IsValidUTF8 := by
  rw [contents, ← Fields.exists_ofRaw_iff]
  cases h : Fields.ofRaw frame.kind.layout frame.fields <;> simp [message, h]

/-- Nothing is wrong with the tag of a frame. -/
theorem message_ne_unknownMessageType (tag : UInt8) :
    frame.message ≠ .error (.unknownMessageType tag) := by
  unfold message
  split <;> simp

end Frame

/-! ## Beginnings -/

/-- Every field can be spelled. -/
theorem FieldType.exists_spelled : ∀ type : FieldType, ∃ texts data, type.Spelled texts data
  | .byte => ⟨_, _, .byte 0⟩
  | .flag => ⟨_, _, .flag 0⟩
  | .int => ⟨_, _, .int 0 0 0 0⟩
  | .float => ⟨_, _, .float 0 0 0 0 0 0 0 0⟩
  | .text => ⟨_, _, .text 0 0 [] rfl⟩

/-- Every layout can be spelled. -/
theorem Fields.exists_spelled : ∀ layout : List FieldType, ∃ texts data, Spelled layout texts data
  | [] => ⟨_, _, .nil⟩
  | type :: layout => by
    obtain ⟨_, _, first⟩ := type.exists_spelled
    obtain ⟨_, _, rest⟩ := exists_spelled layout
    exact ⟨_, _, .cons first rest⟩

/-- Bytes that are too few for a text are the beginning of one. -/
theorem exists_completion_of_readText? {data : List UInt8} (h : readText? data = none) :
    ∃ more texts, more ≠ [] ∧ FieldType.text.Spelled texts (data ++ more) := by
  rcases data with _ | ⟨high, _ | ⟨low, body⟩⟩
  · exact ⟨[0, 0], _, List.cons_ne_nil _ _, .text 0 0 [] rfl⟩
  · refine ⟨0 :: List.replicate (256 * high.toNat) 0, _, List.cons_ne_nil _ _,
      .text high 0 _ List.length_replicate⟩
  · simp only [readText?] at h
    have hshort : ¬ high.toNat * 256 + low.toNat ≤ body.length := by
      intro hle
      rw [if_pos hle] at h
      cases h
    refine ⟨List.replicate (256 * high.toNat + low.toNat - body.length) 0, _, ?_,
      .text high low (body ++ _) ?_⟩
    · rw [ne_eq, List.replicate_eq_nil_iff]
      omega
    · rw [List.length_append, List.length_replicate]
      omega

/-- Bytes that are too few for a field are the beginning of one. -/
theorem FieldType.exists_completion {data : List UInt8} : ∀ {type : FieldType},
    type.read? data = none → ∃ more texts, more ≠ [] ∧ type.Spelled texts (data ++ more)
  | .byte, h => by
    rcases data with _ | ⟨b, data⟩ <;> cases h
    exact ⟨[0], _, List.cons_ne_nil _ _, .byte 0⟩
  | .flag, h => by
    rcases data with _ | ⟨b, data⟩ <;> cases h
    exact ⟨[0], _, List.cons_ne_nil _ _, .flag 0⟩
  | .int, h => by
    rcases data with _ | ⟨a, _ | ⟨b, _ | ⟨c, _ | ⟨d, data⟩⟩⟩⟩ <;> cases h
    · exact ⟨[0, 0, 0, 0], _, List.cons_ne_nil _ _, .int 0 0 0 0⟩
    · exact ⟨[0, 0, 0], _, List.cons_ne_nil _ _, .int a 0 0 0⟩
    · exact ⟨[0, 0], _, List.cons_ne_nil _ _, .int a b 0 0⟩
    · exact ⟨[0], _, List.cons_ne_nil _ _, .int a b c 0⟩
  | .float, h => by
    rcases data with
      _ | ⟨a, _ | ⟨b, _ | ⟨c, _ | ⟨d, _ | ⟨e, _ | ⟨f, _ | ⟨g, _ | ⟨k, data⟩⟩⟩⟩⟩⟩⟩⟩ <;> cases h
    · exact ⟨[0, 0, 0, 0, 0, 0, 0, 0], _, List.cons_ne_nil _ _, .float 0 0 0 0 0 0 0 0⟩
    · exact ⟨[0, 0, 0, 0, 0, 0, 0], _, List.cons_ne_nil _ _, .float a 0 0 0 0 0 0 0⟩
    · exact ⟨[0, 0, 0, 0, 0, 0], _, List.cons_ne_nil _ _, .float a b 0 0 0 0 0 0⟩
    · exact ⟨[0, 0, 0, 0, 0], _, List.cons_ne_nil _ _, .float a b c 0 0 0 0 0⟩
    · exact ⟨[0, 0, 0, 0], _, List.cons_ne_nil _ _, .float a b c d 0 0 0 0⟩
    · exact ⟨[0, 0, 0], _, List.cons_ne_nil _ _, .float a b c d e 0 0 0⟩
    · exact ⟨[0, 0], _, List.cons_ne_nil _ _, .float a b c d e f 0 0⟩
    · exact ⟨[0], _, List.cons_ne_nil _ _, .float a b c d e f g 0⟩
  | .text, h => exists_completion_of_readText? h

/-- Bytes that are too few for the fields of a layout are the beginning of some. -/
theorem Fields.exists_completion : ∀ {layout : List FieldType} {data : List UInt8},
    read? layout data = none → ∃ more texts, more ≠ [] ∧ Spelled layout texts (data ++ more)
  | [], _, h => nomatch h
  | type :: layout, data, h => by
    cases hfield : type.read? data with
    | none =>
      obtain ⟨more, texts, hmore, hfirst⟩ := FieldType.exists_completion hfield
      obtain ⟨texts', rest, hrest⟩ := exists_spelled layout
      refine ⟨more ++ rest, texts ++ texts', List.append_ne_nil_of_left_ne_nil hmore rest, ?_⟩
      rw [← List.append_assoc]
      exact .cons hfirst hrest
    | some read =>
      obtain ⟨field, data'⟩ := read
      have hrest : read? layout data' = none := by
        cases hfields : read? layout data' with
        | none => rfl
        | some read => simp [read?, hfield, hfields] at h
      obtain ⟨more, texts, hmore, hspelled⟩ := exists_completion hrest
      refine ⟨more, type.contents field ++ texts, hmore, ?_⟩
      rw [FieldType.read?_eq_some_iff.mp hfield, List.append_assoc]
      exact .cons (FieldType.spelled_bytes field) hspelled

/-- What cannot be decoded yet is the beginning of a frame. -/
theorem unfinished_of_decode {buffer : List UInt8} (h : decode buffer = .incomplete) :
    Unfinished buffer := by
  rcases buffer with _ | ⟨tag, data⟩
  · exact ⟨[0x02, 0, 0, 0, 0], [], List.cons_ne_nil _ _,
      .intro rfl (.cons (.int 0 0 0 0) .nil)⟩
  · simp only [decode] at h
    split at h
    · cases h
    · rename_i kind hkind
      split at h
      · rename_i hread
        have hfields := Option.map_eq_none_iff.mp hread
        obtain ⟨more, texts, hmore, hspelled⟩ := Fields.exists_completion hfields
        refine ⟨more, texts, hmore, .intro ?_ hspelled⟩
        rw [catalog_eq, hkind]
        rfl
      · cases h

/-- A frame and what follows it are decoded to the frame's message and what follows it. -/
theorem Frame.decode_append (frame : Frame) (rest : List UInt8) :
    decode (frame.bytes ++ rest) = .complete frame.message rest :=
  (Piece.frame frame).decode_append rest

/-- Only a frame is decoded to a message, and it is the one that means it. -/
theorem exists_frame_of_decode {buffer rest : List UInt8} {m : Message}
    (h : decode buffer = .complete (.ok m) rest) :
    ∃ frame : Frame, buffer = frame.bytes ++ rest ∧ frame.message = .ok m := by
  obtain ⟨piece, hpiece, rfl⟩ := decode_eq_complete_iff.mp h
  generalize hresult : Except.ok m = result at hpiece
  cases hpiece with
  | stray tag unknown => cases hresult
  | frame frame => exact ⟨frame, rfl, rfl⟩

/-- The beginning of a frame has to wait for its end. -/
theorem Unfinished.decode_eq {buffer : List UInt8} (h : Unfinished buffer) :
    decode buffer = .incomplete := by
  obtain ⟨more, texts, hmore, hframe⟩ := h
  obtain ⟨frame, hbytes, -⟩ := isFrame_iff.mp hframe
  cases hd : decode buffer with
  | incomplete => rfl
  | complete result rest =>
    obtain ⟨piece, hpiece, rfl⟩ := decode_eq_complete_iff.mp hd
    have hlong := hpiece.decode_append (rest ++ more)
    rw [← List.append_assoc, ← hbytes, ← List.append_nil frame.bytes, frame.decode_append] at hlong
    injection hlong with _ hnil
    exact absurd (List.append_eq_nil_iff.mp hnil.symm).2 hmore

/-! ## How long a frame is -/

/-- The most bytes that spell a field. -/
def FieldType.capacity : FieldType → Nat
  | .byte | .flag => 1
  | .int => 4
  | .float => 8
  | .text => 2 + 65535

theorem FieldType.Spelled.length_le {type : FieldType} {texts : List (List UInt8)}
    {data : List UInt8} (h : type.Spelled texts data) : data.length ≤ type.capacity := by
  cases h with
  | byte | flag | int | float => exact Nat.le_refl _
  | text high low body length =>
    have := high.toNat_lt
    have := low.toNat_lt
    simp only [List.length_cons, capacity]
    omega

theorem Fields.Spelled.length_le {layout : List FieldType} {texts : List (List UInt8)}
    {data : List UInt8} (h : Spelled layout texts data) :
    data.length ≤ (layout.map FieldType.capacity).sum := by
  induction h with
  | nil => exact Nat.le_refl _
  | cons first rest ih =>
    rw [List.length_append, List.map_cons, List.sum_cons]
    exact Nat.add_le_add first.length_le ih

theorem capacity_of_mem_catalog : ∀ layout ∈ catalog,
    (layout.map FieldType.capacity).sum ≤ 262181 := by
  decide

/-- A frame has its tag and at most this many bytes after it. -/
theorem IsFrame.length_le {texts : List (List UInt8)} {data : List UInt8}
    (h : IsFrame texts data) : data.length ≤ 262182 := by
  obtain ⟨listed, spelled⟩ := h
  have hcapacity := capacity_of_mem_catalog _ (List.mem_of_getElem? listed)
  exact Nat.succ_le_succ (Nat.le_trans spelled.length_le hcapacity)

theorem Unfinished.length_le {data : List UInt8} (h : Unfinished data) :
    data.length ≤ 262181 := by
  obtain ⟨more, texts, hmore, hframe⟩ := h
  have hlong := hframe.length_le
  have := List.length_pos_of_ne_nil hmore
  rw [List.length_append] at hlong
  omega

/-! ## Decoding by the grammar -/

/-- No two frames begin the same buffer. -/
theorem Frame.eq_of_append_eq {frame frame' : Frame} {rest rest' : List UInt8}
    (h : frame.bytes ++ rest = frame'.bytes ++ rest') : frame = frame' := by
  injection h with htag hdata
  have hkind : frame.kind = frame'.kind := MessageKind.eq_of_tag_eq htag
  obtain ⟨kind, fields⟩ := frame
  obtain ⟨kind', fields'⟩ := frame'
  obtain rfl : kind = kind' := hkind
  have hread := Fields.read?_eq_some_iff.mpr (Eq.refl (Fields.bytes kind.layout fields ++ rest))
  have hread' := hread.symm.trans (Fields.read?_eq_some_iff.mpr hdata)
  cases hread'
  rfl

namespace Reading

variable {buffer left : List UInt8} {pieces : List (List UInt8)}
  {results : List (Except Error Message)}

/-- What a reading leaves cannot be decoded yet. -/
theorem decode_left (h : Reading buffer pieces results left) : decode left = .incomplete := by
  induction h with
  | stop h => exact h
  | take first rest ih => exact ih

/-- Each result of a reading takes a byte or more. -/
theorem length_results_le (h : Reading buffer pieces results left) :
    results.length ≤ buffer.length := by
  induction h with
  | stop h => exact Nat.zero_le _
  | take first rest ih =>
    have := first.length_pos
    rw [List.length_append, List.length_cons]
    omega

end Reading

/-- Exactly a byte above the last tag is refused for what it is, and it alone. -/
theorem decode_eq_unknownMessageType_iff {buffer rest : List UInt8} {tag : UInt8} :
    decode buffer = .complete (.error (.unknownMessageType tag)) rest ↔
      buffer = tag :: rest ∧ 0x0d < tag := by
  constructor
  · intro h
    obtain ⟨piece, hpiece, rfl⟩ := decode_eq_complete_iff.mp h
    generalize hresult : Except.error (Error.unknownMessageType tag) = result at hpiece
    cases hpiece with
    | stray tag' unknown =>
      cases hresult
      exact ⟨rfl, ofTag?_eq_none_iff.mp unknown⟩
    | frame frame => exact absurd hresult.symm (frame.message_ne_unknownMessageType tag)
  · rintro ⟨rfl, htag⟩
    exact (Piece.stray tag (ofTag?_eq_none_iff.mpr htag)).decode_append rest

/-- A buffer is the beginning of a frame, and then nothing of it is decoded yet; or its first byte
is above the last tag, and that byte alone is refused; or it begins with a frame, and with no other
one, which is decoded to a message if all its texts are UTF-8 and breaks the protocol otherwise.
Decoding all of a buffer takes no more steps than it has bytes, and leaves the beginning of a
frame. -/
theorem decode_iff_grammar (buffer : List UInt8) :
    (decode buffer = .incomplete ↔ Unfinished buffer) ∧
    (∀ tag rest, decode buffer = .complete (.error (.unknownMessageType tag)) rest ↔
      buffer = tag :: rest ∧ 0x0d < tag) ∧
    (Unfinished buffer ∨ (∃ tag rest, buffer = tag :: rest ∧ 0x0d < tag) ∨
      ∃ texts frame rest, buffer = frame ++ rest ∧ IsFrame texts frame ∧
        (∀ texts' frame', frame' <+: buffer → IsFrame texts' frame' →
          texts' = texts ∧ frame' = frame) ∧
        ((∃ m, decode buffer = .complete (.ok m) rest) ↔
          ∀ text ∈ texts, text.toByteArray.IsValidUTF8) ∧
        ((∃ reason, decode buffer = .complete (.error (.protocol reason)) rest) ↔
          ¬ ∀ text ∈ texts, text.toByteArray.IsValidUTF8)) ∧
    (∀ steps, buffer.length ≤ steps → decodeWithin [] steps buffer = decodeAll buffer) ∧
    (decodeAll buffer).1.length ≤ buffer.length ∧
    Unfinished (decodeAll buffer).2 ∧ (decodeAll buffer).2.length ≤ 262181 := by
  obtain ⟨pieces, results, left, hreading⟩ := Reading.exists_of buffer
  have hleft := unfinished_of_decode hreading.decode_left
  refine ⟨⟨unfinished_of_decode, Unfinished.decode_eq⟩,
    fun tag rest => decode_eq_unknownMessageType_iff, ?_, ?_, ?_⟩
  · cases hd : decode buffer with
    | incomplete => exact Or.inl (unfinished_of_decode hd)
    | complete result rest =>
      obtain ⟨piece, hpiece, rfl⟩ := decode_eq_complete_iff.mp hd
      cases hpiece with
      | stray tag unknown =>
        exact Or.inr (Or.inl ⟨tag, rest, rfl, ofTag?_eq_none_iff.mp unknown⟩)
      | frame frame =>
        refine Or.inr (Or.inr ⟨frame.contents, frame.bytes, rest, rfl,
          isFrame_iff.mpr ⟨frame, rfl, rfl⟩, ?_, ?_, ?_⟩)
        · rintro texts' frame' ⟨rest', hprefix⟩ hframe'
          obtain ⟨frame', rfl, rfl⟩ := isFrame_iff.mp hframe'
          rw [Frame.eq_of_append_eq hprefix]
          exact ⟨rfl, rfl⟩
        · simp only [Decoding.complete.injEq, and_true]
          exact Frame.exists_message_iff
        · simp only [Decoding.complete.injEq, and_true]
          exact Frame.exists_reason_iff
  · intro steps hsteps
    rw [hreading.decodeAll_eq]
    exact hreading.decodeWithin_eq steps [] hsteps
  · rw [hreading.decodeAll_eq]
    exact ⟨hreading.length_results_le, hleft, hleft.length_le⟩

end Domotics
