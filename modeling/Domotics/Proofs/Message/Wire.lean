import Mathlib.Algebra.Ring.Nat
import Domotics.Message.Codec
/-!
# Reading undoes writing

A frame can be read off the front of a buffer exactly if the buffer begins with its bytes
(`Frame.readBody?_eq_some_iff`). This is shown bottom up: for numbers through their value with the
high byte first (`bigEndian`), for one field, and for the fields of a layout, whatever the layout
is.

`decode_eq_complete_iff` says the same of decoding: what it takes off a buffer is a whole frame, or
one byte that begins none, and what follows has no part in it.
-/

namespace Domotics

/-! ## Numbers as bytes -/

/-- The number that bytes write, the high byte first. -/
def bigEndian (data : List UInt8) : Nat :=
  data.foldl (fun n b => n * 256 + b.toNat) 0

/-- As many bytes that write the same number are the same. -/
theorem bigEndian_injective {data data' : List UInt8} (hlen : data.length = data'.length)
    (h : bigEndian data = bigEndian data') : data = data' := by
  suffices ∀ (data data' : List UInt8) (n n' : Nat), data.length = data'.length →
      data.foldl (fun n b => n * 256 + b.toNat) n = data'.foldl (fun n b => n * 256 + b.toNat) n' →
        n = n' ∧ data = data' from (this data data' 0 0 hlen h).2
  intro data
  induction data with
  | nil =>
    intro data' n n' hlen h
    obtain rfl := List.length_eq_zero_iff.mp hlen.symm
    exact ⟨h, rfl⟩
  | cons b data ih =>
    intro data' n n' hlen h
    obtain ⟨b', data', rfl⟩ := List.exists_cons_of_length_eq_add_one hlen.symm
    obtain ⟨hn, rfl⟩ := ih data' _ _ (Nat.succ.inj hlen) h
    change n * 256 + b.toNat = n' * 256 + b'.toNat at hn
    have := b.toNat_lt
    have := b'.toNat_lt
    have hb : b.toNat = b'.toNat := by omega
    exact ⟨by omega, by rw [UInt8.toNat_inj.mp hb]⟩

theorem byte_shiftLeft_mod (b : UInt8) {n width : Nat} (h : n + 8 ≤ width) :
    b.toNat <<< n % 2 ^ width = b.toNat <<< n := by
  refine Nat.mod_eq_of_lt ?_
  rw [Nat.shiftLeft_eq]
  calc b.toNat * 2 ^ n < 2 ^ 8 * 2 ^ n :=
        Nat.mul_lt_mul_of_pos_right b.toNat_lt (Nat.two_pow_pos n)
    _ = 2 ^ (n + 8) := by rw [← Nat.pow_add, Nat.add_comm]
    _ ≤ 2 ^ width := Nat.pow_le_pow_right (by decide) h

theorem shiftLeft_or_byte (x : Nat) (b : UInt8) {m n : Nat} (h : m = n + 8) :
    x <<< m ||| b.toNat <<< n = (x * 256 + b.toNat) <<< n := by
  rw [h, Nat.add_comm n 8, Nat.shiftLeft_add, ← Nat.shiftLeft_or_distrib,
    ← Nat.shiftLeft_add_eq_or_of_lt b.toNat_lt, Nat.shiftLeft_eq x 8]

theorem toNat_intOfBytes (a b c d : UInt8) :
    (intOfBytes a b c d).toUInt32.toNat = bigEndian [a, b, c, d] := by
  change (a.toUInt32 <<< 24 ||| b.toUInt32 <<< 16 ||| c.toUInt32 <<< 8 ||| d.toUInt32).toNat = _
  simp only [UInt32.toNat_or, UInt32.toNat_shiftLeft, UInt8.toNat_toUInt32, UInt32.reduceToNat,
    Nat.reduceMod, Nat.reduceAdd, Nat.reduceLeDiff, byte_shiftLeft_mod]
  rw [shiftLeft_or_byte _ b (rfl : 24 = 16 + 8), shiftLeft_or_byte _ c (rfl : 16 = 8 + 8),
    ← Nat.shiftLeft_add_eq_or_of_lt d.toNat_lt, Nat.shiftLeft_eq _ 8]
  simp [bigEndian]

theorem toNat_floatOfBytes (a b c d e f g h : UInt8) :
    (floatOfBytes a b c d e f g h).bits.toNat = bigEndian [a, b, c, d, e, f, g, h] := by
  simp only [floatOfBytes, UInt64.toNat_or, UInt64.toNat_shiftLeft, UInt8.toNat_toUInt64,
    UInt64.reduceToNat, Nat.reduceMod, Nat.reduceAdd, Nat.reduceLeDiff, byte_shiftLeft_mod]
  rw [shiftLeft_or_byte _ b (rfl : 56 = 48 + 8), shiftLeft_or_byte _ c (rfl : 48 = 40 + 8),
    shiftLeft_or_byte _ d (rfl : 40 = 32 + 8), shiftLeft_or_byte _ e (rfl : 32 = 24 + 8),
    shiftLeft_or_byte _ f (rfl : 24 = 16 + 8), shiftLeft_or_byte _ g (rfl : 16 = 8 + 8),
    ← Nat.shiftLeft_add_eq_or_of_lt h.toNat_lt, Nat.shiftLeft_eq _ 8]
  simp [bigEndian]

/-- One more byte of a number, after the ones above it. -/
theorem shiftRight_mul_add_mod (x : Nat) {m n : Nat} (h : m = n + 8) :
    x >>> m * 256 + x >>> n % 2 ^ 8 = x >>> n := by
  rw [h, Nat.shiftRight_add, Nat.shiftRight_eq_div_pow (x >>> n) 8]
  exact Nat.div_add_mod' (x >>> n) 256

theorem bigEndian_bytesOfInt (n : Int32) : bigEndian (bytesOfInt n) = n.toUInt32.toNat := by
  have hnone : 0 = n.toUInt32.toNat >>> 32 := (Nat.shiftRight_eq_zero _ _ n.toUInt32.toNat_lt).symm
  simp only [bigEndian, bytesOfInt, List.foldl_cons, List.foldl_nil]
  simp only [UInt32.toNat_toUInt8, UInt32.toNat_shiftRight, UInt32.reduceToNat, Nat.reduceMod]
  rw [hnone, shiftRight_mul_add_mod _ (rfl : 32 = 24 + 8),
    shiftRight_mul_add_mod _ (rfl : 24 = 16 + 8), shiftRight_mul_add_mod _ (rfl : 16 = 8 + 8)]
  exact shiftRight_mul_add_mod n.toUInt32.toNat (rfl : 8 = 0 + 8)

theorem bigEndian_bytesOfFloat (x : Binary64) : bigEndian (bytesOfFloat x) = x.bits.toNat := by
  have hnone : 0 = x.bits.toNat >>> 64 := (Nat.shiftRight_eq_zero _ _ x.bits.toNat_lt).symm
  simp only [bigEndian, bytesOfFloat, List.foldl_cons, List.foldl_nil]
  simp only [UInt64.toNat_toUInt8, UInt64.toNat_shiftRight, UInt64.reduceToNat, Nat.reduceMod]
  rw [hnone, shiftRight_mul_add_mod _ (rfl : 64 = 56 + 8),
    shiftRight_mul_add_mod _ (rfl : 56 = 48 + 8), shiftRight_mul_add_mod _ (rfl : 48 = 40 + 8),
    shiftRight_mul_add_mod _ (rfl : 40 = 32 + 8), shiftRight_mul_add_mod _ (rfl : 32 = 24 + 8),
    shiftRight_mul_add_mod _ (rfl : 24 = 16 + 8), shiftRight_mul_add_mod _ (rfl : 16 = 8 + 8)]
  exact shiftRight_mul_add_mod x.bits.toNat (rfl : 8 = 0 + 8)

theorem bigEndian_bytesOfLength {n : Nat} (h : n < textLimit) :
    bigEndian (bytesOfLength n) = n := by
  unfold textLimit at h
  simp only [bigEndian, bytesOfLength, List.foldl_cons, List.foldl_nil, UInt8.toNat_ofNat']
  omega

theorem bytesOfInt_intOfBytes (a b c d : UInt8) :
    bytesOfInt (intOfBytes a b c d) = [a, b, c, d] := by
  refine bigEndian_injective rfl ?_
  rw [bigEndian_bytesOfInt, toNat_intOfBytes]

theorem bytesOfFloat_floatOfBytes (a b c d e f g h : UInt8) :
    bytesOfFloat (floatOfBytes a b c d e f g h) = [a, b, c, d, e, f, g, h] := by
  refine bigEndian_injective rfl ?_
  rw [bigEndian_bytesOfFloat, toNat_floatOfBytes]

theorem intOfBytes_bytesOfInt (n : Int32) :
    intOfBytes (n.toUInt32 >>> 24).toUInt8 (n.toUInt32 >>> 16).toUInt8
      (n.toUInt32 >>> 8).toUInt8 n.toUInt32.toUInt8 = n := by
  refine congrArg Int32.ofUInt32 (UInt32.toNat_inj.mp ?_)
  exact (toNat_intOfBytes _ _ _ _).trans (bigEndian_bytesOfInt n)

theorem floatOfBytes_bytesOfFloat (x : Binary64) :
    floatOfBytes (x.bits >>> 56).toUInt8 (x.bits >>> 48).toUInt8 (x.bits >>> 40).toUInt8
      (x.bits >>> 32).toUInt8 (x.bits >>> 24).toUInt8 (x.bits >>> 16).toUInt8
      (x.bits >>> 8).toUInt8 x.bits.toUInt8 = x := by
  refine congrArg Binary64.mk (UInt64.toNat_inj.mp ?_)
  exact (toNat_floatOfBytes _ _ _ _ _ _ _ _).trans (bigEndian_bytesOfFloat x)

/-! ## Fields -/

theorem readText?_eq_some_iff {data rest : List UInt8} {raw : RawText} :
    readText? data = some (raw, rest) ↔
      data = bytesOfLength raw.bytes.length ++ raw.bytes ++ rest := by
  constructor
  · intro h
    rcases data with _ | ⟨high, _ | ⟨low, data⟩⟩
    · cases h
    · cases h
    simp only [readText?] at h
    split at h
    · rename_i hle
      obtain ⟨rfl, rfl⟩ := Prod.mk.inj (Option.some.inj h)
      have hlen : (data.take (high.toNat * 256 + low.toNat)).length =
          high.toNat * 256 + low.toNat := List.length_take_of_le hle
      have hbytes : bytesOfLength (high.toNat * 256 + low.toNat) = [high, low] := by
        refine bigEndian_injective rfl ?_
        rw [bigEndian_bytesOfLength]
        · simp [bigEndian]
        · rw [← hlen]
          exact length_lt_textLimit high low data
      simp only [hlen, hbytes, List.append_assoc, List.take_append_drop]
      rfl
    · cases h
  · rintro rfl
    have hlen : (UInt8.ofNat (raw.bytes.length / 256)).toNat * 256 +
        (UInt8.ofNat raw.bytes.length).toNat = raw.bytes.length := by
      have := bigEndian_bytesOfLength raw.short
      simpa [bigEndian, bytesOfLength] using this
    simp only [bytesOfLength, List.cons_append, List.nil_append, readText?, hlen,
      List.length_append, Nat.le_add_right, if_true, List.take_left', List.drop_left']

/-- A field can be read exactly if its bytes are at the front. -/
theorem FieldType.read?_eq_some_iff {data rest : List UInt8} :
    ∀ {type : FieldType} {field : type.Raw},
      type.read? data = some (field, rest) ↔ data = type.bytes field ++ rest
  | .byte, (b : UInt8) | .flag, (b : UInt8) => by
    constructor
    · intro h
      rcases data with _ | ⟨b', data⟩ <;> cases h
      rfl
    · rintro rfl
      rfl
  | .int, (n : Int32) => by
    constructor
    · intro h
      rcases data with _ | ⟨a, _ | ⟨b, _ | ⟨c, _ | ⟨d, data⟩⟩⟩⟩ <;> cases h
      change _ = bytesOfInt (intOfBytes a b c d) ++ rest
      rw [bytesOfInt_intOfBytes]
      rfl
    · rintro rfl
      exact congrArg (fun n => some (n, rest)) (intOfBytes_bytesOfInt n)
  | .float, (x : Binary64) => by
    constructor
    · intro h
      rcases data with
        _ | ⟨a, _ | ⟨b, _ | ⟨c, _ | ⟨d, _ | ⟨e, _ | ⟨f, _ | ⟨g, _ | ⟨k, data⟩⟩⟩⟩⟩⟩⟩⟩ <;>
        cases h
      change _ = bytesOfFloat (floatOfBytes a b c d e f g k) ++ rest
      rw [bytesOfFloat_floatOfBytes]
      rfl
    · rintro rfl
      exact congrArg (fun x => some (x, rest)) (floatOfBytes_bytesOfFloat x)
  | .text, (raw : RawText) => readText?_eq_some_iff

/-- The fields of a layout can be read exactly if their bytes are at the front. -/
theorem Fields.read?_eq_some_iff {rest : List UInt8} :
    ∀ {layout : List FieldType} {fields : Fields FieldType.Raw layout} {data : List UInt8},
      Fields.read? layout data = some (fields, rest) ↔ data = Fields.bytes layout fields ++ rest
  | [], (), data => by
    constructor
    · intro h
      cases h
      rfl
    · rintro rfl
      rfl
  | type :: layout, (field, fields), data => by
    constructor
    · intro h
      obtain ⟨⟨field', data'⟩, hfield, h⟩ := Option.bind_eq_some_iff.mp h
      obtain ⟨⟨fields', rest'⟩, hfields, h⟩ := Option.bind_eq_some_iff.mp h
      cases h
      rw [FieldType.read?_eq_some_iff.mp hfield, Fields.read?_eq_some_iff.mp hfields, bytes,
        List.append_assoc]
    · rintro rfl
      have hfield := FieldType.read?_eq_some_iff.mpr
        (List.append_assoc (type.bytes field) (bytes layout fields) rest)
      have hfields := Fields.read?_eq_some_iff.mpr (Eq.refl (bytes layout fields ++ rest))
      refine Option.bind_eq_some_iff.mpr ⟨_, hfield, Option.bind_eq_some_iff.mpr ⟨_, hfields, rfl⟩⟩

/-! ## Frames -/

theorem Frame.readBody?_eq_some_iff {kind : MessageKind} {data rest : List UInt8} {frame : Frame} :
    readBody? kind data = some (frame, rest) ↔
      ∃ fields, frame = ⟨kind, fields⟩ ∧ data = Fields.bytes kind.layout fields ++ rest := by
  constructor
  · intro h
    obtain ⟨⟨fields, rest'⟩, hread, h⟩ := Option.map_eq_some_iff.mp h
    cases h
    exact ⟨fields, rfl, Fields.read?_eq_some_iff.mp hread⟩
  · rintro ⟨fields, rfl, hdata⟩
    exact Option.map_eq_some_iff.mpr ⟨_, Fields.read?_eq_some_iff.mpr hdata, rfl⟩

theorem MessageKind.ofTag?_tag (kind : MessageKind) : ofTag? kind.tag = some kind := by
  rcases kind with _ | _ | _ | _ | (_ | _) | (_ | _) | _ | _ | _ | _ | _ | _ <;> rfl

theorem MessageKind.tag_of_ofTag?_eq_some {tag : UInt8} {kind : MessageKind}
    (h : ofTag? tag = some kind) : tag = kind.tag := by
  refine UInt8.toNat_inj.mp ?_
  unfold ofTag? at h
  split at h <;> cases h <;> assumption

/-- Different kinds have different tags. -/
theorem MessageKind.eq_of_tag_eq {kind kind' : MessageKind} (h : kind.tag = kind'.tag) :
    kind = kind' := by
  have hof := kind.ofTag?_tag
  rw [h, ofTag?_tag] at hof
  exact (Option.some.inj hof).symm

namespace Frame

variable {frame : Frame}

/-- A frame means the message of what its fields mean. -/
theorem message_eq_ok_iff {m : Message} : frame.message = .ok m ↔
    ∃ values, Fields.ofRaw frame.kind.layout frame.fields = .ok values ∧
      .ofFields frame.kind values = m := by
  cases h : Fields.ofRaw frame.kind.layout frame.fields <;> simp [message, h]

/-- A frame fails of what its fields fail of, and the error names the kind of the frame. -/
theorem message_eq_error_iff {e : Error} : frame.message = .error e ↔
    ∃ cause, Fields.ofRaw frame.kind.layout frame.fields = .error cause ∧
      .protocol s!"invalid UTF-8 in {frame.kind.name} message: {cause.message}" = e := by
  cases h : Fields.ofRaw frame.kind.layout frame.fields <;> simp [message, h]

end Frame

/-- What decoding takes off a buffer at once, and what it comes to. -/
inductive Piece : List UInt8 → Except Error Message → Prop
  /-- A byte that begins no frame. -/
  | stray (tag : UInt8) (unknown : MessageKind.ofTag? tag = none) :
    Piece [tag] (.error (.unknownMessageType tag))
  /-- A whole frame, whether or not its texts are UTF-8. -/
  | frame (frame : Frame) : Piece frame.bytes frame.message

/-- Decoding takes a piece off the front of a buffer exactly if it is there, whatever follows. -/
theorem decode_eq_complete_iff {buffer rest : List UInt8} {result : Except Error Message} :
    decode buffer = .complete result rest ↔
      ∃ piece, Piece piece result ∧ buffer = piece ++ rest := by
  constructor
  · intro h
    rcases buffer with _ | ⟨tag, data⟩
    · cases h
    simp only [decode] at h
    split at h
    · cases h
      exact ⟨[tag], .stray tag ‹_›, rfl⟩
    · rename_i kind hkind
      split at h
      · cases h
      · rename_i frame rest' hread
        cases h
        obtain ⟨fields, rfl, rfl⟩ := Frame.readBody?_eq_some_iff.mp hread
        refine ⟨_, .frame ⟨kind, fields⟩, ?_⟩
        rw [MessageKind.tag_of_ofTag?_eq_some hkind]
        rfl
  · rintro ⟨piece, hpiece, rfl⟩
    cases hpiece with
    | stray tag unknown => simp only [decode, List.cons_append, List.nil_append, unknown]
    | frame frame =>
      have hread := Frame.readBody?_eq_some_iff.mpr
        ⟨frame.fields, rfl, Eq.refl (Fields.bytes frame.kind.layout frame.fields ++ rest)⟩
      simp only [decode, Frame.bytes, List.cons_append, MessageKind.ofTag?_tag, hread]

end Domotics
