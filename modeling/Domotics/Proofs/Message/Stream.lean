import Mathlib.Data.List.Forall2
import Domotics.Proofs.Message.Wire
/-!
# Streams in chunks

The bytes of a connection arrive in chunks that are cut anywhere. An `Intake` appends each chunk to
the bytes that are left, decodes what is complete and keeps the rest.

What it makes of a stream does not depend on the cuts. `Reading` says, without a buffer and without
steps, what a stream comes to: pieces one after the other, and at the end something incomplete. It
determines what `decodeAll` does (`Reading.decodeAll_eq`), every stream has one
(`Reading.exists_of`), and the reading of a longer stream continues the one of its beginning
(`Reading.append`), because a piece is a piece whatever follows it.
-/

namespace Domotics

/-! ## What is taken off a buffer -/

/-- The bytes that each of up to `steps` results takes off a buffer. -/
def takenWithin : Nat → List UInt8 → List (List UInt8)
  | 0, _ => []
  | steps + 1, buffer =>
    match decode buffer with
    | .incomplete => []
    | .complete _ rest => buffer.take (buffer.length - rest.length) :: takenWithin steps rest

/-- The bytes that each result of `decodeAll` takes off a buffer. -/
def taken (buffer : List UInt8) : List (List UInt8) :=
  takenWithin buffer.length buffer

/-! ## Readings -/

/-- A stream is pieces with their results, and then bytes that are left. -/
inductive Reading :
    List UInt8 → List (List UInt8) → List (Except Error Message) → List UInt8 → Prop
  | stop {left : List UInt8} (h : decode left = .incomplete) : Reading left [] [] left
  | take {piece buffer left : List UInt8} {result : Except Error Message}
    {pieces : List (List UInt8)} {results : List (Except Error Message)}
    (first : Piece piece result) (rest : Reading buffer pieces results left) :
    Reading (piece ++ buffer) (piece :: pieces) (result :: results) left

theorem Piece.length_pos {piece : List UInt8} {result : Except Error Message}
    (h : Piece piece result) : 0 < piece.length := by
  cases h with
  | stray tag unknown => exact Nat.zero_lt_one
  | frame frame => exact Nat.zero_lt_succ _

theorem Piece.decode_append {piece : List UInt8} {result : Except Error Message}
    (h : Piece piece result) (rest : List UInt8) : decode (piece ++ rest) = .complete result rest :=
  decode_eq_complete_iff.mpr ⟨piece, h, rfl⟩

namespace Reading

variable {buffer left : List UInt8} {pieces : List (List UInt8)}
  {results : List (Except Error Message)}

/-- Every stream has a reading. -/
theorem exists_of (buffer : List UInt8) :
    ∃ pieces results left, Reading buffer pieces results left := by
  induction hn : buffer.length using Nat.strongRecOn generalizing buffer with
  | ind n ih =>
    cases hd : decode buffer with
    | incomplete => exact ⟨[], [], buffer, .stop hd⟩
    | complete result rest =>
      obtain ⟨piece, hpiece, rfl⟩ := decode_eq_complete_iff.mp hd
      have hlt : rest.length < n := by
        have := hpiece.length_pos
        rw [List.length_append] at hn
        omega
      obtain ⟨pieces, results, left, hrest⟩ := ih rest.length hlt rest rfl
      exact ⟨piece :: pieces, result :: results, left, .take hpiece hrest⟩

/-- Enough steps find the results of the reading and what is left. -/
theorem decodeWithin_eq (h : Reading buffer pieces results left) :
    ∀ (steps : Nat) (done : List (Except Error Message)), buffer.length ≤ steps →
      decodeWithin done steps buffer = (done.reverse ++ results, left) := by
  induction h with
  | @stop left h =>
    intro steps done _
    rw [List.append_nil]
    cases steps with
    | zero => rfl
    | succ steps => simp only [decodeWithin, h]
  | @take piece buffer left result pieces results first rest ih =>
    intro steps done hle
    have := first.length_pos
    rw [List.length_append] at hle
    obtain ⟨steps, rfl⟩ := Nat.exists_eq_add_of_le' (show 1 ≤ steps by omega)
    simp only [decodeWithin, first.decode_append]
    rw [ih steps (result :: done) (by omega), List.reverse_cons, List.append_assoc]
    rfl

/-- Enough steps take the pieces of the reading. -/
theorem takenWithin_eq (h : Reading buffer pieces results left) :
    ∀ steps : Nat, buffer.length ≤ steps → takenWithin steps buffer = pieces := by
  induction h with
  | stop h =>
    intro steps _
    cases steps with
    | zero => rfl
    | succ steps => simp only [takenWithin, h]
  | @take piece buffer left result pieces results first rest ih =>
    intro steps hle
    have := first.length_pos
    rw [List.length_append] at hle
    obtain ⟨steps, rfl⟩ := Nat.exists_eq_add_of_le' (show 1 ≤ steps by omega)
    have hfirst : (piece ++ buffer).take ((piece ++ buffer).length - buffer.length) = piece := by
      rw [List.length_append, Nat.add_sub_cancel, List.take_left]
    simp only [takenWithin, first.decode_append]
    rw [ih steps (by omega), hfirst]

theorem decodeAll_eq (h : Reading buffer pieces results left) :
    decodeAll buffer = (results, left) :=
  h.decodeWithin_eq buffer.length [] (Nat.le_refl _)

theorem taken_eq (h : Reading buffer pieces results left) : taken buffer = pieces :=
  h.takenWithin_eq buffer.length (Nat.le_refl _)

/-- The pieces and what is left are the stream. -/
theorem flatten_append (h : Reading buffer pieces results left) :
    pieces.flatten ++ left = buffer := by
  induction h with
  | stop h => rfl
  | take first rest ih => rw [List.flatten_cons, List.append_assoc, ih]

theorem forall₂_piece (h : Reading buffer pieces results left) :
    List.Forall₂ Piece pieces results := by
  induction h with
  | stop h => exact .nil
  | take first rest ih => exact .cons first ih

/-- The reading of a longer stream goes on where the one of its beginning stops. -/
theorem append (h : Reading buffer pieces results left) {more left' : List UInt8}
    {pieces' : List (List UInt8)} {results' : List (Except Error Message)}
    (h' : Reading (left ++ more) pieces' results' left') :
    Reading (buffer ++ more) (pieces ++ pieces') (results ++ results') left' := by
  induction h with
  | stop h => exact h'
  | take first rest ih =>
    rw [List.append_assoc]
    exact .take first (ih h')

end Reading

/-! ## Chunks -/

/-- What has arrived on a connection: what was decoded, the bytes that each result took, and the
bytes that are left. -/
structure Intake where
  results : List (Except Error Message)
  taken : List (List UInt8)
  left : List UInt8

namespace Intake

/-- Nothing has arrived. -/
def start : Intake :=
  ⟨[], [], []⟩

/-- Takes a chunk in. -/
def receive (intake : Intake) (chunk : List UInt8) : Intake :=
  let buffer := intake.left ++ chunk
  ⟨intake.results ++ (decodeAll buffer).1, intake.taken ++ Domotics.taken buffer,
    (decodeAll buffer).2⟩

/-- Taking a chunk in reads the stream on. -/
theorem reading_receive {intake : Intake} {stream : List UInt8}
    (h : Reading stream intake.taken intake.results intake.left) (chunk : List UInt8) :
    Reading (stream ++ chunk) (intake.receive chunk).taken (intake.receive chunk).results
      (intake.receive chunk).left := by
  obtain ⟨pieces, results, left, hr⟩ := Reading.exists_of (intake.left ++ chunk)
  simp only [receive]
  rw [hr.decodeAll_eq, hr.taken_eq]
  exact h.append hr

/-- However a stream is cut, the chunks come to a reading of it. -/
theorem reading_foldl_receive (chunks : List (List UInt8)) :
    ∀ {intake : Intake} {stream : List UInt8},
      Reading stream intake.taken intake.results intake.left →
      Reading (stream ++ chunks.flatten) (chunks.foldl receive intake).taken
        (chunks.foldl receive intake).results (chunks.foldl receive intake).left := by
  induction chunks with
  | nil =>
    intro intake stream h
    rw [List.flatten_nil, List.append_nil]
    exact h
  | cons chunk chunks ih =>
    intro intake stream h
    rw [List.flatten_cons, ← List.append_assoc]
    exact ih (reading_receive h chunk)

/-- However a stream is cut into chunks, decoding after each of them gives the results and leaves
the bytes that decoding the whole stream at once does. Each result took a frame or a byte that
begins none, and what was taken, in order, and then what is left, is the stream. -/
theorem foldl_receive (chunks : List (List UInt8)) :
    ((chunks.foldl receive start).results, (chunks.foldl receive start).left) =
        decodeAll chunks.flatten ∧
      (chunks.foldl receive start).taken = Domotics.taken chunks.flatten ∧
      List.Forall₂ Piece (chunks.foldl receive start).taken
        (chunks.foldl receive start).results ∧
      (chunks.foldl receive start).taken.flatten ++ (chunks.foldl receive start).left =
        chunks.flatten := by
  have hstart : Reading [] start.taken start.results start.left := .stop rfl
  have h := reading_foldl_receive chunks hstart
  rw [List.nil_append] at h
  exact ⟨h.decodeAll_eq.symm, h.taken_eq.symm, h.forall₂_piece, h.flatten_append⟩

end Intake

end Domotics
