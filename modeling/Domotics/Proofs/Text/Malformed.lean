import Domotics.Proofs.Text.Utf8
/-!
# Bytes that are no text

What is wrong with bytes can be said without reading them. They are the bytes of some text and then
bytes that begin with no whole character (`Malformed`): after as many as could begin one stands a
byte that goes on with none of these characters, or there is no byte left (`Flawed`).

This is what reading refuses, with that error and no other (`ofBytes_eq_error_iff`). Inside of a
character, reading holds bounds for the next byte. Since any byte within them can be completed to a
character (`Inside.opens`), and no character is read from one outside, the bounds are just the bytes
that some character goes on with.
-/

namespace Domotics.Text

/-- Bytes that some character begins with. They may be all of its bytes. -/
def Begins (data : List UInt8) : Prop :=
  ∃ c more, String.utf8EncodeChar c = data ++ more

/-- Bytes that some character begins with, and does not end with. -/
def Opens (data : List UInt8) : Prop :=
  ∃ c more, more ≠ [] ∧ String.utf8EncodeChar c = data ++ more

/-- Bytes from `index` on that begin with no whole character, and why that is so. -/
inductive Flawed (index : Nat) : List UInt8 → Utf8Error → Prop
  /-- The next byte goes on with no character that the bytes before it could begin. -/
  | invalid {start : List UInt8} {b : UInt8} {rest : List UInt8} (opens : Opens start)
    (wrong : ¬ Begins (start ++ [b])) :
    Flawed index (start ++ b :: rest) (.invalid (max 1 start.length) index)
  /-- The bytes end inside of a character. -/
  | incomplete {start : List UInt8} (nonempty : start ≠ []) (opens : Opens start) :
    Flawed index start (.incomplete index)

/-- Bytes that are no text, and where and why they stop to be one. -/
inductive Malformed : List UInt8 → Utf8Error → Prop
  | intro (text : String) {tail : List UInt8} {e : Utf8Error}
    (flawed : Flawed text.utf8ByteSize tail e) : Malformed (bytes text ++ tail) e

/-! ## Characters -/

variable {data : List UInt8} {c : Char}

theorem eq_utf8EncodeChar_of_readChars (h : readChars 0 none [] data = .ok [c]) :
    String.utf8EncodeChar c = data := by
  obtain ⟨more, hmore, hdata⟩ := eq_flatMap_of_readChars h
  obtain rfl : [c] = more := hmore
  rw [hdata, List.flatMap_singleton]

/-- No character begins with all bytes of one and goes on. -/
theorem not_opens_utf8EncodeChar_append (rest : List UInt8) :
    ¬ Opens (String.utf8EncodeChar c ++ rest) := by
  rintro ⟨c', more, hmore, heq⟩
  have hread : readChars 0 none [] (String.utf8EncodeChar c') = .ok [c'] := by
    have h := @readChars_utf8EncodeChar 0 [] [] c'
    rw [List.append_nil] at h
    exact h
  rw [heq, List.append_assoc, readChars_utf8EncodeChar] at hread
  obtain ⟨chars, hchars, hrest⟩ := eq_flatMap_of_readChars hread
  obtain ⟨-, rfl⟩ := List.cons_eq_cons.mp hchars
  exact hmore (List.append_eq_nil_iff.mp hrest).2

/-- Bytes from which nothing can be read, whatever follows them, begin no character. -/
theorem not_begins_of_readChars
    (h : ∀ more, ∃ e, readChars 0 none [] (data ++ more) = .error e) : ¬ Begins data := by
  rintro ⟨c, more, heq⟩
  obtain ⟨e, he⟩ := h more
  have hread := @readChars_utf8EncodeChar 0 [] [] c
  rw [List.append_nil, heq, he] at hread
  cases hread

/-! ## One error -/

namespace Flawed

variable {index : Nat} {e e' : Utf8Error}

theorem length_le_of_opens {start start' : List UInt8} {b : UInt8} (opens : Opens start')
    (wrong : ¬ Begins (start ++ [b])) (h : start ++ [b] <+: data) (h' : start' <+: data) :
    start'.length ≤ start.length := by
  refine Nat.not_lt.mp fun hlt => ?_
  have hle : (start ++ [b]).length ≤ start'.length := by
    rw [List.length_append]
    exact hlt
  obtain ⟨more, rfl⟩ := List.prefix_of_prefix_length_le h h' hle
  obtain ⟨c, more', -, heq⟩ := opens
  exact wrong ⟨c, more ++ more', by rw [heq, List.append_assoc]⟩

theorem prefix_append (start : List UInt8) (b : UInt8) (rest : List UInt8) :
    start ++ [b] <+: start ++ b :: rest :=
  ⟨rest, by rw [List.append_assoc]; rfl⟩

/-- The bytes decide what is wrong with them. -/
theorem unique (h : Flawed index data e) (h' : Flawed index data e') : e = e' := by
  cases h with
  | @invalid start b rest opens wrong =>
    generalize hdata : start ++ b :: rest = data at h'
    have hpre : start ++ [b] <+: data := hdata ▸ prefix_append start b rest
    cases h' with
    | @invalid start' b' rest' opens' wrong' =>
      -- The longer of the two beginnings would hold the byte that the shorter one cannot go on with.
      have hpre' := prefix_append start' b' rest'
      have hle := length_le_of_opens opens' wrong hpre (List.prefix_append _ _)
      have hle' := length_le_of_opens opens wrong' hpre' (hdata ▸ List.prefix_append _ _)
      rw [Nat.le_antisymm hle' hle]
    | incomplete nonempty opens' =>
      have hle := length_le_of_opens opens' wrong hpre List.prefix_rfl
      rw [← hdata, List.length_append, List.length_cons] at hle
      omega
  | incomplete nonempty opens =>
    cases h' with
    | @invalid start' b' rest' opens' wrong' =>
      have hle := length_le_of_opens opens wrong' (prefix_append start' b' rest') List.prefix_rfl
      rw [List.length_append, List.length_cons] at hle
      omega
    | incomplete nonempty' opens' => rfl

theorem ne_nil (h : Flawed index data e) : data ≠ [] := by
  cases h with
  | invalid opens wrong => exact List.append_ne_nil_of_right_ne_nil _ (List.cons_ne_nil _ _)
  | incomplete nonempty opens => exact nonempty

/-- No character stands where something is wrong. -/
theorem not_char (h : Flawed index data e) (rest : List UInt8) :
    data ≠ String.utf8EncodeChar c ++ rest := by
  rintro rfl
  generalize hdata : String.utf8EncodeChar c ++ rest = data at h
  have hchar : String.utf8EncodeChar c <+: data := ⟨rest, hdata⟩
  cases h with
  | @invalid start b rest' opens wrong =>
    rcases Nat.lt_or_ge start.length (String.utf8EncodeChar c).length with hlt | hle
    · have hpre : start ++ [b] <+: String.utf8EncodeChar c := by
        refine List.prefix_of_prefix_length_le (prefix_append start b rest') hchar ?_
        rw [List.length_append]
        exact hlt
      obtain ⟨more, hmore⟩ := hpre
      exact wrong ⟨c, more, hmore.symm⟩
    · obtain ⟨more, rfl⟩ :=
        List.prefix_of_prefix_length_le hchar (List.prefix_append start _) hle
      exact not_opens_utf8EncodeChar_append more opens
  | incomplete nonempty opens =>
    exact not_opens_utf8EncodeChar_append rest (hdata ▸ opens)

end Flawed

/-! ## Inside of a character -/

/-- After `start`, reading is inside of a character, and knows as much of it. -/
structure Inside (start : List UInt8) (later : Nat) (low high : UInt8) (code : Nat) : Prop where
  nonempty : start ≠ []
  bounds : low ≤ high
  read : ∀ index done more, readChars index none done (start ++ more) =
    readChars (index + start.length) (some ⟨index, start.length, later, low, high, code⟩) done more

/-- A byte within the bounds, and as many plain ones as are to follow it, end a character. -/
theorem exists_readChars_eq_ok : ∀ (later : Nat) {index start taken code : Nat} {low high b : UInt8}
    {done : List Char}, low ≤ b → b ≤ high →
      ∃ c, readChars index (some ⟨start, taken, later, low, high, code⟩) done
        (b :: List.replicate later 0x80) = .ok (done.reverse ++ [c])
  | 0, _, _, _, code, _, _, b, done, hlow, hhigh => by
    refine ⟨Char.ofNat (code * 64 + (b.toNat - 0x80)), ?_⟩
    simp only [readChars, if_pos (And.intro hlow hhigh), if_true, List.replicate_zero,
      List.reverse_cons]
  | later + 1, _, _, _, _, _, _, _, _, hlow, hhigh => by
    simp only [readChars, if_pos (And.intro hlow hhigh), if_neg (Nat.succ_ne_zero later),
      Nat.add_sub_cancel]
    exact exists_readChars_eq_ok later (by decide) (by decide)

namespace Inside

variable {start rest : List UInt8} {later code : Nat} {low high b : UInt8}

/-- Any byte within the bounds goes on with some character. -/
theorem exists_char (h : Inside start later low high code) (hlow : low ≤ b) (hhigh : b ≤ high) :
    ∃ c, String.utf8EncodeChar c = start ++ b :: List.replicate later 0x80 := by
  obtain ⟨c, hc⟩ := exists_readChars_eq_ok later hlow hhigh
  exact ⟨c, eq_utf8EncodeChar_of_readChars ((h.read 0 [] _).trans hc)⟩

theorem opens (h : Inside start later low high code) : Opens start := by
  obtain ⟨c, hc⟩ := h.exists_char (UInt8.le_refl low) h.bounds
  exact ⟨c, _, List.cons_ne_nil _ _, hc⟩

theorem next (h : Inside start (later + 1) low high code) (hlow : low ≤ b) (hhigh : b ≤ high) :
    Inside (start ++ [b]) later 0x80 0xbf (code * 64 + (b.toNat - 0x80)) where
  nonempty := List.append_ne_nil_of_left_ne_nil h.nonempty [b]
  bounds := by decide
  read index done more := by
    rw [List.append_assoc, h.read, List.singleton_append]
    simp only [readChars, if_pos (And.intro hlow hhigh), if_neg (Nat.succ_ne_zero later),
      Nat.add_sub_cancel, List.length_append, List.length_singleton, Nat.add_assoc]

theorem readChars_eq_error (h : Inside start later low high code) (hb : ¬ (low ≤ b ∧ b ≤ high))
    (index : Nat) (done : List Char) (rest : List UInt8) :
    readChars index none done (start ++ b :: rest) = .error (.invalid start.length index) := by
  rw [h.read]
  simp only [readChars, if_neg hb]

/-- Reading ends the character it is inside of, or fails of what is wrong with the bytes. -/
theorem char_or_flawed : ∀ {rest start : List UInt8} {later : Nat} {low high : UInt8} {code : Nat},
    Inside start later low high code →
      (∃ c rest', start ++ rest = String.utf8EncodeChar c ++ rest') ∨
      ∀ index done, ∃ e, Flawed index (start ++ rest) e ∧
        readChars index none done (start ++ rest) = .error e
  | [], start, _, _, _, _, h => by
    refine Or.inr fun index done => ⟨.incomplete index, ?_, by rw [h.read]; rfl⟩
    rw [List.append_nil]
    exact .incomplete h.nonempty h.opens
  | b :: rest, start, later, low, high, code, h => by
    -- The induction is on the bytes to come: one that fits makes `start` longer.
    have hsplit : start ++ b :: rest = (start ++ [b]) ++ rest := by
      rw [List.append_assoc]
      rfl
    by_cases hb : low ≤ b ∧ b ≤ high
    · cases later with
      | zero =>
        obtain ⟨c, hc⟩ := h.exists_char hb.1 hb.2
        exact Or.inl ⟨c, rest, by rw [hc, hsplit]; rfl⟩
      | succ later =>
        rw [hsplit]
        exact (h.next hb.1 hb.2).char_or_flawed
    · refine Or.inr fun index done => ⟨_, ?_, h.readChars_eq_error hb index done rest⟩
      have hlength : max 1 start.length = start.length :=
        Nat.max_eq_right (List.length_pos_iff.mpr h.nonempty)
      have wrong : ¬ Begins (start ++ [b]) := not_begins_of_readChars fun more => by
        rw [List.append_assoc]
        exact ⟨_, h.readChars_eq_error hb 0 [] more⟩
      exact hlength ▸ .invalid h.opens wrong

end Inside

/-! ## Bytes -/

theorem opens_nil : Opens [] :=
  ⟨'a', String.utf8EncodeChar 'a', by decide, rfl⟩

theorem le_of_leadByte? {b low high : UInt8} {later code : Nat}
    (h : leadByte? b = some (later, low, high, code)) : low ≤ high := by
  unfold leadByte? at h
  repeat' split at h
  all_goals cases h
  all_goals decide

/-- Between characters, reading passes over one, or fails of what is wrong with the bytes. -/
theorem char_or_flawed (b : UInt8) (rest : List UInt8) :
    (∃ c rest', b :: rest = String.utf8EncodeChar c ++ rest') ∨
    ∀ index done, ∃ e, Flawed index (b :: rest) e ∧
      readChars index none done (b :: rest) = .error e := by
  by_cases hascii : b < 0x80
  · refine Or.inl ⟨Char.ofNat b.toNat, rest, ?_⟩
    rw [utf8EncodeChar_of_one (UInt8.lt_iff_toNat_lt.mp hascii), UInt8.ofNat_toNat]
    rfl
  cases hlead : leadByte? b with
  | none =>
    have hread : ∀ index done more,
        readChars index none done (b :: more) = .error (.invalid 1 index) := by
      intro index done more
      simp only [readChars, if_neg hascii, hlead]
    refine Or.inr fun index done => ⟨.invalid 1 index, ?_, hread index done rest⟩
    exact .invalid opens_nil (not_begins_of_readChars fun more => ⟨_, hread 0 [] more⟩)
  | some lead =>
    obtain ⟨later, low, high, code⟩ := lead
    have inside : Inside [b] later low high code := by
      refine ⟨List.cons_ne_nil b [], le_of_leadByte? hlead, fun index done more => ?_⟩
      simp only [List.singleton_append, readChars, if_neg hascii, hlead, List.length_singleton]
    exact inside.char_or_flawed

theorem Flawed.readChars_eq {index : Nat} {e : Utf8Error} (h : Flawed index data e)
    (done : List Char) : readChars index none done data = .error e := by
  obtain ⟨b, rest, rfl⟩ := List.exists_cons_of_ne_nil h.ne_nil
  rcases char_or_flawed b rest with ⟨c, rest', heq⟩ | hflawed
  · exact absurd heq (h.not_char rest')
  · obtain ⟨e', h', he'⟩ := hflawed index done
    rw [h.unique h', he']

theorem readChars_flatMap_append (chars : List Char) (tail : List UInt8) :
    ∀ (index : Nat) (done : List Char),
      readChars index none done (chars.flatMap String.utf8EncodeChar ++ tail) =
        readChars (index + (chars.flatMap String.utf8EncodeChar).length) none
          (chars.reverse ++ done) tail := by
  induction chars with
  | nil =>
    intro index done
    rfl
  | cons c chars ih =>
    intro index done
    rw [List.flatMap_cons, List.append_assoc, readChars_utf8EncodeChar, ih, List.length_append,
      String.length_utf8EncodeChar, Nat.add_assoc, List.reverse_cons, List.append_assoc]
    rfl

/-- The text that bytes begin with is passed over. -/
theorem readChars_bytes_append (text : String) (tail : List UInt8) :
    readChars 0 none [] (bytes text ++ tail) =
      readChars text.utf8ByteSize none text.toList.reverse tail := by
  rw [← length_bytes, bytes, readChars_flatMap_append, Nat.zero_add, List.append_nil]

/-- All bytes are the bytes of a text, up to the first that are wrong. -/
theorem exists_bytes_append (data : List UInt8) :
    ∃ text tail, data = bytes text ++ tail ∧ (tail = [] ∨ ∀ index, ∃ e, Flawed index tail e) := by
  induction hlen : data.length using Nat.strongRecOn generalizing data with
  | ind len ih =>
    rcases data with _ | ⟨b, rest⟩
    · exact ⟨"", [], rfl, Or.inl rfl⟩
    rcases char_or_flawed b rest with ⟨c, rest', heq⟩ | hflawed
    · have hshorter : rest'.length < len := by
        have := c.utf8Size_pos
        rw [← hlen, heq, List.length_append, String.length_utf8EncodeChar]
        omega
      obtain ⟨text, tail, rfl, htail⟩ := ih rest'.length hshorter rest' rfl
      refine ⟨String.ofList (c :: text.toList), tail, ?_, htail⟩
      rw [heq, bytes, bytes, String.toList_ofList, List.flatMap_cons, List.append_assoc]
    · refine ⟨"", b :: rest, rfl, Or.inr fun index => ?_⟩
      obtain ⟨e, he, -⟩ := hflawed index []
      exact ⟨e, he⟩

/-- Bytes are refused exactly for what is wrong with them. -/
theorem ofBytes_eq_error_iff {e : Utf8Error} : ofBytes data = .error e ↔ Malformed data e := by
  have hmalformed : ∀ {data e}, Malformed data e → ofBytes data = .error e := by
    rintro _ e ⟨text, flawed⟩
    rw [ofBytes, readChars_bytes_append, flawed.readChars_eq]
    rfl
  refine ⟨fun h => ?_, hmalformed⟩
  obtain ⟨text, tail, rfl, rfl | hflawed⟩ := exists_bytes_append data
  · rw [List.append_nil, ofBytes_bytes] at h
    cases h
  · obtain ⟨e', flawed⟩ := hflawed text.utf8ByteSize
    have malformed := Malformed.intro text flawed
    obtain rfl : e = e' := Except.error.inj (h.symm.trans (hmalformed malformed))
    exact malformed

end Domotics.Text
