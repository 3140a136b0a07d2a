import Domotics.Text.Utf8
/-!
# The text of the bytes of a text

`ofBytes_bytes`: the bytes of a text are read back as that text. Reading passes over the bytes of
one character at a time (`readChars_utf8EncodeChar`). What can go wrong there is that a byte lies
outside of the bounds that the byte before it sets; the bounds that a first byte sets are looked up
once for each length of a character, and shown to hold what a character writes.

`bytes_of_ofBytes`: nothing else is read. Bytes that stay within the bounds are the ones that some
character writes (`exists_char_of_readChars`). So just what is UTF-8 can be read
(`exists_ofBytes_eq_ok_iff`).
-/

namespace Domotics.Text

/-! ## First bytes -/

/-- Two bytes write no code point that one could. -/
theorem leadByte?_of_two : ∀ n < 30,
    leadByte? (UInt8.ofNat (n + 0xc2)) = some (0, 0x80, 0xbf, n + 2) := by
  decide

/-- Three bytes write no code point that two could, and none that is reserved for surrogates. -/
theorem leadByte?_of_three : ∀ n < 16,
    leadByte? (UInt8.ofNat (n + 0xe0)) =
      some (1, if n = 0 then 0xa0 else 0x80, if n = 13 then 0x9f else 0xbf, n) := by
  decide

/-- Four bytes write no code point that three could, and none beyond the last one. -/
theorem leadByte?_of_four : ∀ n < 5,
    leadByte? (UInt8.ofNat (n + 0xf0)) =
      some (2, if n = 0 then 0x90 else 0x80, if n = 4 then 0x8f else 0xbf, n) := by
  decide

/-! ## One byte -/

section Steps

variable {index : Nat} {done : List Char} {rest : List UInt8}

theorem readChars_ascii {n : Nat} (h : n < 0x80) :
    readChars index none done (UInt8.ofNat n :: rest) =
      readChars (index + 1) none (Char.ofNat n :: done) rest := by
  have hn : (UInt8.ofNat n).toNat = n := by
    rw [UInt8.toNat_ofNat']
    omega
  have hb : UInt8.ofNat n < 0x80 := by
    rw [UInt8.lt_iff_toNat_lt, hn]
    exact h
  simp only [readChars, if_pos hb, hn]

theorem readChars_lead {n later code : Nat} {low high : UInt8} (hn : 0x80 ≤ n) (hn' : n < 0x100)
    (h : leadByte? (UInt8.ofNat n) = some (later, low, high, code)) :
    readChars index none done (UInt8.ofNat n :: rest) =
      readChars (index + 1) (some ⟨index, 1, later, low, high, code⟩) done rest := by
  have hb : ¬ UInt8.ofNat n < 0x80 := by
    rw [UInt8.lt_iff_toNat_lt, UInt8.toNat_ofNat']
    change ¬ n % 256 < 128
    omega
  simp only [readChars, if_neg hb, h]

variable {m start taken later code : Nat} {low high : UInt8}

theorem tail_bounds (hm : m < 64)
    (hbounds : low.toNat ≤ m + 0x80 ∧ m + 0x80 ≤ high.toNat) :
    (UInt8.ofNat (m + 0x80)).toNat - 0x80 = m ∧
      low ≤ UInt8.ofNat (m + 0x80) ∧ UInt8.ofNat (m + 0x80) ≤ high := by
  have hb : (UInt8.ofNat (m + 0x80)).toNat = m + 0x80 := by
    rw [UInt8.toNat_ofNat']
    omega
  rw [UInt8.le_iff_toNat_le, UInt8.le_iff_toNat_le, hb]
  exact ⟨Nat.add_sub_cancel m 0x80, hbounds⟩

/-- Any six bits stand in a continuation byte that has no bounds of its own. -/
theorem plain_bounds (hm : m < 64) :
    (0x80 : UInt8).toNat ≤ m + 0x80 ∧ m + 0x80 ≤ (0xbf : UInt8).toNat :=
  ⟨Nat.le_add_left 0x80 m, Nat.add_le_add_right (Nat.le_of_lt_succ hm) 0x80⟩

theorem readChars_tail (hm : m < 64)
    (hbounds : low.toNat ≤ m + 0x80 ∧ m + 0x80 ≤ high.toNat) :
    readChars index (some ⟨start, taken, later + 1, low, high, code⟩) done
        (UInt8.ofNat (m + 0x80) :: rest) =
      readChars (index + 1) (some ⟨start, taken + 1, later, 0x80, 0xbf, code * 64 + m⟩) done
        rest := by
  obtain ⟨hb, hbounds⟩ := tail_bounds hm hbounds
  simp only [readChars, if_pos hbounds, hb, if_neg (Nat.succ_ne_zero later), Nat.add_sub_cancel]

theorem readChars_last (hm : m < 64)
    (hbounds : low.toNat ≤ m + 0x80 ∧ m + 0x80 ≤ high.toNat) :
    readChars index (some ⟨start, taken, 0, low, high, code⟩) done
        (UInt8.ofNat (m + 0x80) :: rest) =
      readChars (index + 1) none (Char.ofNat (code * 64 + m) :: done) rest := by
  obtain ⟨hb, hbounds⟩ := tail_bounds hm hbounds
  simp only [readChars, if_pos hbounds, hb, if_true]

/-! ## Characters -/

/-- Reading passes over the bytes of a character. -/
theorem readChars_utf8EncodeChar (c : Char) :
    readChars index none done (String.utf8EncodeChar c ++ rest) =
      readChars (index + c.utf8Size) none (c :: done) rest := by
  have hvalid : c.toNat < 0xd800 ∨ 0xdfff < c.toNat ∧ c.toNat < 0x110000 := c.valid
  have hc := Char.ofNat_toNat c
  rw [← String.length_utf8EncodeChar]
  fun_cases String.utf8EncodeChar c with
  | case1 v h =>
    change Char.ofNat v = c at hc
    rw [List.singleton_append, readChars_ascii (by omega), hc]
    rfl
  | case2 v hlow h =>
    change Char.ofNat v = c at hc
    have hlead : leadByte? (UInt8.ofNat (v / 64 % 32 + 192)) = some (0, 0x80, 0xbf, v / 64) := by
      have h := leadByte?_of_two (v / 64 - 2) (by omega)
      rwa [show v / 64 - 2 + 0xc2 = v / 64 % 32 + 192 by omega,
        show v / 64 - 2 + 2 = v / 64 by omega] at h
    have hv : v / 64 * 64 + v % 64 = v := by omega
    have hlast : v % 64 < 64 := by omega
    rw [List.cons_append, List.singleton_append, readChars_lead (by omega) (by omega) hlead,
      readChars_last hlast (plain_bounds hlast), hv, hc]
    rfl
  | case3 v _ hlow h =>
    change Char.ofNat v = c at hc
    change v < 0xd800 ∨ 0xdfff < v ∧ v < 0x110000 at hvalid
    have hlead := leadByte?_of_three (v / 4096 % 16) (by omega)
    have hv : (v / 4096 % 16 * 64 + v / 64 % 64) * 64 + v % 64 = v := by omega
    have hlast : v % 64 < 64 := by omega
    rw [List.cons_append, List.cons_append, List.singleton_append,
      readChars_lead (by omega) (by omega) hlead, readChars_tail (by omega),
      readChars_last hlast (plain_bounds hlast), hv, hc]
    · rfl
    · constructor <;> split <;> simp <;> omega
  | case4 v _ _ hlow =>
    change Char.ofNat v = c at hc
    change v < 0xd800 ∨ 0xdfff < v ∧ v < 0x110000 at hvalid
    have hlead := leadByte?_of_four (v / 262144 % 8) (by omega)
    have hv : ((v / 262144 % 8 * 64 + v / 4096 % 64) * 64 + v / 64 % 64) * 64 + v % 64 = v := by
      omega
    have hlate : v / 64 % 64 < 64 := by omega
    have hlast : v % 64 < 64 := by omega
    rw [List.cons_append, List.cons_append, List.cons_append, List.singleton_append,
      readChars_lead (by omega) (by omega) hlead, readChars_tail (by omega),
      readChars_tail hlate (plain_bounds hlate), readChars_last hlast (plain_bounds hlast), hv, hc]
    · rfl
    · constructor <;> split <;> simp <;> omega

end Steps

/-! ## Texts -/

theorem readChars_flatMap (chars : List Char) :
    ∀ (index : Nat) (done : List Char),
      readChars index none done (chars.flatMap String.utf8EncodeChar) =
        .ok (done.reverse ++ chars) := by
  induction chars with
  | nil =>
    intro index done
    rw [List.append_nil]
    rfl
  | cons c chars ih =>
    intro index done
    rw [List.flatMap_cons, readChars_utf8EncodeChar, ih, List.reverse_cons, List.append_assoc]
    rfl

/-- The bytes of a text are read back as that text. -/
theorem ofBytes_bytes (text : String) : ofBytes (bytes text) = .ok text := by
  unfold ofBytes bytes
  rw [readChars_flatMap, List.reverse_nil, List.nil_append]
  exact congrArg Except.ok String.ofList_toList

/-- A text has as many bytes as it takes to store it. -/
theorem length_bytes (text : String) : (bytes text).length = text.utf8ByteSize := by
  have h := congrArg String.utf8ByteSize (String.ofList_toList (s := text))
  rw [← h]
  exact List.size_toByteArray.symm

/-! ## Nothing else is read -/

section Readings

variable {n m m' m'' : Nat}

theorem toNat_val_ofNat {v : Nat} (h : v.isValidChar) : (Char.ofNat v).val.toNat = v := by
  rw [Char.ofNat, dif_pos h]
  rfl

theorem utf8EncodeChar_of_one (h : n < 0x80) :
    String.utf8EncodeChar (Char.ofNat n) = [UInt8.ofNat n] := by
  have hv := toNat_val_ofNat (v := n) (Or.inl (by omega))
  simp only [String.utf8EncodeChar, hv]
  rw [if_pos (by omega)]

theorem utf8EncodeChar_of_two (hn : n < 30) (hm : m < 64) :
    String.utf8EncodeChar (Char.ofNat ((n + 2) * 64 + m)) =
      [UInt8.ofNat (n + 0xc2), UInt8.ofNat (m + 0x80)] := by
  have hv := toNat_val_ofNat (v := (n + 2) * 64 + m) (Or.inl (by omega))
  have hlead : ((n + 2) * 64 + m) / 64 % 32 + 192 = n + 0xc2 := by omega
  have hlast : ((n + 2) * 64 + m) % 64 = m := by omega
  simp only [String.utf8EncodeChar, hv, hlead, hlast]
  rw [if_neg (by omega), if_pos (by omega)]

theorem utf8EncodeChar_of_three (hn : n < 16) (hm : m < 64) (hm' : m' < 64)
    (hbounds : (if n = 0 then 0xa0 else 0x80 : UInt8).toNat ≤ m + 0x80 ∧
      m + 0x80 ≤ (if n = 13 then 0x9f else 0xbf : UInt8).toNat) :
    String.utf8EncodeChar (Char.ofNat ((n * 64 + m) * 64 + m')) =
      [UInt8.ofNat (n + 0xe0), UInt8.ofNat (m + 0x80), UInt8.ofNat (m' + 0x80)] := by
  have hlow : n = 0 → 0xa0 ≤ m + 0x80 := fun h => by simpa [h] using hbounds.1
  have hhigh : n = 13 → m + 0x80 ≤ 0x9f := fun h => by simpa [h] using hbounds.2
  have hvalid : ((n * 64 + m) * 64 + m').isValidChar := by
    unfold Nat.isValidChar
    omega
  have hfloor : 0x800 ≤ (n * 64 + m) * 64 + m' := by omega
  have hv := toNat_val_ofNat hvalid
  have hlead : ((n * 64 + m) * 64 + m') / 4096 % 16 = n := by omega
  have hnext : ((n * 64 + m) * 64 + m') / 64 % 64 = m := by omega
  have hlast : ((n * 64 + m) * 64 + m') % 64 = m' := by omega
  simp only [String.utf8EncodeChar, hv, hlead, hnext, hlast]
  rw [if_neg (by omega), if_neg (by omega), if_pos (by omega)]

theorem utf8EncodeChar_of_four (hn : n < 5) (hm : m < 64) (hm' : m' < 64) (hm'' : m'' < 64)
    (hbounds : (if n = 0 then 0x90 else 0x80 : UInt8).toNat ≤ m + 0x80 ∧
      m + 0x80 ≤ (if n = 4 then 0x8f else 0xbf : UInt8).toNat) :
    String.utf8EncodeChar (Char.ofNat (((n * 64 + m) * 64 + m') * 64 + m'')) =
      [UInt8.ofNat (n + 0xf0), UInt8.ofNat (m + 0x80), UInt8.ofNat (m' + 0x80),
        UInt8.ofNat (m'' + 0x80)] := by
  have hlow : n = 0 → 0x90 ≤ m + 0x80 := fun h => by simpa [h] using hbounds.1
  have hhigh : n = 4 → m + 0x80 ≤ 0x8f := fun h => by simpa [h] using hbounds.2
  have hfloor : 0x10000 ≤ ((n * 64 + m) * 64 + m') * 64 + m'' := by omega
  have hceiling : ((n * 64 + m) * 64 + m') * 64 + m'' < 0x110000 := by omega
  have hv := toNat_val_ofNat (v := ((n * 64 + m) * 64 + m') * 64 + m'') (Or.inr (by omega))
  have hlead : (((n * 64 + m) * 64 + m') * 64 + m'') / 262144 % 8 = n := by omega
  have hnext : (((n * 64 + m) * 64 + m') * 64 + m'') / 4096 % 64 = m := by omega
  have hlate : (((n * 64 + m) * 64 + m') * 64 + m'') / 64 % 64 = m' := by omega
  have hlast : (((n * 64 + m) * 64 + m') * 64 + m'') % 64 = m'' := by omega
  simp only [String.utf8EncodeChar, hv, hlead, hnext, hlate, hlast]
  rw [if_neg (by omega), if_neg (by omega), if_neg (by omega)]

variable {index start taken later code : Nat} {low high b : UInt8} {done chars : List Char}
  {data rest : List UInt8}

theorem bounds_of_leadByte? {lead : Nat × UInt8 × UInt8 × Nat} (h : leadByte? b = some lead) :
    0xc2 ≤ b.toNat ∧ b.toNat ≤ 0xf4 := by
  unfold leadByte? at h
  repeat' split at h
  all_goals simp_all [UInt8.le_iff_toNat_le]
  all_goals omega

/-- A byte that begins a character of more than one byte is one of those that are looked up
above. -/
theorem eq_of_leadByte?_eq_some {lead : Nat × UInt8 × UInt8 × Nat} (h : leadByte? b = some lead) :
    (∃ n < 30, b = UInt8.ofNat (n + 0xc2)) ∨ (∃ n < 16, b = UInt8.ofNat (n + 0xe0)) ∨
      ∃ n < 5, b = UInt8.ofNat (n + 0xf0) := by
  have hb : ∀ k ≤ b.toNat, b = UInt8.ofNat (b.toNat - k + k) := by
    intro k hk
    rw [Nat.sub_add_cancel hk, UInt8.ofNat_toNat]
  obtain ⟨hlow, hhigh⟩ := bounds_of_leadByte? h
  by_cases htwo : b.toNat < 0xe0
  · exact Or.inl ⟨b.toNat - 0xc2, by omega, hb 0xc2 hlow⟩
  by_cases hthree : b.toNat < 0xf0
  · exact Or.inr (Or.inl ⟨b.toNat - 0xe0, by omega, hb 0xe0 (by omega)⟩)
  · exact Or.inr (Or.inr ⟨b.toNat - 0xf0, by omega, hb 0xf0 (by omega)⟩)

/-- Inside of a character, what is read next is a byte within the bounds. -/
theorem exists_tail_of_readChars (hlow : 0x80 ≤ low.toNat) (hhigh : high.toNat ≤ 0xbf)
    (h : readChars index (some ⟨start, taken, later, low, high, code⟩) done data = .ok chars) :
    ∃ m rest, m < 64 ∧ (low.toNat ≤ m + 0x80 ∧ m + 0x80 ≤ high.toNat) ∧
      data = UInt8.ofNat (m + 0x80) :: rest := by
  rcases data with _ | ⟨b, rest⟩
  · cases h
  · simp only [readChars] at h
    split at h
    · rename_i hbounds
      rw [UInt8.le_iff_toNat_le, UInt8.le_iff_toNat_le] at hbounds
      refine ⟨b.toNat - 0x80, rest, by omega, by omega, ?_⟩
      rw [Nat.sub_add_cancel (by omega), UInt8.ofNat_toNat]
    · cases h

/-- Between characters, what is read next is the bytes of one. -/
theorem exists_char_of_readChars (h : readChars index none done (b :: rest) = .ok chars) :
    ∃ c rest', b :: rest = String.utf8EncodeChar c ++ rest' := by
  by_cases hascii : b < 0x80
  · refine ⟨Char.ofNat b.toNat, rest, ?_⟩
    rw [utf8EncodeChar_of_one (UInt8.lt_iff_toNat_lt.mp hascii), UInt8.ofNat_toNat]
    rfl
  have hlead : ∃ lead, leadByte? b = some lead := by
    cases hl : leadByte? b with
    | none =>
      simp only [readChars, if_neg hascii, hl] at h
      cases h
    | some lead => exact ⟨lead, rfl⟩
  obtain ⟨lead, hlead⟩ := hlead
  rcases eq_of_leadByte?_eq_some hlead with ⟨n, hn, rfl⟩ | ⟨n, hn, rfl⟩ | ⟨n, hn, rfl⟩
  · rw [readChars_lead (by omega) (by omega) (leadByte?_of_two n hn)] at h
    obtain ⟨m, rest', hm, -, rfl⟩ := exists_tail_of_readChars (by decide) (by decide) h
    exact ⟨_, rest', by rw [utf8EncodeChar_of_two hn hm]; rfl⟩
  · rw [readChars_lead (by omega) (by omega) (leadByte?_of_three n hn)] at h
    obtain ⟨m, rest', hm, hbounds, rfl⟩ :=
      exists_tail_of_readChars (by split <;> decide) (by split <;> decide) h
    rw [readChars_tail hm hbounds] at h
    obtain ⟨m', rest', hm', -, rfl⟩ := exists_tail_of_readChars (by decide) (by decide) h
    exact ⟨_, rest', by rw [utf8EncodeChar_of_three hn hm hm' hbounds]; rfl⟩
  · rw [readChars_lead (by omega) (by omega) (leadByte?_of_four n hn)] at h
    obtain ⟨m, rest', hm, hbounds, rfl⟩ :=
      exists_tail_of_readChars (by split <;> decide) (by split <;> decide) h
    rw [readChars_tail hm hbounds] at h
    obtain ⟨m', rest', hm', -, rfl⟩ := exists_tail_of_readChars (by decide) (by decide) h
    rw [readChars_tail hm' (plain_bounds hm')] at h
    obtain ⟨m'', rest', hm'', -, rfl⟩ := exists_tail_of_readChars (by decide) (by decide) h
    exact ⟨_, rest', by rw [utf8EncodeChar_of_four hn hm hm' hm'' hbounds]; rfl⟩

/-- What is read as characters are their bytes. -/
theorem eq_flatMap_of_readChars (h : readChars index none done data = .ok chars) :
    ∃ more, chars = done.reverse ++ more ∧ data = more.flatMap String.utf8EncodeChar := by
  induction hlen : data.length using Nat.strongRecOn generalizing index done data with
  | ind len ih =>
    rcases data with _ | ⟨b, rest⟩
    · exact ⟨[], by simpa [readChars] using h.symm, rfl⟩
    · obtain ⟨c, rest', heq⟩ := exists_char_of_readChars h
      rw [heq, readChars_utf8EncodeChar] at h
      have hshorter : rest'.length < len := by
        have := c.utf8Size_pos
        rw [← hlen, heq, List.length_append, String.length_utf8EncodeChar]
        omega
      obtain ⟨more, hmore, hrest⟩ := ih rest'.length hshorter h rfl
      refine ⟨c :: more, ?_, ?_⟩
      · rw [hmore, List.reverse_cons, List.append_assoc]
        rfl
      · rw [heq, hrest]
        rfl

end Readings

/-- The bytes that are read as a text are the bytes of that text. -/
theorem bytes_of_ofBytes {data : List UInt8} {text : String} (h : ofBytes data = .ok text) :
    bytes text = data := by
  unfold ofBytes at h
  cases hread : readChars 0 none [] data with
  | error e =>
    rw [hread] at h
    cases h
  | ok chars =>
    rw [hread] at h
    obtain rfl := Except.ok.inj h
    obtain ⟨more, rfl, hdata⟩ := eq_flatMap_of_readChars hread
    rw [bytes, String.toList_ofList]
    exact hdata.symm

/-- Bytes are read as a text exactly if they are UTF-8. -/
theorem exists_ofBytes_eq_ok_iff {data : List UInt8} :
    (∃ text, ofBytes data = .ok text) ↔ data.toByteArray.IsValidUTF8 := by
  constructor
  · rintro ⟨text, h⟩
    exact ⟨text.toList, by rw [← bytes_of_ofBytes h]; rfl⟩
  · rintro ⟨chars, h⟩
    refine ⟨String.ofList chars, ?_⟩
    have hdata : bytes (String.ofList chars) = data := by
      rw [bytes, String.toList_ofList]
      exact (List.toByteArray_inj.mp h).symm
    rw [← hdata]
    exact ofBytes_bytes _

end Domotics.Text
