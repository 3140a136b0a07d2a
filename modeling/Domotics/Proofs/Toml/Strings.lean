import Mathlib.Data.List.Infix
import Domotics.Proofs.Text.Scanning
import Domotics.Toml.Reader
import Domotics.Toml.Text
/-!
# Strings are read as they were written

A string has four forms in a document, and what stands in it decides which one is written. `Written`
says what may stand between two quotes, on one line or on several, and for which characters:
`written_plain` for single quotes, `written_escapeFrom` for double ones.

Whatever is written is read back, on one line up to the quote (`readLine?_written`) and on several
up to three quotes in a row (`readLines?_written`). Up to two quotes may stand before these three,
and nothing that is written has three in a row but after a backslash. `readString?_stringText` puts
this together: every string is read back, whatever follows it but a quote.
-/

namespace Domotics.Toml

/-! ## Shapes -/

namespace StringShape

/-- One shape has everything in it that another one has. -/
structure Within (shape shape' : StringShape) : Prop where
  singleQuotes : shape.singleQuotes ≤ shape'.singleQuotes
  doubleQuotes : shape.doubleQuotes ≤ shape'.doubleQuotes
  controls : shape.controls = true → shape'.controls = true
  backslash : shape.backslash = true → shape'.backslash = true
  lineFeed : shape.lineFeed = true → shape'.lineFeed = true

variable {shape shape' shape'' : StringShape} {text : String} {chars : List Char} {c : Char}

theorem Within.refl (shape : StringShape) : shape.Within shape :=
  ⟨Nat.le_refl _, Nat.le_refl _, id, id, id⟩

theorem Within.trans (h : shape.Within shape') (h' : shape'.Within shape'') :
    shape.Within shape'' :=
  ⟨h.singleQuotes.trans h'.singleQuotes, h.doubleQuotes.trans h'.doubleQuotes,
    h'.controls ∘ h.controls, h'.backslash ∘ h.backslash, h'.lineFeed ∘ h.lineFeed⟩

theorem within_next (shape : StringShape) (c : Char) : shape.Within (shape.next c) where
  singleQuotes := Nat.le_max_left _ _
  doubleQuotes := Nat.le_max_left _ _
  controls h := by simp [next, h]
  backslash h := by simp [next, h]
  lineFeed h := by simp [next, h]

theorem within_foldl (shape : StringShape) (chars : List Char) :
    shape.Within (chars.foldl next shape) := by
  induction chars generalizing shape with
  | nil => exact .refl shape
  | cons c chars ih => exact (shape.within_next c).trans (ih (shape.next c))

theorem of_eq_foldl : of text = text.toList.foldl next {} := by
  rw [of, String.foldl_eq_foldl_toList]

/-- Each character of a text is counted. -/
theorem exists_next_within (h : c ∈ text.toList) : ∃ shape, (next shape c).Within (of text) := by
  obtain ⟨before, after, heq⟩ := List.append_of_mem h
  refine ⟨before.foldl next {}, ?_⟩
  rw [of_eq_foldl, heq, List.foldl_append, List.foldl_cons]
  exact within_foldl _ after

/-- So are three in a row. -/
theorem exists_run_within (h : [c, c, c] <:+: text.toList) :
    ∃ shape, (((next shape c).next c).next c).Within (of text) := by
  obtain ⟨before, after, heq⟩ := h
  refine ⟨before.foldl next {}, ?_⟩
  rw [of_eq_foldl, ← heq, List.foldl_append, List.foldl_append]
  exact within_foldl _ after

theorem notMem_of_singleQuotes (h : (of text).singleQuotes = 0) : '\'' ∉ text.toList := by
  intro hmem
  obtain ⟨shape, hwithin⟩ := exists_next_within hmem
  have hle : max shape.singleQuotes (shape.singleRun + 1) ≤ 0 := h ▸ hwithin.singleQuotes
  omega

theorem not_infix_of_singleQuotes (h : (of text).singleQuotes ≤ 2) :
    ¬ ['\'', '\'', '\''] <:+: text.toList := by
  intro hrun
  obtain ⟨shape, hwithin⟩ := exists_run_within hrun
  have hle : max _ (shape.singleRun + 1 + 1 + 1) ≤ 2 := hwithin.singleQuotes.trans h
  omega

theorem isPlain_or_of_controls (h : (of text).controls = false) (hc : c ∈ text.toList) :
    isPlain c = true ∨ c = '\n' := by
  obtain ⟨shape, hwithin⟩ := exists_next_within hc
  have hnext : ¬ ((c < ' ' ∧ c ≠ '\t' ∧ c ≠ '\n') ∨ c = '\x7f') := fun hcontrol =>
    Bool.false_ne_true (h.symm.trans (hwithin.controls (by simp [next, hcontrol])))
  by_cases hle : ' ' ≤ c
  · exact Or.inl (decide_eq_true (Or.inr ⟨hle, fun hdel => hnext (Or.inr hdel)⟩))
  · by_contra hnot
    refine hnext (Or.inl ⟨Char.not_le.mp hle, ?_, fun hfeed => hnot (Or.inr hfeed)⟩)
    rintro rfl
    exact hnot (Or.inl rfl)

theorem notMem_of_lineFeed (h : (of text).lineFeed = false) : '\n' ∉ text.toList := by
  intro hmem
  obtain ⟨shape, hwithin⟩ := exists_next_within hmem
  have hnext : (next shape '\n').lineFeed = true := by simp [next]
  exact Bool.false_ne_true (h.symm.trans (hwithin.lineFeed hnext))

end StringShape

/-! ## Escapes -/

theorem lineBreak?_eq_none {c : Char} {rest : List Char} (hfeed : c ≠ '\n') (hreturn : c ≠ '\r') :
    lineBreak? (c :: rest) = none := by
  unfold lineBreak?
  split
  · rename_i heq
    exact absurd (List.cons.inj heq).1 hfeed
  · rename_i heq
    exact absurd (List.cons.inj heq).1 hreturn
  · rfl

/-- A backslash ends no line where it is followed by something to see. -/
theorem lineBreak?_skipBlank {c : Char} {rest : List Char} (hc : ' ' < c) :
    lineBreak? (skipBlank (c :: rest)) = none := by
  have hblank : ¬ (c = ' ' ∨ c = '\t') := by
    rintro (rfl | rfl) <;> exact absurd hc (by decide)
  rw [skipBlank, List.dropWhile_cons_of_neg (by simpa using hblank)]
  refine lineBreak?_eq_none ?_ ?_ <;> rintro rfl <;> exact absurd hc (by decide)

/-- A control character is read from its code point. -/
theorem exists_controlEscape {c : Char} (hc : c < ' ' ∨ c = '\x7f') :
    ∃ tail, controlEscape c = '\\' :: 'u' :: tail ∧
      ∀ rest, readEscape? ('u' :: tail ++ rest) = some (c, rest) := by
  have hsmall : ∀ n < 128, codePoint? ['0', '0', (Nat.digitChar (n / 16)).toUpper,
      (Nat.digitChar (n % 16)).toUpper] = some (Char.ofNat n) := by decide
  have hlt : c.toNat < 128 := by
    rcases hc with hc | rfl
    · exact Nat.lt_trans hc (by decide)
    · decide
  have hread := hsmall c.toNat hlt
  rw [Char.ofNat_toNat] at hread
  refine ⟨_, rfl, fun rest => ?_⟩
  simp only [List.cons_append, List.nil_append, readEscape?, hread]
  rfl

theorem escaped_cases (several : Bool) {c : Char} (hc : c ≠ '"') :
    (escaped several c = [c] ∧ isPlain c = true ∧ c ≠ '\\') ∨
      (several = true ∧ c = '\n' ∧ escaped several c = ['\n']) ∨
      ∃ mark tail, escaped several c = '\\' :: mark :: tail ∧ ' ' < mark ∧
        ∀ rest, readEscape? (mark :: tail ++ rest) = some (c, rest) := by
  unfold escaped
  split
  · rename_i h
    subst h
    exact Or.inr (Or.inr ⟨'b', [], rfl, by decide, fun _ => rfl⟩)
  split
  · rename_i h
    subst h
    exact Or.inr (Or.inr ⟨'t', [], rfl, by decide, fun _ => rfl⟩)
  split
  · rename_i h
    subst h
    cases several with
    | true => exact Or.inr (Or.inl ⟨rfl, rfl, rfl⟩)
    | false => exact Or.inr (Or.inr ⟨'n', [], rfl, by decide, fun _ => rfl⟩)
  split
  · rename_i h
    subst h
    exact Or.inr (Or.inr ⟨'f', [], rfl, by decide, fun _ => rfl⟩)
  split
  · rename_i h
    subst h
    exact Or.inr (Or.inr ⟨'r', [], rfl, by decide, fun _ => rfl⟩)
  split
  · rename_i h
    subst h
    exact Or.inr (Or.inr ⟨'\\', [], rfl, by decide, fun _ => rfl⟩)
  · rename_i hback
    split
    · rename_i h
      obtain ⟨tail, heq, hread⟩ := exists_controlEscape h
      exact Or.inr (Or.inr ⟨'u', tail, heq, by decide, hread⟩)
    · rename_i h
      obtain ⟨hlow, hdel⟩ := not_or.mp h
      exact Or.inl ⟨rfl, decide_eq_true (Or.inr ⟨Char.not_lt.mp hlow, hdel⟩), hback⟩

/-! ## What stands between the quotes -/

/-- What stands between quotes, and the characters it is there for. A line feed may stand there if
there are several lines, and so may a quote that two others do not follow. -/
inductive Written (quote : Char) (several : Bool) : List Char → List Char → Prop where
  | nil : Written quote several [] []
  | plain {c : Char} {written text : List Char} (hplain : isPlain c = true) (hquote : c ≠ quote)
      (hback : ¬ (c = '\\' ∧ quote = '"')) (rest : Written quote several written text) :
      Written quote several (c :: written) (c :: text)
  | lineFeed {written text : List Char} (hseveral : several = true)
      (rest : Written quote several written text) :
      Written quote several ('\n' :: written) ('\n' :: text)
  | quote {written text : List Char} (hseveral : several = true)
      (hrun : ¬ [quote, quote] <+: written) (rest : Written quote several written text) :
      Written quote several (quote :: written) (quote :: text)
  -- A blank behind the backslash would stand for the end of a line that is passed over.
  | escape {mark c : Char} {tail written text : List Char} (hquote : quote = '"')
      (hmark : ' ' < mark)
      (hread : ∀ rest, readEscape? (mark :: tail ++ rest) = some (c, rest))
      (rest : Written quote several written text) :
      Written quote several ('\\' :: mark :: tail ++ written) (c :: text)

section Written

variable {quote : Char} {several : Bool} {written text : List Char}

theorem Written.length_le (h : Written quote several written text) :
    text.length ≤ written.length := by
  induction h with
  | nil => exact Nat.le_refl _
  | plain _ _ _ _ ih | lineFeed _ _ ih | quote _ _ _ ih => exact Nat.succ_le_succ ih
  | escape _ _ _ _ ih =>
    simp only [List.length_cons, List.length_append]
    omega

/-- Single quotes stand around any text that has neither control characters nor them. On several
lines only three in a row are too many. -/
theorem written_plain (hrun : ¬ ['\'', '\'', '\''] <:+: text)
    (h : ∀ c ∈ text, (isPlain c = true ∧ c ≠ '\'') ∨
      (several = true ∧ (c = '\n' ∨ c = '\''))) : Written '\'' several text text := by
  induction text with
  | nil => exact .nil
  | cons c text ih =>
    obtain ⟨hc, htext⟩ := List.forall_mem_cons.mp h
    have hrest := ih (fun hinfix => hrun (List.infix_cons hinfix)) htext
    rcases hc with ⟨hplain, hquote⟩ | ⟨hseveral, rfl | rfl⟩
    · exact .plain hplain hquote (fun hback => absurd hback.2 (by decide)) hrest
    · exact .lineFeed hseveral hrest
    · refine .quote hseveral (fun hprefix => hrun ?_) hrest
      exact (List.cons_prefix_cons.mpr ⟨rfl, hprefix⟩).isInfix

/-- Escapes leave no more than two quotes in a row, counting those that stand before. -/
theorem add_le_two_of_prefix_escapeFrom {k run : Nat}
    (h : List.replicate (k + 1) '"' <+: escapeFrom several run text) : run + (k + 1) ≤ 2 := by
  induction text generalizing k run with
  | nil => exact absurd (List.prefix_nil.mp h) (List.cons_ne_nil _ _)
  | cons c text ih =>
    rw [escapeFrom, List.replicate_succ] at h
    by_cases hquote : c = '"'
    · rw [if_pos hquote] at h
      by_cases hrun : run < if several = true then 2 else 0
      · rw [if_pos hrun] at h
        have hlt : run < 2 := by
          split at hrun <;> omega
        cases k with
        | zero => exact hlt
        | succ k =>
          have hle := ih (List.cons_prefix_cons.mp h).2
          omega
      · rw [if_neg hrun] at h
        exact absurd (List.cons_prefix_cons.mp h).1 (by decide)
    · rw [if_neg hquote] at h
      rcases escaped_cases several hquote with ⟨heq, -⟩ | ⟨-, -, heq⟩ | ⟨mark, tail, heq, -⟩ <;>
        rw [heq] at h <;> have hhead := (List.cons_prefix_cons.mp h).1
      · exact absurd hhead.symm hquote
      · exact absurd hhead (by decide)
      · exact absurd hhead (by decide)

/-- Double quotes stand around any text with what needs an escape replaced. -/
theorem written_escapeFrom (several : Bool) (run : Nat) (text : List Char) :
    Written '"' several (escapeFrom several run text) text := by
  induction text generalizing run with
  | nil => exact .nil
  | cons c text ih =>
    rw [escapeFrom]
    by_cases hquote : c = '"'
    · subst hquote
      rw [if_pos rfl]
      by_cases hrun : run < if several = true then 2 else 0
      · rw [if_pos hrun]
        cases several with
        | true =>
          refine .quote rfl (fun hprefix => ?_) (ih (run + 1))
          have hle := @add_le_two_of_prefix_escapeFrom true text 1 (run + 1) hprefix
          omega
        | false => exact absurd hrun (Nat.not_lt_zero run)
      · rw [if_neg hrun]
        exact @Written.escape _ _ '"' '"' [] _ _ rfl (by decide) (fun _ => rfl) (ih 0)
    · rw [if_neg hquote]
      rcases escaped_cases several hquote with ⟨heq, hplain, hback⟩ | ⟨hseveral, rfl, heq⟩ |
        ⟨mark, tail, heq, hmark, hread⟩ <;> rw [heq]
      · exact .plain hplain hquote (fun h => hback h.1) (ih 0)
      · exact .lineFeed hseveral (ih 0)
      · exact .escape rfl hmark hread (ih 0)

/-- Where nothing but quotes is written, they are there for themselves. -/
theorem Written.eq_replicate (hquote : quote = '"' ∨ quote = '\'')
    (h : Written quote several written text) {k : Nat} (hk : written = List.replicate k quote) :
    text = List.replicate k quote := by
  have hmem : ∀ c ∈ written, c = quote := fun c hc => List.eq_of_mem_replicate (hk ▸ hc)
  have hself : text = written := by
    clear hk
    induction h with
    | nil => rfl
    | plain _ hne _ _ _ => exact absurd (hmem _ List.mem_cons_self) hne
    | lineFeed _ _ _ =>
      have hfeed := hmem _ List.mem_cons_self
      rcases hquote with rfl | rfl <;> cases hfeed
    | quote _ _ _ ih => rw [ih fun c hc => hmem c (List.mem_cons_of_mem _ hc)]
    | escape _ _ _ _ _ =>
      have hback := hmem _ List.mem_cons_self
      rcases hquote with rfl | rfl <;> cases hback
  exact hself.trans hk

/-! ## Reading -/

variable {done rest : List Char} {steps : Nat}

/-- On one line a string is read up to its quote. -/
theorem readLine?_written (h : Written quote false written text) (hsteps : text.length < steps) :
    readLine? quote done steps (written ++ quote :: rest) =
      some (String.ofList (done.reverse ++ text), rest) := by
  induction h generalizing done steps with
  | nil =>
    obtain ⟨steps, rfl⟩ := Nat.exists_eq_add_of_le' hsteps
    simp [readLine?]
  | @plain c written text hplain hquote hback _ ih =>
    obtain ⟨steps, rfl⟩ := Nat.exists_eq_add_of_le' (Nat.zero_lt_of_lt hsteps)
    rw [List.cons_append, readLine?, if_neg hquote, if_neg hback, if_pos hplain,
      ih (Nat.lt_of_succ_lt_succ hsteps), List.reverse_cons, List.append_assoc]
    rfl
  | lineFeed hseveral _ _ | quote hseveral _ _ _ => cases hseveral
  | @escape mark c tail written text hquote _ hread _ ih =>
    obtain ⟨steps, rfl⟩ := Nat.exists_eq_add_of_le' (Nat.zero_lt_of_lt hsteps)
    subst hquote
    have hstep : readLine? '"' done (steps + 1) ('\\' :: mark :: tail ++ written ++ '"' :: rest) =
        readLine? '"' (c :: done) steps (written ++ '"' :: rest) := by
      rw [List.append_assoc, List.cons_append, readLine?, if_neg (by decide), if_pos ⟨rfl, rfl⟩,
        hread]
      rfl
    rw [hstep, ih (Nat.lt_of_succ_lt_succ hsteps), List.reverse_cons, List.append_assoc]
    rfl

/-- The quotes at the front are counted up to the first other character. -/
theorem takeWhile_replicate {k : Nat} (hrest : ∀ c ∈ rest.head?, c ≠ quote) :
    (List.replicate k quote ++ rest).takeWhile (· = quote) = List.replicate k quote := by
  refine Text.takeWhile_run (by simp) fun c hc => ?_
  simpa using hrest c hc

/-- Either nothing but up to two quotes is written, or other characters keep them apart from the
three at the end. -/
theorem quotes_cases (hrun : ¬ [quote, quote, quote] <+: written) :
    (∃ k ≤ 2, written = List.replicate k quote) ∨
      ((written ++ rest).takeWhile (· = quote)).length < 3 := by
  have hspan : ∃ k after, written = List.replicate k quote ++ after ∧
      ∀ c ∈ after.head?, c ≠ quote := by
    clear hrun
    induction written with
    | nil => exact ⟨0, [], rfl, by simp⟩
    | cons c written ih =>
      by_cases hc : c = quote
      · obtain ⟨k, after, rfl, hafter⟩ := ih
        exact ⟨k + 1, after, by rw [hc, List.replicate_succ, List.cons_append], hafter⟩
      · exact ⟨0, c :: written, rfl, by simpa using hc⟩
  obtain ⟨k, after, rfl, hafter⟩ := hspan
  have hk : k ≤ 2 := by
    by_contra hlong
    obtain ⟨k, rfl⟩ := Nat.exists_eq_add_of_le (Nat.lt_of_not_le hlong)
    refine hrun ⟨List.replicate k quote ++ after, ?_⟩
    rw [List.replicate_add, List.append_assoc]
    rfl
  cases after with
  | nil => exact Or.inl ⟨k, hk, List.append_nil _⟩
  | cons c after =>
    right
    rw [List.append_assoc, takeWhile_replicate (by simpa using hafter), List.length_replicate]
    omega

/-- Three quotes end a string, and up to two before them belong to it. -/
theorem readLines?_end {k : Nat} (hk : k ≤ 2) (hrest : ∀ c ∈ rest.head?, c ≠ quote) :
    readLines? quote done (steps + 1)
        (List.replicate k quote ++ quote :: quote :: quote :: rest) =
      some (String.ofList (done.reverse ++ List.replicate k quote), rest) := by
  have hseen : List.replicate k quote ++ quote :: quote :: quote :: rest =
      List.replicate (k + 3) quote ++ rest := by
    rw [List.replicate_add, List.append_assoc]
    rfl
  have hcount : ((List.replicate (k + 3) quote ++ rest).takeWhile (· = quote)).length = k + 3 := by
    rw [takeWhile_replicate hrest, List.length_replicate]
  have hdrop : (List.replicate (k + 3) quote ++ rest).drop (k + 3) = rest :=
    List.drop_left' List.length_replicate
  have hkept : min (k + 3) 5 = k + 3 := by omega
  rw [hseen, List.replicate_succ, List.cons_append, readLines?, if_pos rfl, ← List.cons_append,
    ← List.replicate_succ, hcount, if_pos (by omega), hkept]
  simp only [hdrop, Nat.add_sub_cancel]

/-- On several lines it is read up to three quotes. -/
theorem readLines?_written (hquote : quote = '"' ∨ quote = '\'')
    (h : Written quote true written text) (hrest : ∀ c ∈ rest.head?, c ≠ quote)
    (hsteps : text.length < steps) :
    readLines? quote done steps (written ++ quote :: quote :: quote :: rest) =
      some (String.ofList (done.reverse ++ text), rest) := by
  induction h generalizing done steps with
  | nil =>
    obtain ⟨steps, rfl⟩ := Nat.exists_eq_add_of_le' hsteps
    exact @readLines?_end quote done rest steps 0 (by decide) hrest
  | @plain c written text hplain hne hback _ ih =>
    obtain ⟨steps, rfl⟩ := Nat.exists_eq_add_of_le' (Nat.zero_lt_of_lt hsteps)
    have hbreak : lineBreak? (c :: (written ++ quote :: quote :: quote :: rest)) = none := by
      refine lineBreak?_eq_none ?_ ?_ <;> rintro rfl <;> exact absurd hplain (by decide)
    rw [List.cons_append, readLines?, if_neg hne, if_neg hback, hbreak]
    simp only [hplain, if_true]
    rw [ih (Nat.lt_of_succ_lt_succ hsteps), List.reverse_cons, List.append_assoc]
    rfl
  | @lineFeed written text _ _ ih =>
    obtain ⟨steps, rfl⟩ := Nat.exists_eq_add_of_le' (Nat.zero_lt_of_lt hsteps)
    have hne : '\n' ≠ quote := by rcases hquote with rfl | rfl <;> decide
    rw [List.cons_append, readLines?, if_neg hne, if_neg (by simp)]
    simp only [lineBreak?]
    rw [ih (Nat.lt_of_succ_lt_succ hsteps), List.reverse_cons, List.append_assoc]
    rfl
  | @quote written text hseveral hrun hwritten ih =>
    -- The last quotes of the string are read together with those that end it.
    rcases @quotes_cases quote (quote :: written) (quote :: quote :: quote :: rest)
      (by simpa using hrun) with ⟨k, hk, heq⟩ | hfew
    · have htext := (Written.quote hseveral hrun hwritten).eq_replicate hquote heq
      obtain ⟨steps, rfl⟩ := Nat.exists_eq_add_of_le' (Nat.zero_lt_of_lt hsteps)
      rw [heq, htext]
      exact readLines?_end hk hrest
    · obtain ⟨steps, rfl⟩ := Nat.exists_eq_add_of_le' (Nat.zero_lt_of_lt hsteps)
      rw [List.cons_append, readLines?, if_pos rfl, ← List.cons_append, if_neg (by omega),
        ih (Nat.lt_of_succ_lt_succ hsteps), List.reverse_cons, List.append_assoc]
      rfl
  | @escape mark c tail written text hdouble hmark hread _ ih =>
    obtain ⟨steps, rfl⟩ := Nat.exists_eq_add_of_le' (Nat.zero_lt_of_lt hsteps)
    subst hdouble
    rw [List.append_assoc, List.cons_append, readLines?, if_neg (by decide), if_pos ⟨rfl, rfl⟩,
      List.cons_append, lineBreak?_skipBlank hmark, ← List.cons_append, hread]
    simp only [Option.bind_eq_bind, Option.bind_some]
    rw [ih (Nat.lt_of_succ_lt_succ hsteps), List.reverse_cons, List.append_assoc]
    rfl

/-! ## All forms -/

theorem readString?_line (hquote : quote = '"' ∨ quote = '\'')
    (h : Written quote false written text) (hrest : ∀ c ∈ rest.head?, c ≠ quote) :
    readString? (quote :: (written ++ quote :: rest)) = some (String.ofList text, rest) := by
  have hpair : ¬ [quote, quote] <+: written ++ quote :: rest := by
    intro hprefix
    cases h with
    | nil =>
      obtain ⟨after, heq⟩ := (List.cons_prefix_cons.mp hprefix).2
      exact hrest quote (heq ▸ rfl) rfl
    | plain _ hne _ _ => exact hne (List.cons_prefix_cons.mp hprefix).1.symm
    | lineFeed hseveral _ | quote hseveral _ _ => cases hseveral
    | escape _ _ _ _ =>
      have hback := (List.cons_prefix_cons.mp hprefix).1
      rcases hquote with rfl | rfl <;> cases hback
  have hsteps : text.length < (written ++ quote :: rest).length + 1 := by
    have hle := h.length_le
    rw [List.length_append]
    omega
  have hread := @readLine?_written _ _ _ [] rest _ h hsteps
  unfold readString?
  simp only [if_pos hquote]
  split
  · rename_i d e after heq
    rw [if_neg]
    · exact hread
    · rintro ⟨rfl, rfl⟩
      exact hpair (heq ▸ ⟨after, rfl⟩)
  · exact hread

theorem readString?_lines {lead : List Char} (hquote : quote = '"' ∨ quote = '\'')
    (h : Written quote true written text) (hrest : ∀ c ∈ rest.head?, c ≠ quote)
    (hlead : lead = ['\n'] ∨ (lead = [] ∧ '\n' ∉ text)) :
    readString? (quote :: quote :: quote ::
        (lead ++ (written ++ quote :: quote :: quote :: rest))) =
      some (String.ofList text, rest) := by
  have hnone (hfeed : '\n' ∉ text) :
      lineBreak? (written ++ quote :: quote :: quote :: rest) = none := by
    have hfront : ∀ after, lineBreak? (quote :: after) = none := fun _ => by
      rcases hquote with rfl | rfl <;> rfl
    cases h with
    | nil | quote _ _ _ => exact hfront _
    | plain hplain _ _ _ =>
      refine lineBreak?_eq_none ?_ ?_ <;> rintro rfl <;> exact absurd hplain (by decide)
    | lineFeed _ _ => exact absurd List.mem_cons_self hfeed
    | escape _ _ _ _ => rfl
  have hbreak : (lineBreak? (lead ++ (written ++ quote :: quote :: quote :: rest))).getD
      (lead ++ (written ++ quote :: quote :: quote :: rest)) =
        written ++ quote :: quote :: quote :: rest := by
    rcases hlead with rfl | ⟨rfl, hfeed⟩
    · rfl
    · rw [List.nil_append, hnone hfeed, Option.getD_none]
  have hsteps : text.length <
      (lead ++ (written ++ quote :: quote :: quote :: rest)).length + 1 := by
    have hle := h.length_le
    simp only [List.length_append, List.length_cons]
    omega
  have hread := @readLines?_written _ _ _ [] rest _ hquote h hrest hsteps
  rw [readString?, if_pos hquote]
  simp only [and_self, if_true]
  rw [hbreak, hread, List.reverse_nil, List.nil_append]

end Written

/-- A string that has been written is read back, whatever stands after it but a quote. -/
theorem readString?_stringText (text : String) {rest : List Char}
    (hrest : ∀ c ∈ rest.head?, c ≠ '"' ∧ c ≠ '\'') :
    readString? ((stringText text).toList ++ rest) = some (text, rest) := by
  have hdouble : ∀ c ∈ rest.head?, c ≠ '"' := fun c hc => (hrest c hc).1
  have hsingle : ∀ c ∈ rest.head?, c ≠ '\'' := fun c hc => (hrest c hc).2
  simp only [stringText]
  generalize hlead : (if (StringShape.of text).lineFeed = true then "\n" else "") = lead
  have hlead : lead.toList = ['\n'] ∨ (lead.toList = [] ∧ '\n' ∉ text.toList) := by
    cases h : (StringShape.of text).lineFeed with
    | true => exact Or.inl (by rw [← hlead, h]; rfl)
    | false => exact Or.inr ⟨by rw [← hlead, h]; rfl, StringShape.notMem_of_lineFeed h⟩
  have hbasic := readString?_line (Or.inl rfl) (written_escapeFrom false 0 text.toList) hdouble
  have hlines :=
    readString?_lines (Or.inl rfl) (written_escapeFrom true 0 text.toList) hdouble hlead
  split
  · simpa using hbasic
  split
  · rename_i h
    obtain ⟨hcontrols, hnone, hfeed⟩ := h
    have hwritten : Written '\'' false text.toList text.toList := by
      refine written_plain (StringShape.not_infix_of_singleQuotes (by omega)) fun c hc => Or.inl ?_
      have hplain := StringShape.isPlain_or_of_controls (by simpa using hcontrols) hc
      refine ⟨hplain.resolve_right ?_, ?_⟩
      · rintro rfl
        exact StringShape.notMem_of_lineFeed (by simpa using hfeed) hc
      · rintro rfl
        exact StringShape.notMem_of_singleQuotes hnone hc
    simpa using readString?_line (Or.inr rfl) hwritten hsingle
  split
  · simpa using hlines
  split
  · rename_i h
    obtain ⟨hcontrols, hfew⟩ := h
    have hwritten : Written '\'' true text.toList text.toList := by
      refine written_plain (StringShape.not_infix_of_singleQuotes hfew) fun c hc => ?_
      rcases StringShape.isPlain_or_of_controls (by simpa using hcontrols) hc with hplain | hfeed
      · by_cases hquote : c = '\''
        · exact Or.inr ⟨rfl, Or.inr hquote⟩
        · exact Or.inl ⟨hplain, hquote⟩
      · exact Or.inr ⟨rfl, Or.inl hfeed⟩
    simpa using readString?_lines (Or.inr rfl) hwritten hsingle hlead
  split
  · simpa using hlines
  · simpa using hbasic

end Domotics.Toml
