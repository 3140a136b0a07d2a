import Domotics.Proofs.Toml.Values
/-!
# Documents are read as they were written

A document is read line by line. `Reads` says what a text is read as after a draft, with at least as
many steps as there are characters, so that a line is a step whatever its length (`Reads.comment`,
`Reads.header`, `Reads.pair`). The lines of a section make a table of its values
(`Section.Proper.reads`), and those of a document a table for each of its sections
(`reads_documentText`). Names have to differ and to need no quotes, and numbers must have a place
(`Section.Proper`).
-/

namespace Domotics.Toml

/-- What is read from a text after a draft. -/
def Reads (draft : Draft) (text : List Char) (entries : Entries) : Prop :=
  ∀ steps, text.length < steps → draft.readLines? steps text = some entries

/-- The table of a section. -/
def Section.entry (part : Section) : String × Node :=
  (part.name, .table .header (part.values.map fun (key, value) => (key, value.node)))

/-- Whether a section can be read back. -/
structure Section.Proper (part : Section) : Prop where
  name : IsBare part.name
  keys : ∀ entry ∈ part.values, IsBare entry.1
  nodup : (part.values.map Prod.fst).Nodup
  values : ∀ entry ∈ part.values, entry.2.Fits

/-- The line of a value. -/
def lineOf (key : String) (value : Scalar) : List Char :=
  key.toList ++ ' ' :: '=' :: ' ' :: (value.text.toList ++ ['\n'])

theorem toList_text (part : Section) : part.text.toList =
    '[' :: part.name.toList ++ ']' :: '\n' :: part.values.flatMap fun (key, value) =>
      lineOf key value := by
  have hfold (values : List (String × Scalar)) (start : String) :
      (values.foldl (fun out (key, value) => out ++ key ++ " = " ++ value.text ++ "\n")
        start).toList = start.toList ++ values.flatMap fun (key, value) => lineOf key value := by
    induction values generalizing start with
    | nil => simp
    | cons entry values ih =>
      rw [List.foldl_cons, ih]
      simp [lineOf]
  rw [Section.text, hfold]
  simp

section Lines

variable {draft : Draft} {entries done : Entries} {rest : List Char}

theorem lineEnd?_lineFeed (rest : List Char) : lineEnd? ('\n' :: rest) = some rest := rfl

/-- One line takes one step and at least one character. -/
theorem Reads.step {draft' : Draft} {text : List Char} (h : Reads draft' rest entries)
    (hlength : rest.length < text.length)
    (hline : ∀ steps, draft.readLines? (steps + 1) text = draft'.readLines? steps rest) :
    Reads draft text entries := by
  intro steps hsteps
  obtain ⟨steps, rfl⟩ := Nat.exists_eq_add_of_le' (Nat.zero_lt_of_lt hsteps)
  rw [hline]
  exact h steps (by omega)

theorem Reads.blank (h : Reads draft rest entries) : Reads draft ('\n' :: rest) entries :=
  h.step (Nat.lt_succ_self _) fun _ => rfl

/-- A header opens a table that is not there yet. -/
theorem Reads.header {name : String} (hname : IsBare name)
    (hnew : draft.entries.lookup name = none)
    (h : Reads ⟨draft.entries ++ [(name, .table .header [])], [name]⟩ rest entries) :
    Reads draft ('[' :: name.toList ++ ']' :: '\n' :: rest) entries := by
  obtain ⟨c, chars, heq, hc⟩ := hname.exists_toList_eq_cons
  have hkey : readKey? [] depthLimit (name.toList ++ ']' :: '\n' :: rest) =
      some (([], name), ']' :: '\n' :: rest) :=
    readKey?_bare hname (by simp; decide) (by simp [skipBlank])
  have hopen : openTable [] name draft.entries =
      some (draft.entries ++ [(name, .table .header [])]) := by
    simp [openTable, editAt, hnew]
  have hread : draft.readHeader? (name.toList ++ ']' :: '\n' :: rest) =
      some (⟨draft.entries ++ [(name, .table .header [])], [name]⟩, rest) := by
    rw [Draft.readHeader?]
    · simp [hkey, expect?, hopen, lineEnd?_lineFeed]
    · -- A second bracket would open an element of a list of tables.
      rw [heq]
      exact fun _ hfirst => ne_of_isKeyChar hc (by decide) (List.cons.inj hfirst).1
  refine h.step (by simp; omega) fun steps => ?_
  change (draft.readHeader? (name.toList ++ ']' :: '\n' :: rest)).bind
    (fun read => read.1.readLines? steps read.2) = _
  rw [hread]
  rfl

theorem addKey_new {key : String} {node : Node} (hnew : entries.lookup key = none) :
    addKey [] key node entries = some (entries ++ [(key, node)]) := by
  simp [addKey, editAt, hnew]

theorem replace_append_singleton {key : String} {node node' : Node}
    (hnew : done.lookup key = none) :
    replace key node' (done ++ [(key, node)]) = done ++ [(key, node')] := by
  have hsame : ∀ entry ∈ done, (if entry.1 = key then (key, node') else entry) = entry := by
    intro entry hentry
    have hne := List.lookup_eq_none_iff.mp hnew entry hentry
    exact if_neg fun heq => by simp [heq] at hne
  rw [replace, List.map_append, List.map_congr_left hsame, List.map_id']
  simp

/-- A line that begins like a key is read as a key with its value. -/
theorem readLines?_pair {draft' : Draft} {c : Char} {tail : List Char} {steps : Nat}
    (hc : isKeyChar c = true) (h : draft.readPair? (c :: tail) = some (draft', rest)) :
    draft.readLines? (steps + 1) (c :: tail) = draft'.readLines? steps rest := by
  have hskip : ¬ (c = '#' ∨ c = '\n' ∨ c = '\r') := by
    simp only [not_or]
    exact ⟨ne_of_isKeyChar hc (by decide), ne_of_isKeyChar hc (by decide),
      ne_of_isKeyChar hc (by decide)⟩
  rw [Draft.readLines?.eq_def]
  simp only [skipBlank_of_isKeyChar hc]
  split
  · rename_i hnil
    cases hnil
  · rename_i hbracket
    exact absurd (List.cons.inj hbracket).1 (ne_of_isKeyChar hc (by decide))
  · rename_i heq
    obtain ⟨rfl, rfl⟩ := List.cons.inj heq
    rw [if_neg hskip, h]
    rfl

/-- A line with a value adds it to the table that is open. -/
theorem Reads.pair {name key : String} {value : Scalar} {inner : Entries} (hkey : IsBare key)
    (hfits : value.Fits) (hnew : inner.lookup key = none) (hname : done.lookup name = none)
    (h : Reads ⟨done ++ [(name, .table .header (inner ++ [(key, value.node)]))], [name]⟩ rest
      entries) :
    Reads ⟨done ++ [(name, .table .header inner)], [name]⟩ (lineOf key value ++ rest) entries := by
  obtain ⟨c, chars, heq, hc⟩ := hkey.exists_toList_eq_cons
  have htext : lineOf key value ++ rest =
      key.toList ++ ' ' :: '=' :: ' ' :: (value.text.toList ++ '\n' :: rest) := by
    simp [lineOf]
  have hread : readKey? [] depthLimit (lineOf key value ++ rest) =
      some (([], key), '=' :: ' ' :: (value.text.toList ++ '\n' :: rest)) := by
    rw [htext]
    exact readKey?_bare hkey (by simp; decide) (by simp [skipBlank])
  have hblank : skipBlank (' ' :: (value.text.toList ++ '\n' :: rest)) =
      value.text.toList ++ '\n' :: rest := skipBlank_text value ('\n' :: rest)
  have hvalue := @readValue?_text depthLimit (2 * (lineOf key value ++ rest).length + 1) value
    hfits rest
  have hedit : editAt false (fun _ entries => addKey [] key value.node entries) .header [name]
      (done ++ [(name, .table .header inner)]) =
        some (done ++ [(name, .table .header (inner ++ [(key, value.node)]))]) := by
    simp [editAt, List.lookup_append, hname, addKey_new hnew, replace_append_singleton hname]
  have hpair : Draft.readPair? ⟨done ++ [(name, .table .header inner)], [name]⟩
      (lineOf key value ++ rest) =
      some (⟨done ++ [(name, .table .header (inner ++ [(key, value.node)]))], [name]⟩, rest) := by
    simp only [Draft.readPair?, hread, expect?, hblank, hvalue, hedit, lineEnd?_lineFeed,
      Option.bind_eq_bind, Option.bind_some, if_true, Option.pure_def]
  obtain ⟨tail, htail⟩ : ∃ tail, lineOf key value ++ rest = c :: tail :=
    ⟨_, by rw [htext, heq]; rfl⟩
  refine h.step (by simp [lineOf]; omega) fun steps => ?_
  rw [htail] at hpair ⊢
  exact readLines?_pair hc hpair

end Lines

/-! ## Sections -/

theorem lookup_append_singleton_of_ne {done : Entries} {key other : String} {node : Node}
    (hnew : done.lookup other = none) (hne : other ≠ key) :
    (done ++ [(key, node)]).lookup other = none := by
  rw [List.lookup_append, hnew, List.lookup_cons, beq_false_of_ne hne]
  rfl

/-- The lines of values add them to the table that is open. -/
theorem reads_values {values : List (String × Scalar)} {name : String} {done inner : Entries}
    {rest : List Char} {entries : Entries} (hkeys : ∀ entry ∈ values, IsBare entry.1)
    (hfits : ∀ entry ∈ values, entry.2.Fits) (hnodup : (values.map Prod.fst).Nodup)
    (hnew : ∀ entry ∈ values, inner.lookup entry.1 = none) (hname : done.lookup name = none)
    (h : Reads ⟨done ++ [(name, .table .header
      (inner ++ values.map fun (key, value) => (key, value.node)))], [name]⟩ rest entries) :
    Reads ⟨done ++ [(name, .table .header inner)], [name]⟩
      ((values.flatMap fun (key, value) => lineOf key value) ++ rest) entries := by
  induction values generalizing inner with
  | nil => simpa using h
  | cons entry values ih =>
    obtain ⟨key, value⟩ := entry
    obtain ⟨hkey, hkeys⟩ := List.forall_mem_cons.mp hkeys
    obtain ⟨hfit, hfits⟩ := List.forall_mem_cons.mp hfits
    obtain ⟨hfirst, hnew⟩ := List.forall_mem_cons.mp hnew
    obtain ⟨hnot, hnodup⟩ := List.nodup_cons.mp hnodup
    rw [List.flatMap_cons, List.append_assoc]
    refine Reads.pair hkey hfit hfirst hname (ih hkeys hfits hnodup ?_ ?_)
    · intro entry hentry
      have hne : entry.1 ≠ key := fun heq => hnot (List.mem_map.mpr ⟨entry, hentry, heq⟩)
      exact lookup_append_singleton_of_ne (hnew entry hentry) hne
    · simpa using h

/-- The lines of a section add its table. -/
theorem Section.Proper.reads {part : Section} (hproper : part.Proper) {done entries : Entries}
    {current : List String} {rest : List Char} (hnew : done.lookup part.name = none)
    (h : Reads ⟨done ++ [part.entry], [part.name]⟩ rest entries) :
    Reads ⟨done, current⟩ (part.text.toList ++ rest) entries := by
  rw [toList_text]
  simp only [List.append_assoc, List.cons_append]
  refine Reads.header hproper.name hnew ?_
  exact reads_values hproper.keys hproper.values hproper.nodup (fun _ _ => rfl) hnew h

/-- A document that begins with no byte order mark is read from an empty draft. -/
theorem Reads.read? {text : String} {entries : Entries} (h : Reads ⟨[], []⟩ text.toList entries)
    (hmark : text.toList.head? ≠ some '\ufeff') : read? text = some entries := by
  unfold Toml.read?
  split
  · rename_i hfirst
    rw [hfirst] at hmark
    exact absurd rfl hmark
  · exact h _ (Nat.lt_succ_self _)

end Domotics.Toml
