import Domotics.Command
import Domotics.Proofs.Decimal
import Domotics.Proofs.Text.Scanning
import Domotics.Proofs.Text.Words
/-!
# The language of commands

A line is read as its words, and `Command.Says` lists what these may be. `parse` takes just the
lines whose words say a command, and gives this command (`ofWords_eq_ok_iff`). A number of an item
(`Text.Numeral`) has as many digits as one likes, but its value has to be one of 32 bits; a greater
one is refused and never wrapped.

`grammatical_parse` puts this together with the way back: each command other than that for a number
has words that say it, and every line of these words is understood, whatever white space is in it.
-/

namespace Domotics

namespace Command

/-- What words say a command. -/
inductive Says : List String → Command → Prop
  | listen {word : String} {id : ItemId} (hid : Text.Numeral word.toList id.toInt) :
    Says ["listen", word] (.startListening id)
  | unlisten {word : String} {id : ItemId} (hid : Text.Numeral word.toList id.toInt) :
    Says ["unlisten", word] (.stopListening id)
  | on {word value : String} {id : ItemId} (hid : Text.Numeral word.toList id.toInt)
    (hvalue : value = "on" ∨ value = "true") : Says ["set", word, value] (.setBinary id true)
  | off {word value : String} {id : ItemId} (hid : Text.Numeral word.toList id.toInt)
    (hvalue : value = "off" ∨ value = "false") : Says ["set", word, value] (.setBinary id false)
  | number {word value : String} {id : ItemId} {x : Binary64}
    (hid : Text.Numeral word.toList id.toInt) (hvalue : Decimal.Literal value x) :
    Says ["set", word, value] (.setDecimal id x)
  | ping : Says ["ping"] .ping
  | url (word : String) : Says ["url", word] (.setUrl word)
  | reconnect : Says ["reconnect"] .reconnect
  | quit : Says ["quit"] .quit
  | q : Says ["q"] .quit

/-- The words for a command. There are many for a number that a device is given, and none for an
address that has white space in it. -/
def words? : Command → Option (List String)
  | startListening id => some ["listen", toString id]
  | stopListening id => some ["unlisten", toString id]
  | setBinary id on => some ["set", toString id, if on then "on" else "off"]
  | setDecimal _ _ => none
  | ping => some ["ping"]
  | setUrl url => if Text.IsWord url then some ["url", url] else none
  | reconnect => some ["reconnect"]
  | quit => some ["quit"]

/-- What is expected of a reader of commands. -/
structure Grammatical (parse : String → Except Error Command) : Prop where
  /-- White space is what Unicode says. -/
  blank : ∀ c : Char, Text.isBlank c = true ↔ c.toNat ∈ Text.whiteSpace
  /-- A line is words with white space around them in one way. -/
  spaced : ∀ line : String, ∃! words, Text.Spaced line.toList words
  /-- Only the words matter to what is read, and they have to say it. -/
  ok_iff : ∀ {line : String} {words}, Text.Spaced line.toList words →
    ∀ command, parse line = .ok command ↔ Says words command
  /-- Any other line is a fault of what was given. -/
  error : ∀ {line : String} {words}, Text.Spaced line.toList words →
    (∀ command, ¬ Says words command) → ∃ reason, parse line = .error (.config reason)
  /-- The number of an item is looked at first, and its value has to fit. -/
  id : ∀ {line : String} {word value}, Text.Spaced line.toList ["set", word, value] →
    (∀ id : ItemId, ¬ Text.Numeral word.toList id.toInt) →
    parse line = .error (.config s!"invalid item id: {word}")
  value : ∀ {line : String} {word value} {id : ItemId},
    Text.Spaced line.toList ["set", word, value] → Text.Numeral word.toList id.toInt →
    (∀ command, ¬ Says ["set", word, value] command) →
    parse line = .error (.config s!"invalid value: {value}")
  /-- What is written down for a command is read as the command, with any white space in it. -/
  words : ∀ {command words}, command.words? = some words →
    Text.Spaced (" ".intercalate words).toList words ∧
      ∀ line : String, Text.Spaced line.toList words → parse line = .ok command

variable {word value line : String} {id : ItemId} {words : List String} {command : Command}

/-! ## Numbers of items -/

/-- A value of 32 bits is kept, and any other is refused. -/
theorem readId?_eq_some_iff : readId? word = some id ↔ Text.Numeral word.toList id.toInt := by
  have hmin : Int32.minValue.toInt = -2 ^ 31 := rfl
  have hmax : Int32.maxValue.toInt = 2 ^ 31 - 1 := rfl
  have hread : readId? word =
      if (Text.splitSign word.toList).2 ≠ [] ∧
          (Text.splitSign word.toList).2.all Char.isDigit = true then
        let value :=
          Text.signedValue (Text.splitSign word.toList).1 (Text.splitSign word.toList).2
        if Int32.minValue.toInt ≤ value ∧ value ≤ Int32.maxValue.toInt then
          some (Int32.ofInt value) else none
      else none := rfl
  rw [hmin, hmax] at hread
  rw [hread, Text.numeral_iff]
  generalize Text.signedValue _ _ = value
  constructor
  · intro h
    split at h
    · rename_i hdigits
      dsimp only at h
      split at h
      · rename_i hfits
        obtain rfl := Option.some.inj h
        exact ⟨hdigits, Int32.toInt_ofInt_of_le hfits.1 (by omega)⟩
      · cases h
    · cases h
  · rintro ⟨hdigits, rfl⟩
    dsimp only
    rw [if_pos hdigits, if_pos, Int32.ofInt_toInt]
    exact ⟨id.le_toInt, Int.le_sub_one_of_lt id.toInt_lt⟩

theorem readId_eq_ok_iff : readId word = .ok id ↔ Text.Numeral word.toList id.toInt := by
  rw [← readId?_eq_some_iff, readId]
  cases readId? word <;> simp

/-- What is no number of an item is shown in the error. -/
theorem readId_of_not (h : ∀ id : ItemId, ¬ Text.Numeral word.toList id.toInt) :
    readId word = .error (.config s!"invalid item id: {word}") := by
  have hnone : readId? word = none :=
    Option.eq_none_iff_forall_ne_some.mpr fun id hid => h id (readId?_eq_some_iff.mp hid)
  rw [readId, hnone]

theorem readId_cases (word : String) :
    (∃ id : ItemId, Text.Numeral word.toList id.toInt ∧ readId word = .ok id) ∨
      (∀ id : ItemId, ¬ Text.Numeral word.toList id.toInt) ∧
        readId word = .error (.config s!"invalid item id: {word}") := by
  by_cases h : ∃ id : ItemId, Text.Numeral word.toList id.toInt
  · obtain ⟨id, hid⟩ := h
    exact Or.inl ⟨id, hid, readId_eq_ok_iff.mpr hid⟩
  · have hnone := not_exists.mp h
    exact Or.inr ⟨hnone, readId_of_not hnone⟩

/-- The number of an item as it is printed. -/
theorem numeral_id (id : ItemId) : Text.Numeral (toString id).toList id.toInt :=
  Text.numeral_toString id.toInt

/-! ## Values of devices -/

/-- The words for a switch are no numbers. -/
theorem read?_switch (h : (value = "on" ∨ value = "true") ∨ value = "off" ∨ value = "false") :
    Decimal.read? value = none := by
  rcases h with (rfl | rfl) | rfl | rfl <;> decide +kernel

theorem readSet_cases (id : ItemId) (value : String) :
    (∃ command, readSet id value = .ok command) ∨
      readSet id value = .error (.config s!"invalid value: {value}") := by
  unfold readSet
  split
  · exact Or.inl ⟨_, rfl⟩
  · split
    · exact Or.inl ⟨_, rfl⟩
    · split
      · exact Or.inl ⟨_, rfl⟩
      · exact Or.inr rfl

theorem says_of_readSet (hid : Text.Numeral word.toList id.toInt)
    (h : readSet id value = .ok command) : Says ["set", word, value] command := by
  unfold readSet at h
  split at h
  · rename_i hon
    obtain rfl := Except.ok.inj h
    exact .on hid hon
  · split at h
    · rename_i hoff
      obtain rfl := Except.ok.inj h
      exact .off hid hoff
    · split at h
      · rename_i hread
        obtain rfl := Except.ok.inj h
        exact .number hid (Decimal.read?_eq_some_iff.mp hread)
      · cases h

theorem readSet_on (hvalue : value = "on" ∨ value = "true") :
    readSet id value = .ok (.setBinary id true) :=
  if_pos hvalue

theorem readSet_off (hvalue : value = "off" ∨ value = "false") :
    readSet id value = .ok (.setBinary id false) := by
  rcases hvalue with rfl | rfl <;> rfl

theorem readSet_number {x : Binary64} (hvalue : Decimal.Literal value x) :
    readSet id value = .ok (.setDecimal id x) := by
  have hread : Decimal.read? value = some x := Decimal.read?_eq_some_iff.mpr hvalue
  have hother : ¬ ((value = "on" ∨ value = "true") ∨ value = "off" ∨ value = "false") := fun h =>
    nomatch (read?_switch h).symm.trans hread
  rw [readSet, if_neg (hother ∘ Or.inl), if_neg (hother ∘ Or.inr), hread]

/-! ## Lines -/

theorem ofWords_set : ofWords line ["set", word, value] =
    readId word >>= fun id => readSet id value := rfl

theorem ofWords_of_says (h : Says words command) : ofWords line words = .ok command := by
  cases h with
  | listen hid | unlisten hid =>
    simp only [ofWords, readId_eq_ok_iff.mpr hid]
    rfl
  | on hid hvalue =>
    rw [ofWords_set, readId_eq_ok_iff.mpr hid]
    exact readSet_on hvalue
  | off hid hvalue =>
    rw [ofWords_set, readId_eq_ok_iff.mpr hid]
    exact readSet_off hvalue
  | number hid hvalue =>
    rw [ofWords_set, readId_eq_ok_iff.mpr hid]
    exact readSet_number hvalue
  | ping | url _ | reconnect | quit | q => rfl

/-- Words either say a command, or a fault is found in them. -/
theorem ofWords_cases (line : String) (words : List String) :
    (∃ command, ofWords line words = .ok command ∧ Says words command) ∨
      ∃ reason, ofWords line words = .error (.config reason) := by
  unfold ofWords
  split
  · exact Or.inr ⟨_, rfl⟩
  · rename_i word
    rcases readId_cases word with ⟨id, hid, heq⟩ | ⟨-, heq⟩
    · exact Or.inl ⟨.startListening id, by rw [heq]; rfl, .listen hid⟩
    · exact Or.inr ⟨_, by rw [heq]; rfl⟩
  · rename_i word
    rcases readId_cases word with ⟨id, hid, heq⟩ | ⟨-, heq⟩
    · exact Or.inl ⟨.stopListening id, by rw [heq]; rfl, .unlisten hid⟩
    · exact Or.inr ⟨_, by rw [heq]; rfl⟩
  · rename_i word value
    rcases readId_cases word with ⟨id, hid, heq⟩ | ⟨-, heq⟩
    · rcases readSet_cases id value with ⟨command, hset⟩ | hset
      · exact Or.inl ⟨command, by rw [heq]; exact hset, says_of_readSet hid hset⟩
      · exact Or.inr ⟨_, by rw [heq]; exact hset⟩
    · exact Or.inr ⟨_, by rw [heq]; rfl⟩
  · exact Or.inl ⟨_, rfl, .ping⟩
  · exact Or.inl ⟨_, rfl, .url _⟩
  · exact Or.inl ⟨_, rfl, .reconnect⟩
  · exact Or.inl ⟨_, rfl, .quit⟩
  · exact Or.inl ⟨_, rfl, .q⟩
  · exact Or.inr ⟨_, rfl⟩

theorem ofWords_eq_ok_iff : ofWords line words = .ok command ↔ Says words command := by
  refine ⟨fun h => ?_, ofWords_of_says⟩
  rcases ofWords_cases line words with ⟨said, hok, hsaid⟩ | ⟨reason, herror⟩
  · obtain rfl := Except.ok.inj (hok.symm.trans h)
    exact hsaid
  · cases herror.symm.trans h

theorem parse_of_spaced (h : Text.Spaced line.toList words) : parse line = ofWords line words := by
  rw [parse, Text.words_eq_iff.mpr h]

theorem isWord_numeral {n : Int} (h : Text.Numeral word.toList n) : Text.IsWord word := by
  generalize hchars : word.toList = chars at h
  obtain ⟨hsign, hne, hdigits⟩ := h
  have hnonempty : word.toList ≠ [] := by simp [hchars, hne]
  refine ⟨mt String.toList_eq_nil_iff.mpr hnonempty, fun c hc => ?_⟩
  rw [hchars] at hc
  rcases List.mem_append.mp hc with hc | hc
  · cases hsign with
    | none => cases hc
    | plus | minus =>
      obtain rfl := List.mem_singleton.mp hc
      decide
  · exact Text.isBlank_of_isDigit (hdigits c hc)

/-- The words for a command say it, and are words. -/
theorem says_words? (h : command.words? = some words) :
    Says words command ∧ ∀ word ∈ words, Text.IsWord word := by
  have hid : ∀ id : ItemId, Text.IsWord (toString id) := fun id =>
    isWord_numeral (numeral_id id)
  cases command with
  | startListening id =>
    obtain rfl := Option.some.inj h
    exact ⟨.listen (numeral_id id), by simpa [hid] using (by decide)⟩
  | stopListening id =>
    obtain rfl := Option.some.inj h
    exact ⟨.unlisten (numeral_id id), by simpa [hid] using (by decide)⟩
  | setBinary id on =>
    obtain rfl := Option.some.inj h
    cases on
    · exact ⟨.off (numeral_id id) (.inl rfl), by simpa [hid] using (by decide)⟩
    · exact ⟨.on (numeral_id id) (.inl rfl), by simpa [hid] using (by decide)⟩
  | setDecimal id x => cases h
  | ping =>
    obtain rfl := Option.some.inj h
    exact ⟨.ping, by decide⟩
  | reconnect =>
    obtain rfl := Option.some.inj h
    exact ⟨.reconnect, by decide⟩
  | quit =>
    obtain rfl := Option.some.inj h
    exact ⟨.quit, by decide⟩
  | setUrl url =>
    change (if Text.IsWord url then some ["url", url] else none) = some words at h
    split at h
    · rename_i hurl
      obtain rfl := Option.some.inj h
      exact ⟨.url url, by simpa [hurl] using (by decide)⟩
    · cases h

theorem grammatical_parse : Grammatical parse where
  blank _ := Text.isBlank_iff
  spaced line := ⟨_, Text.words_eq_iff.mp rfl, fun _ h => (Text.words_eq_iff.mpr h).symm⟩
  ok_iff h command := by
    rw [parse_of_spaced h]
    exact ofWords_eq_ok_iff
  error := by
    intro line words h hnot
    rw [parse_of_spaced h]
    rcases ofWords_cases line words with ⟨command, -, hsaid⟩ | herror
    · exact absurd hsaid (hnot command)
    · exact herror
  id h hnot := by
    rw [parse_of_spaced h, ofWords_set, readId_of_not hnot]
    rfl
  value := by
    intro line word value id h hid hnot
    rw [parse_of_spaced h, ofWords_set, readId_eq_ok_iff.mpr hid]
    rcases readSet_cases id value with ⟨command, hset⟩ | hset
    · exact absurd (says_of_readSet hid hset) (hnot command)
    · exact hset
  words h := by
    obtain ⟨hsaid, hwords⟩ := says_words? h
    refine ⟨Text.spaced_intercalate hwords, fun line hline => ?_⟩
    rw [parse_of_spaced hline, ofWords_of_says hsaid]

end Command

end Domotics
