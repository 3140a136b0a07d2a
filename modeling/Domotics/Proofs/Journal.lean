import Mathlib.Data.List.DropRight
import Domotics.Journal
/-!
# The log is a window on all that was ever recorded

Whoever records messages and clears the log makes one entry for each message, numbered from one and
on across every clearing (`Journal.made`). Of these the log has the latest ones since it was last
cleared, as many as fit: a window that slides along with each message (`Holds.record`) and closes
when the log is cleared (`Holds.clear`).

`slides_run` reads the rest off this for every way of using a log: its numbers are consecutive and
end with the number of messages that were ever recorded, and what is recorded later has a greater
number than anything before.
-/

namespace Domotics.Journal

/-- What is done to a log. -/
inductive Call where
  | record (direction : Direction) (message : Message)
  | clear

/-- What a call records. -/
def Call.recorded? : Call → Option (Direction × Message)
  | record direction message => some (direction, message)
  | clear => none

def call (log : Journal) : Call → Journal
  | .record direction message => log.record direction message
  | .clear => log.clear

/-- A log after some calls, the first one first. -/
def run (log : Journal) (calls : List Call) : Journal :=
  calls.foldl call log

/-- The entry of a message that was recorded after `count` others. -/
def entryAfter (count : Nat) (recorded : Direction × Message) : JournalEntry :=
  ⟨count + 1, recorded.1, recorded.2.kind.name, recorded.2.summary⟩

/-- The entries of everything that was ever recorded, the oldest first. -/
def made (calls : List Call) : List JournalEntry :=
  (calls.filterMap Call.recorded?).mapIdx entryAfter

/-- The number of messages that were recorded since the log was last cleared. -/
def sinceClear (calls : List Call) : Nat :=
  (calls.reverse.takeWhile fun call => call.recorded?.isSome).length

/-- The latest entries since the log was last cleared, as many as fit. There is room for one at
least. -/
def window (capacity : Nat) (calls : List Call) : List JournalEntry :=
  (made calls).rtake (min (sinceClear calls) (max capacity 1))

/-- What a log has in it and says of it, after it was made with a capacity and used. -/
structure Slides (capacity : Nat) (calls : List Call) (log : Journal) : Prop where
  entries : log.entries = window capacity calls
  size : log.size = min (sinceClear calls) (max capacity 1)
  isEmpty : log.isEmpty = true ↔ sinceClear calls = 0
  get? : ∀ index, log.get? index = (window capacity calls)[index]?
  latest? : log.latest? = (window capacity calls).getLast?
  /-- The numbers are consecutive, and as many were given as messages were ever recorded. -/
  sequence : log.entries.map (·.sequence) =
    List.range' ((made calls).length + 1 - log.size) log.size
  newest : ∀ entry, log.latest? = some entry → entry.sequence = (made calls).length
  /-- What the log has at a later time and has not now has a number that was not given before. -/
  renewed : ∀ more, ∀ entry ∈ (log.run more).entries,
    entry ∈ log.entries ∨ (made calls).length < entry.sequence
  count : log.count .sent + log.count .received = log.size

variable {capacity : Nat} {calls : List Call} {log : Journal} {entry : JournalEntry}

/-! ## What was ever recorded -/

section Made

variable (calls : List Call) (direction : Direction) (message : Message)

theorem made_record : made (calls ++ [.record direction message]) =
    made calls ++ [entryAfter (made calls).length (direction, message)] := by
  simp [made, Call.recorded?, List.mapIdx_append]

theorem made_clear : made (calls ++ [.clear]) = made calls := by
  rw [made, List.filterMap_append]
  exact congrArg _ (List.append_nil _)

theorem sinceClear_record :
    sinceClear (calls ++ [.record direction message]) = sinceClear calls + 1 := by
  simp [sinceClear, Call.recorded?]

theorem sinceClear_clear : sinceClear (calls ++ [.clear]) = 0 := by
  simp [sinceClear, Call.recorded?]

theorem sinceClear_le : sinceClear calls ≤ (made calls).length := by
  induction calls using List.reverseRecOn with
  | nil => exact Nat.le_refl 0
  | append_singleton calls last ih =>
    cases last with
    | record direction message =>
      rw [sinceClear_record, made_record, List.length_append, List.length_singleton]
      exact Nat.succ_le_succ ih
    | clear =>
      rw [sinceClear_clear]
      exact Nat.zero_le _

/-- Entries are numbered from one. -/
theorem sequence_made : (made calls).map (·.sequence) = List.range' 1 (made calls).length := by
  refine List.ext_getElem (by simp) fun index _ _ => ?_
  simp [made, entryAfter, Nat.add_comm]

end Made

theorem length_window :
    (window capacity calls).length = min (sinceClear calls) (max capacity 1) := by
  rw [window, List.rtake, List.length_drop]
  exact Nat.sub_sub_self ((Nat.min_le_left _ _).trans (sinceClear_le calls))

theorem sequence_window : (window capacity calls).map (·.sequence) =
    List.range' ((made calls).length + 1 - (window capacity calls).length)
      (window capacity calls).length := by
  have hle := sinceClear_le calls
  rw [length_window, window, List.rtake, List.map_drop, sequence_made, List.drop_range']
  congr 1 <;> omega

theorem sequence_getLast?_window (h : (window capacity calls).getLast? = some entry) :
    entry.sequence = (made calls).length := by
  have hlast : ((window capacity calls).map (·.sequence)).getLast? = some entry.sequence := by
    rw [List.getLast?_map, h]
    rfl
  have hpos : (window capacity calls).length ≠ 0 := by
    rintro hzero
    rw [List.length_eq_zero_iff.mp hzero] at h
    cases h
  have hle := sinceClear_le calls
  have hlength : (window capacity calls).length = _ := length_window
  rw [sequence_window, List.getLast?_range'] at hlast
  grind

/-! ## The window slides -/

/-- What a log has in it after some calls, and the number it gives next. -/
structure Holds (capacity : Nat) (calls : List Call) (log : Journal) : Prop where
  entries : log.entries = window capacity calls
  next : log.next = (made calls).length + 1
  room : log.capacity = max capacity 1

theorem Holds.start : Holds capacity [] (ofCapacity capacity) :=
  ⟨rfl, rfl, rfl⟩

/-- A full log loses its oldest entry to the new one, and any other log just grows. -/
theorem Holds.record (h : Holds capacity calls log) (direction : Direction) (message : Message) :
    Holds capacity (calls ++ [.record direction message]) (log.record direction message) where
  entries := by
    have hle := sinceClear_le calls
    have hlength : (window capacity calls).length = _ := length_window
    simp only [Journal.record, h.entries, h.next, h.room, hlength]
    simp only [window, made_record, sinceClear_record]
    by_cases full : min (sinceClear calls) (max capacity 1) = max capacity 1
    · have hroom : min (sinceClear calls + 1) (max capacity 1) = max capacity 1 - 1 + 1 := by omega
      have hdrop : 1 + ((made calls).length - max capacity 1) =
          (made calls).length - (max capacity 1 - 1) := by omega
      rw [if_pos full, full, hroom, List.rtake_concat_succ, List.rtake, List.rtake, List.drop_drop,
        Nat.add_comm, hdrop]
      rfl
    · have hroom : min (sinceClear calls + 1) (max capacity 1) =
          min (sinceClear calls) (max capacity 1) + 1 := by omega
      rw [if_neg full, hroom, List.rtake_concat_succ]
      rfl
  next := by
    rw [made_record, List.length_append, List.length_singleton, ← h.next]
    rfl
  room := h.room

theorem Holds.clear (h : Holds capacity calls log) :
    Holds capacity (calls ++ [.clear]) log.clear where
  entries := by
    rw [window, sinceClear_clear, Nat.zero_min, List.rtake_zero]
    rfl
  next := by
    rw [made_clear]
    exact h.next
  room := h.room

theorem holds_run (capacity : Nat) (calls : List Call) :
    Holds capacity calls ((ofCapacity capacity).run calls) := by
  induction calls using List.reverseRecOn with
  | nil => exact .start
  | append_singleton calls last ih =>
    rw [run, List.foldl_append]
    cases last with
    | record direction message => exact ih.record direction message
    | clear => exact ih.clear

/-! ## Numbers are given once -/

theorem next_le_call (log : Journal) (call : Call) : log.next ≤ (log.call call).next := by
  cases call with
  | record direction message => exact Nat.le_succ log.next
  | clear => exact Nat.le_refl log.next

theorem mem_entries_call {call : Call} (h : entry ∈ (log.call call).entries) :
    entry ∈ log.entries ∨ entry.sequence = log.next := by
  cases call with
  | record direction message =>
    rcases List.mem_append.mp h with hkept | hnew
    · split at hkept
      · exact Or.inl (List.mem_of_mem_drop hkept)
      · exact Or.inl hkept
    · obtain rfl := List.mem_singleton.mp hnew
      exact Or.inr rfl
  | clear => cases h

theorem mem_entries_run {more : List Call} (h : entry ∈ (log.run more).entries) :
    entry ∈ log.entries ∨ log.next ≤ entry.sequence := by
  induction more generalizing log with
  | nil => exact Or.inl h
  | cons call more ih =>
    rcases ih h with h | hnew
    · exact (mem_entries_call h).imp_right (·.ge)
    · exact Or.inr ((next_le_call log call).trans hnew)

theorem count_add_count (log : Journal) : log.count .sent + log.count .received = log.size := by
  have hother : log.count .received =
      log.entries.countP fun entry => ¬ decide (entry.direction = .sent) := by
    refine List.countP_congr fun entry _ => ?_
    cases entry.direction <;> decide
  rw [hother]
  exact (List.length_eq_countP_add_countP _).symm

/-- However a log is used, it is a window that slides over everything that was ever recorded. -/
theorem slides_run (capacity : Nat) (calls : List Call) :
    Slides capacity calls ((ofCapacity capacity).run calls) := by
  have holds := holds_run capacity calls
  generalize (ofCapacity capacity).run calls = log at holds
  have hsize : log.size = (window capacity calls).length := congrArg List.length holds.entries
  have hlatest : log.latest? = (window capacity calls).getLast? :=
    congrArg List.getLast? holds.entries
  refine ⟨holds.entries, hsize.trans length_window, ?_, ?_, hlatest, ?_, ?_, ?_,
    log.count_add_count⟩
  case refine_1 =>
    rw [isEmpty, holds.entries, List.isEmpty_iff_length_eq_zero, length_window]
    omega
  case refine_2 => exact fun index => congrArg (·[index]?) holds.entries
  case refine_3 => rw [hsize, holds.entries, sequence_window]
  case refine_4 => exact fun entry h => sequence_getLast?_window (hlatest ▸ h)
  case refine_5 =>
    intro more entry h
    rcases mem_entries_run h with h | hnew
    · exact Or.inl h
    · exact Or.inr (Nat.lt_of_succ_le (holds.next.symm.trans_le hnew))

/-- There is room for one entry in a log of capacity zero, and its number is not that of a log that
was never cleared. -/
example :
    ((ofCapacity 0).run [.record .sent (.ping 1), .clear, .record .received (.ping 2)]).entries =
      [⟨2, .received, "ping", "ping id=2"⟩] := by
  decide

end Domotics.Journal
