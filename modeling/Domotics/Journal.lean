import Domotics.Message.Basic
/-!
# The message log

The client keeps the latest messages it sent and received, numbered in order. When the log is full
the oldest entry makes room; clearing it does not start the numbers anew, so a number names one
message forever.
-/

namespace Domotics

/-- Which way a message went. -/
inductive Direction where
  | sent
  | received
deriving DecidableEq

namespace Direction

/-- An arrow that points where the message went. -/
def arrow : Direction → String
  | sent => "→"
  | received => "←"

def text : Direction → String
  | sent => "sent"
  | received => "received"

end Direction

/-- A message in the log. -/
structure JournalEntry where
  sequence : Nat
  direction : Direction
  kind : String
  summary : String
deriving DecidableEq

/-- An entry in one line. -/
def JournalEntry.line (entry : JournalEntry) : String :=
  s!"#{entry.sequence} {entry.direction.arrow} {entry.summary}"

/-- The latest messages, the oldest first. -/
structure Journal where
  entries : List JournalEntry
  capacity : Nat
  next : Nat

namespace Journal

/-- An empty log. It holds at least one entry. -/
def ofCapacity (capacity : Nat) : Journal :=
  ⟨[], max capacity 1, 1⟩

/-- The log of a client. -/
def initial : Journal :=
  ofCapacity 1000

/-- Adds a message. -/
def record (log : Journal) (direction : Direction) (message : Message) : Journal :=
  let kept := if log.entries.length = log.capacity then log.entries.drop 1 else log.entries
  { log with
    entries := kept ++ [⟨log.next, direction, message.kind.name, message.summary⟩]
    next := log.next + 1 }

def size (log : Journal) : Nat :=
  log.entries.length

def isEmpty (log : Journal) : Bool :=
  log.entries.isEmpty

/-- The entry at a place, counted from the oldest. -/
def get? (log : Journal) (index : Nat) : Option JournalEntry :=
  log.entries[index]?

def latest? (log : Journal) : Option JournalEntry :=
  log.entries.getLast?

/-- The number of entries that went one way. -/
def count (log : Journal) (direction : Direction) : Nat :=
  log.entries.countP fun entry => entry.direction = direction

def clear (log : Journal) : Journal :=
  { log with entries := [] }

end Journal

end Domotics
