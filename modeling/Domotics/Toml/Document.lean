/-!
# TOML documents

A document is a table of named values, some of which are tables again. A table can come about in
four ways, and which keys may still be added to it depends on the way: a header `[a.b]` opens a
table once and implies the one above it, a dotted key `a.b = 1` makes tables that other dotted keys
of the same table may extend, and an inline table is complete as it stands. `[[a]]` adds a table to
a list of tables, and what follows belongs to its last one.
-/

namespace Domotics.Toml

/-- How a table came about. -/
inductive Origin where
  | inline
  | header
  | implied
  | dotted
deriving DecidableEq

/-- A value in a document. Numbers with a fraction and points in time are told apart from other
values, and what they are is not kept. -/
inductive Node where
  | string (text : String)
  | integer (n : Int)
  | boolean (b : Bool)
  | float
  | dateTime
  | array (elements : List Node)
  | table (origin : Origin) (entries : List (String × Node))
  | tables (elements : List (List (String × Node)))

/-- The named values of a table. -/
abbrev Entries := List (String × Node)

/-- Replaces the value of a key that is there. -/
def replace (key : String) (node : Node) (entries : Entries) : Entries :=
  entries.map fun entry => if entry.1 = key then (key, node) else entry

/-- Edits the table at a path, which is made where it is not there yet. With `dotted`, the path is
that of a dotted key, which reaches into no table that a header opened. -/
def editAt (dotted : Bool) (edit : Origin → Entries → Option Entries) (origin : Origin) :
    List String → Entries → Option Entries
  | [], entries => edit origin entries
  | key :: path, entries =>
    match entries.lookup key with
    | none =>
      let made := if dotted then Origin.dotted else Origin.implied
      (editAt dotted edit made path []).map fun inner => entries ++ [(key, .table made inner)]
    | some (.table origin inner) =>
      if origin = .inline ∨ (dotted ∧ origin = .header) then none
      else
        (editAt dotted edit origin path inner).map fun inner =>
          replace key (.table origin inner) entries
    | some (.tables elements) =>
      match elements.getLast? with
      | none => none
      | some last =>
        (editAt dotted edit .header path last).map fun inner =>
          replace key (.tables (elements.dropLast ++ [inner])) entries
    | some _ => none

/-- Adds a value under a dotted key, given as the path before its last part and that part. -/
def addKey (path : List String) (key : String) (node : Node) (entries : Entries) :
    Option Entries :=
  let add (origin : Origin) (entries : Entries) : Option Entries :=
    if path ≠ [] ∧ origin ≠ .dotted then none
    else if (entries.lookup key).isSome then none
    else some (entries ++ [(key, node)])
  editAt true add .header path entries

/-- Opens the table of a header. One that is only implied so far is opened by it. -/
def openTable (path : List String) (key : String) (entries : Entries) : Option Entries :=
  let openHere (_ : Origin) (entries : Entries) : Option Entries :=
    match entries.lookup key with
    | none => some (entries ++ [(key, .table .header [])])
    | some (.table .implied inner) => some (replace key (.table .header inner) entries)
    | some _ => none
  editAt false openHere .header path entries

/-- Adds a table to the list of tables of a header. -/
def openElement (path : List String) (key : String) (entries : Entries) : Option Entries :=
  let openHere (_ : Origin) (entries : Entries) : Option Entries :=
    match entries.lookup key with
    | none => some (entries ++ [(key, .tables [[]])])
    | some (.tables elements) => some (replace key (.tables (elements ++ [[]])) entries)
    | some _ => none
  editAt false openHere .header path entries

end Domotics.Toml
