/-!
# Writing TOML

A document is written as sections, each of them a header and a line for each of its values, with an
empty line between two sections.

A string has four forms: between double or single quotes, and each of these on one line or on
several. A form that shows the string as it is comes first: double quotes on one line, single
quotes on one line, and then the same on several lines. If none of them does, the string stands
between double quotes with escapes, on several lines if it has line feeds.
-/

namespace Domotics.Toml

/-- What decides the form of a string. -/
structure StringShape where
  singleQuotes : Nat := 0
  doubleQuotes : Nat := 0
  singleRun : Nat := 0
  doubleRun : Nat := 0
  /-- Whether there are characters that only escapes can write. -/
  controls : Bool := false
  backslash : Bool := false
  lineFeed : Bool := false

/-- Counts one more character. `singleQuotes` and `doubleQuotes` are the lengths of the longest
runs, the other two of the run that is going on. -/
def StringShape.next (shape : StringShape) (c : Char) : StringShape :=
  let singleRun := if c = '\'' then shape.singleRun + 1 else 0
  let doubleRun := if c = '"' then shape.doubleRun + 1 else 0
  { singleRun, doubleRun
    singleQuotes := max shape.singleQuotes singleRun
    doubleQuotes := max shape.doubleQuotes doubleRun
    controls := shape.controls || ((c < ' ' ∧ c ≠ '\t' ∧ c ≠ '\n') ∨ c = '\x7f')
    backslash := shape.backslash || c = '\\'
    lineFeed := shape.lineFeed || c = '\n' }

/-- The shape of a string. -/
def StringShape.of (text : String) : StringShape :=
  text.foldl StringShape.next {}

/-- A character that only an escape can write, as four hexadecimal digits. -/
def controlEscape (c : Char) : List Char :=
  let digit (n : Nat) := (Nat.digitChar n).toUpper
  ['\\', 'u', '0', '0', digit (c.toNat / 16), digit (c.toNat % 16)]

/-- A character other than a quote between double quotes. On several lines a line feed stands as it
is. -/
def escaped (several : Bool) (c : Char) : List Char :=
  if c = '\x08' then ['\\', 'b']
  else if c = '\t' then ['\\', 't']
  else if c = '\n' then if several then ['\n'] else ['\\', 'n']
  else if c = '\x0c' then ['\\', 'f']
  else if c = '\r' then ['\\', 'r']
  else if c = '\\' then ['\\', '\\']
  else if c < ' ' ∨ c = '\x7f' then controlEscape c
  else [c]

/-- Characters between double quotes, after `run` quotes that stand as they are. On several lines
up to two quotes in a row stand as they are. -/
def escapeFrom (several : Bool) (run : Nat) : List Char → List Char
  | [] => []
  | c :: rest =>
    if c = '"' then
      if run < (if several then 2 else 0) then '"' :: escapeFrom several (run + 1) rest
      else '\\' :: '"' :: escapeFrom several 0 rest
    else escaped several c ++ escapeFrom several 0 rest

/-- A string as it stands in a document. -/
def stringText (text : String) : String :=
  let shape := StringShape.of text
  let lines := if shape.lineFeed then "\n" else ""
  let basic := "\"" ++ String.ofList (escapeFrom false 0 text.toList) ++ "\""
  let basicLines :=
    "\"\"\"" ++ lines ++ String.ofList (escapeFrom true 0 text.toList) ++ "\"\"\""
  let clean := !shape.controls ∧ !shape.backslash
  if clean ∧ shape.doubleQuotes = 0 ∧ !shape.lineFeed then basic
  else if !shape.controls ∧ shape.singleQuotes = 0 ∧ !shape.lineFeed then "'" ++ text ++ "'"
  else if clean ∧ shape.doubleQuotes ≤ 2 then basicLines
  else if !shape.controls ∧ shape.singleQuotes ≤ 2 then "'''" ++ lines ++ text ++ "'''"
  else if shape.lineFeed then basicLines
  else basic

/-! ## Documents -/

/-- A value that stands on a line of a section. -/
inductive Scalar where
  | string (text : String)
  | integer (n : Int)
  | boolean (b : Bool)
deriving DecidableEq

/-- A value as it stands in a document. -/
def Scalar.text : Scalar → String
  | string s => stringText s
  | integer n => toString n
  | boolean b => if b then "true" else "false"

/-- A table of values under a header. Names are keys that need no quotes. -/
structure Section where
  name : String
  values : List (String × Scalar)
deriving DecidableEq

/-- The lines of a section. -/
def Section.text (part : Section) : String :=
  part.values.foldl (fun out (key, value) => out ++ key ++ " = " ++ value.text ++ "\n")
    ("[" ++ part.name ++ "]\n")

/-- The text of a document. -/
def documentText (parts : List Section) : String :=
  "\n".intercalate (parts.map Section.text)

end Domotics.Toml
