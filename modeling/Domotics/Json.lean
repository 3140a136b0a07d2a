/-!
# JSON text

A value and its text in JavaScript Object Notation, on one line and without spaces. In a string the
quote, the backslash and control characters are escaped and everything else stands as it is. The
members of an object keep their order.
-/

namespace Domotics

/-- A JSON value, of the forms that are written here. -/
inductive JsonValue where
  | string (text : String)
  | integer (n : Int)
  | boolean (b : Bool)
  | strings (texts : List String)
deriving DecidableEq

namespace JsonValue

/-- A character inside a string. -/
def escapedChar (c : Char) : String :=
  if c = '"' then "\\\""
  else if c = '\\' then "\\\\"
  else if c = '\n' then "\\n"
  else if c = '\r' then "\\r"
  else if c = '\t' then "\\t"
  else if c = '\x08' then "\\b"
  else if c = '\x0c' then "\\f"
  else if c < ' ' then
    "\\u00" ++ String.ofList [Nat.digitChar (c.toNat / 16), Nat.digitChar (c.toNat % 16)]
  else c.toString

/-- A string between its quotes. -/
def quoted (text : String) : String :=
  text.foldl (fun out c => out ++ escapedChar c) "\"" ++ "\""

/-- The text of a value. -/
def text : JsonValue → String
  | string s => quoted s
  | integer n => toString n
  | boolean b => if b then "true" else "false"
  | strings ss => "[" ++ ",".intercalate (ss.map quoted) ++ "]"

/-- The text of an object. -/
def objectText (members : List (String × JsonValue)) : String :=
  "\x7b" ++ ",".intercalate (members.map fun (name, value) => quoted name ++ ":" ++ value.text) ++
    "\x7d"

end JsonValue

end Domotics
