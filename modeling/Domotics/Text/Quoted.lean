import Domotics.Text.Printable
/-!
# Quoted text

A text inside a line of output stands between double quotes, with every character that could be
mistaken or not seen written as an escape: the quote and the backslash, tab, carriage return, line
feed and NUL by name, and any other character that is not printable, or extends the one before it,
by its code point.
-/

namespace Domotics.Text

/-- A code point as `\u{…}`, in lower-case hexadecimal. -/
def codePointEscape (c : Char) : String :=
  "\\u\x7b" ++ String.ofList (Nat.toDigits 16 c.toNat) ++ "\x7d"

/-- A character as it stands between quotes. -/
def quotedChar (c : Char) : String :=
  if c = '\x00' then "\\0"
  else if c = '\t' then "\\t"
  else if c = '\r' then "\\r"
  else if c = '\n' then "\\n"
  else if c = '"' then "\\\""
  else if c = '\\' then "\\\\"
  else if '\x20' ≤ c ∧ c ≤ '\x7e' then c.toString
  else if extendsGrapheme c then codePointEscape c
  else if isPrintable c then c.toString
  else codePointEscape c

/-- A text between double quotes. -/
def quoted (text : String) : String :=
  text.foldl (fun out c => out ++ quotedChar c) "\"" ++ "\""

end Domotics.Text
