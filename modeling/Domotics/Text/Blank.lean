/-!
# White space, words and lines

The white space characters of Unicode, the words of a text between them, a text without the white
space around it, and the lines of a text.
-/

namespace Domotics.Text

/-- The characters with the Unicode property `White_Space`. -/
def isBlank (c : Char) : Bool :=
  ('\x09' ≤ c ∧ c ≤ '\x0d') ∨ c = ' ' ∨ c = '\u0085' ∨ c = '\u00a0' ∨ c = '\u1680' ∨
    ('\u2000' ≤ c ∧ c ≤ '\u200a') ∨ c = '\u2028' ∨ c = '\u2029' ∨ c = '\u202f' ∨ c = '\u205f' ∨
    c = '\u3000'

/-- Splits characters at white space, given the word before them, last character first. -/
def wordsAfter (word : List Char) : List Char → List String
  | [] => if word.isEmpty then [] else [String.ofList word.reverse]
  | c :: rest =>
    if isBlank c then
      if word.isEmpty then wordsAfter [] rest
      else String.ofList word.reverse :: wordsAfter [] rest
    else wordsAfter (c :: word) rest

/-- The words of a text: its longest runs without white space, in order. -/
def words (text : String) : List String :=
  wordsAfter [] text.toList

/-- A text without the white space at its two ends. -/
def trimBlank (text : String) : String :=
  String.ofList (((text.toList.dropWhile isBlank).reverse.dropWhile isBlank).reverse)

/-- A line that was ended by a line feed, given back to front: a carriage return before the line
feed belongs to the end of the line. -/
def endedLine : List Char → String
  | '\r' :: line => String.ofList line.reverse
  | line => String.ofList line.reverse

/-- Splits characters into lines, given the line before them, last character first. -/
def linesAfter (line : List Char) : List Char → List String
  | [] => if line.isEmpty then [] else [String.ofList line.reverse]
  | c :: rest =>
    if c = '\n' then endedLine line :: linesAfter [] rest else linesAfter (c :: line) rest

/-- The lines of a text. What follows the last line feed is a line unless it is empty. -/
def lines (text : String) : List String :=
  linesAfter [] text.toList

end Domotics.Text
