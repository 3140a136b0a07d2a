import Domotics.Decimal.Reading
import Domotics.Text.Ranges
import Domotics.Toml.Document
/-!
# Reading TOML

`Toml.read?` reads a document of TOML 1.0, or nothing if the text is none. Functions on the way
take the characters that are left and return those that they leave. Loops carry a bound on their
steps, which the length of the text meets, and values are nested less than eighty deep.
-/

namespace Domotics.Toml

/-- A reader of something at the front of the characters. -/
abbrev Reader (α : Type) := List Char → Option (α × List Char)

/-- How deep values are nested, and how many parts a key has, at most. -/
def depthLimit : Nat := 79

/-! ## Blanks, comments and line ends -/

/-- Drops spaces and tabs. -/
def skipBlank (text : List Char) : List Char :=
  text.dropWhile fun c => c = ' ' ∨ c = '\t'

/-- The characters that stand as they are in comments and on one line of a string. -/
def isPlain (c : Char) : Bool :=
  c = '\t' ∨ (' ' ≤ c ∧ c ≠ '\x7f')

/-- Drops a comment. -/
def skipComment : List Char → List Char
  | '#' :: rest => rest.dropWhile isPlain
  | text => text

/-- Reads the end of a line. -/
def lineBreak? : List Char → Option (List Char)
  | '\n' :: rest => some rest
  | '\r' :: '\n' :: rest => some rest
  | _ => none

/-- Reads what may follow on a line, and its end or that of the text. -/
def lineEnd? (text : List Char) : Option (List Char) :=
  match skipComment (skipBlank text) with
  | [] => some []
  | rest => lineBreak? rest

/-- Drops blanks, line ends and comments between the elements of an array. -/
def skipFill (text : List Char) : Nat → Option (List Char)
  | 0 => none
  | steps + 1 =>
    let text := skipBlank text
    match text with
    | '#' :: _ => do skipFill (← lineBreak? (skipComment text)) steps
    | _ =>
      match lineBreak? text with
      | some rest => skipFill rest steps
      | none => some text

/-! ## Strings -/

/-- The character with a code point that hexadecimal digits write. -/
def codePoint? (digits : List Char) : Option Char := do
  let value ← digits.foldlM (fun value c => (Text.hexDigit? c).map (value * 16 + ·)) 0
  if value < 0xd800 ∨ (0xdfff < value ∧ value < 0x110000) then some (Char.ofNat value) else none

/-- Reads what follows a backslash. -/
def readEscape? : Reader Char
  | 'b' :: rest => some ('\x08', rest)
  | 't' :: rest => some ('\t', rest)
  | 'n' :: rest => some ('\n', rest)
  | 'f' :: rest => some ('\x0c', rest)
  | 'r' :: rest => some ('\r', rest)
  | '"' :: rest => some ('"', rest)
  | '\\' :: rest => some ('\\', rest)
  | 'u' :: c :: d :: e :: f :: rest => (codePoint? [c, d, e, f]).map (·, rest)
  | 'U' :: c :: d :: e :: f :: g :: h :: i :: j :: rest =>
    (codePoint? [c, d, e, f, g, h, i, j]).map (·, rest)
  | _ => none

/-- Reads a string on one line, after its quote. Only double quotes have escapes. -/
def readLine? (quote : Char) (done : List Char) : Nat → Reader String
  | 0, _ => none
  | _ + 1, [] => none
  | steps + 1, c :: rest =>
    if c = quote then some (String.ofList done.reverse, rest)
    else if c = '\\' ∧ quote = '"' then do
      let (c, rest) ← readEscape? rest
      readLine? quote (c :: done) steps rest
    else if isPlain c then readLine? quote (c :: done) steps rest
    else none

/-- Drops blanks and line ends after a backslash at the end of a line. -/
def skipLines (text : List Char) : Nat → List Char
  | 0 => text
  | steps + 1 =>
    let text := skipBlank text
    match lineBreak? text with
    | some rest => skipLines rest steps
    | none => text

/-- Reads a string of several lines, after its three quotes. Up to two quotes may stand before the
three that end it. -/
def readLines? (quote : Char) (done : List Char) : Nat → Reader String
  | 0, _ => none
  | _ + 1, [] => none
  | steps + 1, text@(c :: rest) =>
    if c = quote then
      let quotes := (text.takeWhile (· = quote)).length
      if 3 ≤ quotes then
        let kept := min quotes 5
        some (String.ofList (done.reverse ++ List.replicate (kept - 3) quote), text.drop kept)
      else readLines? quote (c :: done) steps rest
    else if c = '\\' ∧ quote = '"' then
      match lineBreak? (skipBlank rest) with
      | some after => readLines? quote done steps (skipLines after steps)
      | none => do
        let (c, rest) ← readEscape? rest
        readLines? quote (c :: done) steps rest
    else
      match lineBreak? text with
      | some after => readLines? quote ('\n' :: done) steps after
      | none => if isPlain c then readLines? quote (c :: done) steps rest else none

/-- Reads a string of any form. -/
def readString? : Reader String
  | c :: rest =>
    if c = '"' ∨ c = '\'' then
      match rest with
      | d :: e :: after =>
        if d = c ∧ e = c then
          readLines? c [] (after.length + 1) ((lineBreak? after).getD after)
        else readLine? c [] (rest.length + 1) rest
      | _ => readLine? c [] (rest.length + 1) rest
    else none
  | [] => none

/-! ## Keys -/

/-- The characters of a key without quotes. -/
def isKeyChar (c : Char) : Bool :=
  c.isAlphanum ∨ c = '_' ∨ c = '-'

/-- Reads one part of a key. -/
def readKeyPart? (text : List Char) : Option (String × List Char) :=
  match text with
  | '"' :: rest => readLine? '"' [] (rest.length + 1) rest
  | '\'' :: rest => readLine? '\'' [] (rest.length + 1) rest
  | _ =>
    let part := text.takeWhile isKeyChar
    if part = [] then none else some (String.ofList part, text.dropWhile isKeyChar)

/-- Reads a key with the blanks around its parts: the parts before the last one, and that one. -/
def readKey? (path : List String) : Nat → Reader (List String × String)
  | 0, _ => none
  | steps + 1, text => do
    let (part, rest) ← readKeyPart? (skipBlank text)
    match skipBlank rest with
    | '.' :: rest => readKey? (path ++ [part]) steps rest
    | rest => some ((path, part), rest)

/-! ## Numbers and points in time -/

/-- Reads digits, between which single underscores may stand. -/
def readDigits? (isDigit : Char → Bool) (done : List Char) : Reader (List Char)
  | [] => if done = [] then none else some (done.reverse, [])
  | c :: rest =>
    if isDigit c then readDigits? isDigit (c :: done) rest
    else if c = '_' ∧ done ≠ [] then
      match rest with
      | d :: rest' => if isDigit d then readDigits? isDigit (d :: done) rest' else none
      | [] => none
    else if done = [] then none
    else some (done.reverse, c :: rest)

/-- Reads a sign. -/
def readSign : List Char → Bool × List Char
  | '-' :: rest => (true, rest)
  | '+' :: rest => (false, rest)
  | text => (false, text)

/-- The whole numbers that have a place in a document. -/
def integer? (n : Int) : Option Node :=
  if Int64.minValue.toInt ≤ n ∧ n ≤ Int64.maxValue.toInt then some (.integer n)
  else none

/-- Reads a whole number in a base other than ten, after its mark. -/
def readBased? (base : Nat) (text : List Char) : Option (Node × List Char) := do
  let isDigit (c : Char) : Bool := (Text.hexDigit? c).any (· < base)
  let (digits, rest) ← readDigits? isDigit [] text
  let value := digits.foldl (fun value c => value * base + (Text.hexDigit? c).getD 0) 0
  return (← integer? value, rest)

/-- Reads an exponent, if there is one. -/
def readExponent? : Reader Int
  | c :: rest =>
    if c = 'e' ∨ c = 'E' then do
      let (negative, rest) := readSign rest
      let (digits, rest) ← readDigits? Char.isDigit [] rest
      let value : Int := Decimal.digitsValue digits
      return (if negative then -value else value, rest)
    else some (0, c :: rest)
  | [] => some (0, [])

/-- Reads a number in base ten: a whole one, or one with a fraction or an exponent, which has to be
finite. -/
def readDecimal? (text : List Char) : Option (Node × List Char) := do
  let (negative, unsigned) := readSign text
  let (whole, rest) ← match unsigned with
    | '0' :: rest => some (['0'], rest)
    | _ => readDigits? Char.isDigit [] unsigned
  let (places, rest') ← match rest with
    | '.' :: rest => readDigits? Char.isDigit [] rest
    | _ => some ([], rest)
  let (exponent, rest') ← readExponent? rest'
  if rest'.length = rest.length then
    let value : Int := Decimal.digitsValue whole
    return (← integer? (if negative then -value else value), rest)
  else
    let value := Decimal.nearestDecimal negative (Decimal.digitsValue (whole ++ places))
      (exponent - places.length)
    if value = .infinity false then none else some (.float, rest')

/-- Reads two digits of a number up to a limit. -/
def readTwo? (low high : Nat) : Reader Nat
  | a :: b :: rest =>
    if a.isDigit ∧ b.isDigit then
      let value := Decimal.digitsValue [a, b]
      if low ≤ value ∧ value ≤ high then some (value, rest) else none
    else none
  | _ => none

/-- Drops one character. -/
def expect? (c : Char) : List Char → Option (List Char)
  | d :: rest => if d = c then some rest else none
  | [] => none

/-- The number of days of a month. -/
def daysIn (year month : Nat) : Nat :=
  let leap := year % 4 = 0 ∧ (year % 100 ≠ 0 ∨ year % 400 = 0)
  if month = 2 then if leap then 29 else 28
  else if [4, 6, 9, 11].contains month then 30 else 31

/-- Reads the minutes and seconds after the hours of a time. -/
def readMinutes? (text : List Char) : Option (List Char) := do
  let (_, rest) ← readTwo? 0 59 text
  let (_, rest) ← readTwo? 0 60 (← expect? ':' rest)
  match rest with
  | '.' :: c :: rest => if c.isDigit then some (rest.dropWhile Char.isDigit) else none
  | '.' :: [] => none
  | _ => some rest

/-- Reads the hours of a time and their colon. -/
def readHours? (text : List Char) : Option (List Char) := do
  let (_, rest) ← readTwo? 0 23 text
  expect? ':' rest

/-- Reads the offset from universal time, if there is one. -/
def readOffset? : List Char → Option (List Char)
  | c :: rest =>
    if c = 'Z' ∨ c = 'z' then some rest
    else if c = '+' ∨ c = '-' then do
      let rest ← readHours? rest
      return (← readTwo? 0 59 rest).2
    else some (c :: rest)
  | [] => some []

/-- Reads the month and day after the year of a date, and the time after them if there is one. -/
def readDate? (year : Nat) (text : List Char) : Option (List Char) := do
  let (month, rest) ← readTwo? 1 12 text
  let (_, rest) ← readTwo? 1 (daysIn year month) (← expect? '-' rest)
  match rest with
  | c :: after =>
    if c = 'T' ∨ c = 't' ∨ c = ' ' then
      match readHours? after with
      | none => some rest
      | some minutes => do readOffset? (← readMinutes? minutes)
    else some rest
  | [] => some rest

/-- Reads an infinity or what is not a number. -/
def readSpecial? (text : List Char) : Option (List Char) :=
  match (readSign text).2 with
  | 'i' :: 'n' :: 'f' :: rest => some rest
  | 'n' :: 'a' :: 'n' :: rest => some rest
  | _ => none

/-- Reads a number or a point in time. What begins like a date or a time is one. -/
def readNumber? (text : List Char) : Option (Node × List Char) :=
  let year := text.take 4
  if year.length = 4 ∧ year.all Char.isDigit ∧ (text.drop 4).head? = some '-' then
    (readDate? (Decimal.digitsValue year) (text.drop 5)).map (.dateTime, ·)
  else
    match readHours? text with
    | some minutes => (readMinutes? minutes).map (.dateTime, ·)
    | none =>
      match readSpecial? text with
      | some rest => some (.float, rest)
      | none =>
        match text with
        | '0' :: 'x' :: rest => readBased? 16 rest
        | '0' :: 'o' :: rest => readBased? 8 rest
        | '0' :: 'b' :: rest => readBased? 2 rest
        | _ => readDecimal? text

/-! ## Values -/

mutual

/-- Reads a value that is nested in at most `depth` others. -/
def readValue? (depth : Nat) : Nat → Reader Node
  | 0, _ => none
  | steps + 1, text =>
    match text with
    | [] => none
    | c :: rest =>
      if c = '"' ∨ c = '\'' then (readString? text).map fun (s, rest) => (.string s, rest)
      else if c = '[' then
        if depth = 0 then none else readElements? (depth - 1) [] steps rest
      else if c = '\x7b' then
        if depth = 0 then none
        else
          match skipBlank rest with
          | '\x7d' :: rest => some (.table .inline [], rest)
          | rest => readMembers? (depth - 1) [] steps rest
      else
        match text with
        | 't' :: 'r' :: 'u' :: 'e' :: rest => some (.boolean true, rest)
        | 'f' :: 'a' :: 'l' :: 's' :: 'e' :: rest => some (.boolean false, rest)
        | _ => readNumber? text

/-- Reads the elements of an array and its end. -/
def readElements? (depth : Nat) (done : List Node) : Nat → Reader Node
  | 0, _ => none
  | steps + 1, text => do
    match ← skipFill text (text.length + 1) with
    | ']' :: rest => some (.array done.reverse, rest)
    | text =>
      let (element, rest) ← readValue? depth steps text
      match ← skipFill rest (rest.length + 1) with
      | ',' :: rest => readElements? depth (element :: done) steps rest
      | ']' :: rest => some (.array (element :: done).reverse, rest)
      | _ => none

/-- Reads the members of an inline table and its end. -/
def readMembers? (depth : Nat) (entries : Entries) : Nat → Reader Node
  | 0, _ => none
  | steps + 1, text => do
    let ((path, key), rest) ← readKey? [] depthLimit text
    let rest ← expect? '=' rest
    let (value, rest) ← readValue? depth steps (skipBlank rest)
    let entries ← addKey path key value entries
    match skipBlank rest with
    | ',' :: rest => readMembers? depth entries steps rest
    | '\x7d' :: rest => some (.table .inline entries, rest)
    | _ => none

end

/-! ## Documents -/

/-- A document that is being read: what there is of it, and the table that keys belong to now. -/
structure Draft where
  entries : Entries
  current : List String

/-- Reads one line that has a key and its value, a value being able to take up several lines. -/
def Draft.readPair? (draft : Draft) (text : List Char) : Option (Draft × List Char) := do
  let ((path, key), rest) ← readKey? [] depthLimit text
  let rest ← expect? '=' rest
  let (value, rest) ← readValue? depthLimit (2 * text.length + 2) (skipBlank rest)
  let add (_ : Origin) (entries : Entries) := addKey path key value entries
  let entries ← editAt false add .header draft.current draft.entries
  return ({ draft with entries }, ← lineEnd? rest)

/-- Reads one line that opens a table, after its first bracket. -/
def Draft.readHeader? (draft : Draft) (text : List Char) : Option (Draft × List Char) := do
  let (element, text) := match text with
    | '[' :: rest => (true, rest)
    | _ => (false, text)
  let ((path, key), rest) ← readKey? [] depthLimit text
  let rest ← expect? ']' rest
  let rest ← if element then expect? ']' rest else some rest
  let entries ← (if element then openElement else openTable) path key draft.entries
  return (⟨entries, path ++ [key]⟩, ← lineEnd? rest)

/-- Reads the lines of a document. -/
def Draft.readLines? (draft : Draft) : Nat → List Char → Option Entries
  | 0, _ => none
  | steps + 1, text =>
    match skipBlank text with
    | [] => some draft.entries
    | '[' :: rest => do
      let (draft, rest) ← draft.readHeader? rest
      draft.readLines? steps rest
    | text@(c :: _) =>
      if c = '#' ∨ c = '\n' ∨ c = '\r' then do draft.readLines? steps (← lineEnd? text)
      else do
        let (draft, rest) ← draft.readPair? text
        draft.readLines? steps rest

/-- Reads a document. A byte order mark at its beginning is ignored. -/
def read? (text : String) : Option Entries :=
  let chars := match text.toList with
    | '\ufeff' :: rest => rest
    | chars => chars
  (Draft.mk [] []).readLines? (chars.length + 1) chars

end Domotics.Toml
