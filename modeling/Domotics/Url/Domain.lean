import Domotics.Text.Direction
import Domotics.Text.Joining
import Domotics.Text.Utf8
import Domotics.Url.DomainTable
import Domotics.Url.Internet
import Domotics.Url.Punycode
/-!
# Domain names

A domain name may be written in any script. For the network it is brought into a form in ASCII:
characters that stand for others are replaced, the text is composed, and each of its labels that is
not ASCII then is written as `xn--` and its punycode. A label that begins with `xn--` already must
be the punycode of a label that would have been kept as it is.

Not every label may be written so. It must not begin with a mark; the two characters that join
letters or keep them apart stand only where they make a difference; and where letters that are
written from right to left occur anywhere in the name, each label keeps to one direction.
-/

namespace Domotics.Url

/-- The ASCII characters that no domain name holds. -/
def isForbiddenInDomain (c : Char) : Bool :=
  c ≤ ' ' ∨ c = '\x7f' ∨ c = '%' ∨ isDelimiter c

/-! ## Replacing characters -/

/-- Whether a character stands for itself. -/
def isKept (c : Char) : Bool :=
  keptTable.contains c

/-- What a character stands for, if it may occur. -/
def standsFor? (c : Char) : Option (List Char) :=
  if isKept c then some [c]
  else
    match mappedTable.find? c with
    | some image => some image
    | none => if ignoredTable.contains c then some [] else none

/-- Replaces every character by what it stands for, and composes the text. -/
def replaced? (name : List Char) : Option (List Char) :=
  (name.mapM standsFor?).map fun images => Text.composed images.flatten

/-! ## Joining and keeping apart -/

/-- The character that keeps letters apart. -/
def nonJoiner : Char := '\u200c'

/-- The character that joins letters. -/
def joiner : Char := '\u200d'

/-- The place of the sign that takes the vowel from a letter. -/
def viramaPlace : Nat := 9

/-- Whether letters would be joined across a place, given what is before it back to front and what
is after it. -/
def wouldJoin (before after : List Char) : Bool :=
  (before.dropWhile Text.isPassed).head?.any Text.joinsOn ∧
    (after.dropWhile Text.isPassed).head?.any Text.joinsBack

/-- Whether joiners stand only where they make a difference: after a sign that takes the vowel from
a letter, or, to keep letters apart, where they would be joined. `before` is what is before the
text, back to front. -/
def joinersFit (before : List Char) : List Char → Bool
  | [] => true
  | c :: rest =>
    let afterVirama := before.head?.any fun d => Text.place d = viramaPlace
    let fits :=
      if c = nonJoiner then afterVirama ∨ wouldJoin before rest
      else if c = joiner then afterVirama
      else true
    fits ∧ joinersFit (c :: before) rest

/-! ## Directions -/

/-- Whether a name has letters that are written from right to left. -/
def hasRightToLeft (name : List Char) : Bool :=
  name.any fun c => [.rightToLeft, .arabicLetter, .arabicNumber].contains (Text.direction c)

/-- Whether a label keeps to one direction: it begins with a letter, and what follows, up to marks
at its end, goes with the direction of that letter and ends in a letter of that direction or a
number. Two kinds of numbers do not go together. An empty label keeps to any direction. -/
def keepsDirection (label : List Char) : Bool :=
  match label.map Text.direction with
  | [] => true
  | first :: rest =>
    let classes := (rest.reverse.dropWhile (· = .nonspacingMark)).reverse
    let neutral : List Text.Direction :=
      [.europeanSeparator, .commonSeparator, .europeanTerminator, .otherNeutral, .boundaryNeutral,
        .nonspacingMark]
    match first with
    | .leftToRight =>
      classes.all (fun d => d = .leftToRight ∨ d = .europeanNumber ∨ neutral.contains d) ∧
        classes.getLast?.all fun d => d = .leftToRight ∨ d = .europeanNumber
    | .rightToLeft | .arabicLetter =>
      let ends : List Text.Direction :=
        [.rightToLeft, .arabicLetter, .europeanNumber, .arabicNumber]
      classes.all (fun d => ends.contains d ∨ neutral.contains d) ∧
        classes.getLast?.all ends.contains ∧
        !(classes.contains .europeanNumber ∧ classes.contains .arabicNumber)
    | _ => false

/-! ## Labels -/

/-- A label in both of its forms. -/
structure Label where
  ascii : List Char
  /-- The label as it is read. -/
  shown : List Char

/-- The beginning of a label that is punycode. -/
def punycodeMark : List Char :=
  ['x', 'n', '-', '-']

/-- How long punycode may be that is read. -/
def readLimit : Nat := 2000

/-- How long a label may be that is written as punycode. -/
def writeLimit : Nat := 1000

/-- Whether a label with characters outside of ASCII may be written as punycode. -/
def isLabel (label : List Char) : Bool :=
  !label.head?.any Text.isMark ∧ joinersFit [] label ∧ label.length ≤ writeLimit

/-- The label that punycode stands for. -/
def readLabel? (label : List Char) : Option Label := do
  let written := label.drop punycodeMark.length
  if !written.all (· < '\x80') ∨ written.getLast?.all (· = '-') ∨ readLimit < written.length then
    none
  let shown ← Punycode.decode? written
  if shown.all isKept ∧ Text.composed shown = shown ∧ isLabel shown then some ⟨label, shown⟩
  else none

/-- Both forms of a label whose characters have been replaced. -/
def label? (label : List Char) : Option Label :=
  if punycodeMark.isPrefixOf label then readLabel? label
  else if label.all (· < '\x80') then some ⟨label, label⟩
  else if isLabel label then some ⟨punycodeMark ++ Punycode.encode label, label⟩
  else none

/-- A domain name in ASCII. -/
def domainToAscii? (name : List UInt8) : Option (List Char) := do
  let text ← (Text.ofBytes name).toOption
  let replaced ← replaced? text.toList
  if replaced.any isForbiddenInDomain then none
  let labels ← (splitAt '.' replaced).mapM label?
  if hasRightToLeft (labels.flatMap (·.shown)) ∧ !labels.all fun label => keepsDirection label.shown
  then none
  else some (List.intercalate ['.'] (labels.map (·.ascii)))

end Domotics.Url
