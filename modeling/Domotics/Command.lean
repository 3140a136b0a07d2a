import Domotics.Decimal.Reading
import Domotics.Error
import Domotics.Text.Blank
/-!
# Commands

A line of words tells a running client what to do: `listen 1`, `unlisten 1`, `set 5 on`,
`set 6 21.5`, `ping`, `url http://10.0.0.2:18000/`, `reconnect` and `quit` or `q`.
-/

namespace Domotics

/-- What a running client can be told to do. -/
inductive Command where
  | startListening (id : ItemId)
  | stopListening (id : ItemId)
  | setBinary (id : ItemId) (on : Bool)
  | setDecimal (id : ItemId) (value : Binary64)
  | ping
  | setUrl (url : String)
  | reconnect
  | quit
deriving DecidableEq

namespace Command

/-- Reads the number of an item: an optional sign and decimal digits, with a value of 32 bits. -/
def readId? (word : String) : Option ItemId :=
  let (negative, digits) := match word.toList with
    | '-' :: digits => (true, digits)
    | '+' :: digits => (false, digits)
    | digits => (false, digits)
  if digits ≠ [] ∧ digits.all Char.isDigit then
    let magnitude : Int := Decimal.digitsValue digits
    let value := if negative then -magnitude else magnitude
    if Int32.minValue.toInt ≤ value ∧ value ≤ Int32.maxValue.toInt then some (Int32.ofInt value)
    else none
  else none

/-- The number of an item, or why a word is none. -/
def readId (word : String) : Except Error ItemId :=
  match readId? word with
  | some id => .ok id
  | none => .error (.config s!"invalid item id: {word}")

/-- The command that gives a device the value a word stands for. -/
def readSet (id : ItemId) (word : String) : Except Error Command :=
  if word = "on" ∨ word = "true" then .ok (setBinary id true)
  else if word = "off" ∨ word = "false" then .ok (setBinary id false)
  else
    match Decimal.read? word with
    | some value => .ok (setDecimal id value)
    | none => .error (.config s!"invalid value: {word}")

/-- The command that the words of a line stand for. -/
def ofWords (line : String) : List String → Except Error Command
  | [] => .error (.config "empty command")
  | ["listen", id] => startListening <$> readId id
  | ["unlisten", id] => stopListening <$> readId id
  | ["set", id, value] => do readSet (← readId id) value
  | ["ping"] => .ok ping
  | ["url", url] => .ok (setUrl url)
  | ["reconnect"] => .ok reconnect
  | ["quit"] | ["q"] => .ok quit
  | _ => .error (.config s!"unknown command: {Text.trimBlank line}")

/-- Reads a line. -/
def parse (line : String) : Except Error Command :=
  ofWords line (Text.words line)

end Command

end Domotics
