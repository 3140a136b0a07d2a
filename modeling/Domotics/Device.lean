import Domotics.Decimal.Positional
/-!
# Devices and their values

A device is a sensor or an actuator and carries a value: a switch position, or a number with the
range and the unit it is measured in.
-/

namespace Domotics

/-- Whether a device reports a value or takes one. -/
inductive DeviceRole where
  | sensor
  | actuator
deriving DecidableEq, Inhabited

/-- The word for a role. -/
def DeviceRole.text : DeviceRole → String
  | .sensor => "sensor"
  | .actuator => "actuator"

/-- The two types of values. -/
inductive ValueType where
  | binary
  | decimal
deriving DecidableEq

/-- The word for a type of values. -/
def ValueType.text : ValueType → String
  | .binary => "binary"
  | .decimal => "decimal"

/-- A number with its range and unit. -/
structure Quantity where
  value : Binary64
  min : Binary64
  max : Binary64
  unit : String
  abbreviation : String
deriving DecidableEq

/-- The value of a device. -/
inductive DeviceValue where
  | binary (on : Bool)
  | decimal (quantity : Quantity)
deriving DecidableEq

/-- The text of a truth value. -/
def boolText (b : Bool) : String :=
  if b then "true" else "false"

namespace DeviceValue

def type : DeviceValue → ValueType
  | .binary _ => .binary
  | .decimal _ => .decimal

/-- The text that shows a value: a number is followed by the abbreviation of its unit, if it has
one. -/
def text : DeviceValue → String
  | .binary on => boolText on
  | .decimal quantity =>
    if quantity.abbreviation.isEmpty then quantity.value.text
    else quantity.value.text ++ " " ++ quantity.abbreviation

end DeviceValue

end Domotics
