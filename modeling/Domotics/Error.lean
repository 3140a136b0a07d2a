import Domotics.Device
/-!
# What can go wrong

Every operation that can fail names its cause by a constructor of `Error`. The wording stands in
`Error.message` alone, and three predicates say which causes a client recovers from by itself,
which ones end the program, and which ones are mistakes of the caller.
-/

namespace Domotics

/-- The number of an item. A central unit numbers its items itself, with 32 bits. -/
abbrev ItemId := Int32

/-- The cause of a failure. -/
inductive Error where
  | io (reason : String)
  | protocol (reason : String)
  | unknownMessageType (tag : UInt8)
  | textTooLong (length : Nat)
  | connection (reason : String)
  | timeout (operation : String) (millis : Nat)
  | notConnected
  | config (reason : String)
  | invalidUrl (url reason : String)
  | duplicateId (id : ItemId)
  | itemNotFound (id : ItemId)
  | notAContainer (id : ItemId)
  | notADevice (id : ItemId)
  | indexOutOfRange (container : ItemId) (index length : Nat)
  | wrongValueType (id : ItemId) (expected : ValueType)
  | channelClosed
deriving DecidableEq

/-- A byte as two hexadecimal digits. -/
def hexByte (b : UInt8) : String :=
  String.ofList [Nat.digitChar (b.toNat / 16), Nat.digitChar (b.toNat % 16)]

namespace Error

/-- The wording of a failure. -/
def message : Error → String
  | io reason => s!"IO error: {reason}"
  | protocol reason => s!"OHAP protocol error: {reason}"
  | unknownMessageType tag => s!"Unsupported OHAP message type: 0x{hexByte tag}"
  | textTooLong length => s!"Text field too long for the wire: {length} bytes"
  | connection reason => s!"Connection error: {reason}"
  | timeout operation millis => s!"Timed out after {millis} ms while {operation}"
  | notConnected => "Not connected to the central unit"
  | config reason => s!"Configuration error: {reason}"
  | invalidUrl url reason => s!"Invalid central unit URL '{url}': {reason}"
  | duplicateId id => s!"Item id {id} is already present in the tree"
  | itemNotFound id => s!"No item with id {id}"
  | notAContainer id => s!"Item {id} is not a container"
  | notADevice id => s!"Item {id} is not a device"
  | indexOutOfRange container index length =>
    s!"Index {index} out of range for container {container} with {length} items"
  | wrongValueType id expected => s!"Device {id} does not carry a {expected.text} value"
  | channelClosed => "Channel closed unexpectedly"

/-- The connection mends these by itself. -/
def isRecoverable : Error → Bool
  | io _ | protocol _ | unknownMessageType _ | connection _ | timeout _ _ | notConnected => true
  | _ => false

/-- Nothing works until the user mends these. -/
def isFatal : Error → Bool
  | config _ | invalidUrl _ _ => true
  | _ => false

/-- The caller asked for something that cannot be. -/
def isMisuse : Error → Bool
  | duplicateId _ | itemNotFound _ | notAContainer _ | notADevice _ | indexOutOfRange _ _ _
  | wrongValueType _ _ | textTooLong _ => true
  | _ => false

end Error

/-- Two steps, one after the other, succeed if both do. -/
theorem bind_eq_ok_iff {ε α β : Type} {first : Except ε α} {next : α → Except ε β} {b : β} :
    (first >>= next) = .ok b ↔ ∃ a, first = .ok a ∧ next a = .ok b := by
  cases first with
  | error e => exact ⟨fun h => (nomatch h), fun ⟨_, h, _⟩ => (nomatch h)⟩
  | ok a => exact ⟨fun h => ⟨a, rfl, h⟩, fun ⟨_, h, hb⟩ => Except.ok.inj h ▸ hb⟩

/-- Two steps, one after the other, fail as the first one does, or as the second one does after
it. -/
theorem bind_eq_error_iff {ε α β : Type} {first : Except ε α} {next : α → Except ε β}
    {e : ε} :
    (first >>= next) = .error e ↔ first = .error e ∨ ∃ a, first = .ok a ∧ next a = .error e := by
  cases first with
  | error cause =>
    constructor
    · exact fun h => Or.inl (congrArg Except.error (Except.error.inj h))
    · rintro (h | ⟨_, h, _⟩)
      · exact congrArg Except.error (Except.error.inj h)
      · cases h
  | ok a =>
    constructor
    · exact fun h => Or.inr ⟨a, rfl, h⟩
    · rintro (h | ⟨_, h, he⟩)
      · cases h
      · exact Except.ok.inj h ▸ he

theorem discard_eq_ok_iff {α : Type} {first : Except Error α} :
    discard first = .ok () ↔ ∃ a, first = .ok a := by
  cases first with
  | error e => exact ⟨fun h => (nomatch h), fun ⟨_, h⟩ => (nomatch h)⟩
  | ok a => exact ⟨fun _ => ⟨a, rfl⟩, fun _ => rfl⟩

theorem discard_eq_error_iff {α : Type} {first : Except Error α} {e : Error} :
    discard first = .error e ↔ first = .error e := by
  cases first with
  | error cause =>
    constructor <;> exact fun h => congrArg Except.error (Except.error.inj h)
  | ok a => exact ⟨nofun, nofun⟩

/-- A success that passes a test is a success. -/
theorem exists_ok_of_any {α : Type} {result : Except Error α} {test : α → Bool}
    (h : result.toOption.any test = true) : ∃ a, result = .ok a ∧ test a = true := by
  cases result with
  | error e => cases h
  | ok a => exact ⟨a, rfl, h⟩

end Domotics
