import Domotics.Error
/-!
# Items

An item is a node of the tree that a central unit describes: a container, which stands for a room
or a group and has children, or a device. An item that is not in a tree has no parent.
-/

namespace Domotics

/-- The number of the container that stands for the central unit itself. -/
def rootId : ItemId := 0

/-- What an item is. -/
inductive ItemKind where
  /-- A container with its children in order; `listening` if the client asked to be told of changes
  in it. -/
  | container (children : List ItemId) (listening : Bool)
  | device (role : DeviceRole) (value : DeviceValue)
deriving DecidableEq

/-- A node of the tree. -/
structure Item where
  id : ItemId
  name : String
  description : String
  internal : Bool
  parent : Option ItemId
  kind : ItemKind
deriving DecidableEq

namespace Item

/-- A container without children that nobody listens to. -/
def ofContainer (id : ItemId) (name description : String) (internal : Bool) : Item :=
  ⟨id, name, description, internal, none, .container [] false⟩

/-- A device that is not in a tree. -/
def ofDevice (id : ItemId) (name description : String) (internal : Bool) (role : DeviceRole)
    (value : DeviceValue) : Item :=
  ⟨id, name, description, internal, none, .device role value⟩

def isContainer (item : Item) : Bool :=
  match item.kind with
  | .container _ _ => true
  | .device _ _ => false

/-- Whether the item is a container that the client listens to. -/
def isListening (item : Item) : Bool :=
  match item.kind with
  | .container _ listening => listening
  | .device _ _ => false

/-- The children of a container; a device has none. -/
def childIds (item : Item) : List ItemId :=
  match item.kind with
  | .container children _ => children
  | .device _ _ => []

def role? (item : Item) : Option DeviceRole :=
  match item.kind with
  | .container _ _ => none
  | .device role _ => some role

def value? (item : Item) : Option DeviceValue :=
  match item.kind with
  | .container _ _ => none
  | .device _ value => some value

/-- The children of a container. -/
def children (item : Item) : Except Error (List ItemId) :=
  match item.kind with
  | .container children _ => .ok children
  | .device _ _ => .error (.notAContainer item.id)

/-- The value of a device. -/
def value (item : Item) : Except Error DeviceValue :=
  match item.kind with
  | .container _ _ => .error (.notADevice item.id)
  | .device _ value => .ok value

/-- The value of a binary device. -/
def binaryValue (item : Item) : Except Error Bool := do
  match ← item.value with
  | .binary on => .ok on
  | .decimal _ => .error (.wrongValueType item.id .binary)

/-- The value of a decimal device with its range and unit. -/
def quantity (item : Item) : Except Error Quantity := do
  match ← item.value with
  | .decimal quantity => .ok quantity
  | .binary _ => .error (.wrongValueType item.id .decimal)

/-- The number a decimal device carries. -/
def decimalValue (item : Item) : Except Error Binary64 :=
  (·.value) <$> item.quantity

/-- The item in a container. -/
def under (item : Item) (parent : ItemId) : Item :=
  { item with parent := some parent }

/-- The item with other children; a device stays as it is. -/
def withChildren (item : Item) (children : List ItemId) : Item :=
  match item.kind with
  | .container _ listening => { item with kind := .container children listening }
  | .device _ _ => item

/-- The item with another listening mark; a device stays as it is. -/
def withListening (item : Item) (listening : Bool) : Item :=
  match item.kind with
  | .container children _ => { item with kind := .container children listening }
  | .device _ _ => item

/-- The device with another value in place of its own; a container stays as it is. -/
def withValue (item : Item) (value : DeviceValue) : Item :=
  match item.kind with
  | .container _ _ => item
  | .device role _ => { item with kind := .device role value }

/-- What an item says on its own line, without the indentation before it. -/
def line (item : Item) : String :=
  match item.kind with
  | .container _ listening =>
    s!"{item.name} ({item.id})" ++ if listening then " [listening]" else ""
  | .device role value =>
    s!"{item.name} ({item.id}) {value.type.text} {role.text} = {value.text}"

/-! ## What edits keep -/

section Edits

variable (item : Item) (children : List ItemId) (listening : Bool) (value : DeviceValue)

@[simp] theorem id_withChildren : (item.withChildren children).id = item.id := by
  obtain ⟨_, _, _, _, _, _ | _⟩ := item <;> rfl

@[simp] theorem parent_withChildren : (item.withChildren children).parent = item.parent := by
  obtain ⟨_, _, _, _, _, _ | _⟩ := item <;> rfl

@[simp] theorem isContainer_withChildren :
    (item.withChildren children).isContainer = item.isContainer := by
  obtain ⟨_, _, _, _, _, _ | _⟩ := item <;> rfl

@[simp] theorem isListening_withChildren :
    (item.withChildren children).isListening = item.isListening := by
  obtain ⟨_, _, _, _, _, _ | _⟩ := item <;> rfl

@[simp] theorem isContainer_withListening :
    (item.withListening listening).isContainer = item.isContainer := by
  obtain ⟨_, _, _, _, _, _ | _⟩ := item <;> rfl

theorem isListening_withListening :
    (item.withListening listening).isListening = (item.isContainer && listening) := by
  obtain ⟨_, _, _, _, _, _ | _⟩ := item <;> rfl

theorem childIds_withChildren :
    (item.withChildren children).childIds = if item.isContainer then children else [] := by
  obtain ⟨_, _, _, _, _, _ | _⟩ := item <;> rfl

@[simp] theorem withChildren_childIds : item.withChildren item.childIds = item := by
  obtain ⟨_, _, _, _, _, _ | _⟩ := item <;> rfl

@[simp] theorem withChildren_withChildren (children' : List ItemId) :
    (item.withChildren children).withChildren children' = item.withChildren children' := by
  obtain ⟨_, _, _, _, _, _ | _⟩ := item <;> rfl

variable {item}

/-- Only a container is listened to. -/
theorem isContainer_of_isListening (h : item.isListening = true) : item.isContainer = true := by
  obtain ⟨_, _, _, _, _, _ | _⟩ := item
  · rfl
  · cases h

/-- Only a container has children. -/
theorem isContainer_of_mem_childIds {id : ItemId} (h : id ∈ item.childIds) :
    item.isContainer = true := by
  obtain ⟨_, _, _, _, _, _ | _⟩ := item
  · rfl
  · cases h

theorem children_eq_ok_iff {children : List ItemId} :
    item.children = .ok children ↔ item.isContainer = true ∧ item.childIds = children := by
  obtain ⟨_, _, _, _, _, _ | _⟩ := item
  · exact ⟨fun h => ⟨rfl, Except.ok.inj h⟩, fun h => congrArg Except.ok h.2⟩
  · exact ⟨fun h => (nomatch h), fun h => (nomatch h.1)⟩

/-- A device has no children to read. -/
theorem children_eq_error_iff {e : Error} :
    item.children = .error e ↔ item.isContainer = false ∧ e = .notAContainer item.id := by
  obtain ⟨_, _, _, _, _, _ | _⟩ := item <;> simp [children, isContainer, eq_comm]

end Edits

end Item

end Domotics
