import Domotics.Item
import Domotics.Text.Quoted
/-!
# Messages

Client and central unit talk in messages of fourteen kinds. The central unit announces its items
and reports changes of them; the client logs in, says which containers it listens to and changes
values. Each kind has a tag, which begins its frame on the wire, and a name.

An announcement and the item it announces are two forms of one thing: `Message.announce` makes the
first from the second and `Message.toItem?` goes back.
-/

namespace Domotics

/-- The fourteen kinds of messages. -/
inductive MessageKind where
  | login
  | logout
  | ping
  | pong
  | decimalDevice (role : DeviceRole)
  | binaryDevice (role : DeviceRole)
  | container
  | decimalValueChanged
  | binaryValueChanged
  | itemRemoved
  | listeningStart
  | listeningStop
deriving DecidableEq

namespace MessageKind

/-- The byte that begins a frame of this kind. -/
def tag : MessageKind → UInt8
  | login => 0x00
  | logout => 0x01
  | ping => 0x02
  | pong => 0x03
  | decimalDevice .sensor => 0x04
  | decimalDevice .actuator => 0x05
  | binaryDevice .sensor => 0x06
  | binaryDevice .actuator => 0x07
  | container => 0x08
  | decimalValueChanged => 0x09
  | binaryValueChanged => 0x0a
  | itemRemoved => 0x0b
  | listeningStart => 0x0c
  | listeningStop => 0x0d

/-- The kind a tag stands for. -/
def ofTag? (tag : UInt8) : Option MessageKind :=
  match tag.toNat with
  | 0x00 => some login
  | 0x01 => some logout
  | 0x02 => some ping
  | 0x03 => some pong
  | 0x04 => some (decimalDevice .sensor)
  | 0x05 => some (decimalDevice .actuator)
  | 0x06 => some (binaryDevice .sensor)
  | 0x07 => some (binaryDevice .actuator)
  | 0x08 => some container
  | 0x09 => some decimalValueChanged
  | 0x0a => some binaryValueChanged
  | 0x0b => some itemRemoved
  | 0x0c => some listeningStart
  | 0x0d => some listeningStop
  | _ => none

def name : MessageKind → String
  | login => "login"
  | logout => "logout"
  | ping => "ping"
  | pong => "pong"
  | decimalDevice role => "decimal-" ++ role.text
  | binaryDevice role => "binary-" ++ role.text
  | container => "container"
  | decimalValueChanged => "decimal-value-changed"
  | binaryValueChanged => "binary-value-changed"
  | itemRemoved => "item-removed"
  | listeningStart => "listening-start"
  | listeningStop => "listening-stop"

end MessageKind

/-- What every announcement says of its item. -/
structure ItemInfo where
  id : ItemId
  parent : ItemId
  name : String
  description : String
  internal : Bool
deriving DecidableEq

/-- A message. -/
inductive Message where
  | login (minor : UInt8) (username password : String)
  | logout (reason : String)
  | ping (id : Int32)
  | pong (id : Int32)
  | decimalDevice (role : DeviceRole) (info : ItemInfo) (quantity : Quantity)
  | binaryDevice (role : DeviceRole) (info : ItemInfo) (on : Bool)
  | container (info : ItemInfo)
  | decimalValueChanged (id : ItemId) (value : Binary64)
  | binaryValueChanged (id : ItemId) (on : Bool)
  | itemRemoved (id : ItemId)
  | listeningStart (id : ItemId)
  | listeningStop (id : ItemId)
deriving DecidableEq

namespace Message

/-- The minor version of the protocol that the client speaks. -/
def protocolMinor : UInt8 := 1

/-- The message that opens a conversation. -/
def logIn (username password : String) : Message :=
  login protocolMinor username password

def kind : Message → MessageKind
  | login _ _ _ => .login
  | logout _ => .logout
  | ping _ => .ping
  | pong _ => .pong
  | decimalDevice role _ _ => .decimalDevice role
  | binaryDevice role _ _ => .binaryDevice role
  | container _ => .container
  | decimalValueChanged _ _ => .decimalValueChanged
  | binaryValueChanged _ _ => .binaryValueChanged
  | itemRemoved _ => .itemRemoved
  | listeningStart _ => .listeningStart
  | listeningStop _ => .listeningStop

/-- What a message says, in one line. A password is left out. -/
def summary (m : Message) : String :=
  let name := m.kind.name
  let about (info : ItemInfo) :=
    s!"{name} id={info.id} parent={info.parent} name={Text.quoted info.name}"
  match m with
  | login minor username _ => s!"{name} v0.{minor} user={Text.quoted username}"
  | logout reason => s!"{name} reason={Text.quoted reason}"
  | decimalDevice _ info quantity => s!"{about info} value={quantity.value.text}"
  | binaryDevice _ info on => s!"{about info} value={boolText on}"
  | container info => about info
  | decimalValueChanged id value => s!"{name} id={id} value={value.text}"
  | binaryValueChanged id on => s!"{name} id={id} value={boolText on}"
  | ping id | pong id | itemRemoved id | listeningStart id | listeningStop id => s!"{name} id={id}"

/-! ## Announcements -/

/-- The item a message announces, and the container it is announced under. -/
def toItem? : Message → Option (ItemId × Item)
  | decimalDevice role info quantity =>
    some (info.parent,
      .ofDevice info.id info.name info.description info.internal role (.decimal quantity))
  | binaryDevice role info on =>
    some (info.parent,
      .ofDevice info.id info.name info.description info.internal role (.binary on))
  | container info =>
    some (info.parent, .ofContainer info.id info.name info.description info.internal)
  | _ => none

/-- The message that announces an item under a container. -/
def announce (parent : ItemId) (item : Item) : Message :=
  let info : ItemInfo := ⟨item.id, parent, item.name, item.description, item.internal⟩
  match item.kind with
  | .container _ _ => container info
  | .device role (.binary on) => binaryDevice role info on
  | .device role (.decimal quantity) => decimalDevice role info quantity

/-- The message that reports the value of a device. -/
def valueChanged (id : ItemId) : DeviceValue → Message
  | .binary on => binaryValueChanged id on
  | .decimal quantity => decimalValueChanged id quantity.value

end Message

end Domotics
