import Domotics.Tree.Edit
import Domotics.Url.Basic
import Domotics.Text.Quoted
/-!
# The central unit

What the client knows of its central unit: where it is, how to log in to it, whether to connect to
it on start, and the tree of its items.
-/

namespace Domotics

/-- Where a central unit listens. An address of version 6 stands without brackets. -/
structure ServerAddress where
  host : String
  port : Nat
deriving DecidableEq

namespace ServerAddress

/-- Host and port, as they are written together. -/
def text (address : ServerAddress) : String :=
  if address.host.contains ':' then s!"[{address.host}]:{address.port}"
  else s!"{address.host}:{address.port}"

/-- The address a URL names. It needs a host, and a port unless the scheme has one. -/
def ofUrl (url : Url) : Except Error ServerAddress :=
  let host? := match url.host with
    | none | some .empty => none
    | some (.domain name) => some name
    | some (.ipv4 address) => some address.text
    | some (.ipv6 address) => some address.networkText
  match host?, url.knownPort? with
  | none, _ => .error (.invalidUrl url.text "missing host")
  | some _, none => .error (.invalidUrl url.text "missing port")
  | some host, some port => .ok ⟨host, port⟩

end ServerAddress

/-- The address a text names, with the URL it is. -/
def readServerUrl (text : String) : Except Error (Url × ServerAddress) :=
  match Url.parse text with
  | .error e => .error (.invalidUrl text e.message)
  | .ok url => (ServerAddress.ofUrl url).map fun address => (url, address)

/-- Who logs in. -/
structure Credentials where
  username : String
  password : String
deriving DecidableEq

/-- The credentials as they may be shown: without the password. -/
def Credentials.shown (credentials : Credentials) : String :=
  "Credentials \x7b username: " ++ Text.quoted credentials.username ++
    ", password: " ++ Text.quoted "<redacted>" ++ " \x7d"

/-- A central unit as the client knows it. -/
structure CentralUnit where
  tree : Tree
  url : Url
  address : ServerAddress
  credentials : Credentials
  autoConnect : Bool

namespace CentralUnit

/-- The central unit at a URL, of which only the root is known. -/
def atUrl (text : String) : Except Error CentralUnit := do
  let (url, address) ← readServerUrl text
  return { tree := .empty, url, address, credentials := ⟨"", ""⟩, autoConnect := true }

/-- The same central unit at another URL. -/
def setUrl (unit : CentralUnit) (text : String) : Except Error CentralUnit := do
  let (url, address) ← readServerUrl text
  return { unit with url, address }

end CentralUnit

end Domotics
