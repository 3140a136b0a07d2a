import Domotics.Command
import Domotics.Engine.Basic
/-!
# Controlling an engine

What a user can have an engine do. Each operation returns an `Attempt`: what it answers or why it
failed, and the engine it leaves, also where it fails.
-/

namespace Domotics.Engine

/-- Takes over what came of listening to a container or not. -/
def settle (engine : Engine) (outcome : Listening.Outcome) : Engine :=
  ({ engine.withTree outcome.tree with listening := outcome.listening }.carryOutAll
    outcome.actions).forwardTreeEvents

/-- Takes over what came of listening to a container or not, unless it was refused. -/
def settling (engine : Engine) (outcome : Except Error Listening.Outcome) : Attempt Unit :=
  (engine.check outcome).andThen fun outcome engine => .done (engine.settle outcome) ()

/-- Listens to a container; the first one starts the client. -/
def startListening (engine : Engine) (id : ItemId) : Attempt Unit :=
  engine.settling (engine.listening.start engine.tree id)

/-- Stops listening to a container; the last one stops the client. -/
def stopListening (engine : Engine) (id : ItemId) : Attempt Unit :=
  engine.settling (engine.listening.stop engine.tree id)

/-- Listens to the root if the settings say so. -/
def autoConnect (engine : Engine) : Attempt Unit :=
  if engine.unit.autoConnect then engine.startListening rootId else .done engine ()

/-- Begins, with a watcher. -/
def start (engine : Engine) (watcher : Option String) : Attempt Unit :=
  (engine.watchedBy watcher).autoConnect

/-- Stops listening everywhere, and then the client. -/
def stop (engine : Engine) : Engine :=
  let quiet := engine.tree.listeningContainers.foldl
    (fun engine id => (engine.stopListening id).engine) engine
  let stopped := quiet.stopClient
  { stopped with listening := stopped.listening.clientStopped stopped.tree }

/-- Stops, and begins again with a watcher. -/
def reconnect (engine : Engine) (watcher : Option String) : Attempt Unit :=
  engine.stop.start watcher

/-- Sends a ping, and returns its number. -/
def sendPing (engine : Engine) : Attempt Int32 :=
  (engine.check engine.onlineEpoch).andThen fun epoch engine =>
    let id := engine.nextPing
    ({ engine with nextPing := id + 1 }.send epoch (.ping id)).answering id

/-- Tells the central unit the value of a device, and then gives it to the device. -/
def sendValue (engine : Engine) (id : ItemId) (value : DeviceValue) : Attempt Unit :=
  (engine.check engine.onlineEpoch).andThen fun epoch engine =>
    (engine.send epoch (.valueChanged id value)).andThen fun _ engine =>
      (engine.check (engine.tree.setValue id value)).andThen fun tree engine =>
        .done (engine.withTree tree).forwardTreeEvents ()

/-- Changes the value of a binary device, there and here. -/
def sendBinary (engine : Engine) (id : ItemId) (on : Bool) : Attempt Unit :=
  (engine.check ((engine.tree.item id).bind (·.binaryValue))).andThen fun _ engine =>
    engine.sendValue id (.binary on)

/-- Changes the value of a decimal device, there and here. -/
def sendDecimal (engine : Engine) (id : ItemId) (value : Binary64) : Attempt Unit :=
  (engine.check ((engine.tree.item id).bind (·.quantity))).andThen fun quantity engine =>
    engine.sendValue id (.decimal { quantity with value })

/-- Forgets every item but the root. -/
def forgetItems (tree : Tree) : Except Error Tree :=
  (tree.children rootId).map fun ids => ids.foldl (fun tree id => (tree.remove id).2) tree

/-- Stops a client that is held, for another reason than that nothing is listened to. -/
def dropClient (engine : Engine) : Engine :=
  if engine.client.isSome then
    let stopped := engine.stopClient
    { stopped with listening := stopped.listening.clientStopped stopped.tree }
  else engine

/-- Turns to another central unit. What was known of the old one is forgotten, and a client that
runs is stopped; if the root is listened to, a new one is started. -/
def setUrl (engine : Engine) (url : String) : Attempt Unit :=
  (engine.check (engine.unit.setUrl url)).andThen fun unit engine =>
    let server := { engine.settings.server with url }
    let turned := { engine with unit, settings := { engine.settings with server } }.dropClient
    (turned.check (forgetItems turned.tree)).andThen fun tree engine =>
      let (actions, listening) := engine.listening.itemsRemoved tree
      .done (({ engine.withTree tree with listening }.carryOutAll actions).forwardTreeEvents) ()

/-- Carries out a command, and tells whether to go on. -/
def obey (engine : Engine) : Command → Attempt Bool
  | .startListening id => (engine.startListening id).answering true
  | .stopListening id => (engine.stopListening id).answering true
  | .setBinary id on => (engine.sendBinary id on).answering true
  | .setDecimal id value => (engine.sendDecimal id value).answering true
  | .ping => engine.sendPing.answering true
  | .setUrl url => (engine.setUrl url).answering true
  | .reconnect => engine.stop.autoConnect.answering true
  | .quit => .done engine false

end Domotics.Engine
