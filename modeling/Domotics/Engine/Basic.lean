import Domotics.Activity
import Domotics.Connection.Event
import Domotics.Dispatch
import Domotics.Journal
import Domotics.Settings.Basic
/-!
# The engine

`Engine` is the part of the program that decides. It owns the central unit, the listening marks and
the message log, holds at most one client at a time, and tells a watcher what happens. What it wants
done it queues as `Effect`s, in order: the watcher is told something, a client is started or told to
stop, or a message is handed to the client. Clients are numbered, so that an effect says which one
it means.
-/

namespace Domotics

/-- The number of a client, counted from one for each engine. -/
abbrev ClientNumber := Nat

/-- What a watcher is told. -/
inductive Notice where
  /-- A message arrived. -/
  | message (message : Message)
  /-- The connection changed. -/
  | status (activity : Activity)
  /-- The tree changed. -/
  | treeEvent (event : TreeEvent)
  /-- Something was wrong with what arrived. -/
  | problem (text : String)
deriving DecidableEq

/-- What an engine wants done. -/
inductive Effect where
  /-- A watcher is told something; `none` is nobody. -/
  | notify (watcher : Option String) (notice : Notice)
  | startClient (client : ClientNumber) (address : ServerAddress) (credentials : Credentials)
  /-- The client is given a message for a connection. -/
  | send (client : ClientNumber) (epoch : Epoch) (message : Message)
  /-- The client is told to stop, and what it posted is forgotten. -/
  | stopClient (client : ClientNumber)
deriving DecidableEq

/-- The part of the program that decides. -/
structure Engine where
  unit : CentralUnit
  settings : Settings
  listening : Listening
  /-- The client that is held. -/
  client : Option ClientNumber
  clientsStarted : Nat
  /-- The name of whoever watches. -/
  watcher : Option String
  journal : Journal
  /-- The number of the next ping; after the greatest number comes the least one. -/
  nextPing : Int32
  effects : List Effect

namespace Engine

/-- The engine of a user's settings, which fails if they name no central unit. -/
def ofSettings (settings : Settings) : Except Error Engine := do
  return {
    unit := ← settings.centralUnit
    settings
    listening := .initial
    client := none
    clientsStarted := 0
    watcher := none
    journal := .initial
    nextPing := 1
    effects := [] }

def tree (engine : Engine) : Tree :=
  engine.unit.tree

def isOnline (engine : Engine) : Bool :=
  engine.listening.online.isSome

/-- The epoch of the connection that is up. -/
def onlineEpoch (engine : Engine) : Except Error Epoch :=
  match engine.listening.online with
  | some epoch => .ok epoch
  | none => .error .notConnected

/-! ## Single effects -/

def withTree (engine : Engine) (tree : Tree) : Engine :=
  { engine with unit := { engine.unit with tree } }

def watchedBy (engine : Engine) (watcher : Option String) : Engine :=
  { engine with watcher }

/-- Queues an effect. -/
def emit (engine : Engine) (effect : Effect) : Engine :=
  { engine with effects := engine.effects ++ [effect] }

/-- Tells the watcher something. -/
def notify (engine : Engine) (notice : Notice) : Engine :=
  engine.emit (.notify engine.watcher notice)

/-- Tells the watcher of all changes of the tree that nobody has been told of. -/
def forwardTreeEvents (engine : Engine) : Engine :=
  let (events, tree) := engine.tree.takeEvents
  events.foldl (fun engine event => engine.notify (.treeEvent event)) (engine.withTree tree)

/-- Adds a message to the log. -/
def record (engine : Engine) (direction : Direction) (message : Message) : Engine :=
  { engine with journal := engine.journal.record direction message }

/-- Starts a client, unless one is held. -/
def startClient (engine : Engine) : Engine :=
  match engine.client with
  | some _ => engine
  | none =>
    let number := engine.clientsStarted + 1
    { engine with client := some number, clientsStarted := number }.emit
      (.startClient number engine.unit.address engine.unit.credentials)

/-- Stops the client, if one is held. -/
def stopClient (engine : Engine) : Engine :=
  match engine.client with
  | none => engine
  | some number => { engine with client := none }.emit (.stopClient number)

/-- What came of an operation: its answer or why it failed, and the engine it leaves. An operation
that fails in the middle leaves what it did before. -/
structure Attempt (α : Type) where
  result : Except Error α
  engine : Engine

namespace Attempt

variable {α β : Type}

/-- Nothing more is to be done. -/
def done (engine : Engine) (answer : α) : Attempt α :=
  ⟨.ok answer, engine⟩

/-- Goes on from what an attempt leaves, unless it failed. -/
def andThen (attempt : Attempt α) (next : α → Engine → Attempt β) : Attempt β :=
  match attempt.result with
  | .ok answer => next answer attempt.engine
  | .error e => ⟨.error e, attempt.engine⟩

/-- The same attempt with another answer. -/
def answering (attempt : Attempt α) (answer : β) : Attempt β :=
  ⟨attempt.result.map fun _ => answer, attempt.engine⟩

end Attempt

/-- Looks at something that may be refused, which changes nothing. -/
def check {α : Type} (engine : Engine) (result : Except Error α) : Attempt α :=
  ⟨result, engine⟩

/-- Hands a message to the client, which must be there. -/
def send (engine : Engine) (epoch : Epoch) (message : Message) : Attempt Unit :=
  match engine.client with
  | none => ⟨.error .notConnected, engine⟩
  | some number => .done ((engine.record .sent message).emit (.send number epoch message)) ()

/-- Carries out an action. A message that cannot be sent is dropped. -/
def carryOut (engine : Engine) : Action → Engine
  | .startClient => engine.startClient
  | .stopClient => engine.stopClient
  | .send epoch message => (engine.send epoch message).engine

/-- Carries out actions in order. -/
def carryOutAll (engine : Engine) (actions : List Action) : Engine :=
  actions.foldl carryOut engine

/-- Takes the queued effects. -/
def takeEffects (engine : Engine) : List Effect × Engine :=
  (engine.effects, { engine with effects := [] })

/-- How an engine may be shown, given how far its client is. -/
def shown (engine : Engine) (state : ConnectionState) : String :=
  let epoch := match engine.listening.online with
    | none => "None"
    | some epoch => s!"Some({epoch})"
  let client := match engine.client with
    | none => "None"
    | some _ => "Some(" ++ state.shown ++ ")"
  "Engine \x7b url: " ++ Text.quoted engine.unit.url.text ++ ", online_epoch: " ++ epoch ++
    ", client: " ++ client ++ " \x7d"

end Engine

end Domotics
