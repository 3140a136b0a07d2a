import Domotics.Connection.Client
import Domotics.Engine.Control
import Domotics.Engine.Process
/-!
# A running engine

`Running` puts an engine together with the client it holds and with the events that the client
posted and the engine has not processed yet. Three things go on in any order: operations of a user,
the processing of events, and happenings to the client. Whatever the engine wants done is done
before anything else goes on.

When a client is told to stop it may still do something before it notices: an operation is given
what happens to the client in that time. What the client posted is forgotten then, so no event of a
stopped client is ever processed.

What leaves the program is collected as `Output`s: what a watcher is told, and what is written on
the connections.
-/

namespace Domotics

/-- What a user can have an engine do. -/
inductive Operation where
  | watch (watcher : Option String)
  | start (watcher : Option String)
  | stop
  | reconnect (watcher : Option String)
  | command (command : Command)
deriving DecidableEq

/-- Does what a user asks for, and tells whether to go on. -/
def Engine.operate (engine : Engine) : Operation → Engine.Attempt Bool
  | .watch watcher => .done (engine.watchedBy watcher) true
  | .start watcher => (engine.start watcher).answering true
  | .stop => .done engine.stop true
  | .reconnect watcher => (engine.reconnect watcher).answering true
  | .command command => engine.obey command

/-- What leaves the program. -/
inductive Output where
  | told (watcher : Option String) (notice : Notice)
  /-- A client wrote a message on its connection. -/
  | wrote (client : ClientNumber) (epoch : Epoch) (message : Message)
deriving DecidableEq

/-- An engine with its client. -/
structure Running where
  engine : Engine
  client : Option (ClientNumber × Client)
  /-- What clients posted, and which one, the oldest first. -/
  inbox : List (ClientNumber × ConnectionEvent)
  outputs : List Output

namespace Running

/-- An engine that has not been told anything yet. -/
def ofEngine (engine : Engine) : Running :=
  ⟨engine, none, [], []⟩

/-- How far the client is. -/
def state (running : Running) : ConnectionState :=
  match running.client with
  | none => .offline
  | some (_, client) => client.state

/-- The outputs of what a client wrote. -/
def outputsOf (number : ClientNumber) (step : ClientStep) : List Output :=
  step.written.map fun (epoch, message) => .wrote number epoch message

/-- Does what the engine wants done. When a client is told to stop, `meanwhile` happens to it before
it notices. -/
def perform (meanwhile : List Happening) (running : Running) : Effect → Running
  | .notify watcher notice =>
    { running with outputs := running.outputs ++ [.told watcher notice] }
  | .startClient number address credentials =>
    { running with client := some (number, .start address credentials) }
  | .send _ epoch message =>
    let client := running.client.map fun (number, client) =>
      (number, (client.send epoch message).toOption.getD client)
    { running with client }
  | .stopClient _ =>
    match running.client with
    | none => running
    | some (number, client) =>
      let last := client.run (meanwhile ++ [.toldToStop])
      { running with
        client := none
        inbox := []
        outputs := running.outputs ++ outputsOf number last }

/-- Does everything that an engine wants done. -/
def follow (running : Running) (meanwhile : List Happening) (engine : Engine) : Running :=
  let (effects, engine) := engine.takeEffects
  effects.foldl (perform meanwhile) { running with engine }

/-- Has the engine do something. What it did before it failed stays done. -/
def attempt (running : Running) (meanwhile : List Happening) (operation : Operation) :
    Except Error Bool × Running :=
  let attempt := running.engine.operate operation
  (attempt.result, running.follow meanwhile attempt.engine)

/-- What comes of an operation that does not fail. -/
def operate (running : Running) (meanwhile : List Happening) (operation : Operation) :
    Except Error (Bool × Running) :=
  let (result, next) := running.attempt meanwhile operation
  result.map fun goOn => (goOn, next)

/-- Has the engine process an event. -/
def process (running : Running) (meanwhile : List Happening) (event : ConnectionEvent) : Running :=
  running.follow meanwhile (running.engine.process event)

/-- Has the engine process the oldest event that was posted. -/
def processNext (running : Running) (meanwhile : List Happening) :
    Option (ConnectionEvent × Running) :=
  match running.inbox with
  | [] => none
  | (_, event) :: inbox => some (event, { running with inbox }.process meanwhile event)

/-- Something happens to the client. -/
def happen (running : Running) (happening : Happening) : Running :=
  match running.client with
  | none => running
  | some (number, client) =>
    let step := client.step happening
    { running with
      client := some (number, step.client)
      inbox := running.inbox ++ step.posted.map fun event => (number, event)
      outputs := running.outputs ++ outputsOf number step }

/-- Sends a ping, and returns its number. -/
def sendPing (running : Running) : Except Error (Int32 × Running) :=
  let attempt := running.engine.sendPing
  attempt.result.map fun id => (id, running.follow [] attempt.engine)

/-- Stops the engine. -/
def stop (running : Running) : Running :=
  running.follow [] running.engine.stop

/-- What an engine that runs by itself wakes up for. -/
inductive Wake where
  | command (command : Command)
  /-- An event was posted. -/
  | event
  /-- It is time for a ping. -/
  | ping
  /-- The user wants the program to end. -/
  | shutdown
deriving DecidableEq

/-- What an engine that runs by itself does when it wakes up, and whether it goes on after it. It
goes on after a command that fails, and pings are sent only while a connection is up. -/
def wake (running : Running) : Wake → Bool × Running
  | .command command =>
    match running.attempt [] (.command command) with
    | (.ok true, next) => (true, next)
    | (.ok false, next) => (false, next.stop)
    | (.error _, next) => (true, next)
  | .event =>
    match running.processNext [] with
    | some (_, next) => (true, next)
    | none => (true, running)
  | .ping =>
    (true, if running.engine.isOnline then (running.attempt [] (.command .ping)).2 else running)
  | .shutdown => (false, running.stop)

/-- What an engine does that wakes up again and again, until it does not go on. -/
def wakeAll (running : Running) : List Wake → Running
  | [] => running
  | wake :: more =>
    match running.wake wake with
    | (true, next) => wakeAll next more
    | (false, next) => next

/-- Takes the outputs. -/
def takeOutputs (running : Running) : List Output × Running :=
  (running.outputs, { running with outputs := [] })

end Running

end Domotics
