import Domotics.Engine.Basic
/-!
# Events of the connection

What an engine does about an event of its client. Events of a connection that is no longer the
present one do not matter.
-/

namespace Domotics.Engine

/-- A message arrived on the present connection. The watcher is told of the message, then of what
changed in the tree, and then of what was wrong with it. -/
def receive (engine : Engine) (epoch : Epoch) (message : Message) : Engine :=
  let logged := engine.record .received message
  let outcome := dispatch logged.tree logged.listening logged.settings.behavior.listenAll epoch
    message
  let applied := { logged.withTree outcome.tree with listening := outcome.listening }
  let told := (applied.notify (.message message)).forwardTreeEvents
  let warned := match outcome.problem with
    | some text => told.notify (.problem text)
    | none => told
  (warned.carryOutAll outcome.actions).forwardTreeEvents

/-- Acts on an event. -/
def process (engine : Engine) : ConnectionEvent → Engine
  | .connected epoch =>
    if engine.client.isNone then engine
    else
      let credentials := engine.unit.credentials
      let logged := engine.record .sent (.logIn credentials.username credentials.password)
      let (actions, listening) := logged.listening.connected logged.tree epoch
      ({ logged with listening }.notify (.status .connected)).carryOutAll actions
  | .connectFailed attempt _ => engine.notify (.status (.ofFailedAttempt attempt))
  | .disconnected epoch =>
    if engine.listening.online = some epoch then
      { engine with listening := engine.listening.disconnected engine.tree epoch }.notify
        (.status .closed)
    else engine
  | .message epoch message =>
    if engine.listening.online = some epoch then engine.receive epoch message else engine
  | .protocolError epoch text =>
    if engine.listening.online = some epoch then engine.notify (.problem text) else engine

end Domotics.Engine
