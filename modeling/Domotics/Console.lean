import Domotics.Engine.Running
import Domotics.Report
import Domotics.Settings.Directory
/-!
# The program without a screen

Commands come in as lines and reports go out as lines. A line of blanks is passed over, and one that
is no command is answered by a report of its own.
-/

namespace Domotics

/-- The report of what a watcher is told. -/
def Notice.report : Notice → Report
  | message m => .message m
  | status activity => .status activity
  | treeEvent event => .treeEvent event
  | problem text => .protocolError text

/-- The reports among outputs. -/
def reportsOf (outputs : List Output) : List Report :=
  outputs.filterMap fun output => match output with
    | .told (some _) notice => some notice.report
    | .told none _ | .wrote _ _ _ => none

/-- What a line of input asks for, unless it is blank. -/
def readInput? (line : String) : Option (Except Error Command) :=
  let trimmed := Text.trimBlank line
  if trimmed.isEmpty then none else some (Command.parse trimmed)

namespace Console

/-- The program while it runs. -/
structure State where
  running : Running
  /-- Whether lines are still read; none is after `quit`. -/
  reading : Bool
  /-- Whether the program goes on. -/
  alive : Bool

/-- What happens to the program. -/
inductive Input where
  | line (text : String)
  | inputEnded
  | wake (wake : Running.Wake)
  /-- Something happens to a client. It does not matter to another one. -/
  | network (client : ClientNumber) (happening : Happening)
deriving DecidableEq

/-- The name the program watches its engine by. -/
def watcher : String := "console"

/-- Begins, with the reports of it. -/
def start (engine : Engine) : List Report × State :=
  let running := match (Running.ofEngine engine).operate [] (.start (some watcher)) with
    | .ok (_, running) => running
    | .error _ => .ofEngine engine
  let (outputs, running) := running.takeOutputs
  (reportsOf outputs, ⟨running, true, true⟩)

/-- Lets the client take everything that is queued, where it takes anything. -/
def takeAll (running : Running) : Running :=
  match running.client with
  | none => running
  | some (_, client) => client.queue.foldl (fun running _ => running.happen .taken) running

/-- What a program does when something happens to it: what goes out, and the program after it. The
last report is the tree as it is then. -/
def step (state : State) (input : Input) : List Output × List Report × State :=
  if !state.alive then ([], [], state)
  else
    let quiet (report : List Report) := ([], report, state)
    let woken (state : State) (wake : Running.Wake) :=
      let (goOn, running) := state.running.wake wake
      let (outputs, running) := (takeAll running).takeOutputs
      let last := if goOn then [] else [Report.tree running.engine.tree.render]
      (outputs, reportsOf outputs ++ last, { state with running, alive := goOn })
    match input with
    | .inputEnded => ([], [], { state with reading := false })
    | .line text =>
      if !state.reading then quiet []
      else
        match readInput? text with
        | none => quiet []
        | some (.error e) => quiet [.error e.message false]
        | some (.ok command) =>
          woken { state with reading := command ≠ .quit } (.command command)
    | .wake wake => woken state wake
    | .network number happening =>
      match state.running.client with
      | some (held, _) =>
        if held = number then
          let (outputs, running) := (takeAll (state.running.happen happening)).takeOutputs
          (outputs, reportsOf outputs, { state with running })
        else quiet []
      | none => quiet []

end Console

end Domotics
