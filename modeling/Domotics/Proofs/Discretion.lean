import Domotics.Console
import Domotics.Proofs.Engine.Discretion
/-!
# The password is told to nobody but the central unit

The program reports what a watcher of its engine is told, and at the end the tree. What clients
write is not reported, and all else is alike whatever the password is, so the program reports the
same with any (`Console.reportsOfRun_withPassword`). Its steps are taken one by one:
`State.Resembles.step` says that programs which are alike but for the password report the same and
stay alike.

`discreet_run` puts this together with what is seen of an engine, and with how a login is shown: its
password is in no log and in no report, whoever sent it.
-/

namespace Domotics

open Engine Running

variable {password : String}

/-! ## Reports -/

/-- What clients write is not reported. -/
theorem reportsOf_filter (outputs : List Output) :
    reportsOf (outputs.filter (!·.isLogin)) = reportsOf outputs := by
  unfold reportsOf
  rw [List.filterMap_filter]
  refine List.filterMap_congr fun output _ => ?_
  cases output with
  | told watcher notice => rfl
  | wrote number epoch message => exact ite_self _

theorem Running.Resembles.takeOutputs {running running' : Running}
    (h : running.Resembles password running') :
    reportsOf running'.takeOutputs.1 = reportsOf running.takeOutputs.1 ∧
      running.takeOutputs.2.Resembles password running'.takeOutputs.2 := by
  refine ⟨?_, h.engine, h.client, h.inbox, rfl⟩
  have hreports := congrArg reportsOf h.outputs
  rwa [reportsOf_filter, reportsOf_filter] at hreports

/-! ## The program -/

namespace Console

variable {state state' : State}

/-- Two programs are alike but for the password of their engines. -/
structure State.Resembles (password : String) (state state' : State) : Prop where
  running : state.running.Resembles password state'.running
  reading : state'.reading = state.reading
  alive : state'.alive = state.alive

/-- Two programs report the same when something happens, and are alike after it. -/
structure StepsAlike (password : String) (done done' : List Output × List Report × State) :
    Prop where
  reported : done'.2.1 = done.2.1
  state : done.2.2.Resembles password done'.2.2

theorem resembles_takeAll {running running' : Running} (h : running.Resembles password running') :
    (takeAll running).Resembles password (takeAll running') := by
  obtain ⟨hnone, hnone'⟩ | ⟨number, client, hheld, hheld'⟩ := h.client_cases
  · simp only [takeAll, hnone, hnone']
    exact h
  · simp only [takeAll, hheld, hheld']
    exact List.foldl_rel h fun _ _ _ _ h => h.happen .taken

/-- What a program does when its engine wakes up. -/
def wokenUp (state : State) (wake : Wake) : List Output × List Report × State :=
  let (goOn, running) := state.running.wake wake
  let (outputs, running) := (takeAll running).takeOutputs
  let last := if goOn then [] else [Report.tree running.engine.tree.render]
  (outputs, reportsOf outputs ++ last, { state with running, alive := goOn })

theorem State.Resembles.wokenUp (h : state.Resembles password state') (wake : Wake) :
    StepsAlike password (wokenUp state wake) (wokenUp state' wake) := by
  obtain ⟨hgoOn, hwoken⟩ := h.running.wake wake
  obtain ⟨hreports, htaken⟩ := (resembles_takeAll hwoken).takeOutputs
  refine ⟨?_, htaken, h.reading, hgoOn⟩
  simp only [Console.wokenUp, hreports, hgoOn, htaken.engine]
  rfl

theorem State.Resembles.step (h : state.Resembles password state') (input : Input) :
    StepsAlike password (step state input) (step state' input) := by
  have hquiet : ∀ reports : List Report,
      StepsAlike password ([], reports, state) ([], reports, state') := fun _ => ⟨rfl, h⟩
  obtain ⟨running, reading, alive⟩ := state
  obtain ⟨running', reading', alive'⟩ := state'
  obtain ⟨hrunning, rfl, rfl⟩ := h
  unfold Console.step
  dsimp only at hrunning hquiet ⊢
  split
  · exact hquiet []
  · cases input with
    | inputEnded => exact ⟨rfl, hrunning, rfl, rfl⟩
    | line text =>
      dsimp only
      split
      · exact hquiet []
      · split
        · exact hquiet []
        · exact hquiet _
        · rename_i command _
          have hread : State.Resembles password ⟨running, command ≠ .quit, alive'⟩
              ⟨running', command ≠ .quit, alive'⟩ := ⟨hrunning, rfl, rfl⟩
          exact hread.wokenUp (.command command)
    | wake wake =>
      have hwakes : State.Resembles password ⟨running, reading', alive'⟩
          ⟨running', reading', alive'⟩ := ⟨hrunning, rfl, rfl⟩
      exact hwakes.wokenUp wake
    | network number happening =>
      dsimp only
      obtain ⟨hnone, hnone'⟩ | ⟨held, client, hheld, hheld'⟩ := hrunning.client_cases
      · simp only [hnone, hnone']
        exact hquiet []
      · simp only [hheld, hheld']
        split
        · obtain ⟨hreports, htaken⟩ :=
            (resembles_takeAll (hrunning.happen happening)).takeOutputs
          exact ⟨hreports, htaken, rfl, rfl⟩
        · exact hquiet []

/-- What a program reports, each time something happens to it. -/
def reports (state : State) : List Input → List (List Report)
  | [] => []
  | input :: inputs =>
    let (_, reported, next) := step state input
    reported :: reports next inputs

theorem State.Resembles.reports (h : state.Resembles password state') (inputs : List Input) :
    reports state' inputs = reports state inputs := by
  induction inputs generalizing state state' with
  | nil => rfl
  | cons input inputs ih =>
    have hstep := h.step input
    simp only [Console.reports, hstep.reported, ih hstep.state]

/-- What the program reports when it begins, and then each time something happens to it. -/
def reportsOfRun (engine : Engine) (inputs : List Input) : List (List Report) :=
  (start engine).1 :: reports (start engine).2 inputs

theorem resembles_start (engine : Engine) (password : String) :
    (start (engine.withPassword password)).1 = (start engine).1 ∧
      (start engine).2.Resembles password (start (engine.withPassword password)).2 := by
  have hnew := resembles_ofEngine engine password
  obtain ⟨result, next, next', hrun, hrun', hnext⟩ := hnew.exists_attempt [] (.start (some watcher))
  simp only [start, Running.operate, hrun, hrun']
  cases result with
  | error e => exact ⟨rfl, hnew, rfl, rfl⟩
  | ok goOn =>
    obtain ⟨hreports, htaken⟩ := Running.Resembles.takeOutputs hnext
    exact ⟨hreports, htaken, rfl, rfl⟩

theorem reportsOfRun_withPassword (engine : Engine) (password : String) (inputs : List Input) :
    reportsOfRun (engine.withPassword password) inputs = reportsOfRun engine inputs := by
  obtain ⟨hbegun, hstate⟩ := resembles_start engine password
  rw [reportsOfRun, reportsOfRun, hbegun, hstate.reports]

end Console

/-! ## Nobody else is told -/

/-- Two messages look the same: all that is kept, said and made of them is equal. -/
structure Message.LooksLike (m m' : Message) : Prop where
  summary : m'.summary = m.summary
  /-- A log is the same after either of them, in each entry and so in its line. -/
  logged : ∀ (log : Journal) (direction : Direction),
    log.record direction m' = log.record direction m
  reported : ∀ more, (Report.message m').line more = (Report.message m).line more
  /-- When it arrives, the same comes of it. -/
  dispatched : ∀ (tree : Tree) (listening : Listening) (listenAll : Bool) (epoch : Epoch),
    dispatch tree listening listenAll epoch m' = dispatch tree listening listenAll epoch m

/-- Settings look the same from outside. -/
structure Settings.LooksLike (settings settings' : Settings) : Prop where
  /-- Engines with them are refused alike. Otherwise, whatever moves both make, they answer the same
  in each, and the same is seen of them before and after each. -/
  sights : ∀ moves : List Move, (ofSettings settings').map (sightsOfRun · moves) =
    (ofSettings settings).map (sightsOfRun · moves)
  /-- Programs with them report the same, whatever happens to both. -/
  reports : ∀ inputs : List Console.Input,
    (ofSettings settings').map (Console.reportsOfRun · inputs) =
      (ofSettings settings).map (Console.reportsOfRun · inputs)

/-- What does not depend on the password of an engine does not depend on that of its settings. -/
theorem map_ofSettings_withPassword {α : Type} {view : Engine → α}
    (h : ∀ engine : Engine, view (engine.withPassword password) = view engine)
    (settings : Settings) :
    (ofSettings (settings.withPassword password)).map view = (ofSettings settings).map view := by
  rw [ofSettings_withPassword]
  cases ofSettings settings with
  | error e => rfl
  | ok engine => exact congrArg Except.ok (h engine)

/-- Settings that differ in the password alone look the same, and so do two logins that do. -/
theorem discreet_run :
    (∀ (settings : Settings) (password : String),
      settings.LooksLike (settings.withPassword password)) ∧
    ∀ (minor : UInt8) (username password password' : String),
      (Message.login minor username password).LooksLike (.login minor username password') := by
  refine ⟨fun settings password => ⟨fun moves => ?_, fun inputs => ?_⟩,
    fun minor username password password' => ⟨rfl, fun log direction => ?_, fun _ => rfl,
      fun _ _ _ _ => rfl⟩⟩
  · exact map_ofSettings_withPassword (fun engine => sightsOfRun_withPassword engine password moves)
      settings
  · exact map_ofSettings_withPassword
      (fun engine => Console.reportsOfRun_withPassword engine password inputs) settings
  · exact log.record_login direction minor username password' password

/-- The central unit is told the password. -/
example : ((ofSettings ⟨⟨"ohap://unit:18000", true⟩, ⟨"alice", "secret"⟩,
    Settings.initial.connection, Settings.initial.behavior⟩).toOption.any fun engine =>
      .wrote 1 1 (.logIn "alice" "secret") ∈ ((ofEngine engine).run
        [.operation [] (.start none), .happening .connected]).outputs) = true := by
  decide +kernel

end Domotics
