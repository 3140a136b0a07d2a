import Domotics.Proofs.Engine.Lifecycle
import Domotics.Proofs.Engine.Passwords
/-!
# The password is seen in logins only

A running engine hands the password to its clients, and a client writes it when it logs in. Two
running engines `Resemble` each other if they are alike but for the password, and so are their
clients; what left the program is the same then but for logins. Whatever goes on with both, they
stay so (`Resembles.move`, and `Resembles.wake` where they run by themselves).

A `Sight` is all that may be seen of a running engine. It has nothing of the password, so with any
password the same is seen on the way, move by move (`sightsOfRun_withPassword`).
-/

namespace Domotics

/-- Whether a message logs in. -/
def Message.isLogin : Message → Bool
  | login _ _ _ => true
  | _ => false

/-- Whether an output is a login that a client wrote. -/
def Output.isLogin : Output → Bool
  | .told _ _ => false
  | .wrote _ _ message => message.isLogin

/-! ## Clients -/

/-- The same client with another password. -/
def Client.withPassword (client : Client) (password : String) : Client :=
  { client with credentials := client.credentials.withPassword password }

/-- Two steps of clients are alike but for the password: the same is posted, and the same is
written but for logins. -/
structure ClientStep.Resembles (password : String) (step step' : ClientStep) : Prop where
  client : step'.client = step.client.withPassword password
  posted : step'.posted = step.posted
  written : step'.written.filter (!·.2.isLogin) = step.written.filter (!·.2.isLogin)

namespace Client

variable {password : String} {first first' : ClientStep} {next : Client → ClientStep}

/-- When a connection is up, a login is written, if anything is. -/
theorem filter_written_connect (client : Client) :
    client.connect.written.filter (!·.2.isLogin) = [] := by
  refine List.filter_eq_nil_iff.mpr fun sent hsent => ?_
  obtain rfl := List.mem_singleton.mp (List.mem_filter.mp hsent).1
  exact nofun

theorem resembles_step (client : Client) (password : String) (happening : Happening) :
    (client.step happening).Resembles password
      ((client.withPassword password).step happening) := by
  obtain ⟨address, credentials, phase, epoch, attempts, queue⟩ := client
  cases phase with
  | connecting =>
    cases happening with
    | connected =>
      exact ⟨rfl, rfl, (filter_written_connect _).trans (filter_written_connect _).symm⟩
    | _ => exact ⟨rfl, rfl, rfl⟩
  | waiting | online _ | ended => cases happening <;> exact ⟨rfl, rfl, rfl⟩

theorem resembles_andThen (h : first.Resembles password first')
    (hnext : ∀ client, (next client).Resembles password (next (client.withPassword password))) :
    (andThen first next).Resembles password (andThen first' next) := by
  have hsecond := hnext first.client
  rw [← h.client] at hsecond
  refine ⟨hsecond.client, ?_, ?_⟩
  · simp only [andThen, hsecond.posted, h.posted]
  · simp only [andThen, List.filter_append, hsecond.written, h.written]

theorem resembles_run (client : Client) (password : String) (happenings : List Happening) :
    (client.run happenings).Resembles password
      ((client.withPassword password).run happenings) :=
  List.foldl_rel ⟨rfl, rfl, rfl⟩ fun happening _ _ _ h =>
    resembles_andThen h fun client => client.resembles_step password happening

end Client

/-! ## Running engines -/

namespace Running

open Engine

variable {password : String} {running running' : Running}

/-- Two running engines are alike but for the password: the same waits to be processed, and the same
has left the program but for logins that clients wrote. -/
structure Resembles (password : String) (running running' : Running) : Prop where
  engine : running'.engine = running.engine.withPassword password
  client : running'.client =
    running.client.map fun held => (held.1, held.2.withPassword password)
  inbox : running'.inbox = running.inbox
  outputs : running'.outputs.filter (!·.isLogin) = running.outputs.filter (!·.isLogin)

theorem resembles_ofEngine (engine : Engine) (password : String) :
    (ofEngine engine).Resembles password (ofEngine (engine.withPassword password)) :=
  ⟨rfl, rfl, rfl, rfl⟩

/-- What a client writes is the same but for logins. -/
theorem filter_outputsOf {step step' : ClientStep} (h : step.Resembles password step')
    (number : ClientNumber) :
    (outputsOf number step').filter (!·.isLogin) = (outputsOf number step).filter (!·.isLogin) := by
  have hwritten : ∀ step : ClientStep, (outputsOf number step).filter (!·.isLogin) =
      (step.written.filter (!·.2.isLogin)).map fun sent => .wrote number sent.1 sent.2 :=
    fun step => List.filter_map
  rw [hwritten, hwritten, h.written]

/-- Either engine has no client, or they have the same one but for the password. -/
theorem Resembles.client_cases (h : running.Resembles password running') :
    (running.client = none ∧ running'.client = none) ∨
      ∃ number client, running.client = some (number, client) ∧
        running'.client = some (number, client.withPassword password) := by
  have hclient := h.client
  cases hheld : running.client with
  | none =>
    rw [hheld] at hclient
    exact .inl ⟨rfl, hclient⟩
  | some held =>
    rw [hheld] at hclient
    exact .inr ⟨held.1, held.2, rfl, hclient⟩

/-! ## Doing what an engine wants done -/

theorem Resembles.perform_send (h : running.Resembles password running')
    (meanwhile : List Happening) (number : ClientNumber) (epoch : Epoch) (message : Message) :
    (running.perform meanwhile (.send number epoch message)).Resembles password
      (running'.perform meanwhile (.send number epoch message)) := by
  refine ⟨h.engine, ?_, h.inbox, h.outputs⟩
  obtain ⟨hnone, hnone'⟩ | ⟨number, client, hheld, hheld'⟩ := h.client_cases
  · simp only [Running.perform, hnone, hnone', Option.map_none]
  · obtain ⟨address, credentials, phase, epoch, attempts, queue⟩ := client
    simp only [Running.perform, hheld, hheld', Option.map_some]
    cases phase <;> rfl

/-- A client that is told to stop writes the same until it notices, but for logins. -/
theorem Resembles.perform_stopClient (h : running.Resembles password running')
    (meanwhile : List Happening) (number : ClientNumber) :
    (running.perform meanwhile (.stopClient number)).Resembles password
      (running'.perform meanwhile (.stopClient number)) := by
  obtain ⟨hnone, hnone'⟩ | ⟨number, client, hheld, hheld'⟩ := h.client_cases
  · simp only [Running.perform, hnone, hnone']
    exact h
  · have hlast := client.resembles_run password (meanwhile ++ [.toldToStop])
    simp only [Running.perform, hheld, hheld']
    refine ⟨h.engine, rfl, rfl, ?_⟩
    rw [List.filter_append, List.filter_append, h.outputs, filter_outputsOf hlast]

theorem Resembles.perform (h : running.Resembles password running') (meanwhile : List Happening)
    (effect : Effect) :
    (running.perform meanwhile effect).Resembles password
      (running'.perform meanwhile (effect.withPassword password)) := by
  cases effect with
  | notify watcher notice =>
    refine ⟨h.engine, h.client, h.inbox, ?_⟩
    simp only [Effect.withPassword, Running.perform, List.filter_append, h.outputs]
  | startClient number address credentials => exact ⟨h.engine, rfl, h.inbox, h.outputs⟩
  | send number epoch message => exact h.perform_send meanwhile number epoch message
  | stopClient number => exact h.perform_stopClient meanwhile number

theorem Resembles.follow (h : running.Resembles password running') (meanwhile : List Happening)
    (engine : Engine) :
    (running.follow meanwhile engine).Resembles password
      (running'.follow meanwhile (engine.withPassword password)) := by
  simp only [Running.follow, takeEffects, withPassword, List.foldl_map]
  exact List.foldl_rel ⟨rfl, h.client, h.inbox, h.outputs⟩ fun effect _ _ _ h =>
    h.perform meanwhile effect

theorem Resembles.attempt (h : running.Resembles password running') (meanwhile : List Happening)
    (operation : Operation) :
    (running'.attempt meanwhile operation).1 = (running.attempt meanwhile operation).1 ∧
      (running.attempt meanwhile operation).2.Resembles password
        (running'.attempt meanwhile operation).2 := by
  have hsame := running.engine.operate_withPassword password operation
  rw [← h.engine] at hsame
  simp only [Running.attempt, hsame]
  exact ⟨rfl, h.follow meanwhile _⟩

/-- An attempt at an operation comes to the same result, and leaves engines that are alike. -/
theorem Resembles.exists_attempt (h : running.Resembles password running')
    (meanwhile : List Happening) (operation : Operation) :
    ∃ result next next', running.attempt meanwhile operation = (result, next) ∧
      running'.attempt meanwhile operation = (result, next') ∧ next.Resembles password next' := by
  obtain ⟨hresult, hnext⟩ := h.attempt meanwhile operation
  exact ⟨_, _, (running'.attempt meanwhile operation).2, rfl, Prod.ext hresult rfl, hnext⟩

theorem Resembles.process (h : running.Resembles password running') (meanwhile : List Happening)
    (event : ConnectionEvent) :
    (running.process meanwhile event).Resembles password (running'.process meanwhile event) := by
  simp only [Running.process, h.engine, process_withPassword]
  exact h.follow meanwhile _

/-! ## Moves -/

theorem Resembles.happen (h : running.Resembles password running') (happening : Happening) :
    (running.happen happening).Resembles password (running'.happen happening) := by
  obtain ⟨hnone, hnone'⟩ | ⟨number, client, hheld, hheld'⟩ := h.client_cases
  · simp only [Running.happen, hnone, hnone']
    exact h
  · have hstep := client.resembles_step password happening
    simp only [Running.happen, hheld, hheld']
    refine ⟨h.engine, ?_, ?_, ?_⟩
    · rw [hstep.client]
      rfl
    · rw [hstep.posted, h.inbox]
    · rw [List.filter_append, List.filter_append, h.outputs, filter_outputsOf hstep]

theorem Resembles.post (h : running.Resembles password running') (event : ConnectionEvent) :
    (running.post event).Resembles password (running'.post event) := by
  obtain ⟨hnone, hnone'⟩ | ⟨number, client, hheld, hheld'⟩ := h.client_cases
  · simp only [Running.post, hnone, hnone']
    exact h
  · simp only [Running.post, hheld, hheld']
    exact ⟨h.engine, rfl, congrArg (· ++ _) h.inbox, h.outputs⟩

theorem Resembles.next (h : running.Resembles password running') (meanwhile : List Happening) :
    (running.move (.next meanwhile)).Resembles password (running'.move (.next meanwhile)) := by
  cases hinbox : running.inbox with
  | nil =>
    rw [move_next_of_nil hinbox, move_next_of_nil (h.inbox.trans hinbox)]
    exact h
  | cons posted inbox =>
    rw [move_next_of_cons hinbox, move_next_of_cons (h.inbox.trans hinbox)]
    have htaken : Resembles password { running with inbox } { running' with inbox } :=
      ⟨h.engine, h.client, rfl, h.outputs⟩
    exact htaken.process meanwhile posted.2

theorem Resembles.move (h : running.Resembles password running') (move : Move) :
    (running.move move).Resembles password (running'.move move) := by
  cases move with
  | operation meanwhile operation => exact (h.attempt meanwhile operation).2
  | next meanwhile => exact h.next meanwhile
  | happening happening => exact h.happen happening
  | post event => exact h.post event
  | stray meanwhile event => exact h.process meanwhile event

/-! ## Engines that run by themselves -/

theorem Resembles.stop (h : running.Resembles password running') :
    running.stop.Resembles password running'.stop :=
  (h.attempt [] .stop).2

theorem wake_event_eq (running : Running) :
    running.wake .event = (true, running.move (.next [])) := by
  cases hnext : running.processNext [] with
  | none => simp only [Running.wake, Running.move, hnext]
  | some next => simp only [Running.wake, Running.move, hnext]

theorem Resembles.wake (h : running.Resembles password running') (wake : Wake) :
    (running'.wake wake).1 = (running.wake wake).1 ∧
      (running.wake wake).2.Resembles password (running'.wake wake).2 := by
  cases wake with
  | command command =>
    obtain ⟨result, next, next', hrun, hrun', hnext⟩ := h.exists_attempt [] (.command command)
    simp only [Running.wake, hrun, hrun']
    cases result with
    | error e => exact ⟨rfl, hnext⟩
    | ok goOn =>
      cases goOn with
      | true => exact ⟨rfl, hnext⟩
      | false => exact ⟨rfl, Resembles.stop hnext⟩
  | event =>
    rw [wake_event_eq, wake_event_eq]
    exact ⟨rfl, h.next []⟩
  | ping =>
    have honline : running'.engine.isOnline = running.engine.isOnline := by rw [h.engine]; rfl
    refine ⟨rfl, ?_⟩
    simp only [Running.wake, honline]
    split
    · exact (h.attempt [] (.command .ping)).2
    · exact h
  | shutdown => exact ⟨rfl, h.stop⟩

/-! ## What is seen -/

/-- All that may be seen of a running engine and of what it did. -/
structure Sight where
  /-- What watchers were told, and what clients wrote but for their logins, in order. -/
  outputs : List Output
  /-- What clients posted that is yet to be processed. -/
  inbox : List (ClientNumber × ConnectionEvent)
  journal : Journal
  /-- The central unit with its tree, but without the password. -/
  unit : CentralUnit
  /-- The tree as it is shown. -/
  rendered : String
  /-- The settings without the password. -/
  settings : Settings
  listening : Listening
  state : ConnectionState
  /-- The engine as it may be shown. -/
  shown : String
  /-- What would be answered if a ping were sent now. -/
  ping : Except Error Int32

def sight (running : Running) : Sight where
  outputs := running.outputs.filter (!·.isLogin)
  inbox := running.inbox
  journal := running.engine.journal
  unit := running.engine.unit.withPassword ""
  rendered := running.engine.tree.render
  settings := running.engine.settings.withPassword ""
  listening := running.engine.listening
  state := running.state
  shown := running.engine.shown running.state
  ping := running.engine.sendPing.result

/-- What a user is answered in a move, or why it failed. -/
def answer? (running : Running) : Move → Option (Except Error Bool)
  | .operation meanwhile operation => some (running.attempt meanwhile operation).1
  | _ => none

/-- What is seen in moves one after the other: each answer, and what is seen after it. -/
def sights (running : Running) : List Move → List (Option (Except Error Bool) × Sight)
  | [] => []
  | move :: moves =>
    (running.answer? move, (running.move move).sight) :: (running.move move).sights moves

theorem Resembles.sight (h : running.Resembles password running') :
    running'.sight = running.sight := by
  have hstate : running'.state = running.state := by
    obtain ⟨hnone, hnone'⟩ | ⟨number, client, hheld, hheld'⟩ := h.client_cases
    · simp only [Running.state, hnone, hnone']
    · simp only [Running.state, hheld, hheld']
      rfl
  simp only [Running.sight, h.outputs, h.inbox, hstate, h.engine, sendPing_withPassword]
  rfl

theorem Resembles.answer? (h : running.Resembles password running') (move : Move) :
    running'.answer? move = running.answer? move := by
  cases move with
  | operation meanwhile operation => exact congrArg some (h.attempt meanwhile operation).1
  | next _ | happening _ | post _ | stray _ _ => rfl

/-- However it goes on, the same is seen of both. -/
theorem Resembles.sights (h : running.Resembles password running') (moves : List Move) :
    running'.sights moves = running.sights moves := by
  induction moves generalizing running running' with
  | nil => rfl
  | cons move moves ih =>
    have hnext := h.move move
    simp only [Running.sights, h.answer? move, hnext.sight, ih hnext]

/-- What is seen of an engine before it makes any moves, and then in each. -/
def sightsOfRun (engine : Engine) (moves : List Move) :
    Sight × List (Option (Except Error Bool) × Sight) :=
  ((ofEngine engine).sight, (ofEngine engine).sights moves)

theorem sightsOfRun_withPassword (engine : Engine) (password : String) (moves : List Move) :
    sightsOfRun (engine.withPassword password) moves = sightsOfRun engine moves := by
  have hnew := resembles_ofEngine engine password
  rw [sightsOfRun, sightsOfRun, hnew.sight, hnew.sights]

end Running

end Domotics
