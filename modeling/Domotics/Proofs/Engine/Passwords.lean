import Domotics.Engine.Running
import Domotics.Proofs.Engine.Following
/-!
# Engines do not look at the password

An engine keeps the password of its user, and gives it to each client that it starts. It does
nothing else with it. So an engine that has another password answers every operation in the same
way, fails in the same cases, and is left in the same state with that password
(`operate_withPassword`, `process_withPassword`): `withPassword` can be moved past whatever is done.
What an engine logs when a connection is up is the one place where the password is read, and the
log does not keep it (`record_login`).
-/

namespace Domotics

/-- The same credentials with another password. -/
def Credentials.withPassword (credentials : Credentials) (password : String) : Credentials :=
  { credentials with password }

/-- The same settings with another password. -/
def Settings.withPassword (settings : Settings) (password : String) : Settings :=
  { settings with login := settings.login.withPassword password }

/-- The same central unit, at which one logs in with another password. -/
def CentralUnit.withPassword (unit : CentralUnit) (password : String) : CentralUnit :=
  { unit with credentials := unit.credentials.withPassword password }

/-- The same effect; a client that it starts has another password. -/
def Effect.withPassword (effect : Effect) (password : String) : Effect :=
  match effect with
  | .startClient client address credentials =>
    .startClient client address (credentials.withPassword password)
  | other => other

/-- A log does not keep the password of a login. -/
theorem Journal.record_login (log : Journal) (direction : Direction) (minor : UInt8)
    (username password password' : String) :
    log.record direction (.login minor username password) =
      log.record direction (.login minor username password') :=
  rfl

namespace Engine

variable {α β : Type}

/-- The same engine with another password. -/
def withPassword (engine : Engine) (password : String) : Engine :=
  { engine with
    unit := engine.unit.withPassword password
    settings := engine.settings.withPassword password
    effects := engine.effects.map (·.withPassword password) }

/-- The same attempt with another password. -/
def Attempt.withPassword (attempt : Attempt α) (password : String) : Attempt α :=
  ⟨attempt.result, attempt.engine.withPassword password⟩

variable (engine : Engine) (password : String)

/-- An engine of the same settings with another password is the same engine with that password, and
settings that are refused are refused with any password. -/
theorem ofSettings_withPassword (settings : Settings) :
    ofSettings (settings.withPassword password) =
      (ofSettings settings).map (·.withPassword password) := by
  have hserver : (settings.withPassword password).server = settings.server := rfl
  unfold ofSettings Settings.centralUnit
  rw [hserver]
  cases CentralUnit.atUrl settings.server.url <;> rfl

/-! ## Single effects -/

@[simp] theorem withTree_withPassword (tree : Tree) :
    (engine.withPassword password).withTree tree = (engine.withTree tree).withPassword password :=
  rfl

@[simp] theorem record_withPassword (direction : Direction) (message : Message) :
    (engine.withPassword password).record direction message =
      (engine.record direction message).withPassword password :=
  rfl

theorem emit_withPassword (effect : Effect) :
    (engine.withPassword password).emit (effect.withPassword password) =
      (engine.emit effect).withPassword password := by
  simp [emit, withPassword]

@[simp] theorem notify_withPassword (notice : Notice) :
    (engine.withPassword password).notify notice = (engine.notify notice).withPassword password :=
  engine.emit_withPassword password (.notify engine.watcher notice)

@[simp] theorem forwardTreeEvents_withPassword :
    (engine.withPassword password).forwardTreeEvents =
      engine.forwardTreeEvents.withPassword password := by
  have hnews : (newsOf engine.watcher engine.tree.events).map (·.withPassword password) =
      newsOf engine.watcher engine.tree.events := by
    rw [newsOf, List.map_map]
    rfl
  rw [forwardTreeEvents_eq, forwardTreeEvents_eq]
  simp only [withPassword, List.map_append, hnews]
  rfl

@[simp] theorem startClient_withPassword :
    (engine.withPassword password).startClient = engine.startClient.withPassword password := by
  unfold startClient
  cases hclient : engine.client with
  | some number => simp [withPassword, hclient]
  | none => simp [withPassword, hclient, emit, Effect.withPassword, CentralUnit.withPassword]

@[simp] theorem stopClient_withPassword :
    (engine.withPassword password).stopClient = engine.stopClient.withPassword password := by
  unfold stopClient
  cases hclient : engine.client with
  | some number => simp [withPassword, hclient, emit, Effect.withPassword]
  | none => simp [withPassword, hclient]

@[simp] theorem send_withPassword (epoch : Epoch) (message : Message) :
    (engine.withPassword password).send epoch message =
      (engine.send epoch message).withPassword password := by
  unfold send
  cases hclient : engine.client with
  | some number =>
    simp [withPassword, hclient, emit, record, Effect.withPassword, Attempt.done,
      Attempt.withPassword]
  | none => simp [withPassword, hclient, Attempt.withPassword]

theorem carryOut_withPassword (action : Action) :
    (engine.withPassword password).carryOut action =
      (engine.carryOut action).withPassword password := by
  cases action with
  | startClient => exact engine.startClient_withPassword password
  | stopClient => exact engine.stopClient_withPassword password
  | send epoch message =>
    exact congrArg Attempt.engine (engine.send_withPassword password epoch message)

@[simp] theorem carryOutAll_withPassword (actions : List Action) :
    (engine.withPassword password).carryOutAll actions =
      (engine.carryOutAll actions).withPassword password :=
  List.foldl_hom (withPassword · password) fun engine action =>
    engine.carryOut_withPassword password action

/-! ## Attempts -/

/-- What goes on in the same way with another password. -/
theorem Attempt.andThen_withPassword {attempt : Attempt α} {next : α → Engine → Attempt β}
    (h : ∀ answer engine, next answer (engine.withPassword password) =
      (next answer engine).withPassword password) :
    (attempt.withPassword password).andThen next =
      (attempt.andThen next).withPassword password := by
  obtain ⟨result, engine⟩ := attempt
  cases result with
  | ok answer => exact h answer engine
  | error e => rfl

@[simp] theorem Attempt.answering_withPassword (attempt : Attempt α) (answer : β) :
    (attempt.withPassword password).answering answer =
      (attempt.answering answer).withPassword password :=
  rfl

/-- A check does not look at the password, and what comes after it goes on in the same way. -/
theorem check_andThen_withPassword {result : Except Error α} {next : α → Engine → Attempt β}
    (h : ∀ answer engine, next answer (engine.withPassword password) =
      (next answer engine).withPassword password) :
    ((engine.withPassword password).check result).andThen next =
      ((engine.check result).andThen next).withPassword password := by
  have hcheck : (engine.withPassword password).check result =
      (engine.check result).withPassword password := rfl
  rw [hcheck]
  exact Attempt.andThen_withPassword password h

/-! ## Operations -/

theorem settle_withPassword (outcome : Listening.Outcome) :
    (engine.withPassword password).settle outcome =
      (engine.settle outcome).withPassword password := by
  unfold settle
  rw [← forwardTreeEvents_withPassword, ← carryOutAll_withPassword]
  rfl

theorem settling_withPassword (outcome : Except Error Listening.Outcome) :
    (engine.withPassword password).settling outcome =
      (engine.settling outcome).withPassword password :=
  engine.check_andThen_withPassword password fun outcome engine =>
    congrArg (Attempt.done · ()) (engine.settle_withPassword password outcome)

@[simp] theorem startListening_withPassword (id : ItemId) :
    (engine.withPassword password).startListening id =
      (engine.startListening id).withPassword password :=
  engine.settling_withPassword password _

@[simp] theorem stopListening_withPassword (id : ItemId) :
    (engine.withPassword password).stopListening id =
      (engine.stopListening id).withPassword password :=
  engine.settling_withPassword password _

@[simp] theorem autoConnect_withPassword :
    (engine.withPassword password).autoConnect = engine.autoConnect.withPassword password := by
  have hasked : (engine.withPassword password).unit.autoConnect = engine.unit.autoConnect := rfl
  unfold autoConnect
  rw [hasked, startListening_withPassword]
  split <;> rfl

@[simp] theorem start_withPassword (watcher : Option String) :
    (engine.withPassword password).start watcher =
      (engine.start watcher).withPassword password :=
  (engine.watchedBy watcher).autoConnect_withPassword password

/-- A client that is stopped leaves the same behind. -/
theorem clientStopped_withPassword :
    { (engine.withPassword password).stopClient with
      listening := (engine.withPassword password).stopClient.listening.clientStopped
        (engine.withPassword password).stopClient.tree } =
    { engine.stopClient with
      listening := engine.stopClient.listening.clientStopped engine.stopClient.tree }.withPassword
        password := by
  rw [stopClient_withPassword]
  rfl

@[simp] theorem stop_withPassword :
    (engine.withPassword password).stop = engine.stop.withPassword password := by
  have hquiet : ∀ ids : List ItemId,
      ids.foldl (fun engine id => (engine.stopListening id).engine)
          (engine.withPassword password) =
        (ids.foldl (fun engine id => (engine.stopListening id).engine) engine).withPassword
          password :=
    fun ids => List.foldl_hom (withPassword · password) fun engine id =>
      congrArg Attempt.engine (engine.stopListening_withPassword password id)
  have hlistened : (engine.withPassword password).tree.listeningContainers =
      engine.tree.listeningContainers := rfl
  unfold stop
  rw [hlistened, hquiet]
  exact clientStopped_withPassword _ password

theorem dropClient_withPassword :
    (engine.withPassword password).dropClient = engine.dropClient.withPassword password := by
  have hheld : (engine.withPassword password).client = engine.client := rfl
  unfold dropClient
  rw [hheld]
  split
  · exact engine.clientStopped_withPassword password
  · rfl

@[simp] theorem sendPing_withPassword :
    (engine.withPassword password).sendPing = engine.sendPing.withPassword password :=
  engine.check_andThen_withPassword password fun epoch engine =>
    congrArg (Attempt.answering · engine.nextPing)
      (send_withPassword { engine with nextPing := engine.nextPing + 1 } password epoch _)

theorem sendValue_withPassword (id : ItemId) (value : DeviceValue) :
    (engine.withPassword password).sendValue id value =
      (engine.sendValue id value).withPassword password := by
  refine engine.check_andThen_withPassword password fun epoch engine => ?_
  rw [send_withPassword]
  refine Attempt.andThen_withPassword password fun _ engine => ?_
  refine engine.check_andThen_withPassword password fun tree engine => ?_
  rw [withTree_withPassword, forwardTreeEvents_withPassword]
  rfl

@[simp] theorem sendBinary_withPassword (id : ItemId) (on : Bool) :
    (engine.withPassword password).sendBinary id on =
      (engine.sendBinary id on).withPassword password :=
  engine.check_andThen_withPassword password fun _ engine =>
    engine.sendValue_withPassword password id (.binary on)

@[simp] theorem sendDecimal_withPassword (id : ItemId) (value : Binary64) :
    (engine.withPassword password).sendDecimal id value =
      (engine.sendDecimal id value).withPassword password :=
  engine.check_andThen_withPassword password fun _ engine =>
    engine.sendValue_withPassword password id (.decimal _)

/-- Where the URL will do, turning to it drops the client, and then settles what is left of the
tree. -/
theorem setUrl_of_ok {engine : Engine} {url : String} {unit : CentralUnit}
    (h : engine.unit.setUrl url = .ok unit) :
    let turned := dropClient { engine with
      unit, settings := { engine.settings with server := { engine.settings.server with url } } }
    engine.setUrl url = (turned.check (forgetItems turned.tree)).andThen fun tree engine =>
      .done (engine.settle
        ⟨tree, (engine.listening.itemsRemoved tree).2, (engine.listening.itemsRemoved tree).1⟩)
        () := by
  unfold setUrl
  rw [h]
  rfl

@[simp] theorem setUrl_withPassword (url : String) :
    (engine.withPassword password).setUrl url =
      (engine.setUrl url).withPassword password := by
  have hunit : (engine.withPassword password).unit.setUrl url =
      (engine.unit.setUrl url).map (·.withPassword password) := by
    unfold CentralUnit.setUrl
    cases readServerUrl url <;> rfl
  cases hset : engine.unit.setUrl url with
  | error e =>
    rw [hset] at hunit
    simp only [setUrl, hset, hunit]
    rfl
  | ok unit =>
    rw [hset] at hunit
    rw [setUrl_of_ok hset, setUrl_of_ok hunit]
    have hdropped := dropClient_withPassword { engine with
      unit, settings := { engine.settings with server := { engine.settings.server with url } } }
      password
    refine (congrArg (fun turned : Engine => (turned.check (forgetItems turned.tree)).andThen _)
      hdropped).trans ?_
    exact check_andThen_withPassword _ password fun tree engine =>
      congrArg (Attempt.done · ()) (engine.settle_withPassword password _)

theorem obey_withPassword (command : Command) :
    (engine.withPassword password).obey command =
      (engine.obey command).withPassword password := by
  cases command with
  | startListening id => simp [obey]
  | stopListening id => simp [obey]
  | setBinary id on => simp [obey]
  | setDecimal id value => simp [obey]
  | ping => simp [obey]
  | setUrl url => simp [obey]
  | reconnect => simp [obey]
  | quit => rfl

/-- An operation has the same result, and leaves the same engine. -/
theorem operate_withPassword (operation : Operation) :
    (engine.withPassword password).operate operation =
      (engine.operate operation).withPassword password := by
  cases operation with
  | watch watcher => rfl
  | start watcher => simp [operate]
  | stop => exact congrArg (Attempt.done · true) (engine.stop_withPassword password)
  | reconnect watcher => simp [operate, reconnect]
  | command command => exact engine.obey_withPassword password command

/-! ## Events -/

/-- The engine when its watcher was told of a message, before anything is carried out. -/
def toldOf (engine : Engine) (message : Message) (dispatched : Dispatched) : Engine :=
  let told := ({ (engine.record .received message).withTree dispatched.tree with
    listening := dispatched.listening }.notify (.message message)).forwardTreeEvents
  match dispatched.problem with
  | some text => told.notify (.problem text)
  | none => told

theorem receive_eq (epoch : Epoch) (message : Message) :
    let dispatched := dispatch engine.tree engine.listening engine.settings.behavior.listenAll epoch
      message
    engine.receive epoch message =
      ((engine.toldOf message dispatched).carryOutAll dispatched.actions).forwardTreeEvents :=
  rfl

theorem toldOf_withPassword (message : Message) (dispatched : Dispatched) :
    (engine.withPassword password).toldOf message dispatched =
      (engine.toldOf message dispatched).withPassword password := by
  let applied := { (engine.record .received message).withTree dispatched.tree with
    listening := dispatched.listening }
  have htold : ((applied.withPassword password).notify (.message message)).forwardTreeEvents =
      (applied.notify (.message message)).forwardTreeEvents.withPassword password := by
    rw [notify_withPassword, forwardTreeEvents_withPassword]
  unfold toldOf
  cases dispatched.problem with
  | none => exact htold
  | some text => exact (congrArg (notify · (.problem text)) htold).trans (notify_withPassword ..)

theorem receive_withPassword (epoch : Epoch) (message : Message) :
    (engine.withPassword password).receive epoch message =
      (engine.receive epoch message).withPassword password := by
  rw [receive_eq, receive_eq, ← forwardTreeEvents_withPassword, ← carryOutAll_withPassword,
    ← toldOf_withPassword]
  rfl

/-- A new connection is greeted in the same way, for the log keeps no password. -/
theorem connected_withPassword (epoch : Epoch) :
    (engine.withPassword password).process (.connected epoch) =
      (engine.process (.connected epoch)).withPassword password := by
  have hheld : (engine.withPassword password).client = engine.client := rfl
  have hlogged : (engine.withPassword password).record .sent
        (.logIn engine.unit.credentials.username password) =
      (engine.record .sent (.logIn engine.unit.credentials.username
        engine.unit.credentials.password)).withPassword password :=
    congrArg (fun journal => { engine.withPassword password with journal })
      (engine.journal.record_login ..)
  simp only [process, hheld]
  split
  · rfl
  · rw [← carryOutAll_withPassword, ← notify_withPassword]
    exact congrArg (fun logged : Engine => carryOutAll (notify { logged with
      listening := (logged.listening.connected logged.tree epoch).2 } (.status .connected))
      (logged.listening.connected logged.tree epoch).1) hlogged

/-- An event leaves the same engine. -/
theorem process_withPassword (event : ConnectionEvent) :
    (engine.withPassword password).process event =
      (engine.process event).withPassword password := by
  have honline : (engine.withPassword password).listening.online = engine.listening.online := rfl
  cases event with
  | connected epoch => exact engine.connected_withPassword password epoch
  | connectFailed attempt reason => exact engine.notify_withPassword password _
  | disconnected epoch =>
    simp only [process, honline]
    split
    · exact notify_withPassword { engine with
        listening := engine.listening.disconnected engine.tree epoch } password _
    · rfl
  | message epoch message =>
    simp only [process, honline]
    split
    · exact engine.receive_withPassword password epoch message
    · rfl
  | protocolError epoch text =>
    simp only [process, honline]
    split
    · exact engine.notify_withPassword password _
    · rfl

end Engine

end Domotics
