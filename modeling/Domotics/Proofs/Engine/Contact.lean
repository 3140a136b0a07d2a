import Domotics.Proofs.Engine.Operations
/-!
# Messages are sent on the connection that is up

An engine only says at the end of an operation how things stand with its client. In between it may
send something, stop the client and start another, so that it matters in which order things are
queued. `Contact.Path` goes through what is queued one by one, and knows at each effect which client
is held and which of its connections is up: a client is started where there is none, it is told to
stop where it is held, and messages are only sent to the client that is held, on the connection that
is up. A connection can be given up at any time, but none comes up on the way.

What an operation queues is such a path from how things stood to how they stand then (`Leads`); so
is what an event queues, if a new connection is taken to be up (`Sound.leads_operate`,
`Sound.leads_process`). `Action.Path` says the same of what `Listening` wants done.
-/

namespace Domotics

open Domotics.Tree

/-! ## What listening wants done -/

/-- Messages are sent on the connection that is up, and none is up when a client is started or told
to stop. -/
inductive Action.Path : Option Epoch → List Action → Option Epoch → Prop
  | done (line : Option Epoch) : Path line [] line
  /-- The connection is given up. -/
  | lapse {line line' : Option Epoch} {actions : List Action} (rest : Path none actions line') :
      Path line actions line'
  | send {epoch : Epoch} {line' : Option Epoch} {actions : List Action} (message : Message)
      (rest : Path (some epoch) actions line') :
      Path (some epoch) (.send epoch message :: actions) line'
  | startClient {line' : Option Epoch} {actions : List Action} (rest : Path none actions line') :
      Path none (.startClient :: actions) line'
  | stopClient {line' : Option Epoch} {actions : List Action} (rest : Path none actions line') :
      Path none (.stopClient :: actions) line'

theorem Action.Path.append {line line' line'' : Option Epoch} {first more : List Action}
    (h : Path line first line') (h' : Path line' more line'') :
    Path line (first ++ more) line'' := by
  induction h with
  | done => exact h'
  | lapse _ ih => exact .lapse (ih h')
  | send message _ ih => exact .send message (ih h')
  | startClient _ ih => exact .startClient (ih h')
  | stopClient _ ih => exact .stopClient (ih h')

namespace Listening

variable {l : Listening} {tree : Tree} {id : ItemId} {outcome : Outcome}

/-- A connection is only up while the client runs. -/
def Attached (l : Listening) : Prop :=
  l.online.isSome = true → l.clientRunning = true

theorem Attached.reconcile (h : l.Attached) (tree : Tree) :
    Action.Path l.online (l.reconcile tree).1 (l.reconcile tree).2.online ∧
      (l.reconcile tree).2.Attached := by
  obtain ⟨online, pending, running⟩ := l
  unfold Listening.reconcile
  split
  · rename_i hstart
    have hoff : online = none := by
      refine Option.not_isSome_iff_eq_none.mp fun hon => ?_
      rw [h hon] at hstart
      cases hstart.2
    obtain rfl := hoff
    exact ⟨.startClient (.done _), fun _ => rfl⟩
  · split
    · exact ⟨.lapse (.stopClient (.done _)), nofun⟩
    · exact ⟨.done _, h⟩

theorem Attached.itemsRemoved (h : l.Attached) (tree : Tree) :
    Action.Path l.online (l.itemsRemoved tree).1 (l.itemsRemoved tree).2.online ∧
      (l.itemsRemoved tree).2.Attached :=
  Attached.reconcile (l := { l with pending := l.pending.filter tree.contains }) h tree

theorem Attached.start (h : l.Attached) (hstart : l.start tree id = .ok outcome) :
    Action.Path l.online outcome.actions outcome.listening.online := by
  obtain ⟨⟨changed, tree'⟩, -, hrest⟩ := bind_eq_ok_iff.mp hstart
  cases changed with
  | false =>
    obtain rfl := Except.ok.inj hrest
    exact .done _
  | true =>
    have hpath := (h.reconcile tree').1
    simp only [Bool.not_true, Bool.false_eq_true, if_false] at hrest
    split at hrest
    · rename_i epoch honline
      obtain rfl := Except.ok.inj hrest
      rw [honline] at hpath
      exact honline ▸ hpath.append (.send _ (.done _))
    · obtain rfl := Except.ok.inj hrest
      exact hpath

theorem Attached.stop (h : l.Attached) (hstop : l.stop tree id = .ok outcome) :
    Action.Path l.online outcome.actions outcome.listening.online := by
  obtain ⟨⟨changed, tree'⟩, -, hrest⟩ := bind_eq_ok_iff.mp hstop
  cases changed with
  | false =>
    obtain rfl := Except.ok.inj hrest
    exact .done _
  | true =>
    have hpath :=
      (Attached.reconcile (l := { l with pending := l.pending.filter (· ≠ id) }) h tree').1
    simp only [Bool.not_true, Bool.false_eq_true, if_false] at hrest
    obtain rfl := Except.ok.inj hrest
    cases honline : l.online with
    | none =>
      rw [honline] at hpath
      exact hpath
    | some epoch =>
      rw [honline] at hpath
      exact .send _ hpath

theorem path_connected (l : Listening) (tree : Tree) (epoch : Epoch) :
    Action.Path (some epoch) (l.connected tree epoch).1 (l.connected tree epoch).2.online := by
  unfold connected
  induction tree.listeningContainers with
  | nil => exact .done _
  | cons id ids ih => exact .send _ ih

end Listening

section Dispatch

variable {tree : Tree} {l : Listening}

theorem path_dispatchAnnouncement (h : l.Attached) (listenAll : Bool) (parent : ItemId)
    (item : Item) :
    let dispatched := dispatchAnnouncement tree l listenAll parent item
    Action.Path l.online dispatched.actions dispatched.listening.online := by
  unfold dispatchAnnouncement
  dsimp only
  split
  · exact .done _
  · split
    · exact .done _
    · obtain ⟨hpath, hattached⟩ := h.itemsRemoved (tree.announcing parent item).tree
      split
      · split
        · rename_i outcome hstart
          exact hpath.append (hattached.start hstart)
        · exact hpath
      · exact hpath

theorem path_dispatchValue (id : ItemId) (result : Except Error Tree) :
    let dispatched := dispatchValue tree l id result
    Action.Path l.online dispatched.actions dispatched.listening.online := by
  cases result with
  | ok tree' => exact .done _
  | error e => cases e <;> exact .done _

/-- What a message has done that arrived on the connection that is up. -/
theorem path_dispatch (h : l.Attached) {epoch : Epoch} (online : l.online = some epoch)
    (listenAll : Bool) (message : Message) :
    let dispatched := dispatch tree l listenAll epoch message
    Action.Path l.online dispatched.actions dispatched.listening.online := by
  cases message with
  | decimalDevice _ _ _ | binaryDevice _ _ _ | container _ =>
    exact path_dispatchAnnouncement h listenAll _ _
  | decimalValueChanged id _ | binaryValueChanged id _ => exact path_dispatchValue id _
  | itemRemoved id =>
    simp only [dispatch]
    split
    · exact .done _
    · exact (h.itemsRemoved _).1
  | ping id =>
    change Action.Path l.online [.send epoch (.pong id)] l.online
    rw [online]
    exact .send _ (.done _)
  | pong _ | logout _ | listeningStart _ | listeningStop _ | login _ _ _ => exact .done _

end Dispatch

/-! ## What is queued -/

/-- How things stand with the clients. -/
structure Contact where
  /-- The client that is held. -/
  client : Option ClientNumber
  /-- The number of clients started so far. -/
  started : Nat
  /-- The epoch of the connection that is up. -/
  line : Option Epoch

/-- Effects are right where they stand: a client is started where none is held, messages are sent to
the client that is held on the connection that is up, and the client that is held is told to
stop. -/
inductive Contact.Path : Contact → List Effect → Contact → Prop
  | done (contact : Contact) : Path contact [] contact
  /-- The connection is given up. -/
  | lapse {client : Option ClientNumber} {started : Nat} {line : Option Epoch}
      {effects : List Effect} {contact : Contact}
      (rest : Path ⟨client, started, none⟩ effects contact) :
      Path ⟨client, started, line⟩ effects contact
  | notify {contact contact' : Contact} {effects : List Effect} (watcher : Option String)
      (notice : Notice) (rest : Path contact effects contact') :
      Path contact (.notify watcher notice :: effects) contact'
  | send {number : ClientNumber} {started : Nat} {epoch : Epoch} {effects : List Effect}
      {contact : Contact} (message : Message)
      (rest : Path ⟨some number, started, some epoch⟩ effects contact) :
      Path ⟨some number, started, some epoch⟩ (.send number epoch message :: effects) contact
  | startClient {started : Nat} {effects : List Effect} {contact : Contact}
      (address : ServerAddress) (credentials : Credentials)
      (rest : Path ⟨some (started + 1), started + 1, none⟩ effects contact) :
      Path ⟨none, started, none⟩ (.startClient (started + 1) address credentials :: effects) contact
  | stopClient {number : ClientNumber} {started : Nat} {effects : List Effect} {contact : Contact}
      (rest : Path ⟨none, started, none⟩ effects contact) :
      Path ⟨some number, started, none⟩ (.stopClient number :: effects) contact

theorem Contact.Path.append {contact contact' contact'' : Contact} {first more : List Effect}
    (h : Path contact first contact') (h' : Path contact' more contact'') :
    Path contact (first ++ more) contact'' := by
  induction h with
  | done => exact h'
  | lapse _ ih => exact .lapse (ih h')
  | notify watcher notice _ ih => exact .notify watcher notice (ih h')
  | send message _ ih => exact .send message (ih h')
  | startClient address credentials _ ih => exact .startClient address credentials (ih h')
  | stopClient _ ih => exact .stopClient (ih h')

namespace Engine

open Listening

variable {engine engine' engine'' : Engine} {line line' line'' : Option Epoch}

/-- How things stand with the clients of an engine, if a connection is up. -/
def contactOn (engine : Engine) (line : Option Epoch) : Contact :=
  ⟨engine.client, engine.clientsStarted, line⟩

/-- What is queued between two engines is right, if one connection is up before and another is
after. -/
def LeadsOn (line line' : Option Epoch) (engine engine' : Engine) : Prop :=
  ∃ effects, engine'.effects = engine.effects ++ effects ∧
    (engine.contactOn line).Path effects (engine'.contactOn line')

/-- What is queued between two engines is right. -/
def Leads (engine engine' : Engine) : Prop :=
  LeadsOn engine.listening.online engine'.listening.online engine engine'

theorem LeadsOn.trans (h : LeadsOn line line' engine engine')
    (h' : LeadsOn line' line'' engine' engine'') : LeadsOn line line'' engine engine'' := by
  obtain ⟨first, hfirst, hpath⟩ := h
  obtain ⟨more, hmore, hpath'⟩ := h'
  refine ⟨first ++ more, ?_, hpath.append hpath'⟩
  rw [hmore, hfirst, List.append_assoc]

theorem LeadsOn.lapse (h : LeadsOn none line' engine engine') :
    LeadsOn line line' engine engine' := by
  obtain ⟨effects, heffects, hpath⟩ := h
  exact ⟨effects, heffects, .lapse hpath⟩

theorem LeadsOn.refl (line : Option Epoch) (engine : Engine) : LeadsOn line line engine engine :=
  ⟨[], (List.append_nil _).symm, .done _⟩

theorem Leads.refl (engine : Engine) : Leads engine engine :=
  LeadsOn.refl _ engine

theorem Leads.trans (h : Leads engine engine') (h' : Leads engine' engine'') :
    Leads engine engine'' :=
  LeadsOn.trans h h'

/-! ## Telling watchers -/

/-- Watchers are told something, and nothing is done that has to do with clients. -/
structure Chats (engine engine' : Engine) : Prop where
  listening : engine'.listening = engine.listening
  client : engine'.client = engine.client
  started : engine'.clientsStarted = engine.clientsStarted
  told : ∃ effects, engine'.effects = engine.effects ++ effects ∧
    ∀ effect ∈ effects, ∃ watcher notice, effect = .notify watcher notice

theorem Chats.refl (engine : Engine) : Chats engine engine :=
  ⟨rfl, rfl, rfl, [], (List.append_nil _).symm, nofun⟩

theorem Chats.trans (h : Chats engine engine') (h' : Chats engine' engine'') :
    Chats engine engine'' := by
  obtain ⟨first, hfirst, htold⟩ := h.told
  obtain ⟨more, hmore, htold'⟩ := h'.told
  refine ⟨h'.listening.trans h.listening, h'.client.trans h.client, h'.started.trans h.started,
    first ++ more, ?_, fun effect he => ?_⟩
  · rw [hmore, hfirst, List.append_assoc]
  · rcases List.mem_append.mp he with he | he
    · exact htold effect he
    · exact htold' effect he

theorem chats_notify (engine : Engine) (notice : Notice) : Chats engine (engine.notify notice) :=
  ⟨rfl, rfl, rfl, _, rfl, List.forall_mem_singleton.mpr ⟨_, _, rfl⟩⟩

theorem chats_forwardTreeEvents (engine : Engine) : Chats engine engine.forwardTreeEvents := by
  rw [forwardTreeEvents_eq]
  refine ⟨rfl, rfl, rfl, newsOf engine.watcher engine.tree.events, rfl, fun effect heffect => ?_⟩
  obtain ⟨event, -, rfl⟩ := List.mem_map.mp heffect
  exact ⟨_, _, rfl⟩

theorem Chats.leadsOn (h : Chats engine engine') (line : Option Epoch) :
    LeadsOn line line engine engine' := by
  obtain ⟨-, hclient, hstarted, effects, heffects, htold⟩ := h
  refine ⟨effects, heffects, ?_⟩
  unfold contactOn
  rw [hclient, hstarted]
  clear heffects
  induction effects with
  | nil => exact .done _
  | cons effect effects ih =>
    obtain ⟨⟨watcher, notice, rfl⟩, hrest⟩ := List.forall_mem_cons.mp htold
    exact .notify watcher notice (ih hrest)

theorem Chats.leads (h : Chats engine engine') : Leads engine engine' := by
  unfold Leads
  rw [h.listening]
  exact h.leadsOn _

/-! ## Carrying out -/

theorem leadsOn_send (engine : Engine) (epoch : Epoch) (message : Message) :
    LeadsOn (some epoch) (some epoch) engine (engine.send epoch message).engine := by
  unfold Engine.send
  split
  · exact .refl _ engine
  · rename_i number hclient
    refine ⟨[.send number epoch message], rfl, ?_⟩
    change (engine.contactOn (some epoch)).Path _ (engine.contactOn (some epoch))
    unfold contactOn
    rw [hclient]
    exact .send message (.done _)

theorem leadsOn_startClient (engine : Engine) : LeadsOn none none engine engine.startClient := by
  unfold Engine.startClient
  split
  · exact .refl _ engine
  · rename_i hclient
    refine ⟨_, rfl, ?_⟩
    unfold contactOn
    rw [hclient]
    exact .startClient _ _ (.done _)

theorem leadsOn_stopClient (engine : Engine) : LeadsOn none none engine engine.stopClient := by
  unfold Engine.stopClient
  split
  · exact .refl _ engine
  · rename_i number hclient
    refine ⟨_, rfl, ?_⟩
    unfold contactOn
    rw [hclient]
    exact .stopClient (.done _)

theorem leadsOn_carryOutAll {actions : List Action} (path : Action.Path line actions line') :
    ∀ engine : Engine, LeadsOn line line' engine (engine.carryOutAll actions) := by
  induction path with
  | done line => exact fun engine => .refl line engine
  | lapse _ ih => exact fun engine => (ih engine).lapse
  | send message _ ih => exact fun engine => (engine.leadsOn_send _ message).trans (ih _)
  | startClient _ ih => exact fun engine => engine.leadsOn_startClient.trans (ih _)
  | stopClient _ ih => exact fun engine => engine.leadsOn_stopClient.trans (ih _)

/-- What listening wants done is carried out, after watchers were told something. -/
theorem leads_of_path {listening : Listening} {tree : Tree} {actions : List Action}
    (path : Action.Path engine.listening.online actions listening.online)
    (chats : Chats { engine.withTree tree with listening } engine') :
    Leads engine (engine'.carryOutAll actions).forwardTreeEvents := by
  have hcarried := (chats.leadsOn _).trans (leadsOn_carryOutAll path engine')
  have honline : (engine'.carryOutAll actions).forwardTreeEvents.listening = listening := by
    rw [(chats_forwardTreeEvents _).listening, (carryOutAll_spec actions engine').2.1,
      chats.listening]
  unfold Leads
  rw [honline]
  exact hcarried.trans ((chats_forwardTreeEvents _).leadsOn _)

/-! ## Operations of a user -/

theorem Sound.leads_startListening (h : engine.Sound) (id : ItemId) :
    Leads engine (engine.startListening id).engine :=
  Attempt.andThen_induction (fun _ _ => .refl engine) fun _ hstart =>
    leads_of_path (Attached.start h.listening.online hstart) (.refl _)

theorem Sound.leads_stopListening (h : engine.Sound) (id : ItemId) :
    Leads engine (engine.stopListening id).engine :=
  Attempt.andThen_induction (fun _ _ => .refl engine) fun _ hstop =>
    leads_of_path (Attached.stop h.listening.online hstop) (.refl _)

theorem Sound.leads_stopListening_foldl (ids : List ItemId) : ∀ {engine : Engine}, engine.Sound →
    Leads engine (ids.foldl (fun engine id => (engine.stopListening id).engine) engine) := by
  induction ids with
  | nil => exact fun _ => .refl _
  | cons id ids ih =>
    exact fun h => (h.leads_stopListening id).trans (ih (h.stopListening id).sound)

/-- A client that is stopped leaves no connection. -/
theorem leads_clientStopped (engine : Engine) :
    Leads engine { engine.stopClient with
      listening := engine.stopClient.listening.clientStopped engine.stopClient.tree } :=
  engine.leadsOn_stopClient.lapse

theorem Sound.leads_stop (h : engine.Sound) : Leads engine engine.stop :=
  (Sound.leads_stopListening_foldl _ h).trans (leads_clientStopped _)

theorem leads_dropClient (engine : Engine) : Leads engine engine.dropClient := by
  unfold Engine.dropClient
  split
  · exact engine.leads_clientStopped
  · exact .refl engine

theorem Sound.leads_autoConnect (h : engine.Sound) : Leads engine engine.autoConnect.engine := by
  unfold Engine.autoConnect
  split
  · exact h.leads_startListening rootId
  · exact .refl engine

theorem leads_watchedBy (engine : Engine) (watcher : Option String) :
    Leads engine (engine.watchedBy watcher) :=
  LeadsOn.refl _ engine

theorem Sound.leads_start (h : engine.Sound) (watcher : Option String) :
    Leads engine (engine.start watcher).engine := by
  have hwatched : (engine.watchedBy watcher).Sound := h.idle ⟨fun _ => rfl, rfl, rfl, rfl⟩
  exact (engine.leads_watchedBy watcher).trans hwatched.leads_autoConnect

theorem online_of_onlineEpoch {epoch : Epoch} (h : engine.onlineEpoch = .ok epoch) :
    engine.listening.online = some epoch := by
  unfold onlineEpoch at h
  split at h
  · rename_i honline
    rw [honline, Except.ok.inj h]
  · cases h

/-- What is sent where there is a connection goes to it. -/
theorem leads_send {epoch : Epoch} (online : engine.listening.online = some epoch)
    (message : Message) : Leads engine (engine.send epoch message).engine := by
  have hlistening : (engine.send epoch message).engine.listening = engine.listening :=
    (engine.carryOut_spec (.send epoch message)).2.1
  unfold Leads
  rw [hlistening, online]
  exact engine.leadsOn_send epoch message

theorem leads_sendPing (engine : Engine) : Leads engine engine.sendPing.engine := by
  refine Attempt.andThen_induction (fun _ _ => .refl engine) fun epoch honline => ?_
  have hnext : { engine with nextPing := engine.nextPing + 1 }.listening.online = some epoch :=
    online_of_onlineEpoch honline
  exact Leads.trans (LeadsOn.refl _ engine) (leads_send hnext _)

theorem leads_sendValue (engine : Engine) (id : ItemId) (value : DeviceValue) :
    Leads engine (engine.sendValue id value).engine := by
  refine Attempt.andThen_induction (fun _ _ => .refl engine) fun _ honline => ?_
  have hsent := leads_send (online_of_onlineEpoch honline) (.valueChanged id value)
  refine Attempt.andThen_induction (fun _ _ => hsent) fun _ _ => ?_
  exact Attempt.andThen_induction (fun _ _ => hsent) fun _ _ =>
    hsent.trans (chats_forwardTreeEvents _).leads

theorem leads_sendBinary (engine : Engine) (id : ItemId) (on : Bool) :
    Leads engine (engine.sendBinary id on).engine :=
  Attempt.andThen_induction (fun _ _ => .refl engine) fun _ _ =>
    engine.leads_sendValue id (.binary on)

theorem leads_sendDecimal (engine : Engine) (id : ItemId) (value : Binary64) :
    Leads engine (engine.sendDecimal id value).engine :=
  Attempt.andThen_induction (fun _ _ => .refl engine) fun _ _ =>
    engine.leads_sendValue id (.decimal _)

theorem Sound.leads_setUrl (h : engine.Sound) (url : String) :
    Leads engine (engine.setUrl url).engine := by
  refine Attempt.andThen_induction (fun _ _ => .refl engine) fun unit hunit => ?_
  have hturned : Idle engine { engine with
      unit, settings := { engine.settings with server := { engine.settings.server with url } } } :=
    ⟨fun x => congrArg (Tree.get? · x) (tree_of_setUrl hunit), rfl, rfl, rfl⟩
  obtain ⟨-, -, -, -, haligned⟩ := (h.idle hturned).dropClient
  have hdropped := leads_dropClient { engine with
    unit, settings := { engine.settings with server := { engine.settings.server with url } } }
  refine Attempt.andThen_induction (fun _ _ => hdropped) fun tree _ => ?_
  have hremoved := Attached.itemsRemoved haligned.online tree
  exact Leads.trans hdropped (leads_of_path hremoved.1 (.refl _))

/-- What a user has an engine do. -/
theorem Sound.leads_operate (h : engine.Sound) (operation : Operation) :
    Leads engine (engine.operate operation).engine := by
  cases operation with
  | watch watcher => exact engine.leads_watchedBy watcher
  | start watcher => exact h.leads_start watcher
  | stop => exact h.leads_stop
  | reconnect watcher => exact h.leads_stop.trans (h.stop.sound.leads_start watcher)
  | command command =>
    cases command with
    | startListening id => exact h.leads_startListening id
    | stopListening id => exact h.leads_stopListening id
    | setBinary id on => exact engine.leads_sendBinary id on
    | setDecimal id value => exact engine.leads_sendDecimal id value
    | ping => exact engine.leads_sendPing
    | setUrl url => exact h.leads_setUrl url
    | reconnect => exact h.leads_stop.trans h.stop.sound.leads_autoConnect
    | quit => exact .refl engine

/-! ## Events -/

/-- Watchers are told of a message before anything is carried out. -/
theorem chats_told (engine : Engine) (message : Message) (dispatched : Dispatched) :
    let applied := { (engine.record .received message).withTree dispatched.tree with
      listening := dispatched.listening }
    let told := (applied.notify (.message message)).forwardTreeEvents
    Chats { engine.withTree dispatched.tree with listening := dispatched.listening }
      (match dispatched.problem with
        | some text => told.notify (.problem text)
        | none => told) := by
  intro applied told
  have happlied : Chats
      { engine.withTree dispatched.tree with listening := dispatched.listening } applied :=
    ⟨rfl, rfl, rfl, [], (List.append_nil _).symm, nofun⟩
  have htold := happlied.trans
    ((applied.chats_notify (.message message)).trans (chats_forwardTreeEvents _))
  split
  · exact htold.trans (told.chats_notify _)
  · exact htold

/-- The connection that is up when an event is acted on: a new one is taken to be. -/
def noticed (engine : Engine) : ConnectionEvent → Option Epoch
  | .connected epoch => some epoch
  | _ => engine.listening.online

/-- What an event has an engine do. -/
theorem Sound.leads_process (h : engine.Sound) (event : ConnectionEvent) :
    LeadsOn (engine.noticed event) (engine.process event).listening.online engine
      (engine.process event) := by
  cases event with
  | connected epoch =>
    rw [process_connected]
    split
    · have hgreeting : Chats { engine with
          listening := (engine.listening.connected engine.tree epoch).2 } (engine.greeting epoch) :=
        ⟨rfl, rfl, rfl, (chats_notify _ _).told⟩
      have hcarried := (hgreeting.leadsOn _).trans
        (leadsOn_carryOutAll (path_connected engine.listening engine.tree epoch) _)
      rw [(carryOutAll_spec _ _).2.1, hgreeting.listening]
      exact hcarried
    · -- Without a client no connection was up.
      rename_i hclient
      have hoff : engine.listening.online = none :=
        Option.not_isSome_iff_eq_none.mp fun hon =>
          hclient (h.client.trans (h.listening.online hon))
      rw [hoff]
      exact LeadsOn.lapse (.refl none engine)
  | connectFailed attempt reason => exact (engine.chats_notify _).leads
  | disconnected epoch =>
    simp only [Engine.process]
    split
    · rename_i honline
      have hlost : Leads engine { engine with
          listening := engine.listening.disconnected engine.tree epoch } := by
        refine LeadsOn.lapse ?_
        rw [Listening.disconnected, if_pos honline]
        exact .refl none engine
      exact hlost.trans (chats_notify _ _).leads
    · exact .refl _ engine
  | message epoch message =>
    simp only [Engine.process]
    split
    · rename_i honline
      exact leads_of_path (path_dispatch h.listening.online honline _ message)
        (engine.chats_told message _)
    · exact .refl _ engine
  | protocolError epoch text =>
    simp only [Engine.process]
    split
    · exact (engine.chats_notify _).leads
    · exact .refl _ engine

end Engine

end Domotics
