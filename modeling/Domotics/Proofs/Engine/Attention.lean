import Domotics.Proofs.Attention
import Domotics.Proofs.Engine.Relaying
/-!
# With `listenAll`, no container goes unheard

An engine whose settings say `listenAll` begins with a tree in which every container but the root is
listened to, for there is none. It goes on so (`attentive_run`) whatever messages arrive, however
often connections are lost and made, and whatever the user does, but for one thing: the user may
stop listening. To stop the engine is that, and so is to reconnect at will, which stops it first. A
connection that is lost and made anew is not.

The induction is over the inputs. A message heeds the tree, and all that any other input does to it
is to put marks, to take items out and to give values, which spares it.
-/

namespace Domotics

open Domotics.Tree

/-! ## What spares a tree -/

/-- Only puts a mark, gives a value, or takes items out. -/
def Tree.Mutation.spares : Mutation → Bool
  | .remove _ | .setBinary _ _ | .setDecimal _ _ => true
  | .setListening _ listening => listening
  | .add _ _ | .announce _ _ | .update _ _ | .setName _ => false

namespace Tree.WellFormed

variable {tree : Tree}

theorem spares_mutate (wf : tree.WellFormed) {mutation : Mutation} (h : mutation.spares = true) :
    Spares tree (tree.mutate mutation).tree := by
  cases mutation with
  | remove id => exact (wf.prunes_remove id).spares
  | setBinary id on =>
    simp only [Tree.mutate]
    cases hset : tree.setBinary id on with
    | error e => exact .refl tree
    | ok tree' => exact (allAlike_setBinary hset).spares
  | setDecimal id value =>
    simp only [Tree.mutate]
    cases hset : tree.setDecimal id value with
    | error e => exact .refl tree
    | ok tree' => exact (allAlike_setDecimal hset).spares
  | setListening id listening =>
    obtain rfl : listening = true := h
    simp only [Tree.mutate]
    cases hset : tree.setListening id true with
    | error e => exact .refl tree
    | ok outcome => exact spares_setListening hset
  | add _ _ | announce _ _ | update _ _ | setName _ => cases h

theorem spares_run (wf : tree.WellFormed) {mutations : List Mutation}
    (h : ∀ mutation ∈ mutations, mutation.spares = true) : Spares tree (tree.run mutations) := by
  induction mutations generalizing tree with
  | nil => exact .refl tree
  | cons mutation mutations ih =>
    obtain ⟨hfirst, hrest⟩ := List.forall_mem_cons.mp h
    exact (wf.spares_mutate hfirst).trans (ih (wf.mutate mutation) hrest)

end Tree.WellFormed

/-! ## How the client behaves -/

namespace Engine

variable {engine engine' engine'' : Engine}

/-- The settings say as before how the client behaves. -/
def SameBehavior (engine engine' : Engine) : Prop :=
  engine'.settings.behavior = engine.settings.behavior

theorem SameBehavior.refl (engine : Engine) : SameBehavior engine engine :=
  rfl

theorem SameBehavior.trans (h : SameBehavior engine engine') (h' : SameBehavior engine' engine'') :
    SameBehavior engine engine'' :=
  Eq.trans h' h

theorem sameBehavior_forwardTreeEvents (engine : Engine) :
    SameBehavior engine engine.forwardTreeEvents := by
  rw [forwardTreeEvents_eq]
  rfl

theorem sameBehavior_send (engine : Engine) (epoch : Epoch) (message : Message) :
    SameBehavior engine (engine.send epoch message).engine := by
  unfold send
  split <;> rfl

theorem sameBehavior_stopClient (engine : Engine) : SameBehavior engine engine.stopClient := by
  unfold stopClient
  split <;> rfl

theorem sameBehavior_carryOut (engine : Engine) (action : Action) :
    SameBehavior engine (engine.carryOut action) := by
  cases action with
  | startClient =>
    simp only [carryOut, startClient]
    split <;> rfl
  | stopClient => exact engine.sameBehavior_stopClient
  | send epoch message => exact engine.sameBehavior_send epoch message

theorem sameBehavior_carryOutAll (actions : List Action) : ∀ engine : Engine,
    SameBehavior engine (engine.carryOutAll actions) := by
  induction actions with
  | nil => exact .refl
  | cons action actions ih =>
    exact fun engine => (engine.sameBehavior_carryOut action).trans (ih _)

theorem sameBehavior_settling (engine : Engine) (outcome : Except Error Listening.Outcome) :
    SameBehavior engine (engine.settling outcome).engine := by
  cases outcome with
  | error e => exact .refl engine
  | ok outcome =>
    exact (sameBehavior_carryOutAll outcome.actions
      { engine.withTree outcome.tree with listening := outcome.listening }).trans
        (sameBehavior_forwardTreeEvents _)

theorem sameBehavior_autoConnect (engine : Engine) :
    SameBehavior engine engine.autoConnect.engine := by
  unfold autoConnect
  split
  · exact engine.sameBehavior_settling _
  · exact .refl engine

theorem sameBehavior_stop (engine : Engine) : SameBehavior engine engine.stop := by
  have hfold : ∀ (ids : List ItemId) (engine : Engine), SameBehavior engine
      (ids.foldl (fun engine id => (engine.stopListening id).engine) engine) := by
    intro ids
    induction ids with
    | nil => exact .refl
    | cons id ids ih => exact fun engine => (engine.sameBehavior_settling _).trans (ih _)
  exact (hfold engine.tree.listeningContainers engine).trans (sameBehavior_stopClient _)

theorem sameBehavior_sendPing (engine : Engine) :
    SameBehavior engine engine.sendPing.engine :=
  Attempt.andThen_induction (fun _ _ => .refl engine) fun epoch _ =>
    sameBehavior_send { engine with nextPing := engine.nextPing + 1 } epoch _

theorem sameBehavior_sendValue (engine : Engine) (id : ItemId) (value : DeviceValue) :
    SameBehavior engine (engine.sendValue id value).engine := by
  refine Attempt.andThen_induction (fun _ _ => .refl engine) fun epoch _ => ?_
  have hsent := engine.sameBehavior_send epoch (.valueChanged id value)
  refine Attempt.andThen_induction (fun _ _ => hsent) fun _ _ => ?_
  exact Attempt.andThen_induction (fun _ _ => hsent) fun _ _ =>
    hsent.trans (sameBehavior_forwardTreeEvents _)

theorem sameBehavior_sendBinary (engine : Engine) (id : ItemId) (on : Bool) :
    SameBehavior engine (engine.sendBinary id on).engine :=
  Attempt.andThen_induction (fun _ _ => .refl engine) fun _ _ =>
    engine.sameBehavior_sendValue id (.binary on)

theorem sameBehavior_sendDecimal (engine : Engine) (id : ItemId) (value : Binary64) :
    SameBehavior engine (engine.sendDecimal id value).engine :=
  Attempt.andThen_induction (fun _ _ => .refl engine) fun _ _ =>
    engine.sameBehavior_sendValue id (.decimal _)

theorem sameBehavior_dropClient (engine : Engine) : SameBehavior engine engine.dropClient := by
  unfold dropClient
  split
  · exact engine.sameBehavior_stopClient
  · exact .refl engine

/-- Another central unit is another server, and that is all that is new in the settings. -/
theorem sameBehavior_setUrl (engine : Engine) (url : String) :
    SameBehavior engine (engine.setUrl url).engine := by
  refine Attempt.andThen_induction (fun _ _ => .refl engine) fun unit _ => ?_
  have hdropped : SameBehavior engine (dropClient { engine with
      unit, settings := { engine.settings with server := { engine.settings.server with url } } }) :=
    sameBehavior_dropClient _
  dsimp only [check]
  generalize dropClient _ = turned at hdropped ⊢
  refine Attempt.andThen_induction (fun _ _ => hdropped) fun tree _ => ?_
  exact hdropped.trans (turned.sameBehavior_settling (.ok
    ⟨tree, (turned.listening.itemsRemoved tree).2, (turned.listening.itemsRemoved tree).1⟩))

theorem sameBehavior_operate (engine : Engine) (operation : Operation) :
    SameBehavior engine (engine.operate operation).engine := by
  cases operation with
  | watch watcher => rfl
  | start watcher => exact (engine.watchedBy watcher).sameBehavior_autoConnect
  | stop => exact engine.sameBehavior_stop
  | reconnect watcher =>
    exact engine.sameBehavior_stop.trans (engine.stop.watchedBy watcher).sameBehavior_autoConnect
  | command command =>
    cases command with
    | startListening id => exact engine.sameBehavior_settling _
    | stopListening id => exact engine.sameBehavior_settling _
    | setBinary id on => exact engine.sameBehavior_sendBinary id on
    | setDecimal id value => exact engine.sameBehavior_sendDecimal id value
    | ping => exact engine.sameBehavior_sendPing
    | setUrl url => exact engine.sameBehavior_setUrl url
    | reconnect => exact engine.sameBehavior_stop.trans engine.stop.sameBehavior_autoConnect
    | quit => exact .refl engine

/-- Before anything is carried out, a watcher is told of a message and of what was wrong with it. -/
theorem sameBehavior_told (engine : Engine) (message : Message) (dispatched : Dispatched) :
    let applied := { (engine.record .received message).withTree dispatched.tree with
      listening := dispatched.listening }
    let told := (applied.notify (.message message)).forwardTreeEvents
    SameBehavior engine (match dispatched.problem with
      | some text => told.notify (.problem text)
      | none => told) := by
  intro applied told
  have htold : SameBehavior engine told := sameBehavior_forwardTreeEvents _
  cases dispatched.problem <;> exact htold

theorem sameBehavior_receive (engine : Engine) (epoch : Epoch) (message : Message) :
    SameBehavior engine (engine.receive epoch message) :=
  ((engine.sameBehavior_told message _).trans (sameBehavior_carryOutAll _ _)).trans
    (sameBehavior_forwardTreeEvents _)

theorem sameBehavior_process (engine : Engine) (event : ConnectionEvent) :
    SameBehavior engine (engine.process event) := by
  cases event with
  | connected epoch =>
    rw [process_connected]
    split
    · exact sameBehavior_carryOutAll _ (engine.greeting epoch)
    · exact .refl engine
  | connectFailed attempt reason => rfl
  | disconnected epoch =>
    simp only [process]
    split <;> rfl
  | message epoch message =>
    simp only [process]
    split
    · exact engine.sameBehavior_receive epoch message
    · exact .refl engine
  | protocolError epoch text =>
    simp only [process]
    split <;> rfl

/-- The settings say once and for all how the client behaves. -/
theorem sameBehavior_act (engine : Engine) (input : Input) :
    SameBehavior engine (engine.act input) := by
  cases input with
  | operation operation => exact engine.sameBehavior_operate operation
  | event event => exact engine.sameBehavior_process event

end Engine

/-! ## Inputs -/

/-- The user has the engine stop listening to something. It stops listening everywhere before it
reconnects because the user wants it to. -/
def Operation.hushes : Operation → Bool
  | .stop | .reconnect _ | .command (.stopListening _) | .command .reconnect => true
  | .watch _ | .start _ | .command _ => false

/-- The user has the engine stop listening to something. No event does. -/
def Input.hushes : Input → Bool
  | .operation asked => asked.hushes
  | .event _ => false

namespace Engine

variable {engine : Engine}

theorem spares_of_mem_startEdits {mutation : Mutation} (h : mutation ∈ engine.startEdits) :
    mutation.spares = true := by
  unfold startEdits at h
  split at h
  · obtain rfl := List.mem_singleton.mp h
    rfl
  · cases h

/-- A user who does not stop listening spares the tree. -/
theorem spares_of_mem_operationEdits {operation : Operation} (loud : operation.hushes = false)
    {mutation : Mutation} (h : mutation ∈ engine.operationEdits operation) :
    mutation.spares = true := by
  have hgranted : ∀ {granted : Bool} {edits : List Mutation},
      (∀ edit ∈ edits, edit.spares = true) →
        ∀ edit ∈ (if granted then edits else []), edit.spares = true := by
    rintro (_ | _) edits hedits edit hmem
    · cases hmem
    · exact hedits edit hmem
  cases operation with
  | watch watcher => cases h
  | start watcher => exact spares_of_mem_startEdits h
  | stop => cases loud
  | reconnect watcher => cases loud
  | command command =>
    cases command with
    | startListening id =>
      obtain rfl := List.mem_singleton.mp h
      rfl
    | stopListening id => cases loud
    | setBinary id on => exact hgranted (by simp [Mutation.spares]) mutation h
    | setDecimal id value => exact hgranted (by simp [Mutation.spares]) mutation h
    | ping => cases h
    | setUrl url => exact hgranted (by simp [forgetEdits, Mutation.spares]) mutation h
    | reconnect => cases loud
    | quit => cases h

/-- What an event comes to keeps every container listened to. -/
theorem Sound.attended_eventEdits (h : engine.Sound)
    (all : engine.settings.behavior.listenAll = true) (attended : engine.tree.Attended)
    (event : ConnectionEvent) : (engine.tree.run (engine.eventEdits event)).Attended := by
  cases event with
  | message epoch message =>
    simp only [eventEdits]
    split
    · rename_i online
      rw [h.wellFormed.run_dispatchEdits, all]
      exact (h.wellFormed.heeds_dispatch h.listening online attended message).attended
    · exact attended
  | connected _ | connectFailed _ _ | disconnected _ | protocolError _ _ => exact attended

/-- Every container but the root is listened to after an input, if the user does not stop
listening. -/
theorem Sound.attended_act (h : engine.Sound) (all : engine.settings.behavior.listenAll = true)
    (attended : engine.tree.Attended) {input : Input} (loud : input.hushes = false) :
    (engine.act input).tree.Attended := by
  obtain ⟨told, -, hrun, -⟩ := (answers_act h.wellFormed input).told
  have hedited : (engine.tree.run (engine.edits input)).Attended := by
    cases input with
    | operation operation =>
      exact (h.wellFormed.spares_run fun _ hmem =>
        spares_of_mem_operationEdits loud hmem).attended attended
    | event event => exact h.attended_eventEdits all attended event
  rw [hrun] at hedited
  -- What is queued is not seen in the tree.
  have same : AllAlike ((engine.act input).tree.behind (told.map (·.2))) (engine.act input).tree :=
    fun _ => alike_of_get?_eq (by rw [get?_behind])
  exact same.spares.attended hedited

end Engine

/-! ## Runs -/

namespace Session

variable {session : Session}

/-- Whatever message arrives on the connection that is up while every container but the root is
listened to, none goes unheard. -/
def Attentive (session : Session) : Prop :=
  session.engine.tree.Attended → ∀ epoch, session.engine.listening.online = some epoch →
    ∀ message, (dispatch session.engine.tree session.engine.listening
      session.engine.settings.behavior.listenAll epoch message).Heeds session.engine.tree epoch

theorem attended_start {settings : Settings} {engine : Engine}
    (h : Engine.ofSettings settings = .ok engine) :
    engine.tree.Attended ∧ engine.settings = settings := by
  obtain ⟨unit, hunit, h⟩ := bind_eq_ok_iff.mp h
  obtain rfl := Except.ok.inj h
  obtain ⟨atUrl, hurl, hunit⟩ := bind_eq_ok_iff.mp hunit
  obtain rfl := Except.ok.inj hunit
  obtain ⟨_, -, hurl⟩ := bind_eq_ok_iff.mp hurl
  obtain rfl := Except.ok.inj hurl
  refine ⟨fun id hc hne => absurd ?_ hne, rfl⟩
  obtain ⟨item, hi, -⟩ := Option.map_eq_some_iff.mp hc
  exact (eq_of_get?_empty hi).1

theorem sameBehavior_run (session : Session) (inputs : List Input) :
    session.engine.SameBehavior (session.run inputs).engine := by
  induction inputs generalizing session with
  | nil => exact .refl _
  | cons input inputs ih =>
    have hact : session.engine.SameBehavior (session.next input).engine :=
      session.engine.sameBehavior_act input
    exact hact.trans (ih (session.next input))

theorem Steady.attended_run (h : session.Steady)
    (all : session.engine.settings.behavior.listenAll = true)
    (attended : session.engine.tree.Attended) {inputs : List Input}
    (loud : ∀ input ∈ inputs, input.hushes = false) :
    (session.run inputs).engine.tree.Attended := by
  induction inputs generalizing session with
  | nil => exact attended
  | cons input inputs ih =>
    obtain ⟨hfirst, hrest⟩ := List.forall_mem_cons.mp loud
    refine ih (h.next input) ?_ ?_ hrest
    · have hact : session.engine.SameBehavior (session.next input).engine :=
        session.engine.sameBehavior_act input
      exact (congrArg BehaviorSettings.listenAll hact).trans all
    · exact h.sound.attended_act all attended hfirst

/-- However a session with a new engine that is to listen to everything goes, no container goes
unheard by a message, and while the user does not stop listening, every container but the root is
listened to. -/
theorem attentive_run {settings : Settings} {engine : Engine}
    (h : Engine.ofSettings settings = .ok engine) (all : settings.behavior.listenAll = true)
    (inputs : List Input) :
    ((start engine).run inputs).Attentive ∧
      ((∀ input ∈ inputs, input.hushes = false) →
        ((start engine).run inputs).engine.tree.Attended) := by
  obtain ⟨hattended, rfl⟩ := attended_start h
  have hsteady := Steady.start h
  refine ⟨fun attended epoch online message => ?_, hsteady.attended_run all hattended⟩
  have hsound := (hsteady.run inputs).sound
  have hbehavior : (start engine).engine.SameBehavior ((start engine).run inputs).engine :=
    sameBehavior_run (start engine) inputs
  rw [hbehavior, start, all]
  exact hsound.wellFormed.heeds_dispatch hsound.listening online attended message

/-- A kitchen is listened to although the connection it was announced on is lost, and on the next
one a lamp in it becomes a pantry. -/
theorem attentive_run_rooms :
    ∃ settings engine, Engine.ofSettings settings = .ok engine ∧
      settings.behavior.listenAll = true ∧
      let inputs : List Input := [.operation (.start none), .event (.connected 1),
        .event (.message 1 (.container ⟨1, rootId, "Kitchen", "", false⟩)),
        .event (.message 1 (.binaryDevice .actuator ⟨2, 1, "Lamp", "", false⟩ false)),
        .event (.disconnected 1), .event (.connected 2)]
      let engine' := ((start engine).run inputs).engine
      (engine'.listening.online = some 2 ∧ engine'.tree.listeningContainers = [rootId, 1]) ∧
        (∀ input ∈ inputs, input.hushes = false) ∧ engine'.tree.Attended ∧
        (dispatch engine'.tree engine'.listening engine'.settings.behavior.listenAll 2
          (.container ⟨2, 1, "Pantry", "", false⟩)).Heeds engine'.tree 2 := by
  have hrooms : (Engine.ofSettings { Settings.initial with
      server := ⟨"ohap://unit:18000", true⟩, behavior := ⟨true⟩ }).toOption.any fun engine =>
        let engine' := ((start engine).run [.operation (.start none), .event (.connected 1),
          .event (.message 1 (.container ⟨1, rootId, "Kitchen", "", false⟩)),
          .event (.message 1 (.binaryDevice .actuator ⟨2, 1, "Lamp", "", false⟩ false)),
          .event (.disconnected 1), .event (.connected 2)]).engine
        engine'.listening.online = some 2 ∧ engine'.tree.listeningContainers = [rootId, 1] := by
    decide +kernel
  obtain ⟨engine, h, hrooms⟩ := exists_ok_of_any hrooms
  have hrooms := of_decide_eq_true hrooms
  have loud : ∀ input ∈ ([.operation (.start none), .event (.connected 1),
      .event (.message 1 (.container ⟨1, rootId, "Kitchen", "", false⟩)),
      .event (.message 1 (.binaryDevice .actuator ⟨2, 1, "Lamp", "", false⟩ false)),
      .event (.disconnected 1), .event (.connected 2)] : List Input), input.hushes = false := by
    decide
  obtain ⟨heeds, attended⟩ := attentive_run h rfl _
  exact ⟨_, engine, h, rfl, hrooms, loud, attended loud, heeds (attended loud) 2 hrooms.1 _⟩

end Session

end Domotics
