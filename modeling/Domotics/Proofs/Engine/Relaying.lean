import Domotics.Proofs.Edits
import Domotics.Proofs.Engine.Subscriptions
import Domotics.Proofs.Tree.Mirror
import Domotics.Proofs.Tree.Queue
/-!
# Engines tell what they edit

An engine edits its tree, and tells whoever watches of the events that the edits queue. `edits` says
which edits of the tree an input comes to, whatever else it does. An engine `Relays` edits if what
it tells, and then what its tree has still queued, is what these edits queue, in order. Relaying is
put together from steps, and each of the steps an engine takes does one thing: it edits the tree, or
takes the queue and tells it, or is `Silent`.

Operations and events end with the queue told, so they `Deliver` the edits that they come to. That
is what an engine `Answers` to any input (`answers_act`).
-/

namespace Domotics

open Domotics.Tree

/-- What an effect tells of the tree, and whom. -/
def Effect.told? : Effect → Option (Option String × TreeEvent)
  | .notify watcher (.treeEvent event) => some (watcher, event)
  | _ => none

namespace Engine

variable {engine engine' engine'' : Engine} {tree : Tree} {mutations mutations' : List Mutation}
  {α β : Type}

/-- What watchers are told of the tree by the effects that are queued. -/
def told (engine : Engine) : List (Option String × TreeEvent) :=
  engine.effects.filterMap Effect.told?

/-! ## Steps -/

/-- Nothing happens to the tree, nothing is told of it, and the same one watches. -/
structure Silent (engine engine' : Engine) : Prop where
  tree : engine'.tree = engine.tree
  told : engine'.told = engine.told
  watcher : engine'.watcher = engine.watcher

namespace Silent

theorem refl (engine : Engine) : Silent engine engine :=
  ⟨rfl, rfl, rfl⟩

theorem trans (h : Silent engine engine') (h' : Silent engine' engine'') :
    Silent engine engine'' :=
  ⟨h'.tree.trans h.tree, h'.told.trans h.told, h'.watcher.trans h.watcher⟩

end Silent

theorem told_emit (engine : Engine) (effect : Effect) :
    (engine.emit effect).told = engine.told ++ effect.told?.toList := by
  unfold told emit
  rw [List.filterMap_append]
  cases h : effect.told? <;> simp [h]

theorem Silent.emit (h : Silent engine engine') {effect : Effect} (quiet : effect.told? = none) :
    Silent engine (engine'.emit effect) := by
  refine ⟨h.tree, ?_, h.watcher⟩
  rw [told_emit, quiet, h.told]
  exact List.append_nil _

theorem silent_notify (engine : Engine) {notice : Notice}
    (quiet : (Effect.notify engine.watcher notice).told? = none) :
    Silent engine (engine.notify notice) :=
  (Silent.refl engine).emit quiet

theorem silent_send (engine : Engine) (epoch : Epoch) (message : Message) :
    Silent engine (engine.send epoch message).engine := by
  unfold send
  split
  · exact .refl engine
  · have hrecord : Silent engine (engine.record .sent message) := ⟨rfl, rfl, rfl⟩
    exact hrecord.emit rfl

theorem silent_stopClient (engine : Engine) : Silent engine engine.stopClient := by
  unfold stopClient
  split
  · exact .refl engine
  · have hdropped : Silent engine { engine with client := none } := ⟨rfl, rfl, rfl⟩
    exact hdropped.emit rfl

theorem silent_carryOut (engine : Engine) (action : Action) :
    Silent engine (engine.carryOut action) := by
  cases action with
  | startClient =>
    simp only [carryOut, startClient]
    split
    · exact .refl engine
    · have hheld : Silent engine { engine with
          client := some (engine.clientsStarted + 1)
          clientsStarted := engine.clientsStarted + 1 } := ⟨rfl, rfl, rfl⟩
      exact hheld.emit rfl
  | stopClient => exact engine.silent_stopClient
  | send epoch message => exact engine.silent_send epoch message

theorem silent_carryOutAll (actions : List Action) : ∀ engine : Engine,
    Silent engine (engine.carryOutAll actions) := by
  induction actions with
  | nil => exact .refl
  | cons action actions ih => exact fun engine => (engine.silent_carryOut action).trans (ih _)

/-- The edits are done to the tree, and of the events that they queue those that are not queued any
more were told, in order and to the one who watches. -/
structure Relays (engine : Engine) (mutations : List Mutation) (engine' : Engine) : Prop where
  watcher : engine'.watcher = engine.watcher
  told : ∃ events, engine'.told = engine.told ++ events.map (Prod.mk engine.watcher) ∧
    engine.tree.run mutations = engine'.tree.behind events

theorem Relays.trans (h : Relays engine mutations engine')
    (h' : Relays engine' mutations' engine'') :
    Relays engine (mutations ++ mutations') engine'' := by
  obtain ⟨events, htold, hrun⟩ := h.told
  obtain ⟨events', htold', hrun'⟩ := h'.told
  refine ⟨h'.watcher.trans h.watcher, events ++ events', ?_, ?_⟩
  · rw [htold', htold, h.watcher, List.append_assoc, List.map_append]
  · rw [run_append, hrun, run_behind, hrun', behind_behind]

theorem Silent.relays (h : Silent engine engine') : Relays engine [] engine' := by
  refine ⟨h.watcher, [], ?_, ?_⟩
  · rw [h.told, List.map_nil, List.append_nil]
  · rw [h.tree]
    rfl

theorem relays_withTree (h : engine.tree.run mutations = tree) :
    Relays engine mutations (engine.withTree tree) :=
  ⟨rfl, [], (List.append_nil _).symm, h⟩

/-- Telling the queue leaves nothing queued. -/
theorem relays_forwardTreeEvents (engine : Engine) :
    Relays engine [] engine.forwardTreeEvents ∧ engine.forwardTreeEvents.tree.events = [] := by
  have hnews : (newsOf engine.watcher engine.tree.events).filterMap Effect.told? =
      engine.tree.events.map (Prod.mk engine.watcher) := by
    rw [newsOf, List.filterMap_map]
    exact congrFun List.filterMap_eq_map' engine.tree.events
  rw [forwardTreeEvents_eq]
  refine ⟨⟨rfl, engine.tree.events, ?_, (engine.tree.behind_takeEvents).symm⟩, rfl⟩
  unfold told
  rw [List.filterMap_append, hnews]

/-! ## Operations -/

/-- Edits are relayed, and nothing is left in the queue. -/
structure Delivers (engine : Engine) (mutations : List Mutation) (engine' : Engine) : Prop
    extends Relays engine mutations engine' where
  emptied : engine.tree.events = [] → engine'.tree.events = []

theorem Delivers.trans (h : Delivers engine mutations engine')
    (h' : Delivers engine' mutations' engine'') :
    Delivers engine (mutations ++ mutations') engine'' :=
  ⟨h.toRelays.trans h'.toRelays, fun hnone => h'.emptied (h.emptied hnone)⟩

theorem Silent.delivers (h : Silent engine engine') : Delivers engine [] engine' :=
  ⟨h.relays, fun hnone => by rw [h.tree, hnone]⟩

theorem Delivers.silent (h : Delivers engine mutations engine') (h' : Silent engine' engine'') :
    Delivers engine mutations engine'' := by
  have hall := h.trans h'.delivers
  rwa [List.append_nil] at hall

/-- A tree that is edited, and then anything silent, and then the queue is told. -/
theorem delivers_applied (h : engine.tree.run mutations = tree)
    (silent : Silent (engine.withTree tree) engine') :
    Delivers engine mutations engine'.forwardTreeEvents := by
  obtain ⟨hrelays, hnone⟩ := relays_forwardTreeEvents engine'
  have hall := ((relays_withTree h).trans silent.relays).trans hrelays
  rw [List.append_nil, List.append_nil] at hall
  exact ⟨hall, fun _ => hnone⟩

theorem delivers_forwardTreeEvents (engine : Engine) :
    Delivers engine [] engine.forwardTreeEvents :=
  delivers_applied rfl (Silent.refl engine)

theorem delivers_settle {outcome : Listening.Outcome}
    (h : engine.tree.run mutations = outcome.tree) :
    Delivers engine mutations (engine.settle outcome) := by
  have hsilent : Silent (engine.withTree outcome.tree)
      { engine.withTree outcome.tree with listening := outcome.listening } := ⟨rfl, rfl, rfl⟩
  exact delivers_applied h (hsilent.trans (silent_carryOutAll outcome.actions _))

theorem delivers_settling {outcome : Except Error Listening.Outcome}
    (h : engine.tree.run mutations = (outcome.map (·.tree)).toOption.getD engine.tree) :
    Delivers engine mutations (engine.settling outcome).engine := by
  cases outcome with
  | error e => exact ⟨⟨rfl, [], (List.append_nil _).symm, h⟩, id⟩
  | ok outcome => exact delivers_settle h

theorem delivers_startListening (engine : Engine) (id : ItemId) :
    Delivers engine [.setListening id true] (engine.startListening id).engine :=
  delivers_settling (run_of_start engine.listening)

theorem delivers_stopListening (engine : Engine) (id : ItemId) :
    Delivers engine [.setListening id false] (engine.stopListening id).engine :=
  delivers_settling (run_of_stop engine.listening)

/-- The edits that starting comes to. -/
def startEdits (engine : Engine) : List Mutation :=
  if engine.unit.autoConnect then [.setListening rootId true] else []

/-- The edits that stopping comes to. -/
def stopEdits (engine : Engine) : List Mutation :=
  engine.tree.listeningContainers.map (.setListening · false)

theorem delivers_autoConnect (engine : Engine) :
    Delivers engine engine.startEdits engine.autoConnect.engine := by
  unfold autoConnect startEdits
  split
  · exact engine.delivers_startListening rootId
  · exact (Silent.refl engine).delivers

theorem delivers_stop (engine : Engine) : Delivers engine engine.stopEdits engine.stop := by
  have hfold : ∀ (ids : List ItemId) (engine : Engine),
      Delivers engine (ids.map (.setListening · false))
        (ids.foldl (fun engine id => (engine.stopListening id).engine) engine) := by
    intro ids
    induction ids with
    | nil => exact fun engine => (Silent.refl engine).delivers
    | cons id ids ih => exact fun engine => (engine.delivers_stopListening id).trans (ih _)
  have hquiet := hfold engine.tree.listeningContainers engine
  unfold stop stopEdits
  generalize engine.tree.listeningContainers.foldl
    (fun engine id => (engine.stopListening id).engine) engine = quiet at hquiet ⊢
  have hlistening : Silent quiet.stopClient { quiet.stopClient with
      listening := quiet.stopClient.listening.clientStopped quiet.stopClient.tree } :=
    ⟨rfl, rfl, rfl⟩
  exact hquiet.silent (quiet.silent_stopClient.trans hlistening)

theorem delivers_sendPing (engine : Engine) : Delivers engine [] engine.sendPing.engine := by
  refine Attempt.andThen_induction (fun _ _ => (Silent.refl engine).delivers) fun epoch _ => ?_
  have hnext : Silent engine { engine with nextPing := engine.nextPing + 1 } := ⟨rfl, rfl, rfl⟩
  exact (hnext.trans (silent_send _ epoch _)).delivers

/-- An attempt that succeeds delivers edits; one that fails delivers none. -/
def Grants (engine : Engine) (mutations : List Mutation) (attempt : Attempt α) : Prop :=
  Delivers engine (if attempt.result.isOk then mutations else []) attempt.engine

namespace Grants

theorem done {answer : α} (h : Delivers engine mutations engine') :
    Grants engine mutations (.done engine' answer) :=
  h

theorem andThen {attempt : Attempt α} {next : α → Engine → Attempt β}
    (before : Delivers engine [] attempt.engine)
    (accepted : ∀ a, attempt.result = .ok a → Grants engine mutations (next a attempt.engine)) :
    Grants engine mutations (attempt.andThen next) := by
  unfold Attempt.andThen
  split
  · exact accepted _ ‹_›
  · exact before

theorem check {result : Except Error α} {next : α → Engine → Attempt β}
    (before : Delivers engine [] engine')
    (accepted : ∀ a, result = .ok a → Grants engine mutations (next a engine')) :
    Grants engine mutations ((engine'.check result).andThen next) :=
  andThen before accepted

end Grants

/-- The edit that gives a device a value. -/
def valueEdit (id : ItemId) : DeviceValue → Mutation
  | .binary on => .setBinary id on
  | .decimal quantity => .setDecimal id quantity.value

theorem run_valueEdit {id : ItemId} {value : DeviceValue}
    (h : engine.tree.setValue id value = .ok tree) :
    engine.tree.run [valueEdit id value] = tree := by
  cases value with
  | binary on =>
    replace h : engine.tree.setBinary id on = .ok tree := h
    simp only [run, List.foldl_cons, List.foldl_nil, valueEdit, mutate, h]
    rfl
  | decimal quantity =>
    replace h : engine.tree.setDecimal id quantity.value = .ok tree := h
    simp only [run, List.foldl_cons, List.foldl_nil, valueEdit, mutate, h]
    rfl

theorem grants_sendValue (engine : Engine) (id : ItemId) (value : DeviceValue) :
    Grants engine [valueEdit id value] (engine.sendValue id value) := by
  refine .check (Silent.refl engine).delivers fun epoch _ => ?_
  have hsent := (engine.silent_send epoch (.valueChanged id value)).delivers
  refine .andThen hsent fun _ _ => .check hsent fun tree hset => .done ?_
  exact hsent.trans (delivers_applied (run_valueEdit hset) (.refl _))

theorem grants_sendBinary (engine : Engine) (id : ItemId) (on : Bool) :
    Grants engine [.setBinary id on] (engine.sendBinary id on) :=
  .check (Silent.refl engine).delivers fun _ _ => engine.grants_sendValue id (.binary on)

theorem grants_sendDecimal (engine : Engine) (id : ItemId) (value : Binary64) :
    Grants engine [.setDecimal id value] (engine.sendDecimal id value) :=
  .check (Silent.refl engine).delivers fun quantity _ =>
    engine.grants_sendValue id (.decimal { quantity with value })

/-- The edits that forgetting all items but the root comes to. -/
def forgetEdits (tree : Tree) : List Mutation :=
  (tree.childLists rootId).map .remove

theorem run_forgetEdits {tree' : Tree} (h : forgetItems tree = .ok tree') :
    tree.run (forgetEdits tree) = tree' := by
  unfold forgetItems at h
  cases hids : tree.children rootId with
  | error e =>
    rw [hids] at h
    cases h
  | ok ids =>
    rw [hids] at h
    obtain rfl := Except.ok.inj h
    rw [forgetEdits, childLists, children_eq_ok_iff_kids?.mp hids, Option.getD_some, run,
      List.foldl_map]
    rfl

theorem silent_dropClient (engine : Engine) : Silent engine engine.dropClient := by
  unfold dropClient
  split
  · have hlistening : Silent engine.stopClient { engine.stopClient with
        listening := engine.stopClient.listening.clientStopped engine.stopClient.tree } :=
      ⟨rfl, rfl, rfl⟩
    exact engine.silent_stopClient.trans hlistening
  · exact .refl engine

theorem grants_setUrl (engine : Engine) (url : String) :
    Grants engine (forgetEdits engine.tree) (engine.setUrl url) := by
  refine .check (Silent.refl engine).delivers fun unit hunit => ?_
  have hturned : Silent engine { engine with
      unit, settings := { engine.settings with server := { engine.settings.server with url } } } :=
    ⟨tree_of_setUrl hunit, rfl, rfl⟩
  have hdropped := hturned.trans (silent_dropClient _)
  dsimp only
  generalize Engine.dropClient _ = turned at hdropped ⊢
  refine .check hdropped.delivers fun tree hforget => .done ?_
  let outcome : Listening.Outcome :=
    ⟨tree, (turned.listening.itemsRemoved tree).2, (turned.listening.itemsRemoved tree).1⟩
  have hrun : turned.tree.run (forgetEdits turned.tree) = outcome.tree := run_forgetEdits hforget
  have hforgot := hdropped.delivers.trans (delivers_settle hrun)
  rw [hdropped.tree] at hforgot
  exact hforgot

/-! ## Events -/

/-- The edits that an event comes to. -/
def eventEdits (engine : Engine) : ConnectionEvent → List Mutation
  | .message epoch message =>
    if engine.listening.online = some epoch then
      dispatchEdits engine.tree engine.listening engine.settings.behavior.listenAll epoch message
    else []
  | _ => []

/-- Before anything is carried out, a watcher is told of what a message changed. -/
theorem delivers_told (engine : Engine) (message : Message) {dispatched : Dispatched}
    (h : engine.tree.run mutations = dispatched.tree) :
    let applied := { (engine.record .received message).withTree dispatched.tree with
      listening := dispatched.listening }
    let told := (applied.notify (.message message)).forwardTreeEvents
    Delivers engine mutations (match dispatched.problem with
      | some text => told.notify (.problem text)
      | none => told) := by
  intro applied told
  have happlied : Silent (engine.withTree dispatched.tree) applied := ⟨rfl, rfl, rfl⟩
  have htold : Delivers engine mutations told := delivers_applied h (happlied.emit rfl)
  cases dispatched.problem with
  | none => exact htold
  | some text =>
    have hwarned : Silent told (told.notify (.problem text)) := told.silent_notify rfl
    exact htold.silent hwarned

theorem delivers_receive (wf : engine.tree.WellFormed) (epoch : Epoch) (message : Message) :
    Delivers engine
      (dispatchEdits engine.tree engine.listening engine.settings.behavior.listenAll epoch message)
      (engine.receive epoch message) := by
  have hrun := wf.run_dispatchEdits engine.listening engine.settings.behavior.listenAll epoch
    message
  have hcarried := (engine.delivers_told message hrun).silent (silent_carryOutAll
    (dispatch engine.tree engine.listening engine.settings.behavior.listenAll epoch message).actions
    _)
  have hforwarded := hcarried.trans (delivers_forwardTreeEvents _)
  rw [List.append_nil] at hforwarded
  exact hforwarded

theorem silent_disconnected (engine : Engine) (epoch : Epoch) :
    Silent engine (engine.process (.disconnected epoch)) := by
  simp only [process]
  split
  · have hlost : Silent engine
        { engine with listening := engine.listening.disconnected engine.tree epoch } :=
      ⟨rfl, rfl, rfl⟩
    exact hlost.emit rfl
  · exact .refl engine

theorem silent_connected (engine : Engine) (epoch : Epoch) :
    Silent engine (engine.process (.connected epoch)) := by
  rw [process_connected]
  split
  · have hgreeting : Silent engine (engine.greeting epoch) := by
      refine ⟨rfl, ?_, rfl⟩
      unfold greeting notify
      rw [told_emit]
      exact List.append_nil _
    exact hgreeting.trans (silent_carryOutAll _ _)
  · exact .refl engine

theorem delivers_process (wf : engine.tree.WellFormed) (event : ConnectionEvent) :
    Delivers engine (engine.eventEdits event) (engine.process event) := by
  cases event with
  | connected epoch => exact (engine.silent_connected epoch).delivers
  | connectFailed attempt _ => exact (engine.silent_notify rfl).delivers
  | disconnected epoch => exact (engine.silent_disconnected epoch).delivers
  | message epoch message =>
    simp only [eventEdits, process]
    split
    · exact delivers_receive wf epoch message
    · exact (Silent.refl engine).delivers
  | protocolError epoch text =>
    simp only [eventEdits, process]
    split
    · exact (engine.silent_notify rfl).delivers
    · exact (Silent.refl engine).delivers

/-! ## Inputs -/

/-- The edits that an operation comes to. A device gets its value, and the items of another central
unit are forgotten, only if the operation succeeds. -/
def operationEdits (engine : Engine) : Operation → List Mutation
  | .watch _ => []
  | .start _ => engine.startEdits
  | .stop => engine.stopEdits
  | .reconnect _ => engine.stopEdits ++ engine.stop.startEdits
  | .command (.startListening id) => [.setListening id true]
  | .command (.stopListening id) => [.setListening id false]
  | .command (.setBinary id on) =>
    if (engine.sendBinary id on).result.isOk then [.setBinary id on] else []
  | .command (.setDecimal id value) =>
    if (engine.sendDecimal id value).result.isOk then [.setDecimal id value] else []
  | .command .ping => []
  | .command (.setUrl url) =>
    if (engine.setUrl url).result.isOk then forgetEdits engine.tree else []
  | .command .reconnect => engine.stopEdits ++ engine.stop.startEdits
  | .command .quit => []

/-- The edits that an input comes to. -/
def edits (engine : Engine) : Input → List Mutation
  | .operation operation => engine.operationEdits operation
  | .event event => engine.eventEdits event

end Engine

/-- Who watches from an operation on, if it says so. -/
def Operation.watcher? : Operation → Option (Option String)
  | .watch watcher | .start watcher | .reconnect watcher => some watcher
  | .stop | .command _ => none

/-- Who watches from an input on, if it says so. -/
def Input.watcher? : Input → Option (Option String)
  | .operation asked => asked.watcher?
  | .event _ => none

namespace Engine

variable {engine engine' : Engine} {mutations : List Mutation}

/-- What an input comes to is told in order, to the one who watched before it or to the one who
watches from it on, and nothing is left in the queue. -/
structure Answers (engine : Engine) (input : Input) : Prop where
  watcher : (engine.act input).watcher = input.watcher?.getD engine.watcher
  told : ∃ told, (engine.act input).told = engine.told ++ told ∧
    engine.tree.run (engine.edits input) = (engine.act input).tree.behind (told.map (·.2)) ∧
    ∀ t ∈ told, t.1 = engine.watcher ∨ input.watcher? = some t.1
  emptied : engine.tree.events = [] → (engine.act input).tree.events = []

theorem Delivers.answers {input : Input}
    (h : Delivers engine (engine.edits input) (engine.act input)) (same : input.watcher? = none) :
    Answers engine input := by
  obtain ⟨events, htold, hrun⟩ := h.told
  refine ⟨by rw [h.watcher, same]; rfl, ⟨_, htold, ?_, ?_⟩, h.emptied⟩
  · rw [hrun, List.map_map]
    exact congrArg _ (List.map_id _).symm
  · intro t ht
    obtain ⟨event, -, rfl⟩ := List.mem_map.mp ht
    exact Or.inl rfl

/-- What was told before a new watcher is installed is told to the old one, and the rest to it. -/
theorem answers_of_watchedBy {input : Input} {watcher : Option String} {mutations' : List Mutation}
    (h : Delivers engine mutations engine')
    (h' : Delivers (engine'.watchedBy watcher) mutations' (engine.act input))
    (hedits : engine.edits input = mutations ++ mutations') (hnew : input.watcher? = some watcher) :
    Answers engine input := by
  obtain ⟨events, htold, hrun⟩ := h.told
  obtain ⟨events', htold', hrun'⟩ := h'.told
  refine ⟨by rw [h'.watcher, hnew]; rfl, ⟨events.map (Prod.mk engine.watcher) ++
    events'.map (Prod.mk watcher), ?_, ?_, ?_⟩, fun hnone => h'.emptied (h.emptied hnone)⟩
  · rw [← List.append_assoc, ← htold]
    exact htold'
  · have hboth : (events.map (Prod.mk engine.watcher) ++ events'.map (Prod.mk watcher)).map (·.2) =
        events ++ events' := by
      simp [Function.comp_def]
    replace hrun' : engine'.tree.run mutations' = _ := hrun'
    rw [hedits, run_append, hrun, run_behind, hrun', behind_behind, hboth]
  · intro t ht
    rcases List.mem_append.mp ht with ht | ht
    · obtain ⟨event, -, rfl⟩ := List.mem_map.mp ht
      exact Or.inl rfl
    · obtain ⟨event, -, rfl⟩ := List.mem_map.mp ht
      exact Or.inr hnew

theorem answers_act (wf : engine.tree.WellFormed) (input : Input) : Answers engine input := by
  cases input with
  | event event => exact (delivers_process wf event).answers rfl
  | operation operation =>
    cases operation with
    | watch watcher =>
      exact answers_of_watchedBy (Silent.refl engine).delivers
        (Silent.refl (engine.watchedBy watcher)).delivers rfl rfl
    | start watcher =>
      exact answers_of_watchedBy (Silent.refl engine).delivers
        (engine.watchedBy watcher).delivers_autoConnect rfl rfl
    | stop => exact engine.delivers_stop.answers rfl
    | reconnect watcher =>
      exact answers_of_watchedBy engine.delivers_stop
        (engine.stop.watchedBy watcher).delivers_autoConnect rfl rfl
    | command command =>
      cases command with
      | startListening id => exact (engine.delivers_startListening id).answers rfl
      | stopListening id => exact (engine.delivers_stopListening id).answers rfl
      | setBinary id on => exact Delivers.answers (engine.grants_sendBinary id on) rfl
      | setDecimal id value => exact Delivers.answers (engine.grants_sendDecimal id value) rfl
      | ping => exact engine.delivers_sendPing.answers rfl
      | setUrl url => exact Delivers.answers (engine.grants_setUrl url) rfl
      | reconnect =>
        exact (engine.delivers_stop.trans engine.stop.delivers_autoConnect).answers rfl
      | quit => exact (Silent.refl engine).delivers.answers rfl

end Engine

end Domotics
