import Domotics.Proofs.Engine.Contact
import Domotics.Proofs.Engine.Subscriptions
/-!
# A client runs just while something is listened to

Whether something is listened to is known in three places: the tree has the marks, listening knows
whether a client is to run and which containers wait for a connection, and the engine holds a
client. A running engine goes through `Move`s in any order, and between two moves the three agree
(`settled_run`).

What a move keeps up is `Linked`: the engine is sound, all that it wanted done is done, and the
client that it takes to be held is the one that runs. That the last of these is kept up follows from
`Contact.Path`, by which each effect is done where it makes sense. An engine that runs by itself
makes nothing but moves, so it keeps this up as well (`Linked.wakeAll`).
-/

namespace Domotics

open Domotics.Tree

namespace Engine

variable {engine : Engine}

/-- A new engine has started no client. -/
theorem contactOn_of_ofSettings {settings : Settings} (h : ofSettings settings = .ok engine) :
    engine.contactOn none = ⟨none, 0, none⟩ := by
  obtain ⟨_, -, h⟩ := bind_eq_ok_iff.mp h
  obtain rfl := Except.ok.inj h
  rfl

/-- An engine is sound after any event. -/
theorem Sound.processed (h : engine.Sound) (event : ConnectionEvent) :
    (engine.process event).Sound := by
  by_cases hc : engine.connects (.event event) = true
  · obtain ⟨hclient, epoch, hevent⟩ := connects_eq_true hc
    obtain rfl := Input.event.inj hevent
    exact (h.connected hclient epoch).1
  · exact (Sound.act h (Bool.not_eq_true _ ▸ hc)).sound

end Engine

namespace Running

open Engine

/-- The client that runs posts an event. -/
def post (running : Running) (event : ConnectionEvent) : Running :=
  match running.client with
  | none => running
  | some (number, _) => { running with inbox := running.inbox ++ [(number, event)] }

/-- What a running engine goes through. If the client is told to stop, `meanwhile` happens to it
before it notices. -/
inductive Move where
  /-- A user has the engine do something. -/
  | operation (meanwhile : List Happening) (operation : Operation)
  /-- The engine processes the oldest event that was posted. -/
  | next (meanwhile : List Happening)
  /-- Something happens to the client. -/
  | happening (happening : Happening)
  /-- The client posts any event at all. -/
  | post (event : ConnectionEvent)
  /-- The engine processes an event that no client posted. -/
  | stray (meanwhile : List Happening) (event : ConnectionEvent)

/-- What is left after a move. -/
def move (running : Running) : Move → Running
  | .operation meanwhile operation => (running.attempt meanwhile operation).2
  | .next meanwhile =>
    match running.processNext meanwhile with
    | some (_, next) => next
    | none => running
  | .happening happening => running.happen happening
  | .post event => running.post event
  | .stray meanwhile event => running.process meanwhile event

/-- What is left after moves one after the other. -/
def run (running : Running) (moves : List Move) : Running :=
  moves.foldl move running

/-- The number of the client that runs. -/
def held (running : Running) : Option ClientNumber :=
  running.client.map Prod.fst

variable {running : Running} {engine : Engine} {line line' : Option Epoch}

theorem move_next_of_nil (h : running.inbox = []) (meanwhile : List Happening) :
    running.move (.next meanwhile) = running := by
  simp only [move, processNext, h]

theorem move_next_of_cons {posted : ClientNumber × ConnectionEvent}
    {inbox : List (ClientNumber × ConnectionEvent)} (h : running.inbox = posted :: inbox)
    (meanwhile : List Happening) :
    running.move (.next meanwhile) = { running with inbox }.process meanwhile posted.2 := by
  simp only [move, processNext, h]

/-! ## Doing what an engine wants done -/

theorem engine_foldl_perform (meanwhile : List Happening) (effects : List Effect) :
    ∀ running : Running, (effects.foldl (perform meanwhile) running).engine = running.engine := by
  induction effects with
  | nil => exact fun _ => rfl
  | cons effect effects ih =>
    refine fun running => (ih _).trans ?_
    cases effect with
    | notify watcher notice => rfl
    | startClient number address credentials => rfl
    | send number epoch message => rfl
    | stopClient number =>
      simp only [perform]
      split <;> rfl

theorem held_perform_send (running : Running) (meanwhile : List Happening) (number : ClientNumber)
    (epoch : Epoch) (message : Message) :
    (running.perform meanwhile (.send number epoch message)).held = running.held := by
  unfold held perform
  cases running.client <;> rfl

theorem held_perform_stopClient (running : Running) (meanwhile : List Happening)
    (number : ClientNumber) : (running.perform meanwhile (.stopClient number)).held = none := by
  unfold held perform
  cases hc : running.client with
  | none => exact congrArg (Option.map _) hc
  | some client => rfl

/-- The client that an engine takes to be held is the one that runs. -/
theorem held_foldl_perform {contact contact' : Contact} {effects : List Effect}
    (path : contact.Path effects contact') (meanwhile : List Happening) :
    ∀ running : Running, running.held = contact.client →
      (effects.foldl (perform meanwhile) running).held = contact'.client := by
  induction path with
  | done => exact fun _ h => h
  | lapse _ ih => exact ih
  | notify watcher notice _ ih => exact fun running h => ih _ h
  | send message _ ih => exact fun running h => ih _ ((running.held_perform_send ..).trans h)
  | startClient address credentials _ ih => exact fun running _ => ih _ rfl
  | stopClient _ ih => exact fun running _ => ih _ (running.held_perform_stopClient ..)

/-! ## Moves -/

/-- What a move keeps up: the engine is sound, all that it wanted done is done, and the client that
it takes to be held is the one that runs. -/
structure Linked (running : Running) : Prop where
  sound : running.engine.Sound
  effects : running.engine.effects = []
  held : running.held = running.engine.client

theorem Linked.start {settings : Settings} (h : ofSettings settings = .ok engine) :
    (ofEngine engine).Linked := by
  obtain ⟨hsound, heffects, -⟩ := sound_of_ofSettings h
  exact ⟨hsound, heffects, (congrArg Contact.client (contactOn_of_ofSettings h)).symm⟩

theorem Linked.follow (h : running.Linked) (sound : engine.Sound)
    (leads : LeadsOn line line' running.engine engine) (meanwhile : List Happening) :
    (running.follow meanwhile engine).Linked := by
  obtain ⟨effects, heffects, hpath⟩ := leads
  rw [h.effects, List.nil_append] at heffects
  have hengine : (running.follow meanwhile engine).engine = engine.takeEffects.2 :=
    engine_foldl_perform meanwhile _ _
  have hheld : (running.follow meanwhile engine).held = engine.client := by
    change (engine.effects.foldl (perform meanwhile) _).held = engine.client
    rw [heffects]
    exact held_foldl_perform hpath meanwhile _ h.held
  refine ⟨?_, ?_, ?_⟩
  · rw [hengine]
    exact ⟨sound.wellFormed, sound.client, sound.listening⟩
  · rw [hengine]
    rfl
  · rw [hheld, hengine]
    rfl

theorem Linked.process (h : running.Linked) (meanwhile : List Happening)
    (event : ConnectionEvent) : (running.process meanwhile event).Linked :=
  h.follow (h.sound.processed event) (h.sound.leads_process event) meanwhile

/-- What happens to the client does not concern the engine. -/
theorem Linked.happen (h : running.Linked) (happening : Happening) :
    (running.happen happening).Linked := by
  have hheld := h.held
  unfold Running.held at hheld
  unfold Running.happen
  split
  · exact h
  · rename_i hc
    rw [hc] at hheld
    exact ⟨h.sound, h.effects, hheld⟩

theorem Linked.post (h : running.Linked) (event : ConnectionEvent) :
    (running.post event).Linked := by
  unfold Running.post
  split
  · exact h
  · exact ⟨h.sound, h.effects, h.held⟩

theorem Linked.move (h : running.Linked) (move : Move) : (running.move move).Linked := by
  cases move with
  | operation meanwhile operation =>
    exact h.follow (h.sound.operate operation).sound (h.sound.leads_operate operation) meanwhile
  | next meanwhile =>
    cases hinbox : running.inbox with
    | nil =>
      rw [move_next_of_nil hinbox]
      exact h
    | cons posted inbox =>
      have htaken : Linked { running with inbox } := ⟨h.sound, h.effects, h.held⟩
      rw [move_next_of_cons hinbox]
      exact htaken.process meanwhile posted.2
  | happening happening => exact h.happen happening
  | post event => exact h.post event
  | stray meanwhile event => exact h.process meanwhile event

theorem Linked.run (h : running.Linked) (moves : List Move) : (running.run moves).Linked := by
  induction moves generalizing running with
  | nil => exact h
  | cons move moves ih => exact ih (h.move move)

/-! ## Engines that run by themselves -/

/-- To wake up is to make moves. -/
theorem exists_run_eq_wake (running : Running) (wake : Wake) :
    ∃ moves, (running.wake wake).2 = running.run moves := by
  cases wake with
  | command command =>
    unfold Running.wake
    dsimp only
    split
    · rename_i next hattempt
      exact ⟨[.operation [] (.command command)], (congrArg Prod.snd hattempt).symm⟩
    · rename_i next hattempt
      have hnext : next = running.move (.operation [] (.command command)) :=
        (congrArg Prod.snd hattempt).symm
      rw [hnext]
      exact ⟨[.operation [] (.command command), .operation [] .stop], rfl⟩
    · rename_i e next hattempt
      exact ⟨[.operation [] (.command command)], (congrArg Prod.snd hattempt).symm⟩
  | event =>
    refine ⟨[.next []], ?_⟩
    change (running.wake .event).2 = running.move (.next [])
    cases hnext : running.processNext [] with
    | none => simp only [Running.wake, Running.move, hnext]
    | some next => simp only [Running.wake, Running.move, hnext]
  | ping =>
    unfold Running.wake
    dsimp only
    split
    · exact ⟨[.operation [] (.command .ping)], rfl⟩
    · exact ⟨[], rfl⟩
  | shutdown => exact ⟨[.operation [] .stop], rfl⟩

/-- However often an engine that runs by itself wakes up, it stays linked with its client. -/
theorem Linked.wakeAll (h : running.Linked) (wakes : List Wake) :
    (running.wakeAll wakes).Linked := by
  induction wakes generalizing running with
  | nil => exact h
  | cons wake wakes ih =>
    obtain ⟨moves, hmoves⟩ := running.exists_run_eq_wake wake
    have hwoken : (running.wake wake).2.Linked := hmoves ▸ h.run moves
    unfold Running.wakeAll
    split
    · rename_i next hwake
      rw [hwake] at hwoken
      exact ih hwoken
    · rename_i next hwake
      rw [hwake] at hwoken
      exact hwoken

/-! ## Agreement -/

/-- What is known of the client in different places agrees. -/
structure Settled (running : Running) : Prop where
  /-- The client that the engine takes to be held is the one that runs. -/
  held : running.held = running.engine.client
  /-- A client is held just while listening takes one to run. -/
  client : running.engine.client.isSome = true ↔ running.engine.listening.clientRunning = true
  /-- Listening takes a client to run just while some container is listened to. -/
  listened : running.engine.listening.clientRunning = true ↔
    ∃ id item, running.engine.tree.get? id = some item ∧ item.isListening = true
  /-- A connection is only up while a client is held. -/
  online : running.engine.listening.online.isSome = true → running.engine.client.isSome = true
  /-- Nothing waits while a connection is up. -/
  waiting : running.engine.listening.online.isSome = true → running.engine.listening.pending = []
  /-- While none is, each container that is listened to waits once, and nothing else does. -/
  pending : running.engine.listening.online = none →
    running.engine.listening.pending.Nodup ∧ ∀ id, id ∈ running.engine.listening.pending ↔
      ∃ item, running.engine.tree.get? id = some item ∧ item.isListening = true

theorem Linked.settled (h : running.Linked) : running.Settled where
  held := h.held
  client := by rw [h.sound.client]
  listened := h.sound.listening.running
  online := fun hon => h.sound.client.trans (h.sound.listening.online hon)
  waiting := h.sound.listening.waiting
  pending := h.sound.listening.pending

/-- However it goes on with a new engine, what is known of the client in different places agrees. -/
theorem settled_run {settings : Settings} (h : ofSettings settings = .ok engine)
    (moves : List Move) : ((ofEngine engine).run moves).Settled :=
  ((Linked.start h).run moves).settled

/-- With an engine that connects on start, the client runs once a user has it started. -/
theorem settled_run_started :
    ∃ settings engine, ofSettings settings = .ok engine ∧
      let running := (ofEngine engine).run
        [.operation [] (.start none), .happening .connected, .next []]
      (running.held = some 1 ∧ running.engine.isOnline = true) ∧ running.Settled := by
  have hstarted : (ofSettings { Settings.initial with
      server := ⟨"ohap://unit:18000", true⟩ }).toOption.any fun engine =>
        let running := (ofEngine engine).run
          [.operation [] (.start none), .happening .connected, .next []]
        running.held = some 1 ∧ running.engine.isOnline = true := by
    decide +kernel
  obtain ⟨engine, h, hstarted⟩ := exists_ok_of_any hstarted
  exact ⟨_, engine, h, of_decide_eq_true hstarted, settled_run h _⟩

end Running

end Domotics
