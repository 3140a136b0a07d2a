import Domotics.Engine.Running
import Domotics.Proofs.Dispatch
/-!
# Engines keep the central unit informed

What `Listening` wants done, the engine carries out through its client. `Follows` says of an engine
before and after an operation that the second is sound, and that what was sent in between keeps the
central unit in step. Most operations lose no item; these `Keep` an engine, and what keeps it can be
put one after the other.

Each operation of a user and each event but a new connection is shown to be followed.
-/

namespace Domotics

open Domotics.Tree Listening

/-- What an effect tells the central unit about listening. -/
def Effect.mark? : Effect → Option Mark
  | .send _ _ message => message.mark?
  | _ => none

namespace Engine

variable {engine engine' engine'' : Engine}

/-- What the central unit is told about listening by the effects that are queued. -/
def marks (engine : Engine) : List Mark :=
  engine.effects.filterMap Effect.mark?

/-- The tree is well-formed, listening is sound, and a client is held just while listening takes one
to run. -/
structure Sound (engine : Engine) : Prop where
  wellFormed : engine.tree.WellFormed
  client : engine.client.isSome = engine.listening.clientRunning
  listening : engine.listening.Sound engine.tree

/-! ## What is told of the tree -/

/-- The effects that tell a watcher of events of the tree. -/
def newsOf (watcher : Option String) (events : List TreeEvent) : List Effect :=
  events.map fun event => .notify watcher (.treeEvent event)

/-- Events of the tree are told in order, and taken from the tree. -/
theorem forwardTreeEvents_eq (engine : Engine) :
    engine.forwardTreeEvents =
      { engine.withTree { engine.tree with events := [] } with
        effects := engine.effects ++ newsOf engine.watcher engine.tree.events } := by
  have hfold : ∀ (events : List TreeEvent) (engine : Engine),
      events.foldl (fun engine event => engine.notify (.treeEvent event)) engine =
        { engine with effects := engine.effects ++ newsOf engine.watcher events } := by
    intro events
    induction events with
    | nil => simp [newsOf]
    | cons event events ih =>
      intro engine
      rw [List.foldl_cons, ih]
      simp [newsOf, notify, emit]
  exact hfold engine.tree.events _

/-! ## What does not matter -/

/-- Nothing that listening depends on is touched. -/
structure Idle (engine engine' : Engine) : Prop where
  get? : ∀ x, engine'.tree.get? x = engine.tree.get? x
  listening : engine'.listening = engine.listening
  client : engine'.client = engine.client
  marks : engine'.marks = engine.marks

namespace Idle

theorem refl (engine : Engine) : Idle engine engine :=
  ⟨fun _ => rfl, rfl, rfl, rfl⟩

theorem trans (h : Idle engine engine') (h' : Idle engine' engine'') : Idle engine engine'' :=
  ⟨fun x => (h'.get? x).trans (h.get? x), h'.listening.trans h.listening,
    h'.client.trans h.client, h'.marks.trans h.marks⟩

theorem allAlike (h : Idle engine engine') : AllAlike engine.tree engine'.tree :=
  fun x => alike_of_get?_eq (h.get? x)

end Idle

theorem marks_emit (engine : Engine) (effect : Effect) :
    (engine.emit effect).marks = engine.marks ++ effect.mark?.toList := by
  unfold marks emit
  rw [List.filterMap_append]
  cases h : effect.mark? <;> simp [h]

theorem idle_emit (engine : Engine) {effect : Effect} (h : effect.mark? = none) :
    Idle engine (engine.emit effect) := by
  refine ⟨fun _ => rfl, rfl, rfl, ?_⟩
  rw [marks_emit, h]
  exact List.append_nil _

theorem idle_notify (engine : Engine) (notice : Notice) : Idle engine (engine.notify notice) :=
  engine.idle_emit rfl

theorem idle_forwardTreeEvents (engine : Engine) : Idle engine engine.forwardTreeEvents := by
  have hquiet : (newsOf engine.watcher engine.tree.events).filterMap Effect.mark? = [] := by
    refine List.filterMap_eq_nil_iff.mpr fun effect heffect => ?_
    obtain ⟨event, -, rfl⟩ := List.mem_map.mp heffect
    rfl
  rw [forwardTreeEvents_eq]
  refine ⟨fun _ => rfl, rfl, rfl, ?_⟩
  unfold marks
  rw [List.filterMap_append, hquiet, List.append_nil]

theorem idle_send (engine : Engine) (epoch : Epoch) {message : Message}
    (h : message.mark? = none) : Idle engine (engine.send epoch message).engine := by
  unfold send
  split
  · exact .refl engine
  · have hrecord : Idle engine (engine.record .sent message) := ⟨fun _ => rfl, rfl, rfl, rfl⟩
    exact hrecord.trans (idle_emit _ h)

theorem Sound.idle (h : engine.Sound) (idle : Idle engine engine') : engine'.Sound where
  wellFormed := h.wellFormed.of_get?_eq idle.get?
  client := by
    rw [idle.client, idle.listening, h.client]
  listening := by
    rw [idle.listening]
    exact (h.listening.follows_of_allAlike idle.allAlike).sound

/-! ## Carrying out -/

/-- An action does to the client what it says, and tells the central unit what it says if there is
a client. -/
theorem carryOut_spec (engine : Engine) (action : Action) :
    (engine.carryOut action).tree = engine.tree ∧
      (engine.carryOut action).listening = engine.listening ∧
      (engine.carryOut action).client.isSome = action.runs engine.client.isSome ∧
      (engine.carryOut action).marks =
        engine.marks ++ if engine.client.isSome then action.mark?.toList else [] := by
  cases action with
  | startClient =>
    simp only [carryOut, startClient]
    split
    · rename_i number hc
      simp [hc, Action.runs, Action.mark?]
    · rename_i hc
      refine ⟨rfl, rfl, rfl, ?_⟩
      rw [marks_emit, hc]
      rfl
  | stopClient =>
    simp only [carryOut, stopClient]
    split
    · rename_i hc
      simp [hc, Action.runs]
    · rename_i number hc
      refine ⟨rfl, rfl, rfl, ?_⟩
      rw [marks_emit, hc]
      rfl
  | send epoch message =>
    simp only [carryOut, send]
    split
    · rename_i hc
      simp [hc, Action.runs]
    · rename_i number hc
      refine ⟨rfl, rfl, rfl, ?_⟩
      rw [hc]
      exact marks_emit (engine.record .sent message) (.send number epoch message)

/-- Actions do to the client what they say, and tell the central unit what they say while there is
a client. -/
theorem carryOutAll_spec (actions : List Action) : ∀ engine : Engine,
    (engine.carryOutAll actions).tree = engine.tree ∧
      (engine.carryOutAll actions).listening = engine.listening ∧
      (engine.carryOutAll actions).client.isSome = actions.foldl Action.runs engine.client.isSome ∧
      (engine.carryOutAll actions).marks =
        engine.marks ++ Action.told engine.client.isSome actions := by
  induction actions with
  | nil => exact fun engine => ⟨rfl, rfl, rfl, (List.append_nil _).symm⟩
  | cons action actions ih =>
    intro engine
    obtain ⟨htree, hlistening, hclient, hmarks⟩ := engine.carryOut_spec action
    obtain ⟨htree', hlistening', hclient', hmarks'⟩ := ih (engine.carryOut action)
    refine ⟨htree'.trans htree, hlistening'.trans hlistening, hclient'.trans ?_, hmarks'.trans ?_⟩
    · rw [hclient]
      rfl
    · rw [hmarks, hclient, List.append_assoc]
      rfl

/-! ## Engines that follow -/

/-- The later engine is sound, and what was sent in between keeps the central unit in step. -/
structure Follows (engine engine' : Engine) : Prop where
  sound : engine'.Sound
  told : ∃ marks, engine'.marks = engine.marks ++ marks ∧
    Tells engine.listening engine.tree engine'.listening engine'.tree marks

/-- An operation that is followed and loses no item. -/
structure Keeps (engine engine' : Engine) : Prop extends Follows engine engine' where
  kinds : ∀ x, engine'.tree.kind? x = engine.tree.kind? x

theorem Follows.trans (h : Follows engine engine') (h' : Keeps engine' engine'') :
    Follows engine engine'' := by
  obtain ⟨first, hfirst, htold⟩ := h.told
  obtain ⟨second, hsecond, htold'⟩ := h'.told
  refine ⟨h'.sound, first ++ second, ?_, htold.trans htold' h'.kinds⟩
  rw [hsecond, hfirst, List.append_assoc]

theorem Keeps.trans (h : Keeps engine engine') (h' : Keeps engine' engine'') :
    Keeps engine engine'' :=
  ⟨h.toFollows.trans h', fun x => (h'.kinds x).trans (h.kinds x)⟩

theorem Sound.keeps_idle (h : engine.Sound) (idle : Idle engine engine') :
    Keeps engine engine' := by
  refine ⟨⟨h.idle idle, [], ?_, ?_⟩, fun x => (idle.allAlike x).1⟩
  · rw [idle.marks, List.append_nil]
  · rw [idle.listening]
    exact (h.listening.follows_of_allAlike idle.allAlike).told

theorem Sound.keeps (h : engine.Sound) : Keeps engine engine :=
  h.keeps_idle (.refl engine)

/-- What listening wants done is carried out. Whether the engine was sound does not matter, if a
client was held just while listening took one to run. -/
theorem follows_of_outcome {outcome : Outcome}
    (client : engine.client.isSome = engine.listening.clientRunning)
    (wf : outcome.tree.WellFormed) (h : engine.listening.Follows engine.tree outcome)
    (idle : Idle { engine.withTree outcome.tree with listening := outcome.listening } engine') :
    Follows engine (engine'.carryOutAll outcome.actions).forwardTreeEvents := by
  obtain ⟨htree, hlistening, hclient, hmarks⟩ := engine'.carryOutAll_spec outcome.actions
  have hget : ∀ x, engine'.tree.get? x = outcome.tree.get? x := idle.get?
  have hsame : AllAlike outcome.tree engine'.tree := fun x => alike_of_get?_eq (hget x)
  have hrunning : engine'.client.isSome = engine.listening.clientRunning :=
    (congrArg _ idle.client).trans client
  have hlistening' := hlistening.trans idle.listening
  have hsound : (engine'.carryOutAll outcome.actions).Sound := by
    refine ⟨?_, ?_, ?_⟩
    · rw [htree]
      exact wf.of_get?_eq hget
    · rw [hclient, hrunning, hlistening']
      exact h.runs
    · rw [htree, hlistening']
      exact (h.sound.follows_of_allAlike hsame).sound
  have hfollows : Follows engine (engine'.carryOutAll outcome.actions) := by
    refine ⟨hsound, Action.told engine.listening.clientRunning outcome.actions, ?_, ?_⟩
    · rw [hmarks, idle.marks, hrunning]
      rfl
    · rw [htree, hlistening']
      exact h.told.congr hsame
  exact hfollows.trans (hsound.keeps_idle (idle_forwardTreeEvents _))

end Engine

end Domotics
