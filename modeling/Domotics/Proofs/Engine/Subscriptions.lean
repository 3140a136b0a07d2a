import Domotics.Proofs.Engine.Operations
/-!
# The central unit is told of each container once

A `Session` follows an engine through operations and events in any order, together with what the
central unit takes to be listened to: nothing on a new connection, then what it is told, less what
is lost from the tree. However a session goes, the central unit is `Informed` in it
(`informed_run`): between two inputs it knows just what is listened to while a connection is up,
whatever it is told is news to it, and a new connection is told of everything at once, in ascending
order.

This is an induction over the inputs. What it keeps up is `InStep`, which says nothing while there
is no connection; that nothing is told then follows from the soundness of the engine.
-/

namespace Domotics

open Domotics.Tree

/-- What an engine is given: what a user has it do, or what happened to a connection. -/
inductive Input where
  | operation (operation : Operation)
  | event (event : ConnectionEvent)

namespace Engine

variable {engine : Engine} {input : Input}

/-- The engine after an input, whether or not an operation succeeds. -/
def act (engine : Engine) : Input → Engine
  | .operation operation => (engine.operate operation).engine
  | .event event => engine.process event

/-- Whether an input is a new connection that is acted on. -/
def connects (engine : Engine) : Input → Bool
  | .event (.connected _) => engine.client.isSome
  | _ => false

theorem Sound.act (h : engine.Sound) (hc : engine.connects input = false) :
    Follows engine (engine.act input) := by
  cases input with
  | operation operation => exact h.operate operation
  | event event =>
    by_cases hnew : ∃ epoch, event = .connected epoch
    · obtain ⟨epoch, rfl⟩ := hnew
      have hstays : engine.act (.event (.connected epoch)) = engine := by
        refine (engine.process_connected epoch).trans (if_neg ?_)
        exact Bool.not_eq_true _ ▸ hc
      rw [hstays]
      exact h.keeps.toFollows
    · exact h.process fun epoch he => hnew ⟨epoch, he⟩

theorem connects_eq_true (hc : engine.connects input = true) :
    engine.client.isSome = true ∧ ∃ epoch, input = .event (.connected epoch) := by
  unfold connects at hc
  split at hc
  · exact ⟨hc, _, rfl⟩
  · cases hc

/-- A new engine listens to nothing. -/
theorem sound_of_ofSettings {settings : Settings} (h : ofSettings settings = .ok engine) :
    engine.Sound ∧ engine.effects = [] ∧ engine.listening.online = none := by
  obtain ⟨unit, hunit, h⟩ := bind_eq_ok_iff.mp h
  obtain rfl := Except.ok.inj h
  obtain ⟨atUrl, hurl, hunit⟩ := bind_eq_ok_iff.mp hunit
  obtain rfl := Except.ok.inj hunit
  obtain ⟨_, -, hurl⟩ := bind_eq_ok_iff.mp hurl
  obtain rfl := Except.ok.inj hurl
  have hnone : Tree.empty.listened = ∅ := by
    refine Set.eq_empty_of_forall_notMem fun id hid => ?_
    obtain ⟨item, hi, hl⟩ := hid
    obtain ⟨-, rfl⟩ := eq_of_get?_empty hi
    cases hl
  refine ⟨⟨WellFormed.empty, rfl, ⟨⟨nofun, nofun, fun _ => ⟨List.nodup_nil, fun id => ?_⟩⟩, ?_⟩⟩,
    rfl, rfl⟩
  · change id ∈ [] ↔ id ∈ Tree.empty.listened
    rw [hnone]
    exact ⟨nofun, nofun⟩
  · change false = true ↔ Tree.empty.listened.Nonempty
    rw [hnone]
    exact ⟨nofun, fun h => absurd h Set.not_nonempty_empty⟩

end Engine

/-- An engine that is given inputs, and what the central unit takes to be listened to. -/
structure Session where
  engine : Engine
  heard : Set ItemId

namespace Session

variable {session : Session}

/-- Nothing has been told yet. -/
def start (engine : Engine) : Session :=
  ⟨engine, ∅⟩

/-- What the central unit takes to be listened to when it is told what an input brings. On a new
connection it knows nothing, and what is lost from the tree it forgets by itself. -/
def kept (session : Session) (input : Input) : Set ItemId :=
  (if session.engine.connects input then ∅ else session.heard) \
    lost session.engine.tree (session.engine.act input).tree

/-- The session after an input, when everything the engine wants done is done. -/
def next (session : Session) (input : Input) : Session :=
  let engine := session.engine.act input
  ⟨engine.takeEffects.2, Mark.hears (session.kept input) engine.marks⟩

/-- The session after inputs one after the other. -/
def run (session : Session) (inputs : List Input) : Session :=
  inputs.foldl next session

/-- The central unit knows what is listened to, and is told what it does not know. -/
structure Informed (session : Session) : Prop where
  /-- While a connection is up, just what is listened to is taken to be listened to. -/
  heard : session.engine.isOnline = true → session.heard = session.engine.tree.listened
  /-- Whatever comes next, all that it has the central unit told is news. -/
  news : ∀ input, Mark.AllNews (session.kept input) (session.engine.act input).marks
  /-- While a client is held a new connection is taken up, and on it the central unit is told of
  each container in the list of those that are listened to, and of nothing else. -/
  connected : ∀ number epoch, session.engine.client = some number →
    (session.engine.process (.connected epoch)).listening.online = some epoch ∧
    (session.engine.process (.connected epoch)).effects =
      .notify session.engine.watcher (.status .connected) ::
        session.engine.tree.listeningContainers.map fun id =>
          .send number epoch (.listeningStart id)
  /-- That list has each container that is listened to. -/
  listed : ∀ id, id ∈ session.engine.tree.listeningContainers ↔ id ∈ session.engine.tree.listened
  /-- That list is in ascending order, and so has no container twice. -/
  ascending : session.engine.tree.listeningContainers.Pairwise (· < ·)

/-- What inputs keep up: the engine is sound, all that it wanted done is done, and the central unit
is in step. -/
structure Steady (session : Session) : Prop where
  sound : session.engine.Sound
  effects : session.engine.effects = []
  inStep : session.engine.listening.InStep session.engine.tree session.heard

theorem Steady.start {settings : Settings} {engine : Engine}
    (h : Engine.ofSettings settings = .ok engine) : (start engine).Steady := by
  obtain ⟨hsound, heffects, honline⟩ := Engine.sound_of_ofSettings h
  refine ⟨hsound, heffects, fun hon => ?_⟩
  cases honline ▸ hon

/-- The engine is sound after an input, all that the central unit was told was news, and it is in
step again. -/
theorem Steady.act (h : session.Steady) (input : Input) :
    (session.engine.act input).Sound ∧
      Mark.AllNews (session.kept input) (session.engine.act input).marks ∧
      (session.engine.act input).listening.InStep (session.engine.act input).tree
        (Mark.hears (session.kept input) (session.engine.act input).marks) := by
  have hbefore : session.engine.marks = [] := congrArg (List.filterMap _) h.effects
  unfold kept
  cases hc : session.engine.connects input with
  | false =>
    obtain ⟨hsound, marks, hmarks, htold⟩ := h.sound.act hc
    obtain ⟨hnews, hstep⟩ := htold session.heard h.inStep
    rw [hmarks, hbefore]
    exact ⟨hsound, hnews, hstep⟩
  | true =>
    obtain ⟨hclient, epoch, rfl⟩ := Engine.connects_eq_true hc
    obtain ⟨hsound, htree, hmarks⟩ := h.sound.connected hclient epoch
    obtain ⟨hnews, hhears⟩ := Listening.news_listeningContainers session.engine.tree
    simp only [Engine.act, if_true, hmarks, htree, hbefore, List.nil_append, Set.empty_sdiff]
    exact ⟨hsound, hnews, fun _ => hhears⟩

theorem Steady.next (h : session.Steady) (input : Input) : (session.next input).Steady := by
  obtain ⟨hsound, -, hstep⟩ := h.act input
  exact ⟨⟨hsound.wellFormed, hsound.client, hsound.listening⟩, rfl, hstep⟩

theorem Steady.run (h : session.Steady) (inputs : List Input) : (session.run inputs).Steady := by
  induction inputs generalizing session with
  | nil => exact h
  | cons input inputs ih => exact ih (h.next input)

theorem Steady.informed (h : session.Steady) : session.Informed where
  heard := h.inStep
  news := fun input => (h.act input).2.1
  connected := by
    intro number epoch hc
    refine ⟨Engine.online_process_connected (hc ▸ rfl) epoch, ?_⟩
    rw [Engine.effects_process_connected hc, h.effects, List.nil_append]
  listed := fun _ => mem_listeningContainers_iff
  ascending := pairwise_listeningContainers

/-- However a session with a new engine goes, the central unit is informed in it. -/
theorem informed_run {settings : Settings} {engine : Engine}
    (h : Engine.ofSettings settings = .ok engine) (inputs : List Input) :
    ((start engine).run inputs).Informed :=
  ((Steady.start h).run inputs).informed

/-- With an engine that connects on start, the root is what the central unit is told of. -/
theorem informed_run_started :
    ∃ settings engine, Engine.ofSettings settings = .ok engine ∧
      let session := (start engine).run [.operation (.start none), .event (.connected 1)]
      (session.engine.isOnline = true ∧ session.engine.tree.listeningContainers = [rootId]) ∧
        session.Informed := by
  have hroot : (Engine.ofSettings { Settings.initial with
      server := ⟨"ohap://unit:18000", true⟩ }).toOption.any (fun engine =>
        let session := (start engine).run [.operation (.start none), .event (.connected 1)]
        session.engine.isOnline = true ∧
          session.engine.tree.listeningContainers = [rootId]) = true := by
    decide +kernel
  cases h : Engine.ofSettings { Settings.initial with server := ⟨"ohap://unit:18000", true⟩ } with
  | error e =>
    rw [h] at hroot
    cases hroot
  | ok engine =>
    rw [h] at hroot
    exact ⟨_, engine, h, of_decide_eq_true hroot, informed_run h _⟩

end Session

end Domotics
