import Domotics.Proofs.Engine.Watching
/-!
# Engines at rest

Between two moves nothing is left over from the last one. What was wanted is done, what was edited
is told, and no event waits of a client that is not held any more. `Rested` says this of a running
engine, beside that it is linked with its client, and every move keeps it up (`Rested.run`).

An engine that tells the events of its tree does nothing else (`forwardTreeEvents_eq`). So what an
operation makes of an engine at rest can be written down, and then what the effects make of the
rest.
-/

namespace Domotics

open Domotics.Tree

namespace Engine

variable {engine : Engine}

/-- Of a tree on which one event comes up, that event is told. -/
theorem forwardTreeEvents_note {tree : Tree} (h : tree.events = []) (event : TreeEvent) :
    (engine.withTree (tree.note event)).forwardTreeEvents =
      (engine.withTree tree).notify (.treeEvent event) := by
  obtain ⟨items, events⟩ := tree
  obtain rfl : events = [] := h
  exact forwardTreeEvents_eq _

end Engine

namespace Running

open Engine

variable {running : Running} {engine : Engine}

/-! ## Doing what is wanted -/

/-- Where nothing is wanted, nothing is done. -/
theorem follow_self (h : running.engine.effects = []) (meanwhile : List Happening) :
    running.follow meanwhile running.engine = running := by
  obtain ⟨⟨unit, settings, listening, client, clientsStarted, watcher, journal, nextPing, effects⟩,
    held, inbox, outputs⟩ := running
  obtain rfl : effects = [] := h
  rfl

/-- What comes of an operation is what the engine makes of it, and then doing what that wants. -/
theorem attempt_eq {operation : Operation} {attempt : Attempt Bool}
    (h : running.engine.operate operation = attempt) (meanwhile : List Happening) :
    running.attempt meanwhile operation =
      (attempt.result, running.follow meanwhile attempt.engine) := by
  rw [← h]
  rfl

/-- Telling a watcher of events does nothing else. -/
theorem foldl_perform_newsOf (meanwhile : List Happening) (watcher : Option String)
    (events : List TreeEvent) (running : Running) :
    (newsOf watcher events).foldl (perform meanwhile) running =
      { running with
        outputs := running.outputs ++ events.map fun event => .told watcher (.treeEvent event) } := by
  induction events generalizing running with
  | nil => simp [newsOf]
  | cons event events ih =>
    rw [newsOf, List.map_cons, List.foldl_cons, ← newsOf, ih]
    simp [perform]

/-- What the client that runs writes from when it is told to stop, if `meanwhile` happens to it
before it notices. -/
def lastWords (running : Running) (meanwhile : List Happening) : List Output :=
  match running.client with
  | none => []
  | some (number, client) => outputsOf number (client.run (meanwhile ++ [.toldToStop]))

/-- No event waits while no client is held. -/
def Cleared (running : Running) : Prop :=
  running.client = none → running.inbox = []

theorem Cleared.perform (h : running.Cleared) (meanwhile : List Happening) (effect : Effect) :
    (running.perform meanwhile effect).Cleared := by
  cases effect with
  | notify watcher notice => exact h
  | startClient number address credentials => exact nofun
  | send number epoch message => exact fun hnone => h (Option.map_eq_none_iff.mp hnone)
  | stopClient number =>
    simp only [Running.perform]
    split
    · exact h
    · exact fun _ => rfl

theorem Cleared.follow (h : running.Cleared) (meanwhile : List Happening) (engine : Engine) :
    (running.follow meanwhile engine).Cleared := by
  have hfold : ∀ (effects : List Effect) {running : Running}, running.Cleared →
      (effects.foldl (Running.perform meanwhile) running).Cleared := by
    intro effects
    induction effects with
    | nil => exact id
    | cons effect effects ih => exact fun h => ih (h.perform meanwhile effect)
  exact hfold _ h

theorem Cleared.move (h : running.Cleared) (move : Move) : (running.move move).Cleared := by
  cases move with
  | operation meanwhile operation => exact h.follow meanwhile _
  | next meanwhile =>
    cases hinbox : running.inbox with
    | nil =>
      rw [move_next_of_nil hinbox]
      exact h
    | cons posted inbox =>
      rw [move_next_of_cons hinbox]
      -- An event waits, so a client is held.
      have htaken : Cleared { running with inbox } :=
        fun hnone => absurd (hinbox.symm.trans (h hnone)) (List.cons_ne_nil _ _)
      exact htaken.follow meanwhile _
  | happening happening =>
    simp only [Running.move, happen]
    split
    · exact h
    · exact fun hnone => absurd hnone (Option.some_ne_none _)
  | post event =>
    simp only [Running.move, post]
    split
    · exact h
    · rename_i hc
      exact fun hnone => absurd (hc.symm.trans hnone) (Option.some_ne_none _)
  | stray meanwhile event => exact h.follow meanwhile _

/-- A client that is told to stop, if there is one, is gone with all that it posted. -/
theorem Cleared.foldl_perform_stopClient (h : running.Cleared) (meanwhile : List Happening) :
    (running.held.toList.map .stopClient).foldl (Running.perform meanwhile) running =
      { running with
        client := none
        inbox := []
        outputs := running.outputs ++ running.lastWords meanwhile } := by
  obtain ⟨engine, client, inbox, outputs⟩ := running
  cases client with
  | none =>
    obtain rfl : inbox = [] := h rfl
    simp [held, lastWords]
  | some client => rfl

/-! ## Moves -/

/-- What is so between two moves. -/
structure Rested (running : Running) : Prop extends Linked running where
  told : running.engine.tree.events = []
  cleared : running.Cleared

theorem Rested.start {settings : Settings} (h : ofSettings settings = .ok engine) :
    (ofEngine engine).Rested where
  toLinked := .start h
  told := by
    obtain ⟨unit, hunit, h⟩ := bind_eq_ok_iff.mp h
    obtain rfl := Except.ok.inj h
    obtain ⟨atUrl, hurl, hunit⟩ := bind_eq_ok_iff.mp hunit
    obtain rfl := Except.ok.inj hunit
    obtain ⟨_, -, hurl⟩ := bind_eq_ok_iff.mp hurl
    obtain rfl := Except.ok.inj hurl
    rfl
  cleared := fun _ => rfl

theorem Rested.move (h : running.Rested) (move : Move) : (running.move move).Rested where
  toLinked := h.toLinked.move move
  told := by
    cases hinput : running.input? move with
    | none =>
      rw [(move_of_no_input hinput).1]
      exact h.told
    | some input =>
      rw [(move_of_input hinput).1]
      exact (answers_act h.sound.wellFormed input).emptied h.told
  cleared := h.cleared.move move

theorem Rested.run (h : running.Rested) (moves : List Move) : (running.run moves).Rested := by
  induction moves generalizing running with
  | nil => exact h
  | cons move moves ih => exact ih (h.move move)

/-- However it goes on with a new engine, it comes to rest after each move. -/
theorem rested_of_ofSettings {settings : Settings} (h : ofSettings settings = .ok engine)
    (moves : List Move) : ((ofEngine engine).run moves).Rested :=
  (Rested.start h).run moves

end Running

end Domotics
