import Domotics.Proofs.Engine.Lifecycle
import Domotics.Proofs.Engine.Relaying
/-!
# Watchers can keep up with the tree

A `Relay` follows a running engine through moves, together with the edits of the tree that they come
to. What a move keeps up is `Relay.Exact`: the queue of the tree is empty, and the same edits, done
to a new tree from which nobody takes events, leave the tree of the engine with just that queued
which was told. So no event is lost or told twice, and whoever watches from the start can keep a
`Mirror` of the tree by what it is told (`faithful_run`).
-/

namespace Domotics

open Domotics.Tree

/-- What an output tells of the tree, and whom. -/
def Output.tree? : Output → Option (Option String × TreeEvent)
  | .told watcher (.treeEvent event) => some (watcher, event)
  | _ => none

namespace Running

open Engine

variable {running : Running} {engine : Engine}

/-- What watchers were told of the tree. -/
def told (running : Running) : List (Option String × TreeEvent) :=
  running.outputs.filterMap Output.tree?

/-- What the engine is given in a move. -/
def input? (running : Running) : Move → Option Input
  | .operation _ operation => some (.operation operation)
  | .next _ => running.inbox.head?.map fun posted => .event posted.2
  | .happening _ | .post _ => none
  | .stray _ event => some (.event event)

/-- The edits that a move comes to. -/
def edits (running : Running) (move : Move) : List Mutation :=
  (running.input? move).elim [] running.engine.edits

/-- Who watches from a move on, if it says so. -/
def Move.watcher? : Move → Option (Option String)
  | .operation _ asked => asked.watcher?
  | _ => none

/-- What a client writes tells nothing of the tree. -/
theorem tree?_outputsOf (number : ClientNumber) (step : ClientStep) :
    (outputsOf number step).filterMap Output.tree? = [] := by
  unfold outputsOf
  rw [List.filterMap_map]
  exact List.filterMap_eq_nil_iff.mpr fun _ _ => rfl

theorem told_perform (running : Running) (meanwhile : List Happening) (effect : Effect) :
    (running.perform meanwhile effect).told = running.told ++ effect.told?.toList := by
  cases effect with
  | notify watcher notice =>
    change (running.outputs ++ [_]).filterMap Output.tree? = _
    rw [List.filterMap_append]
    cases notice <;> rfl
  | startClient number address credentials => exact (List.append_nil _).symm
  | send number epoch message => exact (List.append_nil _).symm
  | stopClient number =>
    simp only [perform]
    split
    · exact (List.append_nil _).symm
    · simp only [told, List.filterMap_append, tree?_outputsOf]
      rfl

theorem told_follow (running : Running) (meanwhile : List Happening) (engine : Engine) :
    (running.follow meanwhile engine).told = running.told ++ engine.told := by
  have hfold : ∀ (effects : List Effect) (running : Running),
      (effects.foldl (perform meanwhile) running).told =
        running.told ++ effects.filterMap Effect.told? := by
    intro effects
    induction effects with
    | nil => exact fun _ => (List.append_nil _).symm
    | cons effect effects ih =>
      intro running
      refine (ih _).trans ?_
      rw [told_perform, List.append_assoc]
      cases h : effect.told? <;> simp [h]
  exact hfold engine.effects _

/-- A move in which the engine is given something goes on with what it makes of it. -/
theorem move_of_input {move : Move} {input : Input} (h : running.input? move = some input) :
    (running.move move).engine = (running.engine.act input).takeEffects.2 ∧
      (running.move move).told = running.told ++ (running.engine.act input).told := by
  have hfollow : ∀ (running : Running) (meanwhile : List Happening) (engine : Engine),
      (running.follow meanwhile engine).engine = engine.takeEffects.2 ∧
        (running.follow meanwhile engine).told = running.told ++ engine.told :=
    fun running meanwhile engine =>
      ⟨engine_foldl_perform meanwhile _ _, running.told_follow meanwhile engine⟩
  cases move with
  | operation meanwhile operation =>
    obtain rfl := Option.some.inj h
    exact hfollow running meanwhile _
  | next meanwhile =>
    obtain ⟨posted, hposted, rfl⟩ := Option.map_eq_some_iff.mp h
    obtain ⟨inbox, hinbox⟩ := List.head?_eq_some_iff.mp hposted
    rw [move_next_of_cons hinbox]
    exact hfollow { running with inbox } meanwhile _
  | happening happening => cases h
  | post event => cases h
  | stray meanwhile event =>
    obtain rfl := Option.some.inj h
    exact hfollow running meanwhile _

/-- A move in which the engine is given nothing tells nothing of the tree. -/
theorem move_of_no_input {move : Move} (h : running.input? move = none) :
    (running.move move).engine = running.engine ∧ (running.move move).told = running.told := by
  cases move with
  | operation meanwhile operation => cases h
  | next meanwhile =>
    rw [move_next_of_nil (List.head?_eq_none_iff.mp (Option.map_eq_none_iff.mp h))]
    exact ⟨rfl, rfl⟩
  | happening happening =>
    simp only [Running.move, happen]
    split
    · exact ⟨rfl, rfl⟩
    · refine ⟨rfl, ?_⟩
      simp only [told, List.filterMap_append, tree?_outputsOf, List.append_nil]
  | post event =>
    simp only [Running.move, post]
    split <;> exact ⟨rfl, rfl⟩
  | stray meanwhile event => cases h

/-- A watcher is only made to watch by what the engine is given. -/
theorem bind_input? (running : Running) (move : Move) :
    (running.input? move).bind Input.watcher? = move.watcher? := by
  cases move with
  | next meanwhile => cases h : running.inbox.head? <;> simp [input?, h] <;> rfl
  | operation meanwhile operation => rfl
  | happening happening => rfl
  | post event => rfl
  | stray meanwhile event => rfl

end Running

/-- A running engine, and the edits that its moves came to. -/
structure Relay where
  running : Running
  edits : List Mutation

namespace Relay

variable {relay : Relay} {watcher : Option String}

/-- Nothing was edited yet. -/
def start (engine : Engine) : Relay :=
  ⟨.ofEngine engine, []⟩

/-- The relay after a move. -/
def next (relay : Relay) (move : Running.Move) : Relay :=
  ⟨relay.running.move move, relay.edits ++ relay.running.edits move⟩

/-- The relay after moves one after the other. -/
def run (relay : Relay) (moves : List Running.Move) : Relay :=
  moves.foldl next relay

/-- All that the engine wanted done is done, its tree has nothing queued, and a new tree to which
the same edits are done has queued just what was told. -/
structure Exact (relay : Relay) : Prop where
  effects : relay.running.engine.effects = []
  emptied : relay.running.engine.tree.events = []
  same : Tree.empty.run relay.edits =
    relay.running.engine.tree.behind (relay.running.told.map (·.2))

theorem Exact.wellFormed (h : relay.Exact) : relay.running.engine.tree.WellFormed := by
  have wf := WellFormed.empty.run relay.edits
  rw [h.same] at wf
  exact wf.of_get?_eq fun _ => rfl

theorem Exact.start {settings : Settings} {engine : Engine}
    (h : Engine.ofSettings settings = .ok engine) (watcher : Option String) :
    (start (engine.watchedBy watcher)).Exact := by
  obtain ⟨unit, hunit, h⟩ := bind_eq_ok_iff.mp h
  obtain rfl := Except.ok.inj h
  obtain ⟨atUrl, hurl, hunit⟩ := bind_eq_ok_iff.mp hunit
  obtain rfl := Except.ok.inj hunit
  obtain ⟨_, -, hurl⟩ := bind_eq_ok_iff.mp hurl
  obtain rfl := Except.ok.inj hurl
  exact ⟨rfl, rfl, rfl⟩

/-- What is told in a move is told to the one who watched before it or to the one who watches from
it on. -/
structure Addressed (relay : Relay) (move : Running.Move) : Prop where
  watcher : (relay.next move).running.engine.watcher =
    move.watcher?.getD relay.running.engine.watcher
  told : ∃ told, (relay.next move).running.told = relay.running.told ++ told ∧
    ∀ t ∈ told, t.1 = relay.running.engine.watcher ∨ move.watcher? = some t.1

theorem Exact.next (h : relay.Exact) (move : Running.Move) :
    (relay.next move).Exact ∧ relay.Addressed move := by
  have hto := relay.running.bind_input? move
  cases hinput : relay.running.input? move with
  | none =>
    obtain ⟨hengine, htold⟩ := Running.move_of_no_input hinput
    rw [hinput, Option.bind_none] at hto
    have hedits : relay.running.edits move = [] := by
      simp only [Running.edits, hinput, Option.elim_none]
    refine ⟨⟨?_, ?_, ?_⟩, ?_, [], ?_, nofun⟩
    · exact (congrArg Engine.effects hengine).trans h.effects
    · exact (congrArg (·.tree.events) hengine).trans h.emptied
    · simp only [Relay.next, hengine, htold, hedits, List.append_nil, h.same]
    · rw [← hto]
      exact congrArg Engine.watcher hengine
    · exact htold.trans (List.append_nil _).symm
  | some input =>
    obtain ⟨hengine, htold⟩ := Running.move_of_input hinput
    rw [hinput, Option.bind_some] at hto
    obtain ⟨hwatcher, ⟨told, hmore, hrun, hall⟩, hemptied⟩ := Engine.answers_act h.wellFormed input
    rw [hto] at hwatcher hall
    have hnone : relay.running.engine.told = [] := congrArg (List.filterMap _) h.effects
    rw [hnone, List.nil_append] at hmore
    rw [hmore] at htold
    have hedits : relay.running.edits move = relay.running.engine.edits input := by
      simp only [Running.edits, hinput, Option.elim_some]
    refine ⟨⟨?_, ?_, ?_⟩, ?_, told, htold, hall⟩
    · exact congrArg Engine.effects hengine
    · exact (congrArg (·.tree.events) hengine).trans (hemptied h.emptied)
    · simp only [Relay.next, hengine, htold, hedits, run_append, h.same, run_behind, hrun,
        behind_behind, List.map_append]
      rfl
    · exact (congrArg Engine.watcher hengine).trans hwatcher

theorem Exact.run (h : relay.Exact) (moves : List Running.Move) : (relay.run moves).Exact := by
  induction moves generalizing relay with
  | nil => exact h
  | cons move moves ih => exact ih (h.next move).1

/-- While nobody else is made to watch, everything is told to the one who watches. -/
theorem Exact.told_run (h : relay.Exact) {moves : List Running.Move}
    (watches : relay.running.engine.watcher = watcher)
    (told : ∀ t ∈ relay.running.told, t.1 = watcher)
    (alone : ∀ move ∈ moves, ∀ other, move.watcher? = some other → other = watcher) :
    ∀ t ∈ (relay.run moves).running.told, t.1 = watcher := by
  induction moves generalizing relay with
  | nil => exact told
  | cons move moves ih =>
    obtain ⟨hnext, hwatcher, more, hmore, hto⟩ := h.next move
    have hhere := alone move List.mem_cons_self
    refine ih hnext ?_ ?_ fun move' hmem => alone move' (List.mem_cons_of_mem _ hmem)
    · rw [hwatcher, watches]
      cases hother : move.watcher? with
      | none => rfl
      | some other => exact hhere other hother
    · intro t ht
      rw [hmore] at ht
      rcases List.mem_append.mp ht with ht | ht
      · exact told t ht
      · rcases hto t ht with heq | heq
        · exact heq.trans watches
        · exact hhere _ heq

/-- Whatever is done to a new tree, whoever is told its events can keep its lists of children: what
is added stands in no list yet, what is removed stands in the list it is removed from, and in the
end the lists are those of the tree.

However it goes on with a new engine, whatever moves were made, and whether or not they succeeded,
nothing is left in the queue of its tree; what was told is just what the edits queue that the moves
came to, each event once and in order, so the lists can be kept by it; each event was told to the
one who watched when it came up; and while nobody else is made to watch, this is the one who watched
from the start. -/
theorem faithful_run :
    (∀ mutations : List Mutation, Mirror.blank.Replay (Tree.empty.run mutations).events
      (Tree.empty.run mutations).childLists) ∧
    ∀ (settings : Settings) (engine : Engine), Engine.ofSettings settings = .ok engine →
      ∀ (watcher : Option String) (moves : List Running.Move),
        let relay := (start (engine.watchedBy watcher)).run moves
        let events := relay.running.told.map (·.2)
        relay.running.engine.tree.events = [] ∧
        Tree.empty.run relay.edits = relay.running.engine.tree.behind events ∧
        Mirror.blank.Replay events relay.running.engine.tree.childLists ∧
        (∀ move, relay.Addressed move) ∧
        ((∀ move ∈ moves, ∀ other, move.watcher? = some other → other = watcher) →
          ∀ t ∈ relay.running.told, t.1 = watcher) := by
  refine ⟨replay_run, fun settings engine h watcher moves => ?_⟩
  have hstart := Exact.start h watcher
  have hexact := hstart.run moves
  refine ⟨hexact.emptied, hexact.same, ?_, fun move => (hexact.next move).2,
    hstart.told_run rfl nofun⟩
  have hreplay := replay_run ((start (engine.watchedBy watcher)).run moves).edits
  rw [hexact.same, events_behind, hexact.emptied, List.append_nil] at hreplay
  exact hreplay

/-- With an engine that connects on start, the watcher is told of a room that is announced. -/
theorem faithful_run_announced :
    ∃ settings engine, Engine.ofSettings settings = .ok engine ∧
      let moves : List Running.Move :=
        [.operation [] (.start (some "display")), .stray [] (.connected 1),
          .stray [] (.message 1 (.container ⟨1, rootId, "Kitchen", "", false⟩))]
      let relay := (start (engine.watchedBy (some "display"))).run moves
      relay.running.told = [(some "display", .listeningChanged rootId true),
          (some "display", .itemAdded rootId 1)] ∧
        Mirror.blank.Replay (relay.running.told.map (·.2))
          relay.running.engine.tree.childLists := by
  have htold : (Engine.ofSettings { Settings.initial with
      server := ⟨"ohap://unit:18000", true⟩ }).toOption.any (fun engine =>
        ((start (engine.watchedBy (some "display"))).run
          [.operation [] (.start (some "display")), .stray [] (.connected 1),
            .stray [] (.message 1 (.container ⟨1, rootId, "Kitchen", "", false⟩))]).running.told =
          [(some "display", .listeningChanged rootId true),
            (some "display", .itemAdded rootId 1)]) = true := by
    decide +kernel
  obtain ⟨engine, h, htold⟩ := exists_ok_of_any htold
  exact ⟨_, engine, h, of_decide_eq_true htold, (faithful_run.2 _ engine h _ _).2.2.1⟩

end Relay

end Domotics
