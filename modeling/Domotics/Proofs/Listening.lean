import Domotics.Dispatch
import Domotics.Proofs.Tree.Listened
/-!
# Listening keeps the central unit informed

While a connection is up, what the central unit was told on it (`hears`) is what is listened to, and
it is told nothing twice (`AllNews`). `Tells` says this of two states and what was told in between,
`Follows` adds what the actions in between do to the client, and each operation of `Listening` is
shown to follow from a sound state to a sound one.

A state is sound if the client runs exactly while something is listened to, if there is no
connection without a client, and if exactly the containers that are listened to wait while there is
no connection.
-/

namespace Domotics

/-! ## Marks -/

/-- What the central unit is told about listening. -/
inductive Mark where
  | started (id : ItemId)
  | stopped (id : ItemId)
deriving DecidableEq

/-- What a message tells the central unit about listening. -/
def Message.mark? : Message → Option Mark
  | .listeningStart id => some (.started id)
  | .listeningStop id => some (.stopped id)
  | _ => none

namespace Mark

/-- What the central unit takes to be listened to after it was told one thing more. -/
def hear (heard : Set ItemId) : Mark → Set ItemId
  | started id => insert id heard
  | stopped id => heard \ {id}

/-- What the central unit is told is new to it. -/
def IsNews (heard : Set ItemId) : Mark → Prop
  | started id => id ∉ heard
  | stopped id => id ∈ heard

/-- What the central unit takes to be listened to after it was told some things. -/
def hears (heard : Set ItemId) (marks : List Mark) : Set ItemId :=
  marks.foldl hear heard

/-- Everything is new to the central unit when it is told. -/
def AllNews : Set ItemId → List Mark → Prop
  | _, [] => True
  | heard, mark :: marks => mark.IsNews heard ∧ AllNews (mark.hear heard) marks

theorem hears_append (heard : Set ItemId) (first more : List Mark) :
    hears heard (first ++ more) = hears (hears heard first) more :=
  List.foldl_append

theorem allNews_append : ∀ {heard : Set ItemId} {first more : List Mark},
    AllNews heard (first ++ more) ↔ AllNews heard first ∧ AllNews (hears heard first) more
  | heard, [], more => (and_iff_right trivial).symm
  | heard, mark :: first, more => by
    rw [List.cons_append, AllNews, AllNews, allNews_append, and_assoc]
    rfl

/-- To be told of different containers that are not listened to yet is news. -/
theorem allNews_map_started : ∀ {ids : List ItemId} {heard : Set ItemId}, ids.Nodup →
    (∀ id ∈ ids, id ∉ heard) →
      AllNews heard (ids.map started) ∧
        ∀ id, id ∈ hears heard (ids.map started) ↔ id ∈ heard ∨ id ∈ ids
  | [], heard, _, _ => ⟨trivial, fun id => by simp [hears]⟩
  | id :: ids, heard, hnodup, hfresh => by
    obtain ⟨hid, hids⟩ := List.nodup_cons.mp hnodup
    have hfresh' : ∀ x ∈ ids, x ∉ insert id heard := by
      rintro x hx (rfl | hx')
      · exact hid hx
      · exact hfresh x (List.mem_cons_of_mem id hx) hx'
    obtain ⟨hnews, hhears⟩ := allNews_map_started hids hfresh'
    refine ⟨⟨hfresh id List.mem_cons_self, hnews⟩, fun x => (hhears x).trans ?_⟩
    rw [Set.mem_insert_iff, List.mem_cons]
    tauto

end Mark

/-! ## Actions -/

namespace Action

/-- What an action tells the central unit about listening, if there is a client to tell it. -/
def mark? : Action → Option Mark
  | send _ message => message.mark?
  | _ => none

/-- Whether there is a client after an action. -/
def runs (running : Bool) : Action → Bool
  | startClient => true
  | stopClient => false
  | send _ _ => running

/-- What the central unit is told about listening by actions one after the other. -/
def told : Bool → List Action → List Mark
  | _, [] => []
  | running, action :: actions =>
    (if running then action.mark?.toList else []) ++ told (action.runs running) actions

theorem told_append : ∀ {running : Bool} {first more : List Action},
    told running (first ++ more) = told running first ++ told (first.foldl runs running) more
  | _, [], _ => rfl
  | _, _ :: _, _ => by
    rw [List.cons_append, told, told_append, told, List.append_assoc]
    rfl

end Action

namespace Listening

open Domotics.Tree Mark

variable {l l' l'' : Listening} {tree tree' tree'' : Tree} {id : ItemId} {outcome : Outcome}

/-! ## Sound states -/

/-- There is no connection without a client, nothing waits while there is a connection, and exactly
the containers listened to wait while there is none. -/
structure Aligned (l : Listening) (tree : Tree) : Prop where
  online : l.online.isSome = true → l.clientRunning = true
  waiting : l.online.isSome = true → l.pending = []
  pending : l.online = none → l.pending.Nodup ∧ ∀ id, id ∈ l.pending ↔ id ∈ tree.listened

/-- The client runs exactly while something is listened to, and all else is aligned. -/
structure Sound (l : Listening) (tree : Tree) : Prop extends Aligned l tree where
  running : l.clientRunning = true ↔ tree.listened.Nonempty

theorem count_pos_iff : 0 < count tree ↔ tree.listened.Nonempty := by
  unfold count
  rw [List.length_pos_iff_exists_mem]
  exact exists_congr fun _ => mem_listeningContainers_iff

theorem reconcile_of_nonempty (h : tree.listened.Nonempty) :
    l.reconcile tree =
      (if l.clientRunning then [] else [.startClient], { l with clientRunning := true }) := by
  have hpos := count_pos_iff.mpr h
  obtain ⟨online, pending, _ | _⟩ := l <;> simp [reconcile, hpos, hpos.ne']

theorem reconcile_of_empty (h : tree.listened = ∅) :
    l.reconcile tree =
      if l.clientRunning then ([.stopClient], ⟨none, [], false⟩) else ([], l) := by
  have hzero : count tree = 0 := by
    have := mt count_pos_iff.mp (Set.not_nonempty_iff_eq_empty.mpr h)
    omega
  obtain ⟨online, pending, _ | _⟩ := l <;> simp [reconcile, hzero]

/-- Whatever the client did, reconciling makes it run exactly while something is listened to. -/
theorem Aligned.reconcile (h : l.Aligned tree) : (l.reconcile tree).2.Sound tree := by
  rcases tree.listened.eq_empty_or_nonempty with hempty | hsome
  · rw [reconcile_of_empty hempty]
    cases hr : l.clientRunning with
    | false =>
      rw [if_neg Bool.false_ne_true]
      exact ⟨h, by rw [hr, hempty]; simp⟩
    | true =>
      rw [if_pos rfl]
      refine ⟨⟨fun h => (nomatch h), fun h => (nomatch h), fun _ => ⟨List.nodup_nil, fun id => ?_⟩⟩,
        ?_⟩
      · rw [hempty]
        simp
      · rw [hempty]
        simp
  · rw [reconcile_of_nonempty hsome]
    exact ⟨⟨fun _ => rfl, h.waiting, h.pending⟩, ⟨fun _ => hsome, fun _ => rfl⟩⟩

/-! ## What is told between two states -/

/-- While there is a connection, the central unit takes just that to be listened to which is. -/
def InStep (l : Listening) (tree : Tree) (heard : Set ItemId) : Prop :=
  l.online.isSome = true → heard = tree.listened

/-- Between two states, the central unit is told what keeps it in step, and nothing that it knows.
It forgets by itself what is lost. -/
def Tells (l : Listening) (tree : Tree) (l' : Listening) (tree' : Tree) (marks : List Mark) :
    Prop :=
  ∀ heard, l.InStep tree heard →
    AllNews (heard \ lost tree tree') marks ∧
      l'.InStep tree' (hears (heard \ lost tree tree') marks)

/-- Nothing is told if listening goes on as before. -/
theorem tells_nil (online : l'.online.isSome = true → l.online.isSome = true)
    (listened : tree'.listened = tree.listened \ lost tree tree') : Tells l tree l' tree' [] := by
  refine fun heard h => ⟨trivial, fun hon => ?_⟩
  rw [listened, ← h (online hon)]
  rfl

theorem Tells.trans {marks marks' : List Mark} (h : Tells l tree l' tree' marks)
    (h' : Tells l' tree' l'' tree'' marks') (kinds : ∀ x, tree''.kind? x = tree'.kind? x) :
    Tells l tree l'' tree'' (marks ++ marks') := by
  intro heard hstep
  have hlost : lost tree tree'' = lost tree tree' := by
    unfold lost
    simp only [kinds]
  obtain ⟨hnews, hthen⟩ := h heard hstep
  obtain ⟨hnews', hfinally⟩ := h' _ hthen
  rw [lost_eq_empty kinds, Set.sdiff_empty] at hnews' hfinally
  rw [hlost, hears_append]
  exact ⟨allNews_append.mpr ⟨hnews, hnews'⟩, hfinally⟩

theorem Tells.congr {marks : List Mark} (h : Tells l tree l' tree' marks)
    (same : AllAlike tree' tree'') : Tells l tree l' tree'' marks := by
  have hnil : Tells l' tree' l' tree'' [] := tells_nil (fun hon => hon) same.prunes.listened_eq
  have := h.trans hnil fun x => (same x).1
  rwa [List.append_nil] at this

/-- Without a connection before, it does not matter what the central unit took to be listened to. -/
theorem Tells.of_offline {l₀ : Listening} {marks : List Mark} (h : Tells l tree l' tree' marks)
    (offline : l.online = none) : Tells l₀ tree l' tree' marks :=
  fun heard _ => h heard fun hon => by rw [offline] at hon; cases hon

/-- Nothing is told, and nothing need be, if there is no connection afterwards. -/
theorem tells_nil_of_offline (offline : l'.online = none) : Tells l tree l' tree' [] :=
  fun _ _ => ⟨trivial, fun hon => by rw [offline] at hon; cases hon⟩

/-- If nothing is lost, only what is told while there is a connection matters. -/
theorem tells_of_kinds {marks : List Mark} (kinds : ∀ x, tree'.kind? x = tree.kind? x)
    (online : l.online.isSome = true) (news : AllNews tree.listened marks)
    (hears : l'.online.isSome = true → hears tree.listened marks = tree'.listened) :
    Tells l tree l' tree' marks := by
  intro heard hstep
  rw [lost_eq_empty kinds, Set.sdiff_empty, hstep online]
  exact ⟨news, hears⟩

/-- An operation leads from a state to a sound one: its actions let the client run as the new state
says, and tell the central unit what keeps it in step. -/
structure Follows (l : Listening) (tree : Tree) (outcome : Outcome) : Prop where
  sound : outcome.listening.Sound outcome.tree
  runs : outcome.actions.foldl Action.runs l.clientRunning = outcome.listening.clientRunning
  told : Tells l tree outcome.listening outcome.tree (Action.told l.clientRunning outcome.actions)

/-- Nothing is done about listening. -/
theorem Sound.follows (h : l.Sound tree) : l.Follows tree ⟨tree, l, []⟩ :=
  ⟨h, rfl, tells_nil (fun hon => hon) (AllAlike.refl tree).prunes.listened_eq⟩

/-- Of a tree, soundness depends only on what is listened to. -/
theorem Sound.of_listened_eq (h : l.Sound tree) (same : tree'.listened = tree.listened) :
    l.Sound tree' := by
  refine ⟨⟨h.online, h.waiting, ?_⟩, ?_⟩
  · rw [same]
    exact h.pending
  · rw [same]
    exact h.running

/-- What is listened to stays the same, and so nothing is done about it. -/
theorem Sound.follows_of_allAlike (h : l.Sound tree) (same : AllAlike tree tree') :
    l.Follows tree ⟨tree', l, []⟩ :=
  ⟨h.of_listened_eq same.listened_eq, rfl, tells_nil (fun hon => hon) same.prunes.listened_eq⟩

theorem Follows.trans {first second : Outcome} (h : l.Follows tree first)
    (h' : first.listening.Follows first.tree second)
    (kinds : ∀ x, second.tree.kind? x = first.tree.kind? x) :
    l.Follows tree ⟨second.tree, second.listening, first.actions ++ second.actions⟩ where
  sound := h'.sound
  runs := by
    rw [List.foldl_append, h.runs, h'.runs]
  told := by
    rw [Action.told_append, h.runs]
    exact h.told.trans h'.told kinds

/-! ## Reconciling -/

/-- Reconciling lets the client run as the new state says. -/
theorem runs_reconcile (l : Listening) (tree : Tree) :
    (l.reconcile tree).1.foldl Action.runs l.clientRunning =
      (l.reconcile tree).2.clientRunning := by
  unfold reconcile
  split
  · rfl
  · split <;> rfl

/-- Reconciling tells the central unit nothing. -/
theorem told_reconcile (l : Listening) (tree : Tree) :
    Action.told l.clientRunning (l.reconcile tree).1 = [] := by
  unfold reconcile
  split
  · simp [Action.told, Action.mark?]
  · split
    · simp [Action.told, Action.mark?]
    · rfl

/-- Reconciling makes no connection. -/
theorem online_of_reconcile (h : (l.reconcile tree).2.online.isSome = true) :
    l.online.isSome = true := by
  unfold reconcile at h
  split at h
  · exact h
  · split at h
    · cases h
    · exact h

/-! ## Operations -/

theorem exists_setListening_of_start (h : l.start tree id = .ok outcome) :
    ∃ changed, tree.setListening id true = .ok (changed, outcome.tree) := by
  obtain ⟨⟨changed, tree'⟩, hset, hrest⟩ := bind_eq_ok_iff.mp h
  cases changed with
  | false =>
    obtain rfl := Except.ok.inj hrest
    exact ⟨false, setListening_eq_ok_false hset ▸ hset⟩
  | true =>
    refine ⟨true, hset.trans ?_⟩
    simp only [Bool.not_true, Bool.false_eq_true, if_false] at hrest
    split at hrest <;> cases hrest <;> rfl

theorem exists_setListening_of_stop (h : l.stop tree id = .ok outcome) :
    ∃ changed, tree.setListening id false = .ok (changed, outcome.tree) := by
  obtain ⟨⟨changed, tree'⟩, hset, hrest⟩ := bind_eq_ok_iff.mp h
  cases changed with
  | false =>
    obtain rfl := Except.ok.inj hrest
    exact ⟨false, setListening_eq_ok_false hset ▸ hset⟩
  | true =>
    obtain rfl := Except.ok.inj hrest
    exact ⟨true, hset⟩

theorem Sound.start (h : l.Sound tree) (hstart : l.start tree id = .ok outcome) :
    l.Follows tree outcome ∧ ∀ x, outcome.tree.kind? x = tree.kind? x := by
  obtain ⟨⟨changed, tree'⟩, hset, hrest⟩ := bind_eq_ok_iff.mp hstart
  cases changed with
  | false =>
    obtain rfl := Except.ok.inj hrest
    exact ⟨h.follows, fun _ => rfl⟩
  | true =>
    obtain ⟨hkinds, hfresh, hlistened⟩ := setListening_true_eq_ok hset
    have hsome : tree'.listened.Nonempty := hlistened ▸ Set.insert_nonempty id _
    simp only [reconcile_of_nonempty hsome, Bool.not_true, Bool.false_eq_true, if_false] at hrest
    cases hon : l.online with
    | none =>
      rw [hon] at hrest
      obtain rfl := Except.ok.inj hrest
      obtain ⟨hnodup, hpending⟩ := h.pending hon
      refine ⟨⟨⟨⟨fun _ => rfl, fun h => (nomatch h), fun _ => ⟨?_, fun x => ?_⟩⟩,
        fun _ => hsome, fun _ => rfl⟩, ?_, ?_⟩, hkinds⟩
      · refine List.nodup_append.mpr ⟨hnodup, List.nodup_singleton id, ?_⟩
        rintro x hx y hy rfl
        rw [List.mem_singleton.mp hy, hpending] at hx
        exact hfresh hx
      · rw [hlistened, Set.mem_insert_iff, List.mem_append, List.mem_singleton, hpending, or_comm]
      · cases l.clientRunning <;> rfl
      · have hsilent : Action.told l.clientRunning
            (if l.clientRunning = true then [] else [.startClient]) = [] := by
          cases l.clientRunning <;> rfl
        rw [hsilent]
        exact tells_nil_of_offline rfl
    | some epoch =>
      have honline : l.online.isSome = true := by rw [hon]; rfl
      have hrunning := h.online honline
      rw [hon, hrunning] at hrest
      obtain rfl := Except.ok.inj hrest
      refine ⟨⟨⟨⟨fun _ => rfl, fun _ => h.waiting honline, fun h => (nomatch h)⟩,
        fun _ => hsome, fun _ => rfl⟩, ?_, ?_⟩, hkinds⟩
      · rw [hrunning]
        rfl
      · rw [hrunning]
        exact tells_of_kinds hkinds honline ⟨hfresh, trivial⟩ fun _ => hlistened.symm

/-- When a container is not listened to any more, the central unit is told while there is a
connection, before the client may be stopped. -/
theorem Aligned.reconcile_after_stop (h : l'.Aligned tree') (online : l'.online = l.online)
    (same : l'.clientRunning = l.clientRunning) (running : l.clientRunning = true)
    (hmem : id ∈ tree.listened) (kinds : ∀ x, tree'.kind? x = tree.kind? x)
    (listened : tree'.listened = tree.listened \ {id}) :
    l.Follows tree ⟨tree', (l'.reconcile tree').2,
      (match l.online with
        | some epoch => [.send epoch (.listeningStop id)]
        | none => []) ++ (l'.reconcile tree').1⟩ := by
  have hruns := runs_reconcile l' tree'
  have htold := told_reconcile l' tree'
  rw [same] at hruns htold
  cases hon : l.online with
  | none =>
    refine ⟨h.reconcile, hruns, ?_⟩
    have hoff : (l'.reconcile tree').2.online = none := by
      refine Option.not_isSome_iff_eq_none.mp fun hsome => ?_
      have := online_of_reconcile hsome
      rw [online, hon] at this
      cases this
    rw [List.nil_append, htold]
    exact tells_nil_of_offline hoff
  | some epoch =>
    refine ⟨h.reconcile, hruns, ?_⟩
    rw [running] at htold ⊢
    change Tells l tree _ tree' ([.stopped id] ++ Action.told true (l'.reconcile tree').1)
    rw [htold, List.append_nil]
    exact tells_of_kinds kinds (by rw [hon]; rfl) ⟨hmem, trivial⟩ fun _ => listened.symm

theorem Sound.stop (h : l.Sound tree) (hstop : l.stop tree id = .ok outcome) :
    l.Follows tree outcome ∧ ∀ x, outcome.tree.kind? x = tree.kind? x := by
  obtain ⟨⟨changed, tree'⟩, hset, hrest⟩ := bind_eq_ok_iff.mp hstop
  cases changed with
  | false =>
    obtain rfl := Except.ok.inj hrest
    exact ⟨h.follows, fun _ => rfl⟩
  | true =>
    obtain ⟨hkinds, hmem, hlistened⟩ := setListening_false_eq_ok hset
    have hrunning : l.clientRunning = true := h.running.mpr ⟨id, hmem⟩
    have haligned : Aligned { l with pending := l.pending.filter (· ≠ id) } tree' := by
      refine ⟨h.online, fun hon => ?_, fun hoff => ?_⟩
      · rw [h.waiting hon]
        rfl
      · obtain ⟨hnodup, hpending⟩ := h.pending hoff
        refine ⟨hnodup.filter _, fun x => ?_⟩
        rw [hlistened, List.mem_filter, hpending, Set.mem_sdiff, Set.mem_singleton_iff]
        simp
    simp only [Bool.not_true, Bool.false_eq_true, if_false] at hrest
    obtain rfl := Except.ok.inj hrest
    exact ⟨haligned.reconcile_after_stop rfl rfl hrunning hmem hkinds hlistened, hkinds⟩

/-- After stopping, everything else is listened to that was before. -/
theorem listened_of_stop (h : l.stop tree id = .ok outcome) :
    outcome.tree.listened = tree.listened \ {id} := by
  obtain ⟨changed, hset⟩ := exists_setListening_of_stop h
  cases changed with
  | false =>
    have hid : id ∉ tree.listened := not_mem_listened_of_setListening hset fun _ h => nomatch h
    rw [setListening_eq_ok_false hset]
    exact (Set.sdiff_singleton_eq_self hid).symm
  | true => exact (setListening_false_eq_ok hset).2.2

/-- What cannot be stopped is not listened to. -/
theorem not_mem_listened_of_stop {e : Error} (h : l.stop tree id = .error e) :
    id ∉ tree.listened := by
  cases hset : tree.setListening id false with
  | error _ => exact not_mem_listened_of_setListening hset fun _ h => nomatch h
  | ok changed =>
    unfold Listening.stop at h
    rw [hset] at h
    obtain ⟨_ | _, tree'⟩ := changed <;> cases h

/-- Items left the tree; what was waiting and is still there is what waits. -/
theorem Aligned.itemsRemoved (h : l.Aligned tree)
    (listened : tree'.listened = tree.listened \ lost tree tree')
    (waiting : l.online = none →
      ∀ x, x ∈ tree'.listened ↔ x ∈ tree.listened ∧ tree'.contains x = true) :
    l.Follows tree ⟨tree', (l.itemsRemoved tree').2, (l.itemsRemoved tree').1⟩ := by
  have haligned : Aligned { l with pending := l.pending.filter tree'.contains } tree' := by
    refine ⟨h.online, fun hon => ?_, fun hoff => ?_⟩
    · rw [h.waiting hon]
      rfl
    · obtain ⟨hnodup, hpending⟩ := h.pending hoff
      refine ⟨hnodup.filter _, fun x => ?_⟩
      rw [List.mem_filter, hpending, waiting hoff]
  have htold : Action.told l.clientRunning (l.itemsRemoved tree').1 = [] :=
    told_reconcile { l with pending := l.pending.filter tree'.contains } tree'
  refine ⟨haligned.reconcile,
    runs_reconcile { l with pending := l.pending.filter tree'.contains } tree', ?_⟩
  rw [htold]
  exact tells_nil online_of_reconcile listened

/-- Connections let the client run on, and all that is told on a new one is what is listened to. -/
theorem told_connected (l : Listening) (tree : Tree) (epoch : Epoch) :
    (l.connected tree epoch).1.foldl Action.runs true = true ∧
      Action.told true (l.connected tree epoch).1 = tree.listeningContainers.map .started := by
  unfold Listening.connected
  induction tree.listeningContainers with
  | nil => exact ⟨rfl, rfl⟩
  | cons id ids ih => exact ⟨ih.1, congrArg (Mark.started id :: ·) ih.2⟩

/-- Who knows nothing is told once of each container that is listened to, and then knows just what
is listened to. -/
theorem news_listeningContainers (tree : Tree) :
    AllNews ∅ (tree.listeningContainers.map .started) ∧
      hears ∅ (tree.listeningContainers.map .started) = tree.listened := by
  have hfresh : ∀ id ∈ tree.listeningContainers, id ∉ (∅ : Set ItemId) :=
    fun id _ => Set.notMem_empty id
  obtain ⟨hnews, hhears⟩ := allNews_map_started tree.nodup_listeningContainers hfresh
  refine ⟨hnews, ?_⟩
  ext x
  rw [hhears, mem_listeningContainers_iff]
  exact or_iff_right (Set.notMem_empty x)

theorem Sound.connected (h : l.Sound tree) (hrunning : l.clientRunning = true) (epoch : Epoch) :
    (l.connected tree epoch).2.Sound tree :=
  ⟨⟨fun _ => hrunning, fun _ => rfl, fun h => (nomatch h)⟩, h.running⟩

/-- Without a connection, everything listened to waits for the next one. -/
theorem aligned_of_pending (tree : Tree) (running : Bool) :
    Aligned ⟨none, tree.listeningContainers, running⟩ tree :=
  ⟨fun h => (nomatch h), fun h => (nomatch h),
    fun _ => ⟨tree.nodup_listeningContainers, fun _ => mem_listeningContainers_iff⟩⟩

theorem Sound.disconnected (h : l.Sound tree) (epoch : Epoch) :
    (l.disconnected tree epoch).Sound tree := by
  unfold Listening.disconnected
  split
  · exact ⟨aligned_of_pending tree _, h.running⟩
  · exact h

end Listening

end Domotics
