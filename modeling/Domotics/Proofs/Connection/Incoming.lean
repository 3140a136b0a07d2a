import Mathlib.Data.List.Basic
import Domotics.Proofs.Message.Stream
import Domotics.Proofs.Connection.History
/-!
# What is told of the connections

What a client posts follows its connections one after the other. For each there is a block: the
attempts that failed before it, counted from one, that it is up, what everything that arrived on it
is decoded to, and that it was lost (`block`). What is posted is always the beginning of these
blocks. While the client runs it is all that can be told so far (`eventsDue`), and what arrived on a
connection that was lost is told to the end, even if the client is told to stop before it can say
that the connection was lost. `events_run` states this for every history.

The invariants come in two halves. `Ordered` says nothing about what was posted: connections come
one after the other, and the buffer of the present one is what decoding all that arrived on it
leaves. `Told` and `Whole` compare what was posted with the blocks.
-/

namespace Domotics.Client

/-- Whether a connection is up. -/
def isUp (client : Client) : Bool :=
  match client.phase with
  | .online _ => true
  | _ => false

/-- The number of connections that are over. -/
def past (client : Client) : Nat :=
  if client.isUp then client.epoch - 1 else client.epoch

theorem past_le (client : Client) : client.past ≤ client.epoch := by
  unfold past
  split <;> omega

theorem isUp_iff {client : Client} :
    client.isUp = true ↔ ∃ buffer, client.phase = .online buffer := by
  unfold isUp
  cases client.phase <;> simp

namespace Deed

/-- Why an attempt to connect failed, if it came before a connection and after the last one. -/
def refusedBefore? (connection : Epoch) : Deed → Option String
  | refused after reason => if after + 1 = connection then some reason else none
  | _ => none

/-- What arrived on a connection. -/
def readOn (connection : Epoch) : Deed → List UInt8
  | read on data => if on = connection then data else []
  | _ => []

/-- Nothing arrived, and no attempt failed. -/
def Quiet (deed : Deed) : Prop :=
  ∀ connection, deed.refusedBefore? connection = none ∧ deed.readOn connection = []

theorem quiet_of_mem_taking {on : Option Epoch} {messages : List (Epoch × Message)} {deed : Deed}
    (h : deed ∈ taking on messages) : deed.Quiet := by
  obtain ⟨_, _, rfl⟩ := exists_of_mem_taking h
  exact fun _ => ⟨rfl, rfl⟩

theorem quiet_of_mem_leaving {on : Option Epoch} {messages : List (Epoch × Message)} {e : Epoch}
    {deed : Deed} (h : deed ∈ taking on messages ++ [.left e]) : deed.Quiet := by
  rcases List.mem_append.mp h with hd | hd
  · exact quiet_of_mem_taking hd
  · exact fun _ => List.mem_singleton.mp hd ▸ ⟨rfl, rfl⟩

end Deed

/-- Unless an attempt failed or something arrived, nothing is told. -/
theorem Does.quiet_or {client : Client} {deeds : List Deed} {step : ClientStep}
    (does : Does client deeds step) :
    (∀ d ∈ deeds, d.Quiet) ∨ step.client.phase ≠ .ended ∧
      ((∃ reason, deeds = [.refused client.epoch reason]) ∨
        (∃ buffer, client.phase = .online buffer) ∧ ∃ data, deeds = [.read client.epoch data]) := by
  cases does with
  | rest | retry _ | finish _ => exact .inl (List.forall_mem_nil _)
  | give _ _ _ | connect _ | lose _ =>
    exact .inl (List.forall_mem_singleton.mpr fun _ => ⟨rfl, rfl⟩)
  | drop _ | take _ => exact .inl fun _ => Deed.quiet_of_mem_taking
  | fail _ reason => exact .inr ⟨nofun, .inl ⟨reason, rfl⟩⟩
  | read online data => exact .inr ⟨nofun, .inr ⟨⟨_, online⟩, data, rfl⟩⟩
  | leave _ => exact .inl fun _ => Deed.quiet_of_mem_leaving

/-- No connection is lost by what is taken from the queue. -/
theorem lost_notMem_taking {on : Option Epoch} {messages : List (Epoch × Message)} {e : Epoch} :
    .lost e ∉ taking on messages :=
  notMem_taking nofun

/-- No connection is lost by leaving one. -/
theorem lost_notMem_leaving {on : Option Epoch} {messages : List (Epoch × Message)}
    {e connection : Epoch} : .lost e ∉ taking on messages ++ [.left connection] := by
  rw [List.mem_append]
  exact not_or_intro lost_notMem_taking (by simp)

/-- Only a connection that is up is lost. -/
theorem Does.of_lost {client : Client} {deeds : List Deed} {step : ClientStep} {e : Epoch}
    (does : Does client deeds step) (he : .lost e ∈ deeds) :
    (∃ buffer, client.phase = .online buffer) ∧ e = client.epoch ∧ deeds = [.lost e] ∧
      step.client.isUp = false := by
  cases does with
  | rest | retry _ | finish _ => cases he
  | give _ _ _ | connect _ | fail _ _ | read _ _ => cases List.mem_singleton.mp he
  | drop _ | take _ => exact absurd he lost_notMem_taking
  | lose online =>
    obtain rfl := Deed.lost.inj (List.mem_singleton.mp he)
    exact ⟨⟨_, online⟩, rfl, rfl, rfl⟩
  | leave _ => exact absurd he lost_notMem_leaving

/-- What is told of something that was decoded on a connection: the message that it is, or what is
wrong with it. -/
def passedOn (connection : Epoch) (decoded : Except Error Message) : ConnectionEvent :=
  match decoded with
  | .ok message => .message connection message
  | .error e => .protocolError connection e.message

theorem arrival_eq_passedOn (connection : Epoch) : arrival connection = passedOn connection := by
  funext decoded
  cases decoded <;> rfl

namespace History

/-- Why the attempts failed that came before a connection and after the last one. -/
def refusals (history : History) (connection : Epoch) : List String :=
  history.deeds.filterMap (Deed.refusedBefore? connection)

/-- All that arrived on a connection, whatever the sizes of the reads. -/
def bytes (history : History) (connection : Epoch) : List UInt8 :=
  history.deeds.flatMap (Deed.readOn connection)

/-- The attempts that failed before a connection, counted from one. -/
def failures (history : History) (connection : Epoch) : List ConnectionEvent :=
  (history.refusals connection).mapIdx fun i reason => .connectFailed (i + 1) reason

/-- A connection is up, and what arrives on it is decoded and passed on. -/
def presence (history : History) (connection : Epoch) : List ConnectionEvent :=
  .connected connection :: (decodeAll (history.bytes connection)).1.map (passedOn connection)

/-- Everything about a connection that was lost. -/
def block (history : History) (connection : Epoch) : List ConnectionEvent :=
  history.failures connection ++ history.presence connection ++ [.disconnected connection]

/-- Everything about the first connections, if they were all lost. -/
def blocks (history : History) (connections : Nat) : List ConnectionEvent :=
  (List.range' 1 connections).flatMap history.block

/-- Everything up to a connection and what arrived on it, if those before it were lost. -/
def through (history : History) (connection : Epoch) : List ConnectionEvent :=
  history.blocks (connection - 1) ++ history.failures connection ++ history.presence connection

/-- Everything that can be told so far. -/
def eventsDue (history : History) : List ConnectionEvent :=
  let past := history.client.past
  history.blocks past ++ history.failures (past + 1) ++
    if history.client.isUp then history.presence (past + 1) else []

variable {history : History} {deeds : List Deed} {step : ClientStep}

/-! ## What matters for what is told -/

theorem refusals_add {connection : Epoch} : (history.add deeds step).refusals connection =
    history.refusals connection ++ deeds.filterMap (Deed.refusedBefore? connection) :=
  List.filterMap_append

theorem bytes_add {connection : Epoch} : (history.add deeds step).bytes connection =
    history.bytes connection ++ deeds.flatMap (Deed.readOn connection) :=
  List.flatMap_append

theorem refusals_of_quiet (quiet : ∀ d ∈ deeds, d.Quiet) :
    (history.add deeds step).refusals = history.refusals := by
  funext e
  rw [refusals_add, List.filterMap_eq_nil_iff.mpr fun d hd => (quiet d hd e).1, List.append_nil]

theorem bytes_of_quiet (quiet : ∀ d ∈ deeds, d.Quiet) :
    (history.add deeds step).bytes = history.bytes := by
  funext e
  rw [bytes_add, List.flatMap_eq_nil_iff.mpr fun d hd => (quiet d hd e).2, List.append_nil]

/-- Connections come one after the other: nothing has arrived on a connection that is yet to come,
attempts have only failed up to the next one, and only connections that are over were lost. -/
structure Ordered (history : History) : Prop where
  unread : ∀ e, history.client.epoch < e → history.bytes e = []
  untried : ∀ e, history.client.epoch + 1 < e → history.refusals e = []
  attempts : history.client.attempts = (history.refusals (history.client.epoch + 1)).length
  lost : ∀ e, .lost e ∈ history.deeds → 1 ≤ e ∧ e ≤ history.client.past
  online : ∀ buffer, history.client.phase = .online buffer →
    1 ≤ history.client.epoch ∧ history.client.attempts = 0 ∧
      ∃ pieces results, Reading (history.bytes history.client.epoch) pieces results buffer

theorem Ordered.lost_add (h : history.Ordered) (grows : history.client.past ≤ step.client.past)
    (lost : ∀ e, .lost e ∈ deeds → 1 ≤ e ∧ e ≤ step.client.past) :
    ∀ e, .lost e ∈ (history.add deeds step).deeds → 1 ≤ e ∧ e ≤ step.client.past := by
  intro e he
  rcases List.mem_append.mp he with hd | hd
  · obtain ⟨hpos, hle⟩ := h.lost e hd
    exact ⟨hpos, Nat.le_trans hle grows⟩
  · exact lost e hd

theorem Ordered.quiet (h : history.Ordered) (quiet : ∀ d ∈ deeds, d.Quiet)
    (epoch : step.client.epoch = history.client.epoch)
    (attempts : step.client.attempts = history.client.attempts)
    (phase : ∀ buffer, step.client.phase = .online buffer →
      history.client.phase = .online buffer)
    (lost : ∀ e, .lost e ∈ deeds → 1 ≤ e ∧ e ≤ step.client.past) :
    (history.add deeds step).Ordered where
  unread := by
    rw [bytes_of_quiet quiet]
    exact epoch ▸ h.unread
  untried := by
    rw [refusals_of_quiet quiet]
    exact epoch ▸ h.untried
  attempts := by
    rw [refusals_of_quiet quiet]
    change step.client.attempts = (history.refusals (step.client.epoch + 1)).length
    rw [attempts, epoch, h.attempts]
  lost := by
    refine h.lost_add ?_ lost
    have hup : step.client.isUp = true → history.client.isUp = true := by
      simp only [isUp_iff]
      exact fun ⟨buffer, hp⟩ => ⟨buffer, phase buffer hp⟩
    grind [past]
  online := by
    intro buffer hp
    rw [bytes_of_quiet quiet]
    change 1 ≤ step.client.epoch ∧ step.client.attempts = 0 ∧ ∃ pieces results,
      Reading (history.bytes step.client.epoch) pieces results buffer
    rw [epoch, attempts]
    exact h.online buffer (phase buffer hp)

theorem Ordered.connect (h : history.Ordered) (posted : List ConnectionEvent) :
    (history.add [.opened (history.client.epoch + 1)]
      { history.client.connect with posted }).Ordered := by
  have quiet : ∀ d ∈ [Deed.opened (history.client.epoch + 1)], d.Quiet :=
    List.forall_mem_singleton.mpr fun _ => ⟨rfl, rfl⟩
  refine ⟨?_, ?_, ?_, ?_, ?_⟩
  · rw [bytes_of_quiet quiet]
    exact fun e he => h.unread e (Nat.lt_of_succ_lt he)
  · rw [refusals_of_quiet quiet]
    exact fun e he => h.untried e (Nat.lt_of_succ_lt he)
  · rw [refusals_of_quiet quiet]
    exact (congrArg List.length (h.untried _ (Nat.lt_succ_self _))).symm
  · exact h.lost_add (past_le _) (by simp)
  · intro buffer hp
    obtain rfl : [] = buffer := Phase.online.inj hp
    rw [bytes_of_quiet quiet]
    refine ⟨Nat.le_add_left 1 _, rfl, [], [], ?_⟩
    exact (h.unread _ (Nat.lt_succ_self _)).symm ▸ .stop rfl

theorem Ordered.fail (h : history.Ordered) (reason : String) (posted : List ConnectionEvent) :
    (history.add [.refused history.client.epoch reason]
      ⟨{ history.client with phase := .waiting, attempts := history.client.attempts + 1 }, [],
        posted⟩).Ordered := by
  refine ⟨?_, ?_, ?_, ?_, nofun⟩
  · intro e he
    rw [bytes_add, h.unread e he]
    rfl
  · intro e he
    have hne : history.client.epoch + 1 ≠ e := Nat.ne_of_lt he
    rw [refusals_add, h.untried e he]
    simp [Deed.refusedBefore?, hne]
  · rw [refusals_add]
    simp [History.add, Deed.refusedBefore?, h.attempts]
  · exact h.lost_add (past_le _) (by simp)

theorem Ordered.read (h : history.Ordered) {buffer : List UInt8}
    (online : history.client.phase = .online buffer) (data : List UInt8)
    (posted : List ConnectionEvent) :
    (history.add [.read history.client.epoch data]
      ⟨{ history.client with phase := .online (decodeAll (buffer ++ data)).2 }, [],
        posted⟩).Ordered := by
  obtain ⟨hpos, hattempts, pieces, results, hreading⟩ := h.online buffer online
  refine ⟨?_, ?_, ?_, ?_, ?_⟩
  · intro e he
    have hne : history.client.epoch ≠ e := Nat.ne_of_lt he
    rw [bytes_add, h.unread e he]
    simp [Deed.readOn, hne]
  · intro e he
    rw [refusals_add, h.untried e he]
    rfl
  · rw [refusals_add]
    exact h.attempts.trans (congrArg List.length (List.append_nil _).symm)
  · refine h.lost_add (Nat.le_of_eq ?_) (by simp)
    simp [past, isUp, online]
  · intro rest hp
    obtain rfl : (decodeAll (buffer ++ data)).2 = rest := Phase.online.inj hp
    obtain ⟨pieces', results', left, hr⟩ := Reading.exists_of (buffer ++ data)
    have hmore := hreading.append hr
    refine ⟨hpos, hattempts, pieces ++ pieces', results ++ results', ?_⟩
    rw [bytes_add, hr.decodeAll_eq]
    simpa [History.add, Deed.readOn] using hmore

theorem Ordered.add (h : history.Ordered) (does : Does history.client deeds step)
    (posted : List ConnectionEvent) : (history.add deeds { step with posted }).Ordered := by
  cases does with
  | rest => exact h.quiet (List.forall_mem_nil _) rfl rfl (fun _ hp => hp) nofun
  | give running epoch message =>
    exact h.quiet (List.forall_mem_singleton.mpr fun _ => ⟨rfl, rfl⟩) rfl rfl (fun _ hp => hp)
      (by simp)
  | connect connecting => exact h.connect posted
  | fail connecting reason => exact h.fail reason posted
  | retry waiting => exact h.quiet (List.forall_mem_nil _) rfl rfl nofun nofun
  | drop waiting =>
    exact h.quiet (fun _ => Deed.quiet_of_mem_taking) rfl rfl (fun _ hp => hp)
      fun _ hd => absurd hd lost_notMem_taking
  | take online =>
    exact h.quiet (fun _ => Deed.quiet_of_mem_taking) rfl rfl (fun _ hp => hp)
      fun _ hd => absurd hd lost_notMem_taking
  | read online data => exact h.read online data posted
  | lose online =>
    refine h.quiet (List.forall_mem_singleton.mpr fun _ => ⟨rfl, rfl⟩) rfl rfl nofun
      fun e he => ?_
    obtain rfl := Deed.lost.inj (List.mem_singleton.mp he)
    exact ⟨(h.online _ online).1, Nat.le_refl _⟩
  | leave online =>
    exact h.quiet (fun _ => Deed.quiet_of_mem_leaving) rfl rfl nofun
      fun _ hd => absurd hd lost_notMem_leaving
  | finish offline => exact h.quiet (List.forall_mem_nil _) rfl rfl nofun nofun

/-! ## What is told -/

theorem block_congr {history' : History} {e : Epoch}
    (refusals : history'.refusals e = history.refusals e)
    (bytes : history'.bytes e = history.bytes e) : history'.block e = history.block e := by
  unfold block failures presence
  rw [refusals, bytes]

theorem blocks_congr {history' : History} {n : Nat}
    (refusals : ∀ e ≤ n, history'.refusals e = history.refusals e)
    (bytes : ∀ e ≤ n, history'.bytes e = history.bytes e) :
    history'.blocks n = history.blocks n := by
  refine List.flatMap_congr fun e he => ?_
  have hle : e ≤ n := Nat.lt_one_add_iff.mp (List.mem_range'_1.mp he).2
  exact block_congr (refusals e hle) (bytes e hle)

theorem blocks_succ (history : History) (n : Nat) :
    history.blocks (n + 1) = history.blocks n ++ history.block (n + 1) := by
  unfold blocks
  rw [List.range'_concat, List.flatMap_append, List.flatMap_singleton, Nat.one_mul, Nat.add_comm 1]

theorem through_congr {history' : History} {e : Epoch}
    (refusals : ∀ x ≤ e, history'.refusals x = history.refusals x)
    (bytes : ∀ x ≤ e, history'.bytes x = history.bytes x) :
    history'.through e = history.through e := by
  have hblocks : history'.blocks (e - 1) = history.blocks (e - 1) :=
    blocks_congr (fun x hx => refusals x (Nat.le_trans hx (Nat.sub_le e 1)))
      fun x hx => bytes x (Nat.le_trans hx (Nat.sub_le e 1))
  unfold through failures presence
  rw [hblocks, refusals e (Nat.le_refl e), bytes e (Nat.le_refl e)]

theorem failures_of_quiet (quiet : ∀ d ∈ deeds, d.Quiet) :
    (history.add deeds step).failures = history.failures := by
  unfold failures
  rw [refusals_of_quiet quiet]

theorem presence_of_quiet (quiet : ∀ d ∈ deeds, d.Quiet) :
    (history.add deeds step).presence = history.presence := by
  unfold presence
  rw [bytes_of_quiet quiet]

theorem blocks_of_quiet (quiet : ∀ d ∈ deeds, d.Quiet) :
    (history.add deeds step).blocks = history.blocks := by
  funext n
  exact blocks_congr (fun e _ => congrFun (refusals_of_quiet quiet) e)
    fun e _ => congrFun (bytes_of_quiet quiet) e

theorem through_of_quiet (quiet : ∀ d ∈ deeds, d.Quiet) :
    (history.add deeds step).through = history.through := by
  funext e
  exact through_congr (fun x _ => congrFun (refusals_of_quiet quiet) x)
    fun x _ => congrFun (bytes_of_quiet quiet) x

theorem eventsDue_of_quiet (quiet : ∀ d ∈ deeds, d.Quiet)
    (epoch : step.client.epoch = history.client.epoch)
    (up : step.client.isUp = history.client.isUp) :
    (history.add deeds step).eventsDue = history.eventsDue := by
  have hpast : (history.add deeds step).client.past = history.client.past := by
    change step.client.past = _
    rw [past, past, up, epoch]
  have hup : (history.add deeds step).client.isUp = history.client.isUp := up
  unfold eventsDue
  rw [hpast, hup, blocks_of_quiet quiet, failures_of_quiet quiet, presence_of_quiet quiet]

theorem eventsDue_connect (h : history.Ordered) (connecting : history.client.phase = .connecting) :
    (history.add [.opened (history.client.epoch + 1)] history.client.connect).eventsDue =
      history.eventsDue ++ [.connected (history.client.epoch + 1)] := by
  have quiet : ∀ d ∈ [Deed.opened (history.client.epoch + 1)], d.Quiet :=
    List.forall_mem_singleton.mpr fun _ => ⟨rfl, rfl⟩
  have hpresence : history.presence (history.client.epoch + 1) =
      [.connected (history.client.epoch + 1)] := by
    unfold presence
    rw [h.unread _ (Nat.lt_succ_self _)]
    rfl
  have hpast : history.client.past = history.client.epoch := by
    simp [past, isUp, connecting]
  have hdown : history.client.isUp = false := by
    simp [isUp, connecting]
  unfold eventsDue
  rw [blocks_of_quiet quiet, failures_of_quiet quiet, presence_of_quiet quiet, hpast, hdown]
  simp [History.add, Client.connect, past, isUp, hpresence]

theorem eventsDue_fail (h : history.Ordered) (connecting : history.client.phase = .connecting)
    (reason : String) (posted : List ConnectionEvent) :
    (history.add [.refused history.client.epoch reason]
      ⟨{ history.client with phase := .waiting, attempts := history.client.attempts + 1 }, [],
        posted⟩).eventsDue =
      history.eventsDue ++ [.connectFailed (history.client.attempts + 1) reason] := by
  generalize hnext : history.add [.refused history.client.epoch reason] _ = next
  have hepoch : next.client.epoch = history.client.epoch := hnext ▸ rfl
  have hphase : next.client.phase = .waiting := hnext ▸ rfl
  have hbytes : ∀ e, next.bytes e = history.bytes e := by
    intro e
    rw [← hnext, bytes_add]
    exact List.append_nil _
  have hbefore : ∀ e ≤ history.client.epoch, next.refusals e = history.refusals e := by
    intro e he
    have hne : history.client.epoch + 1 ≠ e := Nat.ne_of_gt (Nat.lt_succ_of_le he)
    rw [← hnext, refusals_add]
    simp [Deed.refusedBefore?, hne]
  have hrefusals : next.refusals (history.client.epoch + 1) =
      history.refusals (history.client.epoch + 1) ++ [reason] := by
    rw [← hnext, refusals_add]
    simp [Deed.refusedBefore?]
  simp only [eventsDue, past, isUp, connecting, hphase, hepoch, failures, hrefusals, h.attempts,
    blocks_congr hbefore fun e _ => hbytes e, List.mapIdx_concat, Bool.false_eq_true, if_false,
    List.append_nil, List.append_assoc]

theorem eventsDue_read {buffer : List UInt8} (h : history.Ordered)
    (online : history.client.phase = .online buffer) (data : List UInt8)
    (posted : List ConnectionEvent) :
    (history.add [.read history.client.epoch data]
      ⟨{ history.client with phase := .online (decodeAll (buffer ++ data)).2 }, [],
        posted⟩).eventsDue =
      history.eventsDue ++ (decodeAll (buffer ++ data)).1.map (arrival history.client.epoch) := by
  obtain ⟨hpos, -, pieces, results, hreading⟩ := h.online buffer online
  obtain ⟨pieces', results', left, hr⟩ := Reading.exists_of (buffer ++ data)
  obtain ⟨before, hb⟩ : ∃ before, history.client.epoch = before + 1 :=
    Nat.exists_eq_add_of_le' hpos
  rw [hb] at hreading
  generalize hnext : history.add [.read history.client.epoch data] _ = next
  have hepoch : next.client.epoch = before + 1 := hnext ▸ hb
  have hup : next.client.isUp = true := hnext ▸ rfl
  have hup' : history.client.isUp = true := isUp_iff.mpr ⟨buffer, online⟩
  have hrefusals : ∀ e, next.refusals e = history.refusals e := by
    intro e
    rw [← hnext, refusals_add]
    exact List.append_nil _
  have hbefore : ∀ e ≤ before, next.bytes e = history.bytes e := by
    intro e he
    have hne : before + 1 ≠ e := Nat.ne_of_gt (Nat.lt_succ_of_le he)
    rw [← hnext, bytes_add]
    simp [Deed.readOn, hb, hne]
  have hbytes : next.bytes (before + 1) = history.bytes (before + 1) ++ data := by
    rw [← hnext, bytes_add]
    simp [Deed.readOn, hb]
  simp only [eventsDue, past, hup, hup', hepoch, hb, failures, presence, hrefusals, hbytes,
    blocks_congr (fun e _ => hrefusals e) hbefore, Nat.add_sub_cancel, if_true,
    (hreading.append hr).decodeAll_eq, hreading.decodeAll_eq, hr.decodeAll_eq, arrival_eq_passedOn,
    List.map_append, List.append_assoc, List.cons_append]

theorem eventsDue_lose {buffer : List UInt8} (h : history.Ordered)
    (online : history.client.phase = .online buffer) (posted : List ConnectionEvent) :
    (history.add [.lost history.client.epoch]
      ⟨{ history.client with phase := .connecting }, [], posted⟩).eventsDue =
      history.eventsDue ++ [.disconnected history.client.epoch] := by
  have quiet : ∀ d ∈ [Deed.lost history.client.epoch], d.Quiet :=
    List.forall_mem_singleton.mpr fun _ => ⟨rfl, rfl⟩
  obtain ⟨hpos, hattempts, -⟩ := h.online buffer online
  have hnone : history.failures (history.client.epoch + 1) = [] := by
    unfold failures
    rw [List.length_eq_zero_iff.mp (h.attempts.symm.trans hattempts)]
    rfl
  obtain ⟨before, hb⟩ : ∃ before, history.client.epoch = before + 1 :=
    Nat.exists_eq_add_of_le' hpos
  have hup : history.client.isUp = true := isUp_iff.mpr ⟨buffer, online⟩
  have hpast : history.client.past = before := by
    simp only [past, hup, hb, if_true, Nat.add_sub_cancel]
  unfold eventsDue
  rw [blocks_of_quiet quiet, failures_of_quiet quiet, hpast, hup]
  change history.blocks history.client.epoch ++ history.failures (history.client.epoch + 1) ++ [] =
    _
  rw [hnone, hb, blocks_succ, block]
  simp only [if_true, List.append_assoc, List.append_nil]

theorem eventsDue_add (h : history.Ordered) (does : Does history.client deeds step)
    (running : step.client.phase ≠ .ended) :
    (history.add deeds step).eventsDue = history.eventsDue ++ step.posted := by
  -- Unless something is told, nothing more can be told.
  have hnothing {deeds : List Deed} {client : Client} (quiet : ∀ d ∈ deeds, d.Quiet)
      (epoch : client.epoch = history.client.epoch) (up : client.isUp = history.client.isUp) :
      (history.add deeds (stay client)).eventsDue = history.eventsDue ++ [] :=
    (eventsDue_of_quiet quiet epoch up).trans (List.append_nil _).symm
  cases does with
  | rest => exact hnothing (List.forall_mem_nil _) rfl rfl
  | give _ epoch message =>
    exact hnothing (List.forall_mem_singleton.mpr fun _ => ⟨rfl, rfl⟩) rfl rfl
  | connect connecting => exact eventsDue_connect h connecting
  | fail connecting reason => exact eventsDue_fail h connecting reason _
  | retry waiting =>
    refine hnothing (List.forall_mem_nil _) rfl ?_
    simp [isUp, waiting]
  | drop waiting => exact hnothing (fun _ => Deed.quiet_of_mem_taking) rfl rfl
  | take online =>
    exact (eventsDue_of_quiet (fun _ => Deed.quiet_of_mem_taking) rfl rfl).trans
      (List.append_nil _).symm
  | read online data => exact eventsDue_read h online data _
  | lose online => exact eventsDue_lose h online _
  | leave online => exact absurd rfl running
  | finish offline => exact absurd rfl running

theorem Ordered.eventsDue_eq_through (h : history.Ordered) {buffer : List UInt8}
    (online : history.client.phase = .online buffer) :
    history.eventsDue = history.through history.client.epoch := by
  obtain ⟨before, hb⟩ : ∃ before, history.client.epoch = before + 1 :=
    Nat.exists_eq_add_of_le' (h.online buffer online).1
  have hup : history.client.isUp = true := isUp_iff.mpr ⟨buffer, online⟩
  simp only [eventsDue, through, past, hup, hb, Nat.add_sub_cancel, if_true]

theorem eventsDue_isPrefix (h : history.Ordered) :
    history.eventsDue <+: history.blocks (history.client.epoch + 1) := by
  cases hup : history.client.isUp with
  | true =>
    obtain ⟨buffer, hp⟩ := isUp_iff.mp hup
    obtain ⟨before, hb⟩ : ∃ before, history.client.epoch = before + 1 :=
      Nat.exists_eq_add_of_le' (h.online buffer hp).1
    simp only [eventsDue, past, hup, hb, blocks_succ, block, Nat.add_sub_cancel, if_true,
      List.append_assoc]
    exact (List.prefix_append_right_inj _).mpr ((List.prefix_append_right_inj _).mpr
      (List.prefix_append _ _))
  | false =>
    simp only [eventsDue, past, hup, blocks_succ, block, Bool.false_eq_true, if_false,
      List.append_nil, List.append_assoc]
    exact (List.prefix_append_right_inj _).mpr (List.prefix_append _ _)

/-! ## What is posted -/

/-- What was posted follows the connections one after the other, and what arrived on a connection
that was lost was told to the end. -/
structure Told (history : History) : Prop where
  blocks : history.posted <+: history.blocks (history.client.epoch + 1)
  lost : ∀ e, .lost e ∈ history.deeds → history.through e <+: history.posted

/-- Everything was posted, at least until the client ended. -/
def Whole (history : History) : Prop :=
  history.client.phase ≠ .ended → history.posted = history.eventsDue

theorem Told.quiet (t : history.Told) (quiet : ∀ d ∈ deeds, d.Quiet)
    (lost : ∀ e, .lost e ∉ deeds) (epoch : step.client.epoch = history.client.epoch)
    (posted : step.posted = []) : (history.add deeds step).Told := by
  have hposted : (history.add deeds step).posted = history.posted :=
    (congrArg _ posted).trans (List.append_nil _)
  have hepoch : (history.add deeds step).client.epoch = history.client.epoch := epoch
  refine ⟨?_, fun e he => ?_⟩
  · rw [hposted, hepoch, blocks_of_quiet quiet]
    exact t.blocks
  · rw [hposted, through_of_quiet quiet]
    exact t.lost e ((List.mem_append.mp he).resolve_right (lost e))

/-- To be told to stop adds nothing. -/
theorem Told.stopped (t : history.Told) : (history.next (.happen .toldToStop)).Told := by
  have hseen : ∀ d ∈ history.client.seen .toldToStop, d.Quiet ∧ ∀ e, d ≠ .lost e := by
    unfold seen
    cases history.client.phase with
    | online buffer =>
      refine fun d hd => ⟨Deed.quiet_of_mem_leaving hd, ?_⟩
      rintro e rfl
      exact absurd hd lost_notMem_leaving
    | connecting | waiting | ended => exact List.forall_mem_nil _
  have hstep : (history.client.step .toldToStop).client.epoch = history.client.epoch ∧
      (history.client.step .toldToStop).posted = [] := by
    unfold step
    cases history.client.phase <;> exact ⟨rfl, rfl⟩
  exact t.quiet (fun d hd => (hseen d hd).1) (fun e he => (hseen _ he).2 e rfl) hstep.1 hstep.2

/-- What is over does not change. -/
theorem Ordered.settled (h : history.Ordered) (does : Does history.client deeds step) {e : Epoch}
    (he : e ≤ history.client.past) :
    (history.add deeds step).refusals e = history.refusals e ∧
      (history.add deeds step).bytes e = history.bytes e := by
  rcases does.quiet_or with quiet | ⟨-, ⟨reason, rfl⟩ | ⟨⟨buffer, hp⟩, data, rfl⟩⟩
  · exact ⟨congrFun (refusals_of_quiet quiet) e, congrFun (bytes_of_quiet quiet) e⟩
  · have hne : history.client.epoch + 1 ≠ e :=
      Nat.ne_of_gt (Nat.lt_succ_of_le (Nat.le_trans he (past_le _)))
    rw [refusals_add, bytes_add]
    simp [Deed.refusedBefore?, Deed.readOn, hne]
  · have hlt : history.client.past < history.client.epoch := by
      rw [past, if_pos (isUp_iff.mpr ⟨buffer, hp⟩)]
      exact Nat.sub_lt (h.online buffer hp).1 Nat.one_pos
    have hne : history.client.epoch ≠ e := Nat.ne_of_gt (Nat.lt_of_le_of_lt he hlt)
    rw [refusals_add, bytes_add]
    simp [Deed.refusedBefore?, Deed.readOn, hne]

/-- What is posted goes on along the blocks, even if it is cut short. -/
theorem Told.blocks_add (t : history.Told) (h : history.Ordered) (w : history.Whole)
    (does : Does history.client deeds step) {posted : List ConnectionEvent}
    (some : posted <+: step.posted) :
    history.posted ++ posted <+: (history.add deeds step).blocks (step.client.epoch + 1) := by
  by_cases hended : step.client.phase = .ended
  · obtain ⟨hepoch, hnone⟩ := does.of_ended hended
    obtain rfl : posted = [] := List.prefix_nil.mp (hnone ▸ some)
    have quiet := does.quiet_or.resolve_right fun hn => hn.1 hended
    rw [blocks_of_quiet quiet, List.append_nil, hepoch]
    exact t.blocks
  · have hdue := eventsDue_add h does hended
    rw [← w (does.not_ended hended)] at hdue
    have hsome : history.posted ++ posted <+: (history.add deeds step).eventsDue :=
      hdue ▸ (List.prefix_append_right_inj _).mpr some
    exact hsome.trans (eventsDue_isPrefix (h.add does step.posted))

/-- When a connection is lost, what arrived on it has been told to the end. -/
theorem Told.lost_add (t : history.Told) (h : history.Ordered) (w : history.Whole)
    (does : Does history.client deeds step) {e : Epoch}
    (he : .lost e ∈ history.deeds ++ deeds) :
    (history.add deeds step).through e <+: history.posted := by
  rcases List.mem_append.mp he with hbefore | hnow
  · have hle := (h.lost e hbefore).2
    have hsettled : ∀ x ≤ e, (history.add deeds step).refusals x = history.refusals x ∧
        (history.add deeds step).bytes x = history.bytes x :=
      fun x hx => h.settled does (Nat.le_trans hx hle)
    have hthrough : (history.add deeds step).through e = history.through e :=
      through_congr (fun x hx => (hsettled x hx).1) fun x hx => (hsettled x hx).2
    rw [hthrough]
    exact t.lost e hbefore
  · obtain ⟨⟨buffer, hp⟩, rfl, rfl, -⟩ := does.of_lost hnow
    have quiet : ∀ d ∈ [Deed.lost history.client.epoch], d.Quiet :=
      List.forall_mem_singleton.mpr fun _ => ⟨rfl, rfl⟩
    have hthrough : (history.add [.lost history.client.epoch] step).through
        history.client.epoch = history.posted := by
      rw [through_of_quiet quiet, ← h.eventsDue_eq_through hp, w (hp ▸ nofun)]
    exact hthrough ▸ List.prefix_refl _

theorem Told.add (t : history.Told) (h : history.Ordered) (w : history.Whole)
    (does : Does history.client deeds step) {posted : List ConnectionEvent}
    (some : posted <+: step.posted) : (history.add deeds { step with posted }).Told :=
  ⟨t.blocks_add h w does some,
    fun _ he => (t.lost_add h w does he).trans (List.prefix_append _ _)⟩

theorem Whole.add (w : history.Whole) (h : history.Ordered)
    (does : Does history.client deeds step) : (history.add deeds step).Whole := by
  intro running
  rw [eventsDue_add h does running, ← w (does.not_ended running)]
  rfl

/-- What turns keep up. -/
structure Faithful (history : History) : Prop where
  ordered : history.Ordered
  told : history.Told
  whole : history.Whole

theorem Faithful.start (address : ServerAddress) (credentials : Credentials) :
    (start (Client.start address credentials)).Faithful :=
  ⟨⟨fun _ _ => rfl, fun _ _ => rfl, rfl, nofun, nofun⟩, ⟨List.nil_prefix, nofun⟩, fun _ => rfl⟩

theorem Faithful.add (h : history.Faithful) (does : Does history.client deeds step) :
    (history.add deeds step).Faithful :=
  ⟨h.ordered.add does step.posted, h.told.add h.ordered h.whole does (List.prefix_refl _),
    h.whole.add h.ordered does⟩

theorem Faithful.next (h : history.Faithful) (turn : Turn) : (history.next turn).Faithful := by
  cases turn with
  | send epoch message => exact h.add (does_send _ epoch message)
  | happen happening => exact h.add (does_step _ happening)
  | cutShort happening room =>
    have does := does_step history.client happening
    have hended : (history.next (.cutShort happening room)).client.phase = .ended :=
      ended_of_stops history rfl
    refine ⟨?_, ?_, fun running => absurd hended running⟩
    · exact next_induction _ (fun h does _ _ => h.add does _) h.ordered
    · rw [next_cutShort]
      have hcut := List.take_prefix room (history.client.step happening).posted
      exact (h.told.add h.ordered h.whole does hcut).stopped

theorem Faithful.run (h : history.Faithful) (turns : List Turn) :
    (history.run turns).Faithful := by
  induction turns generalizing history with
  | nil => exact h
  | cons turn turns ih => exact ih (h.next turn)

/-- What a client posts follows its connections. -/
structure Orderly (history : History) : Prop where
  /-- What was posted is the beginning of the blocks of the connections, one after the other. -/
  blocks : history.posted <+: history.blocks (history.client.epoch + 1)
  /-- What arrived on a connection that was lost was told to the end. -/
  lost : ∀ e, .lost e ∈ history.deeds → history.through e <+: history.posted
  /-- While the client runs, everything was told. -/
  whole : history.client.phase ≠ .ended → history.posted = history.eventsDue
  /-- Nothing is posted any more once the client was told to stop. -/
  silent : ∀ turn turns, turn.stops = true →
    ((history.next turn).run turns).posted = (history.next turn).posted

/-- What a client posts follows its connections, whatever it goes through. -/
theorem events_run (address : ServerAddress) (credentials : Credentials) (turns : List Turn) :
    ((start (Client.start address credentials)).run turns).Orderly := by
  obtain ⟨-, htold, hwhole⟩ := (Faithful.start address credentials).run turns
  refine ⟨htold.blocks, htold.lost, hwhole, fun turn more stops => ?_⟩
  rw [run_of_ended (ended_of_stops _ stops)]

end History

end Domotics.Client
