import Mathlib.Data.List.Basic
import Domotics.Proofs.Connection.History
/-!
# What is written on a connection

On each connection of a client the login comes first, if it can be encoded. Then come the messages
that were taken from the queue while the connection was up and were meant for it, and at the end the
logout, if the client was told to stop on this connection (`Kept.frames`). The queue is taken from
at the front, so these messages come in the order they were given, each once (`Kept.order`).

A caller who gives messages for a connection only after it was told of the connection (`Prompt`)
gives none too early. Then what is taken for a connection is the beginning of what was given for it,
and all of it if the client leaves the connection itself (`Timely`). `frames_run` states all of this
for every history.

What a client does bears on this in few ways, and each is stated once (`Does.of_opened`,
`Does.of_left`, `Does.queue`, `Does.frames`). The invariants follow from these alone.
-/

namespace Domotics.Client

/-- The frame of a message, if it can be encoded. -/
def frame? (message : Message) : Option (List UInt8) :=
  message.encode.toOption

/-- The messages among some that are meant for a connection. -/
def meantFor (connection : Epoch) (messages : List (Epoch × Message)) : List Message :=
  messages.filterMap fun (epoch, message) => if epoch = connection then some message else none

namespace Deed

def given? : Deed → Option (Epoch × Message)
  | given epoch message => some (epoch, message)
  | _ => none

def took? : Deed → Option (Epoch × Message)
  | took _ epoch message => some (epoch, message)
  | _ => none

/-- A message that was taken while a connection was up, and meant for it. -/
def tookFor? (connection : Epoch) : Deed → Option Message
  | took on epoch message =>
    if on = some connection ∧ epoch = connection then some message else none
  | _ => none

end Deed

namespace History

/-- What was put into the queue, in order. -/
def given (history : History) : List (Epoch × Message) :=
  history.deeds.filterMap Deed.given?

/-- What was taken from the queue, in order. -/
def taken (history : History) : List (Epoch × Message) :=
  history.deeds.filterMap Deed.took?

/-- The messages for a connection that were taken from the queue while it was up, in order. -/
def takenFor (history : History) (connection : Epoch) : List Message :=
  history.deeds.filterMap (Deed.tookFor? connection)

/-- The frames that were written on a connection, in order. -/
def frames (history : History) (connection : Epoch) : List (List UInt8) :=
  history.written.filterMap fun (on, message) => if on = connection then frame? message else none

/-- The frames that are due on a connection: the login, then what was taken for it, then the
logout. -/
def framesDue (history : History) (connection : Epoch) : List (List UInt8) :=
  (if .opened connection ∈ history.deeds then (frame? history.client.login).toList else []) ++
    (history.takenFor connection).filterMap frame? ++
    if .left connection ∈ history.deeds then (frame? logout).toList else []

variable {history : History} {deeds : List Deed} {step : ClientStep}

/-! ## Adding a step -/

theorem given_add : (history.add deeds step).given = history.given ++ deeds.filterMap Deed.given? :=
  List.filterMap_append

theorem taken_add : (history.add deeds step).taken = history.taken ++ deeds.filterMap Deed.took? :=
  List.filterMap_append

theorem takenFor_add {e : Epoch} : (history.add deeds step).takenFor e =
    history.takenFor e ++ deeds.filterMap (Deed.tookFor? e) :=
  List.filterMap_append

theorem frames_add {e : Epoch} : (history.add deeds step).frames e =
    history.frames e ++ step.written.filterMap fun (on, message) =>
      if on = e then frame? message else none :=
  List.filterMap_append

theorem took_taking (on : Option Epoch) (messages : List (Epoch × Message)) :
    (taking on messages).filterMap Deed.took? = messages := by
  simp [taking, List.filterMap_map, Function.comp_def, Deed.took?]

theorem given_taking (on : Option Epoch) (messages : List (Epoch × Message)) :
    (taking on messages).filterMap Deed.given? = [] := by
  simp [taking, List.filterMap_map, Function.comp_def, Deed.given?]

theorem tookFor_taking_none (e : Epoch) (messages : List (Epoch × Message)) :
    (taking none messages).filterMap (Deed.tookFor? e) = [] := by
  simp [taking, List.filterMap_map, Function.comp_def, Deed.tookFor?]

theorem tookFor_taking_some (on e : Epoch) (messages : List (Epoch × Message)) :
    (taking (some on) messages).filterMap (Deed.tookFor? e) =
      if on = e then meantFor e messages else [] := by
  simp only [taking, List.filterMap_map, Function.comp_def, Deed.tookFor?, Option.some.injEq]
  split <;> simp_all [meantFor]

/-- Of some messages, the frames of those that are meant for the present connection are written, on
that connection. -/
theorem frames_writable (client : Client) (messages : List (Epoch × Message)) (e : Epoch) :
    ((client.writable messages).filterMap fun (on, message) =>
        if on = e then frame? message else none) =
      (if client.epoch = e then meantFor e messages else []).filterMap frame? := by
  unfold writable meantFor
  rw [List.filterMap_filter]
  split
  · rename_i he
    subst he
    rw [List.filterMap_filterMap]
    refine List.filterMap_congr fun (epoch, message) _ => ?_
    by_cases hm : epoch = client.epoch
    · cases hf : message.encode <;> simp [hm, hf, frame?, Except.toOption]
    · simp [hm]
  · rename_i he
    refine List.filterMap_eq_nil_iff.mpr fun (epoch, message) _ => ?_
    by_cases hm : epoch = client.epoch
    · simp [hm, he]
    · simp [hm]

end History

/-! ## What a client can do to its queue and its connections -/

section Does

variable {client : Client} {deeds : List Deed} {step : ClientStep} {e : Epoch}

/-- The number of connections grows, and a client tells of no connection before it is up. -/
theorem Does.grows (does : Does client deeds step) :
    client.epoch ≤ step.client.epoch ∧ step.client.login = client.login ∧
      ∀ e, .connected e ∈ step.posted → e ≤ step.client.epoch := by
  cases does with
  | rest | give _ _ _ | retry _ | drop _ | take _ | leave _ | finish _ =>
    exact ⟨Nat.le_refl _, rfl, nofun⟩
  | connect _ =>
    refine ⟨Nat.le_succ _, rfl, fun e he => ?_⟩
    obtain rfl := ConnectionEvent.connected.inj (List.mem_singleton.mp he)
    exact Nat.le_refl _
  | fail _ _ | lose _ => exact ⟨Nat.le_refl _, rfl, fun e he => nomatch List.mem_singleton.mp he⟩
  | read _ _ =>
    refine ⟨Nat.le_refl _, rfl, fun e he => ?_⟩
    obtain ⟨result, -, hr⟩ := List.mem_map.mp he
    cases result <;> cases hr

/-- No connection begins by what is taken from the queue. -/
theorem opened_notMem_taking {on : Option Epoch} {messages : List (Epoch × Message)} :
    .opened e ∉ taking on messages :=
  notMem_taking nofun

/-- No connection is left by what is taken from the queue. -/
theorem left_notMem_taking {on : Option Epoch} {messages : List (Epoch × Message)} :
    .left e ∉ taking on messages :=
  notMem_taking nofun

theorem Does.of_opened (does : Does client deeds step) (he : .opened e ∈ deeds) :
    e = client.epoch + 1 ∧ client.phase = .connecting ∧ step.client.epoch = client.epoch + 1 := by
  cases does with
  | rest | retry _ | finish _ => cases he
  | give _ _ _ | fail _ _ | read _ _ | lose _ => cases List.mem_singleton.mp he
  | connect hp =>
    obtain rfl := Deed.opened.inj (List.mem_singleton.mp he)
    exact ⟨rfl, hp, rfl⟩
  | drop _ | take _ => exact absurd he opened_notMem_taking
  | leave _ =>
    rcases List.mem_append.mp he with hd | hd
    · exact absurd hd opened_notMem_taking
    · cases List.mem_singleton.mp hd

theorem Does.of_left (does : Does client deeds step) (he : .left e ∈ deeds) :
    e = client.epoch ∧ step.client.phase = .ended ∧ (∃ buffer, client.phase = .online buffer) ∧
      deeds = taking (some e) client.queue ++ [.left e] := by
  cases does with
  | rest | retry _ | finish _ => cases he
  | give _ _ _ | connect _ | fail _ _ | read _ _ | lose _ => cases List.mem_singleton.mp he
  | drop _ | take _ => exact absurd he left_notMem_taking
  | leave online =>
    rcases List.mem_append.mp he with hd | hd
    · exact absurd hd left_notMem_taking
    · obtain rfl := Deed.left.inj (List.mem_singleton.mp hd)
      exact ⟨rfl, rfl, ⟨_, online⟩, rfl⟩

/-- A connection that is up was up before, or it is new. -/
theorem Does.of_online (does : Does client deeds step) {buffer : List UInt8}
    (online : step.client.phase = .online buffer) :
    (∃ buffer, client.phase = .online buffer) ∧ step.client.epoch = client.epoch ∨
      deeds = [.opened step.client.epoch] ∧ step.client.epoch = client.epoch + 1 := by
  cases does with
  | rest | give _ _ _ | drop _ => exact .inl ⟨⟨_, online⟩, rfl⟩
  | take hp | read hp _ => exact .inl ⟨⟨_, hp⟩, rfl⟩
  | connect _ => exact .inr ⟨rfl, rfl⟩
  | fail _ _ | retry _ | lose _ | leave _ | finish _ => cases online

/-- Messages are only taken for the connection that is up. -/
theorem Does.tookFor_eq_nil (does : Does client deeds step)
    (other : client.epoch = e → ∀ buffer, client.phase ≠ .online buffer) :
    deeds.filterMap (Deed.tookFor? e) = [] := by
  cases does with
  | rest | give _ _ _ | connect _ | fail _ _ | retry _ | read _ _ | lose _ | finish _ => rfl
  | drop _ => exact History.tookFor_taking_none e _
  | take hp => rw [History.tookFor_taking_some, if_neg fun he => other he _ hp]
  | leave hp =>
    rw [List.filterMap_append, History.tookFor_taking_some, if_neg fun he => other he _ hp]
    rfl

/-- Whatever is taken while a connection is up and is meant for it is taken for it. -/
theorem Does.tookFor_eq (does : Does client deeds step) {buffer : List UInt8}
    (online : client.phase = .online buffer) :
    deeds.filterMap (Deed.tookFor? client.epoch) =
      meantFor client.epoch (deeds.filterMap Deed.took?) := by
  cases does with
  | rest | give _ _ _ | connect _ | fail _ _ | retry _ | read _ _ | lose _ | finish _ => rfl
  | drop hp => cases hp.symm.trans online
  | take _ => rw [History.tookFor_taking_some, if_pos rfl, History.took_taking]
  | leave _ =>
    rw [List.filterMap_append, List.filterMap_append, History.tookFor_taking_some, if_pos rfl,
      History.took_taking]
    exact (List.append_nil _).trans (congrArg (meantFor _) (List.append_nil _).symm)

/-- What is taken is at the front of the queue, and the rest stays in the queue. -/
theorem Does.queue (does : Does client deeds step) :
    ∃ rest, deeds.filterMap Deed.took? ++ rest =
        client.queue ++ deeds.filterMap Deed.given? ∧
      (step.client.phase ≠ .ended → step.client.queue = rest) := by
  cases does with
  | rest | connect _ | fail _ _ | retry _ | read _ _ | lose _ | finish _ =>
    exact ⟨client.queue, (List.append_nil _).symm, fun _ => rfl⟩
  | give _ epoch message => exact ⟨client.queue ++ [(epoch, message)], rfl, fun _ => rfl⟩
  | drop _ | take _ =>
    refine ⟨client.queue.drop 1, ?_, fun _ => rfl⟩
    rw [History.took_taking, History.given_taking, List.take_append_drop, List.append_nil]
  | leave _ =>
    refine ⟨[], ?_, fun running => absurd rfl running⟩
    rw [List.filterMap_append, List.filterMap_append, History.took_taking, History.given_taking,
      List.append_assoc]
    rfl

/-- The frames of a step: the login on a new connection, what is taken for the present one, and the
logout when it is left. -/
theorem Does.frames (does : Does client deeds step) (e : Epoch) :
    (step.written.filterMap fun (on, message) => if on = e then frame? message else none) =
      (if .opened e ∈ deeds then (frame? client.login).toList else []) ++
        (deeds.filterMap (Deed.tookFor? e)).filterMap frame? ++
        if .left e ∈ deeds then (frame? logout).toList else [] := by
  cases does with
  | rest | give _ _ _ | fail _ _ | retry _ | read _ _ | lose _ | finish _ =>
    simp [stay, Deed.tookFor?]
  | connect _ =>
    simp only [Client.connect, History.frames_writable]
    by_cases he : client.epoch + 1 = e
    · subst he
      cases hf : frame? client.login <;> simp_all [meantFor, Deed.tookFor?, login]
    · simp [he, Ne.symm he, Deed.tookFor?]
  | drop _ => simp [stay, opened_notMem_taking, left_notMem_taking, History.tookFor_taking_none]
  | take _ =>
    simp [opened_notMem_taking, left_notMem_taking, History.tookFor_taking_some,
      History.frames_writable]
  | leave _ =>
    rw [List.filterMap_append, List.filterMap_append, History.tookFor_taking_some,
      History.frames_writable]
    by_cases he : client.epoch = e
    · subst he
      cases hf : frame? logout <;> simp [opened_notMem_taking, hf, Deed.tookFor?]
    · simp [he, Ne.symm he, opened_notMem_taking, left_notMem_taking, Deed.tookFor?]

end Does

/-! ## What is kept up -/

namespace History

variable {history : History} {deeds : List Deed} {step : ClientStep}

/-- The queue is taken from at the front, and just the frames that are due are written. Connections
are numbered one after the other, and a client that has left one has ended. -/
structure Kept (login : Message) (history : History) : Prop where
  login : history.client.login = login
  connected : ∀ e, .connected e ∈ history.posted → e ≤ history.client.epoch
  opened : ∀ e, .opened e ∈ history.deeds → e ≤ history.client.epoch
  untaken : ∀ e, history.client.epoch < e → history.takenFor e = []
  left : ∀ e, .left e ∈ history.deeds → history.client.phase = .ended ∧ e ≤ history.client.epoch
  order : history.taken <+: history.given
  queue : history.client.phase ≠ .ended → history.taken ++ history.client.queue = history.given
  frames : ∀ e, history.frames e = history.framesDue e

variable {login : Message} {posted : List ConnectionEvent}

/-- What is taken is the next that was given, and the rest is in the queue. -/
theorem Kept.order_add (h : history.Kept login) (does : Does history.client deeds step) :
    (history.add deeds step).taken <+: (history.add deeds step).given ∧
      (step.client.phase ≠ .ended → (history.add deeds step).taken ++ step.client.queue =
        (history.add deeds step).given) := by
  obtain ⟨rest, hqueue, hrest⟩ := does.queue
  rw [taken_add, given_add]
  refine ⟨?_, fun running => ?_⟩
  · by_cases hp : history.client.phase = .ended
    · obtain ⟨rfl, -⟩ := does.eq_of_ended hp
      simpa using h.order
    · rw [← h.queue hp, List.append_assoc, ← hqueue]
      exact (List.prefix_append_right_inj _).mpr (List.prefix_append _ _)
  · rw [← h.queue (does.not_ended running), List.append_assoc, List.append_assoc, ← hqueue,
      ← hrest running]

/-- Just the frames are written that are due now and were not before. -/
theorem Kept.frames_add (h : history.Kept login) (does : Does history.client deeds step)
    (e : Epoch) : (history.add deeds step).frames e = (history.add deeds step).framesDue e := by
  have hlogin := does.grows.2.1
  rw [History.frames_add, h.frames e, does.frames e]
  simp only [framesDue, takenFor_add, List.filterMap_append]
  by_cases hleft : .left e ∈ history.deeds
  · -- After the logout nothing comes any more.
    obtain ⟨rfl, rfl⟩ := does.eq_of_ended (h.left e hleft).1
    simp [History.add, stay]
  · by_cases hopened : .opened e ∈ deeds
    · -- Before the login nothing came on this connection.
      obtain ⟨rfl, -⟩ := does.of_opened hopened
      have hnew : .opened (history.client.epoch + 1) ∉ history.deeds :=
        fun hd => Nat.not_succ_le_self _ (h.opened _ hd)
      simp [History.add, hleft, hopened, hnew, hlogin, h.untaken _ (Nat.lt_succ_self _)]
    · simp [History.add, hleft, hopened, hlogin]

theorem Kept.add (h : history.Kept login) (does : Does history.client deeds step)
    (some : posted <+: step.posted) : (history.add deeds { step with posted }).Kept login := by
  obtain ⟨hepoch, hlogin, hconnected⟩ := does.grows
  obtain ⟨horder, hqueue⟩ := h.order_add does
  have hframes := h.frames_add does
  refine ⟨hlogin.trans h.login, fun e he => ?_, fun e he => ?_, fun e he => ?_, fun e he => ?_,
    horder, hqueue, hframes⟩
  · rcases List.mem_append.mp he with he | he
    · exact Nat.le_trans (h.connected e he) hepoch
    · exact hconnected e (some.subset he)
  · rcases List.mem_append.mp he with he | he
    · exact Nat.le_trans (h.opened e he) hepoch
    · obtain ⟨rfl, -, hopened⟩ := does.of_opened he
      exact Nat.le_of_eq hopened.symm
  · have hlt : history.client.epoch < e := Nat.lt_of_le_of_lt hepoch he
    rw [takenFor_add, h.untaken e hlt, does.tookFor_eq_nil fun he => absurd he (Nat.ne_of_lt hlt)]
    rfl
  · rcases List.mem_append.mp he with he | he
    · obtain ⟨hp, hle⟩ := h.left e he
      refine ⟨?_, Nat.le_trans hle hepoch⟩
      exact Decidable.byContradiction fun running => does.not_ended running hp
    · obtain ⟨rfl, hp, -⟩ := does.of_left he
      exact ⟨hp, hepoch⟩

/-! ## Messages that are given in time -/

theorem meantFor_append (e : Epoch) (messages more : List (Epoch × Message)) :
    meantFor e (messages ++ more) = meantFor e messages ++ meantFor e more :=
  List.filterMap_append

theorem meantFor_isPrefix (e : Epoch) {messages more : List (Epoch × Message)}
    (h : messages <+: more) : meantFor e messages <+: meantFor e more := by
  obtain ⟨rest, rfl⟩ := h
  rw [meantFor_append]
  exact List.prefix_append _ _

/-- What is meant for a connection is given after it was up, and so it is taken in order from the
first message on. -/
structure Timely (history : History) : Prop where
  early : ∀ e, history.client.epoch < e → meantFor e history.given = []
  begun : ∀ e, history.takenFor e <+: meantFor e history.taken
  current : ∀ buffer, history.client.phase = .online buffer →
    history.takenFor history.client.epoch = meantFor history.client.epoch history.taken
  all : ∀ e, .left e ∈ history.deeds → history.takenFor e = meantFor e history.given

theorem Timely.early_add (t : history.Timely) (does : Does history.client deeds step)
    (late : ∀ e message, .given e message ∈ deeds → e ≤ history.client.epoch) {e : Epoch}
    (he : step.client.epoch < e) : meantFor e (history.add deeds step).given = [] := by
  have hlt : history.client.epoch < e := Nat.lt_of_le_of_lt does.grows.1 he
  rw [given_add, meantFor_append, t.early e hlt, List.nil_append]
  refine List.filterMap_eq_nil_iff.mpr fun (tag, message) hm => if_neg ?_
  rintro rfl
  obtain ⟨deed, hd, hgiven⟩ := List.mem_filterMap.mp hm
  cases deed <;> cases hgiven
  exact Nat.not_le_of_lt hlt (late _ _ hd)

/-- While a connection is up, all that is taken and meant for it is taken for it. -/
theorem Timely.current_eq (t : history.Timely) (does : Does history.client deeds step)
    {buffer : List UInt8} (online : history.client.phase = .online buffer) :
    (history.add deeds step).takenFor history.client.epoch =
      meantFor history.client.epoch (history.add deeds step).taken := by
  rw [takenFor_add, taken_add, meantFor_append, t.current buffer online, does.tookFor_eq online]

theorem Timely.begun_add (t : history.Timely) (does : Does history.client deeds step)
    (e : Epoch) :
    (history.add deeds step).takenFor e <+: meantFor e (history.add deeds step).taken := by
  by_cases hp : history.client.epoch = e ∧ ∃ buffer, history.client.phase = .online buffer
  · obtain ⟨rfl, buffer, hp⟩ := hp
    exact t.current_eq does hp ▸ List.prefix_refl _
  · rw [takenFor_add, taken_add, meantFor_append,
      does.tookFor_eq_nil fun he buffer hb => hp ⟨he, buffer, hb⟩, List.append_nil]
    exact (t.begun e).trans (List.prefix_append _ _)

theorem Timely.current_add (t : history.Timely) (h : history.Kept login)
    (does : Does history.client deeds step) {buffer : List UInt8}
    (online : step.client.phase = .online buffer) :
    (history.add deeds step).takenFor step.client.epoch =
      meantFor step.client.epoch (history.add deeds step).taken := by
  rcases does.of_online online with ⟨⟨before, hbefore⟩, hepoch⟩ | ⟨rfl, hepoch⟩
  · rw [hepoch]
    exact t.current_eq does hbefore
  · -- Nothing was given for a connection that is new.
    have hlt : history.client.epoch < step.client.epoch :=
      Nat.lt_of_lt_of_eq (Nat.lt_succ_self _) hepoch.symm
    have hnone : meantFor step.client.epoch history.taken = [] :=
      List.prefix_nil.mp (t.early _ hlt ▸ meantFor_isPrefix _ h.order)
    rw [takenFor_add, taken_add, meantFor_append, h.untaken _ hlt, hnone]
    rfl

theorem Timely.all_add (t : history.Timely) (h : history.Kept login)
    (does : Does history.client deeds step) {e : Epoch} (he : .left e ∈ history.deeds ++ deeds) :
    (history.add deeds step).takenFor e = meantFor e (history.add deeds step).given := by
  rcases List.mem_append.mp he with hbefore | hnow
  · obtain ⟨rfl, -⟩ := does.eq_of_ended (h.left e hbefore).1
    rw [takenFor_add, given_add]
    simpa using t.all e hbefore
  · -- The whole queue is taken.
    obtain ⟨rfl, -, ⟨buffer, hp⟩, hdeeds⟩ := does.of_left hnow
    have htook : deeds.filterMap Deed.took? = history.client.queue := by
      rw [hdeeds, List.filterMap_append, took_taking]
      exact List.append_nil _
    have hgiven : deeds.filterMap Deed.given? = [] := by
      rw [hdeeds, List.filterMap_append, given_taking]
      rfl
    rw [t.current_eq does hp, taken_add, given_add, hgiven, htook, List.append_nil,
      h.queue (hp ▸ nofun)]

theorem Timely.add (t : history.Timely) (h : history.Kept login)
    (does : Does history.client deeds step)
    (late : ∀ e message, .given e message ∈ deeds → e ≤ history.client.epoch) :
    (history.add deeds { step with posted }).Timely := by
  have hbegun := t.begun_add does
  have hcurrent {buffer : List UInt8} (online : step.client.phase = .online buffer) :=
    t.current_add h does online
  exact ⟨fun _ he => t.early_add does late he, hbegun, fun _ online => hcurrent online,
    fun _ he => t.all_add h does he⟩

/-! ## Histories -/

theorem Kept.start (address : ServerAddress) (credentials : Credentials) :
    (start (Client.start address credentials)).Kept (Client.start address credentials).login where
  login := rfl
  connected := nofun
  opened := nofun
  untaken := fun _ _ => rfl
  left := nofun
  order := List.nil_prefix
  queue := fun _ => rfl
  frames := fun _ => rfl

theorem Kept.next (h : history.Kept login) (turn : Turn) : (history.next turn).Kept login :=
  next_induction turn (fun h does some _ => h.add does some) h

theorem Kept.run (h : history.Kept login) (turns : List Turn) : (history.run turns).Kept login := by
  induction turns generalizing history with
  | nil => exact h
  | cons turn turns ih => exact ih (h.next turn)

/-- Messages are given only after the connection they are meant for was told of. -/
def Prompt (history : History) (turns : List Turn) : Prop :=
  ∀ before epoch message after, turns = before ++ .send epoch message :: after →
    .connected epoch ∈ (history.run before).posted

theorem Timely.start (client : Client) : (start client).Timely :=
  ⟨fun _ _ => rfl, fun _ => List.nil_prefix, fun _ _ => rfl, nofun⟩

theorem Timely.run (t : history.Timely) (h : history.Kept login) {turns : List Turn}
    (prompt : history.Prompt turns) : (history.run turns).Timely := by
  induction turns generalizing history with
  | nil => exact t
  | cons turn turns ih =>
    have hlate : ∀ epoch message, turn = .send epoch message → epoch ≤ history.client.epoch := by
      rintro epoch message rfl
      exact h.connected epoch (prompt [] epoch message turns rfl)
    have hboth : (history.next turn).Timely ∧ (history.next turn).Kept login ∧
        history.client.epoch ≤ (history.next turn).client.epoch := by
      refine next_induction (P := fun next => next.Timely ∧ next.Kept login ∧
        history.client.epoch ≤ next.client.epoch) turn ?_ ⟨t, h, Nat.le_refl _⟩
      rintro now deeds step posted ⟨t, h, hle⟩ does some given
      refine ⟨t.add h does fun epoch message hd => ?_, h.add does some,
        Nat.le_trans hle does.grows.1⟩
      exact Nat.le_trans (hlate epoch message (given epoch message hd)) hle
    refine ih hboth.1 hboth.2.1 fun before epoch message after hturns => ?_
    exact prompt (turn :: before) epoch message after (congrArg (turn :: ·) hturns)

end History

end Domotics.Client
