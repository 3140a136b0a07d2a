import Domotics.Connection.Client
/-!
# What a client goes through

A client is given messages to send and things happen to it, in any order; each of these is a
`Turn`. A `History` follows a client through its turns. Beside what the client wrote and posted it
keeps the `Deed`s that are seen of its queue and its connections: what the client was given, what it
took and on which connection, what arrived, and how each connection began and ended.

`Does` lists what a client can do, and every turn is one of these or, cut short, two of them
(`does_send`, `does_step`, `History.next_cutShort`). What a history keeps up is shown once for each
of them (`History.next_induction`).
-/

namespace Domotics.Client

/-- What a client goes through. -/
inductive Turn where
  /-- It is given a message for a connection. -/
  | send (epoch : Epoch) (message : Message)
  | happen (happening : Happening)
  /-- Something happens to it, and it is told to stop when only the first `room` events of that are
  posted. -/
  | cutShort (happening : Happening) (room : Nat)
deriving DecidableEq

/-- Whether the client is told to stop in a turn. -/
def Turn.stops : Turn → Bool
  | happen .toldToStop | cutShort _ _ => true
  | _ => false

/-- What comes of a turn. A client that has ended refuses what it is given. -/
def turn (client : Client) : Turn → ClientStep
  | .send epoch message => stay ((client.send epoch message).toOption.getD client)
  | .happen happening => client.step happening
  | .cutShort happening room => client.stepCutShort happening room

/-- What is seen of the queue and the connections of a client. -/
inductive Deed where
  /-- A message was put into the queue. -/
  | given (epoch : Epoch) (message : Message)
  /-- An attempt to connect failed, after so many connections. -/
  | refused (after : Epoch) (reason : String)
  | opened (connection : Epoch)
  /-- A message was taken from the queue, on a connection or between two. -/
  | took (on : Option Epoch) (epoch : Epoch) (message : Message)
  | read (on : Epoch) (data : List UInt8)
  /-- The other side closed the connection, or it broke. -/
  | lost (connection : Epoch)
  /-- The client was told to stop on the connection. -/
  | left (connection : Epoch)
deriving DecidableEq

/-- What is seen of a client that takes messages from its queue. -/
def taking (on : Option Epoch) (messages : List (Epoch × Message)) : List Deed :=
  messages.map fun (epoch, message) => .took on epoch message

theorem exists_of_mem_taking {on : Option Epoch} {messages : List (Epoch × Message)} {deed : Deed}
    (h : deed ∈ taking on messages) : ∃ epoch message, deed = .took on epoch message := by
  obtain ⟨⟨epoch, message⟩, -, rfl⟩ := List.mem_map.mp h
  exact ⟨epoch, message, rfl⟩

theorem notMem_taking {on : Option Epoch} {messages : List (Epoch × Message)} {deed : Deed}
    (other : ∀ epoch message, deed ≠ .took on epoch message) : deed ∉ taking on messages := by
  intro h
  obtain ⟨epoch, message, hd⟩ := exists_of_mem_taking h
  exact other epoch message hd

/-- What is seen of a client when something happens to it. -/
def seen (client : Client) (happening : Happening) : List Deed :=
  match client.phase, happening with
  | .connecting, .connected => [.opened (client.epoch + 1)]
  | .connecting, .refused reason => [.refused client.epoch reason]
  | .waiting, .taken => taking none (client.queue.take 1)
  | .online _, .taken => taking (some client.epoch) (client.queue.take 1)
  | .online _, .received data => [.read client.epoch data]
  | .online _, .lost => [.lost client.epoch]
  | .online _, .toldToStop => taking (some client.epoch) client.queue ++ [.left client.epoch]
  | _, _ => []

/-- What is seen of a client in a turn. -/
def deeds (client : Client) : Turn → List Deed
  | .send epoch message => if client.phase = .ended then [] else [.given epoch message]
  | .happen happening => client.seen happening
  | .cutShort happening _ =>
    client.seen happening ++ (client.step happening).client.seen .toldToStop

/-! ## What a client can do -/

/-- What a client can do: what is seen of it, and what comes of it. -/
inductive Does (client : Client) : List Deed → ClientStep → Prop
  | rest : Does client [] client.stay
  | give (running : client.phase ≠ .ended) (epoch : Epoch) (message : Message) :
      Does client [.given epoch message]
        (stay { client with queue := client.queue ++ [(epoch, message)] })
  | connect (connecting : client.phase = .connecting) :
      Does client [.opened (client.epoch + 1)] client.connect
  | fail (connecting : client.phase = .connecting) (reason : String) :
      Does client [.refused client.epoch reason]
        ⟨{ client with phase := .waiting, attempts := client.attempts + 1 }, [],
          [.connectFailed (client.attempts + 1) reason]⟩
  | retry (waiting : client.phase = .waiting) :
      Does client [] (stay { client with phase := .connecting })
  | drop (waiting : client.phase = .waiting) :
      Does client (taking none (client.queue.take 1))
        (stay { client with queue := client.queue.drop 1 })
  | take {buffer : List UInt8} (online : client.phase = .online buffer) :
      Does client (taking (some client.epoch) (client.queue.take 1))
        ⟨{ client with queue := client.queue.drop 1 }, client.writable (client.queue.take 1), []⟩
  | read {buffer : List UInt8} (online : client.phase = .online buffer) (data : List UInt8) :
      Does client [.read client.epoch data]
        ⟨{ client with phase := .online (decodeAll (buffer ++ data)).2 }, [],
          (decodeAll (buffer ++ data)).1.map (arrival client.epoch)⟩
  | lose {buffer : List UInt8} (online : client.phase = .online buffer) :
      Does client [.lost client.epoch]
        ⟨{ client with phase := .connecting }, [], [.disconnected client.epoch]⟩
  | leave {buffer : List UInt8} (online : client.phase = .online buffer) :
      Does client (taking (some client.epoch) client.queue ++ [.left client.epoch])
        ⟨{ client with phase := .ended, queue := [] },
          client.writable client.queue ++ [(client.epoch, logout)], []⟩
  | finish (offline : client.phase = .connecting ∨ client.phase = .waiting) :
      Does client [] (stay { client with phase := .ended })

theorem does_step (client : Client) (happening : Happening) :
    Does client (client.seen happening) (client.step happening) := by
  obtain ⟨address, credentials, phase, epoch, attempts, queue⟩ := client
  cases phase with
  | connecting =>
    cases happening with
    | connected => exact .connect rfl
    | refused reason => exact .fail rfl reason
    | toldToStop => exact .finish (.inl rfl)
    | waited | taken | received _ | lost => exact .rest
  | waiting =>
    cases happening with
    | waited => exact .retry rfl
    | taken => exact .drop rfl
    | toldToStop => exact .finish (.inr rfl)
    | connected | refused _ | received _ | lost => exact .rest
  | online buffer =>
    cases happening with
    | taken => exact .take rfl
    | received data => exact .read rfl data
    | lost => exact .lose rfl
    | toldToStop => exact .leave rfl
    | connected | refused _ | waited => exact .rest
  | ended => cases happening <;> exact .rest

theorem does_send (client : Client) (epoch : Epoch) (message : Message) :
    Does client (client.deeds (.send epoch message)) (client.turn (.send epoch message)) := by
  obtain ⟨address, credentials, phase, connections, attempts, queue⟩ := client
  cases phase with
  | ended => exact .rest
  | connecting | waiting | online _ => exact .give (by simp) epoch message

theorem given_notMem_seen {client : Client} {happening : Happening} {epoch : Epoch}
    {message : Message} : .given epoch message ∉ client.seen happening := by
  have htaking : ∀ on messages, .given epoch message ∉ taking on messages :=
    fun _ _ => notMem_taking nofun
  unfold seen
  split <;> simp [htaking]

section Ended

variable {client : Client} {deeds : List Deed} {step : ClientStep}

/-- A client that has ended does nothing. -/
theorem Does.eq_of_ended (does : Does client deeds step) (ended : client.phase = .ended) :
    deeds = [] ∧ step = client.stay := by
  cases does with
  | rest => exact ⟨rfl, rfl⟩
  | give running _ _ => exact absurd ended running
  | connect hp | fail hp _ | retry hp | drop hp | take hp | read hp _ | lose hp | leave hp =>
    cases hp.symm.trans ended
  | finish hp => rcases hp with hp | hp <;> cases hp.symm.trans ended

/-- A client that goes on has not ended before. -/
theorem Does.not_ended (does : Does client deeds step) (running : step.client.phase ≠ .ended) :
    client.phase ≠ .ended := by
  intro hp
  rw [(does.eq_of_ended hp).2] at running
  exact running hp

/-- Nothing is posted when a client ends. -/
theorem Does.of_ended (does : Does client deeds step) (ended : step.client.phase = .ended) :
    step.client.epoch = client.epoch ∧ step.posted = [] := by
  cases does with
  | rest | give _ _ _ | retry _ | drop _ | take _ | leave _ | finish _ => exact ⟨rfl, rfl⟩
  | connect _ | fail _ _ | read _ _ | lose _ => cases ended

/-- A client that is told to stop ends. -/
theorem phase_step_toldToStop (client : Client) :
    (client.step .toldToStop).client.phase = .ended := by
  unfold step
  cases hp : client.phase with
  | connecting | waiting | online _ => rfl
  | ended => exact hp

end Ended

/-! ## Histories -/

/-- A client and all that was seen of it. -/
structure History where
  client : Client
  deeds : List Deed
  /-- What was written, and on which connection. -/
  written : List (Epoch × Message)
  posted : List ConnectionEvent

namespace History

/-- Nothing was seen of the client yet. -/
def start (client : Client) : History :=
  ⟨client, [], [], []⟩

/-- The history after one more step. -/
def add (history : History) (deeds : List Deed) (step : ClientStep) : History :=
  ⟨step.client, history.deeds ++ deeds, history.written ++ step.written,
    history.posted ++ step.posted⟩

/-- The history after one more turn. -/
def next (history : History) (turn : Turn) : History :=
  history.add (history.client.deeds turn) (history.client.turn turn)

/-- The history after turns one after the other. -/
def run (history : History) (turns : List Turn) : History :=
  turns.foldl next history

variable {history : History}

/-- A turn that is cut short is something that happens, of which not everything is posted, and then
to be told to stop. -/
theorem next_cutShort (history : History) (happening : Happening) (room : Nat) :
    history.next (.cutShort happening room) =
      let cut := history.client.step happening
      (history.add (history.client.seen happening)
        { cut with posted := cut.posted.take room }).next (.happen .toldToStop) := by
  simp only [next, add, turn, stepCutShort, andThen, List.append_assoc]
  rfl

/-- What is kept up by whatever a client does, even if not everything is posted, is kept up by a
turn. -/
theorem next_induction {P : History → Prop} (turn : Turn)
    (keeps : ∀ {history : History} {deeds : List Deed} {step : ClientStep}
      {posted : List ConnectionEvent}, P history → Does history.client deeds step →
      posted <+: step.posted →
      (∀ epoch message, .given epoch message ∈ deeds → turn = .send epoch message) →
      P (history.add deeds { step with posted })) (h : P history) : P (history.next turn) := by
  cases turn with
  | send epoch message =>
    refine keeps h (does_send _ epoch message) (List.prefix_refl _) fun epoch' message' hd => ?_
    simp only [Client.deeds] at hd
    split at hd
    · cases hd
    · cases List.mem_singleton.mp hd
      rfl
  | happen happening =>
    exact keeps h (does_step _ happening) (List.prefix_refl _) fun _ _ hd =>
      absurd hd given_notMem_seen
  | cutShort happening room =>
    rw [next_cutShort]
    have hroom := List.take_prefix room (history.client.step happening).posted
    have hcut := keeps h (does_step _ happening) hroom fun _ _ hd => absurd hd given_notMem_seen
    exact keeps hcut (does_step _ .toldToStop) (List.prefix_refl _) fun _ _ hd =>
      absurd hd given_notMem_seen

/-! ## Clients that have ended -/

theorem ended_of_stops (history : History) {turn : Turn} (stops : turn.stops = true) :
    (history.next turn).client.phase = .ended := by
  cases turn with
  | send epoch message => cases stops
  | happen happening =>
    cases happening with
    | toldToStop => exact phase_step_toldToStop _
    | connected | refused _ | waited | taken | received _ | lost => cases stops
  | cutShort happening room => exact phase_step_toldToStop _

/-- Nothing is seen any more of a client that has ended. -/
theorem next_of_ended (ended : history.client.phase = .ended) (turn : Turn) :
    history.next turn = history := by
  refine (next_induction (P := (· = history)) turn ?_ rfl)
  rintro _ deeds step posted rfl does some -
  obtain ⟨rfl, rfl⟩ := does.eq_of_ended ended
  obtain rfl : posted = [] := List.prefix_nil.mp some
  simp [add, stay]

theorem run_of_ended (ended : history.client.phase = .ended) (turns : List Turn) :
    history.run turns = history := by
  induction turns with
  | nil => rfl
  | cons turn turns ih => exact (congrArg (run · turns) (next_of_ended ended turn)).trans ih

end History

end Domotics.Client
