import Domotics.Engine.Control
import Domotics.Proofs.Connection.Outgoing
import Domotics.Proofs.Message.Writing
import Domotics.Proofs.Text.Utf8
/-!
# The login comes first

A client logs in on each of its connections before it writes anything else there, and before it
tells of the connection. The login is a message like any other: it is written if it can be encoded.
Nothing limits the texts of credentials on their way to a client. If one of them takes more than
65535 bytes, connections come up and are told of all the same, no login is written on any of them,
and the first thing that the central unit reads is whatever the client was given to send
(`not_logsIn_long`). `logsIn_run` states both sides for every history.

That nothing comes before the login rests on `Begun`: whatever is told of a connection or written on
it comes after the connection was opened.
-/

namespace Domotics

/-- Both texts can stand in a frame. -/
def Credentials.Fit (credentials : Credentials) : Prop :=
  credentials.username.utf8ByteSize ≤ 65535 ∧ credentials.password.utf8ByteSize ≤ 65535

/-- The message that logs in with credentials. -/
def Credentials.login (credentials : Credentials) : Message :=
  .logIn credentials.username credentials.password

namespace Credentials

variable {credentials : Credentials}

theorem fits_login : credentials.login.Fits ↔ credentials.Fit := by
  simp [login, Message.logIn, Message.Fits, Message.texts, Fit]

/-- A login of which a text does not fit has no frame. -/
theorem encode_login_ne_ok (long : ¬ credentials.Fit) (frame : List UInt8) :
    credentials.login.encode ≠ .ok frame := by
  rcases credentials.login.encode_cases with ⟨_, -, fits, -⟩ | ⟨e, he, -⟩
  · exact absurd (fits_login.mp fits) long
  · rw [he]
    exact nofun

end Credentials

namespace Client

/-- A client tells of a connection when it is opened. -/
theorem Does.opened_of_connected {client : Client} {deeds : List Deed} {step : ClientStep}
    {e : Epoch} (does : Does client deeds step) (he : .connected e ∈ step.posted) :
    .opened e ∈ deeds := by
  cases does with
  | rest | give _ _ _ | retry _ | drop _ | take _ | leave _ | finish _ => cases he
  | connect _ =>
    obtain rfl := ConnectionEvent.connected.inj (List.mem_singleton.mp he)
    exact List.mem_singleton_self _
  | fail _ _ | lose _ => cases List.mem_singleton.mp he
  | read _ _ =>
    obtain ⟨result, -, hr⟩ := List.mem_map.mp he
    cases result <;> cases hr

namespace History

variable {history : History} {deeds : List Deed} {step : ClientStep}
  {posted : List ConnectionEvent} {credentials : Credentials} {e : Epoch}

/-- A connection is opened before anything is told of it, or taken for it, or before it is left. -/
structure Begun (history : History) : Prop where
  connected : ∀ e, .connected e ∈ history.posted → .opened e ∈ history.deeds
  online : ∀ buffer, history.client.phase = .online buffer →
    .opened history.client.epoch ∈ history.deeds
  taken : ∀ e, history.takenFor e ≠ [] → .opened e ∈ history.deeds
  left : ∀ e, .left e ∈ history.deeds → .opened e ∈ history.deeds

theorem Begun.start (client : Client) (new : client.phase = .connecting) :
    (start client).Begun where
  connected := nofun
  online := fun _ online => nomatch new.symm.trans online
  taken := fun _ hne => absurd rfl hne
  left := nofun

theorem Begun.online_add (h : history.Begun) (does : Does history.client deeds step)
    {buffer : List UInt8} (online : step.client.phase = .online buffer) :
    .opened step.client.epoch ∈ history.deeds ++ deeds := by
  rcases does.of_online online with ⟨⟨before, hbefore⟩, hepoch⟩ | ⟨rfl, -⟩
  · rw [hepoch]
    exact List.mem_append_left _ (h.online before hbefore)
  · exact List.mem_append_right _ (List.mem_singleton_self _)

theorem Begun.taken_add (h : history.Begun) (does : Does history.client deeds step)
    (hne : (history.add deeds step).takenFor e ≠ []) : .opened e ∈ history.deeds ++ deeds := by
  refine List.mem_append_left _ ?_
  by_cases hbefore : history.takenFor e = []
  · rw [takenFor_add, hbefore, List.nil_append] at hne
    by_contra hnew
    refine hne (does.tookFor_eq_nil fun he buffer online => hnew ?_)
    exact he ▸ h.online buffer online
  · exact h.taken e hbefore

theorem Begun.add (h : history.Begun) (does : Does history.client deeds step)
    (some : posted <+: step.posted) : (history.add deeds { step with posted }).Begun where
  connected := by
    intro e he
    rcases List.mem_append.mp he with he | he
    · exact List.mem_append_left _ (h.connected e he)
    · exact List.mem_append_right _ (does.opened_of_connected (some.subset he))
  online := fun _ online => h.online_add does online
  taken := fun _ hne => h.taken_add does hne
  left := by
    intro e he
    refine List.mem_append_left _ ?_
    rcases List.mem_append.mp he with he | he
    · exact h.left e he
    · obtain ⟨rfl, -, ⟨buffer, online⟩, -⟩ := does.of_left he
      exact h.online buffer online

theorem Begun.run (h : history.Begun) (turns : List Turn) : (history.run turns).Begun := by
  induction turns generalizing history with
  | nil => exact h
  | cons turn turns ih =>
    exact ih (next_induction turn (fun h does some _ => Begun.add h does some) h)

/-- What is written on a connection is written after it was opened. -/
theorem Begun.opened_of_frames (h : history.Begun) {login : Message} (kept : history.Kept login)
    (hne : history.frames e ≠ []) : .opened e ∈ history.deeds := by
  by_contra hnew
  have htaken : history.takenFor e = [] := by_contra fun hne => hnew (h.taken e hne)
  have hleft : .left e ∉ history.deeds := fun hleft => hnew (h.left e hleft)
  rw [kept.frames, framesDue, if_neg hnew, if_neg hleft, htaken] at hne
  exact hne rfl

/-- How the connections begin of a client that was started with credentials. -/
structure LogsIn (credentials : Credentials) (history : History) : Prop where
  /-- If both texts fit, then the first frame on each connection that was told of, or that anything
  was written on, is the login with just these credentials. -/
  first : credentials.Fit → ∃ frame, credentials.login.encode = .ok frame ∧
    decode frame = .complete (.ok credentials.login) [] ∧
    ∀ e, .connected e ∈ history.posted ∨ history.frames e ≠ [] →
      ∃ rest, history.frames e = frame :: rest
  /-- Otherwise the login has no frame, and all that is written on a connection is what the client
  took for it and the logout. -/
  missing : ¬ credentials.Fit → (∀ frame, credentials.login.encode ≠ .ok frame) ∧
    ∀ e, history.frames e = (history.takenFor e).filterMap frame? ++
      if .left e ∈ history.deeds then (frame? logout).toList else []

/-- A login that has no frame is not written. -/
theorem Kept.frames_of_long (kept : history.Kept credentials.login) (long : ¬ credentials.Fit)
    (e : Epoch) : history.frames e = (history.takenFor e).filterMap frame? ++
      if .left e ∈ history.deeds then (frame? logout).toList else [] := by
  have hnone : frame? credentials.login = none := by
    unfold frame?
    cases hlogin : credentials.login.encode with
    | error _ => rfl
    | ok frame => exact absurd hlogin (Credentials.encode_login_ne_ok long frame)
  rw [kept.frames, framesDue, kept.login, hnone, Option.toList_none, ite_self, List.nil_append]

/-- Whatever a client goes through, the login comes first on each of its connections just if it can
be encoded, whatever the client is given to send and however often it connects. -/
theorem logsIn_run (address : ServerAddress) (credentials : Credentials) (turns : List Turn) :
    ((start (Client.start address credentials)).run turns).LogsIn credentials := by
  have hbegun := (Begun.start (Client.start address credentials) rfl).run turns
  have hkept : ((start (Client.start address credentials)).run turns).Kept credentials.login :=
    (Kept.start address credentials).run turns
  generalize (start (Client.start address credentials)).run turns = history at hbegun hkept
  refine ⟨fun fit => ?_, fun long => ?_⟩
  · obtain ⟨frame, hframe, hdecode⟩ := (Credentials.fits_login.mpr fit).exists_frame
    refine ⟨frame, hframe, hdecode, fun e he => ?_⟩
    have hopened : .opened e ∈ history.deeds :=
      he.elim (hbegun.connected e) (hbegun.opened_of_frames hkept)
    have hlogin : frame? history.client.login = some frame := by
      rw [hkept.login, frame?, hframe]
      rfl
    rw [hkept.frames, framesDue, if_pos hopened, hlogin, Option.toList_some, List.append_assoc]
    exact ⟨_, rfl⟩
  · exact ⟨Credentials.encode_login_ne_ok long, hkept.frames_of_long long⟩

/-- A client whose login has no frame tells of its first connection, and starts to listen there
before it has said who it is. -/
theorem frames_unannounced (address : ServerAddress) (long : ¬ credentials.Fit) :
    let history := (start (Client.start address credentials)).run
      [.happen .connected, .send 1 (.listeningStart rootId), .happen .taken]
    .connected 1 ∈ history.posted ∧ history.frames 1 = [[0x0c, 0, 0, 0, 0]] := by
  intro history
  have hkept : history.Kept credentials.login := (Kept.start address credentials).run _
  refine ⟨List.mem_singleton_self _, ?_⟩
  have htaken : history.takenFor 1 = [.listeningStart rootId] := rfl
  have hleft : .left 1 ∉ history.deeds := by
    change Deed.left 1 ∉ [.opened 1, .given 1 (.listeningStart rootId),
      .took (some 1) 1 (.listeningStart rootId)]
    decide
  rw [hkept.frames_of_long long, htaken, if_neg hleft]
  rfl

/-- The credentials of the settings are those that the engine starts its client with. -/
theorem exists_startClient (credentials : Credentials) :
    ∃ settings engine, Engine.ofSettings settings = .ok engine ∧ settings.login = credentials ∧
      .startClient 1 ⟨"unit", 18000⟩ credentials ∈ (engine.start none).engine.effects := by
  have hread : (readServerUrl "ohap://unit:18000").toOption.any (·.2 = ⟨"unit", 18000⟩) := by
    decide +kernel
  obtain ⟨⟨url, address⟩, hread, haddress⟩ := exists_ok_of_any hread
  obtain rfl : address = ⟨"unit", 18000⟩ := of_decide_eq_true haddress
  refine ⟨{ Settings.initial with server := ⟨"ohap://unit:18000", true⟩, login := credentials },
    ?engine, ?read, rfl, ?_⟩
  case read =>
    rw [Engine.ofSettings, Settings.centralUnit, CentralUnit.atUrl, hread]
    rfl
  exact List.mem_cons_self

/-- Nothing keeps credentials with a name of 65536 bytes from a client. Its connection is told of,
and the first frame on it starts to listen to the root. -/
theorem not_logsIn_long :
    let credentials : Credentials := ⟨String.ofList (List.replicate 65536 'a'), ""⟩
    let address : ServerAddress := ⟨"unit", 18000⟩
    (∃ settings engine, Engine.ofSettings settings = .ok engine ∧ settings.login = credentials ∧
      .startClient 1 address credentials ∈ (engine.start none).engine.effects) ∧
    let history := (start (Client.start address credentials)).run
      [.happen .connected, .send 1 (.listeningStart rootId), .happen .taken]
    .connected 1 ∈ history.posted ∧
      (Message.listeningStart rootId).encode = .ok [0x0c, 0, 0, 0, 0] ∧
      history.frames 1 = [[0x0c, 0, 0, 0, 0]] ∧
      ¬ ∃ frame rest, credentials.login.encode = .ok frame ∧ history.frames 1 = frame :: rest := by
  intro credentials address
  have hlength : credentials.username.utf8ByteSize = 65536 := by
    rw [← Text.length_bytes, Text.bytes, String.toList_ofList, List.length_flatMap,
      List.map_replicate, List.sum_replicate_nat]
    rfl
  have long : ¬ credentials.Fit := fun fit => absurd (hlength ▸ fit.1) (by decide)
  obtain ⟨hconnected, hframes⟩ := frames_unannounced address long
  refine ⟨exists_startClient credentials, hconnected, rfl, hframes, ?_⟩
  rintro ⟨frame, -, hframe, -⟩
  exact Credentials.encode_login_ne_ok long frame hframe

end History

end Client

end Domotics
