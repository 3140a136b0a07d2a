import Domotics.Proofs.Engine.Following
/-!
# Operations keep the central unit informed

What a user has an engine do, and what it does about an event, is followed, whether or not it
succeeds (`Sound.operate`, `Sound.process`). Only two things lose items: a message, and turning to
another central unit. A new connection is treated apart, because the central unit knows nothing of
what it was told on the last one (`Sound.connected`).
-/

namespace Domotics.Engine

open Domotics.Tree Listening

variable {engine engine' : Engine} {α β : Type}

/-- What holds where an attempt is refused, and after what comes next where it is not, holds of the
engine that is left. -/
theorem Attempt.andThen_induction {P : Engine → Prop} {attempt : Attempt α}
    {next : α → Engine → Attempt β}
    (refused : ∀ e, attempt.result = .error e → P attempt.engine)
    (accepted : ∀ a, attempt.result = .ok a → P (next a attempt.engine).engine) :
    P (attempt.andThen next).engine := by
  unfold Attempt.andThen
  split
  · exact accepted _ ‹_›
  · exact refused _ ‹_›

/-! ## Listening -/

/-- Carrying out is not seen in the tree. -/
theorem allAlike_carriedOut (engine : Engine) (actions : List Action) :
    AllAlike engine.tree (engine.carryOutAll actions).forwardTreeEvents.tree := by
  have h := (idle_forwardTreeEvents (engine.carryOutAll actions)).allAlike
  rw [(carryOutAll_spec actions engine).1] at h
  exact h

theorem Sound.settle (h : engine.Sound) {outcome : Outcome} (wf : outcome.tree.WellFormed)
    (follows : engine.listening.Follows engine.tree outcome)
    (kinds : ∀ x, outcome.tree.kind? x = engine.tree.kind? x) :
    Keeps engine (engine.settle outcome) :=
  ⟨follows_of_outcome h.client wf follows (.refl _),
    fun x => (allAlike_carriedOut _ outcome.actions x).1.trans (kinds x)⟩

theorem Sound.startListening (h : engine.Sound) (id : ItemId) :
    Keeps engine (engine.startListening id).engine := by
  refine Attempt.andThen_induction (fun _ _ => h.keeps) fun outcome hstart => ?_
  obtain ⟨_, hset⟩ := exists_setListening_of_start hstart
  obtain ⟨hfollows, hkinds⟩ := h.listening.start hstart
  exact h.settle (h.wellFormed.setListening hset) hfollows hkinds

theorem Sound.stopListening (h : engine.Sound) (id : ItemId) :
    Keeps engine (engine.stopListening id).engine := by
  refine Attempt.andThen_induction (fun _ _ => h.keeps) fun outcome hstop => ?_
  obtain ⟨_, hset⟩ := exists_setListening_of_stop hstop
  obtain ⟨hfollows, hkinds⟩ := h.listening.stop hstop
  exact h.settle (h.wellFormed.setListening hset) hfollows hkinds

theorem listened_stopListening (engine : Engine) (id : ItemId) :
    (engine.stopListening id).engine.tree.listened = engine.tree.listened \ {id} := by
  refine Attempt.andThen_induction (P := fun left => left.tree.listened = _) ?_ ?_
  · intro e hstop
    exact (Set.sdiff_singleton_eq_self (not_mem_listened_of_stop hstop)).symm
  · intro outcome hstop
    exact (allAlike_carriedOut _ outcome.actions).listened_eq.trans (listened_of_stop hstop)

/-- Stopping to listen to containers one after the other is followed, and they are not listened to
any more. -/
theorem Sound.stopListening_foldl (ids : List ItemId) : ∀ {engine : Engine}, engine.Sound →
    Keeps engine (ids.foldl (fun engine id => (engine.stopListening id).engine) engine) ∧
      (ids.foldl (fun engine id => (engine.stopListening id).engine) engine).tree.listened =
        engine.tree.listened \ {id | id ∈ ids} := by
  induction ids with
  | nil =>
    intro engine h
    refine ⟨h.keeps, ?_⟩
    simp
  | cons id ids ih =>
    intro engine h
    have hfirst := h.stopListening id
    obtain ⟨hrest, hlistened⟩ := ih hfirst.sound
    refine ⟨hfirst.trans hrest, hlistened.trans ?_⟩
    rw [listened_stopListening]
    ext x
    simp only [Set.mem_sdiff, Set.mem_singleton_iff, Set.mem_ofPred_eq, List.mem_cons]
    tauto

/-- Without anything that is listened to, there is no client and nothing waits. -/
theorem Sound.listening_eq_initial (h : engine.Sound) (hnone : engine.tree.listened = ∅) :
    engine.client = none ∧ engine.listening = .initial := by
  have hrunning : engine.listening.clientRunning = false := by
    refine Bool.not_eq_true _ ▸ fun hr => ?_
    exact Set.not_nonempty_iff_eq_empty.mpr hnone (h.listening.running.mp hr)
  have honline : engine.listening.online = none := by
    refine Option.not_isSome_iff_eq_none.mp fun hon => ?_
    rw [h.listening.online hon] at hrunning
    cases hrunning
  have hpending : engine.listening.pending = [] := by
    refine List.eq_nil_iff_forall_not_mem.mpr fun id hid => ?_
    rw [(h.listening.pending honline).2, hnone] at hid
    exact hid
  refine ⟨?_, ?_⟩
  · rw [← Option.not_isSome_iff_eq_none, h.client, hrunning]
    exact Bool.false_ne_true
  · cases hl : engine.listening with
    | mk online pending running =>
      rw [hl] at honline hpending hrunning
      obtain rfl : online = none := honline
      obtain rfl : pending = [] := hpending
      obtain rfl : running = false := hrunning
      rfl

theorem Sound.stop (h : engine.Sound) : Keeps engine engine.stop := by
  obtain ⟨hkeeps, hlistened⟩ := Sound.stopListening_foldl engine.tree.listeningContainers h
  unfold Engine.stop
  generalize engine.tree.listeningContainers.foldl
    (fun engine id => (engine.stopListening id).engine) engine = quiet at hkeeps hlistened ⊢
  have hnone : quiet.tree.listened = ∅ := by
    rw [hlistened]
    ext x
    simp [mem_listeningContainers_iff]
  obtain ⟨hclient, hlistening⟩ := hkeeps.sound.listening_eq_initial hnone
  have hcontainers := listeningContainers_eq_nil_iff.mpr hnone
  refine hkeeps.trans (hkeeps.sound.keeps_idle ?_)
  simp only [stopClient, hclient, clientStopped, hcontainers]
  exact ⟨fun _ => rfl, hlistening.symm, hclient.symm, rfl⟩

theorem Sound.autoConnect (h : engine.Sound) : Keeps engine engine.autoConnect.engine := by
  unfold Engine.autoConnect
  split
  · exact h.startListening rootId
  · exact h.keeps

theorem Sound.start (h : engine.Sound) (watcher : Option String) :
    Keeps engine (engine.start watcher).engine := by
  have hwatched : Keeps engine (engine.watchedBy watcher) :=
    h.keeps_idle ⟨fun _ => rfl, rfl, rfl, rfl⟩
  exact hwatched.trans hwatched.sound.autoConnect

/-! ## Sending -/

theorem Sound.sendPing (h : engine.Sound) : Keeps engine engine.sendPing.engine := by
  refine Attempt.andThen_induction (fun _ _ => h.keeps) fun epoch _ => ?_
  have hnext : Idle engine { engine with nextPing := engine.nextPing + 1 } :=
    ⟨fun _ => rfl, rfl, rfl, rfl⟩
  exact h.keeps_idle (hnext.trans (idle_send _ epoch rfl))

/-- A value that a device is given changes nothing that listening depends on. -/
theorem Sound.setValue (h : engine.Sound) {id : ItemId} {value : DeviceValue} {tree : Tree}
    (hset : engine.tree.setValue id value = .ok tree) :
    Keeps engine (engine.withTree tree).forwardTreeEvents := by
  have hboth : tree.WellFormed ∧ AllAlike engine.tree tree := by
    cases value with
    | binary on => exact ⟨h.wellFormed.setBinary hset, allAlike_setBinary hset⟩
    | decimal quantity => exact ⟨h.wellFormed.setDecimal hset, allAlike_setDecimal hset⟩
  obtain ⟨wf, same⟩ := hboth
  have hsettled : Keeps engine (engine.settle ⟨tree, engine.listening, []⟩) :=
    h.settle wf (h.listening.follows_of_allAlike same) fun x => (same x).1
  exact hsettled

theorem Sound.sendValue (h : engine.Sound) (id : ItemId) (value : DeviceValue) :
    Keeps engine (engine.sendValue id value).engine := by
  refine Attempt.andThen_induction (fun _ _ => h.keeps) fun epoch _ => ?_
  have hsent : Keeps engine (engine.send epoch (.valueChanged id value)).engine :=
    h.keeps_idle (idle_send engine epoch (by cases value <;> rfl))
  refine Attempt.andThen_induction (fun _ _ => hsent) fun _ _ => ?_
  refine Attempt.andThen_induction (fun _ _ => hsent) fun tree hset => ?_
  exact hsent.trans (hsent.sound.setValue hset)

theorem Sound.sendBinary (h : engine.Sound) (id : ItemId) (on : Bool) :
    Keeps engine (engine.sendBinary id on).engine :=
  Attempt.andThen_induction (fun _ _ => h.keeps) fun _ _ => h.sendValue id (.binary on)

theorem Sound.sendDecimal (h : engine.Sound) (id : ItemId) (value : Binary64) :
    Keeps engine (engine.sendDecimal id value).engine :=
  Attempt.andThen_induction (fun _ _ => h.keeps) fun _ _ => h.sendValue id (.decimal _)

/-! ## Turning to another central unit -/

/-- Another central unit begins with the same tree. -/
theorem tree_of_setUrl {unit unit' : CentralUnit} {url : String} (h : unit.setUrl url = .ok unit') :
    unit'.tree = unit.tree := by
  obtain ⟨_, -, h⟩ := bind_eq_ok_iff.mp h
  obtain rfl := Except.ok.inj h
  rfl

/-- Everything but the root can be forgotten. -/
theorem exists_forgetItems {tree : Tree} (wf : tree.WellFormed) :
    ∃ tree', forgetItems tree = .ok tree' ∧ tree'.WellFormed ∧ Prunes tree tree' := by
  obtain ⟨children, hk⟩ := wf.kids?_root
  unfold forgetItems
  rw [children_eq_ok_iff_kids?.mpr hk]
  refine ⟨_, rfl, ?_⟩
  clear hk
  induction children generalizing tree with
  | nil => exact ⟨wf, .refl tree⟩
  | cons id children ih =>
    obtain ⟨wf', hprunes⟩ := ih (wf.remove id)
    exact ⟨wf', (wf.prunes_remove id).trans hprunes⟩

/-- A client that is dropped leaves no connection, and everything listened to waits. -/
theorem Sound.dropClient (h : engine.Sound) :
    engine.dropClient.tree = engine.tree ∧ engine.dropClient.marks = engine.marks ∧
      engine.dropClient.client.isSome = engine.dropClient.listening.clientRunning ∧
      engine.dropClient.listening.online = none ∧
      engine.dropClient.listening.Aligned engine.dropClient.tree := by
  unfold Engine.dropClient
  cases hc : engine.client with
  | none =>
    have hrunning := h.client
    rw [hc] at hrunning
    refine ⟨rfl, rfl, h.client, ?_, h.listening.toAligned⟩
    refine Option.not_isSome_iff_eq_none.mp fun hon => ?_
    exact Bool.false_ne_true (hrunning.trans (h.listening.online hon))
  | some number =>
    simp only [stopClient, hc, Option.isSome_some, if_true]
    refine ⟨rfl, ?_, rfl, rfl, aligned_of_pending _ _⟩
    have hstop : Effect.mark? (.stopClient number) = none := rfl
    exact (engine.idle_emit hstop).marks

theorem Sound.setUrl (h : engine.Sound) (url : String) :
    Follows engine (engine.setUrl url).engine := by
  refine Attempt.andThen_induction (fun _ _ => h.keeps.toFollows) fun unit hunit => ?_
  have hturned : Idle engine { engine with
      unit, settings := { engine.settings with server := { engine.settings.server with url } } } :=
    ⟨fun x => congrArg (Tree.get? · x) (tree_of_setUrl hunit), rfl, rfl, rfl⟩
  obtain ⟨htree, hmarks, hclient, honline, haligned⟩ := (h.idle hturned).dropClient
  replace htree := htree.trans (tree_of_setUrl hunit)
  replace hmarks := hmarks.trans hturned.marks
  dsimp only [check]
  generalize Engine.dropClient _ = turned at htree hmarks hclient honline haligned ⊢
  have wf : turned.tree.WellFormed := by
    rw [htree]
    exact h.wellFormed
  obtain ⟨tree', hforget, wf', hprunes⟩ := exists_forgetItems wf
  refine Attempt.andThen_induction (fun e herror => ?_) fun forgotten hforgotten => ?_
  · cases hforget.symm.trans herror
  · obtain rfl := Except.ok.inj (hforget.symm.trans hforgotten)
    have hremoved := haligned.itemsRemoved hprunes.listened_eq fun _ x => by
      rw [contains_eq_isSome]
      exact hprunes.mem_listened_iff
    obtain ⟨hsound, marks, hsent, htold⟩ := follows_of_outcome hclient wf' hremoved (.refl _)
    refine ⟨hsound, marks, hmarks ▸ hsent, ?_⟩
    rw [htree] at htold
    exact htold.of_offline honline

/-! ## Operations of a user -/

theorem Sound.operate (h : engine.Sound) (operation : Operation) :
    Follows engine (engine.operate operation).engine := by
  cases operation with
  | watch watcher =>
    have hwatched : Idle engine (engine.watchedBy watcher) := ⟨fun _ => rfl, rfl, rfl, rfl⟩
    exact (h.keeps_idle hwatched).toFollows
  | start watcher => exact (h.start watcher).toFollows
  | stop => exact h.stop.toFollows
  | reconnect watcher => exact (h.stop.trans (h.stop.sound.start watcher)).toFollows
  | command command =>
    cases command with
    | startListening id => exact (h.startListening id).toFollows
    | stopListening id => exact (h.stopListening id).toFollows
    | setBinary id on => exact (h.sendBinary id on).toFollows
    | setDecimal id value => exact (h.sendDecimal id value).toFollows
    | ping => exact h.sendPing.toFollows
    | setUrl url => exact h.setUrl url
    | reconnect => exact (h.stop.trans h.stop.sound.autoConnect).toFollows
    | quit => exact h.keeps.toFollows

/-! ## Events -/

/-- Before anything is carried out, a watcher is told of a message and of what was wrong with it. -/
theorem idle_told (engine : Engine) (message : Message) (dispatched : Dispatched) :
    let applied := { (engine.record .received message).withTree dispatched.tree with
      listening := dispatched.listening }
    let told := (applied.notify (.message message)).forwardTreeEvents
    Idle { engine.withTree dispatched.tree with listening := dispatched.listening }
      (match dispatched.problem with
        | some text => told.notify (.problem text)
        | none => told) := by
  intro applied told
  have happlied : Idle
      { engine.withTree dispatched.tree with listening := dispatched.listening } applied :=
    ⟨fun _ => rfl, rfl, rfl, rfl⟩
  have htold := happlied.trans
    ((applied.idle_notify (.message message)).trans (idle_forwardTreeEvents _))
  split
  · exact htold.trans (told.idle_notify _)
  · exact htold

theorem Sound.receive (h : engine.Sound) (online : engine.listening.online.isSome = true)
    (epoch : Epoch) (message : Message) : Follows engine (engine.receive epoch message) := by
  have hkeeps := h.wellFormed.dispatch h.listening online engine.settings.behavior.listenAll epoch
    message
  exact follows_of_outcome h.client hkeeps.wellFormed hkeeps.follows
    (engine.idle_told message _)

/-- A connection that is lost is not told anything any more. -/
theorem Sound.disconnected (h : engine.Sound) (epoch : Epoch) :
    Follows engine (engine.process (.disconnected epoch)) := by
  simp only [Engine.process]
  split
  · rename_i honline
    have hlost : engine.listening.disconnected engine.tree epoch =
        { engine.listening with online := none, pending := engine.tree.listeningContainers } :=
      if_pos honline
    have hsound := h.listening.disconnected epoch
    rw [hlost] at hsound ⊢
    have hfollows : Follows engine { engine with
        listening := { engine.listening with
          online := none, pending := engine.tree.listeningContainers } } :=
      ⟨⟨h.wellFormed, h.client, hsound⟩, [], (List.append_nil _).symm, tells_nil_of_offline rfl⟩
    exact hfollows.trans (hfollows.sound.keeps_idle (idle_notify _ _))
  · exact h.keeps.toFollows

/-- Every event but a new connection is followed. -/
theorem Sound.process (h : engine.Sound) {event : ConnectionEvent}
    (other : ∀ epoch, event ≠ .connected epoch) : Follows engine (engine.process event) := by
  cases event with
  | connected epoch => exact absurd rfl (other epoch)
  | connectFailed attempt reason =>
    exact (h.keeps_idle (engine.idle_notify _)).toFollows
  | disconnected epoch => exact h.disconnected epoch
  | message epoch message =>
    simp only [Engine.process]
    split
    · exact h.receive (by simp_all) epoch message
    · exact h.keeps.toFollows
  | protocolError epoch text =>
    simp only [Engine.process]
    split
    · exact (h.keeps_idle (engine.idle_notify _)).toFollows
    · exact h.keeps.toFollows

/-! ## A new connection -/

/-- An engine that has noticed a connection, before it sends anything on it. -/
def greeting (engine : Engine) (epoch : Epoch) : Engine :=
  let credentials := engine.unit.credentials
  let logged := engine.record .sent (.logIn credentials.username credentials.password)
  { logged with listening := (engine.listening.connected engine.tree epoch).2 }.notify
    (.status .connected)

theorem idle_greeting (engine : Engine) (epoch : Epoch) :
    Idle { engine with listening := (engine.listening.connected engine.tree epoch).2 }
      (engine.greeting epoch) := by
  unfold greeting
  refine Idle.trans ?_ (idle_notify _ _)
  exact ⟨fun _ => rfl, rfl, rfl, rfl⟩

/-- A connection is only acted on while a client is held. -/
theorem process_connected (engine : Engine) (epoch : Epoch) :
    engine.process (.connected epoch) =
      if engine.client.isSome then
        (engine.greeting epoch).carryOutAll (engine.listening.connected engine.tree epoch).1
      else engine := by
  unfold Engine.process
  cases engine.client <;> rfl

/-- While a client is held, what is to be sent is handed to it in order. -/
theorem effects_carryOutAll_send {number : ClientNumber} (epoch : Epoch) (ids : List ItemId) :
    ∀ engine : Engine, engine.client = some number →
      (engine.carryOutAll (ids.map fun id => .send epoch (.listeningStart id))).effects =
        engine.effects ++ ids.map fun id => .send number epoch (.listeningStart id) := by
  induction ids with
  | nil => exact fun _ _ => (List.append_nil _).symm
  | cons id ids ih =>
    intro engine hc
    have hsent : engine.carryOut (.send epoch (.listeningStart id)) =
        (engine.record .sent (.listeningStart id)).emit
          (.send number epoch (.listeningStart id)) := by
      simp only [carryOut, send, hc]
      rfl
    have hclient : (engine.carryOut (.send epoch (.listeningStart id))).client = some number := by
      rw [hsent]
      exact hc
    refine (ih _ hclient).trans ?_
    rw [hsent]
    exact (List.append_cons _ _ _).symm

/-- On a new connection, the watcher is told, and then the central unit is told of each container
that is listened to. -/
theorem effects_process_connected {number : ClientNumber} (hc : engine.client = some number)
    (epoch : Epoch) :
    (engine.process (.connected epoch)).effects =
      engine.effects ++ .notify engine.watcher (.status .connected) ::
        engine.tree.listeningContainers.map fun id => .send number epoch (.listeningStart id) := by
  rw [process_connected, hc]
  have hsent := effects_carryOutAll_send epoch engine.tree.listeningContainers
    (engine.greeting epoch) hc
  exact hsent.trans (List.append_cons _ _ _).symm

theorem online_process_connected (hc : engine.client.isSome = true) (epoch : Epoch) :
    (engine.process (.connected epoch)).listening.online = some epoch := by
  obtain ⟨-, hlistening, -⟩ :=
    carryOutAll_spec (engine.listening.connected engine.tree epoch).1 (engine.greeting epoch)
  rw [process_connected, if_pos hc, hlistening, (engine.idle_greeting epoch).listening]
  rfl

/-- A new connection is told of what is listened to, and of nothing else. -/
theorem Sound.connected (h : engine.Sound) (hc : engine.client.isSome = true) (epoch : Epoch) :
    (engine.process (.connected epoch)).Sound ∧
      (engine.process (.connected epoch)).tree = engine.tree ∧
      (engine.process (.connected epoch)).marks =
        engine.marks ++ engine.tree.listeningContainers.map .started := by
  have hsound := h.listening.connected (h.client.symm.trans hc) epoch
  obtain ⟨hruns, htold⟩ := told_connected engine.listening engine.tree epoch
  rw [process_connected, if_pos hc]
  obtain ⟨htree, hlistening, hclient, hmarks⟩ :=
    carryOutAll_spec (engine.listening.connected engine.tree epoch).1 (engine.greeting epoch)
  have hgreeting := engine.idle_greeting epoch
  refine ⟨⟨?_, ?_, ?_⟩, htree, ?_⟩
  · rw [htree]
    exact h.wellFormed
  · rw [hclient, hlistening, hgreeting.client, hgreeting.listening, hc]
    exact hruns.trans (h.client.symm.trans hc).symm
  · rw [htree, hlistening, hgreeting.listening]
    exact hsound
  · rw [hmarks, hgreeting.marks, hgreeting.client, hc, htold]
    rfl

end Domotics.Engine
