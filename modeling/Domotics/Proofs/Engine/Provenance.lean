import Domotics.Proofs.Engine.Lifecycle
/-!
# Clients are not mixed up

Each client counts its connections from one, so an epoch does not say whose connection it is. That
an engine never takes one client for another rests on two things: what a client posted is forgotten
when it is told to stop, and no connection is taken to be up any more then.

A `Story` follows a running engine and keeps the `Deed`s that are seen of it: which clients were
started and told to stop, what they posted, what of that was processed, and which messages were
handed to them. `Deed.Rightful` says by what came before it that a deed concerns the client that
runs, and for a message also that its epoch comes from that client. However a story goes, all its
deeds are rightful, and what is yet to be processed was posted by the client that runs
(`unmixed_run`). `Seen` and `Tracks` are what each effect keeps up on the way of `Contact.Path`.
-/

namespace Domotics.Running

open Engine

/-- What is seen of an engine and its clients. -/
inductive Deed where
  | started (client : ClientNumber)
  | posted (client : ClientNumber) (event : ConnectionEvent)
  | processed (client : ClientNumber) (event : ConnectionEvent)
  /-- A message for a connection was handed to the client that ran, if there was one. -/
  | handed (client : Option ClientNumber) (epoch : Epoch) (message : Message)
  | stopped (client : ClientNumber)
deriving DecidableEq

/-- What is seen when an effect is done. -/
def deedsOf (meanwhile : List Happening) (running : Running) : Effect → List Deed
  | .notify _ _ => []
  | .startClient number _ _ => [.started number]
  | .send _ epoch message => [.handed running.held epoch message]
  | .stopClient _ =>
    match running.client with
    | none => []
    | some (number, client) =>
      (client.run (meanwhile ++ [.toldToStop])).posted.map (.posted number) ++ [.stopped number]

/-- What is seen when effects are done one after the other. -/
def deedsOfAll (meanwhile : List Happening) : Running → List Effect → List Deed
  | _, [] => []
  | running, effect :: effects =>
    running.deedsOf meanwhile effect ++
      deedsOfAll meanwhile (running.perform meanwhile effect) effects

/-- What is seen when everything is done that an engine wants done. -/
def deedsFollowing (running : Running) (meanwhile : List Happening) (engine : Engine) :
    List Deed :=
  let (effects, engine) := engine.takeEffects
  deedsOfAll meanwhile { running with engine } effects

/-- What is seen in a move. -/
def deeds (running : Running) : Move → List Deed
  | .operation meanwhile operation =>
    running.deedsFollowing meanwhile (running.engine.operate operation).engine
  | .next meanwhile =>
    match running.inbox with
    | [] => []
    | (number, event) :: inbox =>
      .processed number event ::
        deedsFollowing { running with inbox } meanwhile (running.engine.process event)
  | .happening happening =>
    match running.client with
    | none => []
    | some (number, client) => (client.step happening).posted.map (.posted number)
  | .post event =>
    match running.client with
    | none => []
    | some (number, _) => [.posted number event]
  | .stray meanwhile event =>
    running.deedsFollowing meanwhile (running.engine.process event)

/-- Whether every event that is processed in a move was posted. -/
def Move.isOwn : Move → Bool
  | stray _ _ => false
  | _ => true

/-- A running engine and all that was seen of it. -/
structure Story where
  running : Running
  deeds : List Deed

/-- Nothing was seen yet. -/
def Story.start (engine : Engine) : Story :=
  ⟨ofEngine engine, []⟩

/-- The story after one more move. -/
def Story.next (story : Story) (move : Move) : Story :=
  ⟨story.running.move move, story.deeds ++ story.running.deeds move⟩

/-- The story after moves one after the other. -/
def Story.run (story : Story) (moves : List Move) : Story :=
  moves.foldl next story

/-! ## What deeds tell -/

/-- The client that runs after a deed. -/
def Deed.holding (held : Option ClientNumber) : Deed → Option ClientNumber
  | started number => some number
  | stopped _ => none
  | _ => held

/-- The connection that was noticed last, and whose it is, after a deed. -/
def Deed.noticing (line : Option (ClientNumber × Epoch)) : Deed → Option (ClientNumber × Epoch)
  | processed number (.connected epoch) => some (number, epoch)
  | _ => line

/-- The client that runs after some deeds: the last that was started, unless it was stopped. -/
def holder (deeds : List Deed) : Option ClientNumber :=
  deeds.foldl Deed.holding none

/-- The connection that was noticed last, and whose it is. -/
def noticedLast (deeds : List Deed) : Option (ClientNumber × Epoch) :=
  deeds.foldl Deed.noticing none

/-- After what came before it, a deed concerns the right client. -/
def Deed.Rightful (before : List Deed) : Deed → Prop
  -- Clients are told apart by their numbers.
  | started number => holder before = none ∧ .started number ∉ before
  | posted number _ => holder before = some number
  | processed number event => holder before = some number ∧ .posted number event ∈ before
  -- The epoch is that of the connection noticed last, and the client is the one that has it.
  | handed client epoch _ => ∃ number, client = some number ∧ holder before = some number ∧
      noticedLast before = some (number, epoch)
  | stopped number => holder before = some number

/-- Each deed was rightful after those before it. -/
def AllRightful (deeds : List Deed) : Prop :=
  ∀ before deed, before ++ [deed] <+: deeds → deed.Rightful before

theorem allRightful_nil : AllRightful [] := by
  intro before deed hprefix
  exact absurd (List.prefix_nil.mp hprefix) (List.append_ne_nil_of_right_ne_nil _ nofun)

theorem allRightful_concat {deeds : List Deed} {deed : Deed} (h : AllRightful deeds)
    (rightful : deed.Rightful deeds) : AllRightful (deeds ++ [deed]) := by
  intro before last hprefix
  rcases List.prefix_concat_iff.mp hprefix with heq | hprefix
  · obtain ⟨rfl, hlast⟩ := List.append_inj' heq rfl
    obtain rfl := List.singleton_inj.mp hlast
    exact rightful
  · exact h before last hprefix

/-! ## What effects keep up -/

variable {contact contact' : Contact} {deeds : List Deed} {deed : Deed} {number : ClientNumber}
  {story : Story} {engine : Engine} {line line' : Option Epoch}

/-- All deeds were rightful, and they tell how things stand. -/
structure Seen (contact : Contact) (deeds : List Deed) : Prop where
  holder : holder deeds = contact.client
  started : ∀ number, .started number ∈ deeds → number ≤ contact.started
  line : ∀ epoch, contact.line = some epoch →
    ∃ number, contact.client = some number ∧ noticedLast deeds = some (number, epoch)
  rightful : AllRightful deeds

theorem Seen.add (h : Seen contact deeds) (rightful : deed.Rightful deeds)
    (client : deed.holding contact.client = contact'.client)
    (started : ∀ number, .started number ∈ deeds ++ [deed] → number ≤ contact'.started)
    (line : ∀ epoch, contact'.line = some epoch → ∃ number, contact'.client = some number ∧
      deed.noticing (noticedLast deeds) = some (number, epoch)) :
    Seen contact' (deeds ++ [deed]) where
  holder := by
    unfold Running.holder
    rw [List.foldl_append]
    exact (congrArg deed.holding h.holder).trans client
  started := started
  line := by
    unfold noticedLast
    rw [List.foldl_append]
    exact line
  rightful := allRightful_concat h.rightful rightful

/-- A deed that starts no client does not count. -/
theorem Seen.started_concat (h : Seen contact deeds) (other : ∀ number, deed ≠ .started number) :
    ∀ number, .started number ∈ deeds ++ [deed] → number ≤ contact.started := by
  intro number hd
  rcases List.mem_append.mp hd with hd | hd
  · exact h.started number hd
  · exact absurd (List.mem_singleton.mp hd).symm (other number)

theorem Seen.posted (h : Seen contact deeds) (client : contact.client = some number)
    (events : List ConnectionEvent) : Seen contact (deeds ++ events.map (.posted number)) := by
  induction events generalizing deeds with
  | nil => exact (List.append_nil deeds).symm ▸ h
  | cons event events ih =>
    have hfirst : Seen contact (deeds ++ [.posted number event]) :=
      h.add (h.holder.trans client) rfl (h.started_concat nofun) h.line
    rw [List.map_cons, List.append_cons]
    exact ih hfirst

/-- How things stand with a running engine: the client that runs is the one held, it posted all that
is yet to be processed, and the deeds tell as much. -/
structure Tracks (contact : Contact) (story : Story) : Prop extends Seen contact story.deeds where
  held : story.running.held = contact.client
  inbox : ∀ number event, (number, event) ∈ story.running.inbox →
    contact.client = some number ∧ .posted number event ∈ story.deeds

theorem Tracks.mem_inbox (h : Tracks contact story) {event : ConnectionEvent}
    (hi : (number, event) ∈ story.running.inbox) (more : List Deed) :
    contact.client = some number ∧ .posted number event ∈ story.deeds ++ more := by
  obtain ⟨hclient, hposted⟩ := h.inbox number event hi
  exact ⟨hclient, List.mem_append_left more hposted⟩

/-- The story after an effect was done. -/
def Story.perform (meanwhile : List Happening) (story : Story) (effect : Effect) : Story :=
  ⟨story.running.perform meanwhile effect, story.deeds ++ story.running.deedsOf meanwhile effect⟩

theorem foldl_perform (meanwhile : List Happening) (effects : List Effect) : ∀ story : Story,
    effects.foldl (Story.perform meanwhile) story =
      ⟨effects.foldl (Running.perform meanwhile) story.running,
        story.deeds ++ deedsOfAll meanwhile story.running effects⟩ := by
  induction effects with
  | nil => exact fun story => congrArg (Story.mk _) (List.append_nil _).symm
  | cons effect effects ih =>
    refine fun story => (ih _).trans ?_
    rw [Story.perform, List.append_assoc]
    rfl

theorem Tracks.send {started : Nat} {epoch : Epoch}
    (h : Tracks ⟨some number, started, some epoch⟩ story) (meanwhile : List Happening)
    (message : Message) : Tracks ⟨some number, started, some epoch⟩
      (story.perform meanwhile (.send number epoch message)) := by
  obtain ⟨held, hheld, hline⟩ := h.line epoch rfl
  obtain rfl := Option.some.inj hheld
  have hrightful : Deed.Rightful story.deeds (.handed story.running.held epoch message) :=
    ⟨number, h.held, h.holder, hline⟩
  have hheld' := (held_perform_send story.running meanwhile number epoch message).trans h.held
  exact ⟨h.toSeen.add hrightful rfl (h.started_concat nofun) h.line, hheld',
    fun _ _ hi => h.mem_inbox hi _⟩

theorem Tracks.startClient {started : Nat} (h : Tracks ⟨none, started, none⟩ story)
    (meanwhile : List Happening) (address : ServerAddress) (credentials : Credentials) :
    Tracks ⟨some (started + 1), started + 1, none⟩
      (story.perform meanwhile (.startClient (started + 1) address credentials)) := by
  have hfresh : .started (started + 1) ∉ story.deeds :=
    fun hd => absurd (h.started _ hd) (Nat.not_succ_le_self started)
  refine ⟨h.toSeen.add ⟨h.holder, hfresh⟩ rfl ?_ nofun, rfl, ?_⟩
  · intro number hd
    rcases List.mem_append.mp hd with hd | hd
    · exact Nat.le_succ_of_le (h.started number hd)
    · obtain rfl := Deed.started.inj (List.mem_singleton.mp hd)
      exact Nat.le_refl _
  · -- No client ran, so there is nothing that could be yet to be processed.
    intro number event hi
    cases (h.inbox number event hi).1

theorem Tracks.stopClient {started : Nat} (h : Tracks ⟨some number, started, none⟩ story)
    (meanwhile : List Happening) : Tracks ⟨none, started, none⟩
      (story.perform meanwhile (.stopClient number)) := by
  obtain ⟨⟨number', client⟩, hclient, hnumber⟩ := Option.map_eq_some_iff.mp h.held
  obtain rfl : number' = number := hnumber
  -- What the client posts before it stops is forgotten with the rest.
  have hposted := h.toSeen.posted rfl (client.run (meanwhile ++ [.toldToStop])).posted
  have hother : ∀ number, Deed.stopped number' ≠ .started number := by simp
  have hstopped : Seen ⟨none, started, none⟩ (_ ++ [.stopped number']) :=
    hposted.add hposted.holder rfl (hposted.started_concat hother) (by simp)
  simp only [Story.perform, Running.perform, deedsOf, hclient]
  rw [← List.append_assoc]
  exact ⟨hstopped, rfl, by simp⟩

/-- What follows a path keeps up how things stand. -/
theorem Tracks.foldl_perform {effects : List Effect} (path : contact.Path effects contact')
    (meanwhile : List Happening) : ∀ story : Story, Tracks contact story →
      Tracks contact' (effects.foldl (Story.perform meanwhile) story) := by
  induction path with
  | done => exact fun _ h => h
  | lapse _ ih =>
    exact fun story h => ih story ⟨⟨h.holder, h.started, nofun, h.rightful⟩, h.held, h.inbox⟩
  | notify watcher notice _ ih =>
    refine fun story h => ih _ ?_
    simp only [Story.perform, Running.perform, deedsOf, List.append_nil]
    exact ⟨h.toSeen, h.held, h.inbox⟩
  | send message _ ih => exact fun story h => ih _ (h.send meanwhile message)
  | startClient address credentials _ ih =>
    exact fun story h => ih _ (h.startClient meanwhile address credentials)
  | stopClient _ ih => exact fun story h => ih _ (h.stopClient meanwhile)

/-! ## Moves -/

/-- What the client that runs posts is yet to be processed. -/
theorem Tracks.posted (h : Tracks contact story) (client : contact.client = some number)
    (events : List ConnectionEvent) {running : Running} (held : running.held = contact.client)
    (inbox : running.inbox = story.running.inbox ++ events.map fun event => (number, event)) :
    Tracks contact ⟨running, story.deeds ++ events.map (.posted number)⟩ := by
  refine ⟨h.toSeen.posted client events, held, fun number' event hi => ?_⟩
  change (number', event) ∈ running.inbox at hi
  rw [inbox, List.mem_append] at hi
  rcases hi with hi | hi
  · exact h.mem_inbox hi _
  · obtain ⟨event', he, heq⟩ := List.mem_map.mp hi
    obtain ⟨rfl, rfl⟩ := Prod.mk.inj heq
    exact ⟨client, List.mem_append_right _ (List.mem_map_of_mem he)⟩

/-- What moves keep up: the engine agrees with how things stand. -/
structure Story.Traced (story : Story) : Prop where
  linked : story.running.Linked
  tracks : Tracks (story.running.engine.contactOn story.running.engine.listening.online) story

theorem Story.Traced.start {settings : Settings} (h : ofSettings settings = .ok engine) :
    (Story.start engine).Traced := by
  obtain ⟨-, -, honline⟩ := sound_of_ofSettings h
  refine ⟨.start h, ?_⟩
  change Tracks (engine.contactOn engine.listening.online) _
  rw [honline, contactOn_of_ofSettings h]
  exact ⟨⟨rfl, nofun, nofun, allRightful_nil⟩, rfl, nofun⟩

/-- Everything is done that an engine wants done. -/
theorem Story.traced_follow (story : Story)
    (h : Tracks (story.running.engine.contactOn line) story) (linked : story.running.Linked)
    (sound : engine.Sound)
    (leads : LeadsOn line engine.listening.online story.running.engine engine)
    (meanwhile : List Happening) :
    Story.Traced ⟨story.running.follow meanwhile engine,
      story.deeds ++ story.running.deedsFollowing meanwhile engine⟩ := by
  refine ⟨linked.follow sound leads meanwhile, ?_⟩
  obtain ⟨effects, heffects, hpath⟩ := leads
  rw [linked.effects, List.nil_append] at heffects
  rw [← heffects] at hpath
  have hengine : (story.running.follow meanwhile engine).engine = engine.takeEffects.2 :=
    engine_foldl_perform meanwhile _ _
  have hready : Tracks (story.running.engine.contactOn line)
      ⟨{ story.running with engine := engine.takeEffects.2 }, story.deeds⟩ :=
    ⟨h.toSeen, h.held, h.inbox⟩
  have hdone := Tracks.foldl_perform hpath meanwhile _ hready
  rw [Running.foldl_perform] at hdone
  rw [hengine]
  exact hdone

/-- An event that is processed was posted by the client that runs. -/
theorem Tracks.process {event : ConnectionEvent}
    {inbox : List (ClientNumber × ConnectionEvent)}
    (h : Tracks (engine.contactOn engine.listening.online) story)
    (posted : story.running.inbox = (number, event) :: inbox) :
    Tracks (engine.contactOn (engine.noticed event))
      ⟨{ story.running with inbox }, story.deeds ++ [.processed number event]⟩ := by
  obtain ⟨hclient, hd⟩ := h.inbox number event (posted ▸ List.mem_cons_self)
  refine ⟨h.toSeen.add ⟨h.holder.trans hclient, hd⟩ rfl (h.started_concat nofun) ?_, h.held, ?_⟩
  · cases event with
    | connected epoch =>
      intro line hline
      obtain rfl : epoch = line := Option.some.inj hline
      exact ⟨number, hclient, rfl⟩
    | connectFailed _ _ | disconnected _ | message _ _ | protocolError _ _ => exact h.line
  · exact fun number' event' hi => h.mem_inbox (posted ▸ List.mem_cons_of_mem _ hi) _

theorem Story.Traced.process (h : story.Traced) (meanwhile : List Happening) :
    (story.next (.next meanwhile)).Traced := by
  cases hinbox : story.running.inbox with
  | nil =>
    simp only [Story.next, Running.deeds, move_next_of_nil hinbox, hinbox, List.append_nil]
    exact h
  | cons posted inbox =>
    obtain ⟨number, event⟩ := posted
    have hlinked : Linked { story.running with inbox } :=
      ⟨h.linked.sound, h.linked.effects, h.linked.held⟩
    simp only [Story.next, Running.deeds, move_next_of_cons hinbox, hinbox]
    rw [List.append_cons]
    exact Story.traced_follow ⟨_, _⟩ (h.tracks.process hinbox) hlinked
      (h.linked.sound.processed event) (h.linked.sound.leads_process event) meanwhile

theorem Story.Traced.happen (h : story.Traced) (happening : Happening) :
    (story.next (.happening happening)).Traced := by
  have hlinked := h.linked.happen happening
  cases hclient : story.running.client with
  | none =>
    simp only [Story.next, Running.deeds, Running.move, Running.happen, hclient, List.append_nil]
    exact h
  | some held =>
    obtain ⟨number, client⟩ := held
    have hheld : story.running.engine.client = some number :=
      h.linked.held.symm.trans (congrArg (Option.map Prod.fst) hclient)
    simp only [Story.next, Running.deeds, Running.move, Running.happen, hclient] at hlinked ⊢
    exact ⟨hlinked, h.tracks.posted hheld _ hheld.symm rfl⟩

theorem Story.Traced.post (h : story.Traced) (event : ConnectionEvent) :
    (story.next (.post event)).Traced := by
  have hlinked := h.linked.post event
  cases hclient : story.running.client with
  | none =>
    simp only [Story.next, Running.deeds, Running.move, Running.post, hclient, List.append_nil]
    exact h
  | some held =>
    obtain ⟨number, client⟩ := held
    have hheld : story.running.engine.client = some number :=
      h.linked.held.symm.trans (congrArg (Option.map Prod.fst) hclient)
    simp only [Story.next, Running.deeds, Running.move, Running.post, hclient] at hlinked ⊢
    exact ⟨hlinked, h.tracks.posted hheld [event] hheld.symm rfl⟩

theorem Story.Traced.next (h : story.Traced) {move : Move} (own : move.isOwn = true) :
    (story.next move).Traced := by
  cases move with
  | operation meanwhile operation =>
    exact story.traced_follow h.tracks h.linked (h.linked.sound.operate operation).sound
      (h.linked.sound.leads_operate operation) meanwhile
  | next meanwhile => exact h.process meanwhile
  | happening happening => exact h.happen happening
  | post event => exact h.post event
  | stray meanwhile event => cases own

theorem Story.Traced.run (h : story.Traced) {moves : List Move}
    (own : ∀ move ∈ moves, move.isOwn = true) : (story.run moves).Traced := by
  induction moves generalizing story with
  | nil => exact h
  | cons move moves ih =>
    obtain ⟨hfirst, hrest⟩ := List.forall_mem_cons.mp own
    exact ih (h.next hfirst) hrest

/-- Clients are not mixed up. -/
structure Story.Unmixed (story : Story) : Prop where
  /-- The client that the engine takes to be held is the one that runs. -/
  held : story.running.engine.client = story.running.held
  /-- That is the last one that was started, unless it was told to stop. -/
  holder : holder story.deeds = story.running.held
  /-- All that is yet to be processed was posted by that client. -/
  inbox : ∀ number event, (number, event) ∈ story.running.inbox →
    story.running.held = some number ∧ .posted number event ∈ story.deeds
  /-- Whatever was done concerned the client that ran, and its connection. -/
  rightful : AllRightful story.deeds

theorem Story.Traced.unmixed (h : story.Traced) : story.Unmixed where
  held := h.linked.held.symm
  holder := h.tracks.holder.trans h.tracks.held.symm
  inbox := fun number event hi => by
    obtain ⟨hclient, hposted⟩ := h.tracks.inbox number event hi
    exact ⟨h.linked.held.trans hclient, hposted⟩
  rightful := h.tracks.rightful

/-- However the story of a new engine goes, clients are not mixed up, if only what clients posted is
processed. -/
theorem Story.unmixed_run {settings : Settings} (h : ofSettings settings = .ok engine)
    {moves : List Move} (own : ∀ move ∈ moves, move.isOwn = true) :
    ((Story.start engine).run moves).Unmixed :=
  ((Story.Traced.start h).run own).unmixed

/-- When an engine has connected a second time, both clients were sent something on a connection
with the same epoch. -/
theorem Story.unmixed_run_reconnected :
    ∃ settings engine, ofSettings settings = .ok engine ∧
      let story := (Story.start engine).run [.operation [] (.start none), .happening .connected,
        .next [], .operation [.received [7]] (.reconnect none), .happening .connected, .next []]
      (.handed (some 1) 1 (.listeningStart rootId) ∈ story.deeds ∧
        .handed (some 2) 1 (.listeningStart rootId) ∈ story.deeds) ∧ story.Unmixed := by
  have hsent : (ofSettings { Settings.initial with
      server := ⟨"ohap://unit:18000", true⟩ }).toOption.any fun engine =>
        let story := (Story.start engine).run [.operation [] (.start none), .happening .connected,
          .next [], .operation [.received [7]] (.reconnect none), .happening .connected, .next []]
        .handed (some 1) 1 (.listeningStart rootId) ∈ story.deeds ∧
          .handed (some 2) 1 (.listeningStart rootId) ∈ story.deeds := by
    decide +kernel
  obtain ⟨engine, h, hsent⟩ := exists_ok_of_any hsent
  exact ⟨_, engine, h, of_decide_eq_true hsent, unmixed_run h (by simp [Move.isOwn])⟩

end Domotics.Running
