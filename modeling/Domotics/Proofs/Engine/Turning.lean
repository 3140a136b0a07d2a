import Domotics.Proofs.Connection.Farewell
import Domotics.Proofs.Engine.Rest
import Domotics.Proofs.Tree.Forgetting
/-!
# Turning to another central unit

An engine that turns to another central unit drops its client, and with it the connection and all
that was posted, before it forgets what it knew of the old unit. So whatever was listened to, nothing
of this is told to the old unit, and all that decides whether there is a client again is whether the
root is listened to, which stays. `Sound.setUrl_eq` says what comes of it, all in one.
-/

namespace Domotics

open Domotics.Tree

namespace Tree

variable {tree tree' : Tree} {root : Item} {removed : List Item}

/-- A list without repetition that holds one number at most. -/
theorem eq_ite_of_nodup {ids : List ItemId} {id : ItemId} {p : Prop} [Decidable p]
    (nodup : ids.Nodup) (h : ∀ x, x ∈ ids ↔ x = id ∧ p) : ids = if p then [id] else [] := by
  split
  · rename_i hp
    refine List.perm_singleton.mp ((List.perm_ext_iff_of_nodup nodup (List.nodup_singleton id)).mpr
      fun x => ?_)
    simp [h, hp]
  · rename_i hp
    refine List.eq_nil_iff_forall_not_mem.mpr fun x hx => hp ((h x).mp hx).2

/-- Only the root can still be listened to. -/
theorem Forgets.listeningContainers_eq (h : tree.Forgets root removed tree') :
    tree'.listeningContainers = if root.isListening then [rootId] else [] := by
  refine eq_ite_of_nodup nodup_listeningContainers fun x => ?_
  rw [mem_listeningContainers_iff]
  change (∃ item, tree'.get? x = some item ∧ item.isListening = true) ↔ _
  rw [h.left]
  split <;> simp_all

/-- Of what was listened to, only the root can still be there. -/
theorem Forgets.filter_contains (h : tree.Forgets root removed tree')
    (hroot : tree.get? rootId = some root) :
    tree.listeningContainers.filter tree'.contains = if root.isListening then [rootId] else [] := by
  refine eq_ite_of_nodup (nodup_listeningContainers.filter _) fun x => ?_
  rw [List.mem_filter, mem_listeningContainers_iff, contains_eq_isSome, h.left]
  change (∃ item, tree.get? x = some item ∧ item.isListening = true) ∧ _ ↔ _
  split
  · rename_i hx
    simp [hx, hroot]
  · rename_i hx
    simp [hx]

/-- Without a client, one is wanted again if the root is listened to, and then only the root waits. -/
theorem Forgets.itemsRemoved_eq (h : tree.Forgets root removed tree')
    (hroot : tree.get? rootId = some root) :
    Listening.itemsRemoved ⟨none, tree.listeningContainers, false⟩ tree' =
      if root.isListening then ([.startClient], ⟨none, [rootId], true⟩) else ([], .initial) := by
  unfold Listening.itemsRemoved Listening.reconcile Listening.count
  rw [h.listeningContainers_eq, h.filter_contains hroot]
  split <;> simp [Listening.initial]

end Tree

namespace Engine

variable {engine : Engine} {root : Item} {removed : List Item} {left : Tree}

/-! ## Dropping the client -/

/-- An engine that has dropped its client. Everything that is listened to waits. -/
def dropped (engine : Engine) : Engine :=
  { engine with
    client := none
    listening := ⟨none, engine.tree.listeningContainers, false⟩
    effects := engine.effects ++ engine.client.toList.map .stopClient }

/-- A sound engine without a client listens to nothing, so dropping a client comes to the same
whether or not there is one. -/
theorem Sound.dropClient_eq (h : engine.Sound) : engine.dropClient = engine.dropped := by
  unfold Engine.dropClient dropped
  cases hc : engine.client with
  | some number => simp [stopClient, hc, emit, Listening.clientStopped, tree]
  | none =>
    have hrunning : engine.listening.clientRunning = false := by
      rw [← h.client, hc]
      rfl
    have hnone : engine.tree.listened = ∅ := by
      refine Set.not_nonempty_iff_eq_empty.mp fun hsome => ?_
      exact Bool.false_ne_true (hrunning.symm.trans (h.listening.running.mpr hsome))
    obtain ⟨-, hlistening⟩ := h.listening_eq_initial hnone
    rw [listeningContainers_eq_nil_iff.mpr hnone]
    obtain ⟨unit, settings, listening, client, clientsStarted, watcher, journal, nextPing,
      effects⟩ := engine
    obtain rfl : client = none := hc
    obtain rfl : listening = .initial := hlistening
    simp [Listening.initial]

/-! ## Forgetting the items -/

/-- An engine without a client that has forgotten all items but the root. If the root is listened
to, it has started a client. -/
def bared (engine : Engine) (root : Item) (removed : List Item) (left : Tree) : Engine :=
  { engine.withTree { left with events := [] } with
    listening := if root.isListening then ⟨none, [rootId], true⟩ else .initial
    client := if root.isListening then some (engine.clientsStarted + 1) else none
    clientsStarted :=
      if root.isListening then engine.clientsStarted + 1 else engine.clientsStarted
    effects := engine.effects ++
      (if root.isListening then
        [.startClient (engine.clientsStarted + 1) engine.unit.address engine.unit.credentials]
      else []) ++ newsOf engine.watcher (removed.map goneEvent) }

/-- Takes over a tree from which items were removed. -/
def forgetting (engine : Engine) (left : Tree) : Engine :=
  let (actions, listening) := engine.listening.itemsRemoved left
  ({ engine.withTree left with listening }.carryOutAll actions).forwardTreeEvents

theorem forgetting_dropped (h : engine.tree.Forgets root removed left)
    (hroot : engine.tree.get? rootId = some root) (hnews : left.events = removed.map goneEvent) :
    engine.dropped.forgetting left = engine.dropped.bared root removed left := by
  simp only [forgetting, dropped, h.itemsRemoved_eq hroot, forwardTreeEvents_eq]
  cases hl : root.isListening with
  | false => simp [hl, carryOutAll, bared, withTree, tree, hnews]
  | true => simp [hl, carryOutAll, carryOut, startClient, emit, bared, withTree, tree, hnews]

/-! ## Turning -/

/-- An engine whose central unit is somewhere else. -/
def aimedAt (engine : Engine) (url : String) (parsed : Url) (address : ServerAddress) : Engine :=
  { engine with
    unit := { engine.unit with url := parsed, address }
    settings := { engine.settings with server := { engine.settings.server with url } } }

/-- The engine drops its client, forgets all but the root, and starts a client again if the root is
listened to. -/
theorem Sound.setUrl_eq (h : engine.Sound) (told : engine.tree.events = []) {url : String}
    {parsed : Url} {address : ServerAddress} (hread : readServerUrl url = .ok (parsed, address))
    (hroot : engine.tree.get? rootId = some root) :
    ∃ removed left, engine.tree.Forgets root removed left ∧ engine.setUrl url =
      .done ((engine.aimedAt url parsed address).dropped.bared root removed left) () := by
  have hunit : engine.unit.setUrl url = .ok { engine.unit with url := parsed, address } := by
    rw [CentralUnit.setUrl, hread]
    rfl
  have hidle : Idle engine (engine.aimedAt url parsed address) := ⟨fun _ => rfl, rfl, rfl, rfl⟩
  obtain ⟨removed, left, hforget, hforgets, hnews⟩ := h.wellFormed.forgets hroot
  rw [told, List.nil_append] at hnews
  refine ⟨removed, left, hforgets, ?_⟩
  have hset : engine.setUrl url =
      ((engine.aimedAt url parsed address).dropClient.check
        (forgetItems (engine.aimedAt url parsed address).dropClient.tree)).andThen
          fun left engine => .done (engine.forgetting left) () := by
    unfold Engine.setUrl
    rw [hunit]
    rfl
  have hleft : forgetItems (engine.aimedAt url parsed address).dropped.tree = .ok left := hforget
  rw [hset, (h.idle hidle).dropClient_eq, hleft]
  exact congrArg (Attempt.done · ()) (forgetting_dropped hforgets hroot hnews)

end Engine

namespace Running

open Engine

variable {running : Running} {engine : Engine} {root : Item} {removed : List Item} {left : Tree}

/-- What is left of a running engine that has turned to another central unit. -/
structure Turns (before : Running) (meanwhile : List Happening) (url : String) (parsed : Url)
    (address : ServerAddress) (root : Item) (removed : List Item) (after : Running) : Prop where
  /-- The central unit is somewhere else, also in the settings. -/
  aimed : after.engine.unit =
      { before.engine.unit with tree := after.engine.tree, url := parsed, address } ∧
    after.engine.settings =
      { before.engine.settings with server := { before.engine.settings.server with url } }
  /-- All items but the root are gone, and the root is as before, but without children. -/
  found : before.engine.tree.get? rootId = some root
  forgets : before.engine.tree.Forgets root removed after.engine.tree
  /-- What leaves the program are the last words of the client that was held, and then the watcher is
  told of each item that went. -/
  outputs : after.outputs = before.outputs ++ before.lastWords meanwhile ++
    removed.map fun item => .told before.engine.watcher (.treeEvent (goneEvent item))
  /-- The engine sends nothing, and records nothing as sent. -/
  silent : (∀ number epoch message, .send number epoch message ∉
      (before.engine.obey (.setUrl url)).engine.effects) ∧
    after.engine.journal = before.engine.journal
  /-- What the client still writes was in its queue, or it logs out, or logs in on a later
  connection. -/
  words : ∀ number client, before.client = some (number, client) → ∀ output,
    output ∈ before.lastWords meanwhile → ∃ epoch message, output = .wrote number epoch message ∧
      ((epoch, message) ∈ client.queue ∨ message = Client.logout ∨
        client.epoch < epoch ∧ message = client.login)
  /-- No connection is up, and no event waits. -/
  offline : after.engine.listening.online = none ∧ after.inbox = []
  /-- If the root is listened to, a new client is held, and the root waits for it. -/
  started : root.isListening = true → after.engine.listening.pending = [rootId] ∧
    after.engine.client = some (before.engine.clientsStarted + 1) ∧
    after.client = some (before.engine.clientsStarted + 1,
      .start address before.engine.unit.credentials)
  /-- When it has a connection, it is told to listen to the root, and nothing else. -/
  greeted : root.isListening = true → ∀ epoch,
    (after.engine.process (.connected epoch)).effects =
      [.notify before.engine.watcher (.status .connected),
        .send (before.engine.clientsStarted + 1) epoch (.listeningStart rootId)]
  /-- Otherwise none is held, and nothing waits. -/
  stopped : root.isListening = false →
    after.client = none ∧ after.engine.client = none ∧ after.engine.listening = .initial

/-- If the client is stopped first, then the rest is done without a client and without events that
wait. -/
theorem Rested.follow_stopping (h : running.Rested) (meanwhile : List Happening)
    {rest : List Effect}
    (heffects : engine.effects = running.engine.client.toList.map .stopClient ++ rest) :
    running.follow meanwhile engine = rest.foldl (perform meanwhile)
      { engine := engine.takeEffects.2, client := none, inbox := []
        outputs := running.outputs ++ running.lastWords meanwhile } := by
  have hcleared : Cleared { running with engine := engine.takeEffects.2 } := h.cleared
  have hstop := hcleared.foldl_perform_stopClient meanwhile
  change engine.effects.foldl (perform meanwhile) { running with engine := engine.takeEffects.2 } = _
  rw [heffects, ← h.held, List.foldl_append]
  exact congrArg (List.foldl (perform meanwhile) · rest) hstop

/-- What becomes of a running engine whose engine turns to another central unit. -/
theorem Rested.follow_turned (h : running.Rested) (meanwhile : List Happening) (url : String)
    (parsed : Url) (address : ServerAddress) :
    running.follow meanwhile
        ((running.engine.aimedAt url parsed address).dropped.bared root removed left) =
      { engine := ((running.engine.aimedAt url parsed address).dropped.bared root removed
          left).takeEffects.2
        client := if root.isListening then some (running.engine.clientsStarted + 1,
          .start address running.engine.unit.credentials) else none
        inbox := []
        outputs := running.outputs ++ running.lastWords meanwhile ++
          removed.map fun item => .told running.engine.watcher (.treeEvent (goneEvent item)) } := by
  have heffects : ((running.engine.aimedAt url parsed address).dropped.bared root removed
      left).effects = running.engine.client.toList.map .stopClient ++
        ((if root.isListening then [.startClient (running.engine.clientsStarted + 1) address
          running.engine.unit.credentials] else []) ++
        newsOf running.engine.watcher (removed.map goneEvent)) := by
    simp only [bared, dropped, aimedAt, h.effects, List.nil_append, List.append_assoc]
  rw [h.follow_stopping meanwhile heffects, List.foldl_append]
  split
  · rw [List.foldl_cons, List.foldl_nil, foldl_perform_newsOf]
    simp [perform]
  · rw [List.foldl_nil, foldl_perform_newsOf]
    simp

/-- What a client still writes was in its queue, or it logs out, or logs in on a later connection. -/
theorem exists_wrote_of_mem_lastWords {number : ClientNumber} {client : Client}
    (hc : running.client = some (number, client)) {meanwhile : List Happening} {output : Output}
    (h : output ∈ running.lastWords meanwhile) :
    ∃ epoch message, output = .wrote number epoch message ∧
      ((epoch, message) ∈ client.queue ∨ message = Client.logout ∨
        client.epoch < epoch ∧ message = client.login) := by
  rw [lastWords, hc] at h
  obtain ⟨⟨epoch, message⟩, hmem, rfl⟩ := List.mem_map.mp h
  exact ⟨epoch, message, rfl, (client.left_run _).written epoch message hmem⟩

theorem Rested.turns (h : running.Rested) (meanwhile : List Happening) {url : String}
    {parsed : Url} {address : ServerAddress} (hroot : running.engine.tree.get? rootId = some root)
    (hforgets : running.engine.tree.Forgets root removed left)
    (hset : running.engine.setUrl url = .done
      ((running.engine.aimedAt url parsed address).dropped.bared root removed left) ()) :
    running.Turns meanwhile url parsed address root removed (running.follow meanwhile
      ((running.engine.aimedAt url parsed address).dropped.bared root removed left)) := by
  have hobey : running.engine.obey (.setUrl url) = ⟨.ok true,
      (running.engine.aimedAt url parsed address).dropped.bared root removed left⟩ :=
    congrArg (·.answering true) hset
  rw [h.follow_turned meanwhile]
  refine ⟨⟨rfl, rfl⟩, hroot, ⟨hforgets.mem_iff, hforgets.placed, hforgets.nodup,
    hforgets.below_first, hforgets.left⟩, rfl, ⟨fun number epoch message hmem => ?_, rfl⟩,
    fun number client hc output hmem => exists_wrote_of_mem_lastWords hc hmem, ⟨?_, rfl⟩,
    fun hl => ?_, fun hl epoch => ?_, fun hl => ?_⟩
  · rw [hobey] at hmem
    cases hl : root.isListening <;> simp [bared, dropped, aimedAt, newsOf, h.effects, hl] at hmem
  · cases hl : root.isListening <;> simp [takeEffects, bared, hl, Listening.initial]
  · simp [takeEffects, bared, dropped, aimedAt, hl]
  · have hclient : ((running.engine.aimedAt url parsed address).dropped.bared root removed
        left).takeEffects.2.client = some (running.engine.clientsStarted + 1) := by
      simp [takeEffects, bared, dropped, aimedAt, hl]
    have hcontainers := hforgets.listeningContainers_eq
    rw [hl] at hcontainers
    have hleft : ((running.engine.aimedAt url parsed address).dropped.bared root removed
        left).takeEffects.2.tree.listeningContainers = [rootId] := hcontainers
    rw [effects_process_connected hclient, hleft]
    rfl
  · simp [takeEffects, bared, hl]

/-- However it went on before, an engine that is given a URL that names no central unit does nothing,
and otherwise it turns to that unit. -/
theorem turned_run {settings : Settings} (h : ofSettings settings = .ok engine) (moves : List Move)
    (meanwhile : List Happening) (url : String) :
    let before := (ofEngine engine).run moves
    let attempt := before.attempt meanwhile (.command (.setUrl url))
    (∀ e, readServerUrl url = .error e → attempt = (.error e, before)) ∧
      ∀ parsed address, readServerUrl url = .ok (parsed, address) → attempt.1 = .ok true ∧
        ∃ root removed, before.Turns meanwhile url parsed address root removed attempt.2 := by
  intro before attempt
  have hrested : before.Rested := rested_of_ofSettings h moves
  refine ⟨fun e hread => ?_, fun parsed address hread => ?_⟩
  · have hset : before.engine.setUrl url = ⟨.error e, before.engine⟩ := by
      rw [Engine.setUrl, CentralUnit.setUrl, hread]
      rfl
    have hoperate : before.engine.operate (.command (.setUrl url)) = ⟨.error e, before.engine⟩ :=
      congrArg (·.answering true) hset
    have hattempt : attempt = _ := attempt_eq hoperate meanwhile
    rw [hattempt, follow_self hrested.effects]
  · obtain ⟨root, hroot, -⟩ := hrested.sound.wellFormed.root
    obtain ⟨removed, left, hforgets, hset⟩ := hrested.sound.setUrl_eq hrested.told hread hroot
    have hoperate : before.engine.operate (.command (.setUrl url)) = ⟨.ok true,
        (before.engine.aimedAt url parsed address).dropped.bared root removed left⟩ :=
      congrArg (·.answering true) hset
    have hattempt : attempt = _ := attempt_eq hoperate meanwhile
    rw [hattempt]
    exact ⟨rfl, root, removed, hrested.turns meanwhile hroot hforgets hset⟩

/-- While a lamp in a room is known and the room and the root are listened to, an engine turns to
another central unit, but not to one whose URL has no host. -/
theorem turned_run_room :
    ∃ settings engine, ofSettings settings = .ok engine ∧
      let before := (ofEngine engine).run [.operation [] (.start none), .happening .connected,
        .next [], .post (.message 1 (.container ⟨1, rootId, "Kitchen", "", false⟩)),
        .post (.message 1 (.binaryDevice .actuator ⟨2, 1, "Lamp", "", false⟩ false)), .next [],
        .next [], .operation [] (.command (.startListening 1))]
      let turn := before.attempt [] (.command (.setUrl "ohap://other:18001"))
      (before.engine.tree.listeningContainers = [rootId, 1] ∧ before.engine.isOnline = true) ∧
        (∃ e, before.attempt [] (.command (.setUrl "ohap:18001")) = (.error e, before)) ∧
        turn.1 = .ok true ∧ ∃ parsed address root removed,
          before.Turns [] "ohap://other:18001" parsed address root removed turn.2 := by
  have hbefore : (ofSettings { Settings.initial with
      server := ⟨"ohap://unit:18000", true⟩ }).toOption.any fun engine =>
        let before := (ofEngine engine).run [.operation [] (.start none), .happening .connected,
          .next [], .post (.message 1 (.container ⟨1, rootId, "Kitchen", "", false⟩)),
          .post (.message 1 (.binaryDevice .actuator ⟨2, 1, "Lamp", "", false⟩ false)), .next [],
          .next [], .operation [] (.command (.startListening 1))]
        before.engine.tree.listeningContainers = [rootId, 1] ∧ before.engine.isOnline = true := by
    decide +kernel
  obtain ⟨engine, h, hbefore⟩ := exists_ok_of_any hbefore
  have hread : (readServerUrl "ohap://other:18001").toOption.any fun _ => true := by decide +kernel
  obtain ⟨⟨parsed, address⟩, hread, -⟩ := exists_ok_of_any hread
  have hrefused : (readServerUrl "ohap:18001").toOption = none := by decide +kernel
  obtain ⟨e, hrefused⟩ : ∃ e, readServerUrl "ohap:18001" = .error e := by
    cases hresult : readServerUrl "ohap:18001" with
    | error e => exact ⟨e, rfl⟩
    | ok found => simp [hresult, Except.toOption] at hrefused
  refine ⟨_, engine, h, of_decide_eq_true hbefore, ⟨e, ?_⟩, ?_⟩
  · exact (turned_run h _ [] "ohap:18001").1 e hrefused
  · obtain ⟨hok, root, removed, hturns⟩ :=
      (turned_run h _ [] "ohap://other:18001").2 parsed address hread
    exact ⟨hok, parsed, address, root, removed, hturns⟩

end Running

end Domotics
