import Domotics.Proofs.Connection.Farewell
import Domotics.Proofs.Engine.Rest
import Domotics.Proofs.Message.RoundTrip
/-!
# Commands are carried out whole or not at all

A command goes through checks and steps, and any of them could stop it half way: the value of a
device is sent before the device gets it here. It never does. What is checked first is enough for
what comes later, as long as the engine is sound: while a connection is up there is a client to send
through, and an item that was read as a device takes a value. So a command that fails leaves the
engine as it was (`Sound.whole_obey`), and a value that is sent is the value that the device has
(`sendReading_cases`). `obeyed_run` says the same of a running engine, whatever went before.
-/

namespace Domotics

open Domotics.Tree

namespace Item

variable {item : Item}

theorem binaryValue_eq_ok_iff {on : Bool} :
    item.binaryValue = .ok on ↔ ∃ role, item.kind = .device role (.binary on) := by
  obtain ⟨_, _, _, _, _, _ | ⟨_, _ | _⟩⟩ := item <;>
    simp [binaryValue, value, bind, Except.bind]

theorem quantity_eq_ok_iff {quantity : Quantity} :
    item.quantity = .ok quantity ↔ ∃ role, item.kind = .device role (.decimal quantity) := by
  obtain ⟨_, _, _, _, _, _ | ⟨_, _ | _⟩⟩ := item <;>
    simp [Item.quantity, value, bind, Except.bind]

theorem withValue_of_kind {role : DeviceRole} {old value : DeviceValue}
    (h : item.kind = .device role old) :
    item.withValue value = { item with kind := .device role value } := by
  simp only [withValue, h]

end Item

namespace Engine

variable {engine : Engine} {id : ItemId} {α β : Type}

/-! ## Attempts that leave nothing behind -/

/-- If the attempt fails, it leaves the engine as it was. -/
def Attempt.Whole (attempt : Attempt α) (engine : Engine) : Prop :=
  ∀ e, attempt.result = .error e → attempt.engine = engine

namespace Attempt

theorem whole_done {left : Engine} {answer : α} : (done left answer).Whole engine :=
  nofun

theorem Whole.answering {attempt : Attempt α} (h : attempt.Whole engine) (answer : β) :
    (attempt.answering answer).Whole engine := by
  intro e he
  cases hresult : attempt.result with
  | error cause => exact h cause hresult
  | ok a => simp [Attempt.answering, hresult, Except.map] at he

/-- A check that fails leaves the engine as it was. -/
theorem Whole.check {result : Except Error α} {next : α → Engine → Attempt β}
    (h : ∀ a, result = .ok a → (next a engine).Whole engine) :
    ((engine.check result).andThen next).Whole engine := by
  cases result with
  | error cause => exact fun _ _ => rfl
  | ok a => exact h a rfl

end Attempt

open Attempt

theorem whole_settling (engine : Engine) (outcome : Except Error Listening.Outcome) :
    (engine.settling outcome).Whole engine :=
  .check fun _ _ => whole_done

/-! ## Sending -/

/-- An engine that has handed a message to its client. -/
def handed (engine : Engine) (number : ClientNumber) (epoch : Epoch) (message : Message) : Engine :=
  (engine.record .sent message).emit (.send number epoch message)

theorem send_eq {number : ClientNumber} (hc : engine.client = some number) (epoch : Epoch)
    (message : Message) : engine.send epoch message = .done (engine.handed number epoch message) () := by
  simp [send, hc, handed]

theorem whole_send {left : Engine} (held : left.client.isSome = true) {epoch : Epoch}
    {message : Message} : (left.send epoch message).Whole engine := by
  obtain ⟨number, hc⟩ := Option.isSome_iff_exists.mp held
  rw [send_eq hc]
  exact whole_done

/-- While a connection is up there is a client to send through. -/
theorem Sound.exists_client (h : engine.Sound) {epoch : Epoch}
    (honline : engine.onlineEpoch = .ok epoch) :
    engine.listening.online = some epoch ∧ ∃ number, engine.client = some number := by
  have hon := online_of_onlineEpoch honline
  refine ⟨hon, Option.isSome_iff_exists.mp ?_⟩
  rw [h.client]
  exact h.listening.online (by simp [hon])

theorem Sound.whole_sendPing (h : engine.Sound) : engine.sendPing.Whole engine := by
  refine .check fun epoch honline => ?_
  obtain ⟨-, number, hc⟩ := h.exists_client honline
  refine Whole.answering (whole_send ?_) _
  exact Option.isSome_iff_exists.mpr ⟨number, hc⟩

/-- An engine that has sent the value of a device and given it to the device. -/
def conveyed (engine : Engine) (number : ClientNumber) (epoch : Epoch) (id : ItemId)
    (value : DeviceValue) : Engine :=
  { engine.withTree (engine.tree.modify id (·.withValue value)) with
    journal := engine.journal.record .sent (.valueChanged id value)
    effects := engine.effects ++ [.send number epoch (.valueChanged id value),
      .notify engine.watcher (.treeEvent (.itemChanged id))] }

/-- A value that an item takes is sent and given to it, if a connection is up. -/
theorem Sound.sendValue_cases (h : engine.Sound) (told : engine.tree.events = [])
    {value : DeviceValue} (hset : engine.tree.setValue id value =
      .ok ((engine.tree.modify id (·.withValue value)).note (.itemChanged id))) :
    engine.sendValue id value = ⟨.error .notConnected, engine⟩ ∨
      ∃ epoch number, engine.listening.online = some epoch ∧ engine.client = some number ∧
        engine.sendValue id value = .done (engine.conveyed number epoch id value) () := by
  cases honline : engine.onlineEpoch with
  | error e =>
    refine .inl ?_
    obtain rfl : e = .notConnected := by
      unfold onlineEpoch at honline
      split at honline
      · cases honline
      · exact (Except.error.inj honline).symm
    simp [Engine.sendValue, honline, check, andThen]
  | ok epoch =>
    obtain ⟨hon, number, hc⟩ := h.exists_client honline
    refine .inr ⟨epoch, number, hon, hc, ?_⟩
    have hsame : (engine.handed number epoch (.valueChanged id value)).tree = engine.tree := rfl
    have hnone : (engine.tree.modify id (·.withValue value)).events = [] := told
    simp only [Engine.sendValue, honline, check, andThen, send_eq hc, done, hsame, hset]
    rw [forwardTreeEvents_note hnone]
    simp [conveyed, handed, record, notify, emit, withTree, tree]

/-- The value that an item carries is read, and another one is sent and given to it: all of this, or
nothing of it. -/
theorem Sound.sendReading_cases (h : engine.Sound) (told : engine.tree.events = [])
    {read : Item → Except Error α} {value : α → DeviceValue}
    (hset : ∀ item a, engine.tree.get? id = some item → read item = .ok a →
      engine.tree.setValue id (value a) =
        .ok ((engine.tree.modify id (·.withValue (value a))).note (.itemChanged id))) :
    let attempt := (engine.check ((engine.tree.item id).bind read)).andThen
      fun a engine => engine.sendValue id (value a)
    (∃ e, attempt = ⟨.error e, engine⟩) ∨
      ∃ item a epoch number, engine.tree.get? id = some item ∧ read item = .ok a ∧
        engine.listening.online = some epoch ∧ engine.client = some number ∧
        attempt = .done (engine.conveyed number epoch id (value a)) () := by
  intro attempt
  cases hread : (engine.tree.item id).bind read with
  | error e => exact .inl ⟨e, by simp [attempt, hread, check, andThen]⟩
  | ok a =>
    obtain ⟨item, hitem, ha⟩ := bind_eq_ok_iff.mp hread
    have hattempt : attempt = engine.sendValue id (value a) := by
      simp [attempt, hread, check, andThen]
    rw [hattempt]
    have hget := get?_of_item_eq_ok hitem
    rcases h.sendValue_cases told (hset item a hget ha) with hnone | ⟨epoch, number, hon, hc, hdone⟩
    · exact .inl ⟨_, hnone⟩
    · exact .inr ⟨item, a, epoch, number, hget, ha, hon, hc, hdone⟩

/-- A binary device that is switched is told of and switched, or nothing happens. -/
theorem Sound.sendBinary_cases (h : engine.Sound) (told : engine.tree.events = []) (id : ItemId)
    (on : Bool) : (∃ e, engine.sendBinary id on = ⟨.error e, engine⟩) ∨
      ∃ item role old epoch number, engine.tree.get? id = some item ∧
        item.kind = .device role (.binary old) ∧ engine.listening.online = some epoch ∧
        engine.client = some number ∧
        engine.sendBinary id on = .done (engine.conveyed number epoch id (.binary on)) () := by
  have hset : ∀ item old, engine.tree.get? id = some item → item.binaryValue = .ok old →
      engine.tree.setValue id (.binary on) =
        .ok ((engine.tree.modify id (·.withValue (.binary on))).note (.itemChanged id)) := by
    intro item old hget hread
    simp only [Tree.setValue, Tree.setBinary, item_eq_ok hget, hread, bind, Except.bind]
    rfl
  rcases h.sendReading_cases told hset with hnone | ⟨item, old, epoch, number, hget, hread, hdone⟩
  · exact .inl hnone
  · obtain ⟨role, hkind⟩ := Item.binaryValue_eq_ok_iff.mp hread
    exact .inr ⟨item, role, old, epoch, number, hget, hkind, hdone⟩

theorem Sound.sendDecimal_cases (h : engine.Sound) (told : engine.tree.events = []) (id : ItemId)
    (value : Binary64) : (∃ e, engine.sendDecimal id value = ⟨.error e, engine⟩) ∨
      ∃ item role quantity epoch number, engine.tree.get? id = some item ∧
        item.kind = .device role (.decimal quantity) ∧ engine.listening.online = some epoch ∧
        engine.client = some number ∧ engine.sendDecimal id value =
          .done (engine.conveyed number epoch id (.decimal { quantity with value })) () := by
  have hset : ∀ item quantity, engine.tree.get? id = some item → item.quantity = .ok quantity →
      engine.tree.setValue id (.decimal { quantity with value }) =
        .ok ((engine.tree.modify id (·.withValue (.decimal { quantity with value }))).note
          (.itemChanged id)) := by
    intro item quantity hget hread
    simp only [Tree.setValue, Tree.setDecimal, item_eq_ok hget, hread, bind, Except.bind, pure,
      Except.pure]
  rcases h.sendReading_cases told hset with hnone | ⟨item, quantity, epoch, number, hget, hread,
    hdone⟩
  · exact .inl hnone
  · obtain ⟨role, hkind⟩ := Item.quantity_eq_ok_iff.mp hread
    exact .inr ⟨item, role, quantity, epoch, number, hget, hkind, hdone⟩

/-! ## Commands -/

/-- A container can be listened to. -/
theorem exists_start (l : Listening) {tree : Tree} {item : Item} (hget : tree.get? id = some item)
    (hc : item.isContainer = true) : ∃ outcome, l.start tree id = .ok outcome := by
  have hmark := isListening_eq_ok_iff.mpr ⟨item, hget, hc, rfl⟩
  obtain ⟨⟨changed, tree'⟩, hset⟩ : ∃ changed, tree.setListening id true = .ok changed := by
    rcases tree.setListening_cases id true with ⟨e, herror, -⟩ | ⟨-, hset⟩ | ⟨-, hset⟩
    · cases hmark.symm.trans herror
    · exact ⟨_, hset⟩
    · exact ⟨_, hset⟩
  simp only [Listening.start, hset, bind, Except.bind, pure, Except.pure]
  split
  · exact ⟨_, rfl⟩
  · split <;> exact ⟨_, rfl⟩

/-- The root can always be listened to, so connecting on start does not fail. -/
theorem Sound.autoConnect_eq_ok (h : engine.Sound) : engine.autoConnect.result = .ok () := by
  unfold Engine.autoConnect
  split
  · obtain ⟨root, hroot, hc, -⟩ := h.wellFormed.root
    obtain ⟨outcome, hstart⟩ := exists_start engine.listening hroot hc
    simp [Engine.startListening, settling, check, andThen, hstart, done]
  · rfl

theorem Sound.whole_setUrl (h : engine.Sound) (url : String) : (engine.setUrl url).Whole engine := by
  refine .check fun unit hunit => ?_
  have hturned : Idle engine { engine with
      unit, settings := { engine.settings with server := { engine.settings.server with url } } } :=
    ⟨fun x => congrArg (Tree.get? · x) (tree_of_setUrl hunit), rfl, rfl, rfl⟩
  have htree := (h.idle hturned).dropClient.1
  dsimp only
  generalize Engine.dropClient _ = turned at htree ⊢
  obtain ⟨forgotten, hforget, -⟩ := exists_forgetItems (htree ▸ (h.idle hturned).wellFormed)
  rw [hforget]
  exact whole_done

/-- A command that fails leaves an engine at rest as it was. -/
theorem Sound.whole_obey (h : engine.Sound) (told : engine.tree.events = []) (command : Command) :
    (engine.obey command).Whole engine := by
  cases command with
  | startListening id => exact (engine.whole_settling _).answering true
  | stopListening id => exact (engine.whole_settling _).answering true
  | setBinary id on =>
    refine Whole.answering (fun e he => ?_) true
    rcases h.sendBinary_cases told id on with ⟨e', hnone⟩ | ⟨_, _, _, _, _, -, -, -, -, hdone⟩
    · rw [hnone]
    · rw [hdone] at he
      cases he
  | setDecimal id value =>
    refine Whole.answering (fun e he => ?_) true
    rcases h.sendDecimal_cases told id value with ⟨e', hnone⟩ | ⟨_, _, _, _, _, -, -, -, -, hdone⟩
    · rw [hnone]
    · rw [hdone] at he
      cases he
  | ping => exact h.whole_sendPing.answering true
  | setUrl url => exact (h.whole_setUrl url).answering true
  | reconnect =>
    refine Whole.answering (fun e he => ?_) true
    cases h.stop.sound.autoConnect_eq_ok.symm.trans he
  | quit => exact whole_done

end Engine

namespace Running

open Engine

variable {running : Running} {engine : Engine}

/-- The client that is held has not ended. -/
def Alive (running : Running) : Prop :=
  ∀ number client, running.client = some (number, client) → client.phase ≠ .ended

/-- What is left of a running engine that sends a value for a device. -/
structure Conveys (before : Running) (message : Message) (id : ItemId) (changed : Item)
    (after : Running) : Prop where
  /-- The client is given one message, for the connection that is up. -/
  handed : ∃ epoch number client, before.engine.listening.online = some epoch ∧
    before.client = some (number, client) ∧
    after.client = some (number, { client with queue := client.queue ++ [(epoch, message)] })
  /-- The message can be written, and is read as just that message. -/
  frame : ∃ frame, message.encode = .ok frame ∧ decode frame = .complete (.ok message) []
  /-- The watcher is told of the device. -/
  told : after.outputs =
    before.outputs ++ [.told before.engine.watcher (.treeEvent (.itemChanged id))]
  /-- The device is changed, and no other item. -/
  items : ∀ x, after.engine.tree.get? x =
    if x = id then some changed else before.engine.tree.get? x
  /-- The message is recorded as sent, and nothing else is changed. -/
  rest : after.engine = { before.engine.withTree after.engine.tree with
    journal := before.engine.journal.record .sent message } ∧ after.inbox = before.inbox

/-- How a command turns out. -/
structure Obeys (before : Running) (command : Command) (result : Except Error Bool)
    (after : Running) : Prop where
  /-- If it fails, everything is as before. -/
  refused : ∀ e, result = .error e → after = before
  /-- If a binary device is switched, the device has the new position, and it was sent. -/
  switched : ∀ id on goOn, command = .setBinary id on → result = .ok goOn →
    ∃ item role old, before.engine.tree.get? id = some item ∧
      item.kind = .device role (.binary old) ∧
      before.Conveys (.binaryValueChanged id on) id
        { item with kind := .device role (.binary on) } after
  /-- If a decimal device is set, it has the new number with its range and unit, and the number was
  sent. -/
  set : ∀ id value goOn, command = .setDecimal id value → result = .ok goOn →
    ∃ item role quantity, before.engine.tree.get? id = some item ∧
      item.kind = .device role (.decimal quantity) ∧
      before.Conveys (.decimalValueChanged id value) id
        { item with kind := .device role (.decimal { quantity with value }) } after

/-- An operation that has the engine convey a value hands it to the client that runs. -/
theorem Rested.conveys (h : running.Rested) (alive : running.Alive) (meanwhile : List Happening)
    {operation : Operation} {id : ItemId} {item : Item} {role : DeviceRole} {old : DeviceValue}
    (value : DeviceValue) {epoch : Epoch} {number : ClientNumber}
    (hget : running.engine.tree.get? id = some item) (hkind : item.kind = .device role old)
    (hon : running.engine.listening.online = some epoch) (hc : running.engine.client = some number)
    (hdone : running.engine.operate operation =
      ⟨.ok true, running.engine.conveyed number epoch id value⟩) :
    running.Conveys (.valueChanged id value) id { item with kind := .device role value }
      (running.attempt meanwhile operation).2 := by
  rw [attempt_eq hdone]
  obtain ⟨⟨number, client⟩, hclient, rfl⟩ := Option.map_eq_some_iff.mp (h.held.trans hc)
  have hsend := Client.send_of_running (alive _ client hclient) epoch (.valueChanged id value)
  have hfits : (Message.valueChanged id value).Fits := by
    cases value <;> simp [Message.valueChanged, Message.Fits, Message.texts]
  have hfollow : running.follow meanwhile (running.engine.conveyed number epoch id value) =
      { engine := (running.engine.conveyed number epoch id value).takeEffects.2
        client := some (number,
          { client with queue := client.queue ++ [(epoch, .valueChanged id value)] })
        inbox := running.inbox
        outputs := running.outputs ++
          [.told running.engine.watcher (.treeEvent (.itemChanged id))] } := by
    simp [follow, takeEffects, conveyed, h.effects, perform, hclient, hsend, Except.toOption]
  rw [hfollow]
  refine ⟨⟨epoch, number, client, hon, hclient, rfl⟩, hfits.exists_frame, rfl, fun x => ?_, ?_, rfl⟩
  · refine (running.engine.tree.get?_modify id x _).trans ?_
    split
    · rename_i hx
      rw [hx, hget, Option.map_some, Item.withValue_of_kind hkind]
    · rfl
  · simp [conveyed, takeEffects, withTree, tree, h.effects]

/-- Whatever went before, a command that a running engine with a live client is given is carried out
whole or not at all. -/
theorem obeyed_run {settings : Settings} (h : ofSettings settings = .ok engine) (moves : List Move)
    (alive : ((ofEngine engine).run moves).Alive) (meanwhile : List Happening) (command : Command) :
    let before := (ofEngine engine).run moves
    let attempt := before.attempt meanwhile (.command command)
    before.Obeys command attempt.1 attempt.2 := by
  intro before attempt
  have hrested : before.Rested := rested_of_ofSettings h moves
  have hrefused : ∀ {e}, before.engine.obey command = ⟨.error e, before.engine⟩ →
      attempt.1 = .error e := fun hnone => congrArg Attempt.result hnone
  refine ⟨fun e he => ?_, ?_, ?_⟩
  · have hsame := hrested.sound.whole_obey hrested.told command e he
    change before.follow meanwhile (before.engine.obey command).engine = before
    rw [hsame]
    exact follow_self hrested.effects meanwhile
  · rintro id on goOn rfl hok
    rcases hrested.sound.sendBinary_cases hrested.told id on with
      ⟨e, hnone⟩ | ⟨item, role, old, epoch, number, hget, hkind, hon, hc, hdone⟩
    · cases (hrefused (congrArg (·.answering true) hnone)).symm.trans hok
    · exact ⟨item, role, old, hget, hkind, hrested.conveys alive meanwhile (.binary on) hget
        hkind hon hc (congrArg (·.answering true) hdone)⟩
  · rintro id value goOn rfl hok
    rcases hrested.sound.sendDecimal_cases hrested.told id value with
      ⟨e, hnone⟩ | ⟨item, role, quantity, epoch, number, hget, hkind, hon, hc, hdone⟩
    · cases (hrefused (congrArg (·.answering true) hnone)).symm.trans hok
    · exact ⟨item, role, quantity, hget, hkind, hrested.conveys alive meanwhile
        (.decimal { quantity with value }) hget hkind hon hc (congrArg (·.answering true) hdone)⟩

/-- A lamp that was announced is switched on, through a client that is connected. -/
theorem obeyed_run_lamp :
    ∃ settings engine, ofSettings settings = .ok engine ∧
      let before := (ofEngine engine).run [.operation [] (.start none), .happening .connected,
        .next [], .post (.message 1 (.binaryDevice .actuator ⟨1, rootId, "Lamp", "", false⟩ false)),
        .next []]
      let attempt := before.attempt [] (.command (.setBinary 1 true))
      before.Alive ∧ attempt.1.toOption = some true ∧
        before.Obeys (.setBinary 1 true) attempt.1 attempt.2 := by
  have hlamp : (ofSettings { Settings.initial with
      server := ⟨"ohap://unit:18000", true⟩ }).toOption.any fun engine =>
        let before := (ofEngine engine).run [.operation [] (.start none), .happening .connected,
          .next [],
          .post (.message 1 (.binaryDevice .actuator ⟨1, rootId, "Lamp", "", false⟩ false)),
          .next []]
        before.client.all (fun client => client.2.phase ≠ .ended) ∧
          (before.attempt [] (.command (.setBinary 1 true))).1.toOption = some true := by
    decide +kernel
  obtain ⟨engine, h, hlamp⟩ := exists_ok_of_any hlamp
  obtain ⟨hphase, hok⟩ := of_decide_eq_true hlamp
  refine ⟨_, engine, h, ?_⟩
  intro before attempt
  have alive : before.Alive := by
    intro number client hclient
    replace hphase : before.client.all (fun client => client.2.phase ≠ .ended) = true := hphase
    rw [hclient] at hphase
    exact of_decide_eq_true hphase
  exact ⟨alive, hok, obeyed_run h _ alive [] (.setBinary 1 true)⟩

end Running

end Domotics
