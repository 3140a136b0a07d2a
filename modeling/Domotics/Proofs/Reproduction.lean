import Domotics.Proofs.Dispatch
import Domotics.Proofs.Message.RoundTrip
import Domotics.Proofs.Tree.Enumeration
/-!
# A tree is reproduced over the wire

A central unit describes its tree by announcing its items one after the other, each of them after
the container it is in, and the items of a container in their order (`Tree.Enumerates`). A client
that receives the announcements ends with the same tree, in which nothing is listened to, whichever
of the orders was taken and however the bytes were cut (`WellFormed.reproduced_announcements`).
Every tree has such an order, its outline for one (`WellFormed.exists_reproduced_outline`).

On the way the client has a `picture` of what was announced so far: each item announced, with those
of its children that were announced as well, and the root under the name it has in a new tree until
it is announced itself. Each announcement takes one picture to the next (`Pictures.root`,
`Pictures.add`), and the picture of everything is the tree (`Presents.picture_eq`).
-/

namespace Domotics

open Domotics.Tree

/-! ## Items and their announcements -/

namespace Item

/-- The texts of an item. -/
def texts (item : Item) : List String :=
  item.name :: item.description ::
    match item.kind with
    | .device _ (.decimal quantity) => [quantity.unit, quantity.abbreviation]
    | _ => []

/-- An item as it is announced: without parent, children and listening mark. -/
def announced (item : Item) : Item :=
  { (item.withChildren []).withListening false with parent := none }

/-- The announcement of an item under its parent. What the root is announced under means nothing. -/
def announcement (under : ItemId) (item : Item) : Message :=
  .announce (item.parent.getD under) item

/-- An item of which some others were announced: those that it contains are its children, and it is
not listened to. -/
def copy (told : List Item) (item : Item) : Item :=
  (item.withChildren ((told.filter (·.parent = some item.id)).map (·.id))).withListening false

variable {told : List Item} {item found : Item}

@[simp] theorem id_announced (item : Item) : item.announced.id = item.id := by
  obtain ⟨_, _, _, _, _, _ | _⟩ := item <;> rfl

theorem isContainer_copy : (item.copy told).isContainer = item.isContainer := by
  rw [copy, isContainer_withListening, isContainer_withChildren]

theorem isListening_copy : (item.copy told).isListening = false := by
  rw [copy, isListening_withListening, Bool.and_false]

/-- One more item is announced: its container gets it as its last child. -/
theorem copy_append (told : List Item) (item found : Item) :
    found.copy (told ++ [item]) =
      if item.parent = some found.id then
        (found.copy told).withChildren ((found.copy told).childIds ++ [item.id])
      else found.copy told := by
  unfold copy
  rw [List.filter_append, List.map_append]
  split
  · rename_i h
    have hmore : [item].filter (·.parent = some found.id) = [item] := by simp [h]
    rw [hmore]
    obtain ⟨_, _, _, _, _, _ | _⟩ := found <;> rfl
  · rename_i h
    have hnone : [item].filter (·.parent = some found.id) = [] := by simp [h]
    rw [hnone, List.map_nil, List.append_nil]

/-- An item none of whose children were announced is added as it is. -/
theorem announced_under {parent : ItemId} (hparent : item.parent = some parent)
    (childless : ∀ other ∈ told, other.parent ≠ some item.id) :
    (item.announced.withChildren []).under parent = item.copy told := by
  have hnone : told.filter (·.parent = some item.id) = [] := by
    simpa [List.filter_eq_nil_iff] using childless
  unfold copy
  rw [hnone]
  obtain ⟨_, _, _, _, _, _ | _⟩ := item <;> obtain rfl := hparent <;> rfl

end Item

namespace Message

theorem texts_announce (parent : ItemId) (item : Item) :
    (announce parent item).texts = item.texts := by
  obtain ⟨_, _, _, _, _, _ | ⟨_, _ | _⟩⟩ := item <;> rfl

theorem dispatch_announce (tree : Tree) (l : Listening) (listenAll : Bool) (epoch : Epoch)
    (parent : ItemId) (item : Item) :
    dispatch tree l listenAll epoch (announce parent item) =
      dispatchAnnouncement tree l listenAll parent item.announced := by
  obtain ⟨_, _, _, _, _, _ | ⟨_, _ | _⟩⟩ := item <;> rfl

end Message

/-! ## Pictures -/

/-- The root as it is before it is announced. -/
def blankRoot : Item :=
  .ofContainer rootId "Central unit" "" false

/-- What is found under a number after some items were announced. -/
def picture (told : List Item) (id : ItemId) : Option Item :=
  ((told ++ [blankRoot]).find? (·.id = id)).map (·.copy told)

section Picture

variable {told : List Item} {item : Item} {id : ItemId}

theorem find?_blankRoot (id : ItemId) :
    [blankRoot].find? (·.id = id) = if id = rootId then some blankRoot else none := by
  have hid : decide (blankRoot.id = id) = decide (id = rootId) := decide_eq_decide.mpr eq_comm
  rw [List.find?_singleton, hid]
  by_cases h : id = rootId <;> simp [h]

theorem picture_nil (id : ItemId) : picture [] id = Tree.empty.get? id := by
  rw [get?_empty, picture, List.nil_append, find?_blankRoot]
  split <;> rfl

theorem isListening_of_picture (h : picture told id = some item) : item.isListening = false := by
  obtain ⟨found, -, rfl⟩ := Option.map_eq_some_iff.mp h
  exact Item.isListening_copy

/-- An item that was announced is pictured. -/
theorem picture_of_mem (nodup : (told.map (·.id)).Nodup) (h : item ∈ told) :
    picture told item.id = some (item.copy told) := by
  have hfind : told.find? (·.id = item.id) = some item := by
    cases hf : told.find? (·.id = item.id) with
    | none => simpa using List.find?_eq_none.mp hf item h
    | some found =>
      have hid : found.id = item.id := by simpa using List.find?_some hf
      rw [List.inj_on_of_nodup_map nodup (List.mem_of_find?_eq_some hf) h hid]
  rw [picture, List.find?_append, hfind]
  rfl

/-- What was not announced is not pictured, but for the root, which is pictured blank. -/
theorem picture_of_forall_ne (h : ∀ other ∈ told, other.id ≠ id) :
    picture told id = if id = rootId then some (blankRoot.copy told) else none := by
  have hfind : told.find? (·.id = id) = none := by simpa using h
  rw [picture, List.find?_append, hfind, Option.none_or, find?_blankRoot]
  split <;> rfl

/-- An item is pictured as soon as it is announced. -/
theorem picture_append_self (new : ∀ other ∈ told, other.id ≠ item.id) :
    picture (told ++ [item]) item.id = some (item.copy (told ++ [item])) := by
  have hfind : told.find? (·.id = item.id) = none := by simpa using new
  rw [picture, List.find?_append, List.find?_append, hfind]
  simp

/-- When one more item is announced, only its container is pictured otherwise than before. -/
theorem picture_append (hne : item.id ≠ id) :
    picture (told ++ [item]) id =
      (picture told id).map fun found =>
        if item.parent = some id then found.withChildren (found.childIds ++ [item.id])
        else found := by
  have hfind : (told ++ [item] ++ [blankRoot]).find? (·.id = id) =
      (told ++ [blankRoot]).find? (·.id = id) := by
    simp [List.find?_append, hne]
  rw [picture, picture, hfind, Option.map_map]
  cases hf : (told ++ [blankRoot]).find? (·.id = id) with
  | none => rfl
  | some found =>
    obtain rfl : found.id = id := by simpa using List.find?_some hf
    exact congrArg some (Item.copy_append told item found)

end Picture

/-! ## Receiving announcements -/

/-- What a client makes of what it decodes: its tree, how listening stands, and what went wrong. -/
structure Reception where
  tree : Tree
  listening : Listening
  problems : List String

namespace Reception

/-- Nothing has been received. -/
def start : Reception :=
  ⟨.empty, .initial, []⟩

/-- Applies what was decoded, without listening to what is announced. -/
def receive (epoch : Epoch) (reception : Reception) : Except Error Message → Reception
  | .ok message =>
    let outcome := dispatch reception.tree reception.listening false epoch message
    ⟨outcome.tree, outcome.listening, reception.problems ++ outcome.problem.toList⟩
  | .error e => { reception with problems := reception.problems ++ [e.message] }

end Reception

/-- After some items were announced, the tree is their picture, and nothing went wrong. -/
structure Pictures (told : List Item) (reception : Reception) : Prop where
  get? : ∀ id, reception.tree.get? id = picture told id
  listening : reception.listening = .initial
  problems : reception.problems = []

namespace Pictures

variable {told : List Item} {reception : Reception} {item : Item} {parent : ItemId}

theorem start : Pictures [] .start :=
  ⟨fun id => (picture_nil id).symm, rfl, rfl⟩

/-- An announcement that can be applied, and by which nothing comes to be listened to. -/
theorem receive_announce (h : Pictures told reception) {tree : Tree} (epoch : Epoch)
    (known : item.id = rootId ∨ (reception.tree.get? parent).isSome = true)
    (announcing : reception.tree.announcing parent item.announced = .done tree)
    (get? : ∀ id, tree.get? id = picture (told ++ [item]) id) :
    Pictures (told ++ [item]) (reception.receive epoch (.ok (.announce parent item))) := by
  have hquiet : tree.listened = ∅ := by
    refine Set.eq_empty_of_forall_notMem fun id hmem => ?_
    obtain ⟨found, hfound, hlistening⟩ := hmem
    rw [get?] at hfound
    rw [isListening_of_picture hfound] at hlistening
    cases hlistening
  have hremoved : Listening.initial.itemsRemoved tree = ([], .initial) := by
    exact Listening.reconcile_of_empty hquiet
  have hknown : ¬ (item.announced.id ≠ rootId ∧ !reception.tree.contains parent) := by
    rw [Item.id_announced, contains_eq_isSome]
    rintro ⟨hne, hunknown⟩
    rw [known.resolve_left hne] at hunknown
    cases hunknown
  have houtcome : dispatch reception.tree reception.listening false epoch
      (.announce parent item) = .done tree .initial [] := by
    rw [Message.dispatch_announce, dispatchAnnouncement, if_neg hknown, announcing, h.listening]
    simp [Edited.done, hremoved]
  simp only [Reception.receive, houtcome]
  exact ⟨get?, rfl, by rw [h.problems]; rfl⟩

/-- The root takes over how it is called. -/
theorem root (h : Pictures told reception) (epoch : Epoch) (parent : ItemId)
    (isRoot : item.id = rootId) (container : item.isContainer = true) (top : item.parent = none)
    (new : ∀ other ∈ told, other.id ≠ rootId) :
    Pictures (told ++ [item]) (reception.receive epoch (.ok (.announce parent item))) := by
  have hid : item.announced.id = rootId := item.id_announced.trans isRoot
  have hblank : reception.tree.get? rootId = some (blankRoot.copy told) := by
    rw [h.get?, picture_of_forall_ne new, if_pos rfl]
  refine h.receive_announce epoch (Or.inl isRoot) (announcing_of_root hid hblank) fun id => ?_
  have hrenamed : rename (blankRoot.copy told) item.announced = item.copy told := by
    obtain ⟨_, _, _, _, _, _ | _⟩ := item
    · obtain rfl := isRoot
      obtain rfl := top
      rfl
    · cases container
  rw [get?_note, get?_modify]
  by_cases hroot : id = rootId
  · rw [if_pos hroot, hroot, hblank, ← isRoot, picture_append_self (isRoot ▸ new),
      Item.copy_append, top, if_neg nofun, Option.map_some, hrenamed]
  · have hne : item.id ≠ id := fun heq => hroot (heq.symm.trans isRoot)
    rw [if_neg hroot, h.get?, picture_append hne, top]
    cases picture told id <;> simp

/-- An item comes to the end of its container. -/
theorem add (h : Pictures told reception) (epoch : Epoch) (other : item.id ≠ rootId)
    (hparent : item.parent = some parent) (new : ∀ other ∈ told, other.id ≠ item.id)
    (childless : ∀ other ∈ told, other.parent ≠ some item.id)
    (container : ∃ found, picture told parent = some found ∧ found.isContainer = true) :
    Pictures (told ++ [item]) (reception.receive epoch (.ok (.announce parent item))) := by
  obtain ⟨found, hfound, hcontainer⟩ := container
  have hthere : reception.tree.get? parent = some found := (h.get? parent).trans hfound
  have hnew : reception.tree.get? item.announced.id = none := by
    rw [Item.id_announced, h.get?, picture_of_forall_ne new, if_neg other]
  have hannouncing := announcing_of_new hnew
    (kids?_eq_some.mpr ⟨found, hthere, hcontainer, rfl⟩)
  refine h.receive_announce epoch (Or.inr (by rw [hthere]; rfl)) hannouncing fun id => ?_
  have hapart : parent ≠ item.id := by
    rintro rfl
    rw [Item.id_announced, hthere] at hnew
    cases hnew
  rw [get?_addUnder, attach, get?_modify, Item.id_announced]
  by_cases hid : id = item.id
  · rw [if_pos hid, hid, picture_append_self new, Item.copy_append, hparent,
      if_neg (fun heq => hapart (Option.some.inj heq)), Item.announced_under hparent childless]
  · rw [if_neg hid, picture_append (Ne.symm hid), h.get?, hparent]
    by_cases hp : id = parent
    · subst hp
      simp
    · simp [hp, Ne.symm hp]

end Pictures

/-! ## Announcing a whole tree -/

namespace Tree

variable {tree : Tree} {item root : Item}

/-- A selection of a list is what it has in common with the list. -/
theorem filter_mem_of_sublist {ids all : List ItemId} (nodup : all.Nodup) (h : ids.Sublist all) :
    all.filter (· ∈ ids) = ids := by
  have hsub : ids.Sublist (all.filter (· ∈ ids)) := by
    have hself : ids.filter (· ∈ ids) = ids := List.filter_eq_self.mpr fun id hid => by simpa
    have hfiltered := h.filter (· ∈ ids)
    rwa [hself] at hfiltered
  have hle : (all.filter (· ∈ ids)).length ≤ ids.length := by
    refine ((nodup.filter _).subperm fun id hid => ?_).length_le
    simpa using (List.mem_filter.mp hid).2
  exact (hsub.eq_of_length_le hle).symm

namespace Presents

variable {all told rest : List Item} {reception : Reception}

/-- What was announced is not announced again. -/
theorem ne_of_mem (h : tree.Presents (told ++ rest)) {other later : Item} (hother : other ∈ told)
    (hlater : later ∈ rest) : other.id ≠ later.id := by
  have hnodup := h.nodup
  rw [List.map_append] at hnodup
  exact (List.nodup_append.mp hnodup).2.2 _ (List.mem_map_of_mem hother) _
    (List.mem_map_of_mem hlater)

/-- When an item is announced, its container was announced before, or it is the root. -/
theorem exists_picture (wf : tree.WellFormed) (h : tree.Presents (told ++ item :: rest))
    {parent : ItemId} (hparent : tree.parent? item.id = some parent)
    (hitem : item.parent = some parent) :
    ∃ found, picture told parent = some found ∧ found.isContainer = true := by
  obtain ⟨container, hget, hcontainer, -⟩ := wf.exists_container hparent
  have hid : container.id = parent := wf.own_id hget
  have hmem : container ∈ told ++ item :: rest := (h.mem_iff container).mpr (hid.symm ▸ hget)
  rcases List.mem_append.mp hmem with hbefore | hlater
  · have hnodup : (told.map (·.id)).Nodup :=
      h.nodup.sublist ((List.sublist_append_left told _).map (·.id))
    refine ⟨container.copy told, ?_, Item.isContainer_copy.trans hcontainer⟩
    rw [← hid, picture_of_mem hnodup hbefore]
  · -- It is not the item itself, and no other container comes later than what is in it.
    have hroot : parent = rootId := by
      by_contra hne
      rcases List.mem_cons.mp hlater with rfl | hafter
      · exact wf.not_within_of_parent? hparent (hid ▸ Within.refl _ _)
      · have hpairs := (List.pairwise_append.mp h.parents).2.1
        exact List.rel_of_pairwise_cons hpairs hafter (hid ▸ hne) (hid ▸ hitem)
    have hnew : ∀ other ∈ told, other.id ≠ parent := fun other hother =>
      hid ▸ h.ne_of_mem hother hlater
    exact ⟨blankRoot.copy told, by rw [picture_of_forall_ne hnew, if_pos hroot],
      Item.isContainer_copy⟩

/-- Each announcement in turn takes one picture to the next. -/
theorem pictures_receive (wf : tree.WellFormed) (h : tree.Presents (told ++ item :: rest))
    (hp : Pictures told reception) (under : ItemId) (epoch : Epoch) :
    Pictures (told ++ [item]) (reception.receive epoch (.ok (item.announcement under))) := by
  have hget : tree.get? item.id = some item :=
    (h.mem_iff item).mp (List.mem_append_right told List.mem_cons_self)
  have hnew : ∀ other ∈ told, other.id ≠ item.id := fun other hother =>
    h.ne_of_mem hother List.mem_cons_self
  by_cases hroot : item.id = rootId
  · rw [hroot] at hget
    obtain ⟨hcontainer, htop⟩ := wf.root_spec hget
    exact hp.root epoch _ hroot hcontainer htop (hroot ▸ hnew)
  · obtain ⟨parent, -, hparent, -⟩ := wf.listed hget hroot
    have hunder : item.announcement under = .announce parent item := by
      rw [Item.announcement, hparent, Option.getD_some]
    have hchildless : ∀ other ∈ told, other.parent ≠ some item.id := fun other hother =>
      (List.pairwise_append.mp h.parents).2.2 other hother item List.mem_cons_self hroot
    rw [hunder]
    exact hp.add epoch hroot hparent hnew hchildless
      (h.exists_picture wf (parent?_eq_some.mpr ⟨item, hget, hparent⟩) hparent)

/-- By the end everything is pictured. -/
theorem pictures_foldl (wf : tree.WellFormed) (under : ItemId) (epoch : Epoch) :
    ∀ {told rest : List Item} {reception : Reception}, tree.Presents (told ++ rest) →
      Pictures told reception →
      Pictures (told ++ rest)
        (((rest.map (·.announcement under)).map .ok).foldl (Reception.receive epoch) reception)
  | told, [], reception, _, hp => by
    rw [List.append_nil]
    exact hp
  | told, item :: rest, reception, h, hp => by
    have hnext := h.pictures_receive wf hp under epoch
    rw [List.append_cons] at h ⊢
    exact pictures_foldl wf under epoch h hnext

/-- When everything was announced, each container has its children in their order. -/
theorem copy_eq (wf : tree.WellFormed) (h : tree.Presents all) {id : ItemId}
    (hget : tree.get? id = some item) : item.copy all = item.withListening false := by
  have hchildren : (all.filter (·.parent = some item.id)).map (·.id) = item.childIds := by
    calc (all.filter (·.parent = some item.id)).map (·.id)
      _ = (all.filter (·.id ∈ item.childIds)).map (·.id) := by
        congr 1
        refine List.filter_congr fun other hother => ?_
        rw [h.mem_iff] at hother
        rw [decide_eq_decide, wf.mem_childIds_iff hget, parent?_eq_some, wf.own_id hget]
        simp [hother]
      _ = (all.map (·.id)).filter (· ∈ item.childIds) := by
        rw [List.filter_map]
        rfl
      _ = item.childIds := filter_mem_of_sublist h.nodup (h.siblings hget)
  rw [Item.copy, hchildren]
  obtain ⟨_, _, _, _, _, _ | _⟩ := item <;> rfl

/-- When everything was announced, the picture is the tree, and nothing in it is listened to. -/
theorem picture_eq (wf : tree.WellFormed) (h : tree.Presents all) (id : ItemId) :
    picture all id = (tree.get? id).map (·.withListening false) := by
  cases hget : tree.get? id with
  | some item =>
    have hmem : item ∈ all := (h.mem_iff item).mpr ((wf.own_id hget).symm ▸ hget)
    have hpicture := picture_of_mem h.nodup hmem
    rw [wf.own_id hget, h.copy_eq wf hget] at hpicture
    exact hpicture
  | none =>
    have hnone : ∀ other ∈ all, other.id ≠ id := by
      rintro other hother rfl
      rw [(h.mem_iff other).mp hother] at hget
      cases hget
    have hne : id ≠ rootId := by
      rintro rfl
      obtain ⟨root, hroot, -⟩ := wf.root
      rw [hroot] at hget
      cases hget
    rw [picture_of_forall_ne hnone, if_neg hne, Option.map_none]

end Presents

/-! ## Over the wire -/

/-- The texts of all items are at most as long as the wire can carry. -/
def Fits (tree : Tree) : Prop :=
  ∀ {id item}, tree.get? id = some item → ∀ text ∈ item.texts, text.utf8ByteSize ≤ 65535

instance (tree : Tree) : Decidable tree.Fits :=
  decidable_of_iff
    (∀ entry ∈ tree.items.toList, ∀ text ∈ entry.2.texts, text.utf8ByteSize ≤ 65535)
    ⟨fun h _ _ hget => h _ (mem_toList_iff.mpr hget), fun h _ hmem => h (mem_toList_iff.mp hmem)⟩

/-- An item with texts that fit has an announcement that fits. -/
theorem Fits.announcement (fits : tree.Fits) {id : ItemId} (h : tree.get? id = some item)
    (under : ItemId) : (item.announcement under).Fits := by
  intro text htext
  rw [Item.announcement, Message.texts_announce] at htext
  exact fits h text htext

/-- However the bytes of some frames are cut into chunks, a client that applies what it decodes has
all of it applied without a problem, and ends with the items of the tree as they are but for the
listening marks. -/
def Reproduced (tree : Tree) (epoch : Epoch) (frames : List (List UInt8)) : Prop :=
  ∀ chunks : List (List UInt8), chunks.flatten = frames.flatten →
    let intake := chunks.foldl Intake.receive .start
    let reception := intake.results.foldl (Reception.receive epoch) .start
    intake.left = [] ∧ reception.problems = [] ∧ reception.listening = .initial ∧
      ∀ id, reception.tree.get? id = (tree.get? id).map (·.withListening false)

/-- A tree is reproduced by the announcements of its items in any order that presents it. -/
theorem Presents.exists_reproduced {all : List Item} (wf : tree.WellFormed) (fits : tree.Fits)
    (h : tree.Presents all) (under : ItemId) (epoch : Epoch) :
    ∃ frames, (all.map (·.announcement under)).mapM Message.encode = .ok frames ∧
      tree.Reproduced epoch frames := by
  have hfit : ∀ message ∈ all.map (·.announcement under), message.Fits := by
    intro message hmessage
    obtain ⟨item, hitem, rfl⟩ := List.mem_map.mp hmessage
    exact fits.announcement ((h.mem_iff item).mp hitem) under
  obtain ⟨frames, hframes, hreading⟩ := Message.Fits.exists_reading hfit
  refine ⟨frames, hframes, fun chunks hchunks => ?_⟩
  have hchunked := Intake.reading_foldl_receive chunks
    (show Reading [] Intake.start.taken Intake.start.results Intake.start.left from .stop rfl)
  rw [List.nil_append, hchunks] at hchunked
  have hsame := hchunked.decodeAll_eq.symm.trans hreading.decodeAll_eq
  obtain ⟨hresults, hleft⟩ := Prod.mk.inj hsame
  have hpictures := Presents.pictures_foldl wf under epoch (List.nil_append all ▸ h) .start
  rw [List.nil_append] at hpictures
  dsimp only
  rw [hresults]
  exact ⟨hleft, hpictures.problems, hpictures.listening, fun id =>
    (hpictures.get? id).trans (h.picture_eq wf id)⟩

/-- A tree is reproduced by announcing its items as they are outlined. -/
theorem WellFormed.exists_reproduced_outline (wf : tree.WellFormed) (fits : tree.Fits)
    (under : ItemId) (epoch : Epoch) :
    ∃ frames, ((tree.outline.map (·.2)).map (·.announcement under)).mapM Message.encode =
      .ok frames ∧ tree.Reproduced epoch frames := by
  obtain ⟨root, hroot, -⟩ := wf.root
  obtain ⟨items, houtline, henumerates⟩ := wf.enumerates_outline hroot
  have hpresents : tree.Presents (root :: items) :=
    @Enumerates.presents tree root wf hroot [] items henumerates
  rw [houtline]
  exact hpresents.exists_reproduced wf fits under epoch

/-- A tree is reproduced over the wire. The announcements of its items can be encoded, whatever the
order as long as no item comes before its parent, the children of a container come in their order
and the root comes at any place. However the bytes are cut into chunks, a client that applies what
it decodes has all of it applied without a problem, and ends with the items of the tree as they are
but for the listening marks. -/
theorem WellFormed.reproduced_announcements (wf : tree.WellFormed) (fits : tree.Fits)
    (hroot : tree.get? rootId = some root) {before after : List Item}
    (h : tree.Enumerates (before ++ after)) (under : ItemId) (epoch : Epoch) :
    ∃ frames,
      ((before ++ root :: after).map (·.announcement under)).mapM Message.encode = .ok frames ∧
        ∀ chunks : List (List UInt8), chunks.flatten = frames.flatten →
          let intake := chunks.foldl Intake.receive .start
          let reception := intake.results.foldl (Reception.receive epoch) .start
          intake.left = [] ∧ reception.problems = [] ∧ reception.listening = .initial ∧
            ∀ id, reception.tree.get? id = (tree.get? id).map (·.withListening false) :=
  (h.presents wf hroot).exists_reproduced wf fits under epoch

/-- A house in which the lamp of the kitchen is announced last, after the house itself and after the
thermometer beside the ground floor, and of which one byte arrives at a time. -/
theorem reproduced_announcements_house :
    let degrees : Quantity := ⟨⟨0x4035000000000000⟩, ⟨0xC044000000000000⟩, ⟨0x4059000000000000⟩,
      "degree Celsius", "°C"⟩
    let tree := Tree.empty.run
      [.setName "House", .add rootId (.ofContainer 1 "Ground floor" "" false),
        .add rootId (.ofDevice 2 "Thermometer" "at the door" false .sensor (.decimal degrees)),
        .add 1 (.ofContainer 3 "Kitchen" "" true), .setListening 1 true,
        .add 3 (.ofDevice 4 "Lamp" "" false .actuator (.binary true))]
    let root : Item := ⟨rootId, "House", "", false, none, .container [1, 2] false⟩
    let before : List Item :=
      [⟨1, "Ground floor", "", false, some rootId, .container [3] true⟩,
        ⟨3, "Kitchen", "", true, some 1, .container [4] false⟩,
        ⟨2, "Thermometer", "at the door", false, some rootId, .device .sensor (.decimal degrees)⟩]
    let after : List Item := [⟨4, "Lamp", "", false, some 3, .device .actuator (.binary true)⟩]
    tree.WellFormed ∧ tree.Fits ∧ tree.get? rootId = some root ∧
      tree.Enumerates (before ++ after) ∧
      ∃ frames,
        ((before ++ root :: after).map (·.announcement rootId)).mapM Message.encode = .ok frames ∧
          let intake := (frames.flatten.map fun byte => [byte]).foldl Intake.receive .start
          let reception := intake.results.foldl (Reception.receive 1) .start
          intake.left = [] ∧ reception.problems = [] ∧ reception.listening = .initial ∧
            ∀ id, reception.tree.get? id = (tree.get? id).map (·.withListening false) := by
  intro degrees tree root before after
  have wf : tree.WellFormed := WellFormed.empty.run _
  have fits : tree.Fits := by decide +kernel
  have hroot : tree.get? rootId = some root := by decide +kernel
  have h : tree.Enumerates (before ++ after) := by decide +kernel
  obtain ⟨frames, hframes, hreproduced⟩ :=
    WellFormed.reproduced_announcements wf fits hroot h rootId 1
  exact ⟨wf, fits, hroot, h, frames, hframes,
    hreproduced _ (List.flatMap_singleton' frames.flatten)⟩

end Tree

end Domotics
