import Domotics.Proofs.Dispatch
/-!
# Every container is listened to

A tree is `Attended` if every container but the root is listened to. With `listenAll`, a message
that arrives on a connection leaves an attended tree attended, and the central unit is told once of
each container that is listened to from then on, and of nothing else
(`WellFormed.heeds_dispatch`).

Most of what a message does to a tree `Spares` it: no container comes into being, and those that
stay are listened to if they were. Only the announcement of a container can bring one, and then it
takes the place of nothing or of a device. So nothing that is listened to is lost on the way, the
connection is kept, and the new container is all that is left to listen to.
-/

namespace Domotics

open Domotics.Tree Listening

namespace Tree

variable {tree tree' tree'' : Tree} {id x parent : ItemId} {item : Item}

/-- Every container but the root is listened to. -/
def Attended (tree : Tree) : Prop :=
  ∀ id, tree.kind? id = some true → id ≠ rootId → id ∈ tree.listened

/-- Every container but the root and perhaps one more is listened to. -/
def AttendedBut (tree : Tree) (id : ItemId) : Prop :=
  ∀ x, tree.kind? x = some true → x ≠ rootId → x ≠ id → x ∈ tree.listened

/-- A container was one before, and is listened to if it was. -/
def SparesAt (tree tree' : Tree) (x : ItemId) : Prop :=
  tree'.kind? x = some true → tree.kind? x = some true ∧ (x ∈ tree.listened → x ∈ tree'.listened)

/-- Every container was one before, and is listened to if it was. -/
def Spares (tree tree' : Tree) : Prop :=
  ∀ x, SparesAt tree tree' x

theorem AttendedBut.attended (h : tree.AttendedBut id)
    (last : tree.kind? id = some true → id ∈ tree.listened) : tree.Attended := by
  intro x hc hne
  by_cases hx : x = id
  · subst hx
    exact last hc
  · exact h x hc hne hx

theorem Alike.sparesAt (h : Alike tree tree' x) : SparesAt tree tree' x :=
  fun hc => ⟨h.1.symm.trans hc, h.2.mpr⟩

theorem AllAlike.spares (h : AllAlike tree tree') : Spares tree tree' :=
  fun x => (h x).sparesAt

theorem Prunes.spares (h : Prunes tree tree') : Spares tree tree' := by
  intro x
  rcases h x with hx | hx
  · intro hc
    rw [kind?, hx] at hc
    cases hc
  · exact hx.sparesAt

namespace Spares

theorem refl (tree : Tree) : Spares tree tree :=
  (AllAlike.refl tree).spares

theorem trans (h : Spares tree tree') (h' : Spares tree' tree'') : Spares tree tree'' := by
  intro x hc
  obtain ⟨hc', hkept'⟩ := h' x hc
  obtain ⟨hc'', hkept⟩ := h x hc'
  exact ⟨hc'', fun hl => hkept' (hkept hl)⟩

theorem attended (h : Spares tree tree') (attended : tree.Attended) : tree'.Attended := by
  intro id hc hne
  obtain ⟨hc', hkept⟩ := h id hc
  exact hkept (attended id hc' hne)

end Spares

/-- A mark that is put takes no other away. -/
theorem spares_setListening {changed : Bool}
    (h : tree.setListening id true = .ok (changed, tree')) : Spares tree tree' := by
  cases changed with
  | false =>
    rw [setListening_eq_ok_false h]
    exact .refl tree
  | true =>
    obtain ⟨hkinds, -, hlistened⟩ := setListening_true_eq_ok h
    intro x hc
    rw [hlistened]
    exact ⟨(hkinds x).symm.trans hc, Set.mem_insert_of_mem id⟩

/-! ## Announcements -/

/-- Only what was removed is missing, and there was nothing to remove below a device. -/
theorem WellFormed.kind?_remove_of_device (wf : tree.WellFormed)
    (device : tree.kind? id ≠ some true) (hx : x ≠ id) :
    (tree.remove id).2.kind? x = tree.kind? x := by
  by_cases hroot : id = rootId
  · rw [remove_of_eq_root hroot]
  cases hp : tree.parent? id with
  | none => rw [remove_of_parent?_eq_none hp]
  | some parent =>
    have hapart : ¬ tree.Within id x := by
      rintro ⟨_ | steps, hbelow⟩
      · cases hbelow
        exact hx rfl
      · obtain ⟨child, hchild, -⟩ := hbelow.exists_child
        obtain ⟨container, hi, hc, -⟩ := wf.exists_container hchild
        refine device ?_
        rw [kind?, hi]
        exact congrArg some hc
    have hstays := alike_of_get?_eq (wf.get?_remove_of_not_within hroot hp hapart)
    exact hstays.1.trans (tree.allAlike_detach id parent x).1

/-- An announcement leaves everything the kind it was, but for the item that is announced and, if
that is a device, for what it takes the place of. -/
theorem WellFormed.kind?_announcing (wf : tree.WellFormed) (parent : ItemId) (item : Item)
    (x : ItemId) :
    (tree.announcing parent item).tree.kind? x = tree.kind? x ∨
      x = item.id ∧ (tree.announcing parent item).tree.kind? x = some item.isContainer ∨
      (tree.announcing parent item).tree.kind? x = none ∧ item.isContainer = false := by
  rcases wf.announcing_alike parent item with same | ⟨other, heq⟩
  · exact Or.inl (same x).1
  · rw [heq]
    by_cases hx : x = item.id
    · subst hx
      exact Or.inr (Or.inl ⟨rfl, kind?_addUnder _ _ _⟩)
    · have hadd := (alike_addUnder (tree.remove item.id).2 parent item hx).1
      cases hc : item.isContainer with
      | true => exact Or.inl (hadd.trans (wf.kind?_remove_of_device (hc ▸ other) hx))
      | false =>
        rcases wf.prunes_remove item.id x with hgone | hstays
        · refine Or.inr (Or.inr ⟨hadd.trans ?_, rfl⟩)
          rw [kind?, hgone]
          rfl
        · exact Or.inl (hadd.trans hstays.1)

/-- An announcement spares everything but a container that is announced. -/
theorem WellFormed.sparesAt_announcing (wf : tree.WellFormed) (parent : ItemId)
    (quiet : item.isListening = false) (other : item.isContainer = true → x ≠ item.id) :
    SparesAt tree (tree.announcing parent item).tree x := by
  intro hc
  rcases wf.kind?_announcing parent item x with hsame | ⟨hx, hkind⟩ | ⟨hnone, -⟩
  · refine ⟨hsame.symm.trans hc, fun hl => ?_⟩
    rw [wf.listened_announcing quiet]
    exact ⟨hl, fun hlost => hlost.2 hsame⟩
  · exact absurd hx (other (Option.some.inj (hkind.symm.trans hc)))
  · cases hnone.symm.trans hc

/-- To announce a container takes nothing away that is listened to: what it takes the place of is
no container. -/
theorem WellFormed.listened_announcing_container (wf : tree.WellFormed) (parent : ItemId)
    (quiet : item.isListening = false) (container : item.isContainer = true) :
    (tree.announcing parent item).tree.listened = tree.listened := by
  rw [wf.listened_announcing quiet, sdiff_eq_left, Set.disjoint_left]
  intro x hl hlost
  have hc := kind?_of_mem_listened hl
  rcases wf.kind?_announcing parent item x with hsame | ⟨-, hkind⟩ | ⟨-, hdevice⟩
  · exact hlost.2 hsame
  · exact hlost.2 (by rw [hkind, container, hc])
  · rw [container] at hdevice
    cases hdevice

end Tree

/-! ## Listening while a connection is up -/

namespace Listening

variable {l : Listening} {tree tree' : Tree} {id : ItemId} {epoch : Epoch}

/-- Reconciling sends nothing. -/
theorem send_notMem_reconcile (l : Listening) (tree : Tree) (epoch : Epoch) (message : Message) :
    Action.send epoch message ∉ (l.reconcile tree).1 := by
  unfold reconcile
  split
  · simp
  · split <;> simp

/-- Where nothing that is listened to left the tree, nothing is done. -/
theorem Sound.itemsRemoved_eq (h : l.Sound tree) (online : l.online.isSome = true)
    (same : tree'.listened = tree.listened) : l.itemsRemoved tree' = ([], l) := by
  have hrunning := h.online online
  have hsome : tree'.listened.Nonempty := same ▸ h.running.mp hrunning
  have hwaiting := h.waiting online
  obtain ⟨_, _, _⟩ := l
  obtain rfl : _ = [] := hwaiting
  obtain rfl : _ = true := hrunning
  exact reconcile_of_nonempty hsome

/-- While a connection is up, a container is listened to already, or it is from now on and the
central unit is told; else there is no such container. -/
theorem Sound.start_cases (h : l.Sound tree) (online : l.online = some epoch) (id : ItemId) :
    (∃ e, l.start tree id = .error e ∧ tree.kind? id ≠ some true) ∨
      (l.start tree id = .ok ⟨tree, l, []⟩ ∧ id ∈ tree.listened) ∨
      ∃ tree', l.start tree id = .ok ⟨tree', l, [.send epoch (.listeningStart id)]⟩ ∧
        tree.setListening id true = .ok (true, tree') := by
  rcases tree.setListening_cases id true with ⟨e, hnow, heq⟩ | ⟨hnow, heq⟩ | ⟨hnow, heq⟩
  · refine Or.inl ⟨e, by simp [Listening.start, heq, bind, Except.bind], fun hc => ?_⟩
    obtain ⟨item, hi, hc⟩ := Option.map_eq_some_iff.mp hc
    cases hnow.symm.trans (isListening_eq_ok_iff.mpr ⟨item, hi, hc, rfl⟩)
  · obtain ⟨item, hi, -, hl⟩ := isListening_eq_ok_iff.mp hnow
    exact Or.inr (Or.inl ⟨by simp [Listening.start, heq, bind, Except.bind, pure, Except.pure],
      item, hi, hl⟩)
  · refine Or.inr (Or.inr ⟨_, ?_, heq⟩)
    obtain ⟨-, -, hlistened⟩ := setListening_true_eq_ok heq
    have hsome : Set.Nonempty (listened _) := hlistened ▸ Set.insert_nonempty id _
    have hrunning := h.online (online ▸ rfl)
    obtain ⟨_, _, _⟩ := l
    obtain rfl : _ = some epoch := online
    obtain rfl : _ = true := hrunning
    simp [Listening.start, heq, bind, Except.bind, pure, Except.pure,
      reconcile_of_nonempty hsome]

end Listening

/-! ## Messages -/

namespace Dispatched

variable {tree : Tree} {l : Listening} {epoch : Epoch}

/-- Every container but the root is listened to after a message. The central unit is told once, on
the connection that the message came on, of each that was not listened to before, and of no
other. -/
structure Heeds (tree : Tree) (epoch : Epoch) (dispatched : Dispatched) : Prop where
  attended : dispatched.tree.Attended
  told_once : ∀ id ∈ dispatched.tree.listened \ tree.listened,
    dispatched.actions.count (.send epoch (.listeningStart id)) = 1
  told_only : ∀ epoch' id, .send epoch' (.listeningStart id) ∈ dispatched.actions →
    epoch' = epoch ∧ id ∈ dispatched.tree.listened \ tree.listened

/-- Where nothing new is listened to, the central unit is told nothing. -/
theorem heeds_of_subset {dispatched : Dispatched} (attended : dispatched.tree.Attended)
    (subset : dispatched.tree.listened ⊆ tree.listened)
    (quiet : ∀ epoch' id, .send epoch' (.listeningStart id) ∉ dispatched.actions) :
    dispatched.Heeds tree epoch :=
  ⟨attended, fun _ hnew => absurd (subset hnew.1) hnew.2,
    fun epoch' id htold => absurd htold (quiet epoch' id)⟩

theorem heeds_same (attended : tree.Attended) (problem : Option String) :
    Heeds tree epoch ⟨tree, l, [], problem⟩ :=
  heeds_of_subset attended subset_rfl fun _ _ => List.not_mem_nil

theorem heeds_value (attended : tree.Attended) {id : ItemId} {result : Except Error Tree}
    (hresult : ∀ tree', result = .ok tree' → AllAlike tree tree') :
    Heeds tree epoch (dispatchValue tree l id result) := by
  cases hr : result with
  | error e => cases e <;> exact heeds_same attended _
  | ok tree' =>
    have same := hresult tree' hr
    exact heeds_of_subset (same.spares.attended attended) same.listened_eq.subset
      fun _ _ => List.not_mem_nil

/-- Items leave the tree, and nothing else happens to it. -/
theorem heeds_removed {tree' : Tree} (attended : tree'.Attended)
    (subset : tree'.listened ⊆ tree.listened) :
    Heeds tree epoch (.done tree' (l.itemsRemoved tree').2 (l.itemsRemoved tree').1) :=
  heeds_of_subset attended subset fun _ _ => send_notMem_reconcile _ _ _ _

/-- The container that is announced is all that may be left to listen to. -/
theorem heeds_start {tree' : Tree} {id : ItemId} (h : l.Sound tree') (online : l.online = some epoch)
    (same : tree'.listened = tree.listened) (others : tree'.AttendedBut id) :
    Heeds tree epoch (match l.start tree' id with
      | .ok outcome => .done outcome.tree outcome.listening ([] ++ outcome.actions)
      | .error _ => .done tree' l []) := by
  rcases h.start_cases online id with ⟨e, heq, hno⟩ | ⟨heq, hid⟩ | ⟨tree'', heq, hset⟩
  · rw [heq]
    exact heeds_of_subset (others.attended fun hc => absurd hc hno) same.subset
      fun _ _ => List.not_mem_nil
  · rw [heq]
    exact heeds_of_subset (others.attended fun _ => hid) same.subset fun _ _ => List.not_mem_nil
  · rw [heq]
    obtain ⟨hkinds, hfresh, hlistened⟩ := setListening_true_eq_ok hset
    have others' : tree''.AttendedBut id := by
      intro x hc hne hx
      rw [hlistened]
      exact Or.inr (others x ((hkinds x).symm.trans hc) hne hx)
    have hnew : tree''.listened \ tree.listened = {id} := by
      rw [hlistened, ← same, Set.insert_sdiff_of_notMem _ hfresh, Set.sdiff_self, insert_empty_eq]
    refine ⟨others'.attended fun _ => hlistened ▸ Set.mem_insert id _, fun x hx => ?_,
      fun epoch' x hx => ?_⟩
    · obtain rfl : x = id := hnew.subset hx
      exact List.count_singleton_self
    · simp only [done, List.nil_append, List.mem_singleton, Action.send.injEq,
        Message.listeningStart.injEq] at hx
      exact ⟨hx.1, hnew ▸ hx.2⟩

theorem heeds_announcement (wf : tree.WellFormed) (h : l.Sound tree)
    (online : l.online = some epoch) (attended : tree.Attended) (parent : ItemId) {item : Item}
    (quiet : item.isListening = false) :
    Heeds tree epoch (dispatchAnnouncement tree l true parent item) := by
  have hspares := fun x => wf.sparesAt_announcing (x := x) parent quiet
  have hlistened : (tree.announcing parent item).tree.listened =
      tree.listened \ lost tree (tree.announcing parent item).tree := wf.listened_announcing quiet
  have hsame := wf.listened_announcing_container parent quiet
  have herror : ∀ e, (tree.announcing parent item).result = .error e →
      (tree.announcing parent item).tree = tree := fun _ => wf.announcing_of_error
  unfold dispatchAnnouncement
  generalize tree.announcing parent item = announced at hspares hlistened hsame herror ⊢
  obtain ⟨result, tree'⟩ := announced
  dsimp only at hspares hlistened hsame herror ⊢
  split
  · exact heeds_same attended _
  · cases result with
    | error e =>
      rw [herror e rfl]
      exact heeds_same attended _
    | ok _ =>
      dsimp only
      cases hc : item.isContainer with
      | false =>
        have spares : Spares tree tree' := fun x => hspares x (by simp [hc])
        rw [if_neg (by simp)]
        exact heeds_removed (spares.attended attended) (hlistened ▸ Set.sdiff_subset)
      | true =>
        have same := hsame hc
        have others : tree'.AttendedBut item.id := by
          intro x hkind hne hx
          obtain ⟨hbefore, hkept⟩ := hspares x (fun _ => hx) hkind
          exact hkept (attended x hbefore hne)
        rw [h.itemsRemoved_eq (online ▸ rfl) same]
        split
        · exact heeds_start (h.of_listened_eq same) online same others
        · rename_i heard
          have hall : (tree'.get? item.id).all (·.isListening) = true := by simpa using heard
          have attended' : tree'.Attended := by
            refine others.attended fun hkind => ?_
            obtain ⟨found, hf, -⟩ := Option.map_eq_some_iff.mp hkind
            rw [hf] at hall
            exact ⟨found, hf, hall⟩
          exact heeds_of_subset attended' same.subset fun _ _ => List.not_mem_nil

end Dispatched

/-- Whatever message arrives on a connection, with `listenAll` no container goes unheard. -/
theorem Tree.WellFormed.heeds_dispatch {tree : Tree} {l : Listening} {epoch : Epoch}
    (wf : tree.WellFormed) (h : l.Sound tree) (online : l.online = some epoch)
    (attended : tree.Attended) (message : Message) :
    (Domotics.dispatch tree l true epoch message).Heeds tree epoch := by
  have hannounce : ∀ {parent item}, message.toItem? = some (parent, item) →
      (dispatchAnnouncement tree l true parent item).Heeds tree epoch :=
    fun hm => Dispatched.heeds_announcement wf h online attended _
      (Message.isListening_of_toItem? hm)
  cases message with
  | decimalDevice role info quantity => exact hannounce rfl
  | binaryDevice role info on => exact hannounce rfl
  | container info => exact hannounce rfl
  | decimalValueChanged id value =>
    exact Dispatched.heeds_value attended fun tree' => allAlike_setDecimal
  | binaryValueChanged id on =>
    exact Dispatched.heeds_value attended fun tree' => allAlike_setBinary
  | itemRemoved id =>
    have hprunes := wf.prunes_remove id
    have hsubset : (tree.remove id).2.listened ⊆ tree.listened :=
      fun _ hx => (hprunes.mem_listened_iff.mp hx).1
    simp only [Domotics.dispatch]
    split
    · exact Dispatched.heeds_same attended none
    · rename_i heq
      rw [heq] at hprunes hsubset
      exact Dispatched.heeds_removed (hprunes.spares.attended attended) hsubset
  | ping number =>
    have hquiet : ∀ epoch' id,
        Action.send epoch' (.listeningStart id) ∉ [Action.send epoch (.pong number)] := by simp
    exact Dispatched.heeds_of_subset attended subset_rfl hquiet
  | pong _ | logout _ | listeningStart _ | listeningStop _ | login _ _ _ =>
    exact Dispatched.heeds_same attended _

end Domotics
