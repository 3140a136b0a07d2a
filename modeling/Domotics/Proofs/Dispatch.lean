import Domotics.Proofs.Listening
/-!
# Messages keep the central unit informed

A message that arrives may add, change and remove items, and with `listenAll` it may have a new
container listened to. Whatever it does, the tree stays well-formed and listening follows
(`WellFormed.dispatch`).
-/

namespace Domotics

open Domotics.Tree Listening

variable {tree : Tree} {l : Listening} {id : ItemId}

/-- What came of a message, without the problem there was with it. -/
def Dispatched.outcome (dispatched : Dispatched) : Outcome :=
  ⟨dispatched.tree, dispatched.listening, dispatched.actions⟩

/-- What came of a message leaves a well-formed tree, and listening follows. -/
structure Dispatched.Keeps (tree : Tree) (l : Listening) (dispatched : Dispatched) : Prop where
  wellFormed : dispatched.tree.WellFormed
  follows : l.Follows tree dispatched.outcome

/-- An item that is announced comes without a mark. -/
theorem Message.isListening_of_toItem? {message : Message} {parent : ItemId} {item : Item}
    (h : message.toItem? = some (parent, item)) : item.isListening = false := by
  cases message <;> cases h <;> rfl

namespace Dispatched

theorem keeps_same (wf : tree.WellFormed) (h : l.Sound tree) (problem : Option String) :
    Keeps tree l ⟨tree, l, [], problem⟩ :=
  ⟨wf, h.follows⟩

theorem keeps_value (wf : tree.WellFormed) (h : l.Sound tree) {result : Except Error Tree}
    (hresult : ∀ tree', result = .ok tree' → tree'.WellFormed ∧ AllAlike tree tree') :
    Keeps tree l (dispatchValue tree l id result) := by
  cases hr : result with
  | error e => cases e <;> exact keeps_same wf h _
  | ok tree' =>
    obtain ⟨wf', same⟩ := hresult tree' hr
    exact ⟨wf', h.follows_of_allAlike same⟩

/-- While there is a connection nothing waits, so it does not matter what left the tree. -/
theorem keeps_removed (h : l.Sound tree) (online : l.online.isSome = true) {tree' : Tree}
    (wf' : tree'.WellFormed) (listened : tree'.listened = tree.listened \ lost tree tree') :
    Keeps tree l (.done tree' (l.itemsRemoved tree').2 (l.itemsRemoved tree').1) := by
  refine ⟨wf', h.toAligned.itemsRemoved listened fun hoff => ?_⟩
  rw [hoff] at online
  cases online

theorem keeps_announcement (wf : tree.WellFormed) (h : l.Sound tree)
    (online : l.online.isSome = true) (listenAll : Bool) (parent : ItemId) {item : Item}
    (quiet : item.isListening = false) :
    Keeps tree l (dispatchAnnouncement tree l listenAll parent item) := by
  have wf' := wf.announcing parent item
  have hlistened : (tree.announcing parent item).tree.listened =
      tree.listened \ lost tree (tree.announcing parent item).tree := wf.listened_announcing quiet
  have herror : ∀ e, (tree.announcing parent item).result = .error e →
      (tree.announcing parent item).tree = tree := fun _ => wf.announcing_of_error
  unfold dispatchAnnouncement
  generalize tree.announcing parent item = announced at wf' hlistened herror ⊢
  obtain ⟨result, tree'⟩ := announced
  have hremoved := keeps_removed h online wf' hlistened
  dsimp only at hremoved herror ⊢
  split
  · exact keeps_same wf h _
  · cases result with
    | error e =>
      rw [herror e rfl]
      exact keeps_same wf h _
    | ok _ =>
      generalize l.itemsRemoved tree' = removed at hremoved ⊢
      dsimp only
      split
      · split
        · rename_i outcome hstart
          obtain ⟨_, hset⟩ := exists_setListening_of_start hstart
          obtain ⟨hfollows, hkinds⟩ := hremoved.follows.sound.start hstart
          exact ⟨wf'.setListening hset, hremoved.follows.trans hfollows hkinds⟩
        · exact hremoved
      · exact hremoved

end Dispatched

/-- Whatever message arrives on a connection, the tree stays well-formed and listening follows. -/
theorem Tree.WellFormed.dispatch (wf : tree.WellFormed) (h : l.Sound tree)
    (online : l.online.isSome = true) (listenAll : Bool) (epoch : Epoch) (message : Message) :
    Dispatched.Keeps tree l (Domotics.dispatch tree l listenAll epoch message) := by
  have hannounce : ∀ {parent item}, message.toItem? = some (parent, item) →
      Dispatched.Keeps tree l (dispatchAnnouncement tree l listenAll parent item) :=
    fun hm => Dispatched.keeps_announcement wf h online listenAll _
      (Message.isListening_of_toItem? hm)
  cases message with
  | decimalDevice role info quantity => exact hannounce rfl
  | binaryDevice role info on => exact hannounce rfl
  | container info => exact hannounce rfl
  | decimalValueChanged id value =>
    exact Dispatched.keeps_value wf h fun tree' hset =>
      ⟨wf.setDecimal hset, allAlike_setDecimal hset⟩
  | binaryValueChanged id on =>
    exact Dispatched.keeps_value wf h fun tree' hset =>
      ⟨wf.setBinary hset, allAlike_setBinary hset⟩
  | itemRemoved id =>
    have hremoved := Dispatched.keeps_removed h online (wf.remove id)
      (wf.prunes_remove id).listened_eq
    simp only [Domotics.dispatch]
    split
    · exact Dispatched.keeps_same wf h none
    · rename_i tree' _ heq
      rw [heq] at hremoved
      exact hremoved
  | ping id =>
    have hsilent : Action.told l.clientRunning [.send epoch (.pong id)] = [] := by
      cases l.clientRunning <;> rfl
    refine ⟨wf, h, rfl, ?_⟩
    change Tells l tree l tree (Action.told l.clientRunning [.send epoch (.pong id)])
    rw [hsilent]
    exact h.follows.told
  | pong _ => exact Dispatched.keeps_same wf h none
  | logout _ => exact Dispatched.keeps_same wf h none
  | listeningStart _ => exact Dispatched.keeps_same wf h none
  | listeningStop _ => exact Dispatched.keeps_same wf h none
  | login _ _ _ => exact Dispatched.keeps_same wf h _

end Domotics
