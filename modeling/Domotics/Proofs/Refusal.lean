import Domotics.Dispatch
import Domotics.Proofs.Tree.Preservation
/-!
# Messages that are refused

A message with which something is wrong changes nothing: neither the tree, nor what is queued in it,
nor what is known of listening, and nothing is to be done about the connection
(`dispatch_eq_refused`).

Most messages are checked before anything is done. An announcement that replaces an item takes the
old one out first, with everything below it, and then adds the new one. That this is never left half
done rests on the check before it: a parent that passes it is still there when the old item is gone
(`WellFormed.replace_eq`, by which `WellFormed.announcing_of_error` is shown).
-/

namespace Domotics

open Domotics.Tree

variable {tree : Tree} {l : Listening} {problem : String}

theorem dispatchValue_eq_refused {id : ItemId} {result : Except Error Tree}
    (h : (dispatchValue tree l id result).problem = some problem) :
    dispatchValue tree l id result = .refused tree l problem := by
  cases result with
  | ok tree' => cases h
  | error e => cases e <;> (obtain rfl := Option.some.inj h; rfl)

theorem Tree.WellFormed.dispatchAnnouncement_eq_refused (wf : tree.WellFormed) {listenAll : Bool}
    {parent : ItemId} {item : Item}
    (h : (dispatchAnnouncement tree l listenAll parent item).problem = some problem) :
    dispatchAnnouncement tree l listenAll parent item = .refused tree l problem := by
  have herror : ∀ e, (tree.announcing parent item).result = .error e →
      (tree.announcing parent item).tree = tree := fun _ => wf.announcing_of_error
  unfold dispatchAnnouncement at h ⊢
  generalize tree.announcing parent item = announced at herror h ⊢
  obtain ⟨result, tree'⟩ := announced
  dsimp only at herror h ⊢
  split at h
  · -- The parent is not known.
    rename_i hunknown
    obtain rfl := Option.some.inj h
    exact if_pos hunknown
  · rename_i hknown
    rw [if_neg hknown]
    cases result with
    | error e =>
      obtain rfl := Option.some.inj h
      obtain rfl := herror e rfl
      rfl
    | ok _ =>
      -- What could be applied is no problem, whether or not it is listened to.
      dsimp only at h
      split at h
      · split at h <;> cases h
      · cases h

/-- In a well-formed tree, what is wrong with a message is all that comes of it. -/
theorem Tree.WellFormed.dispatch_eq_refused (wf : tree.WellFormed) {listenAll : Bool}
    {epoch : Epoch} {message : Message}
    (h : (dispatch tree l listenAll epoch message).problem = some problem) :
    dispatch tree l listenAll epoch message = .refused tree l problem := by
  cases message with
  | decimalDevice _ _ _ | binaryDevice _ _ _ | container _ =>
    exact wf.dispatchAnnouncement_eq_refused h
  | decimalValueChanged _ _ | binaryValueChanged _ _ => exact dispatchValue_eq_refused h
  | itemRemoved id =>
    simp only [dispatch] at h
    split at h <;> cases h
  | login _ _ _ =>
    obtain rfl := Option.some.inj h
    rfl
  | ping _ | pong _ | logout _ | listeningStart _ | listeningStop _ => cases h

/-- Whatever was done to a new tree and whichever of its changes wait, and however listening stands:
a message with which something is wrong leaves the tree with all that is queued in it and listening
as they were, and has nothing done. -/
theorem dispatch_run_eq_refused (mutations : List Mutation) (events : List TreeEvent)
    (l : Listening) (listenAll : Bool) (epoch : Epoch) (message : Message) {problem : String}
    (h : (dispatch { Tree.empty.run mutations with events } l listenAll epoch message).problem =
      some problem) :
    dispatch { Tree.empty.run mutations with events } l listenAll epoch message =
      ⟨{ Tree.empty.run mutations with events }, l, [], some problem⟩ := by
  have wf : { Tree.empty.run mutations with events }.WellFormed :=
    (WellFormed.empty.run mutations).of_get?_eq fun _ => rfl
  exact wf.dispatch_eq_refused h

/-- A room with a room in it does not become a device in the inner room. -/
theorem dispatch_run_eq_refused_cycle :
    let mutations : List Mutation :=
      [.add rootId (.ofContainer 1 "Ground floor" "" false), .setListening 1 true,
        .add 1 (.ofContainer 2 "Kitchen" "" false)]
    let l : Listening := ⟨some 3, [], true⟩
    let message : Message := .binaryDevice .actuator ⟨1, 2, "Lamp", "", false⟩ true
    let problem :=
      "Could not apply announcement of item 1: OHAP protocol error: " ++
        "moving item 1 under 2 would create a cycle"
    (dispatch { Tree.empty.run mutations with events := [] } l true 3 message).problem =
        some problem ∧
      dispatch { Tree.empty.run mutations with events := [] } l true 3 message =
        ⟨{ Tree.empty.run mutations with events := [] }, l, [], some problem⟩ := by
  intro mutations l message problem
  have h : (dispatch { Tree.empty.run mutations with events := [] } l true 3 message).problem =
      some problem := by
    decide +kernel
  exact ⟨h, dispatch_run_eq_refused mutations [] l true 3 message h⟩

end Domotics
