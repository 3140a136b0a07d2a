import Domotics.Proofs.Listening
import Domotics.Proofs.Refusal
/-!
# The edits that a message comes to

A message asks for edits of the tree (`Message.edits`), and what it comes to is what these edits
make of the tree, unless something is wrong with it: then nothing is edited
(`WellFormed.run_dispatchEdits`). How the connection and the listening marks stand does not matter
to what is edited, though `dispatch` looks at them as well.
-/

namespace Domotics

open Domotics.Tree

namespace Message

/-- The edits of the tree that a message asks for. -/
def edits (listenAll : Bool) (message : Message) : List Mutation :=
  match message.toItem? with
  | some (parent, item) =>
    .announce parent item ::
      if listenAll ∧ item.isContainer then [.setListening item.id true] else []
  | none =>
    match message with
    | .decimalValueChanged id value => [.setDecimal id value]
    | .binaryValueChanged id on => [.setBinary id on]
    | .itemRemoved id => [.remove id]
    | _ => []

end Message

namespace Tree

variable {tree tree' : Tree} {id : ItemId}

theorem run_append (mutations mutations' : List Mutation) :
    tree.run (mutations ++ mutations') = (tree.run mutations).run mutations' :=
  List.foldl_append ..

theorem run_setListening {listening changed : Bool}
    (h : tree.setListening id listening = .ok (changed, tree')) :
    tree.run [.setListening id listening] = tree' := by
  simp only [run, List.foldl_cons, List.foldl_nil, mutate, h]
  rfl

theorem run_setListening_of_error {listening : Bool} {e : Error}
    (h : tree.setListening id listening = .error e) :
    tree.run [.setListening id listening] = tree := by
  simp only [run, List.foldl_cons, List.foldl_nil, mutate, h]
  rfl

/-- Nothing happens to a mark that is set already, or cannot be set. -/
theorem run_setListening_of_all (h : (tree.get? id).all (·.isListening) = true) :
    tree.run [.setListening id true] = tree := by
  rcases tree.setListening_cases id true with ⟨e, -, heq⟩ | ⟨-, heq⟩ | ⟨hnow, -⟩
  · exact run_setListening_of_error heq
  · exact run_setListening heq
  · obtain ⟨item, hi, -, hl⟩ := isListening_eq_ok_iff.mp hnow
    rw [hi, Option.all_some, hl] at h
    cases h

/-- Starting to listen edits the tree in one way, whether or not it is refused. -/
theorem run_of_start (l : Listening) :
    tree.run [.setListening id true] = ((l.start tree id).map (·.tree)).toOption.getD tree := by
  cases h : l.start tree id with
  | ok outcome =>
    obtain ⟨changed, hset⟩ := Listening.exists_setListening_of_start h
    exact run_setListening hset
  | error e =>
    cases hset : tree.setListening id true with
    | error e' => exact run_setListening_of_error hset
    | ok outcome =>
      unfold Listening.start at h
      rw [hset] at h
      obtain ⟨_ | _, tree'⟩ := outcome
      · cases h
      · dsimp only [bind, Except.bind] at h
        split at h
        · cases h
        · split at h <;> cases h

/-- Stopping to listen edits the tree in one way, whether or not it is refused. -/
theorem run_of_stop (l : Listening) :
    tree.run [.setListening id false] = ((l.stop tree id).map (·.tree)).toOption.getD tree := by
  cases h : l.stop tree id with
  | ok outcome =>
    obtain ⟨changed, hset⟩ := Listening.exists_setListening_of_stop h
    exact run_setListening hset
  | error e =>
    cases hset : tree.setListening id false with
    | error e' => exact run_setListening_of_error hset
    | ok outcome =>
      unfold Listening.stop at h
      rw [hset] at h
      obtain ⟨_ | _, tree'⟩ := outcome <;> cases h

/-- Where nothing is removed, nothing is done. -/
theorem WellFormed.remove_eq_self (wf : tree.WellFormed) (h : (tree.remove id).1 = []) :
    (tree.remove id).2 = tree := by
  by_cases hroot : id = rootId
  · rw [remove_of_eq_root hroot]
  cases hp : tree.parent? id with
  | none => rw [remove_of_parent?_eq_none hp]
  | some parent =>
    have hgoes := (wf.mem_removed_iff (x := id) hp).mpr ⟨isSome_of_parent? hp, .refl tree id⟩
    rw [remove_eq hroot hp] at h
    have hnone := List.filterMap_eq_nil_iff.mp h id hgoes
    have hthere : ((tree.detach parent id).get? id).isSome = true := by
      rw [detach, isSome_get?_modify]
      exact isSome_of_parent? hp
    rw [hnone] at hthere
    cases hthere

end Tree

section Messages

variable {tree : Tree} {l : Listening} {listenAll : Bool} {epoch : Epoch}

theorem run_edits_value {id : ItemId} {result : Except Error Tree} {mutation : Mutation}
    (hmutate : tree.mutate mutation = .ofExcept tree (result.map .done))
    (h : (dispatchValue tree l id result).problem = none) :
    tree.run [mutation] = (dispatchValue tree l id result).tree := by
  simp only [run, List.foldl_cons, List.foldl_nil, hmutate]
  cases result with
  | ok tree' => rfl
  | error e => cases e <;> cases h

theorem run_edits_announcement {parent : ItemId} {item : Item}
    (h : (dispatchAnnouncement tree l listenAll parent item).problem = none) :
    tree.run (.announce parent item ::
        if listenAll ∧ item.isContainer then [.setListening item.id true] else []) =
      (dispatchAnnouncement tree l listenAll parent item).tree := by
  change (tree.announcing parent item).tree.run _ = _
  unfold dispatchAnnouncement at h ⊢
  generalize tree.announcing parent item = announced at h ⊢
  obtain ⟨result, tree'⟩ := announced
  dsimp only at h ⊢
  split at h
  · cases h
  · rename_i hknown
    rw [if_neg hknown]
    cases result with
    | error e => cases h
    | ok _ =>
      dsimp only
      by_cases hnew : listenAll = true ∧ item.isContainer = true
      · rw [if_pos hnew]
        by_cases heard : (tree'.get? item.id).all (·.isListening) = true
        · rw [run_setListening_of_all heard, if_neg (by simp [heard])]
          rfl
        · rw [if_pos ⟨hnew.1, hnew.2, by simpa using heard⟩,
            run_of_start (l.itemsRemoved tree').2]
          cases (l.itemsRemoved tree').2.start tree' item.id <;> rfl
      · rw [if_neg hnew, if_neg fun hheard => hnew ⟨hheard.1, hheard.2.1⟩]
        rfl

/-- A message with which nothing is wrong edits the tree as it asks for. -/
theorem Tree.WellFormed.run_edits (wf : tree.WellFormed) {message : Message}
    (h : (Domotics.dispatch tree l listenAll epoch message).problem = none) :
    tree.run (message.edits listenAll) =
      (Domotics.dispatch tree l listenAll epoch message).tree := by
  cases message with
  | decimalDevice _ _ _ | binaryDevice _ _ _ | container _ => exact run_edits_announcement h
  | decimalValueChanged _ _ | binaryValueChanged _ _ => exact run_edits_value rfl h
  | itemRemoved id =>
    change (tree.remove id).2 = _
    simp only [Domotics.dispatch]
    split
    · rename_i tree' heq
      exact wf.remove_eq_self (congrArg Prod.fst heq)
    · rename_i heq
      rw [heq]
      rfl
  | ping _ | pong _ | logout _ | listeningStart _ | listeningStop _ => rfl
  | login _ _ _ => cases h

/-- The edits of the tree that a message comes to: none if something is wrong with it. -/
def dispatchEdits (tree : Tree) (l : Listening) (listenAll : Bool) (epoch : Epoch)
    (message : Message) : List Mutation :=
  match (dispatch tree l listenAll epoch message).problem with
  | none => message.edits listenAll
  | some _ => []

theorem Tree.WellFormed.run_dispatchEdits (wf : tree.WellFormed) (l : Listening)
    (listenAll : Bool) (epoch : Epoch) (message : Message) :
    tree.run (dispatchEdits tree l listenAll epoch message) =
      (Domotics.dispatch tree l listenAll epoch message).tree := by
  unfold dispatchEdits
  cases h : (Domotics.dispatch tree l listenAll epoch message).problem with
  | none => exact wf.run_edits h
  | some problem =>
    rw [wf.dispatch_eq_refused h]
    rfl

end Messages

end Domotics
