import Domotics.Proofs.Reproduction
/-!
# Announcements and items

An announcement says of an item all that can be said of it outside a tree: going from an item to its
announcement and back loses its parent, its children and its listening mark (`toItem?_announce`),
and going from an announcement to its item and back loses nothing (`map_announce_toItem?`). So
announcements are equal just if they are made under the same container of items that match in each
field that is announced (`announce_eq_announce_iff`). `announce_inverse` has all of this.
-/

namespace Domotics

namespace Item

variable {item other : Item}

/-- Two items match in all that is announced. Only containers have neither a role nor a value, and
values match if they are of one type and equal in value, range, unit and abbreviation, bit for
bit. -/
@[mk_iff]
structure Matches (item other : Item) : Prop where
  id : item.id = other.id
  name : item.name = other.name
  description : item.description = other.description
  internal : item.internal = other.internal
  role? : item.role? = other.role?
  value? : item.value? = other.value?

/-- What two items are announced as tells them apart just if a field does that is announced. -/
theorem announced_eq_announced_iff : item.announced = other.announced ↔ item.Matches other := by
  rw [matches_iff]
  -- A container and a device are told apart by the role, two of a kind by their fields.
  obtain ⟨_, _, _, _, _, _ | _⟩ := item <;> obtain ⟨_, _, _, _, _, _ | _⟩ := other <;>
    simp [announced, withChildren, withListening, role?, value?]

end Item

/-- The kinds of messages that announce an item. -/
def MessageKind.announcements : List MessageKind :=
  [.decimalDevice .sensor, .decimalDevice .actuator, .binaryDevice .sensor, .binaryDevice .actuator,
    .container]

namespace Message

variable {parent parent' : ItemId} {item item' : Item}

/-- An announcement is made of what is announced of an item, and of nothing else. -/
theorem announce_announced (parent : ItemId) (item : Item) :
    announce parent item.announced = announce parent item := by
  obtain ⟨_, _, _, _, _, _ | _⟩ := item <;> rfl

/-- The item that an announcement announces is the one it was made of, outside a tree. -/
theorem toItem?_announce (parent : ItemId) (item : Item) :
    (announce parent item).toItem? = some (parent, item.announced) := by
  obtain ⟨_, _, _, _, _, _ | ⟨_, _ | _⟩⟩ := item <;> rfl

/-- An announcement is made of the item that it announces; every other message announces none. -/
theorem map_announce_toItem? (message : Message) :
    (message.toItem?.map fun (parent, item) => announce parent item) =
      if message.kind ∈ MessageKind.announcements then some message else none := by
  cases message with
  | decimalDevice role _ _ | binaryDevice role _ _ => cases role <;> rfl
  | _ => rfl

theorem announce_eq_announce_iff :
    announce parent item = announce parent' item' ↔ parent = parent' ∧ item.Matches item' := by
  rw [← Item.announced_eq_announced_iff]
  constructor
  · intro h
    have hitems := congrArg toItem? h
    rw [toItem?_announce, toItem?_announce] at hitems
    exact Prod.mk.inj (Option.some.inj hitems)
  · rintro ⟨rfl, hannounced⟩
    rw [← announce_announced parent item, hannounced, announce_announced]

/-- To announce and to read an announcement are inverse: an item comes back under the container it
was announced under, without its parent, children and mark; an announcement comes back as it was,
and what is no announcement has no item; and announcements differ if a field does that is
announced. -/
theorem announce_inverse :
    (∀ parent item, (announce parent item).toItem? = some (parent, item.announced)) ∧
      (∀ message : Message, (message.toItem?.map fun (parent, item) => announce parent item) =
        if message.kind ∈ MessageKind.announcements then some message else none) ∧
      ∀ parent item parent' item', announce parent item = announce parent' item' ↔
        parent = parent' ∧ item.Matches item' :=
  ⟨toItem?_announce, map_announce_toItem?, fun _ _ _ _ => announce_eq_announce_iff⟩

/-- Two readings that are no number, and differ in one bit, are announced differently. -/
example :
    let meter (bits : UInt64) : Item :=
      .ofDevice 4 "Meter" "" false .sensor (.decimal ⟨⟨bits⟩, ⟨0⟩, ⟨0⟩, "watt", "W"⟩)
    announce 1 (meter 0x7ff8000000000000) ≠ announce 1 (meter 0x7ff8000000000001) := by
  decide

end Message

end Domotics
