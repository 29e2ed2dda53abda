import Docket.Proofs.Persistence.Pairing
import Docket.Proofs.Persistence.StoredRows

/-!
# Stored forms of paired records

What is said of stored rows, said of the slots of a pairing: where the value of a slot is
in a stored form (`get?_of_encode`), and what is read from there (`decode_of_reads`).

So whether a record is read back is a question about each of its slots. Times are read
to the precision of the stored form (`Slot.read_time`), and a live record has no time of
deletion (`Slot.read_deletedAt`).
-/

set_option autoImplicit false

namespace Docket

namespace Slot

/-- A time is read to the precision of the stored form. -/
theorem read_time {document : Document} {name : String} {instant : Instant}
    (found : Document.get? document name = some (.string instant.stored)) :
    (⟨name, Instant, .timestamp⟩ : Field).read document = .ok (instant.shown .millis) := by
  have here : Document.get? document (⟨name, Instant, .timestamp⟩ : Field).name = _ := found
  rw [Field.read_of_get? here]
  dsimp only
  exact Codec.decode_timestamp_stored instant

/-- A live record is read without a time of deletion. -/
theorem read_deletedAt {document : Document} (isLive : document.IsLive) :
    Slot.deletedAt.stored.read document = .ok (none : Option Instant) := by
  rcases isLive with missing | isNull
  · have here : Document.get? document Slot.deletedAt.stored.name = none := missing
    rw [Field.read, here]
    rfl
  · have here : Document.get? document Slot.deletedAt.stored.name = some .null := isNull
    rw [Field.read_of_get? here]
    rfl

end Slot

/-! ## Stored forms by slot -/

namespace Pairing

variable {pairing : Pairing}

theorem eq_of_name_eq {slot other : Slot} (isSlot : slot ∈ pairing.storedSlots)
    (isOther : other ∈ pairing.storedSlots) (sameName : slot.name = other.name) : slot = other :=
  List.inj_on_of_nodup_map pairing.storedDistinct isSlot isOther sameName

variable {place : Namespace} {operation : StoreOperation} {values : StoredValues}
  {document : Document}

/-- **A stored form has under the name of a field what the field writes**, in the stored
form of the field. -/
theorem get?_of_encode
    (encoded : (Access.inMemory pairing.model place).encode operation
      (pairing.storedRecord values) = .ok document)
    {slot : Slot} (isSlot : slot ∈ pairing.storedSlots) (notId : slot ≠ .id)
    (kept : slot.stored.codec.leftOut (values slot) = false) :
    ∃ json, slot.stored.codec.encode (values slot) = .ok json ∧
      Document.get? document slot.name = some (slot.stored.storedForm json) := by
  obtain ⟨members, written, rfl⟩ := Access.exists_members_of_encode encoded
  have rowWritten : Row.encode (pairing.storedSlots.map Slot.stored)
      (Row.ofValues Slot.stored values pairing.storedSlots) = .ok members :=
    (RecordType.encode_ofFields_iff pairing.storedName).mp written
  obtain ⟨json, encodes, found⟩ :=
    Row.get?_of_encode storedNames_nodup rowWritten isSlot kept
  have notIdentifier : slot.stored.name ≠ FieldName.identifier := fun sameName =>
    notId (eq_of_name_eq isSlot pairing.hasId sameName)
  have notKey : slot.stored.name ≠ FieldName.primaryKey := pairing.unreserved slot isSlot
  refine ⟨json, encodes, ?_⟩
  exact (Access.get?_storedMembers_field storedNames_nodup isSlot notKey notIdentifier).trans
    (congrArg (Option.map slot.stored.storedForm) found)

/-- **A stored form is read as a record if each field reads its own member.** -/
theorem decode_of_reads {id : RecordId} (sorted : Document.Sorted document)
    (hasId : Document.HasId id document) (isId : (values .id : RecordId) = id)
    (reads : ∀ slot ∈ pairing.storedSlots, slot ≠ .id →
      slot.stored.read document = .ok (values slot)) :
    (Access.inMemory pairing.model place).decode operation document =
      .ok (pairing.storedRecord values) := by
  refine Access.decode_of_hasId hasId (Row.decode_restored sorted (fun slot isSlot sameName => ?_)
    fun slot isSlot notIdentifier => ?_)
  · obtain rfl : slot = .id := eq_of_name_eq isSlot pairing.hasId sameName
    exact (Slot.decode_id id).trans (congrArg Except.ok isId.symm)
  · have notId : slot ≠ .id := fun isId => notIdentifier (congrArg Slot.name isId)
    rw [← reads slot isSlot notId]
    exact Field.read_congr (Document.get?_erase_of_ne document (pairing.unreserved slot isSlot))

end Pairing

end Docket
