import Docket.Proofs.Store.Contents
import Docket.Proofs.Store.Passes

/-!
# Updates by identifier

An update for one goes past the documents that do not match to the first one that
does, and ends there. By an identifier exactly those documents match that have it
as their primary key, live or not, and the evaluation never fails
(`holds_ofId`). So an update by identifier of a document that is there is decided
by that document and by those that it may collide with (`updating_ofId`): it is
refused for a collision, or the fields are written over it.
-/

set_option autoImplicit false

namespace Docket

/-- A document has an identifier as its primary key. -/
def Document.HasId (id : RecordId) (document : Document) : Prop :=
  Document.get? document FieldName.primaryKey = some id.toJson

instance (id : RecordId) (document : Document) : Decidable (document.HasId id) :=
  inferInstanceAs (Decidable (_ = _))

/-- A field equals a text if and only if it is that text. -/
theorem Filter.fieldEquals_string_iff (actual : Option Json) (text : String) :
    fieldEquals actual (.string text) = true ↔ actual = some (.string text) := by
  cases actual with
  | none => simp [fieldEquals, Json.isNull]
  | some value => cases value <;> simp [fieldEquals, valuesEqual, Json.same, Json.unsignedZeros]

/-- **By an identifier the documents match that have it.** -/
theorem Filter.holds_ofId (document : Document) (id : RecordId) :
    holds document (Document.single FieldName.primaryKey id.toJson) =
      .ok (decide (document.HasId id)) := by
  have equals : fieldEquals (Document.get? document FieldName.primaryKey) id.toJson =
      decide (document.HasId id) :=
    Bool.eq_iff_iff.mpr ((fieldEquals_string_iff _ _).trans decide_eq_true_iff.symm)
  rw [Document.single, holds_single, memberHolds_of_ne (by decide), conditionHolds_of_value rfl,
    equals]

namespace Collection

/-- The collision for which an update is refused that writes fields over a document, if
it is refused for one. Nothing is refused that changes nothing. -/
def refusal? (indexes : List Index) (fields target : Document) (others : List Document) :
    Option Collision :=
  if Document.same (Document.extend target fields) target then none
  else firstCollision? indexes (Document.extend target fields) others

section

variable {indexes : List Index} {fields target : Document} {others : List Document}

theorem refusal?_of_same
    (unchanged : Document.same (Document.extend target fields) target = true) :
    refusal? indexes fields target others = none :=
  if_pos unchanged

theorem refusal?_of_changed
    (changed : Document.same (Document.extend target fields) target = false) :
    refusal? indexes fields target others =
      firstCollision? indexes (Document.extend target fields) others :=
  if_neg (Bool.eq_false_iff.mp changed)

end

theorem overwritten_of_unkeyed {fields : Document}
    (unkeyed : ∀ field ∈ fields, field.1 ≠ FieldName.primaryKey) (document : Document) :
    overwritten document fields = some (Document.extend document fields) := by
  induction fields generalizing document with
  | nil => rfl
  | cons field rest ih =>
      obtain ⟨name, value⟩ := field
      obtain ⟨here, behind⟩ := List.forall_mem_cons.mp unkeyed
      rw [overwritten, if_neg fun both => here both.1, ih behind, Document.extend_cons]

section

variable {update : Update}

/-- What becomes of a matched document if the update does not write its primary key. -/
theorem updatedDocument_of_unkeyed
    (unkeyed : ∀ field ∈ update.fields, field.1 ≠ FieldName.primaryKey) (indexes : List Index)
    (others : List Document) (target : Document) :
    updatedDocument update indexes others target =
      match refusal? indexes update.fields target others with
      | some collision => .error (collision.error update.place update.operation)
      | none => .ok (rewritten update.fields target) := by
  rw [updatedDocument, overwritten_of_unkeyed unkeyed]
  cases alike : Document.same (Document.extend target update.fields) target with
  | true =>
      rw [refusal?_of_same alike, rewritten_of_same alike]
      simp only [alike, if_true]
  | false =>
      rw [refusal?_of_changed alike, rewritten_of_changed alike]
      simp only [alike]
      cases firstCollision? indexes (Document.extend target update.fields) others <;> rfl

/-- An update for one ends at the first document that matches. -/
theorem updateFrom_first (one : update.many = false) (indexes : List Index)
    (before : List Document) {earlier : List Document} {target : Document} (later : List Document)
    (unmatched : ∀ other ∈ earlier, Filter.holds other update.filter = .ok false)
    (matched : Filter.holds target update.filter = .ok true) (outcome : UpdateOutcome) :
    updateFrom update indexes before (earlier ++ target :: later) outcome =
      match updatedDocument update indexes (before ++ earlier ++ later) target with
      | .error error => (earlier ++ target :: later, .error error)
      | .ok next =>
          (earlier ++ next :: later, .ok (counted outcome (!Document.same next target))) := by
  rw [updateFrom_skip indexes unmatched]
  cases updated : updatedDocument update indexes (before ++ earlier ++ later) target with
  | error error => rw [updateFrom_of_refused outcome matched updated]
  | ok next =>
      rw [updateFrom_of_written outcome matched updated, one]
      rfl

end

end Collection

namespace MemoryStore

/-- **An update by identifier of a document that is there** is refused for a collision,
or the fields are written over the first document that has the identifier. -/
theorem updating_ofId {store : MemoryStore} {place : Namespace} (operation : StoreOperation)
    {id : RecordId} {fields : Document}
    (unkeyed : ∀ field ∈ fields, field.1 ≠ FieldName.primaryKey)
    {earlier later : List Document} {target : Document}
    (present : store.documents place = earlier ++ target :: later) (hasId : target.HasId id)
    (isFirst : ∀ other ∈ earlier, ¬ other.HasId id) :
    store.updating place operation (Document.single FieldName.primaryKey id.toJson) fields false =
      match Collection.refusal? (store.collection place).indexes fields target
          (earlier ++ later) with
      | some collision => (store.documents place, .error (collision.error place operation))
      | none =>
          (earlier ++ Collection.rewritten fields target :: later,
            .ok ⟨1, if Document.same (Document.extend target fields) target then 0 else 1,
              none⟩) := by
  have unmatched : ∀ other ∈ earlier, Filter.holds other
      (Document.single FieldName.primaryKey id.toJson) = .ok false := by
    intro other isEarlier
    rw [Filter.holds_ofId, decide_eq_false (isFirst other isEarlier)]
  have matched : Filter.holds target (Document.single FieldName.primaryKey id.toJson) =
      .ok true := by
    rw [Filter.holds_ofId, decide_eq_true hasId]
  let update : Collection.Update :=
    ⟨place, operation, Document.single FieldName.primaryKey id.toJson, fields, false⟩
  have one : update.many = false := rfl
  have first := Collection.updateFrom_first one (store.collection place).indexes [] later
    unmatched matched .nothing
  rw [Collection.updatedDocument_of_unkeyed unkeyed, List.nil_append] at first
  rw [updating, present, first]
  cases Collection.refusal? (store.collection place).indexes fields target (earlier ++ later) with
  | some collision => rfl
  | none =>
      simp only [Collection.counted, UpdateOutcome.nothing, Collection.same_rewritten]
      cases Document.same (Document.extend target fields) target <;> rfl

end MemoryStore

end Docket
