import Docket.Persistence.Repository
import Docket.Proofs.Record.Rows
import Docket.Proofs.Store.Continuity

/-!
# Stored forms

The stored form of a record has the text of its identifier under the primary key
(`encode_primaryKey`). Fields that are timestamps are rewritten to the stored
form, and this cannot touch the identifier, even if a field of a type calls
itself so: a timestamp has dashes, and the text of an identifier has none.

Of the stored form an update by identifier writes neither the primary key nor the
time of creation, and of the time of deletion no null. So what it writes is
harmless (`writableFields_harmless`). Marking as deleted is harmless too.
-/

set_option autoImplicit false

namespace Docket

/-! ## Identifiers are no timestamps -/

namespace Text

theorem digitChar_ne_dash {digit : Nat} (isDigit : digit < 16) : Nat.digitChar digit ≠ '-' := by
  revert digit
  decide

theorem dash_not_mem_padded (width value : Nat) : '-' ∉ padded 16 width value := by
  induction width generalizing value with
  | zero => simp [padded]
  | succ width ih =>
      rw [padded, List.mem_append, List.mem_singleton]
      rintro (before | last)
      · exact ih _ before
      · exact digitChar_ne_dash (Nat.mod_lt value (by decide)) last.symm

end Text

namespace Rfc3339

theorem mark?_of_absent {expected : Char} {text : List Char} (absent : expected ∉ text) :
    mark? expected text = none := by
  cases text with
  | nil => rfl
  | cons character rest =>
      have differ : expected ≠ character := fun equal => absent (equal ▸ List.mem_cons_self)
      rw [mark?, Text.stripStart?, if_neg differ]

/-- What follows digits is the end of the text. -/
theorem digits?_suffix {least greatest : Nat} {text rest : List Char} {value : Nat}
    (found : digits? least greatest text = some (value, rest)) : rest <:+ text := by
  unfold digits? at found
  dsimp only at found
  split at found
  · cases found
  · obtain ⟨_, _, equal⟩ := Option.map_eq_some_iff.mp found
    rw [← (Prod.mk.inj equal).2]
    exact List.drop_suffix _ _

/-- A timestamp has a dash behind its year. -/
theorem strictFields?_of_noDash {text : List Char} (absent : '-' ∉ text) :
    strictFields? text = none := by
  unfold strictFields?
  cases found : digits? 4 4 text with
  | none => rfl
  | some parts =>
      obtain ⟨year, rest⟩ := parts
      have noDash : '-' ∉ rest := fun isDash => absent ((digits?_suffix found).subset isDash)
      simp only [Option.bind_eq_bind, Option.bind_some, mark?_of_absent noDash, Option.bind_none]

end Rfc3339

/-- The text of an identifier is not rewritten as a timestamp. -/
theorem RecordId.storedTimestamp_toJson (id : RecordId) :
    id.toJson.storedTimestamp = id.toJson := by
  have noDash : '-' ∉ id.text.toList := by
    rw [RecordId.text, String.toList_ofList]
    exact Text.dash_not_mem_padded _ _
  have unread : Rfc3339.parse? id.text = none := by
    rw [Rfc3339.parse?, Rfc3339.instantBy?, Rfc3339.strictFields?_of_noDash noDash]
  rw [RecordId.toJson, Json.storedTimestamp, unread]

/-! ## Lawful types -/

/-- A type of stored records is lawful if a record has the identifier that it was
given, and if it writes objects as objects are kept, in the order of their names. -/
structure ModelType.Lawful (model : ModelType) : Prop where
  id_setId : ∀ id record, model.id (model.setId id record) = id
  sorted : ∀ record members, model.encode record = .ok (.object members) →
    Document.Sorted members

namespace Access

theorem sorted_normalized {document : Document} (sorted : Document.Sorted document)
    (name : String) : Document.Sorted (normalized document name) := by
  unfold normalized
  split
  · exact sorted.insert _ _
  · exact sorted

/-- The identifier stays, whichever field is brought into the stored form. -/
theorem normalized_primaryKey {document : Document} {id : RecordId}
    (found : Document.get? document FieldName.primaryKey = some id.toJson) (name : String) :
    Document.get? (normalized document name) FieldName.primaryKey = some id.toJson := by
  unfold normalized
  by_cases isKey : FieldName.primaryKey = name
  · subst isKey
    rw [found]
    dsimp only
    rw [Document.get?_insert_self, id.storedTimestamp_toJson]
  · split
    · rw [Document.get?_insert_of_ne document _ isKey, found]
    · exact found

/-- Members as they are stored: the identifier goes under the primary key, and timestamps
are in the stored form. -/
def storedMembers (fields : List FieldSpec) (id : RecordId) (members : Document) : Document :=
  (timestampNames fields).foldl normalized
    (Document.insert (Document.erase members FieldName.identifier) FieldName.primaryKey id.toJson)

section

variable {fields : List FieldSpec} {id : RecordId} {members : Document}

theorem storedMembers_sorted (sorted : Document.Sorted members) :
    Document.Sorted (storedMembers fields id members) := by
  have start : Document.Sorted (Document.insert (Document.erase members FieldName.identifier)
      FieldName.primaryKey id.toJson) := (sorted.erase _).insert _ _
  unfold storedMembers
  generalize Document.insert (Document.erase members FieldName.identifier)
    FieldName.primaryKey id.toJson = begun at start
  induction timestampNames fields generalizing begun with
  | nil => exact start
  | cons name rest ih => exact ih _ (sorted_normalized start name)

theorem storedMembers_primaryKey :
    Document.get? (storedMembers fields id members) FieldName.primaryKey = some id.toJson := by
  have start := Document.get?_insert_self (Document.erase members FieldName.identifier)
    FieldName.primaryKey id.toJson
  unfold storedMembers
  generalize Document.insert (Document.erase members FieldName.identifier)
    FieldName.primaryKey id.toJson = begun at start
  induction timestampNames fields generalizing begun with
  | nil => exact start
  | cons name rest ih => exact ih _ (normalized_primaryKey start name)

end

section

variable {σ : Type} {model : ModelType} {access : Access σ model} {operation : StoreOperation}
  {record : model.Value} {document members : Document}

theorem encode_of_members (written : model.encode record = .ok (.object members)) :
    access.encode operation record =
      .ok (storedMembers model.fields (model.id record) members) := by
  unfold encode RecordType.members
  rw [written]
  rfl

/-- The stored form of a record is made from its members. -/
theorem exists_members_of_encode (encoded : access.encode operation record = .ok document) :
    ∃ members, model.encode record = .ok (.object members) ∧
      document = storedMembers model.fields (model.id record) members := by
  unfold encode RecordType.members at encoded
  cases written : model.encode record with
  | error reason =>
      rw [written] at encoded
      cases encoded
  | ok value =>
      rw [written] at encoded
      cases value with
      | object members => exact ⟨members, rfl, (Except.ok.inj encoded).symm⟩
      | _ => cases encoded

theorem encode_sorted (lawful : model.Lawful)
    (encoded : access.encode operation record = .ok document) : Document.Sorted document := by
  obtain ⟨members, written, rfl⟩ := exists_members_of_encode encoded
  exact storedMembers_sorted (lawful.sorted record members written)

/-- **The stored form has the identifier of the record as its primary key.** -/
theorem encode_primaryKey (encoded : access.encode operation record = .ok document) :
    Document.get? document FieldName.primaryKey = some (model.id record).toJson := by
  obtain ⟨members, _, rfl⟩ := exists_members_of_encode encoded
  exact storedMembers_primaryKey

end

/-- What an update by identifier writes is in the stored form, and neither the primary key
nor the time of creation. -/
theorem of_mem_writableFields {document : Document} {field : String × Json}
    (isField : field ∈ writableFields document) :
    field ∈ document ∧ field.1 ≠ FieldName.primaryKey ∧
      field.1 ≠ FieldName.createdAt := by
  have kept : field ∈ Document.erase (Document.erase document FieldName.primaryKey)
      FieldName.createdAt := by
    unfold writableFields at isField
    dsimp only at isField
    split at isField
    · exact (Document.mem_erase_iff.mp isField).1
    · exact isField
  obtain ⟨unkeyed, notCreatedAt⟩ := Document.mem_erase_iff.mp kept
  obtain ⟨isMember, notKey⟩ := Document.mem_erase_iff.mp unkeyed
  exact ⟨isMember, notKey, notCreatedAt⟩

/-- **What an update by identifier writes is harmless.** -/
theorem writableFields_harmless {document : Document} (sorted : Document.Sorted document) :
    (writableFields document).Harmless := by
  refine ⟨fun field isField => (of_mem_writableFields isField).2.1,
    fun field isField => (of_mem_writableFields isField).2.2, fun isField => ?_⟩
  have found : Document.get? (Document.erase (Document.erase document FieldName.primaryKey)
      FieldName.createdAt) FieldName.deletedAt = some .null := by
    rw [Document.get?_erase_of_ne _ (by decide), Document.get?_erase_of_ne _ (by decide)]
    exact sorted.mem_iff_get?.mp (of_mem_writableFields isField).1
  unfold writableFields at isField
  dsimp only at isField
  have isNull : (some Json.null).any Json.isNull = true := rfl
  rw [found, if_pos isNull] at isField
  exact (Document.mem_erase_iff.mp isField).2 rfl

end Access

theorem Repository.deletion_harmless (now : Instant) : (deletion now).Harmless := by
  refine ⟨fun field isField => ?_, fun field isField => ?_, fun isField => ?_⟩
  · rw [List.mem_singleton.mp isField]
    show FieldName.deletedAt ≠ FieldName.primaryKey
    decide
  · rw [List.mem_singleton.mp isField]
    show FieldName.deletedAt ≠ FieldName.createdAt
    decide
  · cases List.mem_singleton.mp isField

end Docket
