import Docket.Proofs.Conversion.Copying
import Docket.Proofs.Persistence.Permanence
import Docket.Proofs.Persistence.Schema

/-!
# Sound documents

A stored document is put together by three writers: the insertion of a stored form, updates
that write fields of other stored forms over it, and removals that write a time of deletion.
It is read as a whole.

A document is sound if it has an identifier and each column of a schema reads something from
it, be it what stands for a missing member (`Schema.Sound`). Sound documents are read as
records (`Sound.decodes`), unless a column needs a member under the name of the primary key:
that is not among what is read (`keyMayBeMissing_of_decode`). A stored form is sound, if all
values of the columns come back from being written (`sound_of_encode`), and a sound document
stays sound when fields are written over it each of which its column can read
(`Sound.extend`). All that is ever written over a document is such (`fits_writableFields`,
`fits_deletion`). So soundness can be followed through everything that is done with the
records of a schema (`allSound_followed`).
-/

set_option autoImplicit false

namespace Docket

/-! ## Sound documents -/

namespace Schema

variable {schema : Schema}

/-- **A sound document**: its members are in order, it has an identifier, and each of the
other columns reads something from it. -/
structure Sound (schema : Schema) (document : Document) : Prop where
  sorted : Document.Sorted document
  hasId : ∃ id, Document.HasId id document
  reads : ∀ column ∈ schema.columns, column.name ≠ FieldName.identifier →
    column.name ≠ FieldName.primaryKey → ∃ value, column.field.read document = .ok value

/-- Fields fit the columns of their names, and none is the primary key. -/
structure Fits (schema : Schema) (fields : Document) : Prop where
  unkeyed : ∀ field ∈ fields, field.1 ≠ FieldName.primaryKey
  decodes : ∀ field ∈ fields, ∀ column ∈ schema.columns,
    column.name ≠ FieldName.identifier → column.name = field.1 →
      ∃ value, column.field.codec.decode field.2 = .ok value

/-- **A sound document stays sound when fitting fields are written over it.** -/
theorem Sound.extend {document fields : Document} (sound : schema.Sound document)
    (fits : schema.Fits fields) : schema.Sound (Document.extend document fields) where
  sorted := sound.sorted.extend fields
  hasId := by
    obtain ⟨id, hasId⟩ := sound.hasId
    exact ⟨id, (Document.get?_extend_of_unnamed fits.unkeyed document).trans hasId⟩
  reads column isColumn notId notKey := by
    by_cases named : ∃ field ∈ fields, field.1 = column.field.name
    · obtain ⟨json, last⟩ := Document.exists_lastFor named
      obtain ⟨value, decodes⟩ := fits.decodes _ last.mem column isColumn notId rfl
      have found := Document.get?_extend_of_lastFor last document
      exact ⟨value, (Field.read_of_get? found).trans decodes⟩
    · have unnamed : ∀ field ∈ fields, field.1 ≠ column.field.name :=
        fun field isField isName => named ⟨field, isField, isName⟩
      obtain ⟨value, reads⟩ := sound.reads column isColumn notId notKey
      have untouched := Document.get?_extend_of_unnamed unnamed document
      exact ⟨value, (Field.read_congr untouched).trans reads⟩

/-- **What an update by identifier writes fits.** -/
theorem fits_writableFields {document : Document} (sound : schema.Sound document) :
    schema.Fits (Access.writableFields document) where
  unkeyed field isField := (Access.of_mem_writableFields isField).2.1
  decodes field isField column isColumn notId isName := by
    obtain ⟨isMember, notKey, _⟩ := Access.of_mem_writableFields isField
    obtain ⟨value, reads⟩ := sound.reads column isColumn notId (isName ▸ notKey)
    have found : Document.get? document column.field.name = some field.2 := by
      rw [show column.field.name = field.1 from isName]
      exact sound.sorted.mem_iff_get?.mp isMember
    exact ⟨value, (Field.read_of_get? found).symm.trans reads⟩

/-- What a schema needs for all that is stored to be read: the values of its other types come
back from being written, the time of deletion is a time if it has one, and a column with the
name that the store keeps for the identifier may be missing. -/
structure Reliable (schema : Schema) : Prop where
  returns : ∀ values, schema.Return values
  deletion : ∀ column ∈ schema.columns, column.name = FieldName.deletedAt →
    ∃ time, column = .time time
  keyMayBeMissing : ∀ column ∈ schema.columns, column.name = FieldName.primaryKey →
    ∃ value, column.field.codec.absent = some value

/-- Nothing is ever read from a member under the name that the store keeps for the
identifier. So where anything is read, a column of that name may be missing. -/
theorem keyMayBeMissing_of_decode {σ : Type} {access : Access σ schema.model}
    {operation : StoreOperation} {document : Document} {record : schema.model.Value}
    (decoded : access.decode operation document = .ok record) {column : Column}
    (isColumn : column ∈ schema.columns) (isKey : column.name = FieldName.primaryKey) :
    ∃ value, column.field.codec.absent = some value := by
  obtain ⟨values, rfl⟩ := schema.exists_record record
  obtain ⟨members, missing, reads⟩ := Access.exists_members_of_decode decoded
  have read := Row.reads_of_decode reads column isColumn
  rw [Field.read, show column.field.name = FieldName.primaryKey from isKey, missing] at read
  cases absent : column.field.codec.absent with
  | none =>
      rw [absent] at read
      cases read
  | some value => exact ⟨value, rfl⟩

variable (reliable : schema.Reliable)

include reliable

/-- **A sound document is read.** -/
theorem Sound.decodes {σ : Type} {document : Document} (sound : schema.Sound document)
    (access : Access σ schema.model) :
    ∃ record, ∀ operation, access.decode operation document = .ok record := by
  obtain ⟨id, hasId⟩ := sound.hasId
  have allowed : ∀ column ∈ schema.columns, ∃ value,
      (column.name = FieldName.identifier → column.field.codec.decode id.toJson = .ok value) ∧
        (column.name ≠ FieldName.identifier →
          column.field.read (Document.erase document FieldName.primaryKey) = .ok value) := by
    intro column isColumn
    by_cases isId : column.name = FieldName.identifier
    · obtain rfl := eq_of_name_eq isColumn schema.hasId isId
      refine ⟨id, fun _ => ?_, fun notId => absurd isId notId⟩
      show schema.identifier.codec.decode _ = _
      rw [schema.identifier.like.decode]
      exact Codec.decode_recordId id
    · by_cases isKey : column.name = FieldName.primaryKey
      · obtain ⟨value, absent⟩ := reliable.keyMayBeMissing column isColumn isKey
        refine ⟨value, fun identifies => absurd identifies isId, fun _ => ?_⟩
        have missing : Document.get? (Document.erase document FieldName.primaryKey)
            column.field.name = none := by
          rw [← isKey]
          exact Document.get?_erase_self document _
        rw [Field.read, missing, absent]
      · obtain ⟨value, reads⟩ := sound.reads column isColumn isId isKey
        refine ⟨value, fun identifies => absurd identifies isId, fun _ => ?_⟩
        rw [← reads]
        exact Field.read_congr (Document.get?_erase_of_ne document isKey)
  obtain ⟨values, chosen⟩ := Row.exists_family allowed
  exact ⟨schema.record values, fun operation => Access.decode_of_hasId hasId
    (Row.decode_restored sound.sorted (fun column isColumn => (chosen column isColumn).1)
      fun column isColumn => (chosen column isColumn).2)⟩

/-- **A stored form is sound.** -/
theorem sound_of_encode {σ : Type} {access : Access σ schema.model} {operation : StoreOperation}
    {record : schema.model.Value} {document : Document}
    (encoded : access.encode operation record = .ok document) : schema.Sound document where
  sorted := Access.encode_sorted schema.lawful encoded
  hasId := ⟨_, Access.encode_primaryKey encoded⟩
  reads column isColumn notId notKey := by
    obtain ⟨values, rfl⟩ := schema.exists_record record
    obtain ⟨members, written, rfl⟩ := Access.exists_members_of_encode encoded
    have encodedRow := (RecordType.encode_ofFields_iff schema.name).mp written
    exact ⟨_, read_stored encodedRow isColumn notId notKey
      (keeps (reliable.returns values) isColumn notId)⟩

/-- **A time of deletion fits.** -/
theorem fits_deletion (now : Instant) :
    schema.Fits (Repository.deletion now) where
  unkeyed := (Repository.deletion_harmless now).primaryKey
  decodes field isField column isColumn _ isName := by
    have isDeletion : field = (FieldName.deletedAt, .string now.stored) :=
      List.mem_singleton.mp isField
    subst isDeletion
    obtain ⟨time, rfl⟩ := reliable.deletion column isColumn isName
    have notNull : Json.string now.stored ≠ .null := Json.noConfusion
    have decodes :=
      Codec.decode_optionalIf time.nullable notNull (Codec.decode_timestamp_stored now)
    rw [← time.like.decode] at decodes
    exact ⟨_, decodes⟩

/-! ## Worlds -/

omit reliable

/-- All documents of a place are sound. -/
def AllSound (schema : Schema) (place : Namespace) (world : World MemoryStore) : Prop :=
  ∀ document ∈ world.store.documents place, schema.Sound document

/-- An update that writes fitting fields leaves sound documents sound. -/
theorem AllSound.update {place : Namespace} {before after : World MemoryStore}
    (sound : schema.AllSound place before) {operation : StoreOperation} {filter fields : Document}
    {many : Bool} (fits : schema.Fits fields)
    (equal : after.store =
      (before.store.update place operation filter (Document.setting fields) many).1) :
    schema.AllSound place after := by
  intro document isStored
  rw [equal, MemoryStore.update_documents] at isStored
  have related : List.Forall₂ (fun earlier later => schema.Sound earlier → schema.Sound later)
      (before.store.documents place)
      (before.store.updating place operation filter fields many).1 :=
    Collection.updateFrom_related (fun _ sound => sound) (fun _ sound => sound.extend fits) _ _ _ _
  obtain ⟨earlier, isEarlier, becomes⟩ := exists_of_mem_right related isStored
  exact becomes (sound earlier isEarlier)

/-- **Soundness can be followed through all that is done with the records of a schema.** -/
theorem allSound_followed (reliable : schema.Reliable) (place : Namespace) :
    Followed schema.model place fun before after =>
      schema.AllSound place before → schema.AllSound place after where
  same before after equal sound := by
    rw [AllSound, equal]
    exact sound
  trans _ _ _ first second sound := second (first sound)
  marking _ _ _ now equal sound := sound.update (fits_deletion reliable now) equal
  insertion before after record document _ encoded equal sound := by
    intro other isStored
    rw [equal, MemoryStore.insertMany_documents] at isStored
    have key := Access.encode_primaryKey encoded
    rcases Collection.mem_of_mem_insertFrom key isStored with wasThere | rfl
    · exact sound other wasThere
    · exact sound_of_encode reliable encoded
  overwriting _ _ _ _ _ encoded equal sound :=
    sound.update (fits_writableFields (sound_of_encode reliable encoded)) equal

/-- The records of a schema are written as objects. -/
theorem exists_written (reliable : schema.Reliable) (record : schema.model.Value) :
    ∃ given, Copier.written schema.model.toRecordType record = .ok given := by
  obtain ⟨values, rfl⟩ := schema.exists_record record
  obtain ⟨members, encoded⟩ := exists_members (reliable.returns values)
  exact ⟨members, Copier.written_ofFields schema.name encoded⟩

end Schema

end Docket
