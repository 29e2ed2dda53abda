import Docket.Proofs.Persistence.Overwriting
import Docket.Proofs.Persistence.Soundness

/-!
# What columns have in stored documents

A column has in the stored form of a record what it writes of its own value (`get?_stored`).
So a stored form is described column by column, and so is any document that was put together
from several of them: it has under the name of each column what is stored of some value that
the column keeps (`Column.KeptIn`), whichever record that value was in. What the column reads
from such a document has the same stored form (`Column.KeptIn.exists_read`).

All live documents are of this form that are ever stored by insertions, updates by identifier
and removals of records of a schema (`liveKept_followed`). Removals write times of deletion,
which can have another form in years of more than four digits; but what they write is no
longer live.
-/

set_option autoImplicit false

namespace Docket

/-! ## Columns -/

/-- What a field writes of a value, if it writes anything. -/
def Field.written? (field : Field) (value : field.Value) : Option Json :=
  if field.codec.leftOut value then none else (field.codec.encode value).toOption

namespace Column

/-- What is stored of a value of a column, if anything is. -/
def stored? (column : Column) (value : column.field.Value) : Option Json :=
  (column.field.written? value).map column.field.storedForm

section

variable {column : Column} {value : column.field.Value}

theorem stored?_of_encode {json : Json} (kept : column.field.codec.leftOut value = false)
    (encodes : column.field.codec.encode value = .ok json) :
    column.stored? value = some (column.field.storedForm json) := by
  rw [stored?, Field.written?, kept, encodes]
  rfl

theorem stored?_of_leftOut (leftOut : column.field.codec.leftOut value = true) :
    column.stored? value = none := by
  rw [stored?, Field.written?, leftOut]
  rfl

/-- **What becomes of a value that is kept** is stored as the value was. -/
theorem Keeps.stored?_asStored (keeps : column.Keeps value) :
    column.stored? (column.asStored value) = column.stored? value := by
  cases keeps with
  | written json again kept encodes _ keptAgain encodesAgain same =>
      rw [stored?_of_encode keptAgain encodesAgain, stored?_of_encode kept encodes, same]
  | leftOut _ _ unchanged => rw [unchanged]

/-- **A document has what is stored of a value that a column keeps.** -/
def KeptIn (column : Column) (document : Document) : Prop :=
  ∃ value, column.Keeps value ∧ Document.get? document column.name = column.stored? value

theorem KeptIn.congr {first second : Document} (kept : column.KeptIn first)
    (same : Document.get? second column.name = Document.get? first column.name) :
    column.KeptIn second := by
  obtain ⟨value, keeps, found⟩ := kept
  exact ⟨value, keeps, same.trans found⟩

/-- **What a column reads is stored as what it was read from.** -/
theorem KeptIn.exists_read {document : Document} (kept : column.KeptIn document) :
    ∃ value, column.field.read document = .ok value ∧
      column.stored? value = Document.get? document column.name := by
  obtain ⟨value, keeps, found⟩ := kept
  refine ⟨column.asStored value, ?_, keeps.stored?_asStored.trans found.symm⟩
  cases keeps with
  | written json _ kept encodes decodes _ _ _ =>
      rw [stored?_of_encode kept encodes] at found
      exact (Field.read_of_get? found).trans decodes
  | leftOut leftOut absent unchanged =>
      rw [stored?_of_leftOut leftOut] at found
      have missing : Document.get? document column.field.name = none := found
      rw [Field.read, missing, absent, unchanged]

end

end Column

namespace Schema

variable {schema : Schema} {values : ColumnValues} {document : Document}

/-! ## Documents -/

/-- **A stored form has what its columns have stored.** -/
theorem get?_stored {members : Document} {id : RecordId}
    (encoded : Row.encode (schema.columns.map Column.field)
      (Row.ofValues Column.field values schema.columns) = .ok members)
    {column : Column} (isColumn : column ∈ schema.columns)
    (notId : column.name ≠ FieldName.identifier) (notKey : column.name ≠ FieldName.primaryKey) :
    Document.get? (Access.storedMembers schema.model.fields id members) column.name =
      column.stored? (values column) := by
  have stored : Document.get? (Access.storedMembers schema.model.fields id members) column.name =
      (Document.get? members column.name).map column.field.storedForm :=
    Access.get?_storedMembers_field names_nodup isColumn notKey notId
  rw [stored]
  cases leftOut : column.field.codec.leftOut (values column) with
  | true =>
      have missing : Document.get? members column.name = none :=
        Row.get?_of_encode_of_leftOut names_nodup encoded isColumn leftOut
      rw [missing, Column.stored?_of_leftOut leftOut]
      rfl
  | false =>
      obtain ⟨json, encodes, found⟩ := Row.get?_of_encode names_nodup encoded isColumn leftOut
      have there : Document.get? members column.name = some json := found
      rw [there, Column.stored?_of_encode leftOut encodes]
      rfl

/-- The stored form of the record of values has what its columns have stored. -/
theorem get?_of_encode {σ : Type} {access : Access σ schema.model} {operation : StoreOperation}
    (encoded : access.encode operation (schema.record values) = .ok document)
    {column : Column} (isColumn : column ∈ schema.columns)
    (notId : column.name ≠ FieldName.identifier) (notKey : column.name ≠ FieldName.primaryKey) :
    Document.get? document column.name = column.stored? (values column) := by
  obtain ⟨members, written, rfl⟩ := Access.exists_members_of_encode encoded
  exact get?_stored ((RecordType.encode_ofFields_iff schema.name).mp written) isColumn notId notKey

/-- The stored form of a record has nothing under the name of no column, nor under the name
that the identifier has outside the store. -/
theorem get?_of_encode_of_unnamed {σ : Type} {access : Access σ schema.model}
    {operation : StoreOperation} {record : schema.model.Value}
    (encoded : access.encode operation record = .ok document) {name : String}
    (notKey : name ≠ FieldName.primaryKey)
    (unnamed : ∀ column ∈ schema.columns, column.name = name → name = FieldName.identifier) :
    Document.get? document name = none := by
  obtain ⟨values, rfl⟩ := schema.exists_record record
  obtain ⟨members, written, rfl⟩ := Access.exists_members_of_encode encoded
  by_cases isIdentifier : name = FieldName.identifier
  · rw [isIdentifier]
    exact Access.get?_storedMembers_identifier
  · refine Access.get?_storedMembers_eq_none notKey ?_
    exact Row.get?_of_encode_of_unnamed ((RecordType.encode_ofFields_iff schema.name).mp written)
      fun column isColumn _ isName => isIdentifier (unnamed column isColumn isName)

/-- What is read of a document with an identifier is what each column reads. -/
theorem read_of_decode {σ : Type} {access : Access σ schema.model} {operation : StoreOperation}
    {id : RecordId} (hasId : Document.HasId id document)
    (decoded : access.decode operation document = .ok (schema.record values))
    {column : Column} (isColumn : column ∈ schema.columns)
    (notId : column.name ≠ FieldName.identifier) (notKey : column.name ≠ FieldName.primaryKey) :
    column.field.read document = .ok (values column) := by
  have key : Document.get? document FieldName.primaryKey = some id.toJson := hasId
  unfold Access.decode at decoded
  rw [key] at decoded
  have reads := Row.reads_of_decode (eq_ok_of_mapError decoded) column isColumn
  rw [← reads]
  exact Field.read_congr ((Document.get?_erase_of_ne document notKey).symm.trans
    (Document.get?_insert_of_ne _ _ notId).symm)

/-! ## What is stored by and by -/

/-- **A document has what is stored of values that the columns keep**, apart from the
identifier. -/
def Kept (schema : Schema) (document : Document) : Prop :=
  ∀ column ∈ schema.columns, column.name ≠ FieldName.identifier →
    column.name ≠ FieldName.primaryKey → column.KeptIn document

/-- **The stored form of a record has what its columns keep**, if the values come back. -/
theorem kept_of_encode {σ : Type} {access : Access σ schema.model} {operation : StoreOperation}
    (returns : schema.Return values)
    (encoded : access.encode operation (schema.record values) = .ok document) :
    schema.Kept document := fun column isColumn notId notKey =>
  ⟨values column, keeps returns isColumn notId, get?_of_encode encoded isColumn notId notKey⟩

/-- What an update by identifier writes over a document leaves what columns keep. -/
theorem Kept.overwritten {written : Document} (kept : schema.Kept document)
    (keptWritten : schema.Kept written) (sorted : Document.Sorted written) :
    schema.Kept (Document.extend document (Access.writableFields written)) := by
  intro column isColumn notId notKey
  by_cases named : ∃ field ∈ Access.writableFields written, field.1 = column.name
  · obtain ⟨json, last⟩ := Document.exists_lastFor named
    have there : Document.get? written column.name = some json :=
      sorted.mem_iff_get?.mp (Access.of_mem_writableFields last.mem).1
    exact (keptWritten column isColumn notId notKey).congr
      ((Document.get?_extend_of_lastFor last document).trans there.symm)
  · have unnamed : ∀ field ∈ Access.writableFields written, field.1 ≠ column.name :=
      fun field isField isName => named ⟨field, isField, isName⟩
    exact (kept column isColumn notId notKey).congr
      (Document.get?_extend_of_unnamed unnamed document)

/-- All live documents at a place have what columns keep. -/
def LiveKept (schema : Schema) (place : Namespace) (world : World MemoryStore) : Prop :=
  ∀ document ∈ world.store.documents place, document.IsLive → schema.Kept document

/-- An update keeps what live documents have, if writing over a live document does. -/
theorem LiveKept.update {place : Namespace} {before after : World MemoryStore}
    (kept : schema.LiveKept place before) {operation : StoreOperation} {filter fields : Document}
    {many : Bool} (writes : ∀ document, (document.IsLive → schema.Kept document) →
      (Document.extend document fields).IsLive → schema.Kept (Document.extend document fields))
    (equal : after.store =
      (before.store.update place operation filter (Document.setting fields) many).1) :
    schema.LiveKept place after := by
  intro document isStored
  rw [equal, MemoryStore.update_documents] at isStored
  have related : List.Forall₂ (fun earlier later => (earlier.IsLive → schema.Kept earlier) →
      (Document.IsLive later → schema.Kept later)) (before.store.documents place)
      (before.store.updating place operation filter fields many).1 :=
    Collection.updateFrom_related (fun _ => id) writes _ _ _ _
  obtain ⟨earlier, isEarlier, becomes⟩ := exists_of_mem_right related isStored
  exact becomes (kept earlier isEarlier)

/-- **Live documents have what columns keep**, along all that is done with the records of a
schema whose values come back. -/
theorem liveKept_followed (returns : ∀ values, schema.Return values) (place : Namespace) :
    Followed schema.model place fun before after =>
      schema.LiveKept place before → schema.LiveKept place after where
  same before after equal kept := by
    rw [LiveKept, equal]
    exact kept
  trans _ _ _ first second kept := second (first kept)
  marking _ _ _ now equal kept := by
    refine kept.update (fun document _ live => ?_) equal
    have marked : Document.get? (Document.extend document (Repository.deletion now))
        FieldName.deletedAt = some (.string now.stored) :=
      Document.get?_insert_self document _ _
    rw [Document.IsLive, marked] at live
    rcases live with missing | isNull
    · cases missing
    · cases isNull
  insertion before after record document _ encoded equal kept := by
    intro other isStored live
    rw [equal, MemoryStore.insertMany_documents] at isStored
    have key := Access.encode_primaryKey encoded
    rcases Collection.mem_of_mem_insertFrom key isStored with wasThere | rfl
    · exact kept other wasThere live
    · obtain ⟨values, rfl⟩ := schema.exists_record record
      exact kept_of_encode (returns values) encoded
  overwriting before after id record written encoded equal kept := by
    obtain ⟨values, rfl⟩ := schema.exists_record record
    have sorted := Access.encode_sorted schema.lawful encoded
    refine kept.update (fun document before live => ?_) equal
    have wasLive : document.IsLive := Classical.byContradiction fun deleted =>
      ((Access.writableFields_harmless sorted).persists document).deleted deleted live
    exact (before wasLive).overwritten (kept_of_encode (returns values) encoded) sorted

end Schema

end Docket
