import Docket.Proofs.Conversion.Unreached
import Docket.Proofs.Persistence.History
import Docket.Proofs.Persistence.Readability
import Docket.Proofs.Persistence.StoredColumns

/-!
# What is read and saved back

A record that is read by its identifier and saved back as it was read goes through two
conversions: into a blank record of the application, and from there into a blank stored one.
All of that is then written over the stored record. So what is stored of a column is what came
back of its value, and not what was there before (`SavedOver`): a value that comes back is
unchanged, and a column that the application's record does not reach is overwritten by its
blank value (`saved_back_as_converted`). Left alone are the identifier, the time of creation,
a time of deletion that came back as null, and whatever has the name of no column. If the
identifier does not come back, then another record is written, or one is added, and the stored
record stays as it was.

A record of which all columns come back is the same as before but for its time of update
(`SavedOver.agrees`). Notes are such records. Entries of a ledger are not, as an open one is
closed by this (`openEntry_closed`).
-/

set_option autoImplicit false

namespace Docket

open Document (IsOnly HasId)

/-! ## Writing to other records -/

/-- A document has one identifier at most. -/
theorem Document.HasId.unique {id other : RecordId} {document : Document}
    (hasId : HasId id document) (hasOther : HasId other document) : id = other :=
  RecordId.eq_of_text_eq (Json.string.inj (Option.some.inj (hasId.symm.trans hasOther)))

/-- The only document with an identifier stays so when documents change that have another
identifier, and keep it. -/
theorem Document.IsOnly.of_related {id other : RecordId} (differ : other ≠ id)
    {before after : List Document} {document : Document} (isOnly : IsOnly id before document)
    (related : List.Forall₂ (fun earlier later =>
      later = earlier ∨ HasId other earlier ∧ HasId other later) before after) :
    IsOnly id after document := by
  obtain ⟨earlier, later, rfl, hasId, elsewhere⟩ := isOnly
  obtain ⟨earlierAfter, hereAfter, rfl, ofEarlier, ofHere⟩ := exists_split_of_append related
  obtain ⟨next, laterAfter, here, ofLater, rfl⟩ := List.forall₂_cons_left_iff.mp ofHere
  have stays : ∀ {source target : Document}, ¬ HasId id source →
      (target = source ∨ HasId other source ∧ HasId other target) → ¬ HasId id target := by
    rintro source target notId (rfl | ⟨_, hasOther⟩) targetHasId
    · exact notId targetHasId
    · exact differ (hasOther.unique targetHasId)
  obtain rfl : next = document := here.resolve_right fun both => differ (both.1.unique hasId)
  refine ⟨earlierAfter, laterAfter, rfl, hasId, fun target isTarget => ?_⟩
  rcases List.mem_append.mp isTarget with isBefore | isBehind
  · obtain ⟨source, isSource, becomes⟩ := exists_of_mem_right ofEarlier isBefore
    exact stays (elsewhere source (List.mem_append_left _ isSource)) becomes
  · obtain ⟨source, isSource, becomes⟩ := exists_of_mem_right ofLater isBehind
    exact stays (elsewhere source (List.mem_append_right _ isSource)) becomes

namespace Access

variable {model : ModelType} (place : Namespace) (world : World MemoryStore) {id : RecordId}
  {document : Document} (isOnly : IsOnly id (world.store.documents place) document)

include isOnly

/-- An update by another identifier leaves a record as it was. -/
theorem isOnly_updateById {other : RecordId} (differ : other ≠ id) (record : model.Value) :
    IsOnly id ((((inMemory model place).updateById other record).run.run
      world).2.store.documents place) document := by
  cases encoded : (inMemory model place).encode .updateOne record with
  | error failure =>
      rw [run_updateById_of_unencoded place world other encoded]
      exact isOnly
  | ok written =>
      rw [run_updateById place world encoded]
      dsimp only
      rw [MemoryStore.update_documents]
      refine isOnly.of_related differ (Collection.updateFrom_related_of_matched
        (fun _ => .inl rfl) (fun target matched => .inr ?_) _ _ _ _)
      rw [Filter.holds_ofId] at matched
      have hasOther : HasId other target := of_decide_eq_true (Except.ok.inj matched)
      exact ⟨hasOther, (Document.get?_extend_of_unnamed (writableFields_unkeyed written)
        target).trans hasOther⟩

/-- An insertion of a record that has an identifier leaves the others as they were. -/
theorem isOnly_insert_of_assigned {record : model.Value}
    (assigned : (model.id record).isUnassigned = false) :
    IsOnly id ((((inMemory model place).insert record).run.run world).2.store.documents place)
      document := by
  cases encoded : (inMemory model place).encode .insertOne record with
  | error failure =>
      rw [run_insert_of_unencoded place world assigned encoded]
      exact isOnly
  | ok added =>
      rw [run_insert place world assigned encoded]
      cases collides : Collection.firstCollision? (world.store.collection place).indexes added
          (world.store.documents place) with
      | some collision =>
          dsimp only
          rw [MemoryStore.documents, MemoryStore.collection_withCollection]
          exact isOnly
      | none =>
          have free := (Collection.firstCollision?_eq_none_iff _ _ _).mp collides
          dsimp only
          rw [MemoryStore.documents, MemoryStore.collection_withCollection]
          exact isOnly.append fun same => free document isOnly.mem (.inl same)

/-- **An insertion leaves the other records as they were.** -/
theorem isOnly_insert (lawful : model.Lawful) (record : model.Value) :
    IsOnly id ((((inMemory model place).insert record).run.run world).2.store.documents place)
      document := by
  cases assigned : (model.id record).isUnassigned with
  | false => exact isOnly_insert_of_assigned place world isOnly assigned
  | true =>
      let world' : World MemoryStore := { world with ids := world.ids.rest }
      have isAssigned : (model.id (model.setId world.ids.next record)).isUnassigned = false := by
        rw [lawful.id_setId]
        exact world.ids.isUnassigned_next
      have identifies : (identified record : Action MemoryStore model.Value).run.run world =
          (.ok (model.setId world.ids.next record), world') := by
        rw [identified, assigned, if_pos rfl,
          Action.run_bind_of_ok world (Action.run_nextId world)]
        rfl
      have inserts : ((inMemory model place).insert record).run.run world =
          ((inMemory model place).insert (model.setId world.ids.next record)).run.run world' := by
        rw [insert, insert, Action.run_bind_of_ok world identifies,
          Action.run_bind_of_ok world' (run_identified world' isAssigned)]
      rw [inserts]
      exact isOnly_insert_of_assigned place world' isOnly isAssigned

end Access

namespace Repository

variable {model : ModelType} {entity : RecordType} (place : Namespace)
  (custom : Option (ModelConverter model.toRecordType entity)) (copier : Copier)

/-- A search by an identifier that finds something has decoded the one document that has
it, and converted that. -/
theorem exists_of_findOne_byId {world : World MemoryStore} {id : RecordId} {document : Document}
    (isOnly : IsOnly id (world.store.documents place) document) (isLive : document.IsLive)
    {record : entity.Value}
    (finds : (((inMemory place custom copier).findOne (Criteria.byId id)).run.run world).1 =
      .ok record) :
    ∃ stored, (Access.inMemory model place).decode .findOne document = .ok stored ∧
      ((inMemory place custom copier).converter.toEntity stored).value = .ok record := by
  have reads : ((Access.inMemory model place).findOne
      (Criteria.equalityFilter FieldName.identifier id.toJson)).run.run world = _ :=
    Access.run_findOne place world _
  rw [MemoryStore.find_byId isOnly isLive] at reads
  have decodes : (((Except.ok [document] : Except StoreError (List Document)).mapError
      Failure.store).bind (Access.decodeFirst place)) =
        (Access.inMemory model place).decode .findOne document := rfl
  rw [decodes] at reads
  rw [run_findOne place custom copier world (Criteria.build_byId id)] at finds
  cases decoded : (Access.inMemory model place).decode .findOne document with
  | error failure =>
      rw [decoded] at reads
      rw [Action.run_bind_of_error world reads] at finds
      cases finds
  | ok stored =>
      rw [decoded] at reads
      rw [Action.run_bind_of_ok world reads, Action.run_ofConversion] at finds
      exact ⟨stored, rfl, eq_ok_of_mapError finds⟩

/-- A record that was saved was converted. -/
theorem exists_stored_of_save {world : World MemoryStore} {record : entity.Value}
    {result : WriteResult}
    (saves : (((inMemory place custom copier).save record).run.run world).1 = .ok result) :
    ∃ stored, ((inMemory place custom copier).converter.toModel record).value = .ok stored := by
  cases converted : ((inMemory place custom copier).converter.toModel record).value with
  | ok stored => exact ⟨stored, rfl⟩
  | error error =>
      have conversion := Action.run_ofConversion world
        ((inMemory place custom copier).converter.toModel record)
      rw [converted] at conversion
      rw [save, Action.run_bind_of_error world conversion] at saves
      cases saves

/-- **Saving a record leaves all records as they were that do not have its identifier**, and
all records if it has none. -/
theorem isOnly_save (lawful : model.Lawful)
    (steady : ∀ now stored, model.id (model.stampUpdated now stored) = model.id stored)
    {world : World MemoryStore} {record : entity.Value} {stored : model.Value}
    (converts : ((inMemory place custom copier).converter.toModel record).value = .ok stored)
    {id : RecordId} (differ : model.id stored ≠ id ∨ (model.id stored).isUnassigned = true)
    {document : Document}
    (isOnly : IsOnly id (world.store.documents place) document) :
    IsOnly id ((((inMemory place custom copier).save record).run.run world).2.store.documents
      place) document := by
  let reported := world.logged ((inMemory place custom copier).converter.toModel record).entries
  have there : IsOnly id (reported.store.documents place) document := isOnly
  cases assigned : (model.id stored).isUnassigned with
  | false =>
      rw [run_save_of_assigned place custom copier world converts assigned]
      have isOther : model.id stored ≠ id :=
        differ.resolve_right (ne_true_of_eq_false assigned)
      rw [← steady world.now stored] at isOther
      exact Access.isOnly_updateById place reported there isOther _
  | true =>
      rw [run_save_of_unassigned place custom copier world converts assigned]
      let next : World MemoryStore := { reported with ids := world.ids.rest }
      exact Access.isOnly_insert place next there lawful _

end Repository

/-! ## Writing over the record -/

namespace Collection

variable {fields target : Document} {name : String}

theorem get?_rewritten_of_unnamed (unnamed : ∀ field ∈ fields, field.1 ≠ name) :
    Document.get? (rewritten fields target) name = Document.get? target name := by
  cases alike : Document.same (Document.extend target fields) target with
  | true => rw [rewritten_of_same alike]
  | false => rw [rewritten_of_changed alike, Document.get?_extend_of_unnamed unnamed]

/-- What is written is there afterwards, up to the sign of zeros, and as it was if it was
there before. -/
theorem exists_get?_rewritten (target : Document) (sorted : Document.Sorted fields) {json : Json}
    (written : Document.get? fields name = some json) :
    ∃ kept, Document.get? (rewritten fields target) name = some kept ∧
      Json.same kept json = true ∧ (Document.get? target name = some json → kept = json) := by
  have extended := Document.get?_extend_of_lastFor (sorted.lastFor_iff.mpr written) target
  cases alike : Document.same (Document.extend target fields) target with
  | true =>
      have members := Document.same_get? alike name
      rw [extended, Option.map_some] at members
      obtain ⟨kept, found, same⟩ := Option.map_eq_some_iff.mp members.symm
      rw [rewritten_of_same alike]
      refine ⟨kept, found, Json.same_iff.mpr same, fun wasThere => ?_⟩
      exact Option.some.inj (found.symm.trans wasThere)
  | false =>
      rw [rewritten_of_changed alike]
      exact ⟨json, extended, Json.same_refl json, fun _ => rfl⟩

end Collection

namespace Schema

variable {schema : Schema}

/-- **Saving stamps no column but the time of update.** -/
def StampsUpdatedAt (schema : Schema) : Prop :=
  ∀ now values, ∃ stamped : ColumnValues,
    schema.stampUpdated now (schema.record values) = schema.record stamped ∧
      ∀ column ∈ schema.columns, column.name ≠ FieldName.updatedAt →
        stamped column = values column

/-- A stamped record has the identifier that it had. -/
theorem StampsUpdatedAt.id_eq (stamps : schema.StampsUpdatedAt) (now : Instant)
    (record : schema.model.Value) :
    schema.model.id (schema.model.stampUpdated now record) = schema.model.id record := by
  obtain ⟨values, rfl⟩ := schema.exists_record record
  obtain ⟨stamped, isStamped, same⟩ := stamps now values
  have isRecord : schema.model.stampUpdated now (schema.record values) = schema.record stamped :=
    isStamped
  have notUpdatedAt : (Column.id schema.identifier).name ≠ FieldName.updatedAt :=
    show FieldName.identifier ≠ FieldName.updatedAt by decide
  rw [isRecord, id_record, id_record, same _ schema.hasId notUpdatedAt]

/-- **Names that saving values leaves alone**: those of the identifier and of the time of
creation, those of no column, and that of the time of deletion if it is saved as null. -/
inductive Spares (schema : Schema) (values : ColumnValues) (name : String) : Prop
  | primaryKey (isKey : name = FieldName.primaryKey)
  | identifier (isIdentifier : name = FieldName.identifier)
  | createdAt (isCreatedAt : name = FieldName.createdAt)
  | unnamed (unnamed : ∀ column ∈ schema.columns, column.name ≠ name)
  | deletedAt (isDeletedAt : name = FieldName.deletedAt) (column : Column)
      (isColumn : column ∈ schema.columns) (isName : column.name = name)
      (isNull : column.stored? (values column) = some .null)

/-- **A stored document after its record was saved back.** What was loaded of the document
came back as other values. -/
structure SavedOver (schema : Schema) (loaded back : ColumnValues) (document next : Document) :
    Prop where
  spared : ∀ name, schema.Spares back name →
    Document.get? next name = Document.get? document name
  /-- What comes back is unchanged, if it was stored as what a column keeps. -/
  unchanged : ∀ column ∈ schema.columns, column.name ≠ FieldName.updatedAt →
    column.KeptIn document → back column = loaded column →
      Document.get? next column.name = Document.get? document column.name
  /-- What came back is stored, whatever was there before. -/
  overwritten : ∀ column ∈ schema.columns, column.name ≠ FieldName.updatedAt →
    ¬ schema.Spares back column.name → ∀ json, column.stored? (back column) = some json →
      ∃ kept, Document.get? next column.name = some kept ∧ Json.same kept json = true
  /-- Only what is left out of what is written stays for that reason. -/
  omitted : ∀ column ∈ schema.columns, column.name ≠ FieldName.updatedAt →
    column.stored? (back column) = none →
      Document.get? next column.name = Document.get? document column.name

/-- **If all columns come back, nothing but the time of update is changed.** -/
theorem SavedOver.agrees {loaded back : ColumnValues} {document next : Document}
    (savedOver : schema.SavedOver loaded back document next) (kept : schema.Kept document)
    (comeBack : ∀ column ∈ schema.columns, column.name ≠ FieldName.updatedAt →
      back column = loaded column) {name : String} (notUpdatedAt : name ≠ FieldName.updatedAt) :
    Document.get? next name = Document.get? document name := by
  by_cases isKey : name = FieldName.primaryKey
  · exact savedOver.spared name (.primaryKey isKey)
  by_cases isIdentifier : name = FieldName.identifier
  · exact savedOver.spared name (.identifier isIdentifier)
  by_cases named : ∃ column ∈ schema.columns, column.name = name
  · obtain ⟨column, isColumn, rfl⟩ := named
    exact savedOver.unchanged column isColumn notUpdatedAt
      (kept column isColumn isIdentifier isKey) (comeBack column isColumn notUpdatedAt)
  · exact savedOver.spared name (.unnamed fun column isColumn isName =>
      named ⟨column, isColumn, isName⟩)

section

variable {loaded back stamped : ColumnValues} {document written : Document} {id : RecordId}
  {σ : Type} {access : Access σ schema.model} {operation : StoreOperation}
  (encoded : access.encode operation (schema.record stamped) = .ok written)
  (alike : ∀ column ∈ schema.columns, column.name ≠ FieldName.updatedAt →
    stamped column = back column)

include encoded alike

/-- Nothing is written under a name that is spared. -/
theorem unnamed_of_spares {name : String} (spares : schema.Spares back name) :
    ∀ field ∈ Access.writableFields written, field.1 ≠ name := by
  intro field isField isName
  obtain ⟨isMember, notKey, notCreatedAt⟩ := Access.of_mem_writableFields isField
  have found : Document.get? written field.1 = some field.2 :=
    (Access.encode_sorted schema.lawful encoded).mem_iff_get?.mp isMember
  cases spares with
  | primaryKey isKey => exact notKey (isName.trans isKey)
  | createdAt isCreatedAt => exact notCreatedAt (isName.trans isCreatedAt)
  | identifier isIdentifier =>
      rw [get?_of_encode_of_unnamed encoded notKey fun _ _ _ => isName.trans isIdentifier] at found
      cases found
  | unnamed unnamed =>
      rw [get?_of_encode_of_unnamed encoded notKey fun column isColumn isColumnName =>
        absurd (isColumnName.trans isName) (unnamed column isColumn)] at found
      cases found
  | deletedAt isDeletedAt column isColumn isColumnName isNull =>
      have isDeleted : column.name = FieldName.deletedAt := isColumnName.trans isDeletedAt
      have there : Document.get? written column.name = some .null := by
        rw [get?_of_encode encoded isColumn (by rw [isDeleted]; decide)
          (by rw [isDeleted]; decide),
          alike column isColumn (by rw [isDeleted]; decide), isNull]
      rw [isDeleted] at there
      exact Access.writableFields_undeleted there field isField (isName.trans isDeletedAt)

/-- Under the name of any other column, what came back of it is written. -/
theorem get?_writableFields_of_not_spares {column : Column} (isColumn : column ∈ schema.columns)
    (notUpdatedAt : column.name ≠ FieldName.updatedAt)
    (notSpared : ¬ schema.Spares back column.name) :
    Document.get? (Access.writableFields written) column.name =
      column.stored? (back column) := by
  have there : Document.get? written column.name = column.stored? (back column) := by
    rw [get?_of_encode encoded isColumn (fun isIdentifier => notSpared (.identifier isIdentifier))
      (fun isKey => notSpared (.primaryKey isKey)), alike column isColumn notUpdatedAt]
  rw [← there]
  refine Access.get?_writableFields_of_notNull written (fun isKey => notSpared (.primaryKey isKey))
    (fun isCreatedAt => notSpared (.createdAt isCreatedAt)) fun isDeletedAt isNull => ?_
  exact notSpared (.deletedAt isDeletedAt column isColumn rfl (there.symm.trans isNull))

/-- **What is written over a document is what came back**, and nothing else. -/
theorem savedOver_rewritten (hasId : HasId id document) {reading : StoreOperation}
    (decoded : access.decode reading document = .ok (schema.record loaded)) :
    schema.SavedOver loaded back document
      (Collection.rewritten (Access.writableFields written) document) := by
  have sorted := Access.sorted_writableFields (Access.encode_sorted schema.lawful encoded)
  have spared : ∀ name, schema.Spares back name →
      Document.get? (Collection.rewritten (Access.writableFields written) document) name =
        Document.get? document name := fun name spares =>
    Collection.get?_rewritten_of_unnamed (unnamed_of_spares encoded alike spares)
  have omitted : ∀ column ∈ schema.columns, column.name ≠ FieldName.updatedAt →
      column.stored? (back column) = none →
        Document.get? (Collection.rewritten (Access.writableFields written) document)
          column.name = Document.get? document column.name := by
    intro column isColumn notUpdatedAt leftOut
    by_cases spares : schema.Spares back column.name
    · exact spared column.name spares
    · have nothing := get?_writableFields_of_not_spares encoded alike isColumn notUpdatedAt spares
      rw [leftOut] at nothing
      refine Collection.get?_rewritten_of_unnamed fun field isField isName => ?_
      have found := sorted.mem_iff_get?.mp isField
      rw [isName, nothing] at found
      cases found
  refine ⟨spared, fun column isColumn notUpdatedAt kept comesBack => ?_,
    fun column isColumn notUpdatedAt notSpared json isStored => ?_, omitted⟩
  · by_cases spares : schema.Spares back column.name
    · exact spared column.name spares
    · obtain ⟨value, reads, stored⟩ := kept.exists_read
      have isLoaded := read_of_decode hasId decoded isColumn
        (fun isIdentifier => spares (.identifier isIdentifier))
        fun isKey => spares (.primaryKey isKey)
      obtain rfl : value = loaded column := Except.ok.inj (reads.symm.trans isLoaded)
      rw [← comesBack] at stored
      cases isStored : column.stored? (back column) with
      | none => exact omitted column isColumn notUpdatedAt isStored
      | some json =>
          have writes :=
            get?_writableFields_of_not_spares encoded alike isColumn notUpdatedAt spares
          rw [isStored] at stored writes
          obtain ⟨kept, found, _, same⟩ :=
            Collection.exists_get?_rewritten document sorted writes
          rw [found, same stored.symm, stored]
  · have writes :=
      get?_writableFields_of_not_spares encoded alike isColumn notUpdatedAt notSpared
    rw [isStored] at writes
    obtain ⟨kept, found, same, _⟩ := Collection.exists_get?_rewritten document sorted writes
    exact ⟨kept, found, same⟩

end

end Schema

namespace Repository

variable {schema : Schema} {entity : RecordType} (place : Namespace)

/-- The repository of a schema that converts by copying. -/
def copying (schema : Schema) (entity : RecordType) (place : Namespace) :
    Repository MemoryStore schema.model entity :=
  inMemory place none .default

/-- **Saving a record over a stored one** that succeeds writes over it what the record was
converted to. -/
theorem savedOver_of_save (stamps : schema.StampsUpdatedAt) {world : World MemoryStore}
    {record : entity.Value} {back loaded : ColumnValues}
    (converts : (Copier.default.copy entity schema.model.toRecordType record).value =
      .ok (schema.record back))
    (assigned : (back (.id schema.identifier) : RecordId).isUnassigned = false)
    {earlier rest : List Document} {document : Document}
    (present : world.store.documents place = earlier ++ document :: rest)
    (hasId : HasId (back (.id schema.identifier)) document)
    (isFirst : ∀ other ∈ earlier, ¬ HasId (back (.id schema.identifier)) other)
    {reading : StoreOperation}
    (decoded : (Access.inMemory schema.model place).decode reading document =
      .ok (schema.record loaded))
    {result : WriteResult}
    (saves : (((copying schema entity place).save record).run.run world).1 = .ok result) :
    ∃ next, (((copying schema entity place).save record).run.run world).2.store.documents place =
        earlier ++ next :: rest ∧ schema.SavedOver loaded back document next := by
  have isAssigned : (schema.model.id (schema.record back)).isUnassigned = false := by
    rw [schema.id_record]
    exact assigned
  have ran : ((copying schema entity place).save record).run.run world = _ :=
    run_save_of_assigned place none .default world converts isAssigned
  rw [stamps.id_eq, schema.id_record] at ran
  rw [ran] at saves ⊢
  let reported :=
    world.logged ((copying schema entity place).converter.toModel record).entries
  have there : reported.store.documents place = earlier ++ document :: rest := present
  obtain ⟨stamped, isStamped, same⟩ := stamps world.now back
  have isRecord : schema.model.stampUpdated world.now (schema.record back) =
      schema.record stamped := isStamped
  rw [isRecord] at saves ⊢
  cases encoded : (Access.inMemory schema.model place).encode .updateOne
      (schema.record stamped) with
  | error failure =>
      have fails := Access.run_updateById_of_unencoded place reported
        (back (.id schema.identifier)) encoded
      cases saves.symm.trans (congrArg Prod.fst fails)
  | ok written =>
      cases collides : Collection.refusal? (reported.store.collection place).indexes
          (Access.writableFields written) document (earlier ++ rest) with
      | some collision =>
          have refused := Access.updateById_of_refused encoded there hasId isFirst collides
          cases saves.symm.trans refused.1
      | none =>
          have free := Access.updateById_of_free encoded there hasId isFirst collides
          exact ⟨_, congrArg Collection.documents free.2,
            Schema.savedOver_rewritten encoded same hasId decoded⟩

/-- **What is read and saved back is stored as what came back of it.** The one live document
with an identifier is found as a record of the application, and that is saved some time later,
while the place has not changed. Then values were loaded of the document, and others came back
from the two conversions. A column that the record does not reach comes back as its blank
value; any other has what it is offered, if it can read that.

If the identifier comes back, the document is written over by what came back. If it does not,
the document stays. -/
theorem saved_back_as_converted (schema : Schema) (entity : RecordType) (place : Namespace)
    (stamps : schema.StampsUpdatedAt)
    {world later : World MemoryStore} {id : RecordId} {document : Document}
    (isOnly : IsOnly id (world.store.documents place) document) (isLive : document.IsLive)
    {found : entity.Value}
    (finds : (((copying schema entity place).findOne (Criteria.byId id)).run.run world).1 =
      .ok found)
    (unchanged : later.store.collection place = world.store.collection place)
    {result : WriteResult}
    (saves : (((copying schema entity place).save found).run.run later).1 = .ok result) :
    let after := (((copying schema entity place).save found).run.run later).2.store
    ∃ (loaded back : ColumnValues) (given : Document),
      (Access.inMemory schema.model place).decode .findOne document = .ok (schema.record loaded) ∧
      (Copier.default.copy schema.model.toRecordType entity (schema.record loaded)).value =
        .ok found ∧
      Copier.written entity found = .ok given ∧
      (Copier.default.copy entity schema.model.toRecordType found).value =
        .ok (schema.record back) ∧
      (∀ column ∈ schema.columns, Copier.OutOfReach entity.fields given column.field →
        column.field.Returns column.field.codec.blank →
          back column = column.field.codec.blank) ∧
      ((∀ column ∈ schema.columns, column.field.Returns column.field.codec.blank) →
        ∀ column ∈ schema.columns, ∀ change value,
          Copier.default.change? entity.fields given column.field.spec = some change →
            column.field.codec.decode change.value = .ok value → back column = value) ∧
      (back (.id schema.identifier) = id → id.isUnassigned = false →
        ∃ earlier rest next, world.store.documents place = earlier ++ document :: rest ∧
          after.documents place = earlier ++ next :: rest ∧
          schema.SavedOver loaded back document next) ∧
      (back (.id schema.identifier) ≠ id ∨ id.isUnassigned = true →
        IsOnly id (after.documents place) document) := by
  intro after
  obtain ⟨stored, decoded, toEntity⟩ :=
    exists_of_findOne_byId place none .default isOnly isLive finds
  obtain ⟨loaded, rfl⟩ := schema.exists_record stored
  obtain ⟨model, toModel⟩ := exists_stored_of_save place none .default saves
  obtain ⟨back, rfl⟩ := schema.exists_record model
  have copied : (Copier.default.copy entity (.ofFields schema.name
      (schema.columns.map Column.field)) found).value =
        .ok (Row.ofValues Column.field back schema.columns) := toModel
  obtain ⟨given, _, isGiven, _⟩ := Copier.exists_written_of_copyInto copied
  have sameDocuments : later.store.documents place = world.store.documents place :=
    congrArg Collection.documents unchanged
  refine ⟨loaded, back, given, decoded, toEntity, isGiven, toModel,
    fun column isColumn unreached returns => ?_,
    fun blanks column isColumn change value changes decodes => ?_, fun sameId assigned => ?_,
    fun otherId => ?_⟩
  · exact Copier.blank_of_copy Schema.names_nodup isColumn isGiven copied
      (Copier.change?_of_outOfReach unreached) returns
  · exact Copier.value_of_copy Schema.names_nodup isColumn rfl blanks isGiven copied changes
      decodes
  · subst sameId
    obtain ⟨earlier, rest, split, hasId, elsewhere⟩ := isOnly
    obtain ⟨next, replaces, savedOver⟩ := savedOver_of_save place stamps toModel assigned
      (sameDocuments.trans split) hasId
      (fun other isEarlier => elsewhere other (List.mem_append_left _ isEarlier)) decoded saves
    exact ⟨earlier, rest, next, split, replaces, savedOver⟩
  · have isOther : schema.model.id (schema.record back) ≠ id ∨
        (schema.model.id (schema.record back)).isUnassigned = true := by
      rw [schema.id_record]
      by_cases sameId : back (.id schema.identifier) = id
      · rw [sameId]
        exact .inr (otherId.resolve_left fun differ => differ sameId)
      · exact .inl sameId
    rw [← sameDocuments] at isOnly
    exact isOnly_save place none .default schema.lawful stamps.id_eq toModel isOther isOnly

end Repository

namespace Schema

variable {schema : Schema}

/-- **All live documents have what columns keep**, after any requests of clients with the
records of a schema whose values come back, to a place that was empty. -/
theorem liveKept_after (returns : ∀ values, schema.Return values) {place : Namespace}
    {requests : List Request} (own : ∀ request ∈ requests, request.client.model = schema.model)
    {world : World MemoryStore} (isEmpty : world.store.documents place = []) :
    schema.LiveKept place (Request.after place requests world) := by
  refine Request.after_of_behind (fun request isRequest world => ?_) ?_
  · have followed := liveKept_followed returns place
    rw [← own request isRequest] at followed
    exact Request.behind_follows request followed world
  · rw [LiveKept, isEmpty]
    exact List.forall_mem_nil _

end Schema

/-! ## A note, and an entry of a ledger -/

namespace Repository

/-- Notes are stamped with the time of update. -/
theorem stampsUpdatedAt_notes : Schema.notes.StampsUpdatedAt := by
  intro now values
  obtain ⟨stamped, isStamped⟩ := Schema.notes.exists_record
    (Schema.notes.stampUpdated now (Schema.notes.record values))
  refine ⟨stamped, isStamped, fun column isColumn notUpdatedAt => ?_⟩
  obtain ⟨id, others⟩ := Prod.mk.inj isStamped
  obtain ⟨title, others⟩ := Prod.mk.inj others
  obtain ⟨createdAt, others⟩ := Prod.mk.inj others
  obtain ⟨deletedAt, _⟩ := Prod.mk.inj (Prod.mk.inj others).2
  rcases List.mem_cons.mp isColumn with rfl | isColumn
  · exact id.symm
  rcases List.mem_cons.mp isColumn with rfl | isColumn
  · exact title.symm
  rcases List.mem_cons.mp isColumn with rfl | isColumn
  · exact createdAt.symm
  rcases List.mem_cons.mp isColumn with rfl | isColumn
  · exact absurd rfl notUpdatedAt
  · obtain rfl := List.mem_singleton.mp isColumn
    exact deletedAt.symm

open Specimen (firstMinted)

/-- A note is saved at the start of 1970, in an unused store. -/
def noteSaved : List Request :=
  [⟨Client.copyingNotes, .save Specimen.note.blank, .epoch⟩]

/-- The note as it is stored. -/
def blankDocument : Document :=
  Specimen.noteDocument firstMinted "" Specimen.epochText

/-- A store with the note and nothing else. -/
def withNote : World MemoryStore :=
  Specimen.holding [blankDocument]

/-- The stored note has what columns keep. -/
theorem kept_blankDocument : Schema.notes.Kept blankDocument := by
  have own : ∀ request ∈ noteSaved, request.client.model = Schema.notes.model := by
    intro request isRequest
    rw [List.mem_singleton.mp isRequest]
    rfl
  have stored : (Request.after ⟨"test", "notes"⟩ noteSaved Specimen.unused).store.documents
      ⟨"test", "notes"⟩ = [blankDocument] := by
    decide +kernel
  have isStored : blankDocument ∈ (Request.after ⟨"test", "notes"⟩ noteSaved
      Specimen.unused).store.documents ⟨"test", "notes"⟩ := by
    rw [stored]
    exact List.mem_singleton_self _
  exact Schema.liveKept_after Schema.return_notes own rfl blankDocument isStored (.inr rfl)

/-- The note as it is loaded. -/
def noteLoaded : Specimen.noteModel.Value :=
  Specimen.storedNote firstMinted "" .epoch

/-- The note as it is found. -/
def noteFound : Specimen.note.Value :=
  Specimen.plainNote firstMinted.text "" ⟨.epoch⟩

/-- The note is saved back one second later. -/
def noteLater : World MemoryStore :=
  { withNote with now := (UnixTime.ofMillis 1000).instant }

/-- Of a note nothing but the time of update is changed. -/
theorem saved_back_as_converted_note :
    (((copying Schema.notes Specimen.note ⟨"test", "notes"⟩).findOne
        (Criteria.byId firstMinted)).run.run withNote).1 = .ok noteFound ∧
      ∃ next, (((copying Schema.notes Specimen.note ⟨"test", "notes"⟩).save
          noteFound).run.run noteLater).2.store.documents ⟨"test", "notes"⟩ = [next] ∧
        ∀ name, name ≠ FieldName.updatedAt →
          Document.get? next name = Document.get? blankDocument name := by
  have documents : withNote.store.documents ⟨"test", "notes"⟩ = [blankDocument] := rfl
  have isOnly : IsOnly firstMinted (withNote.store.documents ⟨"test", "notes"⟩) blankDocument :=
    ⟨[], [], documents, rfl, fun _ isOther => absurd isOther List.not_mem_nil⟩
  have isLive : blankDocument.IsLive := .inr rfl
  have decodes : (Access.inMemory Specimen.noteModel ⟨"test", "notes"⟩).decode .findOne
      blankDocument = .ok noteLoaded := by
    decide +kernel
  have toEntity : (Copier.default.copy Specimen.noteModel.toRecordType Specimen.note
      noteLoaded).value = .ok noteFound := by
    decide +kernel
  have toModel : (Copier.default.copy Specimen.note Specimen.noteModel.toRecordType
      noteFound).value = .ok noteLoaded := by
    decide +kernel
  have finds : (((copying Schema.notes Specimen.note ⟨"test", "notes"⟩).findOne
      (Criteria.byId firstMinted)).run.run withNote).1 = .ok noteFound :=
    findOne_byId ⟨"test", "notes"⟩ none .default isOnly isLive decodes toEntity
  have saves : (((copying Schema.notes Specimen.note ⟨"test", "notes"⟩).save
      noteFound).run.run noteLater).1 = .ok ⟨1, [firstMinted.text]⟩ := by
    decide +kernel
  refine ⟨finds, ?_⟩
  have unchanged : noteLater.store.collection ⟨"test", "notes"⟩ =
      withNote.store.collection ⟨"test", "notes"⟩ := rfl
  obtain ⟨loaded, back, _, isLoaded, _, _, isBack, _, _, writesOver, _⟩ :=
    saved_back_as_converted Schema.notes Specimen.note ⟨"test", "notes"⟩ stampsUpdatedAt_notes
      isOnly isLive finds unchanged saves
  have loadedRow : Schema.notes.record loaded = noteLoaded :=
    Except.ok.inj (isLoaded.symm.trans decodes)
  have backRow : Schema.notes.record back = noteLoaded := Except.ok.inj (isBack.symm.trans toModel)
  have comeBack : ∀ column ∈ Schema.notes.columns, back column = loaded column :=
    Row.eq_of_ofValues_eq (backRow.trans loadedRow.symm)
  have sameId : back (.id Schema.notes.identifier) = firstMinted := by
    rw [← Schema.notes.id_record back, backRow]
    rfl
  obtain ⟨earlier, rest, next, split, replaces, savedOver⟩ :=
    writesOver sameId (by decide +kernel)
  obtain ⟨rfl, rfl⟩ : earlier = [] ∧ rest = [] := by
    rw [documents] at split
    have lengths := congrArg List.length split
    rw [List.length_singleton, List.length_append, List.length_cons] at lengths
    exact ⟨List.eq_nil_of_length_eq_zero (by omega), List.eq_nil_of_length_eq_zero (by omega)⟩
  exact ⟨next, replaces, fun name notUpdatedAt => savedOver.agrees kept_blankDocument
    (fun column isColumn _ => comeBack column isColumn) notUpdatedAt⟩

/-- The repository of a ledger that converts by copying. -/
def ledger : Repository MemoryStore Specimen.ledgerModel Specimen.ledger :=
  inMemory ⟨"test", "notes"⟩ none .default

/-- An entry of the ledger that is not closed. -/
def openEntry : Specimen.ledgerModel.Value :=
  ((firstId, "n", ⟨5, by decide⟩, .epoch, none, [], .object [], Codec.measure.blank, ()) :
    RecordId × String × Unsigned8 × Instant × Option Instant × List RecordId × Json ×
      Measure × Unit)

/-- A store into which the entry was inserted. -/
def withOpenEntry : World MemoryStore :=
  ((ledger.access.insert openEntry).run.run Specimen.unused).2

/-- The entry as it is stored. -/
def openDocument : Document :=
  [("_id", firstId.toJson), ("amount", .number (.ofInt 5)), ("closed", .null),
    ("meta", .object []), ("name", .string "n"),
    ("opened", .string "1970-01-01T00:00:00.000Z"), ("ratio", .number (.float (.ofInt 0))),
    ("tags", .array [])]

/-- An open entry of the ledger is closed at the start of 1970 when it is read and saved back,
as the time of closing of the application's entries is never null. -/
theorem openEntry_closed :
    let saved := (ledger.findOne (Criteria.byId firstId) >>= ledger.save).run.run withOpenEntry
    withOpenEntry.store.documents ⟨"test", "notes"⟩ = [openDocument] ∧ openDocument.IsLive ∧
      ((ledger.findOne (Criteria.byId firstId)).run.run withOpenEntry).1.isOk = true ∧
      saved.1 = .ok ⟨1, [firstId.text]⟩ ∧
      saved.2.store.documents ⟨"test", "notes"⟩ =
        [Document.insert openDocument "closed" (.string "1970-01-01T00:00:00.000Z")] :=
  ⟨by decide +kernel, .inl rfl, by decide +kernel, by decide +kernel, by decide +kernel⟩

end Repository

end Docket
