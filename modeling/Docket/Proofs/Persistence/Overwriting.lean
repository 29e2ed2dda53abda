import Docket.Proofs.Persistence.Running
import Docket.Proofs.Store.Targeted

/-!
# Saving over a stored record

A record that has an identifier is saved by an update by that identifier, and an
update by identifier does not ask whether the stored record is live. So what
happens is decided by the stored record and by those that it may collide with, and
its time of deletion plays no part in it (`save_overwrites`): if the fields change
nothing, nothing is done and nothing is counted; else a collision refuses the
save; else the fields are written, and one record is counted.

A record that was removed is therefore overwritten like any other one. It does not
become live by this, as an update by identifier writes no null for the time of
deletion.
-/

set_option autoImplicit false

namespace Docket

namespace Access

variable {model : ModelType} {place : Namespace} {world : World MemoryStore} {id : RecordId}
  {record : model.Value} {document : Document} {earlier later : List Document}
  {target : Document}

theorem writableFields_unkeyed (document : Document) :
    ∀ field ∈ writableFields document, field.1 ≠ FieldName.primaryKey := by
  intro field isField
  have kept : field ∈ Document.erase (Document.erase document FieldName.primaryKey)
      FieldName.createdAt := by
    unfold writableFields at isField
    dsimp only at isField
    split at isField
    · exact (Document.mem_erase_iff.mp isField).1
    · exact isField
  exact (Document.mem_erase_iff.mp (Document.mem_erase_iff.mp kept).1).2

theorem sorted_writableFields {document : Document} (sorted : Document.Sorted document) :
    Document.Sorted (writableFields document) := by
  unfold writableFields
  dsimp only
  split
  · exact ((sorted.erase _).erase _).erase _
  · exact (sorted.erase _).erase _

/-- An update by identifier writes every other field as it is stored. -/
theorem get?_writableFields (document : Document) {name : String}
    (notKey : name ≠ FieldName.primaryKey) (notCreatedAt : name ≠ FieldName.createdAt)
    (notDeletedAt : name ≠ FieldName.deletedAt) :
    Document.get? (writableFields document) name = Document.get? document name := by
  unfold writableFields
  dsimp only
  split
  · rw [Document.get?_erase_of_ne _ notDeletedAt, Document.get?_erase_of_ne _ notCreatedAt,
      Document.get?_erase_of_ne _ notKey]
  · rw [Document.get?_erase_of_ne _ notCreatedAt, Document.get?_erase_of_ne _ notKey]

/-- A time of deletion is written too, unless it is null. -/
theorem get?_writableFields_of_notNull (document : Document) {name : String}
    (notKey : name ≠ FieldName.primaryKey) (notCreatedAt : name ≠ FieldName.createdAt)
    (notNull : name = FieldName.deletedAt → Document.get? document name ≠ some .null) :
    Document.get? (writableFields document) name = Document.get? document name := by
  by_cases isDeletedAt : name = FieldName.deletedAt
  · subst isDeletedAt
    have there : Document.get? (Document.erase (Document.erase document FieldName.primaryKey)
        FieldName.createdAt) FieldName.deletedAt =
          Document.get? document FieldName.deletedAt := by
      rw [Document.get?_erase_of_ne _ notCreatedAt, Document.get?_erase_of_ne _ notKey]
    unfold writableFields
    dsimp only
    rw [there]
    split
    · next isNull =>
        obtain ⟨value, found, isNull⟩ := (Option.any_eq_true _ _).mp isNull
        cases value with
        | null => exact absurd found (notNull rfl)
        | _ => cases isNull
    · exact there
  · exact get?_writableFields document notKey notCreatedAt isDeletedAt

/-- An update by identifier leaves the time of deletion alone unless it sets one. -/
theorem writableFields_undeleted {document : Document}
    (isNull : Document.get? document FieldName.deletedAt = some .null) :
    ∀ field ∈ writableFields document, field.1 ≠ FieldName.deletedAt := by
  have notKey : FieldName.deletedAt ≠ FieldName.primaryKey := by decide
  have notCreatedAt : FieldName.deletedAt ≠ FieldName.createdAt := by decide
  intro field isField
  unfold writableFields at isField
  dsimp only at isField
  rw [Document.get?_erase_of_ne _ notCreatedAt, Document.get?_erase_of_ne _ notKey,
    isNull] at isField
  exact (Document.mem_erase_iff.mp isField).2

section

variable (encodes : (inMemory model place).encode .updateOne record = .ok document)
  (present : world.store.documents place = earlier ++ target :: later) (hasId : target.HasId id)
  (isFirst : ∀ other ∈ earlier, ¬ other.HasId id)

include encodes present hasId isFirst

/-- An update by identifier that a collision refuses leaves the store as it was. -/
theorem updateById_of_refused {collision : Collection.Collision}
    (collides : Collection.refusal? (world.store.collection place).indexes
      (writableFields document) target (earlier ++ later) = some collision) :
    (((inMemory model place).updateById id record).run.run world).1 =
        .error (.store (collision.error place .updateOne)) ∧
      (((inMemory model place).updateById id record).run.run world).2.store = world.store := by
  have updating := MemoryStore.updating_ofId .updateOne (writableFields_unkeyed document) present
    hasId isFirst
  rw [collides] at updating
  rw [run_updateById place world encodes, updating]
  exact ⟨rfl, world.store.update_eq_self place .updateOne _ _ false
    (congrArg Prod.fst updating)⟩

/-- An update by identifier that is not refused writes over the record, and counts it if
that changes it. -/
theorem updateById_of_free
    (free : Collection.refusal? (world.store.collection place).indexes
      (writableFields document) target (earlier ++ later) = none) :
    (((inMemory model place).updateById id record).run.run world).1 =
        .ok ⟨if Document.same (Document.extend target (writableFields document)) target then 0
          else 1, [id.text]⟩ ∧
      (((inMemory model place).updateById id record).run.run world).2.store.collection place =
        ⟨earlier ++ Collection.rewritten (writableFields document) target :: later,
          (world.store.collection place).indexes⟩ := by
  have updating := MemoryStore.updating_ofId .updateOne (writableFields_unkeyed document) present
    hasId isFirst
  rw [free] at updating
  have updated := (world.store.update_ofPlace place .updateOne
    (Document.single FieldName.primaryKey id.toJson) (writableFields document) false).1
  rw [updating] at updated
  rw [run_updateById place world encodes, updating]
  refine ⟨?_, updated⟩
  simp only [Except.mapError, Except.map, WriteResult.ofCount, WriteResult.withId,
    List.nil_append]
  split
  · rw [wrapped64_of_lt (by decide), Int.natCast_zero]
  · rw [wrapped64_of_lt (by decide), Int.natCast_one]

omit present hasId isFirst in
/-- An update by identifier leaves the other collections alone. -/
theorem updateById_elsewhere (id : RecordId) {other : Namespace}
    (differ : other.text ≠ place.text) :
    (((inMemory model place).updateById id record).run.run world).2.store.collection other =
      world.store.collection other := by
  rw [run_updateById place world encodes]
  exact world.store.update_elsewhere place .updateOne _ _ false differ

end

end Access

namespace Repository

variable {model : ModelType} {entity : RecordType} (place : Namespace)
  (custom : Option (ModelConverter model.toRecordType entity)) (copier : Copier)

/-- **Saving a record with an identifier writes over the stored record that has it,
whether that is live or not.** -/
theorem save_overwrites {world : World MemoryStore} {record : entity.Value}
    {stored : model.Value}
    (converts : ((inMemory place custom copier).converter.toModel record).value = .ok stored)
    (assigned : (model.id stored).isUnassigned = false) {id : RecordId}
    (identified : model.id (model.stampUpdated world.now stored) = id) {document : Document}
    (encodes : (Access.inMemory model place).encode .updateOne
      (model.stampUpdated world.now stored) = .ok document)
    {earlier later : List Document} {target : Document}
    (present : world.store.documents place = earlier ++ target :: later)
    (hasId : target.HasId id) (isFirst : ∀ other ∈ earlier, ¬ other.HasId id) :
    let indexes := (world.store.collection place).indexes
    let next := Document.extend target (Access.writableFields document)
    let ran := ((inMemory place custom copier).save record).run.run world
    (Document.same next target = true →
        ran.1 = .ok ⟨0, [id.text]⟩ ∧
          ran.2.store.documents place = world.store.documents place) ∧
      (Document.same next target = false → ∀ collision,
        Collection.firstCollision? indexes next (earlier ++ later) = some collision →
          ran.1 = .error (.store (collision.error place .updateOne)) ∧
            ran.2.store = world.store) ∧
      (Document.same next target = false →
        Collection.firstCollision? indexes next (earlier ++ later) = none →
          ran.1 = .ok ⟨1, [id.text]⟩ ∧
            ran.2.store.documents place = earlier ++ next :: later) ∧
      (ran.2.store.collection place).indexes = indexes ∧
      ∀ other : Namespace, other.text ≠ place.text →
        ran.2.store.collection other = world.store.collection other := by
  intro indexes next ran
  have saves : ran = _ := run_save_of_assigned place custom copier world converts assigned
  rw [saves, identified]
  generalize entries : ((inMemory place custom copier).converter.toModel record).entries = reported
  have there : (world.logged reported).store.documents place = earlier ++ target :: later :=
    present
  have refused := fun (collision : Collection.Collision) (collides : _ = some collision) =>
    Access.updateById_of_refused encodes there hasId isFirst collides
  have free := Access.updateById_of_free encodes there hasId isFirst
  rw [World.logged_store] at refused free
  refine ⟨fun unchanged => ?_, fun changed collision collides => ?_, fun changed none => ?_, ?_,
    fun other differ => ?_⟩
  · obtain ⟨answers, leaves⟩ := free (Collection.refusal?_of_same unchanged)
    refine ⟨?_, ?_⟩
    · rw [answers, if_pos unchanged]
    · rw [MemoryStore.documents, leaves, present, Collection.rewritten_of_same unchanged]
  · exact refused collision ((Collection.refusal?_of_changed changed).trans collides)
  · obtain ⟨answers, leaves⟩ := free ((Collection.refusal?_of_changed changed).trans none)
    refine ⟨?_, ?_⟩
    · rw [answers, if_neg (Bool.eq_false_iff.mp changed)]
    · rw [MemoryStore.documents, leaves, Collection.rewritten_of_changed changed]
  · cases outcome : Collection.refusal? indexes (Access.writableFields document) target
        (earlier ++ later) with
    | some collision => rw [(refused collision outcome).2]
    | none => rw [(free outcome).2]
  · exact Access.updateById_elsewhere encodes _ differ

/-! ## A note that was removed -/

/-- An identifier. -/
def firstId : RecordId :=
  ⟨1, by decide⟩

/-- A stored note that was removed. -/
def removedNote : Document :=
  Document.insert (Specimen.noteDocument firstId "first" Specimen.epochText)
    FieldName.deletedAt (.string Specimen.epochText)

/-- A store with the removed note and nothing else. -/
def withRemovedNote : World MemoryStore :=
  Specimen.holding [removedNote]

/-- A note with another title and the identifier of the removed one. -/
def secondNote : Specimen.note.Value :=
  Specimen.plainNote firstId.text "second" ⟨.epoch⟩

/-- The second note as it is before it is stored. -/
def secondStored : Specimen.noteModel.Value :=
  Specimen.storedNote firstId "second" .epoch

/-- The stored form of the second note. -/
def secondDocument : Document :=
  Specimen.noteDocument firstId "second" Specimen.epochText

/-- The removed note gets the title of the second one, and stays removed. -/
theorem save_overwrites_removedNote :
    ((notes.save secondNote).run.run withRemovedNote).1 = .ok ⟨1, [firstId.text]⟩ ∧
      ((notes.save secondNote).run.run withRemovedNote).2.store.documents ⟨"test", "notes"⟩ =
        [Document.extend removedNote (Access.writableFields secondDocument)] ∧
      Document.extend removedNote (Access.writableFields secondDocument) =
        Document.insert removedNote "title" (.string "second") := by
  have converts : (notes.converter.toModel secondNote).value = .ok secondStored := by
    decide +kernel
  have encodes : (Access.inMemory Specimen.noteModel ⟨"test", "notes"⟩).encode .updateOne
      (Specimen.noteModel.stampUpdated withRemovedNote.now secondStored) = .ok secondDocument := by
    decide +kernel
  have present : withRemovedNote.store.documents ⟨"test", "notes"⟩ =
      [] ++ removedNote :: [] := by
    decide +kernel
  have identified : Specimen.noteModel.id
      (Specimen.noteModel.stampUpdated withRemovedNote.now secondStored) = firstId := by
    decide +kernel
  have overwrites := save_overwrites ⟨"test", "notes"⟩ none .default converts
    (by decide +kernel) identified encodes present (by decide +kernel)
    (fun _ isEarlier => absurd isEarlier List.not_mem_nil)
  have written := overwrites.2.2.1 (by decide +kernel) (by decide +kernel)
  unfold notes
  exact ⟨written.1, written.2, by decide +kernel⟩

/-- A note that was removed is overwritten, and counted, by saving a note with its
identifier. -/
theorem removedNote_overwritten :
    ¬ removedNote.IsLive ∧ removedNote.HasId firstId ∧
      ((notes.save secondNote).run.run withRemovedNote).1 = .ok ⟨1, [firstId.text]⟩ ∧
      ((notes.save secondNote).run.run withRemovedNote).2.store.documents ⟨"test", "notes"⟩ ≠
        withRemovedNote.store.documents ⟨"test", "notes"⟩ := by
  refine ⟨?_, rfl, by decide +kernel, by decide +kernel⟩
  rintro (missing | isNull)
  · cases missing
  · cases isNull

end Repository

end Docket
