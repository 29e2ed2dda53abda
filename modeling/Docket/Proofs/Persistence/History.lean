import Docket.Proofs.Persistence.Forms
import Docket.Proofs.Persistence.Insertion

/-!
# What becomes of a saved record

A document is held if it is the only one with its identifier, if its members are in
order, and if it has some time of creation (`Held`). Whatever is asked of repositories
afterwards, there is a document that is held for the same identifier and the same time:
an insertion adds no document with an identifier that is there, and an update writes
harmless fields over documents (`holds_sustained`).

Saving a record without an identifier makes its stored form a held document. So a record
that was saved is held after any history of requests by any clients, of new indexes, and
of things that leave the collection alone (`SavedSince.holds`).
-/

set_option autoImplicit false

namespace Docket

open Document (IsOnly HasId Persists)

/-! ## Held documents -/

/-- One of the documents, and no other, has an identifier, and it has a time of
creation. -/
structure Document.Held (id : RecordId) (created : Instant) (documents : List Document)
    (document : Document) : Prop where
  isOnly : IsOnly id documents document
  sorted : Document.Sorted document
  createdAt : Document.get? document FieldName.createdAt = some (.string created.stored)

section

variable {id : RecordId} {created : Instant}

theorem Document.HasId.persists {before after : Document} (persists : before.Persists after) :
    HasId id after ↔ HasId id before := by
  rw [HasId, HasId, persists.primaryKey]

/-- A held document is held when fields are written over it or over others. -/
theorem Document.Held.of_related {before after : List Document} {document : Document}
    (held : Document.Held id created before document)
    (related : List.Forall₂ (fun earlier later =>
      Persists earlier later ∧
        (Document.Sorted earlier → Document.Sorted later)) before after) :
    ∃ next, Document.Held id created after next := by
  obtain ⟨⟨earlier, later, rfl, hasId, elsewhere⟩, sorted, createdAt⟩ := held
  obtain ⟨earlierAfter, hereAfter, rfl, ofEarlier, ofHere⟩ := exists_split_of_append related
  obtain ⟨next, laterAfter, ⟨persists, sorts⟩, ofLater, rfl⟩ :=
    List.forall₂_cons_left_iff.mp ofHere
  refine ⟨next, ⟨earlierAfter, laterAfter, rfl, (HasId.persists persists).mpr hasId, ?_⟩,
    sorts sorted, persists.createdAt.trans createdAt⟩
  intro other isOther otherHasId
  rcases List.mem_append.mp isOther with before | behind
  · obtain ⟨source, isSource, sourcePersists, _⟩ := exists_of_mem_right ofEarlier before
    exact elsewhere source (List.mem_append_left _ isSource)
      ((HasId.persists sourcePersists).mp otherHasId)
  · obtain ⟨source, isSource, sourcePersists, _⟩ := exists_of_mem_right ofLater behind
    exact elsewhere source (List.mem_append_right _ isSource)
      ((HasId.persists sourcePersists).mp otherHasId)

/-- The only document with an identifier stays so when another one is added that does not
collide with it. -/
theorem Document.IsOnly.append {documents : List Document} {document added : Document}
    (isOnly : IsOnly id documents document) (unlike : ¬ added.SamePrimaryKey document) :
    IsOnly id (documents ++ [added]) document := by
  obtain ⟨earlier, later, rfl, hasId, elsewhere⟩ := isOnly
  refine ⟨earlier, later ++ [added], by simp, hasId, fun other isOther => ?_⟩
  rw [← List.append_assoc, List.mem_append, List.mem_singleton] at isOther
  rcases isOther with wasThere | rfl
  · exact elsewhere other wasThere
  · exact fun otherHasId => unlike ⟨id.toJson, id.toJson, otherHasId, hasId, Json.same_refl _⟩

/-- A held document is held when another one is added that does not collide with it. -/
theorem Document.Held.append {documents : List Document} {document added : Document}
    (held : Document.Held id created documents document)
    (unlike : ¬ added.SamePrimaryKey document) :
    Document.Held id created (documents ++ [added]) document :=
  ⟨held.isOnly.append unlike, held.sorted, held.createdAt⟩

end

/-! ## Requests -/

/-- Some document at a place is held. -/
def Holds (place : Namespace) (id : RecordId) (created : Instant) (world : World MemoryStore) :
    Prop :=
  ∃ document, Document.Held id created (world.store.documents place) document

section

variable (place : Namespace) (id : RecordId) (created : Instant)

/-- **What is held stays held**, along everything that a request can do. -/
theorem holds_sustained :
    Sustained place fun before after => Holds place id created before →
      Holds place id created after where
  same := by
    rintro before after equal ⟨document, held⟩
    exact ⟨document, by rw [equal]; exact held⟩
  trans := fun _ _ _ first second held => second (first held)
  insertion := by
    rintro before after added assigned _ equal ⟨document, held⟩
    obtain ⟨key, found⟩ := assigned.keyed
    rw [Holds, equal, MemoryStore.insertMany_documents,
      Collection.insertFrom_of_keyed place _ _ _ found]
    cases collides : Collection.firstCollision? (before.store.collection place).indexes added
        (before.store.documents place) with
    | some collision => exact ⟨document, held⟩
    | none =>
        have free := (Collection.firstCollision?_eq_none_iff _ _ _).mp collides
        exact ⟨document, held.append fun same => free document held.isOnly.mem (.inl same)⟩
  update := by
    rintro before after operation filter fields many harmless equal ⟨document, held⟩
    have updated : after.store.documents place =
        (before.store.updating place operation filter fields many).1 := by
      rw [equal, MemoryStore.update_documents]
    rw [Holds, updated]
    exact held.of_related (Collection.updateFrom_related
      (fun document => ⟨.refl document, fun sorted => sorted⟩)
      (fun document =>
        ⟨harmless.persists document, fun sorted => sorted.extend fields⟩) _ _ _ _)

end

/-- Installing indexes keeps the documents. -/
theorem Collection.createIndexes_documents (place : Namespace) (collection : Collection)
    (indexes : List Index) :
    (createIndexes place collection indexes).1.documents = collection.documents := by
  induction indexes generalizing collection with
  | nil => rfl
  | cons index rest ih =>
      by_cases collides : (Attempt.install collection index).Collides
      · rw [createIndexes_of_violated place collides]
      · rw [createIndexes_of_free place collides]
        exact ih (collection.withIndex index)

/-! ## Saving -/

/-- What is stored of a record that is inserted under an identifier at some time. -/
def Slot.inserted (id : RecordId) (now : Instant) (values : StoredValues) : StoredValues :=
  fun slot => slot.updated now (slot.created now (slot.identified id (values slot)))

/-- An identifier from the source is not that of a record that was not stored yet. -/
theorem IdSource.isUnassigned_next (source : IdSource) : source.next.isUnassigned = false := by
  refine Bool.eq_false_iff.mpr fun isZero => source.assigned source.taken ?_
  have zero : source.next.value = 0 := eq_of_beq isZero
  cases next : source.stream source.taken with
  | mk value value_lt =>
      rw [IdSource.next, next] at zero
      subst zero
      rfl

/-- An update by identifier adds no document and takes none away. -/
theorem Access.length_updateById {model : ModelType} (place : Namespace)
    (world : World MemoryStore)
    (id : RecordId) (record : model.Value) :
    ((((inMemory model place).updateById id record).run.run world).2.store.documents
        place).length =
      (world.store.documents place).length := by
  cases encoded : (inMemory model place).encode .updateOne record with
  | error failure =>
      rw [run_updateById_of_unencoded place world id encoded]
  | ok document =>
      rw [run_updateById place world encoded]
      have related : List.Forall₂ (fun _ _ => True) (world.store.documents place)
          (world.store.updating place .updateOne (Document.single FieldName.primaryKey id.toJson)
            (writableFields document) false).1 :=
        Collection.updateFrom_related (fun _ => trivial) (fun _ => trivial) _ _ _ _
      rw [MemoryStore.update_documents]
      exact related.length_eq.symm

namespace Pairing

variable (pairing : Pairing) (place : Namespace)

/-- The repository of a pairing converts by copying. -/
def repository : Repository MemoryStore pairing.model pairing.entity :=
  Repository.inMemory place none .default

section

variable {pairing place} {world : World MemoryStore} {record : pairing.entity.Value}
  {values : StoredValues}
  (converts : (Copier.default.copy pairing.entity pairing.model.toRecordType record).value =
    .ok (pairing.storedRecord values))

include converts

/-- **Saving a record without an identifier adds its stored form**, under the next
identifier and stamped with the time. -/
theorem save_adds (unassigned : (values .id : RecordId).isUnassigned = true) {result : WriteResult}
    (answers : (((pairing.repository place).save record).run.run world).1 = .ok result) :
    ∃ document, (Access.inMemory pairing.model place).encode .insertOne
        (pairing.storedRecord (Slot.inserted world.ids.next world.now values)) = .ok document ∧
      result = .inserted world.ids.next.text ∧
      (∀ other ∈ world.store.documents place,
        ¬ Collection.Collides (world.store.collection place).indexes document other) ∧
      (((pairing.repository place).save record).run.run world).2.store =
        world.store.withCollection place
          ⟨world.store.documents place ++ [document],
            (world.store.collection place).indexes⟩ := by
  have isNew : (pairing.model.id (pairing.storedRecord values)).isUnassigned = true := by
    rw [id_storedRecord]
    exact unassigned
  have saves := Repository.run_save_of_unassigned place none .default world converts isNew
  rw [setId_storedRecord, stampCreated_storedRecord, stampUpdated_storedRecord] at saves
  have isNext : pairing.model.id (pairing.storedRecord
      (Slot.inserted world.ids.next world.now values)) = world.ids.next :=
    pairing.id_storedRecord _
  have assigned : (pairing.model.id (pairing.storedRecord
      (Slot.inserted world.ids.next world.now values))).isUnassigned = false := by
    rw [isNext]
    exact world.ids.isUnassigned_next
  rw [repository, saves] at answers ⊢
  have inserts := Access.insert_of_ok place _ assigned answers
  rw [isNext] at inserts
  exact inserts

/-- Saving a record with an identifier adds none. -/
theorem length_save_of_assigned (assigned : (values .id : RecordId).isUnassigned = false) :
    ((((pairing.repository place).save record).run.run world).2.store.documents place).length =
      (world.store.documents place).length := by
  have isOld : (pairing.model.id (pairing.storedRecord values)).isUnassigned = false := by
    rw [id_storedRecord]
    exact assigned
  rw [repository, Repository.run_save_of_assigned place none .default world converts isOld,
    Access.length_updateById]
  rfl

end

/-- A record that was saved was converted. -/
theorem exists_values_of_save {pairing : Pairing} {place : Namespace} {world : World MemoryStore}
    {record : pairing.entity.Value} {result : WriteResult}
    (answers : (((pairing.repository place).save record).run.run world).1 = .ok result) :
    ∃ values, (Copier.default.copy pairing.entity pairing.model.toRecordType record).value =
      .ok (pairing.storedRecord values) := by
  have conversion := Action.run_ofConversion world
    (Copier.default.copy pairing.entity pairing.model.toRecordType record)
  cases converted :
      (Copier.default.copy pairing.entity pairing.model.toRecordType record).value with
  | error error =>
      rw [converted] at conversion
      have saves : ((pairing.repository place).save record).run.run world =
          (.error (.conversion error), _) :=
        Action.run_bind_of_error world conversion
      rw [saves] at answers
      cases answers
  | ok stored =>
      obtain ⟨values, rfl⟩ := pairing.exists_storedRecord stored
      exact ⟨values, rfl⟩

/-- **A record was added by saving it at some time, and things happened since**: clients
asked for something, indexes were installed, or the collection was left alone. -/
inductive SavedSince (pairing : Pairing) (place : Namespace) (id : RecordId) (created : Instant) :
    World MemoryStore → Prop
  | saved {world : World MemoryStore} {record : pairing.entity.Value} {result : WriteResult}
      {document : Document} (isNow : world.now = created)
      (answers : (((pairing.repository place).save record).run.run world).1 = .ok result)
      (added : (((pairing.repository place).save record).run.run world).2.store.documents place =
        world.store.documents place ++ [document])
      (hasId : HasId id document) :
      SavedSince pairing place id created
        (((pairing.repository place).save record).run.run world).2
  | asked {world : World MemoryStore} (before : SavedSince pairing place id created world)
      (request : Request) : SavedSince pairing place id created (request.behind place world)
  | indexed {world : World MemoryStore} (before : SavedSince pairing place id created world)
      (indexes : List Index) :
      SavedSince pairing place id created
        { world with store := (world.store.createIndexes place indexes).1 }
  | elsewhere {world after : World MemoryStore}
      (before : SavedSince pairing place id created world)
      (same : after.store.collection place = world.store.collection place) :
      SavedSince pairing place id created after

section

variable {pairing : Pairing} {place : Namespace} {world : World MemoryStore}
  {record : pairing.entity.Value} {result : WriteResult} {document : Document}
  (answers : (((pairing.repository place).save record).run.run world).1 = .ok result)
  (added : (((pairing.repository place).save record).run.run world).2.store.documents place =
    world.store.documents place ++ [document])

include answers added

/-- The document that a save added is a stored form with the next identifier. -/
theorem exists_form_of_added :
    ∃ values, (Access.inMemory pairing.model place).encode .insertOne
        (pairing.storedRecord (Slot.inserted world.ids.next world.now values)) = .ok document ∧
      ∀ other ∈ world.store.documents place,
        ¬ Collection.Collides (world.store.collection place).indexes document other := by
  obtain ⟨values, converts⟩ := exists_values_of_save answers
  cases isUnassigned : (values .id : RecordId).isUnassigned with
  | false =>
      have length : ((((pairing.repository place).save record).run.run world).2.store.documents
          place).length = (world.store.documents place).length :=
        length_save_of_assigned converts isUnassigned
      rw [added, List.length_append, List.length_singleton] at length
      omega
  | true =>
      obtain ⟨stored, encoded, _, free, leaves⟩ := save_adds converts isUnassigned answers
      rw [leaves, MemoryStore.documents, MemoryStore.collection_withCollection] at added
      obtain rfl : stored = document := List.singleton_inj.mp (List.append_cancel_left added)
      exact ⟨values, encoded, free⟩

variable {id : RecordId} (hasId : HasId id document)

include hasId

/-- The identifier of a record that a save added is the next one. -/
theorem eq_next_of_added : id = world.ids.next := by
  obtain ⟨values, encoded, _⟩ := exists_form_of_added answers added
  have key := Access.encode_primaryKey encoded
  rw [id_storedRecord, hasId] at key
  exact RecordId.eq_of_text_eq (Json.string.inj (Option.some.inj key))

/-- The record that a save added is held. -/
theorem holds_saved (inYears : world.now.InFourDigitYear) :
    Holds place id world.now (((pairing.repository place).save record).run.run world).2 := by
  obtain ⟨values, encoded, free⟩ := exists_form_of_added answers added
  obtain ⟨json, encodes, found⟩ := get?_of_encode encoded pairing.hasCreatedAt (by simp) rfl
  obtain rfl : Json.string world.now.text = json := Except.ok.inj encodes
  rw [Field.storedForm_text rfl inYears] at found
  refine ⟨document, ?_, Access.encode_sorted pairing.lawful encoded, found⟩
  rw [added]
  exact Document.isOnly_append hasId free

end

/-- **A record that was saved is held ever since.** -/
theorem SavedSince.holds {pairing : Pairing} {place : Namespace} {id : RecordId}
    {created : Instant} {world : World MemoryStore}
    (since : SavedSince pairing place id created world) (inYears : created.InFourDigitYear) :
    Holds place id created world := by
  induction since with
  | saved isNow answers added hasId =>
      subst isNow
      exact holds_saved answers added hasId inYears
  | asked _ request ih =>
      exact Request.behind_sustains (holds_sustained place id created) request _ ih
  | indexed _ indexes ih =>
      obtain ⟨document, held⟩ := ih
      refine ⟨document, ?_⟩
      rw [MemoryStore.documents, MemoryStore.createIndexes, MemoryStore.collection_withCollection,
        Collection.createIndexes_documents]
      exact held
  | elsewhere _ same ih =>
      rw [Holds, MemoryStore.documents, same]
      exact ih

/-- A record that was saved has an identifier that is assigned. -/
theorem SavedSince.isUnassigned_eq_false {pairing : Pairing} {place : Namespace} {id : RecordId}
    {created : Instant} {world : World MemoryStore}
    (since : SavedSince pairing place id created world) : id.isUnassigned = false := by
  induction since with
  | @saved before _ _ _ _ answers added hasId =>
      rw [eq_next_of_added answers added hasId]
      exact before.ids.isUnassigned_next
  | asked _ _ ih | indexed _ _ ih | elsewhere _ _ ih => exact ih

end Pairing

end Docket
