import Docket.Proofs.Persistence.Finding

/-!
# Insertions

A record that has an identifier is inserted as its stored form. The store adds that
behind all other documents if it collides with none of them, and adds nothing if it
does; there is no third way (`run_insertOne_of_keyed`). So when an insertion
succeeds, the collection has one document more, it is the stored form of the record,
and no other document has the identifier (`insert_of_ok`).
-/

set_option autoImplicit false

namespace Docket

/-- What is added without a collision is the only one with its identifier. -/
theorem Document.isOnly_append {id : RecordId} {indexes : List Index} {documents : List Document}
    {document : Document} (hasId : Document.HasId id document)
    (free : ∀ other ∈ documents, ¬ Collection.Collides indexes document other) :
    Document.IsOnly id (documents ++ [document]) document := by
  refine ⟨documents, [], rfl, hasId, fun other isOther otherHasId => ?_⟩
  rw [List.append_nil] at isOther
  exact free other isOther (.inl ⟨id.toJson, id.toJson, hasId, otherHasId, Json.same_refl _⟩)

namespace MemoryStore

/-- The insertion of a document that has a primary key, as an operation. -/
theorem run_insertOne_of_keyed (place : Namespace) {document : Document} {id : Json}
    (found : Document.get? document FieldName.primaryKey = some id)
    (state : StoreState MemoryStore) :
    (insertOneAction place document).run.run state =
      match Collection.firstCollision? (state.store.collection place).indexes document
          (state.store.documents place) with
      | some collision =>
          (.error ((collision.error place .insertMany).during .insertOne),
            { state with
              store := state.store.withCollection place (state.store.collection place) })
      | none =>
          (.ok (Collection.idText id),
            { state with
              store := state.store.withCollection place
                ⟨state.store.documents place ++ [document],
                  (state.store.collection place).indexes⟩ }) := by
  have inserted := Collection.insertFrom_of_keyed place (state.store.collection place).indexes
    (state.store.documents place) state.ids found
  rw [documents] at inserted ⊢
  rw [run_insertOneAction, insertMany, inserted]
  cases Collection.firstCollision? (state.store.collection place).indexes document
    (state.store.collection place).documents <;> rfl

end MemoryStore

namespace Access

variable {model : ModelType} (place : Namespace) (world : World MemoryStore)
  {record : model.Value} (assigned : (model.id record).isUnassigned = false)

include assigned

theorem run_identified :
    (identified record : Action MemoryStore model.Value).run.run world = (.ok record, world) := by
  rw [identified, assigned]
  rfl

theorem run_insert_of_unencoded {failure : Failure}
    (failed : (inMemory model place).encode .insertOne record = .error failure) :
    ((inMemory model place).insert record).run.run world = (.error failure, world) := by
  rw [insert, Action.run_bind_of_ok world (run_identified world assigned), failed,
    Action.run_bind_of_error world (Action.run_ofExcept world _)]

theorem run_insert {document : Document}
    (encoded : (inMemory model place).encode .insertOne record = .ok document) :
    ((inMemory model place).insert record).run.run world =
      match Collection.firstCollision? (world.store.collection place).indexes document
          (world.store.documents place) with
      | some collision =>
          (.error (.store ((collision.error place .insertMany).during .insertOne)),
            { world.logged [entry place "Inserting record"
                [("id", .text (model.id record).text)]] with
              store := world.store.withCollection place (world.store.collection place) })
      | none =>
          (.ok (.inserted (model.id record).text),
            { world.logged [entry place "Inserting record"
                [("id", .text (model.id record).text)]] with
              store := world.store.withCollection place
                ⟨world.store.documents place ++ [document],
                  (world.store.collection place).indexes⟩ }) := by
  have reported : ((inMemory model place).report "Inserting record"
      [("id", .text (model.id record).text)]).run.run world =
    (.ok (), world.logged
      [entry place "Inserting record" [("id", .text (model.id record).text)]]) := rfl
  have inserted := Action.run_ofStore (world.logged [entry place "Inserting record"
    [("id", .text (model.id record).text)]]) (MemoryStore.insertOneAction place document)
  rw [MemoryStore.run_insertOne_of_keyed place (encode_primaryKey encoded), World.logged_store]
    at inserted
  have asked : (inMemory model place).backend.insertOne (inMemory model place).place document =
      MemoryStore.insertOneAction place document := rfl
  rw [insert, Action.run_bind_of_ok world (run_identified world assigned), encoded,
    Action.run_bind_of_ok world (Action.run_ofExcept world _),
    Action.run_bind_of_ok world reported, asked, run_bind, inserted]
  cases Collection.firstCollision? (world.store.collection place).indexes document
    (world.store.documents place) <;> rfl

/-- **An insertion that succeeds adds the stored form of the record**, and no other
document collides with it. -/
theorem insert_of_ok {result : WriteResult}
    (answers : (((inMemory model place).insert record).run.run world).1 = .ok result) :
    ∃ document, (inMemory model place).encode .insertOne record = .ok document ∧
      result = .inserted (model.id record).text ∧
      (∀ other ∈ world.store.documents place,
        ¬ Collection.Collides (world.store.collection place).indexes document other) ∧
      (((inMemory model place).insert record).run.run world).2.store =
        world.store.withCollection place
          ⟨world.store.documents place ++ [document],
            (world.store.collection place).indexes⟩ := by
  cases encoded : (inMemory model place).encode .insertOne record with
  | error failure =>
      rw [run_insert_of_unencoded place world assigned encoded] at answers
      cases answers
  | ok document =>
      rw [run_insert place world assigned encoded] at answers ⊢
      cases collides : Collection.firstCollision? (world.store.collection place).indexes document
          (world.store.documents place) with
      | some collision =>
          rw [collides] at answers
          cases answers
      | none =>
          rw [collides] at answers
          exact ⟨document, rfl, (Except.ok.inj answers).symm,
            (Collection.firstCollision?_eq_none_iff _ _ _).mp collides, rfl⟩

end Access

end Docket
