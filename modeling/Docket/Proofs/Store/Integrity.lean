import Docket.Proofs.Store.Attempts
import Docket.Store.Watched

/-!
# Integrity of the store

A store is intact if all of its collections are. The empty store is, and whatever
a call does to an intact store leaves it intact, also if the call fails part way.
So every store that calls can lead to is intact (`after_intact`).

The refusals are exact. A call is refused as a duplicate if and only if one of the
writes that it comes to would break the store (`integrity`). There is one thing
besides that a store refuses to write: an update that would change a primary key
violates a constraint. It does so even if the new key is that of another document,
and is not refused as a duplicate then (`rekeyed_onto_other_refused`).
-/

set_option autoImplicit false

namespace Docket

/-! ## Intact stores -/

/-- Every collection of a store is intact. -/
def MemoryStore.Intact (store : MemoryStore) : Prop :=
  ∀ entry ∈ store.collections, entry.2.Intact

namespace MemoryStore

theorem Intact.empty : Intact .empty := by
  intro entry isEntry
  cases isEntry

/-- The collection of a namespace is intact, whether it was made or not. -/
theorem Intact.collection {store : MemoryStore} (intact : store.Intact) (place : Namespace) :
    (store.collection place).Intact := by
  unfold MemoryStore.collection made?
  cases found : store.collections.find? fun entry => entry.1 == place.text with
  | none => exact .empty
  | some entry => exact intact entry (List.mem_of_find?_eq_some found)

theorem mem_put {name : String} {collection : Collection}
    {entries : List (String × Collection)} {entry : String × Collection}
    (isEntry : entry ∈ put name collection entries) :
    entry = (name, collection) ∨ entry ∈ entries := by
  induction entries with
  | nil => exact .inl (List.mem_singleton.mp isEntry)
  | cons first rest ih =>
      obtain ⟨other, old⟩ := first
      unfold put at isEntry
      split at isEntry
      · rcases List.mem_cons.mp isEntry with here | behind
        · exact .inl here
        · exact .inr (List.mem_cons_of_mem _ behind)
      · rcases List.mem_cons.mp isEntry with here | behind
        · exact .inr (here ▸ List.mem_cons_self)
        · exact (ih behind).imp_right (List.mem_cons_of_mem _)

theorem Intact.withCollection {store : MemoryStore} (intact : store.Intact) (place : Namespace)
    {collection : Collection} (collectionIntact : collection.Intact) :
    (store.withCollection place collection).Intact := by
  intro entry isEntry
  rcases mem_put isEntry with rfl | isEntry
  · exact collectionIntact
  · exact intact entry isEntry

/-! ## The operations -/

section

variable {store : MemoryStore} (intact : store.Intact) (place : Namespace)

include intact

theorem Intact.insertMany (source : IdSource) (documents : List Document) :
    (store.insertMany place source documents).store.Intact :=
  intact.withCollection place (Collection.insertFrom_intact place (intact.collection place))

theorem Intact.createIndexes (indexes : List Index) :
    (store.createIndexes place indexes).1.Intact :=
  intact.withCollection place (Collection.createIndexes_intact place (intact.collection place))

theorem Intact.update (operation : StoreOperation) (filter change : Document) (many : Bool) :
    (store.update place operation filter change many).1.Intact := by
  unfold MemoryStore.update
  cases made : store.made? place with
  | none => exact intact
  | some collection =>
      have collectionIntact : collection.Intact := by
        have whole := intact.collection place
        rwa [MemoryStore.collection, made, Option.getD_some] at whole
      have wholeIntact : Collection.Intact ⟨[] ++ collection.documents, collection.indexes⟩ :=
        collectionIntact
      refine intact.withCollection place ?_
      unfold Collection.update
      split
      · exact collectionIntact
      · exact Collection.updateFrom_intact _ wholeIntact

end

theorem updatedFields_fault {operation : StoreOperation} {change : Document} {error : StoreError}
    (failed : Collection.updatedFields operation change = .error error) :
    error.kind = .databaseError ∧ error.operation = operation := by
  unfold Collection.updatedFields at failed
  split at failed
  · cases failed
    exact ⟨rfl, rfl⟩
  · split at failed
    · cases failed
    · cases failed
      exact ⟨rfl, rfl⟩

/-- The refusals of an update, other than for a fault, are those of going through the
documents. -/
theorem update_refused_iff {kind : StoreErrorKind} (noFault : kind ≠ .databaseError)
    (store : MemoryStore) (place : Namespace) (operation : StoreOperation)
    (filter change : Document) (many : Bool) :
    Refused kind (store.update place operation filter change many).2 ↔
      ∃ fields, Collection.updatedFields operation change = .ok fields ∧
        Refused kind (Collection.updateFrom ⟨place, operation, filter, fields, many⟩
          (store.collection place).indexes [] (store.collection place).documents .nothing).2 := by
  unfold MemoryStore.update MemoryStore.collection
  cases store.made? place with
  | none =>
      rw [refused_ok_iff, false_iff]
      rintro ⟨fields, _, refused⟩
      exact (refused_ok_iff _).mp refused
  | some collection =>
      rw [Option.getD_some]
      simp only [Collection.update]
      cases fields : Collection.updatedFields operation change with
      | error error => simp [refused_error_iff, (updatedFields_fault fields).1, noFault.symm]
      | ok fields => simp

/-- The insertion of one document as an operation: it is that of a list of one. -/
theorem run_insertOneAction (place : Namespace) (document : Document)
    (state : StoreState MemoryStore) :
    (insertOneAction place document).run.run state =
      ((match (state.store.insertMany place state.ids [document]).result with
        | .error error => .error (error.during .insertOne)
        | .ok (id :: _) => .ok id
        | .ok [] => .error (.databaseError .insertOne "no identifier assigned")),
        ⟨(state.store.insertMany place state.ids [document]).store,
          (state.store.insertMany place state.ids [document]).source⟩) := by
  have action : (insertOneAction place document).run.run state =
      (show StoreAction MemoryStore String from
        match (state.store.insertMany place state.ids [document]).result with
        | .error error => throw (error.during .insertOne)
        | .ok (id :: _) => return id
        | .ok [] => throw (.databaseError .insertOne "no identifier assigned")).run.run
          ⟨(state.store.insertMany place state.ids [document]).store,
            (state.store.insertMany place state.ids [document]).source⟩ := rfl
  rw [action]
  rcases (state.store.insertMany place state.ids [document]).result with
    error | _ | ⟨id, _⟩ <;> rfl

end MemoryStore

namespace StoreCall

open Collection (Attempt)

/-! ## Calls -/

/-- What an operation does to a state: of its result only a failure is told. -/
def performed {α : Type} (action : StoreAction MemoryStore α) (state : StoreState MemoryStore) :
    Except StoreError Unit × StoreState MemoryStore :=
  let (result, behind) := action.run.run state
  (result.map fun _ => (), behind)

/-- What a call does to a state of the store in memory. -/
def run : StoreCall → StoreState MemoryStore → Except StoreError Unit × StoreState MemoryStore
  | .insertOne place document => performed (MemoryStore.backend.insertOne place document)
  | .insertMany place documents => performed (MemoryStore.backend.insertMany place documents)
  | .updateOne place filter change =>
      performed (MemoryStore.backend.updateOne place filter change)
  | .updateMany place filter change =>
      performed (MemoryStore.backend.updateMany place filter change)
  | .find place filter options => performed (MemoryStore.backend.find place filter options)
  | .count place filter => performed (MemoryStore.backend.count place filter)
  | .createIndexes place indexes => performed (MemoryStore.backend.createIndexes place indexes)

/-- What a call answers in a state. -/
def answer (call : StoreCall) (state : StoreState MemoryStore) : Except StoreError Unit :=
  (call.run state).1

/-- The state that a call leaves behind. -/
def behind (call : StoreCall) (state : StoreState MemoryStore) : StoreState MemoryStore :=
  (call.run state).2

/-- The state that calls lead to, one after another, whether they fail or not. -/
def after (calls : List StoreCall) (state : StoreState MemoryStore) : StoreState MemoryStore :=
  calls.foldl (fun state call => call.behind state) state

/-- The writes that a call comes to. -/
def Attempts (call : StoreCall) (state : StoreState MemoryStore) (attempt : Attempt) : Prop :=
  match call with
  | .insertOne place document =>
      Collection.Inserts (state.store.collection place).indexes
        (state.store.collection place).documents state.ids [document] attempt
  | .insertMany place documents =>
      Collection.Inserts (state.store.collection place).indexes
        (state.store.collection place).documents state.ids documents attempt
  | .updateOne place filter change =>
      ∃ fields, Collection.updatedFields .updateOne change = .ok fields ∧
        Collection.Replaces ⟨place, .updateOne, filter, fields, false⟩
          (state.store.collection place) attempt
  | .updateMany place filter change =>
      ∃ fields, Collection.updatedFields .updateMany change = .ok fields ∧
        Collection.Replaces ⟨place, .updateMany, filter, fields, true⟩
          (state.store.collection place) attempt
  | .createIndexes place indexes =>
      Collection.Installs (state.store.collection place) indexes attempt
  | .find _ _ _ | .count _ _ => False

/-- A call comes to a matched document whose primary key it would change. -/
def Rekeys (call : StoreCall) (state : StoreState MemoryStore) : Prop :=
  match call with
  | .updateOne place filter change =>
      ∃ fields, Collection.updatedFields .updateOne change = .ok fields ∧
        Collection.Rekeys ⟨place, .updateOne, filter, fields, false⟩
          (state.store.collection place)
  | .updateMany place filter change =>
      ∃ fields, Collection.updatedFields .updateMany change = .ok fields ∧
        Collection.Rekeys ⟨place, .updateMany, filter, fields, true⟩
          (state.store.collection place)
  | _ => False

/-! ## One call -/

theorem run_insertOne (place : Namespace) (document : Document) (state : StoreState MemoryStore) :
    (insertOne place document).run state =
      ((match (state.store.insertMany place state.ids [document]).result with
        | .error error => .error (error.during .insertOne)
        | .ok (_ :: _) => .ok ()
        | .ok [] => .error (.databaseError .insertOne "no identifier assigned")),
        ⟨(state.store.insertMany place state.ids [document]).store,
          (state.store.insertMany place state.ids [document]).source⟩) := by
  rw [run, performed, MemoryStore.backend, MemoryStore.run_insertOneAction]
  rcases (state.store.insertMany place state.ids [document]).result with
    error | _ | ⟨id, _⟩ <;> rfl

/-- A call leaves an intact store intact. -/
theorem behind_intact (call : StoreCall) {state : StoreState MemoryStore}
    (intact : state.store.Intact) : (call.behind state).store.Intact := by
  cases call with
  | insertOne place document =>
      rw [behind, run_insertOne]
      exact intact.insertMany place state.ids [document]
  | insertMany place documents => exact intact.insertMany place state.ids documents
  | updateOne place filter change => exact intact.update place .updateOne filter change false
  | updateMany place filter change => exact intact.update place .updateMany filter change true
  | createIndexes place indexes => exact intact.createIndexes place indexes
  | find place filter options => exact intact
  | count place filter => exact intact

/-- Calls leave an intact store intact. -/
theorem after_intact (calls : List StoreCall) {state : StoreState MemoryStore}
    (intact : state.store.Intact) : (after calls state).store.Intact := by
  induction calls generalizing state with
  | nil => exact intact
  | cons call rest ih => exact ih (call.behind_intact intact)

/-- The writes that a call comes to start from intact collections. -/
theorem Attempts.intact {call : StoreCall} {state : StoreState MemoryStore} {attempt : Attempt}
    (attempts : call.Attempts state attempt) (intact : state.store.Intact) :
    attempt.present.Intact ∧ attempt.Keyed := by
  cases call with
  | insertOne place document =>
      exact Collection.Inserts.intact attempts (intact.collection place)
  | insertMany place documents =>
      exact Collection.Inserts.intact attempts (intact.collection place)
  | updateOne place filter change | updateMany place filter change =>
      obtain ⟨fields, _, replaces⟩ := attempts
      exact replaces.intact (intact.collection place)
  | createIndexes place indexes =>
      exact Collection.Installs.intact attempts (intact.collection place)
  | find place filter options | count place filter => exact attempts.elim

/-! ## Refusals -/

section

variable {kind : StoreErrorKind} (noFault : kind ≠ .databaseError)

include noFault

/-- The insertion of one document is refused like that of a list of one. -/
theorem insertOne_refused_iff (place : Namespace) (document : Document)
    (state : StoreState MemoryStore) :
    Refused kind ((insertOne place document).answer state) ↔
      Refused kind (state.store.insertMany place state.ids [document]).result := by
  rw [answer, run_insertOne]
  rcases (state.store.insertMany place state.ids [document]).result with error | _ | ⟨id, _⟩
  · rw [refused_error_iff, refused_error_iff]
    rfl
  · rw [refused_error_iff, refused_ok_iff, iff_false]
    exact noFault.symm
  · rw [refused_ok_iff, refused_ok_iff]

theorem updateOne_refused_iff (place : Namespace) (filter change : Document)
    (state : StoreState MemoryStore) :
    Refused kind ((updateOne place filter change).answer state) ↔
      ∃ fields, Collection.updatedFields .updateOne change = .ok fields ∧
        Refused kind (Collection.updateFrom ⟨place, .updateOne, filter, fields, false⟩
          (state.store.collection place).indexes [] (state.store.collection place).documents
          .nothing).2 :=
  (refused_map_iff _ _).trans (MemoryStore.update_refused_iff noFault _ _ _ _ _ _)

theorem updateMany_refused_iff (place : Namespace) (filter change : Document)
    (state : StoreState MemoryStore) :
    Refused kind ((updateMany place filter change).answer state) ↔
      ∃ fields, Collection.updatedFields .updateMany change = .ok fields ∧
        Refused kind (Collection.updateFrom ⟨place, .updateMany, filter, fields, true⟩
          (state.store.collection place).indexes [] (state.store.collection place).documents
          .nothing).2 :=
  (refused_map_iff _ _).trans (MemoryStore.update_refused_iff noFault _ _ _ _ _ _)

/-- A read can fail for a fault of its filter only. -/
theorem not_refused_of_read {α : Type} {filter : Document} {documents : List Document}
    {part : List Document → α} {result : Except StoreError α}
    (reads : result = (Filter.select filter documents).map part) : ¬ Refused kind result := by
  rw [reads, refused_map_iff]
  rintro ⟨error, failed, isKind⟩
  exact noFault (isKind.symm.trans (Filter.select_fault failed).kind)

theorem find_not_refused (place : Namespace) (filter : Document) (options : FindOptions)
    (state : StoreState MemoryStore) :
    ¬ Refused kind ((find place filter options).answer state) := by
  have reads : (find place filter options).answer state =
      ((Filter.select filter (state.store.collection place).documents).map fun found =>
        options.part (Sorting.sorted options.sort found)).map fun _ => () := by
    show ((state.store.find place filter options).map fun _ => ()) = _
    rw [MemoryStore.find, Collection.find]
    cases Filter.select filter (state.store.collection place).documents <;> rfl
  rw [reads, refused_map_iff]
  exact not_refused_of_read noFault rfl

theorem count_not_refused (place : Namespace) (filter : Document)
    (state : StoreState MemoryStore) :
    ¬ Refused kind ((count place filter).answer state) := by
  have reads : (count place filter).answer state =
      ((Filter.select filter (state.store.collection place).documents).map List.length).map
        fun _ => () := rfl
  rw [reads, refused_map_iff]
  exact not_refused_of_read noFault rfl

end

section

variable {state : StoreState MemoryStore} (intact : state.store.Intact)

include intact

/-- A call is refused as a duplicate if it comes to a write that collides. -/
theorem duplicate_iff (call : StoreCall) :
    Refused .alreadyExists (call.answer state) ↔
      ∃ attempt, call.Attempts state attempt ∧ attempt.Collides := by
  cases call with
  | insertOne place document =>
      rw [insertOne_refused_iff (by decide), MemoryStore.insertMany,
        Collection.insertFrom_refused_iff]
      exact and_iff_right rfl
  | insertMany place documents =>
      refine (refused_map_iff _ _).trans ((Collection.insertFrom_refused_iff place).trans ?_)
      exact and_iff_right rfl
  | updateOne place filter change =>
      rw [updateOne_refused_iff (by decide)]
      simp only [Collection.updateFrom_duplicate_iff (intact.collection place), Attempts,
        ← exists_and_left, ← exists_and_right, and_assoc]
      exact exists_comm
  | updateMany place filter change =>
      rw [updateMany_refused_iff (by decide)]
      simp only [Collection.updateFrom_duplicate_iff (intact.collection place), Attempts,
        ← exists_and_left, ← exists_and_right, and_assoc]
      exact exists_comm
  | createIndexes place indexes =>
      refine (refused_map_iff _ _).trans ((Collection.createIndexes_refused_iff place).trans ?_)
      exact and_iff_right rfl
  | find place filter options =>
      simp [find_not_refused, Attempts]
  | count place filter =>
      simp [count_not_refused, Attempts]

/-- A call violates a constraint if it comes to a document whose key it would change. -/
theorem violation_iff (call : StoreCall) :
    Refused .constraintViolation (call.answer state) ↔ call.Rekeys state := by
  cases call with
  | insertOne place document =>
      rw [insertOne_refused_iff (by decide), MemoryStore.insertMany,
        Collection.insertFrom_refused_iff]
      simp [Rekeys]
  | insertMany place documents =>
      refine (refused_map_iff _ _).trans ((Collection.insertFrom_refused_iff place).trans ?_)
      simp [Rekeys]
  | updateOne place filter change =>
      rw [updateOne_refused_iff (by decide)]
      simp only [Collection.updateFrom_violation_iff (intact.collection place), Rekeys]
  | updateMany place filter change =>
      rw [updateMany_refused_iff (by decide)]
      simp only [Collection.updateFrom_violation_iff (intact.collection place), Rekeys]
  | createIndexes place indexes =>
      refine (refused_map_iff _ _).trans ((Collection.createIndexes_refused_iff place).trans ?_)
      simp [Rekeys]
  | find place filter options =>
      simp [find_not_refused, Rekeys]
  | count place filter =>
      simp [count_not_refused, Rekeys]

end

/-! ## Integrity -/

/-- **The store keeps its integrity, and refuses exactly what would break it.** After
any calls every collection is intact. A call is then refused as a duplicate if and
only if it comes to a write that collides; a write that it comes to collides if and
only if the collection would not be intact with it. And a call violates a constraint
if and only if it comes to a document whose primary key it would change. -/
theorem integrity (calls : List StoreCall) (ids : IdSource) :
    (after calls ⟨.empty, ids⟩).store.Intact ∧
      ∀ call : StoreCall,
        (Refused .alreadyExists (call.answer (after calls ⟨.empty, ids⟩)) ↔
          ∃ attempt, call.Attempts (after calls ⟨.empty, ids⟩) attempt ∧
            attempt.Collides) ∧
        (∀ attempt : Attempt, call.Attempts (after calls ⟨.empty, ids⟩) attempt →
          (attempt.Collides ↔ ¬ attempt.performed.Intact)) ∧
        (Refused .constraintViolation (call.answer (after calls ⟨.empty, ids⟩)) ↔
          call.Rekeys (after calls ⟨.empty, ids⟩)) := by
  have intact : (after calls ⟨.empty, ids⟩).store.Intact := after_intact calls .empty
  refine ⟨intact, fun call => ⟨duplicate_iff intact call, fun attempt attempts => ?_,
    violation_iff intact call⟩⟩
  obtain ⟨presentIntact, keyed⟩ := attempts.intact intact
  exact Attempt.collides_iff presentIntact keyed

/-- Two documents in an otherwise empty store. -/
def twoDocuments : StoreState MemoryStore :=
  after [insertMany ⟨"test", "notes"⟩ [[("_id", .string "a")], [("_id", .string "b")]]]
    ⟨.empty, .fromMillis 0⟩

/-- An update that gives the second document the primary key of the first. -/
def rekeying : StoreCall :=
  updateOne ⟨"test", "notes"⟩ [("_id", .string "b")] [("$set", .object [("_id", .string "a")])]

/-- An update that gives a document the primary key of another one would make them
collide, and is not refused as a duplicate. -/
theorem rekeyed_onto_other_refused :
    rekeying.answer twoDocuments =
        .error ⟨.updateOne, .constraintViolation, "the primary key is immutable",
          some "test.notes", none⟩ ∧
      ¬ Refused .alreadyExists (rekeying.answer twoDocuments) ∧
      Collection.Collides [] (Document.extend [("_id", .string "b")] [("_id", .string "a")])
        [("_id", .string "a")] := by
  have answered : rekeying.answer twoDocuments =
      .error ⟨.updateOne, .constraintViolation, "the primary key is immutable",
        some "test.notes", none⟩ := by
    decide +kernel
  refine ⟨answered, ?_, .inl ⟨.string "a", .string "a", rfl, rfl, by decide⟩⟩
  rw [answered, refused_error_iff]
  decide

end StoreCall

end Docket
