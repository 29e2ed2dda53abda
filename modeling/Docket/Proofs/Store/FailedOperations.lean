import Docket.Proofs.Store.Reads
import Docket.Proofs.Store.Separation
import Docket.Proofs.Store.Updates

/-!
# The operation that a failure names

A failure says which operation failed. What the operations refuse by themselves they report under
their own names: insertions and installations always, and updates for whatever they do not write.
A filter does not know for which operation it is evaluated. Its faults are reported as those of a
read, and every operation passes them on as they are. So a failure names the operation that was
asked for unless it is the fault of a filter, and is that of a read then
(`failure_names_operation`); reads and counts fail in no other way, so that reading one document
and counting never report themselves (`filterFault_named_otherwise`).
-/

set_option autoImplicit false

namespace Docket

/-! ## What failures have in common -/

/-- Whatever a result fails with has a property. -/
def Failures {α : Type} (property : StoreError → Prop) (result : Except StoreError α) : Prop :=
  ∀ error, result = .error error → property error

section

variable {α β : Type} {property : StoreError → Prop}

theorem failures_ok (value : α) : Failures property (.ok value) := by
  intro error failed
  cases failed

theorem failures_error_iff (error : StoreError) :
    Failures (α := α) property (.error error) ↔ property error := by
  simp [Failures]

theorem failures_map_iff (change : α → β) (result : Except StoreError α) :
    Failures property (result.map change) ↔ Failures property result := by
  cases result <;> simp [Failures, Except.map]

theorem Failures.imp {result : Except StoreError α} (failures : Failures property result)
    {weaker : StoreError → Prop} (weakens : ∀ error, property error → weaker error) :
    Failures weaker result := by
  intro error failed
  exact weakens error (failures error failed)

end

/-- A filter cannot be evaluated on one of some documents, and a failure says why. -/
def Filter.FailsOn (filter : Document) (documents : List Document) (error : StoreError) : Prop :=
  ∃ document ∈ documents, Filter.holds document filter = .error error

namespace Filter

variable {filter : Document} {documents : List Document}

theorem FailsOn.operation {error : StoreError} (fails : FailsOn filter documents error) :
    error.operation = .find := by
  obtain ⟨document, _, failed⟩ := fails
  exact (holds_fault document filter failed).operation

theorem FailsOn.cons {error : StoreError} (fails : FailsOn filter documents error)
    (document : Document) : FailsOn filter (document :: documents) error := by
  obtain ⟨other, isDocument, failed⟩ := fails
  exact ⟨other, List.mem_cons_of_mem document isDocument, failed⟩

/-- A selection fails with the fault of its filter only. -/
theorem select_failures (filter : Document) (documents : List Document) :
    Failures (FailsOn filter documents) (select filter documents) := by
  induction documents with
  | nil => exact failures_ok []
  | cons document rest ih =>
      intro error failed
      rw [select] at failed
      rcases bind_eq_error failed with here | ⟨found, _, behind⟩
      · exact ⟨document, List.mem_cons_self, here⟩
      · rcases bind_eq_error behind with others | ⟨selected, _, returned⟩
        · exact (ih error others).cons document
        · cases returned

end Filter

/-! ## Collections -/

namespace Collection

theorem Collision.error_operation (collision : Collision) (place : Namespace)
    (operation : StoreOperation) : (collision.error place operation).operation = operation := by
  cases collision <;> rfl

theorem insertFrom_failures (place : Namespace) (indexes : List Index) (present : List Document)
    (source : IdSource) (documents : List Document) :
    Failures (fun error => error.operation = .insertMany)
      (insertFrom place indexes present source documents).result := by
  induction documents generalizing present source with
  | nil => exact failures_ok []
  | cons document rest ih =>
      cases found : firstCollision? indexes (keyed source document).1 present with
      | some collision =>
          rw [insertFrom_of_collision place found, failures_error_iff]
          exact collision.error_operation place .insertMany
      | none =>
          rw [insertFrom_of_free place found, failures_map_iff]
          exact ih _ _

theorem createIndexes_failures (place : Namespace) (collection : Collection)
    (indexes : List Index) :
    Failures (fun error => error.operation = .createIndexes)
      (createIndexes place collection indexes).2 := by
  induction indexes generalizing collection with
  | nil => exact failures_ok []
  | cons index rest ih =>
      rcases Classical.em (Attempt.install collection index).Collides with collides | free
      · rw [createIndexes_of_violated place collides, failures_error_iff]
      · rw [createIndexes_of_free place free, failures_map_iff]
        exact ih _

theorem updatedDocument_failures (update : Update) (indexes : List Index)
    (others : List Document) (document : Document) :
    Failures (fun error => error.operation = update.operation)
      (updatedDocument update indexes others document) := by
  unfold updatedDocument
  split
  · rw [failures_error_iff, immutableKey]
  · split
    · exact failures_ok document
    · split
      · next collision _ =>
          rw [failures_error_iff]
          exact collision.error_operation update.place update.operation
      · exact failures_ok _

/-- **An update fails under its own name, or with the fault of its filter** on a document that it
comes to; what it does to earlier documents does not matter to the later ones. -/
theorem updateFrom_failures (update : Update) (indexes : List Index)
    (before documents : List Document) (outcome : UpdateOutcome) :
    Failures (fun error => error.operation = update.operation ∨
        Filter.FailsOn update.filter documents error)
      (updateFrom update indexes before documents outcome).2 := by
  induction documents generalizing before outcome with
  | nil => exact failures_ok outcome
  | cons document rest ih =>
      have further : ∀ before outcome, Failures
          (fun error => error.operation = update.operation ∨
            Filter.FailsOn update.filter (document :: rest) error)
          (updateFrom update indexes before rest outcome).2 := by
        intro before outcome
        exact (ih before outcome).imp fun error cause => cause.imp_right fun fails =>
          fails.cons document
      cases matched : Filter.holds document update.filter with
      | error error =>
          rw [updateFrom_of_fault outcome matched, failures_error_iff]
          exact .inr ⟨document, List.mem_cons_self, matched⟩
      | ok verdict =>
          cases verdict with
          | false =>
              rw [updateFrom_of_unmatched outcome matched]
              exact further _ _
          | true =>
              cases updated : updatedDocument update indexes (before ++ rest) document with
              | error error =>
                  rw [updateFrom_of_refused outcome matched updated, failures_error_iff]
                  exact .inl (updatedDocument_failures update indexes _ document error updated)
              | ok next =>
                  rw [updateFrom_of_written outcome matched updated]
                  split
                  · exact further _ _
                  · exact failures_ok _

end Collection

/-! ## The store -/

namespace MemoryStore

variable (store : MemoryStore) (place : Namespace)

theorem update_failures (operation : StoreOperation) (filter change : Document) (many : Bool) :
    Failures (fun error => error.operation = operation ∨
        Filter.FailsOn filter (store.documents place) error)
      (store.update place operation filter change many).2 := by
  unfold MemoryStore.update documents MemoryStore.collection
  cases store.made? place with
  | none => exact failures_ok UpdateOutcome.nothing
  | some collection =>
      rw [Option.getD_some]
      simp only [Collection.update]
      cases fields : Collection.updatedFields operation change with
      | error error =>
          rw [failures_error_iff]
          exact .inl (updatedFields_fault fields).2
      | ok fields => exact Collection.updateFrom_failures _ _ _ _ _

theorem find_failures (filter : Document) (options : FindOptions) :
    Failures (Filter.FailsOn filter (store.documents place))
      (store.find place filter options) := by
  intro error failed
  apply Filter.select_failures filter (store.documents place) error
  rw [MemoryStore.find, Collection.find] at failed
  rcases Filter.bind_eq_error failed with selected | ⟨found, _, returned⟩
  · exact selected
  · cases returned

theorem count_failures (filter : Document) :
    Failures (Filter.FailsOn filter (store.documents place)) (store.count place filter) :=
  (failures_map_iff _ _).mpr (Filter.select_failures filter (store.documents place))

end MemoryStore

/-! ## Requests -/

/-- A request for one of the eight operations of a store. -/
inductive StoreRequest where
  | basic (call : StoreCall)
  | findOne (place : Namespace) (filter : Document) (options : FindOptions)

namespace StoreRequest

/-- The operation that is asked for. -/
def operation : StoreRequest → StoreOperation
  | .basic (.insertOne _ _) => .insertOne
  | .basic (.insertMany _ _) => .insertMany
  | .basic (.updateOne _ _ _) => .updateOne
  | .basic (.updateMany _ _ _) => .updateMany
  | .basic (.find _ _ _) => .find
  | .basic (.count _ _) => .count
  | .basic (.createIndexes _ _) => .createIndexes
  | .findOne _ _ _ => .findOne

/-- The namespace that a request is for. -/
def place : StoreRequest → Namespace
  | .basic call => call.place
  | .findOne place _ _ => place

/-- The filter of a request, if it has one. -/
def filter? : StoreRequest → Option Document
  | .basic (.updateOne _ filter _) => some filter
  | .basic (.updateMany _ filter _) => some filter
  | .basic (.find _ filter _) => some filter
  | .basic (.count _ filter) => some filter
  | .findOne _ filter _ => some filter
  | .basic _ => none

/-- What the store in memory answers to a request; of a result only a failure is told. -/
def answer (request : StoreRequest) (state : StoreState MemoryStore) : Except StoreError Unit :=
  match request with
  | .basic call => call.answer state
  | .findOne place filter options =>
      (StoreCall.performed (MemoryStore.backend.findOne place filter options) state).1

/-- A request does nothing but evaluate its filter on documents. -/
def Reads (request : StoreRequest) : Prop :=
  request.operation = .find ∨ request.operation = .findOne ∨ request.operation = .count

/-- A failure is the fault of a request's filter on a document of the collection. -/
def FilterFails (request : StoreRequest) (state : StoreState MemoryStore) (error : StoreError) :
    Prop :=
  ∃ filter, request.filter? = some filter ∧
    Filter.FailsOn filter (state.store.documents request.place) error

theorem FilterFails.operation {request : StoreRequest} {state : StoreState MemoryStore}
    {error : StoreError} (fails : request.FilterFails state error) : error.operation = .find := by
  obtain ⟨filter, _, failsOn⟩ := fails
  exact failsOn.operation

/-- The insertion of one document fails like that of a list of one, under another name. -/
theorem insertOne_failures (place : Namespace) (document : Document)
    (state : StoreState MemoryStore) :
    Failures (fun error => error.operation = .insertOne)
      ((StoreCall.insertOne place document).answer state) := by
  rw [StoreCall.answer, StoreCall.run_insertOne]
  rcases (state.store.insertMany place state.ids [document]).result with error | _ | ⟨id, _⟩
  · exact (failures_error_iff _).mpr rfl
  · exact (failures_error_iff _).mpr rfl
  · exact failures_ok ()

theorem findOne_failures (place : Namespace) (filter : Document) (options : FindOptions)
    (state : StoreState MemoryStore) :
    Failures (Filter.FailsOn filter (state.store.documents place))
      ((findOne place filter options).answer state) := by
  show Failures _ (((MemoryStore.backend.findOne place filter options).run.run state).1.map
    fun _ => ())
  rw [MemoryStore.run_backend_findOne, failures_map_iff, failures_map_iff]
  exact state.store.find_failures place filter _

/-- **Every request fails under its own name, or with the fault of its filter.** One that only
reads fails in the second way. -/
theorem answer_failures (request : StoreRequest) (state : StoreState MemoryStore) :
    Failures (fun error => (error.operation = request.operation ∧ ¬ request.Reads) ∨
      request.FilterFails state error) (request.answer state) := by
  have named : ∀ {filter : Document}, request.filter? = some filter → ∀ error,
      Filter.FailsOn filter (state.store.documents request.place) error →
        request.FilterFails state error := fun isFilter _ fails => ⟨_, isFilter, fails⟩
  rcases request with call | ⟨place, filter, options⟩
  · cases call with
    | insertOne place document =>
        exact (insertOne_failures place document state).imp fun _ own =>
          .inl ⟨own, by simp [Reads, operation]⟩
    | insertMany place documents =>
        exact (failures_map_iff _ _).mpr
          ((Collection.insertFrom_failures place _ _ state.ids documents).imp fun _ own =>
            .inl ⟨own, by simp [Reads, operation]⟩)
    | updateOne place filter change =>
        exact (failures_map_iff _ _).mpr
          ((state.store.update_failures place .updateOne filter change false).imp fun error =>
            .imp (fun own => ⟨own, by simp [Reads, operation]⟩) (named rfl error))
    | updateMany place filter change =>
        exact (failures_map_iff _ _).mpr
          ((state.store.update_failures place .updateMany filter change true).imp fun error =>
            .imp (fun own => ⟨own, by simp [Reads, operation]⟩) (named rfl error))
    | find place filter options =>
        exact (failures_map_iff _ _).mpr
          ((state.store.find_failures place filter options).imp fun error fails =>
            .inr (named rfl error fails))
    | count place filter =>
        exact (failures_map_iff _ _).mpr
          ((state.store.count_failures place filter).imp fun error fails =>
            .inr (named rfl error fails))
    | createIndexes place indexes =>
        exact (failures_map_iff _ _).mpr
          ((Collection.createIndexes_failures place _ indexes).imp fun _ own =>
            .inl ⟨own, by simp [Reads, operation]⟩)
  · exact (findOne_failures place filter options state).imp fun error fails =>
      .inr (named rfl error fails)

/-- **A failure names the operation that was asked for, unless it is the fault of a filter.** That
is reported as one of a read, whichever operation the filter was evaluated for. Requests that only
read fail in no other way. -/
theorem failure_names_operation (request : StoreRequest) (state : StoreState MemoryStore)
    {error : StoreError} (failed : request.answer state = .error error) :
    (error.operation = request.operation ↔
        request.operation = .find ∨ ¬ request.FilterFails state error) ∧
      (request.FilterFails state error → error.operation = .find) ∧
      (request.Reads → request.FilterFails state error) := by
  have cause := answer_failures request state error failed
  refine ⟨⟨fun own => ?_, fun cases => ?_⟩, FilterFails.operation, fun reads => ?_⟩
  · by_cases fails : request.FilterFails state error
    · exact .inl (own.symm.trans fails.operation)
    · exact .inr fails
  · rcases cause with ⟨own, _⟩ | fails
    · exact own
    · rcases cases with isRead | noFault
      · rw [isRead, fails.operation]
      · exact absurd fails noFault
  · rcases cause with ⟨_, writes⟩ | fails
    · exact absurd reads writes
    · exact fails

/-- A filter with an operator that there is not. -/
def unsupported : Document :=
  [("slug", .object [("$gt", .string "x")])]

/-- A change that gives every note one slug. -/
def oneSlug : Document :=
  .setting [("slug", .string "z")]

open MemoryStore in
theorem failure_names_operation_twoNotes :
    (∃ error, (basic (.updateMany ⟨"test", "notes"⟩ [] oneSlug)).answer twoNotes =
      .error error ∧
        error.operation = .updateMany) ∧
      ∃ error, (findOne ⟨"test", "notes"⟩ unsupported .default).answer twoNotes =
        .error error ∧
        error.operation = .find := by
  constructor
  · have failed : (basic (.updateMany ⟨"test", "notes"⟩ [] oneSlug)).answer twoNotes =
        .error ⟨.updateMany, .alreadyExists, "duplicate key for index slug_1", some "test.notes",
          none⟩ := by
      rfl
    refine ⟨_, failed, (failure_names_operation _ _ failed).1.mpr (.inr ?_)⟩
    rintro ⟨filter, isFilter, document, _, fault⟩
    obtain rfl := Option.some.inj isFilter
    rw [Filter.holds_nil] at fault
    cases fault
  · have failed : (findOne ⟨"test", "notes"⟩ unsupported .default).answer twoNotes =
        .error (Filter.fault "unsupported filter operator '$gt'") := by
      rfl
    obtain ⟨_, named, ofReads⟩ := failure_names_operation _ _ failed
    exact ⟨_, failed, named (ofReads (.inr (.inl rfl)))⟩

/-- A request fails, and the failure names another operation. -/
def Misnames (request : StoreRequest) (state : StoreState MemoryStore) : Prop :=
  ∃ error, request.answer state = .error error ∧ error.operation ≠ request.operation

open MemoryStore in
/-- **The fault of a filter is reported under another name** than that of the operation, be it an
update, a count or the read of one document. -/
theorem filterFault_named_otherwise :
    (basic (.updateOne ⟨"test", "notes"⟩ unsupported oneSlug)).Misnames twoNotes ∧
      (basic (.updateMany ⟨"test", "notes"⟩ unsupported oneSlug)).Misnames twoNotes ∧
      (basic (.count ⟨"test", "notes"⟩ unsupported)).Misnames twoNotes ∧
      (findOne ⟨"test", "notes"⟩ unsupported .default).Misnames twoNotes :=
  ⟨⟨_, rfl, by decide⟩, ⟨_, rfl, by decide⟩, ⟨_, rfl, by decide⟩,
    ⟨_, rfl, by decide⟩⟩

end StoreRequest

end Docket
