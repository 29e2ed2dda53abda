import Docket.Persistence.Service
import Docket.Proofs.Persistence.Permanence
import Docket.Proofs.Store.Reads
import Docket.Specimen.Notes

/-!
# Operations on a store in memory, run

An operation on records is a sequence of small steps: it reports, reads the clock,
takes an identifier, converts, or asks the store. Each of them has one equation for
what it answers and what world it leaves. From these follow the equations for
whole operations, in which the store is asked once, or twice for a page, and
everything else is known before.

What an operation reports does not matter to any other operation. The equations
name the entries nevertheless, so that they are equations between worlds.
-/

set_option autoImplicit false

namespace Docket

/-- The world with more entries in its log. -/
def World.logged {σ : Type} (world : World σ) (entries : List LogEntry) : World σ :=
  { world with log := world.log ++ entries }

section

variable {σ α β : Type} (world : World σ)

@[simp] theorem World.logged_store (entries : List LogEntry) :
    (world.logged entries).store = world.store := rfl

@[simp] theorem World.logged_ids (entries : List LogEntry) :
    (world.logged entries).ids = world.ids := rfl

@[simp] theorem World.logged_now (entries : List LogEntry) :
    (world.logged entries).now = world.now := rfl

namespace Action

/-! ## Steps -/

theorem run_bind_of_ok {action : Action σ α} {next : α → Action σ β} {value : α}
    {behind : World σ} (ran : action.run.run world = (.ok value, behind)) :
    (action >>= next).run.run world = (next value).run.run behind := by
  rw [run_bind, ran]

theorem run_bind_of_error {action : Action σ α} {next : α → Action σ β} {failure : Failure}
    {behind : World σ} (ran : action.run.run world = (.error failure, behind)) :
    (action >>= next).run.run world = (.error failure, behind) := by
  rw [run_bind, ran]

/-- A run by what it answers. -/
theorem run_eq_of_answer {action : Action σ α} {answer : Except Failure α}
    (answers : (action.run.run world).1 = answer) :
    action.run.run world = (answer, (action.run.run world).2) :=
  Prod.ext answers rfl

theorem run_clock : (clock : Action σ Instant).run.run world = (.ok world.now, world) := rfl

theorem run_nextId :
    (nextId : Action σ RecordId).run.run world =
      (.ok world.ids.next, { world with ids := world.ids.rest }) := rfl

theorem run_ofExcept (result : Except Failure α) :
    (ofExcept result : Action σ α).run.run world = (result, world) := rfl

theorem run_ofConversion (logged : Logged (Except ConversionError α)) :
    (ofConversion logged : Action σ α).run.run world =
      (logged.value.mapError .conversion, world.logged logged.entries) := rfl

theorem run_ofStore (action : StoreAction σ α) :
    (ofStore action).run.run world =
      ((action.run.run ⟨world.store, world.ids⟩).1.mapError .store,
        { world with
          store := (action.run.run ⟨world.store, world.ids⟩).2.store
          ids := (action.run.run ⟨world.store, world.ids⟩).2.ids }) := rfl

theorem run_attempt (action : Action σ α) :
    (attempt action).run.run world = (.ok (action.run.run world).1, (action.run.run world).2) :=
  rfl

end Action

end

/-- A count is told as it is unless it takes all 64 bits. -/
theorem wrapped64_of_lt {count : Nat} (fits : count < 0x8000000000000000) :
    wrapped64 count = count := by
  have small : (count : Int) < 0x8000000000000000 := Int.ofNat_lt.mpr fits
  exact Int.bmod_eq_of_le (Int.le_trans (by decide) (Int.natCast_nonneg count)) small

namespace Access

variable {model : ModelType} (place : Namespace)

/-- What access to a place reports. -/
def entry (message : String) (values : List (String × LogValue)) : LogEntry :=
  { level := .debug, origin := .access, message
    values := ("namespace", .text place.text) :: values }

variable (world : World MemoryStore)

/-! ## Updates -/

/-- An update of the store in memory, as a step. -/
theorem run_update (operation : StoreOperation) (many : Bool) (filter fields : Document) :
    (Action.ofStore (MemoryStore.updateAction operation many place filter
        (Document.setting fields))).run.run world =
      ((world.store.updating place operation filter fields many).2.mapError .store,
        { world with
          store := (world.store.update place operation filter
            (Document.setting fields) many).1 }) := by
  rw [← (world.store.update_ofPlace place operation filter fields many).2]
  rfl

theorem run_updateMany (filter fields : Document) :
    ((inMemory model place).updateMany filter fields).run.run world =
      (((world.store.updating place .updateMany filter fields true).2.mapError .store).map
          updateResult,
        { world.logged [entry place "Updating matching records" []] with
          store := (world.store.update place .updateMany filter
            (Document.setting fields) true).1 }) := by
  have reported : ((inMemory model place).report "Updating matching records" []).run.run world =
      (.ok (), world.logged [entry place "Updating matching records" []]) := rfl
  have updated : (Action.ofStore ((inMemory model place).backend.updateMany
      (inMemory model place).place filter (Document.setting fields))).run.run _ = _ :=
    run_update place (world.logged [entry place "Updating matching records" []])
      .updateMany true filter fields
  rw [updateMany, Action.run_bind_of_ok world reported, run_bind, updated]
  rw [World.logged_store]
  cases (world.store.updating place .updateMany filter fields true).2 <;> rfl

theorem run_updateById {id : RecordId} {record : model.Value} {document : Document}
    (encoded : (inMemory model place).encode .updateOne record = .ok document) :
    ((inMemory model place).updateById id record).run.run world =
      (((world.store.updating place .updateOne (Document.single FieldName.primaryKey id.toJson)
            (writableFields document) false).2.mapError .store).map fun outcome =>
          (WriteResult.ofCount (wrapped64 outcome.modified)).withId id.text,
        { world.logged [entry place "Updating record by id" [("id", .text id.text)]] with
          store := (world.store.update place .updateOne
            (Document.single FieldName.primaryKey id.toJson)
            (Document.setting (writableFields document)) false).1 }) := by
  have reported : ((inMemory model place).report "Updating record by id"
      [("id", .text id.text)]).run.run world =
        (.ok (), world.logged [entry place "Updating record by id" [("id", .text id.text)]]) := rfl
  have updated : (Action.ofStore ((inMemory model place).backend.updateOne
      (inMemory model place).place (Document.single FieldName.primaryKey id.toJson)
      (Document.setting (writableFields document)))).run.run _ = _ :=
    run_update place (world.logged [entry place "Updating record by id" [("id", .text id.text)]])
      .updateOne false (Document.single FieldName.primaryKey id.toJson) (writableFields document)
  rw [updateById, encoded, Action.run_bind_of_ok world (Action.run_ofExcept world _),
    Action.run_bind_of_ok world reported, run_bind, updated]
  rw [World.logged_store]
  cases (world.store.updating place .updateOne (Document.single FieldName.primaryKey id.toJson)
    (writableFields document) false).2 <;> rfl

/-- An update by identifier of what has no stored form does nothing. -/
theorem run_updateById_of_unencoded (id : RecordId) {record : model.Value} {failure : Failure}
    (failed : (inMemory model place).encode .updateOne record = .error failure) :
    ((inMemory model place).updateById id record).run.run world = (.error failure, world) := by
  rw [updateById, failed, Action.run_bind_of_error world (Action.run_ofExcept world _)]

/-! ## Reads -/

theorem run_find (filter : Document) :
    ((inMemory model place).find filter).run.run world =
      (((world.store.find place filter newestFirst).mapError .store).bind
          ((inMemory model place).decodeAll .find),
        world.logged [entry place "Finding records" []]) := by
  have reported : ((inMemory model place).report "Finding records" []).run.run world =
      (.ok (), world.logged [entry place "Finding records" []]) := rfl
  have read : (Action.ofStore ((inMemory model place).backend.find
      (inMemory model place).place filter newestFirst)).run.run
        (world.logged [entry place "Finding records" []]) =
      ((world.store.find place filter newestFirst).mapError .store,
        world.logged [entry place "Finding records" []]) := rfl
  rw [find, Action.run_bind_of_ok world reported, run_bind, read]
  cases world.store.find place filter newestFirst <;> rfl

/-- The record of the first of some documents. -/
def decodeFirst (documents : List Document) : Except Failure model.Value :=
  match documents.head? with
  | some document => (inMemory model place).decode .findOne document
  | none => .error (.store (.notFound place.text))

theorem run_findOne (filter : Document) :
    ((inMemory model place).findOne filter).run.run world =
      (((world.store.find place filter (newestFirst.limited 1)).mapError .store).bind
          (decodeFirst place),
        world.logged [entry place "Finding one record" []]) := by
  have reported : ((inMemory model place).report "Finding one record" []).run.run world =
      (.ok (), world.logged [entry place "Finding one record" []]) := rfl
  have read : (Action.ofStore ((inMemory model place).backend.findOne
      (inMemory model place).place filter newestFirst)).run.run
        (world.logged [entry place "Finding one record" []]) =
      (((world.store.find place filter (newestFirst.limited 1)).map List.head?).mapError .store,
        world.logged [entry place "Finding one record" []]) := by
    show (Action.ofStore (MemoryStore.backend.findOne place filter newestFirst)).run.run _ = _
    rw [Action.run_ofStore, MemoryStore.run_backend_findOne]
    rfl
  rw [findOne, Action.run_bind_of_ok world reported, run_bind, read]
  cases world.store.find place filter (newestFirst.limited 1) with
  | error error => rfl
  | ok documents => cases documents <;> rfl

/-- What a page asks of the store. -/
def pageOptions (request : PageRequest) : FindOptions :=
  { newestFirst with skip := some request.skip.toNat, limit := some request.limit }

theorem run_paging (filter : Document) (request : PageRequest) :
    ((inMemory model place).paging filter request).run.run world =
      (((world.store.find place filter (pageOptions request)).mapError .store).bind
          fun documents => ((inMemory model place).decodeAll .find documents).bind
            fun records => ((world.store.count place filter).mapError .store).map
              fun total => (records, saturated total),
        world.logged [entry place "Paging records"
          [("page", .integer request.page), ("count", .integer request.count)]]) := by
  set entries := [entry place "Paging records"
    [("page", .integer request.page), ("count", .integer request.count)]]
  have reported : ((inMemory model place).report "Paging records"
      [("page", .integer request.page), ("count", .integer request.count)]).run.run world =
        (.ok (), world.logged entries) := rfl
  have read : (Action.ofStore ((inMemory model place).backend.find
      (inMemory model place).place filter (pageOptions request))).run.run
        (world.logged entries) =
      ((world.store.find place filter (pageOptions request)).mapError .store,
        world.logged entries) := rfl
  have counted : (Action.ofStore ((inMemory model place).backend.count
      (inMemory model place).place filter)).run.run (world.logged entries) =
      ((world.store.count place filter).mapError .store, world.logged entries) := rfl
  rw [paging, Action.run_bind_of_ok world reported]
  show (Action.ofStore ((inMemory model place).backend.find
    (inMemory model place).place filter (pageOptions request)) >>= _).run.run _ = _
  rw [run_bind, read]
  cases world.store.find place filter (pageOptions request) with
  | error error => rfl
  | ok documents =>
      simp only [Except.mapError, Except.bind]
      rw [run_bind, Action.run_ofExcept]
      cases (inMemory model place).decodeAll .find documents with
      | error failure => rfl
      | ok records =>
          show (Action.ofStore ((inMemory model place).backend.count
            (inMemory model place).place filter) >>= _).run.run _ = _
          rw [run_bind, counted]
          cases world.store.count place filter <;> rfl

end Access

/-! ## Repositories -/

namespace Repository

variable {model : ModelType} {entity : RecordType} (place : Namespace)
  (custom : Option (ModelConverter model.toRecordType entity)) (copier : Copier)

/-- A repository on a store in memory. -/
def inMemory : Repository MemoryStore model entity :=
  ⟨Access.inMemory model place, custom, copier⟩

variable (world : World MemoryStore)

theorem run_filter (criteria : Criteria) :
    (filter criteria : Action MemoryStore Document).run.run world =
      (criteria.build.mapError .criteria, world) := rfl

variable {criteria : Criteria}

/-- Removal by criteria is an update of what their filter matches. -/
theorem run_remove {filter : Document} (built : criteria.build = .ok filter) :
    ((inMemory place custom copier).remove criteria).run.run world =
      ((Access.inMemory model place).updateMany filter (deletion world.now)).run.run world := by
  have filtered := run_filter world criteria
  rw [built] at filtered
  rw [remove, Action.run_bind_of_ok world filtered,
    Action.run_bind_of_ok world (Action.run_clock world)]
  rfl

/-- Removal by criteria that have no filter does nothing. -/
theorem run_remove_of_unbuilt {error : CriteriaError} (unbuilt : criteria.build = .error error) :
    ((inMemory place custom copier).remove criteria).run.run world =
      (.error (.criteria error), world) := by
  have filtered := run_filter world criteria
  rw [unbuilt] at filtered
  rw [remove, Action.run_bind_of_error world filtered]

/-- A search by criteria reads by their filter and converts what it read. -/
theorem run_find {filter : Document} (built : criteria.build = .ok filter) :
    ((inMemory place custom copier).find criteria).run.run world =
      ((Access.inMemory model place).find filter >>= fun records => Action.ofConversion
        ((inMemory place custom copier).converter.toEntities records)).run.run world := by
  have filtered := run_filter world criteria
  rw [built] at filtered
  rw [find, Action.run_bind_of_ok world filtered]
  rfl

/-- A search for one record by criteria reads by their filter and converts what it read. -/
theorem run_findOne {filter : Document} (built : criteria.build = .ok filter) :
    ((inMemory place custom copier).findOne criteria).run.run world =
      ((Access.inMemory model place).findOne filter >>= fun record => Action.ofConversion
        ((inMemory place custom copier).converter.toEntity record)).run.run world := by
  have filtered := run_filter world criteria
  rw [built] at filtered
  rw [findOne, Action.run_bind_of_ok world filtered]
  rfl

/-- A page by criteria is read by their filter and converted. -/
theorem run_paging {filter : Document} (built : criteria.build = .ok filter)
    (request : PageRequest) :
    ((inMemory place custom copier).paging criteria request).run.run world =
      ((Access.inMemory model place).paging filter request >>= fun page => do
        return (← Action.ofConversion
          ((inMemory place custom copier).converter.toEntities page.1),
            page.2)).run.run world := by
  have filtered := run_filter world criteria
  rw [built] at filtered
  rw [paging, Action.run_bind_of_ok world filtered]
  rfl

section

variable {record : entity.Value} {stored : model.Value}
  (converts : ((inMemory place custom copier).converter.toModel record).value = .ok stored)

include converts

theorem run_conversion :
    (Action.ofConversion ((inMemory place custom copier).converter.toModel record)).run.run
        world =
      (.ok stored,
        world.logged ((inMemory place custom copier).converter.toModel record).entries) := by
  rw [Action.run_ofConversion, converts]
  rfl

/-- Saving a record with an identifier is an update by that identifier. -/
theorem run_save_of_assigned (assigned : (model.id stored).isUnassigned = false) :
    ((inMemory place custom copier).save record).run.run world =
      ((Access.inMemory model place).updateById
        (model.id (model.stampUpdated world.now stored))
        (model.stampUpdated world.now stored)).run.run
          (world.logged ((inMemory place custom copier).converter.toModel record).entries) := by
  rw [save, Action.run_bind_of_ok world (run_conversion place custom copier world converts),
    Action.run_bind_of_ok _ (Action.run_clock _), assigned]
  rfl

/-- Saving a record without an identifier is an insertion with the next identifier. -/
theorem run_save_of_unassigned (unassigned : (model.id stored).isUnassigned = true) :
    ((inMemory place custom copier).save record).run.run world =
      ((Access.inMemory model place).insert (model.stampUpdated world.now
        (model.stampCreated world.now (model.setId world.ids.next stored)))).run.run
          { world.logged ((inMemory place custom copier).converter.toModel record).entries with
            ids := world.ids.rest } := by
  rw [save, Action.run_bind_of_ok world (run_conversion place custom copier world converts),
    Action.run_bind_of_ok _ (Action.run_clock _), unassigned, if_pos rfl,
    Action.run_bind_of_ok _ (Action.run_nextId _)]
  rfl

end

/-- The repository of notes. -/
def notes : Repository MemoryStore Specimen.noteModel Specimen.note :=
  inMemory ⟨"test", "notes"⟩ none .default

end Repository

/-- A service that reports failures answers as what it asks does, and leaves the store
as that does. -/
theorem Service.run_reporting {σ α : Type} (message : String) (values : List (String × LogValue))
    (action : Action σ α) (world : World σ) :
    ((reporting message values action).run.run world).1 = (action.run.run world).1 ∧
      ((reporting message values action).run.run world).2.store =
        (action.run.run world).2.store := by
  rw [reporting, Action.run_bind_of_ok world (Action.run_attempt world action)]
  cases (action.run.run world).1 <;> exact ⟨rfl, rfl⟩

end Docket
