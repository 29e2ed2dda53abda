import Docket.Exchange.Criteria
import Docket.Exchange.Storage
import Docket.Exchange.Failures
import Docket.Paging.Json
import Docket.Persistence.Service

/-!
# Sessions

A session is a list of steps on one store in memory, which is reached directly,
through the access to records, through a repository or through a service. All
but direct steps go through a watched store, which can be told to fail or to
answer by itself. A step that fails does not end its session.
-/

set_option autoImplicit false

namespace Docket.Exchange

/-- What a session works on. -/
abbrev Bench := World (Watched MemoryStore)

/-- A part of a step. -/
abbrev Step := ExceptT Refusal (StateM Bench)

/-- An operation on records, as a part of a step. -/
def perform {α : Type} (action : Action (Watched MemoryStore) α) : Step α := do
  let (result, bench) := action.run.run (← get)
  set bench
  orRefuse .failure result

/-- A part of an answer, as a part of a step. -/
def during {α : Type} (answer : Answer α) : Step α := do
  let logged := answer.run
  modify fun bench => { bench with log := bench.log ++ logged.entries }
  orRefuse id logged.value

/-- The filter that a step names, or the one of its criteria. -/
def filterOf (step : Document) : Step Document := do
  match Document.get? step "criteria" with
  | none => members (member step "filter")
  | some spec =>
      let criteria ← during (criteria spec)
      orRefuse (fun cause => .failure (.criteria cause)) criteria.build

/-- A step at a store. -/
def storeStep (backend : Backend (Watched MemoryStore)) (place : Namespace) (what : String)
    (step : Document) : Step Json := do
  let ask {α : Type} (action : StoreAction (Watched MemoryStore) α) : Step α :=
    perform (Action.ofStore action)
  match what with
  | "insert_one" =>
      let document ← members (member step "doc")
      return .string (← ask (backend.insertOne place document))
  | "insert_many" =>
      let documents ← typed Codec.document.list (member step "docs")
      return texts (← ask (backend.insertMany place documents))
  | "update_one" =>
      let filter ← filterOf step
      let change ← members (member step "update")
      return outcomeJson (← ask (backend.updateOne place filter change))
  | "update_many" =>
      let filter ← filterOf step
      let change ← members (member step "update")
      return outcomeJson (← ask (backend.updateMany place filter change))
  | "find" =>
      let filter ← filterOf step
      let options ← findOptions step
      return .array ((← ask (backend.find place filter options)).map Json.object)
  | "find_one" =>
      let filter ← filterOf step
      let options ← findOptions step
      return ((← ask (backend.findOne place filter options)).map Json.object).getD .null
  | "count" =>
      let filter ← filterOf step
      return .ofInt (← ask (backend.count place filter))
  | "create_indexes" =>
      let indexes ← (← items step "indexes").mapM index
      return texts (← ask (backend.createIndexes place indexes))
  | "dump" => return .array ((← ask (backend.find place [] .default)).map Json.object)
  | other => throw (.senseless s!"unknown step {other}")

/-- The number of documents at a place. -/
def sizeAt (place : Namespace) : Step Nat :=
  return (← get).store.store.size place

/-- The place that a step names. -/
def placeOf (access : Namespace) (step : Document) : Namespace :=
  match member step "ns" with
  | .array [.string database, .string collection] => ⟨database, collection⟩
  | _ => access

section Layers

variable {model : ModelType} {entity : RecordType}

/-- A page request of a step. -/
def pageRequest (step : Document) : Step PageRequest :=
  orRefuse (fun _ => .unreadable) (PageRequest.decode (member step "paging"))

/-- A step at the access to records. -/
def accessStep (access : Access (Watched MemoryStore) model) (what : String)
    (step : Document) : Step Json := do
  let type := model.toRecordType
  match what with
  | "insert" =>
      let value ← record type (member step "model")
      return (← perform (access.insert value)).toJson
  | "insert_many" =>
      let values ← (← orElseRefuse .unreadable (member step "models").array?).mapM (record type)
      return (← perform (access.insertMany values)).toJson
  | "update" =>
      let filter ← filterOf step
      let fields ← members (member step "fields")
      return (← perform (access.update filter fields)).toJson
  | "update_by_id" =>
      let id ← identifier (member step "id") "id"
      let value ← record type (member step "model")
      return (← perform (access.updateById id value)).toJson
  | "update_many" =>
      let filter ← filterOf step
      let fields ← members (member step "fields")
      return (← perform (access.updateMany filter fields)).toJson
  | "find" =>
      let filter ← filterOf step
      recordsJson type (← perform (access.find filter))
  | "find_one" =>
      let filter ← filterOf step
      recordJson type (← perform (access.findOne filter))
  | "paging" =>
      let filter ← filterOf step
      let request ← pageRequest step
      let (records, total) ← perform (access.paging filter request)
      return .array [← recordsJson type records, .ofInt total]
  | "create_indexes" =>
      let indexes ← (← items step "indexes").mapM index
      return texts (← perform (access.createIndexes indexes))
  | "namespace" => return .string access.place.text
  | "debug" => return .string access.description
  | other => throw (.senseless s!"unknown step {other}")

/-- A step at a repository. -/
def repositoryStep (repository : Repository (Watched MemoryStore) model entity) (what : String)
    (step : Document) : Step Json := do
  let criteriaOf : Step Criteria := during (criteria (member step "criteria"))
  match what with
  | "save" =>
      let value ← record entity (member step "entity")
      return (← perform (repository.save value)).toJson
  | "exist" => return .boolean (← perform (repository.exist (← criteriaOf)))
  | "remove" => return (← perform (repository.remove (← criteriaOf))).toJson
  | "find" => recordsJson entity (← perform (repository.find (← criteriaOf)))
  | "find_one" => recordJson entity (← perform (repository.findOne (← criteriaOf)))
  | "paging" =>
      let criteria ← criteriaOf
      let request ← pageRequest step
      let (records, total) ← perform (repository.paging criteria request)
      return .array [← recordsJson entity records, .ofInt total]
  | "debug" => return .string repository.description
  | other => throw (.senseless s!"unknown step {other}")

/-- A step at a service. -/
def serviceStep (service : Service (Watched MemoryStore) model entity) (what : String)
    (step : Document) : Step Json := do
  let criteriaOf : Step Criteria := during (criteria (member step "criteria"))
  match what with
  | "save" =>
      let value ← record entity (member step "entity")
      return (← perform (service.save value)).toJson
  | "exist" => return .boolean (← perform (service.exist (← criteriaOf)))
  | "remove" => return (← perform (service.remove (← criteriaOf))).toJson
  | "find" => recordsJson entity (← perform (service.find (← criteriaOf)))
  | "find_one" => recordJson entity (← perform (service.findOne (← criteriaOf)))
  | "paging" =>
      let criteria ← criteriaOf
      let request ← pageRequest step
      let page ← perform (service.paging criteria request)
      let written : Page Json :=
        ⟨page.page, page.count, page.total, ← page.items.mapM (recordJson entity)⟩
      return object [("has_more", .boolean page.hasMore), ("page", written.toJson)]
  | "debug" => return .string service.description
  | other => throw (.senseless s!"unknown step {other}")

/-- Changes the watched store. -/
def tell (change : Watched MemoryStore → Watched MemoryStore) : Step Unit :=
  modify fun bench => { bench with store := change bench.store }

/-- Tells the watched store what to answer. -/
def replyStep (step : Document) : Step Json := do
  let count ← typed? Codec.unsigned64 step "count"
  match count with
  | some count =>
      tell fun watched => { watched with counts := watched.counts ++ [count.val.toNat] }
  | none =>
      let matched ← typed? Codec.unsigned64 step "matched"
      let modified ← typed? Codec.unsigned64 step "modified"
      let upserted ← typed Codec.text.optional (member step "upserted_id")
      let given := fun (count : Option Unsigned64) =>
        (count.map fun count => count.val.toNat).getD 0
      let outcome : UpdateOutcome := ⟨given matched, given modified, upserted⟩
      tell fun watched => { watched with outcomes := watched.outcomes ++ [outcome] }
  return .null

/-- A step of a session. -/
def sessionStep (service : Service (Watched MemoryStore) model entity) (layer what : String)
    (step : Document) : Step Json := do
  let access := service.repository.access
  match layer with
  | "fail" =>
      let error ← storeError step
      tell fun watched => { watched with faults := watched.faults ++ [error] }
      return .null
  | "reply" => replyStep step
  | "store" =>
      let place := placeOf access.place step
      match what with
      | "len" => return .ofInt (← sizeAt place)
      | "is_empty" => return .boolean ((← sizeAt place) == 0)
      | _ => storeStep (Watched.unwatched MemoryStore.backend) place what step
  | "via" => storeStep access.backend access.place what step
  | "dao" => accessStep access what step
  | "repo" => repositoryStep service.repository what step
  | "svc" => serviceStep service what step
  | other => throw (.senseless s!"unknown layer {other}")

end Layers

end Docket.Exchange
