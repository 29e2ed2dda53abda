import Docket.Persistence.World
import Docket.Record.Basic
import Docket.Vocabulary

/-!
# Access to stored records

Records of one type are stored in one collection. A stored record has its
identifier under the primary key, and its timestamps in the stored form, so that
their texts sort as they do. Reads come newest first.

A record without an identifier gets one when it is inserted. An update by
identifier writes all fields but the primary key and the time of creation; it
also leaves the time of deletion alone unless it sets one.
-/

set_option autoImplicit false

namespace Docket

/-- An unsigned count of 64 bits as a signed one; the upper half is negative. -/
def wrapped64 (count : Nat) : Int :=
  (count : Int).bmod 0x10000000000000000

/-- Access to the records of a type in a collection. -/
structure Access (σ : Type) (model : ModelType) where
  backend : Backend σ
  place : Namespace

namespace Access

variable {σ : Type} {model : ModelType}

/-- Access as it is shown in diagnostics. -/
def description (access : Access σ model) : String :=
  let place := s!"Namespace \x7b database: {Text.quoted access.place.database}, " ++
    s!"collection: {Text.quoted access.place.collection} \x7d"
  s!"DocumentDao \x7b namespace: {place}, store: {access.backend.description} \x7d"

/-- Reports an operation on the collection. -/
def report (access : Access σ model) (message : String) (values : List (String × LogValue)) :
    Action σ Unit :=
  Action.report
    { level := .debug, origin := .access, message
      values := ("namespace", .text access.place.text) :: values }

/-- The order of reads. -/
def newestFirst : FindOptions :=
  { FindOptions.default with sort := [(FieldName.createdAt, .descending)] }

/-- Brings a field into the stored form, if it is there. -/
def normalized (document : Document) (name : String) : Document :=
  match Document.get? document name with
  | some value => Document.insert document name value.storedTimestamp
  | none => document

/-- The names of the fields that are timestamps. -/
def timestampNames (fields : List FieldSpec) : List String :=
  (fields.filter fun field => field.kind == .timestamp).map FieldSpec.name

/-- The stored form of a record. -/
def encode (access : Access σ model) (operation : StoreOperation) (record : model.Value) :
    Except Failure Document :=
  match model.toRecordType.members "model is not a struct" record with
  | .error reason =>
      .error (.store
        ((StoreError.serializationError operation reason).inCollection access.place.text))
  | .ok members =>
      let keyed := Document.insert (Document.erase members FieldName.identifier)
        FieldName.primaryKey (model.id record).toJson
      .ok ((timestampNames model.fields).foldl normalized keyed)

/-- The record of a stored form. -/
def decode (access : Access σ model) (operation : StoreOperation) (document : Document) :
    Except Failure model.Value :=
  let members := match Document.get? document FieldName.primaryKey with
    | some id =>
        Document.insert (Document.erase document FieldName.primaryKey) FieldName.identifier id
    | none => document
  (model.decode (.object members)).mapError fun error =>
    .store ((StoreError.serializationError operation error.message).inCollection
      access.place.text)

/-- The records of stored forms, up to the first that is none. -/
def decodeAll (access : Access σ model) (operation : StoreOperation)
    (documents : List Document) : Except Failure (List model.Value) :=
  documents.mapM (access.decode operation)

/-- The record with an identifier, which is new if it had none. -/
def identified (record : model.Value) : Action σ model.Value := do
  if (model.id record).isUnassigned then return model.setId (← Action.nextId) record
  else return record

/-- Inserts a record. -/
def insert (access : Access σ model) (record : model.Value) : Action σ WriteResult := do
  let record ← identified record
  let document ← Action.ofExcept (access.encode .insertOne record)
  access.report "Inserting record" [("id", .text (model.id record).text)]
  let id ← Action.ofStore (access.backend.insertOne access.place document)
  return .inserted id

/-- Inserts records. -/
def insertMany (access : Access σ model) (records : List model.Value) :
    Action σ WriteResult := do
  let documents ← records.mapM fun record => do
    let record ← identified record
    Action.ofExcept (access.encode .insertMany record)
  access.report "Inserting records" [("count", .integer documents.length)]
  let ids ← Action.ofStore (access.backend.insertMany access.place documents)
  return .insertedMany ids

/-- The result of an update. -/
def updateResult (outcome : UpdateOutcome) : WriteResult :=
  ⟨wrapped64 outcome.modified, outcome.upsertedId.toList⟩

/-- Writes fields of the first matching record. -/
def update (access : Access σ model) (filter fields : Document) : Action σ WriteResult := do
  access.report "Updating first matching record" []
  let outcome ← Action.ofStore
    (access.backend.updateOne access.place filter (Document.setting fields))
  return updateResult outcome

/-- The fields that an update by identifier writes. -/
def writableFields (document : Document) : Document :=
  let fields := Document.erase (Document.erase document FieldName.primaryKey) FieldName.createdAt
  if (Document.get? fields FieldName.deletedAt).any Json.isNull then
    Document.erase fields FieldName.deletedAt
  else fields

/-- Writes a record over the one of an identifier. -/
def updateById (access : Access σ model) (id : RecordId) (record : model.Value) :
    Action σ WriteResult := do
  let document ← Action.ofExcept (access.encode .updateOne record)
  access.report "Updating record by id" [("id", .text id.text)]
  let outcome ← Action.ofStore
    (access.backend.updateOne access.place (Document.single FieldName.primaryKey id.toJson)
      (Document.setting (writableFields document)))
  return (WriteResult.ofCount (wrapped64 outcome.modified)).withId id.text

/-- Writes fields of all matching records. -/
def updateMany (access : Access σ model) (filter fields : Document) :
    Action σ WriteResult := do
  access.report "Updating matching records" []
  let outcome ← Action.ofStore
    (access.backend.updateMany access.place filter (Document.setting fields))
  return updateResult outcome

/-- The matching records. -/
def find (access : Access σ model) (filter : Document) : Action σ (List model.Value) := do
  access.report "Finding records" []
  let documents ← Action.ofStore (access.backend.find access.place filter newestFirst)
  Action.ofExcept (access.decodeAll .find documents)

/-- The newest matching record. -/
def findOne (access : Access σ model) (filter : Document) : Action σ model.Value := do
  access.report "Finding one record" []
  match ← Action.ofStore (access.backend.findOne access.place filter newestFirst) with
  | some document => Action.ofExcept (access.decode .findOne document)
  | none => throw (.store (.notFound access.place.text))

/-- A page of the matching records, and the number of all of them. -/
def paging (access : Access σ model) (filter : Document) (request : PageRequest) :
    Action σ (List model.Value × Int) := do
  access.report "Paging records"
    [("page", .integer request.page), ("count", .integer request.count)]
  let options := { newestFirst with skip := some request.skip.toNat, limit := some request.limit }
  let documents ← Action.ofStore (access.backend.find access.place filter options)
  let records ← Action.ofExcept (access.decodeAll .find documents)
  let total ← Action.ofStore (access.backend.count access.place filter)
  return (records, saturated total)

/-- Installs indexes. -/
def createIndexes (access : Access σ model) (indexes : List Index) :
    Action σ (List String) := do
  access.report "Creating indexes" [("count", .integer indexes.length)]
  Action.ofStore (access.backend.createIndexes access.place indexes)

end Access

end Docket
