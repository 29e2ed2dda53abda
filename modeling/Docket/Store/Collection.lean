import Docket.RecordId
import Docket.Store.Filter
import Docket.Store.Ordering

/-!
# Collections

A collection is a list of documents in the order of their insertion, and a list
of indexes. No two documents may have the same primary key, nor the same key
under a unique index; a missing field counts as null there, and the sign of a
zero does not count.

Writes go from document to document. An insertion or an update that fails at
some document keeps what it did to the documents before it, and never leaves a
document half written.
-/

set_option autoImplicit false

namespace Docket

/-- A collection. -/
structure Collection where
  documents : List Document
  indexes : List Index
  deriving DecidableEq

namespace Collection

/-- A collection without documents. -/
def empty : Collection :=
  ⟨[], []⟩

/-- The text of an identifier of any kind. -/
def idText (id : Json) : String :=
  match id with
  | .string text => text
  | other => other.text

/-- Keys are the same. -/
def sameKey (left right : List Json) : Bool :=
  Json.same (.array left) (.array right)

/-! ## Collisions -/

/-- What a document has in common with another one that it must not have. -/
inductive Collision where
  | primaryKey (id : Json)
  | index (name : String)
  deriving DecidableEq

/-- The collision of two documents: by the primary key, or by the first unique
index under which they have the same key. -/
def collision? (indexes : List Index) (candidate other : Document) : Option Collision :=
  let samePrimaryKey? := do
    let id ← Document.get? candidate FieldName.primaryKey
    let otherId ← Document.get? other FieldName.primaryKey
    if Json.same id otherId then some id else none
  match samePrimaryKey? with
  | some id => some (.primaryKey id)
  | none =>
      (indexes.find? fun index =>
        index.unique && sameKey (index.key candidate) (index.key other)).map fun index =>
          .index index.name

/-- The first collision of a document with others. -/
def firstCollision? (indexes : List Index) (candidate : Document) (others : List Document) :
    Option Collision :=
  others.findSome? (collision? indexes candidate)

/-- The failure of an operation by a collision. -/
def Collision.error (collision : Collision) (place : Namespace) (operation : StoreOperation) :
    StoreError :=
  match collision with
  | .primaryKey id => (StoreError.alreadyExists place.text (idText id)).during operation
  | .index name =>
      ⟨operation, .alreadyExists, s!"duplicate key for index {name}", some place.text, none⟩

/-! ## Insertion -/

/-- A document with its primary key, which is the next identifier if the
document has none. -/
def keyed (source : IdSource) (document : Document) : Document × Json × IdSource :=
  match Document.get? document FieldName.primaryKey with
  | some id => (document, id, source)
  | none =>
      (Document.insert document FieldName.primaryKey source.next.toJson, source.next.toJson,
        source.rest)

/-- What an insertion leaves behind. -/
structure Insertion where
  documents : List Document
  source : IdSource
  result : Except StoreError (List String)

/-- Adds documents one after another up to the first one that collides. -/
def insertFrom (place : Namespace) (indexes : List Index) (present : List Document)
    (source : IdSource) : List Document → Insertion
  | [] => ⟨present, source, .ok []⟩
  | document :: rest =>
      let (document, id, source) := keyed source document
      match firstCollision? indexes document present with
      | some collision => ⟨present, source, .error (collision.error place .insertMany)⟩
      | none =>
          let further := insertFrom place indexes (present ++ [document]) source rest
          { further with result := further.result.map (idText id :: ·) }

/-! ## Updates -/

/-- The fields that an update writes. -/
def updatedFields (operation : StoreOperation) (update : Document) :
    Except StoreError Document :=
  match update.find? fun member => member.1 != OperatorName.set with
  | some member => .error (.databaseError operation s!"unsupported update operator '{member.1}'")
  | none =>
      match Document.get? update OperatorName.set with
      | some (.object fields) => .ok fields
      | _ =>
          .error (.databaseError operation
            "update must be a \x7b\"$set\": \x7b...\x7d\x7d document")

/-- What an update does to each document that it matches. -/
structure Update where
  place : Namespace
  operation : StoreOperation
  filter : Document
  fields : Document
  /-- The update goes on behind the first match. -/
  many : Bool

/-- A document with fields written over it, unless they change its primary key. -/
def overwritten : Document → Document → Option Document
  | document, [] => some document
  | document, (name, value) :: rest =>
      if name = FieldName.primaryKey ∧
          (Document.get? document name).any (Json.same value) = false then none
      else overwritten (Document.insert document name value) rest

/-- The failure of an update that changes a primary key. -/
def immutableKey (update : Update) : StoreError :=
  ⟨update.operation, .constraintViolation, "the primary key is immutable",
    some update.place.text, none⟩

/-- A matched document after an update, or the failure of the update. The other
documents are those before and behind it. -/
def updatedDocument (update : Update) (indexes : List Index) (others : List Document)
    (document : Document) : Except StoreError Document :=
  match overwritten document update.fields with
  | none => .error (immutableKey update)
  | some next =>
      if Document.same next document then .ok document
      else
        match firstCollision? indexes next others with
        | some collision => .error (collision.error update.place update.operation)
        | none => .ok next

/-- An outcome with one match more. -/
def counted (outcome : UpdateOutcome) (changed : Bool) : UpdateOutcome :=
  { outcome with
    matched := outcome.matched + 1
    modified := outcome.modified + if changed then 1 else 0 }

/-- Updates documents one after another; those before them are given. The result
has what became of the documents from here on. -/
def updateFrom (update : Update) (indexes : List Index) (before : List Document) :
    List Document → UpdateOutcome → List Document × Except StoreError UpdateOutcome
  | [], outcome => ([], .ok outcome)
  | document :: rest, outcome =>
      match Filter.holds document update.filter with
      | .error error => (document :: rest, .error error)
      | .ok false =>
          let (others, result) := updateFrom update indexes (before ++ [document]) rest outcome
          (document :: others, result)
      | .ok true =>
          match updatedDocument update indexes (before ++ rest) document with
          | .error error => (document :: rest, .error error)
          | .ok next =>
              let outcome := counted outcome (!Document.same next document)
              if update.many then
                let (others, result) := updateFrom update indexes (before ++ [next]) rest outcome
                (next :: others, result)
              else (next :: rest, .ok outcome)

/-- Updates a collection. -/
def update (collection : Collection) (place : Namespace) (operation : StoreOperation)
    (filter change : Document) (many : Bool) : Collection × Except StoreError UpdateOutcome :=
  match updatedFields operation change with
  | .error error => (collection, .error error)
  | .ok fields =>
      let (documents, result) :=
        updateFrom ⟨place, operation, filter, fields, many⟩ collection.indexes []
          collection.documents .nothing
      ({ collection with documents }, result)

/-! ## Reads -/

/-- The documents that match a filter, as options ask for them. -/
def find (collection : Collection) (filter : Document) (options : FindOptions) :
    Except StoreError (List Document) := do
  let found ← Filter.select filter collection.documents
  return options.part (Sorting.sorted options.sort found)

/-- The number of documents that match a filter. -/
def count (collection : Collection) (filter : Document) : Except StoreError Nat :=
  (Filter.select filter collection.documents).map List.length

/-! ## Indexes -/

/-- Two documents have the same key under an index. -/
def hasRepeatedKey (index : Index) : List Document → Bool
  | [] => false
  | document :: rest =>
      (rest.any fun other => sameKey (index.key document) (index.key other)) ||
        hasRepeatedKey index rest

/-- Installs indexes one after another; an index replaces the one of its name.
The first unique index that documents violate ends this. -/
def createIndexes (place : Namespace) (collection : Collection) :
    List Index → Collection × Except StoreError (List String)
  | [] => (collection, .ok [])
  | index :: rest =>
      if index.unique && hasRepeatedKey index collection.documents then
        (collection, .error ⟨.createIndexes, .alreadyExists,
          s!"existing documents violate unique index {index.name}", some place.text, none⟩)
      else
        let others := collection.indexes.filter fun other => other.name != index.name
        let (collection, result) :=
          createIndexes place { collection with indexes := others ++ [index] } rest
        (collection, result.map (index.name :: ·))

end Collection

end Docket
