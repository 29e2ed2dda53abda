import Docket.Store.Collection

/-!
# The store in memory

Collections are kept by the texts of their namespaces. Insertions and new
indexes make the collection that they go into; updates, reads and counts of a
collection that is not there find nothing.
-/

set_option autoImplicit false

namespace Docket

/-- Collections by the texts of their namespaces. -/
structure MemoryStore where
  collections : List (String × Collection)
  deriving DecidableEq

namespace MemoryStore

/-- A store without collections. -/
def empty : MemoryStore :=
  ⟨[]⟩

/-- The collection of a namespace, if it was made. -/
def made? (store : MemoryStore) (place : Namespace) : Option Collection :=
  (store.collections.find? fun entry => entry.1 == place.text).map Prod.snd

/-- The collection of a namespace; an empty one if it was not made. -/
def collection (store : MemoryStore) (place : Namespace) : Collection :=
  (store.made? place).getD .empty

/-- Puts a collection under a name into a list. -/
def put (name : String) (collection : Collection) :
    List (String × Collection) → List (String × Collection)
  | [] => [(name, collection)]
  | (other, old) :: rest =>
      if other = name then (name, collection) :: rest
      else (other, old) :: put name collection rest

/-- The store with another collection for a namespace. -/
def withCollection (store : MemoryStore) (place : Namespace) (collection : Collection) :
    MemoryStore :=
  ⟨put place.text collection store.collections⟩

/-- What an insertion leaves behind. -/
structure Insertion where
  store : MemoryStore
  source : IdSource
  result : Except StoreError (List String)

/-- Inserts documents. -/
def insertMany (store : MemoryStore) (place : Namespace) (source : IdSource)
    (documents : List Document) : Insertion :=
  let collection := store.collection place
  let inserted :=
    Collection.insertFrom place collection.indexes collection.documents source documents
  ⟨store.withCollection place { collection with documents := inserted.documents },
    inserted.source, inserted.result⟩

/-- Updates the first matching document, or all of them. -/
def update (store : MemoryStore) (place : Namespace) (operation : StoreOperation)
    (filter change : Document) (many : Bool) : MemoryStore × Except StoreError UpdateOutcome :=
  match store.made? place with
  | none => (store, .ok .nothing)
  | some collection =>
      let (collection, result) := collection.update place operation filter change many
      (store.withCollection place collection, result)

/-- The documents that match a filter. -/
def find (store : MemoryStore) (place : Namespace) (filter : Document) (options : FindOptions) :
    Except StoreError (List Document) :=
  (store.collection place).find filter options

/-- The number of documents that match a filter. -/
def count (store : MemoryStore) (place : Namespace) (filter : Document) :
    Except StoreError Nat :=
  (store.collection place).count filter

/-- Installs indexes. -/
def createIndexes (store : MemoryStore) (place : Namespace) (indexes : List Index) :
    MemoryStore × Except StoreError (List String) :=
  let (collection, result) := Collection.createIndexes place (store.collection place) indexes
  (store.withCollection place collection, result)

/-- The number of documents of a collection. -/
def size (store : MemoryStore) (place : Namespace) : Nat :=
  (store.collection place).documents.length

end MemoryStore

end Docket
