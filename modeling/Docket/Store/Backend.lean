import Docket.Store.Memory

/-!
# Stores

Whatever keeps documents is reached through the same eight operations. An
operation works on the state of its store and on the source of identifiers. An
operation that fails keeps what it did before it failed.

Reading one document is reading with a limit of one, in every store.
-/

set_option autoImplicit false

namespace Docket

/-- What an operation of a store works on. -/
structure StoreState (σ : Type) where
  store : σ
  ids : IdSource

/-- An operation of a store. -/
abbrev StoreAction (σ α : Type) := ExceptT StoreError (StateM (StoreState σ)) α

/-- The operations of a kind of stores. -/
structure Backend (σ : Type) where
  /-- How a store is shown in diagnostics. -/
  description : String
  insertOne : Namespace → Document → StoreAction σ String
  insertMany : Namespace → List Document → StoreAction σ (List String)
  updateOne : Namespace → (filter change : Document) → StoreAction σ UpdateOutcome
  updateMany : Namespace → (filter change : Document) → StoreAction σ UpdateOutcome
  find : Namespace → (filter : Document) → FindOptions → StoreAction σ (List Document)
  count : Namespace → (filter : Document) → StoreAction σ Nat
  createIndexes : Namespace → List Index → StoreAction σ (List String)

namespace Backend

variable {σ : Type}

/-- Reads the first document. -/
def findOne (backend : Backend σ) (place : Namespace) (filter : Document)
    (options : FindOptions) : StoreAction σ (Option Document) := do
  return (← backend.find place filter (options.limited 1)).head?

end Backend

namespace MemoryStore

/-- Inserts documents, as an operation. -/
def insertManyAction (place : Namespace) (documents : List Document) :
    StoreAction MemoryStore (List String) := do
  let state ← get
  let inserted := state.store.insertMany place state.ids documents
  set (⟨inserted.store, inserted.source⟩ : StoreState MemoryStore)
  ExceptT.mk (pure inserted.result)

/-- Inserts a document, as an operation. It is inserted like a list of one. -/
def insertOneAction (place : Namespace) (document : Document) :
    StoreAction MemoryStore String := do
  let state ← get
  let inserted := state.store.insertMany place state.ids [document]
  set (⟨inserted.store, inserted.source⟩ : StoreState MemoryStore)
  match inserted.result with
  | .error error => throw (error.during .insertOne)
  | .ok (id :: _) => return id
  | .ok [] => throw (.databaseError .insertOne "no identifier assigned")

/-- Updates documents, as an operation. -/
def updateAction (operation : StoreOperation) (many : Bool) (place : Namespace)
    (filter change : Document) : StoreAction MemoryStore UpdateOutcome := do
  let state ← get
  let (store, result) := state.store.update place operation filter change many
  set { state with store }
  ExceptT.mk (pure result)

/-- Installs indexes, as an operation. -/
def createIndexesAction (place : Namespace) (indexes : List Index) :
    StoreAction MemoryStore (List String) := do
  let state ← get
  let (store, result) := state.store.createIndexes place indexes
  set { state with store }
  ExceptT.mk (pure result)

/-- The operations of the store in memory. -/
def backend : Backend MemoryStore where
  description := "MemoryStore"
  insertOne := insertOneAction
  insertMany := insertManyAction
  updateOne := updateAction .updateOne false
  updateMany := updateAction .updateMany true
  find place filter options := do
    ExceptT.mk (pure ((← get).store.find place filter options))
  count place filter := do
    ExceptT.mk (pure ((← get).store.count place filter))
  createIndexes := createIndexesAction

end MemoryStore

end Docket
