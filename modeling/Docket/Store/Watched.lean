import Docket.Store.Backend

/-!
# Watched stores

A watched store keeps a record of every operation that it is asked for, in
order, before it does anything. It can be told in advance to fail the next
operation, or to answer the next count or update by itself; then the operation
does not reach the store behind it. Faults and answers wait in queues, and
faults come first.
-/

set_option autoImplicit false

namespace Docket

/-- An operation that a store was asked for. -/
inductive StoreCall where
  | insertOne (place : Namespace) (document : Document)
  | insertMany (place : Namespace) (documents : List Document)
  | updateOne (place : Namespace) (filter change : Document)
  | updateMany (place : Namespace) (filter change : Document)
  | find (place : Namespace) (filter : Document) (options : FindOptions)
  | count (place : Namespace) (filter : Document)
  | createIndexes (place : Namespace) (indexes : List Index)
  deriving DecidableEq

/-- A store with what it was asked for and what it is to answer. -/
structure Watched (σ : Type) where
  store : σ
  calls : List StoreCall
  faults : List StoreError
  counts : List Nat
  outcomes : List UpdateOutcome

namespace Watched

variable {σ α : Type}

/-- A store that was asked for nothing yet. -/
def watch (store : σ) : Watched σ :=
  ⟨store, [], [], [], []⟩

/-- Records an operation, and fails it if a fault waits. -/
def enter (call : StoreCall) : StoreAction (Watched σ) Unit := do
  let state ← get
  let watched := { state.store with calls := state.store.calls ++ [call] }
  match watched.faults with
  | [] => set { state with store := watched }
  | fault :: faults =>
      set { state with store := { watched with faults } }
      throw fault

/-- Hands an operation on to the store behind. -/
def handOn (action : StoreAction σ α) : StoreAction (Watched σ) α := do
  let state ← get
  let (result, behind) := action.run.run ⟨state.store.store, state.ids⟩
  set (⟨{ state.store with store := behind.store }, behind.ids⟩ : StoreState (Watched σ))
  ExceptT.mk (pure result)

/-- The next waiting answer to an update, or that of the store behind. -/
def outcomeOr (action : StoreAction σ UpdateOutcome) :
    StoreAction (Watched σ) UpdateOutcome := do
  let state ← get
  match state.store.outcomes with
  | [] => handOn action
  | outcome :: outcomes =>
      set { state with store := { state.store with outcomes } }
      return outcome

/-- The next waiting answer to a count, or that of the store behind. -/
def countOr (action : StoreAction σ Nat) : StoreAction (Watched σ) Nat := do
  let state ← get
  match state.store.counts with
  | [] => handOn action
  | count :: counts =>
      set { state with store := { state.store with counts } }
      return count

/-- The operations of a watched store. -/
def backend (description : String) (behind : Backend σ) : Backend (Watched σ) where
  description := description
  insertOne place document := do
    enter (.insertOne place document)
    handOn (behind.insertOne place document)
  insertMany place documents := do
    enter (.insertMany place documents)
    handOn (behind.insertMany place documents)
  updateOne place filter change := do
    enter (.updateOne place filter change)
    outcomeOr (behind.updateOne place filter change)
  updateMany place filter change := do
    enter (.updateMany place filter change)
    outcomeOr (behind.updateMany place filter change)
  find place filter options := do
    enter (.find place filter options)
    handOn (behind.find place filter options)
  count place filter := do
    enter (.count place filter)
    countOr (behind.count place filter)
  createIndexes place indexes := do
    enter (.createIndexes place indexes)
    handOn (behind.createIndexes place indexes)

/-- The operations of the store behind a watched one, of which no record is kept. -/
def unwatched (behind : Backend σ) : Backend (Watched σ) where
  description := behind.description
  insertOne place document := handOn (behind.insertOne place document)
  insertMany place documents := handOn (behind.insertMany place documents)
  updateOne place filter change := handOn (behind.updateOne place filter change)
  updateMany place filter change := handOn (behind.updateMany place filter change)
  find place filter options := handOn (behind.find place filter options)
  count place filter := handOn (behind.count place filter)
  createIndexes place indexes := handOn (behind.createIndexes place indexes)

end Watched

end Docket
