import Docket.Logging.Entry
import Docket.Store.Backend

/-!
# What operations work on

An operation on records works on a store, takes identifiers from a source, reads
a clock and reports what it does. It may fail, and then it keeps what it did
before it failed.
-/

set_option autoImplicit false

namespace Docket

/-- A store, the source of identifiers, the time, and what was reported. -/
structure World (σ : Type) where
  store : σ
  ids : IdSource
  now : Instant
  log : List LogEntry

/-- An operation on records. -/
abbrev Action (σ α : Type) := ExceptT Failure (StateM (World σ)) α

namespace Action

variable {σ α : Type}

/-- Reports something. -/
def report (entry : LogEntry) : Action σ Unit :=
  modify fun world => { world with log := world.log ++ [entry] }

/-- A result with its reports. -/
def ofLogged (logged : Logged α) : Action σ α := do
  modify fun world => { world with log := world.log ++ logged.entries }
  return logged.value

/-- A result or a failure. -/
def ofExcept (result : Except Failure α) : Action σ α :=
  ExceptT.mk (pure result)

/-- An operation of the store. -/
def ofStore (action : StoreAction σ α) : Action σ α := do
  let world ← get
  let (result, state) := action.run.run ⟨world.store, world.ids⟩
  set { world with store := state.store, ids := state.ids }
  ofExcept (result.mapError .store)

/-- A conversion with its reports. -/
def ofConversion (logged : Logged (Except ConversionError α)) : Action σ α := do
  let result ← ofLogged logged
  ofExcept (result.mapError .conversion)

/-- Takes the next identifier. -/
def nextId : Action σ RecordId := do
  let world ← get
  set { world with ids := world.ids.rest }
  return world.ids.next

/-- Reads the clock. -/
def clock : Action σ Instant :=
  return (← get).now

/-- The result of an operation, which does not fail any more. -/
def attempt (action : Action σ α) : Action σ (Except Failure α) := do
  let (result, world) := action.run.run (← get)
  set world
  return result

end Action

end Docket
