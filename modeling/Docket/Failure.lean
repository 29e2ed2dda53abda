import Docket.RecordId

/-!
# What can go wrong

Each kind of failure is a type of causes, and its wording is one function on
that type. The store's failures say which operation failed, of what kind the
failure is, and, if known, in which collection and on which record.
-/

set_option autoImplicit false

namespace Docket

/-- Why criteria do not become a filter. -/
inductive CriteriaError where
  | placeholderMismatch (placeholders arguments : Nat)
  | malformedClause (clause : String)
  | unsupportedOperator (clause operator : String)
  | inRequiresSequence (field : String)
  | notAnObject
  | serialization (reason : String)
  deriving DecidableEq

namespace CriteriaError

/-- The message of an error. -/
def message : CriteriaError → String
  | .placeholderMismatch placeholders arguments =>
      s!"expression has {placeholders} placeholders but {arguments} arguments were supplied"
  | .malformedClause clause => s!"malformed clause '{clause}': expected `field operator value`"
  | .unsupportedOperator clause operator =>
      s!"unsupported operator '{operator}' in clause '{clause}'"
  | .inRequiresSequence field => s!"'in' on field '{field}' requires a sequence value"
  | .notAnObject => "criteria value is not an object"
  | .serialization reason => s!"failed to serialize criteria value: {reason}"

end CriteriaError

/-- An operation of the store. -/
inductive StoreOperation where
  | connect
  | insertOne
  | insertMany
  | updateOne
  | updateMany
  | find
  | findOne
  | count
  | createIndexes
  deriving DecidableEq

namespace StoreOperation

/-- The name of an operation. -/
def name : StoreOperation → String
  | .connect => "connect"
  | .insertOne => "insert_one"
  | .insertMany => "insert_many"
  | .updateOne => "update_one"
  | .updateMany => "update_many"
  | .find => "find"
  | .findOne => "find_one"
  | .count => "count"
  | .createIndexes => "create_indexes"

/-- Every operation. -/
def all : List StoreOperation :=
  [.connect, .insertOne, .insertMany, .updateOne, .updateMany, .find, .findOne, .count,
    .createIndexes]

/-- The operation of a name. -/
def ofName? (name : String) : Option StoreOperation :=
  all.find? fun operation => operation.name == name

end StoreOperation

/-- The kind of a store failure. -/
inductive StoreErrorKind where
  | notFound
  | alreadyExists
  | constraintViolation
  | connectionFailed
  | timeout
  | databaseError
  | serializationError
  | other
  deriving DecidableEq

namespace StoreErrorKind

/-- The name of a kind. -/
def name : StoreErrorKind → String
  | .notFound => "not_found"
  | .alreadyExists => "already_exists"
  | .constraintViolation => "constraint_violation"
  | .connectionFailed => "connection_failed"
  | .timeout => "timeout"
  | .databaseError => "database_error"
  | .serializationError => "serialization_error"
  | .other => "other"

/-- Every kind. -/
def all : List StoreErrorKind :=
  [.notFound, .alreadyExists, .constraintViolation, .connectionFailed, .timeout, .databaseError,
    .serializationError, .other]

/-- The kind of a name. -/
def ofName? (name : String) : Option StoreErrorKind :=
  all.find? fun kind => kind.name == name

end StoreErrorKind

/-- A failure of the store. -/
structure StoreError where
  operation : StoreOperation
  kind : StoreErrorKind
  reason : String
  collection : Option String := none
  entityId : Option String := none
  deriving DecidableEq

namespace StoreError

/-- No document of a collection matched. -/
def notFound (collection : String) : StoreError :=
  ⟨.findOne, .notFound, "no document matched the filter", some collection, none⟩

/-- A document with this identifier is there already. -/
def alreadyExists (collection identifier : String) : StoreError :=
  ⟨.insertOne, .alreadyExists, "duplicate key", some collection, some identifier⟩

/-- The store could not be reached. -/
def connectionFailed (reason : String) : StoreError :=
  ⟨.connect, .connectionFailed, reason, none, none⟩

/-- The store refused the operation. -/
def databaseError (operation : StoreOperation) (reason : String) : StoreError :=
  ⟨operation, .databaseError, reason, none, none⟩

/-- A document could not be written or read. -/
def serializationError (operation : StoreOperation) (reason : String) : StoreError :=
  ⟨operation, .serializationError, reason, none, none⟩

/-- The failure placed in a collection. -/
def inCollection (error : StoreError) (collection : String) : StoreError :=
  { error with collection := some collection }

/-- The failure placed on a record. -/
def onEntity (error : StoreError) (entityId : String) : StoreError :=
  { error with entityId := some entityId }

/-- The failure as one of another operation. -/
def during (error : StoreError) (operation : StoreOperation) : StoreError :=
  { error with operation }

/-- Nothing matched. -/
def isNotFound (error : StoreError) : Bool :=
  error.kind == .notFound

/-- Trying again may succeed. -/
def isRetriable (error : StoreError) : Bool :=
  error.kind == .connectionFailed || error.kind == .timeout

/-- The message of a failure. A record is named only together with its
collection. -/
def message (error : StoreError) : String :=
  let head := s!"Store {error.kind.name} error during {error.operation.name}: {error.reason}"
  match error.collection, error.entityId with
  | some collection, some entityId => head ++ s!" [{collection}: {entityId}]"
  | some collection, none => head ++ s!" [{collection}]"
  | none, _ => head

end StoreError

/-- A failure to turn one record into another. -/
inductive ConversionError where
  | serialize (typeName reason : String)
  | deserialize (typeName reason : String)
  | field (name source target reason : String)
  deriving DecidableEq

namespace ConversionError

/-- The message of an error. -/
def message : ConversionError → String
  | .serialize typeName reason => s!"failed to serialize {typeName}: {reason}"
  | .deserialize typeName reason => s!"failed to deserialize {typeName}: {reason}"
  | .field name source target reason =>
      s!"cannot convert field '{name}' from {source} to {target}: {reason}"

end ConversionError

/-- Any failure of the library. -/
inductive Failure where
  | config (reason : String)
  | criteria (cause : CriteriaError)
  | store (cause : StoreError)
  | conversion (cause : ConversionError)
  | id (cause : IdError)
  | io (reason : String)
  deriving DecidableEq

namespace Failure

/-- The message of a failure. -/
def message : Failure → String
  | .config reason => s!"Configuration error: {reason}"
  | .criteria cause => s!"Invalid criteria: {cause.message}"
  | .store cause => cause.message
  | .conversion cause => s!"Conversion error: {cause.message}"
  | .id cause => s!"Invalid id: {cause.message}"
  | .io reason => s!"I/O error: {reason}"

/-- The kind of a store failure. -/
def storeKind? : Failure → Option StoreErrorKind
  | .store cause => some cause.kind
  | _ => none

/-- A read that matched nothing. -/
def isNotFound (failure : Failure) : Bool :=
  failure.storeKind? == some .notFound

end Failure

end Docket
