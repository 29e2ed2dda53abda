import Docket.Exchange.Reading

/-!
# Failures by description

A failure can be asked for by its kind and its parts. A failure of the store is
described by how it is made, and by what is added to it afterwards.
-/

set_option autoImplicit false

namespace Docket.Exchange

variable {m : Type → Type} [Monad m] [MonadExceptOf Refusal m]

/-- The operation of the store that a request names. -/
def operation (name : String) : m StoreOperation :=
  orElseRefuse (.senseless s!"unknown operation {name}") (StoreOperation.ofName? name)

/-- An error of the store. -/
def storeError (input : Document) : m StoreError := do
  let made ← match ← text input "ctor" with
    | "new" => do
        let kindName ← text input "kind"
        let kind ← orElseRefuse (.senseless s!"unknown kind {kindName}")
          (StoreErrorKind.ofName? kindName)
        pure ⟨← operation (← text input "operation"), kind, ← text input "message",
          none, none⟩
    | "not_found" => do pure (.notFound (← text input "collection"))
    | "already_exists" => do
        pure (.alreadyExists (← text input "collection") (← text input "identifier"))
    | "connection_failed" => do pure (.connectionFailed (← text input "message"))
    | "database_error" => do
        pure (.databaseError (← operation (← text input "operation"))
          (← text input "message"))
    | "serialization_error" => do
        pure (.serializationError (← operation (← text input "operation"))
          (← text input "message"))
    | other => throw (.senseless s!"unknown ctor {other}")
  (← items input "with").foldlM
    (fun (error : StoreError) (addition : Json) =>
      match addition with
      | .array [.string "collection", .string value] => pure (error.inCollection value)
      | .array [.string "entity", .string value] => pure (error.onEntity value)
      | .array [.string "operation", .string value] => do
          return error.during (← operation value)
      | _ => throw (.senseless "with"))
    made

/-- A failure of any kind. -/
def failure (input : Document) : m Failure := do
  match ← text input "of" with
  | "store" => return .store (← storeError input)
  | "id" =>
      match RecordId.parse (← text input "text") with
      | .error cause => return .id cause
      | .ok _ => throw (.senseless "text")
  | "id_parse" => return .id (.unparsable (← text input "text"))
  | "io" => return .io (← text input "text")
  | "config" => return .config (← text input "text")
  | "placeholder" =>
      return .criteria (.placeholderMismatch (← natural input "placeholders")
        (← natural input "args"))
  | "malformed" => return .criteria (.malformedClause (← text input "text"))
  | "operator" =>
      return .criteria (.unsupportedOperator (← text input "clause") (← text input "operator"))
  | "in" => return .criteria (.inRequiresSequence (← text input "field"))
  | "not_object" => return .criteria .notAnObject
  | "criteria_serialization" => return .criteria (.serialization (← text input "text"))
  | "serialize" => return .conversion (.serialize "T" (← text input "text"))
  | "deserialize" => return .conversion (.deserialize "T" (← text input "text"))
  | "field" =>
      return .conversion (.field (← text input "field") (← text input "from")
        (← text input "to") (← text input "text"))
  | other => throw (.senseless s!"unknown error {other}")

end Docket.Exchange
