import Docket.Codes

/-!
# Refusals

A request can be answered by what went wrong instead of a result. A refusal is
written as an object whose member `error` names its kind; a failure of the
library also has its message and what it is about, and a failure of the store
the operation, the collection and the record.

A request that holds a value of the wrong type is refused as unreadable, and one
that is no request at all as senseless.
-/

set_option autoImplicit false

namespace Docket.Exchange

/-- What an answer names instead of a result. -/
inductive Refusal where
  | failure (cause : Failure)
  | code (cause : CodeError)
  | coercion (reason : String)
  | configuration
  /-- A value does not have its type. -/
  | unreadable
  /-- A result cannot be written. -/
  | unwritable
  /-- A part of the request makes no sense. -/
  | senseless (part : String)

/-- An object with members in any order. -/
def object (members : List (String × Json)) : Json :=
  .object (Document.extend [] members)

/-- A text, or null. -/
def optionalText : Option String → Json
  | some value => .string value
  | none => .null

/-- A number, or null. -/
def optionalNumber : Option Int → Json
  | some value => .ofInt value
  | none => .null

/-- A list of texts. -/
def texts (values : List String) : Json :=
  .array (values.map Json.string)

namespace Refusal

/-- The kind of an error in criteria. -/
def criteriaKind : CriteriaError → String
  | .placeholderMismatch _ _ => "PlaceholderMismatch"
  | .malformedClause _ => "MalformedClause"
  | .unsupportedOperator _ _ => "UnsupportedOperator"
  | .inRequiresSequence _ => "InRequiresSequence"
  | .notAnObject => "NotAnObject"
  | .serialization _ => "Serialization"

/-- The members of an error with a message. -/
def withMessage (kind message : String) : List (String × Json) :=
  [("error", .string kind), ("message", .string message)]

/-- The members by which a failure is answered. -/
def ofFailure : Failure → List (String × Json)
  | .config _ => [("error", .string "Config")]
  | .io _ => [("error", .string "Io")]
  | .criteria cause => withMessage ("Criteria." ++ criteriaKind cause) cause.message
  | .store cause =>
      withMessage ("Store." ++ cause.kind.name) cause.reason ++
        [ ("operation", .string cause.operation.name),
          ("collection", optionalText cause.collection),
          ("entity_id", optionalText cause.entityId) ]
  | .conversion (.serialize typeName reason) =>
      ("type", .string typeName) :: withMessage "Conversion.Serialize" reason
  | .conversion (.deserialize typeName reason) =>
      ("type", .string typeName) :: withMessage "Conversion.Deserialize" reason
  | .conversion (.field name source target reason) =>
      withMessage "Conversion.Field" reason ++
        [("field", .string name), ("from", .string source), ("to", .string target)]
  | .id (.invalidLength expected actual) =>
      withMessage "Id.InvalidLength" (IdError.invalidLength expected actual).message
  | .id (.invalidCharacter text) =>
      withMessage "Id.InvalidCharacter" (IdError.invalidCharacter text).message
  | .id (.unparsable reason) => withMessage "Id.Parse" (IdError.unparsable reason).message

/-- The members by which a refusal is answered. -/
def members : Refusal → List (String × Json)
  | .failure cause => ofFailure cause
  | .code (.reserved number) => withMessage "Code.Reserved" (CodeError.reserved number).message
  | .code (.duplicate number) =>
      withMessage "Code.Duplicate" (CodeError.duplicate number).message
  | .coercion reason => withMessage "Coercion" reason
  | .configuration => [("error", .string "Config")]
  | .unreadable => [("error", .string "Deserialize")]
  | .unwritable => [("error", .string "Serialize")]
  | .senseless part => withMessage "BadInput" part

end Refusal

end Docket.Exchange
