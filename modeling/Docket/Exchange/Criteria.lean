import Docket.Exchange.Reading
import Docket.Specimen.Types

/-!
# Criteria by description

Criteria are described by an expression, or by an object that names their form
and its parts. The first form of a fixed order that the object names is the one
that counts. Tagged fields are given one by one, with the type of each, or as
one of the specimen queries.
-/

set_option autoImplicit false

namespace Docket.Exchange

/-- Why a map whose keys are not texts is not written. -/
def unwritableKey : String := "key must be a string"

/-- A field of a tagged query. -/
def queryField (value : Json) : Answer QueryField := do
  let input ← members value
  let name ← text input "name"
  let tag := (text? input "tag").getD ""
  let value := member input "value"
  let made : QueryField ← match text? input "type" with
    | none =>
        pure (if Document.contains input "tag" then .tagged name tag value
          else .untagged name value)
    | some "serialize" => liftM (QueryField.ofWritten name tag (.ok value))
    | some "bad_map" =>
        liftM (QueryField.ofTyped name tag (.error unwritableKey) (.ok (.object [])))
    | some typeName =>
        match Specimen.queryType? typeName with
        | none => throw (.senseless s!"unknown type {typeName}")
        | some type => do
            let value ← typed type.codec value
            liftM (QueryField.ofTyped name tag (type.codec.encode value)
              (type.codec.encode type.codec.blank))
  let retagged := match text? input "with_tag" with
    | none => made
    | some tag => made.withTag tag
  match Document.get? input "zero" with
  | none => return retagged
  | some value => return { retagged with zero := ← typed .boolean value }

/-- The fields of a tagged query. -/
def taggedQuery (spec : Document) : Answer (List QueryField) := do
  match Document.get? spec "struct" with
  | none => (← items spec "fields").mapM queryField
  | some shape =>
      let value := member spec "value"
      match shape with
      | .string "user" => do
          let row ← orRefuse (fun _ => .unreadable) (Row.decode Specimen.userFields value)
          liftM (Specimen.queryFields Specimen.userFields Specimen.userTags row)
      | .string "audit" => do
          let row ← orRefuse (fun _ => .unreadable) (Row.decode Specimen.auditFields value)
          liftM (Specimen.queryFields Specimen.auditFields Specimen.auditTags row)
      | .string "identity" => return QueryField.identity (← identifier value "value")
      | _ => throw (.senseless "struct")

/-- An argument that was written before, or why it was not. -/
def writtenArgument (value : Json) : Answer (Except CriteriaError Json) := do
  let input ← members value
  match Document.get? input "ok" with
  | some value => return .ok value
  | none => return .error (.serialization (← text input "err"))

/-- Criteria from an object with a form and its parts. -/
def criteriaOf (spec : Document) : Answer Criteria := do
  let has := Document.contains spec
  if has "expr" then return .ofExpression (← text spec "expr") (← items spec "args")
  else if has "serialized" then
    return .ofWrittenArguments (← text spec "serialized")
      (← (← items spec "args").mapM writtenArgument)
  else if has "macro" then
    return .ofWrittenArguments (← text spec "macro")
      ((← items spec "args").map fun value => Criteria.argument (.ok value))
  else if has "string" then return .ofExpression (← text spec "string") []
  else if has "object" then return .ofObject (.ok (member spec "object"))
  else if has "document" then return .document (← members (member spec "document"))
  else if has "identity" then
    return .ofIdentity (← identifier (member spec "identity") "identity")
  else if has "all" then return .all
  else if has "unserializable" then
    match ← text spec "unserializable" with
    | "object" => return .ofObject (.error unwritableKey)
    | _ => return .ofWrittenArguments "a = ? AND" [Criteria.argument (.error unwritableKey)]
  else if has "by_ref" then return .tagged (← taggedQuery (← members (member spec "by_ref")))
  else return .tagged (← taggedQuery spec)

/-- Criteria from their specification. -/
def criteria : Json → Answer Criteria
  | .string expression => return .ofExpression expression []
  | .object spec => criteriaOf spec
  | _ => throw (.senseless "criteria")

/-- A field of a tagged query as JSON. -/
def queryFieldJson (field : QueryField) : Json :=
  object
    [ ("name", .string field.name), ("tag", .string field.tag), ("value", field.value),
      ("zero", .boolean field.zero) ]

end Docket.Exchange
