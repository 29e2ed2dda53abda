import Docket.Criteria.Operator
import Docket.Logging.Entry
import Docket.RecordId

/-!
# Tagged queries

A query can be given as a list of fields, each with a value and a tag. The tag
is an operator, which may be followed by a comma and the name under which the
field is stored; without one the name in snake case is used. A dash as the whole
tag leaves the field out.

A field with the zero value of its type asks for nothing: it is passed over,
unless its operator begins with `nil`, which asks for null, or with `empty`,
which asks for the value itself. At the end an `id` that asks for something
moves to the primary key, if the primary key is not asked for already.
-/

set_option autoImplicit false

namespace Docket

/-- One field of a query. -/
structure QueryField where
  name : String
  tag : String
  value : Json
  /-- The value is the zero value of its type. -/
  zero : Bool
  deriving DecidableEq

namespace QueryField

/-- The tag that leaves a field out. -/
def skipTag : String := "-"

/-- A field with a tag; it is zero when its value is. -/
def tagged (name tag : String) (value : Json) : QueryField :=
  ⟨name, tag, value, value.isZero⟩

/-- A field that asks for equality. -/
def untagged (name : String) (value : Json) : QueryField :=
  tagged name "" value

/-- The field with another tag. -/
def withTag (field : QueryField) (tag : String) : QueryField :=
  { field with tag }

/-- A field from a value that was written as JSON. A value that could not be
written counts as zero and is reported. -/
def ofWritten (name tag : String) (written : Except String Json) : Logged QueryField :=
  match written with
  | .ok value => .silent (tagged name tag value)
  | .error reason => do
      Logged.report
        { level := .warn, origin := .queryFields
          message := "Query field failed to serialize, treating as zero value"
          values := [("field", .text name), ("error", .text reason)] }
      return tagged name tag .null

/-- A field from a value of a type that has a default. Besides an empty value,
one that is written like the default counts as zero. -/
def ofTyped (name tag : String) (written default : Except String Json) : Logged QueryField := do
  let field ← ofWritten name tag written
  let isDefault := match default with
    | .ok value => value.same field.value
    | .error _ => false
  return { field with zero := field.zero || isDefault }

/-- The operator of a tag and the name behind its first comma. A blank name is
none. -/
def splitTag (tag : String) : String × Option String :=
  match Text.splitOnce ',' tag.toList with
  | some (operator, rename) =>
      let rename := Text.trimmed rename
      (String.ofList (Text.trimmed operator),
        if rename.isEmpty then none else some (String.ofList rename))
  | none => (Text.trim tag, none)

/-- The operator part of a field's tag. -/
def operatorPart (field : QueryField) : String :=
  (splitTag (Text.trim field.tag)).1

/-- The name under which a field is stored. -/
def key (field : QueryField) : String :=
  match (splitTag (Text.trim field.tag)).2 with
  | some rename => rename
  | none => FieldName.snakeCase field.name

/-- The field is left out. -/
def isSkipped (field : QueryField) : Bool :=
  Text.trim field.tag == skipTag

/-- The condition that a field adds to the filter, if it adds one. -/
def condition? (field : QueryField) : Except CriteriaError (Option Json) :=
  if field.isSkipped then .ok none
  else if field.zero then
    if Text.startsWith field.operatorPart "nil" then .ok (some .null)
    else if Text.startsWith field.operatorPart "empty" then .ok (some field.value)
    else .ok none
  else ((FilterOperator.ofTag field.operatorPart).constrain field.key field.value).map some

/-- Adds the conditions of fields to a filter. -/
def addConditions : List QueryField → Document → Except CriteriaError Document
  | [], filter => .ok filter
  | field :: rest, filter => do
      match ← field.condition? with
      | none => addConditions rest filter
      | some condition => addConditions rest (Document.insert filter field.key condition)

/-- Moves what is asked of `id` to the primary key. -/
def targetPrimaryKey (filter : Document) : Document :=
  if Document.contains filter FieldName.primaryKey then filter
  else
    match Document.get? filter FieldName.identifier with
    | none => filter
    | some value =>
        if value.isNull then filter
        else
          Document.insert (Document.erase filter FieldName.identifier) FieldName.primaryKey value

/-- The filter of a list of fields. -/
def translate (fields : List QueryField) : Except CriteriaError Document :=
  (addConditions fields Document.live).map targetPrimaryKey

/-- The query for one identifier; the unassigned one asks for nothing. -/
def identity (id : RecordId) : List QueryField :=
  [tagged FieldName.identifier "eq,_id" (if id.isUnassigned then .null else .string id.text)]

end QueryField

end Docket
