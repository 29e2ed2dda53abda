import Docket.Json.Basic
import Docket.Text.LetterCase

/-!
# The vocabulary of filters and updates

Records keep their identifier and their times under reserved names, and filters
and updates use a small set of operators. A record whose deletion time is null
or missing is live; every filter starts from the one that matches live records.

Names are stored in snake case: a name without a small letter is lowered as it
is, and any other name gets an underscore before each ASCII capital but the
first character and is then lowered.
-/

set_option autoImplicit false

namespace Docket

namespace FieldName

/-- The name under which a stored record has its identifier. -/
def primaryKey : String := "_id"

/-- The name of the identifier outside the store. -/
def identifier : String := "id"

/-- The time of creation; reads are sorted by it. -/
def createdAt : String := "created_at"

/-- The time of the last update. -/
def updatedAt : String := "updated_at"

/-- The time of deletion. -/
def deletedAt : String := "deleted_at"

/-- A name in snake case. -/
def snakeCase (name : String) : String :=
  if Text.uppercase name = name then Text.lowercase name
  else Text.lowercase (String.ofList (separated name.toList))
where
  /-- An underscore before each of these characters that is a capital. -/
  marked : List Char → List Char
    | [] => []
    | character :: rest =>
        if Text.isAsciiCapital character then '_' :: character :: marked rest
        else character :: marked rest
  /-- An underscore before each capital but the first character. -/
  separated : List Char → List Char
    | [] => []
    | character :: rest => character :: marked rest

end FieldName

namespace OperatorName

/-- Differs from the operand. -/
def notEqual : String := "$ne"

/-- Equals the operand. -/
def equal : String := "$eq"

/-- Matches the operand as a pattern. -/
def pattern : String := "$regex"

/-- Is one of the operand's items. -/
def oneOf : String := "$in"

/-- One of the operand's filters matches. -/
def anyOf : String := "$or"

/-- Writes the operand's members. -/
def set : String := "$set"

end OperatorName

namespace Document

/-- The filter that matches live records. -/
def live : Document :=
  single FieldName.deletedAt .null

/-- The update that writes fields. -/
def setting (fields : Document) : Document :=
  single OperatorName.set (.object fields)

end Document

/-- A value constrained by one operator. -/
def Json.constrained (operator : String) (value : Json) : Json :=
  .object (Document.single operator value)

end Docket
