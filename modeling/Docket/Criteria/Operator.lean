import Docket.Failure
import Docket.Vocabulary
import Docket.Text.Blank

/-!
# Filter operators

A clause compares a field by one of four operators. Expressions write them
exactly; tags are more lenient, they may have blanks around them and mean
equality when they mean nothing else.
-/

set_option autoImplicit false

namespace Docket

/-- How a clause compares a field with a value. -/
inductive FilterOperator where
  | equal
  | notEqual
  | like
  | oneOf
  deriving DecidableEq

namespace FilterOperator

/-- The token of an operator. -/
def token : FilterOperator → String
  | .equal => "="
  | .notEqual => "!="
  | .like => "like"
  | .oneOf => "in"

/-- The operator of an expression's token. -/
def ofToken? (token : String) : Option FilterOperator :=
  if token = "=" then some .equal
  else if token = "!=" then some .notEqual
  else if token = "like" then some .like
  else if token = "in" then some .oneOf
  else none

/-- The operator of a tag. -/
def ofTag (tag : String) : FilterOperator :=
  let word := Text.trim tag
  if word = "ne" ∨ word = "!=" then .notEqual
  else if word = "like" then .like
  else if word = "in" then .oneOf
  else .equal

theorem ofToken?_token (operator : FilterOperator) : ofToken? operator.token = some operator := by
  cases operator <;> decide

/-- The condition that a filter has for a field. Membership needs an array. -/
def constrain (operator : FilterOperator) (field : String) (value : Json) :
    Except CriteriaError Json :=
  match operator with
  | .equal => .ok value
  | .notEqual => .ok (.constrained OperatorName.notEqual value)
  | .like => .ok (.constrained OperatorName.pattern value)
  | .oneOf =>
      match value with
      | .array items => .ok (.constrained OperatorName.oneOf (.array items))
      | _ => .error (.inRequiresSequence field)

end FilterOperator

end Docket
