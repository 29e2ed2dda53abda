import Docket.Pattern.Parser
import Docket.Store.Basic
import Docket.Text.Cut
import Docket.Vocabulary

/-!
# Filters

A document matches a filter if every member of the filter holds of it. A member
is a disjunction of filters, or asks something of one field: to equal a value,
or to satisfy each operator of an object whose names all begin with a dollar
sign. Null equals a missing field, and numbers are equal when they are the same
double; values inside arrays and objects are compared as they are.

Members are looked at in the order of their names, and the first one that does
not hold decides. So a filter with a fault may match nothing without failing,
and what fails is always the read, whichever operation it is part of.
-/

set_option autoImplicit false

namespace Docket.Filter

/-- Values are equal to a filter: numbers by their double, all else as it is. -/
def valuesEqual (left right : Json) : Bool :=
  match left, right with
  | .number first, .number second => first.rank == second.rank
  | first, second => Json.same first second

/-- A field equals a value. -/
def fieldEquals (actual : Option Json) (expected : Json) : Bool :=
  match actual with
  | none => expected.isNull
  | some value => valuesEqual value expected

/-- An object that is a list of operators. -/
def isOperatorList (condition : Json) : Bool :=
  match condition with
  | .object members => !members.isEmpty && members.all fun member => Text.startsWith member.1 "$"
  | _ => false

/-- The failure of a faulty filter. -/
def fault (reason : String) : StoreError :=
  .databaseError .find reason

/-- A field matches a pattern. Only text does. -/
def matchesPattern (actual : Option Json) (operand : Json) : Except StoreError Bool :=
  match operand with
  | .string text =>
      match Pattern.parse text with
      | .error reason => .error (fault ("invalid $regex: " ++ reason.report text))
      | .ok pattern => .ok ((actual.bind Json.string?).any pattern.isMatch)
  | _ => .error (fault "$regex needs a string")

/-- One operator holds of a field. -/
def operatorHolds (actual : Option Json) (operator : String) (operand : Json) :
    Except StoreError Bool :=
  if operator = OperatorName.notEqual then .ok (!fieldEquals actual operand)
  else if operator = OperatorName.equal then .ok (fieldEquals actual operand)
  else if operator = OperatorName.oneOf then
    match operand with
    | .array candidates => .ok (candidates.any (fieldEquals actual))
    | _ => .error (fault "$in needs an array")
  else if operator = OperatorName.pattern then matchesPattern actual operand
  else .error (fault s!"unsupported filter operator '{operator}'")

/-- All operators of a list hold of a field. -/
def operatorsHold (actual : Option Json) : List (String × Json) → Except StoreError Bool
  | [] => .ok true
  | (operator, operand) :: rest => do
      if ← operatorHolds actual operator operand then operatorsHold actual rest else return false

/-- A condition holds of a field. -/
def conditionHolds (actual : Option Json) (condition : Json) : Except StoreError Bool :=
  match condition with
  | .object members =>
      if isOperatorList (.object members) then operatorsHold actual members
      else .ok (fieldEquals actual (.object members))
  | value => .ok (fieldEquals actual value)

mutual

/-- A document matches a filter. -/
def holds (document : Document) : List (String × Json) → Except StoreError Bool
  | [] => .ok true
  | (name, condition) :: rest => do
      let here ←
        if name = OperatorName.anyOf then anyBranchHolds document condition
        else conditionHolds (Document.get? document name) condition
      if here then holds document rest else return false

/-- A document matches one branch of a disjunction. -/
def anyBranchHolds (document : Document) : Json → Except StoreError Bool
  | .array branches => someHolds document branches
  | _ => .error (fault "$or needs an array")

/-- A document matches one filter of a list. -/
def someHolds (document : Document) : List Json → Except StoreError Bool
  | [] => .ok false
  | branch :: rest => do
      if ← branchHolds document branch then return true else someHolds document rest

/-- A document matches the filter that a value is. -/
def branchHolds (document : Document) : Json → Except StoreError Bool
  | .object members => holds document members
  | _ => .error (fault "$or branch must be a document")

end

/-- The documents of a list that match a filter. -/
def select (filter : Document) : List Document → Except StoreError (List Document)
  | [] => .ok []
  | document :: rest => do
      let found ← holds document filter
      let others ← select filter rest
      return if found then document :: others else others

end Docket.Filter
