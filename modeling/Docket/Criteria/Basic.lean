import Docket.Criteria.Expression
import Docket.Criteria.QueryField

/-!
# Criteria

Criteria say which records are meant, in one of four forms: all of them, a filter
document, a list of tagged fields, or an expression with arguments. They are
always made without failing; a fault found while making them is kept and comes
out when the filter is built.
-/

set_option autoImplicit false

namespace Docket

/-- Which records are meant. -/
inductive Criteria where
  | all
  | document (filter : Document)
  | tagged (fields : List QueryField)
  | expression (text : String) (arguments : List Json)
  /-- Criteria that were faulty from the start. -/
  | faulty (error : CriteriaError)

namespace Criteria

/-- Criteria from an expression. The number of arguments must be the number of
question marks in it. -/
def ofExpression (text : String) (arguments : List Json) : Criteria :=
  let placeholders := Expression.placeholderCount text
  if placeholders ≠ arguments.length then
    .faulty (.placeholderMismatch placeholders arguments.length)
  else .expression text arguments

/-- Criteria from an expression whose arguments were written as JSON before; the
first that could not be written is the fault. -/
def ofWrittenArguments (text : String) (arguments : List (Except CriteriaError Json)) : Criteria :=
  match arguments.mapM id with
  | .ok values => ofExpression text values
  | .error error => .faulty error

/-- An argument as it was written. -/
def argument (written : Except String Json) : Except CriteriaError Json :=
  written.mapError .serialization

/-- Criteria from an object, each member asking for equality. -/
def ofObject (written : Except String Json) : Criteria :=
  match written with
  | .ok (.object members) => .tagged (members.map fun member => .untagged member.1 member.2)
  | .ok _ => .faulty .notAnObject
  | .error reason => .faulty (.serialization reason)

/-- Criteria for one identifier. -/
def ofIdentity (id : RecordId) : Criteria :=
  .tagged (QueryField.identity id)

/-- The fault that was found while criteria were made. -/
def fault? : Criteria → Option CriteriaError
  | .faulty error => some error
  | _ => none

/-- The filter of criteria. A document is written over the live filter. -/
def build : Criteria → Except CriteriaError Document
  | .all => .ok Document.live
  | .document filter => .ok (Document.extend Document.live filter)
  | .tagged fields => QueryField.translate fields
  | .expression text arguments => Expression.translate text arguments
  | .faulty error => .error error

end Criteria

end Docket
