import Docket.Json.Printer
import Docket.Store.Basic
import Docket.Time.Rfc3339

/-!
# The order of documents

A sort compares field by field. Missing fields and nulls come first, numbers are
compared as doubles, two texts that are both timestamps as instants and any
other two by their characters, and truth values with false first. Values of
different kinds, arrays and objects are compared by their JSON text.

Documents are sorted by insertion: each goes behind the last one that it does
not precede. Documents that compare equal therefore keep their order.
-/

set_option autoImplicit false

namespace Docket.Sorting

/-- The order of two values that are there. -/
def compareValues (left right : Json) : Ordering :=
  match left, right with
  | .number first, .number second => compare first.rank second.rank
  | .string first, .string second =>
      match Rfc3339.parse? first, Rfc3339.parse? second with
      | some earlier, some later => earlier.compare later
      | _, _ => compare first second
  | .boolean first, .boolean second => compare first second
  | first, second => compare first.text second.text

/-- The value of a field, if it is there and not null. -/
def present (value : Option Json) : Option Json :=
  value.filter fun value => !value.isNull

/-- The order of two fields. -/
def compareFields (left right : Option Json) : Ordering :=
  match present left, present right with
  | none, none => .eq
  | none, some _ => .lt
  | some _, none => .gt
  | some first, some second => compareValues first second

/-- The order of two documents by a list of fields. -/
def compareDocuments (left right : Document) : List (String × OrderDirection) → Ordering
  | [] => .eq
  | (field, direction) :: rest =>
      (direction.apply
        (compareFields (Document.get? left field) (Document.get? right field))).then
        (compareDocuments left right rest)

/-- Puts a document into a list that is kept last first, before those that it
does not precede. -/
def place (sort : List (String × OrderDirection)) (document : Document) :
    List Document → List Document
  | [] => [document]
  | last :: earlier =>
      if compareDocuments document last sort = .lt then last :: place sort document earlier
      else document :: last :: earlier

/-- Documents in the order of a list of fields. -/
def sorted (sort : List (String × OrderDirection)) (documents : List Document) : List Document :=
  (documents.foldl (fun placed document => place sort document placed) []).reverse

end Docket.Sorting
