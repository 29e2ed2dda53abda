import Docket.Criteria.Operator

/-!
# Expressions

An expression is a list of groups joined by OR, a group is a list of clauses
joined by AND, and a clause is three words: a field, an operator and a value.
There are no parentheses. The value is a literal, which is always a string, or a
question mark, which takes the next argument.

Groups are cut first, then clauses, so AND binds tighter. A single group is
merged into the live filter; several become the branches of a disjunction. In a
group the last clause on a field decides. The field `id` means the primary key,
unless some clause of the expression names the primary key itself.
-/

set_option autoImplicit false

namespace Docket

/-- The value of a clause. -/
inductive Operand where
  | placeholder
  | literal (text : String)
  deriving DecidableEq

/-- A field compared with a value. -/
structure Clause where
  field : String
  operator : FilterOperator
  operand : Operand
  deriving DecidableEq

namespace Operand

/-- The word of a placeholder. -/
def placeholderWord : List Char := ['?']

/-- The operand of a word. -/
def ofWord (word : List Char) : Operand :=
  if word = placeholderWord then .placeholder else .literal (String.ofList word)

end Operand

namespace Clause

/-- The clause of a text that has exactly three words. -/
def parse (text : List Char) : Except CriteriaError Clause :=
  match Text.words text with
  | [field, operator, value] =>
      match FilterOperator.ofToken? (String.ofList operator) with
      | some operator => .ok ⟨String.ofList field, operator, .ofWord value⟩
      | none =>
          .error (.unsupportedOperator (String.ofList (Text.trimmed text))
            (String.ofList operator))
  | _ => .error (.malformedClause (String.ofList (Text.trimmed text)))

end Clause

namespace Expression

/-- The separator of groups. -/
def orSeparator : List Char := [' ', 'O', 'R', ' ']

/-- The separator of clauses. -/
def andSeparator : List Char := [' ', 'A', 'N', 'D', ' ']

/-- The clauses of a group. -/
def parseGroup (text : List Char) : Except CriteriaError (List Clause) :=
  (Text.splitOn andSeparator text).mapM Clause.parse

/-- The groups of an expression. -/
def parse (text : List Char) : Except CriteriaError (List (List Clause)) :=
  (Text.splitOn orSeparator text).mapM parseGroup

/-- The number of question marks anywhere in a text. -/
def placeholderCount (text : String) : Nat :=
  text.toList.count '?'

/-- Some clause names the primary key. -/
def namesPrimaryKey (groups : List (List Clause)) : Bool :=
  groups.any fun group => group.any fun clause => clause.field == FieldName.primaryKey

/-- The name under which a clause's field is stored. -/
def storedField (keepIdentifier : Bool) (field : String) : String :=
  if field = FieldName.identifier ∧ keepIdentifier = false then FieldName.primaryKey else field

/-- What arguments ran out of: the counts that the error names. -/
structure Counts where
  placeholders : Nat
  arguments : Nat

/-- Takes the value of an operand from the arguments that are left. -/
def takeValue (counts : Counts) (operand : Operand) (arguments : List Json) :
    Except CriteriaError (Json × List Json) :=
  match operand, arguments with
  | .literal text, arguments => .ok (.string text, arguments)
  | .placeholder, value :: rest => .ok (value, rest)
  | .placeholder, [] => .error (.placeholderMismatch counts.placeholders counts.arguments)

/-- Adds clauses to a group's filter and hands on the arguments that are left. -/
def addClauses (counts : Counts) (keepIdentifier : Bool) :
    List Clause → Document → List Json → Except CriteriaError (Document × List Json)
  | [], filter, arguments => .ok (filter, arguments)
  | clause :: rest, filter, arguments => do
      let (value, arguments) ← takeValue counts clause.operand arguments
      let field := storedField keepIdentifier clause.field
      let condition ← clause.operator.constrain field value
      addClauses counts keepIdentifier rest (Document.insert filter field condition) arguments

/-- The filters of groups, each from the arguments that the ones before it left. -/
def groupFilters (counts : Counts) (keepIdentifier : Bool) :
    List (List Clause) → List Json → Except CriteriaError (List Document)
  | [], _ => .ok []
  | group :: rest, arguments => do
      let (filter, arguments) ← addClauses counts keepIdentifier group [] arguments
      let filters ← groupFilters counts keepIdentifier rest arguments
      return filter :: filters

/-- The filter of groups: one group is merged, several become a disjunction. -/
def combine (filters : List Document) : Document :=
  match filters with
  | [filter] => Document.extend Document.live filter
  | filters => Document.insert Document.live OperatorName.anyOf (.array (filters.map Json.object))

/-- The filter of an expression and its arguments. A blank expression matches
every live record. -/
def translate (text : String) (arguments : List Json) : Except CriteriaError Document := do
  if (Text.trimmed text.toList).isEmpty then
    return Document.live
  let groups ← parse text.toList
  let counts : Counts := ⟨placeholderCount text, arguments.length⟩
  let filters ← groupFilters counts (namesPrimaryKey groups) groups arguments
  return combine filters

end Expression

end Docket
