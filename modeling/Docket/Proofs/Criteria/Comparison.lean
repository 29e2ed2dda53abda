import Docket.Criteria.Basic
import Docket.Proofs.Criteria.Printed
import Docket.Proofs.Store.Matching

/-!
# Comparisons

A comparison is a clause together with the argument that it takes, if it takes
one. Groups of comparisons are printed with a question mark for each argument,
and their arguments are listed from left to right. So a pair of a printed
expression and a fitting list of arguments is the same as groups of comparisons.

What is printed is built to a filter that has, for each group, the conditions of
its comparisons written over one another (`build_text`). This needs nothing of
the values, but that membership is asked of an array.
-/

set_option autoImplicit false

namespace Docket

/-- What a field is compared with: an argument, or a literal. -/
inductive Comparand where
  | argument (value : Json)
  | literal (text : String)

namespace Comparand

/-- How a comparand stands in an expression. -/
def operand : Comparand → Operand
  | .argument _ => .placeholder
  | .literal text => .literal text

/-- The value of a comparand. A literal is a string. -/
def value : Comparand → Json
  | .argument value => value
  | .literal text => .string text

/-- The argument of a comparand, if it is one. -/
def arguments : Comparand → List Json
  | .argument value => [value]
  | .literal _ => []

theorem length_arguments (comparand : Comparand) :
    comparand.arguments.length = if comparand.operand = .placeholder then 1 else 0 := by
  cases comparand <;> rfl

end Comparand

/-- A clause together with the argument that it takes. -/
structure Comparison where
  field : String
  operator : FilterOperator
  comparand : Comparand

namespace Comparison

/-- The clause of a comparison. -/
def clause (comparison : Comparison) : Clause :=
  ⟨comparison.field, comparison.operator, comparison.comparand.operand⟩

/-- The value that the field is compared with. -/
def value (comparison : Comparison) : Json :=
  comparison.comparand.value

/-- The condition that a comparison puts into a filter. -/
def condition (comparison : Comparison) : Json :=
  match comparison.operator with
  | .equal => comparison.value
  | .notEqual => .constrained OperatorName.notEqual comparison.value
  | .like => .constrained OperatorName.pattern comparison.value
  | .oneOf => .constrained OperatorName.oneOf comparison.value

/-- The member that a comparison puts into a filter. -/
def member (keepIdentifier : Bool) (comparison : Comparison) : String × Json :=
  (Expression.storedField keepIdentifier comparison.field, comparison.condition)

/-- Membership is asked of an array. -/
def Fits (comparison : Comparison) : Prop :=
  comparison.operator = .oneOf → ∃ items, comparison.value = .array items

theorem Fits.constrain {comparison : Comparison} (fits : comparison.Fits) (field : String) :
    comparison.operator.constrain field comparison.value = .ok comparison.condition := by
  unfold condition
  cases operator : comparison.operator with
  | oneOf =>
      obtain ⟨items, equal⟩ := fits operator
      rw [equal]
      rfl
  | _ => rfl

/-! ## Groups of comparisons -/

/-- The clauses of groups of comparisons. -/
def clauses (groups : List (List Comparison)) : List (List Clause) :=
  groups.map fun group => group.map clause

/-- The printed form of groups of comparisons. -/
def text (groups : List (List Comparison)) : String :=
  String.ofList (Expression.text (clauses groups))

/-- The arguments of groups of comparisons, from left to right. -/
def arguments (groups : List (List Comparison)) : List Json :=
  groups.flatten.flatMap fun comparison => comparison.comparand.arguments

theorem arguments_cons (group : List Comparison) (others : List (List Comparison)) :
    arguments (group :: others) =
      group.flatMap (fun comparison => comparison.comparand.arguments) ++ arguments others := by
  rw [arguments, List.flatten_cons, List.flatMap_append]
  rfl

/-- Some comparison is with the primary key under its own name, so that the name
`id` is a field like any other. -/
def keepsIdentifier (groups : List (List Comparison)) : Bool :=
  Expression.namesPrimaryKey (clauses groups)

/-- The filter of one group: the last condition on a field stands. -/
def groupFilter (keepIdentifier : Bool) (group : List Comparison) : Document :=
  Document.extend [] (group.map (member keepIdentifier))

/-- The filter of groups of comparisons. -/
def filter (groups : List (List Comparison)) : Document :=
  Expression.combine (groups.map (groupFilter (keepsIdentifier groups)))

/-- Groups that can be printed: there are some, and each has printable clauses. -/
structure Printable (groups : List (List Comparison)) : Prop where
  nonempty : groups ≠ []
  groupsNonempty : ∀ group ∈ groups, group ≠ []
  clauses : ∀ group ∈ groups, ∀ comparison ∈ group, comparison.clause.Printable

theorem Printable.clauses_ne_nil {groups : List (List Comparison)} (printable : Printable groups) :
    Comparison.clauses groups ≠ [] := by
  simpa [Comparison.clauses] using printable.nonempty

theorem Printable.ne_nil_of_mem_clauses {groups : List (List Comparison)}
    (printable : Printable groups) : ∀ group ∈ Comparison.clauses groups, group ≠ [] := by
  intro group isGroup
  obtain ⟨comparisons, isComparisons, rfl⟩ := List.mem_map.mp isGroup
  simpa using printable.groupsNonempty comparisons isComparisons

theorem Printable.printable_of_mem_clauses {groups : List (List Comparison)}
    (printable : Printable groups) :
    ∀ group ∈ Comparison.clauses groups, ∀ clause ∈ group, clause.Printable := by
  intro group isGroup clause isClause
  obtain ⟨comparisons, isComparisons, rfl⟩ := List.mem_map.mp isGroup
  obtain ⟨comparison, isComparison, rfl⟩ := List.mem_map.mp isClause
  exact printable.clauses comparisons isComparisons comparison isComparison

/-- The printed form has as many question marks as there are arguments. -/
theorem Printable.placeholderCount_text {groups : List (List Comparison)}
    (printable : Printable groups) :
    Expression.placeholderCount (text groups) = (arguments groups).length := by
  have flattened : (Comparison.clauses groups).flatten = groups.flatten.map clause :=
    List.map_flatten.symm
  rw [text, Expression.placeholderCount_text printable.printable_of_mem_clauses, flattened,
    arguments]
  induction groups.flatten with
  | nil => rfl
  | cons comparison rest ih =>
      rw [List.map_cons, List.countP_cons, List.flatMap_cons, List.length_append, ih,
        comparison.comparand.length_arguments, Nat.add_comm]
      by_cases takes : comparison.comparand.operand = .placeholder <;> simp [clause, takes]

/-! ## All fitting arguments -/

/-- Clauses with a value for each question mark are comparisons. -/
theorem exists_group (group : List Clause) {values : List Json}
    (fitting : values.length = group.countP fun clause => clause.operand = .placeholder) :
    ∃ comparisons : List Comparison, comparisons.map clause = group ∧
      comparisons.flatMap (fun comparison => comparison.comparand.arguments) = values := by
  induction group generalizing values with
  | nil => exact ⟨[], rfl, (List.eq_nil_of_length_eq_zero fitting).symm⟩
  | cons first rest ih =>
      rcases first with ⟨field, operator, _ | text⟩
      · cases values with
        | nil => simp at fitting
        | cons value others =>
            have othersFit : others.length =
                rest.countP fun clause => clause.operand = .placeholder := by
              simpa using fitting
            obtain ⟨comparisons, clauses, arguments⟩ := ih othersFit
            refine ⟨⟨field, operator, .argument value⟩ :: comparisons, ?_, ?_⟩
            · rw [List.map_cons, clauses]
              rfl
            · rw [List.flatMap_cons, arguments]
              rfl
      · have valuesFit : values.length =
            rest.countP fun clause => clause.operand = .placeholder := by
          simpa using fitting
        obtain ⟨comparisons, clauses, arguments⟩ := ih valuesFit
        refine ⟨⟨field, operator, .literal text⟩ :: comparisons, ?_, ?_⟩
        · rw [List.map_cons, clauses]
          rfl
        · rw [List.flatMap_cons, arguments]
          rfl

/-- **Nothing is lost by speaking of comparisons**: groups of clauses with a value
for each question mark are the clauses and the arguments of groups of comparisons. -/
theorem exists_groups (groups : List (List Clause)) {values : List Json}
    (fitting : values.length =
      groups.flatten.countP fun clause => clause.operand = .placeholder) :
    ∃ comparisons : List (List Comparison),
      clauses comparisons = groups ∧ arguments comparisons = values := by
  induction groups generalizing values with
  | nil => exact ⟨[], rfl, (List.eq_nil_of_length_eq_zero fitting).symm⟩
  | cons group rest ih =>
      rw [List.flatten_cons, List.countP_append] at fitting
      have taken :
          (values.take (group.countP fun clause => clause.operand = .placeholder)).length =
          group.countP fun clause => clause.operand = .placeholder := by
        rw [List.length_take, fitting]
        omega
      have left : (values.drop (group.countP fun clause => clause.operand = .placeholder)).length =
          rest.flatten.countP fun clause => clause.operand = .placeholder := by
        rw [List.length_drop, fitting]
        omega
      obtain ⟨here, hereClauses, hereArguments⟩ := exists_group group taken
      obtain ⟨behind, behindClauses, behindArguments⟩ := ih left
      refine ⟨here :: behind, ?_, ?_⟩
      · rw [← behindClauses, ← hereClauses]
        rfl
      · rw [arguments_cons, hereArguments, behindArguments, List.take_append_drop]

/-! ## Building the filter -/

theorem takeValue_clause (counts : Expression.Counts) (comparison : Comparison)
    (rest : List Json) :
    Expression.takeValue counts comparison.clause.operand
        (comparison.comparand.arguments ++ rest) = .ok (comparison.value, rest) := by
  unfold clause value
  cases comparison.comparand <;> rfl

/-- Adding the clauses of a group takes its arguments and writes its conditions. -/
theorem addClauses_eq (counts : Expression.Counts) (keepIdentifier : Bool)
    {group : List Comparison} (fits : ∀ comparison ∈ group, comparison.Fits)
    (base : Document) (rest : List Json) :
    Expression.addClauses counts keepIdentifier (group.map clause) base
        (group.flatMap (fun comparison => comparison.comparand.arguments) ++ rest) =
      .ok (Document.extend base (group.map (member keepIdentifier)), rest) := by
  induction group generalizing base with
  | nil => rfl
  | cons comparison others ih =>
      have here := (fits comparison List.mem_cons_self).constrain
        (Expression.storedField keepIdentifier comparison.field)
      have behind := ih (fun other isOther => fits other (List.mem_cons_of_mem _ isOther))
        (Document.insert base (Expression.storedField keepIdentifier comparison.field)
          comparison.condition)
      rw [List.map_cons, List.flatMap_cons, List.append_assoc, Expression.addClauses,
        takeValue_clause]
      change ((comparison.operator.constrain
        (Expression.storedField keepIdentifier comparison.field) comparison.value).bind _) = _
      rw [here]
      exact behind

/-- Groups take their own arguments, and those behind them are left. -/
theorem groupFilters_eq (counts : Expression.Counts) (keepIdentifier : Bool)
    {groups : List (List Comparison)}
    (fits : ∀ group ∈ groups, ∀ comparison ∈ group, comparison.Fits) (rest : List Json) :
    Expression.groupFilters counts keepIdentifier (clauses groups) (arguments groups ++ rest) =
      .ok (groups.map (groupFilter keepIdentifier)) := by
  induction groups with
  | nil => rfl
  | cons group others ih =>
      have here := addClauses_eq counts keepIdentifier (fits group List.mem_cons_self) []
        (arguments others ++ rest)
      have behind := ih fun other isOther => fits other (List.mem_cons_of_mem _ isOther)
      rw [arguments_cons, clauses, List.map_cons, Expression.groupFilters, List.append_assoc, here]
      change ((Expression.groupFilters counts keepIdentifier (clauses others)
        (arguments others ++ rest)).bind _) = _
      rw [behind]
      rfl

/-- A printed expression is built from the filters of its groups. -/
theorem build_eq_groupFilters {groups : List (List Comparison)} (printable : Printable groups) :
    (Criteria.ofExpression (text groups) (arguments groups)).build =
      (Expression.groupFilters
        ⟨Expression.placeholderCount (text groups), (arguments groups).length⟩
        (keepsIdentifier groups) (clauses groups) (arguments groups)).map Expression.combine := by
  have parsed : Expression.parse (text groups).toList = .ok (clauses groups) := by
    rw [text, String.toList_ofList]
    exact Expression.parse_text printable.clauses_ne_nil printable.ne_nil_of_mem_clauses
      printable.printable_of_mem_clauses
  have notBlank := Expression.not_blank_of_parse parsed
  have counted : ¬ Expression.placeholderCount (text groups) ≠ (arguments groups).length :=
    not_not_intro printable.placeholderCount_text
  rw [Criteria.ofExpression, if_neg counted, Criteria.build, Expression.translate, parsed]
  simp only [notBlank]
  change ((Expression.groupFilters _ (keepsIdentifier groups) _ _).bind _) = _
  cases Expression.groupFilters _ (keepsIdentifier groups) (clauses groups) (arguments groups) <;>
    rfl

/-- **A printed expression and its arguments are built to the filter of the
comparisons.** -/
theorem build_text {groups : List (List Comparison)} (printable : Printable groups)
    (fits : ∀ group ∈ groups, ∀ comparison ∈ group, comparison.Fits) :
    (Criteria.ofExpression (text groups) (arguments groups)).build = .ok (filter groups) := by
  have groupwise := groupFilters_eq ⟨Expression.placeholderCount (text groups),
    (arguments groups).length⟩ (keepsIdentifier groups) fits []
  rw [List.append_nil] at groupwise
  rw [build_eq_groupFilters printable, groupwise]
  rfl

end Comparison

end Docket
