import Docket.Proofs.Criteria.Meaning
import Docket.Proofs.Criteria.Tagged
import Docket.Proofs.Json.Sameness

/-!
# Asking for equality

To ask that one field equals a value, an expression compares it with an
argument, and a tagged query has one field that means equality. Both write the
value into the filter as it is, under the same name, so both build the same
filter.

The store reads that condition again. An object whose names all begin with a
dollar sign is read as a list of operators, and such a value is never compared
with the field. For every other value the filter accepts the live documents whose
field equals the value, and for no list of operators does it do so
(`equality_accepts_iff`): if the list holds of itself, it can only say what the
value is not, and then an array around it is a value that it holds of; and if it
does not hold of itself, the filter rejects the value that was asked for
(`exists_misread`).
-/

set_option autoImplicit false

namespace Docket

namespace Filter

/-! ## Lists of operators -/

theorem fieldEquals_object (members : Document) (expected : Json) :
    fieldEquals (some (.object members)) expected = Json.same (.object members) expected := by
  cases expected <;> rfl

theorem fieldEquals_array (items : List Json) (expected : Json) :
    fieldEquals (some (.array items)) expected = Json.same (.array items) expected := by
  cases expected <;> rfl

theorem same_eq_false_of_extent_ne {left right : Json} (differ : left.extent ≠ right.extent) :
    Json.same left right = false :=
  Bool.eq_false_iff.mpr fun same => differ (Json.extent_eq_of_same same)

/-- An object does not equal a value inside it. -/
theorem fieldEquals_member {members : Document} {name : String} {operand : Json}
    (isMember : (name, operand) ∈ members) :
    fieldEquals (some (.object members)) operand = false := by
  have less := Json.extent_lt_of_mem_members isMember
  rw [fieldEquals_object]
  exact same_eq_false_of_extent_ne (by omega)

/-- The only operator that holds of an object that it is a member of is the one for
being different, as a candidate of its operand is smaller than the object. -/
theorem operatorHolds_of_whole {members : Document} {operator : String} {operand : Json}
    (isMember : (operator, operand) ∈ members)
    (holds : operatorHolds (some (.object members)) operator operand = .ok true) :
    operator = OperatorName.notEqual := by
  refine Decidable.byContradiction fun notDifference => ?_
  unfold operatorHolds at holds
  rw [if_neg notDifference] at holds
  by_cases equality : operator = OperatorName.equal
  · rw [if_pos equality, fieldEquals_member isMember] at holds
    cases holds
  · rw [if_neg equality] at holds
    by_cases membership : operator = OperatorName.oneOf
    · rw [if_pos membership] at holds
      cases operand with
      | array candidates =>
          obtain ⟨candidate, isCandidate, equals⟩ :=
            List.any_eq_true.mp (Except.ok.inj holds)
          rw [fieldEquals_object] at equals
          have inner := Json.extent_lt_of_mem_items isCandidate
          have outer := Json.extent_lt_of_mem_members isMember
          have sizes := Json.extent_eq_of_same equals
          omega
      | _ => cases holds
    · rw [if_neg membership] at holds
      by_cases pattern : operator = OperatorName.pattern
      · rw [if_pos pattern] at holds
        cases operand with
        | string text =>
            rw [matchesPattern] at holds
            cases parsed : Pattern.parse text with
            | error reason => rw [parsed] at holds; cases holds
            | ok pattern => rw [parsed] at holds; cases holds
        | _ => cases holds
      · rw [if_neg pattern] at holds
        cases holds

/-- **No list of operators is read as the value that it is**: of some value of the
field it says something else than that the field equals it. If all operators hold of the
object, they ask for differences, and an array around the object has these. -/
theorem exists_misread {value : Json} (operators : isOperatorList value = true) :
    ∃ actual : Json,
      ¬ (conditionHolds (some actual) value = .ok true ↔
        fieldEquals (some actual) value = true) := by
  cases value with
  | object members =>
      by_cases ofWhole : conditionHolds (some (.object members)) (.object members) = .ok true
      · refine ⟨.array [.object members], fun alike => ?_⟩
        rw [conditionHolds_of_operators operators, operatorsHold_eq_true_iff] at ofWhole
        have different : ∀ member ∈ members,
            operatorHolds (some (.array [.object members])) member.1 member.2 = .ok true := by
          rintro ⟨operator, operand⟩ isMember
          obtain rfl := operatorHolds_of_whole isMember (ofWhole _ isMember)
          have inner := Json.extent_lt_of_mem_members isMember
          have outer := Json.extent_lt_of_mem_items (List.mem_singleton_self (Json.object members))
          have differ : Json.same (.array [.object members]) operand = false :=
            same_eq_false_of_extent_ne (by omega)
          rw [operatorHolds_notEqual, fieldEquals_array, differ]
          rfl
        rw [conditionHolds_of_operators operators, operatorsHold_eq_true_iff] at alike
        have equals := alike.mp different
        rw [fieldEquals_array] at equals
        have outer := Json.extent_lt_of_mem_items (List.mem_singleton_self (Json.object members))
        have sizes := Json.extent_eq_of_same equals
        omega
      · refine ⟨.object members, fun alike => ofWhole (alike.mpr ?_)⟩
        rw [fieldEquals_object]
        exact Json.same_refl _
  | _ => cases operators

end Filter

/-! ## The two forms of the question -/

/-- The name under which a field is stored that is asked for alone. -/
def FieldName.soleKey (field : String) : String :=
  if field = FieldName.identifier then FieldName.primaryKey else field

namespace Criteria

/-- The filter that asks that one field equals a value. -/
def equalityFilter (field : String) (value : Json) : Document :=
  Document.insert Document.live (FieldName.soleKey field) value

/-- The comparison of a field with an argument. -/
def equalityGroups (field : String) (value : Json) : List (List Comparison) :=
  [[⟨field, .equal, .argument value⟩]]

theorem text_equalityGroups (field : String) (value : Json) :
    Comparison.text (equalityGroups field value) = field ++ " = ?" := by
  have characters : Expression.text (Comparison.clauses (equalityGroups field value)) =
      (field ++ " = ?").toList := by
    have ending : " = ?".toList =
        ' ' :: (FilterOperator.equal.token.toList ++ ' ' :: Operand.placeholderWord) := by decide
    rw [String.toList_append, ending]
    simp only [Expression.text, equalityGroups, Comparison.clauses, List.map_singleton,
      Text.joined_singleton]
    rfl
  rw [Comparison.text, characters, String.ofList_toList]

theorem filter_equalityGroups (field : String) (value : Json) :
    Comparison.filter (equalityGroups field value) = equalityFilter field value := by
  have stored : Expression.storedField (field == FieldName.primaryKey || false || false) field =
      FieldName.soleKey field := by
    by_cases identifier : field = FieldName.identifier
    · subst identifier
      decide
    · rw [Comparison.storedField_of_ne identifier, FieldName.soleKey, if_neg identifier]
  rw [equalityGroups, Comparison.filter_single, equalityFilter, ← stored]
  rfl

/-- An expression for equality is built to the filter for equality. -/
theorem build_equality {field : String} (plain : Expression.IsPlainWord field.toList)
    (value : Json) :
    (ofExpression (field ++ " = ?") [value]).build = .ok (equalityFilter field value) := by
  have printable : Comparison.Printable (equalityGroups field value) := by
    refine ⟨by simp [equalityGroups], by simp [equalityGroups], ?_⟩
    intro group isGroup comparison isComparison
    obtain rfl := List.mem_singleton.mp isGroup
    obtain rfl := List.mem_singleton.mp isComparison
    exact ⟨plain, fun text equal => nomatch equal⟩
  have fits : ∀ group ∈ equalityGroups field value, ∀ comparison ∈ group,
      comparison.Fits := by
    intro group isGroup comparison isComparison
    obtain rfl := List.mem_singleton.mp isGroup
    obtain rfl := List.mem_singleton.mp isComparison
    exact fun operator => nomatch operator
  have built := Comparison.build_text printable fits
  rwa [text_equalityGroups, filter_equalityGroups] at built

end Criteria

namespace QueryField

/-- A field of a query asks that a stored field equals a value that is not zero. -/
structure AsksEquality (query : QueryField) (field : String) (value : Json) : Prop where
  notSkipped : query.isSkipped = false
  notZero : query.zero = false
  equality : FilterOperator.ofTag query.operatorPart = .equal
  key_eq : query.key = field
  value_eq : query.value = value
  value_notZero : value.isZero = false

theorem AsksEquality.condition? {query : QueryField} {field : String} {value : Json}
    (asks : query.AsksEquality field value) : query.condition? = .ok (some value) := by
  rw [QueryField.condition?, asks.notSkipped, asks.notZero, asks.equality, asks.value_eq]
  rfl

theorem translate_single {query : QueryField} {condition : Json}
    (asks : query.condition? = .ok (some condition)) :
    translate [query] =
      .ok (targetPrimaryKey (Document.insert Document.live query.key condition)) := by
  rw [translate, addConditions, asks]
  rfl

/-- What is asked of `id` moves to the primary key, and nothing else moves. -/
theorem targetPrimaryKey_insert_live {field : String} {value : Json}
    (notNull : value.isNull = false) :
    targetPrimaryKey (Document.insert Document.live field value) =
      Criteria.equalityFilter field value := by
  by_cases identifier : field = FieldName.identifier
  · subst identifier
    have unkeyed : Document.contains (Document.insert Document.live FieldName.identifier value)
        FieldName.primaryKey = false := rfl
    rw [targetPrimaryKey, unkeyed, Document.get?_insert_self]
    simp only [notNull]
    rfl
  · have unnamed : Document.get? (Document.insert Document.live field value)
        FieldName.identifier = none :=
      Document.get?_insert_of_ne Document.live value (Ne.symm identifier)
    rw [targetPrimaryKey, unnamed, ite_self, Criteria.equalityFilter, FieldName.soleKey,
      if_neg identifier]

/-- A query for equality is built to the filter for equality. -/
theorem AsksEquality.build {query : QueryField} {field : String} {value : Json}
    (asks : query.AsksEquality field value) :
    (Criteria.tagged [query]).build = .ok (Criteria.equalityFilter field value) := by
  have notNull : value.isNull = false := by
    cases value with
    | null => exact absurd asks.value_notZero (by decide)
    | _ => rfl
  rw [Criteria.build, translate_single asks.condition?, asks.key_eq,
    targetPrimaryKey_insert_live notNull]

/-- A tag with the name behind it asks for equality under that name. -/
theorem asksEquality_tagged {field : String} (isWord : Text.IsWord field.toList) (name : String)
    {value : Json} (notZero : value.isZero = false) :
    (tagged name ("eq," ++ field) value).AsksEquality field value := by
  have operatorWord : Text.IsWord "eq".toList := by decide
  have noComma : ',' ∉ "eq".toList := by decide
  have tag : "eq," ++ field = "eq" ++ "," ++ field := rfl
  rw [tag]
  refine ⟨isSkipped_tagged operatorWord isWord name value, notZero, ?_,
    key_tagged operatorWord noComma isWord name value, rfl, notZero⟩
  rw [operatorPart_tagged operatorWord noComma isWord]
  decide

end QueryField

/-! ## What is accepted -/

namespace Criteria

theorem soleKey_ne {field : String} (notDeleted : field ≠ FieldName.deletedAt)
    (notDisjunction : field ≠ OperatorName.anyOf) :
    FieldName.soleKey field ≠ FieldName.deletedAt ∧
      FieldName.soleKey field ≠ OperatorName.anyOf := by
  by_cases identifier : field = FieldName.identifier
  · subst identifier
    decide
  · rw [FieldName.soleKey, if_neg identifier]
    exact ⟨notDeleted, notDisjunction⟩

/-- The filter for equality accepts the live documents whose field satisfies the
value as a condition. -/
theorem holds_equalityFilter_iff {field : String} (notDeleted : field ≠ FieldName.deletedAt)
    (notDisjunction : field ≠ OperatorName.anyOf) (value : Json) (document : Document) :
    Filter.holds document (equalityFilter field value) = .ok true ↔
      document.IsLive ∧
        Filter.conditionHolds (Document.get? document (FieldName.soleKey field)) value =
          .ok true := by
  obtain ⟨keyNotDeleted, keyNotDisjunction⟩ := soleKey_ne notDeleted notDisjunction
  have members : ∀ member, member ∈ equalityFilter field value ↔
      member = (FieldName.deletedAt, .null) ∨ member = (FieldName.soleKey field, value) := by
    intro member
    rw [equalityFilter, Document.live, Document.single, Document.insert,
      if_neg (Ne.symm keyNotDeleted)]
    by_cases first : FieldName.soleKey field < FieldName.deletedAt
    · rw [if_pos first]
      simp [or_comm]
    · rw [if_neg first, Document.insert]
      simp
  have live : Filter.memberHolds document FieldName.deletedAt .null =
      Filter.conditionHolds (Document.get? document FieldName.deletedAt) .null :=
    Filter.memberHolds_of_ne (by decide)
  rw [Filter.holds_eq_true_iff, Filter.isLive_iff, ← live,
    ← Filter.memberHolds_of_ne keyNotDisjunction]
  constructor
  · intro all
    exact ⟨all _ ((members _).mpr (.inl rfl)), all _ ((members _).mpr (.inr rfl))⟩
  · rintro ⟨isLive, holds⟩ member isMember
    rcases (members member).mp isMember with rfl | rfl
    · exact isLive
    · exact holds

/-- **A question for equality means equality exactly if the value is no list of
operators.** The expression and every query that ask that a field equals a value
have one filter. It accepts the live documents whose field satisfies the value as
a condition, and these are the live documents whose field equals the value unless
the value is an object of operators, for which they never are. -/
theorem equality_accepts_iff {field : String} (plain : Expression.IsPlainWord field.toList)
    (notDeleted : field ≠ FieldName.deletedAt) (notDisjunction : field ≠ OperatorName.anyOf)
    (value : Json) :
    ∃ filter, (ofExpression (field ++ " = ?") [value]).build = .ok filter ∧
      (∀ query : QueryField, query.AsksEquality field value →
        (tagged [query]).build = .ok filter) ∧
      (∀ document : Document, Filter.holds document filter = .ok true ↔
        document.IsLive ∧ Filter.conditionHolds
          (Document.get? document (FieldName.soleKey field)) value = .ok true) ∧
      ((∀ document : Document, Filter.holds document filter = .ok true ↔
          document.IsLive ∧
            Filter.fieldEquals (Document.get? document (FieldName.soleKey field)) value = true) ↔
        Filter.isOperatorList value = false) := by
  have accepted := holds_equalityFilter_iff notDeleted notDisjunction value
  refine ⟨equalityFilter field value, build_equality plain value, fun query asks => asks.build,
    accepted, ?_⟩
  constructor
  · intro equality
    refine Bool.eq_false_iff.mpr fun operators => ?_
    obtain ⟨actual, misread⟩ := Filter.exists_misread operators
    have found : Document.get? (Document.single (FieldName.soleKey field) actual)
        (FieldName.soleKey field) = some actual := Document.get?_single_self _ _
    have isLive : (Document.single (FieldName.soleKey field) actual).IsLive :=
      .inl (Document.get?_single_of_ne actual (soleKey_ne notDeleted notDisjunction).1.symm)
    have conditions := (accepted (Document.single (FieldName.soleKey field) actual)).symm.trans
      (equality (Document.single (FieldName.soleKey field) actual))
    rw [found] at conditions
    refine misread ⟨fun holds => ?_, fun equals => ?_⟩
    · exact (conditions.mp ⟨isLive, holds⟩).2
    · exact (conditions.mpr ⟨isLive, equals⟩).2
  · intro comparable document
    rw [accepted, Filter.conditionHolds_of_value comparable, Except.ok.injEq]

theorem equality_accepts_iff_password :
    Expression.IsPlainWord "password".toList ∧ "password" ≠ FieldName.deletedAt ∧
      "password" ≠ OperatorName.anyOf ∧
      ∃ filter, (ofExpression ("password" ++ " = ?") [.string "secret"]).build = .ok filter ∧
        (∀ query : QueryField, query.AsksEquality "password" (.string "secret") →
          (tagged [query]).build = .ok filter) ∧
        (∀ document : Document, Filter.holds document filter = .ok true ↔
          document.IsLive ∧ Filter.conditionHolds
            (Document.get? document (FieldName.soleKey "password")) (.string "secret") =
              .ok true) ∧
        ((∀ document : Document, Filter.holds document filter = .ok true ↔
            document.IsLive ∧ Filter.fieldEquals
              (Document.get? document (FieldName.soleKey "password")) (.string "secret") = true) ↔
          Filter.isOperatorList (.string "secret") = false) :=
  ⟨by decide, by decide, by decide,
    equality_accepts_iff (by decide) (by decide) (by decide) (.string "secret")⟩

/-- Who asks for a password that is different from null is told of every password. -/
theorem password_different_from_null_accepted :
    ∃ filter, (ofExpression "password = ?" [.object [("$ne", .null)]]).build = .ok filter ∧
      (tagged [.tagged "password" "eq" (.object [("$ne", .null)])]).build = .ok filter ∧
      Filter.holds [("_id", .string "a"), ("password", .string "secret")] filter = .ok true ∧
      Filter.fieldEquals (some (.string "secret")) (.object [("$ne", .null)]) = false :=
  ⟨[(FieldName.deletedAt, .null), ("password", .object [("$ne", .null)])], rfl, rfl, rfl, rfl⟩

end Criteria

end Docket
