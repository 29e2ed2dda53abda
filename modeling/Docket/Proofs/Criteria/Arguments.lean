import Docket.Proofs.Criteria.Agreement
import Docket.Proofs.Text.Kept
import Mathlib.Algebra.BigOperators.Group.List.Basic

/-!
# Where arguments go

The arguments of an expression are counted before it is parsed: there must be as many
as question marks anywhere in the text. They are taken after it is parsed: one by each
clause whose value is the word `?`, from left to right. A question mark in the name of
a field, or in a literal that has other characters too, is counted but takes nothing.

So what is counted is never less than what is taken (`count_of_parse`), and no argument
can be missing. The other way round arguments can be left over, as many as there are
stray question marks, and they are always the last ones (`arguments_taken_in_order`).
The counts agree exactly for expressions without stray marks. A literal with a question
mark in it can only be asked for together with an argument that nothing takes
(`literalMark_passesOver`).
-/

set_option autoImplicit false

namespace Docket

theorem FilterOperator.token_of_ofToken? {token : String} {operator : FilterOperator}
    (known : ofToken? token = some operator) : operator.token = token := by
  unfold ofToken? at known
  split_ifs at known with equal notEqual like oneOf <;> obtain rfl := Option.some.inj known
  · exact equal.symm
  · exact notEqual.symm
  · exact like.symm
  · exact oneOf.symm

theorem Operand.word_ofWord (word : List Char) : (ofWord word).word = word := by
  unfold ofWord
  split
  · next isMark => exact isMark.symm
  · exact String.toList_ofList

namespace Clause

/-- What a clause is parsed from has its three words. -/
theorem words_of_parse {text : List Char} {clause : Clause} (parsed : parse text = .ok clause) :
    Text.words text = clause.words := by
  unfold parse at parsed
  split at parsed
  · next field operator value split =>
    split at parsed
    · next meant known =>
      obtain rfl := Except.ok.inj parsed
      have token := FilterOperator.token_of_ofToken? known
      simp [split, words, token, Operand.word_ofWord]
    · cases parsed
  · cases parsed

/-- The question marks of a clause that take no argument: those of its field and of a
literal. -/
def strayMarks (clause : Clause) : Nat :=
  clause.field.toList.count '?' +
    match clause.operand with
    | .placeholder => 0
    | .literal text => text.toList.count '?'

/-- The question marks of a clause: the one that takes an argument and stray ones. -/
theorem count_of_parse {text : List Char} {clause : Clause} (parsed : parse text = .ok clause) :
    text.count '?' = (if clause.operand = .placeholder then 1 else 0) + clause.strayMarks := by
  have inToken := List.count_eq_zero_of_not_mem (token_isPlainWord clause.operator).noMark
  rw [← Text.count_words (by decide), words_of_parse parsed]
  simp only [words, List.flatten_cons, List.flatten_nil, List.append_nil, List.count_append,
    inToken, Nat.zero_add, strayMarks]
  cases clause.operand with
  | placeholder =>
      have ownMark : (Operand.word .placeholder).count '?' = 1 := by decide
      simp [ownMark, Nat.add_comm]
  | literal text => simp [Operand.word]

end Clause

namespace Expression

/-- What is measured of items is what is measured of their readings. -/
theorem map_eq_of_mapM_eq_ok {α β γ ε : Type} {read : α → Except ε β} {items : List α}
    {results : List β} (all : items.mapM read = .ok results) {before : α → γ}
    {after : β → γ}
    (same : ∀ item result, read item = .ok result → before item = after result) :
    items.map before = results.map after := by
  induction items generalizing results with
  | nil =>
      obtain rfl := Except.ok.inj all
      rfl
  | cons first rest ih =>
      rw [List.mapM_cons] at all
      cases here : read first with
      | error reason =>
          rw [here] at all
          cases all
      | ok result =>
          cases behind : rest.mapM read with
          | error reason =>
              rw [here, behind] at all
              cases all
          | ok others =>
              rw [here, behind] at all
              obtain rfl := Except.ok.inj all
              rw [List.map_cons, List.map_cons, same first result here, ih behind]

/-- The question marks of an expression that take no argument. -/
def strayMarks (groups : List (List Clause)) : Nat :=
  (groups.flatten.map Clause.strayMarks).sum

theorem strayMarks_eq_zero_iff {groups : List (List Clause)} :
    strayMarks groups = 0 ↔ ∀ clause ∈ groups.flatten, '?' ∉ clause.field.toList ∧
      ∀ text, clause.operand = .literal text → '?' ∉ text.toList := by
  rw [strayMarks, List.sum_eq_zero_iff_forall_eq_nat, List.forall_mem_map]
  refine forall₂_congr fun clause _ => ?_
  rw [Clause.strayMarks, Nat.add_eq_zero_iff, List.count_eq_zero]
  cases clause.operand with
  | placeholder => simp
  | literal text => simp [List.count_eq_zero]

theorem sum_map_marks (group : List Clause) :
    (group.map fun clause =>
        (if clause.operand = .placeholder then 1 else 0) + clause.strayMarks).sum =
      (group.countP fun clause => clause.operand = .placeholder) +
        (group.map Clause.strayMarks).sum := by
  induction group with
  | nil => rfl
  | cons clause rest ih =>
      rw [List.map_cons, List.sum_cons, ih, List.map_cons, List.sum_cons, List.countP_cons]
      simp only [decide_eq_true_eq]
      omega

theorem count_splitOn_and (text : List Char) :
    ((Text.splitOn andSeparator text).map (List.count '?')).sum = text.count '?' :=
  Text.count_splitOn (by decide) (by decide) text

theorem count_splitOn_or (text : List Char) :
    ((Text.splitOn orSeparator text).map (List.count '?')).sum = text.count '?' :=
  Text.count_splitOn (by decide) (by decide) text

theorem count_of_parseGroup {text : List Char} {group : List Clause}
    (parsed : parseGroup text = .ok group) :
    text.count '?' = (group.countP fun clause => clause.operand = .placeholder) +
      (group.map Clause.strayMarks).sum := by
  rw [← count_splitOn_and, map_eq_of_mapM_eq_ok parsed fun _ _ => Clause.count_of_parse,
    sum_map_marks]

/-- **The question marks of an expression are the placeholders of its clauses and the
stray ones.** Cutting it into groups, clauses and words loses none. -/
theorem count_of_parse {text : List Char} {groups : List (List Clause)}
    (parsed : parse text = .ok groups) :
    text.count '?' =
      (groups.flatten.countP fun clause => clause.operand = .placeholder) + strayMarks groups := by
  have cut := map_eq_of_mapM_eq_ok parsed fun _ _ => count_of_parseGroup
  rw [← count_splitOn_or, cut, List.sum_map_add, strayMarks, List.countP_flatten,
    List.map_flatten, List.sum_flatten, List.map_map]
  rfl

theorem translate_of_blank {text : String} (blank : Text.trimmed text.toList = [])
    (values : List Json) : translate text values = .ok Document.live := by
  simp only [translate, blank]
  rfl

theorem translate_of_parse {text : String} {groups : List (List Clause)}
    (parsed : parse text.toList = .ok groups) (values : List Json) :
    translate text values =
      (groupFilters ⟨placeholderCount text, values.length⟩ (namesPrimaryKey groups) groups
        values).map combine := by
  simp only [translate, not_blank_of_parse parsed, parsed]
  change ((groupFilters _ _ groups values).bind _) = _
  cases groupFilters ⟨placeholderCount text, values.length⟩ (namesPrimaryKey groups) groups
      values <;> rfl

/-- What is translated is blank or can be parsed. -/
theorem blank_or_parse_of_translate {text : String} {values : List Json} {filter : Document}
    (translated : translate text values = .ok filter) :
    Text.trimmed text.toList = [] ∨ ∃ groups, parse text.toList = .ok groups := by
  by_cases blank : Text.trimmed text.toList = []
  · exact .inl blank
  · refine .inr ?_
    have notBlank : (Text.trimmed text.toList).isEmpty = false := by
      simpa [List.isEmpty_iff] using blank
    simp only [translate, notBlank] at translated
    cases parsed : parse text.toList with
    | ok groups => exact ⟨groups, rfl⟩
    | error reason =>
        rw [parsed] at translated
        cases translated

end Expression

namespace Comparison

/-! ## The comparisons that take arguments -/

/-- The comparisons whose value is a question mark, from left to right. -/
def asking (groups : List (List Comparison)) : List Comparison :=
  groups.flatten.filter fun comparison => comparison.clause.operand = .placeholder

theorem length_asking (groups : List (List Comparison)) :
    (asking groups).length =
      (clauses groups).flatten.countP fun clause => clause.operand = .placeholder := by
  rw [asking, clauses, ← List.map_flatten, List.countP_map, ← List.countP_eq_length_filter]
  rfl

/-- The arguments of groups are the values of the comparisons that take them. -/
theorem arguments_eq_values_asking (groups : List (List Comparison)) :
    arguments groups = (asking groups).map value := by
  unfold arguments asking
  induction groups.flatten with
  | nil => rfl
  | cons comparison rest ih =>
      rw [List.flatMap_cons, ih]
      rcases comparison with ⟨field, operator, _ | text⟩
      · rw [List.filter_cons_of_pos (by simp [clause, Comparand.operand])]
        rfl
      · rw [List.filter_cons_of_neg (by simp [clause, Comparand.operand])]
        rfl

/-- If groups were translated, their clauses fit their values. -/
theorem fits_of_groupFilters {counts : Expression.Counts} {keepIdentifier : Bool}
    {groups : List (List Comparison)} {rest : List Json} {filters : List Document}
    (translated : Expression.groupFilters counts keepIdentifier (clauses groups)
      (arguments groups ++ rest) = .ok filters) :
    ∀ group ∈ groups, ∀ comparison ∈ group, comparison.Fits := by
  rcases forall_or_exists_firstWith Fits groups.flatten with fits | ⟨misfit, isFirst⟩
  · exact fun group isGroup comparison isComparison =>
      fits comparison (List.mem_flatten_of_mem isGroup isComparison)
  · rw [groupFilters_of_misfit counts keepIdentifier isFirst rest] at translated
    cases translated

end Comparison

namespace Criteria

theorem build_ofExpression {text : String} {values : List Json}
    (counted : Expression.placeholderCount text = values.length) :
    (ofExpression text values).build = Expression.translate text values := by
  rw [ofExpression, if_neg (not_not_intro counted), build]

theorem count_of_build {text : String} {values : List Json} {filter : Document}
    (built : (ofExpression text values).build = .ok filter) :
    Expression.placeholderCount text = values.length := by
  by_contra differ
  rw [ofExpression, if_pos differ] at built
  cases built

/-- **An expression is built in two cases only**: it is blank and there are no
arguments, or its clauses fit the first arguments, one for each that takes one, and
there is one more for each stray question mark. -/
theorem build_ofExpression_eq_ok_iff {text : String} {values : List Json} {filter : Document} :
    (ofExpression text values).build = .ok filter ↔
      (Text.trimmed text.toList = [] ∧ values = [] ∧ filter = Document.live) ∨
        ∃ groups unused, Expression.parse text.toList = .ok (Comparison.clauses groups) ∧
          (∀ group ∈ groups, ∀ comparison ∈ group, comparison.Fits) ∧
          values = Comparison.arguments groups ++ unused ∧
          unused.length = Expression.strayMarks (Comparison.clauses groups) ∧
          filter = Comparison.filter groups := by
  constructor
  · intro built
    have counted := count_of_build built
    rw [build_ofExpression counted] at built
    rcases Expression.blank_or_parse_of_translate built with blank | ⟨clauses, parsed⟩
    · have noMarks : text.toList.count '?' = 0 :=
        Text.count_of_trimmed_eq_nil blank (by decide)
      have noValues : values.length = 0 := counted.symm.trans noMarks
      rw [Expression.translate_of_blank blank] at built
      exact .inl ⟨blank, List.eq_nil_of_length_eq_zero noValues, (Except.ok.inj built).symm⟩
    · have marks := Expression.count_of_parse parsed
      let taken := clauses.flatten.countP fun clause => clause.operand = .placeholder
      have total : values.length = taken + Expression.strayMarks clauses :=
        counted.symm.trans marks
      have enough : (values.take taken).length = taken := by
        rw [List.length_take, total]
        omega
      obtain ⟨groups, rfl, arguments⟩ := Comparison.exists_groups clauses enough
      have split : values = Comparison.arguments groups ++ values.drop taken := by
        rw [arguments, List.take_append_drop]
      rw [Expression.translate_of_parse parsed] at built
      cases translated : Expression.groupFilters
          ⟨Expression.placeholderCount text, values.length⟩
          (Expression.namesPrimaryKey (Comparison.clauses groups)) (Comparison.clauses groups)
          values with
      | error reason =>
          rw [translated] at built
          cases built
      | ok filters =>
          have fits := Comparison.fits_of_groupFilters
            (translated.symm.trans (congrArg _ split)).symm
          have groupwise := Comparison.groupFilters_eq
            ⟨Expression.placeholderCount text, values.length⟩
            (Expression.namesPrimaryKey (Comparison.clauses groups)) fits (values.drop taken)
          rw [← split] at groupwise
          rw [groupwise] at built
          refine .inr ⟨groups, values.drop taken, parsed, fits, split, ?_,
            (Except.ok.inj built).symm⟩
          rw [List.length_drop, total]
          omega
  · rintro (⟨blank, rfl, rfl⟩ | ⟨groups, unused, parsed, fits, rfl, stray, rfl⟩)
    · have counted : Expression.placeholderCount text = ([] : List Json).length :=
        Text.count_of_trimmed_eq_nil blank (by decide)
      rw [build_ofExpression counted, Expression.translate_of_blank blank]
    · have counted : Expression.placeholderCount text =
          (Comparison.arguments groups ++ unused).length := by
        rw [List.length_append, stray, Comparison.arguments_eq_values_asking, List.length_map,
          Comparison.length_asking]
        exact Expression.count_of_parse parsed
      rw [build_ofExpression counted, Expression.translate_of_parse parsed,
        Comparison.groupFilters_eq _ _ fits unused]
      rfl

/-- **No argument is shifted, and what is left over is known**: an expression that is
built has as many arguments as question marks. Those of its clauses whose value is the
word `?` have the first arguments as their values, from left to right. Left over are as
many as there are question marks in its fields and literals; so every argument has its
clause exactly if there are none there. A blank expression has no arguments. -/
theorem arguments_taken_in_order {text : String} {values : List Json} {filter : Document}
    (built : (ofExpression text values).build = .ok filter) :
    Expression.placeholderCount text = values.length ∧
      ((Text.trimmed text.toList = [] ∧ values = [] ∧ filter = Document.live) ∨
        ∃ groups, Expression.parse text.toList = .ok (Comparison.clauses groups) ∧
          filter = Comparison.filter groups ∧
          (∀ (position : Nat) (comparison : Comparison),
            (Comparison.asking groups)[position]? = some comparison →
              values[position]? = some comparison.value) ∧
          values.length = (Comparison.asking groups).length +
            Expression.strayMarks (Comparison.clauses groups) ∧
          (values.length = (Comparison.asking groups).length ↔
            ∀ clause ∈ (Comparison.clauses groups).flatten, '?' ∉ clause.field.toList ∧
              ∀ literal, clause.operand = .literal literal → '?' ∉ literal.toList)) := by
  refine ⟨count_of_build built, ?_⟩
  rcases build_ofExpression_eq_ok_iff.mp built with
    blank | ⟨groups, unused, parsed, _, rfl, stray, rfl⟩
  · exact .inl blank
  · have total : (Comparison.arguments groups ++ unused).length =
        (Comparison.asking groups).length +
          Expression.strayMarks (Comparison.clauses groups) := by
      rw [List.length_append, Comparison.arguments_eq_values_asking, List.length_map, stray]
    refine .inr ⟨groups, parsed, rfl, fun position comparison found => ?_, total, ?_⟩
    · have value : ((Comparison.asking groups).map Comparison.value)[position]? =
          some comparison.value := by
        rw [List.getElem?_map, found]
        rfl
      have inside := List.getElem?_eq_some_iff.mp value
      rw [Comparison.arguments_eq_values_asking, List.getElem?_append_left inside.1, value]
    · rw [← Expression.strayMarks_eq_zero_iff, total]
      omega

theorem arguments_taken_in_order_strayMark :
    (ofExpression "title like ? OR who? != me" [.string "a", .null]).build =
        .ok [("$or", .array [.object [("title", .object [("$regex", .string "a")])],
          .object [("who?", .object [("$ne", .string "me")])]]), ("deleted_at", .null)] ∧
      ∃ groups, Expression.parse "title like ? OR who? != me".toList =
          .ok (Comparison.clauses groups) ∧
        (∀ (position : Nat) (comparison : Comparison),
          (Comparison.asking groups)[position]? = some comparison →
            [Json.string "a", .null][position]? = some comparison.value) ∧
        2 = (Comparison.asking groups).length +
          Expression.strayMarks (Comparison.clauses groups) := by
  have built : (ofExpression "title like ? OR who? != me" [.string "a", .null]).build =
      .ok [("$or", .array [.object [("title", .object [("$regex", .string "a")])],
        .object [("who?", .object [("$ne", .string "me")])]]), ("deleted_at", .null)] := rfl
  refine ⟨built, ?_⟩
  rcases (arguments_taken_in_order built).2 with ⟨_, noValues, _⟩ | all
  · cases noValues
  · obtain ⟨groups, parsed, _, inOrder, total, _⟩ := all
    exact ⟨groups, parsed, inOrder, total⟩

/-- A literal with a question mark needs an argument to be built, and the argument is
passed over: no clause takes one. -/
theorem literalMark_passesOver :
    (ofExpression "title = what?" [.string "lost"]).build =
        .ok [("deleted_at", .null), ("title", .string "what?")] ∧
      ∃ clause : Clause, Expression.parse "title = what?".toList = .ok [[clause]] ∧
        clause.operand = .literal "what?" ∧
        ([clause].countP fun clause => clause.operand = .placeholder) ≠
          [Json.string "lost"].length :=
  ⟨rfl, ⟨"title", .equal, .literal "what?"⟩, rfl, rfl, by decide⟩

end Criteria

end Docket
