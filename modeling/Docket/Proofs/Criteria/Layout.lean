import Docket.Proofs.Criteria.Arguments

/-!
# Laid out expressions

An expression can be laid out in more than one way. Any white space may stand between the three
words of a clause and around them, and only the words that join the clauses stand between two
single spaces. However it is laid out, an expression is parsed to the clauses that it was written
from (`Layout.parse_text`): a clause is known by its words, and white space adds none.

So parsing undoes printing (`Layout.build_undoes_printing`). The arguments go to the question
marks from left to right, across clauses and groups. Every group becomes a map of conditions, in
which the last clause on a field stands. One map alone is written over the live filter; several
are the branches of a disjunction, in the order of the groups. The only thing that can fail is
membership in what is no array, and the error names the field of the first clause that asks for
it, as it is stored.
-/

set_option autoImplicit false

namespace Docket

/-! ## Clauses with white space -/

/-- White space, of any kind and length. -/
structure Blanks where
  characters : List Char
  all_blank : characters.all Text.isBlank = true

theorem Blanks.blank (blanks : Blanks) :
    ∀ character ∈ blanks.characters, Text.isBlank character = true :=
  List.all_eq_true.mp blanks.all_blank

/-- White space that separates words. -/
structure Gap extends Blanks where
  ne_nil : characters ≠ []

/-- A clause that can be printed, with the white space around its three words and between
them. -/
structure LaidOut where
  clause : Clause
  printable : clause.Printable
  front : Blanks
  afterField : Gap
  afterOperator : Gap
  back : Blanks

namespace LaidOut

/-- The printed form of a laid out clause. -/
def text (laid : LaidOut) : List Char :=
  laid.front.characters ++ (laid.clause.field.toList ++ (laid.afterField.characters ++
    (laid.clause.operator.token.toList ++ (laid.afterOperator.characters ++
      (laid.clause.operand.word ++ laid.back.characters)))))

/-- **White space adds no words to a clause.** -/
theorem words_text (laid : LaidOut) : Text.words laid.text = laid.clause.words := by
  have field := laid.printable.field.toIsWord
  have token := (Clause.token_isPlainWord laid.clause.operator).toIsWord
  have operand := laid.printable.operand_isWord
  rw [text, Text.words_append_of_blank laid.front.blank,
    field.words_append_blanks laid.afterField.ne_nil laid.afterField.blank,
    token.words_append_blanks laid.afterOperator.ne_nil laid.afterOperator.blank,
    operand.words_append_of_blank laid.back.blank, Clause.words]

end LaidOut

/-- A laid out expression: groups of laid out clauses. There are some groups, and some clauses in
each. -/
structure Layout where
  groups : List (List LaidOut)
  nonempty : groups ≠ []
  groupsNonempty : ∀ group ∈ groups, group ≠ []

namespace Layout

/-- The clauses of an expression. -/
def clauses (layout : Layout) : List (List Clause) :=
  layout.groups.map fun group => group.map LaidOut.clause

/-- The printed form of an expression, with AND between clauses and OR between groups. -/
def text (layout : Layout) : String :=
  String.ofList (Text.joined Expression.orWord
    (layout.groups.map fun group => Text.joined Expression.andWord (group.map LaidOut.text)))

/-- **An expression is parsed to its clauses**, however it is laid out. -/
theorem parse_text (layout : Layout) :
    Expression.parse layout.text.toList = .ok layout.clauses := by
  rw [text, String.toList_ofList]
  exact Expression.parse_joined LaidOut.text LaidOut.clause layout.nonempty layout.groupsNonempty
    fun _ _ laid _ => ⟨laid.printable, laid.words_text⟩

/-- The clauses that take an argument. -/
def placeholders (layout : Layout) : Nat :=
  layout.clauses.flatten.countP fun clause => clause.operand = .placeholder

/-- Every question mark of an expression is the value of a clause. -/
theorem placeholderCount_text (layout : Layout) :
    Expression.placeholderCount layout.text = layout.placeholders := by
  have noStray : Expression.strayMarks layout.clauses = 0 := by
    refine Expression.strayMarks_eq_zero_iff.mpr fun clause isClause => ?_
    obtain ⟨group, isGroup, isMember⟩ := List.mem_flatten.mp isClause
    obtain ⟨laidOut, _, rfl⟩ := List.mem_map.mp isGroup
    obtain ⟨laid, _, rfl⟩ := List.mem_map.mp isMember
    exact ⟨laid.printable.field.noMark,
      fun text literal => (laid.printable.literal text literal).noMark⟩
  have counted := Expression.count_of_parse layout.parse_text
  rw [noStray, Nat.add_zero] at counted
  exact counted

end Layout

namespace Comparison

/-! ## What is built -/

/-- **The map of a group**: its fields are those of the group, as they are stored, and each has
the condition of the last comparison with it. -/
structure IsMapOf (keepIdentifier : Bool) (group : List Comparison) (map : Document) : Prop where
  sorted : Document.Sorted map
  get?_iff : ∀ field condition, Document.get? map field = some condition ↔
    Document.LastFor (group.map (member keepIdentifier)) field condition

theorem isMapOf_groupFilter (keepIdentifier : Bool) (group : List Comparison) :
    IsMapOf keepIdentifier group (groupFilter keepIdentifier group) where
  sorted := Document.Sorted.nil.extend _
  get?_iff field condition := by
    rw [groupFilter, Document.get?_extend_eq_some_iff]
    simp [Document.get?]

/-- **The filter of the maps of groups.** One map alone is written over the live filter, and
several are the branches of a disjunction that is added to it. -/
inductive Combined : List Document → Document → Prop
  | alone (map : Document) : Combined [map] (Document.extend Document.live map)
  | branches {maps : List Document} (several : 2 ≤ maps.length) :
      Combined maps
        (Document.insert Document.live OperatorName.anyOf (.array (maps.map Json.object)))

theorem combined_combine {maps : List Document} (nonempty : maps ≠ []) :
    Combined maps (Expression.combine maps) := by
  match maps with
  | [] => exact absurd rfl nonempty
  | [map] => exact .alone map
  | _ :: _ :: _ => exact .branches (by simp)

end Comparison

namespace Layout

open Comparison (Combined IsMapOf keepsIdentifier)

/-- **Parsing undoes printing.** Let an expression be laid out with any white space, and let there
be one value for each clause with a question mark. Then the expression is parsed to its clauses,
and the values go to the question marks from left to right. If membership is asked of arrays only,
what is built are the maps of the groups, combined. Otherwise building fails, and the error names
the field of the first clause that asks for membership in something else, as it is stored. -/
theorem build_undoes_printing (layout : Layout) {values : List Json}
    (fitting : values.length = layout.placeholders) :
    Expression.parse layout.text.toList = .ok layout.clauses ∧
      ∃ groups : List (List Comparison), Comparison.clauses groups = layout.clauses ∧
        (Comparison.asking groups).map Comparison.value = values ∧
        (((∀ comparison ∈ groups.flatten, comparison.Fits) ∧
            ∃ maps filter, List.Forall₂ (IsMapOf (keepsIdentifier groups)) groups maps ∧
              Combined maps filter ∧
              (Criteria.ofExpression layout.text values).build = .ok filter) ∨
          ∃ misfit, FirstWith (fun comparison => ¬ comparison.Fits) groups.flatten misfit ∧
            (Criteria.ofExpression layout.text values).build = .error (.inRequiresSequence
              (Expression.storedField (keepsIdentifier groups) misfit.field))) := by
  refine ⟨layout.parse_text, ?_⟩
  obtain ⟨groups, sameClauses, rfl⟩ := Comparison.exists_groups layout.clauses fitting
  refine ⟨groups, sameClauses, (Comparison.arguments_eq_values_asking groups).symm, ?_⟩
  have built : (Criteria.ofExpression layout.text (Comparison.arguments groups)).build =
      (Expression.groupFilters
        ⟨Expression.placeholderCount layout.text, (Comparison.arguments groups).length⟩
        (keepsIdentifier groups) (Comparison.clauses groups)
        (Comparison.arguments groups ++ [])).map Expression.combine := by
    rw [Criteria.build_ofExpression (layout.placeholderCount_text.trans fitting.symm),
      Expression.translate_of_parse layout.parse_text, ← sameClauses, List.append_nil]
    rfl
  rcases forall_or_exists_firstWith Comparison.Fits groups.flatten with
    fits | ⟨misfit, isFirst⟩
  · have groupsFit : ∀ group ∈ groups, ∀ comparison ∈ group, comparison.Fits :=
      fun group isGroup comparison isComparison =>
        fits comparison (List.mem_flatten_of_mem isGroup isComparison)
    have nonempty : groups.map (Comparison.groupFilter (keepsIdentifier groups)) ≠ [] := by
      intro noMaps
      obtain rfl := List.map_eq_nil_iff.mp noMaps
      exact layout.nonempty (List.map_eq_nil_iff.mp sameClauses.symm)
    refine .inl ⟨fits, _, _, ?_, Comparison.combined_combine nonempty, ?_⟩
    · rw [List.forall₂_map_right_iff, List.forall₂_same]
      exact fun group _ => Comparison.isMapOf_groupFilter _ group
    · rw [built, Comparison.groupFilters_eq _ _ groupsFit]
      rfl
  · refine .inr ⟨misfit, isFirst, ?_⟩
    rw [built, Comparison.groupFilters_of_misfit _ _ isFirst]
    rfl

/-- Two groups with tabs, line breaks and a no-break space around their words. Some words begin
with the joining words, and `id` is asked for in both groups. -/
def sample : Layout where
  groups :=
    [[⟨⟨"id", .notEqual, .placeholder⟩, by decide, ⟨['\t'], rfl⟩,
        ⟨⟨['\u00a0'], rfl⟩, by decide⟩,
        ⟨⟨['\n', ' '], rfl⟩, by decide⟩, ⟨[], rfl⟩⟩,
      ⟨⟨"ANDROID", .equal, .literal "ORC"⟩, by decide, ⟨[' '], rfl⟩,
        ⟨⟨[' '], rfl⟩, by decide⟩,
        ⟨⟨['\t', '\t'], rfl⟩, by decide⟩, ⟨[' '], rfl⟩⟩],
     [⟨⟨"id", .oneOf, .placeholder⟩, by decide, ⟨[], rfl⟩,
        ⟨⟨[' '], rfl⟩, by decide⟩,
        ⟨⟨['\u3000'], rfl⟩, by decide⟩, ⟨['\n'], rfl⟩⟩]]
  nonempty := by decide
  groupsNonempty := by decide

/-- The filter of the sample. -/
def sampleFilter : Document :=
  [("$or", .array [
      .object [("ANDROID", .string "ORC"), ("_id", .object [("$ne", .null)])],
      .object [("_id", .object [("$in", .array [.string "AND"])])]]),
    ("deleted_at", .null)]

theorem build_undoes_printing_sample :
    sample.text = "\tid\u00a0!=\n ? AND  ANDROID =\t\tORC  OR id in\u3000?\n" ∧
      [Json.null, .array [.string "AND"]].length = sample.placeholders ∧
      (Criteria.ofExpression sample.text [.null, .array [.string "AND"]]).build =
        .ok sampleFilter ∧
      ∃ groups maps, Comparison.clauses groups = sample.clauses ∧
        (Comparison.asking groups).map Comparison.value = [.null, .array [.string "AND"]] ∧
        List.Forall₂ (IsMapOf (keepsIdentifier groups)) groups maps ∧
        Combined maps sampleFilter := by
  have fitting : [Json.null, .array [.string "AND"]].length = sample.placeholders := rfl
  have built : (Criteria.ofExpression sample.text [.null, .array [.string "AND"]]).build =
      .ok sampleFilter := rfl
  refine ⟨rfl, fitting, built, ?_⟩
  obtain ⟨_, groups, sameClauses, taken, outcome⟩ := build_undoes_printing sample fitting
  rcases outcome with ⟨_, maps, filter, areMaps, combined, same⟩ | ⟨_, _, failed⟩
  · obtain rfl := Except.ok.inj (built.symm.trans same)
    exact ⟨groups, maps, sameClauses, taken, areMaps, combined⟩
  · cases built.symm.trans failed

end Layout

end Docket
