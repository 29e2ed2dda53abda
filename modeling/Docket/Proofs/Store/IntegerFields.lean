import Docket.Proofs.Number.Rounding
import Docket.Proofs.Store.Uniqueness

/-!
# Integers that filters and sorts compare

A filter asks for a value as it is, by the operator for equality, as one of several, or by the
operator that excludes it. The four agree with each other, and with the order of a sort, on any
two numbers: all of them compare doubles (`comparedAs_ranks`).

So they compare two integers exactly if and only if the two do not share a double without being
the same. That is so if one of them is below two to the 53rd; integers above that share a double
with a neighbour, and are taken for equal then (`integers_compared`, `neighbours_taken_for_equal`).
-/

set_option autoImplicit false

namespace Docket

namespace Filter

/-- The filters that ask whether a field equals a value, and the one that asks whether it
differs, agree on the answer. -/
structure Answers (document : Document) (field : String) (value : Json) (equal : Bool) : Prop where
  plain : holds document [(field, value)] = .ok equal
  byEqual : holds document [(field, .constrained OperatorName.equal value)] = .ok equal
  byOneOf : holds document [(field, .constrained OperatorName.oneOf (.array [value]))] = .ok equal
  byNotEqual : holds document [(field, .constrained OperatorName.notEqual value)] = .ok (!equal)

/-- A filter that constrains a field by one operator asks the field by it. -/
theorem holds_constrained {field operator : String} (isField : field ≠ OperatorName.anyOf)
    (dollar : Text.startsWith operator "$" = true) (document : Document) (operand : Json) :
    holds document [(field, .constrained operator operand)] =
      operatorHolds (Document.get? document field) operator operand := by
  rw [holds_single, memberHolds_of_ne isField, conditionHolds_constrained dollar]

theorem operatorHolds_equal (actual : Option Json) (operand : Json) :
    operatorHolds actual OperatorName.equal operand = .ok (fieldEquals actual operand) :=
  rfl

/-- One candidate is asked for as by the operator for equality. -/
theorem operatorHolds_oneOf_single (actual : Option Json) (operand : Json) :
    operatorHolds actual OperatorName.oneOf (.array [operand]) =
      .ok (fieldEquals actual operand) := by
  change Except.ok (fieldEquals actual operand || false) = _
  rw [Bool.or_false]

/-- **A value that is neither null nor a list of operators is asked for alike in all ways.** -/
theorem answers_value {document : Document} {field : String} {actual value : Json}
    (isField : field ≠ OperatorName.anyOf) (notNull : value ≠ .null)
    (plain : isOperatorList value = false)
    (holding : Document.get? document field = some actual) :
    Answers document field value (valuesEqual actual value) where
  plain := by
    rw [holds_value isField notNull plain, holding]
    rfl
  byEqual := by
    rw [holds_constrained isField (by decide +kernel), operatorHolds_equal, holding]
    rfl
  byOneOf := by
    rw [holds_constrained isField (by decide +kernel), operatorHolds_oneOf_single, holding]
    rfl
  byNotEqual := by
    rw [holds_constrained isField (by decide +kernel), operatorHolds_notEqual, holding]
    rfl

end Filter

namespace Number

/-- What reading answers about two numbers, one that a field holds and one that is asked for:
whether they are equal, in each way that a filter can ask, and their order in a sort. -/
structure ComparedAs (stored asked : Number) (equal : Bool) (order : Ordering) : Prop where
  filtered : ∀ (document : Document) (field : String), field ≠ OperatorName.anyOf →
    Document.get? document field = some (.number stored) →
      Filter.Answers document field (.number asked) equal
  sorted : Sorting.compareFields (some (.number stored)) (some (.number asked)) = order

section

variable {stored asked : Number} {equal : Bool} {order : Ordering}

/-- **Numbers are compared as their doubles**, in whatever way they are asked for. -/
theorem comparedAs_ranks (stored asked : Number) :
    ComparedAs stored asked (stored.rank == asked.rank) (compare stored.rank asked.rank) where
  filtered _ _ isField holding := Filter.answers_value isField Json.noConfusion rfl holding
  sorted := rfl

/-- Reading gives one answer about two numbers. -/
theorem ComparedAs.unique (answered : ComparedAs stored asked equal order) :
    equal = (stored.rank == asked.rank) ∧ order = compare stored.rank asked.rank := by
  have ranks := comparedAs_ranks stored asked
  have isField : "n" ≠ OperatorName.anyOf := by decide
  have filtered := answered.filtered [("n", .number stored)] "n" isField rfl
  have byRank := ranks.filtered [("n", .number stored)] "n" isField rfl
  exact ⟨Except.ok.inj (filtered.plain.symm.trans byRank.plain),
    answered.sorted.symm.trans ranks.sorted⟩

theorem rank_integer {value : Int} (fits : FitsInteger value) :
    (integer value fits).rank = (Double.ofInt value).rank :=
  rfl

/-- Numbers are compared in one way exactly if their doubles are. -/
theorem comparedAs_iff :
    ComparedAs stored asked equal order ↔
      equal = (stored.rank == asked.rank) ∧ order = compare stored.rank asked.rank := by
  refine ⟨ComparedAs.unique, ?_⟩
  rintro ⟨rfl, rfl⟩
  exact comparedAs_ranks stored asked

end

/-- **Integers in filters and sorts.** Two integers are compared exactly if and only if they
are equal or have different doubles. So they are if one of them is below two to the 53rd.
Integers with one double are taken for equal. -/
theorem integers_compared {stored asked : Int} (storedFits : FitsInteger stored)
    (askedFits : FitsInteger asked) :
    (ComparedAs (.integer stored storedFits) (.integer asked askedFits)
        (decide (stored = asked)) (compare stored asked) ↔
      ((Double.ofInt stored).rank = (Double.ofInt asked).rank → stored = asked)) ∧
    (stored.natAbs < 2 ^ 53 ∨ asked.natAbs < 2 ^ 53 →
      ComparedAs (.integer stored storedFits) (.integer asked askedFits)
        (decide (stored = asked)) (compare stored asked)) ∧
    ((Double.ofInt stored).rank = (Double.ofInt asked).rank →
      ComparedAs (.integer stored storedFits) (.integer asked askedFits) true .eq) := by
  have storedBound := natAbs_lt_of_fits storedFits
  have askedBound := natAbs_lt_of_fits askedFits
  have exactlyIff : ComparedAs (.integer stored storedFits) (.integer asked askedFits)
        (decide (stored = asked)) (compare stored asked) ↔
      ((Double.ofInt stored).rank = (Double.ofInt asked).rank → stored = asked) := by
    rw [comparedAs_iff, Bool.eq_iff_iff, decide_eq_true_eq, beq_iff_eq, rank_integer, rank_integer]
    constructor
    · rintro ⟨equal, -⟩
      exact equal.mpr
    · intro apart
      exact ⟨⟨fun same => same ▸ rfl, apart⟩,
        (Double.compare_rank_ofInt storedBound askedBound apart).symm⟩
  refine ⟨exactlyIff, fun small => exactlyIff.mpr fun sameRank => ?_, fun sameRank => ?_⟩
  · rcases small with small | small
    · exact Double.eq_of_rank_ofInt_eq small askedBound sameRank
    · exact (Double.eq_of_rank_ofInt_eq small storedBound sameRank.symm).symm
  · exact comparedAs_iff.mpr ⟨(beq_iff_eq.mpr sameRank).symm,
      (compare_eq_iff_eq.mpr sameRank).symm⟩

theorem integers_compared_recordNumbers :
    ComparedAs (.integer 9007199254740991 (by decide)) (.integer 9007199254740992 (by decide))
        false .lt ∧
      ComparedAs (.integer 9007199254740994 (by decide)) (.integer 9007199254740996 (by decide))
        false .lt ∧
      ComparedAs (.integer 9007199254740995 (by decide)) (.integer 9007199254740996 (by decide))
        true .eq := by
  refine ⟨(integers_compared (by decide) (by decide)).2.1 (.inl (by decide)),
    (integers_compared (by decide) (by decide)).1.mpr (by decide +kernel),
    (integers_compared (by decide) (by decide)).2.2 (by decide +kernel)⟩

/-- The first two integers that have one double. -/
def twoTo53 : Number := .integer 9007199254740992 (by decide)

def twoTo53AndOne : Number := .integer 9007199254740993 (by decide)

/-- **Different integers are taken for equal**: a document that holds the one matches the
filters for the other, does not match the filter that excludes the other, and sorts with it. -/
theorem neighbours_taken_for_equal :
    twoTo53 ≠ twoTo53AndOne ∧
      Filter.Answers [("n", .number twoTo53)] "n" (.number twoTo53AndOne) true ∧
        Sorting.compareFields (some (.number twoTo53)) (some (.number twoTo53AndOne)) = .eq := by
  refine ⟨by decide, ⟨?_, ?_, ?_, ?_⟩, ?_⟩ <;> decide +kernel

end Number

end Docket
