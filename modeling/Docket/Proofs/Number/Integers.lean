import Docket.Json.Basic
import Mathlib.Data.Nat.Log
import Mathlib.Tactic.Linarith

/-!
# Integers as doubles

The double nearest to an integer of 64 bits has the exponent of the highest bit of the
integer (`exponentOf_one`, `ofInt_magnitude`). Below two to the 53rd nothing is rounded, so
the double of such an integer is that of no other one (`eq_of_rank_ofInt_eq`). From there on
the doubles are too few.

Numbers are confused if they have one rank and are not the same. These are an integer and a
float, or two integers from two to the 53rd on (`confused_iff`): two floats of one
rank are the same.
-/

set_option autoImplicit false

namespace Docket

namespace Double

theorem leastNormal_eq : leastNormal = 2 ^ 52 := by decide

theorem finite_of_lt {magnitude : Nat} (less : magnitude < 1088 * 2 ^ 52) :
    magnitude < 0x7FF0000000000000 :=
  less.trans (by decide)

/-! ## The exponent -/

section

variable {value : Nat} (positive : value ≠ 0)

include positive

/-- An integer below two to the 53rd, scaled so that it has 53 bits. -/
theorem scaled_bounds (small : value.log2 ≤ 52) :
    2 ^ 52 ≤ value * 2 ^ (52 - value.log2) ∧ value * 2 ^ (52 - value.log2) < 2 ^ 53 := by
  have whole : 2 ^ value.log2 * 2 ^ (52 - value.log2) = 2 ^ 52 := by
    rw [← pow_add, Nat.add_sub_cancel' small]
  have lower := Nat.mul_le_mul_right (2 ^ (52 - value.log2)) (Nat.log2_self_le positive)
  have upper := Nat.mul_lt_mul_of_pos_right (Nat.lt_log2_self (n := value))
    (Nat.two_pow_pos (52 - value.log2))
  rw [pow_succ, mul_right_comm] at upper
  omega

/-- An integer from two to the 53rd on, without the bits behind the first 53. -/
theorem quotient_bounds (large : 52 < value.log2) :
    2 ^ 52 ≤ value / 2 ^ (value.log2 - 52) ∧ value / 2 ^ (value.log2 - 52) < 2 ^ 53 := by
  have unit := Nat.two_pow_pos (value.log2 - 52)
  rw [Nat.le_div_iff_mul_le unit, Nat.div_lt_iff_lt_mul unit, ← pow_add, ← pow_add]
  constructor
  · exact (congrArg (2 ^ ·) (by omega : 52 + (value.log2 - 52) = value.log2)).trans_le
      (Nat.log2_self_le positive)
  · exact Nat.lt_log2_self.trans_eq (congrArg (2 ^ ·) (by omega))

/-- **The exponent of an integer is that of its highest bit.** -/
theorem exponentOf_one : exponentOf value 1 = (value.log2 : Int) - 52 := by
  have noLess : ¬ (scaledDown value 1 ((value.log2 : Int) - 52)).1 <
      (scaledDown value 1 ((value.log2 : Int) - 52)).2 * leastNormal := by
    rw [scaledDown, Nat.shiftLeft_eq, Nat.shiftLeft_eq, one_mul, leastNormal_eq, Nat.not_lt,
      ← pow_add]
    rcases Nat.lt_or_ge 52 value.log2 with large | small
    · have noShift : (-((value.log2 : Int) - 52)).toNat = 0 := by omega
      have down : ((value.log2 : Int) - 52).toNat + 52 = value.log2 := by omega
      rw [noShift, down, pow_zero, mul_one]
      exact Nat.log2_self_le positive
    · have up : (-((value.log2 : Int) - 52)).toNat = 52 - value.log2 := by omega
      have noShift : ((value.log2 : Int) - 52).toNat + 52 = 52 := by omega
      rw [noShift, up]
      exact (scaled_bounds positive small).1
  have guess : ((value.log2 : Int) - Nat.log2 1 - 52) = (value.log2 : Int) - 52 := by
    have one : Nat.log2 1 = 0 := by decide
    omega
  rw [exponentOf, guess, if_neg noLess]
  omega

end

/-! ## The magnitude -/

/-- The significand of an integer: all its bits, or the first 53 of them, rounded. -/
def integerSignificand (value : Nat) : Nat :=
  if value.log2 ≤ 52 then value * 2 ^ (52 - value.log2)
  else roundedQuotient value (2 ^ (value.log2 - 52))

theorem roundedQuotient_one (numerator : Nat) : roundedQuotient numerator 1 = numerator := by
  simp [roundedQuotient, Nat.mod_one]

theorem roundedQuotient_bounds (numerator denominator : Nat) :
    numerator / denominator ≤ roundedQuotient numerator denominator ∧
      roundedQuotient numerator denominator ≤ numerator / denominator + 1 := by
  unfold roundedQuotient
  dsimp only
  split
  · omega
  · split <;> omega

theorem integerSignificand_bounds {value : Nat} (positive : value ≠ 0) :
    2 ^ 52 ≤ integerSignificand value ∧ integerSignificand value ≤ 2 ^ 53 ∧
      (value.log2 ≤ 52 → integerSignificand value < 2 ^ 53) := by
  unfold integerSignificand
  split
  · next small =>
      have bounds := scaled_bounds positive small
      exact ⟨bounds.1, bounds.2.le, fun _ => bounds.2⟩
  · next large =>
      have bounds := quotient_bounds positive (Nat.not_le.mp large)
      have rounded := roundedQuotient_bounds value (2 ^ (value.log2 - 52))
      exact ⟨bounds.1.trans rounded.1, rounded.2.trans bounds.2,
        fun small => absurd small large⟩

/-- **The double of an integer of 64 bits**: its sign, the exponent of its highest bit and
its significand. -/
theorem ofInt_of_ne_zero {value : Int} (positive : value.natAbs ≠ 0)
    (fits : value.natAbs < 2 ^ 64) :
    (ofInt value).negative = decide (value < 0) ∧
      (ofInt value).magnitude =
        (value.natAbs.log2 + 1022) * 2 ^ 52 + integerSignificand value.natAbs := by
  have highest : value.natAbs.log2 < 64 := (Nat.log2_lt positive).mpr fits
  have significand : roundedQuotient (scaledDown value.natAbs 1 (exponentOf value.natAbs 1)).1
      (scaledDown value.natAbs 1 (exponentOf value.natAbs 1)).2 =
        integerSignificand value.natAbs := by
    rw [exponentOf_one positive, scaledDown, Nat.shiftLeft_eq, Nat.shiftLeft_eq, one_mul,
      integerSignificand]
    split
    · next small =>
        have up : (-((value.natAbs.log2 : Int) - 52)).toNat = 52 - value.natAbs.log2 := by omega
        have noShift : ((value.natAbs.log2 : Int) - 52).toNat = 0 := by omega
        rw [up, noShift, pow_zero, roundedQuotient_one]
    · next large =>
        have noShift : (-((value.natAbs.log2 : Int) - 52)).toNat = 0 := by omega
        have down : ((value.natAbs.log2 : Int) - 52).toNat = value.natAbs.log2 - 52 := by omega
        rw [noShift, down, pow_zero, mul_one]
  have exponent : (exponentOf value.natAbs 1 + 1074).toNat = value.natAbs.log2 + 1022 := by
    rw [exponentOf_one positive]
    omega
  have bounds := integerSignificand_bounds positive
  have finite : (value.natAbs.log2 + 1022) * 2 ^ 52 + integerSignificand value.natAbs <
      0x7FF0000000000000 := by
    refine finite_of_lt ?_
    omega
  have rounded : ofRatio (decide (value < 0)) value.natAbs 1 =
      some ⟨decide (value < 0), _, finite⟩ := by
    rw [ofRatio, if_neg (by omega)]
    dsimp only
    simp only [significand, exponent, leastNormal_eq]
    rw [dif_pos finite]
  rw [ofInt, rounded]
  exact ⟨rfl, rfl⟩

/-! ## Ranks -/

theorem magnitude_eq (double : Double) : double.magnitude = double.rank.natAbs := by
  unfold rank
  split <;> simp

theorem rank_unsignedZero (double : Double) : double.unsignedZero.rank = double.rank := by
  unfold unsignedZero
  split
  · next isZero => simp [rank, zero, isZero]
  · rfl

theorem negative_unsignedZero (double : Double) :
    double.unsignedZero.negative = decide (double.rank < 0) := by
  unfold unsignedZero rank
  split
  · next isZero => simp [zero, isZero]
  · next notZero => cases double.negative <;> simp; omega

/-- Doubles have one rank if they are the same up to the sign of a zero. -/
theorem rank_eq_iff {first second : Double} :
    first.rank = second.rank ↔ first.unsignedZero = second.unsignedZero := by
  constructor
  · intro sameRank
    have signs : first.unsignedZero.negative = second.unsignedZero.negative := by
      rw [negative_unsignedZero, negative_unsignedZero, sameRank]
    have magnitudes : first.unsignedZero.magnitude = second.unsignedZero.magnitude := by
      rw [magnitude_eq, magnitude_eq, rank_unsignedZero, rank_unsignedZero, sameRank]
    cases firstAs : first.unsignedZero
    cases secondAs : second.unsignedZero
    simp_all
  · intro same
    rw [← rank_unsignedZero, same, rank_unsignedZero]

/-- The magnitude of the double of an integer below two to the 53rd determines the integer
up to its sign, among all integers of 64 bits. -/
theorem natAbs_eq_of_magnitude_eq {first second : Int} (small : first.natAbs < 2 ^ 53)
    (fits : second.natAbs < 2 ^ 64)
    (sameMagnitude : (ofInt first).magnitude = (ofInt second).magnitude) :
    first.natAbs = second.natAbs := by
  have ofZero : (ofInt 0).magnitude = 0 := rfl
  by_cases firstZero : first.natAbs = 0 <;> by_cases secondZero : second.natAbs = 0
  · rw [firstZero, secondZero]
  · have bounds := integerSignificand_bounds secondZero
    rw [Int.natAbs_eq_zero.mp firstZero, ofZero, (ofInt_of_ne_zero secondZero fits).2]
      at sameMagnitude
    omega
  · have bounds := integerSignificand_bounds firstZero
    rw [Int.natAbs_eq_zero.mp secondZero, ofZero,
      (ofInt_of_ne_zero firstZero (small.trans (by decide))).2] at sameMagnitude
    omega
  · have highest : first.natAbs.log2 < 53 := (Nat.log2_lt firstZero).mpr small
    have firstBounds := integerSignificand_bounds firstZero
    have secondBounds := integerSignificand_bounds secondZero
    rw [(ofInt_of_ne_zero firstZero (small.trans (by decide))).2,
      (ofInt_of_ne_zero secondZero fits).2] at sameMagnitude
    have firstBinade := firstBounds.2.2 (by omega)
    have sameExponent : first.natAbs.log2 = second.natAbs.log2 := by omega
    have sameSignificand : integerSignificand first.natAbs = integerSignificand second.natAbs := by
      omega
    rw [integerSignificand, integerSignificand, if_pos (by omega), if_pos (by omega),
      sameExponent] at sameSignificand
    exact Nat.eq_of_mul_eq_mul_right (Nat.two_pow_pos _) sameSignificand

/-- **An integer below two to the 53rd has a double of its own.** -/
theorem eq_of_rank_ofInt_eq {first second : Int} (small : first.natAbs < 2 ^ 53)
    (fits : second.natAbs < 2 ^ 64) (sameRank : (ofInt first).rank = (ofInt second).rank) :
    first = second := by
  have magnitudes : (ofInt first).magnitude = (ofInt second).magnitude := by
    rw [magnitude_eq, magnitude_eq, sameRank]
  have sameSize := natAbs_eq_of_magnitude_eq small fits magnitudes
  by_cases isZero : first.natAbs = 0
  · omega
  · have firstDouble := ofInt_of_ne_zero isZero (small.trans (by decide))
    have secondDouble := ofInt_of_ne_zero (sameSize ▸ isZero) fits
    have bounds := integerSignificand_bounds isZero
    have notZero : (ofInt first).magnitude ≠ 0 := by omega
    have signs : (ofInt first).negative = (ofInt second).negative := by
      have signs := congrArg negative (rank_eq_iff.mp sameRank)
      rwa [unsignedZero, unsignedZero, if_neg notZero, if_neg (magnitudes ▸ notZero)] at signs
    rw [firstDouble.1, secondDouble.1, decide_eq_decide] at signs
    omega

end Double

namespace Number

/-- Numbers that have one rank without being the same: an integer and a float, or two
integers that are not below two to the 53rd. -/
inductive Confused : Number → Number → Prop
  | integerFloat {value : Int} {fits : FitsInteger value} {double : Double}
      (sameRank : (Double.ofInt value).rank = double.rank) :
      Confused (.integer value fits) (.float double)
  | floatInteger {value : Int} {fits : FitsInteger value} {double : Double}
      (sameRank : double.rank = (Double.ofInt value).rank) :
      Confused (.float double) (.integer value fits)
  | integers {first second : Int} {firstFits : FitsInteger first}
      {secondFits : FitsInteger second} (differ : first ≠ second)
      (firstLarge : 2 ^ 53 ≤ first.natAbs) (secondLarge : 2 ^ 53 ≤ second.natAbs)
      (sameRank : (Double.ofInt first).rank = (Double.ofInt second).rank) :
      Confused (.integer first firstFits) (.integer second secondFits)

theorem natAbs_lt_of_fits {value : Int} (fits : FitsInteger value) : value.natAbs < 2 ^ 64 := by
  obtain ⟨lower, upper⟩ := fits
  omega

/-- **Numbers of one rank are the same or confused.** -/
theorem confused_iff (first second : Number) :
    Confused first second ↔
      first.rank = second.rank ∧ first.unsignedZero ≠ second.unsignedZero := by
  constructor
  · rintro (⟨sameRank⟩ | ⟨sameRank⟩ | ⟨differ, _, _, sameRank⟩)
    · exact ⟨sameRank, fun same => by cases same⟩
    · exact ⟨sameRank, fun same => by cases same⟩
    · exact ⟨sameRank, fun same => differ (by injection same)⟩
  · rintro ⟨sameRank, differ⟩
    cases first with
    | integer value fits =>
        cases second with
        | integer other otherFits =>
            have differ : value ≠ other := by
              rintro rfl
              exact differ rfl
            refine .integers differ ?_ ?_ sameRank <;> by_contra small
            · exact differ (Double.eq_of_rank_ofInt_eq (Nat.not_le.mp small)
                (natAbs_lt_of_fits otherFits) sameRank)
            · exact differ.symm (Double.eq_of_rank_ofInt_eq (Nat.not_le.mp small)
                (natAbs_lt_of_fits fits) sameRank.symm)
        | float double => exact .integerFloat sameRank
    | float double =>
        cases second with
        | integer value fits => exact .floatInteger sameRank
        | float other =>
            exact absurd (congrArg float (Double.rank_eq_iff.mp sameRank)) differ

end Number

end Docket
