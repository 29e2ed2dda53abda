import Docket.Proofs.Number.Integers

/-!
# Rounding keeps the order of integers

A greater integer does not have a smaller double (`rank_ofInt_mono`). Integers of one number of
bits are rounded at the same place, where rounding a quotient is monotone
(`roundedQuotient_mono`). An integer of fewer bits has a smaller exponent, and its significand
reaches at most the least one of the next exponent, when rounding carries.

So two integers compare as their doubles do, unless they have the same double
(`compare_rank_ofInt`).
-/

set_option autoImplicit false

namespace Docket.Double

/-- A greater numerator does not have a smaller rounded quotient: if the quotients are the same,
it has the greater remainder. -/
theorem roundedQuotient_mono {first second : Nat} (denominator : Nat) (ordered : first ≤ second) :
    roundedQuotient first denominator ≤ roundedQuotient second denominator := by
  have quotients := Nat.div_le_div_right (c := denominator) ordered
  rcases Nat.lt_or_eq_of_le quotients with less | same
  · have firstBound := (roundedQuotient_bounds first denominator).2
    have secondBound := (roundedQuotient_bounds second denominator).1
    omega
  · have firstSplit := Nat.div_add_mod first denominator
    have secondSplit := Nat.div_add_mod second denominator
    rw [same] at firstSplit
    unfold roundedQuotient
    dsimp only
    rw [same]
    split
    · split <;> (try split) <;> omega
    · split <;> split <;> (try split) <;> omega

/-- Of integers with the same number of bits, the greater one does not have the smaller
significand. -/
theorem integerSignificand_mono {first second : Nat} (sameLength : first.log2 = second.log2)
    (ordered : first ≤ second) : integerSignificand first ≤ integerSignificand second := by
  unfold integerSignificand
  rw [sameLength]
  split
  · exact Nat.mul_le_mul_right _ ordered
  · exact roundedQuotient_mono _ ordered

/-- A greater integer does not have a double of smaller magnitude. -/
theorem magnitude_ofInt_mono {first second : Int} (fits : second.natAbs < 2 ^ 64)
    (ordered : first.natAbs ≤ second.natAbs) :
    (ofInt first).magnitude ≤ (ofInt second).magnitude := by
  by_cases isZero : first.natAbs = 0
  · obtain rfl := Int.natAbs_eq_zero.mp isZero
    exact Nat.zero_le _
  have positive : second.natAbs ≠ 0 := by omega
  rw [(ofInt_of_ne_zero isZero (ordered.trans_lt fits)).2, (ofInt_of_ne_zero positive fits).2]
  have firstBounds := integerSignificand_bounds isZero
  have secondBounds := integerSignificand_bounds positive
  have lengths : first.natAbs.log2 ≤ second.natAbs.log2 :=
    (Nat.le_log2 positive).mpr ((Nat.log2_self_le isZero).trans ordered)
  rcases Nat.lt_or_eq_of_le lengths with shorter | same
  · omega
  · have significands := integerSignificand_mono same ordered
    omega

/-- The double of an integer has its sign. -/
theorem rank_ofInt {value : Int} (fits : value.natAbs < 2 ^ 64) :
    (ofInt value).rank =
      if value < 0 then -((ofInt value).magnitude : Int) else (ofInt value).magnitude := by
  by_cases isZero : value.natAbs = 0
  · obtain rfl := Int.natAbs_eq_zero.mp isZero
    rfl
  · unfold rank
    rw [(ofInt_of_ne_zero isZero fits).1]
    simp only [decide_eq_true_eq]

/-- **Rounding keeps the order of integers.** -/
theorem rank_ofInt_mono {first second : Int} (firstFits : first.natAbs < 2 ^ 64)
    (secondFits : second.natAbs < 2 ^ 64) (ordered : first ≤ second) :
    (ofInt first).rank ≤ (ofInt second).rank := by
  rw [rank_ofInt firstFits, rank_ofInt secondFits]
  by_cases negative : second < 0
  · have magnitudes := magnitude_ofInt_mono firstFits (by omega : second.natAbs ≤ first.natAbs)
    rw [if_pos negative, if_pos (by omega)]
    omega
  · rw [if_neg negative]
    split
    · omega
    · have magnitudes := magnitude_ofInt_mono secondFits
        (by omega : first.natAbs ≤ second.natAbs)
      omega

/-- **Integers with different doubles compare as these do.** -/
theorem compare_rank_ofInt {first second : Int} (firstFits : first.natAbs < 2 ^ 64)
    (secondFits : second.natAbs < 2 ^ 64)
    (apart : (ofInt first).rank = (ofInt second).rank → first = second) :
    compare (ofInt first).rank (ofInt second).rank = compare first second := by
  rcases lt_trichotomy first second with less | rfl | greater
  · have ranks := rank_ofInt_mono firstFits secondFits less.le
    have differ : (ofInt first).rank ≠ (ofInt second).rank := fun same => less.ne (apart same)
    rw [compare_lt_iff_lt.mpr less, compare_lt_iff_lt.mpr (lt_of_le_of_ne ranks differ)]
  · rw [compare_eq_iff_eq.mpr rfl, compare_eq_iff_eq.mpr rfl]
  · have ranks := rank_ofInt_mono secondFits firstFits greater.le
    have differ : (ofInt second).rank ≠ (ofInt first).rank :=
      fun same => greater.ne' (apart same.symm)
    rw [compare_gt_iff_gt.mpr greater, compare_gt_iff_gt.mpr (lt_of_le_of_ne ranks differ)]

end Docket.Double
