import Docket.Time.Instant
import Mathlib.Data.Prod.Lex

/-!
# Instants in order

Instants are ordered by their seconds, and instants of one second by their nanoseconds,
so that a leap second comes after all of the second before it. This is a linear order,
and comparing two instants decides it (`compare_eq_lt_iff`, `compare_eq_gt_iff`).
-/

set_option autoImplicit false

namespace Docket.Instant

/-- The second and the nanosecond of an instant, in the order of their weight. -/
def position (instant : Instant) : Int ×ₗ Nat :=
  toLex (instant.second, instant.nano)

theorem position_injective : Function.Injective position := by
  intro left right equal
  obtain ⟨seconds, nanos⟩ := Prod.mk.inj (toLex.injective equal)
  cases left
  cases right
  subst seconds
  subst nanos
  rfl

instance (priority := low) : LinearOrder Instant :=
  LinearOrder.lift' position position_injective

theorem lt_iff {left right : Instant} :
    left < right ↔
      left.second < right.second ∨ left.second = right.second ∧ left.nano < right.nano :=
  Prod.Lex.toLex_lt_toLex

/-- Comparing instants decides their order. -/
theorem compare_eq_lt_iff {left right : Instant} : left.compare right = .lt ↔ left < right := by
  rw [lt_iff, Instant.compare, Ordering.then_eq_lt, Int.compare_eq_lt, Int.compare_eq_eq,
    Nat.compare_eq_lt]

theorem compare_eq_gt_iff {left right : Instant} : left.compare right = .gt ↔ right < left := by
  rw [lt_iff, Instant.compare, Ordering.then_eq_gt, Int.compare_eq_gt, Int.compare_eq_eq,
    Nat.compare_eq_gt, eq_comm]

theorem compare_swap (left right : Instant) : right.compare left = (left.compare right).swap := by
  rw [Instant.compare, Instant.compare, Ordering.swap_then]
  congr 1 <;> exact Std.OrientedOrd.eq_swap

theorem isLE_compare_iff {left right : Instant} : (left.compare right).isLE ↔ left ≤ right := by
  rw [← not_lt, ← compare_eq_gt_iff]
  cases left.compare right <;> decide

end Docket.Instant
