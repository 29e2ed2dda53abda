import Docket.Proofs.Text.Digits

/-!
# The order of digits

Numbers that are written with one count of digits are ordered as they are written
(`map_places_append_lt_iff`), whichever marks the digits are written with. In every base up to
sixteen they are so as texts (`padded_append_lt_iff`): the characters of the digits are in the
order of the digits, letters behind decimal digits. What follows the digits decides between equal
numbers, so that a row of numbers can be compared part by part.
-/

set_option autoImplicit false

namespace Docket

/-- **An order within an order.** When a coarse order and one within it together are one order,
what is finer still decides between what is equal in both. -/
theorem within_iff {coarse level fine tie less same finer : Prop}
    (orders : coarse ∨ level ∧ fine ↔ less) (equals : level ∧ tie ↔ same) :
    (coarse ∨ level ∧ (fine ∨ tie ∧ finer)) ↔ less ∨ same ∧ finer := by
  rw [← orders, ← equals, and_or_left, ← and_assoc, or_assoc]

namespace Text

/-- Numbers are equal if all digits but the last are, and the last one. -/
theorem quotient_eq_iff (base first second : Nat) :
    first / base = second / base ∧ first % base = second % base ↔ first = second := by
  constructor
  · rintro ⟨quotients, remainders⟩
    rw [← Nat.div_add_mod first base, quotients, remainders, Nat.div_add_mod]
  · rintro rfl
    exact ⟨rfl, rfl⟩

/-- Numbers are ordered by all digits but the last, and then by the last one. -/
theorem quotient_lt_iff (base first second : Nat) :
    first / base < second / base ∨
        first / base = second / base ∧ first % base < second % base ↔
      first < second := by
  rcases Nat.lt_trichotomy (first / base) (second / base) with less | equal | greater
  · exact iff_of_true (.inl less) (Nat.lt_of_div_lt_div less)
  · have firstParts := Nat.div_add_mod first base
    have secondParts := Nat.div_add_mod second base
    rw [equal] at firstParts
    omega
  · have behind : second < first := Nat.lt_of_div_lt_div greater
    omega

/-- The digits of a number as numbers, with as many of them as asked for. -/
def places (base : Nat) : (width value : Nat) → List Nat
  | 0, _ => []
  | width + 1, value => places base width (value / base) ++ [value % base]

theorem map_digitChar_places (base width value : Nat) :
    (places base width value).map Nat.digitChar = padded base width value := by
  induction width generalizing value with
  | zero => rfl
  | succ width ih => rw [places, padded, List.map_append, ih, List.map_singleton]

section Marks

variable {Mark : Type} [LT Mark] {mark : Nat → Mark} {base : Nat}

/-- **Numbers written with one count of digits are ordered as they are written**, whichever marks
the digits are written with, if these are in the order of the digits. What follows decides between
equal numbers. -/
theorem map_places_append_lt_iff (positive : 0 < base)
    (ordered : ∀ first < base, ∀ second < base,
      (mark first < mark second ↔ first < second) ∧
        (mark first = mark second ↔ first = second))
    {width first second : Nat} (firstFits : first < base ^ width)
    (secondFits : second < base ^ width) {behind other : List Mark} :
    (places base width first).map mark ++ behind < (places base width second).map mark ++ other ↔
      first < second ∨ first = second ∧ behind < other := by
  induction width generalizing first second behind other with
  | zero =>
      obtain rfl := Nat.lt_one_iff.mp firstFits
      obtain rfl := Nat.lt_one_iff.mp secondFits
      simp [places]
  | succ width ih =>
      obtain ⟨less, equal⟩ := ordered (first % base) (Nat.mod_lt first positive) (second % base)
        (Nat.mod_lt second positive)
      rw [Nat.pow_succ'] at firstFits secondFits
      simp only [places, List.map_append, List.append_assoc, List.map_singleton,
        List.singleton_append]
      rw [ih (Nat.div_lt_of_lt_mul firstFits) (Nat.div_lt_of_lt_mul secondFits),
        List.cons_lt_cons_iff, less, equal]
      exact within_iff (quotient_lt_iff base first second) (quotient_eq_iff base first second)

/-- Nothing follows, so that the numbers alone decide. -/
theorem map_places_lt_iff [Std.Irrefl fun first second : Mark => first < second]
    (positive : 0 < base)
    (ordered : ∀ first < base, ∀ second < base,
      (mark first < mark second ↔ first < second) ∧
        (mark first = mark second ↔ first = second))
    {width first second : Nat} (firstFits : first < base ^ width)
    (secondFits : second < base ^ width) :
    (places base width first).map mark < (places base width second).map mark ↔
      first < second := by
  have decided : _ ↔ first < second ∨ first = second ∧ ([] : List Mark) < [] :=
    map_places_append_lt_iff positive ordered firstFits secondFits
  simpa only [List.append_nil, List.lt_irrefl, and_false, or_false] using decided

end Marks

section Characters

variable {base : Nat}

theorem digitChar_ordered (small : base ≤ 16) : ∀ first < base, ∀ second < base,
    (Nat.digitChar first < Nat.digitChar second ↔ first < second) ∧
      (Nat.digitChar first = Nat.digitChar second ↔ first = second) := by
  have lookedUp : ∀ first < 16, ∀ second < 16,
      (Nat.digitChar first < Nat.digitChar second ↔ first < second) ∧
        (Nat.digitChar first = Nat.digitChar second ↔ first = second) := by
    decide
  intro first firstDigit second secondDigit
  exact lookedUp first (Nat.lt_of_lt_of_le firstDigit small) second
    (Nat.lt_of_lt_of_le secondDigit small)

/-- **Numbers written with one count of digits are ordered as texts as they are as numbers**,
and what follows decides between equal ones. -/
theorem padded_append_lt_iff (positive : 0 < base) (small : base ≤ 16)
    {width first second : Nat} (firstFits : first < base ^ width)
    (secondFits : second < base ^ width) {behind other : List Char} :
    padded base width first ++ behind < padded base width second ++ other ↔
      first < second ∨ first = second ∧ behind < other := by
  rw [← map_digitChar_places, ← map_digitChar_places]
  exact map_places_append_lt_iff positive (digitChar_ordered small) firstFits secondFits

theorem padded_lt_iff (positive : 0 < base) (small : base ≤ 16) {width first second : Nat}
    (firstFits : first < base ^ width) (secondFits : second < base ^ width) :
    padded base width first < padded base width second ↔ first < second := by
  rw [← map_digitChar_places, ← map_digitChar_places]
  exact map_places_lt_iff positive (digitChar_ordered small) firstFits secondFits

end Characters

end Text

end Docket
