import Docket.Proofs.Json.Beginnings
import Docket.Proofs.Store.Reads

/-!
# The order of fields

Comparing two fields the other way round gives the reverse (`compareFields_swap`). Values of
different kinds are ordered by their kinds, and the values of any one kind but strings are in a
total order. Strings are compared in two ways. Two timestamps are compared as instants, and a
timestamp and a string that is none as texts. A string between two timestamps can therefore ask
for the one order of them, and their instants for the other.

So the comparison is transitive on some values exactly if there is no such string among them
(`totalPreorder_iff`). It is transitive on timestamps alone, and on strings that are none
(`TransitiveOn.of_alike`). It is not on all values: two timestamps with different offsets and a
time without one go round in a circle (`timestamps_around`).
-/

set_option autoImplicit false

namespace Docket.Sorting

/-! ## Values of different kinds -/

section

variable {left right : Json}

theorem compareValues_of_kind_ne (differ : left.kind ≠ right.kind) :
    compareValues left right = compare left.text right.text := by
  cases left <;> cases right <;> first | exact absurd rfl differ | rfl

/-- A value of a smaller kind comes before any value of a greater one. -/
theorem compareValues_of_kind_lt (leftPresent : left.isNull = false)
    (rightPresent : right.isNull = false) (less : left.kind < right.kind) :
    compareValues left right = .lt := by
  rw [compareValues_of_kind_ne less.ne, compare_lt_iff_lt]
  exact Json.text_lt_of_kind_lt leftPresent rightPresent less

end

/-! ## Comparing the other way round -/

theorem compareValues_swap (left right : Json) :
    compareValues right left = (compareValues left right).swap := by
  cases left <;> cases right
  case string.string first second =>
    simp only [compareValues]
    cases Rfc3339.parse? first <;> cases Rfc3339.parse? second
    · exact Std.OrientedOrd.eq_swap
    · exact Std.OrientedOrd.eq_swap
    · exact Std.OrientedOrd.eq_swap
    · exact Instant.compare_swap _ _
  all_goals exact Std.OrientedOrd.eq_swap

/-- **Comparing fields the other way round** gives the reverse. -/
theorem compareFields_swap (left right : Option Json) :
    compareFields right left = (compareFields left right).swap := by
  unfold compareFields
  cases present left <;> cases present right
  · rfl
  · rfl
  · rfl
  · exact compareValues_swap _ _

/-! ## Strings -/

section

variable {first second : String}

theorem isLE_timestamps_iff {start finish : Instant}
    (isStart : Rfc3339.parse? first = some start)
    (isFinish : Rfc3339.parse? second = some finish) :
    (compareValues (.string first) (.string second)).isLE ↔ start ≤ finish := by
  rw [compareValues_timestamps isStart isFinish]
  exact Instant.isLE_compare_iff

/-- Strings are compared as texts, unless both are timestamps. -/
theorem isLE_texts_iff
    (notBoth : Rfc3339.parse? first = none ∨ Rfc3339.parse? second = none) :
    (compareValues (.string first) (.string second)).isLE ↔ first ≤ second := by
  have asTexts : compareValues (.string first) (.string second) = compare first second := by
    simp only [compareValues]
    split
    · next isFirst isSecond => simp [isFirst, isSecond] at notBoth
    · rfl
  rw [asTexts]
  exact Std.LawfulBCmp.isLE_iff_le

end

/-- **A text is between timestamps that are the other way round as instants**, or are one
instant. It is no timestamp itself. -/
structure Interleaved (first between last : String) : Prop where
  noTimestamp : Rfc3339.parse? between = none
  behindFirst : first < between
  beforeLast : between < last
  instants : ∃ start finish, Rfc3339.parse? first = some start ∧
    Rfc3339.parse? last = some finish ∧ finish ≤ start

theorem ne_of_timestamp {timestamp text : String} {instant : Instant}
    (isTimestamp : Rfc3339.parse? timestamp = some instant)
    (noTimestamp : Rfc3339.parse? text = none) : timestamp ≠ text := by
  rintro rfl
  rw [isTimestamp] at noTimestamp
  cases noTimestamp

/-- **The order of three strings is transitive**, if none of them is interleaved with the
other two on the way round. -/
theorem compareValues_strings_trans {first second third : String}
    (secondFree : ¬ Interleaved first second third) (thirdFree : ¬ Interleaved second third first)
    (firstFree : ¬ Interleaved third first second)
    (before : (compareValues (.string first) (.string second)).isLE)
    (behind : (compareValues (.string second) (.string third)).isLE) :
    (compareValues (.string first) (.string third)).isLE := by
  cases isFirst : Rfc3339.parse? first with
  | none =>
      rw [isLE_texts_iff (.inl isFirst)] at before ⊢
      cases isSecond : Rfc3339.parse? second with
      | none => exact before.trans ((isLE_texts_iff (.inl isSecond)).mp behind)
      | some start =>
          cases isThird : Rfc3339.parse? third with
          | none => exact before.trans ((isLE_texts_iff (.inr isThird)).mp behind)
          | some finish =>
              rw [isLE_timestamps_iff isSecond isThird] at behind
              refine le_of_not_gt fun less => firstFree ⟨isFirst, less, ?_, ?_⟩
              · exact before.lt_of_ne (ne_of_timestamp isSecond isFirst).symm
              · exact ⟨finish, start, isThird, isSecond, behind⟩
  | some start =>
      cases isThird : Rfc3339.parse? third with
      | none =>
          rw [isLE_texts_iff (.inr isThird)] at behind ⊢
          cases isSecond : Rfc3339.parse? second with
          | none => exact ((isLE_texts_iff (.inr isSecond)).mp before).trans behind
          | some finish =>
              rw [isLE_timestamps_iff isFirst isSecond] at before
              refine le_of_not_gt fun less => thirdFree ⟨isThird, ?_, less, ?_⟩
              · exact behind.lt_of_ne (ne_of_timestamp isSecond isThird)
              · exact ⟨finish, start, isSecond, isFirst, before⟩
      | some finish =>
          rw [isLE_timestamps_iff isFirst isThird]
          cases isSecond : Rfc3339.parse? second with
          | none =>
              rw [isLE_texts_iff (.inr isSecond)] at before
              rw [isLE_texts_iff (.inl isSecond)] at behind
              refine le_of_not_ge fun back => secondFree ⟨isSecond, ?_, ?_, ?_⟩
              · exact before.lt_of_ne (ne_of_timestamp isFirst isSecond)
              · exact behind.lt_of_ne (ne_of_timestamp isThird isSecond).symm
              · exact ⟨start, finish, isFirst, isThird, back⟩
          | some middle =>
              rw [isLE_timestamps_iff isFirst isSecond] at before
              rw [isLE_timestamps_iff isSecond isThird] at behind
              exact before.trans behind

/-! ## All values -/

/-- Some strings of a set are interleaved. -/
def Tangled (values : Set (Option Json)) : Prop :=
  ∃ first between last, some (.string first) ∈ values ∧ some (.string between) ∈ values ∧
    some (.string last) ∈ values ∧ Interleaved first between last

/-- The comparison is transitive on a set of values. -/
def TransitiveOn (values : Set (Option Json)) : Prop :=
  ∀ first ∈ values, ∀ second ∈ values, ∀ third ∈ values,
    (compareFields first second).isLE → (compareFields second third).isLE →
      (compareFields first third).isLE

/-- A value does not come behind one of a smaller kind. -/
theorem kind_le_of_isLE {left right : Json} (leftPresent : left.isNull = false)
    (rightPresent : right.isNull = false) (ordered : (compareValues left right).isLE) :
    left.kind ≤ right.kind := by
  by_contra less
  rw [compareValues_swap, compareValues_of_kind_lt rightPresent leftPresent (Nat.not_le.mp less)]
    at ordered
  cases ordered

section

variable {values : Set (Option Json)} (free : ¬ Tangled values) {first second third : Json}
  (isFirst : some first ∈ values) (isSecond : some second ∈ values)
  (isThird : some third ∈ values)
  (before : (compareValues first second).isLE) (behind : (compareValues second third).isLE)

include free isFirst isSecond isThird before behind

/-- Values of one kind other than strings are compared by numbers or by texts alone. -/
theorem compareValues_trans_of_kind_eq (firstKind : first.kind = second.kind)
    (secondKind : second.kind = third.kind) : (compareValues first third).isLE := by
  cases first <;> cases second <;> cases firstKind <;> cases third <;> cases secondKind
  case string.string.refl.string.refl first second third =>
    have apart : ∀ first between last, some (.string first) ∈ values →
        some (.string between) ∈ values → some (.string last) ∈ values →
          ¬ Interleaved first between last := by
      intro first between last isFirst isBetween isLast interleaved
      exact free ⟨first, between, last, isFirst, isBetween, isLast, interleaved⟩
    exact compareValues_strings_trans (apart _ _ _ isFirst isSecond isThird)
      (apart _ _ _ isSecond isThird isFirst) (apart _ _ _ isThird isFirst isSecond) before behind
  all_goals exact Std.TransOrd.isLE_trans before behind

theorem compareValues_trans (firstPresent : first.isNull = false)
    (secondPresent : second.isNull = false) (thirdPresent : third.isNull = false) :
    (compareValues first third).isLE := by
  have upToSecond := kind_le_of_isLE firstPresent secondPresent before
  have upToThird := kind_le_of_isLE secondPresent thirdPresent behind
  by_cases less : first.kind < third.kind
  · rw [compareValues_of_kind_lt firstPresent thirdPresent less]
    rfl
  · exact compareValues_trans_of_kind_eq free isFirst isSecond isThird before behind
      (by omega) (by omega)

end

/-- A field that is missing or null, or a value that is there. -/
theorem present_cases (field : Option Json) :
    present field = none ∨ ∃ value, field = some value ∧ value.isNull = false ∧
      present field = some value := by
  cases field with
  | none => exact .inl rfl
  | some value =>
      cases isNull : value.isNull with
      | true => exact .inl (by simp [present, isNull])
      | false => exact .inr ⟨value, rfl, isNull, by simp [present, isNull]⟩

theorem TransitiveOn.of_not_tangled {values : Set (Option Json)} (free : ¬ Tangled values) :
    TransitiveOn values := by
  intro first isFirst second isSecond third isThird before behind
  unfold compareFields at before behind ⊢
  rcases present_cases first with noFirst | ⟨one, rfl, firstPresent, hasFirst⟩
  · rw [noFirst]
    cases present third <;> rfl
  rcases present_cases second with noSecond | ⟨two, rfl, secondPresent, hasSecond⟩
  · rw [hasFirst, noSecond] at before
    cases before
  rcases present_cases third with noThird | ⟨three, rfl, thirdPresent, hasThird⟩
  · rw [hasSecond, noThird] at behind
    cases behind
  rw [hasFirst, hasSecond] at before
  rw [hasSecond, hasThird] at behind
  rw [hasFirst, hasThird]
  exact compareValues_trans free isFirst isSecond isThird before behind firstPresent secondPresent
    thirdPresent

/-- The last of interleaved strings is not behind the first, the first is before the one
between, and the last is behind that. -/
theorem Interleaved.around {first between last : String}
    (interleaved : Interleaved first between last) :
    (compareValues (.string last) (.string first)).isLE ∧
      (compareValues (.string first) (.string between)).isLE ∧
        ¬ (compareValues (.string last) (.string between)).isLE := by
  obtain ⟨noTimestamp, behindFirst, beforeLast, start, finish, isFirst, isLast, ordered⟩ :=
    interleaved
  rw [isLE_timestamps_iff isLast isFirst, isLE_texts_iff (.inr noTimestamp),
    isLE_texts_iff (.inr noTimestamp)]
  exact ⟨ordered, behindFirst.le, not_le.mpr beforeLast⟩

/-- **The order is transitive where strings are alike**: where all of them are timestamps, and
where none of them is. -/
theorem TransitiveOn.of_alike {values : Set (Option Json)}
    (alike : (∀ text, some (.string text) ∈ values → Rfc3339.parse? text ≠ none) ∨
      ∀ text, some (.string text) ∈ values → Rfc3339.parse? text = none) :
    TransitiveOn values := by
  apply TransitiveOn.of_not_tangled
  rintro ⟨first, between, last, isFirst, isBetween, _, interleaved⟩
  rcases alike with all | none
  · exact all between isBetween interleaved.noTimestamp
  · obtain ⟨start, finish, isStart, _⟩ := interleaved.instants
    rw [none first isFirst] at isStart
    cases isStart

/-- **When the comparison of fields is a total preorder.** Any two fields compare the other way
round in reverse. The comparison is transitive on fields exactly if no strings among them are
interleaved. -/
theorem totalPreorder_iff (values : Set (Option Json)) :
    (∀ left right, compareFields right left = (compareFields left right).swap) ∧
      (TransitiveOn values ↔ ¬ Tangled values) := by
  refine ⟨compareFields_swap, ?_, TransitiveOn.of_not_tangled⟩
  rintro transitive ⟨first, between, last, isFirst, isBetween, isLast, interleaved⟩
  obtain ⟨before, behind, notAround⟩ := interleaved.around
  exact notAround (transitive _ isLast _ isFirst _ isBetween before behind)

/-- **Three times go round in a circle.** The one without an offset is a text between the other
two, and these are the other way round as instants. -/
theorem timestamps_around :
    let morning : Option Json := some (.string "2024-01-01T06:00:00Z")
    let withoutOffset : Option Json := some (.string "2024-01-01T08:00")
    let midnight : Option Json := some (.string "2024-01-01T12:00:00+12:00")
    compareFields morning withoutOffset = .lt ∧ compareFields withoutOffset midnight = .lt ∧
      compareFields morning midnight = .gt := by
  decide +kernel

end Docket.Sorting
