import Docket.Proofs.Text.DigitOrder
import Docket.Proofs.Time.Order
import Docket.Proofs.Time.Timestamps

/-!
# The order of timestamps as texts

The stored text of an instant is a row of numbers, each with a fixed count of digits, so two
such texts are ordered as the rows of their numbers are (`characters_lt_iff`). The rows are
ordered as the instants, to the millisecond (`numbers_lt_iff`), because

* dates are ordered by year, month and day as their days are counted (`Date.dayNumber_lt_iff`),
* the seconds of a day are ordered by hour, minute and second (`clock_lt_iff`), and
* a leap second, which is no second of its own, is written as second 60 and so stays behind the
  second that it prolongs (`leapSecond_lt_iff`).

Each step says that what is finer decides between equal ones, so that the steps can be put
together.
-/

set_option autoImplicit false

namespace Docket

namespace Date

/-- A year ends before any later one begins. -/
theorem daysBeforeYear_succ_le {first second : Int} (before : first < second) :
    daysBeforeYear (first + 1) ≤ daysBeforeYear second := by
  unfold daysBeforeYear
  omega

/-- A month ends before any later one of its year begins, and with the year at the latest. -/
theorem daysBeforeMonth_succ_le (leap : Bool) {first second : Nat} (before : first < second)
    (inYear : second ≤ 13) :
    daysBeforeMonth leap (first + 1) ≤ daysBeforeMonth leap second := by
  have lookedUp : ∀ leap : Bool, ∀ second ≤ 13, ∀ first < second,
      daysBeforeMonth leap (first + 1) ≤ daysBeforeMonth leap second := by
    decide
  exact lookedUp leap second inYear first before

/-- The order of dates, by the year, then the month, then the day. -/
def Before (first second : Date) : Prop :=
  first.year < second.year ∨ first.year = second.year ∧
    (first.month < second.month ∨ first.month = second.month ∧ first.day < second.day)

/-- A date of the calendar lies in its month, and in its year. -/
theorem dayNumber_bounds {date : Date} (valid : date.isValid = true) :
    daysBeforeYear date.year + daysBeforeMonth (isLeapYear date.year) date.month ≤
        date.dayNumber + epochDay ∧
      date.dayNumber + epochDay <
        daysBeforeYear date.year + daysBeforeMonth (isLeapYear date.year) (date.month + 1) ∧
      date.dayNumber + epochDay < daysBeforeYear (date.year + 1) := by
  simp only [isValid, Bool.and_eq_true, decide_eq_true_eq] at valid
  obtain ⟨⟨⟨-, lastMonth⟩, firstDay⟩, lastDay⟩ := valid
  have inYear := daysBeforeMonth_succ_le (isLeapYear date.year)
    (by omega : date.month < 13) (Nat.le_refl 13)
  have yearLength : (if isLeapYear date.year then 366 else 365 : Int) =
      daysBeforeMonth (isLeapYear date.year) 13 := by
    cases isLeapYear date.year <;> rfl
  rw [monthLength] at lastDay
  rw [daysBeforeYear_succ, yearLength, dayNumber]
  omega

theorem dayNumber_lt_of_before {first second : Date} (firstValid : first.isValid = true)
    (secondValid : second.isValid = true) (before : first.Before second) :
    first.dayNumber < second.dayNumber := by
  have firstBounds := dayNumber_bounds firstValid
  have secondBounds := dayNumber_bounds secondValid
  simp only [isValid, Bool.and_eq_true, decide_eq_true_eq] at secondValid
  rcases before with years | ⟨years, months | ⟨months, days⟩⟩
  · have ends := daysBeforeYear_succ_le years
    omega
  · have ends := daysBeforeMonth_succ_le (isLeapYear second.year) months (by omega)
    rw [years] at firstBounds
    omega
  · unfold dayNumber
    rw [years, months]
    omega

/-- **Dates of the calendar are ordered as their days are.** -/
theorem dayNumber_lt_iff {first second : Date} (firstValid : first.isValid = true)
    (secondValid : second.isValid = true) :
    first.dayNumber < second.dayNumber ↔ first.Before second := by
  refine ⟨fun less => ?_, dayNumber_lt_of_before firstValid secondValid⟩
  by_contra notBefore
  have behind : second.Before first ∨ first = second := by
    cases first
    cases second
    unfold Before at *
    simp only [mk.injEq] at *
    omega
  rcases behind with behind | rfl
  · exact absurd (dayNumber_lt_of_before secondValid firstValid behind) (by omega)
  · exact absurd less (by omega)

/-- Dates are ordered number by number, and what is finer decides between equal ones. -/
theorem before_or_eq_iff (first second : Date) (finer : Prop) :
    (first.year < second.year ∨ first.year = second.year ∧
      (first.month < second.month ∨ first.month = second.month ∧
        (first.day < second.day ∨ first.day = second.day ∧ finer))) ↔
      first.Before second ∨ first = second ∧ finer := by
  cases first
  cases second
  simp only [mk.injEq]
  rw [within_iff Iff.rfl Iff.rfl]
  exact within_iff (within_iff Iff.rfl Iff.rfl).symm and_assoc

end Date

namespace Instant

/-- The numbers in the text of an instant, from the year to the millisecond. -/
def numbers (instant : Instant) : List Nat :=
  [instant.date.year.toNat, instant.date.month, instant.date.day,
    (Rfc3339.fieldsOf .millis instant).hour, (Rfc3339.fieldsOf .millis instant).minute,
    (Rfc3339.fieldsOf .millis instant).second, instant.nano % 1000000000 / 1000000]

variable {first second : Instant}

/-- The times of a day are ordered by hour, minute and second, and what is finer decides between
equal ones. -/
theorem clock_lt_iff (first second : Instant) (finer : Prop) :
    ((Rfc3339.fieldsOf .millis first).hour < (Rfc3339.fieldsOf .millis second).hour ∨
      (Rfc3339.fieldsOf .millis first).hour = (Rfc3339.fieldsOf .millis second).hour ∧
        ((Rfc3339.fieldsOf .millis first).minute < (Rfc3339.fieldsOf .millis second).minute ∨
          (Rfc3339.fieldsOf .millis first).minute = (Rfc3339.fieldsOf .millis second).minute ∧
            (first.secondOfDay % 60 < second.secondOfDay % 60 ∨
              first.secondOfDay % 60 = second.secondOfDay % 60 ∧ finer))) ↔
      first.secondOfDay < second.secondOfDay ∨
        first.secondOfDay = second.secondOfDay ∧ finer := by
  have hours : ∀ time : Nat, time / 3600 = time / 60 / 60 := fun time =>
    (Nat.div_div_eq_div_mul time 60 60).symm
  have inSixties : ∀ time other : Nat,
      (time / 60 < other / 60 ∨ time / 60 = other / 60 ∧ time % 60 < other % 60 ↔
        time < other) ∧
        (time / 60 = other / 60 ∧ time % 60 = other % 60 ↔ time = other) := by
    omega
  have byHour := inSixties (first.secondOfDay / 60) (second.secondOfDay / 60)
  have byMinute := inSixties first.secondOfDay second.secondOfDay
  dsimp only [Rfc3339.fieldsOf]
  rw [hours, hours, within_iff byHour.1 byHour.2]
  exact within_iff byMinute.1 byMinute.2

/-- **A leap second is behind the second that it prolongs**, also as second 60. -/
theorem leapSecond_lt_iff (first second : Instant) :
    ((Rfc3339.fieldsOf .millis first).second < (Rfc3339.fieldsOf .millis second).second ∨
      (Rfc3339.fieldsOf .millis first).second = (Rfc3339.fieldsOf .millis second).second ∧
        first.nano % 1000000000 / 1000000 < second.nano % 1000000000 / 1000000) ↔
      first.secondOfDay % 60 < second.secondOfDay % 60 ∨
        first.secondOfDay % 60 = second.secondOfDay % 60 ∧
          (first.shown .millis).nano < (second.shown .millis).nano := by
  have firstNano := first.nano_lt
  have secondNano := second.nano_lt
  have firstLeap := fun leap => first.secondOfDay_of_leap leap
  have secondLeap := fun leap => second.secondOfDay_of_leap leap
  dsimp only [Rfc3339.fieldsOf, shown, Rfc3339.Fraction.kept]
  split <;> split <;> omega

/-- Instants are ordered by the day and the second of the day, and what is finer decides between
equal ones. -/
theorem second_lt_iff (first second : Instant) (finer : Prop) :
    (first.second / 86400 < second.second / 86400 ∨
      first.second / 86400 = second.second / 86400 ∧
      (first.secondOfDay < second.secondOfDay ∨
        first.secondOfDay = second.secondOfDay ∧ finer)) ↔
      first.second < second.second ∨ first.second = second.second ∧ finer := by
  unfold secondOfDay
  exact within_iff (by omega) (by omega)

theorem date_eq_iff (first second : Instant) :
    first.date = second.date ↔ first.second / 86400 = second.second / 86400 := by
  refine ⟨fun same => ?_, fun same => congrArg Date.ofDayNumber same⟩
  rw [← Date.dayNumber_ofDayNumber (first.second / 86400),
    ← Date.dayNumber_ofDayNumber (second.second / 86400)]
  exact congrArg Date.dayNumber same

theorem date_before_iff (first second : Instant) :
    first.date.Before second.date ↔ first.second / 86400 < second.second / 86400 := by
  rw [date, date,
    ← Date.dayNumber_lt_iff (Date.isValid_ofDayNumber _) (Date.isValid_ofDayNumber _),
    Date.dayNumber_ofDayNumber, Date.dayNumber_ofDayNumber]

/-- **The numbers of a text are ordered as the instants**, to the millisecond. -/
theorem numbers_lt_iff (firstYears : first.InFourDigitYear)
    (secondYears : second.InFourDigitYear) :
    first.numbers < second.numbers ↔ first.shown .millis < second.shown .millis := by
  have less : first.date.year.toNat < second.date.year.toNat ↔
      first.date.year < second.date.year := by
    have := firstYears.1
    have := secondYears.1
    omega
  have same : first.date.year.toNat = second.date.year.toNat ↔
      first.date.year = second.date.year := by
    have := firstYears.1
    have := secondYears.1
    omega
  simp only [numbers, List.cons_lt_cons_iff, List.not_lt_nil, and_false, or_false]
  rw [less, same, leapSecond_lt_iff, clock_lt_iff, Date.before_or_eq_iff, date_before_iff,
    date_eq_iff, second_lt_iff, lt_iff]
  rfl

end Instant

namespace Rfc3339

open Text

theorem cons_lt_cons_self (mark : Char) (first second : List Char) :
    mark :: first < mark :: second ↔ first < second := by
  rw [List.cons_lt_cons_iff]
  simp

theorem yearText_of_inYears {instant : Instant} (inYears : instant.InFourDigitYear) :
    yearText instant.date.year = padded 10 4 instant.date.year.toNat :=
  if_pos inYears

/-- **Stored texts are ordered as their numbers.** -/
theorem characters_lt_iff {first second : Instant} (firstYears : first.InFourDigitYear)
    (secondYears : second.InFourDigitYear) :
    characters .millis first < characters .millis second ↔ first.numbers < second.numbers := by
  have yearFits : ∀ {instant : Instant}, instant.InFourDigitYear →
      instant.date.year.toNat < 10 ^ 4 := fun {instant} inYears => by
    have := inYears.2
    omega
  have millisFits : ∀ instant : Instant, instant.nano % 1000000000 / 1000000 < 10 ^ 3 := by omega
  obtain ⟨firstMonth, firstDay, firstHour, firstMinute, firstSecond⟩ :=
    fieldsOf_fits .millis first
  obtain ⟨secondMonth, secondDay, secondHour, secondMinute, secondSecond⟩ :=
    fieldsOf_fits .millis second
  have ordered : ∀ {width first second : Nat}, first < 10 ^ width → second < 10 ^ width →
      ∀ {behind other : List Char},
        padded 10 width first ++ behind < padded 10 width second ++ other ↔
          first < second ∨ first = second ∧ behind < other := by
    intro width first second firstFits secondFits behind other
    exact padded_append_lt_iff (by decide) (by decide) firstFits secondFits
  rw [characters_eq, characters_eq, yearText_of_inYears firstYears,
    yearText_of_inYears secondYears, fractionText, fractionText,
    ordered (yearFits firstYears) (yearFits secondYears), cons_lt_cons_self,
    ordered firstMonth secondMonth, cons_lt_cons_self,
    ordered firstDay secondDay, cons_lt_cons_self,
    ordered firstHour secondHour, cons_lt_cons_self,
    ordered firstMinute secondMinute, cons_lt_cons_self,
    ordered firstSecond secondSecond, List.cons_append, List.cons_append,
    cons_lt_cons_self, ordered (millisFits first) (millisFits second)]
  simp only [Instant.numbers, List.cons_lt_cons_iff, List.lt_irrefl]

end Rfc3339

end Docket
