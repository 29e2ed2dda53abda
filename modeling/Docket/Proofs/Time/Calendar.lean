import Docket.Time.Calendar

/-!
# Days and dates

The date of a day is a date of the calendar, and its number is the number of the
day (`dayNumber_ofDayNumber`). The year is found from an estimate. The estimate is
at most one year off, because 400 years have 146097 days and the days before a year
differ from that mean by less than two; so the year that is found begins at the day
or before it, and the next one begins behind it. Within a year there are few days,
and the months are looked up one by one.
-/

set_option autoImplicit false

namespace Docket.Date

/-- A year has 365 days, and one more if it is a leap year. -/
theorem daysBeforeYear_succ (year : Int) :
    daysBeforeYear (year + 1) =
      daysBeforeYear year + if isLeapYear year then 366 else 365 := by
  unfold daysBeforeYear isLeapYear
  by_cases fourth : year % 4 = 0
  · by_cases hundredth : year % 100 = 0
    · by_cases fourHundredth : year % 400 = 0
      · simp [fourth, fourHundredth]
        omega
      · simp [fourth, hundredth, fourHundredth]
        omega
    · simp [fourth, hundredth]
      omega
  · simp [fourth]
    omega

/-- A year is found that holds the day. -/
theorem yearOf_holds (day : Int) :
    daysBeforeYear (yearOf day) ≤ day ∧ day < daysBeforeYear (yearOf day + 1) := by
  have estimated : day * 400 / 146097 * 146097 ≤ day * 400 ∧
      day * 400 < day * 400 / 146097 * 146097 + 146097 := by
    omega
  unfold yearOf
  generalize day * 400 / 146097 = estimate at estimated
  have notLater : daysBeforeYear (estimate - 1) ≤ day := by
    unfold daysBeforeYear
    omega
  have notEarlier : day < daysBeforeYear (estimate + 1 + 1) := by
    unfold daysBeforeYear
    omega
  dsimp only
  split
  · next before => exact ⟨notLater, by rwa [Int.sub_add_cancel]⟩
  · next notBefore =>
      split
      · next behind => exact ⟨behind, notEarlier⟩
      · next notBehind => exact ⟨Int.not_lt.mp notBefore, Int.not_le.mp notBehind⟩

/-- A month is found that holds a day of a year. -/
theorem monthOf_holds (leap : Bool) {dayOfYear : Nat}
    (inYear : dayOfYear < if leap then 366 else 365) :
    (1 ≤ monthOf leap dayOfYear ∧ monthOf leap dayOfYear ≤ 12) ∧
      daysBeforeMonth leap (monthOf leap dayOfYear) ≤ dayOfYear ∧
        dayOfYear < daysBeforeMonth leap (monthOf leap dayOfYear + 1) := by
  have lookedUp : ∀ leap : Bool, ∀ dayOfYear < if leap then 366 else 365,
      (1 ≤ monthOf leap dayOfYear ∧ monthOf leap dayOfYear ≤ 12) ∧
        daysBeforeMonth leap (monthOf leap dayOfYear) ≤ dayOfYear ∧
          dayOfYear < daysBeforeMonth leap (monthOf leap dayOfYear + 1) := by
    decide +kernel
  exact lookedUp leap dayOfYear inYear

/-- The day of the year of a day is a day of its year. -/
theorem dayOfYear_lt (day : Int) :
    (day - daysBeforeYear (yearOf day)).toNat <
      if isLeapYear (yearOf day) then 366 else 365 := by
  obtain ⟨begins, ends⟩ := yearOf_holds day
  rw [daysBeforeYear_succ] at ends
  split at ends
  · next leap =>
      rw [if_pos leap]
      omega
  · next common =>
      rw [if_neg common]
      omega

/-- **The date of a day has the number of the day.** -/
theorem dayNumber_ofDayNumber (number : Int) : dayNumber (ofDayNumber number) = number := by
  have begins := (yearOf_holds (number + epochDay)).1
  have inMonth := (monthOf_holds _ (dayOfYear_lt (number + epochDay))).2.1
  unfold dayNumber ofDayNumber
  dsimp only
  omega

/-- **The date of a day is in the calendar.** -/
theorem isValid_ofDayNumber (number : Int) : (ofDayNumber number).isValid = true := by
  obtain ⟨⟨first, last⟩, begins, ends⟩ := monthOf_holds _ (dayOfYear_lt (number + epochDay))
  unfold isValid ofDayNumber monthLength
  dsimp only
  simp only [Bool.and_eq_true, decide_eq_true_eq]
  omega

/-- The month and the day of a date of the calendar have two digits. -/
theorem lt_hundred_of_isValid {date : Date} (valid : date.isValid = true) :
    date.month < 100 ∧ date.day < 100 := by
  have lookedUp : ∀ leap : Bool, ∀ month ≤ 12, monthLength leap month ≤ 31 := by
    decide
  simp only [isValid, Bool.and_eq_true, decide_eq_true_eq] at valid
  have short := lookedUp (isLeapYear date.year) date.month valid.1.1.2
  omega

end Docket.Date
