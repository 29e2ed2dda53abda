import Docket.Proofs.Text.Digits
import Docket.Proofs.Time.Calendar
import Docket.Time.UnixTime

/-!
# Timestamps are read back

A timestamp is read back from its text by the relaxed grammar, to the precision in
which it was written (`parseRelaxed?_render`): with the fewest digits nothing is lost,
and the stored form cuts it off to milliseconds. Leap seconds are no exception. They
are written as second 60, and second 60 is read as a leap second.

The strict grammar reads back the timestamps in years of four digits (`parse?_render`)
and no others, as any other year is written with a sign
(`parse?_render_of_outOfYears`).

The text of a timestamp is a row of numbers of a fixed count of digits, with a mark
behind each of them, so one lemma reads every number (`digits?_padded`).
-/

set_option autoImplicit false

namespace Docket

namespace Rfc3339

open Text

/-- What is left of the nanoseconds that are written. -/
def Fraction.kept (style : Fraction) (nano : Nat) : Nat :=
  match style with
  | .fewest => nano
  | .millis => nano / 1000000 * 1000000

theorem Fraction.kept_le (style : Fraction) (nano : Nat) : style.kept nano ≤ nano := by
  cases style with
  | fewest => exact Nat.le_refl nano
  | millis => exact Nat.div_mul_le_self nano 1000000

end Rfc3339

namespace Instant

/-- An instant in a year that is written with four digits. -/
def InFourDigitYear (instant : Instant) : Prop :=
  0 ≤ instant.date.year ∧ instant.date.year ≤ 9999

instance (instant : Instant) : Decidable instant.InFourDigitYear :=
  inferInstanceAs (Decidable (_ ∧ _))

/-- The years of four digits are an interval of seconds. -/
theorem inFourDigitYear_iff (instant : Instant) :
    instant.InFourDigitYear ↔
      -62167219200 ≤ instant.second ∧ instant.second ≤ 253402300799 := by
  obtain ⟨begins, ends⟩ := Date.yearOf_holds (instant.second / 86400 + Date.epochDay)
  show 0 ≤ Date.yearOf (instant.second / 86400 + Date.epochDay) ∧
    Date.yearOf (instant.second / 86400 + Date.epochDay) ≤ 9999 ↔ _
  generalize Date.yearOf (instant.second / 86400 + Date.epochDay) = year at begins ends
  unfold Date.daysBeforeYear Date.epochDay at begins ends
  omega

/-- Milliseconds of the years that are written with four digits. -/
def MillisInYears (millis : Int) : Prop :=
  -62167219200000 ≤ millis ∧ millis < 253402300800000

instance (millis : Int) : Decidable (MillisInYears millis) :=
  inferInstanceAs (Decidable (_ ∧ _))

section

variable {millis : Int} {instant : Instant} (found : ofMillis? millis = some instant)

include found

theorem second_of_ofMillis? : instant.second = millis / 1000 := by
  unfold ofMillis? ofSecond? at found
  split at found
  · rw [← Option.some.inj found]
  · cases found

/-- The instant of milliseconds has them. -/
theorem millis_of_ofMillis? : instant.millis = millis := by
  unfold ofMillis? ofSecond? at found
  split at found
  · rw [← Option.some.inj found]
    unfold Instant.millis
    dsimp only
    omega
  · cases found

/-- Milliseconds are in years of four digits if and only if their instant is. -/
theorem inFourDigitYear_of_ofMillis? : instant.InFourDigitYear ↔ MillisInYears millis := by
  have second := second_of_ofMillis? found
  rw [inFourDigitYear_iff, MillisInYears]
  omega

end

/-- An instant to the precision of a style. -/
def shown (style : Rfc3339.Fraction) (instant : Instant) : Instant where
  second := instant.second
  nano := style.kept instant.nano
  inRange := instant.inRange
  nano_lt := Nat.lt_of_le_of_lt (style.kept_le _) instant.nano_lt
  leap := instant.leap.imp_left (Nat.lt_of_le_of_lt (style.kept_le _))

variable (style : Rfc3339.Fraction) (instant : Instant)

theorem shown_fewest : instant.shown .fewest = instant := rfl

theorem date_shown : (instant.shown style).date = instant.date := rfl

/-- An instant to some precision is in the year that it was in. -/
theorem InFourDigitYear.shown {instant : Instant} (inYears : instant.InFourDigitYear)
    (style : Rfc3339.Fraction) : (instant.shown style).InFourDigitYear := by
  unfold InFourDigitYear
  rw [date_shown]
  exact inYears

theorem ofSecond?_self : ofSecond? instant.second instant.nano = some instant :=
  dif_pos ⟨instant.inRange, instant.nano_lt, instant.leap⟩

theorem secondOfDay_lt : instant.secondOfDay < 86400 := by
  unfold secondOfDay
  omega

/-- A second is named by its day and the second of the day. -/
theorem dayNumber_date :
    instant.date.dayNumber * 86400 + (instant.secondOfDay : Int) = instant.second := by
  rw [date, Date.dayNumber_ofDayNumber]
  unfold secondOfDay
  omega

/-- A leap second is the last second of a minute. -/
theorem secondOfDay_of_leap {instant : Instant} (leap : ¬ instant.nano < 1000000000) :
    instant.secondOfDay % 60 = 59 := by
  have last : instant.second % 60 = 59 := instant.leap.resolve_left leap
  unfold secondOfDay
  omega

theorem millis_shown : (instant.shown style).millis = instant.millis := by
  cases style with
  | fewest => rfl
  | millis =>
      have kept : instant.nano / 1000000 * 1000000 / 1000000 = instant.nano / 1000000 :=
        Nat.mul_div_cancel _ (by decide)
      rw [millis, millis]
      show instant.second * 1000 +
        ((instant.nano / 1000000 * 1000000 / 1000000 : Nat) : Int) = _
      rw [kept]

end Instant

namespace Rfc3339

open Text

/-! ## Numbers and marks -/

/-- A number is read up to the mark behind it. -/
theorem digits?_padded {least greatest width value : Nat} (enough : least ≤ width)
    (notMore : width ≤ greatest) (fits : value < 10 ^ width) {mark : Char}
    (isMark : isDigit mark = false) (rest : List Char) :
    digits? least greatest (padded 10 width value ++ mark :: rest) =
      some (value, mark :: rest) := by
  have ends : ((mark :: rest).take (greatest - width)).takeWhile isDigit = [] := by
    cases greatest - width with
    | zero => rfl
    | succ more =>
        rw [List.take_succ_cons, List.takeWhile_cons_of_neg]
        rw [isMark]
        exact Bool.false_ne_true
  have digits : ((padded 10 width value ++ mark :: rest).take greatest).takeWhile isDigit =
      padded 10 width value := by
    rw [List.take_append, List.take_of_length_le (by rw [length_padded]; exact notMore),
      length_padded, List.takeWhile_append_of_pos fun _ => isDigit_of_mem_padded, ends,
      List.append_nil]
  unfold digits?
  dsimp only
  rw [digits, length_padded, if_neg (Nat.not_lt.mpr enough),
    valueOf?_padded (fun _ => decimalDigit?_digitChar) fits, Option.map_some,
    List.drop_left' (length_padded 10 width value)]

/-- A number of a fixed count of digits is read. -/
theorem digits?_exact {width value : Nat} (fits : value < 10 ^ width) {mark : Char}
    (isMark : isDigit mark = false) (rest : List Char) :
    digits? width width (padded 10 width value ++ mark :: rest) = some (value, mark :: rest) :=
  digits?_padded (Nat.le_refl width) (Nat.le_refl width) fits isMark rest

/-- Reading goes on behind what is read. -/
theorem bind_of_eq_some {α β : Type} {read : Option α} {value : α} (found : read = some value)
    (next : α → Option β) : (read >>= next) = next value := by
  rw [found]
  rfl

theorem mark?_self (mark : Char) (rest : List Char) : mark? mark (mark :: rest) = some rest :=
  if_pos rfl

/-- A fraction begins with a point, and what follows it is no digit. -/
theorem exists_mark_fractionText (style : Fraction) (nano : Nat) :
    ∃ mark rest, fractionText style nano ++ ['Z'] = mark :: rest ∧ isDigit mark = false := by
  unfold fractionText
  cases style with
  | millis => exact ⟨_, _, rfl, rfl⟩
  | fewest =>
      dsimp only
      repeat' split
      all_goals exact ⟨_, _, rfl, rfl⟩

/-- Digits behind a point count from the left. -/
theorem fraction?_padded {width value : Nat} (some_le : 1 ≤ width) (le_nine : width ≤ 9)
    (fits : value < 10 ^ width) :
    fraction? ('.' :: padded 10 width value ++ ['Z']) =
      some (value * 10 ^ (9 - width), ['Z']) := by
  have read : digits? 1 9 (padded 10 width value ++ ['Z']) = some (value, ['Z']) :=
    digits?_padded some_le le_nine fits rfl []
  have behind : (padded 10 width value ++ ['Z']).length - ['Z'].length = width := by
    rw [List.length_append, length_padded, Nat.add_sub_cancel]
  rw [List.cons_append, fraction?, read]
  dsimp only
  rw [behind]
  rfl

/-- **A fraction is read back to its precision.** -/
theorem fraction?_fractionText (style : Fraction) {nano : Nat} (isFraction : nano < 1000000000) :
    fraction? (fractionText style nano ++ ['Z']) = some (style.kept nano, ['Z']) := by
  have threeDigits : nano / 1000000 < 10 ^ 3 := by omega
  cases style with
  | millis => exact fraction?_padded (by decide) (by decide) threeDigits
  | fewest =>
      rw [fractionText, Fraction.kept]
      split
      · next none => rw [none]; rfl
      · split
        · next isMillis =>
            rw [fraction?_padded (by decide) (by decide) threeDigits]
            congr 2
            omega
        · split
          · next isMicros =>
              have sixDigits : nano / 1000 < 10 ^ 6 := by omega
              rw [fraction?_padded (by decide) (by decide) sixDigits]
              congr 2
              omega
          · have nineDigits : nano < 10 ^ 9 := isFraction
            rw [fraction?_padded (by decide) (by decide) nineDigits]
            congr 2
            omega

/-! ## The fields of a timestamp -/

/-- The fields that the text of an instant names. -/
def fieldsOf (style : Fraction) (instant : Instant) : Fields where
  date := instant.date
  hour := instant.secondOfDay / 3600
  minute := instant.secondOfDay / 60 % 60
  second := instant.secondOfDay % 60 + if instant.nano < 1000000000 then 0 else 1
  nano := style.kept (instant.nano % 1000000000)
  offset := 0

/-- Fields in range name the instant of their second, if their local time is that of
Coordinated Universal Time. -/
theorem Fields.instant?_of_inRange {fields : Fields} (valid : fields.date.isValid = true)
    (hour : fields.hour ≤ 23) (minute : fields.minute ≤ 59) (second : fields.second ≤ 60)
    (offset : fields.offset = 0) {instant : Instant}
    (isSecond : fields.date.dayNumber * 86400 + ((fields.hour * 3600 + fields.minute * 60 +
      if fields.second = 60 then 59 else fields.second : Nat) : Int) = instant.second)
    (isNano : (if fields.second = 60 then fields.nano + 1000000000 else fields.nano) =
      instant.nano) :
    fields.instant? = some instant := by
  have inRange : (fields.date.isValid && fields.hour ≤ 23 && fields.minute ≤ 59 &&
      fields.second ≤ 60 && decide (-86400 < fields.offset ∧ fields.offset < 86400)) =
        true := by
    simp [valid, hour, minute, second, offset]
  have named := instant.ofSecond?_self
  unfold instant?
  rw [if_pos inRange, offset]
  by_cases leap : fields.second = 60
  · rw [if_pos leap] at isSecond isNano
    simp only [leap, if_true, isSecond, isNano, Int.sub_zero, named]
  · rw [if_neg leap] at isSecond isNano
    simp only [leap, if_false, isSecond, isNano, Int.sub_zero, named]

/-- The fields of an instant name it, to the precision of the style. -/
theorem instant?_fieldsOf (style : Fraction) (instant : Instant) :
    (fieldsOf style instant).instant? = some (instant.shown style) := by
  have inDay := instant.secondOfDay_lt
  have second := instant.dayNumber_date
  have nano_lt := instant.nano_lt
  have valid : (fieldsOf style instant).date.isValid = true :=
    Date.isValid_ofDayNumber (instant.second / 86400)
  refine Fields.instant?_of_inRange valid ?_ ?_ ?_ rfl ?_ ?_
  all_goals unfold fieldsOf; dsimp only [Instant.shown]
  · omega
  · omega
  · split <;> omega
  · rw [← second]
    by_cases plain : instant.nano < 1000000000
    · rw [if_pos plain, if_neg (by omega)]
      omega
    · have last := Instant.secondOfDay_of_leap plain
      rw [if_neg plain, if_pos (by omega)]
      omega
  · by_cases plain : instant.nano < 1000000000
    · rw [if_pos plain, if_neg (by omega), Nat.mod_eq_of_lt plain]
    · have last := Instant.secondOfDay_of_leap plain
      rw [if_neg plain, if_pos (by omega)]
      cases style with
      | fewest =>
          show instant.nano % 1000000000 + 1000000000 = instant.nano
          omega
      | millis =>
          show instant.nano % 1000000000 / 1000000 * 1000000 + 1000000000 =
            instant.nano / 1000000 * 1000000
          omega

/-! ## The text of an instant -/

/-- The numbers of a timestamp fit the digits that they are given. -/
theorem fieldsOf_fits (style : Fraction) (instant : Instant) :
    instant.date.month < 10 ^ 2 ∧ instant.date.day < 10 ^ 2 ∧
      (fieldsOf style instant).hour < 10 ^ 2 ∧ (fieldsOf style instant).minute < 10 ^ 2 ∧
        (fieldsOf style instant).second < 10 ^ 2 := by
  obtain ⟨month, day⟩ := Date.lt_hundred_of_isValid (Date.isValid_ofDayNumber
    (instant.second / 86400))
  have inDay := instant.secondOfDay_lt
  refine ⟨month, day, ?_, ?_, ?_⟩
  all_goals unfold fieldsOf; dsimp only
  · omega
  · omega
  · split <;> omega

/-- A year is written with at least four digits, behind a sign if it has one. -/
theorem exists_padded_year (magnitude : Nat) :
    ∃ width, 4 ≤ width ∧ magnitude < 10 ^ width ∧
      (if magnitude < 10000 then padded 10 4 magnitude else Nat.toDigits 10 magnitude) =
        padded 10 width magnitude := by
  split
  · next small => exact ⟨4, Nat.le_refl 4, small, rfl⟩
  · next large =>
      have above : 10000 ≤ magnitude := Nat.not_lt.mp large
      have enough : 4 ≤ Nat.log 10 magnitude := Nat.le_log_of_pow_le (by decide) above
      have least := Nat.pow_log_le_self 10 (Nat.ne_of_gt (Nat.lt_of_lt_of_le (by decide) above))
      have greatest := Nat.lt_pow_succ_log_self (by decide : 1 < 10) magnitude
      exact ⟨Nat.log 10 magnitude + 1, by omega, greatest, toDigits_eq_padded least greatest⟩

/-- The text of an instant, mark by mark. -/
theorem characters_eq (style : Fraction) (instant : Instant) :
    characters style instant =
      yearText instant.date.year ++ '-' :: (padded 10 2 instant.date.month ++
        '-' :: (padded 10 2 instant.date.day ++ 'T' ::
          (padded 10 2 (fieldsOf style instant).hour ++ ':' ::
            (padded 10 2 (fieldsOf style instant).minute ++ ':' ::
              (padded 10 2 (fieldsOf style instant).second ++
                (fractionText style (instant.nano % 1000000000) ++ ['Z'])))))) := by
  unfold characters fieldsOf
  dsimp only
  simp only [List.append_assoc, List.cons_append, List.nil_append]

/-! ## The strict grammar -/

section

variable (style : Fraction) {instant : Instant}

/-- **The strict grammar reads the fields of an instant** in a year of four digits. -/
theorem strictFields?_characters (inYears : instant.InFourDigitYear) :
    strictFields? (characters style instant) = some (fieldsOf style instant, []) := by
  obtain ⟨leastYear, greatestYear⟩ := inYears
  have year : yearText instant.date.year = padded 10 4 instant.date.year.toNat :=
    if_pos ⟨leastYear, greatestYear⟩
  have yearFits : instant.date.year.toNat < 10 ^ 4 := by omega
  have yearBack : (instant.date.year.toNat : Int) = instant.date.year := by omega
  obtain ⟨monthFits, dayFits, hourFits, minuteFits, secondFits⟩ := fieldsOf_fits style instant
  obtain ⟨mark, rest, begins, isMark⟩ :=
    exists_mark_fractionText style (instant.nano % 1000000000)
  have fraction := fraction?_fractionText style
    (Nat.mod_lt instant.nano (by decide : 0 < 1000000000))
  rw [begins] at fraction
  rw [characters_eq, year, begins, strictFields?]
  refine (bind_of_eq_some (digits?_exact yearFits rfl _) _).trans ?_
  refine (bind_of_eq_some (mark?_self _ _) _).trans ?_
  refine (bind_of_eq_some (digits?_exact monthFits rfl _) _).trans ?_
  refine (bind_of_eq_some (mark?_self _ _) _).trans ?_
  refine (bind_of_eq_some (digits?_exact dayFits rfl _) _).trans ?_
  refine (bind_of_eq_some (rfl : betweenDateAndTime? ('T' :: _) = _) _).trans ?_
  refine (bind_of_eq_some (digits?_exact hourFits rfl _) _).trans ?_
  refine (bind_of_eq_some (mark?_self _ _) _).trans ?_
  refine (bind_of_eq_some (digits?_exact minuteFits rfl _) _).trans ?_
  refine (bind_of_eq_some (mark?_self _ _) _).trans ?_
  refine (bind_of_eq_some (digits?_exact secondFits isMark _) _).trans ?_
  refine (bind_of_eq_some fraction _).trans ?_
  refine (bind_of_eq_some (rfl : offset? (mark? ':') ['Z'] = some (0, [])) _).trans ?_
  dsimp only
  rw [yearBack]
  rfl

/-- **The strict grammar refuses any other year**: such a year is written with a sign. -/
theorem strictFields?_of_outOfYears (outOfYears : ¬ instant.InFourDigitYear) :
    strictFields? (characters style instant) = none := by
  have signed : ∃ sign rest, isDigit sign = false ∧
      characters style instant = sign :: rest := by
    have unsigned : ¬ (0 ≤ instant.date.year ∧ instant.date.year ≤ 9999) := outOfYears
    rw [characters_eq, yearText, if_neg unsigned]
    by_cases negative : instant.date.year < 0
    · exact ⟨'-', _, rfl, by rw [if_pos negative]; rfl⟩
    · exact ⟨'+', _, rfl, by rw [if_neg negative]; rfl⟩
  obtain ⟨sign, rest, isSign, begins⟩ := signed
  have noDigit : ((sign :: rest).take 4).takeWhile isDigit = [] := by
    rw [List.take_succ_cons, List.takeWhile_cons_of_neg]
    rw [isSign]
    exact Bool.false_ne_true
  have noYear : digits? 4 4 (sign :: rest) = none := by
    unfold digits?
    rw [noDigit]
    rfl
  rw [begins, strictFields?, noYear]
  rfl

/-- **A timestamp is read back by the strict grammar**, to the precision in which it was
written. -/
theorem parse?_render (inYears : instant.InFourDigitYear) :
    parse? (render style instant) = some (instant.shown style) := by
  rw [parse?, instantBy?, render, String.toList_ofList, strictFields?_characters style inYears]
  exact instant?_fieldsOf style instant

/-- **A timestamp in any other year is refused by the strict grammar.** -/
theorem parse?_render_of_outOfYears (outOfYears : ¬ instant.InFourDigitYear) :
    parse? (render style instant) = none := by
  rw [parse?, instantBy?, render, String.toList_ofList,
    strictFields?_of_outOfYears style outOfYears]

end

/-! ## The relaxed grammar -/

/-- A number of at most two digits is read behind blanks, of which there are none. -/
theorem relaxedField?_padded {value : Nat} (fits : value < 10 ^ 2) {mark : Char}
    (isMark : isDigit mark = false) (rest : List Char) :
    relaxedField? (padded 10 2 value ++ mark :: rest) = some (value, mark :: rest) := by
  have written : Nat.digitChar (value / 10 % 10) ∈ padded 10 2 value := by simp [padded]
  have first : trimmedLeft (padded 10 2 value ++ mark :: rest) =
      padded 10 2 value ++ mark :: rest :=
    trimmedLeft_of_isDigit (isDigit_of_mem_padded written) _
  rw [relaxedField?, first, digits?_padded (by decide) (by decide) fits isMark]

/-- A year of four digits is read by the relaxed grammar: it begins with no sign. -/
theorem relaxedYear?_padded {value : Nat} (fits : value < 10 ^ 4) {mark : Char}
    (isMark : isDigit mark = false) (rest : List Char) :
    relaxedYear? (padded 10 4 value ++ mark :: rest) = some ((value : Int), mark :: rest) := by
  have written : Nat.digitChar (value / 10 / 10 / 10 % 10) ∈ padded 10 4 value := by
    simp [padded]
  have isFirst : isDigit (Nat.digitChar (value / 10 / 10 / 10 % 10)) = true :=
    isDigit_of_mem_padded written
  have first : trimmedLeft (padded 10 4 value ++ mark :: rest) =
      padded 10 4 value ++ mark :: rest :=
    trimmedLeft_of_isDigit isFirst _
  have read := digits?_padded (by decide : 1 ≤ 4) (by decide : 4 ≤ 4) fits isMark rest
  rw [relaxedYear?, first]
  split
  · next sign behind signed =>
      have isSign := (List.cons.inj signed).1
      rw [isSign] at isFirst
      exact absurd isFirst (by decide)
  · next sign behind signed =>
      have isSign := (List.cons.inj signed).1
      rw [isSign] at isFirst
      exact absurd isFirst (by decide)
  · rw [read]
    rfl

/-- **Any year is read by the relaxed grammar**, whether it has a sign or not. -/
theorem relaxedYear?_yearText (year : Int) {mark : Char} (isMark : isDigit mark = false)
    (rest : List Char) :
    relaxedYear? (yearText year ++ mark :: rest) = some (year, mark :: rest) := by
  by_cases unsigned : 0 ≤ year ∧ year ≤ 9999
  · have fits : year.toNat < 10 ^ 4 := by omega
    rw [yearText, if_pos unsigned, relaxedYear?_padded fits isMark,
      Int.toNat_of_nonneg unsigned.1]
  · obtain ⟨width, enough, fits, digits⟩ := exists_padded_year year.natAbs
    have notMore : width ≤ (padded 10 width year.natAbs ++ mark :: rest).length := by
      rw [List.length_append, length_padded]
      exact Nat.le_add_right width _
    have read := digits?_padded (Nat.le_trans (by decide) enough : 1 ≤ width) notMore fits isMark
      rest
    have minus : ∀ text : List Char, relaxedYear? ('-' :: text) =
        (digits? 1 text.length text).map fun read => (-(read.1 : Int), read.2) :=
      fun _ => rfl
    have plus : ∀ text : List Char, relaxedYear? ('+' :: text) =
        (digits? 1 text.length text).map fun read => ((read.1 : Int), read.2) :=
      fun _ => rfl
    rw [yearText, if_neg unsigned, digits, List.cons_append]
    by_cases negative : year < 0
    · have back : -(year.natAbs : Int) = year := by omega
      rw [if_pos negative, minus, read]
      exact congrArg (fun value => some (value, mark :: rest)) back
    · have back : (year.natAbs : Int) = year := by omega
      rw [if_neg negative, plus, read]
      exact congrArg (fun value => some (value, mark :: rest)) back

section

variable (style : Fraction) (instant : Instant)

/-- **The relaxed grammar reads the fields of an instant.** -/
theorem relaxedFields?_characters :
    relaxedFields? (characters style instant) = some (fieldsOf style instant, []) := by
  obtain ⟨monthFits, dayFits, hourFits, minuteFits, secondFits⟩ := fieldsOf_fits style instant
  obtain ⟨mark, rest, begins, isMark⟩ :=
    exists_mark_fractionText style (instant.nano % 1000000000)
  have fraction := fraction?_fractionText style
    (Nat.mod_lt instant.nano (by decide : 0 < 1000000000))
  have dash : ∀ text : List Char, mark? '-' (trimmedLeft ('-' :: text)) = some text :=
    mark?_self '-'
  have colon : ∀ text : List Char, mark? ':' (trimmedLeft (':' :: text)) = some text :=
    mark?_self ':'
  have zone : relaxedOffset? (trimmedLeft ['Z']) = some (0, []) := by decide
  rw [begins] at fraction
  rw [characters_eq, begins, relaxedFields?]
  refine (bind_of_eq_some (relaxedYear?_yearText _ rfl _) _).trans ?_
  refine (bind_of_eq_some (dash _) _).trans ?_
  refine (bind_of_eq_some (relaxedField?_padded monthFits rfl _) _).trans ?_
  refine (bind_of_eq_some (dash _) _).trans ?_
  refine (bind_of_eq_some (relaxedField?_padded dayFits rfl _) _).trans ?_
  refine (bind_of_eq_some (rfl : betweenDateAndTime? ('T' :: _) = _) _).trans ?_
  refine (bind_of_eq_some (relaxedField?_padded hourFits rfl _) _).trans ?_
  refine (bind_of_eq_some (colon _) _).trans ?_
  refine (bind_of_eq_some (relaxedField?_padded minuteFits rfl _) _).trans ?_
  refine (bind_of_eq_some (colon _) _).trans ?_
  refine (bind_of_eq_some (relaxedField?_padded secondFits isMark _) _).trans ?_
  refine (bind_of_eq_some fraction _).trans ?_
  refine (bind_of_eq_some zone _).trans ?_
  rfl

/-- **A timestamp in any year is read back by the relaxed grammar**, to the precision in
which it was written. -/
theorem parseRelaxed?_render :
    parseRelaxed? (render style instant) = some (instant.shown style) := by
  rw [parseRelaxed?, instantBy?, render, String.toList_ofList,
    relaxedFields?_characters style instant]
  exact instant?_fieldsOf style instant

end

end Rfc3339

end Docket
