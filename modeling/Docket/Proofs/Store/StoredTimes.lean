import Docket.Proofs.Record.Fidelity
import Docket.Proofs.Store.Reads
import Docket.Proofs.Time.TextOrder
import Mathlib.Data.String.Basic

/-!
# Stored timestamps in order

A timestamp in a year of four digits is stored in one form, whatever its offset and its fraction
were: as the text of its instant in Coordinated Universal Time, cut off to milliseconds
(`Instant.storedFrom_of_parse?`). Storing it again changes nothing.

Texts of that form are ordered as their instants are. So stored timestamps sort as texts: a store
that knows nothing of timestamps puts them in the order in which a sort does that reads them
(`Sorting.stored_timestamps_sort`). Leap seconds are no exception.
-/

set_option autoImplicit false

namespace Docket

namespace Rfc3339

open Text

/-! ## The form of stored timestamps -/

/-- The form of stored timestamps: a zero stands for a digit, any other mark for itself. -/
def storedForm : List Char :=
  "0000-00-00T00:00:00.000Z".toList

/-- A character is what a form has in its place. -/
def Fills (slot character : Char) : Prop :=
  if slot = '0' then isDigit character = true else character = slot

/-- A text has the form of stored timestamps. -/
def HasStoredForm (text : String) : Prop :=
  List.Forall₂ Fills storedForm text.toList

theorem fills_padded (width value : Nat) :
    List.Forall₂ Fills (List.replicate width '0') (padded 10 width value) := by
  induction width generalizing value with
  | zero => exact .nil
  | succ width ih =>
      have last : Fills '0' (Nat.digitChar (value % 10)) := by
        rw [Fills, if_pos rfl, isDigit, decimalDigit?_digitChar (Nat.mod_lt value (by decide))]
        rfl
      rw [List.replicate_succ', padded]
      exact List.rel_append (ih (value / 10)) (.cons last .nil)

/-- A number, the mark behind it, and what follows have a form. -/
theorem fills_number {width value : Nat} {mark : Char} (isMark : mark ≠ '0')
    {form behind : List Char} (fills : List.Forall₂ Fills form behind) :
    List.Forall₂ Fills (List.replicate width '0' ++ mark :: form)
      (padded 10 width value ++ mark :: behind) :=
  List.rel_append (fills_padded width value) (.cons (by rw [Fills, if_neg isMark]) fills)

/-- **An instant in a year of four digits is stored in the form of stored timestamps.** -/
theorem hasStoredForm_stored {instant : Instant} (inYears : instant.InFourDigitYear) :
    HasStoredForm instant.stored := by
  have form : storedForm = List.replicate 4 '0' ++ '-' :: (List.replicate 2 '0' ++
      '-' :: (List.replicate 2 '0' ++ 'T' :: (List.replicate 2 '0' ++
        ':' :: (List.replicate 2 '0' ++ ':' :: (List.replicate 2 '0' ++
          '.' :: (List.replicate 3 '0' ++ ['Z'])))))) := by
    decide +kernel
  rw [HasStoredForm, Instant.stored, render, String.toList_ofList, characters_eq,
    yearText_of_inYears inYears, form, fractionText, List.cons_append]
  refine fills_number (by decide) ?_
  refine fills_number (by decide) ?_
  refine fills_number (by decide) ?_
  refine fills_number (by decide) ?_
  refine fills_number (by decide) ?_
  refine fills_number (by decide) ?_
  exact fills_number (by decide) .nil

end Rfc3339

namespace Instant

/-! ## Stored timestamps -/

variable {first second : Instant}

/-- **Stored timestamps are ordered as texts as the instants are**, to the millisecond. -/
theorem stored_lt_iff (firstYears : first.InFourDigitYear) (secondYears : second.InFourDigitYear) :
    first.stored < second.stored ↔ first.shown .millis < second.shown .millis := by
  rw [stored, stored, Rfc3339.render, Rfc3339.render, String.lt_iff_toList_lt,
    String.toList_ofList, String.toList_ofList, Rfc3339.characters_lt_iff firstYears secondYears,
    numbers_lt_iff firstYears secondYears]

theorem compare_self (instant : Instant) : instant.compare instant = .eq := by
  rw [Instant.compare, Int.compare_eq_eq.mpr rfl, Nat.compare_eq_eq.mpr rfl]
  rfl

/-- **Comparing stored texts compares the instants.** -/
theorem compare_stored (firstYears : first.InFourDigitYear)
    (secondYears : second.InFourDigitYear) :
    Ord.compare first.stored second.stored =
      (first.shown .millis).compare (second.shown .millis) := by
  rcases lt_trichotomy (first.shown .millis) (second.shown .millis) with less | same | greater
  · rw [compare_eq_lt_iff.mpr less, compare_lt_iff_lt]
    exact (stored_lt_iff firstYears secondYears).mpr less
  · have texts : first.stored = second.stored := by
      rw [← stored_shown first, ← stored_shown second, same]
    rw [compare_eq_iff_eq.mpr texts, same, compare_self]
  · rw [compare_eq_gt_iff.mpr greater, compare_gt_iff_gt]
    exact (stored_lt_iff secondYears firstYears).mpr greater

/-- How a timestamp is stored: it is rewritten to the form of stored timestamps, where it is the
timestamp of the instant cut off to milliseconds, and is not rewritten again. -/
structure StoredFrom (text : String) (instant : Instant) : Prop where
  rewritten : (Json.string text).storedTimestamp = .string instant.stored
  form : Rfc3339.HasStoredForm instant.stored
  denotes : Rfc3339.parse? instant.stored = some (instant.shown .millis)
  settled : (Json.string instant.stored).storedTimestamp = .string instant.stored

theorem storedFrom_of_parse? {text : String} {instant : Instant}
    (parsed : Rfc3339.parse? text = some instant) (inYears : instant.InFourDigitYear) :
    StoredFrom text instant := by
  have denotes : Rfc3339.parse? instant.stored = some (instant.shown .millis) :=
    Rfc3339.parse?_render .millis inYears
  refine ⟨?_, Rfc3339.hasStoredForm_stored inYears, denotes, ?_⟩
  · rw [Json.storedTimestamp, parsed]
  · rw [Json.storedTimestamp, denotes]
    exact congrArg Json.string instant.stored_shown

end Instant

namespace Sorting

/-- **Stored timestamps sort as texts.** Two timestamps in years of four digits are stored in one
form, to the millisecond. The order of the stored texts, their order in a sort and the order of
the instants are the same. -/
theorem stored_timestamps_sort {text other : String} {first second : Instant}
    (parsed : Rfc3339.parse? text = some first) (otherParsed : Rfc3339.parse? other = some second)
    (inYears : first.InFourDigitYear) (otherInYears : second.InFourDigitYear) :
    first.StoredFrom text ∧ second.StoredFrom other ∧
      compare first.stored second.stored = (first.shown .millis).compare (second.shown .millis) ∧
        compareValues (.string first.stored) (.string second.stored) =
          (first.shown .millis).compare (second.shown .millis) := by
  have stored := Instant.storedFrom_of_parse? parsed inYears
  have otherStored := Instant.storedFrom_of_parse? otherParsed otherInYears
  exact ⟨stored, otherStored, Instant.compare_stored inYears otherInYears,
    compareValues_timestamps stored.denotes otherStored.denotes⟩

/-- An instant in the leap second at the end of 2016. -/
def leapSecond : Instant :=
  (Instant.ofSecond? 1483228799 1123900000).getD .epoch

/-- The start of 2017. -/
def newYear : Instant :=
  (Instant.ofSecond? 1483228800 0).getD .epoch

theorem stored_timestamps_sort_leapSecond :
    Rfc3339.parse? "2016-12-31T18:59:60.1239-05:00" = some leapSecond ∧
      Rfc3339.parse? "2017-01-01T00:00:00Z" = some newYear ∧
      leapSecond.stored = "2016-12-31T23:59:60.123Z" ∧
        compare leapSecond.stored newYear.stored = .lt ∧
        compareValues (.string leapSecond.stored) (.string newYear.stored) = .lt := by
  have parsed : Rfc3339.parse? "2016-12-31T18:59:60.1239-05:00" = some leapSecond := by
    decide +kernel
  have otherParsed : Rfc3339.parse? "2017-01-01T00:00:00Z" = some newYear := by
    decide +kernel
  obtain ⟨_, _, texts, values⟩ :=
    stored_timestamps_sort parsed otherParsed (by decide) (by decide)
  exact ⟨parsed, otherParsed, by decide +kernel, texts, values⟩

end Sorting

end Docket
