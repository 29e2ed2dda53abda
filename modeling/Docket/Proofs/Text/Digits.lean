import Docket.Text.Blank
import Docket.Text.Digits
import Mathlib.Algebra.GroupWithZero.Nat
import Mathlib.Data.List.Induction
import Mathlib.Data.Nat.Log
import Mathlib.Tactic.IntervalCases

/-!
# Digits are read back

A number that is written with a fixed count of digits is read back from them if it
fits: the fold that reads them undoes the recursion that writes them, digit by digit
from the front (`valueOf?_padded`). Digits that are read are in turn those of the number
that was read, digit by digit from the end (`padded_of_valueOf?`). A number with as many
digits as it needs is written with a fixed count of them as well, one that it fits
(`toDigits_eq_padded`). Every character of a number in base ten is a decimal digit, and a
decimal digit is no blank.
-/

set_option autoImplicit false

namespace Docket.Text

theorem decimalDigit?_digitChar {digit : Nat} (isDecimal : digit < 10) :
    decimalDigit? (Nat.digitChar digit) = some digit := by
  revert digit
  decide

theorem lowerHexDigit?_digitChar {digit : Nat} (isHex : digit < 16) :
    lowerHexDigit? (Nat.digitChar digit) = some digit := by
  revert digit
  decide

theorem valueFrom?_append (base : Nat) (digit? : Char → Option Nat) (value : Nat)
    (first second : List Char) :
    valueFrom? base digit? value (first ++ second) =
      (valueFrom? base digit? value first).bind fun read =>
        valueFrom? base digit? read second := by
  induction first generalizing value with
  | nil => rfl
  | cons character rest ih =>
      rw [List.cons_append, valueFrom?, valueFrom?]
      cases digit? character with
      | none => rfl
      | some digit => exact ih _

section

variable {base : Nat} {digit? : Char → Option Nat}
  (reads : ∀ digit < base, digit? (Nat.digitChar digit) = some digit)

include reads

theorem valueFrom?_padded {width value : Nat} (fits : value < base ^ width) (read : Nat) :
    valueFrom? base digit? read (padded base width value) =
      some (read * base ^ width + value) := by
  induction width generalizing value with
  | zero =>
      rw [padded, valueFrom?, Nat.lt_one_iff.mp fits, Nat.pow_zero, Nat.mul_one, Nat.add_zero]
  | succ width ih =>
      have positive : 0 < base := by
        rcases Nat.eq_zero_or_pos base with rfl | positive
        · rw [Nat.pow_succ, Nat.mul_zero] at fits
          cases fits
        · exact positive
      have firstFits : value / base < base ^ width :=
        Nat.div_lt_of_lt_mul (by rwa [Nat.mul_comm, ← Nat.pow_succ])
      have last : valueFrom? base digit? (read * base ^ width + value / base)
          [Nat.digitChar (value % base)] =
            some ((read * base ^ width + value / base) * base + value % base) := by
        rw [valueFrom?, reads _ (Nat.mod_lt value positive)]
        rfl
      rw [padded, valueFrom?_append, ih firstFits, Option.bind_some, last, Nat.pow_succ,
        Nat.add_mul, Nat.mul_assoc, Nat.add_assoc, Nat.mul_comm (value / base),
        Nat.div_add_mod]

/-- **A number that fits is read back from its digits**, in every base whose digits are
read. -/
theorem valueOf?_padded {width value : Nat} (fits : value < base ^ width) :
    valueOf? base digit? (padded base width value) = some value := by
  rw [valueOf?, valueFrom?_padded reads fits, Nat.zero_mul, Nat.zero_add]

end

/-- What was read without digits or with one more. -/
theorem valueOf?_append_singleton (base : Nat) (digit? : Char → Option Nat) (earlier : List Char)
    (last : Char) :
    valueOf? base digit? (earlier ++ [last]) =
      (valueOf? base digit? earlier).bind fun value =>
        (digit? last).map fun digit => value * base + digit := by
  rw [valueOf?, valueFrom?_append, ← valueOf?]
  cases valueOf? base digit? earlier with
  | none => rfl
  | some value =>
      rw [Option.bind_some, Option.bind_some, valueFrom?]
      cases digit? last <;> rfl

/-- **Digits that are read are those of the number**, in every base of which each digit is
read from one character only. -/
theorem padded_of_valueOf? {base : Nat} {digit? : Char → Option Nat}
    (writes : ∀ character digit, digit? character = some digit →
      digit < base ∧ Nat.digitChar digit = character)
    {digits : List Char} {value : Nat} (read : valueOf? base digit? digits = some value) :
    value < base ^ digits.length ∧ padded base digits.length value = digits := by
  induction digits using List.reverseRecOn generalizing value with
  | nil =>
      obtain rfl := Option.some.inj read
      exact ⟨Nat.one_pos, rfl⟩
  | append_singleton earlier last ih =>
      rw [valueOf?_append_singleton, Option.bind_eq_some_iff] at read
      obtain ⟨before, ofEarlier, behind⟩ := read
      obtain ⟨digit, ofLast, rfl⟩ := Option.map_eq_some_iff.mp behind
      obtain ⟨fits, digits⟩ := ih ofEarlier
      obtain ⟨isDigit, isLast⟩ := writes last digit ofLast
      have positive : 0 < base := Nat.lt_of_le_of_lt (Nat.zero_le digit) isDigit
      have quotient : (before * base + digit) / base = before := by
        rw [Nat.mul_comm, Nat.mul_add_div positive, Nat.div_eq_of_lt isDigit, Nat.add_zero]
      have remainder : (before * base + digit) % base = digit := by
        rw [Nat.mul_comm, Nat.mul_add_mod, Nat.mod_eq_of_lt isDigit]
      rw [List.length_append, List.length_singleton, padded, quotient, remainder, digits, isLast]
      refine ⟨?_, rfl⟩
      calc
        before * base + digit < before * base + base := Nat.add_lt_add_left isDigit _
        _ = (before + 1) * base := (Nat.succ_mul before base).symm
        _ ≤ base ^ earlier.length * base := Nat.mul_le_mul_right base fits
        _ = base ^ (earlier.length + 1) := (Nat.pow_succ base earlier.length).symm

/-- Digits are read as some number. -/
theorem exists_valueOf? (base : Nat) {digit? : Char → Option Nat} {digits : List Char}
    (areDigits : ∀ character ∈ digits, (digit? character).isSome = true) :
    ∃ value, valueOf? base digit? digits = some value := by
  induction digits using List.reverseRecOn with
  | nil => exact ⟨0, rfl⟩
  | append_singleton earlier last ih =>
      obtain ⟨before, ofEarlier⟩ := ih fun character isEarlier =>
        areDigits character (List.mem_append_left _ isEarlier)
      obtain ⟨digit, ofLast⟩ := Option.isSome_iff_exists.mp
        (areDigits last (List.mem_append_right _ List.mem_cons_self))
      exact ⟨before * base + digit, by rw [valueOf?_append_singleton, ofEarlier, ofLast]; rfl⟩

/-- A hexadecimal digit in lower case is read from one character only. -/
theorem digitChar_of_lowerHexDigit? {character : Char} {digit : Nat}
    (read : lowerHexDigit? character = some digit) :
    digit < 16 ∧ Nat.digitChar digit = character := by
  have back : character = Char.ofNat character.toNat := (Char.ofNat_toNat character).symm
  unfold lowerHexDigit? decimalDigit? at read
  split at read
  · next inRange =>
      obtain rfl := Option.some.inj read
      have least : 97 ≤ character.toNat := inRange.1
      have greatest : character.toNat ≤ 102 := inRange.2
      rw [back]
      generalize character.toNat = code at least greatest
      interval_cases code <;> decide
  · split at read
    · next inRange =>
        obtain rfl := Option.some.inj read
        have least : 48 ≤ character.toNat := inRange.1
        have greatest : character.toNat ≤ 57 := inRange.2
        rw [back]
        generalize character.toNat = code at least greatest
        interval_cases code <;> decide
    · cases read

/-- As many digits as a number needs are a fixed count of digits. -/
theorem toDigits_eq_padded {width value : Nat} (least : 10 ^ width ≤ value)
    (fits : value < 10 ^ (width + 1)) :
    Nat.toDigits 10 value = padded 10 (width + 1) value := by
  induction width generalizing value with
  | zero =>
      have isDigit : value < 10 := fits
      rw [Nat.toDigits_of_lt_base isDigit, padded, padded, List.nil_append,
        Nat.mod_eq_of_lt isDigit]
  | succ width ih =>
      have positive : 0 < 10 ^ width := Nat.pow_pos (by decide)
      rw [Nat.pow_succ] at least fits
      rw [Nat.toDigits_of_base_le (by decide) (by omega), ih (by omega) (by omega)]
      rfl

/-- Each digit takes one byte. -/
theorem utf8ByteSize_padded {base : Nat} (positive : 0 < base) (small : base ≤ 16)
    (width value : Nat) : (String.ofList (padded base width value)).utf8ByteSize = width := by
  have oneByte : ∀ digit < 16, (Nat.digitChar digit).utf8Size = 1 := by decide
  induction width generalizing value with
  | zero => rfl
  | succ width ih =>
      have last : (String.ofList [Nat.digitChar (value % base)]).utf8ByteSize = 1 := by
        rw [← String.singleton_eq_ofList, String.utf8ByteSize_singleton]
        exact oneByte _ (Nat.lt_of_lt_of_le (Nat.mod_lt value positive) small)
      rw [padded, String.ofList_append, String.utf8ByteSize_append, ih, last]

/-- Each character of a number is a digit of the base. -/
theorem exists_digit_of_mem_padded {base : Nat} (positive : 0 < base) {width value : Nat}
    {character : Char} (written : character ∈ padded base width value) :
    ∃ digit < base, character = Nat.digitChar digit := by
  induction width generalizing value with
  | zero => cases written
  | succ width ih =>
      rw [padded, List.mem_append, List.mem_singleton] at written
      rcases written with earlier | rfl
      · exact ih earlier
      · exact ⟨value % base, Nat.mod_lt value positive, rfl⟩

theorem isDigit_of_mem_padded {width value : Nat} {character : Char}
    (written : character ∈ padded 10 width value) : isDigit character = true := by
  obtain ⟨digit, isDecimal, rfl⟩ := exists_digit_of_mem_padded (by decide) written
  rw [isDigit, decimalDigit?_digitChar isDecimal]
  rfl

/-- A digit is one of ten characters. -/
theorem range_of_isDigit {character : Char} (isDecimal : isDigit character = true) :
    '0' ≤ character ∧ character ≤ '9' := by
  rw [isDigit, decimalDigit?] at isDecimal
  split at isDecimal
  · next inRange => exact inRange
  · cases isDecimal

theorem isBlank_of_isDigit {character : Char} (isDecimal : isDigit character = true) :
    isBlank character = false := by
  obtain ⟨least, greatest⟩ := range_of_isDigit isDecimal
  have least : 48 ≤ character.toNat := least
  have greatest : character.toNat ≤ 57 := greatest
  simp only [isBlank]
  grind

/-- Text that begins with a digit has no leading blanks. -/
theorem trimmedLeft_of_isDigit {character : Char} (isDecimal : isDigit character = true)
    (rest : List Char) : trimmedLeft (character :: rest) = character :: rest := by
  rw [trimmedLeft, List.dropWhile_cons_of_neg]
  rw [isBlank_of_isDigit isDecimal]
  exact Bool.false_ne_true

end Docket.Text
