/-!
# Digits

Numbers are written with a fixed count of digits (dates, times, identifiers)
or with as many as they need. `padded` writes the last `width` digits of a
number in a base, so the text always has that length; `valueOf?` reads digits
back by a fold and refuses any other character.
-/

set_option autoImplicit false

namespace Docket.Text

/-- The last `width` digits of a number in a base, leading zeros included. -/
def padded (base : Nat) : (width value : Nat) → List Char
  | 0, _ => []
  | width + 1, value => padded base width (value / base) ++ [Nat.digitChar (value % base)]

theorem length_padded (base width value : Nat) : (padded base width value).length = width := by
  induction width generalizing value with
  | zero => rfl
  | succ width ih => simp [padded, ih]

/-- The value of a decimal digit. -/
def decimalDigit? (character : Char) : Option Nat :=
  if '0' ≤ character ∧ character ≤ '9' then some (character.toNat - '0'.toNat) else none

/-- The value of a hexadecimal digit written in lower case. -/
def lowerHexDigit? (character : Char) : Option Nat :=
  if 'a' ≤ character ∧ character ≤ 'f' then some (character.toNat - 'a'.toNat + 10)
  else decimalDigit? character

/-- The value of a hexadecimal digit in either case. -/
def hexDigit? (character : Char) : Option Nat :=
  if 'A' ≤ character ∧ character ≤ 'F' then some (character.toNat - 'A'.toNat + 10)
  else lowerHexDigit? character

/-- Reads digits onto an accumulated value. -/
def valueFrom? (base : Nat) (digit? : Char → Option Nat) : Nat → List Char → Option Nat
  | value, [] => some value
  | value, character :: rest =>
      match digit? character with
      | some digit => valueFrom? base digit? (value * base + digit) rest
      | none => none

/-- The number that a list of digits writes; the empty list writes zero. -/
def valueOf? (base : Nat) (digit? : Char → Option Nat) (digits : List Char) : Option Nat :=
  valueFrom? base digit? 0 digits

/-- The value of a decimal digit, and 0 for any other character. -/
def decimalValue (character : Char) : Nat :=
  (decimalDigit? character).getD 0

/-- A character is an ASCII decimal digit. -/
def isDigit (character : Char) : Bool :=
  (decimalDigit? character).isSome

/-- Reads a signed decimal integer: an optional sign and at least one digit. -/
def signedInteger? (text : List Char) : Option Int :=
  match text with
  | '-' :: digits => if digits.isEmpty then none
      else (valueOf? 10 decimalDigit? digits).map fun value => -(value : Int)
  | '+' :: digits => if digits.isEmpty then none
      else (valueOf? 10 decimalDigit? digits).map Int.ofNat
  | digits => if digits.isEmpty then none
      else (valueOf? 10 decimalDigit? digits).map Int.ofNat

end Docket.Text
