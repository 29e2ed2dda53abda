import Docket.Json.Parser
import Docket.Text.Cut
import Docket.Time.Calendar

/-!
# Numbers and dates of TOML

An integer is decimal with an optional sign, or hexadecimal, octal or binary
without one, and has 64 bits with a sign. A decimal number has no leading zeros.
Underscores may stand between digits. A float has a fraction, an exponent or
both. A float that is infinite or not a number has no JSON and reads as null; a
date or a time reads as an object of one member.
-/

set_option autoImplicit false

namespace Docket.Toml

open Docket.Text

/-- The digits of a text in which underscores may stand between digits. -/
def digits? (isDigit : Char → Bool) (text : List Char) : Option (List Char) :=
  let groups := pieces (· == '_') text
  if groups.all fun group => !group.isEmpty && group.all isDigit then some groups.flatten else none

/-- A digit in a base up to sixteen. -/
def isDigitOf (base : Nat) (character : Char) : Bool :=
  (hexDigit? character).any fun value => value < base

/-- The value of digits in a base. -/
def valueIn? (base : Nat) (text : List Char) : Option Nat :=
  (digits? (isDigitOf base) text).bind (valueOf? base hexDigit?)

/-- The sign of a text and what follows it. -/
def signOf (text : List Char) : Bool × List Char :=
  match text with
  | '-' :: rest => (true, rest)
  | '+' :: rest => (false, rest)
  | _ => (false, text)

/-- The digits of a decimal number without leading zeros. -/
def wholeDigits? (text : List Char) : Option (List Char) :=
  match digits? isDigit text with
  | some ('0' :: _ :: _) => none
  | found => found

/-- The integer of a text. -/
def integer? (text : List Char) : Option Int :=
  match text with
  | '0' :: 'x' :: rest => (valueIn? 16 rest).map Int.ofNat
  | '0' :: 'o' :: rest => (valueIn? 8 rest).map Int.ofNat
  | '0' :: 'b' :: rest => (valueIn? 2 rest).map Int.ofNat
  | _ =>
      let (negative, rest) := signOf text
      ((wholeDigits? rest).bind (valueOf? 10 decimalDigit?)).map fun value =>
        if negative then -(value : Int) else value

/-- The integer of a text, if it has 64 bits. -/
def boundedInteger? (text : List Char) : Option Int :=
  (integer? text).filter fun value => 
    decide (-0x8000000000000000 ≤ value ∧ value < 0x8000000000000000)

/-- The part of a number before its exponent, and the exponent. -/
def cutExponent (text : List Char) : List Char × Option (List Char) :=
  match splitOnce 'e' (text.map fun character => if character = 'E' then 'e' else character) with
  | some (number, exponent) => (number, some exponent)
  | none => (text, none)

/-- The text of a float as JSON has it. -/
def floatText? (text : List Char) : Option (List Char) := do
  let (negative, unsigned) := signOf text
  let (number, exponent) := cutExponent unsigned
  let (whole, fraction) := match splitOnce '.' number with
    | some (whole, fraction) => (whole, some fraction)
    | none => (number, none)
  if fraction.isNone && exponent.isNone then none
  let whole ← wholeDigits? whole
  let fraction ← match fraction with
    | some fraction => (digits? isDigit fraction).map ('.' :: ·)
    | none => some []
  let exponent ← match exponent with
    | some exponent =>
        let (negative, unsigned) := signOf exponent
        (digits? isDigit unsigned).map fun digits =>
          'e' :: (if negative then ['-'] else []) ++ digits
    | none => some []
  return (if negative then ['-'] else []) ++ whole ++ fraction ++ exponent

/-- The float of a text. -/
def float? (text : List Char) : Option Json :=
  if (signOf text).2 = ['i', 'n', 'f'] ∨ (signOf text).2 = ['n', 'a', 'n'] then some .null
  else (floatText? text).bind fun written => Json.parse? (String.ofList written)

/-- A text is a number of exactly so many digits, up to a greatest value. -/
def isField (count greatest : Nat) (text : List Char) : Bool :=
  text.length == count &&
    match if text.isEmpty then none else valueOf? 10 decimalDigit? text with
    | some value => value ≤ greatest
    | none => false

/-- A text is a date. -/
def isDate (text : List Char) : Bool :=
  match pieces (· == '-') text with
  | [year, month, day] =>
      isField 4 9999 year && isField 2 12 month && isField 2 31 day &&
        Date.isValid ⟨((valueOf? 10 decimalDigit? year).getD 0 : Nat),
          (valueOf? 10 decimalDigit? month).getD 0, (valueOf? 10 decimalDigit? day).getD 0⟩
  | _ => false

/-- A text is a time of day. -/
def isTime (text : List Char) : Bool :=
  let (clock, fraction) := match splitOnce '.' text with
    | some (clock, fraction) => (clock, fraction)
    | none => (text, ['0'])
  !fraction.isEmpty && fraction.all isDigit &&
    match pieces (· == ':') clock with
    | [hour, minute, second] => isField 2 23 hour && isField 2 59 minute && isField 2 60 second
    | _ => false

/-- A text is an offset from universal time. -/
def isOffset (text : List Char) : Bool :=
  match text with
  | [] => true
  | ['Z'] => true
  | ['z'] => true
  | sign :: rest =>
      (sign == '+' || sign == '-') &&
        match pieces (· == ':') rest with
        | [hour, minute] => isField 2 23 hour && isField 2 59 minute
        | _ => false

/-- A text is a date, a time of day, or both with an optional offset. -/
def isDateTime (text : List Char) : Bool :=
  let date := text.take 10
  let rest := text.drop 10
  if isTime text then true
  else if !isDate date then false
  else
    match rest with
    | [] => true
    | mark :: behind =>
        let isOffsetMark := fun (character : Char) =>
          character == 'Z' || character == 'z' || character == '+' || character == '-'
        (mark == 'T' || mark == 't' || mark == ' ') &&
          isTime (behind.takeWhile fun character => !isOffsetMark character) &&
          isOffset (behind.dropWhile fun character => !isOffsetMark character)

/-- The value of a date or time. -/
def dateTime (text : List Char) : Json :=
  .object (Document.single "datetime" (.string (String.ofList text)))

/-- The value of a bare word. -/
def scalar? (word : List Char) : Option Json :=
  if word = ['t', 'r', 'u', 'e'] then some (.boolean true)
  else if word = ['f', 'a', 'l', 's', 'e'] then some (.boolean false)
  else if isDateTime word then some (dateTime word)
  else
    match boundedInteger? word with
    | some value => some (.ofInt value)
    | none => if (integer? word).isSome then none else float? word

end Docket.Toml
