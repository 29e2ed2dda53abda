import Docket.Json.Basic
import Docket.Text.Digits

/-!
# Reading JSON text

The reader accepts standard JSON and nothing else. A member that occurs twice
has its last value. A number without point and exponent is an integer if it fits
one; minus zero, and any integer that does not fit, is a float.

A float is read in two roundings: the significand, as far as it fits an unsigned
integer of 64 bits, is rounded to a double, and that double is multiplied or
divided by a power of ten that was itself rounded. For the lengths met in
practice both steps are exact and the result is the nearest double.

The reader is a recursion on an allowance that starts at the length of the text:
every nested call has passed at least one character.
-/

set_option autoImplicit false

namespace Docket.Json.Parser

/-- Text without its leading JSON blanks. -/
def skipBlanks : List Char → List Char :=
  List.dropWhile fun character =>
    character == ' ' || character == '\n' || character == '\t' || character == '\r'

/-- Reads four hexadecimal digits. -/
def fourDigits? : List Char → Option (Nat × List Char)
  | first :: second :: third :: fourth :: rest =>
      (Text.valueOf? 16 Text.hexDigit? [first, second, third, fourth]).map fun value =>
        (value, rest)
  | _ => none

/-- Reads the digits of an escape by code unit; a high surrogate must be followed
by the escape of a low one. -/
def codeEscape? (text : List Char) : Option (Char × List Char) :=
  match fourDigits? text with
  | none => none
  | some (unit, rest) =>
      if unit < 0xD800 ∨ 0xDFFF < unit then some (Char.ofNat unit, rest)
      else if 0xDBFF < unit then none
      else
        match rest with
        | '\\' :: 'u' :: behind =>
            match fourDigits? behind with
            | some (low, rest) =>
                if 0xDC00 ≤ low ∧ low ≤ 0xDFFF then
                  some (Char.ofNat (0x10000 + (unit - 0xD800) * 0x400 + (low - 0xDC00)), rest)
                else none
            | none => none
        | _ => none

/-- Reads a string behind its opening quotation mark. -/
def string? : (allowance : Nat) → (read text : List Char) → Option (String × List Char)
  | 0, _, _ => none
  | allowance + 1, read, text =>
      match text with
      | [] => none
      | '"' :: rest => some (String.ofList read.reverse, rest)
      | '\\' :: 'u' :: rest =>
          match codeEscape? rest with
          | some (character, rest) => string? allowance (character :: read) rest
          | none => none
      | '\\' :: escape :: rest =>
          match escape with
          | '"' => string? allowance ('"' :: read) rest
          | '\\' => string? allowance ('\\' :: read) rest
          | '/' => string? allowance ('/' :: read) rest
          | 'b' => string? allowance ('\x08' :: read) rest
          | 'f' => string? allowance ('\x0c' :: read) rest
          | 'n' => string? allowance ('\n' :: read) rest
          | 'r' => string? allowance ('\r' :: read) rest
          | 't' => string? allowance ('\t' :: read) rest
          | _ => none
      | character :: rest =>
          if character.toNat < 32 ∨ character = '\\' then none
          else string? allowance (character :: read) rest

/-- The digits at the start of text. -/
def digitsOf (text : List Char) : List Char × List Char :=
  (text.takeWhile Text.isDigit, text.dropWhile Text.isDigit)

/-- Takes digits onto a significand as long as it fits 64 bits, and counts the
digits that were not taken. -/
def significand : (value dropped : Nat) → List Char → Nat × Nat
  | value, dropped, [] => (value, dropped)
  | value, dropped, digit :: rest =>
      let next := value * 10 + Text.decimalValue digit
      if dropped = 0 ∧ next < 0x10000000000000000 then significand next 0 rest
      else significand value (dropped + 1) rest

/-- The double nearest to a power of ten, if there is one. -/
def powerOfTen? (power : Nat) : Option Double :=
  Double.ofRatio false (Nat.pow 10 power) 1

/-- A double divided by a power of ten that is itself rounded to a double. -/
def dividedByPower (power : Nat) (value : Double) : Double :=
  let divisor := ((powerOfTen? power).getD .zero).ratio
  (Double.ofRatio false (value.ratio.1 * divisor.2) (value.ratio.2 * divisor.1)).getD .zero

/-- The greatest power of ten that has a double. -/
def greatestPower : Nat := 308

/-- A double scaled by a power of ten; none if the result is too great. Division
by more than the greatest power of ten is several divisions. -/
def scaled? (value : Double) (power : Int) : Option Double :=
  if power < 0 then
    let steps := (power.natAbs - 1) / greatestPower
    let small := Nat.repeat (dividedByPower greatestPower) steps value
    some (dividedByPower (power.natAbs - steps * greatestPower) small)
  else if value.isZero then some value
  else
    match powerOfTen? power.natAbs with
    | none => none
    | some factor =>
        let factor := factor.ratio
        Double.ofRatio false (value.ratio.1 * factor.1) (value.ratio.2 * factor.2)

/-- The float of whole digits, fraction digits and an exponent. -/
def float? (negative : Bool) (whole fraction : List Char) (exponent : Int) : Option Double :=
  let (value, droppedWhole) := significand 0 0 whole
  let (value, droppedFraction) := significand value 0 fraction
  let power := exponent + droppedWhole - (fraction.length - droppedFraction : Nat)
  let power := if power < -100000 then -100000 else if 100000 < power then 100000 else power
  match scaled? (Double.ofInt value) power with
  | some value => some (if negative then value.negated else value)
  | none => none

/-- Reads an exponent, if there is one. -/
def exponent? (text : List Char) : Option (Option Int × List Char) :=
  match text with
  | mark :: rest =>
      if mark = 'e' ∨ mark = 'E' then
        let (negative, rest) := match rest with
          | '-' :: behind => (true, behind)
          | '+' :: behind => (false, behind)
          | _ => (false, rest)
        let (digits, rest) := digitsOf rest
        if digits.isEmpty then none
        else
          let value : Int := (Text.valueOf? 10 Text.decimalDigit? digits).getD 0
          some (some (if negative then -value else value), rest)
      else some (none, text)
  | [] => some (none, [])

/-- Reads a number. -/
def number? (text : List Char) : Option (Number × List Char) :=
  let (negative, text) := match text with
    | '-' :: rest => (true, rest)
    | _ => (false, text)
  let (whole, rest) := digitsOf text
  if whole.isEmpty ∨ (whole.length > 1 ∧ whole.head? = some '0') then none
  else
    let fractionPart : Option (Option (List Char) × List Char) := match rest with
      | '.' :: behind =>
          let (digits, rest) := digitsOf behind
          if digits.isEmpty then none else some (some digits, rest)
      | _ => some (none, rest)
    match fractionPart with
    | none => none
    | some (fraction, rest) =>
        match exponent? rest with
        | none => none
        | some (exponent, rest) =>
            let asFloat := (float? negative whole (fraction.getD []) (exponent.getD 0)).map
              fun value => (Number.float value, rest)
            if fraction.isSome ∨ exponent.isSome then asFloat
            else
              let magnitude := (Text.valueOf? 10 Text.decimalDigit? whole).getD 0
              let value : Int := if negative then -(magnitude : Int) else magnitude
              if negative ∧ magnitude = 0 then asFloat
              else if fits : FitsInteger value then some (.integer value fits, rest)
              else asFloat

mutual

/-- Reads a value. -/
def value? : (allowance : Nat) → List Char → Option (Json × List Char)
  | 0, _ => none
  | allowance + 1, text =>
      match skipBlanks text with
      | 'n' :: 'u' :: 'l' :: 'l' :: rest => some (.null, rest)
      | 't' :: 'r' :: 'u' :: 'e' :: rest => some (.boolean true, rest)
      | 'f' :: 'a' :: 'l' :: 's' :: 'e' :: rest => some (.boolean false, rest)
      | '"' :: rest =>
          (string? (rest.length + 1) [] rest).map fun (value, rest) => (.string value, rest)
      | '[' :: rest =>
          match skipBlanks rest with
          | ']' :: rest => some (.array [], rest)
          | _ => (items? allowance rest).map fun (items, rest) => (.array items, rest)
      | '\x7b' :: rest =>
          match skipBlanks rest with
          | '\x7d' :: rest => some (.object [], rest)
          | _ => (members? allowance rest).map fun (members, rest) =>
              (.object (members.foldl (fun read member =>
                Document.insert read member.1 member.2) []), rest)
      | text => (number? text).map fun (value, rest) => (.number value, rest)

/-- Reads items up to the closing bracket. -/
def items? : (allowance : Nat) → List Char → Option (List Json × List Char)
  | 0, _ => none
  | allowance + 1, text =>
      match value? allowance text with
      | none => none
      | some (item, rest) =>
          match skipBlanks rest with
          | ']' :: rest => some ([item], rest)
          | ',' :: rest => (items? allowance rest).map fun (items, rest) => (item :: items, rest)
          | _ => none

/-- Reads members up to the closing brace. -/
def members? : (allowance : Nat) → List Char → Option (List (String × Json) × List Char)
  | 0, _ => none
  | allowance + 1, text =>
      match skipBlanks text with
      | '"' :: rest =>
          match string? (rest.length + 1) [] rest with
          | none => none
          | some (name, rest) =>
              match skipBlanks rest with
              | ':' :: rest =>
                  match value? allowance rest with
                  | none => none
                  | some (value, rest) =>
                      match skipBlanks rest with
                      | '\x7d' :: rest => some ([(name, value)], rest)
                      | ',' :: rest => (members? allowance rest).map fun (members, rest) =>
                          ((name, value) :: members, rest)
                      | _ => none
              | _ => none
      | _ => none

end

end Parser

/-- The value that a text writes, if it is JSON. -/
def parse? (text : String) : Option Json :=
  let characters := text.toList
  match Parser.value? (2 * characters.length + 2) characters with
  | some (value, rest) => if (Parser.skipBlanks rest).isEmpty then some value else none
  | none => none

end Docket.Json
