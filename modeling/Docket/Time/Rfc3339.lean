import Docket.Text.Blank
import Docket.Text.Digits
import Docket.Time.Instant

/-!
# Timestamps as text

A timestamp is written in Coordinated Universal Time with a final Z. A year from
0 to 9999 has four digits; any other year has a sign and at least four. A leap
second is written as second 60. The fraction has either the fewest digits, in
groups of three, that lose nothing, or exactly three digits, later ones being
cut off.

Two grammars are read. The strict one is RFC 3339: four digits of year, two
digits everywhere else, and an offset of hours and minutes with a colon. The
relaxed one also takes years with a sign, fields of one digit, blanks between
the parts, an offset without colon and the letters UTC. In both, second 60 is a
leap second wherever it stands, and digits of the fraction after the ninth are
passed over.
-/

set_option autoImplicit false

namespace Docket.Rfc3339

open Docket.Text

/-- How the fraction of a second is written. -/
inductive Fraction where
  | fewest
  | millis
  deriving DecidableEq

/-- The text of a year. -/
def yearText (year : Int) : List Char :=
  if 0 ≤ year ∧ year ≤ 9999 then padded 10 4 year.toNat
  else
    (if year < 0 then '-' else '+') ::
      (if year.natAbs < 10000 then padded 10 4 year.natAbs else Nat.toDigits 10 year.natAbs)

/-- The text of a fraction of a second. -/
def fractionText (style : Fraction) (nano : Nat) : List Char :=
  match style with
  | .millis => '.' :: padded 10 3 (nano / 1000000)
  | .fewest =>
      if nano = 0 then []
      else if nano % 1000000 = 0 then '.' :: padded 10 3 (nano / 1000000)
      else if nano % 1000 = 0 then '.' :: padded 10 6 (nano / 1000)
      else '.' :: padded 10 9 nano

/-- The characters of an instant's text. -/
def characters (style : Fraction) (instant : Instant) : List Char :=
  let date := instant.date
  let time := instant.secondOfDay
  let leap := if instant.nano < 1000000000 then 0 else 1
  yearText date.year ++ ['-'] ++ padded 10 2 date.month ++ ['-'] ++ padded 10 2 date.day ++
    ['T'] ++ padded 10 2 (time / 3600) ++ [':'] ++ padded 10 2 (time / 60 % 60) ++ [':'] ++
    padded 10 2 (time % 60 + leap) ++ fractionText style (instant.nano % 1000000000) ++ ['Z']

/-- The text of an instant. -/
def render (style : Fraction) (instant : Instant) : String :=
  String.ofList (characters style instant)

/-- The fields that a timestamp names. -/
structure Fields where
  date : Date
  hour : Nat
  minute : Nat
  second : Nat
  nano : Nat
  /-- Seconds by which local time is ahead. -/
  offset : Int

namespace Fields

/-- The instant that fields name, if they are in range. -/
def instant? (fields : Fields) : Option Instant :=
  if fields.date.isValid && fields.hour ≤ 23 && fields.minute ≤ 59 && fields.second ≤ 60 &&
      decide (-86400 < fields.offset ∧ fields.offset < 86400) then
    let (second, nano) :=
      if fields.second = 60 then (59, fields.nano + 1000000000) else (fields.second, fields.nano)
    let ofDay : Nat := fields.hour * 3600 + fields.minute * 60 + second
    let localSecond := fields.date.dayNumber * 86400 + ofDay
    match Instant.ofSecond? localSecond nano with
    | some _ => Instant.ofSecond? (localSecond - fields.offset) nano
    | none => none
  else none

end Fields

/-- Reads as many digits as there are, up to a greatest count; fewer than a least
count are refused. -/
def digits? (least greatest : Nat) (text : List Char) : Option (Nat × List Char) :=
  let digits := (text.take greatest).takeWhile isDigit
  if digits.length < least then none
  else (valueOf? 10 decimalDigit? digits).map fun value => (value, text.drop digits.length)

/-- Reads one given character. -/
def mark? (expected : Char) (text : List Char) : Option (List Char) :=
  stripStart? [expected] text

/-- Reads the fraction of a second, in nanoseconds, if text begins with a point. -/
def fraction? (text : List Char) : Option (Nat × List Char) :=
  match text with
  | '.' :: rest =>
      match digits? 1 9 rest with
      | some (value, behind) =>
          some (value * Nat.pow 10 (9 - (rest.length - behind.length)), behind.dropWhile isDigit)
      | none => none
  | _ => some (0, text)

/-- Reads the character between date and time. -/
def betweenDateAndTime? : List Char → Option (List Char)
  | character :: rest =>
      if character = 'T' ∨ character = 't' ∨ character = ' ' then some rest else none
  | [] => none

/-- Reads an offset. What may stand between its hours and minutes is given. -/
def offset? (separator? : List Char → Option (List Char)) :
    List Char → Option (Int × List Char)
  | [] => none
  | sign :: rest =>
      if sign = 'Z' ∨ sign = 'z' then some (0, rest)
      else if sign = '+' ∨ sign = '-' ∨ sign = '−' then do
        let (hours, rest) ← digits? 2 2 rest
        let rest ← separator? rest
        let (minutes, rest) ← digits? 2 2 rest
        if 59 < minutes then none
        else
          let seconds : Int := (hours * 3600 + minutes * 60 : Nat)
          some (if sign = '+' then seconds else -seconds, rest)
      else none

/-- Reads a timestamp by the strict grammar. -/
def strictFields? (text : List Char) : Option (Fields × List Char) := do
  let (year, text) ← digits? 4 4 text
  let text ← mark? '-' text
  let (month, text) ← digits? 2 2 text
  let text ← mark? '-' text
  let (day, text) ← digits? 2 2 text
  let text ← betweenDateAndTime? text
  let (hour, text) ← digits? 2 2 text
  let text ← mark? ':' text
  let (minute, text) ← digits? 2 2 text
  let text ← mark? ':' text
  let (second, text) ← digits? 2 2 text
  let (nano, text) ← fraction? text
  let (offset, text) ← offset? (mark? ':') text
  return (⟨⟨year, month, day⟩, hour, minute, second, nano, offset⟩, text)

/-- Reads a year of up to four digits, or of any length behind a sign. -/
def relaxedYear? (text : List Char) : Option (Int × List Char) :=
  match trimmedLeft text with
  | '-' :: rest => (digits? 1 rest.length rest).map fun (value, rest) => (-(value : Int), rest)
  | '+' :: rest => (digits? 1 rest.length rest).map fun (value, rest) => ((value : Int), rest)
  | text => (digits? 1 4 text).map fun (value, rest) => ((value : Int), rest)

/-- Reads a field of one or two digits behind blanks. -/
def relaxedField? (text : List Char) : Option (Nat × List Char) :=
  digits? 1 2 (trimmedLeft text)

/-- Reads the letters UTC or an offset. -/
def relaxedOffset? (text : List Char) : Option (Int × List Char) :=
  if (text.take 3).map Char.toLower = ['u', 't', 'c'] then some (0, text.drop 3)
  else offset? (fun rest => some (rest.dropWhile fun character =>
    character == ':' || isBlank character)) text

/-- Reads a timestamp by the relaxed grammar. -/
def relaxedFields? (text : List Char) : Option (Fields × List Char) := do
  let (year, text) ← relaxedYear? text
  let text ← mark? '-' (trimmedLeft text)
  let (month, text) ← relaxedField? text
  let text ← mark? '-' (trimmedLeft text)
  let (day, text) ← relaxedField? text
  let text ← betweenDateAndTime? text
  let (hour, text) ← relaxedField? text
  let text ← mark? ':' (trimmedLeft text)
  let (minute, text) ← relaxedField? text
  let text ← mark? ':' (trimmedLeft text)
  let (second, text) ← relaxedField? text
  let (nano, text) ← fraction? text
  let (offset, text) ← relaxedOffset? (trimmedLeft text)
  return (⟨⟨year, month, day⟩, hour, minute, second, nano, offset⟩, trimmedLeft text)

/-- The instant of a timestamp by a grammar, if nothing is left of the text. -/
def instantBy? (grammar : List Char → Option (Fields × List Char)) (text : String) :
    Option Instant :=
  match grammar text.toList with
  | some (fields, []) => fields.instant?
  | _ => none

/-- The instant of a strict timestamp. -/
def parse? (text : String) : Option Instant :=
  instantBy? strictFields? text

/-- The instant of a relaxed timestamp. -/
def parseRelaxed? (text : String) : Option Instant :=
  instantBy? relaxedFields? text

end Docket.Rfc3339
