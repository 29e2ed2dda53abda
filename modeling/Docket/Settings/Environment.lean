import Docket.Settings.Toml.Reader
import Docket.Text.Blank
import Docket.Text.LetterCase

/-!
# Settings in the environment

A variable is a setting if its name begins with `ACTON_` in letters of any case.
The rest of the name, in small letters, is a path whose parts are separated by
two underscores or by a point; a name with an empty part is no setting.

The value is text in a small grammar: true and false, a table in braces, an
array in brackets, a string between quotation marks, a character between
apostrophes, a number, or any other word without brackets, braces and commas.
Text that is not wholly of this grammar stands for itself.
-/

set_option autoImplicit false

namespace Docket.Environment

open Docket.Text

/-- The blanks of ASCII, which may stand around a value. -/
def isAsciiBlank (character : Char) : Bool :=
  character == ' ' || character == '\t' || character == '\n' || character == '\r' ||
    character == '\x0c'

/-- The text behind blanks. -/
def skipBlanks (text : List Char) : List Char :=
  text.dropWhile isAsciiBlank

/-- A character that ends a word. -/
def isSeparator (character : Char) : Bool :=
  character == ',' || character == '\x7b' || character == '\x7d' || character == '[' ||
    character == ']'

/-- A word is a number with a point. -/
def isPointNumber (text : List Char) : Bool :=
  let (_, unsigned) := Toml.signOf text
  let (number, exponent) := Toml.cutExponent unsigned
  let hasExponent := match exponent with
    | some exponent =>
        let digits := (Toml.signOf exponent).2
        !digits.isEmpty && digits.all isDigit
    | none => true
  match splitOnce '.' number with
  | some (whole, fraction) =>
      !(whole.isEmpty && fraction.isEmpty) && whole.all isDigit && fraction.all isDigit &&
        hasExponent
  | none => false

/-- The integer of a word, if it has 64 bits; only a negative one needs its sign
bit. -/
def integer? (text : List Char) : Option Int :=
  (signedInteger? text).filter fun value =>
    decide (-0x8000000000000000 ≤ value ∧ value < 0x10000000000000000)

/-- The value of a word. A number with a point is a float; no setting is one, so
its value does not matter. -/
def wordValue (text : List Char) : Json :=
  let word := trimmed text
  if isPointNumber word then .number (.float .zero)
  else
    match integer? word with
    | some value => .ofInt value
    | none => .string (String.ofList word)

mutual

/-- Reads a value. -/
def value? : (fuel : Nat) → List Char → Option (Json × List Char)
  | 0, _ => none
  | fuel + 1, text => do
      let (value, rest) ← match skipBlanks text with
        | 't' :: 'r' :: 'u' :: 'e' :: rest => some (.boolean true, rest)
        | 'f' :: 'a' :: 'l' :: 's' :: 'e' :: rest => some (.boolean false, rest)
        | '\x7b' :: rest =>
            match skipBlanks rest with
            | '\x7d' :: rest => some (.object [], rest)
            | _ => (members? fuel rest).map fun read =>
                (.object (read.1.foldl (fun members member =>
                  Document.insert members member.1 member.2) []), read.2)
        | '[' :: rest =>
            match skipBlanks rest with
            | ']' :: rest => some (.array [], rest)
            | _ => (items? fuel rest).map fun read => (.array read.1, read.2)
        | '"' :: rest =>
            (Toml.basicString? (rest.length + 1) [] rest).map fun read => (.string read.1, read.2)
        | '\'' :: character :: '\'' :: rest => some (.string (String.singleton character), rest)
        | '\'' :: _ => none
        | start =>
            let word := start.takeWhile fun character => !isSeparator character
            some (wordValue word, start.drop word.length)
      return (value, skipBlanks rest)

/-- Reads the items of an array up to its closing bracket. -/
def items? : (fuel : Nat) → List Char → Option (List Json × List Char)
  | 0, _ => none
  | fuel + 1, text => do
      let (item, rest) ← value? fuel text
      match rest with
      | ']' :: rest => return ([item], rest)
      | ',' :: rest =>
          match skipBlanks rest with
          | ']' :: rest => return ([item], rest)
          | _ =>
              let (others, rest) ← items? fuel rest
              return (item :: others, rest)
      | _ => none

/-- Reads the members of a table up to its closing brace. -/
def members? : (fuel : Nat) → List Char → Option (List (String × Json) × List Char)
  | 0, _ => none
  | fuel + 1, text => do
      let (name, rest) ← match skipBlanks text with
        | '"' :: rest => Toml.basicString? (rest.length + 1) [] rest
        | start =>
            let name := start.takeWhile Toml.isKeyCharacter
            if name.isEmpty then none else some (String.ofList name, start.drop name.length)
      match skipBlanks rest with
      | '=' :: rest =>
          let (value, rest) ← value? fuel rest
          match rest with
          | '\x7d' :: rest => return ([(name, value)], rest)
          | ',' :: rest =>
              match skipBlanks rest with
              | '\x7d' :: rest => return ([(name, value)], rest)
              | _ =>
                  let (others, rest) ← members? fuel rest
                  return ((name, value) :: others, rest)
          | _ => none
      | _ => none

end

/-- The value of a variable's text. -/
def valueOf (text : String) : Json :=
  match value? (2 * text.length + 2) text.toList with
  | some (value, []) => value
  | _ => .string text

/-- The path of a variable's name, if it is a setting. -/
def path? (name : String) : Option (List String) :=
  let letters := (asciiLowercase name).toList
  match stripStart? "acton_".toList letters with
  | none => none
  | some rest =>
      let path := (splitOn ['_', '_'] (trimmed rest)).flatMap (pieces (· == '.'))
      if path.any List.isEmpty then none else some (path.map String.ofList)

/-- The document that has a value at a path. -/
def nested (value : Json) : List String → Json
  | [] => value
  | name :: path => .object (Document.single name (nested value path))

end Docket.Environment

namespace Docket

mutual

/-- A value laid over another one: objects are merged, member by member, and any
other value replaces what was there. -/
def Json.over (base : Option Json) : Json → Json
  | .object members =>
      match base with
      | some (.object below) => .object (Document.over below members)
      | _ => .object members
  | .null => .null
  | .boolean value => .boolean value
  | .number value => .number value
  | .string value => .string value
  | .array items => .array items

/-- A document laid over another one. -/
def Document.over (below : Document) : List (String × Json) → Document
  | [] => below
  | (name, value) :: rest =>
      Document.over (Document.insert below name (Json.over (Document.get? below name) value)) rest

end

namespace Environment

/-- The settings of variables, later ones over earlier ones. -/
def settings (environment : List (String × String)) : Document :=
  environment.foldl
    (fun settings entry =>
      match path? entry.1 with
      | none => settings
      | some path =>
          match nested (valueOf entry.2) path with
          | .object members => Document.over settings members
          | _ => settings)
    []

end Environment

end Docket
