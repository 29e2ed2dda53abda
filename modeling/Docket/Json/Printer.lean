import Docket.Json.Basic
import Docket.Number.Shortest
import Docket.Text.Digits

/-!
# JSON as text

The text of a value is compact: no blanks, members in the order in which they
are kept. In strings only quotation marks, backslashes and the 32 control
characters are escaped; all other characters stand for themselves.
-/

set_option autoImplicit false

namespace Docket

/-- The text of a number. -/
def Number.text : Number → String
  | .integer value _ => toString value
  | .float value => value.text

namespace Json

/-- A character as it stands in the text of a string. -/
def escaped (character : Char) : List Char :=
  match character with
  | '"' => ['\\', '"']
  | '\\' => ['\\', '\\']
  | '\n' => ['\\', 'n']
  | '\r' => ['\\', 'r']
  | '\t' => ['\\', 't']
  | _ =>
      if character.toNat = 8 then ['\\', 'b']
      else if character.toNat = 12 then ['\\', 'f']
      else if character.toNat < 32 then ['\\', 'u'] ++ Text.padded 16 4 character.toNat
      else [character]

/-- The text of a string. -/
def stringText (value : String) : List Char :=
  ['"'] ++ value.toList.flatMap escaped ++ ['"']

mutual

/-- The characters of the text of a value. -/
def characters : Json → List Char
  | .null => "null".toList
  | .boolean value => (if value then "true" else "false").toList
  | .number value => value.text.toList
  | .string value => stringText value
  | .array items => ['['] ++ charactersOfItems items ++ [']']
  | .object members => ['\x7b'] ++ charactersOfMembers members ++ ['\x7d']

/-- The text of items, with commas between them. -/
def charactersOfItems : List Json → List Char
  | [] => []
  | [item] => characters item
  | item :: rest => characters item ++ [','] ++ charactersOfItems rest

/-- The text of members, with commas between them. -/
def charactersOfMembers : List (String × Json) → List Char
  | [] => []
  | [(name, value)] => stringText name ++ [':'] ++ characters value
  | (name, value) :: rest =>
      stringText name ++ [':'] ++ characters value ++ [','] ++ charactersOfMembers rest

end

/-- The compact text of a value. -/
def text (value : Json) : String :=
  String.ofList value.characters

end Json

end Docket
