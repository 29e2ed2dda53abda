import Docket.Pattern.CharSet
import Docket.Text.Script

/-!
# Properties of characters

A pattern names sets of characters by their properties: a general category, a
script, or one of the properties of letters and blanks. Letter case, blanks,
hyphens, underscores and a leading "is" do not count in a name, nor does any
character that is not of ASCII. A property may also be written as a name and a
value, the category or the script with the name of one of theirs.
-/

set_option autoImplicit false

namespace Docket

namespace CharSet

/-- A name of a property as names are compared. -/
def plainName (name : List Char) : String :=
  let isIgnored := fun (character : Char) =>
    character == ' ' || character == '_' || character == '-' || 128 ≤ character.toNat
  let plain := fun (name : List Char) =>
    (name.filter fun character => !isIgnored character).map Char.toLower
  match name with
  | first :: second :: rest =>
      if first.toLower = 'i' ∧ second.toLower = 's' then
        let short := plain rest
        String.ofList (if short = ['c'] then ['i', 's', 'c'] else short)
      else String.ofList (plain name)
  | name => String.ofList (plain name)

/-- The characters of the categories that a name stands for. -/
def ofCategoryName? (name : String) : Option CharSet :=
  match name with
  | "any" => some anything
  | "ascii" => some (.range '\x00' '\x7f')
  | "assigned" => some (.complement (.categories [.unassigned]))
  | _ => (Text.Category.ofName? name).map .categories

/-- The characters of the script that a name stands for. -/
def ofScriptName? (name : String) : Option CharSet :=
  (Text.Script.ofName? name).map fun script => .ranges script.ranges

/-- The characters that have the property of a name. -/
def ofBinaryPropertyName? (name : String) : Option CharSet :=
  match name with
  | "alphabetic" | "alpha" =>
      some (.union (.categories (.letterNumber :: Text.Category.letters))
        (.ranges (Text.alphabeticSymbols ++ Text.alphabeticMarks)))
  | "lowercase" | "lower" =>
      some (.union (.categories [.lowercaseLetter]) (.ranges Text.otherLowercase))
  | "uppercase" | "upper" =>
      some (.union (.categories [.uppercaseLetter]) (.ranges Text.otherUppercase))
  | "cased" =>
      some (.union (.categories Text.Category.casedLetters)
        (.ranges (Text.otherLowercase ++ Text.otherUppercase)))
  | "caseignorable" | "ci" =>
      some (.union (.categories Text.ignorableCategories) (.ranges Text.midWord))
  | "whitespace" | "wspace" | "space" => some .blanks
  | "joincontrol" | "joinc" => some (.ranges joiners)
  | "asciihexdigit" | "ahex" => some (unions [asciiDigits, .range 'A' 'F', .range 'a' 'f'])
  | _ => none

/-- The characters of a property given by one name. -/
def ofPropertyName? (name : List Char) : Option CharSet :=
  let plain := plainName name
  ((ofBinaryPropertyName? plain).or (ofCategoryName? plain)).or (ofScriptName? plain)

/-- A property that has values. -/
inductive ValuedProperty where
  | category
  | script

/-- The property with values that a name stands for. -/
def ValuedProperty.ofName? (name : List Char) : Option ValuedProperty :=
  match plainName name with
  | "gc" | "generalcategory" => some .category
  | "sc" | "script" => some .script
  | _ => none

/-- The characters for which a property has the value of a name. -/
def ofValueName? (property : ValuedProperty) (value : List Char) : Option CharSet :=
  match property with
  | .category => ofCategoryName? (plainName value)
  | .script => ofScriptName? (plainName value)

end CharSet

end Docket
