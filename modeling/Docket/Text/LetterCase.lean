import Docket.Text.Category
import Docket.Text.LetterCase.Table

/-!
# Lower and upper case

The case mappings are those of Unicode without any language's own rules. A
mapping may lengthen the text (a sharp s has a two-letter upper case), and the
capital sigma is the one letter whose lower case depends on its neighbours: at
the end of a word it takes its final form. A word ends there when a cased
character comes before it and none comes after it, characters that case ignores
being passed over on both sides.
-/

set_option autoImplicit false

namespace Docket.Text

/-- The mapping of a code point that a run holds. -/
def CaseRun.image (run : CaseRun) (code : Nat) : Char :=
  Char.ofNat ((code : Int) + run.shift).toNat

/-- The mapping of a character by a table; a character that is not in it is
mapped to itself. -/
def mapCase (runs : List CaseRun) (sequences : List (Nat × List Nat)) (character : Char) :
    List Char :=
  match sequences.find? fun entry => entry.1 == character.toNat with
  | some entry => entry.2.map Char.ofNat
  | none =>
      match runs.find? fun run => run.codes.holds character.toNat with
      | some run => [run.image character.toNat]
      | none => [character]

/-- The lower case of a character by itself. -/
def lowerOf (character : Char) : List Char :=
  if character.toNat < 0x80 then [character.toLower]
  else mapCase CaseTable.lowerRuns CaseTable.lowerSequences character

/-- The upper case of a character. -/
def upperOf (character : Char) : List Char :=
  if character.toNat < 0x80 then [character.toUpper]
  else mapCase CaseTable.upperRuns CaseTable.upperSequences character

/-- The characters that count as small letters without being of that category. -/
def otherLowercase : List (Nat × Nat) :=
  [ (0xAA, 0xAA), (0xBA, 0xBA), (0x2B0, 0x2B8), (0x2C0, 0x2C1), (0x2E0, 0x2E4), (0x345, 0x345),
    (0x37A, 0x37A), (0x10FC, 0x10FC), (0x1D2C, 0x1D6A), (0x1D78, 0x1D78), (0x1D9B, 0x1DBF),
    (0x2071, 0x2071), (0x207F, 0x207F), (0x2090, 0x209C), (0x2170, 0x217F), (0x24D0, 0x24E9),
    (0x2C7C, 0x2C7D), (0xA69C, 0xA69D), (0xA770, 0xA770), (0xA7F2, 0xA7F4), (0xA7F8, 0xA7F9),
    (0xAB5C, 0xAB5F), (0xAB69, 0xAB69), (0x10780, 0x10780), (0x10783, 0x10785),
    (0x10787, 0x107B0), (0x107B2, 0x107BA), (0x1E030, 0x1E06D) ]

/-- The characters that count as capitals without being of that category. -/
def otherUppercase : List (Nat × Nat) :=
  [ (0x2160, 0x216F), (0x24B6, 0x24CF), (0x1F130, 0x1F149), (0x1F150, 0x1F169),
    (0x1F170, 0x1F189) ]

/-- The punctuation that may stand within a word. -/
def midWord : List (Nat × Nat) :=
  [ (0x27, 0x27), (0x2E, 0x2E), (0x3A, 0x3A), (0xB7, 0xB7), (0x387, 0x387), (0x55F, 0x55F),
    (0x5F4, 0x5F4), (0x2018, 0x2019), (0x2024, 0x2024), (0x2027, 0x2027), (0xFE13, 0xFE13),
    (0xFE52, 0xFE52), (0xFE55, 0xFE55), (0xFF07, 0xFF07), (0xFF0E, 0xFF0E), (0xFF1A, 0xFF1A) ]

/-- A character has the property Lowercase. -/
def isLowercase (character : Char) : Bool :=
  Category.of character == .lowercaseLetter || inRanges otherLowercase character.toNat

/-- A character has the property Uppercase. -/
def isUppercase (character : Char) : Bool :=
  Category.of character == .uppercaseLetter || inRanges otherUppercase character.toNat

/-- A character has the property Cased. -/
def isCased (character : Char) : Bool :=
  isLowercase character || isUppercase character || Category.of character == .titlecaseLetter

/-- The categories that case ignores: marks without a width, format characters,
and letters and symbols that modify. -/
def ignorableCategories : List Category :=
  [.nonspacingMark, .enclosingMark, .format, .modifierLetter, .modifierSymbol]

/-- A character has the property Case_Ignorable. -/
def isCaseIgnorable (character : Char) : Bool :=
  ignorableCategories.contains (Category.of character) || inRanges midWord character.toNat

/-- The first character that case does not ignore is cased. -/
def meetsCased (text : List Char) : Bool :=
  match text.dropWhile isCaseIgnorable with
  | [] => false
  | character :: _ => isCased character

/-- The lower case of text whose preceding characters are given in reverse. -/
def lowerAfter : (preceding : List Char) → List Char → List Char
  | _, [] => []
  | preceding, character :: rest =>
      let image :=
        if character = 'Σ' then
          if meetsCased preceding && !meetsCased rest then ['ς'] else ['σ']
        else lowerOf character
      image ++ lowerAfter (character :: preceding) rest

/-- Text in lower case. -/
def lowercase (text : String) : String :=
  String.ofList (lowerAfter [] text.toList)

/-- Text in upper case. -/
def uppercase (text : String) : String :=
  String.ofList (text.toList.flatMap upperOf)

/-- A capital letter of ASCII. -/
def isAsciiCapital (character : Char) : Bool :=
  'A' ≤ character && character ≤ 'Z'

/-- Text with the letters of ASCII in lower case and all else kept. -/
def asciiLowercase (text : String) : String :=
  String.ofList (text.toList.map Char.toLower)

end Docket.Text
