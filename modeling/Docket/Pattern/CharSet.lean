import Docket.Text.Alphabetic
import Docket.Text.Blank
import Docket.Text.LetterCase

/-!
# Sets of characters in patterns

A pattern takes characters by sets. A set is kept as it was built, from ranges
and the general categories by union, complement and so on, and membership is
read off its structure; no set is ever listed.

A set can be closed under letter case: then it also holds every character that
differs from one of its characters in case only. Two characters differ in case
only if their caseless forms agree. The caseless form is the lower case of the
upper case, as far as these are single characters; the dotless i stays apart,
and three pairs whose upper case has several characters belong together.
-/

set_option autoImplicit false

namespace Docket

namespace Text

/-- The lower case of a character if it is one character, else the character. -/
def simpleLower (character : Char) : Char :=
  match lowerOf character with
  | [image] => image
  | _ => character

/-- The upper case of a character if it is one character, else the character. -/
def simpleUpper (character : Char) : Char :=
  match upperOf character with
  | [image] => image
  | _ => character

/-- Pairs of characters that differ in case only although their upper case has
several characters. -/
def casePairs : List (Char × Char) :=
  [ (Char.ofNat 0x1FD3, Char.ofNat 0x390), (Char.ofNat 0x1FE3, Char.ofNat 0x3B0),
    (Char.ofNat 0xFB05, Char.ofNat 0xFB06) ]

/-- The form that characters differing in case only have in common. -/
def caseless (character : Char) : Char :=
  if character = 'ı' then character
  else
    match casePairs.find? fun pair => pair.1 == character with
    | some pair => pair.2
    | none => simpleLower (simpleUpper character)

/-- The characters that runs of a case table map to a character. -/
def preimages (runs : List CaseRun) (image : Char) : List Char :=
  runs.filterMap fun run =>
    let code := ((image.toNat : Int) - run.shift).toNat
    if run.codes.holds code then some (Char.ofNat code) else none

/-- The characters that differ from a character in case only. -/
def caseRelatives (character : Char) : List Char :=
  let form := caseless character
  let lowered := form :: preimages CaseTable.lowerRuns form
  let raised := lowered ++ lowered.flatMap (preimages CaseTable.upperRuns)
  let paired := (casePairs.filter fun pair => pair.2 == form).map Prod.fst
  (raised ++ paired).filter fun relative => caseless relative == form

end Text

/-- Which letters count as differing in case only. -/
inductive CaseScope where
  | unicode
  | ascii
  deriving DecidableEq

/-- A set of characters. -/
inductive CharSet where
  | empty
  | range (first last : Char)
  /-- The characters whose code points lie in one of the ranges. -/
  | ranges (listed : List (Nat × Nat))
  /-- The characters of one of the categories. -/
  | categories (listed : List Text.Category)
  | blanks
  | union (left right : CharSet)
  | intersection (left right : CharSet)
  | difference (left right : CharSet)
  | complement (set : CharSet)
  /-- The set closed under letter case. -/
  | caseClosed (scope : CaseScope) (set : CharSet)
  deriving DecidableEq

namespace CharSet

/-- The characters that differ in case only from a character, by a scope. -/
def relatives (scope : CaseScope) (character : Char) : List Char :=
  match scope with
  | .unicode => Text.caseRelatives character
  | .ascii => [character.toLower, character.toUpper]

/-- A set holds a character. -/
def holds : CharSet → Char → Bool
  | .empty, _ => false
  | .range first last, character => first ≤ character && character ≤ last
  | .ranges listed, character => Text.inRanges listed character.toNat
  | .categories listed, character => listed.contains (Text.Category.of character)
  | .blanks, character => Text.isBlank character
  | .union left right, character => left.holds character || right.holds character
  | .intersection left right, character => left.holds character && right.holds character
  | .difference left right, character => left.holds character && !right.holds character
  | .complement set, character => !set.holds character
  | .caseClosed scope set, character =>
      set.holds character || (relatives scope character).any set.holds

/-- The decimal digits of all scripts. -/
def digits : CharSet :=
  .categories [.decimalNumber]

/-- The controls that join the characters on their two sides. -/
def joiners : List (Nat × Nat) :=
  [(0x200C, 0x200D)]

/-- The word characters: letters and what counts as letters, marks, decimal
digits, connecting punctuation and the controls that join. -/
def wordCharacters : CharSet :=
  .union
    (.categories (Text.Category.letters ++ Text.Category.marks ++
      [.decimalNumber, .letterNumber, .connectorPunctuation]))
    (.ranges (Text.alphabeticSymbols ++ joiners))

/-- A character is a word character. -/
def isWordCharacter (character : Char) : Bool :=
  wordCharacters.holds character

/-- The set of one character. -/
def single (character : Char) : CharSet :=
  .range character character

/-- The characters of a list. -/
def ofList : List Char → CharSet
  | [] => .empty
  | [character] => single character
  | character :: rest => .union (single character) (ofList rest)

/-- The union of sets. -/
def unions (sets : List CharSet) : CharSet :=
  sets.foldl .union .empty

/-- The characters that are in one of two sets but not in both. -/
def symmetricDifference (left right : CharSet) : CharSet :=
  .difference (.union left right) (.intersection left right)

/-- The complement of a set, if it is asked for. -/
def negatedIf (negated : Bool) (set : CharSet) : CharSet :=
  if negated then .complement set else set

/-- Every character but the line feed. -/
def exceptLineFeed : CharSet :=
  .complement (single '\n')

/-- Every character but the carriage return and the line feed. -/
def exceptLineEnds : CharSet :=
  .complement (.union (single '\r') (single '\n'))

/-- Every character. -/
def anything : CharSet :=
  .complement .empty

/-- The decimal digits of ASCII. -/
def asciiDigits : CharSet :=
  .range '0' '9'

/-- The letters of ASCII. -/
def asciiLetters : CharSet :=
  .union (.range 'A' 'Z') (.range 'a' 'z')

/-- The letters and digits of ASCII. -/
def asciiAlphanumerics : CharSet :=
  .union asciiDigits asciiLetters

/-- The word characters of ASCII. -/
def asciiWordCharacters : CharSet :=
  .union asciiAlphanumerics (single '_')

/-- The blanks of ASCII. -/
def asciiBlanks : CharSet :=
  .union (.range '\t' '\r') (single ' ')

/-- The class of ASCII characters that a name stands for inside brackets. -/
def ofClassName? (name : String) : Option CharSet :=
  match name with
  | "alnum" => some asciiAlphanumerics
  | "alpha" => some asciiLetters
  | "ascii" => some (.range '\x00' '\x7f')
  | "blank" => some (ofList ['\t', ' '])
  | "cntrl" => some (.union (.range '\x00' '\x1f') (single '\x7f'))
  | "digit" => some asciiDigits
  | "graph" => some (.range '!' '~')
  | "lower" => some (.range 'a' 'z')
  | "print" => some (.range ' ' '~')
  | "punct" => some (unions [.range '!' '/', .range ':' '@', .range '[' (Char.ofNat 0x60),
      .range '\x7b' '~'])
  | "space" => some asciiBlanks
  | "upper" => some (.range 'A' 'Z')
  | "word" => some asciiWordCharacters
  | "xdigit" => some (unions [asciiDigits, .range 'A' 'F', .range 'a' 'f'])
  | _ => none

/-- A set holds a byte that is no ASCII character. -/
def reachesBeyondAscii (set : CharSet) : Bool :=
  (List.range 128).any fun offset => set.holds (Char.ofNat (128 + offset))

end CharSet

end Docket
