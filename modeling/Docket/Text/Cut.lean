/-!
# Cutting text

Text is handled as a list of characters, so that cutting and joining are list
operations.

`pieces` cuts at every character of a class and keeps the empty pieces.

`splitOn` cuts at the occurrences of a separator that has several characters.
Occurrences are taken from the left and do not overlap: after one is found the
search goes on behind it. The recursion walks the text one character at a time
and carries the number of characters of the separator that are still to be
passed over, so it is structural.

`splitOnce` cuts at the first occurrence of one character only, and
`splitOnceOn` at the first occurrence of a separator.
-/

set_option autoImplicit false

namespace Docket.Text

/-- Puts a character in front of the first piece. -/
def consFirst (character : Char) : List (List Char) → List (List Char)
  | [] => [[character]]
  | piece :: others => (character :: piece) :: others

/-- Cuts text at every character of a class. There is one piece more than
there are cuts, and pieces may be empty. -/
def pieces (isCut : Char → Bool) : List Char → List (List Char)
  | [] => [[]]
  | character :: rest =>
      if isCut character then [] :: pieces isCut rest
      else consFirst character (pieces isCut rest)

/-- Cuts text at a separator, passing over `skipped` characters first. -/
def splitOnFrom (separator : List Char) : (skipped : Nat) → List Char → List (List Char)
  | _, [] => [[]]
  | skipped + 1, _ :: rest => splitOnFrom separator skipped rest
  | 0, character :: rest =>
      if separator.isPrefixOf (character :: rest) then
        [] :: splitOnFrom separator (separator.length - 1) rest
      else consFirst character (splitOnFrom separator 0 rest)

/-- Cuts text at the leftmost occurrences of a separator that do not overlap.
The separator is meant to have at least one character. -/
def splitOn (separator text : List Char) : List (List Char) :=
  splitOnFrom separator 0 text

/-- The text before and behind the first occurrence of a character. -/
def splitOnce (cut : Char) : List Char → Option (List Char × List Char)
  | [] => none
  | character :: rest =>
      if character = cut then some ([], rest)
      else (splitOnce cut rest).map fun parts => (character :: parts.1, parts.2)

/-- The text behind a given beginning, if it begins so. -/
def stripStart? : (beginning text : List Char) → Option (List Char)
  | [], text => some text
  | _ :: _, [] => none
  | expected :: more, character :: rest =>
      if expected = character then stripStart? more rest else none

/-- The text before and behind the first occurrence of a separator, which is
meant to have at least one character. -/
def splitOnceOn (separator : List Char) : List Char → Option (List Char × List Char)
  | [] => none
  | character :: rest =>
      match stripStart? separator (character :: rest) with
      | some behind => some ([], behind)
      | none => (splitOnceOn separator rest).map fun parts => (character :: parts.1, parts.2)

/-- A string begins with another one. -/
def startsWith (text beginning : String) : Bool :=
  beginning.toList.isPrefixOf text.toList

/-- A string ends with another one. -/
def endsWith (text ending : String) : Bool :=
  ending.toList.isSuffixOf text.toList

end Docket.Text
