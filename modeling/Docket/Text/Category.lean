import Docket.Text.Category.Table

/-!
# General categories

Every character is of one general category, and `Category.of` finds it. A
category has a name and a name of two letters. The categories whose short names
begin with the same letter form a class with a name of its own. Names are
compared in small letters without blanks, hyphens and underscores.
-/

set_option autoImplicit false

namespace Docket.Text

/-- A code point lies in one of the ranges. -/
def inRanges (ranges : List (Nat × Nat)) (code : Nat) : Bool :=
  ranges.any fun range => range.1 ≤ code && code ≤ range.2

/-- A run holds a code point. -/
def CodeRun.holds (run : CodeRun) (code : Nat) : Bool :=
  run.first ≤ code && code ≤ run.last && (code - run.first) % run.step == 0

/-- The general category of a character. -/
inductive Category where
  | lowercaseLetter
  | uppercaseLetter
  | otherLetter
  | modifierLetter
  | titlecaseLetter
  | nonspacingMark
  | spacingMark
  | enclosingMark
  | decimalNumber
  | letterNumber
  | otherNumber
  | connectorPunctuation
  | dashPunctuation
  | openPunctuation
  | closePunctuation
  | initialPunctuation
  | finalPunctuation
  | otherPunctuation
  | mathSymbol
  | currencySymbol
  | modifierSymbol
  | otherSymbol
  | spaceSeparator
  | lineSeparator
  | paragraphSeparator
  | control
  | format
  | privateUse
  /-- There is no such character. -/
  | unassigned
  deriving DecidableEq

namespace Category

/-- The runs of every category but that of the code points without a character. -/
def table : List (Category × List CodeRun) :=
  [ (.lowercaseLetter, CategoryTable.lowercaseLetters),
    (.uppercaseLetter, CategoryTable.uppercaseLetters),
    (.spaceSeparator, CategoryTable.spaces),
    (.control, [⟨0x00, 0x1F, 1⟩, ⟨0x7F, 0x9F, 1⟩]),
    (.decimalNumber, CategoryTable.decimalNumbers),
    (.otherLetter, CategoryTable.otherLetters),
    (.modifierLetter, CategoryTable.modifierLetters),
    (.titlecaseLetter, CategoryTable.titlecaseLetters),
    (.nonspacingMark, CategoryTable.nonspacingMarks),
    (.spacingMark, CategoryTable.spacingMarks),
    (.enclosingMark, CategoryTable.enclosingMarks),
    (.letterNumber, CategoryTable.letterNumbers),
    (.otherNumber, CategoryTable.otherNumbers),
    (.connectorPunctuation, CategoryTable.connectors),
    (.dashPunctuation, CategoryTable.dashes),
    (.openPunctuation, CategoryTable.openings),
    (.closePunctuation, CategoryTable.closings),
    (.initialPunctuation, CategoryTable.initialQuotes),
    (.finalPunctuation, CategoryTable.finalQuotes),
    (.otherPunctuation, CategoryTable.otherPunctuation),
    (.mathSymbol, CategoryTable.mathSymbols),
    (.currencySymbol, CategoryTable.currencySymbols),
    (.modifierSymbol, CategoryTable.modifierSymbols),
    (.otherSymbol, CategoryTable.otherSymbols),
    (.lineSeparator, [⟨0x2028, 0x2028, 1⟩]),
    (.paragraphSeparator, [⟨0x2029, 0x2029, 1⟩]),
    (.format, CategoryTable.formats),
    (.privateUse,
      [⟨0xE000, 0xF8FF, 1⟩, ⟨0xF0000, 0xFFFFD, 1⟩, ⟨0x100000, 0x10FFFD, 1⟩]) ]

/-- The category of a character. -/
def of (character : Char) : Category :=
  match table.find? fun entry => entry.2.any fun run => run.holds character.toNat with
  | some entry => entry.1
  | none => .unassigned

/-- The runs of a category. -/
def runs (category : Category) : List CodeRun :=
  match table.find? fun entry => entry.1 == category with
  | some entry => entry.2
  | none => []

/-- The letters. -/
def letters : List Category :=
  [.lowercaseLetter, .uppercaseLetter, .otherLetter, .modifierLetter, .titlecaseLetter]

/-- The letters that have case. -/
def casedLetters : List Category :=
  [.lowercaseLetter, .uppercaseLetter, .titlecaseLetter]

/-- The marks. -/
def marks : List Category :=
  [.nonspacingMark, .spacingMark, .enclosingMark]

/-- The numbers. -/
def numbers : List Category :=
  [.decimalNumber, .letterNumber, .otherNumber]

/-- The punctuation. -/
def punctuation : List Category :=
  [ .connectorPunctuation, .dashPunctuation, .openPunctuation, .closePunctuation,
    .initialPunctuation, .finalPunctuation, .otherPunctuation ]

/-- The symbols. -/
def symbols : List Category :=
  [.mathSymbol, .currencySymbol, .modifierSymbol, .otherSymbol]

/-- The separators. -/
def separators : List Category :=
  [.spaceSeparator, .lineSeparator, .paragraphSeparator]

/-- The categories of what is no text. -/
def others : List Category :=
  [.control, .format, .privateUse, .unassigned]

/-- The categories that a name stands for. -/
def ofName? (name : String) : Option (List Category) :=
  match name with
  | "l" | "letter" => some letters
  | "lc" | "casedletter" => some casedLetters
  | "ll" | "lowercaseletter" => some [.lowercaseLetter]
  | "lu" | "uppercaseletter" => some [.uppercaseLetter]
  | "lo" | "otherletter" => some [.otherLetter]
  | "lm" | "modifierletter" => some [.modifierLetter]
  | "lt" | "titlecaseletter" => some [.titlecaseLetter]
  | "m" | "mark" | "combiningmark" => some marks
  | "mn" | "nonspacingmark" => some [.nonspacingMark]
  | "mc" | "spacingmark" => some [.spacingMark]
  | "me" | "enclosingmark" => some [.enclosingMark]
  | "n" | "number" => some numbers
  | "nd" | "decimalnumber" | "digit" => some [.decimalNumber]
  | "nl" | "letternumber" => some [.letterNumber]
  | "no" | "othernumber" => some [.otherNumber]
  | "p" | "punctuation" | "punct" => some punctuation
  | "pc" | "connectorpunctuation" => some [.connectorPunctuation]
  | "pd" | "dashpunctuation" => some [.dashPunctuation]
  | "ps" | "openpunctuation" => some [.openPunctuation]
  | "pe" | "closepunctuation" => some [.closePunctuation]
  | "pi" | "initialpunctuation" => some [.initialPunctuation]
  | "pf" | "finalpunctuation" => some [.finalPunctuation]
  | "po" | "otherpunctuation" => some [.otherPunctuation]
  | "s" | "symbol" => some symbols
  | "sm" | "mathsymbol" => some [.mathSymbol]
  | "sc" | "currencysymbol" => some [.currencySymbol]
  | "sk" | "modifiersymbol" => some [.modifierSymbol]
  | "so" | "othersymbol" => some [.otherSymbol]
  | "z" | "separator" => some separators
  | "zs" | "spaceseparator" => some [.spaceSeparator]
  | "zl" | "lineseparator" => some [.lineSeparator]
  | "zp" | "paragraphseparator" => some [.paragraphSeparator]
  | "c" | "other" => some others
  | "cc" | "control" | "cntrl" => some [.control]
  | "cf" | "format" => some [.format]
  | "co" | "privateuse" => some [.privateUse]
  | "cn" | "unassigned" => some [.unassigned]
  | _ => none

end Category

end Docket.Text
