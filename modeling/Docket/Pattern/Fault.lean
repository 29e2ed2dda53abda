/-!
# Why a text is not a pattern

A fault has a cause and the stretch of the text where it was found, counted in
characters. Its report shows the text with that stretch underlined; a stretch
without characters is underlined by one mark. A repeated name or flag underlines
its first use as well.

A pattern can also be well formed and too large, and then no place is named.
-/

set_option autoImplicit false

namespace Docket

/-- A stretch of a text, from an offset up to another one. -/
structure Stretch where
  first : Nat
  last : Nat
  deriving DecidableEq

/-- What is wrong at a place of a pattern. -/
inductive PatternCause where
  | groupUnopened
  | groupUnclosed
  | groupNameUnclosed
  | groupNameInvalid
  | groupNameEmpty
  | groupNameDuplicate
  | flagUnrecognized
  | flagUnexpectedEnd
  | flagDuplicate
  | flagRepeatedNegation
  | flagDanglingNegation
  | lookAround
  | backreference
  | repetitionMissing
  | repetitionUnclosed
  | repetitionNoDecimal
  | repetitionInvalid
  | decimalInvalid
  | classUnclosed
  | classEscapeInvalid
  | classRangeInvalid
  | classRangeNoLiteral
  | escapeUnexpectedEnd
  | escapeUnrecognized
  | hexEmpty
  | hexInvalid
  | hexInvalidDigit
  | wordBoundaryUnclosed
  | wordBoundaryUnrecognized
  | wordBoundaryUnexpectedEnd
  | unicodeClassInvalid
  | unicodeClassUnknown
  | unicodeValueUnknown
  | unicodeNotAllowed
  | beyondText
  | nestLimitExceeded
  deriving DecidableEq

namespace PatternCause

/-- The greatest depth to which the parts of a pattern may be nested. -/
def nestLimit : Nat := 250

/-- The wording of a cause. -/
def text : PatternCause → String
  | .groupUnopened => "unopened group"
  | .groupUnclosed => "unclosed group"
  | .groupNameUnclosed => "unclosed capture group name"
  | .groupNameInvalid => "invalid capture group character"
  | .groupNameEmpty => "empty capture group name"
  | .groupNameDuplicate => "duplicate capture group name"
  | .flagUnrecognized => "unrecognized flag"
  | .flagUnexpectedEnd => "expected flag but got end of regex"
  | .flagDuplicate => "duplicate flag"
  | .flagRepeatedNegation => "flag negation operator repeated"
  | .flagDanglingNegation => "dangling flag negation operator"
  | .lookAround => "look-around, including look-ahead and look-behind, is not supported"
  | .backreference => "backreferences are not supported"
  | .repetitionMissing => "repetition operator missing expression"
  | .repetitionUnclosed => "unclosed counted repetition"
  | .repetitionNoDecimal => "repetition quantifier expects a valid decimal"
  | .repetitionInvalid => "invalid repetition count range, the start must be <= the end"
  | .decimalInvalid => "decimal literal invalid"
  | .classUnclosed => "unclosed character class"
  | .classEscapeInvalid => "invalid escape sequence found in character class"
  | .classRangeInvalid => "invalid character class range, the start must be <= the end"
  | .classRangeNoLiteral => "invalid range boundary, must be a literal"
  | .escapeUnexpectedEnd =>
      "incomplete escape sequence, reached end of pattern prematurely"
  | .escapeUnrecognized => "unrecognized escape sequence"
  | .hexEmpty => "hexadecimal literal empty"
  | .hexInvalid => "hexadecimal literal is not a Unicode scalar value"
  | .hexInvalidDigit => "invalid hexadecimal digit"
  | .wordBoundaryUnclosed =>
      "special word boundary assertion is either unclosed or contains an invalid character"
  | .wordBoundaryUnrecognized =>
      "unrecognized special word boundary assertion, valid choices are: start, end, " ++
        "start-half or end-half"
  | .wordBoundaryUnexpectedEnd =>
      "found either the beginning of a special word boundary or a bounded repetition on a \\b " ++
        "with an opening brace, but no closing brace"
  | .unicodeClassInvalid => "invalid Unicode character class"
  | .unicodeClassUnknown => "Unicode property not found"
  | .unicodeValueUnknown => "Unicode property value not found"
  | .unicodeNotAllowed => "Unicode not allowed here"
  | .beyondText => "pattern can match invalid UTF-8"
  | .nestLimitExceeded =>
      s!"exceed the maximum number of nested parentheses/brackets ({nestLimit})"

end PatternCause

/-- Why a text is not a pattern. -/
inductive PatternFault where
  | malformed (cause : PatternCause) (place : Stretch) (earlier : Option Stretch)
  | tooLarge
  deriving DecidableEq

namespace PatternFault

/-- The fault of a cause at a place. -/
def at_ (cause : PatternCause) (first last : Nat) : PatternFault :=
  .malformed cause ⟨first, last⟩ none

/-- Underlines stretches from a column on. -/
def underline : Nat → List Stretch → List Char
  | _, [] => []
  | column, stretch :: rest =>
      let marks := max 1 (stretch.last - stretch.first)
      List.replicate (stretch.first - column) ' ' ++ List.replicate marks '^' ++
        underline (max column stretch.first + marks) rest

/-- The report of a fault in a text. -/
def report (pattern : String) : PatternFault → String
  | .tooLarge => "Compiled regex exceeds size limit of 10485760 bytes."
  | .malformed cause place earlier =>
      let marks := String.ofList (underline 0 (earlier.toList ++ [place]))
      s!"regex parse error:\n    {pattern}\n    {marks}\nerror: {cause.text}"

end PatternFault

end Docket
