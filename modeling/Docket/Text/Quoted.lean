import Docket.Text.Category

/-!
# Quoted text

Diagnostic descriptions show strings between double quotation marks. A quoted
string stays on one line and shows what it holds: quotation marks and
backslashes are escaped, the common controls have their short escapes, and every
character without a shape of its own is spelled by its code point: a control, a
format character, a space other than the ASCII one, a private or unassigned code
point, and a mark that would merge with the quotation mark before it.
-/

set_option autoImplicit false

namespace Docket.Text

/-- The code point of a character between braces. -/
def spelled (character : Char) : List Char :=
  ['\\', 'u', '\x7b'] ++ Nat.toDigits 16 character.toNat ++ ['\x7d']

/-- A character has no shape of its own. -/
def isShapeless (character : Char) : Bool :=
  character != ' ' && (Category.separators ++ Category.others).contains (Category.of character)

/-- The characters that extend the one before them without being marks that have
no width. -/
def otherExtending : List (Nat × Nat) :=
  [ (0x9BE, 0x9BE), (0x9D7, 0x9D7), (0xB3E, 0xB3E), (0xB57, 0xB57), (0xBBE, 0xBBE),
    (0xBD7, 0xBD7), (0xCC0, 0xCC0), (0xCC2, 0xCC2), (0xCC7, 0xCC8), (0xCCA, 0xCCB),
    (0xCD5, 0xCD6), (0xD3E, 0xD3E), (0xD57, 0xD57), (0xDCF, 0xDCF), (0xDDF, 0xDDF),
    (0x1715, 0x1715), (0x1734, 0x1734), (0x1B35, 0x1B35), (0x1B3B, 0x1B3B), (0x1B3D, 0x1B3D),
    (0x1B43, 0x1B44), (0x1BAA, 0x1BAA), (0x1BF2, 0x1BF3), (0x200C, 0x200C), (0x302E, 0x302F),
    (0xA953, 0xA953), (0xA9C0, 0xA9C0), (0xFF9E, 0xFF9F), (0x111C0, 0x111C0), (0x11235, 0x11235),
    (0x1133E, 0x1133E), (0x11347, 0x11347), (0x1134D, 0x1134D), (0x11357, 0x11357),
    (0x113B8, 0x113B8), (0x113C2, 0x113C2), (0x113C5, 0x113C5), (0x113C7, 0x113C9),
    (0x113CF, 0x113CF), (0x114B0, 0x114B0), (0x114BD, 0x114BD), (0x115AF, 0x115AF),
    (0x116B6, 0x116B6), (0x11930, 0x11930), (0x1193D, 0x1193D), (0x11F41, 0x11F41),
    (0x16FF0, 0x16FF1), (0x1D165, 0x1D166), (0x1D16D, 0x1D172), (0xE0020, 0xE007F) ]

/-- A character has the property Grapheme_Extend: it extends the one before it. -/
def isExtending (character : Char) : Bool :=
  [.nonspacingMark, .enclosingMark].contains (Category.of character) ||
    inRanges otherExtending character.toNat

/-- A character as it stands in quoted text. -/
def quotedCharacter (character : Char) : List Char :=
  match character with
  | '\x00' => ['\\', '0']
  | '\t' => ['\\', 't']
  | '\r' => ['\\', 'r']
  | '\n' => ['\\', 'n']
  | '"' => ['\\', '"']
  | '\\' => ['\\', '\\']
  | _ =>
      if isExtending character || isShapeless character then spelled character
      else [character]

/-- A string between quotation marks. -/
def quoted (text : String) : String :=
  String.ofList (['"'] ++ text.toList.flatMap quotedCharacter ++ ['"'])

end Docket.Text
