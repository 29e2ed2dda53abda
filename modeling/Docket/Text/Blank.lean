import Docket.Text.Cut

/-!
# White space

Expressions, tags and quoted numbers are all trimmed or cut at white space,
and the set meant is always the same one: the characters with the Unicode
property White_Space. It is wider than the ASCII blanks (it has the no-break
space, the ideographic space and the line and paragraph separators) and it
leaves out the zero-width space and the ASCII separators 1C to 1F.

The words of a text are the pieces between blanks, less the empty ones.
-/

set_option autoImplicit false

namespace Docket.Text

/-- The characters with the Unicode property White_Space. -/
def isBlank (character : Char) : Bool :=
  let code := character.toNat
  (0x09 ≤ code && code ≤ 0x0D) || code == 0x20 || code == 0x85 || code == 0xA0 ||
    code == 0x1680 || (0x2000 ≤ code && code ≤ 0x200A) || code == 0x2028 || code == 0x2029 ||
    code == 0x202F || code == 0x205F || code == 0x3000

/-- Text without its leading blanks. -/
def trimmedLeft (text : List Char) : List Char :=
  text.dropWhile isBlank

/-- Text without its leading and trailing blanks. -/
def trimmed (text : List Char) : List Char :=
  (trimmedLeft (trimmedLeft text).reverse).reverse

/-- A string without its leading and trailing blanks. -/
def trim (text : String) : String :=
  String.ofList (trimmed text.toList)

/-- The maximal runs of characters that are not blank. -/
def words (text : List Char) : List (List Char) :=
  (pieces isBlank text).filter fun piece => !piece.isEmpty

end Docket.Text
