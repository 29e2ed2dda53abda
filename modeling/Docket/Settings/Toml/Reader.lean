import Docket.Settings.Toml.Scalar
import Docket.Settings.Toml.Tree

/-!
# Reading TOML

A text is a sequence of lines, each a comment, a header or a key with a value.
Reading keeps the tree that was built so far and the path of the last header,
below which keys are put. Arrays may run over several lines, inline tables may
not, and an inline table is complete where it ends.
-/

set_option autoImplicit false

namespace Docket.Toml

open Docket.Text

/-! ## Blanks, comments and line ends -/

/-- A blank within a line. -/
def isInlineBlank (character : Char) : Bool :=
  character == ' ' || character == '\t'

/-- The text behind blanks within a line. -/
def skipInline (text : List Char) : List Char :=
  text.dropWhile isInlineBlank

/-- A control character that may not stand in a comment or a string. -/
def isControl (character : Char) : Bool :=
  (character.toNat < 32 && character != '\t') || character.toNat == 127

/-- The text behind a line end. -/
def lineEnd? : List Char → Option (List Char)
  | '\n' :: rest => some rest
  | '\r' :: '\n' :: rest => some rest
  | _ => none

/-- The text behind a comment, if one begins here. -/
def skipComment (text : List Char) : List Char :=
  match text with
  | '#' :: rest => rest.dropWhile fun character => !isControl character
  | _ => text

/-- The text behind blanks, comments and line ends. -/
def skipLines : (fuel : Nat) → List Char → List Char
  | 0, text => text
  | fuel + 1, text =>
      let behind := skipComment (skipInline text)
      match lineEnd? behind with
      | some rest => skipLines fuel rest
      | none => behind

/-- The text behind blanks, comments and line ends. -/
def skipAll (text : List Char) : List Char :=
  skipLines (text.length + 1) text

/-- The text behind the rest of a line that has nothing more on it. -/
def endOfLine? (text : List Char) : Option (List Char) :=
  match skipComment (skipInline text) with
  | [] => some []
  | behind => lineEnd? behind

/-! ## Strings -/

/-- The character of so many hexadecimal digits, and what follows. -/
def codePoint? (count : Nat) (text : List Char) : Option (Char × List Char) :=
  let digits := text.take count
  if digits.length = count then
    (valueOf? 16 hexDigit? digits).bind fun value =>
      if value.isValidChar then some (Char.ofNat value, text.drop count) else none
  else none

/-- The character of an escape, and what follows. -/
def escape? : List Char → Option (Char × List Char)
  | 'b' :: rest => some ('\x08', rest)
  | 't' :: rest => some ('\t', rest)
  | 'n' :: rest => some ('\n', rest)
  | 'f' :: rest => some ('\x0c', rest)
  | 'r' :: rest => some ('\r', rest)
  | '"' :: rest => some ('"', rest)
  | '\\' :: rest => some ('\\', rest)
  | 'u' :: rest => codePoint? 4 rest
  | 'U' :: rest => codePoint? 8 rest
  | _ => none

/-- Reads a string on one line up to its closing quotation mark. -/
def basicString? :
    (fuel : Nat) → (read : List Char) → List Char → Option (String × List Char)
  | 0, _, _ => none
  | fuel + 1, read, text =>
      match text with
      | [] => none
      | '"' :: rest => some (String.ofList read.reverse, rest)
      | '\\' :: rest =>
          match escape? rest with
          | some (character, rest) => basicString? fuel (character :: read) rest
          | none => none
      | character :: rest =>
          if isControl character then none else basicString? fuel (character :: read) rest

/-- Reads a string without escapes up to its closing apostrophe. -/
def literalString? (text : List Char) : Option (String × List Char) :=
  match splitOnce '\'' text with
  | some (read, rest) => if read.any isControl then none else some (String.ofList read, rest)
  | none => none

/-- The quotation marks that a string of several lines ends with: three close
it, and up to two before them belong to it. -/
def closing? (mark : Char) (text : List Char) : Option (List Char × List Char) :=
  let marks := text.takeWhile (· == mark)
  if marks.length < 3 then none
  else
    let own := min (marks.length - 3) 2
    some (List.replicate own mark, text.drop (own + 3))

/-- The text behind a backslash at the end of a line, with all blanks and line
ends that follow. -/
def continued? (text : List Char) : Option (List Char) :=
  match lineEnd? (skipInline text) with
  | some rest =>
      some (rest.dropWhile fun character =>
        isInlineBlank character || character == '\n' || character == '\r')
  | none => none

/-- Reads a string of several lines up to its closing marks. -/
def longString? (mark : Char) (escapes : Bool) :
    (fuel : Nat) → (read : List Char) → List Char → Option (String × List Char)
  | 0, _, _ => none
  | fuel + 1, read, text =>
      match closing? mark text with
      | some (own, rest) => some (String.ofList (read.reverse ++ own), rest)
      | none =>
          match text with
          | [] => none
          | '\\' :: rest =>
              if escapes then
                match continued? rest with
                | some rest => longString? mark escapes fuel read rest
                | none =>
                    match escape? rest with
                    | some (character, rest) =>
                        longString? mark escapes fuel (character :: read) rest
                    | none => none
              else longString? mark escapes fuel ('\\' :: read) rest
          | character :: rest =>
              match lineEnd? text with
              | some rest => longString? mark escapes fuel ('\n' :: read) rest
              | none =>
                  if isControl character then none
                  else longString? mark escapes fuel (character :: read) rest

/-- Reads a string of several lines from behind its opening marks. A line end
right behind them does not count. -/
def longStringBehind? (mark : Char) (escapes : Bool) (text : List Char) :
    Option (String × List Char) :=
  longString? mark escapes (text.length + 1) [] ((lineEnd? text).getD text)

/-! ## Keys -/

/-- A character of a bare key. -/
def isKeyCharacter (character : Char) : Bool :=
  character.isAlphanum || character == '_' || character == '-'

/-- Reads one part of a key. -/
def keyPart? (text : List Char) : Option (String × List Char) :=
  match text with
  | '"' :: rest => basicString? (rest.length + 1) [] rest
  | '\'' :: rest => literalString? rest
  | _ =>
      let name := text.takeWhile isKeyCharacter
      if name.isEmpty then none else some (String.ofList name, text.drop name.length)

/-- Reads a key: parts joined by points, with blanks around the points. -/
def key? : (fuel : Nat) → List Char → Option (List String × List Char)
  | 0, _ => none
  | fuel + 1, text => do
      let (part, rest) ← keyPart? (skipInline text)
      match skipInline rest with
      | '.' :: behind =>
          let (parts, rest) ← key? fuel behind
          return (part :: parts, rest)
      | rest => return ([part], rest)

/-! ## Values -/

/-- A character of a bare word. -/
def isWordCharacter (character : Char) : Bool :=
  character.isAlphanum || character == '_' || character == '-' || character == '+' ||
    character == '.' || character == ':'

/-- Reads a bare word. A blank between a date and a time belongs to it. -/
def word (text : List Char) : List Char × List Char :=
  let first := text.takeWhile isWordCharacter
  let rest := text.drop first.length
  match rest with
  | ' ' :: digit :: _ =>
      if isDate first && isDigit digit then
        let second := (rest.drop 1).takeWhile isWordCharacter
        (first ++ ' ' :: second, rest.drop (second.length + 1))
      else (first, rest)
  | _ => (first, rest)

mutual

/-- Reads a value. -/
def value? : (fuel : Nat) → List Char → Option (Json × List Char)
  | 0, _ => none
  | fuel + 1, text =>
      match text with
      | '"' :: '"' :: '"' :: rest =>
          (longStringBehind? '"' true rest).map fun read => (.string read.1, read.2)
      | '"' :: rest =>
          (basicString? (rest.length + 1) [] rest).map fun read => (.string read.1, read.2)
      | '\'' :: '\'' :: '\'' :: rest =>
          (longStringBehind? '\'' false rest).map fun read => (.string read.1, read.2)
      | '\'' :: rest => (literalString? rest).map fun read => (.string read.1, read.2)
      | '[' :: rest => (items? fuel rest).map fun read => (.array read.1, read.2)
      | '\x7b' :: rest =>
          match skipInline rest with
          | '\x7d' :: behind => some (.object [], behind)
          | _ => (inlineMembers? fuel [] rest).map fun read =>
              (.object (membersToJson read.1), read.2)
      | _ =>
          let (word, rest) := word text
          (scalar? word).map fun value => (value, rest)

/-- Reads the items of an array up to its closing bracket. -/
def items? : (fuel : Nat) → List Char → Option (List Json × List Char)
  | 0, _ => none
  | fuel + 1, text =>
      match skipAll text with
      | ']' :: rest => some ([], rest)
      | start => do
          let (item, rest) ← value? fuel start
          match skipAll rest with
          | ',' :: rest =>
              let (others, rest) ← items? fuel rest
              return (item :: others, rest)
          | ']' :: rest => return ([item], rest)
          | _ => none

/-- Reads the members of an inline table up to its closing brace. -/
def inlineMembers? : (fuel : Nat) → Members → List Char → Option (Members × List Char)
  | 0, _, _ => none
  | fuel + 1, members, text => do
      let (path, rest) ← key? (text.length + 1) text
      match skipInline rest with
      | '=' :: rest =>
          let (value, rest) ← value? fuel (skipInline rest)
          let members ← members.assign value path.dropLast (path.getLast?.getD "")
          match skipInline rest with
          | ',' :: rest => inlineMembers? fuel members rest
          | '\x7d' :: rest => return (members, rest)
          | _ => none
      | _ => none

end

/-! ## Statements -/

/-- The tree that was built, and the path of the last header. -/
structure State where
  root : Members
  header : List String

/-- Reads a header. -/
def header? (state : State) (isArray : Bool) (text : List Char) :
    Option (State × List Char) := do
  let (path, rest) ← key? (text.length + 1) text
  let rest ← stripStart? (if isArray then [']', ']'] else [']']) rest
  let name := path.getLast?.getD ""
  let change : Members → Option Members :=
    if isArray then Members.addTable name else Members.openTable name
  let root ← Members.changeAt change path.dropLast state.root
  return (⟨root, path⟩, rest)

/-- Reads a key with a value. -/
def assignment? (state : State) (text : List Char) : Option (State × List Char) := do
  let (path, rest) ← key? (text.length + 1) text
  match rest with
  | '=' :: rest =>
      let start := skipInline rest
      let (value, rest) ← value? (2 * start.length + 2) start
      let assign := Members.assign value path.dropLast (path.getLast?.getD "")
      let root ← Members.changeAt assign state.header state.root
      return (⟨root, state.header⟩, rest)
  | _ => none

/-- Reads statements up to the end of the text. -/
def statements? : (fuel : Nat) → State → List Char → Option State
  | 0, state, _ => some state
  | fuel + 1, state, text => do
      match skipAll text with
      | [] => return state
      | start =>
          let (state, rest) ← match start with
            | '[' :: '[' :: rest => header? state true rest
            | '[' :: rest => header? state false rest
            | start => assignment? state start
          statements? fuel state (← endOfLine? rest)

/-- The document of a TOML text, if it is one. -/
def parse? (text : String) : Option Document :=
  let characters := (stripStart? [Char.ofNat 0xFEFF] text.toList).getD text.toList
  (statements? (characters.length + 1) ⟨[], []⟩ characters).map fun state =>
    membersToJson state.root

end Docket.Toml
