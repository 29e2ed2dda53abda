import Docket.Pattern.Basic
import Docket.Pattern.Fault
import Docket.Pattern.Property
import Docket.Text.Digits

/-!
# Reading patterns

The reader goes through a text once. It keeps the groups that are open, each
with what was read before it, and the flags that hold at the moment; a group
restores them when it is closed. Inside brackets it keeps the open brackets in
the same way. What it builds has its flags worked in already: letter case is
part of a set of characters, and line and text anchors are different anchors.

Three kinds of faults are found. A fault of form ends the reading. A part that is
nested too deeply is reported if the form turns out to be right. A fault of
meaning, such as a class that could stop in the middle of a character, is
remembered, and reported only if there is no fault of the other kinds.
-/

set_option autoImplicit false

namespace Docket.PatternReader

open Docket.Text

/-! ## Places in the text -/

/-- What is left of a text, and the offset at which it begins. -/
structure Cursor where
  rest : List Char
  offset : Nat

namespace Cursor

/-- The cursor behind the next character. -/
def next (cursor : Cursor) : Cursor :=
  match cursor.rest with
  | [] => cursor
  | _ :: rest => ⟨rest, cursor.offset + 1⟩

/-- The next character. -/
def head? (cursor : Cursor) : Option Char :=
  cursor.rest.head?

/-- Nothing is left. -/
def atEnd (cursor : Cursor) : Bool :=
  cursor.rest.isEmpty

/-- The cursor behind a given text, if that comes next. -/
def behind? (cursor : Cursor) (expected : String) : Option Cursor :=
  (stripStart? expected.toList cursor.rest).map fun rest =>
    ⟨rest, cursor.offset + expected.length⟩

/-- The cursor behind blanks and comments. A comment goes up to the end of its
line. -/
def behindBlanks (inComment : Bool) : List Char → Nat → Cursor
  | [], offset => ⟨[], offset⟩
  | character :: rest, offset =>
      if inComment then behindBlanks (character != '\n') rest (offset + 1)
      else if isBlank character then behindBlanks false rest (offset + 1)
      else if character = '#' then behindBlanks true rest (offset + 1)
      else ⟨character :: rest, offset⟩

/-- The cursor behind blanks and comments, where these are ignored. -/
def skip (cursor : Cursor) (ignoring : Bool) : Cursor :=
  if ignoring then behindBlanks false cursor.rest cursor.offset else cursor

/-- The cursor behind the longest run of characters that pass a test. -/
def dropWhile (cursor : Cursor) (test : Char → Bool) : Cursor :=
  let run := cursor.rest.takeWhile test
  ⟨cursor.rest.drop run.length, cursor.offset + run.length⟩

/-- The fault of a cause at the next character. -/
def faultHere (cursor : Cursor) (cause : PatternCause) : PatternFault :=
  .at_ cause cursor.offset (cursor.offset + 1)

/-- The fault of a cause from an offset up to the cursor. -/
def faultSince (cursor : Cursor) (first : Nat) (cause : PatternCause) : PatternFault :=
  .at_ cause first cursor.offset

end Cursor

/-! ## How deeply parts are nested -/

/-- How deeply a part is nested: the places of the first parts at depth one, two
and so on. What is written as one character or one escape has no depth. -/
structure Nesting where
  places : List Stretch

namespace Nesting

/-- What has no depth. -/
def flat : Nesting :=
  ⟨[]⟩

/-- A part around others. -/
def within (inner : Nesting) (place : Stretch) : Nesting :=
  ⟨place :: inner.places⟩

/-- Parts one behind the other; at each depth the left one comes first. -/
def beside (left right : Nesting) : Nesting :=
  ⟨left.places ++ right.places.drop left.places.length⟩

/-- Any number of parts one behind the other. -/
def allBeside (parts : List Nesting) : Nesting :=
  parts.foldl beside flat

/-- The first part that is nested too deeply. -/
def tooDeep? (nesting : Nesting) : Option Stretch :=
  nesting.places[PatternCause.nestLimit]?

end Nesting

/-! ## Flags -/

/-- The flags that hold at a place. -/
structure Flags where
  ignoreCase : Bool
  multiLine : Bool
  dotMatchesAll : Bool
  swapGreed : Bool
  unicode : Bool
  anyLineEnds : Bool
  ignoreBlanks : Bool

namespace Flags

/-- The flags at the start of a pattern. -/
def initial : Flags :=
  ⟨false, false, false, false, true, false, false⟩

/-- The flags with the one of a letter turned on or off. -/
def set? (flags : Flags) (letter : Char) (on : Bool) : Option Flags :=
  match letter with
  | 'i' => some { flags with ignoreCase := on }
  | 'm' => some { flags with multiLine := on }
  | 's' => some { flags with dotMatchesAll := on }
  | 'U' => some { flags with swapGreed := on }
  | 'u' => some { flags with unicode := on }
  | 'R' => some { flags with anyLineEnds := on }
  | 'x' => some { flags with ignoreBlanks := on }
  | _ => none

/-- The letters whose case is ignored. -/
def scope (flags : Flags) : CaseScope :=
  if flags.unicode then .unicode else .ascii

/-- A set closed under letter case, where case is ignored. -/
def close (flags : Flags) (set : CharSet) : CharSet :=
  if flags.ignoreCase then .caseClosed flags.scope set else set

end Flags

/-- Flags read in a group, with where each letter stood. -/
structure FlagList where
  flags : Flags
  seen : List (Char × Nat)
  on : Bool
  /-- Where the sign stood, if it came last. -/
  dangling : Option Nat

/-- Reads flags up to a colon or a closing parenthesis. -/
def readFlags : (fuel : Nat) → FlagList → Cursor → Except PatternFault (FlagList × Cursor)
  | 0, list, cursor => .ok (list, cursor)
  | fuel + 1, list, cursor =>
      match cursor.head? with
      | none => .error (.at_ .flagUnexpectedEnd cursor.offset cursor.offset)
      | some letter =>
          if letter = ':' ∨ letter = ')' then
            match list.dangling with
            | some offset => .error (.at_ .flagDanglingNegation offset (offset + 1))
            | none => .ok (list, cursor)
          else
            let earlier := (list.seen.find? fun use => use.1 == letter).map fun use =>
              Stretch.mk use.2 (use.2 + 1)
            let here : Stretch := ⟨cursor.offset, cursor.offset + 1⟩
            let seen := (letter, cursor.offset) :: list.seen
            if letter = '-' then
              if earlier.isSome then .error (.malformed .flagRepeatedNegation here earlier)
              else
                readFlags fuel
                  { list with seen, on := false, dangling := some cursor.offset } cursor.next
            else
              match list.flags.set? letter list.on with
              | none => .error (cursor.faultHere .flagUnrecognized)
              | some flags =>
                  if earlier.isSome then .error (.malformed .flagDuplicate here earlier)
                  else readFlags fuel { list with flags, seen, dangling := none } cursor.next

/-! ## Escapes -/

/-- What stands for one thing: a character, a byte, a class or an anchor. -/
inductive Primitive where
  | literal (character : Char)
  /-- A byte that is no ASCII character, written where text is read by bytes. -/
  | byte (value : Char)
  | set (set : CharSet)
  | anchor (anchor : Anchor)
  | dot

/-- A primitive, the stretch it was read from and a fault of meaning in it. -/
structure Reading where
  primitive : Primitive
  place : Stretch
  fault : Option PatternFault
  cursor : Cursor

/-- A reading from an offset up to a cursor. -/
def Reading.ofLiteral (first : Nat) (character : Char) (cursor : Cursor) : Reading :=
  ⟨.literal character, ⟨first, cursor.offset⟩, none, cursor⟩

/-- A character that may be escaped although it needs no escape. -/
def isEscapable (character : Char) : Bool :=
  character.toNat < 128 && !character.isAlphanum && character != '<' && character != '>'

/-- The character of hexadecimal digits. -/
def characterOfHex? (digits : List Char) : Option Char :=
  (valueOf? 16 hexDigit? digits).bind fun value =>
    if value.isValidChar then some (Char.ofNat value) else none

/-- Reads hexadecimal digits up to a closing brace. -/
def readBracedDigits (ignoring : Bool) (brace : Nat) :
    (fuel : Nat) → List Char → Cursor → Except PatternFault (List Char × Cursor)
  | 0, digits, cursor => .ok (digits, cursor)
  | fuel + 1, digits, cursor =>
      match cursor.head? with
      | none => .error (cursor.faultSince brace .escapeUnexpectedEnd)
      | some '\x7d' => .ok (digits, cursor)
      | some digit =>
          if (hexDigit? digit).isNone then .error (cursor.faultHere .hexInvalidDigit)
          else readBracedDigits ignoring brace fuel (digits ++ [digit]) (cursor.next.skip ignoring)

/-- Reads a number of hexadecimal digits. -/
def readFixedDigits (ignoring : Bool) :
    (count : Nat) → List Char → Cursor → Except PatternFault (List Char × Cursor)
  | 0, digits, cursor => .ok (digits, cursor)
  | count + 1, digits, cursor =>
      match cursor.head? with
      | none => .error (.at_ .escapeUnexpectedEnd cursor.offset cursor.offset)
      | some digit =>
          if (hexDigit? digit).isNone then .error (cursor.faultHere .hexInvalidDigit)
          else readFixedDigits ignoring count (digits ++ [digit]) (cursor.next.skip ignoring)

/-- Reads the digits of a hexadecimal escape; the cursor stands behind its
letter. -/
def readHex (flags : Flags) (count first : Nat) (cursor : Cursor) :
    Except PatternFault Reading := do
  let start := cursor.skip flags.ignoreBlanks
  match start.head? with
  | none => throw (.at_ .escapeUnexpectedEnd start.offset start.offset)
  | some '\x7b' =>
      let (digits, closing) ←
        readBracedDigits flags.ignoreBlanks start.offset (start.rest.length + 1) []
          (start.next.skip flags.ignoreBlanks)
      let behind := closing.next.skip flags.ignoreBlanks
      if digits.isEmpty then throw (behind.faultSince start.offset .hexEmpty)
      match characterOfHex? digits with
      | none => throw (closing.faultSince (start.offset + 1) .hexInvalid)
      | some character => return .ofLiteral first character behind
  | some _ =>
      let (digits, behind) ← readFixedDigits flags.ignoreBlanks count [] start
      match characterOfHex? digits with
      | none => throw (behind.faultSince start.offset .hexInvalid)
      | some character =>
          if count = 2 ∧ flags.unicode = false ∧ 128 ≤ character.toNat then
            return ⟨.byte character, ⟨first, behind.offset⟩, none, behind⟩
          else return .ofLiteral first character behind

/-- The class of a letter, as it is where text is read by characters or by bytes. -/
def classOfLetter? (flags : Flags) (letter : Char) : Option CharSet :=
  match letter with
  | 'd' => some (if flags.unicode then .digits else .asciiDigits)
  | 's' => some (if flags.unicode then .blanks else .asciiBlanks)
  | 'w' => some (if flags.unicode then .wordCharacters else .asciiWordCharacters)
  | _ => none

/-- A set as a primitive; by bytes, it must not reach beyond ASCII. -/
def readingOfSet (flags : Flags) (set : CharSet) (first : Nat) (cursor : Cursor) : Reading :=
  let fault :=
    if !flags.unicode && set.reachesBeyondAscii then some (cursor.faultSince first .beyondText)
    else none
  ⟨.set set, ⟨first, cursor.offset⟩, fault, cursor⟩

/-- Reads the name of a word anchor in braces; none if the brace begins a
counted repetition. -/
def readWordAnchor? (flags : Flags) (first : Nat) (cursor : Cursor) :
    Except PatternFault (Option (Anchor × Cursor)) := do
  let isNameCharacter := fun (character : Char) => character.isAlpha || character == '-'
  let start := cursor.next.skip flags.ignoreBlanks
  if start.atEnd then throw (start.faultSince first .wordBoundaryUnexpectedEnd)
  if !start.head?.any isNameCharacter then return none
  let name := start.rest.takeWhile isNameCharacter
  let closing := (start.dropWhile isNameCharacter).skip flags.ignoreBlanks
  if closing.head? ≠ some '\x7d' then
    throw (closing.faultSince cursor.offset .wordBoundaryUnclosed)
  match String.ofList name with
  | "start" => return some (.wordStart flags.scope, closing.next)
  | "end" => return some (.wordEnd flags.scope, closing.next)
  | "start-half" => return some (.outsideBefore flags.scope, closing.next)
  | "end-half" => return some (.outsideAfter flags.scope, closing.next)
  | _ => throw (closing.faultSince start.offset .wordBoundaryUnrecognized)

/-- A property as it is written: a name, which may go with a value. -/
structure PropertyName where
  name : List Char
  value : Option (List Char)
  /-- The property is not to have the value. -/
  differs : Bool

namespace PropertyName

/-- The property that is written between braces. -/
def ofText (text : List Char) : PropertyName :=
  match splitOnceOn ['!', '='] text with
  | some (name, value) => ⟨name, some value, true⟩
  | none =>
      match (splitOnce ':' text).or (splitOnce '=' text) with
      | some (name, value) => ⟨name, some value, false⟩
      | none => ⟨text, none, false⟩

/-- The characters of a property, whether it is to have the value or not, or why
there is no such property. -/
def toSet (property : PropertyName) : Except PatternCause CharSet :=
  match property.value with
  | none =>
      match CharSet.ofPropertyName? property.name with
      | some set => .ok set
      | none => .error .unicodeClassUnknown
  | some value =>
      match CharSet.ValuedProperty.ofName? property.name with
      | none => .error .unicodeClassUnknown
      | some valued =>
          match CharSet.ofValueName? valued value with
          | some set => .ok set
          | none => .error .unicodeValueUnknown

end PropertyName

/-- A property as a primitive. -/
def readingOfProperty (flags : Flags) (negated : Bool) (property : PropertyName) (first : Nat)
    (cursor : Cursor) : Reading :=
  let faulty := fun (cause : PatternCause) =>
    (⟨.set .empty, ⟨first, cursor.offset⟩, some (cursor.faultSince first cause), cursor⟩ :
      Reading)
  if !flags.unicode then faulty .unicodeNotAllowed
  else
    match property.toSet with
    | .ok set =>
        readingOfSet flags (.negatedIf (negated != property.differs) (flags.close set)) first
          cursor
    | .error cause => faulty cause

/-- Reads the name of a property up to its closing brace. -/
def readBracedName (ignoring : Bool) :
    (fuel : Nat) → List Char → Cursor → Except PatternFault (List Char × Cursor)
  | 0, name, cursor => .ok (name, cursor)
  | fuel + 1, name, cursor =>
      match cursor.head? with
      | none => .error (.at_ .escapeUnexpectedEnd cursor.offset cursor.offset)
      | some '\x7d' => .ok (name, cursor)
      | some letter => readBracedName ignoring fuel (name ++ [letter]) (cursor.next.skip ignoring)

/-- Reads a property; the cursor stands behind its letter. -/
def readProperty (flags : Flags) (negated : Bool) (first : Nat) (cursor : Cursor) :
    Except PatternFault Reading := do
  let start := cursor.skip flags.ignoreBlanks
  match start.head? with
  | none => throw (.at_ .escapeUnexpectedEnd start.offset start.offset)
  | some '\x7b' =>
      let (name, closing) ←
        readBracedName flags.ignoreBlanks (start.rest.length + 1) []
          (start.next.skip flags.ignoreBlanks)
      return readingOfProperty flags negated (.ofText name) first closing.next
  | some '\\' => throw (start.faultHere .unicodeClassInvalid)
  | some letter =>
      return readingOfProperty flags negated ⟨[letter], none, false⟩ first start.next

/-- The character of an escape of one letter. -/
def controlOfLetter? (letter : Char) : Option Char :=
  match letter with
  | 'a' => some '\x07'
  | 'f' => some '\x0c'
  | 't' => some '\t'
  | 'n' => some '\n'
  | 'r' => some '\r'
  | 'v' => some '\x0b'
  | _ => none

/-- Reads an escape; the cursor stands at its backslash. -/
def readEscape (flags : Flags) (cursor : Cursor) : Except PatternFault Reading := do
  let first := cursor.offset
  let start := cursor.next
  match start.head? with
  | none => throw (start.faultSince first .escapeUnexpectedEnd)
  | some letter =>
      let behind := start.next
      let anchored := fun (anchor : Anchor) =>
        (⟨.anchor anchor, ⟨first, behind.offset⟩, none, behind⟩ : Reading)
      if isDigit letter then throw (behind.faultSince first .backreference)
      else if letter = 'x' then readHex flags 2 first behind
      else if letter = 'u' then readHex flags 4 first behind
      else if letter = 'U' then readHex flags 8 first behind
      else if letter = 'p' ∨ letter = 'P' then readProperty flags (letter == 'P') first behind
      else if let some set := classOfLetter? flags letter then
        return readingOfSet flags set first behind
      else if let some set := classOfLetter? flags letter.toLower then
        return readingOfSet flags (.complement set) first behind
      else if isEscapable letter then return .ofLiteral first letter behind
      else if let some character := controlOfLetter? letter then
        return .ofLiteral first character behind
      else
        match letter with
        | 'A' => return anchored .textStart
        | 'z' => return anchored .textEnd
        | 'b' =>
            if behind.head? = some '\x7b' then
              match ← readWordAnchor? flags first behind with
              | some (anchor, cursor) =>
                  return ⟨.anchor anchor, ⟨first, cursor.offset⟩, none, cursor⟩
              | none => return anchored (.wordBoundary flags.scope)
            else return anchored (.wordBoundary flags.scope)
        | 'B' => return anchored (.noWordBoundary flags.scope)
        | '<' => return anchored (.wordStart flags.scope)
        | '>' => return anchored (.wordEnd flags.scope)
        | _ => throw (behind.faultSince first .escapeUnrecognized)

/-! ## Brackets -/

/-- The operations between sets inside brackets. -/
inductive SetOperation where
  | intersection
  | difference
  | symmetricDifference

/-- The result of an operation, by the flags that hold. -/
def SetOperation.apply (operation : SetOperation) (flags : Flags) (left right : CharSet) :
    CharSet :=
  let left := flags.close left
  let right := flags.close right
  match operation with
  | .intersection => .intersection left right
  | .difference => .difference left right
  | .symmetricDifference => .symmetricDifference left right

/-- A set read in brackets, with its place and how it is nested. -/
structure PlacedSet where
  set : CharSet
  place : Stretch
  nesting : Nesting

/-- The operation between two sets that were read. -/
def SetOperation.combine (operation : SetOperation) (flags : Flags) (left right : PlacedSet) :
    PlacedSet :=
  ⟨operation.apply flags left.set right.set,
    ⟨left.place.first, right.place.last⟩,
    (left.nesting.beside right.nesting).within ⟨left.place.first, right.place.last⟩⟩

/-- Items read in brackets: how many, and all of them together. -/
structure SetItems where
  count : Nat
  together : PlacedSet

namespace SetItems

/-- No items, at an offset. -/
def none (offset : Nat) : SetItems :=
  ⟨0, .empty, ⟨offset, offset⟩, .flat⟩

/-- The items and one more. -/
def add (items : SetItems) (item : PlacedSet) : SetItems :=
  let before := items.together
  let first := if items.count = 0 then item.place.first else before.place.first
  ⟨items.count + 1, .union before.set item.set, ⟨first, item.place.last⟩,
    before.nesting.beside item.nesting⟩

/-- The items with a character more, which stands at the cursor. -/
def addCharacter (items : SetItems) (character : Char) (cursor : Cursor) : SetItems :=
  items.add ⟨.single character, ⟨cursor.offset, cursor.offset + 1⟩, .flat⟩

/-- The items as one set; a single one is not nested in anything. -/
def toSet (items : SetItems) : PlacedSet :=
  let together := items.together
  if items.count < 2 then together
  else { together with nesting := together.nesting.within together.place }

end SetItems

/-- What was read of one level of brackets: the items since the last operation,
and that operation with all before it. -/
structure SetLevel where
  opening : Stretch
  negated : Bool
  items : SetItems
  pending : Option (SetOperation × PlacedSet)

namespace SetLevel

/-- The level with an item more. -/
def add (level : SetLevel) (item : PlacedSet) : SetLevel :=
  { level with items := level.items.add item }

/-- The set of what was read on a level so far. -/
def soFar (level : SetLevel) (flags : Flags) : PlacedSet :=
  match level.pending with
  | none => level.items.toSet
  | some (operation, left) => operation.combine flags left level.items.toSet

/-- The level behind an operation that ends at an offset. -/
def operate (level : SetLevel) (flags : Flags) (operation : SetOperation) (offset : Nat) :
    SetLevel :=
  { level with items := .none offset, pending := some (operation, level.soFar flags) }

/-- The set of a level that is closed at an offset. -/
def closed (level : SetLevel) (flags : Flags) (offset : Nat) : PlacedSet :=
  let place : Stretch := ⟨level.opening.first, offset⟩
  let inner := level.soFar flags
  ⟨.negatedIf level.negated (flags.close inner.set), place, inner.nesting.within place⟩

end SetLevel

/-- Reads the hyphens that a bracket may begin with. -/
def readHyphens (ignoring : Bool) (first : Nat) :
    (fuel : Nat) → SetItems → Cursor → Except PatternFault (SetItems × Cursor)
  | 0, items, cursor => .ok (items, cursor)
  | fuel + 1, items, cursor =>
      if cursor.head? = some '-' then
        let behind := cursor.next.skip ignoring
        if behind.atEnd then .error (behind.faultSince first .classUnclosed)
        else readHyphens ignoring first fuel (items.addCharacter '-' cursor) behind
      else .ok (items, cursor)

/-- Reads an opening bracket with what may only stand behind one: a negation,
hyphens, and a closing bracket that is a character. -/
def readOpening (flags : Flags) (cursor : Cursor) : Except PatternFault (SetLevel × Cursor) := do
  let first := cursor.offset
  let cursor := cursor.next.skip flags.ignoreBlanks
  if cursor.atEnd then throw (cursor.faultSince first .classUnclosed)
  let negated := cursor.head? == some '^'
  let cursor := if negated then cursor.next.skip flags.ignoreBlanks else cursor
  if cursor.atEnd then throw (cursor.faultSince first .classUnclosed)
  let (items, behind) ←
    readHyphens flags.ignoreBlanks first (cursor.rest.length + 1) (.none cursor.offset) cursor
  if items.count = 0 ∧ behind.head? = some ']' then
    let items := items.addCharacter ']' behind
    let behind := behind.next.skip flags.ignoreBlanks
    if behind.atEnd then throw (behind.faultSince first .classUnclosed)
    return (⟨⟨first, behind.offset⟩, negated, items, none⟩, behind)
  else return (⟨⟨first, behind.offset⟩, negated, items, none⟩, behind)

/-- Reads a named class of ASCII; none if there is no such name at the cursor. -/
def readNamedClass? (flags : Flags) (cursor : Cursor) : Option Reading := do
  let inside ← cursor.behind? "[:"
  let (negated, start) :=
    if inside.head? = some '^' then (true, inside.next) else (false, inside)
  let name := start.rest.takeWhile (· != ':')
  let behind ← (start.dropWhile (· != ':')).behind? ":]"
  let set ← CharSet.ofClassName? (String.ofList name)
  return readingOfSet flags (.negatedIf negated (flags.close set)) cursor.offset behind

/-- Reads one item of a bracket. -/
def readItem (flags : Flags) (cursor : Cursor) : Except PatternFault Reading :=
  match cursor.head? with
  | some '\\' => readEscape flags cursor
  | some character => .ok (.ofLiteral cursor.offset character cursor.next)
  | none => .error (cursor.faultHere .classUnclosed)

/-- The set of an item that stands by itself. -/
def Reading.toSet (flags : Flags) (reading : Reading) :
    Except PatternFault (CharSet × Option PatternFault) :=
  match reading.primitive with
  | .literal character =>
      if !flags.unicode && 128 ≤ character.toNat then
        .ok (.empty, some (.malformed .unicodeNotAllowed reading.place none))
      else .ok (.single character, none)
  | .byte value => .ok (.single value, none)
  | .set set => .ok (set, reading.fault)
  | _ => .error (.malformed .classEscapeInvalid reading.place none)

/-- The character of an item that bounds a range. -/
def Reading.toBound (reading : Reading) : Except PatternFault Char :=
  match reading.primitive with
  | .literal character => .ok character
  | .byte value => .ok value
  | _ => .error (.malformed .classRangeNoLiteral reading.place none)

/-- Reads an item of a bracket, or a range of two. -/
def readRange (flags : Flags) (level : SetLevel) (cursor : Cursor) :
    Except PatternFault (PlacedSet × Option PatternFault × Cursor) := do
  let unclosed : PatternFault := .malformed .classUnclosed level.opening none
  let left ← readItem flags cursor
  let cursor := left.cursor.skip flags.ignoreBlanks
  if cursor.atEnd then throw unclosed
  let ahead := (cursor.next.skip flags.ignoreBlanks).head?
  if cursor.head? ≠ some '-' ∨ ahead = some ']' ∨ ahead = some '-' then
    let (set, fault) ← left.toSet flags
    return (⟨set, left.place, .flat⟩, fault, cursor)
  else
    let cursor := cursor.next.skip flags.ignoreBlanks
    if cursor.atEnd then throw unclosed
    let right ← readItem flags cursor
    let first ← left.toBound
    let last ← right.toBound
    let place : Stretch := ⟨left.place.first, right.place.last⟩
    if last < first then throw (.malformed .classRangeInvalid place none)
    let (_, leftFault) ← left.toSet flags
    let (_, rightFault) ← right.toSet flags
    return (⟨.range first last, place, .flat⟩, leftFault.or rightFault, right.cursor)

/-- What reading a bracket has come to. -/
structure SetState where
  level : SetLevel
  outer : List SetLevel
  fault : Option PatternFault

/-- Reads a bracket from behind its opening. -/
def readSet (flags : Flags) :
    (fuel : Nat) → SetState → Cursor → Except PatternFault (Reading × Nesting)
  | 0, state, _ => .error (.malformed .classUnclosed state.level.opening none)
  | fuel + 1, state, cursor => do
      let cursor := cursor.skip flags.ignoreBlanks
      match cursor.head? with
      | none => throw (.malformed .classUnclosed state.level.opening none)
      | some '[' =>
          match readNamedClass? flags cursor with
          | some reading =>
              let set := match reading.primitive with
                | .set set => set
                | _ => .empty
              let state := { state with
                level := state.level.add ⟨set, reading.place, .flat⟩
                fault := state.fault.or reading.fault }
              readSet flags fuel state reading.cursor
          | none =>
              let (level, behind) ← readOpening flags cursor
              readSet flags fuel
                { state with level, outer := state.level :: state.outer } behind
      | some ']' =>
          let behind := cursor.next
          let closed := state.level.closed flags behind.offset
          let reading := readingOfSet flags closed.set closed.place.first behind
          let fault := state.fault.or reading.fault
          match state.outer with
          | [] => return ({ reading with fault }, closed.nesting)
          | level :: outer => readSet flags fuel ⟨level.add closed, outer, fault⟩ behind
      | some _ =>
          let operations : List (String × SetOperation) :=
            [("&&", .intersection), ("--", .difference), ("~~", .symmetricDifference)]
          let operation? := operations.findSome? fun entry =>
            (cursor.behind? entry.1).map fun behind => (entry.2, behind)
          match operation? with
          | some (operation, behind) =>
              let level := state.level.operate flags operation behind.offset
              readSet flags fuel { state with level } behind
          | none =>
              let (set, fault, behind) ← readRange flags state.level cursor
              let state := { state with
                level := state.level.add set
                fault := state.fault.or fault }
              readSet flags fuel state behind

/-- Reads a bracket; the cursor stands at it. -/
def readBracket (flags : Flags) (cursor : Cursor) :
    Except PatternFault (Reading × Nesting) := do
  let (level, behind) ← readOpening flags cursor
  readSet flags (cursor.rest.length + 1) ⟨level, [], none⟩ behind

/-! ## Repetitions -/

/-- Reads a decimal number between blanks. -/
def readDecimal (flags : Flags) (cursor : Cursor) :
    Except PatternFault (Nat × Cursor) ⊕ (PatternFault × Cursor) :=
  let start := cursor.dropWhile isBlank
  let digits := start.rest.takeWhile isDigit
  let behind := (start.dropWhile isDigit).skip flags.ignoreBlanks
  let cursor := behind.dropWhile isBlank
  if digits.isEmpty then .inr (behind.faultSince start.offset .repetitionNoDecimal, cursor)
  else
    match valueOf? 10 decimalDigit? digits with
    | some value =>
        if value < 0x100000000 then .inl (.ok (value, cursor))
        else .inl (.error (behind.faultSince start.offset .decimalInvalid))
    | none => .inl (.error (behind.faultSince start.offset .decimalInvalid))

/-- How often a part is repeated. -/
structure Bounds where
  least : Nat
  most : Option Nat

/-- The bounds are in order. -/
def Bounds.inOrder (bounds : Bounds) : Bool :=
  match bounds.most with
  | some most => bounds.least ≤ most
  | none => true

/-- Reads the bounds of a counted repetition; the cursor stands at its brace. -/
def readBounds (flags : Flags) (cursor : Cursor) :
    Except PatternFault (Bounds × Cursor) := do
  let first := cursor.offset
  let start := cursor.next.skip flags.ignoreBlanks
  if start.atEnd then throw (start.faultSince first .repetitionUnclosed)
  let (least, behind) : Except PatternFault Nat × Cursor :=
    match readDecimal flags start with
    | .inl (.ok (value, behind)) => (.ok value, behind)
    | .inl (.error fault) => (.error fault, start.dropWhile (fun character =>
        isBlank character || isDigit character))
    | .inr (fault, behind) => (.error fault, behind)
  if behind.atEnd then throw (behind.faultSince first .repetitionUnclosed)
  let (bounds, closing) : Bounds × Cursor ←
    if behind.head? = some ',' then
      let behind := behind.next.skip flags.ignoreBlanks
      if behind.atEnd then throw (behind.faultSince first .repetitionUnclosed)
      if behind.head? = some '\x7d' then pure (⟨← least, none⟩, behind)
      else
        let least ← least
        match readDecimal flags behind with
        | .inl (.ok (most, closing)) => pure (⟨least, some most⟩, closing)
        | .inl (.error fault) => throw fault
        | .inr (fault, _) => throw fault
    else
      let least ← least
      pure (⟨least, some least⟩, behind)
  if closing.head? ≠ some '\x7d' then throw (closing.faultSince first .repetitionUnclosed)
  let behind := closing.next.skip flags.ignoreBlanks
  let behind := if behind.head? = some '?' then behind.next else behind
  if !bounds.inOrder then throw (behind.faultSince first .repetitionInvalid)
  return (bounds, behind)

/-! ## Sequences, choices and groups -/

/-- A part of a sequence, with the offset where it begins and how it is nested.
A setting of flags is no part that can be repeated. -/
inductive Item where
  | part (pattern : Pattern) (first : Nat) (nesting : Nesting)
  | setting

namespace Item

/-- The pattern of an item that is a part. -/
def pattern? : Item → Option Pattern
  | .part pattern _ _ => some pattern
  | .setting => none

/-- How an item is nested. -/
def nesting : Item → Nesting
  | .part _ _ nesting => nesting
  | .setting => .flat

end Item

/-- A pattern that was read, and how it is nested. -/
structure NestedPattern where
  pattern : Pattern
  nesting : Nesting

/-- What was read since the last open group, and the offsets where that and the
items since the last bar begin. Branches and items are kept last first. -/
structure Level where
  first : Nat
  branches : List NestedPattern
  itemsFirst : Nat
  items : List Item

namespace Level

/-- The level that begins at an offset. -/
def startingAt (offset : Nat) : Level :=
  ⟨offset, [], offset, []⟩

/-- The level with an item more. -/
def add (level : Level) (item : Item) : Level :=
  { level with items := item :: level.items }

/-- The pattern of the items since the last bar, which end at an offset. A single
item is not nested in a sequence. -/
def sequence (level : Level) (last : Nat) : NestedPattern :=
  let items := level.items.reverse
  let nesting := Nesting.allBeside (items.map Item.nesting)
  { pattern :=
      match items.filterMap Item.pattern? with
      | [part] => part
      | parts => .sequence parts
    nesting := if items.length < 2 then nesting else nesting.within ⟨level.itemsFirst, last⟩ }

/-- The level behind a bar, which stands at an offset. -/
def branched (level : Level) (bar : Nat) : Level :=
  { level with
    branches := level.sequence bar :: level.branches, itemsFirst := bar + 1, items := [] }

/-- The pattern of what was read on a level that ends at an offset. -/
def whole (level : Level) (last : Nat) : NestedPattern :=
  match level.branches with
  | [] => level.sequence last
  | earlier =>
      let branches := earlier.reverse ++ [level.sequence last]
      { pattern := .choice (branches.map NestedPattern.pattern)
        nesting :=
          (Nesting.allBeside (branches.map NestedPattern.nesting)).within ⟨level.first, last⟩ }

end Level

/-- A group that is open, with what was read before it. -/
structure OpenGroup where
  opening : Nat
  flags : Flags
  outer : Level

/-- What reading has come to. -/
structure State where
  groups : List OpenGroup
  flags : Flags
  level : Level
  names : List (List Char × Stretch)
  fault : Option PatternFault

namespace State

/-- The state at the start of a pattern. -/
def initial : State :=
  ⟨[], .initial, .startingAt 0, [], none⟩

/-- The state inside a new group, of which the inside begins at the cursor. -/
def opened (state : State) (opening : Nat) (flags : Flags) (inside : Cursor) : State :=
  { state with
    groups := ⟨opening, state.flags, state.level⟩ :: state.groups
    flags, level := .startingAt inside.offset }

/-- The state with the last part repeated, by an operator that stands at the
cursor and ends at an offset. -/
def repeatLast (state : State) (cursor : Cursor) (bounds : Bounds) (last : Nat) :
    Except PatternFault State :=
  match state.level.items with
  | .part pattern first nesting :: items =>
      let repeated : Item :=
        .part (.repeated bounds.least bounds.most pattern) first (nesting.within ⟨first, last⟩)
      .ok { state with level := { state.level with items := repeated :: items } }
  | _ => .error (.at_ .repetitionMissing cursor.offset cursor.offset)

end State

/-- A character of a group's name. -/
def isNameCharacter (isFirst : Bool) (character : Char) : Bool :=
  if isFirst then
    character == '_' || isAlphabetic character
  else
    character == '_' || character == '.' || character == '[' || character == ']' ||
      isAlphanumeric character

/-- Reads the name of a group, up to the closing angle. -/
def readName (state : State) (start : Cursor) : Except PatternFault (State × Cursor) := do
  let name := start.rest.takeWhile (· != '>')
  let closing := start.dropWhile (· != '>')
  let firstBad :=
    match name with
    | [] => 0
    | character :: rest =>
        if isNameCharacter true character then 1 + (rest.takeWhile (isNameCharacter false)).length
        else 0
  if start.atEnd then throw (.at_ .groupNameUnclosed start.offset start.offset)
  if firstBad < name.length then
    throw (.at_ .groupNameInvalid (start.offset + firstBad) (start.offset + firstBad + 1))
  if closing.atEnd then throw (.at_ .groupNameUnclosed closing.offset closing.offset)
  if name.isEmpty then throw (.at_ .groupNameEmpty start.offset start.offset)
  let place : Stretch := ⟨start.offset, closing.offset⟩
  match state.names.find? fun entry => entry.1 == name with
  | some entry => throw (.malformed .groupNameDuplicate place (some entry.2))
  | none => return ({ state with names := (name, place) :: state.names }, closing.next)

/-- Reads the opening of a group, or a setting of flags. -/
def readGroup (state : State) (cursor : Cursor) : Except PatternFault (State × Cursor) := do
  let opening := cursor.offset
  let inside := cursor.next.skip state.flags.ignoreBlanks
  let lookAround := ["?=", "?!", "?<=", "?<!"].findSome? inside.behind?
  if let some behind := lookAround then throw (behind.faultSince opening .lookAround)
  match (inside.behind? "?P<").or (inside.behind? "?<") with
  | some start =>
      let (state, behind) ← readName state start
      return (state.opened opening state.flags behind, behind)
  | none =>
      match inside.behind? "?" with
      | none => return (state.opened opening state.flags inside, inside)
      | some start =>
          if start.atEnd then throw (.at_ .groupUnclosed opening (opening + 1))
          let (list, closing) ←
            readFlags (start.rest.length + 1) ⟨state.flags, [], true, none⟩ start
          if closing.head? = some ')' then
            if list.seen.isEmpty then
              throw (.at_ .repetitionMissing inside.offset inside.offset)
            return ({ state with flags := list.flags, level := state.level.add .setting },
              closing.next)
          else return (state.opened opening list.flags closing.next, closing.next)

/-- Reads the closing of a group. -/
def readClosing (state : State) (cursor : Cursor) : Except PatternFault (State × Cursor) :=
  match state.groups with
  | [] => .error (cursor.faultHere .groupUnopened)
  | group :: groups =>
      let behind := cursor.next
      let inside := state.level.whole cursor.offset
      let item : Item :=
        .part inside.pattern group.opening
          (inside.nesting.within ⟨group.opening, behind.offset⟩)
      .ok ({ state with groups, flags := group.flags, level := group.outer.add item }, behind)

/-- The anchor of a caret or a dollar sign. -/
def lineAnchor (flags : Flags) (atStart : Bool) : Anchor :=
  if flags.multiLine then
    if flags.anyLineEnds then if atStart then .anyLineStart else .anyLineEnd
    else if atStart then .lineStart else .lineEnd
  else if atStart then .textStart else .textEnd

/-- The set of a dot. -/
def dotSet (flags : Flags) : CharSet :=
  if flags.dotMatchesAll then .anything
  else if flags.anyLineEnds then .exceptLineEnds
  else .exceptLineFeed

/-- The state behind a primitive. -/
def addReading (state : State) (reading : Reading) (nesting : Nesting) : State :=
  let beyond : PatternFault := .malformed .beyondText reading.place none
  let (pattern, fault) : Pattern × Option PatternFault :=
    match reading.primitive with
    | .literal character => (.character (state.flags.close (.single character)), none)
    | .byte _ => (.empty, some beyond)
    | .set set => (.character set, reading.fault)
    | .anchor anchor => (.anchored anchor, none)
    | .dot =>
        (.character (dotSet state.flags), if state.flags.unicode then none else some beyond)
  let item : Item := .part pattern reading.place.first nesting
  { state with level := state.level.add item, fault := state.fault.or fault }

/-- Reads the next part of a pattern. -/
def readPart (state : State) (cursor : Cursor) : Except PatternFault (State × Cursor) := do
  let one := fun (primitive : Primitive) =>
    (⟨primitive, ⟨cursor.offset, cursor.offset + 1⟩, none, cursor.next⟩ : Reading)
  match cursor.head? with
  | none => return (state, cursor)
  | some '(' => readGroup state cursor
  | some ')' => readClosing state cursor
  | some '|' =>
      return ({ state with level := state.level.branched cursor.offset }, cursor.next)
  | some '\x7b' =>
      let _ ← state.repeatLast cursor ⟨1, some 1⟩ cursor.offset
      let (bounds, behind) ← readBounds state.flags cursor
      return (← state.repeatLast cursor bounds behind.offset, behind)
  | some character =>
      let simple : Option Bounds :=
        match character with
        | '?' => some ⟨0, some 1⟩
        | '*' => some ⟨0, none⟩
        | '+' => some ⟨1, none⟩
        | _ => none
      match simple with
      | some bounds =>
          let behind := cursor.next
          let behind := if behind.head? = some '?' then behind.next else behind
          return (← state.repeatLast cursor bounds behind.offset, behind)
      | none =>
          let (reading, nesting) : Reading × Nesting ← match character with
            | '[' => readBracket state.flags cursor
            | '\\' => pure (← readEscape state.flags cursor, .flat)
            | '.' => pure (one .dot, .flat)
            | '^' => pure (one (.anchor (lineAnchor state.flags true)), .flat)
            | '$' => pure (one (.anchor (lineAnchor state.flags false)), .flat)
            | _ => pure (one (.literal character), .flat)
          return (addReading state reading nesting, reading.cursor)

/-- Reads parts up to the end of the text. -/
def readParts : (fuel : Nat) → State → Cursor → Except PatternFault State
  | 0, state, _ => .ok state
  | fuel + 1, state, cursor => do
      let cursor := cursor.skip state.flags.ignoreBlanks
      if cursor.atEnd then return state
      let (state, cursor) ← readPart state cursor
      readParts fuel state cursor

end Docket.PatternReader

namespace Docket.Pattern

open Docket.PatternReader

/-- The pattern of a text. -/
def parse (text : String) : Except PatternFault Pattern := do
  let characters := text.toList
  let state ← readParts (characters.length + 1) .initial ⟨characters, 0⟩
  if let group :: _ := state.groups then
    throw (.at_ .groupUnclosed group.opening (group.opening + 1))
  let whole := state.level.whole characters.length
  if let some place := whole.nesting.tooDeep? then
    throw (.malformed .nestLimitExceeded place none)
  if let some fault := state.fault then throw fault
  if greatestWeight < weight whole.pattern then throw .tooLarge
  return whole.pattern

end Docket.Pattern
