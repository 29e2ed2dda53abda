import Docket.Pattern.CharSet

/-!
# Patterns

A pattern is read as a relation between places of a text: a character leads from
its place to the next one, an anchor keeps the places at which it holds, a
sequence composes, a choice unites, and a repetition composes a part with itself
a number of times. A text matches a pattern if some place leads to some place,
so a match may begin and end anywhere.

The relation is computed on sets of places, all starts at once. Each part is
applied to a whole set, and a repetition stops as soon as the set no longer
changes, which it must after as many rounds as there are places. So the work
grows with the text and the pattern, and never with the number of ways to match.
-/

set_option autoImplicit false

namespace Docket

/-- What must be at a place of a text. -/
inductive Anchor where
  | textStart
  | textEnd
  | lineStart
  | lineEnd
  /-- The start of a line, where lines may end with a carriage return. -/
  | anyLineStart
  /-- The end of a line, where lines may end with a carriage return. -/
  | anyLineEnd
  | wordBoundary (scope : CaseScope)
  | noWordBoundary (scope : CaseScope)
  | wordStart (scope : CaseScope)
  | wordEnd (scope : CaseScope)
  /-- No word character comes before. -/
  | outsideBefore (scope : CaseScope)
  /-- No word character comes after. -/
  | outsideAfter (scope : CaseScope)
  deriving DecidableEq

/-- A pattern. -/
inductive Pattern where
  | empty
  | character (set : CharSet)
  | anchored (anchor : Anchor)
  | sequence (parts : List Pattern)
  | choice (branches : List Pattern)
  /-- A part at least, and at most, a number of times. -/
  | repeated (least : Nat) (most : Option Nat) (body : Pattern)

/-- The characters on both sides of a place of a text. -/
structure Place where
  before : Option Char
  after : Option Char
  deriving DecidableEq

namespace Place

/-- The places of a text behind a character, the last one included. -/
def following (before : Option Char) : List Char → List Place
  | [] => [⟨before, none⟩]
  | character :: rest => ⟨before, some character⟩ :: following (some character) rest

/-- The places of a text. -/
def ofText (text : String) : List Place :=
  following none text.toList

/-- A side of a place has a word character. -/
def isWord (scope : CaseScope) (side : Option Char) : Bool :=
  match side with
  | none => false
  | some character =>
      match scope with
      | .unicode => CharSet.isWordCharacter character
      | .ascii => CharSet.asciiWordCharacters.holds character

end Place

namespace Anchor

/-- An anchor holds at a place. -/
def holdsAt (anchor : Anchor) (place : Place) : Bool :=
  match anchor with
  | .textStart => place.before == none
  | .textEnd => place.after == none
  | .lineStart => place.before == none || place.before == some '\n'
  | .lineEnd => place.after == none || place.after == some '\n'
  | .anyLineStart =>
      place.before == none || place.before == some '\n' ||
        (place.before == some '\r' && place.after != some '\n')
  | .anyLineEnd =>
      place.after == none || place.after == some '\r' ||
        (place.after == some '\n' && place.before != some '\r')
  | .wordBoundary scope => Place.isWord scope place.before != Place.isWord scope place.after
  | .noWordBoundary scope => Place.isWord scope place.before == Place.isWord scope place.after
  | .wordStart scope => !Place.isWord scope place.before && Place.isWord scope place.after
  | .wordEnd scope => Place.isWord scope place.before && !Place.isWord scope place.after
  | .outsideBefore scope => !Place.isWord scope place.before
  | .outsideAfter scope => !Place.isWord scope place.after

end Anchor

namespace Pattern

/-- A set of places, as a mark for each place of the text. -/
abbrev Marks := List Bool

/-- The places that are in one of two sets. -/
def union (left right : Marks) : Marks :=
  List.zipWith (· || ·) left right

/-- The marked places at which a test holds. -/
def keep (places : List Place) (test : Place → Bool) (marks : Marks) : Marks :=
  List.zipWith (fun place mark => mark && test place) places marks

/-- The places behind a character of a set at a marked place. -/
def advance (places : List Place) (set : CharSet) (marks : Marks) : Marks :=
  false :: (keep places (fun place => place.after.any set.holds) marks).dropLast

/-- A step applied a number of times, or until nothing changes. -/
def applied (step : Marks → Marks) : Nat → Marks → Marks
  | 0, marks => marks
  | count + 1, marks =>
      let next := step marks
      if next = marks then marks else applied step count next

/-- The places that a step reaches when it is applied up to a number of times. -/
def spread (step : Marks → Marks) : Nat → Marks → Marks
  | 0, marks => marks
  | count + 1, marks =>
      let next := union marks (step marks)
      if next = marks then marks else spread step count next

mutual

/-- The places to which a pattern leads from the marked ones. -/
def reach (places : List Place) : Pattern → Marks → Marks
  | .empty, marks => marks
  | .character set, marks => advance places set marks
  | .anchored anchor, marks => keep places anchor.holdsAt marks
  | .sequence parts, marks => reachThrough places parts marks
  | .choice branches, marks => reachByAny places branches marks
  | .repeated least most body, marks =>
      let step := fun marks => reach places body marks
      let more := match most with
        | some most => most - least
        | none => places.length
      spread step more (applied step least marks)

/-- The places to which patterns lead one after another. -/
def reachThrough (places : List Place) : List Pattern → Marks → Marks
  | [], marks => marks
  | part :: rest, marks => reachThrough places rest (reach places part marks)

/-- The places to which one of several patterns leads. -/
def reachByAny (places : List Place) : List Pattern → Marks → Marks
  | [], marks => marks.map fun _ => false
  | branch :: rest, marks => union (reach places branch marks) (reachByAny places rest marks)

end

/-- A text has a part that matches a pattern. -/
def isMatch (pattern : Pattern) (text : String) : Bool :=
  let places := Place.ofText text
  (reach places pattern (places.map fun _ => true)).any id

/-- The bytes that a set of characters counts for. The classes of Unicode count
for about as many as their tables have runs. -/
def setWeight : CharSet → Nat
  | .empty => 1
  | .range first last => if first = last then first.utf8Size else 1
  | .ranges listed => listed.length
  | .categories listed => listed.foldl (fun weight category => weight + category.runs.length) 0
  | .blanks => 16
  | .union left right => max (setWeight left) (setWeight right)
  | .intersection left right => max (setWeight left) (setWeight right)
  | .difference left right => max (setWeight left) (setWeight right)
  | .complement set => max 16 (setWeight set)
  | .caseClosed _ set => 1 + setWeight set

mutual

/-- The length of a pattern with its repetitions written out, in bytes to be
matched. -/
def weight : Pattern → Nat
  | .empty => 1
  | .character set => setWeight set
  | .anchored _ => 1
  | .sequence parts => weightOfParts parts
  | .choice branches => 1 + weightOfParts branches
  | .repeated least most body => 1 + max 1 (most.getD least) * weight body

/-- The length of several patterns together. -/
def weightOfParts : List Pattern → Nat
  | [] => 0
  | part :: rest => weight part + weightOfParts rest

end

/-- The greatest weight of a pattern. -/
def greatestWeight : Nat := 327680

end Pattern

end Docket
