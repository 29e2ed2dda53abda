import Docket.Json.Basic
import Docket.Text.Digits

/-!
# Record identifiers

An identifier is a number of 128 bits. Its text is the number in lower-case
hexadecimal with all 32 digits, so that the order of identifiers is the order of
their texts, and reading accepts exactly those texts.

Identifiers are minted in time order: the leading 48 bits are the milliseconds
of the minting. The zero identifier is never minted; it stands for a record that
was not stored yet.
-/

set_option autoImplicit false

namespace Docket

/-- An identifier of 128 bits. -/
structure RecordId where
  value : Nat
  value_lt : value < 0x100000000000000000000000000000000
  deriving DecidableEq

/-- Why a text is not an identifier. -/
inductive IdError where
  | invalidLength (expected actual : Nat)
  | invalidCharacter (text : String)
  /-- The digits were refused; reading never ends this way. -/
  | unparsable (reason : String)
  deriving DecidableEq

namespace IdError

/-- The message of an error. -/
def message : IdError → String
  | .invalidLength expected actual =>
      s!"invalid record id length: expected {expected}, got {actual}"
  | .invalidCharacter text => s!"invalid record id '{text}': expected lowercase hexadecimal"
  | .unparsable reason => s!"failed to parse record id: {reason}"

end IdError

namespace RecordId

/-- The identifier of a record that was not stored yet. -/
def unassigned : RecordId :=
  ⟨0, by decide⟩

instance : Inhabited RecordId := ⟨unassigned⟩

/-- An identifier stands for a record that was not stored yet. -/
def isUnassigned (id : RecordId) : Bool :=
  id.value == 0

/-- The number of characters of an identifier's text. -/
def encodedLength : Nat := 32

/-- The characters of an identifier's text. -/
def characters (id : RecordId) : List Char :=
  Text.padded 16 encodedLength id.value

/-- The text of an identifier. -/
def text (id : RecordId) : String :=
  String.ofList id.characters

/-- Reads the text of an identifier. Length is counted in bytes. -/
def parse (text : String) : Except IdError RecordId :=
  if text.utf8ByteSize ≠ encodedLength then
    .error (.invalidLength encodedLength text.utf8ByteSize)
  else
    match Text.valueOf? 16 Text.lowerHexDigit? text.toList with
    | none => .error (.invalidCharacter text)
    | some value =>
        if fits : value < 0x100000000000000000000000000000000 then .ok ⟨value, fits⟩
        else .error (.unparsable text)

/-- The order of identifiers. -/
def compare (left right : RecordId) : Ordering :=
  Ord.compare left.value right.value

/-- The text of an identifier in five groups, as it is written for a UUID. -/
def hyphenated (id : RecordId) : String :=
  let digits := id.characters
  String.ofList (digits.take 8 ++ ['-'] ++ (digits.drop 8).take 4 ++ ['-'] ++
    (digits.drop 12).take 4 ++ ['-'] ++ (digits.drop 16).take 4 ++ ['-'] ++ digits.drop 20)

/-- The string of an identifier. -/
def toJson (id : RecordId) : Json :=
  .string id.text

/-- The identifier of version 7 that is minted at a millisecond, told apart from
others of that millisecond by a serial number. -/
def minted (millis serial : Nat) : RecordId :=
  ⟨millis % 0x1000000000000 * 0x100000000000000000000 + 0x70008000000000000000 +
      serial % 0x4000000000000000, by omega⟩

theorem minted_ne_unassigned (millis serial : Nat) : minted millis serial ≠ unassigned := by
  intro equal
  have values := congrArg RecordId.value equal
  simp only [minted, unassigned] at values
  omega

/-- Identifiers in ascending order, each once. -/
def sorted (ids : List RecordId) : List RecordId :=
  (ids.mergeSort fun left right => decide (left.value ≤ right.value)).eraseReps

end RecordId

/-- Where new identifiers come from: a stream of them and the number of those
that were taken. None of them is the unassigned one. -/
structure IdSource where
  stream : Nat → RecordId
  taken : Nat
  assigned : ∀ position, stream position ≠ RecordId.unassigned

namespace IdSource

/-- The next identifier. -/
def next (source : IdSource) : RecordId :=
  source.stream source.taken

/-- The source behind its next identifier. -/
def rest (source : IdSource) : IdSource :=
  { source with taken := source.taken + 1 }

/-- The identifiers minted from a millisecond on. -/
def fromMillis (millis : Nat) : IdSource :=
  ⟨RecordId.minted millis, 0, RecordId.minted_ne_unassigned millis⟩

end IdSource

end Docket
