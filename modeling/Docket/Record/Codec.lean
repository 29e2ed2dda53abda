import Docket.RecordId
import Docket.Record.FieldKind
import Docket.Time.UnixTime

/-!
# Types of fields

A codec says how a field of some type is written as JSON and read back, which
kind it has, which value it has when nothing is known of it, and what stands for
it when a record is written without it. Writing may fail, because a type may
refuse some of its values. Reading fails on any value that is not of the type;
only identifiers say why.

Integers have a range and are never read from floats. A floating-point field
reads integers too, and is null when it is not a number.
-/

set_option autoImplicit false

namespace Docket

/-- Why a value was not read. -/
inductive DecodeError where
  | identifier (cause : IdError)
  | unexpected (expected : String)
  | missingField (name : String)
  | wrongLength (expected actual : Nat)
  deriving DecidableEq

namespace DecodeError

/-- The message of an error. -/
def message : DecodeError → String
  | .identifier cause => cause.message
  | .unexpected expected => s!"invalid type: not {expected}"
  | .missingField name => s!"missing field '{name}'"
  | .wrongLength expected actual => s!"invalid length {actual}: not {expected}"

end DecodeError

/-- How values of a type are fields of records. -/
structure Codec (α : Type) where
  kind : FieldKind
  nullable : Bool
  /-- The value of a field of which nothing is known. -/
  blank : α
  encode : α → Except String Json
  decode : Json → Except DecodeError α
  /-- The field is not written when it has this value. -/
  leftOut : α → Bool
  /-- The value of a field that is missing, if it may be. -/
  absent : Option α
  /-- The field may be missing where fields are given by position. -/
  optionalAtEnd : Bool

/-- Integers from a least to a greatest one. -/
abbrev Ranged (least greatest : Int) : Type :=
  { value : Int // least ≤ value ∧ value ≤ greatest }

/-- Signed integers of 64 bits. -/
abbrev Signed64 : Type := Ranged (-9223372036854775808) 9223372036854775807

/-- Zero, as a signed integer of 64 bits. -/
def Signed64.zero : Signed64 :=
  ⟨0, by decide⟩

/-- Unsigned integers of 64 bits. -/
abbrev Unsigned64 : Type := Ranged 0 18446744073709551615

/-- Unsigned integers of 32 bits. -/
abbrev Unsigned32 : Type := Ranged 0 4294967295

/-- Unsigned integers of 8 bits. -/
abbrev Unsigned8 : Type := Ranged 0 255

/-- Signed integers of 8 bits. -/
abbrev Signed8 : Type := Ranged (-128) 127

/-- A floating-point number that may be none. -/
inductive Measure where
  | notANumber
  | number (value : Double)
  deriving DecidableEq

namespace Codec

variable {α : Type}

/-- A codec of a kind that always writes and has no exceptions. -/
def plain (kind : FieldKind) (blank : α) (encode : α → Json)
    (decode : Json → Except DecodeError α) : Codec α :=
  ⟨kind, false, blank, fun value => .ok (encode value), decode, fun _ => false, none, false⟩

/-- Identifiers. -/
def recordId : Codec RecordId :=
  plain .id .unassigned RecordId.toJson fun
    | .string text => (RecordId.parse text).mapError .identifier
    | _ => .error (.unexpected "a string")

/-- Text. -/
def text : Codec String :=
  plain .text "" .string fun
    | .string value => .ok value
    | _ => .error (.unexpected "a string")

/-- A single character. -/
def character : Codec Char :=
  plain .text '\x00' (fun value => .string (String.singleton value)) fun
    | .string value =>
        match value.toList with
        | [character] => .ok character
        | _ => .error (.unexpected "a character")
    | _ => .error (.unexpected "a character")

/-- Timestamps. -/
def timestamp : Codec Instant :=
  plain .timestamp .epoch (fun value => .string value.text) fun
    | .string value =>
        match Rfc3339.parseRelaxed? value with
        | some instant => .ok instant
        | none => .error (.unexpected "a timestamp")
    | _ => .error (.unexpected "a timestamp")

/-- Epoch milliseconds. -/
def millis : Codec UnixTime :=
  plain .millis ⟨.epoch⟩ UnixTime.toJson fun value =>
    match UnixTime.ofJson? value with
    | some time => .ok time
    | none => .error (.unexpected "epoch milliseconds")

/-- Integers of a range, of a kind. -/
def ranged (kind : FieldKind) {least greatest : Int} (blank : Ranged least greatest) :
    Codec (Ranged least greatest) :=
  plain kind blank (fun value => .ofInt value.val) fun
    | .number (.integer value _) =>
        if inRange : least ≤ value ∧ value ≤ greatest then .ok ⟨value, inRange⟩
        else .error (.unexpected "an integer in range")
    | _ => .error (.unexpected "an integer")

/-- Signed integers of 64 bits. -/
def signed64 : Codec Signed64 :=
  ranged .integer Signed64.zero

/-- Unsigned integers of 64 bits. -/
def unsigned64 : Codec Unsigned64 :=
  ranged .integer ⟨0, by decide⟩

/-- Unsigned integers of 32 bits. -/
def unsigned32 : Codec Unsigned32 :=
  ranged .integer ⟨0, by decide⟩

/-- Unsigned integers of 8 bits. -/
def unsigned8 : Codec Unsigned8 :=
  ranged .integer ⟨0, by decide⟩

/-- Signed integers of 8 bits. -/
def signed8 : Codec Signed8 :=
  ranged .integer ⟨0, by decide⟩

/-- Floating-point numbers. -/
def measure : Codec Measure :=
  plain .float (.number .zero)
    (fun
      | .notANumber => .null
      | .number value => .number (.float value))
    fun
      | .number value => .ok (.number value.toDouble)
      | _ => .error (.unexpected "a number")

/-- Truth values. -/
def boolean : Codec Bool :=
  plain .boolean false .boolean fun
    | .boolean value => .ok value
    | _ => .error (.unexpected "a truth value")

/-- Any value. -/
def json : Codec Json :=
  plain .object .null id .ok

/-- Objects with any members. -/
def document : Codec Document :=
  plain .object [] .object fun
    | .object members => .ok members
    | _ => .error (.unexpected "an object")

/-- The items of a list, written one by one. -/
def list (item : Codec α) : Codec (List α) where
  kind := .list
  nullable := false
  blank := []
  encode values := (values.mapM item.encode).map .array
  decode
    | .array items => items.mapM item.decode
    | _ => .error (.unexpected "an array")
  leftOut _ := false
  absent := none
  optionalAtEnd := false

/-- Objects whose members all have one type. -/
def table (member : Codec α) : Codec (List (String × α)) where
  kind := .object
  nullable := false
  blank := []
  encode entries :=
    (entries.mapM fun entry => (member.encode entry.2).map (entry.1, ·)).map .object
  decode
    | .object members =>
        members.mapM fun entry => (member.decode entry.2).map (entry.1, ·)
    | _ => .error (.unexpected "an object")
  leftOut _ := false
  absent := none
  optionalAtEnd := false

/-- A field that may be null, and is null when it is missing. -/
def optional (held : Codec α) : Codec (Option α) where
  kind := held.kind
  nullable := true
  blank := none
  encode
    | none => .ok .null
    | some value => held.encode value
  decode
    | .null => .ok none
    | value => (held.decode value).map some
  leftOut _ := false
  absent := some none
  optionalAtEnd := false

/-- The codec with another blank value. -/
def withBlank (codec : Codec α) (blank : α) : Codec α :=
  { codec with blank }

/-- The codec of a type that refuses to write some values. -/
def refusing (codec : Codec α) (refused : α → Bool) (reason : String) : Codec α :=
  { codec with
    encode := fun value => if refused value then .error reason else codec.encode value }

/-- The codec of a field that is written only if it passes a test, and has a
value when it is missing. -/
def omitted (codec : Codec α) (leftOut : α → Bool) (absent : α) : Codec α :=
  { codec with leftOut, absent := some absent, optionalAtEnd := true }

/-- What is known of a field with this codec. -/
def spec (codec : Codec α) (name : String) : FieldSpec :=
  ⟨name, codec.kind, codec.nullable⟩

end Codec

end Docket
