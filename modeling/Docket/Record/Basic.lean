import Docket.Record.Codec

/-!
# Records

A record type has a name and fields in the order of their declaration. Its
values are rows: one value per field, each of the field's own type. A row is
written as an object, except that a type of one field may be written as that
field alone.

Reading an object takes the members in the order of their names, and the first
one that its field refuses decides the error; only then are missing fields
looked for. Members that no field has are passed over. A row can also be read
from an array, by position.
-/

set_option autoImplicit false

namespace Docket

/-- A field of a record type. -/
structure Field where
  name : String
  Value : Type
  codec : Codec Value

namespace Field

/-- A field that may be missing, and then has a value of its own. -/
def defaulted {α : Type} (name : String) (codec : Codec α) (value : α) : Field :=
  ⟨name, α, (codec.withBlank value).omitted (fun _ => false) value⟩

/-- What is known of a field without its type. -/
def spec (field : Field) : FieldSpec :=
  field.codec.spec field.name

end Field

/-- Values of fields, in the order of the fields. -/
def Row : List Field → Type
  | [] => Unit
  | field :: rest => field.Value × Row rest

namespace Row

/-- The row of which nothing is known. -/
def blank : (fields : List Field) → Row fields
  | [] => ()
  | field :: rest => (field.codec.blank, blank rest)

/-- The members of a row, without those that are left out. -/
def encode : (fields : List Field) → Row fields → Except String Document
  | [], _ => .ok []
  | field :: rest, (value, others) =>
      if field.codec.leftOut value then encode rest others
      else do
        let written ← field.codec.encode value
        let members ← encode rest others
        return Document.insert members field.name written

/-- A value does not fit the field of its name, if there is one. -/
def refusal? (name : String) (value : Json) : List Field → Option DecodeError
  | [] => none
  | field :: rest =>
      if field.name = name then
        match field.codec.decode value with
        | .ok _ => none
        | .error error => some error
      else refusal? name value rest

/-- The first member that its field refuses. -/
def firstRefusal? (fields : List Field) (document : Document) : Option DecodeError :=
  document.findSome? fun member => refusal? member.1 member.2 fields

/-- Reads each field by its name. -/
def assemble (document : Document) : (fields : List Field) → Except DecodeError (Row fields)
  | [] => .ok ()
  | field :: rest => do
      let value ← match Document.get? document field.name with
        | some written => field.codec.decode written
        | none =>
            match field.codec.absent with
            | some value => pure value
            | none => throw (.missingField field.name)
      let others ← assemble document rest
      return (value, others)

/-- Reads each field by its position. -/
def assembleItems (total : Nat) : (fields : List Field) → (position : Nat) → List Json →
    Except DecodeError (Row fields)
  | [], position, items =>
      if items.isEmpty then .ok () else .error (.wrongLength total (position + items.length))
  | field :: rest, position, item :: items => do
      let value ← field.codec.decode item
      let others ← assembleItems total rest (position + 1) items
      return (value, others)
  | field :: rest, position, [] =>
      match field.codec.optionalAtEnd, field.codec.absent with
      | true, some value => do
          let others ← assembleItems total rest position []
          return (value, others)
      | _, _ => .error (.wrongLength total position)

/-- Reads a row from an object or an array. -/
def decode (fields : List Field) (value : Json) : Except DecodeError (Row fields) :=
  match value with
  | .object members =>
      match firstRefusal? fields members with
      | some error => .error error
      | none => assemble members fields
  | .array items => assembleItems fields.length fields 0 items
  | _ => .error (.unexpected "an object")

end Row

/-- A type of records. -/
structure RecordType where
  name : String
  Value : Type
  fields : List FieldSpec
  blank : Value
  encode : Value → Except String Json
  decode : Json → Except DecodeError Value

namespace RecordType

/-- The type of the rows of fields, written as objects. -/
def ofFields (name : String) (fields : List Field) : RecordType where
  name := name
  Value := Row fields
  fields := fields.map Field.spec
  blank := Row.blank fields
  encode row := (Row.encode fields row).map .object
  decode := Row.decode fields

/-- The type of the values of one field, written as that field alone. -/
def ofField (name : String) (field : Field) : RecordType where
  name := name
  Value := field.Value
  fields := [field.spec]
  blank := field.codec.blank
  encode := field.codec.encode
  decode := field.codec.decode

/-- The members of a record, or why there are none: its type refused to write
it, or it is not written as an object. -/
def members (record : RecordType) (notAnObject : String) (value : record.Value) :
    Except String Document := do
  match ← record.encode value with
  | .object members => return members
  | _ => throw notAnObject

/-- The field of a name. -/
def field? (record : RecordType) (name : String) : Option FieldSpec :=
  record.fields.find? fun field => field.name == name

end RecordType

/-- A type of records that are stored: they have an identifier, and take times
of creation and update. -/
structure ModelType extends RecordType where
  id : Value → RecordId
  setId : RecordId → Value → Value
  stampCreated : Instant → Value → Value
  stampUpdated : Instant → Value → Value

end Docket
