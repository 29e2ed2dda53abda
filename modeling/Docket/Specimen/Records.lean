import Docket.Record.Basic

/-!
# Specimen records

A collection of record types that between them have every kind of field: pairs
that differ in the types of fields of one name, types that refuse to be written,
types with blank values of their own, and types that leave fields out.
-/

set_option autoImplicit false

namespace Docket.Specimen

/-- A field of a type. -/
def field {α : Type} (name : String) (codec : Codec α) : Field :=
  ⟨name, α, codec⟩

/-- An integer whose blank value is five. -/
def level : Codec Signed64 :=
  Codec.signed64.withBlank ⟨5, by decide⟩

/-- An integer with a kind of its own. -/
def money : Codec Signed64 :=
  .ranged (.custom "money") Signed64.zero

/-- An integer of which thirteen is refused: a record that holds it cannot be
written. -/
def touchyLevel : Codec Signed64 :=
  Codec.signed64.refusing (fun value => value.val == 13) "unlucky"

/-- An account as it is stored. -/
def accountModel : RecordType :=
  .ofFields "AccountModel"
    [ field "id" .recordId, field "name" .text, field "balance" .signed64,
      field "created_at" .timestamp, field "closed_at" Codec.timestamp.optional,
      field "tags" Codec.text.list ]

/-- An account. -/
def account : RecordType :=
  .ofFields "Account"
    [ field "id" .text, field "name" .text, field "balance" .boolean,
      field "created_at" .millis, field "closed_at" Codec.signed64.optional,
      field "tags" Codec.text.list, field "extra" .text ]

/-- A draft, whose references are text. -/
def draft : RecordType :=
  .ofFields "Draft"
    [field "name" .text, field "refs" Codec.text.list, field "level" .signed64]

/-- A draft as it is stored, whose references are identifiers. -/
def stored : RecordType :=
  .ofFields "Stored"
    [field "name" .text, field "refs" Codec.recordId.list, field "level" .unsigned8]

/-- A record with a field of each standard kind. -/
def sample : RecordType :=
  .ofFields "Sample"
    [ field "id" .recordId, field "label" Codec.text.optional, field "at" .timestamp,
      field "seen" .millis, field "hits" .unsigned32, field "ratio" .measure,
      field "flags" Codec.boolean.list, field "meta" .json ]

/-- The fields of a sample with other types. -/
def shape : RecordType :=
  .ofFields "Shape"
    [ field "id" Codec.recordId.optional, field "label" .text, field "at" .signed64,
      field "seen" .timestamp, field "hits" .millis, field "ratio" .signed64,
      field "flags" Codec.signed64.list, field "meta" .document ]

/-- The fields of a sample, all nullable. -/
def loose : RecordType :=
  .ofFields "Loose"
    [ field "id" Codec.text.optional, field "label" Codec.signed64.optional,
      field "at" Codec.millis.optional, field "seen" Codec.timestamp.optional,
      field "hits" Codec.unsigned64.optional, field "ratio" Codec.measure.optional,
      field "flags" Codec.boolean.list.optional,
      field "meta" Codec.signed64.table.optional ]

/-- A record with unusual types. -/
def odd : RecordType :=
  .ofFields "Odd"
    [ field "name" .character, field "level" .signed8, field "refs" .document,
      field "money" money ]

/-- The fields of an odd record with other types. -/
def coin : RecordType :=
  .ofFields "Coin"
    [ field "name" .text, field "level" .unsigned64, field "refs" Codec.json.list,
      field "money" .text ]

/-- A record that is not always written. -/
def touchy : RecordType :=
  .ofFields "Touchy" [field "name" .text, field "level" touchyLevel]

/-- A record whose blank value cannot be read back. -/
def unmeasured : RecordType :=
  .ofFields "Nan"
    [ field "name" .text, field "ratio" (Codec.measure.withBlank .notANumber),
      field "level" .signed64 ]

/-- A record that is written without its blank fields. -/
def sparse : RecordType :=
  .ofFields "Sparse"
    [ field "name" .text,
      field "refs" (Codec.recordId.list.omitted List.isEmpty []),
      field "level" (level.omitted (fun value => value.val == 5) level.blank) ]

/-- An identifier by itself. -/
def wrapped : RecordType :=
  .ofField "Wrapped" (field "id" .recordId)

/-- A note of an application. -/
def note : RecordType :=
  .ofFields "Note"
    [ field "id" .text, field "title" .text, field "created_at" .millis,
      field "updated_at" .millis, field "deleted_at" Codec.signed64.optional ]

/-- A task of an application. -/
def task : RecordType :=
  .ofFields "Task" [field "id" .text, field "title" .text, field "created_at" .millis]

/-- An entry of a ledger, of an application. -/
def ledger : RecordType :=
  .ofFields "Ledger"
    [ field "id" .text, field "name" .text, field "amount" .signed64,
      field "opened" .signed64, field "closed" .millis, field "tags" Codec.text.list,
      field "meta" .document, field "ratio" .measure, field "note" Codec.text.optional ]

/-- A tag of an application. -/
def tag : RecordType :=
  .ofFields "Tag" [field "id" .text, field "name" .text, field "level" .signed64]

end Docket.Specimen
