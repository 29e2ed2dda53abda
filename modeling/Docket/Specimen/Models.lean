import Docket.Conversion.Copier
import Docket.Specimen.Records
import Docket.Text.LetterCase

/-!
# Specimen models

Record types that are stored, each with the record type of the application that
it is converted to: notes with both times, tasks with the time of creation only,
ledger entries with a time of creation of another name, tags and bare
identifiers without times. Six simple coercions, which any pair of kinds can be
given, are known by name.
-/

set_option autoImplicit false

namespace Docket.Specimen

/-- The title of a note. -/
def noteTitle : Field :=
  field "title" .text

/-- The fields of a stored note. -/
def noteFields : List Field :=
  [ field "id" .recordId, noteTitle, field "created_at" .timestamp,
    field "updated_at" .timestamp, field "deleted_at" Codec.timestamp.optional ]

/-- A stored note. -/
def noteModel : ModelType where
  toRecordType := .ofFields "NoteModel" noteFields
  id (row : Row noteFields) := row.1
  setId id (row : Row noteFields) := ((id, row.2) : Row noteFields)
  stampCreated now (row : Row noteFields) :=
    ((row.1, row.2.1, now, row.2.2.2) : Row noteFields)
  stampUpdated now (row : Row noteFields) :=
    ((row.1, row.2.1, row.2.2.1, now, row.2.2.2.2) : Row noteFields)

/-- A stored note that was created at a time and updated at the start of 1970. -/
def storedNote (id : RecordId) (title : String) (created : Instant) : noteModel.Value :=
  ((id, title, created, .epoch, none, ()) :
    RecordId × String × Instant × Instant × Option Instant × Unit)

/-- A note of an application that was created at a time and updated at the start of
1970. -/
def plainNote (id title : String) (created : UnixTime) : note.Value :=
  ((id, title, created, ⟨.epoch⟩, none, ()) :
    String × String × UnixTime × UnixTime × Option Signed64 × Unit)

/-- The fields of a stored task. -/
def taskFields : List Field :=
  [ field "id" .recordId, field "title" .text, field "created_at" .timestamp,
    field "deleted_at" Codec.timestamp.optional ]

/-- A stored task. -/
def taskModel : ModelType where
  toRecordType := .ofFields "TaskModel" taskFields
  id (row : Row taskFields) := row.1
  setId id (row : Row taskFields) := ((id, row.2) : Row taskFields)
  stampCreated now (row : Row taskFields) :=
    ((row.1, row.2.1, now, row.2.2.2) : Row taskFields)
  stampUpdated _ row := row

/-- The fields of a stored ledger entry. -/
def ledgerFields : List Field :=
  [ field "id" .recordId, field "name" .text, field "amount" .unsigned8,
    field "opened" .timestamp, field "closed" Codec.timestamp.optional,
    field "tags" Codec.recordId.list, field "meta" .json, field "ratio" .measure ]

/-- A stored ledger entry. -/
def ledgerModel : ModelType where
  toRecordType := .ofFields "LedgerModel" ledgerFields
  id (row : Row ledgerFields) := row.1
  setId id (row : Row ledgerFields) := ((id, row.2) : Row ledgerFields)
  stampCreated now (row : Row ledgerFields) :=
    ((row.1, row.2.1, row.2.2.1, now, row.2.2.2.2) : Row ledgerFields)
  stampUpdated _ row := row

/-- The fields of a stored tag. -/
def tagFields : List Field :=
  [field "id" .recordId, field "name" .text, field "level" touchyLevel]

/-- A stored tag. -/
def tagModel : ModelType where
  toRecordType := .ofFields "TagModel" tagFields
  id (row : Row tagFields) := row.1
  setId id (row : Row tagFields) := ((id, row.2) : Row tagFields)
  stampCreated _ row := row
  stampUpdated _ row := row

/-- A stored identifier. -/
def wrappedModel : ModelType where
  toRecordType := wrapped
  id (id : RecordId) := id
  setId id _ := id
  stampCreated _ id := id
  stampUpdated _ id := id

/-- Every specimen record type. -/
def all : List RecordType :=
  [ accountModel, account, draft, stored, sample, shape, loose, odd, coin, touchy, unmeasured,
    noteModel.toRecordType, note, taskModel.toRecordType, task, ledgerModel.toRecordType, ledger,
    tagModel.toRecordType, tag, sparse, wrapped ]

/-- The specimen record type of a name. -/
def ofName? (name : String) : Option RecordType :=
  all.find? fun record => record.name == name

/-- The coercion of a name. -/
def coercion? (name : String) : Option Coercion :=
  match name with
  | "to_text" => some fun value => .ok (.string value.text)
  | "nonzero" => some fun value => .ok (.boolean (value.toInt64?.getD 0 != 0))
  | "fail" => some fun _ => .error "nope"
  | "null" => some fun _ => .ok .null
  | "wrap" => some fun value => .ok (.array [value])
  | "same" => some fun value => .ok value
  | _ => none

/-- A title that the shouting converter refuses. -/
def refusedTitle (title : String) : Option ConversionError :=
  if Text.asciiLowercase title = "boom" then
    some (.field "title" "text" "text" "expected no boom")
  else none

/-- A stored note with a title and nothing else. -/
def titled (title : String) : Row noteFields :=
  let blank := Row.blank noteFields
  (blank.1, title, blank.2.2)

/-- A converter that keeps only titles, in capitals when they are stored. -/
def shouting : ModelConverter noteModel.toRecordType note where
  toModel row := .silent <|
    let title : String := row.2.1
    match refusedTitle title with
    | some error => .error error
    | none => .ok (titled (Text.uppercase title))
  toEntity row := .silent <|
    let id : RecordId := row.1
    let title : String := row.2.1
    match refusedTitle title with
    | some error => .error error
    | none => .ok ((id.text, title, note.blank.2.2) : note.Value)

end Docket.Specimen
