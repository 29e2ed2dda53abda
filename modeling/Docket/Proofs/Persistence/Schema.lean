import Docket.Proofs.Persistence.StoredRows
import Docket.Proofs.Record.Fidelity
import Docket.Specimen.Notes

/-!
# Schemas of stored records

A schema lists the columns of a type of stored records: one for the identifier, some for
times, which may be null or not, and some for values of any other type. How the type stamps
its records is up to it. It is described by a value for each column, as any row is.

What is stored of a record is what each column keeps (`Column.Keeps`). The column of the
identifier is not among them: the identifier goes under the primary key. A column that
keeps its value either writes it, and reads it from the stored form of what it wrote; or
leaves it out, and has it when it is missing. A time keeps its milliseconds and may lose what
is finer; it is what is lost only the first time (`Column.keeps_of_returns`). So a stored
form is read as a record that has the same stored form (`stored_form_there_and_back`).
-/

set_option autoImplicit false

namespace Docket

/-! ## Columns -/

/-- The column of the identifier. -/
structure IdColumn where
  codec : Codec RecordId
  like : codec.Resembles .recordId

/-- A column for times, which may be null or not. -/
structure TimeColumn where
  name : String
  nullable : Bool
  codec : Codec (Nullable nullable Instant)
  like : codec.Resembles (Codec.timestamp.optionalIf nullable)

/-- A column of stored records. -/
inductive Column where
  | id (column : IdColumn)
  | time (column : TimeColumn)
  /-- A column of any other type. -/
  | other (field : Field)

namespace Column

/-- The field that a column is. -/
def field : Column → Field
  | .id column => ⟨FieldName.identifier, RecordId, column.codec⟩
  | .time column => ⟨column.name, Nullable column.nullable Instant, column.codec⟩
  | .other field => field

/-- The name of a column. -/
def name (column : Column) : String :=
  column.field.name

/-- The value of a column of a record that is given an identifier. -/
def identified (id : RecordId) : (column : Column) → column.field.Value → column.field.Value
  | .id _, _ => id
  | .time _, value => value
  | .other _, value => value

/-- What becomes of the value of a column when its record is stored. -/
def asStored : (column : Column) → column.field.Value → column.field.Value
  | .id _, value => value
  | .time _, value => Nullable.map Instant.asStored value
  | .other _, value => value

/-- The identifier in a row of columns. -/
def idOf : (columns : List Column) → Row (columns.map field) → RecordId
  | [], _ => .unassigned
  | .id _ :: _, (held, _) => held
  | .time _ :: rest, (_, others) => idOf rest others
  | .other _ :: rest, (_, others) => idOf rest others

theorem idOf_ofValues (values : (column : Column) → column.field.Value) {identifier : IdColumn}
    {columns : List Column} (only : ∀ other, .id other ∈ columns → other = identifier)
    (hasId : .id identifier ∈ columns) :
    idOf columns (Row.ofValues field values columns) = values (.id identifier) := by
  induction columns with
  | nil => cases hasId
  | cons column rest ih =>
      cases column with
      | id other =>
          obtain rfl := only other List.mem_cons_self
          rfl
      | _ =>
          exact ih (fun other isOther => only other (List.mem_cons_of_mem _ isOther))
            ((List.mem_cons.mp hasId).resolve_left nofun)

/-- **A column keeps a value** when its record is stored. -/
inductive Keeps (column : Column) (value : column.field.Value) : Prop
  /-- It is written, then and when what became of it is stored again, with the same stored
  form, and is read from that. -/
  | written (json again : Json)
      (kept : column.field.codec.leftOut value = false)
      (encodes : column.field.codec.encode value = .ok json)
      (decodes : column.field.codec.decode (column.field.storedForm json) =
        .ok (column.asStored value))
      (keptAgain : column.field.codec.leftOut (column.asStored value) = false)
      (encodesAgain : column.field.codec.encode (column.asStored value) = .ok again)
      (same : column.field.storedForm again = column.field.storedForm json)
  /-- It is left out, and stands for itself when it is missing. -/
  | leftOut (leftOut : column.field.codec.leftOut value = true)
      (absent : column.field.codec.absent = some value)
      (unchanged : column.asStored value = value)

theorem kind_time (column : TimeColumn) : (time column).field.codec.kind = .timestamp :=
  column.like.kind.trans (Codec.kind_optionalIf column.nullable)

/-- A column for times writes an instant as its text. -/
theorem encode_holding (column : TimeColumn) (instant : Instant) :
    column.codec.encode (.holding column.nullable instant) = .ok (.string instant.text) := by
  rw [column.like.encode]
  exact Codec.encode_optionalIf_holding column.nullable

/-- A column for times keeps every instant, up to what is finer than a millisecond. -/
theorem keeps_holding (column : TimeColumn) (instant : Instant) :
    (time column).Keeps (Nullable.holding column.nullable instant) := by
  have became : (time column).asStored (Nullable.holding column.nullable instant) =
      Nullable.holding column.nullable instant.asStored :=
    Nullable.map_holding _ _ _
  have stored := Field.storedForm_timestamp (kind_time column) instant
  have storedAgain := Field.storedForm_timestamp (kind_time column) instant.asStored
  refine .written (.string instant.text) (.string instant.asStored.text) ?_
    (encode_holding column instant) ?_ ?_ ?_ ?_
  · exact column.like.kept_of_encode (encode_holding column instant) nofun
  · rw [stored, became]
    show column.codec.decode _ = _
    rw [column.like.decode]
    exact Codec.decode_optionalIf column.nullable nofun instant.decode_storedText
  · rw [became]
    exact column.like.kept_of_encode (encode_holding column instant.asStored) nofun
  · rw [became]
    exact encode_holding column instant.asStored
  · rw [storedAgain, stored, instant.storedText_asStored]

/-- A column for times keeps null. -/
theorem keeps_of_not_held (column : TimeColumn) {value : Nullable column.nullable Instant}
    (notHeld : value.held? = none) : (time column).Keeps value := by
  obtain ⟨name, nullable, codec, like⟩ := column
  cases nullable with
  | false => cases notHeld
  | true =>
      obtain rfl : value = (none : Option Instant) := notHeld
      by_cases leftOut : codec.leftOut (none : Option Instant) = true
      · exact .leftOut leftOut (like.absent _ leftOut) rfl
      · have kept := Bool.eq_false_iff.mpr leftOut
        have writes : codec.encode (none : Option Instant) = .ok .null := by
          rw [like.encode]
          rfl
        refine .written .null .null kept writes ?_ kept writes rfl
        rw [Field.storedForm_null]
        show codec.decode .null = _
        rw [like.decode]
        rfl

/-- **A column keeps its value** if that is a time, or comes back and is no timestamp. -/
theorem keeps_of_returns {column : Column} (notId : ∀ id, column ≠ .id id)
    (value : column.field.Value)
    (returns : ∀ field, column = .other field →
      column.field.codec.kind ≠ .timestamp ∧ column.field.Returns value) :
    column.Keeps value := by
  cases column with
  | id column => exact absurd rfl (notId column)
  | time column =>
      cases held : Nullable.held? value with
      | none => exact keeps_of_not_held column held
      | some instant =>
          obtain rfl := Nullable.eq_holding held
          exact keeps_holding column instant
  | other field =>
      obtain ⟨noTime, returns⟩ := returns field rfl
      cases returns with
      | written json kept encodes decodes =>
          refine .written json json kept encodes ?_ kept encodes rfl
          rw [Field.storedForm, if_neg noTime]
          exact decodes
      | leftOut leftOut absent => exact .leftOut leftOut absent rfl

end Column

/-! ## Schemas -/

/-- What a type of stored records is like. -/
structure Schema where
  name : String
  columns : List Column
  distinct : (columns.map Column.name).Nodup
  identifier : IdColumn
  hasId : .id identifier ∈ columns
  /-- Only the columns for times are timestamps. -/
  noTime : ∀ field, .other field ∈ columns → field.codec.kind ≠ .timestamp
  stampCreated : Instant → Row (columns.map Column.field) → Row (columns.map Column.field)
  stampUpdated : Instant → Row (columns.map Column.field) → Row (columns.map Column.field)

/-- A value for each column. -/
abbrev ColumnValues : Type 1 := (column : Column) → column.field.Value

namespace Schema

variable (schema : Schema)

/-- The type of stored records that a schema describes. -/
def model : ModelType where
  toRecordType := .ofFields schema.name (schema.columns.map Column.field)
  id record := Column.idOf schema.columns record
  setId id record := Row.mapped Column.field (Column.identified id) schema.columns record
  stampCreated := schema.stampCreated
  stampUpdated := schema.stampUpdated

/-- The record of values. -/
def record (values : ColumnValues) : schema.model.Value :=
  Row.ofValues Column.field values schema.columns

theorem exists_record (record : schema.model.Value) : ∃ values, record = schema.record values :=
  Row.exists_values Column.field (schema.distinct.of_map _) record

variable {schema}

theorem eq_of_name_eq {column other : Column} (isColumn : column ∈ schema.columns)
    (isOther : other ∈ schema.columns) (sameName : column.name = other.name) : column = other :=
  List.inj_on_of_nodup_map schema.distinct isColumn isOther sameName

theorem names_nodup : (schema.columns.map fun column => column.field.name).Nodup :=
  schema.distinct

variable (schema) (values : ColumnValues)

@[simp] theorem id_record :
    schema.model.id (schema.record values) = values (.id schema.identifier) :=
  Column.idOf_ofValues values (fun _ isOther =>
    Column.id.inj (eq_of_name_eq isOther schema.hasId rfl)) schema.hasId

@[simp] theorem setId_record (id : RecordId) :
    schema.model.setId id (schema.record values) =
      schema.record fun column => column.identified id (values column) :=
  Row.mapped_ofValues Column.field (Column.identified id) values schema.columns

/-- The type that a schema describes is lawful. -/
theorem lawful : schema.model.Lawful where
  id_setId id record := by
    obtain ⟨values, rfl⟩ := schema.exists_record record
    rw [setId_record, id_record]
    rfl
  sorted record _ encoded := RecordType.ofFields_sorted schema.name _ record encoded

variable {schema}

/-! ## Stored forms -/

/-- The values of all other types come back when a record with them is written. -/
def Return (schema : Schema) (values : ColumnValues) : Prop :=
  ∀ field, .other field ∈ schema.columns → field.Returns (values (.other field))

section

variable {values} {id : RecordId} {members : Document}

/-- All columns but that of the identifier keep values that come back. -/
theorem keeps (returns : schema.Return values) {column : Column}
    (isColumn : column ∈ schema.columns) (notId : column.name ≠ FieldName.identifier) :
    column.Keeps (values column) := by
  refine Column.keeps_of_returns (fun _ isId => notId (congrArg Column.name isId)) _
    fun field isOther => ?_
  subst isOther
  exact ⟨schema.noTime field isColumn, returns field isColumn⟩

/-- A record whose values come back is written. -/
theorem exists_members (returns : schema.Return values) :
    ∃ members, Row.encode (schema.columns.map Column.field)
      (Row.ofValues Column.field values schema.columns) = .ok members := by
  refine Row.exists_encode_of_kept fun column isColumn kept => ?_
  cases column with
  | id column => exact ⟨_, congrFun column.like.encode _⟩
  | _ =>
      have keeps := keeps returns isColumn fun isId =>
        Column.noConfusion (eq_of_name_eq isColumn schema.hasId isId)
      cases keeps with
      | written json _ _ encodes _ _ _ _ => exact ⟨json, encodes⟩
      | leftOut leftOut _ _ =>
          rw [leftOut] at kept
          cases kept

variable (encoded : Row.encode (schema.columns.map Column.field)
  (Row.ofValues Column.field values schema.columns) = .ok members)

include encoded

/-- **A column reads what it kept** from the stored form of its record. -/
theorem read_stored {column : Column} (isColumn : column ∈ schema.columns)
    (notId : column.name ≠ FieldName.identifier) (notKey : column.name ≠ FieldName.primaryKey)
    (keeps : column.Keeps (values column)) :
    column.field.read (Access.storedMembers schema.model.fields id members) =
      .ok (column.asStored (values column)) := by
  have stored : Document.get? (Access.storedMembers schema.model.fields id members)
      column.field.name = (Document.get? members column.field.name).map column.field.storedForm :=
    Access.get?_storedMembers_field names_nodup isColumn notKey notId
  cases keeps with
  | written json again kept encodes decodes _ _ _ =>
      obtain ⟨other, encodesOther, found⟩ :=
        Row.get?_of_encode names_nodup encoded isColumn kept
      obtain rfl := Except.ok.inj (encodesOther.symm.trans encodes)
      rw [found] at stored
      rw [Field.read_of_get? stored, decodes]
  | leftOut leftOut absent unchanged =>
      rw [Row.get?_of_encode_of_leftOut names_nodup encoded isColumn leftOut] at stored
      rw [Field.read, stored, unchanged, Option.map_none, absent]

variable {again : Document}
  (encodedAgain : Row.encode (schema.columns.map Column.field)
    (Row.ofValues Column.field (fun column => column.asStored (values column)) schema.columns) =
      .ok again)

include encodedAgain

/-- What a column keeps has one stored form, then and when it is stored again. -/
theorem storedForm_asStored {column : Column} (isColumn : column ∈ schema.columns)
    (keeps : column.Keeps (values column)) :
    (Document.get? again column.name).map column.field.storedForm =
      (Document.get? members column.name).map column.field.storedForm := by
  cases keeps with
  | written json jsonAgain kept encodes _ keptAgain encodesAgain same =>
      obtain ⟨other, encodesOther, found⟩ :=
        Row.get?_of_encode names_nodup encoded isColumn kept
      obtain rfl := Except.ok.inj (encodesOther.symm.trans encodes)
      obtain ⟨other, encodesOther, foundAgain⟩ :=
        Row.get?_of_encode names_nodup encodedAgain isColumn keptAgain
      obtain rfl := Except.ok.inj (encodesOther.symm.trans encodesAgain)
      rw [Column.name, found, foundAgain, Option.map_some, Option.map_some, same]
  | leftOut leftOut _ unchanged =>
      rw [Column.name, Row.get?_of_encode_of_leftOut names_nodup encoded isColumn leftOut,
        Row.get?_of_encode_of_leftOut names_nodup encodedAgain isColumn
          (unchanged.symm ▸ leftOut)]

/-- **What became of a record has the same stored form.** -/
theorem storedMembers_asStored (returns : schema.Return values) :
    Access.storedMembers schema.model.fields id again =
      Access.storedMembers schema.model.fields id members := by
  have sorted : Document.Sorted (Access.storedMembers schema.model.fields id members) :=
    Access.storedMembers_sorted (Row.encode_sorted _ _ encoded)
  have sortedAgain : Document.Sorted (Access.storedMembers schema.model.fields id again) :=
    Access.storedMembers_sorted (Row.encode_sorted _ _ encodedAgain)
  refine sortedAgain.ext sorted fun name => ?_
  by_cases isKey : name = FieldName.primaryKey
  · rw [isKey, Access.storedMembers_primaryKey, Access.storedMembers_primaryKey]
  by_cases isIdentifier : name = FieldName.identifier
  · rw [isIdentifier, Access.get?_storedMembers_identifier, Access.get?_storedMembers_identifier]
  by_cases named : ∃ column ∈ schema.columns, column.name = name
  · obtain ⟨column, isColumn, rfl⟩ := named
    have alike := storedForm_asStored encoded encodedAgain isColumn
      (keeps returns isColumn isIdentifier)
    exact (Access.get?_storedMembers_field names_nodup isColumn isKey isIdentifier).trans
      (alike.trans (Access.get?_storedMembers_field names_nodup isColumn isKey isIdentifier).symm)
  · have unnamed : ∀ column ∈ schema.columns, column.name ≠ name :=
      fun column isColumn isName => named ⟨column, isColumn, isName⟩
    have missing := Row.get?_of_encode_of_unnamed encoded
      fun column isColumn _ => unnamed column isColumn
    have missingAgain := Row.get?_of_encode_of_unnamed encodedAgain
      fun column isColumn _ => unnamed column isColumn
    rw [Access.get?_storedMembers_eq_none isKey missingAgain,
      Access.get?_storedMembers_eq_none isKey missing]

end

/-- **A stored form is read as the record that it was made of**, but for what is finer than a
millisecond in its times, and what is read has the same stored form. The stored form has the
text of the identifier under the primary key, and nothing under the name that the identifier
has outside the store. -/
theorem stored_form_there_and_back {σ : Type} (access : Access σ schema.model)
    (unreserved : ∀ column ∈ schema.columns, column.name ≠ FieldName.primaryKey)
    {values : ColumnValues} (returns : schema.Return values) :
    ∃ document,
      (∀ operation, access.encode operation (schema.record values) = .ok document) ∧
      Document.get? document FieldName.primaryKey =
        some (.string (schema.model.id (schema.record values)).text) ∧
      RecordId.IsText (schema.model.id (schema.record values)).text ∧
      Document.get? document FieldName.identifier = none ∧
      (∀ operation, access.decode operation document =
        .ok (schema.record fun column => column.asStored (values column))) ∧
      (∀ operation, access.encode operation
        (schema.record fun column => column.asStored (values column)) = .ok document) ∧
      ∀ time, .time time ∈ schema.columns →
        (Nullable.held? (Column.asStored _ (values (.time time)))).map Instant.millis =
          (Nullable.held? (values (.time time))).map Instant.millis := by
  obtain ⟨members, encoded⟩ := exists_members returns
  obtain ⟨again, encodedAgain⟩ : ∃ again, Row.encode (schema.columns.map Column.field)
      (Row.ofValues Column.field (fun column => column.asStored (values column)) schema.columns) =
        .ok again :=
    exists_members fun field isOther => returns field isOther
  have written : schema.model.encode (schema.record values) = .ok (.object members) :=
    (RecordType.encode_ofFields_iff schema.name).mpr encoded
  have writtenAgain : schema.model.encode
      (schema.record fun column => column.asStored (values column)) = .ok (.object again) :=
    (RecordType.encode_ofFields_iff schema.name).mpr encodedAgain
  have sameId : schema.model.id (schema.record fun column => column.asStored (values column)) =
      schema.model.id (schema.record values) := by
    rw [id_record, id_record]
    rfl
  refine ⟨_, fun operation => Access.encode_of_members written, Access.storedMembers_primaryKey,
    RecordId.isText_iff.mpr ⟨_, rfl⟩, Access.get?_storedMembers_identifier, fun operation => ?_,
    fun operation => ?_, fun time _ => ?_⟩
  · refine Access.decode_of_hasId Access.storedMembers_primaryKey (Row.decode_restored
      (Access.storedMembers_sorted (Row.encode_sorted _ _ encoded))
        (fun column isColumn isId => ?_)
        fun column isColumn notId => ?_)
    · obtain rfl := eq_of_name_eq isColumn schema.hasId isId
      rw [id_record]
      show schema.identifier.codec.decode _ = _
      rw [schema.identifier.like.decode]
      exact Codec.decode_recordId _
    · have notKey := unreserved column isColumn
      rw [← read_stored encoded isColumn notId notKey (keeps returns isColumn notId)]
      exact Field.read_congr (Document.get?_erase_of_ne _ notKey)
  · rw [Access.encode_of_members writtenAgain, sameId,
      storedMembers_asStored encoded encodedAgain returns]
  · exact Nullable.millis_asStored (values (.time time))

/-! ## Notes -/

open Specimen (noteTitle)

theorem resembles_recordId : Codec.recordId.Resembles .recordId :=
  .refl fun _ => rfl

theorem resembles_timestamp : Codec.timestamp.Resembles (Codec.timestamp.optionalIf false) :=
  .refl fun _ => rfl

theorem resembles_optional :
    Codec.timestamp.optional.Resembles (Codec.timestamp.optionalIf true) :=
  .refl fun _ => rfl

/-- The time of creation of a note. -/
def createdAt : TimeColumn :=
  ⟨"created_at", false, .timestamp, resembles_timestamp⟩

/-- The columns of a stored note. -/
def noteColumns : List Column :=
  [ .id ⟨.recordId, resembles_recordId⟩, .other noteTitle, .time createdAt,
    .time ⟨"updated_at", false, .timestamp, resembles_timestamp⟩,
    .time ⟨"deleted_at", true, Codec.timestamp.optional, resembles_optional⟩ ]

theorem nodup_noteColumns : (noteColumns.map Column.name).Nodup := by
  decide

theorem eq_noteTitle {field : Field} (isOther : .other field ∈ noteColumns) :
    field = noteTitle := by
  simpa only [noteColumns, List.mem_cons, reduceCtorEq, false_or, or_false, Column.other.injEq,
    List.not_mem_nil] using isOther

/-- Only the times of notes are timestamps. -/
theorem noTime_noteColumns (field : Field) (isOther : .other field ∈ noteColumns) :
    field.codec.kind ≠ .timestamp := by
  rw [eq_noteTitle isOther]
  nofun

/-- Stored notes. -/
def notes : Schema where
  name := "NoteModel"
  columns := noteColumns
  distinct := nodup_noteColumns
  identifier := ⟨.recordId, resembles_recordId⟩
  hasId := List.mem_cons_self
  noTime := noTime_noteColumns
  stampCreated now row := Specimen.noteModel.stampCreated now row
  stampUpdated now row := Specimen.noteModel.stampUpdated now row

theorem model_notes : notes.model = Specimen.noteModel := rfl

/-- The titles of notes come back. -/
theorem return_notes (values : ColumnValues) : notes.Return values := by
  intro field isOther
  obtain rfl := eq_noteTitle isOther
  exact .written (.string (values (.other noteTitle) : String)) rfl rfl rfl

/-- An instant in the leap second at the end of 2016. -/
def leapInstant : Instant :=
  ⟨1483228799, 1500000500, by decide, by decide, by decide⟩

/-- A note that was created in a leap second. -/
def leapNote : Specimen.noteModel.Value :=
  Specimen.storedNote (RecordId.minted 0 1) "leap" leapInstant

/-- The note is read with the time of its creation cut off to milliseconds. -/
theorem stored_form_there_and_back_leapNote :
    let access : Access MemoryStore Specimen.noteModel :=
      ⟨MemoryStore.backend, ⟨"test", "notes"⟩⟩
    ∃ document back : _,
      access.encode .insertOne leapNote = .ok document ∧
        access.decode .find document = .ok back ∧
        (back.2.2.1 : Instant) = leapInstant.shown .millis ∧
        access.encode .insertOne back = .ok document := by
  intro access
  obtain ⟨values, isNote⟩ := notes.exists_record leapNote
  have isCreated : leapInstant = values (.time createdAt) :=
    congrArg (fun row : RecordId × String × Instant × Instant × Option Instant × Unit =>
      row.2.2.1) isNote
  obtain ⟨document, encodes, _, _, _, decodes, encodesAgain, _⟩ :=
    @stored_form_there_and_back notes _ access (by decide) values (return_notes values)
  refine ⟨document, _, ?_, decodes .find, ?_, encodesAgain .insertOne⟩
  · rw [isNote]
    exact encodes .insertOne
  · have cutOff : leapInstant.asStored = leapInstant.shown .millis := if_pos (by decide +kernel)
    exact (congrArg Instant.asStored isCreated.symm).trans cutOff

end Schema

end Docket
