import Docket.Proofs.Conversion.Fieldwise
import Docket.Proofs.Conversion.Unreached

/-!
# Fields that a copy leaves alone

What has become of a field that is not copied (`Uncopied`) is decided by the field itself, however
many others were copied, whichever policy there is, and whether the changes were read at once or
one after another. The destination is written and read as a whole, so the field has what is read
from what it was written as (`Field.Rereads`). It keeps its value if and only if that value comes
back when it is written and read (`uncopied_iff_returns`).

A field whose type loses nothing therefore keeps its value (`eq_of_uncopied`). But a `UnixTime`
comes back as the start of its millisecond (`Field.rereads_millis_iff`). A copy that changes only
the title of a task cuts off its time of creation, even if it is told to skip that
(`skipped_time_cut_off`).

All of this is said of any record type that has the field (`RecordType.HasField`), which a type of
rows does (`RecordType.hasField_ofFields`).
-/

set_option autoImplicit false

namespace Docket

universe u

/-! ## One field of a record type -/

/-- A field reads another value, or the same, from what a value was written as. -/
def Field.Rereads (field : Field) (value again : field.Value) : Prop :=
  ∃ members : Document, field.form value = .ok (Document.get? members field.name) ∧
    field.read members = .ok again

namespace Field

variable {field : Field} {value again : field.Value}

theorem Rereads.unique {other : field.Value} (rereads : field.Rereads value again)
    (rereadsOther : field.Rereads value other) : again = other := by
  obtain ⟨members, written, read⟩ := rereads
  obtain ⟨others, writtenOther, readOther⟩ := rereadsOther
  have same : Document.get? members field.name = Document.get? others field.name :=
    Except.ok.inj (written.symm.trans writtenOther)
  exact Except.ok.inj (read.symm.trans ((read_congr same).trans readOther))

/-- **A value comes back if it is reread as itself.** -/
theorem rereads_self_iff : field.Rereads value value ↔ field.Returns value := by
  constructor
  · rintro ⟨members, written, read⟩
    unfold form at written
    split at written
    · next leftOut =>
        have missing := (Except.ok.inj written).symm
        rw [Field.read, missing] at read
        cases absent : field.codec.absent with
        | none =>
            rw [absent] at read
            cases read
        | some other =>
            rw [absent] at read
            exact .leftOut leftOut (by rw [absent, Except.ok.inj read])
    · next kept =>
        cases encodes : field.codec.encode value with
        | error reason =>
            rw [encodes] at written
            cases written
        | ok json =>
            rw [encodes] at written
            rw [read_of_get? (Except.ok.inj written).symm] at read
            exact .written json (Bool.eq_false_iff.mpr kept) encodes read
  · rintro (⟨json, kept, encodes, decodes⟩ | ⟨leftOut, absent⟩)
    · have found := Document.get?_single_self field.name json
      refine ⟨Document.single field.name json, ?_, by rw [read_of_get? found, decodes]⟩
      rw [form, kept, encodes, found]
      rfl
    · refine ⟨[], if_pos leftOut, ?_⟩
      rw [Field.read, absent]
      rfl

/-- A value that is reread is kept if and only if it comes back. -/
theorem Rereads.eq_iff (rereads : field.Rereads value again) :
    again = value ↔ field.Returns value := by
  rw [← rereads_self_iff]
  constructor
  · rintro rfl
    exact rereads
  · exact rereads.unique

/-- **A time in milliseconds is reread as the start of its millisecond.** -/
theorem rereads_millis_iff (name : String) (time again : UnixTime) :
    (⟨name, UnixTime, .millis⟩ : Field).Rereads time again ↔
      again = UnixTime.ofMillis time.millis := by
  have rereads : (⟨name, UnixTime, .millis⟩ : Field).Rereads time (.ofMillis time.millis) := by
    have found := Document.get?_single_self name time.toJson
    refine ⟨Document.single name time.toJson, congrArg Except.ok found.symm, ?_⟩
    rw [read_of_get? found]
    exact UnixTime.decode_ofInt time.instant
  constructor
  · exact fun other => other.unique rereads
  · rintro rfl
    exact rereads

/-- **A time in milliseconds comes back if and only if it has whole milliseconds.** -/
theorem returns_millis_iff (name : String) (time : UnixTime) :
    (⟨name, UnixTime, .millis⟩ : Field).Returns time ↔ time.IsMillis := by
  rw [← rereads_self_iff, rereads_millis_iff, UnixTime.IsMillis, eq_comm]

end Field

/-- **A record type has a field**, whatever its other fields are and have to do with each other:
the field is written and read by itself, under its name. -/
structure RecordType.HasField (record : RecordType) (field : Field)
    (get : record.Value → field.Value) : Prop where
  isSpec : ∀ spec ∈ record.fields, spec.name = field.name → spec = field.spec
  writes : ∀ value members, record.encode value = .ok (.object members) →
    field.form (get value) = .ok (Document.get? members field.name)
  reads : ∀ members value, record.decode (.object members) = .ok value →
    field.read members = .ok (get value)

section

variable {ι : Type u} [DecidableEq ι] (field : ι → Field) (index : ι)

/-- The value of a field in a row. -/
def Row.valueAt : (indices : List ι) → Row (indices.map field) → (field index).Value
  | [], _ => (field index).codec.blank
  | first :: rest, (value, others) =>
      if same : first = index then same ▸ value else valueAt rest others

variable {field index}

theorem Row.valueAt_ofValues (value : (index : ι) → (field index).Value) {indices : List ι}
    (isIndex : index ∈ indices) :
    Row.valueAt field index indices (Row.ofValues field value indices) = value index := by
  induction indices with
  | nil => cases isIndex
  | cons first rest ih =>
      rw [Row.ofValues, Row.valueAt]
      split
      · next same =>
          subst same
          rfl
      · next differ => exact ih ((List.mem_cons.mp isIndex).resolve_left (Ne.symm differ))

/-- **A type of rows has each of its fields.** -/
theorem RecordType.hasField_ofFields (name : String) {indices : List ι}
    (distinct : (indices.map fun index => (field index).name).Nodup) (isIndex : index ∈ indices) :
    (RecordType.ofFields name (indices.map field)).HasField (field index)
      (Row.valueAt field index indices) where
  isSpec _ := RecordType.eq_spec_of_ofFields name distinct isIndex
  writes row members written := by
    obtain ⟨values, rfl⟩ := Row.exists_values field (distinct.of_map _) row
    rw [Row.valueAt_ofValues values isIndex]
    exact Row.form_of_encode distinct ((encode_ofFields_iff name).mp written) isIndex
  reads members row decoded := by
    obtain ⟨values, rfl⟩ := Row.exists_values field (distinct.of_map _) row
    rw [Row.valueAt_ofValues values isIndex]
    exact Row.reads_of_decode decoded index isIndex

end

namespace Copier

/-! ## Fields that are not copied -/

section

variable {copier : Copier} {source target : RecordType} {field : Field}
  {get : target.Value → field.Value} (hasField : target.HasField field get)
  {value : source.Value} {given : Document} (isGiven : source.encode value = .ok (.object given))
  (uncopied : copier.Uncopied source.fields given field.spec) {destination result : target.Value}
  (copied : (copier.copyInto source target value destination).value = .ok result)

include hasField isGiven uncopied copied

/-- A field that is not copied is read from what it was written as, whatever happens to the other
fields. -/
theorem rereads_of_uncopied : field.Rereads (get destination) (get result) := by
  have isWritten := written_of_encode isGiven
  obtain ⟨_, base, _, isBase⟩ := exists_written_of_copyInto copied
  obtain ⟨document, decoded, agrees⟩ := exists_decode_of_copyInto isWritten isBase copied
  have untouched : Document.get? document field.name = Document.get? base field.name := by
    refine agrees field.name fun spec isSpec sameName => ?_
    rw [hasField.isSpec spec isSpec sameName]
    exact uncopied.change?
  refine ⟨base, hasField.writes destination base (encode_of_written isBase), ?_⟩
  rw [← hasField.reads document result decoded]
  exact (Field.read_congr untouched).symm

/-- **A field that is not copied keeps its value** if its type loses nothing. -/
theorem eq_of_uncopied (lossless : field.codec.Lossless) : get result = get destination :=
  (rereads_of_uncopied hasField isGiven uncopied copied).eq_iff.mpr
    (Field.returns_of_lossless lossless _)

end

/-- **A field that is not copied has what is read from what it was written as**, after any copy
that succeeds. So it keeps its value if and only if that value comes back. -/
theorem uncopied_iff_returns (copier : Copier) {source target : RecordType} {field : Field}
    {get : target.Value → field.Value} (hasField : target.HasField field get)
    {value : source.Value} {given : Document} (isGiven : source.encode value = .ok (.object given))
    (uncopied : copier.Uncopied source.fields given field.spec)
    {destination result : target.Value}
    (copied : (copier.copyInto source target value destination).value = .ok result) :
    field.Rereads (get destination) (get result) ∧
      (get result = get destination ↔ field.Returns (get destination)) := by
  have rereads := rereads_of_uncopied hasField isGiven uncopied copied
  exact ⟨rereads, rereads.eq_iff⟩

/-! ## A time that was to be skipped -/

/-- The fields of a task. -/
def taskField : Fin 3 → Field
  | 0 => Specimen.field "id" .text
  | 1 => Specimen.field "title" .text
  | 2 => Specimen.field "created_at" .millis

/-- Copies everything but times of creation. -/
def skipping : Copier :=
  { default with skip := ["created_at"] }

/-- A note that was created at the start of 1970. -/
def titledNote : Specimen.note.Value :=
  (("7", "new", ⟨.epoch⟩, ⟨.epoch⟩, none, ()) :
    String × String × UnixTime × UnixTime × Option Signed64 × Unit)

/-- What the note is written as. -/
def titledMembers : Document :=
  [("created_at", .ofInt 0), ("deleted_at", .null), ("id", .string "7"),
    ("title", .string "new"), ("updated_at", .ofInt 0)]

/-- A task of a title that was created at a time. -/
def taskOf (title : String) (created : UnixTime) : Specimen.task.Value :=
  (("7", title, created, ()) : String × String × UnixTime × Unit)

/-- The start of 2024. -/
def newYear : UnixTime :=
  .ofMillis 1704067200000

/-- Half a millisecond later. -/
def afterNewYear : UnixTime :=
  ⟨⟨1704067200, 500000, by decide, by decide, by decide⟩⟩

/-- The time of creation of a task is skipped, and keeps its value as it has whole milliseconds. -/
theorem uncopied_iff_returns_task :
    (skipping.copyInto Specimen.note Specimen.task titledNote (taskOf "old" newYear)).value =
        .ok (taskOf "new" newYear) ∧
      (taskField 2).Returns newYear := by
  have copied : (skipping.copyInto Specimen.note Specimen.task titledNote
      (taskOf "old" newYear)).value = .ok (taskOf "new" newYear) := rfl
  have hasField : (RecordType.ofFields "Task" ([0, 1, 2].map taskField)).HasField (taskField 2)
      (Row.valueAt taskField 2 [0, 1, 2]) :=
    RecordType.hasField_ofFields "Task" (by decide) (by decide)
  have isGiven : Specimen.note.encode titledNote = .ok (.object titledMembers) := rfl
  have kept := uncopied_iff_returns skipping hasField isGiven
    (.skipped (List.mem_singleton_self _)) copied
  exact ⟨copied, kept.2.mp rfl⟩

/-- **A time that was to be skipped is cut off** to milliseconds, by a copy that changes the title
of a task. -/
theorem skipped_time_cut_off :
    Specimen.note.encode titledNote = .ok (.object titledMembers) ∧
      skipping.Uncopied Specimen.note.fields titledMembers (taskField 2).spec ∧
      (skipping.copyInto Specimen.note Specimen.task titledNote
        (taskOf "old" afterNewYear)).value = .ok (taskOf "new" newYear) ∧
      newYear ≠ afterNewYear :=
  ⟨rfl, .skipped (List.mem_singleton_self _), rfl, by decide⟩

end Copier

end Docket
