import Docket.Proofs.Record.Survival

/-!
# Values that come back

A value of a field comes back if it is what is read of it after the record that holds it
was written (`Field.Returns`). Either the field is written, and the value is read from what
is written; or the field is left out, and the value stands for itself when it is missing. A
record whose values all come back is read as it was (`Row.read_of_returns`).

Record types differ in what their fields hold when nothing is known of them, and in which
fields may be missing. A codec resembles another one if this is all in which they differ
(`Codec.Resembles`), and a type may have null added or not (`Nullable`). So whatever is shown
here of fields that resemble a timestamp holds of the timestamps of any record type.

When a record is stored, a timestamp in a year of four digits is cut off to milliseconds,
and any other timestamp stays as it is (`Instant.asStored`).
-/

set_option autoImplicit false

namespace Docket

/-! ## Fields -/

/-- **A value of a field comes back** when a record with it is written and read. -/
inductive Field.Returns (field : Field) (value : field.Value) : Prop
  /-- It is written, and read from what is written. -/
  | written (json : Json) (kept : field.codec.leftOut value = false)
      (encodes : field.codec.encode value = .ok json)
      (decodes : field.codec.decode json = .ok value)
  /-- It is left out, and stands for itself when it is missing. -/
  | leftOut (leftOut : field.codec.leftOut value = true) (absent : field.codec.absent = some value)

namespace Row

universe u

variable {ι : Type u} {field : ι → Field} {value : (index : ι) → (field index).Value}
  {indices : List ι} {members : Document}

/-- A row whose values come back is written. -/
theorem exists_encode_of_returns
    (returns : ∀ index ∈ indices, (field index).Returns (value index)) :
    ∃ members, encode (indices.map field) (ofValues field value indices) = .ok members := by
  refine exists_encode_of_kept fun index isIndex kept => ?_
  cases returns index isIndex with
  | written json _ encodes _ => exact ⟨json, encodes⟩
  | leftOut leftOut _ =>
      rw [leftOut] at kept
      cases kept

/-- **A value that comes back is read** from what its row was written as. -/
theorem read_of_returns (distinct : (indices.map fun index => (field index).name).Nodup)
    (encoded : encode (indices.map field) (ofValues field value indices) = .ok members)
    {index : ι} (isIndex : index ∈ indices) (returns : (field index).Returns (value index)) :
    (field index).read members = .ok (value index) := by
  cases returns with
  | written json kept encodes decodes =>
      obtain ⟨other, encodesOther, found⟩ := get?_of_encode distinct encoded isIndex kept
      obtain rfl := Except.ok.inj (encodesOther.symm.trans encodes)
      rw [Field.read_of_get? found, decodes]
  | leftOut leftOut absent =>
      have missing := get?_of_encode_of_leftOut distinct encoded isIndex leftOut
      rw [Field.read, missing, absent]

end Row

/-! ## Codecs -/

namespace Codec

variable {α : Type}

/-- **A codec resembles another one**: it writes and reads alike, and leaves out null at most.
The value of a blank record and the value that stands for a missing one are its own. -/
structure Resembles (codec reference : Codec α) : Prop where
  kind : codec.kind = reference.kind
  nullable : codec.nullable = reference.nullable
  encode : codec.encode = reference.encode
  decode : codec.decode = reference.decode
  kept : ∀ value json, reference.encode value = .ok json → json ≠ .null →
    codec.leftOut value = false
  absent : ∀ value, codec.leftOut value = true → codec.absent = some value

/-- A codec that leaves nothing out resembles itself. -/
theorem Resembles.refl {codec : Codec α} (always : ∀ value, codec.leftOut value = false) :
    codec.Resembles codec where
  kind := rfl
  nullable := rfl
  encode := rfl
  decode := rfl
  kept value _ _ _ := always value
  absent value leftOut := by
    rw [always value] at leftOut
    cases leftOut

/-- What is not written as null is written. -/
theorem Resembles.kept_of_encode {codec reference : Codec α}
    (resembles : codec.Resembles reference)
    {value : α} {json : Json} (encodes : codec.encode value = .ok json)
    (notNull : json ≠ .null) :
    codec.leftOut value = false := by
  refine resembles.kept value json ?_ notNull
  rw [← resembles.encode]
  exact encodes

end Codec

/-- A type, with null added to it if it is nullable. -/
def Nullable (nullable : Bool) (α : Type) : Type :=
  match nullable with
  | false => α
  | true => Option α

namespace Nullable

variable {α β : Type}

/-- The value that is held, if it is not null. -/
def held? : {nullable : Bool} → Nullable nullable α → Option α
  | false, value => some value
  | true, value => value

/-- A value, as one that could be null. -/
def holding : (nullable : Bool) → α → Nullable nullable α
  | false, value => value
  | true, value => some value

/-- Changes the value that is held. -/
def map (change : α → β) : {nullable : Bool} → Nullable nullable α → Nullable nullable β
  | false, value => change value
  | true, value => Option.map change value

theorem held?_holding (nullable : Bool) (value : α) :
    (holding nullable value).held? = some value := by
  cases nullable <;> rfl

theorem eq_holding {nullable : Bool} {value : Nullable nullable α} {inside : α}
    (holds : value.held? = some inside) : value = holding nullable inside := by
  cases nullable with
  | false => exact Option.some.inj holds
  | true => exact holds

theorem map_holding (change : α → β) (nullable : Bool) (value : α) :
    (holding nullable value).map change = holding nullable (change value) := by
  cases nullable <;> rfl

theorem held?_map (change : α → β) {nullable : Bool} (value : Nullable nullable α) :
    (value.map change).held? = value.held?.map change := by
  cases nullable <;> rfl

end Nullable

namespace Codec

variable {α : Type}

/-- The codec of a type, with null added to it if it is nullable. -/
def optionalIf : (nullable : Bool) → Codec α → Codec (Nullable nullable α)
  | false, codec => codec
  | true, codec => codec.optional

section

variable (nullable : Bool) {codec : Codec α} {value : α} {json : Json}

theorem kind_optionalIf : (codec.optionalIf nullable).kind = codec.kind := by
  cases nullable <;> rfl

theorem encode_optionalIf_holding :
    (codec.optionalIf nullable).encode (.holding nullable value) = codec.encode value := by
  cases nullable <;> rfl

/-- If a type writes all of its values, so does the type with null added. -/
theorem exists_encode_optionalIf (always : ∀ value, ∃ json, codec.encode value = .ok json)
    (value : Nullable nullable α) :
    ∃ json, (codec.optionalIf nullable).encode value = .ok json := by
  cases nullable with
  | false => exact always value
  | true =>
      cases value with
      | none => exact ⟨.null, rfl⟩
      | some inside => exact always inside

theorem decode_optionalIf (notNull : json ≠ .null) (decodes : codec.decode json = .ok value) :
    (codec.optionalIf nullable).decode json = .ok (.holding nullable value) := by
  cases nullable with
  | false => exact decodes
  | true =>
      have some : (codec.optional).decode json = (codec.decode json).map .some := by
        cases json with
        | null => exact absurd rfl notNull
        | _ => rfl
      show (codec.optional).decode json = _
      rw [some, decodes]
      rfl

end

end Codec

/-! ## Types of which nothing is lost -/

namespace Codec

/-- What is written one by one is read one by one. -/
theorem exists_mapM {α β ε ε' : Type} {write : α → Except ε β}
    {read : β → Except ε' α}
    (returns : ∀ value, ∃ written, write value = .ok written ∧ read written = .ok value)
    (values : List α) :
    ∃ written, values.mapM write = .ok written ∧ written.mapM read = .ok values := by
  induction values with
  | nil => exact ⟨[], rfl, rfl⟩
  | cons value rest ih =>
      obtain ⟨first, writes, reads⟩ := returns value
      obtain ⟨others, writesRest, readsRest⟩ := ih
      refine ⟨first :: others, ?_, ?_⟩
      · rw [List.mapM_cons, writes, writesRest]
        rfl
      · rw [List.mapM_cons, reads, readsRest]
        rfl

variable {α : Type}

/-- **A type loses nothing**: each of its values is read from what it is written as, or is left
out and stands for itself when it is missing. -/
structure Lossless (codec : Codec α) : Prop where
  returns : ∀ value, ∃ json, codec.encode value = .ok json ∧ codec.decode json = .ok value
  absent : ∀ value, codec.leftOut value = true → codec.absent = some value

namespace Lossless

theorem plain {kind : FieldKind} {blank : α} {encode : α → Json}
    {decode : Json → Except DecodeError α}
    (reads : ∀ value, decode (encode value) = .ok value) :
    (Codec.plain kind blank encode decode).Lossless :=
  ⟨fun value => ⟨encode value, rfl, reads value⟩, nofun⟩

theorem recordId : Codec.recordId.Lossless :=
  ⟨fun id => ⟨id.toJson, rfl, decode_recordId id⟩, nofun⟩

theorem text : Codec.text.Lossless :=
  plain fun _ => rfl

theorem character : Codec.character.Lossless := by
  refine plain fun value => ?_
  dsimp only
  rw [String.toList_singleton]

theorem timestamp : Codec.timestamp.Lossless :=
  ⟨fun instant => ⟨.string instant.text, rfl, decode_timestamp_text instant⟩,
    fun _ leftOut => absurd leftOut Bool.false_ne_true⟩

theorem boolean : Codec.boolean.Lossless :=
  plain fun _ => rfl

theorem json : Codec.json.Lossless :=
  plain fun _ => rfl

theorem document : Codec.document.Lossless :=
  plain fun _ => rfl

/-- Integers lose nothing, as long as a number of JSON can be each of them. -/
theorem ranged (kind : FieldKind) {least greatest : Int} (blank : Ranged least greatest)
    (fits : -0x8000000000000000 ≤ least ∧ greatest < 0x10000000000000000) :
    (Codec.ranged kind blank).Lossless := by
  refine plain fun value => ?_
  have fitsHere : FitsInteger value.val :=
    ⟨fits.1.trans value.property.1, value.property.2.trans_lt fits.2⟩
  rw [Json.ofInt, Number.ofInt, dif_pos fitsHere]
  exact dif_pos value.property

/-- Lists lose nothing if their items do not. -/
theorem list {item : Codec α} (lossless : item.Lossless) : item.list.Lossless := by
  refine ⟨fun values => ?_, nofun⟩
  obtain ⟨jsons, writes, reads⟩ := exists_mapM lossless.returns values
  exact ⟨.array jsons, congrArg (Except.map Json.array) writes, reads⟩

/-- Objects lose nothing if the type of their members does not. -/
theorem table {member : Codec α} (lossless : member.Lossless) : member.table.Lossless := by
  refine ⟨fun entries => ?_, nofun⟩
  have returns : ∀ entry : String × α, ∃ written,
      (member.encode entry.2).map (entry.1, ·) = .ok written ∧
        (member.decode written.2).map (written.1, ·) = .ok entry := by
    rintro ⟨name, value⟩
    obtain ⟨json, writes, reads⟩ := lossless.returns value
    exact ⟨(name, json), congrArg (Except.map _) writes, congrArg (Except.map _) reads⟩
  obtain ⟨members, writes, reads⟩ := exists_mapM returns entries
  exact ⟨.object members, congrArg (Except.map Json.object) writes, reads⟩

/-- A type loses nothing with null added to it, unless it writes null itself. -/
theorem optional {held : Codec α} (lossless : held.Lossless)
    (notNull : ∀ value, held.encode value ≠ .ok .null) : held.optional.Lossless := by
  refine ⟨fun value => ?_, nofun⟩
  cases value with
  | none => exact ⟨.null, rfl, rfl⟩
  | some inside =>
      obtain ⟨json, writes, reads⟩ := lossless.returns inside
      refine ⟨json, writes, decode_optionalIf true ?_ reads⟩
      rintro rfl
      exact notNull inside writes

/-- A type loses nothing if only the value that a missing field has is left out. -/
theorem omitted {codec : Codec α} (lossless : codec.Lossless) {leftOut : α → Bool} {absent : α}
    (isAbsent : ∀ value, leftOut value = true → value = absent) :
    (codec.omitted leftOut absent).Lossless :=
  ⟨lossless.returns, fun value isLeftOut => congrArg some (isAbsent value isLeftOut).symm⟩

end Lossless

end Codec

/-- **Each value of a field comes back** if its type loses nothing. -/
theorem Field.returns_of_lossless {field : Field} (lossless : field.codec.Lossless)
    (value : field.Value) : field.Returns value := by
  cases kept : field.codec.leftOut value with
  | true => exact .leftOut kept (lossless.absent value kept)
  | false =>
      obtain ⟨json, encodes, decodes⟩ := lossless.returns value
      exact .written json kept encodes decodes

/-! ## Stored times -/

namespace Instant

/-- What becomes of an instant when it is stored. -/
def asStored (instant : Instant) : Instant :=
  if instant.InFourDigitYear then instant.shown .millis else instant

/-- The text of an instant when it is stored. -/
def storedText (instant : Instant) : String :=
  if instant.InFourDigitYear then instant.stored else instant.text

variable (instant : Instant)

/-- **Whatever is lost of an instant when it is stored is finer than a millisecond.** -/
theorem millis_asStored : instant.asStored.millis = instant.millis := by
  unfold asStored
  split
  · exact millis_shown .millis instant
  · rfl

theorem storedTimestamp_eq :
    (Json.string instant.text).storedTimestamp = .string instant.storedText := by
  unfold storedText
  split
  · next inYears => exact storedTimestamp_text inYears
  · next outOfYears => exact storedTimestamp_text_of_outOfYears outOfYears

/-- A stored instant is read as what became of it. -/
theorem decode_storedText :
    Codec.timestamp.decode (.string instant.storedText) = .ok instant.asStored := by
  unfold storedText asStored
  split
  · exact Codec.decode_timestamp_stored instant
  · exact Codec.decode_timestamp_text instant

/-- What is cut off to milliseconds is written with them as before. -/
theorem stored_shown : (instant.shown .millis).stored = instant.stored := by
  have leap : (instant.nano / 1000000 * 1000000 < 1000000000) = (instant.nano < 1000000000) :=
    propext (by omega)
  have fraction : instant.nano / 1000000 * 1000000 % 1000000000 / 1000000 =
      instant.nano % 1000000000 / 1000000 := by omega
  unfold stored Rfc3339.render Rfc3339.characters
  rw [date_shown]
  simp only [secondOfDay, shown, Rfc3339.Fraction.kept, Rfc3339.fractionText, leap, fraction]

/-- What became of an instant when it was stored does not change when it is stored again. -/
theorem storedText_asStored : instant.asStored.storedText = instant.storedText := by
  by_cases inYears : instant.InFourDigitYear
  · rw [asStored, if_pos inYears, storedText, if_pos (inYears.shown .millis), stored_shown,
      storedText, if_pos inYears]
  · rw [asStored, if_neg inYears]

end Instant

/-- A time that may be null keeps its milliseconds when it is stored. -/
theorem Nullable.millis_asStored {nullable : Bool} (time : Nullable nullable Instant) :
    (time.map Instant.asStored).held?.map Instant.millis = time.held?.map Instant.millis := by
  rw [held?_map, Option.map_map]
  exact congrArg (fun millis => Option.map millis _) (funext Instant.millis_asStored)

/-- The stored form of a timestamp in any year. -/
theorem Field.storedForm_timestamp {field : Field} (isTimestamp : field.codec.kind = .timestamp)
    (instant : Instant) :
    field.storedForm (.string instant.text) = .string instant.storedText := by
  rw [storedForm, if_pos isTimestamp, instant.storedTimestamp_eq]

end Docket
