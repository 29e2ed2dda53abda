import Docket.Conversion.Registry
import Docket.Proofs.Json.Sameness
import Docket.Proofs.Record.Rows
import Docket.Proofs.RecordId
import Docket.Proofs.Time.Timestamps

/-!
# Values that survive

A value of a field survives being written if it is always written, and read back from
what is written (`Survives`). A value that is written as null must be nullable or the
blank value of its field besides, as nothing else that is null is ever copied.

A record is stored with its timestamps in the stored form. So a value stays when it is
stored (`Stays`) if it is read back from the stored form of what is written. For
timestamps this asks for a year of four digits and for nothing finer than milliseconds
(`lasts_timestamp`).

Two stored values that differ only in the sign of zeros are not told apart when a record
is written over. A value lasts (`Lasts`) if besides whatever is the same up to the sign
of zeros is read as a value that survives and is written the same.
-/

set_option autoImplicit false

namespace Docket

/-! ## Coercions of roles -/

/-- Text stands for an identifier: the empty one for the unassigned, any other for the
one that it writes. -/
def RecordId.IsMeantBy (text : String) (id : RecordId) : Prop :=
  text = "" ∧ id = .unassigned ∨ text = id.text

/-- Text is coerced to the identifier that it stands for. -/
theorem Coercion.textToId_of_isMeantBy {text : String} {id : RecordId}
    (isMeant : RecordId.IsMeantBy text id) :
    textToId (.string text) = .ok id.toJson := by
  rcases isMeant with ⟨rfl, rfl⟩ | rfl
  · rfl
  · have notEmpty : ¬ id.text.isEmpty = true := fun empty =>
      id.text_ne_empty (String.isEmpty_iff.mp empty)
    rw [textToId, if_neg notEmpty, id.parse_text]

/-- An identifier is read from its string. -/
theorem Codec.decode_recordId (id : RecordId) : Codec.recordId.decode id.toJson = .ok id := by
  simp only [Codec.recordId, Codec.plain, RecordId.toJson, id.parse_text]
  rfl

/-- The milliseconds of an instant are an integer of 64 bits. -/
theorem Instant.millis_range (instant : Instant) :
    -0x8000000000000000 ≤ instant.millis ∧ instant.millis < 0x8000000000000000 := by
  have range := instant.inRange
  have nano_lt := instant.nano_lt
  unfold millis
  omega

theorem Number.toInt64?_ofInt {value : Int} (least : -0x8000000000000000 ≤ value)
    (greatest : value < 0x8000000000000000) : (Number.ofInt value).toInt64? = some value := by
  have fits : FitsInteger value := ⟨least, by omega⟩
  rw [ofInt, dif_pos fits, toInt64?, if_pos greatest]

/-- A time in milliseconds is read from their number. -/
theorem UnixTime.decode_ofInt (instant : Instant) :
    Codec.millis.decode (.ofInt instant.millis) = .ok (UnixTime.ofMillis instant.millis) := by
  obtain ⟨least, greatest⟩ := instant.millis_range
  have read : UnixTime.ofJson? (.ofInt instant.millis) =
      some (UnixTime.ofMillis instant.millis) := by
    rw [Json.ofInt, ofJson?, Number.toInt64?_ofInt least greatest, Option.map_some]
  simp only [Codec.millis, Codec.plain, read]

/-- A time that is finer than a millisecond is none of these. -/
def UnixTime.IsMillis (time : UnixTime) : Prop :=
  UnixTime.ofMillis time.millis = time

instance (time : UnixTime) : Decidable time.IsMillis :=
  inferInstanceAs (Decidable (_ = _))

/-- A time in milliseconds is coerced to the text of its instant; the start of 1970, which stands
for milliseconds without one, has one itself. -/
theorem Coercion.millisToTimestamp_ofInt {time : UnixTime} (isMillis : time.IsMillis) :
    millisToTimestamp (.ofInt time.millis) = .ok (.string time.instant.text) := by
  obtain ⟨least, greatest⟩ := time.instant.millis_range
  have exists_instant : Instant.ofMillis? time.millis = some time.instant := by
    have instant : (Instant.ofMillis? time.millis).getD .epoch = time.instant :=
      congrArg UnixTime.instant isMillis
    cases found : Instant.ofMillis? time.millis with
    | some other =>
        rw [found] at instant
        exact congrArg some instant
    | none =>
        rw [found] at instant
        have zero : time.millis = 0 := by
          rw [UnixTime.millis, ← instant]
          rfl
        rw [zero] at found
        cases found
  have number : (Json.ofInt time.millis).toInt64? = some time.millis :=
    Number.toInt64?_ofInt least greatest
  simp only [millisToTimestamp, number, exists_instant]

/-- The text of an instant is coerced to its milliseconds. -/
theorem Coercion.timestampToMillis_text {instant : Instant} (inYears : instant.InFourDigitYear) :
    timestampToMillis (.string instant.text) = .ok (.ofInt instant.millis) := by
  have read : Rfc3339.parse? instant.text = some instant :=
    Rfc3339.parse?_render .fewest inYears
  rw [timestampToMillis, read]

/-- The text of an instant in any other year is refused. -/
theorem Coercion.timestampToMillis_text_of_outOfYears {instant : Instant}
    (outOfYears : ¬ instant.InFourDigitYear) :
    timestampToMillis (.string instant.text) = .error "not a timestamp" := by
  have unread : Rfc3339.parse? instant.text = none :=
    Rfc3339.parse?_render_of_outOfYears .fewest outOfYears
  rw [timestampToMillis, unread]

/-- A timestamp is read from its text, in any year and any style. -/
theorem Codec.decode_timestamp (style : Rfc3339.Fraction) (instant : Instant) :
    Codec.timestamp.decode (.string (Rfc3339.render style instant)) =
      .ok (instant.shown style) := by
  have read := Rfc3339.parseRelaxed?_render style instant
  simp only [Codec.timestamp, Codec.plain, read]

theorem Codec.decode_timestamp_text (instant : Instant) :
    Codec.timestamp.decode (.string instant.text) = .ok instant := by
  rw [Instant.text, Codec.decode_timestamp .fewest, Instant.shown_fewest]

theorem Codec.decode_timestamp_stored (instant : Instant) :
    Codec.timestamp.decode (.string instant.stored) = .ok (instant.shown .millis) := by
  rw [Instant.stored, Codec.decode_timestamp .millis]

/-- The text of an instant is rewritten to its stored form. -/
theorem Instant.storedTimestamp_text {instant : Instant} (inYears : instant.InFourDigitYear) :
    (Json.string instant.text).storedTimestamp = .string instant.stored := by
  have read : Rfc3339.parse? instant.text = some instant :=
    Rfc3339.parse?_render .fewest inYears
  rw [Json.storedTimestamp, read]

/-- The text of an instant in any other year stays. -/
theorem Instant.storedTimestamp_text_of_outOfYears {instant : Instant}
    (outOfYears : ¬ instant.InFourDigitYear) :
    (Json.string instant.text).storedTimestamp = .string instant.text := by
  have unread : Rfc3339.parse? instant.text = none :=
    Rfc3339.parse?_render_of_outOfYears .fewest outOfYears
  rw [Json.storedTimestamp, unread]

/-! ## Values that last -/

namespace Field

/-- A value of a field is written as a JSON value and read back from it. -/
structure Survives (field : Field) (value : field.Value) (json : Json) : Prop where
  kept : field.codec.leftOut value = false
  encodes : field.codec.encode value = .ok json
  decodes : field.codec.decode json = .ok value
  null : json = .null → field.codec.nullable = true ∨ value = field.codec.blank

/-- How the value of a field is stored that is written as a JSON value. -/
def storedForm (field : Field) (json : Json) : Json :=
  if field.codec.kind = .timestamp then json.storedTimestamp else json

/-- The stored form of a time in a year of four digits. -/
theorem storedForm_text {field : Field} (isTimestamp : field.codec.kind = .timestamp)
    {instant : Instant} (inYears : instant.InFourDigitYear) :
    field.storedForm (.string instant.text) = .string instant.stored := by
  rw [storedForm, if_pos isTimestamp, Instant.storedTimestamp_text inYears]

theorem storedForm_null (field : Field) : field.storedForm .null = .null := by
  unfold storedForm
  split <;> rfl

/-- **A value of a field survives being stored.** -/
def Stays (field : Field) (value : field.Value) : Prop :=
  ∃ json, field.Survives value json ∧ field.codec.decode (field.storedForm json) = .ok value

/-- **A value of a field survives being stored**, and so does what is the same. -/
def Lasts (field : Field) (value : field.Value) : Prop :=
  ∃ json, field.Survives value json ∧
    field.codec.decode (field.storedForm json) = .ok value ∧
    ∀ other, Json.same other (field.storedForm json) = true →
      ∃ found foundJson, field.codec.decode other = .ok found ∧
        field.Survives found foundJson ∧ Json.same foundJson json = true

theorem Lasts.stays {field : Field} {value : field.Value} (lasts : field.Lasts value) :
    field.Stays value := by
  obtain ⟨json, survives, reads, _⟩ := lasts
  exact ⟨json, survives, reads⟩

/-- Values of a field are written the same, up to the sign of zeros. -/
def Alike (field : Field) (first second : field.Value) : Prop :=
  ∃ firstJson secondJson, field.codec.encode first = .ok firstJson ∧
    field.codec.encode second = .ok secondJson ∧ Json.same firstJson secondJson = true

/-- A value lasts whose stored form has no zero of which the sign could be lost. -/
theorem lasts_of_rigid {field : Field} {value : field.Value} (json : Json)
    (survives : field.Survives value json)
    (stored : field.codec.decode (field.storedForm json) = .ok value)
    (rigid : ∀ other, Json.same other (field.storedForm json) = true →
      other = field.storedForm json) : field.Lasts value := by
  refine ⟨json, survives, stored, fun other alike => ?_⟩
  rw [rigid other alike]
  exact ⟨value, json, stored, survives, Json.same_refl json⟩

theorem rigid_string (text : String) {other : Json}
    (alike : Json.same other (.string text) = true) : other = .string text := by
  rw [Json.same_iff] at alike
  cases other <;> simp_all [Json.unsignedZeros]

theorem lasts_text (name : String) (value : String) : Lasts ⟨name, String, .text⟩ value :=
  lasts_of_rigid (.string value) ⟨rfl, rfl, rfl, nofun⟩ rfl fun _ => rigid_string value

theorem lasts_boolean (name : String) (value : Bool) : Lasts ⟨name, Bool, .boolean⟩ value := by
  refine lasts_of_rigid (.boolean value) ⟨rfl, rfl, rfl, nofun⟩ rfl fun other alike => ?_
  rw [Json.same_iff] at alike
  cases other <;> simp_all [storedForm, Codec.boolean, Codec.plain, Json.unsignedZeros]

/-- Both zeros of a floating-point field are read, and written the same. -/
theorem lasts_measure (name : String) (value : Double) :
    Lasts ⟨name, Measure, .measure⟩ (.number value) := by
  refine ⟨.number (.float value), ⟨rfl, rfl, rfl, nofun⟩, rfl, fun other alike => ?_⟩
  have same : Json.same other (.number (.float value)) = true := alike
  rw [Json.same_iff] at same
  cases other with
  | number number =>
      cases number with
      | float found =>
          exact ⟨.number found, .number (.float found), rfl, ⟨rfl, rfl, rfl, nofun⟩, alike⟩
      | integer found fits => simp [Json.unsignedZeros, Number.unsignedZero] at same
  | _ => simp [Json.unsignedZeros] at same

/-- **A timestamp in a year of four digits lasts if it is not finer than milliseconds.** -/
theorem lasts_timestamp (name : String) {instant : Instant} (inYears : instant.InFourDigitYear)
    (precise : instant.shown .millis = instant) :
    Lasts ⟨name, Instant, .timestamp⟩ instant := by
  have stored : (⟨name, Instant, .timestamp⟩ : Field).storedForm (.string instant.text) =
      .string instant.stored := storedForm_text rfl inYears
  refine lasts_of_rigid (.string instant.text) ⟨rfl, rfl, ?_, nofun⟩ ?_
    fun other alike => ?_
  · dsimp only
    exact Codec.decode_timestamp_text instant
  · rw [stored]
    dsimp only
    rw [Codec.decode_timestamp_stored, precise]
  · rw [stored] at alike ⊢
    exact rigid_string instant.stored alike

section

variable {α : Type} (name : String) (codec : Codec α)

theorem lasts_optional_none : Lasts ⟨name, Option α, codec.optional⟩ none := by
  have stored := storedForm_null ⟨name, Option α, codec.optional⟩
  refine lasts_of_rigid .null ⟨rfl, rfl, rfl, fun _ => .inl rfl⟩ ?_ fun other alike => ?_
  · rw [stored]
    rfl
  · rw [stored] at alike ⊢
    rw [Json.same_iff] at alike
    cases other <;> simp_all [Json.unsignedZeros]

end

end Field

end Docket
