import Docket.Proofs.Conversion.Policies
import Docket.Proofs.Conversion.ThereAndBack

/-!
# Times in strict copies

There are three forms in which a field holds times: as a timestamp, as a time in milliseconds, or
as an integer that counts milliseconds. Between any two of them a strict copy that succeeds keeps
what a time denotes (`Copier.strict_copy_keeps_times`). What cannot be kept is refused on the way,
by one of two steps. The coercion refuses integers that are not of 64 bits or have no instant, and
timestamps that are not in a year of four digits. Reading refuses integers that are out of the
range of their type.

There is one exception. Times in milliseconds are read from any integer of 64 bits with a sign,
and a number that no instant has is read as the start of 1970. Nothing refuses such a number, and
the copy succeeds with another time (`Copier.hitsCopied_distantHits`).

For one pair of forms it is settled by cases what a time converts to (`TimeForm.Conversion`), and
then what is read of that denotes (`TimeForm.Conversion.millis`). That a copy gives each field
what its own value converts to holds of strict copies into any record
(`Copier.decode_of_copies`), as they make all changes or none.
-/

set_option autoImplicit false

namespace Docket

universe u v

/-! ## Fields that hold times -/

/-- A form in which a field holds times: as timestamps, or as numbers of milliseconds. -/
inductive TimeForm where
  | timestamp
  | counted (type : TimeType)

namespace TimeForm

/-- The values of a form. -/
def Value : TimeForm → Type
  | .timestamp => Instant
  | .counted type => type.Value

/-- The codec of a form. -/
def codec : (form : TimeForm) → Codec form.Value
  | .timestamp => .timestamp
  | .counted type => type.codec

/-- The epoch milliseconds that a value denotes. -/
def millis : (form : TimeForm) → form.Value → Int
  | .timestamp, (instant : Instant) => instant.millis
  | .counted type, value => type.millis value

/-- The milliseconds that a field of a form takes a number of milliseconds for. Times in
milliseconds take a number that no instant has for the start of 1970. -/
def taken : TimeForm → Int → Int
  | .counted .unix, millis => if (Instant.ofMillis? millis).isSome then millis else 0
  | _, millis => millis

end TimeForm

/-- **A field holds times** in a form, or null. It writes and reads the times as the form does,
and has the kind of the form. -/
structure Field.Times (field : Field) where
  form : TimeForm
  held? : field.Value → Option form.Value
  kind : field.codec.kind = form.codec.kind
  written : ∀ {value json}, field.codec.encode value = .ok json →
    (held? value = none ∧ json = .null) ∨
      ∃ time, held? value = some time ∧ form.codec.encode time = .ok json
  read : ∀ {json value}, field.codec.decode json = .ok value →
    (json = .null ∧ held? value = none) ∨
      ∃ time, held? value = some time ∧ form.codec.decode json = .ok time

namespace Field.Times

/-- The epoch milliseconds that a value of a field denotes, if it is not null. -/
def millis? {field : Field} (times : field.Times) (value : field.Value) : Option Int :=
  (times.held? value).map times.form.millis

/-- A field of a form holds times in it. -/
def plain (name : String) (form : TimeForm) : (Field.mk name form.Value form.codec).Times where
  form := form
  held? := some
  kind := rfl
  written encodes := .inr ⟨_, rfl, encodes⟩
  read decodes := .inr ⟨_, rfl, decodes⟩

/-- So does the field with null added to its type. -/
def optional {name : String} {α : Type} {codec : Codec α}
    (times : (Field.mk name α codec).Times) :
    (Field.mk name (Option α) codec.optional).Times where
  form := times.form
  held? value := value.bind times.held?
  kind := times.kind
  written {value json} encodes := by
    cases value with
    | none => exact .inl ⟨rfl, (Except.ok.inj encodes).symm⟩
    | some inside => exact times.written encodes
  read {json value} decodes := by
    by_cases isNull : json = .null
    · subst isNull
      obtain rfl := Except.ok.inj decodes
      exact .inl ⟨rfl, rfl⟩
    · have some : codec.optional.decode json = (codec.decode json).map .some := by
        cases json with
        | null => exact absurd rfl isNull
        | _ => rfl
      change codec.optional.decode json = _ at decodes
      rw [some] at decodes
      cases inside : codec.decode json with
      | error error =>
          rw [inside] at decodes
          cases decodes
      | ok held =>
          rw [inside] at decodes
          obtain rfl := Except.ok.inj decodes
          exact times.read inside

end Field.Times

/-! ## What is read of a written time -/

/-- An integer of 64 bits is read from no other number than its own. -/
theorem Number.eq_of_toInt64?_ofInt {millis read : Int}
    (isInteger : (Number.ofInt millis).toInt64? = some read) : read = millis := by
  by_cases fits : FitsInteger millis
  · rw [ofInt, dif_pos fits, toInt64?] at isInteger
    split at isInteger
    · exact (Option.some.inj isInteger).symm
    · cases isInteger
  · rw [ofInt, dif_neg fits] at isInteger
    cases isInteger

theorem Coercion.eq_of_sameInteger {json converted : Json}
    (coerces : sameInteger json = .ok converted) : converted = json := by
  unfold sameInteger at coerces
  split at coerces
  · exact (Except.ok.inj coerces).symm
  · cases coerces

/-- Milliseconds that are coerced to a timestamp have an instant. -/
theorem Coercion.instant_of_millisToTimestamp {millis : Int} {converted : Json}
    (coerces : millisToTimestamp (.ofInt millis) = .ok converted) :
    ∃ instant, Instant.ofMillis? millis = some instant ∧ converted = .string instant.text := by
  have number : (Json.ofInt millis).toInt64? = (Number.ofInt millis).toInt64? := rfl
  unfold millisToTimestamp at coerces
  rw [number] at coerces
  split at coerces
  · cases coerces
  · next read isInteger =>
      obtain rfl := Number.eq_of_toInt64?_ofInt isInteger
      split at coerces
      · next instant found => exact ⟨instant, found, (Except.ok.inj coerces).symm⟩
      · cases coerces

/-- A timestamp that is coerced to milliseconds is in a year of four digits. -/
theorem Coercion.inYears_of_timestampToMillis {instant : Instant} {converted : Json}
    (coerces : timestampToMillis (.string instant.text) = .ok converted) :
    instant.InFourDigitYear ∧ converted = .ofInt instant.millis := by
  by_cases inYears : instant.InFourDigitYear
  · rw [timestampToMillis_text inYears] at coerces
    exact ⟨inYears, (Except.ok.inj coerces).symm⟩
  · rw [timestampToMillis_text_of_outOfYears inYears] at coerces
    cases coerces

theorem Coercion.ne_null_of_timestampToMillis {json converted : Json}
    (coerces : timestampToMillis json = .ok converted) : converted ≠ .null := by
  rintro rfl
  unfold timestampToMillis at coerces
  split at coerces
  · split at coerces <;> cases coerces
  · cases coerces

theorem Coercion.ne_null_of_millisToTimestamp {json converted : Json}
    (coerces : millisToTimestamp json = .ok converted) : converted ≠ .null := by
  rintro rfl
  unfold millisToTimestamp at coerces
  split at coerces
  · cases coerces
  · split at coerces <;> cases coerces

/-- The milliseconds of an instant in a year of four digits have an instant, also those of a leap
second, which count into the next one. -/
theorem Instant.exists_ofMillis?_millis {instant : Instant} (inYears : instant.InFourDigitYear) :
    ∃ again, ofMillis? instant.millis = some again := by
  have range := instant.inFourDigitYear_iff.mp inYears
  have nano_lt := instant.nano_lt
  refine ⟨_, dif_pos ⟨⟨?_, ?_⟩, ?_, .inl ?_⟩⟩ <;> unfold millis <;> omega

/-- A number of milliseconds is held as it is if an instant has it, and as 0 if not. -/
theorem UnixTime.millis_ofMillis (millis : Int) :
    (ofMillis millis).millis = if (Instant.ofMillis? millis).isSome then millis else 0 := by
  unfold ofMillis UnixTime.millis
  cases found : Instant.ofMillis? millis with
  | none => rfl
  | some instant => exact Instant.millis_of_ofMillis? found

namespace TimeForm

/-- Milliseconds that have an instant are taken for themselves in every form. -/
theorem taken_of_instant (form : TimeForm) {millis : Int} {instant : Instant}
    (found : Instant.ofMillis? millis = some instant) : form.taken millis = millis := by
  cases form with
  | timestamp => rfl
  | counted type =>
      cases type with
      | unix => rw [taken, found, Option.isSome_some, if_pos rfl]
      | integer least greatest blank => rfl

/-- **A number of milliseconds is read for what it is taken for.** -/
theorem millis_of_decode_ofInt {type : TimeType} {millis : Int} {held : type.Value}
    (decodes : type.codec.decode (.ofInt millis) = .ok held) :
    type.millis held = taken (.counted type) millis := by
  cases type with
  | unix =>
      have read : UnixTime.ofJson? (.ofInt millis) =
          (Number.ofInt millis).toInt64?.map UnixTime.ofMillis := rfl
      change Codec.millis.decode (.ofInt millis) = .ok held at decodes
      simp only [Codec.millis, Codec.plain, read] at decodes
      cases isInteger : (Number.ofInt millis).toInt64? with
      | none =>
          rw [isInteger] at decodes
          cases decodes
      | some number =>
          obtain rfl := Number.eq_of_toInt64?_ofInt isInteger
          rw [isInteger] at decodes
          obtain rfl := Except.ok.inj decodes
          exact UnixTime.millis_ofMillis number
  | integer least greatest blank =>
      change (Codec.ranged .integer blank).decode (.number (.ofInt millis)) = .ok held at decodes
      by_cases fits : FitsInteger millis
      · rw [Number.ofInt, dif_pos fits] at decodes
        simp only [Codec.ranged, Codec.plain] at decodes
        split at decodes
        · obtain rfl := Except.ok.inj decodes
          rfl
        · cases decodes
      · rw [Number.ofInt, dif_neg fits] at decodes
        cases decodes

end TimeForm

/-! ## The pairs of forms -/

namespace TimeForm

theorem eq_of_decode_text {instant held : Instant}
    (decodes : Codec.timestamp.decode (.string instant.text) = .ok held) : held = instant := by
  rw [Codec.decode_timestamp_text] at decodes
  exact (Except.ok.inj decodes).symm

/-- A timestamp is read back from what it is written as. -/
theorem eq_of_encode_of_decode {time held : Instant} {json : Json}
    (encodes : Codec.timestamp.encode time = .ok json)
    (decodes : Codec.timestamp.decode json = .ok held) : held = time := by
  obtain rfl : Json.string time.text = json := Except.ok.inj encodes
  exact eq_of_decode_text decodes

/-- Milliseconds that are coerced to a timestamp are those of the instant that is read. -/
theorem millis_of_millisToTimestamp {millis : Int} {converted : Json} {held : Instant}
    (coerces : Coercion.millisToTimestamp (.ofInt millis) = .ok converted)
    (decodes : Codec.timestamp.decode converted = .ok held) : held.millis = millis := by
  obtain ⟨instant, found, rfl⟩ := Coercion.instant_of_millisToTimestamp coerces
  obtain rfl := eq_of_decode_text decodes
  exact Instant.millis_of_ofMillis? found

/-- A timestamp that is coerced to milliseconds is read as these, in every type. -/
theorem millis_of_timestampToMillis {time : Instant} {json converted : Json}
    {type : TimeType} {held : type.Value} (encodes : Codec.timestamp.encode time = .ok json)
    (coerces : Coercion.timestampToMillis json = .ok converted)
    (decodes : type.codec.decode converted = .ok held) :
    type.millis held = time.millis ∧ taken (.counted type) time.millis = time.millis := by
  obtain rfl : Json.string time.text = json := Except.ok.inj encodes
  obtain ⟨inYears, rfl⟩ := Coercion.inYears_of_timestampToMillis coerces
  obtain ⟨instant, found⟩ := Instant.exists_ofMillis?_millis inYears
  have itself := taken_of_instant (.counted type) found
  exact ⟨(millis_of_decode_ofInt decodes).trans itself, itself⟩

theorem kind_timestamp : TimeForm.timestamp.codec.kind = .timestamp :=
  rfl

theorem kind_counted (type : TimeType) : (counted type).codec.kind = type.codec.kind :=
  rfl

/-- Between two types of numbers an integer is coerced to itself. -/
theorem sameInteger_of_get? {type other : TimeType}
    (differ : type.codec.kind ≠ other.codec.kind) :
    CoercionRegistry.default.get? type.codec.kind other.codec.kind =
      some Coercion.sameInteger := by
  have unix : TimeType.unix.codec.kind = .millis := rfl
  have integer : ∀ least greatest blank,
      (TimeType.integer least greatest blank).codec.kind = .integer := fun _ _ _ => rfl
  cases type <;> cases other
  all_goals simp only [unix, integer] at differ ⊢
  · exact absurd rfl differ
  · rfl
  · rfl
  · exact absurd rfl differ

/-- A time is not written as null. -/
theorem ne_null_of_encode {form : TimeForm} {time : form.Value} {json : Json}
    (encodes : form.codec.encode time = .ok json) : json ≠ .null := by
  rintro rfl
  cases form with
  | timestamp => cases encodes
  | counted type => exact nomatch (type.encode_codec time).symm.trans encodes

/-- Null is not read as a time. -/
theorem ne_null_of_decode {form : TimeForm} {json : Json} {time : form.Value}
    (decodes : form.codec.decode json = .ok time) : json ≠ .null := by
  rintro rfl
  cases form with
  | timestamp => cases decodes
  | counted type => cases type <;> cases decodes

/-- What the JSON of a time of one form converts to for another form. -/
def Conversion : TimeForm → TimeForm → Json → Json → Prop
  | .timestamp, .counted _, json, converted => Coercion.timestampToMillis json = .ok converted
  | .counted _, .timestamp, json, converted => Coercion.millisToTimestamp json = .ok converted
  | _, _, json, converted => converted = json

section

variable {source target : TimeForm} {json converted : Json}

theorem conversion_of_converts {sourceSpec targetSpec : FieldSpec}
    (sourceKind : sourceSpec.kind = source.codec.kind)
    (targetKind : targetSpec.kind = target.codec.kind) (notNull : json ≠ .null)
    (converts : Copier.Converts .default sourceSpec targetSpec json converted) :
    Conversion source target json converted := by
  cases converts with
  | null => exact absurd rfl notNull
  | sameKind _ same =>
      rw [sourceKind, targetKind] at same
      cases source with
      | timestamp =>
          cases target with
          | timestamp => rfl
          | counted type => exact absurd same.symm type.kind_codec.1
      | counted type =>
          cases target with
          | timestamp => exact absurd same type.kind_codec.1
          | counted other => rfl
  | coerced _ differ known coerces =>
      rw [sourceKind, targetKind] at differ known
      cases source with
      | timestamp =>
          cases target with
          | timestamp => exact absurd rfl differ
          | counted type =>
              rw [kind_timestamp, kind_counted, type.kind_codec.2.2] at known
              obtain rfl := Option.some.inj known
              exact coerces
      | counted type =>
          cases target with
          | timestamp =>
              rw [kind_timestamp, kind_counted, type.kind_codec.2.1] at known
              obtain rfl := Option.some.inj known
              exact coerces
          | counted other =>
              rw [kind_counted, kind_counted, sameInteger_of_get? differ] at known
              obtain rfl := Option.some.inj known
              exact Coercion.eq_of_sameInteger coerces

/-- A time does not convert to null. -/
theorem Conversion.ne_null (conversion : Conversion source target json converted)
    (notNull : json ≠ .null) : converted ≠ .null := by
  cases source with
  | timestamp =>
      cases target with
      | timestamp => exact fun isNull => notNull (conversion.symm.trans isNull)
      | counted type => exact Coercion.ne_null_of_timestampToMillis conversion
  | counted type =>
      cases target with
      | timestamp => exact Coercion.ne_null_of_millisToTimestamp conversion
      | counted other => exact fun isNull => notNull (conversion.symm.trans isNull)

/-- **A time that converts and is read denotes what it denoted**, or, if it was a number of
milliseconds, what the form that reads it takes that number for. -/
theorem Conversion.millis (conversion : Conversion source target json converted)
    {time : source.Value} (encodes : source.codec.encode time = .ok json) {held : target.Value}
    (decodes : target.codec.decode converted = .ok held) :
    target.millis held = target.taken (source.millis time) ∧
      (source = .timestamp → target.millis held = source.millis time) := by
  cases source with
  | timestamp =>
      cases target with
      | timestamp =>
          obtain rfl : converted = json := conversion
          obtain rfl := eq_of_encode_of_decode encodes decodes
          exact ⟨rfl, fun _ => rfl⟩
      | counted type =>
          obtain ⟨read, itself⟩ := millis_of_timestampToMillis encodes conversion decodes
          exact ⟨read.trans itself.symm, fun _ => read⟩
  | counted type =>
      obtain rfl := Except.ok.inj ((type.encode_codec time).symm.trans encodes)
      refine ⟨?_, nofun⟩
      cases target with
      | timestamp => exact millis_of_millisToTimestamp conversion decodes
      | counted other =>
          obtain rfl : converted = .ofInt (type.millis time) := conversion
          exact millis_of_decode_ofInt decodes

end

end TimeForm

/-- **A field that reads what another field's time converts to denotes what that did**, or, if it
was a number of milliseconds, what its own form takes that number for. Null stays null. -/
theorem Field.Times.millis?_of_converts {source target : Field} (sourceTimes : source.Times)
    (targetTimes : target.Times) {value : source.Value} {json converted : Json}
    {result : target.Value} (encodes : source.codec.encode value = .ok json)
    (converts : Copier.Converts .default source.spec target.spec json converted)
    (decodes : target.codec.decode converted = .ok result) :
    targetTimes.millis? result =
        (sourceTimes.millis? value).map targetTimes.form.taken ∧
      (sourceTimes.form = .timestamp →
        targetTimes.millis? result = sourceTimes.millis? value) := by
  unfold millis?
  rcases sourceTimes.written encodes with ⟨noTime, rfl⟩ | ⟨time, isTime, timeEncodes⟩
  · have isNull : converted = .null := by
      cases converts with
      | null => rfl
      | sameKind notNull => exact absurd rfl notNull
      | coerced notNull => exact absurd rfl notNull
    rcases targetTimes.read decodes with ⟨_, noneRead⟩ | ⟨read, _, readDecodes⟩
    · rw [noTime, noneRead]
      exact ⟨rfl, fun _ => rfl⟩
    · exact absurd isNull (TimeForm.ne_null_of_decode readDecodes)
  · have notNull := TimeForm.ne_null_of_encode timeEncodes
    have conversion := TimeForm.conversion_of_converts sourceTimes.kind targetTimes.kind notNull
      converts
    rcases targetTimes.read decodes with ⟨isNull, _⟩ | ⟨read, isRead, readDecodes⟩
    · exact absurd isNull (conversion.ne_null notNull)
    · obtain ⟨taken, same⟩ := conversion.millis timeEncodes readDecodes
      rw [isTime, isRead]
      exact ⟨congrArg some taken, fun isTimestamp => congrArg some (same isTimestamp)⟩

/-! ## Strict copies -/

namespace Copier

variable {copier : Copier} {source : RecordType} {given : Document}

/-- By the strict policy changes are accepted all or not at all. -/
theorem eq_changed_of_accept {target : RecordType} (changes : List Change)
    {accepted document : Document}
    (accepts : ((copier.under .strict).accept target changes accepted).value = .ok document) :
    document = changed accepted changes := by
  induction changes generalizing accepted with
  | nil => exact (Except.ok.inj accepts).symm
  | cons change rest ih =>
      rw [accept] at accepts
      cases decoded : target.decode
          (.object (Document.insert accepted change.target.name change.value)) with
      | ok value =>
          rw [decoded] at accepts
          exact ih accepts
      | error reason =>
          rw [decoded] at accepts
          cases accepts

/-- **What a strict copy gives is read with all changes**, as changes made one after another come
to the same members. -/
theorem exists_changes_of_strict {target : RecordType} {value : source.Value}
    (isGiven : written source value = .ok given) {destination result : target.Value}
    (copied : ((copier.under .strict).copyInto source target value destination).value =
      .ok result) :
    ∃ base changes,
      ((copier.under .strict).changes source.fields given target.fields).value = .ok changes ∧
        target.decode (.object (changed base changes)) = .ok result := by
  obtain ⟨base, changes, _, made, ends⟩ := exists_changes_of_copyInto isGiven copied
  refine ⟨base, changes, made, ?_⟩
  rcases ends with decoded | ⟨⟨reason, unread⟩, document, accepts, decoded⟩
  · exact decoded
  · rw [eq_changed_of_accept changes accepts, unread] at decoded
    cases decoded

section

variable {ι : Type u} {field : ι → Field} {indices : List ι}

/-- If a strict copy makes changes, no coercion fails. -/
theorem sound_of_changes {changes : List Change}
    (made : ((copier.under .strict).changes source.fields given
      ((indices.map field).map Field.spec)).value = .ok changes) :
    ∀ index ∈ indices, ∀ spec reason,
      ¬ copier.CoercionFails source given (field index) spec reason := by
  intro index isIndex spec reason fails
  have some : ∃ index ∈ indices, ∃ spec reason,
      copier.CoercionFails source given (field index) spec reason :=
    ⟨index, isIndex, spec, reason, fails⟩
  obtain ⟨first, before, behind, rfl, ⟨_, _, failsFirst⟩, sound⟩ := exists_firstWith some
  cases made.symm.trans (value_changes_of_fails behind sound failsFirst)

/-- A field is copied: it is offered a value, and the value converts. -/
def Copies (copier : Copier) (source : RecordType) (given : Document) (target : Field)
    (spec : FieldSpec) (value converted : Json) : Prop :=
  copier.Offers source given target spec value ∧
    Converts copier.registry spec target.spec value converted

variable (copier) in
/-- **After a strict copy a field that was copied has what its value converts to.** -/
theorem decode_of_copies {name : String} {value : source.Value}
    (isGiven : written source value = .ok given)
    (distinct : (indices.map fun index => (field index).name).Nodup)
    {destination : Row (indices.map field)} {result : (index : ι) → (field index).Value}
    (copied : ((copier.under .strict).copyInto source (.ofFields name (indices.map field)) value
      destination).value = .ok (Row.ofValues field result indices))
    {index : ι} (isIndex : index ∈ indices) {spec : FieldSpec} {json converted : Json}
    (copies : copier.Copies source given (field index) spec json converted) :
    (field index).codec.decode converted = .ok (result index) := by
  obtain ⟨base, changes, made, decoded⟩ := exists_changes_of_strict isGiven copied
  have sound : ∀ index ∈ indices, ∀ spec reason,
      ¬ copier.CoercionFails source given (field index) spec reason := sound_of_changes made
  obtain rfl := Except.ok.inj (made.symm.trans (changes_of_sound .strict sound).1)
  obtain ⟨offers, converts⟩ := copies
  have isChange : (copier.under .bestEffort).change? source.fields given (field index).spec =
      some ⟨spec, (field index).spec, converted⟩ :=
    (change?_eq_some_iff rfl).mpr
      ⟨rfl, json, (offered?_under_iff .bestEffort).mpr offers, converts⟩
  have reads := Row.reads_of_decode decoded index isIndex
  have found : Document.get? (changed base ((copier.under .bestEffort).fieldChanges source.fields
      given field indices)) (field index).name = _ := get?_changed distinct isIndex
  rw [isChange] at found
  rwa [Field.read_of_get? found] at reads

/-- A field is offered what the source's field of its name was written as. -/
theorem offered_of_encode {name : String} {value : (index : ι) → (field index).Value}
    (distinct : (indices.map fun index => (field index).name).Nodup)
    (encoded : Row.encode (indices.map field) (Row.ofValues field value indices) = .ok given)
    {index : ι} (isIndex : index ∈ indices) {target : Field}
    (sameName : (field index).name = target.name) {spec : FieldSpec} {json : Json}
    (offers : copier.Offers (.ofFields name (indices.map field)) given target spec json) :
    spec = (field index).spec ∧ (field index).codec.encode (value index) = .ok json := by
  have isGiven := offers.isGiven
  rw [← sameName] at isGiven
  have kept : (field index).codec.leftOut (value index) = false := by
    cases leftOut : (field index).codec.leftOut (value index) with
    | false => rfl
    | true =>
        rw [Row.get?_of_encode_of_leftOut distinct encoded isIndex leftOut] at isGiven
        cases isGiven
  obtain ⟨other, encodes, found⟩ := Row.get?_of_encode distinct encoded isIndex kept
  obtain rfl := Option.some.inj (found.symm.trans isGiven)
  refine ⟨?_, encodes⟩
  obtain ⟨inside, isIn, rfl⟩ := List.mem_map.mp (List.mem_of_find?_eq_some offers.isField)
  obtain ⟨here, isHere, rfl⟩ := List.mem_map.mp isIn
  have hasName : (field here).spec.name = target.name := by
    simpa using List.find?_some offers.isField
  rw [List.inj_on_of_nodup_map distinct isHere isIndex (hasName.trans sameName.symm)]

end

/-- A copier by the default coercions and the strict policy. -/
def strictly (ignoreEmpty : Bool) (skip : List String) : Copier :=
  ⟨.default, .strict, ignoreEmpty, skip⟩

/-- **Strict copying keeps times**, but for numbers of milliseconds that no instant has. If a
record is copied by the default coercions and the strict policy, a field for times that was
copied from a field for times denotes the milliseconds that its form takes those of the source
for. Those of a timestamp are always the same. -/
theorem strict_copy_keeps_times {ι : Type u} {κ : Type v} {source : ι → Field}
    {target : κ → Field}
    {sources : List ι} {targets : List κ} (sourceName targetName : String)
    (sourcesDistinct : (sources.map fun index => (source index).name).Nodup)
    (targetsDistinct : (targets.map fun index => (target index).name).Nodup)
    {value : (index : ι) → (source index).Value} {given : Document}
    (isGiven : (RecordType.ofFields sourceName (sources.map source)).encode
      (Row.ofValues source value sources) = .ok (.object given))
    (ignoreEmpty : Bool) (skip : List String) {result : (index : κ) → (target index).Value}
    (copied : ((strictly ignoreEmpty skip).copy (.ofFields sourceName (sources.map source))
      (.ofFields targetName (targets.map target)) (Row.ofValues source value sources)).value =
        .ok (Row.ofValues target result targets))
    {here : ι} (isSource : here ∈ sources) {there : κ} (isTarget : there ∈ targets)
    (sameName : (source here).name = (target there).name)
    (sourceTimes : (source here).Times) (targetTimes : (target there).Times)
    (copies : ∃ spec json converted, (strictly ignoreEmpty skip).Copies
      (.ofFields sourceName (sources.map source)) given (target there) spec json converted) :
    targetTimes.millis? (result there) =
        (sourceTimes.millis? (value here)).map targetTimes.form.taken ∧
      (sourceTimes.form = .timestamp →
        targetTimes.millis? (result there) = sourceTimes.millis? (value here)) := by
  obtain ⟨spec, json, converted, copies⟩ := copies
  have encoded := (RecordType.encode_ofFields_iff sourceName).mp isGiven
  have decodes := decode_of_copies (strictly ignoreEmpty skip) (written_of_encode isGiven)
    targetsDistinct copied isTarget copies
  obtain ⟨offers, converts⟩ := copies
  obtain ⟨rfl, encodes⟩ := offered_of_encode sourcesDistinct encoded isSource sameName offers
  exact sourceTimes.millis?_of_converts targetTimes encodes converts decodes

/-! ## A number that is no time -/

/-- A time and a number of milliseconds that may be null. -/
def visitField : Fin 2 → Field
  | 0 => ⟨"opened", UnixTime, .millis⟩
  | 1 => ⟨"closed", Option Signed64, Codec.signed64.optional⟩

/-- The two fields with their types exchanged. -/
def loggedField : Fin 2 → Field
  | 0 => ⟨"opened", Signed64, .signed64⟩
  | 1 => ⟨"closed", Option UnixTime, Codec.millis.optional⟩

def visitTimes : (index : Fin 2) → (visitField index).Times
  | 0 => .plain "opened" (.counted .unix)
  | 1 => .optional (.plain "closed" (.counted (.integer _ _ Signed64.zero)))

def loggedTimes : (index : Fin 2) → (loggedField index).Times
  | 0 => .plain "opened" (.counted (.integer _ _ Signed64.zero))
  | 1 => .optional (.plain "closed" (.counted .unix))

/-- A visit that was opened on 1 May 2024, and closed at milliseconds that no instant has. -/
def visit : (index : Fin 2) → (visitField index).Value
  | 0 => UnixTime.ofMillis 1714521600000
  | 1 => (some ⟨9223372036854775807, by decide⟩ : Option Signed64)

def loggedVisit : (index : Fin 2) → (loggedField index).Value
  | 0 => (⟨1714521600000, by decide⟩ : Signed64)
  | 1 => (some ⟨.epoch⟩ : Option UnixTime)

/-- The time becomes an integer and stays what it is. The integer becomes a time, and as no
instant has that many milliseconds, it becomes the start of 1970. -/
theorem strict_copy_keeps_times_visit :
    ((strictly false []).copy (.ofFields "Visit" ([0, 1].map visitField))
        (.ofFields "Logged" ([0, 1].map loggedField))
        (Row.ofValues visitField visit [0, 1])).value =
          .ok (Row.ofValues loggedField loggedVisit [0, 1]) ∧
      (loggedTimes 0).millis? (loggedVisit 0) = some 1714521600000 ∧
      (loggedTimes 1).millis? (loggedVisit 1) = some 0 := by
  let opened : Json := .ofInt 1714521600000
  let closed : Json := .ofInt 9223372036854775807
  have isGiven : (RecordType.ofFields "Visit" ([0, 1].map visitField)).encode
      (Row.ofValues visitField visit [0, 1]) =
        .ok (.object [("closed", closed), ("opened", opened)]) := rfl
  have copied : ((strictly false []).copy (.ofFields "Visit" ([0, 1].map visitField))
      (.ofFields "Logged" ([0, 1].map loggedField))
      (Row.ofValues visitField visit [0, 1])).value =
        .ok (Row.ofValues loggedField loggedVisit [0, 1]) := rfl
  have openedKept := strict_copy_keeps_times "Visit" "Logged" (by decide) (by decide) isGiven
    false [] copied (by decide : (0 : Fin 2) ∈ [0, 1]) (by decide : (0 : Fin 2) ∈ [0, 1]) rfl
    (visitTimes 0) (loggedTimes 0) ⟨_, opened, opened, ⟨List.not_mem_nil, rfl, rfl, nofun⟩,
      .coerced Json.noConfusion (by decide) rfl rfl⟩
  have closedKept := strict_copy_keeps_times "Visit" "Logged" (by decide) (by decide) isGiven
    false [] copied (by decide : (1 : Fin 2) ∈ [0, 1]) (by decide : (1 : Fin 2) ∈ [0, 1]) rfl
    (visitTimes 1) (loggedTimes 1) ⟨_, closed, closed, ⟨List.not_mem_nil, rfl, rfl, nofun⟩,
      .coerced Json.noConfusion (by decide) rfl rfl⟩
  exact ⟨copied, openedKept.1.trans (by decide +kernel), closedKept.1.trans (by decide +kernel)⟩

/-- A record whose number of hits is no number of milliseconds of any instant. -/
def distantHits : Specimen.loose.Value :=
  ((none, none, none, none, some ⟨9223372036854775807, by decide⟩, none, none, none, ()) :
    Option String × Option Signed64 × Option UnixTime × Option Instant × Option Unsigned64 ×
      Option Measure × Option (List Bool) × Option (List (String × Signed64)) × Unit)

/-- The milliseconds that the hits of a record are copied to. -/
def hitsCopied? (record : Specimen.loose.Value) : Option Int := do
  let shape ← ((strictly false []).copy Specimen.loose Specimen.shape record).value.toOption
  return (shape.2.2.2.2.1 : UnixTime).millis

/-- **A strict copy succeeds, and a number becomes another one.** -/
theorem hitsCopied_distantHits :
    (distantHits.2.2.2.2.1 : Option Unsigned64).map Subtype.val = some 9223372036854775807 ∧
      hitsCopied? distantHits = some 0 := by
  decide +kernel

end Copier

end Docket
