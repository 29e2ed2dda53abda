import Docket.Proofs.Conversion.BestEffort
import Docket.Specimen.Models

/-!
# There and back

A record of an application and the stored record are the same record in two shapes: the one
has text for the identifier and milliseconds for the times, the other has an identifier and
timestamps. The default copier turns either shape into the other one, and what matters is
what a record has left after both ways.

An identifier comes back whenever its text is one (`Coercion.id_there_and_back`). A time
comes back if it is in a year of four digits and is lost if it is in any other one
(`Coercion.millis_there_and_back`): the way there writes any year, and the way back reads
timestamps by the strict grammar, which has no signs. As the default copier passes over what
does not convert, the copies succeed all the same, and a time that is lost is replaced by the
one of a blank record (`there_and_back`).
-/

set_option autoImplicit false

namespace Docket

/-! ## Coercions and back -/

namespace Coercion

variable {millis : Int} {instant : Instant}

/-- Milliseconds that have an instant are coerced to its text. -/
theorem millisToTimestamp_of_instant (found : Instant.ofMillis? millis = some instant) :
    millisToTimestamp (.ofInt millis) = .ok (.string instant.text) := by
  obtain ⟨least, greatest⟩ := instant.millis_range
  rw [Instant.millis_of_ofMillis? found] at least greatest
  have number : (Json.ofInt millis).toInt64? = some millis :=
    Number.toInt64?_ofInt least greatest
  simp only [millisToTimestamp, number, found]

/-- Milliseconds of 64 bits that are coerced have an instant. -/
theorem exists_instant_of_millisToTimestamp (least : -0x8000000000000000 ≤ millis)
    (greatest : millis < 0x8000000000000000) {written : Json}
    (coerces : millisToTimestamp (.ofInt millis) = .ok written) :
    ∃ instant, Instant.ofMillis? millis = some instant ∧ written = .string instant.text := by
  have number : (Json.ofInt millis).toInt64? = some millis :=
    Number.toInt64?_ofInt least greatest
  unfold millisToTimestamp at coerces
  rw [number] at coerces
  cases found : Instant.ofMillis? millis with
  | none =>
      simp only [found] at coerces
      cases coerces
  | some instant =>
      simp only [found] at coerces
      exact ⟨instant, rfl, (Except.ok.inj coerces).symm⟩

/-- **Milliseconds come back from a timestamp** if they are in years of four digits, and are
refused if not. -/
theorem millis_there_and_back (least : -0x8000000000000000 ≤ millis)
    (greatest : millis < 0x8000000000000000) {written : Json}
    (coerces : millisToTimestamp (.ofInt millis) = .ok written) :
    timestampToMillis written =
      if Instant.MillisInYears millis then .ok (.ofInt millis) else .error "not a timestamp" := by
  obtain ⟨instant, found, rfl⟩ := exists_instant_of_millisToTimestamp least greatest coerces
  have inYears := Instant.inFourDigitYear_of_ofMillis? found
  split
  · next isIn =>
      rw [timestampToMillis_text (inYears.mpr isIn), Instant.millis_of_ofMillis? found]
  · next isOut =>
      exact timestampToMillis_text_of_outOfYears fun isIn => isOut (inYears.mp isIn)

/-- **Text comes back from an identifier** if it is not empty. -/
theorem id_there_and_back {text : String} {written : Json} (notEmpty : text ≠ "")
    (coerces : textToId (.string text) = .ok written) :
    idToText written = .ok (.string text) := by
  rw [textToId, if_neg fun empty => notEmpty (String.isEmpty_iff.mp empty)] at coerces
  cases read : RecordId.parse text with
  | error cause =>
      rw [read] at coerces
      cases coerces
  | ok id =>
      rw [read] at coerces
      obtain rfl := Except.ok.inj coerces
      rw [RecordId.toJson, idToText, RecordId.text_of_parse read]

end Coercion

/-! ## Types of times -/

/-- A type by which an application holds times. -/
inductive TimeType where
  /-- Times in milliseconds. -/
  | unix
  /-- Integers of a range, which count milliseconds. -/
  | integer (least greatest : Int) (blank : Ranged least greatest)

namespace TimeType

/-- The values of a type. -/
def Value : TimeType → Type
  | .unix => UnixTime
  | .integer least greatest _ => Ranged least greatest

/-- The codec of a type. -/
def codec : (type : TimeType) → Codec type.Value
  | .unix => .millis
  | .integer _ _ blank => .ranged .integer blank

/-- The milliseconds that a value stands for. -/
def millis : (type : TimeType) → type.Value → Int
  | .unix, (time : UnixTime) => time.millis
  | .integer _ _ _, value => value.val

theorem encode_codec (type : TimeType) (value : type.Value) :
    type.codec.encode value = .ok (.ofInt (type.millis value)) := by
  cases type <;> rfl

/-- A type of times is one of those that timestamps are coerced to and from. -/
theorem kind_codec (type : TimeType) :
    type.codec.kind ≠ .timestamp ∧
      CoercionRegistry.default.get? type.codec.kind .timestamp =
        some Coercion.millisToTimestamp ∧
      CoercionRegistry.default.get? .timestamp type.codec.kind =
        some Coercion.timestampToMillis := by
  cases type with
  | unix => exact ⟨nofun, rfl, rfl⟩
  | integer least greatest blank => exact ⟨nofun, rfl, rfl⟩

/-- A value whose milliseconds have an instant is read, as one with these milliseconds. -/
theorem exists_decode (type : TimeType) {value : type.Value} {instant : Instant}
    (found : Instant.ofMillis? (type.millis value) = some instant) :
    ∃ again, type.codec.decode (.ofInt (type.millis value)) = .ok again ∧
      type.millis again = type.millis value := by
  have counted := Instant.millis_of_ofMillis? found
  cases type with
  | unix =>
      refine ⟨UnixTime.ofMillis (TimeType.unix.millis value), ?_, ?_⟩
      · rw [← counted]
        exact UnixTime.decode_ofInt instant
      · show ((Instant.ofMillis? (TimeType.unix.millis value)).getD .epoch).millis = _
        rw [found, Option.getD_some, counted]
  | integer least greatest blank =>
      obtain ⟨lower, upper⟩ := instant.millis_range
      rw [counted] at lower upper
      have fits : FitsInteger (value : Ranged least greatest).val :=
        ⟨lower, Int.lt_trans upper (by decide)⟩
      refine ⟨value, ?_, rfl⟩
      show (Codec.ranged .integer blank).decode
        (.number (.ofInt (value : Ranged least greatest).val)) = .ok value
      rw [Number.ofInt, dif_pos fits]
      exact dif_pos (value : Ranged least greatest).property

end TimeType

/-! ## Links -/

/-- A field that is text in an application's record, and the identifier that the text stands
for in the stored record. -/
structure IdLink where
  name : String
  plain : Codec String
  stored : Codec RecordId
  likeText : plain.Resembles .text
  likeId : stored.Resembles .recordId

/-- A field for a time in an application's record, and a timestamp in the stored record. Each
of the two may have null in place of it or not. -/
structure TimeLink where
  name : String
  type : TimeType
  plainNullable : Bool
  storedNullable : Bool
  plain : Codec (Nullable plainNullable type.Value)
  stored : Codec (Nullable storedNullable Instant)
  likeTime : plain.Resembles (type.codec.optionalIf plainNullable)
  likeTimestamp : stored.Resembles (Codec.timestamp.optionalIf storedNullable)

/-- A field of an application's record, and the field of the stored record that it is copied
to and from. -/
inductive Link where
  | id (link : IdLink)
  | time (link : TimeLink)
  /-- A field of one of the records, of any other type. -/
  | other (field : Field)

namespace Link

/-- The field of the application's record. -/
def plain : Link → Field
  | .id link => ⟨link.name, String, link.plain⟩
  | .time link => ⟨link.name, Nullable link.plainNullable link.type.Value, link.plain⟩
  | .other field => field

/-- The field of the stored record. -/
def stored : Link → Field
  | .id link => ⟨link.name, RecordId, link.stored⟩
  | .time link => ⟨link.name, Nullable link.storedNullable Instant, link.stored⟩
  | .other field => field

/-- Identifiers and times can be written in the stored record, whatever they are. -/
theorem exists_encode_stored {link : Link} (value : link.stored.Value)
    (other : ∀ field, link = .other field →
      ∃ json, link.stored.codec.encode value = .ok json) :
    ∃ json, link.stored.codec.encode value = .ok json := by
  cases link with
  | id link =>
      show ∃ json, link.stored.encode value = .ok json
      rw [link.likeId.encode]
      exact ⟨_, rfl⟩
  | time link =>
      show ∃ json, link.stored.encode value = .ok json
      rw [link.likeTimestamp.encode]
      exact Codec.exists_encode_optionalIf link.storedNullable (fun _ => ⟨_, rfl⟩) value
  | other field => exact other field rfl

/-- Text and times can be written in the application's record, whatever they are. -/
theorem exists_encode_plain {link : Link} (value : link.plain.Value)
    (other : ∀ field, link = .other field →
      ∃ json, link.plain.codec.encode value = .ok json) :
    ∃ json, link.plain.codec.encode value = .ok json := by
  cases link with
  | id link =>
      show ∃ json, link.plain.encode value = .ok json
      rw [link.likeText.encode]
      exact ⟨_, rfl⟩
  | time link =>
      show ∃ json, link.plain.encode value = .ok json
      rw [link.likeTime.encode]
      exact Codec.exists_encode_optionalIf link.plainNullable
        (fun inside => ⟨_, link.type.encode_codec inside⟩) value
  | other field => exact other field rfl

end Link

/-- A record type of an application and one that is stored, which are two shapes of one
record. Both have the identifiers and times that are linked; apart from those, each may have
fields of its own. -/
structure Shapes where
  plainName : String
  storedName : String
  plainLinks : List Link
  storedLinks : List Link
  plainDistinct : (plainLinks.map fun link => link.plain.name).Nodup
  storedDistinct : (storedLinks.map fun link => link.stored.name).Nodup
  sharedId : ∀ link, .id link ∈ plainLinks → .id link ∈ storedLinks
  sharedTime : ∀ link, .time link ∈ plainLinks → .time link ∈ storedLinks
  /-- Blank records come back from what they are written as. -/
  plainBlank : ∀ link ∈ plainLinks, link.plain.Returns link.plain.codec.blank
  storedBlank : ∀ link ∈ storedLinks, link.stored.Returns link.stored.codec.blank
  /-- A stored record can be written whatever it has in its other fields. -/
  writable : ∀ field, .other field ∈ storedLinks →
    ∀ value, ∃ json, field.codec.encode value = .ok json

namespace Shapes

variable (shapes : Shapes)

/-- The application's record type. -/
def entity : RecordType :=
  .ofFields shapes.plainName (shapes.plainLinks.map Link.plain)

/-- The record type that is stored. -/
def model : RecordType :=
  .ofFields shapes.storedName (shapes.storedLinks.map Link.stored)

/-- The application's record of values. -/
def plainRecord (values : (link : Link) → link.plain.Value) : shapes.entity.Value :=
  Row.ofValues Link.plain values shapes.plainLinks

/-- The stored record of values. -/
def storedRecord (values : (link : Link) → link.stored.Value) : shapes.model.Value :=
  Row.ofValues Link.stored values shapes.storedLinks

/-- A record of the application is written if its other fields are. -/
theorem exists_encode_plainRecord {values : (link : Link) → link.plain.Value}
    (written : ∀ field, .other field ∈ shapes.plainLinks →
      ∃ json, field.codec.encode (values (.other field)) = .ok json) :
    ∃ given, Row.encode (shapes.plainLinks.map Link.plain)
      (Row.ofValues Link.plain values shapes.plainLinks) = .ok given := by
  refine Row.exists_encode fun link isLink => Link.exists_encode_plain _ fun field isOther => ?_
  subst isOther
  exact written field isLink

/-- A stored record is written. -/
theorem exists_encode_storedRecord (values : (link : Link) → link.stored.Value) :
    ∃ given, Row.encode (shapes.storedLinks.map Link.stored)
      (Row.ofValues Link.stored values shapes.storedLinks) = .ok given := by
  refine Row.exists_encode fun link isLink => Link.exists_encode_stored _ fun field isOther => ?_
  subst isOther
  exact shapes.writable field isLink _

/-! ## There -/

section

variable {shapes} {values : (link : Link) → link.plain.Value} (base : Document) {given : Document}
  (encoded : Row.encode (shapes.plainLinks.map Link.plain)
    (Row.ofValues Link.plain values shapes.plainLinks) = .ok given)

include encoded

/-- Text that is that of an identifier is stored as the identifier. -/
theorem storedId_received {link : IdLink} (isLink : .id link ∈ shapes.plainLinks) {id : RecordId}
    (isText : values (.id link) = id.text) :
    Copier.default.received shapes.entity.fields given base (Link.stored (.id link)) = .ok id := by
  have encodes : link.plain.encode (values (.id link)) = .ok (.string id.text) := by
    rw [link.likeText.encode, isText]
    rfl
  have offered := Copier.offered?_of_encode shapes.plainDistinct encoded isLink
    (link.likeText.kept_of_encode encodes nofun) encodes (Link.stored (.id link)).spec rfl
  have source : (Link.plain (.id link)).spec.kind = .text := link.likeText.kind
  have target : (Link.stored (.id link)).codec.kind = .id := link.likeId.kind
  refine Copier.received_of_coercion Coercion.textToId offered nofun ?_ ?_
    (Coercion.textToId_of_isMeantBy (.inr rfl)) ?_
  · rw [source, target]
    exact nofun
  · rw [source, target]
    rfl
  · show link.stored.decode id.toJson = .ok id
    rw [link.likeId.decode]
    exact Codec.decode_recordId id

/-- A time that has an instant is stored as the instant. -/
theorem storedTime_received {link : TimeLink} (isLink : .time link ∈ shapes.plainLinks)
    {value : link.type.Value}
    (holds : values (.time link) = Nullable.holding link.plainNullable value)
    {instant : Instant} (found : Instant.ofMillis? (link.type.millis value) = some instant) :
    Copier.default.received shapes.entity.fields given base (Link.stored (.time link)) =
      .ok (Nullable.holding link.storedNullable instant) := by
  have encodes :
      link.plain.encode (values (.time link)) = .ok (.ofInt (link.type.millis value)) := by
    rw [link.likeTime.encode, holds, Codec.encode_optionalIf_holding, link.type.encode_codec]
  have offered := Copier.offered?_of_encode shapes.plainDistinct encoded isLink
    (link.likeTime.kept_of_encode encodes nofun) encodes (Link.stored (.time link)).spec rfl
  have source : (Link.plain (.time link)).spec.kind = link.type.codec.kind :=
    link.likeTime.kind.trans (Codec.kind_optionalIf link.plainNullable)
  have target : (Link.stored (.time link)).codec.kind = .timestamp :=
    link.likeTimestamp.kind.trans (Codec.kind_optionalIf link.storedNullable)
  obtain ⟨differ, known, _⟩ := link.type.kind_codec
  refine Copier.received_of_coercion Coercion.millisToTimestamp offered nofun ?_ ?_
    (Coercion.millisToTimestamp_of_instant found) ?_
  · rw [source, target]
    exact differ
  · rw [source, target]
    exact known
  · show link.stored.decode (.string instant.text) = _
    rw [link.likeTimestamp.decode]
    exact Codec.decode_optionalIf link.storedNullable nofun (Codec.decode_timestamp_text instant)

end

/-! ## Back -/

section

variable {shapes} {values : (link : Link) → link.stored.Value} (base : Document)
  {given : Document}
  (encoded : Row.encode (shapes.storedLinks.map Link.stored)
    (Row.ofValues Link.stored values shapes.storedLinks) = .ok given)

include encoded

/-- An identifier comes back as its text. -/
theorem plainId_received {link : IdLink} (isLink : .id link ∈ shapes.plainLinks) {id : RecordId}
    (isId : values (.id link) = id) :
    Copier.default.received shapes.model.fields given base (Link.plain (.id link)) =
      .ok id.text := by
  have encodes : link.stored.encode (values (.id link)) = .ok (.string id.text) := by
    rw [link.likeId.encode, isId]
    rfl
  have offered := Copier.offered?_of_encode shapes.storedDistinct encoded
    (shapes.sharedId link isLink) (link.likeId.kept_of_encode encodes nofun) encodes
    (Link.plain (.id link)).spec rfl
  have source : (Link.stored (.id link)).spec.kind = .id := link.likeId.kind
  have target : (Link.plain (.id link)).codec.kind = .text := link.likeText.kind
  refine Copier.received_of_coercion Coercion.idToText offered nofun ?_ ?_ rfl ?_
  · rw [source, target]
    exact nofun
  · rw [source, target]
    rfl
  · show link.plain.decode (.string id.text) = .ok id.text
    rw [link.likeText.decode]
    rfl

/-- A time comes back if its instant is in a year of four digits; if not, the field keeps
what it had. -/
theorem plainTime_received {link : TimeLink} (isLink : .time link ∈ shapes.plainLinks)
    {value : link.type.Value} {instant : Instant}
    (found : Instant.ofMillis? (link.type.millis value) = some instant)
    (holds : values (.time link) = Nullable.holding link.storedNullable instant) :
    if Instant.MillisInYears (link.type.millis value) then
      ∃ again, link.type.millis again = link.type.millis value ∧
        Copier.default.received shapes.model.fields given base (Link.plain (.time link)) =
          .ok (Nullable.holding link.plainNullable again)
    else
      Copier.default.received shapes.model.fields given base (Link.plain (.time link)) =
        (Link.plain (.time link)).read base := by
  have encodes : link.stored.encode (values (.time link)) = .ok (.string instant.text) := by
    rw [link.likeTimestamp.encode, holds, Codec.encode_optionalIf_holding]
    rfl
  have offered := Copier.offered?_of_encode shapes.storedDistinct encoded
    (shapes.sharedTime link isLink) (link.likeTimestamp.kept_of_encode encodes nofun) encodes
    (Link.plain (.time link)).spec rfl
  have source : (Link.stored (.time link)).spec.kind = .timestamp :=
    link.likeTimestamp.kind.trans (Codec.kind_optionalIf link.storedNullable)
  have target : (Link.plain (.time link)).codec.kind = link.type.codec.kind :=
    link.likeTime.kind.trans (Codec.kind_optionalIf link.plainNullable)
  obtain ⟨differ, _, known⟩ := link.type.kind_codec
  rw [← source, ← target] at known
  have differs : (Link.stored (.time link)).spec.kind ≠ (Link.plain (.time link)).codec.kind := by
    rw [source, target]
    exact differ.symm
  have inYears := Instant.inFourDigitYear_of_ofMillis? found
  split
  · next isIn =>
      obtain ⟨again, decodes, sameMillis⟩ := link.type.exists_decode found
      refine ⟨again, sameMillis, Copier.received_of_coercion Coercion.timestampToMillis offered
        nofun differs known (Coercion.timestampToMillis_text (inYears.mpr isIn)) ?_⟩
      show link.plain.decode (.ofInt instant.millis) = _
      rw [link.likeTime.decode, Instant.millis_of_ofMillis? found]
      exact Codec.decode_optionalIf link.plainNullable nofun decodes
  · next isOut =>
      exact Copier.received_of_refusal Coercion.timestampToMillis offered nofun differs known
        (Coercion.timestampToMillis_text_of_outOfYears fun isIn => isOut (inYears.mp isIn))

end

/-! ## There and back -/

/-- **A record that is copied to its stored shape and back keeps its identifiers, and the
times in years of four digits.** A time in any other year is lost, though neither copy fails:
the coercion to a timestamp succeeds, the coercion back refuses what that made, and the field
has its blank value. -/
theorem there_and_back (values : (link : Link) → link.plain.Value)
    (written : ∀ field, .other field ∈ shapes.plainLinks →
      ∃ json, field.codec.encode (values (.other field)) = .ok json) :
    (∃ stored back,
      (Copier.default.copy shapes.entity shapes.model (shapes.plainRecord values)).value =
          .ok (shapes.storedRecord stored) ∧
        (Copier.default.copy shapes.model shapes.entity (shapes.storedRecord stored)).value =
          .ok (shapes.plainRecord back) ∧
        (∀ link, .id link ∈ shapes.plainLinks → RecordId.IsText (values (.id link)) →
          back (.id link) = values (.id link)) ∧
        ∀ link, .time link ∈ shapes.plainLinks → ∀ value,
          Nullable.held? (values (.time link)) = some value →
            (Instant.ofMillis? (link.type.millis value)).isSome = true →
              if Instant.MillisInYears (link.type.millis value) then
                (Nullable.held? (back (.time link))).map link.type.millis =
                  some (link.type.millis value)
              else back (.time link) = link.plain.blank) ∧
      (∀ kind ∈ [FieldKind.millis, .integer], ∃ forth back,
        CoercionRegistry.default.get? kind .timestamp = some forth ∧
          CoercionRegistry.default.get? .timestamp kind = some back ∧
          ∀ (millis : Signed64) timestamp, forth (.ofInt millis.val) = .ok timestamp →
            back timestamp =
              if Instant.MillisInYears millis.val then .ok (.ofInt millis.val)
              else .error "not a timestamp") ∧
      ∃ forth back, CoercionRegistry.default.get? .text .id = some forth ∧
        CoercionRegistry.default.get? .id .text = some back ∧
        ∀ text id, text ≠ "" → forth (.string text) = .ok id →
          back id = .ok (.string text) := by
  refine ⟨?_, ?_, Coercion.textToId, Coercion.idToText, rfl, rfl, fun text id notEmpty coerces =>
    Coercion.id_there_and_back notEmpty coerces⟩
  · have bestEffort : Copier.default.policy = .bestEffort := rfl
    obtain ⟨given, encoded⟩ := shapes.exists_encode_plainRecord written
    obtain ⟨stored, storedBase, goesThere, _, storedReceives⟩ :=
      Copier.exists_copy_fieldwise bestEffort shapes.storedName
        (Copier.written_ofFields shapes.plainName encoded) shapes.storedDistinct shapes.storedBlank
    obtain ⟨givenBack, encodedBack⟩ := shapes.exists_encode_storedRecord stored
    obtain ⟨back, plainBase, comesBack, plainReads, plainReceives⟩ :=
      Copier.exists_copy_fieldwise bestEffort shapes.plainName
        (Copier.written_ofFields shapes.storedName encodedBack) shapes.plainDistinct
          shapes.plainBlank
    refine ⟨stored, back, goesThere, comesBack, fun link isLink isText => ?_,
      fun link isLink value holds represented => ?_⟩
    · obtain ⟨id, isId⟩ := RecordId.isText_iff.mp isText
      have isStored : stored (.id link) = id := Except.ok.inj
        ((storedReceives _ (shapes.sharedId link isLink)).symm.trans
          (storedId_received storedBase encoded isLink isId.symm))
      have isBack : back (.id link) = id.text := Except.ok.inj
        ((plainReceives _ isLink).symm.trans
          (plainId_received plainBase encodedBack isLink isStored))
      exact isBack.trans isId
    · obtain ⟨instant, found⟩ := Option.isSome_iff_exists.mp represented
      have isStored : stored (.time link) = Nullable.holding link.storedNullable instant :=
        Except.ok.inj ((storedReceives _ (shapes.sharedTime link isLink)).symm.trans
          (storedTime_received storedBase encoded isLink (Nullable.eq_holding holds) found))
      have received := plainTime_received plainBase encodedBack isLink found isStored
      split
      · next isIn =>
          rw [if_pos isIn] at received
          obtain ⟨again, sameMillis, received⟩ := received
          have isBack : back (.time link) = Nullable.holding link.plainNullable again :=
            Except.ok.inj ((plainReceives _ isLink).symm.trans received)
          rw [isBack, Nullable.held?_holding, Option.map_some, sameMillis]
      · next isOut =>
          rw [if_neg isOut] at received
          exact Except.ok.inj
            ((plainReceives _ isLink).symm.trans (received.trans (plainReads _ isLink)))
  · intro kind isKind
    have timestamps : CoercionRegistry.default.get? kind .timestamp =
          some Coercion.millisToTimestamp ∧
        CoercionRegistry.default.get? .timestamp kind = some Coercion.timestampToMillis := by
      simp only [List.mem_cons, List.not_mem_nil, or_false] at isKind
      rcases isKind with rfl | rfl <;> exact ⟨rfl, rfl⟩
    refine ⟨Coercion.millisToTimestamp, Coercion.timestampToMillis, timestamps.1, timestamps.2,
      fun millis timestamp coerces => ?_⟩
    exact Coercion.millis_there_and_back millis.property.1
      (Int.lt_of_le_of_lt millis.property.2 (by decide)) coerces

/-! ## Notes -/

/-- The identifier of a note. -/
def noteId : IdLink :=
  ⟨"id", .text, .recordId, .refl fun _ => rfl, .refl fun _ => rfl⟩

/-- The time of creation of a note. -/
def noteCreated : TimeLink :=
  ⟨"created_at", .unix, false, false, .millis, .timestamp,
    .refl fun _ => rfl, .refl fun _ => rfl⟩

/-- The time of the last update of a note. -/
def noteUpdated : TimeLink :=
  ⟨"updated_at", .unix, false, false, .millis, .timestamp,
    .refl fun _ => rfl, .refl fun _ => rfl⟩

/-- The time of deletion of a note. -/
def noteDeleted : TimeLink :=
  ⟨"deleted_at", .integer _ _ Signed64.zero, true, true, Codec.signed64.optional,
    Codec.timestamp.optional, .refl fun _ => rfl, .refl fun _ => rfl⟩

/-- The fields of a note. -/
def noteLinks : List Link :=
  [.id noteId, .other Specimen.noteTitle, .time noteCreated, .time noteUpdated,
    .time noteDeleted]

/-- Notes, in both of their shapes. -/
def notes : Shapes where
  plainName := "Note"
  storedName := "NoteModel"
  plainLinks := noteLinks
  storedLinks := noteLinks
  plainDistinct := by decide
  storedDistinct := by decide
  sharedId _ := id
  sharedTime _ := id
  plainBlank := by
    simp only [noteLinks, List.forall_mem_cons]
    exact ⟨.written (.string "") rfl rfl rfl, .written (.string "") rfl rfl rfl,
      .written (.ofInt 0) rfl rfl rfl, .written (.ofInt 0) rfl rfl rfl, .written .null rfl rfl rfl,
      fun _ isLink => absurd isLink List.not_mem_nil⟩
  storedBlank := by
    have epoch := Codec.decode_timestamp_text .epoch
    simp only [noteLinks, List.forall_mem_cons]
    exact ⟨.written RecordId.unassigned.toJson rfl rfl (Codec.decode_recordId .unassigned),
      .written (.string "") rfl rfl rfl, .written (.string Instant.epoch.text) rfl rfl epoch,
      .written (.string Instant.epoch.text) rfl rfl epoch, .written .null rfl rfl rfl,
      fun _ isLink => absurd isLink List.not_mem_nil⟩
  writable field isOther value := by
    simp only [noteLinks, List.mem_cons, reduceCtorEq, false_or, or_false, Link.other.injEq,
      List.not_mem_nil] at isOther
    subst isOther
    exact ⟨_, rfl⟩

/-- A note that was created on 1 May 2024. -/
def mayNote : Specimen.note.Value :=
  Specimen.plainNote (RecordId.minted 0 1).text "May" (UnixTime.ofMillis 1714521600000)

/-- The note keeps its identifier and its time of creation. -/
theorem there_and_back_mayNote :
    ∃ stored back : _,
      (Copier.default.copy Specimen.note Specimen.noteModel.toRecordType mayNote).value =
          .ok stored ∧
        (Copier.default.copy Specimen.noteModel.toRecordType Specimen.note stored).value =
          .ok back ∧
        (back.1 : String) = (RecordId.minted 0 1).text ∧
        (back.2.2.1 : UnixTime).millis = 1714521600000 := by
  obtain ⟨values, isNote⟩ := Row.exists_values Link.plain
    (notes.plainDistinct.of_map _ : notes.plainLinks.Nodup) mayNote
  have isText : (RecordId.minted 0 1).text = values (.id noteId) := congrArg Prod.fst isNote
  have isCreated : UnixTime.ofMillis 1714521600000 = values (.time noteCreated) :=
    congrArg (fun row : String × String × UnixTime × UnixTime × Option Signed64 × Unit =>
      row.2.2.1) isNote
  have written : ∀ field, .other field ∈ notes.plainLinks →
      ∃ json, field.codec.encode (values (.other field)) = .ok json := fun field isOther =>
    notes.writable field isOther (values (.other field))
  obtain ⟨⟨stored, back, goesThere, comesBack, ids, times⟩, _⟩ :=
    there_and_back notes values written
  have sameText := ids noteId (by simp [notes, noteLinks])
    (by rw [← isText]; exact RecordId.isText_iff.mpr ⟨_, rfl⟩)
  have sameMillis := times noteCreated (by simp [notes, noteLinks])
    (UnixTime.ofMillis 1714521600000) (congrArg some isCreated.symm) (by decide +kernel)
  rw [if_pos (by decide +kernel)] at sameMillis
  refine ⟨notes.storedRecord stored, notes.plainRecord back, ?_, comesBack,
    sameText.trans isText.symm, (Option.some.inj sameMillis).trans (by decide +kernel)⟩
  rw [isNote]
  exact goesThere

/-- A note that was created at the start of the year 10000. -/
def lateNote : Specimen.note.Value :=
  Specimen.plainNote (RecordId.minted 0 1).text "late" (UnixTime.ofMillis 253402300800000)

/-- The milliseconds that a note was created at, once it was copied there and back. -/
def createdBack? (note : Specimen.note.Value) : Option Int := do
  let stored ←
    (Copier.default.copy Specimen.note Specimen.noteModel.toRecordType note).value.toOption
  let back ←
    (Copier.default.copy Specimen.noteModel.toRecordType Specimen.note stored).value.toOption
  return (back.2.2.1 : UnixTime).millis

/-- The late note has a time of creation that is lost, and has the start of 1970 instead. -/
theorem createdBack_lateNote :
    (lateNote.2.2.1 : UnixTime).millis = 253402300800000 ∧
      (Instant.ofMillis? 253402300800000).isSome = true ∧ createdBack? lateNote = some 0 := by
  decide +kernel

end Shapes

end Docket
