import Docket.Proofs.Conversion.Copying
import Docket.Proofs.Persistence.Permanence
import Docket.Proofs.Record.Survival
import Docket.Specimen.Models

/-!
# Pairs of record types

Records are stored as one type and used as another one with the same field names. Four
fields have a role, and each of the two types has its own type for it: the identifier
is stored as one and used as text, the times of creation and update are stored as
timestamps and used as milliseconds, and the time of deletion is stored as a timestamp
that may be null and used as an integer that may be. Every other field has one type in
both. The two types may have their fields in different orders.

A pairing is such a pair, with what makes it one. It is described by slots, and a record
of either type by a value for each slot. The two conversions are functions of these
values (`storedOf`, `plainOf`), and the copier that converts records by default does
exactly this if the values survive being written (`copy_toModel`, `copy_toEntity`).
-/

set_option autoImplicit false

namespace Docket

/-! ## Slots -/

/-- A field that the two types of a pair have in common. -/
inductive Slot where
  | id
  | createdAt
  | updatedAt
  | deletedAt
  | other (field : Field)

namespace Slot

/-- The field of the type that is stored. -/
def stored : Slot → Field
  | .id => ⟨FieldName.identifier, RecordId, .recordId⟩
  | .createdAt => ⟨FieldName.createdAt, Instant, .timestamp⟩
  | .updatedAt => ⟨FieldName.updatedAt, Instant, .timestamp⟩
  | .deletedAt => ⟨FieldName.deletedAt, Option Instant, Codec.timestamp.optional⟩
  | .other field => field

/-- The field of the application's type. -/
def plain : Slot → Field
  | .id => ⟨FieldName.identifier, String, .text⟩
  | .createdAt => ⟨FieldName.createdAt, UnixTime, .millis⟩
  | .updatedAt => ⟨FieldName.updatedAt, UnixTime, .millis⟩
  | .deletedAt => ⟨FieldName.deletedAt, Option Signed64, Codec.signed64.optional⟩
  | .other field => field

/-- The name that both fields have. -/
def name (slot : Slot) : String :=
  slot.stored.name

theorem plain_name (slot : Slot) : slot.plain.name = slot.name := by
  cases slot <;> rfl

end Slot

/-- A value for each slot, of the type that is stored. -/
abbrev StoredValues : Type 1 := (slot : Slot) → slot.stored.Value

/-- A value for each slot, of the application's type. -/
abbrev PlainValues : Type 1 := (slot : Slot) → slot.plain.Value

namespace Slot

/-- The value of a slot of a record that is given an identifier. -/
def identified (id : RecordId) : (slot : Slot) → slot.stored.Value → slot.stored.Value
  | .id, _ => id
  | .createdAt, value => value
  | .updatedAt, value => value
  | .deletedAt, value => value
  | .other _, value => value

/-- The value of a slot of a record that is stamped with its creation. -/
def created (now : Instant) : (slot : Slot) → slot.stored.Value → slot.stored.Value
  | .id, value => value
  | .createdAt, _ => now
  | .updatedAt, value => value
  | .deletedAt, value => value
  | .other _, value => value

/-- The value of a slot of a record that is stamped with an update. -/
def updated (now : Instant) : (slot : Slot) → slot.stored.Value → slot.stored.Value
  | .id, value => value
  | .createdAt, value => value
  | .updatedAt, _ => now
  | .deletedAt, value => value
  | .other _, value => value

/-- The identifier in a row of stored values. -/
def idOf : (slots : List Slot) → Row (slots.map stored) → RecordId
  | [], _ => .unassigned
  | .id :: _, (held, _) => held
  | .createdAt :: rest, (_, others) => idOf rest others
  | .updatedAt :: rest, (_, others) => idOf rest others
  | .deletedAt :: rest, (_, others) => idOf rest others
  | .other _ :: rest, (_, others) => idOf rest others

theorem idOf_ofValues (values : StoredValues) {slots : List Slot} (hasId : .id ∈ slots) :
    idOf slots (Row.ofValues stored values slots) = values .id := by
  induction slots with
  | nil => cases hasId
  | cons slot rest ih =>
      cases slot with
      | id => rfl
      | _ => exact ih ((List.mem_cons.mp hasId).resolve_left nofun)

end Slot

/-! ## Pairings -/

/-- A type of stored records and an application's type with the same fields. -/
structure Pairing where
  storedName : String
  plainName : String
  storedSlots : List Slot
  plainSlots : List Slot
  same : ∀ slot, slot ∈ plainSlots ↔ slot ∈ storedSlots
  storedDistinct : (storedSlots.map Slot.name).Nodup
  plainDistinct : (plainSlots.map Slot.name).Nodup
  hasId : .id ∈ storedSlots
  hasCreatedAt : .createdAt ∈ storedSlots
  hasUpdatedAt : .updatedAt ∈ storedSlots
  hasDeletedAt : .deletedAt ∈ storedSlots
  /-- No field has the name that is reserved for the identifier in the store. -/
  unreserved : ∀ slot ∈ storedSlots, slot.name ≠ FieldName.primaryKey
  /-- The blank values of the other fields can be written. -/
  writable : ∀ field, .other field ∈ storedSlots →
    ∃ json, field.codec.encode field.codec.blank = .ok json

namespace Pairing

variable (pairing : Pairing)

/-- The type that is stored. -/
def model : ModelType where
  toRecordType := .ofFields pairing.storedName (pairing.storedSlots.map Slot.stored)
  id record := Slot.idOf pairing.storedSlots record
  setId id record := Row.mapped Slot.stored (Slot.identified id) pairing.storedSlots record
  stampCreated now record :=
    Row.mapped Slot.stored (Slot.created now) pairing.storedSlots record
  stampUpdated now record :=
    Row.mapped Slot.stored (Slot.updated now) pairing.storedSlots record

/-- The application's type. -/
def entity : RecordType :=
  .ofFields pairing.plainName (pairing.plainSlots.map Slot.plain)

/-- The stored record of values. -/
def storedRecord (values : StoredValues) : pairing.model.Value :=
  Row.ofValues Slot.stored values pairing.storedSlots

/-- The application's record of values. -/
def plainRecord (values : PlainValues) : pairing.entity.Value :=
  Row.ofValues Slot.plain values pairing.plainSlots

theorem nodup_storedSlots : pairing.storedSlots.Nodup :=
  pairing.storedDistinct.of_map _

theorem nodup_plainSlots : pairing.plainSlots.Nodup :=
  pairing.plainDistinct.of_map _

theorem exists_storedRecord (record : pairing.model.Value) :
    ∃ values, record = pairing.storedRecord values :=
  Row.exists_values Slot.stored pairing.nodup_storedSlots record

/-- Every record of the application's type is the record of some values. -/
theorem exists_plainRecord (record : pairing.entity.Value) :
    ∃ values, record = pairing.plainRecord values :=
  Row.exists_values Slot.plain pairing.nodup_plainSlots record

variable (values : StoredValues)

@[simp] theorem id_storedRecord :
    pairing.model.id (pairing.storedRecord values) = values .id :=
  Slot.idOf_ofValues values pairing.hasId

@[simp] theorem setId_storedRecord (id : RecordId) :
    pairing.model.setId id (pairing.storedRecord values) =
      pairing.storedRecord fun slot => slot.identified id (values slot) :=
  Row.mapped_ofValues Slot.stored (Slot.identified id) values pairing.storedSlots

@[simp] theorem stampCreated_storedRecord (now : Instant) :
    pairing.model.stampCreated now (pairing.storedRecord values) =
      pairing.storedRecord fun slot => slot.created now (values slot) :=
  Row.mapped_ofValues Slot.stored (Slot.created now) values pairing.storedSlots

@[simp] theorem stampUpdated_storedRecord (now : Instant) :
    pairing.model.stampUpdated now (pairing.storedRecord values) =
      pairing.storedRecord fun slot => slot.updated now (values slot) :=
  Row.mapped_ofValues Slot.stored (Slot.updated now) values pairing.storedSlots

/-- The type that is stored is lawful. -/
theorem lawful : pairing.model.Lawful where
  id_setId id record := by
    obtain ⟨values, rfl⟩ := pairing.exists_storedRecord record
    rw [setId_storedRecord, id_storedRecord]
    rfl
  sorted record _ encoded := RecordType.ofFields_sorted pairing.storedName _ record encoded

end Pairing

/-! ## Conversions -/

namespace Slot

theorem decode_id (id : RecordId) : Slot.id.stored.codec.decode id.toJson = .ok id := by
  dsimp only [stored]
  exact Codec.decode_recordId id

theorem decode_createdAt_millis (instant : Instant) :
    Slot.createdAt.plain.codec.decode (.ofInt instant.millis) =
      .ok (UnixTime.ofMillis instant.millis) := by
  dsimp only [plain]
  exact UnixTime.decode_ofInt instant

theorem decode_updatedAt_millis (instant : Instant) :
    Slot.updatedAt.plain.codec.decode (.ofInt instant.millis) =
      .ok (UnixTime.ofMillis instant.millis) := by
  dsimp only [plain]
  exact UnixTime.decode_ofInt instant

theorem decode_createdAt_text (instant : Instant) :
    Slot.createdAt.stored.codec.decode (.string instant.text) = .ok instant := by
  dsimp only [stored]
  exact Codec.decode_timestamp_text instant

theorem decode_updatedAt_text (instant : Instant) :
    Slot.updatedAt.stored.codec.decode (.string instant.text) = .ok instant := by
  dsimp only [stored]
  exact Codec.decode_timestamp_text instant

/-- What is stored of a record of the application, apart from its identifier. -/
def storedOf (id : RecordId) (values : PlainValues) : StoredValues
  | .id => id
  | .createdAt => (values .createdAt).instant
  | .updatedAt => (values .updatedAt).instant
  | .deletedAt => none
  | .other field => values (.other field)

/-- What an application gets of a stored record that is live. -/
def plainOf (values : StoredValues) : PlainValues
  | .id => (values .id : RecordId).text
  | .createdAt => UnixTime.ofMillis (values .createdAt : Instant).millis
  | .updatedAt => UnixTime.ofMillis (values .updatedAt : Instant).millis
  | .deletedAt => none
  | .other field => values (.other field)

end Slot

/-- A value that survives is carried over to the same field of another record. What is null and
not copied is the blank value, which that record has already. -/
theorem Field.Survives.carries {field : Field} {value : field.Value} {json : Json}
    (survives : field.Survives value json) : Copier.Carries field field value value := by
  refine ⟨json, survives.kept, survives.encodes, fun offered => ?_⟩
  by_cases isNull : json = .null
  · subst isNull
    cases nullable : field.codec.nullable with
    | true => exact .converted offered (Copier.convert_null nullable) survives.decodes
    | false =>
        have isBlank : value = field.codec.blank := by
          rcases survives.null rfl with isNullable | isBlank
          · rw [nullable] at isNullable
            cases isNullable
          · exact isBlank
        subst isBlank
        exact .passedOver offered (Copier.convert_null_of_not_nullable nullable) survives.kept
          survives.encodes survives.decodes
  · exact .converted offered (Copier.convert_sameKind isNull rfl) survives.decodes

namespace Pairing

/-- The values of a record of the application that can be saved under an identifier: the
record is live, its times are in milliseconds and in years of four digits, and its other
values survive being stored. -/
structure Savable (pairing : Pairing) (id : RecordId) (values : PlainValues) : Prop where
  isId : RecordId.IsMeantBy (values .id) id
  createdAt : (values .createdAt : UnixTime).IsMillis ∧
    (values .createdAt : UnixTime).instant.InFourDigitYear
  updatedAt : (values .updatedAt : UnixTime).IsMillis ∧
    (values .updatedAt : UnixTime).instant.InFourDigitYear
  notDeleted : (values .deletedAt : Option Signed64) = none
  stays : ∀ field, .other field ∈ pairing.storedSlots → field.Stays (values (.other field))

/-- The values of a stored record that can be given to an application: the record is
live, its times are in years of four digits, and its other values survive. -/
structure Readable (pairing : Pairing) (values : StoredValues) : Prop where
  createdAt : (values .createdAt : Instant).InFourDigitYear
  updatedAt : (values .updatedAt : Instant).InFourDigitYear
  notDeleted : (values .deletedAt : Option Instant) = none
  survives : ∀ field, .other field ∈ pairing.storedSlots →
    ∃ json, field.Survives (values (.other field)) json

section

variable {pairing : Pairing}

theorem storedNames_nodup :
    (pairing.storedSlots.map fun slot => slot.stored.name).Nodup :=
  pairing.storedDistinct

theorem plainNames_nodup : (pairing.plainSlots.map fun slot => slot.plain.name).Nodup := by
  rw [List.map_congr_left fun slot _ => slot.plain_name]
  exact pairing.plainDistinct

/-- **A record that can be saved is converted to what is stored of it.** -/
theorem copy_toModel {id : RecordId} {values : PlainValues} (savable : pairing.Savable id values) :
    Copier.default.copy pairing.entity pairing.model.toRecordType (pairing.plainRecord values) =
      .silent (.ok (pairing.storedRecord (Slot.storedOf id values))) := by
  refine Copier.copy_of_carries plainNames_nodup storedNames_nodup pairing.same
    (fun slot => slot.plain_name.symm) ?_ ?_
  · intro slot isSlot
    cases slot with
    | id | createdAt | updatedAt | deletedAt => exact ⟨_, rfl⟩
    | other field => exact pairing.writable field isSlot
  · intro slot isSlot
    cases slot with
    | id =>
        exact ⟨_, rfl, rfl, fun offered => .of_coercion Coercion.textToId offered nofun nofun rfl
          (Coercion.textToId_of_isMeantBy savable.isId) (Slot.decode_id id)⟩
    | createdAt =>
        obtain ⟨isMillis, _⟩ := savable.createdAt
        exact ⟨_, rfl, rfl, fun offered => .of_coercion Coercion.millisToTimestamp offered nofun
          nofun rfl (Coercion.millisToTimestamp_ofInt isMillis)
          (Slot.decode_createdAt_text _)⟩
    | updatedAt =>
        obtain ⟨isMillis, _⟩ := savable.updatedAt
        exact ⟨_, rfl, rfl, fun offered => .of_coercion Coercion.millisToTimestamp offered nofun
          nofun rfl (Coercion.millisToTimestamp_ofInt isMillis)
          (Slot.decode_updatedAt_text _)⟩
    | deletedAt =>
        have isNull : Slot.deletedAt.plain.codec.encode (values .deletedAt) = .ok .null := by
          rw [savable.notDeleted]
          rfl
        exact ⟨_, rfl, isNull, fun offered => .converted offered (Copier.convert_null rfl) rfl⟩
    | other field =>
        obtain ⟨json, survives, _⟩ := savable.stays field isSlot
        exact survives.carries

/-- **A stored record that is live is converted to what an application gets of it.** -/
theorem copy_toEntity {values : StoredValues} (readable : pairing.Readable values) :
    Copier.default.copy pairing.model.toRecordType pairing.entity (pairing.storedRecord values) =
      .silent (.ok (pairing.plainRecord (Slot.plainOf values))) := by
  refine Copier.copy_of_carries storedNames_nodup plainNames_nodup
    (fun slot => (pairing.same slot).symm) Slot.plain_name ?_ ?_
  · intro slot isSlot
    cases slot with
    | id | createdAt | updatedAt | deletedAt => exact ⟨_, rfl⟩
    | other field => exact pairing.writable field ((pairing.same _).mp isSlot)
  · intro slot isSlot
    cases slot with
    | id =>
        exact ⟨_, rfl, rfl, fun offered => .of_coercion Coercion.idToText offered nofun nofun rfl
          rfl rfl⟩
    | createdAt =>
        exact ⟨_, rfl, rfl, fun offered => .of_coercion Coercion.timestampToMillis offered nofun
          nofun rfl (Coercion.timestampToMillis_text readable.createdAt)
          (Slot.decode_createdAt_millis _)⟩
    | updatedAt =>
        exact ⟨_, rfl, rfl, fun offered => .of_coercion Coercion.timestampToMillis offered nofun
          nofun rfl (Coercion.timestampToMillis_text readable.updatedAt)
          (Slot.decode_updatedAt_millis _)⟩
    | deletedAt =>
        have isNull : Slot.deletedAt.stored.codec.encode (values .deletedAt) = .ok .null := by
          rw [readable.notDeleted]
          rfl
        exact ⟨_, rfl, isNull, fun offered => .converted offered (Copier.convert_null rfl) rfl⟩
    | other field =>
        obtain ⟨json, survives⟩ := readable.survives field ((pairing.same _).mp isSlot)
        exact survives.carries

end

end Pairing

end Docket
