import Docket.Proofs.Persistence.History
import Docket.Proofs.Persistence.Overwriting

/-!
# What is saved is found

A record of an application that is saved is found by its identifier, as it was saved,
except that it has the identifier and the times that saving gave it
(`save_then_find`). If it had no identifier, it is added as one record under a new one,
and both times are that of saving. If it has the identifier of a live record that was
saved some time before, no record is added, and the time of creation is that of the
first time.

Saving again writes nothing if the stored form would be the same up to the sign of
zeros. Then nothing is counted, and zeros are found with the signs that they had before;
everything else is found as it was saved.
-/

set_option autoImplicit false

namespace Docket

open Document (IsOnly HasId)

/-- A record of the application with the identifier and the times that it was saved with. -/
def Slot.renewed (id : RecordId) (created updated : Instant) (values : PlainValues) : PlainValues
  | .id => id.text
  | .createdAt => UnixTime.ofMillis created.millis
  | .updatedAt => UnixTime.ofMillis updated.millis
  | .deletedAt => values .deletedAt
  | .other field => values (.other field)

/-- What is read of a record that was saved. -/
def Slot.reread (id : RecordId) (created updated : Instant) (values : PlainValues) : StoredValues
  | .id => id
  | .createdAt => created.shown .millis
  | .updatedAt => updated.shown .millis
  | .deletedAt => none
  | .other field => values (.other field)

/-- What an application gets of what is read has the times in milliseconds. -/
theorem Slot.plainOf_reread (id : RecordId) (created updated : Instant) {values : PlainValues}
    (notDeleted : (values .deletedAt : Option Signed64) = none) :
    Slot.plainOf (Slot.reread id created updated values) =
      Slot.renewed id created updated values := by
  funext slot
  cases slot with
  | id => rfl
  | createdAt => exact congrArg UnixTime.ofMillis (created.millis_shown .millis)
  | updatedAt => exact congrArg UnixTime.ofMillis (updated.millis_shown .millis)
  | deletedAt => exact notDeleted.symm
  | other field => rfl

namespace Pairing

variable (pairing : Pairing) (place : Namespace)

/-- In a store the search by an identifier finds a record. -/
def Finds (store : MemoryStore) (id : RecordId) (values : PlainValues) : Prop :=
  ∀ world : World MemoryStore, world.store = store →
    (((pairing.repository place).findOne (Criteria.byId id)).run.run world).1 =
      .ok (pairing.plainRecord values)

variable {pairing place}

/-- A document has what is stored of a live record that was saved. -/
structure Shows (pairing : Pairing) (id : RecordId) (created updated : Instant)
    (values : PlainValues) (document : Document) : Prop where
  sorted : Document.Sorted document
  isLive : document.IsLive
  createdAt : Document.get? document FieldName.createdAt = some (.string created.stored)
  updatedAt : Document.get? document FieldName.updatedAt = some (.string updated.stored)
  others : ∀ field, .other field ∈ pairing.storedSlots →
    field.read document = .ok (values (.other field)) ∧
      ∃ json, field.Survives (values (.other field)) json

/-- **A record is found if the one document with its identifier shows it.** -/
theorem finds_of_shows {store : MemoryStore} {id : RecordId} {created updated : Instant}
    {values : PlainValues} {document : Document} (createdInYears : created.InFourDigitYear)
    (updatedInYears : updated.InFourDigitYear)
    (notDeleted : (values .deletedAt : Option Signed64) = none)
    (isOnly : IsOnly id (store.documents place) document)
    (shows : pairing.Shows id created updated values document) :
    pairing.Finds place store id (Slot.renewed id created updated values) := by
  rintro world rfl
  have hasId : HasId id document := by
    obtain ⟨_, _, _, hasId, _⟩ := isOnly
    exact hasId
  have decodes : (Access.inMemory pairing.model place).decode .findOne document =
      .ok (pairing.storedRecord (Slot.reread id created updated values)) := by
    refine decode_of_reads shows.sorted hasId rfl fun slot isSlot notId => ?_
    cases slot with
    | id => exact absurd rfl notId
    | createdAt => exact Slot.read_time shows.createdAt
    | updatedAt => exact Slot.read_time shows.updatedAt
    | deletedAt => exact Slot.read_deletedAt shows.isLive
    | other field => exact (shows.others field isSlot).1
  have readable : pairing.Readable (Slot.reread id created updated values) :=
    ⟨createdInYears.shown .millis, updatedInYears.shown .millis, rfl,
      fun field isSlot => (shows.others field isSlot).2⟩
  refine Repository.findOne_byId place none .default isOnly shows.isLive decodes ?_
  rw [← Slot.plainOf_reread id created updated notDeleted]
  exact congrArg Logged.value (copy_toEntity readable)

/-! ## Saving a record without an identifier -/

/-- **A record that is saved without an identifier is added and found.** -/
theorem finds_of_added {world : World MemoryStore} {values : PlainValues} {result : WriteResult}
    (savable : pairing.Savable .unassigned values) (inYears : world.now.InFourDigitYear)
    (answers : (((pairing.repository place).save (pairing.plainRecord values)).run.run world).1 =
      .ok result) :
    ∃ document, HasId world.ids.next document ∧ result = .inserted world.ids.next.text ∧
      (((pairing.repository place).save (pairing.plainRecord values)).run.run
          world).2.store.documents place = world.store.documents place ++ [document] ∧
      (∀ other : Namespace, other.text ≠ place.text →
        (((pairing.repository place).save (pairing.plainRecord values)).run.run
          world).2.store.collection other = world.store.collection other) ∧
      pairing.Finds place
        (((pairing.repository place).save (pairing.plainRecord values)).run.run world).2.store
        world.ids.next (Slot.renewed world.ids.next world.now world.now values) := by
  have converts := congrArg Logged.value (copy_toModel savable)
  obtain ⟨document, encoded, result, free, leaves⟩ := save_adds converts rfl answers
  have documents : (((pairing.repository place).save (pairing.plainRecord values)).run.run
      world).2.store.documents place = world.store.documents place ++ [document] := by
    rw [leaves, MemoryStore.documents, MemoryStore.collection_withCollection]
  have hasId : HasId world.ids.next document := by
    have key := Access.encode_primaryKey encoded
    rw [id_storedRecord] at key
    exact key
  have shows : pairing.Shows world.ids.next world.now world.now values document := by
    refine ⟨Access.encode_sorted pairing.lawful encoded, ?_, ?_, ?_, fun field isSlot => ?_⟩
    · obtain ⟨json, encodes, found⟩ :=
        get?_of_encode encoded pairing.hasDeletedAt (by simp) rfl
      obtain rfl : Json.null = json := Except.ok.inj encodes
      rw [Field.storedForm_null] at found
      exact .inr found
    · obtain ⟨json, encodes, found⟩ :=
        get?_of_encode encoded pairing.hasCreatedAt (by simp) rfl
      obtain rfl : Json.string world.now.text = json := Except.ok.inj encodes
      rw [Field.storedForm_text rfl inYears] at found
      exact found
    · obtain ⟨json, encodes, found⟩ :=
        get?_of_encode encoded pairing.hasUpdatedAt (by simp) rfl
      obtain rfl : Json.string world.now.text = json := Except.ok.inj encodes
      rw [Field.storedForm_text rfl inYears] at found
      exact found
    · obtain ⟨written, survives, reads⟩ := savable.stays field isSlot
      obtain ⟨json, encodes, found⟩ := get?_of_encode encoded isSlot (by simp) survives.kept
      obtain rfl : written = json := Except.ok.inj (survives.encodes.symm.trans encodes)
      exact ⟨(Field.read_of_get? found).trans reads, written, survives⟩
  refine ⟨document, hasId, result, documents, fun other differ => ?_,
    finds_of_shows inYears inYears savable.notDeleted ?_ shows⟩
  · rw [leaves]
    exact world.store.collection_withCollection_of_ne place differ _
  · rw [documents]
    exact Document.isOnly_append hasId free

/-! ## Saving a record with an identifier -/

section

variable {id : RecordId} {now : Instant} {values : PlainValues} {document target : Document}
  {operation : StoreOperation}
  (encoded : (Access.inMemory pairing.model place).encode operation
    (pairing.storedRecord fun slot => slot.updated now (Slot.storedOf id values slot)) =
      .ok document)

include encoded

/-- A field is written over a record, unless it has a role in which it is left alone. -/
theorem get?_overwritten (target : Document) {slot : Slot} (isSlot : slot ∈ pairing.storedSlots)
    (notId : slot ≠ .id) (notCreatedAt : slot ≠ .createdAt) (notDeletedAt : slot ≠ .deletedAt)
    (kept : slot.stored.codec.leftOut (slot.updated now (Slot.storedOf id values slot)) = false) :
    ∃ json, slot.stored.codec.encode (slot.updated now (Slot.storedOf id values slot)) =
        .ok json ∧
      Document.get? (Document.extend target (Access.writableFields document)) slot.stored.name =
        some (slot.stored.storedForm json) := by
  obtain ⟨json, encodes, found⟩ := get?_of_encode encoded isSlot notId kept
  have notKey : slot.name ≠ FieldName.primaryKey := pairing.unreserved slot isSlot
  have nameNotCreatedAt : slot.name ≠ FieldName.createdAt := fun sameName =>
    notCreatedAt (eq_of_name_eq isSlot pairing.hasCreatedAt sameName)
  have nameNotDeletedAt : slot.name ≠ FieldName.deletedAt := fun sameName =>
    notDeletedAt (eq_of_name_eq isSlot pairing.hasDeletedAt sameName)
  rw [← Access.get?_writableFields document notKey nameNotCreatedAt nameNotDeletedAt] at found
  have sorted := Access.sorted_writableFields (Access.encode_sorted pairing.lawful encoded)
  exact ⟨json, encodes, Document.get?_extend_of_lastFor (sorted.lastFor_iff.mpr found) target⟩

/-- A record that is written over has the time of writing. -/
theorem updatedAt_overwritten (target : Document) (inYears : now.InFourDigitYear) :
    Document.get? (Document.extend target (Access.writableFields document)) FieldName.updatedAt =
      some (.string now.stored) := by
  obtain ⟨json, encodes, found⟩ :=
    get?_overwritten encoded target pairing.hasUpdatedAt (by simp) (by simp) (by simp) rfl
  obtain rfl : Json.string now.text = json := Except.ok.inj encodes
  rw [Field.storedForm_text rfl inYears] at found
  exact found

/-- A value that lasts is written over a record in its stored form. -/
theorem other_overwritten (target : Document) {field : Field}
    (isSlot : .other field ∈ pairing.storedSlots) {json : Json}
    (survives : field.Survives (values (.other field)) json) :
    Document.get? (Document.extend target (Access.writableFields document)) field.name =
      some (field.storedForm json) := by
  obtain ⟨written, encodes, found⟩ :=
    get?_overwritten encoded target isSlot (by simp) (by simp) (by simp) survives.kept
  obtain rfl : json = written := Except.ok.inj (survives.encodes.symm.trans encodes)
  exact found

/-- **A live record that is written over shows what was saved.** -/
theorem shows_overwritten {created : Instant} (sorted : Document.Sorted target)
    (isLive : target.IsLive)
    (createdAt : Document.get? target FieldName.createdAt = some (.string created.stored))
    (savable : pairing.Savable id values) (inYears : now.InFourDigitYear) :
    pairing.Shows id created now values
      (Document.extend target (Access.writableFields document)) := by
  have harmless := Access.writableFields_harmless (Access.encode_sorted pairing.lawful encoded)
  refine ⟨sorted.extend _, ?_, (harmless.persists target).createdAt.trans createdAt,
    updatedAt_overwritten encoded target inYears, fun field isSlot => ?_⟩
  · obtain ⟨json, encodes, found⟩ := get?_of_encode encoded pairing.hasDeletedAt (by simp) rfl
    obtain rfl : Json.null = json := Except.ok.inj encodes
    rw [Field.storedForm_null] at found
    rw [Document.IsLive, Document.get?_extend_of_unnamed (Access.writableFields_undeleted found)]
    exact isLive
  · obtain ⟨json, survives, reads⟩ := savable.stays field isSlot
    exact ⟨(Field.read_of_get? (other_overwritten encoded target isSlot survives)).trans reads,
      json, survives⟩

/-- **A live record that would not be changed shows what was saved already**, up to the
sign of zeros. -/
theorem exists_shows_of_unchanged {created : Instant} (sorted : Document.Sorted target)
    (isLive : target.IsLive)
    (createdAt : Document.get? target FieldName.createdAt = some (.string created.stored))
    (savable : pairing.Savable id values) (inYears : now.InFourDigitYear)
    (lasts : ∀ field, .other field ∈ pairing.storedSlots →
      field.Lasts (values (.other field)))
    (unchanged : Document.same
      (Document.extend target (Access.writableFields document)) target = true) :
    ∃ found, pairing.Shows id created now found target ∧
      (found .deletedAt : Option Signed64) = none ∧
      ∀ field, .other field ∈ pairing.storedSlots →
        field.Alike (found (.other field)) (values (.other field)) := by
  have alike : ∀ {name : String} {json : Json},
      Document.get? (Document.extend target (Access.writableFields document)) name = some json →
        ∃ other, Document.get? target name = some other ∧ Json.same other json = true := by
    intro name json written
    have members := Document.same_get? unchanged name
    rw [written, Option.map_some] at members
    obtain ⟨other, found, equal⟩ := Option.map_eq_some_iff.mp members.symm
    exact ⟨other, found, Json.same_iff.mpr equal⟩
  have reads : ∀ field, ∃ value : field.Value, .other field ∈ pairing.storedSlots →
      field.Alike value (values (.other field)) ∧ field.read target = .ok value ∧
        ∃ json, field.Survives value json := by
    intro field
    by_cases isSlot : .other field ∈ pairing.storedSlots
    · obtain ⟨json, survives, _, steady⟩ := lasts field isSlot
      obtain ⟨other, found, same⟩ := alike (other_overwritten encoded target isSlot survives)
      obtain ⟨value, valueJson, decodes, valueSurvives, sameJson⟩ := steady other same
      exact ⟨value, fun _ =>
        ⟨⟨valueJson, json, valueSurvives.encodes, survives.encodes, sameJson⟩,
        (Field.read_of_get? found).trans decodes, valueJson, valueSurvives⟩⟩
    · exact ⟨values (.other field), fun impossible => absurd impossible isSlot⟩
  obtain ⟨value, reads⟩ := Classical.axiomOfChoice reads
  let found : PlainValues := fun slot => match slot with
    | .other field => value field
    | .id => values .id
    | .createdAt => values .createdAt
    | .updatedAt => values .updatedAt
    | .deletedAt => values .deletedAt
  refine ⟨found, ⟨sorted, isLive, createdAt, ?_, fun field isSlot => (reads field isSlot).2⟩,
    savable.notDeleted, fun field isSlot => (reads field isSlot).1⟩
  obtain ⟨other, stored, same⟩ := alike (updatedAt_overwritten encoded target inYears)
  rw [stored, Field.rigid_string _ same]

/-- What becomes of a live record that is saved again shows what was saved. If that
changed the record, it shows it as it was saved. -/
theorem exists_shows_of_rewritten {created : Instant} (sorted : Document.Sorted target)
    (isLive : target.IsLive)
    (createdAt : Document.get? target FieldName.createdAt = some (.string created.stored))
    (savable : pairing.Savable id values) (inYears : now.InFourDigitYear)
    (lasts : ∀ field, .other field ∈ pairing.storedSlots →
      field.Lasts (values (.other field))) :
    ∃ found, pairing.Shows id created now found
        (Collection.rewritten (Access.writableFields document) target) ∧
      (found .deletedAt : Option Signed64) = none ∧
      (Document.same (Document.extend target (Access.writableFields document)) target = false →
        found = values) ∧
      ∀ field, .other field ∈ pairing.storedSlots →
        field.Alike (found (.other field)) (values (.other field)) := by
  cases same : Document.same (Document.extend target (Access.writableFields document)) target with
  | true =>
      rw [Collection.rewritten_of_same same]
      obtain ⟨found, shows, notDeleted, alike⟩ :=
        exists_shows_of_unchanged encoded sorted isLive createdAt savable inYears lasts same
      exact ⟨found, shows, notDeleted, nofun, alike⟩
  | false =>
      rw [Collection.rewritten_of_changed same]
      have shows := shows_overwritten encoded sorted isLive createdAt savable inYears
      refine ⟨values, shows, savable.notDeleted, fun _ => rfl, fun field isSlot => ?_⟩
      obtain ⟨json, survives, _⟩ := savable.stays field isSlot
      exact ⟨json, json, survives.encodes, survives.encodes, Json.same_refl json⟩

end

/-- **Saving a record with the identifier of a stored one writes over that**, if it
succeeds. -/
theorem save_rewrites {world : World MemoryStore} {id : RecordId} {values : PlainValues}
    {target : Document} {result : WriteResult}
    (isOnly : IsOnly id (world.store.documents place) target)
    (assigned : id.isUnassigned = false) (savable : pairing.Savable id values)
    (answers : (((pairing.repository place).save (pairing.plainRecord values)).run.run world).1 =
      .ok result) :
    ∃ document, (Access.inMemory pairing.model place).encode .updateOne
        (pairing.storedRecord fun slot =>
          slot.updated world.now (Slot.storedOf id values slot)) = .ok document ∧
      result = ⟨if Document.same (Document.extend target (Access.writableFields document)) target
        then 0 else 1, [id.text]⟩ ∧
      IsOnly id ((((pairing.repository place).save (pairing.plainRecord values)).run.run
          world).2.store.documents place)
        (Collection.rewritten (Access.writableFields document) target) ∧
      ∀ other : Namespace, other.text ≠ place.text →
        (((pairing.repository place).save (pairing.plainRecord values)).run.run
          world).2.store.collection other = world.store.collection other := by
  have converts := congrArg Logged.value (copy_toModel savable)
  have isOld : (pairing.model.id (pairing.storedRecord (Slot.storedOf id values))).isUnassigned =
      false := by
    rw [id_storedRecord]
    exact assigned
  have saves := Repository.run_save_of_assigned place none .default world converts isOld
  rw [stampUpdated_storedRecord] at saves
  have sameId : pairing.model.id (pairing.storedRecord fun slot =>
      slot.updated world.now (Slot.storedOf id values slot)) = id := pairing.id_storedRecord _
  rw [sameId] at saves
  rw [repository, saves] at answers ⊢
  generalize ((Repository.inMemory place none .default :
      Repository MemoryStore pairing.model pairing.entity).converter.toModel
    (pairing.plainRecord values)).entries = reported at answers ⊢
  cases encoded : (Access.inMemory pairing.model place).encode .updateOne
      (pairing.storedRecord fun slot => slot.updated world.now (Slot.storedOf id values slot)) with
  | error failure =>
      rw [Access.updateById, encoded,
        Action.run_bind_of_error _ (Action.run_ofExcept _ _)] at answers
      cases answers
  | ok document =>
      obtain ⟨earlier, later, present, hasId, elsewhere⟩ := isOnly
      have isFirst : ∀ other ∈ earlier, ¬ HasId id other := fun other isEarlier =>
        elsewhere other (List.mem_append_left _ isEarlier)
      have there : (world.logged reported).store.documents place = earlier ++ target :: later :=
        present
      cases refusal : Collection.refusal? (world.store.collection place).indexes
          (Access.writableFields document) target (earlier ++ later) with
      | some collision =>
          have refused := Access.updateById_of_refused encoded there hasId isFirst refusal
          rw [refused.1] at answers
          cases answers
      | none =>
          obtain ⟨answer, leaves⟩ :=
            Access.updateById_of_free encoded there hasId isFirst refusal
          refine ⟨document, rfl, Except.ok.inj (answers.symm.trans answer), ?_,
            fun other differ => Access.updateById_elsewhere encoded id differ⟩
          rw [MemoryStore.documents, leaves]
          refine ⟨earlier, later, rfl, ?_, elsewhere⟩
          unfold Collection.rewritten
          split
          · exact hasId
          · exact (Document.get?_extend_of_unnamed (Access.writableFields_unkeyed document)
              target).trans hasId

/-- **A live record that is saved again is found, and no other is added.** -/
theorem finds_of_savedAgain {world : World MemoryStore} {id : RecordId} {created : Instant}
    {values : PlainValues} {target : Document} {result : WriteResult}
    (held : Document.Held id created (world.store.documents place) target)
    (isLive : target.IsLive) (assigned : id.isUnassigned = false)
    (savable : pairing.Savable id values)
    (lasts : ∀ field, .other field ∈ pairing.storedSlots →
      field.Lasts (values (.other field)))
    (createdInYears : created.InFourDigitYear) (inYears : world.now.InFourDigitYear)
    (answers : (((pairing.repository place).save (pairing.plainRecord values)).run.run world).1 =
      .ok result) :
    ((((pairing.repository place).save (pairing.plainRecord values)).run.run
        world).2.store.documents place).length = (world.store.documents place).length ∧
      (∀ other : Namespace, other.text ≠ place.text →
        (((pairing.repository place).save (pairing.plainRecord values)).run.run
          world).2.store.collection other = world.store.collection other) ∧
      ∃ found, pairing.Finds place
          (((pairing.repository place).save (pairing.plainRecord values)).run.run world).2.store
          id (Slot.renewed id created world.now found) ∧
        (result.count ≠ 0 → found = values) ∧
        ∀ field, .other field ∈ pairing.storedSlots →
          field.Alike (found (.other field)) (values (.other field)) := by
  have converts := congrArg Logged.value (copy_toModel savable)
  obtain ⟨document, encoded, rfl, isOnly, elsewhere⟩ :=
    save_rewrites held.isOnly assigned savable answers
  obtain ⟨found, shows, notDeleted, changed, alike⟩ := exists_shows_of_rewritten encoded
    held.sorted isLive held.createdAt savable inYears lasts
  refine ⟨length_save_of_assigned converts assigned, elsewhere, found,
    finds_of_shows createdInYears inYears notDeleted isOnly shows, fun counted => ?_, alike⟩
  refine changed (Bool.eq_false_iff.mpr fun same => counted ?_)
  exact if_pos same

/-- **What is saved is found.** A record without an identifier that is saved is added as
one record, and found by its new identifier with the time of saving as both times. A
record with the identifier of a live one that was saved some time before adds none, and
is found with the time of creation of that one. -/
theorem save_then_find (pairing : Pairing) (place : Namespace) :
    (∀ (world : World MemoryStore) (values : PlainValues) (result : WriteResult),
      pairing.Savable .unassigned values → world.now.InFourDigitYear →
        let ran := ((pairing.repository place).save (pairing.plainRecord values)).run.run world
        ran.1 = .ok result → ∃ id document, id ≠ .unassigned ∧ HasId id document ∧
          ran.2.store.documents place = world.store.documents place ++ [document] ∧
          (∀ other : Namespace, other.text ≠ place.text →
            ran.2.store.collection other = world.store.collection other) ∧
          result.count = 1 ∧ result.id? = some id.text ∧
          pairing.Finds place ran.2.store id (Slot.renewed id world.now world.now values)) ∧
    ∀ (world : World MemoryStore) (id : RecordId) (created : Instant) (values : PlainValues)
      (result : WriteResult), pairing.SavedSince place id created world →
      (∃ document ∈ world.store.documents place, HasId id document ∧ document.IsLive) →
      pairing.Savable id values →
      (∀ field, .other field ∈ pairing.storedSlots → field.Lasts (values (.other field))) →
      created.InFourDigitYear → world.now.InFourDigitYear →
        let ran := ((pairing.repository place).save (pairing.plainRecord values)).run.run world
        ran.1 = .ok result →
          (ran.2.store.documents place).length = (world.store.documents place).length ∧
          (∀ other : Namespace, other.text ≠ place.text →
            ran.2.store.collection other = world.store.collection other) ∧
          ∃ found, pairing.Finds place ran.2.store id
              (Slot.renewed id created world.now found) ∧
            (result.count ≠ 0 → found = values) ∧
            ∀ field, .other field ∈ pairing.storedSlots →
              field.Alike (found (.other field)) (values (.other field)) := by
  constructor
  · intro world values result savable inYears ran answers
    obtain ⟨document, hasId, rfl, documents, elsewhere, finds⟩ :=
      finds_of_added savable inYears answers
    exact ⟨world.ids.next, document, world.ids.assigned world.ids.taken, hasId, documents,
      elsewhere, rfl, rfl, finds⟩
  · rintro world id created values result since ⟨document, isStored, hasId, isLive⟩
      savable lasts createdInYears inYears ran answers
    obtain ⟨target, held⟩ := since.holds createdInYears
    obtain rfl := held.isOnly.eq_of_hasId isStored hasId
    exact finds_of_savedAgain held isLive since.isUnassigned_eq_false savable lasts createdInYears
      inYears answers

/-! ## Notes -/

open Specimen (noteTitle firstMinted plainNote)

/-- Stored notes and notes. -/
def notes : Pairing where
  storedName := "NoteModel"
  plainName := "Note"
  storedSlots := [.id, .other noteTitle, .createdAt, .updatedAt, .deletedAt]
  plainSlots := [.id, .other noteTitle, .createdAt, .updatedAt, .deletedAt]
  same _ := Iff.rfl
  storedDistinct := by decide
  plainDistinct := by decide
  hasId := by simp
  hasCreatedAt := by simp
  hasUpdatedAt := by simp
  hasDeletedAt := by simp
  unreserved := by decide
  writable := by
    intro field isSlot
    obtain rfl : field = noteTitle := by simpa using isSlot
    exact ⟨.string "", rfl⟩

example : notes.model.toRecordType = Specimen.noteModel.toRecordType := rfl

open Classical in
/-- A note with an identifier and a title, and with no times. -/
noncomputable def noteOf (id titled : String) : PlainValues
  | .id => id
  | .createdAt => (⟨.epoch⟩ : UnixTime)
  | .updatedAt => (⟨.epoch⟩ : UnixTime)
  | .deletedAt => (none : Option Signed64)
  | .other field =>
      if isTitle : field = noteTitle then cast (congrArg Field.Value isTitle.symm) titled
      else field.codec.blank

theorem noteOf_title (id titled : String) : noteOf id titled (.other noteTitle) = titled :=
  dif_pos rfl

theorem plainRecord_noteOf (id titled : String) :
    notes.plainRecord (noteOf id titled) = plainNote id titled ⟨.epoch⟩ := by
  have isTitle := noteOf_title id titled
  show (id, noteOf id titled (.other noteTitle), _) = _
  rw [isTitle]
  rfl

/-- A note with an identifier or without one can be saved. -/
theorem savable_noteOf {id : RecordId} {text : String} (isMeant : RecordId.IsMeantBy text id)
    (titled : String) : notes.Savable id (noteOf text titled) where
  isId := isMeant
  createdAt := by
    show (⟨.epoch⟩ : UnixTime).IsMillis ∧ (⟨.epoch⟩ : UnixTime).instant.InFourDigitYear
    decide
  updatedAt := by
    show (⟨.epoch⟩ : UnixTime).IsMillis ∧ (⟨.epoch⟩ : UnixTime).instant.InFourDigitYear
    decide
  notDeleted := rfl
  stays field isSlot := by
    obtain rfl : field = noteTitle := by simpa [notes] using isSlot
    exact (Field.lasts_text "title" _).stays

/-- What saving a first note leaves behind. -/
def afterFirst : World MemoryStore :=
  (((notes.repository ⟨"test", "notes"⟩).save
    (plainNote "" "first" ⟨.epoch⟩)).run.run Specimen.unused).2

/-- One second later. -/
def oneSecondLater : World MemoryStore :=
  { afterFirst with now := (UnixTime.ofMillis 1000).instant }

/-- The document of the first note. -/
def firstDocument : Document :=
  Specimen.noteDocument firstMinted "first" Specimen.epochText

/-- A note is saved and found, and saved again with another title and found with that. -/
theorem save_then_find_notes :
    notes.Finds ⟨"test", "notes"⟩ afterFirst.store firstMinted
        (Slot.renewed firstMinted .epoch .epoch (noteOf "" "first")) ∧
      notes.Finds ⟨"test", "notes"⟩
        (((notes.repository ⟨"test", "notes"⟩).save
          (plainNote firstMinted.text "second" ⟨.epoch⟩)).run.run oneSecondLater).2.store
        firstMinted
        (Slot.renewed firstMinted .epoch (UnixTime.ofMillis 1000).instant
          (noteOf firstMinted.text "second")) := by
  have firstAnswer : (((notes.repository ⟨"test", "notes"⟩).save
      (plainNote "" "first" ⟨.epoch⟩)).run.run Specimen.unused).1 =
        .ok ⟨1, [firstMinted.text]⟩ := by
    decide +kernel
  have added : afterFirst.store.documents ⟨"test", "notes"⟩ =
      Specimen.unused.store.documents ⟨"test", "notes"⟩ ++ [firstDocument] := by
    decide +kernel
  have secondAnswer : (((notes.repository ⟨"test", "notes"⟩).save
      (plainNote firstMinted.text "second" ⟨.epoch⟩)).run.run oneSecondLater).1 =
        .ok ⟨1, [firstMinted.text]⟩ := by
    decide +kernel
  have since : notes.SavedSince ⟨"test", "notes"⟩ firstMinted .epoch oneSecondLater :=
    .elsewhere (.saved rfl firstAnswer added rfl) rfl
  obtain ⟨adds, writesOver⟩ := save_then_find notes ⟨"test", "notes"⟩
  constructor
  · have saved := adds Specimen.unused (noteOf "" "first") ⟨1, [firstMinted.text]⟩
      (savable_noteOf (.inl ⟨rfl, rfl⟩) "first") (by decide)
    rw [plainRecord_noteOf] at saved
    obtain ⟨id, document, _, _, _, _, _, named, finds⟩ := saved firstAnswer
    obtain rfl : firstMinted = id := RecordId.eq_of_text_eq (Option.some.inj named)
    exact finds
  · have stored : firstDocument ∈ oneSecondLater.store.documents ⟨"test", "notes"⟩ := by
      have there : oneSecondLater.store.documents ⟨"test", "notes"⟩ = _ := added
      rw [there]
      exact List.mem_append_right _ (List.mem_singleton_self _)
    have lasts : ∀ field, .other field ∈ notes.storedSlots →
        field.Lasts (noteOf firstMinted.text "second" (.other field)) := by
      intro field isSlot
      obtain rfl : field = noteTitle := by simpa [notes] using isSlot
      exact Field.lasts_text "title" _
    have saved := writesOver oneSecondLater firstMinted .epoch (noteOf firstMinted.text "second")
      ⟨1, [firstMinted.text]⟩ since ⟨firstDocument, stored, rfl, .inr rfl⟩
      (savable_noteOf (.inr rfl) "second") lasts (by decide) (by decide)
    rw [plainRecord_noteOf] at saved
    obtain ⟨_, _, found, finds, isFound, _⟩ := saved secondAnswer
    obtain rfl := isFound (by decide)
    exact finds

end Pairing

end Docket
