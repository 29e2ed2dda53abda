import Docket.Proofs.Conversion.BestEffort
import Docket.Proofs.Persistence.Pages
import Docket.Proofs.Persistence.Soundness

/-!
# Stored records stay readable

One document that cannot be read makes every read of its collection fail. So what is stored
has to be readable at any time, whatever was asked for before and whether that succeeded.

The documents of a collection stay sound through all requests, so they are read as records.
These are converted too: a copier that passes over what does not convert fails only if one of
the two records is not written as an object, or if the blank record cannot be read back. If
one of the types is never written as an object, no record is ever converted, and nothing is
ever stored (`documents_after_of_refused`). Either way all that is stored can be read
(`canRead_after`), and reads succeed whenever their filter can be evaluated
(`stored_records_readable`).
-/

set_option autoImplicit false

namespace Docket

/-! ## Reads -/

/-- A stored document is read as a record that is converted. -/
def Client.CanRead (client : Client) (place : Namespace) (document : Document) : Prop :=
  ∃ record,
    (∀ operation, (Access.inMemory client.model place).decode operation document = .ok record) ∧
      ∃ result, ((client.repository place).converter.toEntity record).value = .ok result

namespace Client

variable {client : Client} {place : Namespace} {world : World MemoryStore}

/-- Stored documents that can be read are read and converted together. -/
theorem exists_read {documents : List Document} {operation : StoreOperation}
    (canRead : ∀ document ∈ documents, client.CanRead place document) :
    ∃ records results,
      (Access.inMemory client.model place).decodeAll operation documents = .ok records ∧
        ((client.repository place).converter.toEntities records).value = .ok results := by
  obtain ⟨records, decoded⟩ : ∃ records,
      (Access.inMemory client.model place).decodeAll operation documents = .ok records := by
    refine Access.exists_decodeAll fun document isDocument => ?_
    obtain ⟨record, decodes, _⟩ := canRead document isDocument
    exact ⟨record, decodes operation⟩
  have converts : ∀ record ∈ records,
      ∃ result, ((client.repository place).converter.toEntity record).value = .ok result := by
    intro record isRecord
    obtain ⟨document, isDocument, decodedHere⟩ :=
      exists_of_mem_right (Access.decodeAll_eq_ok_iff.mp decoded) isRecord
    obtain ⟨other, decodes, converted⟩ := canRead document isDocument
    obtain rfl := Except.ok.inj ((decodes operation).symm.trans decodedHere)
    exact converted
  obtain ⟨results, converted⟩ := ModelConverter.exists_all converts
  exact ⟨records, results, decoded, converted⟩

section

variable (canRead : ∀ document ∈ world.store.documents place, client.CanRead place document)
  {filter : Document} (evaluates : world.store.Evaluates place filter) {criteria : Criteria}
  (built : criteria.build = .ok filter)

include canRead evaluates

/-- What a read finds is read and converted. -/
theorem exists_found (options : FindOptions) (operation : StoreOperation) :
    ∃ found records results, world.store.find place filter options = .ok found ∧
      (Access.inMemory client.model place).decodeAll operation found = .ok records ∧
        ((client.repository place).converter.toEntities records).value = .ok results := by
  obtain ⟨found, isFound, stored⟩ := MemoryStore.exists_find evaluates options
  obtain ⟨records, results, decoded, converted⟩ := exists_read fun document isDocument =>
    canRead document (stored document isDocument)
  exact ⟨found, records, results, isFound, decoded, converted⟩

include built

theorem exists_answer_find :
    ∃ results, (((client.repository place).find criteria).run.run world).1 = .ok results := by
  obtain ⟨found, records, results, isFound, decoded, converted⟩ :=
    exists_found canRead evaluates Access.newestFirst .find
  have read : (((Access.inMemory client.model place).find filter).run.run world).1 =
      .ok records := by
    rw [Access.run_find, isFound]
    exact decoded
  refine ⟨results, ?_⟩
  show (((Repository.inMemory place client.custom client.copier).find criteria).run.run
    world).1 = _
  rw [Repository.run_find place client.custom client.copier world built,
    Action.run_bind_of_ok world (Action.run_eq_of_answer world read), Action.run_ofConversion]
  exact congrArg (Except.mapError Failure.conversion) converted

/-- Reading one record answers with a record, unless there is none. -/
theorem answer_findOne :
    (∃ result, (((client.repository place).findOne criteria).run.run world).1 = .ok result) ∨
      (((client.repository place).findOne criteria).run.run world).1 =
        .error (.store (.notFound place.text)) := by
  obtain ⟨found, isFound, stored⟩ :=
    MemoryStore.exists_find evaluates (Access.newestFirst.limited 1)
  have read : (((Access.inMemory client.model place).findOne filter).run.run world).1 =
      Access.decodeFirst place found := by
    rw [Access.run_findOne, isFound]
    rfl
  have ran := Repository.run_findOne place client.custom client.copier world built
  cases found with
  | nil =>
      refine .inr ?_
      show (((Repository.inMemory place client.custom client.copier).findOne criteria).run.run
        world).1 = _
      rw [ran, Action.run_bind_of_error world (Action.run_eq_of_answer world read)]
  | cons document rest =>
      obtain ⟨record, decodes, result, converted⟩ :=
        canRead document (stored _ List.mem_cons_self)
      have isRecord : Access.decodeFirst place (document :: rest) = .ok record := decodes .findOne
      refine .inl ⟨result, ?_⟩
      show (((Repository.inMemory place client.custom client.copier).findOne criteria).run.run
        world).1 = _
      rw [ran, Action.run_bind_of_ok world (Action.run_eq_of_answer world (read.trans isRecord)),
        Action.run_ofConversion]
      exact congrArg (Except.mapError Failure.conversion) converted

theorem exists_answer_paging (request : PageRequest) :
    ∃ page, (((client.repository place).paging criteria request).run.run world).1 = .ok page := by
  obtain ⟨found, records, results, isFound, decoded, converted⟩ :=
    exists_found canRead evaluates (Access.pageOptions request) .find
  have read : (((Access.inMemory client.model place).paging filter request).run.run world).1 =
      .ok (records, saturated (world.store.matching place filter).length) := by
    rw [Access.run_paging, isFound, MemoryStore.count_eq evaluates]
    show ((Access.inMemory client.model place).decodeAll .find found).bind _ = _
    rw [decoded]
    rfl
  refine ⟨(results, saturated (world.store.matching place filter).length), ?_⟩
  show (((Repository.inMemory place client.custom client.copier).paging criteria request).run.run
    world).1 = _
  rw [Repository.run_paging place client.custom client.copier world built,
    Action.run_bind_of_ok world (Action.run_eq_of_answer world read), run_bind,
    Action.run_ofConversion]
  dsimp only
  have ok : Except.mapError Failure.conversion
      ((Repository.inMemory place client.custom client.copier).converter.toEntities
          records).value =
        .ok results := congrArg (Except.mapError Failure.conversion) converted
  rw [ok]
  rfl

end

end Client

/-! ## Runs -/

/-- What every request of some leaves true is true after them. -/
theorem Request.after_of_behind {place : Namespace} {holds : World MemoryStore → Prop}
    {requests : List Request}
    (keeps : ∀ request ∈ requests, ∀ world, holds world →
      holds (request.behind place world))
    {world : World MemoryStore} (atFirst : holds world) :
    holds (Request.after place requests world) := by
  induction requests generalizing world with
  | nil => exact atFirst
  | cons request rest ih =>
      obtain ⟨here, behind⟩ := List.forall_mem_cons.mp keeps
      exact ih behind (here world atFirst)

/-- A place without documents can be followed through a removal. -/
theorem empty_marked (place : Namespace) :
    Marked place fun before after =>
      before.store.documents place = [] → after.store.documents place = [] where
  same before after equal isEmpty := by rw [equal, isEmpty]
  trans _ _ _ first second isEmpty := second (first isEmpty)
  marking before after filter now equal isEmpty := by
    rw [equal, MemoryStore.update_documents, MemoryStore.updating, isEmpty]
    rfl

namespace Client

open Docket.Action (Ensures Lasting)

/-- The types of a client are dependable: of what is stored, nothing is poison. -/
inductive Dependable (model : ModelType) (entity : RecordType) : Prop
  /-- The stored type is that of a reliable schema, and the blank record of the other type
  comes back from being written. -/
  | records (schema : Schema) (isModel : model = schema.model) (reliable : schema.Reliable)
      (blank : entity.BlankReturns)
  /-- The blank stored record is not written as an object. -/
  | bareModel (bare : ∀ members, model.encode model.blank ≠ .ok (.object members))
  /-- No record of the other type is written as an object. -/
  | bareEntity (bare : entity.IsBare)

variable {client : Client} {place : Namespace}

/-- A client that copies converts by copying. -/
theorem converter_eq (noConverter : client.custom = none) :
    (client.repository place).converter =
      .ofCopier client.copier client.model.toRecordType client.entity := by
  show client.custom.getD _ = _
  rw [noConverter]
  rfl

/-- Saving what is not converted does nothing. -/
theorem save_ensures_of_refused {relation : World MemoryStore → World MemoryStore → Prop}
    (lasting : Lasting relation)
    (refused : ∀ record, ∃ error,
      ((client.repository place).converter.toModel record).value = .error error)
    (record : client.entity.Value) :
    Ensures relation (fun _ => True) ((client.repository place).save record) := by
  obtain ⟨error, failed⟩ := refused record
  have fails : Ensures relation (fun _ => False)
      (Action.ofConversion ((client.repository place).converter.toModel record)) := by
    refine fun world => ⟨lasting.same world _ rfl, fun value converted => ?_⟩
    rw [Action.run_ofConversion, failed] at converted
    cases converted
  exact fails.bind lasting fun _ impossible => impossible.elim

/-- Where nothing is converted, nothing is stored. -/
theorem documents_after_of_refused
    (refused : ∀ record, ∃ error,
      ((client.repository place).converter.toModel record).value = .error error)
    {requests : List Request} (own : ∀ request ∈ requests, request.client = client)
    {world : World MemoryStore} (isEmpty : world.store.documents place = []) :
    (Request.after place requests world).store.documents place = [] := by
  have keeps : ∀ request ∈ requests, ∀ world : World MemoryStore,
      world.store.documents place = [] →
        (request.behind place world).store.documents place = [] := by
    intro request isRequest world
    obtain rfl := own request isRequest
    have marked := empty_marked place
    exact Request.behind_ensures marked request
      (save_ensures_of_refused marked.toLasting refused) world
  exact Request.after_of_behind keeps isEmpty

/-- A sound document can be read by a client that copies by best effort. -/
theorem canRead_of_sound (noConverter : client.custom = none)
    (effort : client.copier.policy = .bestEffort) {schema : Schema}
    (isModel : client.model = schema.model) (reliable : schema.Reliable)
    (blank : client.entity.BlankReturns) {document : Document} (sound : schema.Sound document) :
    client.CanRead place document := by
  obtain ⟨model, lawful, entity, custom, copier⟩ := client
  subst isModel
  obtain ⟨record, decodes⟩ := sound.decodes reliable (Access.inMemory schema.model place)
  obtain ⟨given, isGiven⟩ := Schema.exists_written reliable record
  obtain ⟨base, isBase, reads⟩ := blank
  refine ⟨record, decodes, ?_⟩
  rw [converter_eq noConverter]
  exact Copier.exists_copyInto effort isGiven isBase reads

/-- After requests of a client with the records of a reliable schema, all documents are sound. -/
theorem allSound_after {schema : Schema} (isModel : client.model = schema.model)
    (reliable : schema.Reliable) {requests : List Request}
    (own : ∀ request ∈ requests, request.client = client) {world : World MemoryStore}
    (sound : schema.AllSound place world) :
    schema.AllSound place (Request.after place requests world) := by
  refine Request.after_of_behind (fun request isRequest world => ?_) sound
  have followed := Schema.allSound_followed reliable place
  rw [← isModel, ← own request isRequest] at followed
  exact Request.behind_follows request followed world

/-- **All that a client with dependable types has ever stored can be read.** -/
theorem canRead_after (noConverter : client.custom = none) (copies : client.copier = .default)
    (dependable : Dependable client.model client.entity) {requests : List Request}
    (own : ∀ request ∈ requests, request.client = client) {world : World MemoryStore}
    (isEmpty : world.store.documents place = []) :
    ∀ document ∈ (Request.after place requests world).store.documents place,
      client.CanRead place document := by
  have nothing : (client.entity.IsBare ∨
      ∀ members, client.model.encode client.model.blank ≠ .ok (.object members)) →
        (Request.after place requests world).store.documents place = [] := by
    refine fun bare => documents_after_of_refused (fun record => ?_) own isEmpty
    rw [converter_eq noConverter]
    exact Copier.exists_copy_error bare record
  cases dependable with
  | bareModel bare =>
      rw [nothing (.inr bare)]
      exact List.forall_mem_nil _
  | bareEntity bare =>
      rw [nothing (.inl bare)]
      exact List.forall_mem_nil _
  | records schema isModel reliable blank =>
      have effort : client.copier.policy = .bestEffort := congrArg Copier.policy copies
      have atFirst : schema.AllSound place world := by
        rw [Schema.AllSound, isEmpty]
        exact List.forall_mem_nil _
      intro document isStored
      exact canRead_of_sound noConverter effort isModel reliable blank
        (allSound_after isModel reliable own atFirst document isStored)

/-- **Stored records stay readable.** After any requests of a client that copies by default
and has dependable types, to a place that was empty, every stored document is read as a
record. Reads by criteria whose filter can be evaluated succeed; only a search for one record
may fail, because there is none. -/
theorem stored_records_readable (client : Client) (noConverter : client.custom = none)
    (copies : client.copier = .default) (dependable : Dependable client.model client.entity)
    (place : Namespace) (requests : List Request)
    (own : ∀ request ∈ requests, request.client = client) (world : World MemoryStore)
    (isEmpty : world.store.documents place = []) :
    let repository := client.repository place
    let after := Request.after place requests world
    (∀ document ∈ after.store.documents place, ∃ record, ∀ operation,
      repository.access.decode operation document = .ok record) ∧
    ∀ criteria filter, criteria.build = .ok filter → after.store.Evaluates place filter →
      (∃ results, ((repository.find criteria).run.run after).1 = .ok results) ∧
        ((∃ result, ((repository.findOne criteria).run.run after).1 = .ok result) ∨
          ((repository.findOne criteria).run.run after).1 =
            .error (.store (.notFound place.text))) ∧
        ∀ request, ∃ page, ((repository.paging criteria request).run.run after).1 =
          .ok page := by
  have canRead := canRead_after noConverter copies dependable own isEmpty
  refine ⟨fun document isStored => ?_, fun criteria filter built evaluates => ?_⟩
  · obtain ⟨record, decodes, _⟩ := canRead document isStored
    exact ⟨record, decodes⟩
  · exact ⟨exists_answer_find canRead evaluates built, answer_findOne canRead evaluates built,
      exists_answer_paging canRead evaluates built⟩

/-! ## Notes -/

/-- Notes are reliable. -/
theorem reliable_notes : Schema.notes.Reliable where
  returns := Schema.return_notes
  deletion column isColumn isName := by
    cases column with
    | time time => exact ⟨time, rfl⟩
    | id id => exact absurd isName (show FieldName.identifier ≠ FieldName.deletedAt by decide)
    | other field =>
        obtain rfl := Schema.eq_noteTitle isColumn
        exact absurd isName (show Specimen.noteTitle.name ≠ FieldName.deletedAt by decide)
  keyMayBeMissing column isColumn isKey := by
    have unreserved : ∀ column ∈ Schema.notes.columns,
        column.name ≠ FieldName.primaryKey := by
      decide
    exact absurd isKey (unreserved column isColumn)

/-- A client that keeps notes and converts them by copying. -/
def copyingNotes : Client where
  model := Specimen.noteModel
  lawful := Schema.notes.lawful
  entity := Specimen.note
  custom := none
  copier := .default

theorem dependable_copyingNotes :
    Dependable copyingNotes.model copyingNotes.entity :=
  .records Schema.notes Schema.model_notes.symm reliable_notes ⟨_, rfl, _, rfl⟩

/-- A note is saved, every note is removed, and another one is saved. -/
def twoNotes : List Request :=
  [ ⟨copyingNotes, .save Specimen.note.blank, .epoch⟩, ⟨copyingNotes, .remove .all, .epoch⟩,
    ⟨copyingNotes, .save Specimen.note.blank, .epoch⟩ ]

theorem stored_records_readable_twoNotes :
    let place : Namespace := ⟨"test", "notes"⟩
    let after := Request.after place twoNotes Specimen.unused
    (after.store.documents place).length = 2 ∧
      (∀ document ∈ after.store.documents place, ∃ record, ∀ operation,
        (copyingNotes.repository place).access.decode operation document = .ok record) ∧
      ∃ results, (((copyingNotes.repository place).find .all).run.run after).1 = .ok results := by
  intro place after
  have own : ∀ request ∈ twoNotes, request.client = copyingNotes := by
    rw [twoNotes, List.forall_mem_cons, List.forall_mem_cons, List.forall_mem_cons]
    exact ⟨rfl, rfl, rfl, List.forall_mem_nil _⟩
  obtain ⟨decodes, reads⟩ :=
    stored_records_readable copyingNotes rfl rfl dependable_copyingNotes place twoNotes own
      Specimen.unused rfl
  have found := (reads .all Document.live rfl (after.store.evaluates_live place)).1
  refine ⟨?_, decodes, found⟩
  decide +kernel

end Client

end Docket
