import Docket.Proofs.Persistence.Encoding
import Docket.Proofs.Persistence.Ensures
import Docket.Proofs.Store.Contents
import Docket.Proofs.Store.Integrity
import Docket.Specimen.Notes

/-!
# Records are permanent

Any number of repositories work on one collection of a store in memory. Whatever
they are asked for, in whatever order and at whatever times, and whether it
succeeds or not, the records after it continue the records before it
(`records_continue`): none is lost, none gets another identifier or another time
of creation, none that was deleted comes back to life, and each that was added has
an identifier that is assigned and that no other record has.

There are only three ways to the store that write. Saving a new record inserts its
stored form, whose primary key was assigned before. Saving an old one writes the writable
fields of its stored form over the stored record, and removing writes a time of deletion.
The criteria play no part in this: they only choose the records that an update is about. So
a relation that can be followed along these ways (`Followed`) can be followed through every
request (`behind_follows`).

Both updates write nothing but harmless fields. So whatever can be followed along the
insertion of a document with an assigned identifier and along harmless updates (`Sustained`)
can be followed through the requests of any type (`behind_sustains`), and that records
continue is one of them.
-/

set_option autoImplicit false

namespace Docket

/-! ## The store -/

namespace MemoryStore

/-- An insertion of a document with an assigned identifier continues the records. -/
theorem insertMany_continues (store : MemoryStore) (place : Namespace) (source : IdSource)
    {document : Document} (assigned : document.Assigned) :
    Continues (store.documents place)
      ((store.insertMany place source [document]).store.documents place) := by
  rw [insertMany_documents]
  exact Collection.insertFrom_continues place _ _ source assigned

/-- An update that writes harmless fields continues the records. -/
theorem update_continues (store : MemoryStore) (place : Namespace) (operation : StoreOperation)
    (filter : Document) {fields : Document} (harmless : fields.Harmless) (many : Bool) :
    Continues (store.documents place)
      ((store.update place operation filter (Document.setting fields) many).1.documents
        place) := by
  rw [update_documents]
  exact .of_persists (Collection.updateFrom_persists harmless _ _ _ _)

end MemoryStore

/-! ## Access -/

/-- The records of a place in one world continue those in another. -/
def RecordsContinue (place : Namespace) (before after : World MemoryStore) : Prop :=
  Continues (before.store.documents place) (after.store.documents place)

open Docket.Action (Ensures Lasting)

/-- Access to the records of a place in a store in memory. -/
def Access.inMemory (model : ModelType) (place : Namespace) : Access MemoryStore model :=
  ⟨MemoryStore.backend, place⟩

/-- A relation between worlds that can be followed through everything but saving: it holds
along an update that marks documents as deleted. -/
structure Marked (place : Namespace) (relation : World MemoryStore → World MemoryStore → Prop) :
    Prop extends Lasting relation where
  marking : ∀ (before after : World MemoryStore) (filter : Document) (now : Instant),
    after.store = (before.store.update place .updateMany filter
        (Document.setting (Repository.deletion now)) true).1 →
      relation before after

/-- A relation between worlds that can be followed through all that is done with records of
a type at a place: it also holds along the insertion of the stored form of a record, and
along an update that writes the writable fields of a stored form. -/
structure Followed (model : ModelType) (place : Namespace)
    (relation : World MemoryStore → World MemoryStore → Prop) :
    Prop extends Marked place relation where
  insertion : ∀ (before after : World MemoryStore) {record : model.Value} {document : Document},
    model.id record ≠ .unassigned →
    (Access.inMemory model place).encode .insertOne record = .ok document →
    after.store = (before.store.insertMany place before.ids [document]).store →
      relation before after
  overwriting : ∀ (before after : World MemoryStore) (filter : Document) {record : model.Value}
    {document : Document}, (Access.inMemory model place).encode .updateOne record = .ok document →
    after.store = (before.store.update place .updateOne filter
        (Document.setting (Access.writableFields document)) false).1 →
      relation before after

/-- A relation between worlds that can be followed through all that is done at a place,
whatever the type of the records: it holds along the insertion of a document with an assigned
identifier, and along an update that writes harmless fields. -/
structure Sustained (place : Namespace)
    (relation : World MemoryStore → World MemoryStore → Prop) : Prop
    extends Lasting relation where
  insertion : ∀ (before after : World MemoryStore) {document : Document}, document.Assigned →
    Document.Sorted document →
    after.store = (before.store.insertMany place before.ids [document]).store →
      relation before after
  update : ∀ (before after : World MemoryStore) (operation : StoreOperation) (filter : Document)
    {fields : Document} (many : Bool), fields.Harmless →
    after.store =
        (before.store.update place operation filter (Document.setting fields) many).1 →
      relation before after

/-- What can be followed whatever the type can be followed for a lawful one. -/
theorem Sustained.followed {place : Namespace}
    {relation : World MemoryStore → World MemoryStore → Prop}
    (sustained : Sustained place relation)
    {model : ModelType} (lawful : model.Lawful) : Followed model place relation where
  toLasting := sustained.toLasting
  marking before after filter now :=
    sustained.update before after .updateMany filter true (Repository.deletion_harmless now)
  insertion before after record _ isAssigned encoded :=
    sustained.insertion before after
      ⟨model.id record, isAssigned, Access.encode_primaryKey encoded⟩
      (Access.encode_sorted lawful encoded)
  overwriting before after filter _ _ encoded :=
    sustained.update before after .updateOne filter false
      (Access.writableFields_harmless (Access.encode_sorted lawful encoded))

theorem recordsContinue_sustained (place : Namespace) :
    Sustained place (RecordsContinue place) where
  same := by
    intro before after equal
    rw [RecordsContinue, equal]
    exact .refl _
  trans := fun _ _ _ before after => before.trans after
  insertion := by
    intro before after document assigned _ equal
    rw [RecordsContinue, equal]
    exact before.store.insertMany_continues place before.ids assigned
  update := by
    intro before after operation filter fields many harmless equal
    rw [RecordsContinue, equal]
    exact before.store.update_continues place operation filter harmless many

namespace Access

variable {place : Namespace} {relation : World MemoryStore → World MemoryStore → Prop}
  {model : ModelType}

section

variable (lasting : Lasting relation)

include lasting

theorem report_ensures (message : String) (values : List (String × LogValue)) :
    Ensures relation (fun _ => True) ((inMemory model place).report message values) :=
  .report lasting _

/-- An identified record has an assigned identifier. -/
theorem identified_ensures (lawful : model.Lawful) (record : model.Value) :
    Ensures relation (fun identified => model.id identified ≠ .unassigned)
      (identified record : Action MemoryStore model.Value) := by
  unfold identified
  by_cases isUnassigned : (model.id record).isUnassigned = true
  · rw [if_pos isUnassigned]
    refine (Ensures.nextId lasting).bind lasting fun id isAssigned => .pure lasting ?_
    rw [lawful.id_setId]
    exact isAssigned
  · rw [if_neg isUnassigned]
    refine .pure lasting fun equal => isUnassigned ?_
    rw [equal]
    rfl

end

/-! ### Writes -/

/-- Inserting a record inserts its stored form, which has an assigned identifier. -/
theorem insert_ensures (followed : Followed model place relation) (lawful : model.Lawful)
    (record : model.Value) :
    Ensures relation (fun _ => True) ((inMemory model place).insert record) := by
  have lasting := followed.toLasting
  refine (identified_ensures lasting lawful record).bind lasting fun identified isAssigned => ?_
  have encodes : Ensures relation
      (fun document => (inMemory model place).encode .insertOne identified = .ok document)
      (Action.ofExcept ((inMemory model place).encode .insertOne identified)) :=
    .ofExcept lasting fun document encoded => encoded
  refine encodes.bind lasting fun document encoded => ?_
  refine (report_ensures lasting _ _).bind lasting fun _ _ => ?_
  have inserts : Ensures relation (fun _ => True)
      (Action.ofStore (MemoryStore.backend.insertOne place document)) := by
    refine .ofStore fun world => followed.insertion _ _ isAssigned encoded ?_
    exact congrArg (fun outcome => outcome.2.store)
      (StoreCall.run_insertOne place document ⟨world.store, world.ids⟩)
  exact inserts.bind lasting fun _ _ => .pure lasting trivial

/-- Writing a record over the one of an identifier writes the writable fields of its stored
form. -/
theorem updateById_ensures (followed : Followed model place relation) (id : RecordId)
    (record : model.Value) :
    Ensures relation (fun _ => True) ((inMemory model place).updateById id record) := by
  have lasting := followed.toLasting
  have encodes : Ensures relation
      (fun document => (inMemory model place).encode .updateOne record = .ok document)
      (Action.ofExcept ((inMemory model place).encode .updateOne record)) :=
    .ofExcept lasting fun document encoded => encoded
  refine encodes.bind lasting fun document encoded => ?_
  refine (report_ensures lasting _ _).bind lasting fun _ _ => ?_
  have updates : Ensures relation (fun _ => True)
      (Action.ofStore (MemoryStore.backend.updateOne place
        (Document.single FieldName.primaryKey id.toJson)
        (Document.setting (writableFields document)))) :=
    .ofStore fun _ => followed.overwriting _ _ _ encoded rfl
  exact updates.bind lasting fun _ _ => .pure lasting trivial

/-- Marking records as deleted writes their time of deletion. -/
theorem mark_ensures (marked : Marked place relation) (filter : Document) (now : Instant) :
    Ensures relation (fun _ => True)
      ((inMemory model place).updateMany filter (Repository.deletion now)) := by
  have lasting := marked.toLasting
  refine (report_ensures lasting _ _).bind lasting fun _ _ => ?_
  have updates : Ensures relation (fun _ => True)
      (Action.ofStore (MemoryStore.backend.updateMany place filter
        (Document.setting (Repository.deletion now)))) :=
    .ofStore fun _ => marked.marking _ _ filter now rfl
  exact updates.bind lasting fun _ _ => .pure lasting trivial

/-! ### Reads -/

/-- Reading the first document changes nothing. -/
theorem findOne_reads (filter : Document) (options : FindOptions)
    (state : StoreState MemoryStore) :
    ((MemoryStore.backend.findOne place filter options).run.run state).2 = state := by
  have reads : (MemoryStore.backend.find place filter (options.limited 1)).run.run state =
      (state.store.find place filter (options.limited 1), state) := rfl
  rw [Backend.findOne, run_bind, reads]
  cases state.store.find place filter (options.limited 1) <;> rfl

section

variable (lasting : Lasting relation)

include lasting

theorem read_ensures {α : Type} {action : StoreAction MemoryStore α}
    (reads : ∀ state, (action.run.run state).2 = state) :
    Ensures relation (fun _ => True) (Action.ofStore action) := by
  refine .ofStore fun world => lasting.same _ _ ?_
  rw [reads]

theorem find_ensures (filter : Document) :
    Ensures relation (fun _ => True) ((inMemory model place).find filter) := by
  refine (report_ensures lasting _ _).bind lasting fun _ _ => ?_
  exact (read_ensures lasting fun _ => rfl).bind lasting fun _ _ =>
    .ofExcept lasting fun _ _ => trivial

theorem findOne_ensures (filter : Document) :
    Ensures relation (fun _ => True) ((inMemory model place).findOne filter) := by
  refine (report_ensures lasting _ _).bind lasting fun _ _ => ?_
  refine (read_ensures lasting (findOne_reads filter newestFirst)).bind lasting fun found _ => ?_
  cases found with
  | none => exact .throw lasting _
  | some document => exact .ofExcept lasting fun _ _ => trivial

theorem paging_ensures (filter : Document) (request : PageRequest) :
    Ensures relation (fun _ => True) ((inMemory model place).paging filter request) := by
  refine (report_ensures lasting _ _).bind lasting fun _ _ => ?_
  refine (read_ensures lasting fun _ => rfl).bind lasting fun documents _ => ?_
  have decodes : Ensures relation (fun _ => True)
      (Action.ofExcept ((inMemory model place).decodeAll .find documents)) :=
    .ofExcept lasting fun _ _ => trivial
  refine decodes.bind lasting fun _ _ => ?_
  exact (read_ensures lasting fun _ => rfl).bind lasting fun _ _ => .pure lasting trivial

end

end Access

/-! ## Repositories -/

/-- A repository on a store in memory, of a lawful type: what it converts to, by which
converter if one is given, and how it copies. -/
structure Client where
  model : ModelType
  lawful : model.Lawful
  entity : RecordType
  custom : Option (ModelConverter model.toRecordType entity)
  copier : Copier

/-- What a repository can be asked for. -/
inductive Operation (entity : RecordType) where
  | save (record : entity.Value)
  | remove (criteria : Criteria)
  | find (criteria : Criteria)
  | findOne (criteria : Criteria)
  | paging (criteria : Criteria) (request : PageRequest)
  | exist (criteria : Criteria)

/-- A client asks for an operation at some time. -/
structure Request where
  client : Client
  operation : Operation client.entity
  now : Instant

namespace Client

/-- The repository of a client at a place. -/
def repository (client : Client) (place : Namespace) :
    Repository MemoryStore client.model client.entity :=
  ⟨Access.inMemory client.model place, client.custom, client.copier⟩

variable (client : Client) {place : Namespace}
  {relation : World MemoryStore → World MemoryStore → Prop}

/-- Saving a record writes its stored form, or that of what it is stamped with. -/
theorem save_ensures (followed : Followed client.model place relation)
    (record : client.entity.Value) :
    Ensures relation (fun _ => True) ((client.repository place).save record) := by
  have lasting := followed.toLasting
  refine (Ensures.ofConversion lasting _).bind lasting fun stored _ => ?_
  refine (Ensures.clock lasting).bind lasting fun now _ => ?_
  by_cases isUnassigned : (client.model.id stored).isUnassigned = true
  · rw [if_pos isUnassigned]
    exact (Ensures.nextId lasting).bind lasting fun id _ =>
      Access.insert_ensures followed client.lawful _
  · rw [if_neg isUnassigned]
    exact Access.updateById_ensures followed _ _

theorem filter_ensures (lasting : Lasting relation) (criteria : Criteria) :
    Ensures relation (fun _ => True) (Repository.filter criteria : Action MemoryStore Document) :=
  .ofExcept lasting fun _ _ => trivial

theorem remove_ensures (marked : Marked place relation) (criteria : Criteria) :
    Ensures relation (fun _ => True) ((client.repository place).remove criteria) := by
  have lasting := marked.toLasting
  refine (filter_ensures lasting criteria).bind lasting fun filter _ => ?_
  refine (Ensures.clock lasting).bind lasting fun now _ => ?_
  exact Access.mark_ensures marked filter now

section

variable (lasting : Lasting relation)

include lasting

theorem find_ensures (criteria : Criteria) :
    Ensures relation (fun _ => True) ((client.repository place).find criteria) := by
  refine (filter_ensures lasting criteria).bind lasting fun filter _ => ?_
  exact (Access.find_ensures lasting filter).bind lasting fun _ _ => .ofConversion lasting _

theorem findOne_ensures (criteria : Criteria) :
    Ensures relation (fun _ => True) ((client.repository place).findOne criteria) := by
  refine (filter_ensures lasting criteria).bind lasting fun filter _ => ?_
  exact (Access.findOne_ensures lasting filter).bind lasting fun _ _ => .ofConversion lasting _

theorem paging_ensures (criteria : Criteria) (request : PageRequest) :
    Ensures relation (fun _ => True)
      ((client.repository place).paging criteria request) := by
  refine (filter_ensures lasting criteria).bind lasting fun filter _ => ?_
  refine (Access.paging_ensures lasting filter request).bind lasting fun page _ => ?_
  exact (Ensures.ofConversion lasting _).bind lasting fun _ _ => .pure lasting trivial

theorem exist_ensures (criteria : Criteria) :
    Ensures relation (fun _ => True) ((client.repository place).exist criteria) := by
  refine (client.findOne_ensures lasting criteria).attempt.bind lasting fun outcome _ => ?_
  cases outcome with
  | ok record => exact .pure lasting trivial
  | error failure =>
      dsimp only
      by_cases notFound : failure.isNotFound = true
      · rw [if_pos notFound]
        exact .pure lasting trivial
      · rw [if_neg notFound]
        exact (Ensures.report lasting _).bind lasting fun _ _ => .pure lasting trivial

end

end Client

/-! ## Runs -/

namespace Request

/-- The world after a request, whether it succeeds or fails. -/
def behind (place : Namespace) (request : Request) (world : World MemoryStore) :
    World MemoryStore :=
  let repository := request.client.repository place
  let world := { world with now := request.now }
  match request.operation with
  | .save record => ((repository.save record).run.run world).2
  | .remove criteria => ((repository.remove criteria).run.run world).2
  | .find criteria => ((repository.find criteria).run.run world).2
  | .findOne criteria => ((repository.findOne criteria).run.run world).2
  | .paging criteria request => ((repository.paging criteria request).run.run world).2
  | .exist criteria => ((repository.exist criteria).run.run world).2

/-- The world after requests, one after another. -/
def after (place : Namespace) (requests : List Request) (world : World MemoryStore) :
    World MemoryStore :=
  requests.foldl (fun world request => request.behind place world) world

variable {place : Namespace} {relation : World MemoryStore → World MemoryStore → Prop}

/-- What can be followed through saving, and through everything else, can be followed through
a request. -/
theorem behind_ensures (marked : Marked place relation) (request : Request)
    (saves : ∀ record, Ensures relation (fun _ => True)
      ((request.client.repository place).save record))
    (world : World MemoryStore) : relation world (request.behind place world) := by
  have lasting := marked.toLasting
  obtain ⟨client, operation, now⟩ := request
  refine lasting.trans _ _ _ (lasting.same world { world with now } rfl) ?_
  cases operation with
  | save record => exact (saves record _).1
  | remove criteria => exact (client.remove_ensures marked criteria _).1
  | find criteria => exact (client.find_ensures lasting criteria _).1
  | findOne criteria => exact (client.findOne_ensures lasting criteria _).1
  | paging criteria request => exact (client.paging_ensures lasting criteria request _).1
  | exist criteria => exact (client.exist_ensures lasting criteria _).1

/-- **What can be followed for a type of records can be followed through a request of a
client with this type.** -/
theorem behind_follows (request : Request)
    (followed : Followed request.client.model place relation) (world : World MemoryStore) :
    relation world (request.behind place world) :=
  behind_ensures followed.toMarked request (request.client.save_ensures followed) world

/-- **What can be followed through a place can be followed through a request.** -/
theorem behind_sustains (sustained : Sustained place relation) (request : Request)
    (world : World MemoryStore) : relation world (request.behind place world) :=
  behind_follows request (sustained.followed request.client.lawful) world

/-- The records after a request continue those before it. -/
theorem behind_continues (place : Namespace) (request : Request) (world : World MemoryStore) :
    RecordsContinue place world (request.behind place world) :=
  behind_sustains (recordsContinue_sustained place) request world

/-- **Records are permanent.** After any requests of any clients to one collection
there are as many records as before or more, and they continue the records before. -/
theorem records_continue (place : Namespace) (requests : List Request)
    (world : World MemoryStore) :
    (world.store.documents place).length ≤
        ((after place requests world).store.documents place).length ∧
      Continues (world.store.documents place)
        ((after place requests world).store.documents place) := by
  have continues : Continues (world.store.documents place)
      ((after place requests world).store.documents place) := by
    induction requests generalizing world with
    | nil => exact .refl _
    | cons request rest ih => exact (behind_continues place request world).trans (ih _)
  exact ⟨continues.length_le, continues⟩

/-- A client that keeps notes. -/
def noteClient : Client where
  model := Specimen.noteModel
  lawful :=
    { id_setId := fun _ _ => rfl
      sorted := fun record _ encoded =>
        RecordType.ofFields_sorted "NoteModel" Specimen.noteFields record encoded }
  entity := Specimen.note
  custom := some Specimen.shouting
  copier := .default

/-- A note is saved, and then every note is removed. -/
def savedAndRemoved : List Request :=
  [⟨noteClient, .save Specimen.note.blank, .epoch⟩, ⟨noteClient, .remove .all, .epoch⟩]

/-- The note is still there after it was removed. -/
theorem records_continue_savedAndRemoved :
    ((after ⟨"test", "notes"⟩ savedAndRemoved Specimen.unused).store.documents
        ⟨"test", "notes"⟩).length = 1 ∧
      Continues (MemoryStore.empty.documents ⟨"test", "notes"⟩)
        ((after ⟨"test", "notes"⟩ savedAndRemoved
          Specimen.unused).store.documents ⟨"test", "notes"⟩) :=
  ⟨by decide +kernel, (records_continue ⟨"test", "notes"⟩ savedAndRemoved _).2⟩

end Request

end Docket
