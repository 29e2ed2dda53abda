import Docket.Proofs.Criteria.Isolation
import Docket.Proofs.Persistence.Pages
import Docket.Proofs.Persistence.Removal

/-!
# Deleted records are isolated

A read asks the store once or twice, and what it answers depends on nothing else
(`readsAlike_of_found`). So to know what reads answer it is enough to know what the store
finds and counts. For criteria that do not target deleted records, this is the same as if
the deleted documents were not there, since the filter accepts none of them
(`matching_filter_isLive`).

There is one way in which a deleted document can be noticed. The filter is evaluated on it,
and if this fails, then so does the read. Such a read finds nothing at all
(`readsFail_of_not_evaluates`).

A removal marks what the filter accepts. It leaves every deleted document as it was, also
if it fails, and so the time of deletion is never overwritten (`deleted_isolated`).
-/

set_option autoImplicit false

namespace Docket

namespace Action

variable {σ α β : Type}

/-- An operation answers alike in two worlds if its first step does and the second one does
not look at the world. -/
theorem answers_alike {action : Action σ α} {next : α → Action σ β} {world other : World σ}
    (same : (action.run.run world).1 = (action.run.run other).1)
    (steady : ∀ value behind behindOther,
      ((next value).run.run behind).1 = ((next value).run.run behindOther).1) :
    ((action >>= next).run.run world).1 = ((action >>= next).run.run other).1 := by
  rw [run_bind, run_bind]
  rcases ran : action.run.run world with ⟨_ | value, behind⟩ <;>
    rcases ranOther : action.run.run other with ⟨_ | otherValue, behindOther⟩ <;>
    rw [ran, ranOther] at same
  · exact congrArg Except.error (Except.error.inj same)
  · cases same
  · cases same
  · obtain rfl := Except.ok.inj same
    exact steady value behind behindOther

/-- An operation fails if its first step does. -/
theorem answer_bind_of_error {action : Action σ α} {next : α → Action σ β} {world : World σ}
    {failure : Failure} (failed : (action.run.run world).1 = .error failure) :
    ((action >>= next).run.run world).1 = .error failure := by
  rw [run_bind_of_error world (run_eq_of_answer world failed)]

end Action

/-! ## What the store finds -/

namespace MemoryStore

variable {store : MemoryStore} {place : Namespace} {filter : Document}

/-- A store shows the live documents of another one. -/
def ShowsLive (shown store : MemoryStore) (place : Namespace) : Prop :=
  shown.documents place = (store.documents place).filter fun document => document.IsLive

variable {shown : MemoryStore} (shows : shown.ShowsLive store place)
  (evaluates : store.Evaluates place filter)

include shows evaluates

theorem evaluates_of_showsLive : shown.Evaluates place filter := by
  intro document isShown
  rw [shows] at isShown
  exact evaluates document (List.mem_of_mem_filter isShown)

variable (asks : Document.get? filter FieldName.deletedAt = some .null)

include asks

omit evaluates in
/-- Among the live documents the same ones match. -/
theorem matching_filter_isLive : shown.matching place filter = store.matching place filter := by
  rw [matching, matching, shows, List.filter_filter]
  refine List.filter_congr fun document _ => ?_
  cases accepted : Filter.accepts document filter with
  | false => rfl
  | true =>
      have isLive : document.IsLive := Decidable.of_not_not fun notLive =>
        Filter.holds_of_not_isLive asks notLive ((Filter.accepts_iff _ _).mp accepted)
      simp [isLive]

/-- The store finds and counts what it would find and count without the deleted documents. -/
theorem found_of_showsLive :
    (∀ options, store.find place filter options = shown.find place filter options) ∧
      store.count place filter = shown.count place filter := by
  have same := matching_filter_isLive shows asks
  refine ⟨fun options => ?_, ?_⟩
  · rw [find_eq evaluates, find_eq (evaluates_of_showsLive shows evaluates), same]
  · rw [count_eq evaluates, count_eq (evaluates_of_showsLive shows evaluates), same]

end MemoryStore

/-! ## What reads answer -/

namespace Repository

variable {σ : Type} {model : ModelType} {entity : RecordType}

/-- All reads by criteria answer alike in two worlds. -/
structure ReadsAlike (repository : Repository σ model entity) (criteria : Criteria)
    (world other : World σ) : Prop where
  find : ((repository.find criteria).run.run world).1 =
    ((repository.find criteria).run.run other).1
  findOne : ((repository.findOne criteria).run.run world).1 =
    ((repository.findOne criteria).run.run other).1
  paging : ∀ request, ((repository.paging criteria request).run.run world).1 =
    ((repository.paging criteria request).run.run other).1
  exist : ((repository.exist criteria).run.run world).1 =
    ((repository.exist criteria).run.run other).1

/-- All reads by criteria fail in the store, and so no record is said to exist. -/
structure ReadsFail (repository : Repository σ model entity) (criteria : Criteria)
    (world : World σ) (error : StoreError) : Prop where
  find : ((repository.find criteria).run.run world).1 = .error (.store error)
  findOne : ((repository.findOne criteria).run.run world).1 = .error (.store error)
  paging : ∀ request, ((repository.paging criteria request).run.run world).1 =
    .error (.store error)
  exist : ((repository.exist criteria).run.run world).1 = .ok false

variable (place : Namespace) (custom : Option (ModelConverter model.toRecordType entity))
  (copier : Copier) {criteria : Criteria}

/-- What is said of the existence of a record is decided by the search for one. -/
theorem answer_exist (repository : Repository σ model entity) (world : World σ) :
    ((repository.exist criteria).run.run world).1 =
      .ok ((repository.findOne criteria).run.run world).1.isOk := by
  rw [exist, Action.run_bind_of_ok world (Action.run_attempt world _)]
  cases ((repository.findOne criteria).run.run world).1 with
  | ok record => rfl
  | error failure =>
      show ((if failure.isNotFound = true then _ else _ : Action σ Bool).run.run _).1 = _
      cases failure.isNotFound <;> rfl

section

variable {filter : Document} (built : criteria.build = .ok filter)

include built

variable {world other : World MemoryStore}

/-- **Reads answer by what the store finds and counts.** -/
theorem readsAlike_of_found
    (found : ∀ options, world.store.find place filter options =
      other.store.find place filter options)
    (counted : world.store.count place filter = other.store.count place filter) :
    ReadsAlike (inMemory place custom copier) criteria world other := by
  have sameOne : (((inMemory place custom copier).findOne criteria).run.run world).1 =
      (((inMemory place custom copier).findOne criteria).run.run other).1 := by
    rw [run_findOne place custom copier world built, run_findOne place custom copier other built]
    refine Action.answers_alike ?_ fun _ _ _ => rfl
    rw [Access.run_findOne, Access.run_findOne, found]
  refine ⟨?_, sameOne, fun request => ?_, ?_⟩
  · rw [run_find place custom copier world built, run_find place custom copier other built]
    refine Action.answers_alike ?_ fun _ _ _ => rfl
    rw [Access.run_find, Access.run_find, found]
  · rw [run_paging place custom copier world built, run_paging place custom copier other built]
    refine Action.answers_alike ?_ fun _ _ _ => Action.answers_alike rfl fun _ _ _ => rfl
    rw [Access.run_paging, Access.run_paging, found, counted]
  · rw [answer_exist, answer_exist, sameOne]

/-- **Reads fail where the filter cannot be evaluated.** -/
theorem readsFail_of_not_evaluates (notEvaluates : ¬ world.store.Evaluates place filter) :
    ∃ error, ReadsFail (inMemory place custom copier) criteria world error := by
  obtain ⟨error, found, _⟩ := MemoryStore.fails_of_not_evaluates notEvaluates
  have failsOne : (((inMemory place custom copier).findOne criteria).run.run world).1 =
      .error (.store error) := by
    rw [run_findOne place custom copier world built]
    refine Action.answer_bind_of_error ?_
    rw [Access.run_findOne, found]
    rfl
  refine ⟨error, ?_, failsOne, fun request => ?_, ?_⟩
  · rw [run_find place custom copier world built]
    refine Action.answer_bind_of_error ?_
    rw [Access.run_find, found]
    rfl
  · rw [run_paging place custom copier world built]
    refine Action.answer_bind_of_error ?_
    rw [Access.run_paging, found]
    rfl
  · rw [answer_exist, failsOne]
    rfl

end

/-! ## What a removal leaves -/

variable {world : World MemoryStore}

/-- A removal by criteria that do not target deleted records leaves every deleted document
where it was and as it was: it moves nothing, and marks only what the filter accepts. -/
theorem remove_keeps_deleted (untargeted : ¬ criteria.TargetsDeletion) {position : Nat}
    {document : Document} (stored : (world.store.documents place)[position]? = some document)
    (notLive : ¬ document.IsLive) :
    ((((inMemory place custom copier).remove criteria).run.run
      world).2.store.documents place)[position]? = some document := by
  cases built : criteria.build with
  | error error =>
      rw [run_remove_of_unbuilt place custom copier world built]
      exact stored
  | ok filter =>
      have rejected : ¬ Filter.accepts document filter = true := fun accepted =>
        Filter.holds_of_not_isLive (Criteria.get?_build built untargeted) notLive
          ((Filter.accepts_iff _ _).mp accepted)
      rcases run_remove_ends place custom copier built world with
        ⟨_, _, leaves⟩ | ⟨earlier, stopped, later, _, split, _, _, leaves⟩
      · rw [leaves, List.getElem?_map, stored, Option.map_some, if_neg rejected]
      · rw [split] at stored
        rw [leaves]
        by_cases before : position < earlier.length
        · rw [List.getElem?_append_left before] at stored
          rw [List.getElem?_append_left (by rwa [List.length_map]), List.getElem?_map, stored,
            Option.map_some, if_neg rejected]
        · rw [List.getElem?_append_right (by omega)] at stored
          rw [List.getElem?_append_right (by rw [List.length_map]; omega), List.length_map, stored]

/-- **Deleted records are isolated.** Criteria that do not target them ask for live records,
and on no deleted document does their filter hold. So they are read as if the deleted
documents were not there, unless the filter cannot be evaluated on all documents, and then
nothing is read at all; and a removal leaves every deleted document as it was. -/
theorem deleted_isolated {filter : Document} (built : criteria.build = .ok filter)
    (untargeted : ¬ criteria.TargetsDeletion) :
    Document.get? filter FieldName.deletedAt = some .null ∧
      (∀ document : Document, ¬ document.IsLive →
        Filter.holds document filter ≠ .ok true) ∧
      ∀ world : World MemoryStore,
        (world.store.Evaluates place filter → ∀ shown : World MemoryStore,
          shown.store.ShowsLive world.store place →
            ReadsAlike (inMemory place custom copier) criteria world shown) ∧
        (¬ world.store.Evaluates place filter →
          ∃ error, ReadsFail (inMemory place custom copier) criteria world error) ∧
        ∀ (position : Nat) (document : Document),
          (world.store.documents place)[position]? = some document → ¬ document.IsLive →
            ((((inMemory place custom copier).remove criteria).run.run
              world).2.store.documents place)[position]? = some document := by
  have asks := Criteria.get?_build built untargeted
  refine ⟨asks, fun document notLive => Filter.holds_of_not_isLive asks notLive,
    fun world => ⟨fun evaluates shown shows => ?_, fun notEvaluates => ?_,
      fun position document stored notLive => ?_⟩⟩
  · obtain ⟨found, counted⟩ := MemoryStore.found_of_showsLive shows evaluates asks
    exact readsAlike_of_found place custom copier built found counted
  · exact readsFail_of_not_evaluates place custom copier built notEvaluates
  · exact remove_keeps_deleted place custom copier untargeted stored notLive

/-- A note, and another one that is deleted. -/
def oneDeleted : World MemoryStore :=
  Specimen.holding [Access.mayDocument 1 "kept", (Access.mayDocument 2 "gone").marked .epoch]

/-- The note alone. -/
def noneDeleted : World MemoryStore :=
  Specimen.holding [Access.mayDocument 1 "kept"]

/-- Criteria of which one branch names the time of deletion. -/
def keptOrDeleted : Criteria :=
  .ofExpression "title = ? OR deleted_at != ?" [.string "kept", .null]

/-- The filter of these criteria. -/
def keptOrDeletedFilter : Document :=
  [ ("$or", .array [.object [("title", .string "kept")],
      .object [("deleted_at", .object [("$ne", .null)])]]), ("deleted_at", .null) ]

theorem deleted_isolated_oneDeleted :
    keptOrDeleted.build = .ok keptOrDeletedFilter ∧ ¬ keptOrDeleted.TargetsDeletion ∧
      ReadsAlike notes keptOrDeleted oneDeleted noneDeleted ∧
      ((notes.remove keptOrDeleted).run.run oneDeleted).1 = .ok ⟨1, []⟩ ∧
      (((notes.remove keptOrDeleted).run.run oneDeleted).2.store.documents
          ⟨"test", "notes"⟩)[1]? =
        some ((Access.mayDocument 2 "gone").marked .epoch) := by
  have built : keptOrDeleted.build = .ok keptOrDeletedFilter := by
    decide +kernel
  have untargeted : ¬ keptOrDeleted.TargetsDeletion := by
    rintro ⟨group, parsed, _⟩
    have several : Expression.parse "title = ? OR deleted_at != ?".toList =
        .ok [[⟨"title", .equal, .placeholder⟩],
          [⟨"deleted_at", .notEqual, .placeholder⟩]] := rfl
    rw [several] at parsed
    cases parsed
  have stored : oneDeleted.store.documents ⟨"test", "notes"⟩ =
      [Access.mayDocument 1 "kept", (Access.mayDocument 2 "gone").marked .epoch] := by
    decide +kernel
  have evaluates : oneDeleted.store.Evaluates ⟨"test", "notes"⟩ keptOrDeletedFilter := by
    have first : Filter.holds (Access.mayDocument 1 "kept") keptOrDeletedFilter = .ok true := by
      decide +kernel
    have second : Filter.holds ((Access.mayDocument 2 "gone").marked .epoch)
        keptOrDeletedFilter = .ok false := by
      decide +kernel
    rw [MemoryStore.Evaluates, stored]
    exact List.forall_mem_cons.mpr ⟨⟨true, first⟩,
      List.forall_mem_singleton.mpr ⟨false, second⟩⟩
  have shows : noneDeleted.store.ShowsLive oneDeleted.store ⟨"test", "notes"⟩ := by
    unfold MemoryStore.ShowsLive
    decide +kernel
  obtain ⟨_, _, isolated⟩ := deleted_isolated ⟨"test", "notes"⟩
    (none : Option (ModelConverter Specimen.noteModel.toRecordType Specimen.note)) .default
    built untargeted
  obtain ⟨alike, _, keeps⟩ := isolated oneDeleted
  have isStored : (oneDeleted.store.documents ⟨"test", "notes"⟩)[1]? =
      some ((Access.mayDocument 2 "gone").marked .epoch) := by
    rw [stored]
    rfl
  have kept := keeps 1 _ isStored (Document.marked_not_isLive .epoch _)
  have answers : ((notes.remove keptOrDeleted).run.run oneDeleted).1 = .ok ⟨1, []⟩ := by
    decide +kernel
  rw [notes] at answers ⊢
  exact ⟨built, untargeted, alike evaluates noneDeleted shows, answers, kept⟩

end Repository

end Docket
