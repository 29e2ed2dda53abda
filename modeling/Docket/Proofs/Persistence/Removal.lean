import Docket.Proofs.Json.Sameness
import Docket.Proofs.Persistence.Running
import Docket.Proofs.Store.Passes

/-!
# Removal

Removing records is marking them: the time of deletion is written to every record
that matches. A removal goes past all documents, or it stops at one
(`run_remove_ends`). Criteria that ask for live records, and name the time of deletion
nowhere else, match none of the records that they have marked. So a removal by
such criteria that succeeds marks exactly what matched, tells their number, and
cannot be done twice: after it nothing matches, whether it is asked again or the
records are searched for (`remove_exact`).

A removal is not undone when it fails. It goes past one record after another, and
it stops where the filter cannot be evaluated, or where a unique index refuses the
mark. What it marked before remains marked, and everything from there on is as it
was (`failedRemoval_stops`). So a failed removal removes nothing only if nothing
matched before the record at which it stopped.
-/

set_option autoImplicit false

namespace Docket

namespace Document

/-- A document marked as deleted at a time. -/
def marked (now : Instant) (document : Document) : Document :=
  insert document FieldName.deletedAt (.string now.stored)

variable (now : Instant) (document : Document)

theorem get?_marked :
    get? (document.marked now) FieldName.deletedAt = some (.string now.stored) :=
  get?_insert_self document _ _

theorem marked_not_isLive : ¬ (document.marked now).IsLive := by
  rw [IsLive, get?_marked]
  simp

theorem marked_agreeBut : AgreeBut FieldName.deletedAt document (document.marked now) :=
  fun _ differ => (get?_insert_of_ne document _ differ).symm

/-- A live document is changed by being marked. -/
theorem not_same_marked {document : Document} (isLive : document.IsLive) :
    Document.same (document.marked now) document = false := by
  refine Bool.eq_false_iff.mpr fun alike => ?_
  have equal := same_get? alike FieldName.deletedAt
  rw [get?_marked] at equal
  rcases isLive with missing | isNull
  · rw [missing] at equal
    cases equal
  · rw [isNull] at equal
    cases equal

end Document

namespace Collection

/-- The update by which the documents that match a filter are marked as deleted. -/
def removal (place : Namespace) (filter : Document) (now : Instant) : Update :=
  ⟨place, .updateMany, filter, Repository.deletion now, true⟩

variable (place : Namespace) (filter : Document) (now : Instant)

/-- What becomes of a document that a removal goes past. -/
theorem passed_removal (document : Document) :
    passed (removal place filter now) document =
      if Filter.accepts document filter then document.marked now else document := by
  have extended : Document.extend document (Repository.deletion now) = document.marked now := rfl
  unfold passed rewritten
  show (if Filter.accepts document filter then
    if Document.same (Document.extend document (Repository.deletion now)) document then document
    else Document.extend document (Repository.deletion now) else document) = _
  rw [extended]
  by_cases alike : Document.same (document.marked now) document = true
  · rw [if_pos alike, Document.marked, Document.insert_eq_of_same alike]
  · rw [if_neg alike]

/-- A removal is refused for a collision of the marked document only: a mark leaves the
primary key alone. -/
theorem updatedDocument_removal {indexes : List Index} {others : List Document}
    {document : Document} {error : StoreError}
    (refused : updatedDocument (removal place filter now) indexes others document = .error error) :
    ∃ collision, firstCollision? indexes (document.marked now) others = some collision ∧
      error = collision.error place .updateMany := by
  have overwrites : overwritten document (Repository.deletion now) = some (document.marked now) :=
    rfl
  unfold updatedDocument at refused
  simp only [removal, overwrites] at refused
  split at refused
  · cases refused
  · split at refused
    · next collision collides => exact ⟨collision, collides, (Except.error.inj refused).symm⟩
    · cases refused

variable {filter} (asks : Filter.AsksLive filter)

include asks

/-- A removal of live documents marks as many as it matches. -/
theorem tallied_removal (documents : List Document) :
    tallied (removal place filter now) .nothing documents =
      ⟨documents.countP fun document => Filter.accepts document filter,
        documents.countP fun document => Filter.accepts document filter, none⟩ := by
  have changes : ∀ document : Document,
      (Filter.accepts document filter &&
        !Document.same (passed (removal place filter now) document) document) =
      Filter.accepts document filter := by
    intro document
    rw [passed_removal]
    cases accepted : Filter.accepts document filter with
    | false => rfl
    | true =>
        have isLive := asks.isLive ((Filter.accepts_iff _ _).mp accepted)
        rw [if_pos rfl, Document.not_same_marked now isLive]
        rfl
  rw [tallied]
  simp only [removal] at changes ⊢
  simp only [changes, UpdateOutcome.nothing, Nat.zero_add]

/-- What a removal of live documents has gone past does not match any more. -/
theorem holds_passed_removal {document : Document} {verdict : Bool}
    (evaluated : Filter.holds document filter = .ok verdict) :
    Filter.holds (passed (removal place filter now) document) filter = .ok false := by
  rw [passed_removal, Filter.accepts_of_holds evaluated]
  cases verdict with
  | false => exact evaluated
  | true =>
      exact asks.holds_of_deleted (document.marked_agreeBut now) (document.marked_not_isLive now)
        evaluated

end Collection

namespace Repository

variable {model : ModelType} {entity : RecordType} (place : Namespace)
  (custom : Option (ModelConverter model.toRecordType entity)) (copier : Copier)
  {criteria : Criteria}

section

variable {filter : Document} (built : criteria.build = .ok filter) (world : World MemoryStore)

include built

/-! ## Removal that succeeds -/

/-- A removal is one update of one collection. -/
theorem run_remove_eq :
    ((inMemory place custom copier).remove criteria).run.run world =
      (((world.store.updating place .updateMany filter (deletion world.now) true).2.mapError
            .store).map Access.updateResult,
        { world.logged [Access.entry place "Updating matching records" []] with
          store := (world.store.update place .updateMany filter
            (Document.setting (deletion world.now)) true).1 }) := by
  rw [run_remove place custom copier world built, Access.run_updateMany]

/-- A removal leaves the other collections and all indexes alone. -/
theorem run_remove_elsewhere :
    let ran := ((inMemory place custom copier).remove criteria).run.run world
    (ran.2.store.collection place).indexes = (world.store.collection place).indexes ∧
      ∀ other : Namespace, other.text ≠ place.text →
        ran.2.store.collection other = world.store.collection other := by
  intro ran
  have removes : ran = _ := run_remove_eq place custom copier built world
  rw [removes]
  refine ⟨?_, fun other differ => ?_⟩
  · rw [(world.store.update_ofPlace place .updateMany filter (deletion world.now) true).1]
  · exact world.store.update_elsewhere place .updateMany filter (deletion world.now) true differ

/-- **A removal goes past all documents, or it stops at one.** The documents it has gone
past are marked where they match; where it stops, the rest is as it was. -/
theorem run_remove_ends :
    let documents := world.store.documents place
    let update := Collection.removal place filter world.now
    let goPast := List.map fun document =>
      if Filter.accepts document filter then document.marked world.now else document
    let ran := ((inMemory place custom copier).remove criteria).run.run world
    ((∀ document ∈ documents, ∃ verdict, Filter.holds document filter = .ok verdict) ∧
        ran.1 = .ok (Access.updateResult (Collection.tallied update .nothing documents)) ∧
        ran.2.store.documents place = goPast documents) ∨
      ∃ earlier document later error, documents = earlier ++ document :: later ∧
        Collection.Stops update (world.store.collection place).indexes [] earlier document later
          error ∧
        ran.1 = .error (.store error) ∧
        ran.2.store.documents place = goPast earlier ++ document :: later := by
  intro documents update goPast ran
  have removes : ran = _ := run_remove_eq place custom copier built world
  have leaves : ran.2.store.documents place =
      (world.store.updating place .updateMany filter (deletion world.now) true).1 := by
    rw [removes, MemoryStore.documents,
      (world.store.update_ofPlace place .updateMany filter (deletion world.now) true).1]
  have goes : world.store.updating place .updateMany filter (deletion world.now) true =
      Collection.updateFrom update (world.store.collection place).indexes [] documents .nothing :=
    rfl
  have passes : goPast = List.map (Collection.passed update) :=
    congrArg List.map (funext (Collection.passed_removal place filter world.now)).symm
  have many : update.many = true := rfl
  rcases Collection.updateFrom_ends many (world.store.collection place).indexes [] documents
      .nothing with
    ⟨evaluated, ends⟩ | ⟨earlier, document, later, error, split, stops, ends⟩
  · refine .inl ⟨evaluated, ?_, ?_⟩
    · rw [removes, goes, ends]
      rfl
    · rw [leaves, goes, ends, passes]
  · refine .inr ⟨earlier, document, later, error, split, stops, ?_, ?_⟩
    · rw [removes, goes, ends]
      rfl
    · rw [leaves, goes, ends, passes]

/-- When nothing matches, nothing is removed and nothing is found. -/
theorem run_of_noMatch
    (noMatch : ∀ document ∈ world.store.documents place,
      Filter.holds document filter = .ok false) :
    ((((inMemory place custom copier).remove criteria).run.run world).1 = .ok ⟨0, []⟩ ∧
        (((inMemory place custom copier).remove criteria).run.run world).2.store = world.store) ∧
      (((inMemory place custom copier).find criteria).run.run world).1 = .ok [] ∧
        (((inMemory place custom copier).find criteria).run.run world).2.store = world.store := by
  constructor
  · have nothing :
        world.store.updating place .updateMany filter (deletion world.now) true =
          (world.store.documents place, .ok .nothing) :=
      Collection.updateFrom_of_noMatch _ noMatch [] .nothing
    rw [run_remove_eq place custom copier built world, nothing]
    refine ⟨?_, ?_⟩
    · show Except.ok (⟨wrapped64 0, []⟩ : WriteResult) = _
      rw [wrapped64_of_lt (by decide)]
      rfl
    · exact world.store.update_eq_self place .updateMany filter (deletion world.now) true
        (congrArg Prod.fst nothing)
  · have noneLeft : world.store.matching place filter = [] :=
      List.filter_eq_nil_iff.mpr fun document isStored accepted => Bool.false_ne_true
        ((Filter.accepts_of_holds (noMatch document isStored)).symm.trans accepted)
    have found : world.store.find place filter Access.newestFirst = .ok [] := by
      rw [MemoryStore.find_eq fun document isStored => ⟨false, noMatch document isStored⟩,
        noneLeft]
      rfl
    have reads : ((Access.inMemory model place).find filter).run.run world = _ :=
      Access.run_find place world filter
    rw [found] at reads
    rw [run_find place custom copier world built, Action.run_bind_of_ok world reads]
    exact ⟨rfl, rfl⟩

end

/-- **A removal of live records is exact and cannot be done twice.** It marks the
records that match and tells their number; all else is as it was. After it, by the
same criteria nothing is removed and nothing is found. -/
theorem remove_exact {filter : Document} (built : criteria.build = .ok filter)
    (asks : Filter.AsksLive filter) {world after : World MemoryStore} {result : WriteResult}
    (removed : ((inMemory place custom copier).remove criteria).run.run world =
      (.ok result, after)) :
    let matched := (world.store.documents place).countP fun document =>
      Filter.accepts document filter
    (result = ⟨wrapped64 matched, []⟩ ∧
      (matched < 0x8000000000000000 → result.count = matched)) ∧
      after.store.collection place =
        ⟨(world.store.documents place).map fun document =>
            if Filter.accepts document filter then document.marked world.now else document,
          (world.store.collection place).indexes⟩ ∧
      (∀ other : Namespace, other.text ≠ place.text →
        after.store.collection other = world.store.collection other) ∧
      ∀ later : World MemoryStore, later.store = after.store →
        ((((inMemory place custom copier).remove criteria).run.run later).1 = .ok ⟨0, []⟩ ∧
          (((inMemory place custom copier).remove criteria).run.run later).2.store =
            after.store) ∧
        (((inMemory place custom copier).find criteria).run.run later).1 = .ok [] ∧
          (((inMemory place custom copier).find criteria).run.run later).2.store =
            after.store := by
  intro matched
  obtain ⟨indexes, elsewhere⟩ := run_remove_elsewhere place custom copier built world
  have ends := run_remove_ends place custom copier built world
  rw [removed] at indexes elsewhere ends
  rcases ends with ⟨evaluated, answers, leaves⟩ | ⟨_, _, _, _, _, _, fails, _⟩
  · rw [Collection.tallied_removal place world.now asks] at answers
    have tells : result = ⟨wrapped64 matched, []⟩ := Except.ok.inj answers
    have noMatch : ∀ document ∈ after.store.documents place,
        Filter.holds document filter = .ok false := by
      intro document isMember
      rw [leaves] at isMember
      obtain ⟨before, isBefore, rfl⟩ := List.mem_map.mp isMember
      obtain ⟨verdict, evaluates⟩ := evaluated before isBefore
      rw [← Collection.passed_removal place]
      exact Collection.holds_passed_removal place world.now asks evaluates
    refine ⟨⟨tells, fun fits => ?_⟩, ?_, elsewhere, ?_⟩
    · rw [tells, wrapped64_of_lt fits]
    · rw [← leaves, ← indexes]
      rfl
    · intro later same
      rw [← same] at noMatch
      have runs := run_of_noMatch place custom copier built later noMatch
      rw [same] at runs
      exact runs
  · cases fails

/-- Two notes in an otherwise empty store, at the beginning of time. -/
def twoNotes : World MemoryStore :=
  Specimen.holding [[("_id", .string "a"), ("title", .string "x")],
    [("_id", .string "b"), ("title", .string "y")]]

/-- One of two notes is removed, and then no note of its title is removed or found. -/
theorem remove_exact_twoNotes :
    ((notes.remove (.ofExpression "title = ?" [.string "x"])).run.run twoNotes).1 =
        .ok ⟨1, []⟩ ∧
      ((notes.remove (.ofExpression "title = ?" [.string "x"])).run.run
          ((notes.remove (.ofExpression "title = ?" [.string "x"])).run.run twoNotes).2).1 =
        .ok ⟨0, []⟩ ∧
      ((notes.find (.ofExpression "title = ?" [.string "x"])).run.run
          ((notes.remove (.ofExpression "title = ?" [.string "x"])).run.run twoNotes).2).1 =
        .ok [] := by
  have removes : ((notes.remove (.ofExpression "title = ?" [.string "x"])).run.run twoNotes).1 =
      .ok ⟨1, []⟩ := by
    decide +kernel
  have built : (Criteria.ofExpression "title = ?" [.string "x"]).build =
      .ok [("deleted_at", .null), ("title", .string "x")] := by
    decide +kernel
  have exact := remove_exact ⟨"test", "notes"⟩ none .default built (by decide +kernel)
    (Action.run_eq_of_answer twoNotes removes)
  exact ⟨removes, (exact.2.2.2 _ rfl).1.1, (exact.2.2.2 _ rfl).2.1⟩

/-! ## Removal that fails -/

/-- A removal stopped at a document for an error. What it had gone past was marked where
it matched, and all else is as it was. -/
structure RemovalStops (place : Namespace) (filter : Document) (now : Instant)
    (before after : MemoryStore) (earlier : List Document) (document : Document)
    (later : List Document) (error : StoreError) : Prop where
  present : before.documents place = earlier ++ document :: later
  left : after.documents place =
    (earlier.map fun other =>
      if Filter.accepts other filter then other.marked now else other) ++ document :: later
  indexes : (after.collection place).indexes = (before.collection place).indexes
  elsewhere : ∀ other : Namespace, other.text ≠ place.text →
    after.collection other = before.collection other
  evaluated : ∀ other ∈ earlier, ∃ verdict, Filter.holds other filter = .ok verdict
  cause : Filter.holds document filter = .error error ∨
    Filter.holds document filter = .ok true ∧
      ∃ collision,
        Collection.firstCollision? (before.collection place).indexes (document.marked now)
          ((earlier.map fun other =>
            if Filter.accepts other filter then other.marked now else other) ++ later) =
              some collision ∧
          error = collision.error place .updateMany

/-- A removal that stopped removed nothing if and only if it had not gone past any
document that a mark changes. -/
theorem RemovalStops.unchanged_iff {place : Namespace} {filter : Document} {now : Instant}
    {before after : MemoryStore} {earlier : List Document} {document : Document}
    {later : List Document} {error : StoreError}
    (stops : RemovalStops place filter now before after earlier document later error) :
    after.documents place = before.documents place ↔
      ∀ other ∈ earlier, Filter.accepts other filter = true → other.marked now = other := by
  rw [stops.present, stops.left, List.append_left_inj]
  constructor
  · intro equal other isMember accepted
    have same := List.map_eq_map_iff.mp (equal.trans (List.map_id earlier).symm) other isMember
    rwa [if_pos accepted] at same
  · intro unchanged
    refine (List.map_congr_left fun other isMember => ?_).trans (List.map_id earlier)
    split
    · next accepted => exact unchanged other isMember accepted
    · rfl

/-- The store stops a removal by criteria that have a filter. -/
theorem removalStops_of_error {filter : Document} (built : criteria.build = .ok filter)
    {world after : World MemoryStore} {failure : Failure}
    (failed : ((inMemory place custom copier).remove criteria).run.run world =
      (.error failure, after)) :
    ∃ error earlier document later, failure = .store error ∧
      RemovalStops place filter world.now world.store after.store earlier document later
        error := by
  obtain ⟨indexes, elsewhere⟩ := run_remove_elsewhere place custom copier built world
  have ends := run_remove_ends place custom copier built world
  rw [failed] at indexes elsewhere ends
  rcases ends with ⟨_, answers, _⟩ |
    ⟨earlier, document, later, error, split, stops, fails, leaves⟩
  · cases answers
  · refine ⟨error, earlier, document, later, Except.error.inj fails,
      split, leaves, indexes, elsewhere, stops.evaluated, ?_⟩
    refine stops.cause.imp_right fun refused => ⟨refused.1, ?_⟩
    have collides := Collection.updatedDocument_removal place filter world.now refused.2
    rwa [funext (Collection.passed_removal place filter world.now), List.nil_append] at collides

/-- **A removal that fails is not undone.** Whether a repository or a service is asked,
either the criteria have no filter, and then the store is as it was; or the store
stopped at a document, and then no more is removed than what matched before it. -/
theorem failedRemoval_stops {remove : Action MemoryStore WriteResult}
    (asked : remove = (inMemory place custom copier).remove criteria ∨
      remove = Service.remove ⟨inMemory place custom copier⟩ criteria)
    {world after : World MemoryStore} {failure : Failure}
    (failed : remove.run.run world = (.error failure, after)) :
    (∃ error, criteria.build = .error error ∧ failure = .criteria error ∧
        after.store = world.store) ∨
      ∃ filter error earlier document later, criteria.build = .ok filter ∧
        failure = .store error ∧
        RemovalStops place filter world.now world.store after.store earlier document later
          error := by
  obtain ⟨behind, ran, store⟩ : ∃ behind, ((inMemory place custom copier).remove
      criteria).run.run world = (.error failure, behind) ∧ after.store = behind.store := by
    rcases asked with rfl | rfl
    · exact ⟨after, failed, rfl⟩
    · have reports := Service.run_reporting "Failed to remove records" []
        ((inMemory place custom copier).remove criteria) world
      rw [Service.remove] at failed
      rw [failed] at reports
      exact ⟨_, Action.run_eq_of_answer world reports.1.symm, reports.2⟩
  rw [store]
  cases built : criteria.build with
  | error error =>
      rw [run_remove_of_unbuilt place custom copier world built] at ran
      obtain ⟨fails, same⟩ := Prod.mk.inj ran
      exact .inl ⟨error, rfl, (Except.error.inj fails).symm, by rw [← same]⟩
  | ok filter =>
      obtain ⟨error, earlier, document, later, fails, stops⟩ :=
        removalStops_of_error place custom copier built ran
      exact .inr ⟨filter, error, earlier, document, later, rfl, fails, stops⟩

/-- Notes with a title, or with a title that matches a pattern that is none. -/
def openBracket : Criteria :=
  .ofExpression "title = ? OR title like ?" [.string "x", .string "["]

/-- A removal fails and leaves a note removed: the pattern is looked at only for the
second note, as the first one has the title. -/
theorem openBracket_removes_first :
    ((notes.remove openBracket).run.run twoNotes).1 =
        .error (.store (.databaseError .find
          "invalid $regex: regex parse error:\n    [\n    ^\nerror: unclosed character class")) ∧
      ((notes.remove openBracket).run.run twoNotes).2.store.documents ⟨"test", "notes"⟩ =
        [[("_id", .string "a"), ("deleted_at", .string "1970-01-01T00:00:00.000Z"),
            ("title", .string "x")],
          [("_id", .string "b"), ("title", .string "y")]] ∧
      ((notes.remove openBracket).run.run twoNotes).2.store.documents ⟨"test", "notes"⟩ ≠
        twoNotes.store.documents ⟨"test", "notes"⟩ := by
  decide +kernel

/-- The removal that fails is stopped by the store. -/
theorem failedRemoval_stops_openBracket :
    ∃ failure after, (notes.remove openBracket).run.run twoNotes = (.error failure, after) ∧
      ∃ filter error earlier document later, openBracket.build = .ok filter ∧
        failure = .store error ∧
        RemovalStops ⟨"test", "notes"⟩ filter twoNotes.now twoNotes.store after.store earlier
          document later error := by
  have fails : ((notes.remove openBracket).run.run twoNotes).1 =
      .error (.store (.databaseError .find
        "invalid $regex: regex parse error:\n    [\n    ^\nerror: unclosed character class")) := by
    decide +kernel
  have ran := Action.run_eq_of_answer twoNotes fails
  have stops := failedRemoval_stops ⟨"test", "notes"⟩ none .default (.inl rfl) ran
  exact ⟨_, _, ran,
    stops.resolve_left fun ⟨_, _, isCriteria, _⟩ => Failure.noConfusion isCriteria⟩

end Repository

end Docket
