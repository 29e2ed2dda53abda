import Docket.Proofs.First
import Docket.Proofs.Store.Integrity
import Docket.Proofs.Store.Targeted

/-!
# What updates touch

An update writes fields over the documents that its filter matches: over all of them, or over the
first one only. It touches nothing else. The other collections, the indexes, the number and the
order of the documents and the primary key of each stay as they are, whether it succeeds or fails
(`Framed`).

How far it gets is told by its answer (`update_touches`). An update for many that succeeds has
gone past all documents and counts those that matched and those that changed; if it fails, there
is a document up to which it has done the same, and from which on it has done nothing
(`UpdatesMany`). An update for one writes over the first match or does nothing at all
(`UpdatesOne`). A change that is anything but one list of fields to be set is refused before any
document is looked at.

An update for many that has succeeded has nothing left to do (`updateMany_again`). It may be asked
for again: documents may match now that did not match before, and the other way round, and the
filter may even come to a part now that cannot be evaluated. But whatever matches has the fields
already. What makes this true is that writing fields twice is writing them once, and that the
comparison which finds out that nothing changed is the one by which a document is left alone.
-/

set_option autoImplicit false

namespace Docket

/-! ## Primary keys -/

/-- A document has the primary key that it had, up to the sign of a zero, or it has none as
before. -/
def Document.SameId (before after : Document) : Prop :=
  (Document.get? after FieldName.primaryKey).map Json.unsignedZeros =
    (Document.get? before FieldName.primaryKey).map Json.unsignedZeros

namespace Collection

/-- Fields that are written over a document leave its primary key. -/
theorem sameId_of_overwritten {fields document next : Document}
    (overwrites : overwritten document fields = some next) : document.SameId next := by
  induction fields generalizing document with
  | nil =>
      obtain rfl := Option.some.inj overwrites
      rfl
  | cons field rest ih =>
      obtain ⟨name, value⟩ := field
      rw [overwritten] at overwrites
      split at overwrites
      · cases overwrites
      · next allowed =>
          refine (ih overwrites).trans ?_
          by_cases isKey : name = FieldName.primaryKey
          · subst isKey
            rw [Document.get?_insert_self]
            cases found : Document.get? document FieldName.primaryKey with
            | none => exact absurd ⟨rfl, by rw [found]; rfl⟩ allowed
            | some id =>
                have alike : Json.same value id = true := by
                  by_contra differ
                  exact allowed ⟨rfl, by rw [found]; exact Bool.eq_false_iff.mpr differ⟩
                exact congrArg some (Json.same_iff.mp alike)
          · rw [Document.get?_insert_of_ne document value (Ne.symm isKey)]

theorem sameId_of_updatedDocument {update : Update} {indexes : List Index}
    {others : List Document} {document next : Document}
    (updated : updatedDocument update indexes others document = .ok next) :
    document.SameId next := by
  unfold updatedDocument at updated
  split at updated
  · cases updated
  · next written overwrites =>
      split at updated
      · obtain rfl := Except.ok.inj updated
        rfl
      · split at updated
        · cases updated
        · obtain rfl := Except.ok.inj updated
          exact sameId_of_overwritten overwrites

/-- **The documents of a collection keep their number, their order and their primary keys**,
however far an update gets. -/
theorem updateFrom_sameId (update : Update) (indexes : List Index)
    (before documents : List Document) (outcome : UpdateOutcome) :
    List.Forall₂ Document.SameId documents
      (updateFrom update indexes before documents outcome).1 :=
  have unchanged : ∀ document : Document, document.SameId document := fun _ => rfl
  updateFrom_related_of_updated indexes unchanged
    (fun _ _ _ _ updated => sameId_of_updatedDocument updated) before documents outcome

/-! ## The ends of an update -/

/-- **What an update leaves of a document that matches is the document with the fields written
over it**, up to the sign of zeros: if the fields change no more than that, the document is left
alone. -/
theorem same_passed_of_accepts {update : Update} {document : Document}
    (accepts : Filter.accepts document update.filter = true) :
    Document.same (passed update document) (Document.extend document update.fields) = true := by
  rw [passed_of_accepts accepts, rewritten]
  split
  · next unchanged => rwa [Document.same, Json.same_comm]
  · exact Json.same_refl _

/-- **How an update for many ends**: it goes past all documents and counts them, or it stops at
one of them, and that one and all later ones stay as they are. -/
inductive UpdatesMany (update : Update) :
    List Document → List Document → Except StoreError UpdateOutcome → Prop
  | all {documents : List Document}
      (evaluated : ∀ document ∈ documents,
        ∃ verdict, Filter.holds document update.filter = .ok verdict) :
      UpdatesMany update documents (documents.map (passed update))
        (.ok ⟨documents.countP fun document => Filter.accepts document update.filter,
          documents.countP fun document => !Document.same (passed update document) document,
          none⟩)
  | stopped {earlier : List Document} (document : Document) (later : List Document)
      (error : StoreError)
      (evaluated : ∀ other ∈ earlier,
        ∃ verdict, Filter.holds other update.filter = .ok verdict) :
      UpdatesMany update (earlier ++ document :: later)
        (earlier.map (passed update) ++ document :: later) (.error error)

/-- **How an update for one ends**: no document matches, or it goes past the first one that does,
or it fails. -/
inductive UpdatesOne (update : Update) :
    List Document → List Document → Except StoreError UpdateOutcome → Prop
  | nothing {documents : List Document}
      (unmatched : ∀ document ∈ documents, Filter.holds document update.filter = .ok false) :
      UpdatesOne update documents documents (.ok ⟨0, 0, none⟩)
  | first {earlier later : List Document} {target : Document}
      (unmatched : ∀ document ∈ earlier, Filter.holds document update.filter = .ok false)
      (matched : Filter.holds target update.filter = .ok true) :
      UpdatesOne update (earlier ++ target :: later) (earlier ++ passed update target :: later)
        (.ok ⟨1, if Document.same (passed update target) target then 0 else 1, none⟩)
  | failed (documents : List Document) (error : StoreError) :
      UpdatesOne update documents documents (.error error)

/-- Only what matches is changed. -/
theorem tallied_nothing (update : Update) (documents : List Document) :
    tallied update .nothing documents =
      ⟨documents.countP fun document => Filter.accepts document update.filter,
        documents.countP fun document => !Document.same (passed update document) document,
        none⟩ := by
  have changed : ∀ document, (Filter.accepts document update.filter &&
      !Document.same (passed update document) document) =
        !Document.same (passed update document) document := by
    intro document
    cases accepts : Filter.accepts document update.filter with
    | true => rfl
    | false =>
        rw [passed_of_rejects accepts, Document.same, Json.same_refl]
        rfl
  simp only [tallied, changed, UpdateOutcome.nothing, Nat.zero_add]

theorem updatesMany_updateFrom {update : Update} (many : update.many = true)
    (indexes : List Index) (documents : List Document) :
    UpdatesMany update documents (updateFrom update indexes [] documents .nothing).1
      (updateFrom update indexes [] documents .nothing).2 := by
  rcases updateFrom_ends many indexes [] documents .nothing with
    ⟨evaluated, result⟩ | ⟨earlier, document, later, error, rfl, stops, result⟩
  · rw [result, tallied_nothing]
    exact .all evaluated
  · rw [result]
    exact .stopped document later error stops.evaluated

/-- An update of one document ends at the first that is not known not to match. -/
theorem updatesOne_updateFrom {update : Update} (one : update.many = false)
    (indexes : List Index) (documents : List Document) :
    UpdatesOne update documents (updateFrom update indexes [] documents .nothing).1
      (updateFrom update indexes [] documents .nothing).2 := by
  rcases forall_or_exists_firstWith
      (fun document => Filter.holds document update.filter = .ok false) documents with
    noMatch | ⟨target, earlier, later, rfl, notPassed, earlierPassed⟩
  · rw [updateFrom_of_noMatch indexes noMatch]
    exact .nothing noMatch
  · have unmatched : ∀ document ∈ earlier, Filter.holds document update.filter = .ok false :=
      fun document isEarlier => not_not.mp (earlierPassed document isEarlier)
    cases holds : Filter.holds target update.filter with
    | error error =>
        rw [updateFrom_skip indexes unmatched, updateFrom_of_fault _ holds]
        exact .failed _ error
    | ok verdict =>
        obtain rfl : verdict = true := by
          by_contra isFalse
          exact notPassed (holds.trans (congrArg _ (Bool.eq_false_iff.mpr isFalse)))
        rw [updateFrom_first one indexes [] later unmatched holds]
        cases updated : updatedDocument update indexes ([] ++ earlier ++ later) target with
        | error error => exact .failed _ error
        | ok next =>
            have becomes : next = passed update target := by
              rw [passed_of_matched holds, eq_rewritten_of_updatedDocument updated]
            subst becomes
            have outcome : counted .nothing (!Document.same (passed update target) target) =
                ⟨1, if Document.same (passed update target) target then 0 else 1, none⟩ := by
              cases Document.same (passed update target) target <;> rfl
            change UpdatesOne update _ (earlier ++ passed update target :: later)
              (.ok (counted .nothing (!Document.same (passed update target) target)))
            rw [outcome]
            exact .first unmatched holds

/-- An update for one that fails leaves the documents as they were. -/
theorem UpdatesOne.eq_of_error {update : Update} {before after : List Document}
    {error : StoreError} (ends : UpdatesOne update before after (.error error)) :
    after = before := by
  cases ends
  rfl

/-! ## Updates that are asked for again -/

/-- Nothing is left to be written over a document that fields were written over. -/
theorem rewritten_rewritten (fields document : Document) :
    rewritten fields (rewritten fields document) = rewritten fields document := by
  cases alike : Document.same (Document.extend document fields) document with
  | true => rw [rewritten_of_same alike, rewritten_of_same alike]
  | false =>
      rw [rewritten_of_changed alike]
      refine rewritten_of_same ?_
      rw [Document.extend_extend, Document.same, Json.same_refl]

/-- An update that goes past a document again leaves it as it is, whether it matches now or
not. -/
theorem passed_passed (update : Update) (document : Document) :
    passed update (passed update document) = passed update document := by
  cases accepts : Filter.accepts document update.filter with
  | false => rw [passed_of_rejects accepts, passed_of_rejects accepts]
  | true => rw [passed_of_accepts accepts, passed, rewritten_rewritten, ite_self]

/-- An update for many that succeeded leaves documents to which it has nothing more to do. -/
theorem UpdatesMany.settled {update : Update} {before after : List Document}
    {outcome : UpdateOutcome} (ends : UpdatesMany update before after (.ok outcome)) :
    ∀ document ∈ after, passed update document = document := by
  cases ends
  intro document isDocument
  obtain ⟨old, _, rfl⟩ := List.mem_map.mp isDocument
  exact passed_passed update old

/-- An update for many changes no document if it leaves every document as it is. -/
theorem UpdatesMany.of_settled {update : Update} {documents after : List Document}
    {answer : Except StoreError UpdateOutcome}
    (ends : UpdatesMany update documents after answer)
    (settled : ∀ document ∈ documents, passed update document = document) :
    after = documents ∧ ∀ outcome, answer = .ok outcome → outcome.modified = 0 := by
  cases ends with
  | all evaluated =>
      refine ⟨(List.map_congr_left settled).trans (List.map_id documents), ?_⟩
      intro outcome equal
      obtain rfl := Except.ok.inj equal
      refine List.countP_eq_zero.mpr fun document isDocument => ?_
      rw [settled document isDocument, Document.same, Json.same_refl]
      exact Bool.false_ne_true
  | @stopped earlier document later error evaluated =>
      have before : ∀ other ∈ earlier, passed update other = other :=
        fun other isEarlier => settled other (List.mem_append_left _ isEarlier)
      constructor
      · rw [(List.map_congr_left before).trans (List.map_id earlier)]
      · intro outcome impossible
        cases impossible

/-! ## Changes that set no fields -/

/-- A change is read only if it is one list of fields to be set. -/
theorem eq_setting_of_updatedFields {operation : StoreOperation} {change fields : Document}
    (sorted : Document.Sorted change)
    (readable : updatedFields operation change = .ok fields) :
    change = Document.setting fields := by
  unfold updatedFields at readable
  split at readable
  · cases readable
  · next noOther =>
      have named : ∀ member ∈ change, member.1 = OperatorName.set := by
        simpa using List.find?_eq_none.mp noOther
      split at readable
      · next found =>
          obtain rfl := Except.ok.inj readable
          refine sorted.ext (Document.Sorted.single _ _) fun name => ?_
          by_cases isSet : name = OperatorName.set
          · rw [isSet, found, Document.setting, Document.get?_single_self]
          · rw [Document.setting, Document.get?_single_of_ne _ isSet,
              Option.eq_none_iff_forall_ne_some]
            exact fun value present => isSet (named _ (Document.mem_of_get? present))
      · cases readable

end Collection

/-! ## The store -/

namespace MemoryStore

/-- **What no update touches**: the source of identifiers, the other collections, and of the
collection itself the indexes, the number and the order of its documents, and their primary
keys. -/
structure Framed (place : Namespace) (before after : StoreState MemoryStore) : Prop where
  ids : after.ids = before.ids
  elsewhere : ∀ other : Namespace, other.text ≠ place.text →
    after.store.collection other = before.store.collection other
  indexes : (after.store.collection place).indexes = (before.store.collection place).indexes
  primaryKeys : List.Forall₂ Document.SameId (before.store.documents place)
    (after.store.documents place)

section

variable (operation : StoreOperation) (many : Bool) (place : Namespace)
  (filter change fields : Document) (state : StoreState MemoryStore)

theorem run_updateAction :
    (updateAction operation many place filter change).run.run state =
      ((state.store.update place operation filter change many).2,
        ⟨(state.store.update place operation filter change many).1, state.ids⟩) :=
  rfl

/-- The run of an update that sets fields: it goes through the documents of one collection, and
leaves the state as it was if it leaves these as they were. -/
theorem of_run_setting {answer : Except StoreError UpdateOutcome} {behind : StoreState MemoryStore}
    (ran : (updateAction operation many place filter (Document.setting fields)).run.run state =
      (answer, behind)) :
    answer = (state.store.updating place operation filter fields many).2 ∧
      behind.store.documents place = (state.store.updating place operation filter fields many).1 ∧
      (behind.store.documents place = state.store.documents place → behind = state) ∧
      Framed place state behind := by
  rw [run_updateAction] at ran
  obtain ⟨rfl, rfl⟩ := Prod.mk.inj ran
  obtain ⟨ofPlace, result⟩ := state.store.update_ofPlace place operation filter fields many
  have documents := state.store.update_documents place operation filter fields many
  refine ⟨result, documents, fun unchanged => ?_, ?_⟩
  · have sameStore := state.store.update_eq_self place operation filter fields many
      (documents.symm.trans unchanged)
    rw [sameStore]
  · refine ⟨rfl, fun _ differ => ?_, ?_, ?_⟩
    · exact state.store.update_elsewhere place operation filter fields many differ
    · exact (congrArg Collection.indexes ofPlace :)
    · rw [documents]
      exact Collection.updateFrom_sameId _ _ _ _ _

/-- A change that is not one list of fields to be set is refused by a collection that was
made, and nothing is done. -/
theorem update_of_unreadable {collection : Collection}
    (made : state.store.made? place = some collection) (sorted : Document.Sorted change)
    (noSetting : ∀ fields, change ≠ Document.setting fields) :
    ∃ error : StoreError, error.kind = .databaseError ∧
      (updateAction operation many place filter change).run.run state = (.error error, state) := by
  cases readable : Collection.updatedFields operation change with
  | ok fields =>
      exact absurd (Collection.eq_setting_of_updatedFields sorted readable) (noSetting fields)
  | error error =>
      refine ⟨error, (updatedFields_fault readable).1, ?_⟩
      rw [run_updateAction]
      simp only [update, made, Collection.update, readable]
      rw [state.store.withCollection_self place made]

end

/-- **Updates touch what they should and stop cleanly.** Fields are written over the documents that
match and over no others, by an update for many over all of them and by an update for one over the
first. An update for many that fails has done so up to a document, and an update for one that fails
has done nothing. Whether it fails or not, everything else stays. A change that is not one list of
fields to be set is refused as soon as the collection is there. -/
theorem update_touches (state : StoreState MemoryStore) (place : Namespace)
    (filter fields : Document) :
    (∀ answer behind,
      (backend.updateMany place filter (Document.setting fields)).run.run state =
          (answer, behind) →
        Collection.UpdatesMany ⟨place, .updateMany, filter, fields, true⟩
            (state.store.documents place) (behind.store.documents place) answer ∧
          Framed place state behind) ∧
      (∀ answer behind,
        (backend.updateOne place filter (Document.setting fields)).run.run state =
            (answer, behind) →
          Collection.UpdatesOne ⟨place, .updateOne, filter, fields, false⟩
              (state.store.documents place) (behind.store.documents place) answer ∧
            (∀ error, answer = .error error → behind = state) ∧
            Framed place state behind) ∧
      ∀ change collection, Document.Sorted change →
        (∀ fields, change ≠ Document.setting fields) →
        state.store.made? place = some collection →
        (∃ error : StoreError, error.kind = .databaseError ∧
          (backend.updateMany place filter change).run.run state = (.error error, state)) ∧
        ∃ error : StoreError, error.kind = .databaseError ∧
          (backend.updateOne place filter change).run.run state = (.error error, state) := by
  refine ⟨fun answer behind ran => ?_, fun answer behind ran => ?_, ?_⟩
  · obtain ⟨rfl, documents, _, framed⟩ :=
      of_run_setting .updateMany true place filter fields state ran
    rw [documents]
    exact ⟨Collection.updatesMany_updateFrom rfl _ _, framed⟩
  · obtain ⟨rfl, documents, unchanged, framed⟩ :=
      of_run_setting .updateOne false place filter fields state ran
    have ends : Collection.UpdatesOne ⟨place, .updateOne, filter, fields, false⟩
        (state.store.documents place) (behind.store.documents place)
        (state.store.updating place .updateOne filter fields false).2 := by
      rw [documents]
      exact Collection.updatesOne_updateFrom rfl _ _
    refine ⟨ends, fun error failed => unchanged ?_, framed⟩
    rw [failed] at ends
    exact ends.eq_of_error
  · intro change collection sorted noSetting made
    exact ⟨update_of_unreadable .updateMany true place filter change state made sorted noSetting,
      update_of_unreadable .updateOne false place filter change state made sorted noSetting⟩

/-- Two notes under a unique index of their slugs. -/
def twoNotes : StoreState MemoryStore :=
  ⟨⟨[("test.notes", ⟨[[("_id", .string "a"), ("slug", .string "x")],
      [("_id", .string "b"), ("slug", .string "y")]],
      [⟨[("slug", .ascending)], true, none⟩]⟩)]⟩,
    .fromMillis 0⟩

/-- The notes after the first one got another slug. -/
def twoNotesRenamed : StoreState MemoryStore :=
  ⟨⟨[("test.notes", ⟨[[("_id", .string "a"), ("slug", .string "z")],
      [("_id", .string "b"), ("slug", .string "y")]],
      [⟨[("slug", .ascending)], true, none⟩]⟩)]⟩,
    .fromMillis 0⟩

theorem update_touches_twoNotes :
    (∃ error, (backend.updateMany ⟨"test", "notes"⟩ []
          (Document.setting [("slug", .string "z")])).run.run twoNotes =
        (.error error, twoNotesRenamed)) ∧
      Framed ⟨"test", "notes"⟩ twoNotes twoNotesRenamed ∧
      ∃ error : StoreError, error.kind = .databaseError ∧
        (backend.updateOne ⟨"test", "notes"⟩ [] [("$unset", .object [("slug", .null)])]).run.run
            twoNotes = (.error error, twoNotes) := by
  have ran : (backend.updateMany ⟨"test", "notes"⟩ []
        (Document.setting [("slug", .string "z")])).run.run twoNotes =
      (.error ⟨.updateMany, .alreadyExists, "duplicate key for index slug_1", some "test.notes",
        none⟩, twoNotesRenamed) := by
    rfl
  obtain ⟨manyEnds, _, refused⟩ :=
    update_touches twoNotes ⟨"test", "notes"⟩ [] [("slug", .string "z")]
  refine ⟨⟨_, ran⟩, (manyEnds _ _ ran).2, ?_⟩
  refine (refused [("$unset", .object [("slug", .null)])] _ (.single _ _) ?_ rfl).2
  intro fields same
  have names : ["$unset"] = ["$set"] := congrArg (List.map Prod.fst) same
  exact absurd names (by decide)

/-- **An update for many that succeeded has nothing left to do.** If it is asked for again, it
changes nothing, whatever it answers; and if it succeeds again, it counts no change. -/
theorem updateMany_again {state behind : StoreState MemoryStore} {place : Namespace}
    {filter fields : Document} {outcome : UpdateOutcome}
    (succeeded : (backend.updateMany place filter (Document.setting fields)).run.run state =
      (.ok outcome, behind)) :
    ∃ answer, (backend.updateMany place filter (Document.setting fields)).run.run behind =
        (answer, behind) ∧
      ∀ again, answer = .ok again → again.modified = 0 := by
  obtain ⟨again, afterAgain, ran⟩ : ∃ answer after,
      (backend.updateMany place filter (Document.setting fields)).run.run behind =
        (answer, after) := ⟨_, _, rfl⟩
  obtain ⟨answered, documents, _, _⟩ :=
    of_run_setting .updateMany true place filter fields state succeeded
  obtain ⟨rfl, documentsAgain, unchanged, _⟩ :=
    of_run_setting .updateMany true place filter fields behind ran
  let update : Collection.Update := ⟨place, .updateMany, filter, fields, true⟩
  have first : Collection.UpdatesMany update (state.store.documents place)
      (behind.store.documents place) (.ok outcome) := by
    rw [documents, answered]
    exact Collection.updatesMany_updateFrom rfl _ _
  have second : Collection.UpdatesMany update (behind.store.documents place)
      (afterAgain.store.documents place)
      (behind.store.updating place .updateMany filter fields true).2 := by
    rw [documentsAgain]
    exact Collection.updatesMany_updateFrom rfl _ _
  obtain ⟨sameDocuments, noneModified⟩ := second.of_settled first.settled
  obtain rfl := unchanged sameDocuments
  exact ⟨_, ran, noneModified⟩

/-- The notes after both were filed. -/
def twoNotesFiled : StoreState MemoryStore :=
  ⟨⟨[("test.notes",
      ⟨[[("_id", .string "a"), ("folder", .string "old"), ("slug", .string "x")],
        [("_id", .string "b"), ("folder", .string "old"), ("slug", .string "y")]],
      [⟨[("slug", .ascending)], true, none⟩]⟩)]⟩, .fromMillis 0⟩

/-- Filing all notes that are not filed: afterwards none of them matches. -/
theorem updateMany_again_twoNotes :
    (backend.updateMany ⟨"test", "notes"⟩ [("folder", .object [("$ne", .string "old")])]
        (Document.setting [("folder", .string "old")])).run.run twoNotes =
      (.ok ⟨2, 2, none⟩, twoNotesFiled) ∧
    ∃ answer,
      (backend.updateMany ⟨"test", "notes"⟩ [("folder", .object [("$ne", .string "old")])]
          (Document.setting [("folder", .string "old")])).run.run twoNotesFiled =
        (answer, twoNotesFiled) ∧
      ∀ again, answer = .ok again → again.modified = 0 := by
  have ran : (backend.updateMany ⟨"test", "notes"⟩
        [("folder", .object [("$ne", .string "old")])]
        (Document.setting [("folder", .string "old")])).run.run twoNotes =
      (.ok ⟨2, 2, none⟩, twoNotesFiled) := by
    rfl
  exact ⟨ran, updateMany_again ran⟩

/-- Asking again may fail: the first branch of the filter holds no longer, and the second one
cannot be evaluated. -/
example :
    let note : StoreState MemoryStore := ⟨⟨[("test.notes",
      ⟨[[("_id", .string "a"), ("slug", .string "x")]], []⟩)]⟩, .fromMillis 0⟩
    let filter : Document := [("$or", .array [.object [("slug", .string "x")],
      .object [("slug", .object [("$exists", .boolean true)])]])]
    let update := (backend.updateMany ⟨"test", "notes"⟩ filter
      (Document.setting [("slug", .string "z")])).run.run
    (update note).1 = .ok ⟨1, 1, none⟩ ∧
      (update (update note).2).1 =
        .error (.databaseError .find "unsupported filter operator '$exists'") :=
  ⟨rfl, rfl⟩

end MemoryStore

end Docket
