import Docket.Proofs.Criteria.Equality
import Docket.Proofs.Persistence.Running
import Docket.Proofs.Store.Targeted

/-!
# Finding the record of an identifier

The criteria that ask for an identifier match the live documents that have it, and on
no document does the evaluation fail (`holds_byId`). So if one stored document and no
other has an identifier, and it is live, then a search by that identifier finds the
record of this document (`findOne_byId`). The order of reads plays no part in it, as
there is nothing to be ordered.
-/

set_option autoImplicit false

namespace Docket

/-- A document and no other of some documents has an identifier. -/
def Document.IsOnly (id : RecordId) (documents : List Document) (document : Document) : Prop :=
  ∃ earlier later, documents = earlier ++ document :: later ∧ Document.HasId id document ∧
    ∀ other ∈ earlier ++ later, ¬ Document.HasId id other

theorem Document.IsOnly.mem {id : RecordId} {documents : List Document} {document : Document}
    (isOnly : Document.IsOnly id documents document) : document ∈ documents := by
  obtain ⟨earlier, later, rfl, _⟩ := isOnly
  exact List.mem_append_right _ List.mem_cons_self

/-- There is one document at most that is the only one. -/
theorem Document.IsOnly.eq_of_hasId {id : RecordId} {documents : List Document}
    {document other : Document} (isOnly : Document.IsOnly id documents document)
    (isOther : other ∈ documents) (hasId : Document.HasId id other) : other = document := by
  obtain ⟨earlier, later, rfl, _, elsewhere⟩ := isOnly
  rcases List.mem_append.mp isOther with before | here
  · exact absurd hasId (elsewhere other (List.mem_append_left _ before))
  · rcases List.mem_cons.mp here with rfl | behind
    · rfl
    · exact absurd hasId (elsewhere other (List.mem_append_right _ behind))

/-- The criteria that ask for the record of an identifier. -/
def Criteria.byId (id : RecordId) : Criteria :=
  .ofExpression "id = ?" [.string id.text]

namespace Criteria

theorem build_byId (id : RecordId) :
    (byId id).build = .ok (equalityFilter FieldName.identifier id.toJson) := by
  have plain : Expression.IsPlainWord FieldName.identifier.toList := by decide
  exact build_equality plain id.toJson

theorem equalityFilter_identifier (value : Json) :
    equalityFilter FieldName.identifier value =
      [(FieldName.primaryKey, value), (FieldName.deletedAt, .null)] := by
  have differ : FieldName.deletedAt ≠ FieldName.primaryKey := by decide
  have before : FieldName.primaryKey < FieldName.deletedAt := by decide
  rw [equalityFilter, Document.live, Document.single, FieldName.soleKey, if_pos rfl,
    Document.insert, if_neg differ, if_pos before]

/-- **By an identifier the live documents match that have it.** -/
theorem holds_byId (document : Document) (id : RecordId) :
    ∃ verdict, Filter.holds document (equalityFilter FieldName.identifier id.toJson) =
        .ok verdict ∧
      (verdict = true ↔ Document.HasId id document ∧ document.IsLive) := by
  have keyed : Filter.memberHolds document FieldName.primaryKey id.toJson =
      .ok (decide (Document.HasId id document)) := by
    rw [← Filter.holds_single]
    exact Filter.holds_ofId document id
  have live : Filter.memberHolds document FieldName.deletedAt .null =
      .ok (Filter.fieldEquals (Document.get? document FieldName.deletedAt) .null) := by
    rw [Filter.memberHolds_of_ne (by decide), Filter.conditionHolds_of_value rfl]
  rw [equalityFilter_identifier, Filter.holds_cons, keyed]
  by_cases hasId : Document.HasId id document
  · refine ⟨Filter.fieldEquals (Document.get? document FieldName.deletedAt) .null, ?_, ?_⟩
    · rw [decide_eq_true hasId]
      exact (Filter.holds_single document FieldName.deletedAt .null).trans live
    · rw [Filter.fieldEquals_null_iff]
      exact (and_iff_right hasId).symm
  · refine ⟨false, by rw [decide_eq_false hasId]; rfl, ?_⟩
    exact ⟨fun impossible => absurd impossible Bool.false_ne_true,
      fun both => absurd both.1 hasId⟩

end Criteria

/-- A read by an identifier finds the one live document that has it. -/
theorem MemoryStore.find_byId {store : MemoryStore} {place : Namespace} {id : RecordId}
    {document : Document} (isOnly : Document.IsOnly id (store.documents place) document)
    (isLive : document.IsLive) :
    store.find place (Criteria.equalityFilter FieldName.identifier id.toJson)
        (Access.newestFirst.limited 1) = .ok [document] := by
  obtain ⟨earlier, later, split, hasId, elsewhere⟩ := isOnly
  generalize ofFilter : Criteria.equalityFilter FieldName.identifier id.toJson = filter
  have evaluates : ∀ other, ∃ verdict, Filter.holds other filter = .ok verdict ∧
      (verdict = true ↔ Document.HasId id other ∧ other.IsLive) :=
    fun other => ofFilter ▸ Criteria.holds_byId other id
  have accepts : ∀ other, Filter.accepts other filter = true ↔
      Document.HasId id other ∧ other.IsLive := by
    intro other
    obtain ⟨verdict, evaluated, matched⟩ := evaluates other
    rw [Filter.accepts_of_holds evaluated, matched]
  have noneOf : ∀ others : List Document, (∀ other ∈ others, other ∈ earlier ++ later) →
      others.filter (fun other => Filter.accepts other filter) = [] := by
    intro others among
    refine List.filter_eq_nil_iff.mpr fun other isOther accepted => ?_
    exact elsewhere other (among other isOther) ((accepts other).mp accepted).1
  have only : store.matching place filter = [document] := by
    rw [MemoryStore.matching, split, List.filter_append, List.filter_cons,
      if_pos ((accepts document).mpr ⟨hasId, isLive⟩),
      noneOf earlier fun _ isEarlier => List.mem_append_left _ isEarlier,
      noneOf later fun _ isLater => List.mem_append_right _ isLater]
    rfl
  have evaluated : store.Evaluates place filter := fun other _ =>
    ⟨(evaluates other).choose, (evaluates other).choose_spec.1⟩
  rw [MemoryStore.find_eq evaluated, only]
  rfl

namespace Repository

variable {model : ModelType} {entity : RecordType} (place : Namespace)
  (custom : Option (ModelConverter model.toRecordType entity)) (copier : Copier)

/-- **A search by an identifier finds the record of the one live document that has it.** -/
theorem findOne_byId {world : World MemoryStore} {id : RecordId} {document : Document}
    (isOnly : Document.IsOnly id (world.store.documents place) document)
    (isLive : document.IsLive) {stored : model.Value}
    (decodes : (Access.inMemory model place).decode .findOne document = .ok stored)
    {record : entity.Value}
    (converts : ((inMemory place custom copier).converter.toEntity stored).value = .ok record) :
    (((inMemory place custom copier).findOne (Criteria.byId id)).run.run world).1 =
      .ok record := by
  have reads : ((Access.inMemory model place).findOne
      (Criteria.equalityFilter FieldName.identifier id.toJson)).run.run world = _ :=
    Access.run_findOne place world _
  rw [MemoryStore.find_byId isOnly isLive] at reads
  have found : (((Except.ok [document] : Except StoreError (List Document)).mapError
      Failure.store).bind (Access.decodeFirst place)) = .ok stored := decodes
  rw [found] at reads
  rw [run_findOne place custom copier world (Criteria.build_byId id),
    Action.run_bind_of_ok world reads, Action.run_ofConversion, converts]
  rfl

end Repository

end Docket
