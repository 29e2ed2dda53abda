import Docket.Proofs.Store.Attempts
import Mathlib.Data.List.Forall2

/-!
# What stored records keep

Records persist from one list of documents to another if those that were there
are still there, in their order, with the primary key and the time of creation
that they had, and if none that was deleted is live again. What stands behind
them was added: it has an identifier that is assigned, and that no other record
has (`Continues`). This is a relation between the documents at two times,
whatever happened in between, so it is reflexive and transitive.

An update that writes no primary key, no time of creation and no null for the
time of deletion leaves records that continue those before it, even if it fails
part way (`updateFrom_persists`). So does the insertion of a document whose primary
key is an assigned identifier (`insertFrom_continues`).
-/

set_option autoImplicit false

namespace Docket

namespace Document

/-- A stored document after some time: it has the same primary key and time of
creation, and if it was deleted it still is. -/
structure Persists (before after : Document) : Prop where
  primaryKey : get? after FieldName.primaryKey = get? before FieldName.primaryKey
  createdAt : get? after FieldName.createdAt = get? before FieldName.createdAt
  deleted : ¬ before.IsLive → ¬ after.IsLive

theorem Persists.refl (document : Document) : document.Persists document :=
  ⟨rfl, rfl, id⟩

theorem Persists.trans {first second third : Document} (before : first.Persists second)
    (after : second.Persists third) : first.Persists third where
  primaryKey := after.primaryKey.trans before.primaryKey
  createdAt := after.createdAt.trans before.createdAt
  deleted := after.deleted ∘ before.deleted

/-- The primary key of a document is an identifier that is assigned. -/
def Assigned (document : Document) : Prop :=
  ∃ id : RecordId, id ≠ .unassigned ∧ get? document FieldName.primaryKey = some id.toJson

theorem Assigned.keyed {document : Document} (assigned : document.Assigned) : document.Keyed := by
  obtain ⟨id, _, found⟩ := assigned
  exact ⟨id.toJson, found⟩

theorem Assigned.persists {before after : Document} (assigned : before.Assigned)
    (persists : before.Persists after) : after.Assigned := by
  obtain ⟨id, isAssigned, found⟩ := assigned
  exact ⟨id, isAssigned, persists.primaryKey.trans found⟩

theorem SamePrimaryKey.of_persists {first firstAfter second secondAfter : Document}
    (firstPersists : first.Persists firstAfter) (secondPersists : second.Persists secondAfter)
    (same : firstAfter.SamePrimaryKey secondAfter) : first.SamePrimaryKey second := by
  obtain ⟨id, other, firstKey, secondKey, alike⟩ := same
  exact ⟨id, other, firstPersists.primaryKey ▸ firstKey,
    secondPersists.primaryKey ▸ secondKey, alike⟩

/-- Fields that may be written over any record: they have no primary key, no time of
creation, and no null for the time of deletion. -/
structure Harmless (fields : Document) : Prop where
  primaryKey : ∀ field ∈ fields, field.1 ≠ FieldName.primaryKey
  createdAt : ∀ field ∈ fields, field.1 ≠ FieldName.createdAt
  deletedAt : (FieldName.deletedAt, .null) ∉ fields

/-- A record persists when harmless fields are written over it. -/
theorem Harmless.persists {fields : Document} (harmless : fields.Harmless) (document : Document) :
    document.Persists (extend document fields) where
  primaryKey := get?_extend_of_unnamed harmless.primaryKey document
  createdAt := get?_extend_of_unnamed harmless.createdAt document
  deleted := by
    intro deleted live
    by_cases named : ∃ field ∈ fields, field.1 = FieldName.deletedAt
    · obtain ⟨value, last⟩ := exists_lastFor named
      have isField : (FieldName.deletedAt, value) ∈ fields := by
        obtain ⟨earlier, later, rfl, _⟩ := last
        simp
      rw [IsLive, get?_extend_of_lastFor last] at live
      rcases live with missing | null
      · cases missing
      · obtain rfl := Option.some.inj null
        exact harmless.deletedAt isField
    · have unnamed : ∀ field ∈ fields, field.1 ≠ FieldName.deletedAt :=
        fun field isField equal => named ⟨field, isField, equal⟩
      rw [IsLive, get?_extend_of_unnamed unnamed] at live
      exact deleted live

end Document

open Document (Persists Assigned SamePrimaryKey)

/-! ## Continuation -/

/-- Documents were added to others: their primary keys are assigned identifiers, and
no other document has them. -/
structure Fresh (kept added : List Document) : Prop where
  assigned : ∀ document ∈ added, document.Assigned
  unlike : ∀ document ∈ added, ∀ other ∈ kept, ¬ document.SamePrimaryKey other
  distinct : added.Pairwise fun first second => ¬ first.SamePrimaryKey second

/-- **Records after some time**: those that were there persist in their order, and
those behind them were added. -/
def Continues (before after : List Document) : Prop :=
  ∃ kept added, after = kept ++ added ∧ List.Forall₂ Persists before kept ∧ Fresh kept added

theorem Fresh.nil (kept : List Document) : Fresh kept [] :=
  ⟨by simp, by simp, .nil⟩

/-- Records that persist are continued, as they are, by themselves. -/
theorem Continues.of_persists {before after : List Document}
    (persist : List.Forall₂ Persists before after) : Continues before after :=
  ⟨after, [], (List.append_nil after).symm, persist, .nil after⟩

theorem Continues.refl (documents : List Document) : Continues documents documents :=
  .of_persists (List.forall₂_same.mpr fun document _ => .refl document)

/-- No record is lost. -/
theorem Continues.length_le {before after : List Document} (continues : Continues before after) :
    before.length ≤ after.length := by
  obtain ⟨kept, added, rfl, persist, _⟩ := continues
  rw [List.length_append, persist.length_eq]
  omega

section

variable {α β : Type} {relation : α → β → Prop} {before : List α} {after : List β}

theorem exists_of_mem_right (related : List.Forall₂ relation before after) {item : β}
    (isMember : item ∈ after) : ∃ earlier ∈ before, relation earlier item := by
  induction related with
  | nil => cases isMember
  | cons here _ ih =>
      rcases List.mem_cons.mp isMember with rfl | behind
      · exact ⟨_, List.mem_cons_self, here⟩
      · obtain ⟨earlier, isEarlier, related⟩ := ih behind
        exact ⟨earlier, List.mem_cons_of_mem _ isEarlier, related⟩

theorem exists_split_of_append {first second : List α}
    (related : List.Forall₂ relation (first ++ second) after) :
    ∃ firstAfter secondAfter, after = firstAfter ++ secondAfter ∧
      List.Forall₂ relation first firstAfter ∧ List.Forall₂ relation second secondAfter := by
  induction first generalizing after with
  | nil => exact ⟨[], after, rfl, .nil, related⟩
  | cons item rest ih =>
      obtain ⟨next, afterRest, here, behind, rfl⟩ := List.forall₂_cons_left_iff.mp related
      obtain ⟨firstAfter, secondAfter, rfl, firstRelated, secondRelated⟩ := ih behind
      exact ⟨next :: firstAfter, secondAfter, rfl, .cons here firstRelated, secondRelated⟩

end

theorem persists_trans {first second third : List Document}
    (before : List.Forall₂ Persists first second) (after : List.Forall₂ Persists second third) :
    List.Forall₂ Persists first third := by
  induction before generalizing third with
  | nil => exact after
  | cons here _ ih =>
      obtain ⟨next, rest, nextPersists, behind, rfl⟩ := List.forall₂_cons_left_iff.mp after
      exact .cons (here.trans nextPersists) (ih behind)

/-- Records that persist keep having different primary keys. -/
theorem distinct_of_persists {before after : List Document}
    (persist : List.Forall₂ Persists before after)
    (distinct : before.Pairwise fun first second => ¬ first.SamePrimaryKey second) :
    after.Pairwise fun first second => ¬ first.SamePrimaryKey second := by
  induction persist with
  | nil => exact .nil
  | cons here behind ih =>
      obtain ⟨unlike, restDistinct⟩ := List.pairwise_cons.mp distinct
      refine List.pairwise_cons.mpr ⟨fun other isOther same => ?_, ih restDistinct⟩
      obtain ⟨earlier, isEarlier, persists⟩ := exists_of_mem_right behind isOther
      exact unlike earlier isEarlier (same.of_persists here persists)

/-- **What continues records that continue others continues those.** What was added
first persists from then on, and so remains fresh among the records that persist. -/
theorem Continues.trans {first second third : List Document} (before : Continues first second)
    (after : Continues second third) : Continues first third := by
  obtain ⟨kept, added, rfl, persist, fresh⟩ := before
  obtain ⟨keptAfter, addedAfter, rfl, persistAfter, freshAfter⟩ := after
  obtain ⟨stillKept, stillAdded, rfl, keptPersist, addedPersist⟩ :=
    exists_split_of_append persistAfter
  refine ⟨stillKept, stillAdded ++ addedAfter, List.append_assoc _ _ _,
    persists_trans persist keptPersist, ?_, ?_, ?_⟩
  · intro document isAdded
    rcases List.mem_append.mp isAdded with isStill | isNew
    · obtain ⟨earlier, isEarlier, persists⟩ := exists_of_mem_right addedPersist isStill
      exact (fresh.assigned earlier isEarlier).persists persists
    · exact freshAfter.assigned document isNew
  · intro document isAdded other isKept same
    rcases List.mem_append.mp isAdded with isStill | isNew
    · obtain ⟨earlier, isEarlier, persists⟩ := exists_of_mem_right addedPersist isStill
      obtain ⟨otherEarlier, isOther, otherPersists⟩ := exists_of_mem_right keptPersist isKept
      exact fresh.unlike earlier isEarlier otherEarlier isOther
        (same.of_persists persists otherPersists)
    · exact freshAfter.unlike document isNew other (List.mem_append_left _ isKept) same
  · refine List.pairwise_append.mpr ⟨distinct_of_persists addedPersist fresh.distinct,
      freshAfter.distinct, fun document isStill other isNew same => ?_⟩
    exact freshAfter.unlike other isNew document (List.mem_append_right _ isStill) same.symm

/-! ## Updates and insertions -/

namespace Collection

/-- Whatever is written is written field by field. -/
theorem eq_extend_of_overwritten {document fields next : Document}
    (overwrites : overwritten document fields = some next) :
    next = Document.extend document fields := by
  induction fields generalizing document with
  | nil => exact (Option.some.inj overwrites).symm
  | cons field rest ih =>
      obtain ⟨name, value⟩ := field
      rw [overwritten] at overwrites
      split at overwrites
      · cases overwrites
      · exact ih overwrites

theorem eq_or_eq_of_updatedDocument {update : Update} {indexes : List Index}
    {others : List Document} {document next : Document}
    (updated : updatedDocument update indexes others document = .ok next) :
    next = document ∨ next = Document.extend document update.fields := by
  unfold updatedDocument at updated
  split at updated
  · cases updated
  · next written overwrites =>
      split at updated
      · exact .inl (Except.ok.inj updated).symm
      · split at updated
        · cases updated
        · exact .inr (Except.ok.inj updated ▸ eq_extend_of_overwritten overwrites)

/-- **An update relates each document to what becomes of it**, however far it gets, if a
document is related to itself and, when it matches and is not refused, to what it is updated
to. -/
theorem updateFrom_related_of_updated {update : Update} {relation : Document → Document → Prop}
    (indexes : List Index) (refl : ∀ document, relation document document)
    (writes : ∀ document others next, Filter.holds document update.filter = .ok true →
      updatedDocument update indexes others document = .ok next → relation document next)
    (before documents : List Document) (outcome : UpdateOutcome) :
    List.Forall₂ relation documents (updateFrom update indexes before documents outcome).1 := by
  induction documents generalizing before outcome with
  | nil => exact .nil
  | cons document rest ih =>
      have unchanged : List.Forall₂ relation rest rest :=
        List.forall₂_same.mpr fun document _ => refl document
      cases matched : Filter.holds document update.filter with
      | error error =>
          rw [updateFrom_of_fault outcome matched]
          exact .cons (refl document) unchanged
      | ok verdict =>
          cases verdict with
          | false =>
              rw [updateFrom_of_unmatched outcome matched]
              exact .cons (refl document) (ih _ outcome)
          | true =>
              cases updated : updatedDocument update indexes (before ++ rest) document with
              | error error =>
                  rw [updateFrom_of_refused outcome matched updated]
                  exact .cons (refl document) unchanged
              | ok next =>
                  have related : relation document next :=
                    writes document (before ++ rest) next matched updated
                  rw [updateFrom_of_written outcome matched updated]
                  cases update.many with
                  | false => exact .cons related unchanged
                  | true => exact .cons related (ih _ _)

/-- An update relates each document to what becomes of it, if a document is related to itself
and, when it matches, to itself with the fields written over it. -/
theorem updateFrom_related_of_matched {update : Update} {relation : Document → Document → Prop}
    (refl : ∀ document, relation document document)
    (writes : ∀ document, Filter.holds document update.filter = .ok true →
      relation document (Document.extend document update.fields))
    (indexes : List Index) (before documents : List Document) (outcome : UpdateOutcome) :
    List.Forall₂ relation documents (updateFrom update indexes before documents outcome).1 := by
  refine updateFrom_related_of_updated indexes refl ?_ before documents outcome
  intro document others next matched updated
  rcases eq_or_eq_of_updatedDocument updated with rfl | rfl
  · exact refl next
  · exact writes document matched

/-- An update relates each document to what becomes of it, if a document is related to itself
and to itself with the fields written over it. -/
theorem updateFrom_related {update : Update} {relation : Document → Document → Prop}
    (refl : ∀ document, relation document document)
    (writes : ∀ document, relation document (Document.extend document update.fields))
    (indexes : List Index) (before documents : List Document) (outcome : UpdateOutcome) :
    List.Forall₂ relation documents (updateFrom update indexes before documents outcome).1 :=
  updateFrom_related_of_matched refl (fun document _ => writes document) indexes before documents
    outcome

/-- **Records persist through an update**, however far it gets. -/
theorem updateFrom_persists {update : Update} (harmless : update.fields.Harmless)
    (indexes : List Index) (before documents : List Document) (outcome : UpdateOutcome) :
    List.Forall₂ Persists documents (updateFrom update indexes before documents outcome).1 :=
  updateFrom_related .refl harmless.persists indexes before documents outcome

/-- A document that has a primary key is added as it is, if it collides with no other. -/
theorem insertFrom_of_keyed (place : Namespace) (indexes : List Index) (present : List Document)
    (source : IdSource) {document : Document} {id : Json}
    (found : Document.get? document FieldName.primaryKey = some id) :
    insertFrom place indexes present source [document] =
      match firstCollision? indexes document present with
      | some collision => ⟨present, source, .error (collision.error place .insertMany)⟩
      | none => ⟨present ++ [document], source, .ok [idText id]⟩ := by
  simp only [insertFrom, keyed, found]
  cases firstCollision? indexes document present <;> rfl

/-- Nothing but the document is added. -/
theorem mem_of_mem_insertFrom {place : Namespace} {indexes : List Index} {present : List Document}
    {source : IdSource} {document other : Document} {id : Json}
    (found : Document.get? document FieldName.primaryKey = some id)
    (isStored : other ∈ (insertFrom place indexes present source [document]).documents) :
    other ∈ present ∨ other = document := by
  rw [insertFrom_of_keyed place indexes present source found] at isStored
  cases collides : firstCollision? indexes document present with
  | some collision =>
      rw [collides] at isStored
      exact .inl isStored
  | none =>
      rw [collides] at isStored
      exact (List.mem_append.mp isStored).imp_right List.mem_singleton.mp

/-- A document with an assigned identifier is added only if no other has it. -/
theorem insertFrom_continues (place : Namespace) (indexes : List Index) (present : List Document)
    (source : IdSource) {document : Document} (assigned : document.Assigned) :
    Continues present (insertFrom place indexes present source [document]).documents := by
  obtain ⟨id, found⟩ := assigned.keyed
  rw [insertFrom_of_keyed place indexes present source found]
  cases collides : firstCollision? indexes document present with
  | some collision => exact .refl present
  | none =>
      have free := (firstCollision?_eq_none_iff _ _ _).mp collides
      refine ⟨present, [document], rfl,
        List.forall₂_same.mpr fun other _ => .refl other, ?_, ?_,
        List.pairwise_singleton _ _⟩
      · intro added isAdded
        rw [List.mem_singleton.mp isAdded]
        exact assigned
      · intro added isAdded other isOther same
        rw [List.mem_singleton.mp isAdded] at same
        exact free other isOther (.inl same)

end Collection

end Docket
