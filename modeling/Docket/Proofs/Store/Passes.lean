import Docket.Proofs.Store.Continuity
import Docket.Proofs.Store.Locality

/-!
# How far an update for many gets

An update for many goes past one document after another. Past a document that it
matches it leaves that document with the fields written over it, and past any
other document it leaves that as it was (`passed`). There are two ways in which it
ends. It may go past all documents; then every one of them could be evaluated, and
its outcome counts those that matched and those that changed. Or it stops at a
document; then those before are left as it went past them, and that document and
all behind it are as they were (`updateFrom_ends`).

It stops at a document for one of two causes: the filter cannot be evaluated on it,
or it matches and is refused. What is written is not taken back when the update
stops, so whether anything was written depends on the documents that come first.
-/

set_option autoImplicit false

namespace Docket.Collection

/-- What becomes of a matched document that an update does not refuse: the fields are
written over it, unless that changes nothing. -/
def rewritten (fields document : Document) : Document :=
  if Document.same (Document.extend document fields) document then document
  else Document.extend document fields

theorem rewritten_of_same {fields document : Document}
    (unchanged : Document.same (Document.extend document fields) document = true) :
    rewritten fields document = document :=
  if_pos unchanged

theorem rewritten_of_changed {fields document : Document}
    (changed : Document.same (Document.extend document fields) document = false) :
    rewritten fields document = Document.extend document fields :=
  if_neg (Bool.eq_false_iff.mp changed)

/-- What becomes of a matched document is the same as it was if the fields change nothing. -/
theorem same_rewritten (fields document : Document) :
    Document.same (rewritten fields document) document =
      Document.same (Document.extend document fields) document := by
  unfold rewritten
  split
  · next unchanged => rw [unchanged, Document.same, Json.same_refl]
  · rfl

/-- What becomes of a document that an update goes past. -/
def passed (update : Update) (document : Document) : Document :=
  if Filter.accepts document update.filter then rewritten update.fields document else document

theorem eq_rewritten_of_updatedDocument {update : Update} {indexes : List Index}
    {others : List Document} {document next : Document}
    (updated : updatedDocument update indexes others document = .ok next) :
    next = rewritten update.fields document := by
  unfold updatedDocument at updated
  split at updated
  · cases updated
  · next written overwrites =>
      obtain rfl := eq_extend_of_overwritten overwrites
      unfold rewritten
      split at updated
      · next unchanged => rw [if_pos unchanged, Except.ok.inj updated]
      · next changed =>
          rw [if_neg changed]
          split at updated
          · cases updated
          · exact (Except.ok.inj updated).symm

/-- An outcome with what is counted on the way past documents. -/
def tallied (update : Update) (outcome : UpdateOutcome) (documents : List Document) :
    UpdateOutcome :=
  { outcome with
    matched := outcome.matched +
      documents.countP fun document => Filter.accepts document update.filter
    modified := outcome.modified + documents.countP fun document =>
      Filter.accepts document update.filter && !Document.same (passed update document) document }

section

variable {update : Update} {document : Document} (outcome : UpdateOutcome)
  (documents : List Document)

theorem passed_of_rejects (rejects : Filter.accepts document update.filter = false) :
    passed update document = document := by
  rw [passed, rejects, if_neg Bool.false_ne_true]

theorem passed_of_accepts (accepts : Filter.accepts document update.filter = true) :
    passed update document = rewritten update.fields document :=
  if_pos accepts

theorem passed_of_unmatched (unmatched : Filter.holds document update.filter = .ok false) :
    passed update document = document :=
  passed_of_rejects (Filter.accepts_of_holds unmatched)

theorem passed_of_matched (matched : Filter.holds document update.filter = .ok true) :
    passed update document = rewritten update.fields document :=
  passed_of_accepts (Filter.accepts_of_holds matched)

theorem tallied_of_unmatched (unmatched : Filter.holds document update.filter = .ok false) :
    tallied update outcome (document :: documents) = tallied update outcome documents := by
  simp [tallied, Filter.accepts_of_holds unmatched]

theorem tallied_of_matched (matched : Filter.holds document update.filter = .ok true) :
    tallied update outcome (document :: documents) =
      tallied update (counted outcome (!Document.same (passed update document) document))
        documents := by
  simp only [tallied, counted, List.countP_cons, Filter.accepts_of_holds matched, if_true,
    Bool.true_and]
  congr 1 <;> omega

end

/-- An update goes past documents that do not match and leaves them as they are. -/
theorem updateFrom_skip {update : Update} (indexes : List Index) {earlier : List Document}
    (unmatched : ∀ document ∈ earlier, Filter.holds document update.filter = .ok false)
    (before rest : List Document) (outcome : UpdateOutcome) :
    updateFrom update indexes before (earlier ++ rest) outcome =
      (earlier ++ (updateFrom update indexes (before ++ earlier) rest outcome).1,
        (updateFrom update indexes (before ++ earlier) rest outcome).2) := by
  induction earlier generalizing before with
  | nil => rw [List.append_nil, List.nil_append, List.nil_append]
  | cons document others ih =>
      obtain ⟨here, behind⟩ := List.forall_mem_cons.mp unmatched
      rw [List.cons_append, updateFrom_of_unmatched outcome here, ih behind,
        List.append_cons before document others, List.cons_append]

/-- An update that matches no document does nothing. -/
theorem updateFrom_of_noMatch {update : Update} (indexes : List Index) {documents : List Document}
    (noMatch : ∀ document ∈ documents, Filter.holds document update.filter = .ok false)
    (before : List Document) (outcome : UpdateOutcome) :
    updateFrom update indexes before documents outcome = (documents, .ok outcome) := by
  have skipped := updateFrom_skip indexes noMatch before [] outcome
  rwa [List.append_nil, updateFrom, List.append_nil] at skipped

/-- An update for many stops at a document for an error: those before it could be
evaluated, and it either cannot be, or it matches and is refused. -/
structure Stops (update : Update) (indexes : List Index) (before earlier : List Document)
    (document : Document) (later : List Document) (error : StoreError) : Prop where
  evaluated : ∀ other ∈ earlier, ∃ verdict, Filter.holds other update.filter = .ok verdict
  cause : Filter.holds document update.filter = .error error ∨
    Filter.holds document update.filter = .ok true ∧
      updatedDocument update indexes (before ++ earlier.map (passed update) ++ later) document =
        .error error

/-- What stops an update behind a document stops it from there. -/
theorem Stops.cons {update : Update} {indexes : List Index} {before earlier later : List Document}
    {first document : Document} {error : StoreError} {verdict : Bool}
    (here : Filter.holds first update.filter = .ok verdict)
    (stops : Stops update indexes (before ++ [passed update first]) earlier document later error) :
    Stops update indexes before (first :: earlier) document later error := by
  refine ⟨List.forall_mem_cons.mpr ⟨⟨verdict, here⟩, stops.evaluated⟩, ?_⟩
  rw [List.map_cons, List.append_cons]
  exact stops.cause

/-- **An update for many goes past all documents, or stops at one of them.** -/
theorem updateFrom_ends {update : Update} (many : update.many = true) (indexes : List Index)
    (before documents : List Document) (outcome : UpdateOutcome) :
    ((∀ document ∈ documents, ∃ verdict,
      Filter.holds document update.filter = .ok verdict) ∧
        updateFrom update indexes before documents outcome =
          (documents.map (passed update), .ok (tallied update outcome documents))) ∨
      ∃ earlier document later error, documents = earlier ++ document :: later ∧
        Stops update indexes before earlier document later error ∧
          updateFrom update indexes before documents outcome =
            (earlier.map (passed update) ++ document :: later, .error error) := by
  induction documents generalizing before outcome with
  | nil => exact .inl ⟨by simp, rfl⟩
  | cons document rest ih =>
      cases matched : Filter.holds document update.filter with
      | error error =>
          refine .inr ⟨[], document, rest, error, rfl, ⟨by simp, .inl matched⟩, ?_⟩
          exact updateFrom_of_fault outcome matched
      | ok verdict =>
          cases verdict with
          | false =>
              have unchanged := passed_of_unmatched matched
              rw [updateFrom_of_unmatched outcome matched, List.map_cons, unchanged,
                tallied_of_unmatched outcome rest matched]
              rcases ih (before ++ [document]) outcome with
                ⟨evaluated, result⟩ | ⟨earlier, stopped, later, error, split, stops, result⟩
              · refine .inl
                  ⟨List.forall_mem_cons.mpr ⟨⟨false, matched⟩, evaluated⟩, ?_⟩
                rw [result]
              · rw [← unchanged] at stops
                refine .inr ⟨document :: earlier, stopped, later, error, by rw [split]; rfl,
                  stops.cons matched, ?_⟩
                rw [result, List.map_cons, unchanged]
                rfl
          | true =>
              cases updated : updatedDocument update indexes (before ++ rest) document with
              | error error =>
                  refine .inr ⟨[], document, rest, error, rfl,
                    ⟨by simp, .inr ⟨matched, ?_⟩⟩, ?_⟩
                  · rw [List.map_nil, List.append_nil]
                    exact updated
                  · exact updateFrom_of_refused outcome matched updated
              | ok next =>
                  have becomes : next = passed update document := by
                    rw [passed_of_matched matched, eq_rewritten_of_updatedDocument updated]
                  subst becomes
                  rw [updateFrom_of_written outcome matched updated, many, if_pos rfl,
                    List.map_cons, tallied_of_matched outcome rest matched]
                  rcases ih (before ++ [passed update document])
                      (counted outcome (!Document.same (passed update document) document)) with
                    ⟨evaluated, result⟩ |
                      ⟨earlier, stopped, later, error, split, stops, result⟩
                  · refine .inl
                      ⟨List.forall_mem_cons.mpr ⟨⟨true, matched⟩, evaluated⟩, ?_⟩
                    rw [result]
                  · refine .inr ⟨document :: earlier, stopped, later, error, by rw [split]; rfl,
                      stops.cons matched, ?_⟩
                    rw [result]
                    rfl

end Docket.Collection
