import Docket.Proofs.Store.Matching

/-!
# What a filter looks at

A filter names a field if one of its members has the name of the field, or if a
branch of one of its disjunctions names the field, however deep it is. What a
filter says of a document depends on the fields that it names only: of two
documents that differ in no other field than one that is not named, both match
or neither does, or the evaluation fails alike for both (`holds_congr`). This is
an equation between outcomes, so the order in which members are looked at and the
short cuts need no mention.

A filter asks for live documents if it asks that there is no time of deletion and
names the time of deletion nowhere else. A document that matches such a filter
does not match it any more once it is deleted, and the evaluation does not fail
then, as every member that comes before the one for the time of deletion holds of
the deleted document as it did before (`AsksLive.holds_of_deleted`).
-/

set_option autoImplicit false

namespace Docket

/-- Two documents have the same under every name but one. -/
def Document.AgreeBut (field : String) (first second : Document) : Prop :=
  ∀ name, name ≠ field → Document.get? first name = Document.get? second name

namespace Filter

/-- A document matches a filter, and the evaluation does not fail. -/
def accepts (document filter : Document) : Bool :=
  match holds document filter with
  | .ok verdict => verdict
  | .error _ => false

theorem accepts_iff (document filter : Document) :
    accepts document filter = true ↔ holds document filter = .ok true := by
  unfold accepts
  cases holds document filter with
  | ok verdict => simp
  | error error => simp

theorem accepts_of_holds {document filter : Document} {verdict : Bool}
    (evaluated : holds document filter = .ok verdict) : accepts document filter = verdict := by
  rw [accepts, evaluated]

/-- A read of documents on all of which the filter can be evaluated finds those that
match. -/
theorem select_of_evaluated {filter : Document} {documents : List Document}
    (evaluated : ∀ document ∈ documents, ∃ verdict, holds document filter = .ok verdict) :
    select filter documents = .ok (documents.filter fun document => accepts document filter) := by
  induction documents with
  | nil => rfl
  | cons document rest ih =>
      obtain ⟨⟨verdict, here⟩, behind⟩ := List.forall_mem_cons.mp evaluated
      rw [select, here, ih behind, List.filter_cons, accepts_of_holds here]
      cases verdict <;> rfl

/-- A read that finds something evaluated the filter on all documents. -/
theorem evaluated_of_select {filter : Document} {documents selected : List Document}
    (found : select filter documents = .ok selected) :
    ∀ document ∈ documents, ∃ verdict, holds document filter = .ok verdict := by
  induction documents generalizing selected with
  | nil => exact List.forall_mem_nil _
  | cons document rest ih =>
      rw [select] at found
      obtain ⟨verdict, here, found⟩ := steps_of_bind_eq_ok found
      obtain ⟨others, behind, _⟩ := steps_of_bind_eq_ok found
      exact List.forall_mem_cons.mpr ⟨⟨verdict, here⟩, ih behind⟩

/-! ## The fields that a filter names -/

mutual

/-- A filter names a field. -/
def names (field : String) : List (String × Json) → Bool
  | [] => false
  | (name, condition) :: rest =>
      (if name = OperatorName.anyOf then branchesName field condition else name == field) ||
        names field rest

/-- A branch of a disjunction names a field. -/
def branchesName (field : String) : Json → Bool
  | .array branches => someNames field branches
  | _ => false

/-- One filter of a list names a field. -/
def someNames (field : String) : List Json → Bool
  | [] => false
  | branch :: rest => branchNames field branch || someNames field rest

/-- The filter that a value is names a field. -/
def branchNames (field : String) : Json → Bool
  | .object members => names field members
  | _ => false

end

mutual

/-- **What a filter says of a document depends on the fields that it names.** -/
theorem holds_congr {field : String} {first second : Document}
    (agree : Document.AgreeBut field first second) : (filter : List (String × Json)) →
    names field filter = false → holds first filter = holds second filter
  | [], _ => by rw [holds_nil, holds_nil]
  | (name, condition) :: rest, unnamed => by
      rw [names, Bool.or_eq_false_iff] at unnamed
      obtain ⟨here, behind⟩ := unnamed
      have alike : memberHolds first name condition = memberHolds second name condition := by
        unfold memberHolds
        split at here
        · next isDisjunction =>
            rw [if_pos isDisjunction, if_pos isDisjunction]
            exact anyBranchHolds_congr agree condition here
        · next isField =>
            rw [if_neg isField, if_neg isField, agree name (by simpa using here)]
      rw [holds_cons, holds_cons, alike, holds_congr agree rest behind]

theorem anyBranchHolds_congr {field : String} {first second : Document}
    (agree : Document.AgreeBut field first second) : (condition : Json) →
    branchesName field condition = false →
      anyBranchHolds first condition = anyBranchHolds second condition
  | .array branches, unnamed => by
      rw [branchesName] at unnamed
      rw [anyBranchHolds, anyBranchHolds, someHolds_congr agree branches unnamed]
  | .null, _ | .boolean _, _ | .number _, _ | .string _, _ | .object _, _ => by
      simp only [anyBranchHolds]

theorem someHolds_congr {field : String} {first second : Document}
    (agree : Document.AgreeBut field first second) : (branches : List Json) →
    someNames field branches = false → someHolds first branches = someHolds second branches
  | [], _ => by rw [someHolds, someHolds]
  | branch :: rest, unnamed => by
      rw [someNames, Bool.or_eq_false_iff] at unnamed
      obtain ⟨here, behind⟩ := unnamed
      rw [someHolds, someHolds, branchHolds_congr agree branch here,
        someHolds_congr agree rest behind]

theorem branchHolds_congr {field : String} {first second : Document}
    (agree : Document.AgreeBut field first second) : (branch : Json) →
    branchNames field branch = false → branchHolds first branch = branchHolds second branch
  | .object members, unnamed => by
      rw [branchNames] at unnamed
      rw [branchHolds, branchHolds, holds_congr agree members unnamed]
  | .null, _ | .boolean _, _ | .number _, _ | .string _, _ | .array _, _ => by
      simp only [branchHolds]

end

theorem holds_single (document : Document) (name : String) (condition : Json) :
    holds document [(name, condition)] = memberHolds document name condition := by
  rw [holds_cons]
  rcases memberHolds document name condition with error | verdict
  · rfl
  · cases verdict <;> simp [Except.bind, holds_nil]

theorem memberHolds_congr {field name : String} {condition : Json} {first second : Document}
    (agree : Document.AgreeBut field first second)
    (unnamed : names field [(name, condition)] = false) :
    memberHolds first name condition = memberHolds second name condition := by
  rw [← holds_single, ← holds_single, holds_congr agree _ unnamed]

/-! ## Filters for live documents -/

/-- A filter asks that there is no time of deletion, and names the time of deletion
nowhere else. -/
structure AsksLive (filter : Document) : Prop where
  live : Document.get? filter FieldName.deletedAt = some .null
  nowhereElse : names FieldName.deletedAt (Document.erase filter FieldName.deletedAt) = false

instance (filter : Document) : Decidable (AsksLive filter) :=
  decidable_of_iff (Document.get? filter FieldName.deletedAt = some .null ∧
      names FieldName.deletedAt (Document.erase filter FieldName.deletedAt) = false)
    ⟨fun both => ⟨both.1, both.2⟩, fun asks => ⟨asks.live, asks.nowhereElse⟩⟩

theorem memberHolds_deletedAt_null (document : Document) :
    memberHolds document FieldName.deletedAt .null =
      .ok (fieldEquals (Document.get? document FieldName.deletedAt) .null) := by
  rw [memberHolds_of_ne (by decide), conditionHolds_of_value rfl]

/-- The part of a filter for live documents that is behind a member with another name
is one too, and that member does not name the time of deletion. -/
theorem AsksLive.behind {name : String} {condition : Json} {rest : Document}
    (differ : name ≠ FieldName.deletedAt) (asks : AsksLive ((name, condition) :: rest)) :
    AsksLive rest ∧ names FieldName.deletedAt [(name, condition)] = false := by
  obtain ⟨live, nowhereElse⟩ := asks
  rw [Document.get?, if_neg differ] at live
  have erased : Document.erase ((name, condition) :: rest) FieldName.deletedAt =
      (name, condition) :: Document.erase rest FieldName.deletedAt :=
    List.filter_cons_of_pos (by simpa using differ)
  rw [erased, names, Bool.or_eq_false_iff] at nowhereElse
  refine ⟨⟨live, nowhereElse.2⟩, ?_⟩
  rw [names, names, Bool.or_false]
  exact nowhereElse.1

/-- Only live documents match a filter for live documents. -/
theorem AsksLive.isLive {filter document : Document} (asks : AsksLive filter)
    (matched : holds document filter = .ok true) : document.IsLive := by
  have isMember := Document.mem_of_get? asks.live
  have holdsHere := (holds_eq_true_iff document filter).mp matched _ isMember
  rw [memberHolds_of_ne (by decide)] at holdsHere
  exact (isLive_iff document).mpr holdsHere

/-- **A document that matched a filter for live documents does not match it once it is
deleted**, and the evaluation does not fail: it ends where the time of deletion is asked for. -/
theorem AsksLive.holds_of_deleted {filter document deleted : Document} (asks : AsksLive filter)
    (agree : Document.AgreeBut FieldName.deletedAt document deleted)
    (isDeleted : ¬ deleted.IsLive) (matched : holds document filter = .ok true) :
    holds deleted filter = .ok false := by
  induction filter with
  | nil => cases asks.live
  | cons member rest ih =>
      obtain ⟨name, condition⟩ := member
      by_cases isDeletion : name = FieldName.deletedAt
      · subst isDeletion
        have isNull : condition = .null := by
          have live := asks.live
          rw [Document.get?, if_pos rfl] at live
          exact Option.some.inj live
        have refused : fieldEquals (Document.get? deleted FieldName.deletedAt) .null = false :=
          Bool.eq_false_iff.mpr fun equals => isDeleted ((fieldEquals_null_iff _).mp equals)
        rw [isNull, holds_cons, memberHolds_deletedAt_null, refused]
        rfl
      · obtain ⟨restAsks, unnamed⟩ := asks.behind isDeletion
        rw [holds_cons, memberHolds_congr agree unnamed] at matched
        rw [holds_cons]
        rcases here : memberHolds deleted name condition with error | verdict
        · rw [here] at matched
          cases matched
        · rw [here] at matched
          cases verdict with
          | false => rfl
          | true => exact ih restAsks matched

end Filter

end Docket
