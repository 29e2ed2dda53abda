import Docket.Store.Filter
import Docket.Proofs.Json.Document

/-!
# What it means to match a filter

A document matches a filter if every member of the filter holds of it, whatever
their order (`holds_eq_true_iff`). The order and the short cuts of the
evaluation matter only to faults: if no member can fail, the evaluation ends
with yes or no (`holds_total`), and one branch of a disjunction is enough
(`someHolds_eq_true_iff`). A fault (`holds_fault`) is always a failure of the
database, and so never looks like the refusal of a write; and it is always reported as
one of a read.
-/

set_option autoImplicit false

namespace Docket

/-- A live document has no time of deletion, or null for it. -/
def Document.IsLive (document : Document) : Prop :=
  Document.get? document FieldName.deletedAt = none ∨
    Document.get? document FieldName.deletedAt = some .null

/-- What succeeds as a sequence of two steps succeeds step by step. -/
theorem steps_of_bind_eq_ok {ε α β : Type} {action : Except ε α} {next : α → Except ε β}
    {result : β} (succeeded : (action >>= next) = .ok result) :
    ∃ value, action = .ok value ∧ next value = .ok result := by
  cases action with
  | error error => cases succeeded
  | ok value => exact ⟨value, rfl, succeeded⟩

namespace Filter

/-- One member of a filter holds of a document. -/
def memberHolds (document : Document) (name : String) (condition : Json) :
    Except StoreError Bool :=
  if name = OperatorName.anyOf then anyBranchHolds document condition
  else conditionHolds (Document.get? document name) condition

theorem memberHolds_of_ne {document : Document} {name : String} {condition : Json}
    (differ : name ≠ OperatorName.anyOf) :
    memberHolds document name condition =
      conditionHolds (Document.get? document name) condition :=
  if_neg differ

/-! ## Conditions -/

/-- Null equals a missing field and null, and nothing else. -/
theorem fieldEquals_null_iff (actual : Option Json) :
    fieldEquals actual .null = true ↔ actual = none ∨ actual = some .null := by
  cases actual with
  | none => simp [fieldEquals, Json.isNull]
  | some value => cases value <;> simp [fieldEquals, valuesEqual, Json.same, Json.unsignedZeros]

/-- A value that is no list of operators is compared with the field. -/
theorem conditionHolds_of_value {condition : Json} (plain : isOperatorList condition = false)
    (actual : Option Json) :
    conditionHolds actual condition = .ok (fieldEquals actual condition) := by
  cases condition with
  | object members => rw [conditionHolds, plain]; rfl
  | _ => rfl

theorem isLive_iff (document : Document) :
    document.IsLive ↔
      conditionHolds (Document.get? document FieldName.deletedAt) .null = .ok true := by
  rw [conditionHolds_of_value rfl, Except.ok.injEq, fieldEquals_null_iff]
  rfl

/-- A list of operators is asked of the field. -/
theorem conditionHolds_of_operators {members : Document}
    (operators : isOperatorList (.object members) = true) (actual : Option Json) :
    conditionHolds actual (.object members) = operatorsHold actual members := by
  rw [conditionHolds, operators]
  rfl

theorem operatorHolds_notEqual (actual : Option Json) (operand : Json) :
    operatorHolds actual OperatorName.notEqual operand = .ok (!fieldEquals actual operand) :=
  if_pos rfl

theorem operatorsHold_cons (actual : Option Json) (operator : String) (operand : Json)
    (rest : Document) :
    operatorsHold actual ((operator, operand) :: rest) =
      (operatorHolds actual operator operand).bind fun here =>
        if here then operatorsHold actual rest else .ok false := by
  rw [operatorsHold]
  rfl

theorem operatorsHold_eq_true_iff (actual : Option Json) (members : Document) :
    operatorsHold actual members = .ok true ↔
      ∀ member ∈ members, operatorHolds actual member.1 member.2 = .ok true := by
  induction members with
  | nil => simp [operatorsHold]
  | cons first rest ih =>
      rw [operatorsHold_cons, List.forall_mem_cons]
      cases operatorHolds actual first.1 first.2 with
      | error error => simp [Except.bind]
      | ok here => cases here <;> simp [Except.bind, ih]

/-- A value constrained by one operator is asked by that operator. -/
theorem conditionHolds_constrained {operator : String}
    (dollar : Text.startsWith operator "$" = true) (actual : Option Json) (operand : Json) :
    conditionHolds actual (.constrained operator operand) =
      operatorHolds actual operator operand := by
  have operators : isOperatorList (.object [(operator, operand)]) = true := by
    simp [isOperatorList, dollar]
  rw [Json.constrained, Document.single, conditionHolds_of_operators operators, operatorsHold_cons]
  cases operatorHolds actual operator operand with
  | error error => rfl
  | ok here => cases here <;> rfl

/-! ## All members -/

theorem holds_nil (document : Document) : holds document [] = .ok true := by
  rw [holds]

theorem holds_cons (document : Document) (name : String) (condition : Json) (rest : Document) :
    holds document ((name, condition) :: rest) =
      (memberHolds document name condition).bind fun here =>
        if here then holds document rest else .ok false := by
  rw [holds, memberHolds]
  split <;> rfl

/-- **A document matches a filter if every member of the filter holds of it.** -/
theorem holds_eq_true_iff (document filter : Document) :
    holds document filter = .ok true ↔
      ∀ member ∈ filter, memberHolds document member.1 member.2 = .ok true := by
  induction filter with
  | nil => simp [holds_nil]
  | cons first rest ih =>
      rw [holds_cons, List.forall_mem_cons]
      cases memberHolds document first.1 first.2 with
      | error error => simp [Except.bind]
      | ok here => cases here <;> simp [Except.bind, ih]

/-- A filter whose members cannot fail is decided. -/
theorem holds_total {document filter : Document}
    (total : ∀ member ∈ filter, ∃ verdict,
      memberHolds document member.1 member.2 = .ok verdict) :
    ∃ verdict, holds document filter = .ok verdict := by
  induction filter with
  | nil => exact ⟨true, holds_nil document⟩
  | cons first rest ih =>
      obtain ⟨here, equal⟩ := total first List.mem_cons_self
      obtain ⟨behind, restEqual⟩ := ih fun member isMember =>
        total member (List.mem_cons_of_mem _ isMember)
      rw [holds_cons, equal]
      cases here with
      | false => exact ⟨false, rfl⟩
      | true => exact ⟨behind, restEqual⟩

/-- **A filter that was written over another one** asks for the last condition on
each name, and for those of the other one on all names that it does not have. -/
theorem holds_extend_iff {base : Document} (sorted : Document.Sorted base) (document : Document)
    (members : Document) :
    holds document (Document.extend base members) = .ok true ↔
      (∀ name condition, Document.LastFor members name condition →
        memberHolds document name condition = .ok true) ∧
      ∀ name condition, Document.get? base name = some condition →
        (∀ member ∈ members, member.1 ≠ name) →
          memberHolds document name condition = .ok true := by
  have extended := sorted.extend members
  rw [holds_eq_true_iff]
  constructor
  · intro all
    refine ⟨fun name condition last => ?_, fun name condition found unnamed => ?_⟩
    · exact all (name, condition)
        (extended.mem_iff_get?.mpr (Document.get?_extend_of_lastFor last base))
    · refine all (name, condition) (extended.mem_iff_get?.mpr ?_)
      rw [Document.get?_extend_of_unnamed unnamed, found]
  · rintro ⟨lasts, others⟩ ⟨name, condition⟩ isMember
    rcases Document.get?_extend_eq_some_iff.mp (extended.mem_iff_get?.mp isMember) with
      last | ⟨unnamed, found⟩
    · exact lasts name condition last
    · exact others name condition found unnamed

/-! ## Disjunctions -/

theorem someHolds_cons (document filter : Document) (rest : List Json) :
    someHolds document (.object filter :: rest) =
      (holds document filter).bind fun here =>
        if here then .ok true else someHolds document rest := by
  rw [someHolds, branchHolds]
  rfl

/-- One branch of a disjunction is enough, if no branch can fail. -/
theorem someHolds_eq_true_iff {document : Document} {filters : List Document}
    (total : ∀ filter ∈ filters, ∃ verdict, holds document filter = .ok verdict) :
    someHolds document (filters.map Json.object) = .ok true ↔
      ∃ filter ∈ filters, holds document filter = .ok true := by
  induction filters with
  | nil => simp [someHolds]
  | cons first rest ih =>
      obtain ⟨here, equal⟩ := total first List.mem_cons_self
      have behind := ih fun filter isMember => total filter (List.mem_cons_of_mem _ isMember)
      rw [List.map_cons, someHolds_cons, equal]
      cases here with
      | false => simpa [Except.bind, equal] using behind
      | true => simp [Except.bind, equal]

theorem someHolds_total {document : Document} {filters : List Document}
    (total : ∀ filter ∈ filters, ∃ verdict, holds document filter = .ok verdict) :
    ∃ verdict, someHolds document (filters.map Json.object) = .ok verdict := by
  induction filters with
  | nil => exact ⟨false, by rw [List.map_nil, someHolds]⟩
  | cons first rest ih =>
      obtain ⟨here, equal⟩ := total first List.mem_cons_self
      obtain ⟨behind, restEqual⟩ := ih fun filter isMember =>
        total filter (List.mem_cons_of_mem _ isMember)
      rw [List.map_cons, someHolds_cons, equal]
      cases here with
      | false => exact ⟨behind, restEqual⟩
      | true => exact ⟨true, rfl⟩

/-! ## Faults -/

/-- A failure is the fault of a filter. -/
inductive IsFault : StoreError → Prop
  | intro (reason : String) : IsFault (fault reason)

theorem IsFault.kind {error : StoreError} (isFault : IsFault error) :
    error.kind = .databaseError := by
  obtain ⟨reason⟩ := isFault
  rfl

/-- A fault is reported as one of a read, whichever operation the filter was evaluated for. -/
theorem IsFault.operation {error : StoreError} (isFault : IsFault error) :
    error.operation = .find := by
  obtain ⟨reason⟩ := isFault
  rfl

theorem operatorHolds_fault {actual : Option Json} {operator : String} {operand : Json}
    {error : StoreError} (failed : operatorHolds actual operator operand = .error error) :
    IsFault error := by
  unfold operatorHolds at failed
  split at failed
  · cases failed
  · split at failed
    · cases failed
    · split at failed
      · split at failed
        · cases failed
        · cases failed
          exact .intro _
      · split at failed
        · unfold matchesPattern at failed
          split at failed
          · split at failed
            · cases failed
              exact .intro _
            · cases failed
          · cases failed
            exact .intro _
        · cases failed
          exact .intro _

theorem bind_eq_error {ε α β : Type} {action : Except ε α} {next : α → Except ε β}
    {error : ε}
    (failed : action.bind next = .error error) :
    action = .error error ∨ ∃ value, action = .ok value ∧ next value = .error error := by
  cases action with
  | error other => exact .inl (congrArg Except.error (Except.error.inj failed))
  | ok value => exact .inr ⟨value, rfl, failed⟩

theorem conditionHolds_fault {actual : Option Json} {condition : Json} {error : StoreError}
    (failed : conditionHolds actual condition = .error error) : IsFault error := by
  cases operators : isOperatorList condition with
  | false =>
      rw [conditionHolds_of_value operators] at failed
      cases failed
  | true =>
      cases condition with
      | object members =>
          rw [conditionHolds_of_operators operators] at failed
          clear operators
          induction members with
          | nil => cases failed
          | cons first rest ih =>
              rw [operatorsHold_cons] at failed
              rcases bind_eq_error failed with here | ⟨verdict, _, behind⟩
              · exact operatorHolds_fault here
              · cases verdict with
                | false => cases behind
                | true => exact ih behind
      | _ => cases operators

mutual

/-- **What goes wrong while a filter is read is a fault of the filter.** -/
theorem holds_fault (document : Document) : (filter : List (String × Json)) →
    {error : StoreError} → holds document filter = .error error → IsFault error
  | [], error, failed => by
      rw [holds_nil] at failed
      cases failed
  | (name, condition) :: rest, error, failed => by
      rw [holds_cons] at failed
      rcases bind_eq_error failed with here | ⟨verdict, _, behind⟩
      · rw [memberHolds] at here
        split at here
        · exact anyBranchHolds_fault document condition here
        · exact conditionHolds_fault here
      · cases verdict with
        | false => cases behind
        | true => exact holds_fault document rest behind

theorem anyBranchHolds_fault (document : Document) : (condition : Json) →
    {error : StoreError} → anyBranchHolds document condition = .error error →
      IsFault error
  | .array branches, error, failed => by
      rw [anyBranchHolds] at failed
      exact someHolds_fault document branches failed
  | .null, error, failed | .boolean _, error, failed | .number _, error, failed
  | .string _, error, failed | .object _, error, failed => by
      simp only [anyBranchHolds] at failed
      cases failed
      exact .intro _

theorem someHolds_fault (document : Document) : (branches : List Json) →
    {error : StoreError} → someHolds document branches = .error error →
      IsFault error
  | [], error, failed => by
      rw [someHolds] at failed
      cases failed
  | branch :: rest, error, failed => by
      rw [someHolds] at failed
      rcases bind_eq_error failed with here | ⟨verdict, _, behind⟩
      · exact branchHolds_fault document branch here
      · cases verdict with
        | true => cases behind
        | false => exact someHolds_fault document rest behind

theorem branchHolds_fault (document : Document) : (branch : Json) →
    {error : StoreError} → branchHolds document branch = .error error →
      IsFault error
  | .object members, error, failed => by
      rw [branchHolds] at failed
      exact holds_fault document members failed
  | .null, error, failed | .boolean _, error, failed | .number _, error, failed
  | .string _, error, failed | .array _, error, failed => by
      simp only [branchHolds] at failed
      cases failed
      exact .intro _

end

theorem select_fault {filter : Document} {documents : List Document} {error : StoreError}
    (failed : select filter documents = .error error) : IsFault error := by
  induction documents with
  | nil => cases failed
  | cons document rest ih =>
      rw [select] at failed
      rcases bind_eq_error failed with here | ⟨found, _, behind⟩
      · exact holds_fault document filter here
      · rcases bind_eq_error behind with others | ⟨selected, _, returned⟩
        · exact ih others
        · cases returned

end Filter

end Docket
