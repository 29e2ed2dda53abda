import Docket.Proofs.Criteria.Meaning
import Docket.Proofs.Criteria.Tagged

/-!
# Criteria that ask for live records

Every filter starts from the one for live documents. What is written over it can ask
something else of the time of deletion, and then the criteria target deleted records:
a document that has a member for it, a single group with a clause on it, or a field that
is stored under its name and asks for something.

All other criteria leave the member for the time of deletion as it was (`get?_build`).
Several groups cannot change it, as they are the branches of one other member, and the
rewriting of the identifier moves no other name. A filter with that member accepts live
documents only, whatever else it has and whether or not the rest of it can be evaluated
(`holds_of_not_isLive`).
-/

set_option autoImplicit false

namespace Docket

instance (document : Document) : Decidable document.IsLive :=
  inferInstanceAs (Decidable (_ ∨ _))

namespace QueryField

/-- The field asks for something: it is not left out, and it is not zero, or its operator
says what zero asks for. -/
def Contributes (field : QueryField) : Prop :=
  field.isSkipped = false ∧
    (field.zero = false ∨ Text.startsWith field.operatorPart "nil" = true ∨
      Text.startsWith field.operatorPart "empty" = true)

/-- A field that adds a condition asks for something. -/
theorem contributes_of_condition? {field : QueryField} {condition : Json}
    (asks : field.condition? = .ok (some condition)) : field.Contributes := by
  unfold condition? at asks
  split at asks
  · cases asks
  · next notSkipped =>
      refine ⟨Bool.eq_false_iff.mpr notSkipped, ?_⟩
      split at asks
      · split at asks
        · next isNil => exact .inr (.inl isNil)
        · split at asks
          · next isEmpty => exact .inr (.inr isEmpty)
          · cases asks
      · next notZero => exact .inl (Bool.eq_false_iff.mpr notZero)

/-- Fields that ask nothing under a name leave what is asked under it as it was. -/
theorem get?_addConditions {fields : List QueryField} {base filter : Document} {name : String}
    (added : addConditions fields base = .ok filter)
    (unnamed : ∀ field ∈ fields, field.Contributes → field.key ≠ name) :
    Document.get? filter name = Document.get? base name := by
  rw [addConditions_eq] at added
  cases contributed : contributions fields with
  | error error =>
      rw [contributed] at added
      cases added
  | ok members =>
      rw [contributed] at added
      obtain rfl := Except.ok.inj added
      refine Document.get?_extend_of_unnamed (fun member isMember isNamed => ?_) base
      obtain ⟨field, isField, isKey, asks⟩ :=
        (mem_contributions_iff contributed member).mp isMember
      exact unnamed field isField (contributes_of_condition? asks) (isKey.trans isNamed)

end QueryField

namespace Expression

variable {counts : Counts} {keepIdentifier : Bool}

/-- The filter of a group has members for its clauses only. -/
theorem mem_addClauses {group : List Clause} {base filter : Document}
    {arguments left : List Json}
    (added : addClauses counts keepIdentifier group base arguments = .ok (filter, left))
    {member : String × Json} (isMember : member ∈ filter) :
    member ∈ base ∨ ∃ clause ∈ group,
      storedField keepIdentifier clause.field = member.1 := by
  induction group generalizing base arguments with
  | nil =>
      obtain ⟨rfl, _⟩ := Prod.mk.inj (Except.ok.inj added)
      exact .inl isMember
  | cons clause rest ih =>
      rw [addClauses] at added
      obtain ⟨pair, _, added⟩ := steps_of_bind_eq_ok added
      obtain ⟨condition, _, added⟩ := steps_of_bind_eq_ok added
      rcases ih added with inBase | ⟨other, isOther, isNamed⟩
      · rcases Document.name_of_mem_insert inBase with isNamed | inBase
        · exact .inr ⟨clause, List.mem_cons_self, isNamed.symm⟩
        · exact .inl inBase
      · exact .inr ⟨other, List.mem_cons_of_mem clause isOther, isNamed⟩

theorem length_groupFilters {groups : List (List Clause)} {arguments : List Json}
    {filters : List Document}
    (built : groupFilters counts keepIdentifier groups arguments = .ok filters) :
    filters.length = groups.length := by
  induction groups generalizing arguments filters with
  | nil =>
      obtain rfl := Except.ok.inj built
      rfl
  | cons group rest ih =>
      rw [groupFilters] at built
      obtain ⟨pair, _, built⟩ := steps_of_bind_eq_ok built
      obtain ⟨others, behind, built⟩ := steps_of_bind_eq_ok built
      obtain rfl := Except.ok.inj built
      exact congrArg Nat.succ (ih behind)

/-- The filter of several groups is the one for live documents with a disjunction. -/
theorem get?_combine_of_several {filters : List Document} (several : filters.length ≠ 1) :
    Document.get? (combine filters) FieldName.deletedAt = some .null := by
  have differ : FieldName.deletedAt ≠ OperatorName.anyOf := by decide
  match filters with
  | [] => exact Document.get?_insert_of_ne Document.live _ differ
  | [filter] => exact absurd rfl several
  | first :: second :: rest => exact Document.get?_insert_of_ne Document.live _ differ

/-- An expression asks for live documents unless it is one group with a clause on the time
of deletion. -/
theorem get?_translate {text : String} {arguments : List Json} {filter : Document}
    (built : translate text arguments = .ok filter)
    (untargeted : ∀ group, parse text.toList = .ok [group] →
      ∀ clause ∈ group, clause.field ≠ FieldName.deletedAt) :
    Document.get? filter FieldName.deletedAt = some .null := by
  unfold translate at built
  split at built
  · obtain rfl := Except.ok.inj built
    rfl
  · obtain ⟨groups, parsed, built⟩ := steps_of_bind_eq_ok built
    obtain ⟨filters, grouped, built⟩ := steps_of_bind_eq_ok built
    obtain rfl := Except.ok.inj built
    match groups with
    | [] => exact get?_combine_of_several (by rw [length_groupFilters grouped]; decide)
    | [group] =>
        rw [groupFilters] at grouped
        obtain ⟨pair, added, grouped⟩ := steps_of_bind_eq_ok grouped
        obtain rfl := Except.ok.inj grouped
        refine Document.get?_extend_of_unnamed (fun member isMember isNamed => ?_) Document.live
        rcases mem_addClauses added isMember with inBase | ⟨clause, isClause, isStored⟩
        · cases inBase
        · exact untargeted group parsed clause isClause
            (Comparison.storedField_eq_deletedAt_iff.mp (isStored.trans isNamed))
    | first :: second :: rest =>
        exact get?_combine_of_several (by rw [length_groupFilters grouped]; simp)

end Expression

namespace Criteria

/-- The criteria ask something of the time of deletion themselves. -/
def TargetsDeletion : Criteria → Prop
  | .document filter => ∃ member ∈ filter, member.1 = FieldName.deletedAt
  | .tagged fields => ∃ field ∈ fields, field.Contributes ∧ field.key = FieldName.deletedAt
  | .expression text _ => ∃ group, Expression.parse text.toList = .ok [group] ∧
      ∃ clause ∈ group, clause.field = FieldName.deletedAt
  | .all | .faulty _ => False

/-- **Criteria that do not target the deleted records ask for live ones.** -/
theorem get?_build {criteria : Criteria} {filter : Document}
    (built : criteria.build = .ok filter) (untargeted : ¬ criteria.TargetsDeletion) :
    Document.get? filter FieldName.deletedAt = some .null := by
  cases criteria with
  | all =>
      obtain rfl := Except.ok.inj built
      rfl
  | document asked =>
      obtain rfl := Except.ok.inj built
      exact Document.get?_extend_of_unnamed
        (fun member isMember isNamed => untargeted ⟨member, isMember, isNamed⟩) Document.live
  | tagged fields =>
      rw [build, QueryField.translate] at built
      cases added : QueryField.addConditions fields Document.live with
      | error error =>
          rw [added] at built
          cases built
      | ok conditions =>
          rw [added] at built
          obtain rfl := Except.ok.inj built
          rw [QueryField.get?_targetPrimaryKey_of_ne (by decide) (by decide),
            QueryField.get?_addConditions added fun field isField contributes isKey =>
              untargeted ⟨field, isField, contributes, isKey⟩]
          rfl
  | expression text arguments =>
      exact Expression.get?_translate built fun group parsed clause isClause isNamed =>
        untargeted ⟨group, parsed, clause, isClause, isNamed⟩
  | faulty error => cases built

end Criteria

/-- **A filter with the member for live documents accepts no other**, whatever else it
asks. -/
theorem Filter.holds_of_not_isLive {document filter : Document}
    (asks : Document.get? filter FieldName.deletedAt = some .null)
    (notLive : ¬ document.IsLive) : Filter.holds document filter ≠ .ok true := by
  intro holds
  have member := (Filter.holds_eq_true_iff document filter).mp holds _ (Document.mem_of_get? asks)
  rw [Filter.memberHolds_of_ne (by decide)] at member
  exact notLive ((Filter.isLive_iff document).mpr member)

end Docket
