import Docket.Proofs.Criteria.Comparison

/-!
# What an expression means

An expression matches a document if the document is live and, in one of the
groups, the last comparison on each field holds of the document's value there.
The exception is a single group that compares the time of deletion: it decides
for itself which documents are live enough.

This is the meaning of the text as one reads it, and not of the filter that is
built from it: `holds_filter_iff` says that the two agree. Three things have to
fit together. Conditions on one field replace each other while the filter is
built, under the name by which the field is stored; as two names of the primary
key never occur together, replacing by stored names is replacing by names
(`storedField_inj`). The filter of a single group is written over the one for
live documents, while several groups become branches behind it. And no condition
of a proper comparison can fail, so it does not matter in which order the
evaluation looks at them.
-/

set_option autoImplicit false

namespace Docket

namespace Comparison

/-! ## One comparison -/

/-- What a comparison means of the value of its field. -/
def Holds (comparison : Comparison) (actual : Option Json) : Prop :=
  match comparison.operator with
  | .equal => Filter.fieldEquals actual comparison.value = true
  | .notEqual => Filter.fieldEquals actual comparison.value = false
  | .like => ∃ text pattern written, comparison.value = .string text ∧
      Pattern.parse text = .ok pattern ∧ actual = some (.string written) ∧
        pattern.isMatch written = true
  | .oneOf => ∃ items, comparison.value = .array items ∧
      ∃ item ∈ items, Filter.fieldEquals actual item = true

/-- The value of a comparison is one for its operator: equality is not with a list of
operators, a pattern is a valid one, and membership is in an array. -/
def Proper (comparison : Comparison) : Prop :=
  match comparison.operator with
  | .equal => Filter.isOperatorList comparison.value = false
  | .notEqual => True
  | .like => ∃ text pattern, comparison.value = .string text ∧ Pattern.parse text = .ok pattern
  | .oneOf => ∃ items, comparison.value = .array items

theorem Proper.fits {comparison : Comparison} (proper : comparison.Proper) : comparison.Fits := by
  intro operator
  simpa [Proper, operator] using proper

theorem matchesPattern_string {text : String} {pattern : Pattern}
    (parsed : Pattern.parse text = .ok pattern) (actual : Option Json) :
    Filter.matchesPattern actual (.string text) =
      .ok ((actual.bind Json.string?).any pattern.isMatch) := by
  rw [Filter.matchesPattern, parsed]

/-- Only text matches a pattern. -/
theorem any_string_iff (actual : Option Json) (test : String → Bool) :
    (actual.bind Json.string?).any test = true ↔
      ∃ written, actual = some (.string written) ∧ test written = true := by
  cases actual with
  | none => simp
  | some value => cases value <;> simp [Json.string?]

/-- **The condition of a proper comparison says what the comparison means**, and
cannot fail. -/
theorem conditionHolds_condition {comparison : Comparison} (proper : comparison.Proper)
    (actual : Option Json) :
    ∃ verdict, Filter.conditionHolds actual comparison.condition = .ok verdict ∧
      (verdict = true ↔ comparison.Holds actual) := by
  unfold condition Holds
  cases operator : comparison.operator with
  | equal =>
      have plain : Filter.isOperatorList comparison.value = false := by
        simpa [Proper, operator] using proper
      exact ⟨_, Filter.conditionHolds_of_value plain actual, Iff.rfl⟩
  | notEqual =>
      refine ⟨!Filter.fieldEquals actual comparison.value, ?_, by simp⟩
      rw [Filter.conditionHolds_constrained (by decide)]
      rfl
  | like =>
      obtain ⟨text, pattern, isText, parsed⟩ :
          ∃ text pattern, comparison.value = .string text ∧
            Pattern.parse text = .ok pattern := by
        simpa [Proper, operator] using proper
      refine ⟨(actual.bind Json.string?).any pattern.isMatch, ?_, ?_⟩
      · rw [Filter.conditionHolds_constrained (by decide), isText]
        exact matchesPattern_string parsed actual
      · rw [any_string_iff]
        constructor
        · rintro ⟨written, isWritten, isMatch⟩
          exact ⟨text, pattern, written, isText, parsed, isWritten, isMatch⟩
        · rintro ⟨other, otherPattern, written, isOther, otherParsed, isWritten, isMatch⟩
          obtain rfl := Json.string.inj (isText.symm.trans isOther)
          obtain rfl := Except.ok.inj (parsed.symm.trans otherParsed)
          exact ⟨written, isWritten, isMatch⟩
  | oneOf =>
      obtain ⟨items, isArray⟩ : ∃ items, comparison.value = .array items := by
        simpa [Proper, operator] using proper
      refine ⟨items.any (Filter.fieldEquals actual), ?_, ?_⟩
      · rw [Filter.conditionHolds_constrained (by decide), isArray]
        rfl
      · rw [List.any_eq_true]
        constructor
        · exact fun found => ⟨items, isArray, found⟩
        · rintro ⟨others, isOther, found⟩
          obtain rfl := Json.array.inj (isArray.symm.trans isOther)
          exact found

/-! ## Groups -/

/-- A comparison is the last of a group on its field. -/
def IsLastOf (comparison : Comparison) (group : List Comparison) : Prop :=
  ∃ earlier later, group = earlier ++ comparison :: later ∧
    ∀ other ∈ later, other.field ≠ comparison.field

/-- The last comparison on each field of a group holds of a document. -/
def GroupHolds (keepIdentifier : Bool) (group : List Comparison) (document : Document) : Prop :=
  ∀ comparison : Comparison, comparison.IsLastOf group →
    comparison.Holds
      (Document.get? document (Expression.storedField keepIdentifier comparison.field))

/-- A single group compares the time of deletion. -/
def TargetsDeleted (groups : List (List Comparison)) : Prop :=
  ∃ group, groups = [group] ∧ ∃ comparison ∈ group, comparison.field = FieldName.deletedAt

/-- **The meaning of an expression.** -/
def Matches (groups : List (List Comparison)) (document : Document) : Prop :=
  (TargetsDeleted groups ∨ document.IsLive) ∧
    ∃ group ∈ groups, GroupHolds (keepsIdentifier groups) group document

/-! ## Names -/

/-- Only the primary key is stored under another name. -/
theorem storedField_of_ne {keepIdentifier : Bool} {field : String}
    (differ : field ≠ FieldName.identifier) :
    Expression.storedField keepIdentifier field = field :=
  if_neg fun both => differ both.1

theorem storedField_eq_deletedAt_iff {keepIdentifier : Bool} {field : String} :
    Expression.storedField keepIdentifier field = FieldName.deletedAt ↔
      field = FieldName.deletedAt := by
  by_cases identifier : field = FieldName.identifier
  · subst identifier
    cases keepIdentifier <;> decide
  · rw [storedField_of_ne identifier]

theorem storedField_ne_anyOf {keepIdentifier : Bool} {field : String}
    (named : field ≠ OperatorName.anyOf) :
    Expression.storedField keepIdentifier field ≠ OperatorName.anyOf := by
  by_cases identifier : field = FieldName.identifier
  · subst identifier
    cases keepIdentifier <;> decide
  · rwa [storedField_of_ne identifier]

theorem field_ne_primaryKey {groups : List (List Comparison)}
    (renamed : keepsIdentifier groups = false) {group : List Comparison}
    (isGroup : group ∈ groups)
    {comparison : Comparison} (isComparison : comparison ∈ group) :
    comparison.field ≠ FieldName.primaryKey := by
  intro equal
  have kept : keepsIdentifier groups = true := by
    rw [keepsIdentifier, Expression.namesPrimaryKey, List.any_eq_true]
    refine ⟨group.map clause, List.mem_map_of_mem isGroup, List.any_eq_true.mpr ?_⟩
    exact ⟨comparison.clause, List.mem_map_of_mem isComparison, beq_iff_eq.mpr equal⟩
  rw [renamed] at kept
  cases kept

/-- **Fields of an expression that are stored under one name are one field**: where
`id` becomes the primary key, nothing else names it. -/
theorem storedField_inj {groups : List (List Comparison)} {group : List Comparison}
    (isGroup : group ∈ groups) {first second : Comparison} (isFirst : first ∈ group)
    (isSecond : second ∈ group) :
    Expression.storedField (keepsIdentifier groups) first.field =
        Expression.storedField (keepsIdentifier groups) second.field ↔
      first.field = second.field := by
  constructor
  · intro equal
    cases renamed : keepsIdentifier groups with
    | true => simpa [renamed, Expression.storedField] using equal
    | false =>
        have firstPlain := field_ne_primaryKey renamed isGroup isFirst
        have secondPlain := field_ne_primaryKey renamed isGroup isSecond
        rw [renamed] at equal
        by_cases firstIs : first.field = FieldName.identifier
        · by_cases secondIs : second.field = FieldName.identifier
          · rw [firstIs, secondIs]
          · rw [storedField_of_ne secondIs, firstIs] at equal
            exact absurd equal.symm secondPlain
        · by_cases secondIs : second.field = FieldName.identifier
          · rw [storedField_of_ne firstIs, secondIs] at equal
            exact absurd equal firstPlain
          · rwa [storedField_of_ne firstIs, storedField_of_ne secondIs] at equal
  · exact congrArg _

/-- The last condition on a stored name is that of the last comparison on a field. -/
theorem lastFor_member_iff {groups : List (List Comparison)} {group : List Comparison}
    (isGroup : group ∈ groups) {name : String} {condition : Json} :
    Document.LastFor (group.map (member (keepsIdentifier groups))) name condition ↔
      ∃ comparison : Comparison, comparison.IsLastOf group ∧
        Expression.storedField (keepsIdentifier groups) comparison.field = name ∧
        comparison.condition = condition := by
  constructor
  · rintro ⟨earlier, later, split, unnamed⟩
    obtain ⟨before, behind, rfl, -, behindSplit⟩ := List.map_eq_append_iff.mp split
    obtain ⟨comparison, after, rfl, isMember, rfl⟩ := List.map_eq_cons_iff.mp behindSplit
    obtain ⟨rfl, rfl⟩ := Prod.mk.inj isMember
    refine ⟨comparison, ⟨before, after, rfl, fun other isOther equal => ?_⟩, rfl, rfl⟩
    exact unnamed _ (List.mem_map_of_mem isOther)
      (congrArg (Expression.storedField (keepsIdentifier groups)) equal)
  · rintro ⟨comparison, ⟨before, after, rfl, last⟩, rfl, rfl⟩
    refine ⟨before.map (member (keepsIdentifier groups)),
      after.map (member (keepsIdentifier groups)), by rw [List.map_append, List.map_cons]; rfl,
      fun other isOther equal => ?_⟩
    obtain ⟨behind, isBehind, rfl⟩ := List.mem_map.mp isOther
    refine last behind isBehind ((storedField_inj isGroup ?_ ?_).mp equal)
    · exact List.mem_append_right _ (List.mem_cons_of_mem _ isBehind)
    · exact List.mem_append_right _ List.mem_cons_self

theorem IsLastOf.mem {comparison : Comparison} {group : List Comparison}
    (last : comparison.IsLastOf group) : comparison ∈ group := by
  obtain ⟨earlier, later, rfl, _⟩ := last
  exact List.mem_append_right _ List.mem_cons_self

/-! ## Groups as filters -/

/-- What is asked of a group: its comparisons are proper, and no field of it is the
name of disjunctions. -/
def Askable (group : List Comparison) : Prop :=
  ∀ comparison ∈ group, comparison.Proper ∧ comparison.field ≠ OperatorName.anyOf

theorem Askable.memberHolds {group : List Comparison} (askable : Askable group)
    {comparison : Comparison} (isComparison : comparison ∈ group) (keepIdentifier : Bool)
    (document : Document) :
    ∃ verdict, Filter.memberHolds document
        (Expression.storedField keepIdentifier comparison.field) comparison.condition =
          .ok verdict ∧
      (verdict = true ↔ comparison.Holds
        (Document.get? document (Expression.storedField keepIdentifier comparison.field))) := by
  obtain ⟨proper, named⟩ := askable comparison isComparison
  rw [Filter.memberHolds_of_ne (storedField_ne_anyOf named)]
  exact conditionHolds_condition proper _

section

variable {groups : List (List Comparison)} {group : List Comparison} (isGroup : group ∈ groups)
  (askable : Askable group) (document : Document)

include isGroup askable

/-- The last conditions of a group hold if its last comparisons do. -/
theorem lastsHold_iff :
    (∀ name condition,
        Document.LastFor (group.map (member (keepsIdentifier groups))) name condition →
          Filter.memberHolds document name condition = .ok true) ↔
      GroupHolds (keepsIdentifier groups) group document := by
  constructor
  · intro holds comparison last
    obtain ⟨verdict, equal, meaning⟩ :=
      askable.memberHolds last.mem (keepsIdentifier groups) document
    have succeeds := holds _ _ ((lastFor_member_iff isGroup).mpr ⟨comparison, last, rfl, rfl⟩)
    rw [equal] at succeeds
    exact meaning.mp (Except.ok.inj succeeds)
  · intro holds name condition last
    obtain ⟨comparison, isLast, rfl, rfl⟩ := (lastFor_member_iff isGroup).mp last
    obtain ⟨verdict, equal, meaning⟩ :=
      askable.memberHolds isLast.mem (keepsIdentifier groups) document
    rw [equal, meaning.mpr (holds comparison isLast)]

/-- What a group writes over a filter cannot fail, if the filter cannot. -/
theorem holds_extend_total {base : Document} (sorted : Document.Sorted base)
    (total : ∀ name condition, Document.get? base name = some condition →
      ∃ verdict, Filter.memberHolds document name condition = .ok verdict) :
    ∃ verdict, Filter.holds document
      (Document.extend base (group.map (member (keepsIdentifier groups)))) = .ok verdict := by
  refine Filter.holds_total fun ⟨name, condition⟩ isMember => ?_
  have found := (sorted.extend _).mem_iff_get?.mp isMember
  rcases Document.get?_extend_eq_some_iff.mp found with last | ⟨_, inBase⟩
  · obtain ⟨comparison, isLast, rfl, rfl⟩ := (lastFor_member_iff isGroup).mp last
    obtain ⟨verdict, equal, _⟩ :=
      askable.memberHolds isLast.mem (keepsIdentifier groups) document
    exact ⟨verdict, equal⟩
  · exact total name condition inBase

/-- The filter of a group decides whether the group holds. -/
theorem holds_groupFilter_iff :
    ∃ verdict,
      Filter.holds document (groupFilter (keepsIdentifier groups) group) = .ok verdict ∧
      (verdict = true ↔ GroupHolds (keepsIdentifier groups) group document) := by
  obtain ⟨verdict, equal⟩ := holds_extend_total isGroup askable document .nil
    fun name condition found => nomatch found
  refine ⟨verdict, equal, ?_⟩
  rw [← lastsHold_iff isGroup askable document, ← Except.ok.injEq, ← equal,
    Filter.holds_extend_iff .nil]
  constructor
  · exact And.left
  · exact fun lasts => ⟨lasts, fun name condition found => nomatch found⟩

end

/-! ## Expressions as filters -/

theorem filter_single (group : List Comparison) :
    filter [group] =
      Document.extend Document.live (group.map (member (keepsIdentifier [group]))) := by
  rw [filter, List.map_singleton, Expression.combine, groupFilter,
    Document.extend_extend_nil Document.Sorted.live]

theorem filter_several (first second : List Comparison) (rest : List (List Comparison)) :
    filter (first :: second :: rest) =
      [(OperatorName.anyOf, .array (((first :: second :: rest).map
          (groupFilter (keepsIdentifier (first :: second :: rest)))).map Json.object)),
        (FieldName.deletedAt, .null)] := by
  rw [filter, List.map_cons, List.map_cons, Expression.combine, Document.live, Document.single,
    Document.insert, if_neg (by decide), if_pos (by decide)]
  simp

theorem memberHolds_deletedAt (document : Document) :
    ∃ verdict, Filter.memberHolds document FieldName.deletedAt .null = .ok verdict ∧
      (verdict = true ↔ document.IsLive) := by
  rw [Filter.memberHolds_of_ne (by decide), Filter.conditionHolds_of_value rfl]
  exact ⟨_, rfl, Filter.fieldEquals_null_iff _⟩

theorem targetsDeleted_single (group : List Comparison) :
    TargetsDeleted [group] ↔
      ∃ comparison ∈ group, comparison.field = FieldName.deletedAt := by
  constructor
  · rintro ⟨other, equal, named⟩
    obtain rfl := List.singleton_inj.mp equal
    exact named
  · exact fun named => ⟨group, rfl, named⟩

/-- A single group is written over the filter for live documents. -/
theorem holds_filter_single {group : List Comparison} (askable : Askable group)
    (document : Document) :
    ∃ verdict, Filter.holds document (filter [group]) = .ok verdict ∧
      (verdict = true ↔ Matches [group] document) := by
  obtain ⟨liveVerdict, liveEqual, liveMeaning⟩ := memberHolds_deletedAt document
  have live : ∀ name condition, Document.get? Document.live name = some condition →
      name = FieldName.deletedAt ∧ condition = .null := by
    intro name condition found
    simpa [Document.live, Document.single, Document.get?, eq_comm] using found
  have isGroup : group ∈ [group] := List.mem_singleton_self group
  obtain ⟨verdict, equal⟩ := holds_extend_total isGroup askable document .live
    fun name condition found => by
      obtain ⟨rfl, rfl⟩ := live name condition found
      exact ⟨liveVerdict, liveEqual⟩
  refine ⟨verdict, by rw [filter_single, equal], ?_⟩
  rw [← Except.ok.injEq, ← equal, Filter.holds_extend_iff .live,
    lastsHold_iff isGroup askable document, Matches, targetsDeleted_single, and_comm]
  refine and_congr ?_ (by simp)
  have named : (∀ added ∈ group.map (member (keepsIdentifier [group])),
      added.1 ≠ FieldName.deletedAt) ↔
        ¬ ∃ comparison ∈ group, comparison.field = FieldName.deletedAt := by
    simp [member, storedField_eq_deletedAt_iff]
  constructor
  · intro others
    refine or_iff_not_imp_left.mpr fun notTargeted => ?_
    have holds := others FieldName.deletedAt .null (Document.get?_single_self _ _)
      (named.mpr notTargeted)
    rw [liveEqual] at holds
    exact liveMeaning.mp (Except.ok.inj holds)
  · intro targetedOrLive name condition found unnamed
    obtain ⟨rfl, rfl⟩ := live name condition found
    have isLive := targetedOrLive.resolve_left (named.mp unnamed)
    rw [liveEqual, liveMeaning.mpr isLive]

/-- Several groups are the branches of a disjunction of live documents. -/
theorem holds_filter_several {first second : List Comparison} {rest : List (List Comparison)}
    (askable : ∀ group ∈ first :: second :: rest, Askable group) (document : Document) :
    ∃ verdict, Filter.holds document (filter (first :: second :: rest)) = .ok verdict ∧
      (verdict = true ↔ Matches (first :: second :: rest) document) := by
  obtain ⟨liveVerdict, liveEqual, liveMeaning⟩ := memberHolds_deletedAt document
  have branchTotal : ∀ branch ∈ (first :: second :: rest).map
      (groupFilter (keepsIdentifier (first :: second :: rest))),
        ∃ verdict, Filter.holds document branch = .ok verdict := by
    intro branch isBranch
    obtain ⟨group, isGroup, rfl⟩ := List.mem_map.mp isBranch
    obtain ⟨verdict, equal, _⟩ := holds_groupFilter_iff isGroup (askable group isGroup) document
    exact ⟨verdict, equal⟩
  obtain ⟨anyVerdict, anyEqual⟩ := Filter.someHolds_total branchTotal
  have anyMeaning : anyVerdict = true ↔ ∃ group ∈ first :: second :: rest,
      GroupHolds (keepsIdentifier (first :: second :: rest)) group document := by
    rw [← Except.ok.injEq, ← anyEqual,
      Filter.someHolds_eq_true_iff branchTotal]
    constructor
    · rintro ⟨branch, isBranch, branchHolds⟩
      obtain ⟨group, isGroup, rfl⟩ := List.mem_map.mp isBranch
      obtain ⟨verdict, equal, meaning⟩ :=
        holds_groupFilter_iff isGroup (askable group isGroup) document
      rw [equal] at branchHolds
      exact ⟨group, isGroup, meaning.mp (Except.ok.inj branchHolds)⟩
    · rintro ⟨group, isGroup, groupHolds⟩
      obtain ⟨verdict, equal, meaning⟩ :=
        holds_groupFilter_iff isGroup (askable group isGroup) document
      exact ⟨_, List.mem_map_of_mem isGroup, by rw [equal, meaning.mpr groupHolds]⟩
  have notTargeted : ¬ TargetsDeleted (first :: second :: rest) := by
    rintro ⟨group, equal, _⟩
    cases equal
  refine ⟨anyVerdict && liveVerdict, ?_, ?_⟩
  · rw [filter_several, Filter.holds_cons, Filter.holds_cons, Filter.holds_nil, liveEqual,
      Filter.memberHolds, if_pos rfl, Filter.anyBranchHolds, anyEqual]
    cases anyVerdict <;> cases liveVerdict <;> rfl
  · rw [Bool.and_eq_true, anyMeaning, liveMeaning, Matches, or_iff_right notTargeted, and_comm]

/-- **The filter of an expression decides what the expression means.** -/
theorem holds_filter_iff {groups : List (List Comparison)} (nonempty : groups ≠ [])
    (askable : ∀ group ∈ groups, Askable group) (document : Document) :
    ∃ verdict, Filter.holds document (filter groups) = .ok verdict ∧
      (verdict = true ↔ Matches groups document) := by
  match groups with
  | [] => exact absurd rfl nonempty
  | [group] => exact holds_filter_single (askable group (List.mem_singleton_self group)) document
  | first :: second :: rest => exact holds_filter_several askable document

/-- **Expressions mean what they say.** The printed form of groups is built with
their arguments, and the filter then accepts exactly the documents that the groups
match; it rejects every other document, and never fails. -/
theorem expression_accepts_iff {groups : List (List Comparison)} (printable : Printable groups)
    (askable : ∀ group ∈ groups, Askable group) :
    ∃ filter, (Criteria.ofExpression (text groups) (arguments groups)).build = .ok filter ∧
      ∀ document : Document,
        (Filter.holds document filter = .ok true ↔ Matches groups document) ∧
          (Filter.holds document filter = .ok false ↔ ¬ Matches groups document) := by
  have fits : ∀ group ∈ groups, ∀ comparison ∈ group, comparison.Fits := by
    intro group isGroup comparison isComparison
    exact (askable group isGroup comparison isComparison).1.fits
  refine ⟨filter groups, build_text printable fits, fun document => ?_⟩
  obtain ⟨verdict, equal, meaning⟩ := holds_filter_iff printable.nonempty askable document
  rw [equal, ← meaning]
  cases verdict <;> simp

/-- Two groups, of which the first names the identifier, the time of deletion, and one
field twice. -/
def sampleGroups : List (List Comparison) :=
  [[⟨"name", .equal, .literal "a"⟩,
      ⟨"id", .oneOf, .argument (.array [.string "1", .null])⟩,
      ⟨"deleted_at", .notEqual, .argument .null⟩,
      ⟨"name", .like, .argument (.string "^b")⟩],
    [⟨"size", .equal, .argument (.object [])⟩]]

theorem expression_accepts_iff_sampleGroups :
    Printable sampleGroups ∧ (∀ group ∈ sampleGroups, Askable group) ∧
      text sampleGroups =
        "name = a AND id in ? AND deleted_at != ? AND name like ? OR size = ?" ∧
      ∃ filter, (Criteria.ofExpression (text sampleGroups) (arguments sampleGroups)).build =
          .ok filter ∧
        ∀ document : Document,
          (Filter.holds document filter = .ok true ↔ Matches sampleGroups document) ∧
            (Filter.holds document filter = .ok false ↔ ¬ Matches sampleGroups document) := by
  have printable : Printable sampleGroups := ⟨by decide, by decide, by decide⟩
  have askable : ∀ group ∈ sampleGroups, Askable group := by
    simp only [sampleGroups, Askable, List.forall_mem_cons, List.not_mem_nil, false_implies,
      implies_true, and_true]
    exact ⟨⟨⟨rfl, by decide⟩, ⟨⟨_, rfl⟩, by decide⟩, ⟨trivial, by decide⟩,
      ⟨⟨_, _, rfl, rfl⟩, by decide⟩⟩, ⟨rfl, by decide⟩⟩
  exact ⟨printable, askable, rfl, expression_accepts_iff printable askable⟩

end Comparison

end Docket
