import Docket.Proofs.Criteria.Equality
import Docket.Proofs.First

/-!
# Two ways to ask the same questions

A question compares a field with a value by an operator. Questions can be put into an
expression, with a question mark for each value, or into tags, with the name of the
field behind the operator. The two are translated in different ways. An expression is
cut into words, and it is decided once for all of its clauses whether `id` means the
primary key; a tagged query writes the conditions over each other as they come, and
what is asked of `id` moves at the end.

Both come to the same filter (`expression_and_tags_agree`). Moving at the end is storing
under the primary key at once, unless the primary key is asked for by its own name
(`targetPrimaryKey_extend_live`): until then nothing else is stored under it, so the last
question about `id` decides in either order. If membership is asked of a value that is
no array, both fail at the first such question. They name the field differently then:
an expression names it as it is stored, and a tagged query as it was asked for.

The values must not be zero, as a tagged query passes over those. Nothing else is
needed, and `id`, `deleted_at` and the name of disjunctions are fields like any other.
-/

set_option autoImplicit false

namespace Docket

/-- A field compared with a value. -/
structure Question where
  field : String
  operator : FilterOperator
  value : Json

namespace Question

/-- The question as a comparison with an argument. -/
def comparison (question : Question) : Comparison :=
  ⟨question.field, question.operator, .argument question.value⟩

/-- The expression that asks questions, with a question mark for each value. -/
def expression (questions : List Question) : String :=
  " AND ".intercalate
    (questions.map fun question => question.field ++ " " ++ question.operator.token ++ " ?")

/-- The tagged field that asks a question. Its own name does not matter. -/
def tagged (name : String) (question : Question) : QueryField :=
  .tagged name (question.operator.token ++ "," ++ question.field) question.value

/-- The field is a word of an expression, and the value is not passed over in tags. -/
structure Askable (question : Question) : Prop where
  field : Expression.IsPlainWord question.field.toList
  notZero : question.value.isZero = false

instance (question : Question) : Decidable question.Askable :=
  decidable_of_iff (Expression.IsPlainWord question.field.toList ∧ question.value.isZero = false)
    ⟨fun both => ⟨both.1, both.2⟩, fun askable => ⟨askable.field, askable.notZero⟩⟩

/-- Membership is asked of an array. -/
def Fits (question : Question) : Prop :=
  question.operator = .oneOf → ∃ items, question.value = .array items

/-- What is not zero does not ask for null. -/
theorem Askable.condition_notNull {question : Question} (askable : question.Askable) :
    question.comparison.condition.isNull = false := by
  obtain ⟨field, operator, value⟩ := question
  cases operator with
  | equal =>
      cases value with
      | null => exact absurd askable.notZero Bool.noConfusion
      | _ => rfl
  | _ => rfl

end Question

namespace Comparison

/-! ## The first question that does not fit -/

theorem constrain_of_misfit {comparison : Comparison} (misfit : ¬ comparison.Fits)
    (field : String) :
    comparison.operator.constrain field comparison.value = .error (.inRequiresSequence field) := by
  unfold Fits at misfit
  push Not at misfit
  obtain ⟨membership, noArray⟩ := misfit
  rw [membership]
  cases value : comparison.value with
  | array items => exact absurd value (noArray items)
  | _ => rfl

/-- Clauses are added up to the first that asks for membership in what is no array. -/
theorem addClauses_of_misfit (counts : Expression.Counts) (keepIdentifier : Bool)
    {earlier later : List Comparison} {comparison : Comparison}
    (fits : ∀ other ∈ earlier, other.Fits) (misfit : ¬ comparison.Fits)
    (base : Document) (rest : List Json) :
    Expression.addClauses counts keepIdentifier ((earlier ++ comparison :: later).map clause) base
        ((earlier ++ comparison :: later).flatMap
          (fun other => other.comparand.arguments) ++ rest) =
      .error (.inRequiresSequence
        (Expression.storedField keepIdentifier comparison.field)) := by
  induction earlier generalizing base with
  | nil =>
      rw [List.nil_append, List.map_cons, List.flatMap_cons, List.append_assoc,
        Expression.addClauses, takeValue_clause]
      change ((comparison.operator.constrain
        (Expression.storedField keepIdentifier comparison.field) comparison.value).bind _) = _
      rw [constrain_of_misfit misfit]
      rfl
  | cons first others ih =>
      have here := (fits first List.mem_cons_self).constrain
        (Expression.storedField keepIdentifier first.field)
      have behind := ih fun other isOther => fits other (List.mem_cons_of_mem _ isOther)
      rw [List.cons_append, List.map_cons, List.flatMap_cons, List.append_assoc,
        Expression.addClauses, takeValue_clause]
      change ((first.operator.constrain
        (Expression.storedField keepIdentifier first.field) first.value).bind _) = _
      rw [here]
      exact behind _

/-- Groups are translated up to the first comparison that asks for membership in what is no
array. -/
theorem groupFilters_of_misfit (counts : Expression.Counts) (keepIdentifier : Bool)
    {groups : List (List Comparison)} {comparison : Comparison}
    (misfit : FirstWith (fun comparison => ¬ comparison.Fits) groups.flatten comparison)
    (rest : List Json) :
    Expression.groupFilters counts keepIdentifier (clauses groups) (arguments groups ++ rest) =
      .error (.inRequiresSequence
        (Expression.storedField keepIdentifier comparison.field)) := by
  induction groups with
  | nil => exact absurd misfit (not_firstWith_nil comparison)
  | cons group others ih =>
      rw [arguments_cons, clauses, List.map_cons, Expression.groupFilters, List.append_assoc]
      rw [List.flatten_cons, firstWith_append_iff] at misfit
      rcases misfit with ⟨before, behind, rfl, unfitting, fits⟩ | ⟨fits, behind⟩
      · rw [addClauses_of_misfit counts keepIdentifier
          (fun other isOther => not_not.mp (fits other isOther)) unfitting]
        rfl
      · rw [addClauses_eq counts keepIdentifier
          (fun other isOther => not_not.mp (fits other isOther))]
        change ((Expression.groupFilters counts keepIdentifier (clauses others)
          (arguments others ++ rest)).bind _) = _
        rw [ih behind]
        rfl

/-- A printed group fails at the first question that does not fit. -/
theorem build_text_of_misfit {earlier later : List Comparison} {comparison : Comparison}
    (printable : Printable [earlier ++ comparison :: later])
    (fits : ∀ other ∈ earlier, other.Fits) (misfit : ¬ comparison.Fits) :
    (Criteria.ofExpression (text [earlier ++ comparison :: later])
        (arguments [earlier ++ comparison :: later])).build =
      .error (.inRequiresSequence (Expression.storedField
        (keepsIdentifier [earlier ++ comparison :: later]) comparison.field)) := by
  rw [build_eq_groupFilters printable, arguments_cons, clauses, List.map_singleton,
    Expression.groupFilters, addClauses_of_misfit _ _ fits misfit]
  rfl

end Comparison

/-! ## Moving at the end -/

namespace Expression

theorem storedField_ne_identifier (field : String) :
    storedField false field ≠ FieldName.identifier := by
  by_cases identifier : field = FieldName.identifier
  · subst identifier
    decide
  · rwa [Comparison.storedField_of_ne identifier]

theorem storedField_eq_primaryKey_iff {field : String} (unkeyed : field ≠ FieldName.primaryKey) :
    storedField false field = FieldName.primaryKey ↔ field = FieldName.identifier := by
  by_cases identifier : field = FieldName.identifier
  · subst identifier
    decide
  · rw [Comparison.storedField_of_ne identifier]
    exact iff_of_false unkeyed identifier

theorem storedField_eq_iff {field name : String} (notIdentifier : name ≠ FieldName.identifier)
    (notKey : name ≠ FieldName.primaryKey) : storedField false field = name ↔ field = name := by
  by_cases identifier : field = FieldName.identifier
  · subst identifier
    exact iff_of_false (Ne.symm notKey) (Ne.symm notIdentifier)
  · rw [Comparison.storedField_of_ne identifier]

end Expression

namespace Document

/-- Members under other names are found under these, as long as no two names become one. -/
theorem get?_extend_map {members : Document} {rename : String → String} {name renamed : String}
    (only : ∀ member ∈ members, rename member.1 = renamed ↔ member.1 = name)
    (first second : Document) (based : get? first renamed = get? second name) :
    get? (extend first (members.map fun member => (rename member.1, member.2))) renamed =
      get? (extend second members) name := by
  induction members generalizing first second with
  | nil => exact based
  | cons member rest ih =>
      have here := only member List.mem_cons_self
      refine ih (fun other isOther => only other (List.mem_cons_of_mem _ isOther)) _ _ ?_
      show get? (insert first (rename member.1) member.2) renamed =
        get? (insert second member.1 member.2) name
      by_cases named : member.1 = name
      · rw [here.mpr named, ← named, get?_insert_self, get?_insert_self]
      · have differ : rename member.1 ≠ renamed := fun equal => named (here.mp equal)
        rw [get?_insert_of_ne _ _ differ.symm, get?_insert_of_ne _ _ (Ne.symm named), based]

end Document

namespace QueryField

/-- **Moving what is asked of `id` at the end is storing it under the primary key at
once**, unless something is asked of the primary key by its own name. -/
theorem targetPrimaryKey_extend_live {members : Document}
    (notNull : ∀ member ∈ members, member.2.isNull = false) :
    targetPrimaryKey (Document.extend Document.live members) =
      Document.extend Document.live (members.map fun member =>
        (Expression.storedField (members.any fun other => other.1 == FieldName.primaryKey)
          member.1, member.2)) := by
  cases keyed : members.any fun other => other.1 == FieldName.primaryKey with
  | true =>
      obtain ⟨member, isMember, named⟩ := List.any_eq_true.mp keyed
      obtain ⟨value, last⟩ :=
        Document.exists_lastFor ⟨member, isMember, beq_iff_eq.mp named⟩
      rw [targetPrimaryKey_of_keyed (Document.get?_extend_of_lastFor last Document.live)]
      simp [Expression.storedField]
  | false =>
      have unkeyed : ∀ member ∈ members, member.1 ≠ FieldName.primaryKey := by
        simpa using keyed
      have nothing : Document.get? (Document.extend Document.live members)
          FieldName.primaryKey = none := by
        rw [Document.get?_extend_of_unnamed unkeyed]
        rfl
      have asked : ∀ value, Document.get? (Document.extend Document.live members)
          FieldName.identifier = some value → value.isNull = false := by
        intro value found
        rcases Document.get?_extend_eq_some_iff.mp found with ⟨_, _, split, _⟩ | ⟨_, inLive⟩
        · exact notNull (FieldName.identifier, value) (by simp [split])
        · cases inLive
      obtain ⟨toKey, fromIdentifier⟩ := get?_targetPrimaryKey nothing asked
      refine (sorted_targetPrimaryKey (Document.Sorted.live.extend members)).ext
        (Document.Sorted.live.extend _) fun name => ?_
      by_cases isKey : name = FieldName.primaryKey
      · subst isKey
        have only : ∀ member ∈ members,
            Expression.storedField false member.1 = FieldName.primaryKey ↔
              member.1 = FieldName.identifier :=
          fun member isMember => Expression.storedField_eq_primaryKey_iff (unkeyed member isMember)
        rw [toKey, Document.get?_extend_map only Document.live Document.live rfl]
      · by_cases isIdentifier : name = FieldName.identifier
        · subst isIdentifier
          rw [fromIdentifier, Document.get?_extend_of_unnamed]
          · rfl
          · intro member isMember
            obtain ⟨other, _, rfl⟩ := List.mem_map.mp isMember
            exact Expression.storedField_ne_identifier other.1
        · have only : ∀ member ∈ members,
              Expression.storedField false member.1 = name ↔ member.1 = name :=
            fun member _ => Expression.storedField_eq_iff isIdentifier isKey
          rw [get?_targetPrimaryKey_of_ne isIdentifier isKey,
            Document.get?_extend_map only Document.live Document.live rfl]

end QueryField

namespace Question

/-! ## Both ways -/

/-- The expression of questions is the printed form of one group. -/
theorem expression_eq_text (questions : List Question) :
    expression questions = Comparison.text [questions.map comparison] := by
  have clause : ∀ question : Question,
      (question.field ++ " " ++ question.operator.token ++ " ?").toList =
        question.comparison.clause.text := by
    intro question
    simp only [String.toList_append, List.append_assoc]
    rfl
  rw [← String.toList_inj, expression, String.toList_intercalate, List.map_map]
  simp only [Comparison.text, Comparison.clauses, Expression.text, String.toList_ofList,
    List.map_singleton, List.map_map, Text.joined_singleton]
  exact congrArg _ (List.map_congr_left fun question _ => clause question)

theorem arguments_eq_values (questions : List Question) :
    Comparison.arguments [questions.map comparison] = questions.map value := by
  rw [Comparison.arguments, List.flatten_singleton, List.flatMap_map, List.map_eq_flatMap]
  rfl

/-- Some question is about the primary key by its own name. -/
def namesPrimaryKey (questions : List Question) : Bool :=
  questions.any fun question => question.field == FieldName.primaryKey

theorem keepsIdentifier_eq (questions : List Question) :
    Comparison.keepsIdentifier [questions.map comparison] = namesPrimaryKey questions := by
  simp only [Comparison.keepsIdentifier, Comparison.clauses, Expression.namesPrimaryKey,
    namesPrimaryKey, List.map_singleton, List.any_cons, List.any_nil, Bool.or_false,
    List.map_map, List.any_map]
  rfl

theorem printable {questions : List Question} (nonempty : questions ≠ [])
    (askable : ∀ question ∈ questions, question.Askable) :
    Comparison.Printable [questions.map comparison] := by
  refine ⟨List.cons_ne_nil _ _, ?_, ?_⟩
  · intro group isGroup
    obtain rfl := List.mem_singleton.mp isGroup
    simpa using nonempty
  · intro group isGroup asked isAsked
    obtain rfl := List.mem_singleton.mp isGroup
    obtain ⟨question, isQuestion, rfl⟩ := List.mem_map.mp isAsked
    exact ⟨(askable question isQuestion).field, fun text equal => nomatch equal⟩

/-- The member that a tagged field adds for a question. -/
def member (question : Question) : String × Json :=
  (question.field, question.comparison.condition)

theorem condition?_tagged {question : Question} (askable : question.Askable) (name : String) :
    (question.tagged name).condition? =
      (question.operator.constrain question.field question.value).map some :=
  QueryField.condition?_tagged askable.field.toIsWord name question.operator askable.notZero

theorem key_tagged {question : Question} (askable : question.Askable) (name : String) :
    (question.tagged name).key = question.field :=
  QueryField.key_tagged question.operator.token_isWord question.operator.comma_not_mem_token
    askable.field.toIsWord name question.value

theorem condition?_of_fits {question : Question} (askable : question.Askable)
    (fits : question.Fits) (name : String) :
    (question.tagged name).condition? = .ok (some question.comparison.condition) := by
  have fitting : question.comparison.Fits := fits
  have constrained : question.operator.constrain question.field question.value =
      .ok question.comparison.condition := fitting.constrain question.field
  rw [condition?_tagged askable, constrained]
  rfl

theorem condition?_of_misfit {question : Question} (askable : question.Askable)
    (misfit : ¬ question.Fits) (name : String) :
    (question.tagged name).condition? = .error (.inRequiresSequence question.field) := by
  have unfitting : ¬ question.comparison.Fits := misfit
  have constrained : question.operator.constrain question.field question.value =
      .error (.inRequiresSequence question.field) :=
    Comparison.constrain_of_misfit unfitting question.field
  rw [condition?_tagged askable, constrained]
  rfl

/-- Tagged fields add the members of the questions that they ask. -/
theorem contributions_tagged {asked : List (String × Question)}
    (askable : ∀ pair ∈ asked, pair.2.Askable) (fits : ∀ pair ∈ asked, pair.2.Fits) :
    QueryField.contributions (asked.map fun pair => pair.2.tagged pair.1) =
      .ok (asked.map fun pair => pair.2.member) := by
  induction asked with
  | nil => rfl
  | cons pair rest ih =>
      obtain ⟨here, behind⟩ := List.forall_mem_cons.mp askable
      obtain ⟨fitsHere, fitsBehind⟩ := List.forall_mem_cons.mp fits
      rw [List.map_cons, QueryField.contributions_cons (condition?_of_fits here fitsHere pair.1),
        ih behind fitsBehind, key_tagged here]
      rfl

/-- Tagged fields fail at the first question that does not fit. -/
theorem contributions_of_misfit {earlier later : List (String × Question)}
    {pair : String × Question}
    (askable : ∀ other ∈ earlier ++ pair :: later, other.2.Askable)
    (fits : ∀ other ∈ earlier, other.2.Fits) (misfit : ¬ pair.2.Fits) :
    QueryField.contributions ((earlier ++ pair :: later).map fun other =>
        other.2.tagged other.1) = .error (.inRequiresSequence pair.2.field) := by
  induction earlier with
  | nil =>
      have here := askable pair List.mem_cons_self
      exact QueryField.contributions_cons_error (condition?_of_misfit here misfit pair.1) _
  | cons first others ih =>
      obtain ⟨here, behind⟩ := List.forall_mem_cons.mp askable
      obtain ⟨fitsHere, fitsBehind⟩ := List.forall_mem_cons.mp fits
      rw [List.cons_append, List.map_cons,
        QueryField.contributions_cons (condition?_of_fits here fitsHere first.1),
        ih behind fitsBehind]
      rfl

/-- Tagged fields are built to the filter of the expression. -/
theorem build_tagged {asked : List (String × Question)}
    (askable : ∀ pair ∈ asked, pair.2.Askable) (fits : ∀ pair ∈ asked, pair.2.Fits) :
    (Criteria.tagged (asked.map fun pair => pair.2.tagged pair.1)).build =
      .ok (Comparison.filter [(asked.map Prod.snd).map comparison]) := by
  have notNull : ∀ member ∈ asked.map fun pair => pair.2.member, member.2.isNull = false := by
    intro member isMember
    obtain ⟨pair, isPair, rfl⟩ := List.mem_map.mp isMember
    exact (askable pair isPair).condition_notNull
  have keyed : ((asked.map fun pair => pair.2.member).any fun other =>
      other.1 == FieldName.primaryKey) = namesPrimaryKey (asked.map Prod.snd) := by
    rw [namesPrimaryKey, List.any_map, List.any_map]
    rfl
  rw [Criteria.build, QueryField.translate, QueryField.addConditions_eq,
    contributions_tagged askable fits]
  show Except.ok (QueryField.targetPrimaryKey _) = _
  rw [QueryField.targetPrimaryKey_extend_live notNull, keyed, Comparison.filter_single,
    keepsIdentifier_eq, List.map_map, List.map_map, List.map_map]
  rfl

/-- Some question is the first that does not fit, or all fit. -/
theorem fits_or_split (asked : List (String × Question)) :
    (∀ pair ∈ asked, pair.2.Fits) ∨
      ∃ earlier pair later, asked = earlier ++ pair :: later ∧
        (∀ other ∈ earlier, other.2.Fits) ∧ ¬ pair.2.Fits := by
  rcases forall_or_exists_firstWith (fun pair : String × Question => pair.2.Fits) asked with
    fits | ⟨pair, earlier, later, split, misfit, none⟩
  · exact .inl fits
  · exact .inr ⟨earlier, pair, later, split,
      fun other isEarlier => not_not.mp (none other isEarlier), misfit⟩

/-- **Questions can be asked either way.** If membership is asked of arrays only, the
expression and the tagged fields are built to one filter. Otherwise both fail for
membership at the first question for which it is not: the expression names the field as
it is stored, and the tagged fields name it as it was asked for. -/
theorem expression_and_tags_agree {asked : List (String × Question)} (nonempty : asked ≠ [])
    (askable : ∀ pair ∈ asked, pair.2.Askable) :
    let byExpression := (Criteria.ofExpression (expression (asked.map Prod.snd))
      (asked.map fun pair => pair.2.value)).build
    let byTags := (Criteria.tagged (asked.map fun pair => pair.2.tagged pair.1)).build
    ((∀ pair ∈ asked, pair.2.Fits) ∧
        ∃ filter, byExpression = .ok filter ∧ byTags = .ok filter) ∨
      ∃ earlier pair later, asked = earlier ++ pair :: later ∧
        (∀ other ∈ earlier, other.2.Fits) ∧ ¬ pair.2.Fits ∧
        byExpression = .error (.inRequiresSequence (Expression.storedField
          (namesPrimaryKey (asked.map Prod.snd)) pair.2.field)) ∧
        byTags = .error (.inRequiresSequence pair.2.field) := by
  intro byExpression byTags
  have arePrintable : Comparison.Printable [(asked.map Prod.snd).map comparison] := by
    refine printable (by simpa using nonempty) fun question isQuestion => ?_
    obtain ⟨pair, isPair, rfl⟩ := List.mem_map.mp isQuestion
    exact askable pair isPair
  have printed : byExpression =
      (Criteria.ofExpression (Comparison.text [(asked.map Prod.snd).map comparison])
        (Comparison.arguments [(asked.map Prod.snd).map comparison])).build := by
    rw [arguments_eq_values, ← expression_eq_text, List.map_map]
    rfl
  rcases fits_or_split asked with fits | ⟨earlier, pair, later, split, fits, misfit⟩
  · refine .inl ⟨fits, _, ?_, build_tagged askable fits⟩
    rw [printed]
    refine Comparison.build_text arePrintable fun group isGroup comparison isComparison => ?_
    obtain rfl := List.mem_singleton.mp isGroup
    simp only [List.map_map, List.mem_map] at isComparison
    obtain ⟨pair, isPair, rfl⟩ := isComparison
    exact fits pair isPair
  · subst split
    refine .inr ⟨earlier, pair, later, rfl, fits, misfit, ?_, ?_⟩
    · have listed : ((earlier ++ pair :: later).map Prod.snd).map comparison =
          (earlier.map Prod.snd).map comparison ++
            pair.2.comparison :: (later.map Prod.snd).map comparison := by
        simp
      rw [printed, ← keepsIdentifier_eq]
      rw [listed] at arePrintable ⊢
      refine Comparison.build_text_of_misfit arePrintable ?_ misfit
      intro other isOther
      simp only [List.map_map, List.mem_map] at isOther
      obtain ⟨before, isBefore, rfl⟩ := isOther
      exact fits before isBefore
    · show (QueryField.addConditions _ _).map _ = _
      rw [QueryField.addConditions_eq, contributions_of_misfit askable fits misfit]
      rfl

/-- Questions about the identifier under both of its names, about the time of deletion,
about one field twice, and about the name of disjunctions. -/
def samples : List (String × Question) :=
  [("First", ⟨"id", .notEqual, .string "1"⟩), ("Second", ⟨"_id", .like, .string "^a"⟩),
    ("Third", ⟨"deleted_at", .notEqual, .string "never"⟩),
    ("Fourth", ⟨"id", .oneOf, .array [.string "2", .null]⟩),
    ("Fifth", ⟨"$or", .equal, .array [.object []]⟩)]

theorem expression_and_tags_agree_samples :
    samples ≠ [] ∧ (∀ pair ∈ samples, pair.2.Askable) ∧
      expression (samples.map Prod.snd) =
        "id != ? AND _id like ? AND deleted_at != ? AND id in ? AND $or = ?" ∧
      ∃ filter, (Criteria.ofExpression (expression (samples.map Prod.snd))
          (samples.map fun pair => pair.2.value)).build = .ok filter ∧
        (Criteria.tagged (samples.map fun pair => pair.2.tagged pair.1)).build = .ok filter := by
  have nonempty : samples ≠ [] := by decide
  have askable : ∀ pair ∈ samples, pair.2.Askable := by decide
  have fits : ∀ pair ∈ samples, pair.2.Fits := by
    simp [samples, Fits]
  refine ⟨nonempty, askable, rfl, ?_⟩
  rcases expression_and_tags_agree nonempty askable with
    ⟨_, built⟩ | ⟨earlier, pair, later, split, _, misfit, _⟩
  · exact built
  · exact absurd (fits pair (by simp [split])) misfit

end Question

end Docket
