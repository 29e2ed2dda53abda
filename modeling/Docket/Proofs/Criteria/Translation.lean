import Docket.Proofs.Criteria.Isolation
import Docket.Proofs.First

/-!
# The filter of tagged fields, key by key

A field of a tagged query asks for a value, asks for nothing, or misfits: it asks for membership
in what is no array. A field that contributes asks for one value (`exists_asks_iff`), and a list of
fields has a filter unless one of them misfits; the first that does is reported
(`translate_eq_error_iff`).

Otherwise each key has what the last field with that key asks for, the time of deletion is null if
no field is stored under it, and nothing else is in the filter (`Gathers`), except that what is
asked of `id` is moved to the primary key if it asks for something and the primary key is free
(`Moves`). So fields that do not contribute can be left out (`translate_without`), and the order of
the others matters only where they have a key in common (`translate_perm`). Together this says
what a translation is (`translation_by_keys`).
-/

set_option autoImplicit false

namespace Docket

namespace FilterOperator

/-- Membership in what is no array cannot be asked, and everything else can. -/
theorem constrain_eq_error_iff {operator : FilterOperator} {key : String} {value : Json}
    {error : CriteriaError} :
    operator.constrain key value = .error error ↔
      operator = .oneOf ∧ (∀ items, value ≠ .array items) ∧
        error = .inRequiresSequence key := by
  cases operator with
  | equal | notEqual | like => simp [constrain]
  | oneOf => cases value <;> simp [constrain, eq_comm]

end FilterOperator

namespace QueryField

/-! ## One field -/

/-- A field asks for a value: what its operator makes of its own, null, or its own. -/
inductive Asks (field : QueryField) : Json → Prop
  | constrained {value : Json} (kept : field.isSkipped = false) (present : field.zero = false)
      (constrains :
        (FilterOperator.ofTag field.operatorPart).constrain field.key field.value = .ok value) :
      Asks field value
  | null (kept : field.isSkipped = false) (zero : field.zero = true)
      (ofNull : Text.startsWith field.operatorPart "nil" = true) : Asks field .null
  | itself (kept : field.isSkipped = false) (zero : field.zero = true)
      (ofItself : Text.startsWith field.operatorPart "empty" = true) : Asks field field.value

/-- A field asks for membership in what is no array. -/
structure Misfits (field : QueryField) : Prop where
  kept : field.isSkipped = false
  present : field.zero = false
  membership : FilterOperator.ofTag field.operatorPart = .oneOf
  noArray : ∀ items, field.value ≠ .array items

/-- A text does not begin with `nil` and with `empty`. -/
theorem not_startsWith_empty {text : String} (ofNull : Text.startsWith text "nil" = true) :
    Text.startsWith text "empty" = false := by
  unfold Text.startsWith at *
  cases characters : text.toList with
  | nil =>
      rw [characters] at ofNull
      cases ofNull
  | cons first rest =>
      rw [characters] at ofNull
      have isFirst : 'n' = first := by
        have begins : ('n' == first) = true := (Bool.and_eq_true_iff.mp ofNull).1
        exact eq_of_beq begins
      rw [← isFirst]
      rfl

variable {field : QueryField}

theorem Asks.contributes {value : Json} (asks : field.Asks value) : field.Contributes := by
  cases asks with
  | constrained kept present _ => exact ⟨kept, .inl present⟩
  | null kept _ ofNull => exact ⟨kept, .inr (.inl ofNull)⟩
  | itself kept _ ofItself => exact ⟨kept, .inr (.inr ofItself)⟩

theorem Misfits.contributes (misfits : field.Misfits) : field.Contributes :=
  ⟨misfits.kept, .inl misfits.present⟩

theorem condition?_of_present (kept : field.isSkipped = false) (present : field.zero = false) :
    field.condition? =
      ((FilterOperator.ofTag field.operatorPart).constrain field.key field.value).map some := by
  rw [condition?, kept, present]
  rfl

theorem Asks.condition? {value : Json} (asks : field.Asks value) :
    field.condition? = .ok (some value) := by
  cases asks with
  | constrained kept present constrains =>
      rw [condition?_of_present kept present, constrains]
      rfl
  | null kept zero ofNull =>
      rw [QueryField.condition?, kept, zero, ofNull]
      rfl
  | itself kept zero ofItself =>
      have notNull : Text.startsWith field.operatorPart "nil" = false := by
        cases ofNull : Text.startsWith field.operatorPart "nil" with
        | false => rfl
        | true => exact ofItself.symm.trans (not_startsWith_empty ofNull)
      rw [QueryField.condition?, kept, zero, notNull, ofItself]
      rfl

theorem Misfits.condition? (misfits : field.Misfits) :
    field.condition? = .error (.inRequiresSequence field.key) := by
  have refused : (FilterOperator.ofTag field.operatorPart).constrain field.key field.value =
      .error (.inRequiresSequence field.key) :=
    FilterOperator.constrain_eq_error_iff.mpr ⟨misfits.membership, misfits.noArray, rfl⟩
  rw [condition?_of_present misfits.kept misfits.present, refused]
  rfl

theorem condition?_of_not_contributes (idle : ¬ field.Contributes) :
    field.condition? = .ok none := by
  cases kept : field.isSkipped with
  | true => exact if_pos kept
  | false =>
      have zero : field.zero = true := Bool.not_eq_false _ ▸ fun present =>
        idle ⟨kept, .inl present⟩
      have notNull := fun ofNull => idle ⟨kept, .inr (.inl ofNull)⟩
      have notItself := fun ofItself => idle ⟨kept, .inr (.inr ofItself)⟩
      rw [QueryField.condition?, kept, if_neg Bool.false_ne_true, if_pos zero, if_neg notNull,
        if_neg notItself]

/-- **A field that contributes asks for a value, or misfits.** -/
theorem Contributes.asks_or_misfits (contributes : field.Contributes) :
    (∃ value, field.Asks value) ∨ field.Misfits := by
  obtain ⟨kept, cases⟩ := contributes
  cases zero : field.zero with
  | false =>
      cases constrains :
          (FilterOperator.ofTag field.operatorPart).constrain field.key field.value with
      | ok value => exact .inl ⟨value, .constrained kept zero constrains⟩
      | error error =>
          obtain ⟨membership, noArray, _⟩ := FilterOperator.constrain_eq_error_iff.mp constrains
          exact .inr ⟨kept, zero, membership, noArray⟩
  | true =>
      rcases cases with present | ofNull | ofItself
      · exact absurd (zero.symm.trans present) (by decide)
      · exact .inl ⟨.null, .null kept zero ofNull⟩
      · exact .inl ⟨field.value, .itself kept zero ofItself⟩

theorem condition?_eq_some_iff {value : Json} :
    field.condition? = .ok (some value) ↔ field.Asks value := by
  refine ⟨fun asked => ?_, Asks.condition?⟩
  rcases (contributes_of_condition? asked).asks_or_misfits with ⟨other, asks⟩ | misfits
  · rw [asks.condition?] at asked
    obtain rfl := Option.some.inj (Except.ok.inj asked)
    exact asks
  · rw [misfits.condition?] at asked
    cases asked

/-! ## All fields -/

/-- The member that a field adds to the filter, if it adds one. -/
def member? (field : QueryField) : Option (String × Json) :=
  match field.condition? with
  | .ok (some value) => some (field.key, value)
  | _ => none

theorem Asks.member? {value : Json} (asks : field.Asks value) :
    field.member? = some (field.key, value) := by
  rw [QueryField.member?, asks.condition?]

theorem member?_eq_some_iff {member : String × Json} :
    field.member? = some member ↔ field.key = member.1 ∧ field.Asks member.2 := by
  rw [← condition?_eq_some_iff, member?]
  rcases field.condition? with error | _ | value
  · simp
  · simp
  · simp [Prod.ext_iff]

theorem member?_of_not_contributes (idle : ¬ field.Contributes) : field.member? = none := by
  rw [member?, condition?_of_not_contributes idle]

variable {fields : List QueryField}

/-- **Fields that fit have members**, and the first that misfits is reported. -/
theorem contributions_of_fitting (fits : ∀ field ∈ fields, ¬ field.Misfits) :
    contributions fields = .ok (fields.filterMap member?) := by
  induction fields with
  | nil => rfl
  | cons field rest ih =>
      obtain ⟨here, behind⟩ := List.forall_mem_cons.mp fits
      by_cases contributes : field.Contributes
      · rcases contributes.asks_or_misfits with ⟨value, asks⟩ | misfits
        · rw [contributions_cons asks.condition?, ih behind,
            List.filterMap_cons_some asks.member?]
          rfl
        · exact absurd misfits here
      · rw [contributions_cons (condition?_of_not_contributes contributes), ih behind,
          List.filterMap_cons_none (member?_of_not_contributes contributes)]
        rfl

theorem contributions_of_firstWith {field : QueryField} (first : FirstWith Misfits fields field) :
    contributions fields = .error (.inRequiresSequence field.key) := by
  induction fields with
  | nil => exact absurd first (not_firstWith_nil field)
  | cons head rest ih =>
      rcases firstWith_cons_iff.mp first with ⟨misfits, rfl⟩ | ⟨fits, behind⟩
      · exact contributions_cons_error misfits.condition? rest
      · have ofRest := ih behind
        cases asked : head.condition? with
        | ok condition =>
            rw [contributions_cons asked, ofRest]
            rfl
        | error error =>
            by_cases contributes : head.Contributes
            · rcases contributes.asks_or_misfits with ⟨value, asks⟩ | misfits
              · rw [asks.condition?] at asked
                cases asked
              · exact absurd misfits fits
            · rw [condition?_of_not_contributes contributes] at asked
              cases asked

/-- The filter before the move of the identifier. -/
def gathered (fields : List QueryField) : Document :=
  Document.live.extend (fields.filterMap member?)

theorem translate_of_fitting (fits : ∀ field ∈ fields, ¬ field.Misfits) :
    translate fields = .ok (targetPrimaryKey (gathered fields)) := by
  rw [translate, addConditions_eq, contributions_of_fitting fits]
  rfl

/-- **A translation fails for the first field that misfits**, and for nothing else. -/
theorem translate_eq_error_iff {error : CriteriaError} :
    translate fields = .error error ↔
      ∃ field, FirstWith Misfits fields field ∧ error = .inRequiresSequence field.key := by
  constructor
  · intro fails
    by_cases fits : ∀ field ∈ fields, ¬ field.Misfits
    · rw [translate_of_fitting fits] at fails
      cases fails
    · push Not at fits
      obtain ⟨field, first⟩ := exists_firstWith fits
      rw [translate, addConditions_eq, contributions_of_firstWith first] at fails
      exact ⟨field, first, (Except.error.inj fails).symm⟩
  · rintro ⟨field, first, rfl⟩
    rw [translate, addConditions_eq, contributions_of_firstWith first]
    rfl

theorem fitting_of_translate {filter : Document} (translated : translate fields = .ok filter) :
    ∀ field ∈ fields, ¬ field.Misfits := by
  intro field isField misfits
  obtain ⟨first, isFirst⟩ := exists_firstWith ⟨field, isField, misfits⟩
  rw [translate_eq_error_iff.mpr ⟨first, isFirst, rfl⟩] at translated
  cases translated

/-! ## Keys -/

/-- No field that contributes is stored under a name. -/
def Free (fields : List QueryField) (name : String) : Prop :=
  ∀ field ∈ fields, field.Contributes → field.key ≠ name

/-- The last field that contributes to a name asks for a value. -/
def LastAsks (fields : List QueryField) (name : String) (value : Json) : Prop :=
  ∃ earlier field later, fields = earlier ++ field :: later ∧ field.key = name ∧
    field.Asks value ∧ Free later name

/-- What is gathered under a name: what the last field asks for, or null for the time of deletion
if no field contributes to that. -/
def Gathers (fields : List QueryField) (name : String) (value : Json) : Prop :=
  LastAsks fields name value ∨
    Free fields name ∧ name = FieldName.deletedAt ∧ value = .null

/-- What is asked of the identifier asks for something, and the primary key is free. -/
def Moves (fields : List QueryField) (value : Json) : Prop :=
  Free fields FieldName.primaryKey ∧ LastAsks fields FieldName.identifier value ∧
    value ≠ .null

/-- Where no field misfits, the free names are those of no member. -/
theorem free_iff (fits : ∀ field ∈ fields, ¬ field.Misfits) (name : String) :
    Free fields name ↔ ∀ member ∈ fields.filterMap member?, member.1 ≠ name := by
  constructor
  · intro free member isMember isNamed
    obtain ⟨field, isField, added⟩ := List.mem_filterMap.mp isMember
    obtain ⟨isKey, asks⟩ := member?_eq_some_iff.mp added
    exact free field isField asks.contributes (isKey.trans isNamed)
  · intro unnamed field isField contributes isNamed
    rcases contributes.asks_or_misfits with ⟨value, asks⟩ | misfits
    · have added := asks.member?
      rw [isNamed] at added
      exact unnamed (name, value) (List.mem_filterMap.mpr ⟨field, isField, added⟩) rfl
    · exact fits field isField misfits

theorem lastFor_iff (fits : ∀ field ∈ fields, ¬ field.Misfits) (name : String) (value : Json) :
    Document.LastFor (fields.filterMap member?) name value ↔ LastAsks fields name value := by
  constructor
  · rintro ⟨before, behind, split, unnamed⟩
    obtain ⟨earlier, rest, rfl, _, restMembers⟩ := List.filterMap_eq_append_iff.mp split
    obtain ⟨idle, field, later, rfl, _, added, laterMembers⟩ :=
      List.filterMap_eq_cons_iff.mp restMembers
    obtain ⟨isKey, asks⟩ := member?_eq_some_iff.mp added
    have laterFits : ∀ field ∈ later, ¬ field.Misfits := by
      intro other isLater
      exact fits other (by simp [isLater])
    refine ⟨earlier ++ idle, field, later, by rw [List.append_assoc], isKey, asks, ?_⟩
    rw [free_iff laterFits, laterMembers]
    exact unnamed
  · rintro ⟨earlier, field, later, rfl, isKey, asks, free⟩
    have laterFits : ∀ field ∈ later, ¬ field.Misfits := by
      intro other isLater
      exact fits other (by simp [isLater])
    refine ⟨earlier.filterMap member?, later.filterMap member?, ?_,
      (free_iff laterFits name).mp free⟩
    have added : field.member? = some (name, value) := member?_eq_some_iff.mpr ⟨isKey, asks⟩
    rw [List.filterMap_append, List.filterMap_cons_some added]

theorem sorted_gathered (fields : List QueryField) : (gathered fields).Sorted :=
  Document.Sorted.live.extend _

/-- **Each name is mapped to what is gathered under it.** -/
theorem get?_gathered_iff (fits : ∀ field ∈ fields, ¬ field.Misfits) (name : String)
    (value : Json) :
    Document.get? (gathered fields) name = some value ↔ Gathers fields name value := by
  have live : Document.get? Document.live name = some value ↔
      name = FieldName.deletedAt ∧ value = .null := by
    by_cases isDeletion : name = FieldName.deletedAt
    · subst isDeletion
      rw [Document.live, Document.get?_single_self]
      simp [eq_comm]
    · rw [Document.live, Document.get?_single_of_ne _ isDeletion]
      simp [isDeletion]
  rw [gathered, Document.get?_extend_eq_some_iff, lastFor_iff fits, ← free_iff fits, live]
  rfl

theorem exists_get?_gathered (fits : ∀ field ∈ fields, ¬ field.Misfits) {name : String}
    (taken : ¬ Free fields name) :
    ∃ value, Document.get? (gathered fields) name = some value := by
  rw [free_iff fits] at taken
  push Not at taken
  obtain ⟨value, last⟩ := Document.exists_lastFor taken
  exact ⟨value, Document.get?_extend_of_lastFor last Document.live⟩

/-! ## The move of the identifier -/

theorem LastAsks.not_free {name : String} {value : Json} (last : LastAsks fields name value) :
    ¬ Free fields name := by
  obtain ⟨earlier, field, later, rfl, isKey, asks, _⟩ := last
  exact fun free => free field (by simp) asks.contributes isKey

/-- Names other than the time of deletion gather only what a field asks for. -/
theorem Gathers.lastAsks {name : String} {value : Json} (gathers : Gathers fields name value)
    (notDeletion : name ≠ FieldName.deletedAt) : LastAsks fields name value := by
  rcases gathers with last | ⟨_, isDeletion, _⟩
  · exact last
  · exact absurd isDeletion notDeletion

theorem targetPrimaryKey_of_null {filter : Document}
    (asksNothing : ∀ value, Document.get? filter FieldName.identifier = some value →
      value = .null) : targetPrimaryKey filter = filter := by
  unfold targetPrimaryKey
  split
  · rfl
  · split
    · rfl
    · next value found =>
        rw [asksNothing value found]
        rfl

/-- **What a filter is for a list of fields**: what is gathered under each name, except for an
identifier that moves. -/
structure IsFilterOf (fields : List QueryField) (filter : Document) : Prop where
  sorted : filter.Sorted
  moved : ∀ value, Moves fields value →
    Document.get? filter FieldName.primaryKey = some value ∧
      Document.get? filter FieldName.identifier = none
  others : ∀ name,
    ((∃ value, Moves fields value) →
      name ≠ FieldName.identifier ∧ name ≠ FieldName.primaryKey) →
    ∀ value, Document.get? filter name = some value ↔ Gathers fields name value

/-- There is one filter at most. -/
theorem IsFilterOf.unique {first second : Document} (isFirst : IsFilterOf fields first)
    (isSecond : IsFilterOf fields second) : first = second := by
  refine isFirst.sorted.ext isSecond.sorted fun name => ?_
  by_cases moves : (∃ value, Moves fields value) ∧
      (name = FieldName.identifier ∨ name = FieldName.primaryKey)
  · obtain ⟨⟨value, moves⟩, isNamed⟩ := moves
    obtain ⟨firstKey, firstIdentifier⟩ := isFirst.moved value moves
    obtain ⟨secondKey, secondIdentifier⟩ := isSecond.moved value moves
    rcases isNamed with rfl | rfl
    · rw [firstIdentifier, secondIdentifier]
    · rw [firstKey, secondKey]
  · have elsewhere : (∃ value, Moves fields value) →
        name ≠ FieldName.identifier ∧ name ≠ FieldName.primaryKey := by
      intro some
      exact not_or.mp fun isNamed => moves ⟨some, isNamed⟩
    apply Option.ext
    intro value
    rw [isFirst.others name elsewhere value, isSecond.others name elsewhere value]

theorem isFilterOf_of_moves (fits : ∀ field ∈ fields, ¬ field.Misfits) {value : Json}
    (moves : Moves fields value) : IsFilterOf fields (targetPrimaryKey (gathered fields)) := by
  obtain ⟨free, last, notNull⟩ := moves
  have unkeyed : Document.get? (gathered fields) FieldName.primaryKey = none := by
    refine Option.eq_none_iff_forall_ne_some.mpr fun other found => ?_
    have asked := ((get?_gathered_iff fits _ other).mp found).lastAsks (by decide)
    exact asked.not_free free
  have found : Document.get? (gathered fields) FieldName.identifier = some value :=
    (get?_gathered_iff fits _ value).mpr (.inl last)
  have only : ∀ other, Document.get? (gathered fields) FieldName.identifier = some other →
      other = value := by
    intro other isOther
    exact Option.some.inj (isOther.symm.trans found)
  have asksSomething : ∀ other,
      Document.get? (gathered fields) FieldName.identifier = some other →
        other.isNull = false := by
    intro other isOther
    rw [only other isOther]
    cases value with
    | null => exact absurd rfl notNull
    | _ => rfl
  obtain ⟨ofKey, ofIdentifier⟩ := get?_targetPrimaryKey unkeyed asksSomething
  refine ⟨sorted_targetPrimaryKey (sorted_gathered fields), ?_, ?_⟩
  · rintro other ⟨_, otherLast, _⟩
    rw [ofKey, only other ((get?_gathered_iff fits _ other).mpr (.inl otherLast))]
    exact ⟨found, ofIdentifier⟩
  · intro name elsewhere other
    obtain ⟨notIdentifier, notKey⟩ := elsewhere ⟨value, free, last, notNull⟩
    rw [get?_targetPrimaryKey_of_ne notIdentifier notKey, get?_gathered_iff fits]

theorem isFilterOf_of_stays (fits : ∀ field ∈ fields, ¬ field.Misfits)
    (stays : ∀ value, ¬ Moves fields value) :
    IsFilterOf fields (targetPrimaryKey (gathered fields)) := by
  have unchanged : targetPrimaryKey (gathered fields) = gathered fields := by
    by_cases free : Free fields FieldName.primaryKey
    · refine targetPrimaryKey_of_null fun value found => ?_
      have last := ((get?_gathered_iff fits _ value).mp found).lastAsks (by decide)
      by_contra notNull
      exact stays value ⟨free, last, notNull⟩
    · obtain ⟨value, keyed⟩ := exists_get?_gathered fits free
      exact targetPrimaryKey_of_keyed keyed
  rw [unchanged]
  exact ⟨sorted_gathered fields, fun value moves => absurd moves (stays value),
    fun name _ value => get?_gathered_iff fits name value⟩

/-- **Fields that fit have a filter**, the one that is described. -/
theorem isFilterOf_iff (fits : ∀ field ∈ fields, ¬ field.Misfits) (filter : Document) :
    IsFilterOf fields filter ↔ filter = targetPrimaryKey (gathered fields) := by
  have described : IsFilterOf fields (targetPrimaryKey (gathered fields)) := by
    by_cases moves : ∃ value, Moves fields value
    · obtain ⟨value, moves⟩ := moves
      exact isFilterOf_of_moves fits moves
    · exact isFilterOf_of_stays fits (not_exists.mp moves)
  constructor
  · exact fun isFilter => isFilter.unique described
  · rintro rfl
    exact described

/-! ## Leaving out and reordering -/

/-- A field is idle if it is left out, or zero and not asked for then. -/
theorem not_contributes_iff (field : QueryField) :
    ¬ field.Contributes ↔ field.isSkipped = true ∨
      field.zero = true ∧ Text.startsWith field.operatorPart "nil" = false ∧
        Text.startsWith field.operatorPart "empty" = false := by
  rw [Contributes, not_and_or, not_or, not_or]
  simp only [Bool.not_eq_false, Bool.not_eq_true]

/-- **Fields that do not contribute can be left out.** -/
theorem translate_without {field : QueryField} (idle : ¬ field.Contributes)
    (before after : List QueryField) :
    translate (before ++ field :: after) = translate (before ++ after) := by
  have asksNothing := condition?_of_not_contributes idle
  have without : ∀ filter, addConditions (before ++ field :: after) filter =
      addConditions (before ++ after) filter := by
    induction before with
    | nil =>
        intro filter
        rw [List.nil_append, addConditions, asksNothing]
        rfl
    | cons first rest ih =>
        intro filter
        rw [List.cons_append, List.cons_append, addConditions, addConditions]
        rcases first.condition? with error | _ | value
        · rfl
        · exact ih filter
        · exact ih _
  rw [translate, translate, without]

/-- The fields that contribute are stored under different keys. -/
def DistinctKeys (fields : List QueryField) : Prop :=
  fields.Pairwise fun first second =>
    first.Contributes → second.Contributes → first.key ≠ second.key

theorem nodup_names_of_distinctKeys (distinct : DistinctKeys fields) :
    ((fields.filterMap member?).map Prod.fst).Nodup := by
  rw [List.Nodup, List.pairwise_map, List.pairwise_filterMap]
  refine distinct.imp fun {first second} differ member isFirst other isSecond sameName => ?_
  obtain ⟨firstKey, firstAsks⟩ := member?_eq_some_iff.mp isFirst
  obtain ⟨secondKey, secondAsks⟩ := member?_eq_some_iff.mp isSecond
  refine differ firstAsks.contributes secondAsks.contributes ?_
  rw [firstKey, secondKey, sameName]

/-- Members of different names may be written in any order. -/
theorem extend_perm {members others : Document} (same : members.Perm others)
    (distinct : (members.map Prod.fst).Nodup) (document : Document) :
    document.extend members = document.extend others := by
  refine same.foldl_eq' (fun first isFirst second isSecond written => ?_) document
  by_cases sameName : first.1 = second.1
  · rw [List.inj_on_of_nodup_map distinct isFirst isSecond sameName]
  · exact Document.insert_comm written sameName first.2 second.2

/-- **Fields with different keys may be given in any order.** -/
theorem translate_perm {others : List QueryField} (same : fields.Perm others)
    (distinct : DistinctKeys fields) {filter : Document}
    (translated : translate fields = .ok filter) : translate others = .ok filter := by
  have fits := fitting_of_translate translated
  have othersFit : ∀ field ∈ others, ¬ field.Misfits := by
    intro field isField
    exact fits field (same.mem_iff.mpr isField)
  have sameMembers : gathered fields = gathered others :=
    extend_perm (same.filterMap member?) (nodup_names_of_distinctKeys distinct) Document.live
  rw [translate_of_fitting othersFit, ← sameMembers, ← translate_of_fitting fits, translated]

/-! ## Translation -/

/-- **The translation of tagged fields, key by key.** It fails for the first field that asks for
membership in what is no array, and for nothing else. Otherwise there is a filter, and it is the
one document that has under each name what the last contributing field with that key asks for,
null for the time of deletion if no field contributes to that, and nothing else, but has what is
asked of the identifier under the primary key if that is free. Fields that do not contribute make
no difference, nor does the order of fields with different keys. -/
theorem translation_by_keys (fields : List QueryField) :
    (∀ error, translate fields = .error error ↔
        ∃ field, FirstWith Misfits fields field ∧ error = .inRequiresSequence field.key) ∧
      ((∀ field ∈ fields, ¬ field.Misfits) →
        ∃ filter, translate fields = .ok filter ∧
          ∀ other, IsFilterOf fields other ↔ other = filter) ∧
      (∀ before field after, fields = before ++ field :: after → ¬ field.Contributes →
        translate fields = translate (before ++ after)) ∧
      ∀ others, fields.Perm others → DistinctKeys fields →
        ∀ filter, translate fields = .ok filter → translate others = .ok filter := by
  refine ⟨fun error => translate_eq_error_iff, fun fits => ?_, ?_, ?_⟩
  · exact ⟨_, translate_of_fitting fits, isFilterOf_iff fits⟩
  · rintro before field after rfl idle
    exact translate_without idle before after
  · intro others same distinct filter translated
    exact translate_perm same distinct translated

/-- Fields of a query for users; nothing is asked of the age. -/
def userFields : List QueryField :=
  [tagged "userName" "like" (.string "ann"), tagged "status" "in" (.array [.string "new"]),
    untagged "id" (.string "5"), tagged "nick" "nil" (.string ""), untagged "age" .null]

/-- The filter of these fields. -/
def userFilter : Document :=
  [("_id", .string "5"), ("deleted_at", .null), ("nick", .null),
    ("status", .object [("$in", .array [.string "new"])]),
    ("user_name", .object [("$regex", .string "ann")])]

theorem translation_by_keys_userFields :
    translate userFields.reverse = .ok userFilter ∧
      translate userFields = translate (userFields.take 4) := by
  have translated : translate userFields = .ok userFilter := by decide +kernel
  have keys : userFields.map key = ["user_name", "status", "id", "nick", "age"] := by
    decide +kernel
  have distinct : DistinctKeys userFields := by
    have different : (userFields.map key).Nodup := by
      rw [keys]
      decide
    exact (List.pairwise_map.mp different).imp fun differ _ _ => differ
  obtain ⟨_, _, without, reorder⟩ := translation_by_keys userFields
  constructor
  · exact reorder userFields.reverse userFields.reverse_perm.symm distinct userFilter translated
  · apply without (userFields.take 4) (untagged "age" .null) [] rfl
    rw [not_contributes_iff]
    decide +kernel

end QueryField

end Docket
