import Docket.Proofs.Conversion.Copying
import Docket.Proofs.Record.Fidelity

/-!
# Copying by best effort

A copier that passes over what does not convert never fails because of what it copies.
As long as both records are written and what the destination is written as can be read
back, the copy gives a record (`exists_copyInto`). This holds of any destination, whatever
its fields have to do with each other: the changes are made one after another, and what
has been accepted so far is readable at any time.

If the destination is a record of fields that are read each by itself, more is true. The
copy is exactly field by field (`copyInto_fieldwise`): a field has what the offered value
converts to, if it converts and the field can read it, and in every other case what it had
before (`received`). So a field that fails affects no other one, and it makes no difference
whether the changes were read back all at once or one after another.

What no policy passes over is a record that is not written as an object: a copy from or to
such a record fails (`exists_copy_error`).
-/

set_option autoImplicit false

namespace Docket

namespace Logged

variable {α β : Type}

theorem value_bind (first : Logged α) (next : α → Logged β) :
    (first >>= next).value = (next first.value).value := rfl

end Logged

/-- A type reads a record from members. -/
def RecordType.Reads (record : RecordType) (members : Document) : Prop :=
  ∃ value, record.decode (.object members) = .ok value

namespace Copier

universe u

variable {copier : Copier} {sources : List FieldSpec} {given : Document}

/-! ## Changes -/

/-- The change to a field of the destination, if there is one. -/
def change? (copier : Copier) (sources : List FieldSpec) (given : Document)
    (target : FieldSpec) : Option Change :=
  match copier.offered? sources given target with
  | none => none
  | some (source, value) =>
      match (copier.convert source target value).value with
      | .ok (some converted) => some ⟨source, target, converted⟩
      | _ => none

theorem target_of_change? {target : FieldSpec} {change : Change}
    (changes : copier.change? sources given target = some change) : change.target = target := by
  unfold change? at changes
  split at changes
  · cases changes
  · split at changes
    · rw [← Option.some.inj changes]
    · cases changes

theorem change?_of_not_offered {target : FieldSpec}
    (nothing : copier.offered? sources given target = none) :
    copier.change? sources given target = none := by
  rw [change?, nothing]

theorem change?_of_convert {source target : FieldSpec} {value : Json} {converted : Option Json}
    (offered : copier.offered? sources given target = some (source, value))
    (converts : (copier.convert source target value).value = .ok converted) :
    copier.change? sources given target = converted.map fun json => ⟨source, target, json⟩ := by
  simp only [change?, offered, converts]
  cases converted <;> rfl

section

variable (effort : copier.policy = .bestEffort)

include effort

theorem value_settleError {α : Type} (message : String) (error : ConversionError) :
    (copier.settleError (α := α) message error).value = .ok none := by
  rw [settleError, effort]

/-- A value that does not convert is passed over. -/
theorem exists_convert (source target : FieldSpec) (value : Json) :
    ∃ converted, (copier.convert source target value).value = .ok converted := by
  unfold convert
  split
  · exact ⟨_, rfl⟩
  · split
    · exact ⟨_, rfl⟩
    · split
      · exact ⟨_, rfl⟩
      · split
        · exact ⟨_, rfl⟩
        · exact ⟨none, value_settleError effort _ _⟩

/-- **The changes are those of each field**, and there are always some or none. -/
theorem value_changes (targets : List FieldSpec) :
    (copier.changes sources given targets).value =
      .ok (targets.filterMap (copier.change? sources given)) := by
  induction targets with
  | nil => rfl
  | cons target rest ih =>
      rw [changes, List.filterMap_cons, change?]
      cases copier.offered? sources given target with
      | none => exact ih
      | some offered =>
          obtain ⟨source, value⟩ := offered
          obtain ⟨converted, converts⟩ := exists_convert effort source target value
          simp only [Logged.value_bind, converts, ih]
          cases converted <;> rfl

/-! ## Any destination -/

/-- **Changes are accepted as long as the destination can be read.** -/
theorem exists_accept (target : RecordType) (changes : List Change) {accepted : Document}
    (reads : target.Reads accepted) :
    ∃ document, (copier.accept target changes accepted).value = .ok document ∧
      target.Reads document := by
  induction changes generalizing accepted with
  | nil => exact ⟨accepted, rfl, reads⟩
  | cons change rest ih =>
      rw [accept]
      cases decoded : target.decode
          (.object (Document.insert accepted change.target.name change.value)) with
      | ok value => exact ih ⟨value, decoded⟩
      | error reason =>
          dsimp only
          rw [Logged.value_bind, value_settleError effort]
          exact ih reads

/-- **A copy by best effort gives a record**, if both records are written and the
destination can be read back. -/
theorem exists_copyInto {source target : RecordType} {value : source.Value}
    {destination : target.Value} {base : Document} (isGiven : written source value = .ok given)
    (isBase : written target destination = .ok base) (reads : target.Reads base) :
    ∃ result, (copier.copyInto source target value destination).value = .ok result := by
  unfold copyInto
  rw [isGiven, isBase]
  dsimp only
  rw [Logged.value_bind, value_changes effort]
  dsimp only
  cases decoded : target.decode
      (.object (changed base (target.fields.filterMap (copier.change? source.fields given)))) with
  | ok result => exact ⟨result, rfl⟩
  | error reason =>
      obtain ⟨document, accepts, result, readBackAs⟩ := exists_accept effort target
        (target.fields.filterMap (copier.change? source.fields given)) reads
      refine ⟨result, ?_⟩
      dsimp only
      rw [Logged.value_bind, accepts]
      show readBack target document = .ok result
      rw [readBack, readBackAs]
      rfl

end

/-! ## What a copy did -/

theorem decode_of_readBack {target : RecordType} {members : Document} {result : target.Value}
    (readAs : readBack target members = .ok result) :
    target.decode (.object members) = .ok result := by
  unfold readBack at readAs
  cases outcome : target.decode (.object members) with
  | error reason =>
      rw [outcome] at readAs
      cases readAs
  | ok row =>
      rw [outcome] at readAs
      exact congrArg Except.ok (Except.ok.inj readAs)

/-- **What a copy that succeeded did**, by either policy. It wrote the destination and made
changes, and the result was read with all of them, or with those that were accepted one after
another. -/
theorem exists_changes_of_copyInto {source target : RecordType} {value : source.Value}
    {destination result : target.Value} (isGiven : written source value = .ok given)
    (copied : (copier.copyInto source target value destination).value = .ok result) :
    ∃ base changes, written target destination = .ok base ∧
      (copier.changes source.fields given target.fields).value = .ok changes ∧
      (target.decode (.object (changed base changes)) = .ok result ∨
        (∃ reason, target.decode (.object (changed base changes)) = .error reason) ∧
          ∃ document, (copier.accept target changes base).value = .ok document ∧
            target.decode (.object document) = .ok result) := by
  unfold copyInto at copied
  cases isBase : written target destination with
  | error error =>
      rw [isGiven, isBase] at copied
      cases copied
  | ok base =>
      rw [isGiven, isBase] at copied
      dsimp only at copied
      rw [Logged.value_bind] at copied
      cases made : (copier.changes source.fields given target.fields).value with
      | error error =>
          rw [made] at copied
          cases copied
      | ok changes =>
          refine ⟨base, changes, rfl, rfl, ?_⟩
          rw [made] at copied
          dsimp only at copied
          cases decoded : target.decode (.object (changed base changes)) with
          | ok row =>
              rw [decoded] at copied
              exact .inl (congrArg Except.ok (Except.ok.inj copied))
          | error reason =>
              rw [decoded] at copied
              dsimp only at copied
              rw [Logged.value_bind] at copied
              cases accepts : (copier.accept target changes base).value with
              | error error =>
                  rw [accepts] at copied
                  cases copied
              | ok document =>
                  rw [accepts] at copied
                  have readAs : readBack target document = .ok result := copied
                  exact .inr ⟨⟨reason, rfl⟩, document, rfl, decode_of_readBack readAs⟩

/-! ## Field by field -/

/-- What a field of the destination has after a copy: what the offered value converts to,
if the field can read that, else what it reads in the destination. -/
def received (copier : Copier) (sources : List FieldSpec) (given base : Document)
    (field : Field) : Except DecodeError field.Value :=
  match copier.change? sources given field.spec with
  | some change =>
      match field.codec.decode change.value with
      | .ok value => .ok value
      | .error _ => field.read base
  | none => field.read base

section

variable {ι : Type u} {field : ι → Field} {base : Document}

/-- The changes to some fields. -/
def fieldChanges (copier : Copier) (sources : List FieldSpec) (given : Document)
    (field : ι → Field) (indices : List ι) : List Change :=
  indices.filterMap fun index => copier.change? sources given (field index).spec

theorem filterMap_specs (indices : List ι) :
    ((indices.map field).map Field.spec).filterMap (copier.change? sources given) =
      copier.fieldChanges sources given field indices := by
  rw [List.filterMap_map, List.filterMap_map]
  rfl

theorem fieldChanges_of_none {first : ι} (rest : List ι)
    (none : copier.change? sources given (field first).spec = .none) :
    copier.fieldChanges sources given field (first :: rest) =
      copier.fieldChanges sources given field rest :=
  List.filterMap_cons_none none

theorem fieldChanges_of_some {first : ι} (rest : List ι) {change : Change}
    (some : copier.change? sources given (field first).spec = .some change) :
    copier.fieldChanges sources given field (first :: rest) =
      change :: copier.fieldChanges sources given field rest :=
  List.filterMap_cons_some some

/-- A field that is offered nothing that converts has what it had. -/
theorem received_of_none {target : Field}
    (none : copier.change? sources given target.spec = .none) :
    copier.received sources given base target = target.read base := by
  rw [received, none]

/-- A field that can read what it is offered has that. -/
theorem received_of_decode {target : Field} {change : Change} {value : target.Value}
    (some : copier.change? sources given target.spec = .some change)
    (decodes : target.codec.decode change.value = .ok value) :
    copier.received sources given base target = .ok value := by
  simp only [received, some, decodes]

/-- A field that cannot read what it is offered has what it had. -/
theorem received_of_error {target : Field} {change : Change} {error : DecodeError}
    (some : copier.change? sources given target.spec = .some change)
    (refuses : target.codec.decode change.value = .error error) :
    copier.received sources given base target = target.read base := by
  simp only [received, some, refuses]

/-- A field that could be read before receives something. -/
theorem exists_received {target : Field} (reads : ∃ value, target.read base = .ok value) :
    ∃ value, copier.received sources given base target = .ok value := by
  cases isChange : copier.change? sources given target.spec with
  | none =>
      rw [received_of_none isChange]
      exact reads
  | some change =>
      cases decodes : target.codec.decode change.value with
      | ok value => exact ⟨value, received_of_decode isChange decodes⟩
      | error error =>
          rw [received_of_error isChange decodes]
          exact reads

/-- A change that another field gets does not matter. -/
theorem received_congr {target : Field} {other : Document}
    (same : Document.get? other target.name = Document.get? base target.name) :
    copier.received sources given other target = copier.received sources given base target := by
  unfold received
  rw [Field.read_congr same]

/-- The change to a field goes under its name. -/
theorem name_of_change? {target : Field} {change : Change}
    (some : copier.change? sources given target.spec = .some change) :
    change.target.name = target.name := by
  rw [target_of_change? some]
  rfl

theorem get?_changed_of_others {name : String} {changes : List Change}
    (others : ∀ change ∈ changes, change.target.name ≠ name) :
    Document.get? (changed base changes) name = Document.get? base name := by
  induction changes generalizing base with
  | nil => rfl
  | cons change rest ih =>
      obtain ⟨here, behind⟩ := List.forall_mem_cons.mp others
      rw [changed, List.foldl_cons, ← changed, ih behind,
        Document.get?_insert_of_ne base _ here.symm]

theorem get?_changed_of_unnamed {name : String} {indices : List ι}
    (unnamed : ∀ index ∈ indices, (field index).name ≠ name) :
    Document.get? (changed base (copier.fieldChanges sources given field indices)) name =
      Document.get? base name := by
  apply get?_changed_of_others
  intro change isChange
  obtain ⟨index, isIndex, changes⟩ := List.mem_filterMap.mp isChange
  rw [name_of_change? changes]
  exact unnamed index isIndex

/-- What is written under the name of one field leaves the members of the others. -/
theorem get?_insert_elsewhere {all : List ι}
    (distinct : (all.map fun index => (field index).name).Nodup) {first : ι}
    (isFirst : first ∈ all)
    {index : ι} (isIndex : index ∈ all) (differ : index ≠ first) (document : Document)
    (json : Json) :
    Document.get? (Document.insert document (field first).name json) (field index).name =
      Document.get? document (field index).name :=
  Document.get?_insert_of_ne document _ fun sameName =>
    differ (List.inj_on_of_nodup_map distinct isIndex isFirst sameName)

/-- All fields can read a document in which one member was replaced by one that its field
reads. -/
theorem reads_insert {all : List ι} (distinct : (all.map fun index => (field index).name).Nodup)
    {first : ι} (isFirst : first ∈ all) {json : Json} {value : (field first).Value}
    (decodes : (field first).codec.decode json = .ok value) {document : Document}
    (reads : ∀ index ∈ all, ∃ value, (field index).read document = .ok value) :
    ∀ index ∈ all, ∃ value,
      (field index).read (Document.insert document (field first).name json) = .ok value := by
  intro index isIndex
  by_cases isThis : index = first
  · subst isThis
    refine ⟨value, ?_⟩
    rw [Field.read, Document.get?_insert_self]
    exact decodes
  · rw [Field.read_congr (get?_insert_elsewhere distinct isFirst isIndex isThis document json)]
    exact reads index isIndex

/-- **All changes at once leave under each name what the field of the name gets**, if it
gets anything. -/
theorem get?_changed {indices : List ι}
    (distinct : (indices.map fun index => (field index).name).Nodup) {index : ι}
    (isIndex : index ∈ indices) :
    Document.get? (changed base (copier.fieldChanges sources given field indices))
        (field index).name =
      match copier.change? sources given (field index).spec with
      | some change => some change.value
      | none => Document.get? base (field index).name := by
  induction indices generalizing base with
  | nil => cases isIndex
  | cons first rest ih =>
      obtain ⟨isNew, restDistinct⟩ := List.nodup_cons.mp distinct
      have others : ∀ other ∈ rest, (field other).name ≠ (field first).name :=
        fun other isOther equal => isNew (List.mem_map.mpr ⟨other, isOther, equal⟩)
      cases isChange : copier.change? sources given (field first).spec with
      | none =>
          rw [fieldChanges_of_none rest isChange]
          rcases List.mem_cons.mp isIndex with rfl | behind
          · rw [get?_changed_of_unnamed others, isChange]
          · exact ih restDistinct behind
      | some change =>
          rw [fieldChanges_of_some rest isChange, changed, List.foldl_cons, ← changed,
            name_of_change? isChange]
          rcases List.mem_cons.mp isIndex with rfl | behind
          · rw [get?_changed_of_unnamed others, Document.get?_insert_self, isChange]
          · rw [ih restDistinct behind, Document.get?_insert_of_ne base _ (others index behind)]

/-- **Changes that are read back all at once** give each field what it receives. -/
theorem received_of_decoded {indices : List ι}
    (distinct : (indices.map fun index => (field index).name).Nodup)
    {value : (index : ι) → (field index).Value}
    (decoded : Row.decode (indices.map field)
      (.object (changed base (copier.fieldChanges sources given field indices))) =
        .ok (Row.ofValues field value indices)) :
    ∀ index ∈ indices, copier.received sources given base (field index) =
      .ok (value index) := by
  intro index isIndex
  have reads := Row.reads_of_decode decoded index isIndex
  have found : Document.get? (changed base (copier.fieldChanges sources given field indices))
      (field index).name = _ := get?_changed distinct isIndex
  rw [Field.read, found] at reads
  cases isChange : copier.change? sources given (field index).spec with
  | none =>
      rw [isChange] at reads
      rw [received_of_none isChange]
      exact reads
  | some change =>
      rw [isChange] at reads
      exact received_of_decode isChange reads

section

variable (sources given) (effort : copier.policy = .bestEffort) (name : String)

include effort

/-- The change to one field is made if the field can read it, and taken back if not: as the
other fields are read anyway, it is this field alone that decides. -/
theorem accept_step {all : List ι} (distinct : (all.map fun index => (field index).name).Nodup)
    {first : ι} (isFirst : first ∈ all) (rest : List ι) {accepted : Document}
    (sorted : Document.Sorted accepted)
    (reads : ∀ index ∈ all, ∃ value, (field index).read accepted = .ok value) :
    ∃ next, (copier.accept (.ofFields name (all.map field))
          (copier.fieldChanges sources given field (first :: rest)) accepted).value =
        (copier.accept (.ofFields name (all.map field))
          (copier.fieldChanges sources given field rest) next).value ∧
      Document.Sorted next ∧
      (field first).read next = copier.received sources given accepted (field first) ∧
      ∀ index ∈ all, index ≠ first →
        Document.get? next (field index).name = Document.get? accepted (field index).name := by
  cases isChange : copier.change? sources given (field first).spec with
  | none =>
      rw [fieldChanges_of_none rest isChange, received_of_none isChange]
      exact ⟨accepted, rfl, sorted, rfl, fun _ _ _ => rfl⟩
  | some change =>
      rw [fieldChanges_of_some rest isChange, accept, name_of_change? isChange]
      set next := Document.insert accepted (field first).name change.value with isNext
      have here : (field first).read next = (field first).codec.decode change.value := by
        rw [Field.read, isNext, Document.get?_insert_self]
      have elsewhere : ∀ index ∈ all, index ≠ first →
          Document.get? next (field index).name = Document.get? accepted (field index).name :=
        fun index isIndex isOther =>
          get?_insert_elsewhere distinct isFirst isIndex isOther accepted change.value
      cases decodes : (field first).codec.decode change.value with
      | ok value =>
          have nextReads := reads_insert distinct isFirst decodes reads
          obtain ⟨row, decoded⟩ := Row.exists_decode (sorted.insert _ _) nextReads
          have isRead : (RecordType.ofFields name (all.map field)).decode (.object next) =
              .ok row := decoded
          refine ⟨next, ?_, sorted.insert _ _, ?_, elsewhere⟩
          · rw [isRead]
          · rw [here, decodes, received_of_decode isChange decodes]
      | error error =>
          have unread : ∃ reason, (RecordType.ofFields name (all.map field)).decode
              (.object next) = .error reason := by
            cases decoded : (RecordType.ofFields name (all.map field)).decode (.object next) with
            | error reason => exact ⟨reason, rfl⟩
            | ok row =>
                obtain ⟨value, isRow⟩ := Row.exists_values field (distinct.of_map _) row
                rw [isRow] at decoded
                have read := Row.reads_of_decode decoded first isFirst
                rw [here, decodes] at read
                cases read
          obtain ⟨reason, unread⟩ := unread
          refine ⟨accepted, ?_, sorted, (received_of_error isChange decodes).symm,
            fun _ _ _ => rfl⟩
          rw [unread]
          dsimp only
          rw [Logged.value_bind, value_settleError effort]

/-- **Changes that are made one after another** give each field what it receives. The
fields that the changes are for are among the fields of the type, and whatever was accepted
before is read by all of them. -/
theorem accept_fieldwise {all indices : List ι}
    (distinct : (all.map fun index => (field index).name).Nodup) (among : indices ⊆ all)
    (once : indices.Nodup) {accepted : Document} (sorted : Document.Sorted accepted)
    (reads : ∀ index ∈ all, ∃ value, (field index).read accepted = .ok value) :
    ∃ document, (copier.accept (.ofFields name (all.map field))
        (copier.fieldChanges sources given field indices) accepted).value = .ok document ∧
      Document.Sorted document ∧
      (∀ index ∈ indices,
        (field index).read document = copier.received sources given accepted (field index)) ∧
      ∀ index ∈ all, index ∉ indices →
        (field index).read document = (field index).read accepted := by
  induction indices generalizing accepted with
  | nil => exact ⟨accepted, rfl, sorted, fun _ isIndex => absurd isIndex List.not_mem_nil,
      fun _ _ _ => rfl⟩
  | cons first rest ih =>
      obtain ⟨isFirst, restAmong⟩ := List.cons_subset.mp among
      obtain ⟨isNew, restOnce⟩ := List.nodup_cons.mp once
      obtain ⟨next, steps, nextSorted, nextFirst, nextOther⟩ :=
        accept_step sources given effort name distinct isFirst rest sorted reads
      have nextReads : ∀ index ∈ all, ∃ value, (field index).read next = .ok value := by
        intro index isIndex
        by_cases isThis : index = first
        · subst isThis
          rw [nextFirst]
          exact exists_received (reads index isIndex)
        · rw [Field.read_congr (nextOther index isIndex isThis)]
          exact reads index isIndex
      obtain ⟨document, accepts, stillSorted, here, elsewhere⟩ :=
        ih restAmong restOnce nextSorted nextReads
      refine ⟨document, steps.trans accepts, stillSorted,
        List.forall_mem_cons.mpr ⟨?_, ?_⟩, ?_⟩
      · rw [elsewhere first isFirst isNew, nextFirst]
      · intro index isRest
        have differ : index ≠ first := fun equal => isNew (equal ▸ isRest)
        rw [here index isRest, received_congr (nextOther index (restAmong isRest) differ)]
      · intro index isIndex isOther
        obtain ⟨differ, behind⟩ := List.ne_and_not_mem_of_not_mem_cons isOther
        rw [elsewhere index isIndex behind, Field.read_congr (nextOther index isIndex differ)]

variable {sources given}

/-- **Changes that are made one after another are read back** as what each field receives. -/
theorem accept_readBack {indices : List ι}
    (distinct : (indices.map fun index => (field index).name).Nodup)
    (sorted : Document.Sorted base)
    (reads : ∀ index ∈ indices, ∃ value, (field index).read base = .ok value)
    {result : (index : ι) → (field index).Value}
    (receives : ∀ index ∈ indices,
      copier.received sources given base (field index) = .ok (result index)) :
    ∃ document, (copier.accept (.ofFields name (indices.map field))
        (copier.fieldChanges sources given field indices) base).value = .ok document ∧
      readBack (.ofFields name (indices.map field)) document =
        .ok (Row.ofValues field result indices) := by
  obtain ⟨document, accepts, stillSorted, here, _⟩ := accept_fieldwise sources given effort name
    distinct (List.Subset.refl indices) (distinct.of_map _) sorted reads
  have isRead : (RecordType.ofFields name (indices.map field)).decode (.object document) =
      .ok (Row.ofValues field result indices) :=
    Row.decode_ofValues stillSorted fun index isIndex =>
      (here index isIndex).trans (receives index isIndex)
  refine ⟨document, accepts, ?_⟩
  rw [readBack, isRead]
  rfl

/-- **A copy by best effort is exactly field by field.** If the destination can be read
back by each of its fields, each field has what it receives. -/
theorem copyInto_fieldwise {source : RecordType} {value : source.Value}
    (isGiven : written source value = .ok given) {indices : List ι}
    (distinct : (indices.map fun index => (field index).name).Nodup)
    {destination : Row (indices.map field)}
    (isBase : Row.encode (indices.map field) destination = .ok base)
    (reads : ∀ index ∈ indices, ∃ value, (field index).read base = .ok value)
    {result : (index : ι) → (field index).Value}
    (receives : ∀ index ∈ indices,
      copier.received source.fields given base (field index) = .ok (result index)) :
    (copier.copyInto source (.ofFields name (indices.map field)) value destination).value =
      .ok (Row.ofValues field result indices) := by
  have once : indices.Nodup := distinct.of_map _
  have isWritten : written (.ofFields name (indices.map field)) destination = .ok base :=
    written_ofFields name isBase
  have specs : (RecordType.ofFields name (indices.map field)).fields.filterMap
      (copier.change? source.fields given) =
        copier.fieldChanges source.fields given field indices := filterMap_specs indices
  unfold copyInto
  rw [isGiven, isWritten]
  dsimp only
  rw [Logged.value_bind, value_changes effort, specs]
  dsimp only
  cases decoded : (RecordType.ofFields name (indices.map field)).decode
      (.object (changed base (copier.fieldChanges source.fields given field indices))) with
  | ok row =>
      obtain ⟨value, isRow⟩ := Row.exists_values field once row
      rw [isRow] at decoded
      have received := received_of_decoded distinct decoded
      refine congrArg Except.ok (isRow.trans (Row.ofValues_congr field fun index isIndex => ?_))
      exact Except.ok.inj ((received index isIndex).symm.trans (receives index isIndex))
  | error reason =>
      obtain ⟨document, accepts, isRead⟩ := accept_readBack effort name distinct
        (Row.encode_sorted _ _ isBase) reads receives
      dsimp only
      rw [Logged.value_bind, accepts]
      exact isRead

/-- **A copy into a blank record** whose values come back gives each field what it receives,
and a field that receives nothing has its blank value. -/
theorem exists_copy_fieldwise {source : RecordType} {value : source.Value}
    (isGiven : written source value = .ok given) {indices : List ι}
    (distinct : (indices.map fun index => (field index).name).Nodup)
    (blanks : ∀ index ∈ indices, (field index).Returns (field index).codec.blank) :
    ∃ result base, (copier.copy source (.ofFields name (indices.map field)) value).value =
        .ok (Row.ofValues field result indices) ∧
      (∀ index ∈ indices, (field index).read base = .ok (field index).codec.blank) ∧
      ∀ index ∈ indices,
        copier.received source.fields given base (field index) = .ok (result index) := by
  obtain ⟨base, encoded⟩ := Row.exists_encode_of_returns blanks
  have reads : ∀ index ∈ indices, (field index).read base = .ok (field index).codec.blank :=
    fun index isIndex => Row.read_of_returns distinct encoded isIndex (blanks index isIndex)
  rw [← Row.blank_eq_ofValues] at encoded
  have readable : ∀ index ∈ indices, ∃ value, (field index).read base = .ok value :=
    fun index isIndex => ⟨_, reads index isIndex⟩
  have receives : ∀ index ∈ indices, ∃ value,
      copier.received source.fields given base (field index) = .ok value :=
    fun index isIndex => exists_received (readable index isIndex)
  obtain ⟨result, receives⟩ := Row.exists_family receives
  exact ⟨result, base, copyInto_fieldwise effort name isGiven distinct encoded readable receives,
    reads, receives⟩

end

/-! ## Coercions -/

/-- A field receives what the coercion of the two kinds makes of the offered value. -/
theorem received_of_coercion {target : Field} {source : FieldSpec} {written converted : Json}
    {value : target.Value} (coercion : Coercion)
    (offered : default.offered? sources given target.spec = some (source, written))
    (notNull : written ≠ .null) (differ : source.kind ≠ target.codec.kind)
    (known : CoercionRegistry.default.get? source.kind target.codec.kind = some coercion)
    (coerces : coercion written = .ok converted)
    (decodes : target.codec.decode converted = .ok value) :
    default.received sources given base target = .ok value := by
  have converts : default.convert source target.spec written = .silent (.ok (some converted)) :=
    convert_coerced notNull differ known coerces
  have isChange : default.change? sources given target.spec =
      some ⟨source, target.spec, converted⟩ :=
    change?_of_convert offered (congrArg Logged.value converts)
  exact received_of_decode isChange decodes

/-- A field keeps what it had if the coercion of the two kinds fails. -/
theorem received_of_refusal {target : Field} {source : FieldSpec} {written : Json}
    {reason : String} (coercion : Coercion)
    (offered : default.offered? sources given target.spec = some (source, written))
    (notNull : written ≠ .null) (differ : source.kind ≠ target.codec.kind)
    (known : CoercionRegistry.default.get? source.kind target.codec.kind = some coercion)
    (fails : coercion written = .error reason) :
    default.received sources given base target = target.read base := by
  have knownHere : default.registry.get? source.kind target.spec.kind = some coercion := known
  have differHere : ¬ source.kind = target.spec.kind := differ
  have converts : (default.convert source target.spec written).value = .ok none := by
    rw [convert, if_neg (isNull_of_ne notNull), if_neg differHere, knownHere]
    simp only [fails]
    exact value_settleError rfl _ _
  have noChange : default.change? sources given target.spec = none :=
    change?_of_convert offered converts
  exact received_of_none noChange

end

end Copier

/-! ## Blank and bare records -/

/-- The blank record of a type is written as an object, and read back from it. -/
def RecordType.BlankReturns (record : RecordType) : Prop :=
  ∃ base, Copier.written record record.blank = .ok base ∧ record.Reads base

/-- No record of a type is written as an object. -/
def RecordType.IsBare (record : RecordType) : Prop :=
  ∀ value members, record.encode value ≠ .ok (.object members)

/-- What is not written as an object is not copied. -/
theorem Copier.exists_written_error {record : RecordType} {value : record.Value}
    (bare : ∀ members, record.encode value ≠ .ok (.object members)) :
    ∃ error, Copier.written record value = .error error := by
  unfold written RecordType.members
  cases encoded : record.encode value with
  | error reason => exact ⟨_, rfl⟩
  | ok json =>
      cases json with
      | object members => exact absurd encoded (bare members)
      | _ => exact ⟨_, rfl⟩

/-- A copy from or to a record that is not written as an object fails. -/
theorem Copier.exists_copy_error {copier : Copier} {source target : RecordType}
    (bare : source.IsBare ∨ ∀ members, target.encode target.blank ≠ .ok (.object members))
    (value : source.Value) : ∃ error, (copier.copy source target value).value = .error error := by
  unfold copy copyInto
  cases isGiven : written source value with
  | error error => exact ⟨error, rfl⟩
  | ok given =>
      rcases bare with bareSource | bareBlank
      · obtain ⟨error, failed⟩ := exists_written_error (bareSource value)
        rw [failed] at isGiven
        cases isGiven
      · obtain ⟨error, failed⟩ := exists_written_error bareBlank
        rw [failed]
        exact ⟨error, rfl⟩

/-! ## Several records -/

/-- Values that are all converted one by one are converted together. -/
theorem ModelConverter.exists_all {α β : Type}
    {convert : α → Logged (Except ConversionError β)}
    {values : List α}
    (converts : ∀ value ∈ values, ∃ result, (convert value).value = .ok result) :
    ∃ results, (all convert values).value = .ok results := by
  induction values with
  | nil => exact ⟨[], rfl⟩
  | cons value rest ih =>
      obtain ⟨⟨result, here⟩, behind⟩ := List.forall_mem_cons.mp converts
      obtain ⟨results, ofRest⟩ := ih behind
      refine ⟨result :: results, ?_⟩
      rw [all, Logged.value_bind, here]
      dsimp only
      rw [Logged.value_bind, ofRest]
      rfl

end Docket
