import Docket.Proofs.Conversion.Fieldwise
import Docket.Proofs.First

/-!
# The two policies

Two things can keep a field from having what it is offered. The coercion of the offered value
can fail (`CoercionFails`), or the field cannot read what the value converts to (`Misfits`). By
the strict policy either of them is an error, and the destination stays as it was. By best effort
either is reported as a warning, and the field keeps what it had.

Strict copying is therefore copying by best effort that refuses to drop anything: it succeeds
exactly if the same copy by best effort reports no warning, and then both give the same record
(`strict_refuses_what_is_dropped`). Of several fields that cannot be copied the error blames one.
Coercions are tried first, for all fields, so it is the first field whose coercion fails; only if
no coercion fails is it the first field that cannot read what it gets (`Blames`).

The second half is not immediate, as a record is read as a whole. But changes are made one after
another to an object that every field can read. When the object cannot be read any more, only the
member that was changed last can be the reason, and the error that reading reports is the one
that its own field has for it.
-/

set_option autoImplicit false

namespace Docket

/-! ## Warnings -/

namespace Logged

variable {α β : Type}

/-- A result was reached with a warning. -/
def Warns (logged : Logged α) : Prop :=
  ∃ entry ∈ logged.entries, entry.level = .warn

theorem not_warns_silent (value : α) : ¬ (silent value).Warns := by
  rintro ⟨entry, isEntry, _⟩
  cases isEntry

theorem warns_bind_iff (first : Logged α) (next : α → Logged β) :
    (first >>= next).Warns ↔ first.Warns ∨ (next first.value).Warns := by
  have entries : (first >>= next).entries = first.entries ++ (next first.value).entries := rfl
  simp only [Warns, entries, List.mem_append, or_and_right, exists_or]

end Logged

universe u

namespace Copier

/-- The copier with another policy. -/
def under (copier : Copier) (policy : ConversionPolicy) : Copier :=
  { copier with policy }

/-! ## What keeps a field from being copied -/

/-- **A field is offered a value** by what a record of a type was written as. -/
structure Offers (copier : Copier) (source : RecordType) (given : Document) (target : Field)
    (spec : FieldSpec) (value : Json) : Prop where
  notSkipped : target.name ∉ copier.skip
  isField : source.field? target.name = some spec
  isGiven : Document.get? given target.name = some value
  notEmpty : copier.ignoreEmpty = true → value.isZero = false

/-- The two kinds have a coercion, and it fails for a value. -/
structure Fails (registry : CoercionRegistry) (source target : FieldSpec) (value : Json)
    (reason : String) : Prop where
  notNull : value ≠ .null
  differ : source.kind ≠ target.kind
  coercion : ∃ coercion, registry.get? source.kind target.kind = some coercion ∧
    coercion value = .error reason

/-- **The coercion of a field fails** for what the field is offered. -/
def CoercionFails (copier : Copier) (source : RecordType) (given : Document) (target : Field)
    (spec : FieldSpec) (reason : String) : Prop :=
  ∃ value, copier.Offers source given target spec value ∧
    Fails copier.registry spec target.spec value reason

/-- **A field cannot read** what the value that it is offered converts to. -/
def Misfits (copier : Copier) (source : RecordType) (given : Document) (target : Field)
    (spec : FieldSpec) (error : DecodeError) : Prop :=
  ∃ value converted, copier.Offers source given target spec value ∧
    Converts copier.registry spec target.spec value converted ∧
    target.codec.decode converted = .error error

/-- **The error blames the first field that cannot be copied**: the first one whose coercion
fails, or, if no coercion fails, the first one that cannot read what it gets. -/
inductive Blames (copier : Copier) (source : RecordType) (given : Document) {ι : Type u}
    (field : ι → Field) (indices : List ι) : ConversionError → Prop
  | coercion {index : ι} {spec : FieldSpec} {reason : String}
      (first : FirstWith (fun index => ∃ spec reason,
        copier.CoercionFails source given (field index) spec reason) indices index)
      (fails : copier.CoercionFails source given (field index) spec reason) :
      Blames copier source given field indices
        (.field (field index).name spec.kind.name (field index).codec.kind.name reason)
  | misfit {index : ι} {spec : FieldSpec} {error : DecodeError}
      (sound : ∀ index ∈ indices, ∀ spec reason,
        ¬ copier.CoercionFails source given (field index) spec reason)
      (first : FirstWith (fun index => ∃ spec error,
        copier.Misfits source given (field index) spec error) indices index)
      (misfits : copier.Misfits source given (field index) spec error) :
      Blames copier source given field indices
        (.field (field index).name spec.kind.name (field index).codec.kind.name error.message)

section

variable {copier : Copier} {source : RecordType} {given : Document} {target : Field}
  {spec : FieldSpec}

/-- The policy has no part in what a field is offered. -/
theorem offered?_under_iff (policy : ConversionPolicy) {value : Json} :
    (copier.under policy).offered? source.fields given target.spec = some (spec, value) ↔
      copier.Offers source given target spec value :=
  offered?_eq_some_iff.trans
    ⟨fun ⟨notSkipped, isField, isGiven, notEmpty⟩ =>
      ⟨notSkipped, isField, isGiven, notEmpty⟩,
      fun ⟨notSkipped, isField, isGiven, notEmpty⟩ =>
        ⟨notSkipped, isField, isGiven, notEmpty⟩⟩

/-- A field cannot read the change that it gets. -/
theorem misfits_iff {error : DecodeError} :
    copier.Misfits source given target spec error ↔
      ∃ change,
        (copier.under .bestEffort).change? source.fields given target.spec = some change ∧
        change.source = spec ∧ target.codec.decode change.value = .error error := by
  constructor
  · rintro ⟨value, converted, offers, converts, misfits⟩
    have offered := (offered?_under_iff .bestEffort).mpr offers
    exact ⟨⟨spec, target.spec, converted⟩,
      (change?_eq_some_iff rfl).mpr ⟨rfl, value, offered, converts⟩, rfl, misfits⟩
  · rintro ⟨⟨other, here, converted⟩, isChange, rfl, misfits⟩
    obtain ⟨_, value, offered, converts⟩ := (change?_eq_some_iff rfl).mp isChange
    exact ⟨value, converted, (offered?_under_iff .bestEffort).mp offered, converts, misfits⟩

end

/-! ## Coercions -/

section

variable {copier : Copier} {spec other : FieldSpec} {value : Json}

/-- A coercion that fails is an error, or a warning. -/
theorem convert_of_fails {reason : String}
    (fails : Fails copier.registry spec other value reason) :
    copier.convert spec other value =
      copier.settleError "Field conversion failed, keeping destination value"
        (fieldError spec other reason) := by
  obtain ⟨notNull, differ, coercion, known, fails⟩ := fails
  rw [convert, if_neg (isNull_of_ne notNull), if_neg differ, known]
  simp only [fails]

/-- If no coercion fails, the policy makes no difference, and there is no warning. -/
theorem exists_convert_of_sound
    (sound : ∀ reason, ¬ Fails copier.registry spec other value reason) :
    ∃ converted, ∀ policy,
      ((copier.under policy).convert spec other value).value = .ok converted ∧
        ¬ ((copier.under policy).convert spec other value).Warns := by
  by_cases isNull : value = .null
  · subst isNull
    exact ⟨_, fun policy => ⟨rfl, Logged.not_warns_silent _⟩⟩
  by_cases same : spec.kind = other.kind
  · refine ⟨some value, fun policy => ?_⟩
    rw [convert, if_neg (isNull_of_ne isNull), if_pos same]
    exact ⟨rfl, Logged.not_warns_silent _⟩
  cases known : copier.registry.get? spec.kind other.kind with
  | none =>
      refine ⟨none, fun policy => ?_⟩
      have knownHere : (copier.under policy).registry.get? spec.kind other.kind = none := known
      rw [convert, if_neg (isNull_of_ne isNull), if_neg same, knownHere]
      refine ⟨rfl, ?_⟩
      rintro ⟨entry, isEntry, warns⟩
      obtain rfl := List.mem_singleton.mp isEntry
      cases warns
  | some coercion =>
      cases coerces : coercion value with
      | error reason => exact absurd ⟨isNull, same, coercion, known, coerces⟩ (sound reason)
      | ok converted =>
          refine ⟨some converted, fun policy => ?_⟩
          have knownHere : (copier.under policy).registry.get? spec.kind other.kind =
              some coercion := known
          rw [convert, if_neg (isNull_of_ne isNull), if_neg same, knownHere]
          simp only [coerces]
          exact ⟨rfl, Logged.not_warns_silent _⟩

theorem settleError_warns {α : Type} (message : String) (error : ConversionError) :
    ((copier.under .bestEffort).settleError (α := α) message error).Warns :=
  ⟨passedOver message error, List.mem_singleton_self _, rfl⟩

end

/-! ## The two passes -/

section

variable {copier : Copier} {source : RecordType} {given : Document} {ι : Type u}
  {field : ι → Field}

/-- **If no coercion fails, both policies make the same changes**, and there is no warning. -/
theorem changes_of_sound (policy : ConversionPolicy) {indices : List ι}
    (sound : ∀ index ∈ indices, ∀ spec reason,
      ¬ copier.CoercionFails source given (field index) spec reason) :
    ((copier.under policy).changes source.fields given
        ((indices.map field).map Field.spec)).value =
        .ok ((copier.under .bestEffort).fieldChanges source.fields given field indices) ∧
      ¬ ((copier.under policy).changes source.fields given
        ((indices.map field).map Field.spec)).Warns := by
  induction indices with
  | nil => exact ⟨rfl, Logged.not_warns_silent _⟩
  | cons first rest ih =>
      obtain ⟨here, behind⟩ := List.forall_mem_cons.mp sound
      obtain ⟨restValue, restQuiet⟩ := ih behind
      rw [List.map_cons, List.map_cons, changes]
      cases offered : (copier.under policy).offered? source.fields given (field first).spec with
      | none =>
          have nothing : (copier.under .bestEffort).offered? source.fields given
              (field first).spec = none := offered
          rw [fieldChanges_of_none rest (change?_of_not_offered nothing)]
          exact ⟨restValue, restQuiet⟩
      | some pair =>
          obtain ⟨spec, value⟩ := pair
          have offers := (offered?_under_iff policy).mp offered
          have notFails : ∀ reason,
              ¬ Fails copier.registry spec (field first).spec value reason :=
            fun reason fails => here spec reason ⟨value, offers, fails⟩
          obtain ⟨converted, converts⟩ := exists_convert_of_sound notFails
          obtain ⟨isConverted, quiet⟩ := converts policy
          have change := change?_of_convert ((offered?_under_iff .bestEffort).mpr offers)
            (converts .bestEffort).1
          constructor
          · simp only [Logged.value_bind, isConverted, restValue]
            cases converted with
            | none => rw [fieldChanges_of_none rest change]; rfl
            | some json => rw [fieldChanges_of_some rest change]; rfl
          · simp only [Logged.warns_bind_iff, isConverted, restValue, quiet, restQuiet, false_or]
            exact Logged.not_warns_silent _

/-- The first coercion that fails ends the changes by the strict policy. -/
theorem value_changes_of_fails {before : List ι} {index : ι} (behind : List ι) {spec : FieldSpec}
    {reason : String}
    (sound : ∀ other ∈ before, ¬ ∃ spec reason,
      copier.CoercionFails source given (field other) spec reason)
    (fails : copier.CoercionFails source given (field index) spec reason) :
    ((copier.under .strict).changes source.fields given
        (((before ++ index :: behind).map field).map Field.spec)).value =
      .error (fieldError spec (field index).spec reason) := by
  induction before with
  | nil =>
      obtain ⟨value, offers, fails⟩ := fails
      have refused : (copier.under .strict).convert spec (field index).spec value = _ :=
        convert_of_fails fails
      rw [List.nil_append, List.map_cons, List.map_cons, changes,
        (offered?_under_iff .strict).mpr offers]
      dsimp only
      rw [Logged.value_bind, refused]
      rfl
  | cons first rest ih =>
      obtain ⟨here, restSound⟩ := List.forall_mem_cons.mp sound
      rw [List.cons_append, List.map_cons, List.map_cons, changes]
      cases offered : (copier.under .strict).offered? source.fields given (field first).spec with
      | none => exact ih restSound
      | some pair =>
          obtain ⟨other, value⟩ := pair
          have offers := (offered?_under_iff .strict).mp offered
          have notFails : ∀ reason,
              ¬ Fails copier.registry other (field first).spec value reason :=
            fun reason fails => here ⟨other, reason, value, offers, fails⟩
          obtain ⟨converted, converts⟩ := exists_convert_of_sound notFails
          simp only [Logged.value_bind, (converts .strict).1, ih restSound]
          rfl

/-- A coercion that fails is a warning by best effort. -/
theorem changes_warns_of_fails {indices : List ι} {index : ι} (isIndex : index ∈ indices)
    {spec : FieldSpec} {reason : String}
    (fails : copier.CoercionFails source given (field index) spec reason) :
    ((copier.under .bestEffort).changes source.fields given
      ((indices.map field).map Field.spec)).Warns := by
  induction indices with
  | nil => cases isIndex
  | cons first rest ih =>
      rw [List.map_cons, List.map_cons, changes]
      rcases List.mem_cons.mp isIndex with rfl | behind
      · obtain ⟨value, offers, fails⟩ := fails
        have reported : (copier.under .bestEffort).convert spec (field index).spec value = _ :=
          convert_of_fails fails
        rw [(offered?_under_iff .bestEffort).mpr offers]
        dsimp only
        rw [Logged.warns_bind_iff, reported]
        exact .inl (settleError_warns _ _)
      · cases (copier.under .bestEffort).offered? source.fields given (field first).spec with
        | none => exact ih behind
        | some pair =>
            obtain ⟨other, value⟩ := pair
            have effort : (copier.under .bestEffort).policy = .bestEffort := rfl
            obtain ⟨converted, converts⟩ := exists_convert effort other (field first).spec value
            dsimp only
            rw [Logged.warns_bind_iff, converts]
            exact .inr ((Logged.warns_bind_iff _ _).mpr (.inl (ih behind)))

/-- **The first change that cannot be read is blamed** by the strict policy, and reported by best
effort. Whatever was accepted before is read by all fields. -/
theorem accept_of_misfit {all before behind : List ι} {index : ι} (name : String)
    (distinct : (all.map fun index => (field index).name).Nodup)
    (among : before ++ index :: behind ⊆ all)
    (fits : ∀ other ∈ before, ¬ ∃ spec error,
      copier.Misfits source given (field other) spec error)
    {spec : FieldSpec} {error : DecodeError}
    (misfits : copier.Misfits source given (field index) spec error)
    {accepted : Document} (sorted : Document.Sorted accepted)
    (reads : ∀ index ∈ all, ∃ value, (field index).read accepted = .ok value) :
    ((copier.under .strict).accept (.ofFields name (all.map field))
        ((copier.under .bestEffort).fieldChanges source.fields given field
          (before ++ index :: behind)) accepted).value =
        .error (fieldError spec (field index).spec error.message) ∧
      ((copier.under .bestEffort).accept (.ofFields name (all.map field))
        ((copier.under .bestEffort).fieldChanges source.fields given field
          (before ++ index :: behind)) accepted).Warns := by
  induction before generalizing accepted with
  | nil =>
      obtain ⟨isIndex, _⟩ := List.cons_subset.mp among
      obtain ⟨change, isChange, rfl, undecoded⟩ := misfits_iff.mp misfits
      have isTarget : change.target = (field index).spec := target_of_change? isChange
      have unread : (RecordType.ofFields name (all.map field)).decode
          (.object (Document.insert accepted change.target.name change.value)) = .error error := by
        refine Row.decode_of_misfit (sorted.insert _ _) distinct isIndex ?_ undecoded ?_
        · rw [name_of_change? isChange, Document.get?_insert_self]
        · intro other isOther differ
          rw [name_of_change? isChange, Field.read_congr
            (get?_insert_elsewhere distinct isIndex isOther differ accepted change.value)]
          exact reads other isOther
      rw [List.nil_append, fieldChanges_of_some behind isChange, accept, accept, unread]
      dsimp only
      rw [Logged.value_bind, Logged.warns_bind_iff, isTarget]
      exact ⟨rfl, .inl (settleError_warns _ _)⟩
  | cons first rest ih =>
      obtain ⟨here, restFits⟩ := List.forall_mem_cons.mp fits
      obtain ⟨isFirst, restAmong⟩ := List.cons_subset.mp among
      rw [List.cons_append]
      cases isChange : (copier.under .bestEffort).change? source.fields given
          (field first).spec with
      | none =>
          rw [fieldChanges_of_none _ isChange]
          exact ih restAmong restFits sorted reads
      | some change =>
          cases decodes : (field first).codec.decode change.value with
          | error error =>
              exact absurd ⟨_, error, misfits_iff.mpr ⟨change, isChange, rfl, decodes⟩⟩ here
          | ok value =>
              have nextReads := reads_insert distinct isFirst decodes reads
              obtain ⟨row, decoded⟩ := Row.exists_decode (sorted.insert _ _) nextReads
              have isRead : (RecordType.ofFields name (all.map field)).decode
                  (.object (Document.insert accepted change.target.name change.value)) =
                    .ok row := by
                rw [name_of_change? isChange]
                exact decoded
              rw [fieldChanges_of_some _ isChange, accept, accept, isRead,
                name_of_change? isChange]
              exact ih restAmong restFits (sorted.insert _ _) nextReads

theorem sorted_changed (changes : List Change) {document : Document}
    (sorted : Document.Sorted document) : Document.Sorted (changed document changes) := by
  induction changes generalizing document with
  | nil => exact sorted
  | cons change rest ih => exact ih (sorted.insert _ _)

/-- All changes at once are read if each field can read its own. -/
theorem exists_decode_changed {indices : List ι} (name : String)
    (distinct : (indices.map fun index => (field index).name).Nodup)
    (fits : ∀ index ∈ indices, ¬ ∃ spec error,
      copier.Misfits source given (field index) spec error)
    {base : Document} (sorted : Document.Sorted base)
    (reads : ∀ index ∈ indices, ∃ value, (field index).read base = .ok value) :
    ∃ row, (RecordType.ofFields name (indices.map field)).decode (.object (changed base
      ((copier.under .bestEffort).fieldChanges source.fields given field indices))) = .ok row := by
  refine Row.exists_decode (sorted_changed _ sorted) fun index isIndex => ?_
  have found : Document.get? (changed base
      ((copier.under .bestEffort).fieldChanges source.fields given field indices))
      (field index).name = _ := get?_changed distinct isIndex
  rw [Field.read, found]
  cases isChange : (copier.under .bestEffort).change? source.fields given (field index).spec with
  | none => exact reads index isIndex
  | some change =>
      cases decodes : (field index).codec.decode change.value with
      | ok value => exact ⟨value, decodes⟩
      | error error =>
          exact absurd ⟨_, error, misfits_iff.mpr ⟨change, isChange, rfl, decodes⟩⟩
            (fits index isIndex)

/-- All changes at once are not read if some field cannot read its own. -/
theorem exists_decode_changed_error {indices : List ι} (name : String)
    (distinct : (indices.map fun index => (field index).name).Nodup) {index : ι}
    (isIndex : index ∈ indices) {spec : FieldSpec} {error : DecodeError}
    (misfits : copier.Misfits source given (field index) spec error) (base : Document) :
    ∃ reason, (RecordType.ofFields name (indices.map field)).decode (.object (changed base
      ((copier.under .bestEffort).fieldChanges source.fields given field indices))) =
        .error reason := by
  obtain ⟨change, isChange, _, undecoded⟩ := misfits_iff.mp misfits
  cases decoded : (RecordType.ofFields name (indices.map field)).decode (.object (changed base
      ((copier.under .bestEffort).fieldChanges source.fields given field indices))) with
  | error reason => exact ⟨reason, rfl⟩
  | ok row =>
      obtain ⟨value, isRow⟩ := Row.exists_values field (distinct.of_map _) row
      rw [isRow] at decoded
      have read := Row.reads_of_decode decoded index isIndex
      have found : Document.get? (changed base
          ((copier.under .bestEffort).fieldChanges source.fields given field indices))
          (field index).name = _ := get?_changed distinct isIndex
      rw [isChange] at found
      rw [Field.read_of_get? found, undecoded] at read
      cases read

/-! ## Copies -/

section

variable {value : source.Value} {indices : List ι} (name : String)
  {destination : Row (indices.map field)} {base : Document}
  (isGiven : written source value = .ok given)
  (isBase : Row.encode (indices.map field) destination = .ok base)

include isGiven isBase

/-- A copy for which some coercion fails: the first one is the error, or there is a warning. -/
theorem copyInto_of_fails
    (fails : ∃ index ∈ indices, ∃ spec reason,
      copier.CoercionFails source given (field index) spec reason) :
    (∃ error, ((copier.under .strict).copyInto source (.ofFields name (indices.map field)) value
        destination).value = .error error ∧
        copier.Blames source given field indices error) ∧
      ((copier.under .bestEffort).copyInto source (.ofFields name (indices.map field)) value
        destination).Warns := by
  obtain ⟨index, first⟩ := exists_firstWith fails
  obtain ⟨before, behind, rfl, ⟨spec, reason, failsHere⟩, sound⟩ := first
  have stops := value_changes_of_fails behind sound failsHere
  have isIndex : index ∈ before ++ index :: behind :=
    List.mem_append_right _ List.mem_cons_self
  have warns := changes_warns_of_fails isIndex failsHere
  have specs : (RecordType.ofFields name ((before ++ index :: behind).map field)).fields =
      ((before ++ index :: behind).map field).map Field.spec := rfl
  constructor
  · refine ⟨_, ?_,
      .coercion ⟨before, behind, rfl, ⟨spec, reason, failsHere⟩, sound⟩ failsHere⟩
    unfold copyInto
    rw [isGiven, written_ofFields name isBase]
    dsimp only
    rw [Logged.value_bind, specs, stops]
    rfl
  · unfold copyInto
    rw [isGiven, written_ofFields name isBase]
    exact (Logged.warns_bind_iff _ _).mpr (.inl warns)

variable (sound : ∀ index ∈ indices, ∀ spec reason,
    ¬ copier.CoercionFails source given (field index) spec reason)
  (distinct : (indices.map fun index => (field index).name).Nodup)
  (reads : ∀ index ∈ indices, ∃ value, (field index).read base = .ok value)

include sound distinct reads

/-- A copy for which all coercions succeed, but some field cannot read what it gets: the first
one is the error, or there is a warning. -/
theorem copyInto_of_misfits
    (misfits : ∃ index ∈ indices, ∃ spec error,
      copier.Misfits source given (field index) spec error) :
    (∃ error, ((copier.under .strict).copyInto source (.ofFields name (indices.map field)) value
        destination).value = .error error ∧
        copier.Blames source given field indices error) ∧
      ((copier.under .bestEffort).copyInto source (.ofFields name (indices.map field)) value
        destination).Warns := by
  obtain ⟨index, first⟩ := exists_firstWith misfits
  obtain ⟨before, behind, rfl, ⟨spec, error, misfitsHere⟩, fits⟩ := first
  have isIndex : index ∈ before ++ index :: behind :=
    List.mem_append_right _ List.mem_cons_self
  obtain ⟨reason, unread⟩ := exists_decode_changed_error name distinct isIndex misfitsHere base
  have sorted := Row.encode_sorted _ _ isBase
  obtain ⟨blamed, warns⟩ := accept_of_misfit name distinct (List.Subset.refl _) fits misfitsHere
    sorted reads
  have specs : (RecordType.ofFields name ((before ++ index :: behind).map field)).fields =
      ((before ++ index :: behind).map field).map Field.spec := rfl
  constructor
  · refine ⟨_, ?_, .misfit sound ⟨before, behind, rfl, ⟨spec, error, misfitsHere⟩, fits⟩
      misfitsHere⟩
    unfold copyInto
    rw [isGiven, written_ofFields name isBase]
    dsimp only
    rw [Logged.value_bind, specs, (changes_of_sound .strict sound).1]
    dsimp only
    rw [unread]
    dsimp only
    rw [Logged.value_bind, blamed]
    rfl
  · unfold copyInto
    rw [isGiven, written_ofFields name isBase]
    dsimp only
    rw [Logged.warns_bind_iff, specs, (changes_of_sound .bestEffort sound).1]
    dsimp only
    rw [unread]
    exact .inr ((Logged.warns_bind_iff _ _).mpr (.inl warns))

/-- A copy for which all coercions succeed and all fields can read what they get: both policies
give the same record, and there is no warning. -/
theorem exists_copyInto_of_fits
    (fits : ∀ index ∈ indices, ¬ ∃ spec error,
      copier.Misfits source given (field index) spec error) :
    ∃ result, ∀ policy,
      ((copier.under policy).copyInto source (.ofFields name (indices.map field)) value
          destination).value = .ok result ∧
        ¬ ((copier.under policy).copyInto source (.ofFields name (indices.map field)) value
          destination).Warns := by
  have sorted := Row.encode_sorted _ _ isBase
  obtain ⟨row, decoded⟩ := exists_decode_changed name distinct fits sorted reads
  have specs : (RecordType.ofFields name (indices.map field)).fields =
      (indices.map field).map Field.spec := rfl
  refine ⟨row, fun policy => ?_⟩
  obtain ⟨made, quiet⟩ := changes_of_sound policy sound
  unfold copyInto
  rw [isGiven, written_ofFields name isBase]
  dsimp only
  constructor
  · rw [Logged.value_bind, specs, made]
    dsimp only
    rw [decoded]
    rfl
  · rw [Logged.warns_bind_iff, specs, made]
    dsimp only
    rw [decoded]
    rintro (warns | warns)
    · exact quiet warns
    · exact Logged.not_warns_silent _ warns

end

/-- **Strict copying is copying by best effort that refuses to drop anything.** Of any record that
is written as an object, into any destination that is written and can be read, a copy by the
strict policy succeeds exactly if the same copy by best effort reports no warning, and both leave
the same record then. Otherwise it fails, the error blames the first field that cannot be copied,
and the destination is left as it was. -/
theorem strict_refuses_what_is_dropped (copier : Copier) {value : source.Value}
    (isGiven : source.encode value = .ok (.object given)) {indices : List ι} (name : String)
    (distinct : (indices.map fun index => (field index).name).Nodup)
    {destination : Row (indices.map field)} {base : Document}
    (isBase : (RecordType.ofFields name (indices.map field)).encode destination =
      .ok (.object base))
    (readable : (RecordType.ofFields name (indices.map field)).Reads base) :
    let strict := ((copier.under .strict).copyInto source (.ofFields name (indices.map field))
      value destination).value
    let lenient := (copier.under .bestEffort).copyInto source
      (.ofFields name (indices.map field)) value destination
    ((∃ result, strict = .ok result) ↔ ¬ lenient.Warns) ∧
      (∀ result, strict = .ok result →
        lenient.value = .ok result ∧
          leaves destination strict = leaves destination lenient.value) ∧
      ∀ error, strict = .error error →
        copier.Blames source given field indices error ∧
          leaves destination strict = destination := by
  intro strict lenient
  have isWritten := written_of_encode isGiven
  have encoded := (RecordType.encode_ofFields_iff name).mp isBase
  obtain ⟨row, decoded⟩ := readable
  obtain ⟨values, rfl⟩ := Row.exists_values field (distinct.of_map _) row
  have reads : ∀ index ∈ indices, ∃ value, (field index).read base = .ok value :=
    fun index isIndex => ⟨values index, Row.reads_of_decode decoded index isIndex⟩
  have refused : ((∃ error, strict = .error error ∧
      copier.Blames source given field indices error) ∧ lenient.Warns) ∨
      ∃ result, strict = .ok result ∧ lenient.value = .ok result ∧ ¬ lenient.Warns := by
    by_cases fails : ∃ index ∈ indices, ∃ spec reason,
        copier.CoercionFails source given (field index) spec reason
    · exact .inl (copyInto_of_fails name isWritten encoded fails)
    · have sound : ∀ index ∈ indices, ∀ spec reason,
          ¬ copier.CoercionFails source given (field index) spec reason :=
        fun index isIndex spec reason here => fails ⟨index, isIndex, spec, reason, here⟩
      by_cases misfits : ∃ index ∈ indices, ∃ spec error,
          copier.Misfits source given (field index) spec error
      · exact .inl (copyInto_of_misfits name isWritten encoded sound distinct reads misfits)
      · have fits : ∀ index ∈ indices, ¬ ∃ spec error,
            copier.Misfits source given (field index) spec error :=
          fun index isIndex here => misfits ⟨index, isIndex, here⟩
        obtain ⟨result, copies⟩ :=
          exists_copyInto_of_fits name isWritten encoded sound distinct reads fits
        exact .inr ⟨result, (copies .strict).1, (copies .bestEffort).1, (copies .bestEffort).2⟩
  rcases refused with ⟨⟨error, failed, blames⟩, warns⟩ | ⟨result, copied, same, quiet⟩
  · refine ⟨⟨?_, fun quiet => absurd warns quiet⟩, ?_, ?_⟩
    · rintro ⟨result, copied⟩
      rw [failed] at copied
      cases copied
    · intro result copied
      rw [failed] at copied
      cases copied
    · intro other isOther
      obtain rfl := Except.error.inj (failed.symm.trans isOther)
      exact ⟨blames, by rw [failed]; rfl⟩
  · refine ⟨⟨fun _ => quiet, fun _ => ⟨result, copied⟩⟩, ?_, ?_⟩
    · intro other isOther
      obtain rfl := Except.ok.inj (copied.symm.trans isOther)
      exact ⟨same, by rw [copied, same]⟩
    · intro error failed
      rw [copied] at failed
      cases failed

end

/-- The references of a draft cannot be read, and its level is out of range. The strict policy
blames the references, which come first; by best effort there is a warning. -/
theorem strict_refuses_what_is_dropped_draft :
    let error := ConversionError.field "refs" "list" "list"
      "invalid record id length: expected 32, got 1"
    ((default.under .strict).copyInto Specimen.draft
        (.ofFields "Stored" ([0, 1, 2].map storedField)) newDraft
        (Row.ofValues storedField storedDraft [0, 1, 2])).value = .error error ∧
      default.Blames Specimen.draft
        [("level", .ofInt 300), ("name", .string "new"), ("refs", .array [.string "x"])]
        storedField [0, 1, 2] error ∧
      ((default.under .bestEffort).copyInto Specimen.draft
        (.ofFields "Stored" ([0, 1, 2].map storedField)) newDraft
        (Row.ofValues storedField storedDraft [0, 1, 2])).Warns := by
  intro error
  have isGiven : Specimen.draft.encode newDraft = .ok (.object
    [("level", .ofInt 300), ("name", .string "new"), ("refs", .array [.string "x"])]) := rfl
  have isBase : (RecordType.ofFields "Stored" ([0, 1, 2].map storedField)).encode
      (Row.ofValues storedField storedDraft [0, 1, 2]) =
        .ok (.object [("level", .ofInt 7), ("name", .string "old"),
          ("refs", .array [.string (RecordId.minted 0 1).text])]) := rfl
  have readable : (RecordType.ofFields "Stored" ([0, 1, 2].map storedField)).Reads
      [("level", .ofInt 7), ("name", .string "old"),
        ("refs", .array [.string (RecordId.minted 0 1).text])] :=
    ⟨Row.ofValues storedField storedDraft [0, 1, 2], rfl⟩
  obtain ⟨succeeds, _, fails⟩ :=
    strict_refuses_what_is_dropped default isGiven "Stored" (by decide) isBase readable
  have failed : ((default.under .strict).copyInto Specimen.draft
      (.ofFields "Stored" ([0, 1, 2].map storedField)) newDraft
      (Row.ofValues storedField storedDraft [0, 1, 2])).value = .error error := rfl
  refine ⟨failed, (fails _ failed).1, ?_⟩
  by_contra quiet
  obtain ⟨result, copied⟩ := succeeds.mpr quiet
  rw [failed] at copied
  cases copied

end Copier

end Docket
