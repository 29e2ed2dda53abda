import Docket.Proofs.Conversion.BestEffort
import Docket.Specimen.Records

/-!
# What each field has after a copy

A copy by best effort gives each field of the destination a value or nothing. A field is
supplied with a value if it is not skipped, the source writes a field of its name and what that
writes is not passed over as empty, converts, and can be read by the field (`Supplies`). A field
that is supplied with a value has it after the copy. Every other field has what it had: it is
written as it was written before (`copyInto_exactly`).

Of the destination no more is asked than that it is settled, which is that what it is written as
is read, and written again in the same way. The value that is read may be another one than the
destination had, so it is the written form that an unsupplied field keeps.

The copy tries to read all changes at once, and makes them one after another only if that fails.
Nothing depends on that: made one after another from the start, the changes give the same record
(`copyOneByOne`).
-/

set_option autoImplicit false

namespace Docket

/-! ## Written forms -/

/-- What a field is written as: nothing if it is left out. -/
def Field.form (field : Field) (value : field.Value) : Except String (Option Json) :=
  if field.codec.leftOut value then .ok none else (field.codec.encode value).map some

/-- A record is settled: what it is written as is an object, which is read, and what was read is
written as the same object again. -/
def RecordType.Settled (record : RecordType) (value : record.Value) : Prop :=
  ∃ members again, record.encode value = .ok (.object members) ∧
    record.decode (.object members) = .ok again ∧ record.encode again = .ok (.object members)

universe u

/-- **An object has the written forms of the fields** of its row. -/
theorem Row.form_of_encode {ι : Type u} {field : ι → Field}
    {value : (index : ι) → (field index).Value} {indices : List ι} {members : Document}
    (distinct : (indices.map fun index => (field index).name).Nodup)
    (encoded : Row.encode (indices.map field) (Row.ofValues field value indices) = .ok members)
    {index : ι} (isIndex : index ∈ indices) :
    (field index).form (value index) = .ok (Document.get? members (field index).name) := by
  unfold Field.form
  split
  · next leftOut => rw [Row.get?_of_encode_of_leftOut distinct encoded isIndex leftOut]
  · next kept =>
      obtain ⟨json, written, found⟩ :=
        Row.get?_of_encode distinct encoded isIndex (Bool.eq_false_iff.mpr kept)
      rw [written, found]
      rfl

namespace Copier

/-! ## Supplied values -/

/-- What a value of one field converts to for another one. Null stays null, and is for nullable
fields only. A value of the same kind is taken as it is, and one of another kind is what the
coercion of the kinds makes of it. -/
inductive Converts (registry : CoercionRegistry) (source target : FieldSpec) :
    Json → Json → Prop
  | null (nullable : target.nullable = true) : Converts registry source target .null .null
  | sameKind {value : Json} (notNull : value ≠ .null) (sameKind : source.kind = target.kind) :
      Converts registry source target value value
  | coerced {value converted : Json} {coercion : Coercion} (notNull : value ≠ .null)
      (differ : source.kind ≠ target.kind)
      (known : registry.get? source.kind target.kind = some coercion)
      (coerces : coercion value = .ok converted) : Converts registry source target value converted

/-- **A field is supplied with a value** by what a record of a type was written as. -/
structure Supplies (copier : Copier) (source : RecordType) (given : Document) (target : Field)
    (held : target.Value) : Prop where
  notSkipped : target.name ∉ copier.skip
  converts : ∃ spec value converted, source.field? target.name = some spec ∧
    Document.get? given target.name = some value ∧
    (copier.ignoreEmpty = true → value.isZero = false) ∧
    Converts copier.registry spec target.spec value converted ∧
    target.codec.decode converted = .ok held

section

variable {copier : Copier} {source : RecordType} {given : Document} {target : Field}

theorem offered?_eq_some_iff {spec : FieldSpec} {value : Json} :
    copier.offered? source.fields given target.spec = some (spec, value) ↔
      target.name ∉ copier.skip ∧ source.field? target.name = some spec ∧
        Document.get? given target.name = some value ∧
          (copier.ignoreEmpty = true → value.isZero = false) := by
  have sameName : target.spec.name = target.name := rfl
  rw [offered?, sameName, ← RecordType.field?]
  by_cases skipped : target.name ∈ copier.skip
  · simp [skipped]
  · simp only [List.contains_eq_mem, skipped, decide_false, Bool.false_eq_true, if_false,
      Option.bind_eq_bind, Option.bind_eq_some_iff, Option.ite_none_left_eq_some,
      Option.some.injEq, Prod.mk.injEq, not_false_eq_true, true_and, Bool.and_eq_true, not_and,
      Bool.not_eq_true]
    constructor
    · rintro ⟨_, isField, _, isGiven, notEmpty, rfl, rfl⟩
      exact ⟨isField, isGiven, notEmpty⟩
    · rintro ⟨isField, isGiven, notEmpty⟩
      exact ⟨_, isField, _, isGiven, notEmpty, rfl, rfl⟩

variable (effort : copier.policy = .bestEffort)

include effort

theorem convert_eq_some_iff {spec other : FieldSpec} {value converted : Json} :
    (copier.convert spec other value).value = .ok (some converted) ↔
      Converts copier.registry spec other value converted := by
  constructor
  · intro converts
    unfold convert at converts
    split at converts
    · next isNull =>
        obtain rfl : value = .null := by cases value <;> first | rfl | cases isNull
        split at converts
        · next nullable =>
            cases converts
            exact .null nullable
        · cases converts
    · next notNull =>
        have notNull : value ≠ .null := by
          rintro rfl
          exact notNull rfl
        split at converts
        · next same =>
            cases converts
            exact .sameKind notNull same
        · next differ =>
            split at converts
            · cases converts
            · next coercion known =>
                split at converts
                · next result coerces =>
                    cases converts
                    exact .coerced notNull differ known coerces
                · rw [value_settleError effort] at converts
                  cases converts
  · rintro (nullable | ⟨notNull, same⟩ | ⟨notNull, differ, known, coerces⟩)
    · have isNull : Json.null.isNull = true := rfl
      rw [convert, if_pos isNull, if_pos nullable]
      rfl
    · rw [convert, if_neg (isNull_of_ne notNull), if_pos same]
      rfl
    · rw [convert, if_neg (isNull_of_ne notNull), if_neg differ, known]
      simp only [coerces]
      rfl

/-- **A field gets a change if what it is offered converts.** -/
theorem change?_eq_some_iff {change : Change} :
    copier.change? source.fields given target.spec = some change ↔
      change.target = target.spec ∧ ∃ value,
        copier.offered? source.fields given target.spec = some (change.source, value) ∧
          Converts copier.registry change.source target.spec value change.value := by
  constructor
  · intro isChange
    unfold change? at isChange
    split at isChange
    · cases isChange
    · next spec value offered =>
        split at isChange
        · next converted converts =>
            obtain rfl := Option.some.inj isChange
            exact ⟨rfl, value, offered, (convert_eq_some_iff effort).mp converts⟩
        · cases isChange
  · obtain ⟨spec, other, converted⟩ := change
    rintro ⟨rfl, value, offered, converts⟩
    simp only [change?, offered, (convert_eq_some_iff effort).mpr converts]

/-- A field is supplied with what it reads of the change that it gets. -/
theorem supplies_iff {held : target.Value} :
    copier.Supplies source given target held ↔
      ∃ change, copier.change? source.fields given target.spec = some change ∧
        target.codec.decode change.value = .ok held := by
  constructor
  · rintro ⟨notSkipped, spec, value, converted, isField, isGiven, notEmpty, converts, decodes⟩
    have offered := offered?_eq_some_iff.mpr ⟨notSkipped, isField, isGiven, notEmpty⟩
    exact ⟨⟨spec, target.spec, converted⟩,
      (change?_eq_some_iff effort).mpr ⟨rfl, value, offered, converts⟩, decodes⟩
  · rintro ⟨⟨spec, other, converted⟩, isChange, decodes⟩
    obtain ⟨_, value, offered, converts⟩ := (change?_eq_some_iff effort).mp isChange
    obtain ⟨notSkipped, isField, isGiven, notEmpty⟩ := offered?_eq_some_iff.mp offered
    exact ⟨notSkipped, spec, value, converted, isField, isGiven, notEmpty, converts, decodes⟩

/-- A field has what it is supplied with. -/
theorem received_of_supplies {base : Document} {held : target.Value}
    (supplies : copier.Supplies source given target held) :
    copier.received source.fields given base target = .ok held := by
  obtain ⟨change, isChange, decodes⟩ := (supplies_iff effort).mp supplies
  exact received_of_decode isChange decodes

/-- A field that is supplied with nothing reads what was there. -/
theorem received_of_not_supplies {base : Document}
    (nothing : ¬ ∃ held, copier.Supplies source given target held) :
    copier.received source.fields given base target = target.read base := by
  cases isChange : copier.change? source.fields given target.spec with
  | none => exact received_of_none isChange
  | some change =>
      cases decodes : target.codec.decode change.value with
      | error error => exact received_of_error isChange decodes
      | ok held =>
          exact absurd ⟨held, (supplies_iff effort).mpr ⟨change, isChange, decodes⟩⟩ nothing

end

/-! ## Changes made one after another -/

/-- A copy that does not try to read all changes at once, but makes them one after another
from the start. -/
def copyOneByOne (copier : Copier) (source target : RecordType) (value : source.Value)
    (destination : target.Value) : Logged (Except ConversionError target.Value) := do
  match written source value, written target destination with
  | .error error, _ => return .error error
  | .ok _, .error error => return .error error
  | .ok given, .ok base =>
      match ← copier.changes source.fields given target.fields with
      | .error error => return .error error
      | .ok changes =>
          match ← copier.accept target changes base with
          | .error error => return .error error
          | .ok accepted => return readBack target accepted

section

variable {copier : Copier} (effort : copier.policy = .bestEffort) {source : RecordType}
  {value : source.Value} {given : Document} {ι : Type u} {field : ι → Field} {indices : List ι}

include effort

/-- **Changes that are made one after another** give each field what it receives. -/
theorem copyOneByOne_fieldwise (name : String) (isGiven : written source value = .ok given)
    (distinct : (indices.map fun index => (field index).name).Nodup)
    {destination : Row (indices.map field)} {base : Document}
    (isBase : Row.encode (indices.map field) destination = .ok base)
    (reads : ∀ index ∈ indices, ∃ value, (field index).read base = .ok value)
    {result : (index : ι) → (field index).Value}
    (receives : ∀ index ∈ indices,
      copier.received source.fields given base (field index) = .ok (result index)) :
    (copier.copyOneByOne source (.ofFields name (indices.map field)) value destination).value =
      .ok (Row.ofValues field result indices) := by
  obtain ⟨document, accepts, isRead⟩ := accept_readBack effort name distinct
    (Row.encode_sorted _ _ isBase) reads receives
  have isWritten : written (.ofFields name (indices.map field)) destination = .ok base :=
    written_ofFields name isBase
  have specs : (RecordType.ofFields name (indices.map field)).fields.filterMap
      (copier.change? source.fields given) =
        copier.fieldChanges source.fields given field indices := filterMap_specs indices
  unfold copyOneByOne
  rw [isGiven, isWritten]
  dsimp only
  rw [Logged.value_bind, value_changes effort, specs]
  dsimp only
  rw [Logged.value_bind, accepts]
  exact isRead

/-- **A copy by best effort is exactly field by field.** Into a destination that is settled, any
record that is written as an object is copied. A field that is supplied with a value has it
afterwards, and every other field is written as it was before. The same record comes of changes
that are made one after another. -/
theorem copyInto_exactly (isGiven : source.encode value = .ok (.object given)) (name : String)
    (distinct : (indices.map fun index => (field index).name).Nodup)
    (destination : (index : ι) → (field index).Value)
    (settled : (RecordType.ofFields name (indices.map field)).Settled
      (Row.ofValues field destination indices)) :
    ∃ result : (index : ι) → (field index).Value,
      (copier.copyInto source (.ofFields name (indices.map field)) value
          (Row.ofValues field destination indices)).value =
        .ok (Row.ofValues field result indices) ∧
      (copier.copyOneByOne source (.ofFields name (indices.map field)) value
          (Row.ofValues field destination indices)).value =
        .ok (Row.ofValues field result indices) ∧
      ∀ index ∈ indices,
        (∀ held, copier.Supplies source given (field index) held → result index = held) ∧
        ((¬ ∃ held, copier.Supplies source given (field index) held) →
          (field index).form (result index) = (field index).form (destination index)) := by
  obtain ⟨base, again, written, decoded, writtenAgain⟩ := settled
  obtain ⟨values, rfl⟩ := Row.exists_values field (distinct.of_map _) again
  have encoded := (RecordType.encode_ofFields_iff name).mp written
  have encodedAgain := (RecordType.encode_ofFields_iff name).mp writtenAgain
  have reads := Row.reads_of_decode decoded
  have readable : ∀ index ∈ indices, ∃ value, (field index).read base = .ok value :=
    fun index isIndex => ⟨values index, reads index isIndex⟩
  have isWritten : Copier.written source value = .ok given := by
    rw [Copier.written, RecordType.members, isGiven]
    rfl
  have receivable : ∀ index ∈ indices, ∃ value,
      copier.received source.fields given base (field index) = .ok value :=
    fun index isIndex => exists_received (readable index isIndex)
  obtain ⟨result, receives⟩ := Row.exists_family receivable
  refine ⟨result, copyInto_fieldwise effort name isWritten distinct encoded readable receives,
    copyOneByOne_fieldwise effort name isWritten distinct encoded readable receives, ?_⟩
  intro index isIndex
  constructor
  · intro held supplies
    have receives := receives index isIndex
    rw [received_of_supplies effort supplies] at receives
    exact (Except.ok.inj receives).symm
  · intro nothing
    have receives := receives index isIndex
    rw [received_of_not_supplies effort nothing, reads index isIndex] at receives
    rw [← Except.ok.inj receives, Row.form_of_encode distinct encoded isIndex,
      Row.form_of_encode distinct encodedAgain isIndex]

end

/-- The fields of a draft as it is stored. -/
def storedField : Fin 3 → Field
  | 0 => Specimen.field "name" .text
  | 1 => Specimen.field "refs" Codec.recordId.list
  | 2 => Specimen.field "level" .unsigned8

/-- A draft that is stored. -/
def storedDraft : (index : Fin 3) → (storedField index).Value
  | 0 => "old"
  | 1 => ([.minted 0 1] : List RecordId)
  | 2 => (⟨7, by decide⟩ : Unsigned8)

/-- A draft whose reference is no identifier, and whose level is out of range. -/
def newDraft : Specimen.draft.Value :=
  (("new", ["x"], ⟨300, by decide⟩, ()) : String × List String × Signed64 × Unit)

/-- The name is copied. The reference and the level are changed to what they do not read, and what
was there is kept. -/
theorem copyInto_exactly_draft :
    ∃ result : (index : Fin 3) → (storedField index).Value,
      (default.copyInto Specimen.draft (.ofFields "Stored" ([0, 1, 2].map storedField)) newDraft
          (Row.ofValues storedField storedDraft [0, 1, 2])).value =
        .ok (Row.ofValues storedField result [0, 1, 2]) ∧
      result 0 = ("new" : String) ∧
      (storedField 1).form (result 1) = (storedField 1).form (storedDraft 1) ∧
      (storedField 2).form (result 2) = (storedField 2).form (storedDraft 2) := by
  let given : Document :=
    [("level", .ofInt 300), ("name", .string "new"), ("refs", .array [.string "x"])]
  have isGiven : Specimen.draft.encode newDraft = .ok (.object given) := rfl
  have settled : (RecordType.ofFields "Stored" ([0, 1, 2].map storedField)).Settled
      (Row.ofValues storedField storedDraft [0, 1, 2]) :=
    ⟨[("level", .ofInt 7), ("name", .string "old"),
        ("refs", .array [.string (RecordId.minted 0 1).text])],
      Row.ofValues storedField storedDraft [0, 1, 2], rfl, rfl, rfl⟩
  have effort : default.policy = .bestEffort := rfl
  obtain ⟨result, copies, _, fields⟩ :=
    copyInto_exactly effort isGiven "Stored" (by decide) storedDraft settled
  have name : default.Supplies Specimen.draft given (storedField 0) ("new" : String) :=
    ⟨List.not_mem_nil, _, _, _, rfl, rfl, nofun, .sameKind Json.noConfusion rfl, rfl⟩
  have noReferences : ¬ ∃ held, default.Supplies Specimen.draft given (storedField 1) held := by
    rintro ⟨held, supplies⟩
    obtain ⟨change, isChange, decodes⟩ := (supplies_iff effort).mp supplies
    obtain rfl : _ = change := Option.some.inj isChange
    cases decodes
  have noLevel : ¬ ∃ held, default.Supplies Specimen.draft given (storedField 2) held := by
    rintro ⟨held, supplies⟩
    obtain ⟨change, isChange, decodes⟩ := (supplies_iff effort).mp supplies
    obtain rfl : _ = change := Option.some.inj isChange
    cases decodes
  exact ⟨result, copies, (fields 0 (by decide)).1 _ name, (fields 1 (by decide)).2 noReferences,
    (fields 2 (by decide)).2 noLevel⟩

end Copier

end Docket
