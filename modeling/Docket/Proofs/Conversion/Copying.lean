import Docket.Conversion.Copier
import Docket.Proofs.Record.Rows

/-!
# Copying field by field

The copier that records are converted with by default copies everything that it can.
It copies a record into a blank one by changes to what the blank one is written as, one
field of the destination after another, and reads the result back as a whole. If each
field of the destination either gets a value that it can read, or is passed over and
reads its own blank value, then the copy succeeds at the first attempt, nothing is
reported, and each field has what it got (`copy_of_gets`).

If both records have the same field names, the destination gets the value of each field
that is carried over (`copy_of_carries`).
-/

set_option autoImplicit false

namespace Docket.Copier

universe u

/-- A field of the destination gets a value from what a record is written as. -/
inductive Gets (sources : List FieldSpec) (given : Document) (target : Field)
    (result : target.Value) : Prop
  /-- It reads what the offered value converts to. -/
  | converted {source : FieldSpec} {written converted : Json}
      (offered : default.offered? sources given target.spec = some (source, written))
      (converts : default.convert source target.spec written = .silent (.ok (some converted)))
      (decodes : target.codec.decode converted = .ok result)
  /-- The offered value is passed over, and it reads its own blank value. -/
  | passedOver {source : FieldSpec} {written base : Json}
      (offered : default.offered? sources given target.spec = some (source, written))
      (converts : default.convert source target.spec written = .silent (.ok none))
      (kept : target.codec.leftOut target.codec.blank = false)
      (encodes : target.codec.encode target.codec.blank = .ok base)
      (decodes : target.codec.decode base = .ok result)

/-! ## Conversions -/

section

variable {source target : FieldSpec} {value : Json}

/-- Null is copied to a nullable field. -/
theorem convert_null (nullable : target.nullable = true) :
    default.convert source target .null = .silent (.ok (some .null)) := by
  have isNull : Json.null.isNull = true := rfl
  rw [convert, if_pos isNull, nullable]
  rfl

/-- Null is not copied to any other field. -/
theorem convert_null_of_not_nullable {copier : Copier} (notNullable : target.nullable = false) :
    copier.convert source target .null = .silent (.ok none) := by
  have isNull : Json.null.isNull = true := rfl
  rw [convert, if_pos isNull, notNullable]
  rfl

theorem isNull_of_ne (notNull : value ≠ .null) : ¬ value.isNull = true := by
  cases value with
  | null => exact absurd rfl notNull
  | _ => exact Bool.false_ne_true

/-- A value of another kind is not copied without a coercion of the two kinds. -/
theorem convert_of_unknown {copier : Copier} (notNull : value ≠ .null)
    (differ : source.kind ≠ target.kind)
    (unknown : copier.registry.get? source.kind target.kind = none) :
    copier.convert source target value = ⟨.ok none, [noCoercion source target]⟩ := by
  rw [convert, if_neg (isNull_of_ne notNull), if_neg differ, unknown]

/-- A value of the same kind is copied as it is. -/
theorem convert_sameKind (notNull : value ≠ .null) (sameKind : source.kind = target.kind) :
    default.convert source target value = .silent (.ok (some value)) := by
  rw [convert, if_neg (isNull_of_ne notNull), if_pos sameKind]

/-- A value of another kind goes through the coercion of the two kinds. -/
theorem convert_coerced {coercion : Coercion} {converted : Json} (notNull : value ≠ .null)
    (differ : source.kind ≠ target.kind)
    (known : CoercionRegistry.default.get? source.kind target.kind = some coercion)
    (coerces : coercion value = .ok converted) :
    default.convert source target value = .silent (.ok (some converted)) := by
  have known : default.registry.get? source.kind target.kind = some coercion := known
  rw [convert, if_neg (isNull_of_ne notNull), if_neg differ, known]
  simp only [coerces]

/-- A field gets a value by the coercion of the two kinds. -/
theorem Gets.of_coercion {sources : List FieldSpec} {given : Document} {target : Field}
    {result : target.Value} {source : FieldSpec} {written converted : Json}
    (coercion : Coercion)
    (offered : default.offered? sources given target.spec = some (source, written))
    (notNull : written ≠ .null) (differ : source.kind ≠ target.spec.kind)
    (known : CoercionRegistry.default.get? source.kind target.spec.kind = some coercion)
    (coerces : coercion written = .ok converted)
    (decodes : target.codec.decode converted = .ok result) :
    Gets sources given target result :=
  .converted offered (convert_coerced notNull differ known coerces) decodes

end

/-! ## Changes -/

theorem changes_of_none {sources : List FieldSpec} {given : Document} {first : FieldSpec}
    {rest : List FieldSpec} {source : FieldSpec} {written : Json} {others : List Change}
    (offered : default.offered? sources given first = some (source, written))
    (converts : default.convert source first written = .silent (.ok none))
    (behind : default.changes sources given rest = .silent (.ok others)) :
    default.changes sources given (first :: rest) = .silent (.ok others) := by
  rw [changes, offered]
  simp only [converts, behind]
  rfl

theorem changes_of_some {sources : List FieldSpec} {given : Document} {first : FieldSpec}
    {rest : List FieldSpec} {source : FieldSpec} {written converted : Json}
    {others : List Change}
    (offered : default.offered? sources given first = some (source, written))
    (converts : default.convert source first written = .silent (.ok (some converted)))
    (behind : default.changes sources given rest = .silent (.ok others)) :
    default.changes sources given (first :: rest) =
      .silent (.ok (⟨source, first, converted⟩ :: others)) := by
  rw [changes, offered]
  simp only [converts, behind]
  rfl

section

variable {ι : Type u} {field : ι → Field} {result : (index : ι) → (field index).Value}
  {sources : List FieldSpec} {given : Document}

/-- A document has what the blank values of fields are written as. -/
def HasBlanks (field : ι → Field) (indices : List ι) (base : Document) : Prop :=
  ∀ index ∈ indices, (field index).codec.leftOut (field index).codec.blank = false →
    ∃ json, (field index).codec.encode (field index).codec.blank = .ok json ∧
      Document.get? base (field index).name = some json

/-- **The changes make each field read what it gets**, and touch no other name. -/
theorem exists_changes {indices : List ι}
    (distinct : (indices.map fun index => (field index).name).Nodup)
    (gets : ∀ index ∈ indices, Gets sources given (field index) (result index)) :
    ∃ changes, default.changes sources given ((indices.map field).map Field.spec) =
        .silent (.ok changes) ∧
      ∀ base, (∀ name, (∀ index ∈ indices, (field index).name ≠ name) →
          Document.get? (changed base changes) name = Document.get? base name) ∧
        (HasBlanks field indices base → ∀ index ∈ indices,
          (field index).read (changed base changes) = .ok (result index)) := by
  induction indices with
  | nil =>
      exact ⟨[], rfl, fun base => ⟨fun _ _ => rfl, fun _ _ isIndex => by cases isIndex⟩⟩
  | cons first rest ih =>
      obtain ⟨isNew, restDistinct⟩ := List.nodup_cons.mp distinct
      obtain ⟨firstGets, restGets⟩ := List.forall_mem_cons.mp gets
      obtain ⟨others, ofOthers, behind⟩ := ih restDistinct restGets
      have firstUntouched : ∀ base, Document.get? (changed base others) (field first).name =
          Document.get? base (field first).name := fun base =>
        (behind base).1 _ fun index isIndex equal =>
          isNew (List.mem_map.mpr ⟨index, isIndex, equal⟩)
      cases firstGets with
      | converted offered converts decodes =>
          rename_i source written converted
          refine ⟨_, changes_of_some offered converts ofOthers, fun base => ⟨?_, ?_⟩⟩
          · intro name unnamed
            obtain ⟨here, elsewhere⟩ := List.forall_mem_cons.mp unnamed
            have later := (behind (Document.insert base (field first).name converted)).1 name
              elsewhere
            rw [Document.get?_insert_of_ne base converted here.symm] at later
            exact later
          · intro blanks index isIndex
            rcases List.mem_cons.mp isIndex with rfl | isLater
            · have found : Document.get? (changed base
                  (⟨source, (field index).spec, converted⟩ :: others)) (field index).name =
                    some converted :=
                (firstUntouched _).trans (Document.get?_insert_self base _ converted)
              rw [Field.read, found]
              exact decodes
            · refine (behind (Document.insert base (field first).name converted)).2 ?_ index
                isLater
              intro other isOther kept
              obtain ⟨json, encodes, found⟩ :=
                blanks other (List.mem_cons_of_mem _ isOther) kept
              refine ⟨json, encodes, ?_⟩
              rw [Document.get?_insert_of_ne base converted fun equal =>
                isNew (List.mem_map.mpr ⟨other, isOther, equal⟩), found]
      | passedOver offered converts kept encodes decodes =>
          refine ⟨_, changes_of_none offered converts ofOthers, fun base => ⟨?_, ?_⟩⟩
          · intro name unnamed
            exact (behind base).1 name (List.forall_mem_cons.mp unnamed).2
          · intro blanks index isIndex
            rcases List.mem_cons.mp isIndex with rfl | isLater
            · obtain ⟨json, encodesHere, found⟩ := blanks index isIndex kept
              obtain rfl := Except.ok.inj (encodes.symm.trans encodesHere)
              rw [Field.read, firstUntouched, found]
              exact decodes
            · exact (behind base).2 (fun other isOther =>
                blanks other (List.mem_cons_of_mem _ isOther)) index isLater

/-! ## Copies -/

omit result given in
/-- A field is offered what the field of its name has written. -/
theorem offered?_of_get? {indices : List ι}
    (distinct : (indices.map fun index => (field index).name).Nodup) {given : Document}
    {index : ι} (isIndex : index ∈ indices) {target : FieldSpec}
    (sameName : target.name = (field index).name) {written : Json}
    (found : Document.get? given (field index).name = some written) :
    default.offered? ((indices.map field).map Field.spec) given target =
      some ((field index).spec, written) := by
  have source : ((indices.map field).map Field.spec).find? (fun source =>
      source.name == target.name) = some (field index).spec := by
    rw [sameName]
    clear found
    induction indices with
    | nil => cases isIndex
    | cons first rest ih =>
        obtain ⟨isNew, restDistinct⟩ := List.nodup_cons.mp distinct
        rcases List.mem_cons.mp isIndex with rfl | behind
        · exact List.find?_cons_of_pos (by simp [Field.spec, Codec.spec])
        · have differ : (field first).name ≠ (field index).name := fun equal =>
            isNew (List.mem_map.mpr ⟨index, behind, equal.symm⟩)
          rw [List.map_cons, List.map_cons,
            List.find?_cons_of_neg (by simpa [Field.spec, Codec.spec] using differ)]
          exact ih restDistinct behind
  have noSkip : default.skip.contains target.name = false := rfl
  rw [offered?, noSkip, if_neg Bool.false_ne_true, source, sameName, found]
  rfl

omit result sources given in
/-- A field is offered what the field of its name was written as. -/
theorem offered?_of_encode {value : (index : ι) → (field index).Value} {indices : List ι}
    (distinct : (indices.map fun index => (field index).name).Nodup) {given : Document}
    (encoded : Row.encode (indices.map field) (Row.ofValues field value indices) = .ok given)
    {index : ι} (isIndex : index ∈ indices)
    (kept : (field index).codec.leftOut (value index) = false) {written : Json}
    (encodes : (field index).codec.encode (value index) = .ok written) (target : FieldSpec)
    (sameName : target.name = (field index).name) :
    default.offered? ((indices.map field).map Field.spec) given target =
      some ((field index).spec, written) := by
  obtain ⟨other, encodesOther, found⟩ := Row.get?_of_encode distinct encoded isIndex kept
  obtain rfl := Except.ok.inj (encodesOther.symm.trans encodes)
  exact offered?_of_get? distinct isIndex sameName found

omit result sources given in
/-- A record that is written as an object has the members of the object. -/
theorem written_of_encode {record : RecordType} {value : record.Value} {members : Document}
    (encoded : record.encode value = .ok (.object members)) :
    written record value = .ok members := by
  unfold written RecordType.members
  rw [encoded]
  rfl

omit result sources given in
/-- A record of fields is written as the members of its row. -/
theorem written_ofFields (name : String) {fields : List Field} {row : Row fields}
    {members : Document} (encoded : Row.encode fields row = .ok members) :
    written (.ofFields name fields) row = .ok members :=
  written_of_encode ((RecordType.encode_ofFields_iff name).mpr encoded)

/-- **A record is copied field by field**, if each field of the destination gets a
value. -/
theorem copy_of_gets {source : RecordType} {value : source.Value} {name : String}
    {indices : List ι} (distinct : (indices.map fun index => (field index).name).Nodup)
    (isWritten : written source value = .ok given)
    (blanks : ∀ index ∈ indices, ∃ json,
      (field index).codec.encode (field index).codec.blank = .ok json)
    (gets : ∀ index ∈ indices, Gets source.fields given (field index) (result index)) :
    default.copy source (.ofFields name (indices.map field)) value =
      .silent (.ok (Row.ofValues field result indices)) := by
  obtain ⟨base, encoded⟩ := Row.exists_encode blanks
  have sorted := Row.encode_sorted _ _ encoded
  obtain ⟨changes, isChanges, leaves⟩ := exists_changes distinct gets
  have isBase : written (.ofFields name (indices.map field))
      (RecordType.ofFields name (indices.map field)).blank = .ok base := by
    refine written_ofFields name ?_
    rw [← encoded, ← Row.blank_eq_ofValues]
    rfl
  have hasBlanks : HasBlanks field indices base := fun index isIndex kept =>
    Row.get?_of_encode distinct encoded isIndex kept
  have decodes : (RecordType.ofFields name (indices.map field)).decode
      (.object (changed base changes)) =
      .ok (Row.ofValues field result indices) := by
    refine Row.decode_ofValues ?_ ((leaves base).2 hasBlanks)
    have extended : changed base changes = Document.extend base
        (changes.map fun change => (change.target.name, change.value)) := by
      rw [changed, Document.extend, List.foldl_map]
    rw [extended]
    exact sorted.extend _
  unfold copy copyInto
  rw [isWritten, isBase]
  show (default.changes source.fields given ((indices.map field).map Field.spec)).andThen _ = _
  rw [isChanges]
  simp only [Logged.andThen, Logged.silent, decodes]
  rfl

end

/-- A value of a field is written, and carried over to another field whenever it is
offered. -/
def Carries (source target : Field) (value : source.Value) (result : target.Value) : Prop :=
  ∃ json, source.codec.leftOut value = false ∧ source.codec.encode value = .ok json ∧
    ∀ {sources : List FieldSpec} {given : Document},
      default.offered? sources given target.spec = some (source.spec, json) →
        Gets sources given target result

/-- **A record is copied into one with the same field names**, if the value of each field
is carried over. -/
theorem copy_of_carries {ι : Type u} {source target : ι → Field}
    {value : (index : ι) → (source index).Value} {result : (index : ι) → (target index).Value}
    {sourceName targetName : String} {sources targets : List ι}
    (sourceDistinct : (sources.map fun index => (source index).name).Nodup)
    (targetDistinct : (targets.map fun index => (target index).name).Nodup)
    (same : ∀ index, index ∈ sources ↔ index ∈ targets)
    (sameName : ∀ index, (target index).name = (source index).name)
    (blanks : ∀ index ∈ targets, ∃ json,
      (target index).codec.encode (target index).codec.blank = .ok json)
    (carries : ∀ index ∈ targets,
      Carries (source index) (target index) (value index) (result index)) :
    default.copy (.ofFields sourceName (sources.map source))
        (.ofFields targetName (targets.map target)) (Row.ofValues source value sources) =
      .silent (.ok (Row.ofValues target result targets)) := by
  obtain ⟨given, encoded⟩ : ∃ given, Row.encode (sources.map source)
      (Row.ofValues source value sources) = .ok given := by
    refine Row.exists_encode fun index isIndex => ?_
    obtain ⟨json, _, encodes, _⟩ := carries index ((same index).mp isIndex)
    exact ⟨json, encodes⟩
  refine copy_of_gets targetDistinct (written_ofFields sourceName encoded) blanks
    fun index isIndex => ?_
  obtain ⟨json, kept, encodes, gets⟩ := carries index isIndex
  have isSource := (same index).mpr isIndex
  obtain ⟨found, encodesFound, isFound⟩ :=
    Row.get?_of_encode sourceDistinct encoded isSource kept
  obtain rfl := Except.ok.inj (encodes.symm.trans encodesFound)
  exact gets (offered?_of_get? sourceDistinct isSource (sameName index) isFound)

end Docket.Copier
