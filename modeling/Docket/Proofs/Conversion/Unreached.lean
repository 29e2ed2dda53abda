import Docket.Proofs.Conversion.BestEffort

/-!
# Fields that a copy does not reach

The destination of a copy is read back as a whole, from what it was written as before and
the changes to it (`exists_decode_of_copyInto`). So if there is no change to a field, then that
field is read from what it was written as itself, whatever became of the changes to the others
(`read_of_copyInto`).
When the destination is a blank record, as it is for a repository, the field has its blank
value, provided that this comes back (`blank_of_copy`).

A field is out of the reach of a record (`OutOfReach`) if the record has no field of its
name, or one of a kind from which no coercion leads to its own. Null is an exception, as it
needs no coercion. Nothing says that a copy did not reach a field, except for a report in the
log: a record that is copied there and back loses what is out of reach.
-/

set_option autoImplicit false

namespace Docket

universe u

/-- No two fields of a type have one name. -/
theorem RecordType.eq_spec_of_ofFields (name : String) {ι : Type u} {field : ι → Field}
    {indices : List ι} (distinct : (indices.map fun index => (field index).name).Nodup)
    {index : ι}
    (isIndex : index ∈ indices) {spec : FieldSpec}
    (isSpec : spec ∈ (RecordType.ofFields name (indices.map field)).fields)
    (sameName : spec.name = (field index).name) : spec = (field index).spec := by
  obtain ⟨_, isField, rfl⟩ := List.mem_map.mp isSpec
  obtain ⟨other, isOther, rfl⟩ := List.mem_map.mp isField
  rw [List.inj_on_of_nodup_map distinct isOther isIndex sameName]

namespace Copier

variable {copier : Copier} {sources : List FieldSpec} {given base : Document}

/-! ## Fields without a change -/

/-- Changes that are made one after another leave the names of no change alone. -/
theorem get?_of_accept {target : RecordType} {name : String} {changes : List Change}
    (others : ∀ change ∈ changes, change.target.name ≠ name) {accepted document : Document}
    (accepts : (copier.accept target changes accepted).value = .ok document) :
    Document.get? document name = Document.get? accepted name := by
  induction changes generalizing accepted with
  | nil => rw [Except.ok.inj accepts]
  | cons change rest ih =>
      obtain ⟨here, behind⟩ := List.forall_mem_cons.mp others
      rw [accept] at accepts
      cases decoded : target.decode
          (.object (Document.insert accepted change.target.name change.value)) with
      | ok value =>
          rw [decoded] at accepts
          rw [ih behind accepts, Document.get?_insert_of_ne accepted _ here.symm]
      | error reason =>
          rw [decoded] at accepts
          dsimp only at accepts
          rw [Logged.value_bind] at accepts
          generalize copier.settleError (α := Document) _ _ = settled at accepts
          cases outcome : settled.value with
          | error error =>
              rw [outcome] at accepts
              cases accepts
          | ok _ =>
              rw [outcome] at accepts
              exact ih behind accepts

/-- A record that is written as members is encoded as an object of these. -/
theorem encode_of_written {record : RecordType} {value : record.Value}
    (isWritten : written record value = .ok base) : record.encode value = .ok (.object base) := by
  unfold written RecordType.members at isWritten
  cases encoded : record.encode value with
  | error reason =>
      rw [encoded] at isWritten
      cases isWritten
  | ok json =>
      rw [encoded] at isWritten
      cases json with
      | object members => exact congrArg (Except.ok ∘ Json.object) (Except.ok.inj isWritten)
      | _ => cases isWritten

/-- A copy that succeeds writes both records first. -/
theorem exists_written_of_copyInto {source target : RecordType} {value : source.Value}
    {destination result : target.Value}
    (copied : (copier.copyInto source target value destination).value = .ok result) :
    ∃ given base, written source value = .ok given ∧ written target destination = .ok base := by
  unfold copyInto at copied
  cases isGiven : written source value with
  | error error =>
      rw [isGiven] at copied
      cases copied
  | ok given =>
      cases isBase : written target destination with
      | error error =>
          rw [isGiven, isBase] at copied
          cases copied
      | ok base => exact ⟨given, base, rfl, rfl⟩

/-- **The changes of a copy are those of each field**, by either policy, unless one of them is an
error. -/
theorem eq_filterMap_of_changes {targets : List FieldSpec} {made : List Change}
    (makes : (copier.changes sources given targets).value = .ok made) :
    made = targets.filterMap (copier.change? sources given) := by
  induction targets generalizing made with
  | nil => exact (Except.ok.inj makes).symm
  | cons target rest ih =>
      rw [changes] at makes
      rw [List.filterMap_cons, change?]
      cases offered : copier.offered? sources given target with
      | none =>
          rw [offered] at makes
          exact ih makes
      | some pair =>
          obtain ⟨source, value⟩ := pair
          rw [offered] at makes
          simp only [Logged.value_bind] at makes
          cases converts : (copier.convert source target value).value with
          | error error =>
              rw [converts] at makes
              cases makes
          | ok converted =>
              simp only [converts, Logged.value_bind] at makes
              cases behind : (copier.changes sources given rest).value with
              | error error =>
                  rw [behind] at makes
                  cases makes
              | ok others =>
                  rw [behind] at makes
                  obtain rfl := Except.ok.inj makes
                  simp only [converts, ih behind]
                  cases converted <;> rfl

/-- **The result of a copy is read from a document that agrees with what the destination was
written as**, under every name without a change: whether the changes were read all at once or made
one after another, and by either policy. -/
theorem exists_decode_of_copyInto {source target : RecordType} {value : source.Value}
    {destination result : target.Value} (isGiven : written source value = .ok given)
    (isBase : written target destination = .ok base)
    (copied : (copier.copyInto source target value destination).value = .ok result) :
    ∃ document, target.decode (.object document) = .ok result ∧
      ∀ name, (∀ spec ∈ target.fields, spec.name = name →
          copier.change? source.fields given spec = none) →
        Document.get? document name = Document.get? base name := by
  obtain ⟨other, made, isOther, makes, ends⟩ := exists_changes_of_copyInto isGiven copied
  obtain rfl := Except.ok.inj (isBase.symm.trans isOther)
  have others : ∀ name, (∀ spec ∈ target.fields, spec.name = name →
        copier.change? source.fields given spec = none) →
      ∀ change ∈ made, change.target.name ≠ name := by
    intro name unchanged change isMade sameName
    rw [eq_filterMap_of_changes makes] at isMade
    obtain ⟨spec, isSpec, changes⟩ := List.mem_filterMap.mp isMade
    rw [target_of_change? changes] at sameName
    rw [unchanged spec isSpec sameName] at changes
    cases changes
  rcases ends with decoded | ⟨_, document, accepts, decoded⟩
  · exact ⟨changed base made, decoded, fun name unchanged =>
      get?_changed_of_others (others name unchanged)⟩
  · exact ⟨document, decoded, fun name unchanged =>
      get?_of_accept (others name unchanged) accepts⟩

section

variable {ι : Type u} {field : ι → Field} {indices : List ι}
  (distinct : (indices.map fun index => (field index).name).Nodup)
  {source : RecordType} {value : source.Value} {name : String}
  {result : (index : ι) → (field index).Value} {index : ι} (isIndex : index ∈ indices)

include distinct isIndex

/-- **A field without a change is read from what it was written as**, in any copy that
succeeds. -/
theorem read_of_copyInto {destination : Row (indices.map field)}
    (isGiven : written source value = .ok given)
    (isBase : Row.encode (indices.map field) destination = .ok base)
    (copied : (copier.copyInto source (.ofFields name (indices.map field)) value
      destination).value = .ok (Row.ofValues field result indices))
    (unchanged : copier.change? source.fields given (field index).spec = none) :
    (field index).read base = .ok (result index) := by
  obtain ⟨document, decoded, agrees⟩ :=
    exists_decode_of_copyInto isGiven (written_ofFields name isBase) copied
  have untouched : Document.get? document (field index).name =
      Document.get? base (field index).name := by
    refine agrees _ fun spec isSpec sameName => ?_
    rw [RecordType.eq_spec_of_ofFields name distinct isIndex isSpec sameName]
    exact unchanged
  rw [← Row.reads_of_decode decoded index isIndex]
  exact (Field.read_congr untouched).symm

/-- **A field without a change has its blank value** in a copy into a blank record, if that
value comes back. -/
theorem blank_of_copy (isGiven : written source value = .ok given)
    (copied : (copier.copy source (.ofFields name (indices.map field)) value).value =
      .ok (Row.ofValues field result indices))
    (unchanged : copier.change? source.fields given (field index).spec = none)
    (returns : (field index).Returns (field index).codec.blank) :
    result index = (field index).codec.blank := by
  obtain ⟨_, base, _, isBase⟩ := exists_written_of_copyInto copied
  have encoded : Row.encode (indices.map field) (Row.blank (indices.map field)) = .ok base :=
    (RecordType.encode_ofFields_iff name).mp (encode_of_written isBase)
  have read := read_of_copyInto distinct isIndex isGiven encoded copied unchanged
  rw [Row.blank_eq_ofValues] at encoded
  rw [Row.read_of_returns distinct encoded isIndex returns] at read
  exact (Except.ok.inj read).symm

variable (effort : copier.policy = .bestEffort)

include effort

/-- **A field has what its change converts to**, if it can read that, in a copy into a blank
record whose values come back. -/
theorem value_of_copy
    (blanks : ∀ index ∈ indices, (field index).Returns (field index).codec.blank)
    (isGiven : written source value = .ok given)
    (copied : (copier.copy source (.ofFields name (indices.map field)) value).value =
      .ok (Row.ofValues field result indices))
    {change : Change}
    (changes : copier.change? source.fields given (field index).spec = some change)
    {held : (field index).Value} (decodes : (field index).codec.decode change.value = .ok held) :
    result index = held := by
  obtain ⟨other, base, copiedOther, _, receives⟩ :=
    exists_copy_fieldwise effort name isGiven distinct blanks
  have same : result index = other index :=
    Row.eq_of_ofValues_eq (Except.ok.inj (copied.symm.trans copiedOther)) index isIndex
  have received := receives index isIndex
  rw [received_of_decode changes decodes] at received
  rw [same, Except.ok.inj received]

end

/-! ## Fields that are not copied -/

/-- **A field is not copied**, for a reason that has nothing to do with a failure: it is to be
skipped, the source has or writes no field of its name, or the value that it is offered is passed
over as empty, is null where there can be no null, or has no coercion to the kind of the field. -/
inductive Uncopied (copier : Copier) (sources : List FieldSpec) (given : Document)
    (target : FieldSpec) : Prop
  | skipped (isSkipped : target.name ∈ copier.skip)
  | noSource (noField : ∀ source ∈ sources, source.name ≠ target.name)
  | unwritten (missing : Document.get? given target.name = none)
  | empty {value : Json} (ignored : copier.ignoreEmpty = true)
      (isGiven : Document.get? given target.name = some value) (isZero : value.isZero = true)
  | null (isGiven : Document.get? given target.name = some .null)
      (notNullable : target.nullable = false)
  | noCoercion {source : FieldSpec} {value : Json}
      (isSource : sources.find? (fun source => source.name == target.name) = some source)
      (isGiven : Document.get? given target.name = some value) (notNull : value ≠ .null)
      (differ : source.kind ≠ target.kind)
      (unknown : copier.registry.get? source.kind target.kind = none)

section

variable {target : FieldSpec}

/-- What is offered is the value of the first field of the name. -/
theorem eq_of_offered? {source : FieldSpec} {value : Json}
    (offered : copier.offered? sources given target = some (source, value)) :
    target.name ∉ copier.skip ∧
      sources.find? (fun source => source.name == target.name) = some source ∧
      Document.get? given target.name = some value ∧
      (copier.ignoreEmpty && value.isZero) = false := by
  unfold offered? at offered
  split at offered
  · cases offered
  · next kept =>
      obtain ⟨other, isSource, offered⟩ := Option.bind_eq_some_iff.mp offered
      obtain ⟨written, isGiven, offered⟩ := Option.bind_eq_some_iff.mp offered
      split at offered
      · cases offered
      · next full =>
          obtain ⟨rfl, rfl⟩ := Prod.mk.inj (Option.some.inj offered)
          refine ⟨fun isSkipped => kept ?_, isSource, isGiven, Bool.eq_false_iff.mpr full⟩
          exact List.contains_iff_mem.mpr isSkipped

/-- **Nothing is changed in a field that is not copied.** -/
theorem Uncopied.change? (uncopied : copier.Uncopied sources given target) :
    copier.change? sources given target = none := by
  cases offered : copier.offered? sources given target with
  | none => exact change?_of_not_offered offered
  | some pair =>
      obtain ⟨source, value⟩ := pair
      obtain ⟨kept, isSource, isGiven, full⟩ := eq_of_offered? offered
      cases uncopied with
      | skipped isSkipped => exact absurd isSkipped kept
      | noSource noField =>
          have isNamed := List.find?_some isSource
          exact absurd (eq_of_beq isNamed) (noField source (List.mem_of_find?_eq_some isSource))
      | unwritten missing =>
          rw [missing] at isGiven
          cases isGiven
      | empty ignored isEmpty isZero =>
          obtain rfl := Option.some.inj (isEmpty.symm.trans isGiven)
          rw [ignored, isZero] at full
          cases full
      | null isNull notNullable =>
          obtain rfl := Option.some.inj (isNull.symm.trans isGiven)
          have passes : copier.convert source target .null = .silent (.ok none) :=
            convert_null_of_not_nullable notNullable
          exact change?_of_convert offered (congrArg Logged.value passes)
      | noCoercion isFirst isValue notNull differ unknown =>
          obtain rfl := Option.some.inj (isFirst.symm.trans isSource)
          obtain rfl := Option.some.inj (isValue.symm.trans isGiven)
          have passes := convert_of_unknown notNull differ unknown
          exact change?_of_convert offered (congrArg Logged.value passes)

end

/-! ## Out of reach -/

/-- **A field is out of the reach of a record**: no field of its name has its kind, or a kind
with a coercion to its own, and it takes no null from one. -/
def OutOfReach (sources : List FieldSpec) (given : Document) (target : Field) : Prop :=
  ∀ source ∈ sources, source.name = target.name →
    source.kind ≠ target.codec.kind ∧
      CoercionRegistry.default.get? source.kind target.codec.kind = none ∧
      (target.codec.nullable = true → Document.get? given target.name ≠ some .null)

/-- A field that is out of reach is not copied. -/
theorem OutOfReach.uncopied {target : Field} (unreached : OutOfReach sources given target) :
    default.Uncopied sources given target.spec := by
  cases isSource : sources.find? fun source => source.name == target.spec.name with
  | none =>
      refine .noSource fun source isField sameName => ?_
      exact absurd (beq_iff_eq.mpr sameName) (List.find?_eq_none.mp isSource source isField)
  | some source =>
      have isNamed := List.find?_some isSource
      have sameName : source.name = target.name := eq_of_beq isNamed
      obtain ⟨differ, unknown, noNull⟩ :=
        unreached source (List.mem_of_find?_eq_some isSource) sameName
      cases found : Document.get? given target.spec.name with
      | none => exact .unwritten found
      | some json =>
          by_cases isNull : json = .null
          · subst isNull
            exact .null found (Bool.eq_false_iff.mpr fun nullable => noNull nullable found)
          · exact .noCoercion isSource found isNull differ unknown

/-- **Nothing is changed in a field that is out of reach.** -/
theorem change?_of_outOfReach {target : Field} (unreached : OutOfReach sources given target) :
    default.change? sources given target.spec = none :=
  unreached.uncopied.change?

end Copier

end Docket
