import Docket.Proofs.Json.Document
import Docket.Record.Basic

/-!
# Rows by name

A row is a list of values by position, and it is written and read by name. To relate
two record types it is described here by a family of values, one for each index of a
family of fields (`Row.ofValues`); every row is described so if no index stands for two
fields (`Row.exists_values`).

The object that a row is written as has its members in order, whatever the order of the
fields. If the names of the fields are distinct, the object that a row is written as has under
the name of each field what that field writes, and nothing under any other name
(`Row.get?_of_encode`). And an object is read as a row if and only if each field reads its
own member; members that no field has play no part (`Row.decode_ofValues`,
`Row.reads_of_decode`).
-/

set_option autoImplicit false

namespace Docket

/-- The members of a row are in the order of their names. -/
theorem Row.encode_sorted :
    (fields : List Field) → (row : Row fields) → {members : Document} →
    Row.encode fields row = .ok members → Document.Sorted members
  | [], _, members, encoded => by
      obtain rfl := Except.ok.inj encoded
      exact .nil
  | field :: rest, (value, others), members, encoded => by
      rw [Row.encode] at encoded
      split at encoded
      · exact encode_sorted rest others encoded
      · cases written : field.codec.encode value with
        | error reason =>
            rw [written] at encoded
            cases encoded
        | ok json =>
            cases behind : Row.encode rest others with
            | error reason =>
                rw [written, behind] at encoded
                cases encoded
            | ok restMembers =>
                rw [written, behind] at encoded
                obtain rfl := Except.ok.inj encoded
                exact (encode_sorted rest others behind).insert _ _

/-- A type of rows writes the members of the row, as an object. -/
theorem RecordType.encode_ofFields_iff (name : String) {fields : List Field} {row : Row fields}
    {members : Document} :
    (RecordType.ofFields name fields).encode row = .ok (.object members) ↔
      Row.encode fields row = .ok members := by
  show (Row.encode fields row).map Json.object = _ ↔ _
  cases Row.encode fields row with
  | error reason => exact ⟨nofun, nofun⟩
  | ok others => simp [Except.map]

/-- A type of rows writes its objects in order. -/
theorem RecordType.ofFields_sorted (name : String) (fields : List Field) (row : Row fields)
    {members : Document} (encoded : (RecordType.ofFields name fields).encode row =
      .ok (.object members)) : Document.Sorted members :=
  Row.encode_sorted fields row ((encode_ofFields_iff name).mp encoded)

universe u

variable {ι : Type u} (field : ι → Field)

/-- The row of the values of fields. -/
def Row.ofValues (value : (index : ι) → (field index).Value) :
    (indices : List ι) → Row (indices.map field)
  | [] => ()
  | index :: rest => (value index, ofValues value rest)

namespace Row

theorem ofValues_congr {value other : (index : ι) → (field index).Value} {indices : List ι}
    (equal : ∀ index ∈ indices, value index = other index) :
    ofValues field value indices = ofValues field other indices := by
  induction indices with
  | nil => rfl
  | cons index rest ih =>
      obtain ⟨here, behind⟩ := List.forall_mem_cons.mp equal
      rw [ofValues, ofValues, here, ih behind]

theorem eq_of_ofValues_eq {field : ι → Field}
    {value other : (index : ι) → (field index).Value}
    {indices : List ι} (equal : ofValues field value indices = ofValues field other indices) :
    ∀ index ∈ indices, value index = other index := by
  induction indices with
  | nil => exact fun _ isIndex => absurd isIndex List.not_mem_nil
  | cons index rest ih =>
      obtain ⟨here, behind⟩ := Prod.mk.inj equal
      exact List.forall_mem_cons.mpr ⟨here, ih behind⟩

theorem blank_eq_ofValues (indices : List ι) :
    blank (indices.map field) =
      ofValues field (fun index => (field index).codec.blank) indices := by
  induction indices with
  | nil => rfl
  | cons index rest ih =>
      rw [ofValues, ← ih]
      rfl

open Classical in
/-- **Every row is the row of the values of its fields.** -/
theorem exists_values {indices : List ι} (distinct : indices.Nodup)
    (row : Row (indices.map field)) : ∃ value, row = ofValues field value indices := by
  induction indices with
  | nil => exact ⟨fun index => (field index).codec.blank, rfl⟩
  | cons index rest ih =>
      obtain ⟨isNew, restDistinct⟩ := List.nodup_cons.mp distinct
      obtain ⟨first, others⟩ := row
      obtain ⟨behind, isBehind⟩ := ih restDistinct others
      let value : (index : ι) → (field index).Value := fun other =>
        if same : index = other then
          cast (congrArg (fun index => (field index).Value) same) first
        else behind other
      refine ⟨value, ?_⟩
      have here : value index = first := dif_pos rfl
      have elsewhere : ∀ other ∈ rest, value other = behind other := fun other isOther =>
        dif_neg fun same : index = other => isNew (same ▸ isOther)
      rw [ofValues, here, ofValues_congr field elsewhere, ← isBehind]

/-- A row with the value of each field changed. -/
def mapped (change : (index : ι) → (field index).Value → (field index).Value) :
    (indices : List ι) → Row (indices.map field) → Row (indices.map field)
  | [], _ => ()
  | index :: rest, (value, others) => (change index value, mapped change rest others)

theorem mapped_ofValues (change : (index : ι) → (field index).Value → (field index).Value)
    (value : (index : ι) → (field index).Value) (indices : List ι) :
    mapped field change indices (ofValues field value indices) =
      ofValues field (fun index => change index (value index)) indices := by
  induction indices with
  | nil => rfl
  | cons index rest ih => exact congrArg (Prod.mk (change index (value index))) ih

/-! ## Writing -/

section

variable {field} {value : (index : ι) → (field index).Value} {indices : List ι}
  {members : Document}

theorem encode_ofValues_cons (index : ι) (rest : List ι) :
    encode ((index :: rest).map field) (ofValues field value (index :: rest)) =
      if (field index).codec.leftOut (value index) then
        encode (rest.map field) (ofValues field value rest)
      else do
        let written ← (field index).codec.encode (value index)
        let members ← encode (rest.map field) (ofValues field value rest)
        return Document.insert members (field index).name written :=
  rfl

/-- A row is written if each of its fields is, unless it is left out. -/
theorem exists_encode_of_kept
    (written : ∀ index ∈ indices, (field index).codec.leftOut (value index) = false →
      ∃ json, (field index).codec.encode (value index) = .ok json) :
    ∃ members, encode (indices.map field) (ofValues field value indices) = .ok members := by
  induction indices with
  | nil => exact ⟨[], rfl⟩
  | cons index rest ih =>
      obtain ⟨here, behind⟩ := List.forall_mem_cons.mp written
      obtain ⟨others, ofOthers⟩ := ih behind
      rw [encode_ofValues_cons]
      split
      · exact ⟨others, ofOthers⟩
      · next kept =>
          obtain ⟨json, here⟩ := here (Bool.eq_false_iff.mpr kept)
          exact ⟨Document.insert others (field index).name json, by rw [here, ofOthers]; rfl⟩

theorem exists_encode
    (written : ∀ index ∈ indices, ∃ json,
      (field index).codec.encode (value index) = .ok json) :
    ∃ members, encode (indices.map field) (ofValues field value indices) = .ok members :=
  exists_encode_of_kept fun index isIndex _ => written index isIndex

/-- A row that was written has a first field that is left out or was written. -/
theorem encode_cons {index : ι} {rest : List ι}
    (encoded : encode ((index :: rest).map field) (ofValues field value (index :: rest)) =
      .ok members) :
    ∃ others, encode (rest.map field) (ofValues field value rest) = .ok others ∧
      ((field index).codec.leftOut (value index) = true ∧ members = others ∨
        (field index).codec.leftOut (value index) = false ∧
          ∃ json, (field index).codec.encode (value index) = .ok json ∧
            members = Document.insert others (field index).name json) := by
  rw [encode_ofValues_cons] at encoded
  split at encoded
  · next leftOut => exact ⟨members, encoded, .inl ⟨leftOut, rfl⟩⟩
  · next kept =>
      cases here : (field index).codec.encode (value index) with
      | error reason =>
          rw [here] at encoded
          cases encoded
      | ok json =>
          cases behind : encode (rest.map field) (ofValues field value rest) with
          | error reason =>
              rw [here, behind] at encoded
              cases encoded
          | ok others =>
              rw [here, behind] at encoded
              exact ⟨others, rfl, .inr ⟨Bool.eq_false_iff.mpr kept, json, rfl,
                (Except.ok.inj encoded).symm⟩⟩

/-- **A row has under the name of a field what the field writes**, unless the field is
left out. -/
theorem get?_of_encode (distinct : (indices.map fun index => (field index).name).Nodup)
    (encoded : encode (indices.map field) (ofValues field value indices) = .ok members)
    {index : ι} (isIndex : index ∈ indices)
    (kept : (field index).codec.leftOut (value index) = false) :
    ∃ json, (field index).codec.encode (value index) = .ok json ∧
      Document.get? members (field index).name = some json := by
  induction indices generalizing members with
  | nil => cases isIndex
  | cons first rest ih =>
      obtain ⟨isNew, restDistinct⟩ := List.nodup_cons.mp distinct
      obtain ⟨others, ofOthers, cases⟩ := encode_cons encoded
      rcases List.mem_cons.mp isIndex with rfl | behind
      · rcases cases with ⟨leftOut, _⟩ | ⟨_, json, written, rfl⟩
        · rw [leftOut] at kept
          cases kept
        · exact ⟨json, written, Document.get?_insert_self others _ json⟩
      · have differ : (field index).name ≠ (field first).name := fun equal =>
          isNew (List.mem_map.mpr ⟨index, behind, equal⟩)
        obtain ⟨json, written, found⟩ := ih restDistinct ofOthers behind
        rcases cases with ⟨_, rfl⟩ | ⟨_, other, _, rfl⟩
        · exact ⟨json, written, found⟩
        · exact ⟨json, written, by rw [Document.get?_insert_of_ne others other differ, found]⟩

/-- **A row has nothing under a name that none of its written fields has.** -/
theorem get?_of_encode_of_unnamed
    (encoded : encode (indices.map field) (ofValues field value indices) = .ok members)
    {name : String} (unnamed : ∀ index ∈ indices,
      (field index).codec.leftOut (value index) = false → (field index).name ≠ name) :
    Document.get? members name = none := by
  induction indices generalizing members with
  | nil =>
      obtain rfl := Except.ok.inj encoded
      rfl
  | cons first rest ih =>
      obtain ⟨here, behind⟩ := List.forall_mem_cons.mp unnamed
      obtain ⟨others, ofOthers, cases⟩ := encode_cons encoded
      have missing := ih ofOthers behind
      rcases cases with ⟨_, rfl⟩ | ⟨kept, json, _, rfl⟩
      · exact missing
      · rw [Document.get?_insert_of_ne others json (here kept).symm, missing]

/-- A row has nothing under the name of a field that is left out. -/
theorem get?_of_encode_of_leftOut
    (distinct : (indices.map fun index => (field index).name).Nodup)
    (encoded : encode (indices.map field) (ofValues field value indices) = .ok members)
    {index : ι} (isIndex : index ∈ indices)
    (leftOut : (field index).codec.leftOut (value index) = true) :
    Document.get? members (field index).name = none := by
  refine get?_of_encode_of_unnamed encoded fun other isOther kept sameName => ?_
  obtain rfl := List.inj_on_of_nodup_map distinct isOther isIndex sameName
  rw [leftOut] at kept
  cases kept

end

end Row

/-! ## Reading -/

/-- What a field reads from an object: its own member, or what stands for it when it is
missing. -/
def Field.read (document : Document) (field : Field) : Except DecodeError field.Value :=
  match Document.get? document field.name with
  | some written => field.codec.decode written
  | none =>
      match field.codec.absent with
      | some value => .ok value
      | none => .error (.missingField field.name)

theorem Field.read_of_get? {field : Field} {document : Document} {json : Json}
    (found : Document.get? document field.name = some json) :
    field.read document = field.codec.decode json := by
  rw [read, found]

theorem Field.read_congr {field : Field} {first second : Document}
    (same : Document.get? first field.name = Document.get? second field.name) :
    field.read first = field.read second := by
  rw [read, read, same]

namespace Row

variable {field} {value : (index : ι) → (field index).Value} {indices : List ι}
  {document : Document}

theorem assemble_cons (document : Document) (first : Field) (rest : List Field) :
    assemble document (first :: rest) = do
      let value ← first.read document
      let others ← assemble document rest
      return (value, others) := by
  rw [assemble, Field.read]
  cases Document.get? document first.name with
  | some written => rfl
  | none => cases first.codec.absent <;> rfl

theorem assemble_ofValues
    (reads : ∀ index ∈ indices, (field index).read document = .ok (value index)) :
    assemble document (indices.map field) = .ok (ofValues field value indices) := by
  induction indices with
  | nil => rfl
  | cons index rest ih =>
      obtain ⟨here, behind⟩ := List.forall_mem_cons.mp reads
      have first : assemble document ((index :: rest).map field) = _ :=
        assemble_cons document (field index) (rest.map field)
      rw [first, here, ih behind]
      rfl

/-- A row that was assembled has the value that each field reads. -/
theorem reads_of_assemble
    (assembled : assemble document (indices.map field) = .ok (ofValues field value indices)) :
    ∀ index ∈ indices, (field index).read document = .ok (value index) := by
  induction indices with
  | nil => exact fun _ isIndex => absurd isIndex List.not_mem_nil
  | cons first rest ih =>
      have steps : assemble document ((first :: rest).map field) = _ :=
        assemble_cons document (field first) (rest.map field)
      rw [steps] at assembled
      cases here : (field first).read document with
      | error error =>
          rw [here] at assembled
          cases assembled
      | ok read =>
          cases behind : assemble document (rest.map field) with
          | error error =>
              rw [here, behind] at assembled
              cases assembled
          | ok others =>
              rw [here, behind] at assembled
              obtain ⟨sameValue, sameOthers⟩ := Prod.mk.inj (Except.ok.inj assembled)
              subst sameValue
              refine List.forall_mem_cons.mpr ⟨here, ih ?_⟩
              rw [behind]
              exact congrArg Except.ok sameOthers

/-- A member is not refused if the fields of its name read it. -/
theorem refusal?_of_reads {name : String} {json : Json}
    (found : Document.get? document name = some json) {fields : List Field}
    (reads : ∀ field ∈ fields, field.name = name →
      ∃ value, field.read document = .ok value) :
    refusal? name json fields = none := by
  induction fields with
  | nil => rfl
  | cons field rest ih =>
      obtain ⟨here, behind⟩ := List.forall_mem_cons.mp reads
      rw [refusal?]
      split
      · next isName =>
          obtain ⟨value, here⟩ := here isName
          rw [Field.read, isName, found] at here
          simp only [here]
      · exact ih behind

/-- No member is refused if each field reads its own. -/
theorem firstRefusal?_of_reads (sorted : Document.Sorted document) {fields : List Field}
    (reads : ∀ field ∈ fields, ∃ value, field.read document = .ok value) :
    firstRefusal? fields document = none := by
  rw [firstRefusal?, List.findSome?_eq_none_iff]
  rintro ⟨name, json⟩ isMember
  exact refusal?_of_reads (sorted.mem_iff_get?.mp isMember) fun field isField _ =>
    reads field isField

/-- A member that its field cannot read is refused for the reason that the field gives. -/
theorem refusal?_of_misfit (distinct : (indices.map fun index => (field index).name).Nodup)
    {index : ι} (isIndex : index ∈ indices) {json : Json} {error : DecodeError}
    (misfits : (field index).codec.decode json = .error error) :
    refusal? (field index).name json (indices.map field) = some error := by
  induction indices with
  | nil => cases isIndex
  | cons first rest ih =>
      obtain ⟨isNew, restDistinct⟩ := List.nodup_cons.mp distinct
      rw [List.map_cons, refusal?]
      rcases List.mem_cons.mp isIndex with rfl | behind
      · rw [if_pos rfl, misfits]
      · have differ : (field first).name ≠ (field index).name := fun equal =>
          isNew (List.mem_map.mpr ⟨index, behind, equal.symm⟩)
        rw [if_neg differ]
        exact ih restDistinct behind

/-- **An object with a member that its field cannot read is refused for that member**, if all
other fields read their own. -/
theorem decode_of_misfit (sorted : Document.Sorted document)
    (distinct : (indices.map fun index => (field index).name).Nodup) {index : ι}
    (isIndex : index ∈ indices) {json : Json}
    (found : Document.get? document (field index).name = some json) {error : DecodeError}
    (misfits : (field index).codec.decode json = .error error)
    (reads : ∀ other ∈ indices, other ≠ index →
      ∃ value, (field other).read document = .ok value) :
    decode (indices.map field) (.object document) = .error error := by
  have refused : firstRefusal? (indices.map field) document = some error := by
    obtain ⟨earlier, later, rfl⟩ := List.append_of_mem (sorted.mem_iff_get?.mpr found)
    have before := (List.pairwise_append.mp sorted).2.2
    refine List.findSome?_eq_some_iff.mpr
      ⟨earlier, _, later, rfl, refusal?_of_misfit distinct isIndex misfits, ?_⟩
    rintro ⟨name, other⟩ isEarlier
    have isMember : (name, other) ∈ earlier ++ ((field index).name, json) :: later :=
      List.mem_append_left _ isEarlier
    have differ : name ≠ (field index).name := fun equal =>
      String.lt_irrefl _ (equal ▸ before _ isEarlier _ List.mem_cons_self)
    refine refusal?_of_reads (sorted.mem_iff_get?.mp isMember) fun _ isField isName => ?_
    obtain ⟨behind, isBehind, rfl⟩ := List.mem_map.mp isField
    exact reads behind isBehind fun equal => differ (equal ▸ isName.symm)
  rw [decode, refused]

/-- **An object is read as a row if each field reads its own member.** -/
theorem decode_ofValues (sorted : Document.Sorted document)
    (reads : ∀ index ∈ indices, (field index).read document = .ok (value index)) :
    decode (indices.map field) (.object document) = .ok (ofValues field value indices) := by
  have noRefusal : firstRefusal? (indices.map field) document = none := by
    refine firstRefusal?_of_reads sorted fun other isField => ?_
    obtain ⟨index, isIndex, rfl⟩ := List.mem_map.mp isField
    exact ⟨value index, reads index isIndex⟩
  rw [decode, noRefusal]
  exact assemble_ofValues reads

/-- **An object is read as a row by each field reading its own member.** -/
theorem reads_of_decode
    (decoded : decode (indices.map field) (.object document) =
      .ok (ofValues field value indices)) :
    ∀ index ∈ indices, (field index).read document = .ok (value index) := by
  rw [decode] at decoded
  cases refused : firstRefusal? (indices.map field) document with
  | some error =>
      rw [refused] at decoded
      cases decoded
  | none =>
      rw [refused] at decoded
      exact reads_of_assemble decoded

open Classical in
/-- What a condition allows at each index is given by one family of values. -/
theorem exists_family {property : (index : ι) → (field index).Value → Prop}
    (allowed : ∀ index ∈ indices, ∃ value, property index value) :
    ∃ value : (index : ι) → (field index).Value,
      ∀ index ∈ indices, property index (value index) := by
  let value : (index : ι) → (field index).Value := fun index =>
    if exists_value : ∃ value, property index value then exists_value.choose
    else (field index).codec.blank
  refine ⟨value, fun index isIndex => ?_⟩
  have exists_value := allowed index isIndex
  have chosen : value index = exists_value.choose := dif_pos exists_value
  rw [chosen]
  exact exists_value.choose_spec

/-- An object is read if each field reads its own member. -/
theorem exists_decode (sorted : Document.Sorted document)
    (reads : ∀ index ∈ indices, ∃ value, (field index).read document = .ok value) :
    ∃ row, decode (indices.map field) (.object document) = .ok row := by
  obtain ⟨value, reads⟩ := exists_family reads
  exact ⟨_, decode_ofValues sorted reads⟩

end Row

end Docket
