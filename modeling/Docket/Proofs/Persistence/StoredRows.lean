import Docket.Proofs.Persistence.Encoding
import Docket.Proofs.Record.Survival
import Docket.Proofs.Store.Targeted

/-!
# Rows in the stored form

The stored form of a row has under the name of each field what the field writes, and if
the field is a timestamp then in the stored form (`get?_storedMembers_field`). Only the
identifier has another name there, and its own name is free
(`storedMembers_primaryKey`, `get?_storedMembers_identifier`).

A stored form is read back as the row whose fields each read their own member. The
identifier alone is looked for elsewhere, under the primary key (`Row.decode_restored`).
-/

set_option autoImplicit false

namespace Docket

/-! ## Times in the stored form -/

namespace Access

theorem get?_normalized_self (document : Document) (name : String) :
    Document.get? (normalized document name) name =
      (Document.get? document name).map Json.storedTimestamp := by
  unfold normalized
  cases found : Document.get? document name with
  | none => exact found
  | some value => exact Document.get?_insert_self document name value.storedTimestamp

theorem get?_normalized_of_ne (document : Document) {name other : String}
    (differ : other ≠ name) :
    Document.get? (normalized document name) other = Document.get? document other := by
  unfold normalized
  split
  · exact Document.get?_insert_of_ne document _ differ
  · rfl

/-- Names that are brought into the stored form leave the others as they are. -/
theorem get?_foldl_normalized_of_not_mem {names : List String} {name : String}
    (isOther : name ∉ names) (document : Document) :
    Document.get? (names.foldl normalized document) name = Document.get? document name := by
  induction names generalizing document with
  | nil => rfl
  | cons first rest ih =>
      obtain ⟨differ, behind⟩ := List.ne_and_not_mem_of_not_mem_cons isOther
      rw [List.foldl_cons, ih behind, get?_normalized_of_ne document differ]

theorem get?_foldl_normalized_of_mem {names : List String} (distinct : names.Nodup)
    {name : String} (isName : name ∈ names) (document : Document) :
    Document.get? (names.foldl normalized document) name =
      (Document.get? document name).map Json.storedTimestamp := by
  induction names generalizing document with
  | nil => cases isName
  | cons first rest ih =>
      obtain ⟨isNew, restDistinct⟩ := List.nodup_cons.mp distinct
      rw [List.foldl_cons]
      rcases List.mem_cons.mp isName with rfl | behind
      · rw [get?_foldl_normalized_of_not_mem isNew, get?_normalized_self]
      · have differ : name ≠ first := fun equal => isNew (equal ▸ behind)
        rw [ih restDistinct behind, get?_normalized_of_ne document differ]

universe u

section

variable {ι : Type u} {field : ι → Field} {indices : List ι}
  (distinct : (indices.map fun index => (field index).name).Nodup)

include distinct

theorem timestampNames_nodup :
    (timestampNames ((indices.map field).map Field.spec)).Nodup := by
  refine List.Nodup.sublist (List.filter_sublist.map FieldSpec.name) ?_
  rw [List.map_map, List.map_map]
  exact distinct

/-- The name of a field is that of a timestamp if and only if the field is one. -/
theorem mem_timestampNames_iff {index : ι} (isIndex : index ∈ indices) :
    (field index).name ∈ timestampNames ((indices.map field).map Field.spec) ↔
      (field index).codec.kind = .timestamp := by
  rw [timestampNames, List.mem_map]
  constructor
  · rintro ⟨spec, isSpec, sameName⟩
    obtain ⟨isField, isTimestamp⟩ := List.mem_filter.mp isSpec
    rw [List.map_map, List.mem_map] at isField
    obtain ⟨other, isOther, rfl⟩ := isField
    obtain rfl := List.inj_on_of_nodup_map distinct isOther isIndex sameName
    exact eq_of_beq isTimestamp
  · intro isTimestamp
    refine ⟨(field index).spec, List.mem_filter.mpr ⟨?_, beq_iff_eq.mpr isTimestamp⟩, rfl⟩
    exact List.mem_map_of_mem (List.mem_map_of_mem isIndex)

variable {id : RecordId} {members : Document}

/-- **A stored form has under the name of a field what the members have there**, in the
stored form of the field. -/
theorem get?_storedMembers_field {index : ι} (isIndex : index ∈ indices)
    (notKey : (field index).name ≠ FieldName.primaryKey)
    (notIdentifier : (field index).name ≠ FieldName.identifier) :
    Document.get? (storedMembers ((indices.map field).map Field.spec) id members)
        (field index).name =
      (Document.get? members (field index).name).map (field index).storedForm := by
  have isTimestamp := mem_timestampNames_iff distinct isIndex
  have begun : Document.get? (Document.insert (Document.erase members FieldName.identifier)
      FieldName.primaryKey id.toJson) (field index).name =
        Document.get? members (field index).name := by
    rw [Document.get?_insert_of_ne _ _ notKey, Document.get?_erase_of_ne members notIdentifier]
  unfold storedMembers Field.storedForm
  by_cases timestamp : (field index).codec.kind = .timestamp
  · simp only [if_pos timestamp]
    rw [get?_foldl_normalized_of_mem (timestampNames_nodup distinct) (isTimestamp.mpr timestamp),
      begun]
  · simp only [if_neg timestamp]
    rw [get?_foldl_normalized_of_not_mem fun isName => timestamp (isTimestamp.mp isName), begun,
      Option.map_id']

end

section

variable {fields : List FieldSpec} {id : RecordId} {members : Document}

/-- What is missing stays missing when timestamps are brought into the stored form. -/
theorem get?_foldl_normalized_eq_none {document : Document} {name : String}
    (missing : Document.get? document name = none) (names : List String) :
    Document.get? (names.foldl normalized document) name = none := by
  induction names generalizing document with
  | nil => exact missing
  | cons first rest ih =>
      refine ih ?_
      by_cases here : name = first
      · rw [← here, get?_normalized_self, missing]
        rfl
      · rw [get?_normalized_of_ne document here, missing]

/-- **A stored form has nothing under the name that the identifier has outside the store.** -/
theorem get?_storedMembers_identifier :
    Document.get? (storedMembers fields id members) FieldName.identifier = none := by
  refine get?_foldl_normalized_eq_none ?_ _
  rw [Document.get?_insert_of_ne _ _ (by decide), Document.get?_erase_self]

/-- Where the members have nothing, a stored form has nothing. -/
theorem get?_storedMembers_eq_none {name : String} (notKey : name ≠ FieldName.primaryKey)
    (missing : Document.get? members name = none) :
    Document.get? (storedMembers fields id members) name = none := by
  refine get?_foldl_normalized_eq_none ?_ _
  rw [Document.get?_insert_of_ne _ _ notKey]
  by_cases isIdentifier : name = FieldName.identifier
  · rw [isIdentifier, Document.get?_erase_self]
  · rw [Document.get?_erase_of_ne members isIdentifier, missing]

end

end Access

/-! ## Reading -/

/-- A stored document with the identifier under the name that it has outside the store. -/
def Document.restored (id : RecordId) (document : Document) : Document :=
  insert (erase document FieldName.primaryKey) FieldName.identifier id.toJson

/-- A document is read as what its restored form is. -/
theorem Access.decode_of_hasId {σ : Type} {model : ModelType} {access : Access σ model}
    {operation : StoreOperation} {id : RecordId} {document : Document} {record : model.Value}
    (hasId : Document.HasId id document)
    (decodes : model.decode (.object (Document.restored id document)) = .ok record) :
    access.decode operation document = .ok record := by
  have key : Document.get? document FieldName.primaryKey = some id.toJson := hasId
  unfold Document.restored at decodes
  unfold Access.decode
  rw [key]
  dsimp only
  rw [decodes]
  rfl

/-- What changes errors only leaves a success as it was. -/
theorem eq_ok_of_mapError {ε δ α : Type} {change : ε → δ} {result : Except ε α}
    {value : α}
    (changed : result.mapError change = .ok value) : result = .ok value := by
  cases result with
  | error error => cases changed
  | ok other => exact congrArg Except.ok (Except.ok.inj changed)

/-- What is read of a document is read from members without a primary key. -/
theorem Access.exists_members_of_decode {σ : Type} {model : ModelType} {access : Access σ model}
    {operation : StoreOperation} {document : Document} {record : model.Value}
    (decoded : access.decode operation document = .ok record) :
    ∃ members, Document.get? members FieldName.primaryKey = none ∧
      model.decode (.object members) = .ok record := by
  refine ⟨_, ?_, eq_ok_of_mapError decoded⟩
  cases key : Document.get? document FieldName.primaryKey with
  | none => exact key
  | some id =>
      exact (Document.get?_insert_of_ne _ _ (by decide)).trans (Document.get?_erase_self _ _)

namespace Row

universe u

variable {ι : Type u} {field : ι → Field} {value : (index : ι) → (field index).Value}
  {indices : List ι} {id : RecordId} {document : Document}

/-- **A restored document is read as a row** if the field of the identifier reads the
identifier, and each other field its own member apart from the primary key. -/
theorem decode_restored (sorted : Document.Sorted document)
    (identifies : ∀ index ∈ indices, (field index).name = FieldName.identifier →
      (field index).codec.decode id.toJson = .ok (value index))
    (reads : ∀ index ∈ indices, (field index).name ≠ FieldName.identifier →
      (field index).read (Document.erase document FieldName.primaryKey) = .ok (value index)) :
    decode (indices.map field) (.object (Document.restored id document)) =
      .ok (ofValues field value indices) := by
  refine decode_ofValues ((sorted.erase _).insert _ _) fun index isIndex => ?_
  by_cases isIdentifier : (field index).name = FieldName.identifier
  · have found : Document.get? (Document.restored id document) (field index).name =
        some id.toJson := by
      rw [isIdentifier]
      exact Document.get?_insert_self _ _ _
    rw [Field.read_of_get? found, identifies index isIndex isIdentifier]
  · rw [← reads index isIndex isIdentifier]
    exact Field.read_congr (Document.get?_insert_of_ne _ _ isIdentifier)

end Row

end Docket
