import Docket.Proofs.Json.Sameness
import Docket.Store.Collection
import Mathlib.Data.List.Pairwise
import Mathlib.Data.List.Nodup

/-!
# Collisions and intact collections

Two documents collide if they have the same primary key, or the same key under a
unique index. A collection is intact if its documents have primary keys and no two
of them collide, and if no two of its indexes have one name.

Three writes can change a collection: a document is added, a document is
replaced, or an index is installed. For each of them it is said here when an
intact collection stays intact: if the new document has a primary key and
collides with no other one (`intact_append_iff`, `intact_replace_iff`), and if no
two documents have the same key under the new index, should it be unique
(`intact_withIndex_iff`). What the store computes before it writes is just that
(`firstCollision?_eq_none_iff`, `hasRepeatedKey_eq_false_iff`).
-/

set_option autoImplicit false

namespace Docket

namespace Document

/-- A document has a primary key. -/
def Keyed (document : Document) : Prop :=
  ∃ id, get? document FieldName.primaryKey = some id

/-- Two documents have the same primary key. -/
def SamePrimaryKey (first second : Document) : Prop :=
  ∃ id other, get? first FieldName.primaryKey = some id ∧
    get? second FieldName.primaryKey = some other ∧ Json.same id other = true

theorem SamePrimaryKey.symm {first second : Document} (same : first.SamePrimaryKey second) :
    second.SamePrimaryKey first := by
  obtain ⟨id, other, firstKey, secondKey, alike⟩ := same
  exact ⟨other, id, secondKey, firstKey, Json.same_comm id other ▸ alike⟩

/-- Documents have the same primary key as what is the same as them. -/
theorem SamePrimaryKey.congr {first next other : Document}
    (alike : Document.same first next = true) (same : next.SamePrimaryKey other) :
    first.SamePrimaryKey other := by
  obtain ⟨id, otherId, nextKey, otherKey, sameId⟩ := same
  have members := same_get? alike FieldName.primaryKey
  rw [nextKey, Option.map_some] at members
  obtain ⟨firstId, firstKey, equal⟩ := Option.map_eq_some_iff.mp members
  refine ⟨firstId, otherId, firstKey, otherKey, ?_⟩
  rw [Json.same_congr_left (Json.same_iff.mpr equal)]
  exact sameId

end Document

namespace Index

/-- Two documents have the same key under an index. -/
def SharesKey (index : Index) (first second : Document) : Prop :=
  Collection.sameKey (index.key first) (index.key second) = true

instance (index : Index) (first second : Document) : Decidable (index.SharesKey first second) :=
  inferInstanceAs (Decidable (Collection.sameKey _ _ = true))

theorem SharesKey.symm {index : Index} {first second : Document}
    (shares : index.SharesKey first second) : index.SharesKey second first := by
  rw [SharesKey, Collection.sameKey, Json.same_comm]
  exact shares

/-- Documents have the same key as what is the same as them. -/
theorem SharesKey.congr {index : Index} {first next other : Document}
    (alike : Document.same first next = true) (shares : index.SharesKey next other) :
    index.SharesKey first other := by
  have values : (index.key first).map Json.unsignedZeros =
      (index.key next).map Json.unsignedZeros := by
    rw [key, key, List.map_map, List.map_map]
    refine List.map_congr_left fun entry _ => ?_
    have members := Document.same_get? alike entry.1
    cases firstValue : Document.get? first entry.1 <;>
      cases nextValue : Document.get? next entry.1 <;>
        simp_all [Function.comp]
  have keys : Json.same (.array (index.key first)) (.array (index.key next)) = true := by
    rw [Json.same_iff, Json.unsignedZeros, Json.unsignedZeros,
      Json.unsignedZerosOfItems_eq_map, Json.unsignedZerosOfItems_eq_map, values]
  rw [SharesKey, Collection.sameKey, Json.same_congr_left keys]
  exact shares

end Index

namespace Collection

/-! ## Collisions -/

/-- Two documents must not be in one collection with these indexes. -/
def Collides (indexes : List Index) (first second : Document) : Prop :=
  first.SamePrimaryKey second ∨
    ∃ index ∈ indexes, index.unique = true ∧ index.SharesKey first second

theorem Collides.symm {indexes : List Index} {first second : Document}
    (collides : Collides indexes first second) : Collides indexes second first := by
  rcases collides with same | ⟨index, isIndex, unique, shares⟩
  · exact .inl same.symm
  · exact .inr ⟨index, isIndex, unique, shares.symm⟩

/-- Documents collide with what the same documents collide with. -/
theorem Collides.congr {indexes : List Index} {first next other : Document}
    (alike : Document.same first next = true) (collides : Collides indexes next other) :
    Collides indexes first other := by
  rcases collides with same | ⟨index, isIndex, unique, shares⟩
  · exact .inl (same.congr alike)
  · exact .inr ⟨index, isIndex, unique, shares.congr alike⟩

theorem samePrimaryKey_iff (first second : Document) :
    first.SamePrimaryKey second ↔
      ∃ id, (do
        let id ← Document.get? first FieldName.primaryKey
        let otherId ← Document.get? second FieldName.primaryKey
        if Json.same id otherId then some id else none) = some id := by
  unfold Document.SamePrimaryKey
  cases Document.get? first FieldName.primaryKey with
  | none => simp
  | some id =>
      cases Document.get? second FieldName.primaryKey with
      | none => simp
      | some other => by_cases alike : Json.same id other = true <;> simp [alike]

/-- Two documents have a collision if they collide. -/
theorem collision?_eq_none_iff (indexes : List Index) (candidate other : Document) :
    collision? indexes candidate other = none ↔ ¬ Collides indexes candidate other := by
  unfold collision? Collides
  rw [samePrimaryKey_iff]
  dsimp only
  split
  · next id equal =>
      constructor
      · intro none
        cases none
      · intro free
        exact absurd (.inl ⟨id, equal⟩) free
  · next equal =>
      rw [equal, Option.map_eq_none_iff, List.find?_eq_none]
      simp [Index.SharesKey]

theorem firstCollision?_eq_none_iff (indexes : List Index) (candidate : Document)
    (others : List Document) :
    firstCollision? indexes candidate others = none ↔
      ∀ other ∈ others, ¬ Collides indexes candidate other := by
  rw [firstCollision?, List.findSome?_eq_none_iff]
  exact forall_congr' fun other => imp_congr_right fun _ =>
    collision?_eq_none_iff indexes candidate other

theorem exists_collides_of_firstCollision? {indexes : List Index} {candidate : Document}
    {others : List Document} {collision : Collision}
    (found : firstCollision? indexes candidate others = some collision) :
    ∃ other ∈ others, Collides indexes candidate other := by
  have notFree : ¬ ∀ other ∈ others, ¬ Collides indexes candidate other := by
    rw [← firstCollision?_eq_none_iff, found]
    exact Option.some_ne_none collision
  simpa using notFree

/-- No two documents have the same key under an index if none has the key of one
behind it. -/
theorem hasRepeatedKey_eq_false_iff (index : Index) (documents : List Document) :
    hasRepeatedKey index documents = false ↔
      documents.Pairwise fun first second => ¬ index.SharesKey first second := by
  induction documents with
  | nil => simp [hasRepeatedKey]
  | cons document rest ih =>
      rw [hasRepeatedKey, Bool.or_eq_false_iff, ih, List.pairwise_cons, List.any_eq_false]
      rfl

/-! ## Intact collections -/

/-- **An intact collection**: every document has a primary key, no two documents have
the same one, nor the same key under a unique index, and every name of an index is
that of one index. -/
structure Intact (collection : Collection) : Prop where
  keyed : ∀ document ∈ collection.documents, document.Keyed
  distinct : collection.documents.Pairwise fun first second => ¬ first.SamePrimaryKey second
  unique : ∀ index ∈ collection.indexes, index.unique = true →
    collection.documents.Pairwise fun first second => ¬ index.SharesKey first second
  names : (collection.indexes.map Index.name).Nodup

theorem Intact.empty : Intact .empty :=
  ⟨by simp [Collection.empty], by simp [Collection.empty], by simp [Collection.empty],
    by simp [Collection.empty]⟩

/-- No two documents collide if they neither have the same primary key nor the same
key under any unique index. -/
theorem pairwise_not_collides_iff (indexes : List Index) (documents : List Document) :
    documents.Pairwise (fun first second => ¬ Collides indexes first second) ↔
      documents.Pairwise (fun first second => ¬ first.SamePrimaryKey second) ∧
        ∀ index ∈ indexes, index.unique = true →
          documents.Pairwise fun first second => ¬ index.SharesKey first second := by
  constructor
  · intro free
    refine ⟨free.imp fun none same => none (.inl same), fun index isIndex unique => ?_⟩
    exact free.imp fun none shares => none (.inr ⟨index, isIndex, unique, shares⟩)
  · rintro ⟨distinct, unique⟩
    rw [List.pairwise_iff_forall_sublist] at distinct ⊢
    intro first second isSublist collides
    rcases collides with same | ⟨index, isIndex, isUnique, shares⟩
    · exact distinct isSublist same
    · exact List.pairwise_iff_forall_sublist.mp (unique index isIndex isUnique) isSublist shares

theorem intact_iff (documents : List Document) (indexes : List Index) :
    Intact ⟨documents, indexes⟩ ↔
      (∀ document ∈ documents, document.Keyed) ∧
        documents.Pairwise (fun first second => ¬ Collides indexes first second) ∧
          (indexes.map Index.name).Nodup := by
  rw [pairwise_not_collides_iff]
  constructor
  · rintro ⟨keyed, distinct, unique, names⟩
    exact ⟨keyed, ⟨distinct, unique⟩, names⟩
  · rintro ⟨keyed, ⟨distinct, unique⟩, names⟩
    exact ⟨keyed, distinct, unique, names⟩

/-- A document among others: they are intact with it if they are without it, it has a
primary key, and it collides with none of them. -/
theorem intact_among_iff (indexes : List Index) (before behind : List Document)
    (document : Document) :
    Intact ⟨before ++ document :: behind, indexes⟩ ↔
      Intact ⟨before ++ behind, indexes⟩ ∧ document.Keyed ∧
        ∀ other ∈ before ++ behind, ¬ Collides indexes document other := by
  rw [intact_iff, intact_iff, List.pairwise_middle fun free collides => free collides.symm,
    List.pairwise_cons]
  constructor
  · rintro ⟨keyed, ⟨free, others⟩, names⟩
    refine ⟨⟨fun other isOther => keyed other ?_, others, names⟩,
      keyed document (by simp), free⟩
    rcases List.mem_append.mp isOther with isBefore | isBehind
    · exact List.mem_append_left _ isBefore
    · exact List.mem_append_right _ (List.mem_cons_of_mem _ isBehind)
  · rintro ⟨⟨keyed, others, names⟩, documentKeyed, free⟩
    refine ⟨fun other isOther => ?_, ⟨free, others⟩, names⟩
    rcases List.mem_append.mp isOther with isBefore | isBehind
    · exact keyed other (List.mem_append_left _ isBefore)
    · rcases List.mem_cons.mp isBehind with rfl | isBehind
      · exact documentKeyed
      · exact keyed other (List.mem_append_right _ isBehind)

/-- An intact collection stays intact with one document more if that collides with
none of its documents. -/
theorem intact_append_iff {documents : List Document} {indexes : List Index}
    (intact : Intact ⟨documents, indexes⟩) {document : Document} (keyed : document.Keyed) :
    Intact ⟨documents ++ [document], indexes⟩ ↔
      ∀ other ∈ documents, ¬ Collides indexes document other := by
  rw [intact_among_iff, List.append_nil]
  constructor
  · exact fun all => all.2.2
  · exact fun free => ⟨intact, keyed, free⟩

/-- An intact collection stays intact with another document in the place of one of
its documents if that collides with none of the others. -/
theorem intact_replace_iff {before behind : List Document} {indexes : List Index}
    {document next : Document} (intact : Intact ⟨before ++ document :: behind, indexes⟩)
    (keyed : next.Keyed) :
    Intact ⟨before ++ next :: behind, indexes⟩ ↔
      ∀ other ∈ before ++ behind, ¬ Collides indexes next other := by
  have others := ((intact_among_iff indexes before behind document).mp intact).1
  rw [intact_among_iff]
  constructor
  · exact fun all => all.2.2
  · exact fun free => ⟨others, keyed, free⟩

/-- A collection with one index more, in the place of the one of its name. -/
def withIndex (collection : Collection) (index : Index) : Collection :=
  { collection with
    indexes := (collection.indexes.filter fun other => other.name != index.name) ++ [index] }

/-- An intact collection stays intact with another index if that is not unique, or if
no two documents have the same key under it. -/
theorem intact_withIndex_iff {collection : Collection} (intact : collection.Intact)
    (index : Index) :
    (collection.withIndex index).Intact ↔
      (index.unique = true →
        collection.documents.Pairwise fun first second => ¬ index.SharesKey first second) := by
  constructor
  · intro installed unique
    exact installed.unique index (List.mem_append_right _ (List.mem_singleton_self index)) unique
  · intro free
    refine ⟨intact.keyed, intact.distinct, fun other isOther unique => ?_, ?_⟩
    · rcases List.mem_append.mp isOther with isKept | isNew
      · exact intact.unique other (List.mem_filter.mp isKept).1 unique
      · obtain rfl := List.mem_singleton.mp isNew
        exact free unique
    · rw [withIndex, List.map_append, List.map_singleton, List.nodup_append]
      refine ⟨intact.names.sublist (List.filter_sublist.map _), List.nodup_singleton _, ?_⟩
      intro name isName other isNew
      obtain ⟨kept, isKept, rfl⟩ := List.mem_map.mp isName
      rw [List.mem_singleton.mp isNew]
      simpa using (List.mem_filter.mp isKept).2

end Collection

end Docket
