import Docket.Proofs.Store.IndexNames
import Docket.Proofs.Store.Separation

/-!
# How long a unique index is enforced

A unique index that was installed holds of the documents as long as it stays installed. Only
the creation of another index takes it away, in its own collection and under its own name: every
other call leaves the indexes as they are, and so does a creation that fails at the index in
question. So once a unique index was accepted, no two documents have the same key under it, after
any calls that create no index of its name (`uniqueIndex_enforced`). An index of its name that is
not itself does take it away (`not_mem_indexes_of_displaced`).

An index that was given no name is replaced by an index over other keys only if the names of both
are the same. That cannot be if their fields are plain, and does happen to others: an index over
the one field `a_1_b` takes away the unique index over `a` and `b` (`uniqueIndex_displaced`).
-/

set_option autoImplicit false

namespace Docket

theorem exists_of_map_eq_ok {ε α β : Type} {change : α → β} {result : Except ε α}
    {value : β}
    (mapped : result.map change = .ok value) :
    ∃ inner, result = .ok inner ∧ change inner = value := by
  cases result with
  | error error => cases mapped
  | ok inner => exact ⟨inner, rfl, Except.ok.inj mapped⟩

namespace Collection

section

variable (place : Namespace) {collection : Collection} {index : Index} {indexes : List Index}

theorem mem_withIndex {other : Index} (installed : index ∈ collection.indexes)
    (apart : other.name ≠ index.name) : index ∈ (collection.withIndex other).indexes :=
  List.mem_append_left _ (List.mem_filter.mpr ⟨installed, by simpa using Ne.symm apart⟩)

/-- Another index of its name takes an index away. -/
theorem not_mem_withIndex {other : Index} (sameName : other.name = index.name)
    (differ : other ≠ index) : index ∉ (collection.withIndex other).indexes := by
  intro installed
  rcases List.mem_append.mp installed with kept | new
  · exact absurd sameName.symm (by simpa using (List.mem_filter.mp kept).2)
  · exact differ (List.mem_singleton.mp new).symm

/-- **An index stays installed** where no index of its name is created. -/
theorem mem_createIndexes (installed : index ∈ collection.indexes)
    (apart : ∀ other ∈ indexes, other.name ≠ index.name) :
    index ∈ (createIndexes place collection indexes).1.indexes := by
  induction indexes generalizing collection with
  | nil => exact installed
  | cons other rest ih =>
      by_cases collides : (Attempt.install collection other).Collides
      · rw [createIndexes_of_violated place collides]
        exact installed
      · rw [createIndexes_of_free place collides]
        exact ih (mem_withIndex installed (apart other List.mem_cons_self))
          fun next isNext => apart next (List.mem_cons_of_mem _ isNext)

/-- The first index of an accepted creation is installed, and the others are created behind it. -/
theorem createIndexes_of_accepted {names : List String}
    (accepted : (createIndexes place collection (index :: indexes)).2 = .ok names) :
    (createIndexes place collection (index :: indexes)).1 =
        (createIndexes place (collection.withIndex index) indexes).1 ∧
      ∃ others, (createIndexes place (collection.withIndex index) indexes).2 = .ok others := by
  by_cases collides : (Attempt.install collection index).Collides
  · rw [createIndexes_of_violated place collides] at accepted
    cases accepted
  · rw [createIndexes_of_free place collides] at accepted ⊢
    obtain ⟨others, behind, _⟩ := exists_of_map_eq_ok accepted
    exact ⟨rfl, others, behind⟩

/-- **An index is installed** by a creation that is accepted, unless one of its name comes
behind it. -/
theorem mem_createIndexes_of_accepted {before behind : List Index} {names : List String}
    (accepted : (createIndexes place collection (before ++ index :: behind)).2 = .ok names)
    (apart : ∀ other ∈ behind, other.name ≠ index.name) :
    index ∈ (createIndexes place collection (before ++ index :: behind)).1.indexes := by
  induction before generalizing collection names with
  | nil =>
      rw [List.nil_append] at accepted ⊢
      rw [(createIndexes_of_accepted place accepted).1]
      exact mem_createIndexes place (List.mem_append_right _ List.mem_cons_self) apart
  | cons first rest ih =>
      rw [List.cons_append] at accepted ⊢
      obtain ⟨same, others, accepted⟩ := createIndexes_of_accepted place accepted
      rw [same]
      exact ih accepted

/-- An update leaves the indexes as they are. -/
theorem update_indexes (operation : StoreOperation) (filter change : Document) (many : Bool) :
    (collection.update place operation filter change many).1.indexes = collection.indexes := by
  unfold update
  cases updatedFields operation change <;> rfl

end

end Collection

namespace MemoryStore

theorem collection_of_text_eq (store : MemoryStore) {place other : Namespace}
    (sameText : place.text = other.text) : store.collection place = store.collection other := by
  rw [collection, made?, sameText, collection, made?]

theorem update_indexes (store : MemoryStore) (place : Namespace) (operation : StoreOperation)
    (filter change : Document) (many : Bool) :
    ((store.update place operation filter change many).1.collection place).indexes =
      (store.collection place).indexes := by
  unfold update
  cases made : store.made? place with
  | none => rfl
  | some collection =>
      have present : store.collection place = collection := by
        rw [MemoryStore.collection, made, Option.getD_some]
      rw [present, collection_withCollection]
      exact collection.update_indexes place operation filter change many

end MemoryStore

namespace StoreCall

/-- The indexes that a call creates, in the collection that is found by the text of a
namespace. -/
def createdIn (place : Namespace) : StoreCall → List Index
  | .createIndexes other indexes => if other.text = place.text then indexes else []
  | _ => []

theorem collection_createIndexes (place : Namespace) (indexes : List Index)
    (state : StoreState MemoryStore) :
    ((createIndexes place indexes).behind state).store.collection place =
      (Collection.createIndexes place (state.store.collection place) indexes).1 :=
  state.store.collection_withCollection place _

theorem createdIn_of_text_eq (call : StoreCall) {place other : Namespace}
    (sameText : place.text = other.text) : call.createdIn place = call.createdIn other := by
  cases call with
  | createIndexes own indexes => rw [createdIn, createdIn, sameText]
  | _ => rfl

/-- A call takes no index of its own collection away that it creates none of the name of: only
the creation of indexes changes the indexes at all. -/
theorem mem_indexes_behind_here (call : StoreCall) (state : StoreState MemoryStore) {index : Index}
    (installed : index ∈ (state.store.collection call.place).indexes)
    (apart : ∀ other ∈ call.createdIn call.place, other.name ≠ index.name) :
    index ∈ ((call.behind state).store.collection call.place).indexes := by
  have inserted : ∀ documents, index ∈ ((state.store.insertMany call.place state.ids
      documents).store.collection call.place).indexes := by
    intro documents
    rw [MemoryStore.insertMany, MemoryStore.collection_withCollection]
    exact installed
  cases call with
  | insertOne place document =>
      rw [behind, run_insertOne]
      exact inserted [document]
  | insertMany place documents => exact inserted documents
  | updateOne place filter change =>
      exact (state.store.update_indexes place .updateOne filter change false).symm ▸ installed
  | updateMany place filter change =>
      exact (state.store.update_indexes place .updateMany filter change true).symm ▸ installed
  | createIndexes place indexes =>
      rw [StoreCall.place, collection_createIndexes]
      have here : (createIndexes place indexes).createdIn place = indexes := if_pos rfl
      exact Collection.mem_createIndexes place installed (here ▸ apart)
  | find place filter options => exact installed
  | count place filter => exact installed

/-- **A call takes no index away** that it creates none of the name of. -/
theorem mem_indexes_behind (call : StoreCall) (state : StoreState MemoryStore) {place : Namespace}
    {index : Index} (installed : index ∈ (state.store.collection place).indexes)
    (apart : ∀ other ∈ call.createdIn place, other.name ≠ index.name) :
    index ∈ ((call.behind state).store.collection place).indexes := by
  by_cases here : place.text = call.place.text
  · rw [MemoryStore.collection_of_text_eq _ here] at installed ⊢
    rw [call.createdIn_of_text_eq here] at apart
    exact call.mem_indexes_behind_here state installed apart
  · rw [MemoryStore.collection, made?_behind_of_ne here, ← MemoryStore.collection]
    exact installed

/-- **Calls take no index away** that they create none of the name of. -/
theorem mem_indexes_after (calls : List StoreCall) {state : StoreState MemoryStore}
    {place : Namespace} {index : Index}
    (installed : index ∈ (state.store.collection place).indexes)
    (apart : ∀ other ∈ calls.flatMap (createdIn place), other.name ≠ index.name) :
    index ∈ ((after calls state).store.collection place).indexes := by
  induction calls generalizing state with
  | nil => exact installed
  | cons call rest ih =>
      rw [List.flatMap_cons, List.forall_mem_append] at apart
      exact ih (call.mem_indexes_behind state installed apart.1) apart.2

section

variable {place : Namespace} {state : StoreState MemoryStore} {index : Index}

/-- A creation is accepted with the names of its indexes. -/
theorem exists_names_of_accepted {indexes : List Index}
    (accepted : (createIndexes place indexes).answer state = .ok ()) :
    ∃ names, (Collection.createIndexes place (state.store.collection place) indexes).2 =
      .ok names := by
  have created : (Collection.createIndexes place (state.store.collection place) indexes).2.map
      (fun _ => ()) = .ok () := accepted
  obtain ⟨names, created, _⟩ := exists_of_map_eq_ok created
  exact ⟨names, created⟩

/-- An index that a call creates is installed behind it, if the call is accepted and creates
none of its name later on. -/
theorem mem_indexes_of_accepted {before behind : List Index}
    (accepted : (createIndexes place (before ++ index :: behind)).answer state = .ok ())
    (apart : ∀ other ∈ behind, other.name ≠ index.name) :
    index ∈ (((createIndexes place (before ++ index :: behind)).behind state).store.collection
      place).indexes := by
  obtain ⟨names, created⟩ := exists_names_of_accepted accepted
  rw [collection_createIndexes]
  exact Collection.mem_createIndexes_of_accepted place created apart

/-- **Any other index of its name displaces an index**, whatever the keys of both are. -/
theorem not_mem_indexes_of_displaced {other : Index} (sameName : other.name = index.name)
    (differ : other ≠ index) (accepted : (createIndexes place [other]).answer state = .ok ()) :
    index ∉ (((createIndexes place [other]).behind state).store.collection place).indexes := by
  obtain ⟨names, created⟩ := exists_names_of_accepted accepted
  rw [collection_createIndexes, (Collection.createIndexes_of_accepted place created).1]
  exact Collection.not_mem_withIndex sameName differ

end

/-- **A unique index is enforced from its creation on.** Once its creation was accepted, no two
documents have the same key under it, after any calls. Neither it nor the indexes that are
created in its collection behind it are given names, and these are over other keys. It is only
asked that their names tell them apart from it, or that all of the fields are plain, so that
names tell the keys. -/
theorem uniqueIndex_enforced (earlier later : List StoreCall) (ids : IdSource) (place : Namespace)
    {index : Index} {before behind : List Index} (unique : index.unique = true)
    (unnamed : index.givenName = none)
    (accepted : (createIndexes place (before ++ index :: behind)).answer
      (after earlier ⟨.empty, ids⟩) = .ok ())
    (others : ∀ other ∈ behind ++ later.flatMap (createdIn place),
      other.givenName = none ∧ other.keys ≠ index.keys)
    (apart : (∀ other ∈ behind ++ later.flatMap (createdIn place),
      other.name ≠ index.name) ∨
      ∀ other ∈ index :: (behind ++ later.flatMap (createdIn place)), other.OverPlainFields) :
    let calls := earlier ++ createIndexes place (before ++ index :: behind) :: later
    ((after calls ⟨.empty, ids⟩).store.documents place).Pairwise fun first second =>
      ¬ index.SharesKey first second := by
  intro calls
  have names : ∀ other ∈ behind ++ later.flatMap (createdIn place),
      other.name ≠ index.name := by
    rcases apart with names | plain
    · exact names
    · intro other isOther sameName
      obtain ⟨otherUnnamed, otherKeys⟩ := others other isOther
      exact otherKeys (Index.keys_eq_of_name_eq otherUnnamed unnamed
        (plain other (List.mem_cons_of_mem _ isOther)) (plain index List.mem_cons_self) sameName)
  rw [List.forall_mem_append] at names
  have run : after calls ⟨.empty, ids⟩ = after later
      ((createIndexes place (before ++ index :: behind)).behind
        (after earlier ⟨.empty, ids⟩)) := by
    simp only [calls, after, List.foldl_append, List.foldl_cons]
  have installed : index ∈ ((after calls ⟨.empty, ids⟩).store.collection place).indexes := by
    rw [run]
    exact mem_indexes_after later (mem_indexes_of_accepted accepted names.1) names.2
  exact ((after_intact calls .empty).collection place).unique index installed unique

/-- Books are told apart by their shelf and their number on it. -/
def shelfIndex : Index :=
  ⟨[("shelf_no", .ascending), ("number", .descending)], true, none⟩

def firstBook : List StoreCall :=
  [insertOne ⟨"test", "books"⟩
    [("_id", .string "a"), ("shelf_no", .string "B"), ("number", .string "1")]]

/-- Another index is created, and more books come in. The last one is on the place of the
first one. -/
def moreBooks : List StoreCall :=
  [ createIndexes ⟨"test", "books"⟩ [⟨[("number", .descending)], false, none⟩],
    insertMany ⟨"test", "books"⟩
      [ [("_id", .string "b"), ("shelf_no", .string "B"), ("number", .string "2")],
        [("_id", .string "c"), ("shelf_no", .string "B"), ("number", .string "1")] ] ]

theorem uniqueIndex_enforced_books :
    let calls := firstBook ++ createIndexes ⟨"test", "books"⟩ [shelfIndex] :: moreBooks
    let documents := (after calls ⟨.empty, .fromMillis 0⟩).store.documents ⟨"test", "books"⟩
    documents.length = 2 ∧
      documents.Pairwise fun first second => ¬ shelfIndex.SharesKey first second := by
  have accepted : (createIndexes ⟨"test", "books"⟩ ([] ++ shelfIndex :: [])).answer
      (after firstBook ⟨.empty, .fromMillis 0⟩) = .ok () := by
    decide +kernel
  have others : ∀ other ∈ [] ++ moreBooks.flatMap (createdIn ⟨"test", "books"⟩),
      other.givenName = none ∧ other.keys ≠ shelfIndex.keys := by
    decide
  have plain : ∀ other ∈
        shelfIndex :: ([] ++ moreBooks.flatMap (createdIn ⟨"test", "books"⟩)),
      other.OverPlainFields := by
    decide +kernel
  have enforced := uniqueIndex_enforced firstBook moreBooks (.fromMillis 0) ⟨"test", "books"⟩
    rfl rfl accepted others (.inr plain)
  refine ⟨?_, enforced⟩
  decide +kernel

/-- **A unique index is displaced by an index over another field**, and two documents with the
same key under it are stored. The index over the one field has the name of that over both. -/
theorem uniqueIndex_displaced :
    let place : Namespace := ⟨"test", "notes"⟩
    let index : Index := ⟨[("a", .ascending), ("b", .ascending)], true, none⟩
    let other : Index := ⟨[("a_1_b", .ascending)], false, none⟩
    let first : Document := [("_id", .string "x"), ("a", .string "1"), ("b", .string "1")]
    let second : Document := [("_id", .string "y"), ("a", .string "1"), ("b", .string "1")]
    let later := [createIndexes place [other], insertOne place first, insertOne place second]
    other.keys ≠ index.keys ∧ other.name = index.name ∧
      (createIndexes place [index]).answer ⟨.empty, .fromMillis 0⟩ = .ok () ∧
        (after (createIndexes place [index] :: later) ⟨.empty, .fromMillis 0⟩).store.documents
          place = [first, second] ∧ index.SharesKey first second := by
  decide +kernel

end StoreCall

end Docket
