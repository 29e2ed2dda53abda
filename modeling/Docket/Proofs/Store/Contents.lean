import Docket.Proofs.Store.Attempts
import Docket.Store.Memory

/-!
# The collections of a store

A collection is found by the text of its namespace. What is put there is found
there, and everything that is found by another text stays as it was. So an update
of a store is an update of one collection: it goes through the documents of that
collection, keeps its indexes, and leaves all other collections alone
(`update_ofPlace`, `update_elsewhere`). A collection that was never made has no
documents, and an update that has nothing to go through does nothing.
-/

set_option autoImplicit false

namespace Docket.MemoryStore

theorem find?_put (name : String) (collection : Collection)
    (entries : List (String × Collection)) :
    ((put name collection entries).find? fun entry => entry.1 == name).map Prod.snd =
      some collection := by
  induction entries with
  | nil => simp [put]
  | cons first rest ih =>
      obtain ⟨other, old⟩ := first
      rw [put]
      by_cases equal : other = name
      · simp [equal]
      · rw [if_neg equal, List.find?_cons_of_neg (by simpa using equal)]
        exact ih

theorem find?_put_of_ne {name other : String} (differ : other ≠ name) (collection : Collection)
    (entries : List (String × Collection)) :
    ((put name collection entries).find? fun entry => entry.1 == other) =
      entries.find? fun entry => entry.1 == other := by
  induction entries with
  | nil => simp [put, Ne.symm differ]
  | cons first rest ih =>
      obtain ⟨held, old⟩ := first
      rw [put]
      by_cases equal : held = name
      · subst equal
        rw [if_pos rfl, List.find?_cons_of_neg (by simpa using Ne.symm differ),
          List.find?_cons_of_neg (by simpa using Ne.symm differ)]
      · rw [if_neg equal, List.find?_cons, List.find?_cons, ih]

/-- Putting back what is there changes nothing. -/
theorem put_self {name : String} {collection : Collection} {entries : List (String × Collection)}
    (found : (entries.find? fun entry => entry.1 == name).map Prod.snd = some collection) :
    put name collection entries = entries := by
  induction entries with
  | nil => cases found
  | cons first rest ih =>
      obtain ⟨held, old⟩ := first
      rw [put]
      by_cases equal : held = name
      · subst equal
        rw [List.find?_cons_of_pos (by simp), Option.map_some] at found
        obtain rfl := Option.some.inj found
        rw [if_pos rfl]
      · rw [List.find?_cons_of_neg (by simpa using equal)] at found
        rw [if_neg equal, ih found]

/-- The documents of a collection. -/
def documents (store : MemoryStore) (place : Namespace) : List Document :=
  (store.collection place).documents

section

variable (store : MemoryStore) (place : Namespace)

theorem collection_withCollection (collection : Collection) :
    (store.withCollection place collection).collection place = collection := by
  have made : (store.withCollection place collection).made? place = some collection :=
    find?_put place.text collection store.collections
  rw [MemoryStore.collection, made, Option.getD_some]

theorem collection_withCollection_of_ne {other : Namespace} (differ : other.text ≠ place.text)
    (collection : Collection) :
    (store.withCollection place collection).collection other = store.collection other := by
  have made : (store.withCollection place collection).made? other = store.made? other :=
    congrArg (Option.map Prod.snd) (find?_put_of_ne differ collection store.collections)
  rw [MemoryStore.collection, made, MemoryStore.collection]

theorem withCollection_self {collection : Collection}
    (made : store.made? place = some collection) :
    store.withCollection place collection = store := by
  rw [withCollection, put_self made]

/-- An insertion into a store adds to the documents of one collection. -/
theorem insertMany_documents (source : IdSource) (documents : List Document) :
    (store.insertMany place source documents).store.documents place =
      (Collection.insertFrom place (store.collection place).indexes (store.documents place) source
        documents).documents := by
  rw [insertMany, MemoryStore.documents, collection_withCollection]
  rfl

/-! ## Updates -/

theorem updatedFields_setting (operation : StoreOperation) (fields : Document) :
    Collection.updatedFields operation (Document.setting fields) = .ok fields :=
  rfl

variable (operation : StoreOperation) (filter fields : Document) (many : Bool)

/-- What an update that writes fields does to the documents of its collection. -/
def updating : List Document × Except StoreError UpdateOutcome :=
  Collection.updateFrom ⟨place, operation, filter, fields, many⟩
    (store.collection place).indexes [] (store.documents place) .nothing

/-- **An update of a store goes through the documents of one collection** and keeps its
indexes. -/
theorem update_ofPlace :
    ((store.update place operation filter (Document.setting fields) many).1.collection place =
        ⟨(store.updating place operation filter fields many).1,
          (store.collection place).indexes⟩) ∧
      (store.update place operation filter (Document.setting fields) many).2 =
        (store.updating place operation filter fields many).2 := by
  unfold update updating documents
  cases made : store.made? place with
  | none =>
      have missing : store.collection place = .empty := by
        rw [MemoryStore.collection, made, Option.getD_none]
      rw [missing]
      exact ⟨rfl, rfl⟩
  | some collection =>
      have present : store.collection place = collection := by
        rw [MemoryStore.collection, made, Option.getD_some]
      rw [present]
      exact ⟨store.collection_withCollection place _, rfl⟩

theorem update_documents :
    (store.update place operation filter (Document.setting fields) many).1.documents place =
      (store.updating place operation filter fields many).1 :=
  congrArg Collection.documents (store.update_ofPlace place operation filter fields many).1

/-- An update leaves the other collections of a store alone. -/
theorem update_elsewhere {other : Namespace} (differ : other.text ≠ place.text) :
    (store.update place operation filter (Document.setting fields) many).1.collection other =
      store.collection other := by
  unfold update
  cases store.made? place with
  | none => rfl
  | some collection => exact collection_withCollection_of_ne store place differ _

/-- An update that leaves the documents as they were leaves the store as it was. -/
theorem update_eq_self
    (unchanged : (store.updating place operation filter fields many).1 = store.documents place) :
    (store.update place operation filter (Document.setting fields) many).1 = store := by
  unfold update
  cases made : store.made? place with
  | none => rfl
  | some collection =>
      have present : store.collection place = collection := by
        rw [MemoryStore.collection, made, Option.getD_some]
      rw [updating, documents, present] at unchanged
      simp only [Collection.update, updatedFields_setting]
      rw [unchanged]
      exact store.withCollection_self place made

end

end Docket.MemoryStore
