import Docket.Proofs.Store.Contents
import Docket.Proofs.Store.Integrity

/-!
# Collections of different namespaces

A call looks at the collection of its namespace only and leaves every other one as it was. So
what a call answers, and what becomes of its collection, is decided by that collection and the
identifiers that are minted for the call (`carriedOut_congr`); and whoever works in one
namespace does not notice that a call in another one was made, then or at any later time
(`heard_congr`).

Collections are kept by the texts of namespaces, and a text does not tell where the database
ends if a dot stands in it. Different namespaces have one text if a part with a dot can be
shifted from the database of the one to the collection of the other (`Namespace.text_eq_iff`).
Their collections are then one, and every document that is stored in the one is in the other.
So namespaces are isolated from each other if and only if nothing can be shifted between them
(`isolated_iff`), as it is when no database has a dot. A database with a dot is enough to look
into another one (`dottedDatabase_notIsolated`).
-/

set_option autoImplicit false

namespace Docket

/-! ## Namespaces of one text -/

namespace Namespace

/-- **A part can be shifted** from the collection of a namespace to its database, which makes
it another namespace of the same text. -/
def Shifts (left right : Namespace) : Prop :=
  ∃ middle, right.database = left.database ++ "." ++ middle ∧
    left.collection = middle ++ "." ++ right.collection

theorem Shifts.text_eq {left right : Namespace} (shifts : left.Shifts right) :
    left.text = right.text := by
  obtain ⟨middle, database, collection⟩ := shifts
  rw [text, text, database, collection]
  simp only [String.append_assoc]

/-- The namespace whose database is not the longer one of two with one text. -/
theorem eq_or_shifts_of_suffix {left right : Namespace} {more : List Char}
    (database : right.database.toList = left.database.toList ++ more)
    (collection : '.' :: left.collection.toList = more ++ '.' :: right.collection.toList) :
    left = right ∨ left.Shifts right := by
  cases more with
  | nil =>
      have sameDatabase : right.database = left.database :=
        String.toList_injective (by simpa using database)
      have sameCollection : left.collection = right.collection :=
        String.toList_injective (by simpa using collection)
      refine .inl ?_
      cases left
      cases right
      simp_all
  | cons first rest =>
      rw [List.cons_append, List.cons.injEq] at collection
      obtain ⟨rfl, collection⟩ := collection
      refine .inr ⟨String.ofList rest, ?_, ?_⟩
      · apply String.toList_injective
        simpa using database
      · apply String.toList_injective
        simpa using collection

/-- **Namespaces have one text** if they are the same, or if a part can be shifted from the
one to the other. -/
theorem text_eq_iff (left right : Namespace) :
    left.text = right.text ↔ left = right ∨ left.Shifts right ∨ right.Shifts left := by
  constructor
  · intro sameText
    have characters := congrArg String.toList sameText
    simp only [text, String.toList_append, List.append_assoc] at characters
    rcases List.append_eq_append_iff.mp characters with
      ⟨more, database, collection⟩ | ⟨more, database, collection⟩
    · exact (eq_or_shifts_of_suffix database collection).imp_right .inl
    · exact (eq_or_shifts_of_suffix database collection).imp Eq.symm .inr
  · rintro (rfl | shifts | shifts)
    · rfl
    · exact shifts.text_eq
    · exact shifts.text_eq.symm

end Namespace

namespace MemoryStore

/-- What a store has under the text of a namespace after a collection was put there. -/
theorem made?_withCollection (store : MemoryStore) (place other : Namespace)
    (collection : Collection) :
    (store.withCollection place collection).made? other =
      if other.text = place.text then some collection else store.made? other := by
  unfold made? withCollection
  split
  · next sameText =>
      rw [sameText]
      exact find?_put place.text collection store.collections
  · next differ => rw [find?_put_of_ne differ]

section

variable {first second : MemoryStore} {place : Namespace}
  (same : first.made? place = second.made? place)

include same

theorem collection_congr : first.collection place = second.collection place := by
  rw [collection, same, collection]

theorem insertMany_congr (ids : IdSource) (documents : List Document) :
    (first.insertMany place ids documents).result =
        (second.insertMany place ids documents).result ∧
      (first.insertMany place ids documents).store.made? place =
        (second.insertMany place ids documents).store.made? place := by
  simp only [insertMany, collection_congr same, made?_withCollection, if_true, and_self]

theorem update_congr (operation : StoreOperation) (filter change : Document) (many : Bool) :
    (first.update place operation filter change many).2 =
        (second.update place operation filter change many).2 ∧
      (first.update place operation filter change many).1.made? place =
        (second.update place operation filter change many).1.made? place := by
  cases made : second.made? place with
  | none => simp only [update, same, made, and_self]
  | some collection => simp only [update, same, made, made?_withCollection, if_true, and_self]

theorem createIndexes_congr (indexes : List Index) :
    (first.createIndexes place indexes).2 = (second.createIndexes place indexes).2 ∧
      (first.createIndexes place indexes).1.made? place =
        (second.createIndexes place indexes).1.made? place := by
  simp only [createIndexes, collection_congr same, made?_withCollection, if_true, and_self]

end

end MemoryStore

/-! ## One call -/

/-- What a call is answered with, unless it fails. -/
inductive StoreReply where
  | id (id : String)
  | ids (ids : List String)
  | outcome (outcome : UpdateOutcome)
  | documents (documents : List Document)
  | count (count : Nat)
  | names (names : List String)

namespace StoreCall

/-- The namespace that a call is for. -/
def place : StoreCall → Namespace
  | .insertOne place _ => place
  | .insertMany place _ => place
  | .updateOne place _ _ => place
  | .updateMany place _ _ => place
  | .find place _ _ => place
  | .count place _ => place
  | .createIndexes place _ => place

/-- What the store in memory replies to a call. -/
def reply (call : StoreCall) (state : StoreState MemoryStore) : Except StoreError StoreReply :=
  match call with
  | .insertOne place document => told .id (MemoryStore.backend.insertOne place document)
  | .insertMany place documents => told .ids (MemoryStore.backend.insertMany place documents)
  | .updateOne place filter change =>
      told .outcome (MemoryStore.backend.updateOne place filter change)
  | .updateMany place filter change =>
      told .outcome (MemoryStore.backend.updateMany place filter change)
  | .find place filter options =>
      told .documents (MemoryStore.backend.find place filter options)
  | .count place filter => told .count (MemoryStore.backend.count place filter)
  | .createIndexes place indexes => told .names (MemoryStore.backend.createIndexes place indexes)
where
  /-- The result of an operation, as a reply. -/
  told {α : Type} (form : α → StoreReply) (action : StoreAction MemoryStore α) :
      Except StoreError StoreReply :=
    (action.run.run state).1.map form

section

variable {call : StoreCall}

/-- **A call leaves the collections of other texts as they were.** -/
theorem made?_behind_of_ne {other : Namespace} (differ : other.text ≠ call.place.text)
    (state : StoreState MemoryStore) :
    (call.behind state).store.made? other = state.store.made? other := by
  have elsewhere : ∀ collection, (state.store.withCollection call.place collection).made? other =
      state.store.made? other := fun collection => by
    rw [MemoryStore.made?_withCollection, if_neg differ]
  have updated : ∀ operation filter change many,
      (state.store.update call.place operation filter change many).1.made? other =
        state.store.made? other := by
    intro operation filter change many
    unfold MemoryStore.update
    cases state.store.made? call.place with
    | none => rfl
    | some collection => exact elsewhere _
  cases call with
  | insertOne place document =>
      rw [behind, run_insertOne]
      exact elsewhere _
  | insertMany place documents => exact elsewhere _
  | updateOne place filter change => exact updated .updateOne filter change false
  | updateMany place filter change => exact updated .updateMany filter change true
  | createIndexes place indexes => exact elsewhere _
  | find place filter options => rfl
  | count place filter => rfl

variable {first second : MemoryStore} (ids : IdSource)
  (same : first.made? call.place = second.made? call.place)

include same

/-- **What a call answers and what becomes of its collection** is decided by that collection
and the identifiers that are minted. -/
theorem carriedOut_congr :
    call.reply ⟨first, ids⟩ = call.reply ⟨second, ids⟩ ∧
      (call.behind ⟨first, ids⟩).store.made? call.place =
        (call.behind ⟨second, ids⟩).store.made? call.place := by
  cases call with
  | insertOne place document =>
      have samePlace : first.made? place = second.made? place := same
      obtain ⟨result, made⟩ := MemoryStore.insertMany_congr samePlace ids [document]
      rw [behind, behind, run_insertOne, run_insertOne]
      refine ⟨?_, made⟩
      show Except.map StoreReply.id ((MemoryStore.insertOneAction place document).run.run _).1 =
        Except.map StoreReply.id ((MemoryStore.insertOneAction place document).run.run _).1
      rw [MemoryStore.run_insertOneAction, MemoryStore.run_insertOneAction]
      dsimp only
      rw [result]
  | insertMany place documents =>
      have samePlace : first.made? place = second.made? place := same
      obtain ⟨result, made⟩ := MemoryStore.insertMany_congr samePlace ids documents
      exact ⟨congrArg (Except.map StoreReply.ids) result, made⟩
  | updateOne place filter change =>
      have samePlace : first.made? place = second.made? place := same
      obtain ⟨result, made⟩ := MemoryStore.update_congr samePlace .updateOne filter change false
      exact ⟨congrArg (Except.map StoreReply.outcome) result, made⟩
  | updateMany place filter change =>
      have samePlace : first.made? place = second.made? place := same
      obtain ⟨result, made⟩ := MemoryStore.update_congr samePlace .updateMany filter change true
      exact ⟨congrArg (Except.map StoreReply.outcome) result, made⟩
  | createIndexes place indexes =>
      have samePlace : first.made? place = second.made? place := same
      obtain ⟨result, made⟩ := MemoryStore.createIndexes_congr samePlace indexes
      exact ⟨congrArg (Except.map StoreReply.names) result, made⟩
  | find place filter options =>
      have found : first.find place filter options = second.find place filter options :=
        congrArg (fun collection => Collection.find collection filter options)
          (MemoryStore.collection_congr same)
      exact ⟨congrArg (Except.map StoreReply.documents) found, same⟩
  | count place filter =>
      have counted : first.count place filter = second.count place filter :=
        congrArg (fun collection => Collection.count collection filter)
          (MemoryStore.collection_congr same)
      exact ⟨congrArg (Except.map StoreReply.count) counted, same⟩

end

end StoreCall

/-! ## Runs -/

/-- A call that is made at some time, with the identifiers that are minted from then on. -/
structure TimedCall where
  call : StoreCall
  ids : IdSource

namespace TimedCall

/-- What the store in memory replies to a call at its time. -/
def reply (timed : TimedCall) (store : MemoryStore) : Except StoreError StoreReply :=
  timed.call.reply ⟨store, timed.ids⟩

/-- The store that a call leaves behind at its time. -/
def behind (timed : TimedCall) (store : MemoryStore) : MemoryStore :=
  (timed.call.behind ⟨store, timed.ids⟩).store

end TimedCall

namespace MemoryStore

/-- The store that calls leave behind, one after another, whether they fail or not. -/
def afterCalls (store : MemoryStore) (calls : List TimedCall) : MemoryStore :=
  calls.foldl (fun store timed => timed.behind store) store

/-- The replies that are heard in a namespace, if calls are made one after another. -/
def heard (place : Namespace) :
    List TimedCall → MemoryStore → List (Except StoreError StoreReply)
  | [], _ => []
  | timed :: later, store =>
      if timed.call.place = place then timed.reply store :: heard place later (timed.behind store)
      else heard place later (timed.behind store)

/-- **Whoever works in a namespace notices nothing but its collection**: from stores that have
the same collection there, the same replies are heard, and the same collection is left. Calls
that name another namespace of the same text find that collection too. -/
theorem heard_congr {place : Namespace} (calls : List TimedCall) {first second : MemoryStore}
    (same : first.made? place = second.made? place) :
    heard place calls first = heard place calls second ∧
      (first.afterCalls calls).made? place = (second.afterCalls calls).made? place := by
  induction calls generalizing first second with
  | nil => exact ⟨rfl, same⟩
  | cons timed later ih =>
      by_cases here : timed.call.place.text = place.text
      · have found : ∀ store : MemoryStore, store.made? timed.call.place = store.made? place :=
          fun store => by rw [made?, here, made?]
        obtain ⟨sameReply, sameMade⟩ := StoreCall.carriedOut_congr timed.ids
          ((found first).trans (same.trans (found second).symm))
        rw [found, found] at sameMade
        obtain ⟨sameHeard, sameLeft⟩ := ih sameMade
        refine ⟨?_, sameLeft⟩
        rw [heard, heard, TimedCall.reply, TimedCall.reply, sameReply]
        simp only [TimedCall.behind, sameHeard]
      · have differ : place.text ≠ timed.call.place.text := Ne.symm here
        have notHere : timed.call.place ≠ place :=
          fun equal => here (congrArg Namespace.text equal)
        have sameMade : (timed.behind first).made? place = (timed.behind second).made? place := by
          rw [TimedCall.behind, StoreCall.made?_behind_of_ne differ, TimedCall.behind,
            StoreCall.made?_behind_of_ne differ, same]
        obtain ⟨sameHeard, sameLeft⟩ := ih sameMade
        refine ⟨?_, sameLeft⟩
        rw [heard, if_neg notHere, heard, if_neg notHere, sameHeard]

end MemoryStore

/-- **A namespace is isolated from another one**: whether a call was made in the other one or
not is told by none of the later replies, nor by the collection at any later time. -/
structure Namespace.IsolatedFrom (place other : Namespace) : Prop where
  replies : ∀ (store : MemoryStore) (timed : TimedCall), timed.call.place = other →
    ∀ later, store.heard place (timed :: later) = store.heard place later
  collection : ∀ (store : MemoryStore) (timed : TimedCall), timed.call.place = other →
    ∀ later, (store.afterCalls (timed :: later)).made? place =
      (store.afterCalls later).made? place
  size : ∀ (store : MemoryStore) (timed : TimedCall), timed.call.place = other →
    ∀ later, (store.afterCalls (timed :: later)).size place = (store.afterCalls later).size place

namespace Namespace

variable {place other : Namespace}

theorem IsolatedFrom.of_text_ne (differ : place.text ≠ other.text) :
    place.IsolatedFrom other := by
  have alike : ∀ (store : MemoryStore) (timed : TimedCall), timed.call.place = other →
      (timed.behind store).made? place = store.made? place := by
    intro store timed isOther
    rw [TimedCall.behind, StoreCall.made?_behind_of_ne (isOther ▸ differ)]
  have collection : ∀ (store : MemoryStore) (timed : TimedCall), timed.call.place = other →
      ∀ later, (store.afterCalls (timed :: later)).made? place =
        (store.afterCalls later).made? place := by
    intro store timed isOther later
    exact (MemoryStore.heard_congr later (alike store timed isOther)).2
  refine ⟨?_, collection, ?_⟩
  · intro store timed isOther later
    have notHere : timed.call.place ≠ place := fun isPlace =>
      differ (congrArg text (isPlace.symm.trans isOther))
    rw [MemoryStore.heard, if_neg notHere]
    exact (MemoryStore.heard_congr later (alike store timed isOther)).1
  · intro store timed isOther later
    rw [MemoryStore.size, MemoryStore.collection, collection store timed isOther later,
      MemoryStore.size, MemoryStore.collection]

/-- A document that is stored in one namespace is also in any other one of the same text. -/
theorem size_of_text_eq (sameText : place.text = other.text) (ids : IdSource)
    (document : Document) :
    (MemoryStore.empty.afterCalls [⟨.insertOne other document, ids⟩]).size place = 1 := by
  show (StoreCall.behind (.insertOne other document) ⟨.empty, ids⟩).store.size place = 1
  rw [StoreCall.behind, StoreCall.run_insertOne]
  simp only [MemoryStore.insertMany, MemoryStore.size, MemoryStore.collection,
    MemoryStore.made?_withCollection, if_pos sameText]
  rfl

/-- **Namespaces are isolated exactly if their texts tell them apart**: if they are not the
same, and no part can be shifted from the one to the other. -/
theorem isolated_iff (place other : Namespace) :
    place.IsolatedFrom other ↔
      ¬ (place = other ∨ place.Shifts other ∨ other.Shifts place) := by
  rw [← text_eq_iff]
  constructor
  · intro isolated sameText
    have noticed := size_of_text_eq sameText (.fromMillis 0) []
    rw [isolated.size .empty ⟨.insertOne other [], .fromMillis 0⟩ rfl []] at noticed
    have nothing : (MemoryStore.empty.afterCalls []).size place = 0 := rfl
    rw [nothing] at noticed
    cases noticed
  · exact IsolatedFrom.of_text_ne

/-- **A note that is stored in the database of one tenant is found in that of another one**:
the namespaces differ, and have one text. -/
theorem dottedDatabase_notIsolated :
    let place : Namespace := ⟨"shop", "eu.notes"⟩
    let other : Namespace := ⟨"shop.eu", "notes"⟩
    let storing : TimedCall := ⟨.insertOne other [("_id", .string "a")], .fromMillis 0⟩
    place ≠ other ∧
      (MemoryStore.empty.afterCalls [storing]).size place = 1 ∧
        (MemoryStore.empty.afterCalls []).size place = 0 ∧ ¬ place.IsolatedFrom other := by
  intro place other storing
  have sameText : place.text = other.text := by decide
  have noticed : (MemoryStore.empty.afterCalls [storing]).size place = 1 :=
    size_of_text_eq sameText _ _
  refine ⟨by decide, noticed, rfl, fun isolated => ?_⟩
  rw [isolated.size .empty storing rfl []] at noticed
  cases noticed

end Namespace

end Docket
