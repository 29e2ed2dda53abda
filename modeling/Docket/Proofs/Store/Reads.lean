import Docket.Persistence.Access
import Docket.Proofs.Persistence.Ensures
import Docket.Proofs.Store.Contents
import Docket.Proofs.Store.Locality
import Docket.Proofs.Store.Sorting
import Docket.Proofs.Time.Order
import Mathlib.Order.WithBot

/-!
# Reads are complete and newest first

A read whose filter can be evaluated on every document finds the documents that match,
sorted and cut off as its options ask (`find_eq`). Reading one document and counting
evaluate the filter in the same way, so the three agree.

A document is dated if its time of creation is missing, null or a timestamp. Dated
documents have a rank: the instant of their timestamp, or a rank before all instants.
Reads go by this rank, the greatest first, although what is stored are texts with
offsets of their own (`goesBy_created`). So a read of dated documents lists the matching
ones from the newest to the oldest, those without a time of creation at the end, and
leaves those of one instant in the order of their insertion (`reads_newest_first`).
-/

set_option autoImplicit false

namespace Docket

namespace Document

/-- The time of creation of a document. One that is missing or no timestamp counts as
earlier than all instants. -/
def created (document : Document) : WithBot Instant :=
  match get? document FieldName.createdAt with
  | some (.string text) => (Rfc3339.parse? text).elim ⊥ (↑)
  | _ => ⊥

/-- The time of creation is missing, null or a timestamp. -/
inductive IsDated (document : Document) : Prop
  | missing (found : get? document FieldName.createdAt = none)
  | null (found : get? document FieldName.createdAt = some .null)
  | timestamp (text : String) (instant : Instant)
      (found : get? document FieldName.createdAt = some (.string text))
      (parsed : Rfc3339.parse? text = some instant)

end Document

namespace Sorting

open Document (IsDated)

/-- What a dated document has for its time of creation: nothing that counts, or the text
of the instant of its rank. -/
theorem present_of_isDated {document : Document} (dated : document.IsDated) :
    (present (Document.get? document FieldName.createdAt) = none ∧ document.created = ⊥) ∨
      ∃ text instant, Rfc3339.parse? text = some instant ∧
        present (Document.get? document FieldName.createdAt) = some (.string text) ∧
          document.created = instant := by
  cases dated with
  | missing found => exact .inl (by simp [Document.created, found, present])
  | null found => exact .inl (by simp [Document.created, found, present, Json.isNull])
  | timestamp text instant found parsed =>
      refine .inr ⟨text, instant, parsed, ?_, ?_⟩
      · rw [found]
        rfl
      · simp only [Document.created, found, parsed, Option.elim_some]

theorem compareValues_timestamps {first second : String} {earlier later : Instant}
    (firstParsed : Rfc3339.parse? first = some earlier)
    (secondParsed : Rfc3339.parse? second = some later) :
    compareValues (.string first) (.string second) = earlier.compare later := by
  simp only [compareValues, firstParsed, secondParsed]

/-- Of two dated documents the one that was created later has the greater field. -/
theorem compareFields_eq_gt_iff {first second : Document} (firstDated : first.IsDated)
    (secondDated : second.IsDated) :
    compareFields (Document.get? first FieldName.createdAt)
        (Document.get? second FieldName.createdAt) = .gt ↔
      second.created < first.created := by
  rcases present_of_isDated firstDated with
      ⟨noFirst, rankFirst⟩ | ⟨text, instant, parsed, isFirst, rankFirst⟩ <;>
    rcases present_of_isDated secondDated with
      ⟨noSecond, rankSecond⟩ | ⟨other, otherInstant, otherParsed, isSecond, rankSecond⟩
  · simp [compareFields, noFirst, noSecond, rankFirst, rankSecond]
  · simp [compareFields, noFirst, isSecond, rankFirst, rankSecond]
  · simp [compareFields, isFirst, noSecond, rankFirst, rankSecond]
  · rw [compareFields, isFirst, isSecond, rankFirst, rankSecond, WithBot.coe_lt_coe]
    show compareValues (.string text) (.string other) = .gt ↔ _
    rw [compareValues_timestamps parsed otherParsed]
    exact Instant.compare_eq_gt_iff

/-- **Reads of dated documents go by the time of creation**, the latest first. -/
theorem goesBy_created {documents : List Document}
    (dated : ∀ document ∈ documents, document.IsDated) :
    GoesBy Access.newestFirst.sort (fun document => OrderDual.toDual document.created)
      documents := by
  intro first isFirst second isSecond
  have compared := compareFields_eq_gt_iff (dated first isFirst) (dated second isSecond)
  rw [OrderDual.toDual_lt_toDual, ← compared]
  show ((compareFields _ _).swap.then .eq) = .lt ↔ _
  cases compareFields (Document.get? first FieldName.createdAt)
    (Document.get? second FieldName.createdAt) <;> decide

end Sorting

/-- Some documents from the newest to the oldest: all of them, and those of one time of
creation as they were. -/
structure Document.NewestFirst (documents found : List Document) : Prop where
  complete : found.Perm documents
  descending : found.Pairwise fun earlier later => later.created ≤ earlier.created
  stable : ∀ time, found.filter (fun document => document.created = time) =
    documents.filter fun document => document.created = time

/-- **Sorting dated documents for a read puts the newest first.** -/
theorem Sorting.newestFirst_sorted {documents : List Document}
    (dated : ∀ document ∈ documents, document.IsDated) :
    Document.NewestFirst documents (sorted Access.newestFirst.sort documents) where
  complete := sorted_perm Access.newestFirst.sort documents
  descending := pairwise_sorted (goesBy_created dated)
  stable time := by
    have stable := filter_sorted (goesBy_created dated) (OrderDual.toDual time)
    simpa only [OrderDual.toDual_inj] using stable

theorem FindOptions.mem_of_mem_part {α : Type} {options : FindOptions} {items : List α}
    {item : α}
    (isItem : item ∈ options.part items) : item ∈ items := by
  unfold part at isItem
  refine List.mem_of_mem_drop (i := options.skip.getD 0) ?_
  dsimp only at isItem
  split at isItem
  · exact isItem
  · split at isItem
    · exact isItem
    · exact List.mem_of_mem_take isItem

namespace MemoryStore

/-- The documents of a collection that match a filter. -/
def matching (store : MemoryStore) (place : Namespace) (filter : Document) : List Document :=
  (store.documents place).filter fun document => Filter.accepts document filter

/-- A filter can be evaluated on all documents of a collection. -/
def Evaluates (store : MemoryStore) (place : Namespace) (filter : Document) : Prop :=
  ∀ document ∈ store.documents place, ∃ verdict, Filter.holds document filter = .ok verdict

/-- The filter for live documents can be evaluated everywhere. -/
theorem evaluates_live (store : MemoryStore) (place : Namespace) :
    store.Evaluates place Document.live := by
  intro document _
  refine ⟨Filter.fieldEquals (Document.get? document FieldName.deletedAt) .null, ?_⟩
  rw [Document.live, Document.single, Filter.holds_single, Filter.memberHolds_of_ne (by decide),
    Filter.conditionHolds_of_value rfl]

variable {store : MemoryStore} {place : Namespace} {filter : Document}

section

variable (evaluates : store.Evaluates place filter)

include evaluates

/-- **A read finds the documents that match**, sorted and cut off. -/
theorem find_eq (options : FindOptions) :
    store.find place filter options =
      .ok (options.part (Sorting.sorted options.sort (store.matching place filter))) := by
  have selected := Filter.select_of_evaluated evaluates
  rw [documents] at selected
  rw [find, Collection.find, selected]
  rfl

/-- **A read finds something**, and nothing that is not stored. -/
theorem exists_find (options : FindOptions) :
    ∃ found, store.find place filter options = .ok found ∧
      ∀ document ∈ found, document ∈ store.documents place := by
  refine ⟨_, find_eq evaluates options, fun document isFound => ?_⟩
  have isMatching := (Sorting.sorted_perm _ _).mem_iff.mp (FindOptions.mem_of_mem_part isFound)
  exact List.mem_of_mem_filter isMatching

theorem count_eq : store.count place filter = .ok (store.matching place filter).length := by
  have selected := Filter.select_of_evaluated evaluates
  rw [documents] at selected
  rw [count, Collection.count, selected]
  rfl

end

/-- Where the filter cannot be evaluated, nothing is found and nothing is counted. -/
theorem fails_of_not_evaluates (notEvaluates : ¬ store.Evaluates place filter) :
    ∃ error, (∀ options, store.find place filter options = .error error) ∧
      store.count place filter = .error error := by
  cases selected : Filter.select filter (store.documents place) with
  | ok found => exact absurd (Filter.evaluated_of_select selected) notEvaluates
  | error error =>
      rw [documents] at selected
      refine ⟨error, fun options => ?_, ?_⟩
      · rw [find, Collection.find, selected]
        rfl
      · rw [count, Collection.count, selected]
        rfl

variable (store place filter)

/-! ## The operations -/

theorem run_backend_find (options : FindOptions) (ids : IdSource) :
    (backend.find place filter options).run.run ⟨store, ids⟩ =
      (store.find place filter options, ⟨store, ids⟩) := rfl

theorem run_backend_count (ids : IdSource) :
    (backend.count place filter).run.run ⟨store, ids⟩ =
      (store.count place filter, ⟨store, ids⟩) := rfl

/-- Reading the first document is reading a list of one at most. -/
theorem run_backend_findOne (options : FindOptions) (ids : IdSource) :
    (backend.findOne place filter options).run.run ⟨store, ids⟩ =
      ((store.find place filter (options.limited 1)).map List.head?, ⟨store, ids⟩) := by
  rw [Backend.findOne, run_bind, run_backend_find]
  cases store.find place filter (options.limited 1) <;> rfl

variable {store place filter}

/-- The first document of a read is the only one of a read that is limited to one. -/
theorem find_limited_one (evaluates : store.Evaluates place filter) :
    (store.find place filter (Access.newestFirst.limited 1)).map List.head? =
      (store.find place filter Access.newestFirst).map List.head? := by
  rw [find_eq evaluates, find_eq evaluates]
  show Except.ok ((Sorting.sorted _ _).take 1).head? = Except.ok (Sorting.sorted _ _).head?
  rw [List.head?_take, if_neg Nat.one_ne_zero]
  rfl

/-- **Reads of dated documents are complete and newest first.** A read finds all documents
that match, those of one instant in the order of their insertion and those without a time
of creation at the end. Reading one document finds the first of these, and counting counts
them. -/
theorem reads_newest_first (dated : ∀ document ∈ store.documents place, document.IsDated)
    (evaluates : store.Evaluates place filter) :
    ∃ found, Document.NewestFirst (store.matching place filter) found ∧ ∀ ids,
      (backend.find place filter Access.newestFirst).run.run ⟨store, ids⟩ =
          (.ok found, ⟨store, ids⟩) ∧
        (backend.findOne place filter Access.newestFirst).run.run ⟨store, ids⟩ =
          (.ok found.head?, ⟨store, ids⟩) ∧
        (backend.count place filter).run.run ⟨store, ids⟩ =
          (.ok found.length, ⟨store, ids⟩) := by
  have matchingDated : ∀ document ∈ store.matching place filter, document.IsDated :=
    fun document isMatching => dated document (List.mem_of_mem_filter isMatching)
  have newestFirst := Sorting.newestFirst_sorted matchingDated
  have found : store.find place filter Access.newestFirst = _ := find_eq evaluates _
  refine ⟨_, newestFirst, fun ids => ⟨?_, ?_, ?_⟩⟩
  · rw [run_backend_find, found]
    rfl
  · rw [run_backend_findOne, find_limited_one evaluates, found]
    rfl
  · rw [run_backend_count, count_eq evaluates, newestFirst.complete.length_eq]

/-- Five documents. The first and the third were created at one instant, which they tell in
different time zones; of the second and the fourth it is not known when. -/
def entries : List Document :=
  [ [("_id", .string "a"), ("created_at", .string "2024-01-01T00:00:00Z")],
    [("_id", .string "b")],
    [("_id", .string "c"), ("created_at", .string "2024-01-01T02:00:00.000+02:00")],
    [("_id", .string "d"), ("created_at", .null)],
    [("_id", .string "e"), ("created_at", .string "2024-01-01T00:00:00.5Z")] ]

/-- A store of these documents. -/
def diary : MemoryStore :=
  ⟨[("test.diary", ⟨entries, []⟩)]⟩

/-- The same from the newest to the oldest. -/
def entriesNewestFirst : List Document :=
  [ [("_id", .string "e"), ("created_at", .string "2024-01-01T00:00:00.5Z")],
    [("_id", .string "a"), ("created_at", .string "2024-01-01T00:00:00Z")],
    [("_id", .string "c"), ("created_at", .string "2024-01-01T02:00:00.000+02:00")],
    [("_id", .string "b")],
    [("_id", .string "d"), ("created_at", .null)] ]

theorem reads_newest_first_diary :
    Document.NewestFirst (diary.matching ⟨"test", "diary"⟩ Document.live) entriesNewestFirst ∧
      ∀ ids,
        (backend.find ⟨"test", "diary"⟩ Document.live Access.newestFirst).run.run
            ⟨diary, ids⟩ = (.ok entriesNewestFirst, ⟨diary, ids⟩) ∧
          (backend.findOne ⟨"test", "diary"⟩ Document.live Access.newestFirst).run.run
              ⟨diary, ids⟩ = (.ok entriesNewestFirst.head?, ⟨diary, ids⟩) ∧
          (backend.count ⟨"test", "diary"⟩ Document.live).run.run ⟨diary, ids⟩ =
            (.ok entriesNewestFirst.length, ⟨diary, ids⟩) := by
  have dated : ∀ document ∈ diary.documents ⟨"test", "diary"⟩, document.IsDated := by
    show ∀ document ∈ entries, document.IsDated
    simp only [entries, List.forall_mem_cons]
    refine ⟨?_, ?_, ?_, ?_, ?_, List.forall_mem_nil _⟩
    · exact .timestamp _ (UnixTime.ofMillis 1704067200000).instant rfl (by decide +kernel)
    · exact .missing rfl
    · exact .timestamp _ (UnixTime.ofMillis 1704067200000).instant rfl (by decide +kernel)
    · exact .null rfl
    · exact .timestamp _ (UnixTime.ofMillis 1704067200500).instant rfl (by decide +kernel)
  obtain ⟨found, newestFirst, reads⟩ :=
    reads_newest_first dated (diary.evaluates_live ⟨"test", "diary"⟩)
  have isFound : found = entriesNewestFirst := by
    have answer : diary.find ⟨"test", "diary"⟩ Document.live Access.newestFirst =
        .ok entriesNewestFirst := by
      decide +kernel
    have ran := (reads (IdSource.fromMillis 0)).1
    rw [run_backend_find, answer] at ran
    exact (Except.ok.inj (Prod.mk.inj ran).1).symm
  rw [← isFound]
  exact ⟨newestFirst, reads⟩

end MemoryStore

end Docket
