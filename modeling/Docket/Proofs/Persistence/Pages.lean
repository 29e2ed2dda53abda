import Docket.Proofs.Persistence.Running
import Docket.Proofs.Store.Reads
import Mathlib.Algebra.Order.Floor.Div
import Mathlib.Data.List.Forall2

/-!
# Pages tile what a read finds

A page has the records from the product of its number and its size up to the product for
the next page. These products are cut off at the ends of the integers of 64 bits, which
does not matter in a collection of fewer than 2^63 documents: what is cut off lies behind
all records (`drop_saturated`, `saturated_lt_iff`). So a page is a slice of what a read
without pages finds (`part_paging`), and a page has more behind it if and only if the next
slice has records (`hasMore_iff`).

Slices that are put together are an initial part of the list (`flatMap_slice`), and the
whole list when no record is left (`exists_last_slice`). Reading a page skips and limits
stored documents before they are decoded. Since all of them decode, this is a slice of the
decoded ones (`decodeAll_slice`), and the pages of a collection tile what a read finds
(`paging_tiles`).
-/

set_option autoImplicit false

namespace Docket

/-! ## Products that are cut off -/

theorem saturated_of_mem {value : Int} (least : -0x8000000000000000 ≤ value)
    (greatest : value < 0x8000000000000000) : saturated value = value := by
  rw [saturated, if_neg (by omega), if_neg (by omega)]

/-- Cutting off does not matter to a comparison with a count of 64 bits. -/
theorem saturated_lt_iff (value : Int) {total : Nat} (few : total < 0x8000000000000000) :
    saturated value < total ↔ value < total := by
  unfold saturated
  split
  · omega
  · split <;> omega

/-- Cutting off does not matter to what is left of a list of fewer than 2^63 items. -/
theorem drop_saturated {α : Type} (value : Int) {items : List α}
    (few : items.length < 0x8000000000000000) :
    items.drop (saturated value).toNat = items.drop value.toNat := by
  unfold saturated
  split
  · rw [Int.toNat_of_nonpos (by omega), Int.toNat_of_nonpos (by omega)]
  · split
    · rw [List.drop_eq_nil_of_le (by omega), List.drop_eq_nil_of_le (by omega)]
    · rfl

namespace PageRequest

/-- The page is counted from 0 and has room for a record. -/
structure IsProper (request : PageRequest) : Prop where
  page : 0 ≤ request.page
  count : 1 ≤ request.count

/-- The request for the page behind. -/
def next (request : PageRequest) : PageRequest :=
  ⟨request.page + 1, request.count⟩

variable {α : Type}

/-- The items of a list that belong on a page. -/
def slice (request : PageRequest) (items : List α) : List α :=
  items.extract (request.page * request.count).toNat
    ((request.page + 1) * request.count).toNat

theorem IsProper.next {request : PageRequest} (proper : request.IsProper) :
    request.next.IsProper :=
  ⟨Int.add_nonneg proper.page Int.one_nonneg, proper.count⟩

/-- A proper request has natural numbers. -/
theorem IsProper.exists_nat {request : PageRequest} (proper : request.IsProper) :
    ∃ page count : Nat, request = ⟨page, count⟩ ∧ 0 < count := by
  obtain ⟨page, isPage⟩ := Int.eq_ofNat_of_zero_le proper.page
  obtain ⟨count, isCount⟩ := Int.eq_ofNat_of_zero_le (Int.le_trans Int.one_nonneg proper.count)
  have positive := proper.count
  cases request
  subst isPage isCount
  exact ⟨page, count, rfl, Int.ofNat_le.mp positive⟩

/-! ## Slices -/

theorem slice_natCast (page count : Nat) (items : List α) :
    (⟨page, count⟩ : PageRequest).slice items = (items.drop (page * count)).take count := by
  have start : ((page : Int) * count).toNat = page * count := by
    rw [← Int.natCast_mul, Int.toNat_natCast]
  have stop : (((page : Int) + 1) * count).toNat = page * count + count := by
    rw [← Int.natCast_succ, ← Int.natCast_mul, Int.toNat_natCast, Nat.succ_mul]
  rw [slice, start, stop, List.extract_eq_take_drop, Nat.add_sub_cancel_left]

/-- A page has records if and only if it begins before the end. -/
theorem slice_ne_nil_iff {request : PageRequest} (proper : request.IsProper) (items : List α) :
    request.slice items ≠ [] ↔ request.page * request.count < items.length := by
  obtain ⟨page, count, rfl, positive⟩ := proper.exists_nat
  rw [slice_natCast, Ne, List.take_eq_nil_iff, List.drop_eq_nil_iff]
  show _ ↔ (page : Int) * count < items.length
  rw [← Int.natCast_mul, Int.ofNat_lt]
  omega

/-- Slices that are put together are an initial part. -/
theorem flatMap_slice (count pages : Nat) (items : List α) :
    (List.range pages).flatMap (fun page : Nat => (⟨page, count⟩ : PageRequest).slice items) =
      items.take (pages * count) := by
  induction pages with
  | zero => simp
  | succ pages ih =>
      rw [List.range_succ, List.flatMap_append, ih, List.flatMap_singleton, slice_natCast,
        Nat.succ_mul, List.take_add]

/-- **The slices up to the last one that has items are the whole list.** -/
theorem exists_last_slice {count : Int} (positive : 1 ≤ count) (items : List α) :
    ∃ last : Nat,
      (∀ page : Nat, (⟨page, count⟩ : PageRequest).slice items ≠ [] ↔ page < last) ∧
      (List.range last).flatMap (fun page : Nat => (⟨page, count⟩ : PageRequest).slice items) =
        items := by
  obtain ⟨size, rfl⟩ := Int.eq_ofNat_of_zero_le (Int.le_trans Int.one_nonneg positive)
  have sizePositive : 0 < size := Int.ofNat_le.mp positive
  refine ⟨items.length ⌈/⌉ size, fun page => ?_, ?_⟩
  · have begins : page < items.length ⌈/⌉ size ↔ size * page < items.length := by
      rw [← not_le, ceilDiv_le_iff_le_mul sizePositive, not_le]
    rw [slice_ne_nil_iff ⟨Int.natCast_nonneg page, positive⟩, begins, Nat.mul_comm,
      ← Int.ofNat_lt, Int.natCast_mul]
  · have covered : items.length ≤ size * (items.length ⌈/⌉ size) :=
      (ceilDiv_le_iff_le_mul sizePositive).mp le_rfl
    rw [flatMap_slice, Nat.mul_comm, List.take_of_length_le covered]

end PageRequest

/-- **A page has more behind it if and only if the next page has records.** Where the number of
the next page is cut off, both begin behind the last record. -/
theorem Page.hasMore_iff {α : Type} {request : PageRequest} (proper : request.IsProper)
    {items : List α} (few : items.length < 0x8000000000000000) (onPage : List α) :
    (Page.ofRequest request items.length onPage).hasMore = true ↔
      request.next.slice items ≠ [] := by
  rw [PageRequest.slice_ne_nil_iff proper.next, Page.hasMore, decide_eq_true_iff]
  show saturated (saturated (request.page + 1) * request.count) < items.length ↔
    (request.page + 1) * request.count < items.length
  rw [saturated_lt_iff _ few]
  have fromZero := proper.page
  by_cases fits : request.page + 1 < 0x8000000000000000
  · rw [saturated_of_mem (by omega) fits]
  · have last : saturated (request.page + 1) = 0x7FFFFFFFFFFFFFFF := by
      rw [saturated, if_neg (by omega), if_pos (by omega)]
    have grows : ∀ page : Int, 0x7FFFFFFFFFFFFFFF ≤ page →
        ¬ page * request.count < items.length := by
      intro page large
      have atLeast : page * 1 ≤ page * request.count :=
        Int.mul_le_mul_of_nonneg_left proper.count (by omega)
      omega
    rw [last]
    exact iff_of_false (grows _ le_rfl) (grows _ (by omega))

namespace Access

/-- **The part of a read that is a page is a slice.** -/
theorem part_pageOptions {α : Type} {request : PageRequest} (proper : request.IsProper)
    {items : List α} (few : items.length < 0x8000000000000000) :
    (pageOptions request).part items = request.slice items := by
  obtain ⟨page, count, rfl, positive⟩ := proper.exists_nat
  have product : ((page : Int) * count).toNat = page * count := by
    rw [← Int.natCast_mul, Int.toNat_natCast]
  have sized : (count : Int) ≠ 0 := by omega
  show (if (count : Int) = 0 then items.drop (saturated ((page : Int) * count)).toNat
    else (items.drop (saturated ((page : Int) * count)).toNat).take (count : Int).natAbs) = _
  rw [if_neg sized, drop_saturated _ few, product, Int.natAbs_natCast,
    PageRequest.slice_natCast]

variable {model : ModelType} {place : Namespace}

/-! ## Decoding -/

/-- Decoding is done document by document. -/
theorem decodeAll_eq_ok_iff {operation : StoreOperation} {documents : List Document}
    {records : List model.Value} :
    (inMemory model place).decodeAll operation documents = .ok records ↔
      List.Forall₂ (fun document record =>
        (inMemory model place).decode operation document = .ok record) documents records := by
  rw [decodeAll]
  induction documents generalizing records with
  | nil => cases records <;> simp [pure, Except.pure]
  | cons document rest ih =>
      rw [List.mapM_cons]
      cases here : (inMemory model place).decode operation document with
      | error failure => cases records <;> simp [bind, Except.bind, here]
      | ok record =>
          cases behind : rest.mapM ((inMemory model place).decode operation) with
          | error failure => cases records <;> simp [bind, Except.bind, here, ← ih, behind]
          | ok others =>
              cases records <;> simp [bind, Except.bind, pure, Except.pure, here, ← ih, behind]

theorem exists_decodeAll {operation : StoreOperation} {documents : List Document}
    (decodes : ∀ document ∈ documents, ∃ record,
      (inMemory model place).decode operation document = .ok record) :
    ∃ records, (inMemory model place).decodeAll operation documents = .ok records := by
  simp only [decodeAll_eq_ok_iff]
  induction documents with
  | nil => exact ⟨[], List.Forall₂.nil⟩
  | cons document rest ih =>
      obtain ⟨record, here⟩ := decodes document List.mem_cons_self
      obtain ⟨others, behind⟩ := ih fun other isOther =>
        decodes other (List.mem_cons_of_mem document isOther)
      exact ⟨record :: others, List.Forall₂.cons here behind⟩

/-- A slice of what decodes decodes to the slice of the records. -/
theorem decodeAll_slice {operation : StoreOperation} {documents : List Document}
    {records : List model.Value}
    (decoded : (inMemory model place).decodeAll operation documents = .ok records)
    (request : PageRequest) :
    (inMemory model place).decodeAll operation (request.slice documents) =
      .ok (request.slice records) := by
  rw [decodeAll_eq_ok_iff] at decoded ⊢
  rw [PageRequest.slice, PageRequest.slice, List.extract_eq_take_drop, List.extract_eq_take_drop]
  exact List.forall₂_take _ (List.forall₂_drop _ decoded)

variable {world : World MemoryStore}

/-- **The pages of a collection tile what a read finds.** As long as nothing is written,
each page is its slice of what a read without pages finds and tells its length, it has
more behind it if and only if the next page has records, and the pages up to the last one
that has records are, one after another, all that was found. -/
theorem paging_tiles {filter : Document}
    (few : (world.store.documents place).length < 0x8000000000000000)
    (decodes : ∀ document ∈ world.store.documents place, ∃ record,
      (inMemory model place).decode .find document = .ok record)
    (evaluates : world.store.Evaluates place filter) :
    ∃ records : List model.Value,
      (∀ later : World MemoryStore, later.store = world.store →
        (((inMemory model place).find filter).run.run later).1 = .ok records) ∧
      (∀ request : PageRequest, request.IsProper →
        (∀ later : World MemoryStore, later.store = world.store →
          (((inMemory model place).paging filter request).run.run later).1 =
              .ok (request.slice records, (records.length : Int)) ∧
            (((inMemory model place).paging filter request).run.run later).2.store =
              world.store) ∧
        ((Page.ofRequest request records.length (request.slice records)).hasMore = true ↔
          request.next.slice records ≠ [])) ∧
      ∀ count : Int, 1 ≤ count → ∃ last : Nat,
        (∀ page : Nat, (⟨page, count⟩ : PageRequest).slice records ≠ [] ↔ page < last) ∧
          (List.range last).flatMap
            (fun page : Nat => (⟨page, count⟩ : PageRequest).slice records) = records := by
  set found := Sorting.sorted newestFirst.sort (world.store.matching place filter)
  have shuffled : found.Perm (world.store.matching place filter) := Sorting.sorted_perm _ _
  have foundDecodes : ∀ document ∈ found, ∃ record,
      (inMemory model place).decode .find document = .ok record :=
    fun document isFound =>
      decodes document (List.mem_of_mem_filter (shuffled.mem_iff.mp isFound))
  obtain ⟨records, decoded⟩ := exists_decodeAll foundDecodes
  have sameLength : records.length = found.length :=
    (decodeAll_eq_ok_iff.mp decoded).length_eq.symm
  have fewFound : found.length < 0x8000000000000000 := by
    rw [shuffled.length_eq]
    exact lt_of_le_of_lt (List.length_filter_le _ _) few
  have fewRecords : records.length < 0x8000000000000000 := sameLength ▸ fewFound
  refine ⟨records, fun later same => ?_, fun request proper => ⟨fun later same => ?_, ?_⟩,
    fun count positive => PageRequest.exists_last_slice positive records⟩
  · rw [run_find, same, MemoryStore.find_eq evaluates]
    exact decoded
  · have pageFound : world.store.find place filter (pageOptions request) =
        .ok (request.slice found) := by
      rw [MemoryStore.find_eq evaluates]
      exact congrArg Except.ok (part_pageOptions proper fewFound)
    rw [run_paging, same, pageFound, MemoryStore.count_eq evaluates, ← shuffled.length_eq,
      ← sameLength]
    refine ⟨?_, same⟩
    show (((inMemory model place).decodeAll .find (request.slice found)).bind _) = _
    rw [decodeAll_slice decoded]
    show Except.ok (request.slice records, saturated records.length) = _
    rw [saturated_of_mem (by omega) (by omega)]
  · exact Page.hasMore_iff proper fewRecords _

/-! ## Three notes on two pages -/

/-- The document of a note of a number, which was created on 1 May 2024. -/
def mayDocument (number : Nat) (title : String) : Document :=
  Specimen.noteDocument (RecordId.minted 0 number) title "2024-05-01T00:00:00.000Z"

/-- A world with three notes that were created at one instant. -/
def threeNotes : World MemoryStore :=
  Specimen.holding [mayDocument 1 "first", mayDocument 2 "second", mayDocument 3 "third"]

theorem paging_tiles_threeNotes :
    ∃ first second third : Specimen.noteModel.Value,
      (((inMemory Specimen.noteModel ⟨"test", "notes"⟩).paging Document.live
          ⟨0, 2⟩).run.run threeNotes).1 = .ok ([first, second], 3) ∧
        (((inMemory Specimen.noteModel ⟨"test", "notes"⟩).paging Document.live
          ⟨1, 2⟩).run.run threeNotes).1 = .ok ([third], 3) ∧
        (Page.ofRequest ⟨0, 2⟩ 3 [first, second]).hasMore = true ∧
        (Page.ofRequest ⟨1, 2⟩ 3 [third]).hasMore = false := by
  have few : (threeNotes.store.documents ⟨"test", "notes"⟩).length < 0x8000000000000000 := by
    decide
  have decodes : ∀ document ∈ threeNotes.store.documents ⟨"test", "notes"⟩, ∃ record,
      (inMemory Specimen.noteModel ⟨"test", "notes"⟩).decode .find document = .ok record := by
    intro document isStored
    have succeeds : ∀ document ∈ threeNotes.store.documents ⟨"test", "notes"⟩,
        ((inMemory Specimen.noteModel ⟨"test", "notes"⟩).decode .find document).isOk =
          true := by
      decide +kernel
    have succeeded := succeeds document isStored
    cases decoded : (inMemory Specimen.noteModel ⟨"test", "notes"⟩).decode .find document with
    | error failure =>
        rw [decoded] at succeeded
        cases succeeded
    | ok record => exact ⟨record, rfl⟩
  obtain ⟨records, _, pages, _⟩ :=
    paging_tiles few decodes (threeNotes.store.evaluates_live ⟨"test", "notes"⟩)
  have firstPage := pages ⟨0, 2⟩ ⟨le_rfl, by decide⟩
  have secondPage := pages ⟨1, 2⟩ ⟨by decide, by decide⟩
  have three : records.length = 3 := by
    have total : ((((inMemory Specimen.noteModel ⟨"test", "notes"⟩).paging Document.live
        ⟨0, 2⟩).run.run threeNotes).1.toOption.map Prod.snd) = some 3 := by
      decide +kernel
    rw [(firstPage.1 threeNotes rfl).1] at total
    exact Int.ofNat_inj.mp (Option.some.inj total)
  obtain ⟨first, second, third, rfl⟩ := List.length_eq_three.mp three
  refine ⟨first, second, third, (firstPage.1 threeNotes rfl).1, (secondPage.1 threeNotes rfl).1,
    ?_, ?_⟩
  · exact firstPage.2.mpr (List.cons_ne_nil third [])
  · exact Bool.eq_false_iff.mpr fun more => secondPage.2.mp more rfl

end Access

end Docket
