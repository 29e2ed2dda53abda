import Docket.Proofs.Persistence.Pages

/-!
# Walking through pages

A client reads page after page, from page 0 on, for as long as pages tell that there is
more behind them. Others may write in between, so every page is read in a world of its
own, and nothing is known of how these worlds are related.

If the size of the pages is positive, the walk ends all the same. A page tells of more
only if the next page begins before the total (`lt_of_hasMore`), and a total is an integer
of 64 bits. Such a page has no more records than it was asked for.

Sizes are not checked on their way to the store, and there a size of zero is no limit and
the sign of a size does not count. So for a size of zero or less the first page has more
records than asked for as soon as it has any, and the walk never ends
(`pages_within_count`). A client that asks for pages of size 0 reads the whole collection
again and again (`threeNotes_pagesOfNone`).
-/

set_option autoImplicit false

namespace Docket

theorem saturated_eq_max_min (value : Int) :
    saturated value = max (-0x8000000000000000) (min value 0x7FFFFFFFFFFFFFFF) := by
  unfold saturated
  split
  · omega
  · split <;> omega

theorem saturated_le (value : Int) : saturated value ≤ 0x7FFFFFFFFFFFFFFF := by
  rw [saturated_eq_max_min]
  omega

/-- What is below a total is not cut off at the upper end. -/
theorem lt_of_saturated_lt {value total : Int} (small : total ≤ 0x7FFFFFFFFFFFFFFF)
    (less : saturated value < total) : value < total := by
  rw [saturated_eq_max_min] at less
  omega

namespace Page

variable {α : Type} {request : PageRequest} {total : Int} {items : List α}

/-- **A page tells of more only if the next page begins before the total.** -/
theorem lt_of_hasMore (proper : request.IsProper) (small : total ≤ 0x7FFFFFFFFFFFFFFF)
    (more : (ofRequest request total items).hasMore = true) :
    (request.page + 1) * request.count < total := by
  have fromZero := proper.page
  have less : saturated (request.page + 1) * request.count < total :=
    lt_of_saturated_lt small (of_decide_eq_true more)
  have next : saturated (request.page + 1) ≤ saturated (request.page + 1) * request.count := by
    have notNegative : 0 ≤ saturated (request.page + 1) := by
      rw [saturated_eq_max_min]
      omega
    have widened := Int.mul_le_mul_of_nonneg_left proper.count notNegative
    rwa [Int.mul_one] at widened
  have uncut : saturated (request.page + 1) = request.page + 1 := by
    have below := lt_of_saturated_lt small (Int.lt_of_le_of_lt next less)
    exact saturated_of_mem (by omega) (by omega)
  rwa [uncut] at less

/-- A page of no positive size tells of more if there are any records. -/
theorem hasMore_of_nonpositive (fromZero : 0 ≤ request.page) (sized : request.count ≤ 0)
    (some : 0 < total) : (ofRequest request total items).hasMore = true := by
  have notNegative : 0 ≤ saturated (request.page + 1) := by
    rw [saturated_eq_max_min]
    omega
  have product : saturated (request.page + 1) * request.count ≤ 0 :=
    Int.mul_nonpos_of_nonneg_of_nonpos notNegative sized
  refine decide_eq_true ?_
  show saturated (saturated (request.page + 1) * request.count) < total
  rw [saturated_eq_max_min (saturated (request.page + 1) * request.count)]
  omega

end Page

/-- A part has at most as many items as its limit says, if it has one. -/
theorem FindOptions.length_part_le {α : Type} {options : FindOptions} {limit : Int}
    (limited : options.limit = some limit) (sized : limit ≠ 0) (items : List α) :
    (options.part items).length ≤ limit.natAbs := by
  rw [part, limited]
  dsimp only
  rw [if_neg sized]
  exact List.length_take_le _ _

namespace Access

variable {model : ModelType} {place : Namespace}

section

variable {world : World MemoryStore} {filter : Document} {request : PageRequest}

/-- The documents that a page is decoded from. -/
def onPage (store : MemoryStore) (place : Namespace) (filter : Document)
    (request : PageRequest) : List Document :=
  (pageOptions request).part (Sorting.sorted newestFirst.sort (store.matching place filter))

/-- A page that was read has the records of its documents and the number of all. -/
theorem of_run_paging {records : List model.Value} {total : Int}
    (answered : (((inMemory model place).paging filter request).run.run world).1 =
      .ok (records, total)) :
    (inMemory model place).decodeAll .find (onPage world.store place filter request) =
        .ok records ∧
      total = saturated (world.store.matching place filter).length := by
  have evaluates : world.store.Evaluates place filter := by
    by_contra notEvaluates
    obtain ⟨error, fails, _⟩ := MemoryStore.fails_of_not_evaluates notEvaluates
    rw [run_paging, fails] at answered
    cases answered
  rw [run_paging, MemoryStore.find_eq evaluates, MemoryStore.count_eq evaluates] at answered
  change (((inMemory model place).decodeAll .find
    (onPage world.store place filter request)).bind _) = _ at answered
  cases decoded : (inMemory model place).decodeAll .find
      (onPage world.store place filter request) with
  | error failure =>
      rw [decoded] at answered
      cases answered
  | ok found =>
      rw [decoded] at answered
      obtain ⟨rfl, rfl⟩ := Prod.mk.inj (Except.ok.inj answered)
      exact ⟨rfl, rfl⟩

/-- The first page of any collection with a match has a record, whatever its size. -/
theorem length_onPage_pos {count : Int} {store : MemoryStore}
    (some : 0 < (store.matching place filter).length) :
    0 < (onPage store place filter ⟨0, count⟩).length := by
  have found : 0 < (Sorting.sorted newestFirst.sort (store.matching place filter)).length := by
    rwa [(Sorting.sorted_perm _ _).length_eq]
  have skipped : (pageOptions ⟨0, count⟩).skip.getD 0 = 0 := by
    show (saturated (0 * count)).toNat = 0
    rw [Int.zero_mul]
    rfl
  rw [onPage, FindOptions.part, skipped, List.drop_zero]
  change 0 < List.length (if count = 0 then _ else List.take count.natAbs _)
  split
  · exact found
  · rw [List.length_take]
    omega

end

/-! ## Walks -/

/-- A page is read, and it tells that there is more behind it. -/
def TellsMore (model : ModelType) (place : Namespace) (filter : Document)
    (request : PageRequest) (world : World MemoryStore) : Prop :=
  ∃ records total,
    (((inMemory model place).paging filter request).run.run world).1 = .ok (records, total) ∧
      (Page.ofRequest request total records).hasMore = true

variable {filter : Document}

/-- A page of positive size that tells of more ends before the last match. -/
theorem TellsMore.lt {world : World MemoryStore} {request : PageRequest}
    (more : TellsMore model place filter request world) (proper : request.IsProper) :
    (request.page + 1) * request.count <
      saturated (world.store.matching place filter).length := by
  obtain ⟨records, total, answered, hasMore⟩ := more
  obtain ⟨_, rfl⟩ := of_run_paging answered
  exact Page.lt_of_hasMore proper (saturated_le _) hasMore

section

variable {world : World MemoryStore} (evaluates : world.store.Evaluates place filter)
  (decodes : ∀ document ∈ world.store.documents place, ∃ record,
    (inMemory model place).decode .find document = .ok record)

include evaluates decodes

variable (model) in
/-- A page is read if the filter can be evaluated and what is stored decodes. -/
theorem exists_run_paging (request : PageRequest) :
    ∃ records, (((inMemory model place).paging filter request).run.run world).1 =
        .ok (records, saturated (world.store.matching place filter).length) ∧
      records.length = (onPage world.store place filter request).length := by
  have stored : ∀ document ∈ onPage world.store place filter request,
      document ∈ world.store.documents place := fun document isFound =>
    List.mem_of_mem_filter
      ((Sorting.sorted_perm _ _).mem_iff.mp (FindOptions.mem_of_mem_part isFound))
  have found : ∀ document ∈ onPage world.store place filter request, ∃ record,
      (inMemory model place).decode .find document = .ok record :=
    fun document isFound => decodes document (stored document isFound)
  obtain ⟨records, decoded⟩ := exists_decodeAll found
  refine ⟨records, ?_, (decodeAll_eq_ok_iff.mp decoded).length_eq.symm⟩
  rw [run_paging, MemoryStore.find_eq evaluates, MemoryStore.count_eq evaluates]
  change (((inMemory model place).decodeAll .find
    (onPage world.store place filter request)).bind _) = _
  rw [decoded]
  rfl

/-- The first page of no positive size is larger than asked for if there is any match. -/
theorem exists_larger_page {count : Int} (sized : count ≤ 0)
    (some : 0 < (world.store.matching place filter).length) :
    ∃ records total,
      (((inMemory model place).paging filter ⟨0, count⟩).run.run world).1 =
        .ok (records, total) ∧ max count 0 < records.length := by
  obtain ⟨records, answered, sameLength⟩ :=
    exists_run_paging model evaluates decodes ⟨0, count⟩
  have atLeastOne : 0 < (onPage world.store place filter ⟨0, count⟩).length :=
    length_onPage_pos some
  exact ⟨records, _, answered, by omega⟩

/-- Pages of no positive size tell of more if there is any match. -/
theorem tellsMore_of_nonpositive {count : Int} (sized : count ≤ 0)
    (some : 0 < (world.store.matching place filter).length) (page : Nat) :
    TellsMore model place filter ⟨page, count⟩ world := by
  obtain ⟨records, answered, _⟩ :=
    exists_run_paging model evaluates decodes ⟨page, count⟩
  refine ⟨records, _, answered, Page.hasMore_of_nonpositive (Int.natCast_nonneg page) sized ?_⟩
  rw [saturated_eq_max_min]
  omega

end

variable (model place filter) in
/-- **Every walk ends**, whatever is written between its pages. -/
theorem exists_last_page {count : Int} (positive : 1 ≤ count)
    (worlds : Nat → World MemoryStore) :
    ∃ last : Nat,
      (∀ page < last, TellsMore model place filter ⟨page, count⟩ (worlds page)) ∧
      ¬ TellsMore model place filter ⟨last, count⟩ (worlds last) := by
  classical
  have ends : ∃ page : Nat, ¬ TellsMore model place filter ⟨page, count⟩ (worlds page) := by
    refine ⟨0x8000000000000000, fun more => ?_⟩
    have less := more.lt ⟨Int.natCast_nonneg _, positive⟩
    have bounded := saturated_le ((worlds 0x8000000000000000).store.matching place filter).length
    have widened : (0x8000000000000000 + 1 : Int) * 1 ≤ (0x8000000000000000 + 1) * count :=
      Int.mul_le_mul_of_nonneg_left positive (by decide)
    dsimp only at less
    omega
  exact ⟨Nat.find ends, fun page earlier => not_not.mp (Nat.find_min ends earlier),
    Nat.find_spec ends⟩

/-- **Pages keep to their size, and walks through them end, for positive sizes and for no
others.** A page of positive size has at most so many records. A client that reads such
pages one after another, for as long as they tell of more, comes to an end, whatever is
written in between, and each page before the last ended before the last match there was.
For any other size, as soon as there is a match the first page is larger than asked for,
and all pages tell of more. -/
theorem pages_within_count (model : ModelType) (place : Namespace) (filter : Document)
    (count : Int) :
    (0 < count →
      (∀ (world : World MemoryStore) (page : Int) (records : List model.Value) (total : Int),
        (((inMemory model place).paging filter ⟨page, count⟩).run.run world).1 =
          .ok (records, total) → records.length ≤ count) ∧
      ∀ worlds : Nat → World MemoryStore, ∃ last : Nat,
        (∀ page < last, TellsMore model place filter ⟨page, count⟩ (worlds page) ∧
          (page + 1) * count < ((worlds page).store.matching place filter).length) ∧
        ¬ TellsMore model place filter ⟨last, count⟩ (worlds last)) ∧
    (count ≤ 0 → ∀ world : World MemoryStore, world.store.Evaluates place filter →
      (∀ document ∈ world.store.documents place, ∃ record,
        (inMemory model place).decode .find document = .ok record) →
      0 < (world.store.matching place filter).length →
      (∃ records total,
        (((inMemory model place).paging filter ⟨0, count⟩).run.run world).1 =
          .ok (records, total) ∧ max count 0 < records.length) ∧
      ∀ page : Nat, TellsMore model place filter ⟨page, count⟩ world) := by
  refine ⟨fun positive => ⟨fun world page records total answered => ?_, fun worlds => ?_⟩,
    fun sized world evaluates decodes some =>
      ⟨exists_larger_page evaluates decodes sized some,
        tellsMore_of_nonpositive evaluates decodes sized some⟩⟩
  · have sameLength := (decodeAll_eq_ok_iff.mp (of_run_paging answered).1).length_eq
    have limited : (pageOptions ⟨page, count⟩).limit = some count := rfl
    have few := FindOptions.length_part_le limited positive.ne'
      (Sorting.sorted newestFirst.sort (world.store.matching place filter))
    rw [onPage] at sameLength
    show (records.length : Int) ≤ count
    change _ ≤ count.natAbs at few
    omega
  · obtain ⟨last, earlier, ends⟩ :=
      exists_last_page model place filter positive worlds
    refine ⟨last, fun page before => ⟨earlier page before, ?_⟩, ends⟩
    have less := (earlier page before).lt ⟨Int.natCast_nonneg page, positive⟩
    rw [saturated_eq_max_min] at less
    dsimp only at less
    omega

theorem threeNotes_decode (document : Document)
    (isStored : document ∈ threeNotes.store.documents ⟨"test", "notes"⟩) : ∃ record,
      (inMemory Specimen.noteModel ⟨"test", "notes"⟩).decode .find document = .ok record := by
  have succeeds : ∀ document ∈ threeNotes.store.documents ⟨"test", "notes"⟩,
      ((inMemory Specimen.noteModel ⟨"test", "notes"⟩).decode .find document).isOk = true := by
    decide +kernel
  have succeeded := succeeds document isStored
  cases decoded : (inMemory Specimen.noteModel ⟨"test", "notes"⟩).decode .find document with
  | error failure =>
      rw [decoded] at succeeded
      cases succeeded
  | ok record => exact ⟨record, rfl⟩

theorem pages_within_count_threeNotes :
    (0 : Int) < 2 ∧
      (∃ records total,
        (((inMemory Specimen.noteModel ⟨"test", "notes"⟩).paging Document.live
          ⟨0, 2⟩).run.run threeNotes).1 = .ok (records, total) ∧
            (records.length : Int) ≤ 2) ∧
      (∃ last : Nat,
        ¬ TellsMore Specimen.noteModel ⟨"test", "notes"⟩ Document.live ⟨last, 2⟩
          threeNotes) ∧
      TellsMore Specimen.noteModel ⟨"test", "notes"⟩ Document.live ⟨7, -1⟩ threeNotes := by
  have evaluates := threeNotes.store.evaluates_live ⟨"test", "notes"⟩
  obtain ⟨keeps, ends⟩ :=
    (pages_within_count Specimen.noteModel ⟨"test", "notes"⟩ Document.live 2).1 (by decide)
  have exceeds :=
    (pages_within_count Specimen.noteModel ⟨"test", "notes"⟩ Document.live (-1)).2 (by decide)
      threeNotes evaluates threeNotes_decode (by decide +kernel)
  obtain ⟨records, answered, _⟩ :=
    exists_run_paging Specimen.noteModel evaluates threeNotes_decode ⟨0, 2⟩
  obtain ⟨last, _, ended⟩ := ends fun _ => threeNotes
  exact ⟨by decide, ⟨records, _, answered, keeps threeNotes 0 records _ answered⟩,
    ⟨last, ended⟩, exceeds.2 7⟩

/-- Pages of size 0 have all three notes, and tell of more for ever. -/
theorem threeNotes_pagesOfNone :
    (∃ records total,
      (((inMemory Specimen.noteModel ⟨"test", "notes"⟩).paging Document.live
        ⟨0, 0⟩).run.run threeNotes).1 = .ok (records, total) ∧
          max (0 : Int) 0 < records.length) ∧
      ∀ page : Nat,
        TellsMore Specimen.noteModel ⟨"test", "notes"⟩ Document.live ⟨page, 0⟩
          threeNotes := by
  have evaluates := threeNotes.store.evaluates_live ⟨"test", "notes"⟩
  have some : 0 < (threeNotes.store.matching ⟨"test", "notes"⟩ Document.live).length := by
    decide +kernel
  exact ⟨exists_larger_page evaluates threeNotes_decode le_rfl some,
    tellsMore_of_nonpositive evaluates threeNotes_decode le_rfl some⟩

end Access

end Docket
