import Docket.Proofs.Conversion.BestEffort
import Docket.Proofs.Persistence.PageWalks
import Docket.Proofs.Persistence.Removal

/-!
# Asking whether a record exists

The question whether a record matches is answered by reading the newest one that does.
So it is not answered by the filter alone: the document that was found is decoded, and
the record is converted to one of the application. Each of these can fail, and a failure
counts as no (`run_exist`).

What is told is therefore no more than what is stored: if the answer is yes, there is a
match. If the answer is no, there may be matches all the same, but the newest of them has
no record of the application (`exist_iff_newest_converts`). Counting, paging and removal
look at the filter only, and agree among themselves about the number of matches. The
answer agrees with them if all matches can be converted, as is always so by best effort
for records that are written, into a type whose blank record can be read back
(`exist_iff_of_bestEffort`). By the strict policy a single field that does not convert
lets a stored record be missed (`strictLedger_missed`).
-/

set_option autoImplicit false

namespace Docket

/-- The first of the matching documents as reads list them, the newest. -/
def MemoryStore.newest? (store : MemoryStore) (place : Namespace) (filter : Document) :
    Option Document :=
  (Sorting.sorted Access.newestFirst.sort (store.matching place filter)).head?

namespace MemoryStore

variable {store : MemoryStore} {place : Namespace} {filter document : Document}

theorem mem_matching_of_newest? (isNewest : store.newest? place filter = some document) :
    document ∈ store.matching place filter :=
  (Sorting.sorted_perm _ _).mem_iff.mp (List.mem_of_head? isNewest)

theorem newest?_eq_none_iff :
    store.newest? place filter = none ↔ store.matching place filter = [] := by
  rw [newest?, List.head?_eq_none_iff, ← List.length_eq_zero_iff, ← List.length_eq_zero_iff,
    (Sorting.sorted_perm _ _).length_eq]

theorem exists_newest? (some : 0 < (store.matching place filter).length) :
    ∃ document, store.newest? place filter = .some document := by
  rw [← Option.ne_none_iff_exists', Ne, newest?_eq_none_iff, ← List.length_eq_zero_iff]
  exact some.ne'

end MemoryStore

namespace Access

variable {model : ModelType} {place : Namespace} {world : World MemoryStore} {filter : Document}

/-- Reading one record decodes the newest match. -/
theorem run_findOne_of_evaluates (evaluates : world.store.Evaluates place filter) :
    ((inMemory model place).findOne filter).run.run world =
      (match world.store.newest? place filter with
        | some document => (inMemory model place).decode .findOne document
        | none => .error (.store (.notFound place.text)),
        world.logged [entry place "Finding one record" []]) := by
  have first : ((newestFirst.limited 1).part (Sorting.sorted newestFirst.sort
      (world.store.matching place filter))).head? = world.store.newest? place filter := by
    show (List.take 1 _).head? = _
    rw [List.head?_take, if_neg Nat.one_ne_zero]
    rfl
  rw [run_findOne, MemoryStore.find_eq evaluates]
  show (decodeFirst place
    ((newestFirst.limited 1).part (Sorting.sorted newestFirst.sort _)), _) = _
  cases newest : world.store.newest? place filter <;> simp only [decodeFirst, first, newest]

end Access

namespace Repository

variable {model : ModelType} {entity : RecordType} (place : Namespace)
  (custom : Option (ModelConverter model.toRecordType entity)) (copier : Copier)

/-- A stored document has a record of the application. -/
def Offers (document : Document) : Prop :=
  ∃ stored record, (Access.inMemory model place).decode .findOne document = .ok stored ∧
    ((inMemory place custom copier).converter.toEntity stored).value = .ok record

variable (world : World MemoryStore) (criteria : Criteria)

/-- **The answer is whether one record could be read**, and the store is left as that
leaves it. -/
theorem run_exist :
    (((inMemory place custom copier).exist criteria).run.run world).1 =
        .ok (((inMemory place custom copier).findOne criteria).run.run world).1.isOk ∧
      (((inMemory place custom copier).exist criteria).run.run world).2.store =
        (((inMemory place custom copier).findOne criteria).run.run world).2.store := by
  rw [exist, Action.run_bind_of_ok world (Action.run_attempt world _)]
  cases ran : ((inMemory place custom copier).findOne criteria).run.run world with
  | mk answer behind =>
      cases answer with
      | ok record => exact ⟨rfl, rfl⟩
      | error failure =>
          dsimp only
          split <;> exact ⟨rfl, rfl⟩

section

variable {world criteria} {filter : Document} (built : criteria.build = .ok filter)

include built

/-- One record can be read if the newest match has one. -/
theorem findOne_isOk_iff (evaluates : world.store.Evaluates place filter) :
    ((((inMemory place custom copier).findOne criteria).run.run world).1.isOk = true ↔
        ∃ document, world.store.newest? place filter = some document ∧
          Offers place custom copier document) ∧
      (((inMemory place custom copier).findOne criteria).run.run world).2.store =
        world.store := by
  rw [run_findOne place custom copier world built, run_bind,
    Access.run_findOne_of_evaluates evaluates]
  cases newest : world.store.newest? place filter with
  | none => simp [Except.isOk, Except.toBool]
  | some document =>
      dsimp only
      cases decoded : (Access.inMemory model place).decode .findOne document with
      | error failure => simp [Offers, decoded, Except.isOk, Except.toBool]
      | ok stored =>
          dsimp only
          rw [Action.run_ofConversion]
          cases converted :
              ((inMemory place custom copier).converter.toEntity stored).value with
          | error error =>
              simp [Offers, decoded, converted, Except.isOk, Except.toBool, Except.mapError]
          | ok record =>
              simp [Offers, decoded, converted, Except.isOk, Except.toBool, Except.mapError]

/-- A page by criteria tells the number of matches. -/
theorem total_of_run_paging {request : PageRequest} {records : List entity.Value} {total : Int}
    (answered : (((inMemory place custom copier).paging criteria request).run.run world).1 =
      .ok (records, total)) :
    total = saturated (world.store.matching place filter).length := by
  rw [run_paging place custom copier world built, run_bind] at answered
  cases ran : ((Access.inMemory model place).paging filter request).run.run world with
  | mk answer behind =>
      rw [ran] at answered
      cases answer with
      | error failure => cases answered
      | ok page =>
          obtain ⟨stored, number⟩ := page
          have told := Access.of_run_paging (congrArg Prod.fst ran)
          dsimp only at answered
          rw [run_bind, Action.run_ofConversion] at answered
          cases converted : ((inMemory place custom copier).converter.toEntities stored).value with
          | error error =>
              rw [converted] at answered
              cases answered
          | ok entities =>
              rw [converted] at answered
              obtain ⟨_, rfl⟩ := Prod.mk.inj (Except.ok.inj answered)
              exact told.2

/-- A removal marks all matches, and tells their number if it asks for live records. -/
theorem of_run_remove {result : WriteResult}
    (removed : (((inMemory place custom copier).remove criteria).run.run world).1 =
      .ok result) :
    ((((inMemory place custom copier).remove criteria).run.run world).2.store.documents place =
        (world.store.documents place).map fun document =>
          if Filter.accepts document filter then document.marked world.now else document) ∧
      (Filter.AsksLive filter →
        result = ⟨wrapped64 (world.store.matching place filter).length, []⟩) := by
  rcases run_remove_ends place custom copier built world with
    ⟨_, answers, leaves⟩ | ⟨_, _, _, _, _, _, fails, _⟩
  · refine ⟨leaves, fun asks => ?_⟩
    rw [Collection.tallied_removal place world.now asks, List.countP_eq_length_filter] at answers
    exact Except.ok.inj (removed.symm.trans answers)
  · rw [removed] at fails
    cases fails

variable (evaluates : world.store.Evaluates place filter)

include evaluates

/-- An answer is always given, and nothing is written for it. -/
theorem exists_told :
    ∃ told, (((inMemory place custom copier).exist criteria).run.run world).1 = .ok told ∧
      (((inMemory place custom copier).exist criteria).run.run world).2.store = world.store ∧
      (told = true ↔ ∃ document, world.store.newest? place filter = some document ∧
        Offers place custom copier document) := by
  obtain ⟨answers, leaves⟩ := run_exist place custom copier world criteria
  obtain ⟨found, unchanged⟩ := findOne_isOk_iff place custom copier built evaluates
  exact ⟨_, answers, leaves.trans unchanged, found⟩

omit built evaluates in
/-- If all matches have a record of the application, the newest has if there is any. -/
theorem newest_offers_iff
    (offers : ∀ document ∈ world.store.matching place filter,
      Offers place custom copier document) :
    (∃ document, world.store.newest? place filter = some document ∧
      Offers place custom copier document) ↔ 0 < (world.store.matching place filter).length := by
  constructor
  · rintro ⟨document, isNewest, _⟩
    exact List.length_pos_of_mem (MemoryStore.mem_matching_of_newest? isNewest)
  · intro some
    obtain ⟨document, isNewest⟩ := MemoryStore.exists_newest? some
    exact ⟨document, isNewest, offers document (MemoryStore.mem_matching_of_newest? isNewest)⟩

/-- **By best effort the answer is yes exactly if there is a match**, for records that are
written, and for an application's type whose blank record can be read back. -/
theorem exist_iff_of_bestEffort (effort : copier.policy = .bestEffort)
    (blank : entity.BlankReturns)
    (writes : ∀ document ∈ world.store.matching place filter, ∃ stored given,
      (Access.inMemory model place).decode .findOne document = .ok stored ∧
        Copier.written model.toRecordType stored = .ok given) :
    ∃ told, (((inMemory place none copier : Repository MemoryStore model entity).exist
        criteria).run.run world).1 = .ok told ∧
      (told = true ↔ 0 < (world.store.matching place filter).length) := by
  let noConverter : Option (ModelConverter model.toRecordType entity) := none
  obtain ⟨told, answers, _, yes⟩ := exists_told place noConverter copier built evaluates
  refine ⟨told, answers, yes.trans (newest_offers_iff place noConverter copier ?_)⟩
  intro document isMatch
  obtain ⟨stored, given, decoded, isGiven⟩ := writes document isMatch
  obtain ⟨base, isBase, reads⟩ := blank
  obtain ⟨record, copied⟩ := Copier.exists_copyInto effort isGiven isBase reads
  exact ⟨stored, record, decoded, copied⟩

end

/-- **The answer is yes exactly if the newest match has a record of the application**, that
is, if it can be decoded and converted. Then there is a match; and if all matches have a
record, the answer is yes exactly if there is one. Counting tells the number of matches.
So does every page that is read, as its total; and a removal that succeeds marks all
matches, and tells their number if it asks for live records. -/
theorem exist_iff_newest_converts {model : ModelType} {entity : RecordType} (place : Namespace)
    (custom : Option (ModelConverter model.toRecordType entity)) (copier : Copier)
    {world : World MemoryStore} {criteria : Criteria} {filter : Document}
    (built : criteria.build = .ok filter) (evaluates : world.store.Evaluates place filter) :
    let matched := (world.store.matching place filter).length
    ∃ told, (((inMemory place custom copier).exist criteria).run.run world).1 = .ok told ∧
      (((inMemory place custom copier).exist criteria).run.run world).2.store = world.store ∧
      (told = true ↔ ∃ document, world.store.newest? place filter = some document ∧
        Offers place custom copier document) ∧
      (told = true → 0 < matched) ∧
      ((∀ document ∈ world.store.matching place filter, Offers place custom copier document) →
        (told = true ↔ 0 < matched)) ∧
      world.store.count place filter = .ok matched ∧
      (∀ request records total,
        (((inMemory place custom copier).paging criteria request).run.run world).1 =
          .ok (records, total) → total = saturated matched ∧ (0 < total ↔ 0 < matched)) ∧
      ∀ result,
        (((inMemory place custom copier).remove criteria).run.run world).1 = .ok result →
          ((((inMemory place custom copier).remove criteria).run.run world).2.store.documents
            place = (world.store.documents place).map fun document =>
              if Filter.accepts document filter then document.marked world.now else document) ∧
          (Filter.AsksLive filter → result = ⟨wrapped64 matched, []⟩) := by
  intro matched
  obtain ⟨told, answers, unchanged, yes⟩ := exists_told place custom copier built evaluates
  refine ⟨told, answers, unchanged, yes, fun isYes => ?_, fun offers => ?_,
    MemoryStore.count_eq evaluates, fun request records total answered => ?_,
    fun result removed => of_run_remove place custom copier built removed⟩
  · obtain ⟨document, isNewest, _⟩ := yes.mp isYes
    exact List.length_pos_of_mem (MemoryStore.mem_matching_of_newest? isNewest)
  · rw [yes, newest_offers_iff place custom copier offers]
  · have isTotal := total_of_run_paging place custom copier built answered
    refine ⟨isTotal, ?_⟩
    rw [isTotal, saturated_eq_max_min]
    omega

/-! ## Three notes, and a ledger -/

theorem exist_iff_newest_converts_threeNotes :
    ((notes.exist .all).run.run Access.threeNotes).1 = .ok true ∧
      (∃ document, Access.threeNotes.store.newest? ⟨"test", "notes"⟩ Document.live =
          some document ∧
        Offers ⟨"test", "notes"⟩
          (none : Option (ModelConverter Specimen.noteModel.toRecordType Specimen.note)) .default
          document) ∧
      0 < (Access.threeNotes.store.matching ⟨"test", "notes"⟩ Document.live).length := by
  have answers : ((notes.exist .all).run.run Access.threeNotes).1 = .ok true := by
    decide +kernel
  have built : Criteria.all.build = .ok Document.live := rfl
  obtain ⟨told, tells, _, yes, some, _⟩ := exist_iff_newest_converts
    ⟨"test", "notes"⟩
    (none : Option (ModelConverter Specimen.noteModel.toRecordType Specimen.note))
    .default built
    (Access.threeNotes.store.evaluates_live ⟨"test", "notes"⟩)
  have isYes : told = true := Except.ok.inj (tells.symm.trans answers)
  exact ⟨answers, yes.mp isYes, some isYes⟩

/-- An entry of a ledger with a number in a field that the application reads as an object,
as the only thing that is stored. -/
def oneEntry : World MemoryStore :=
  Specimen.holding
    [ [ ("_id", .string "00000000000000000000000000000001"), ("amount", .number (.ofInt 5)),
        ("closed", .null), ("meta", .number (.ofInt 5)), ("name", .string "n"),
        ("opened", .string "2024-01-01T00:00:00.000Z"), ("ratio", .number (.ofInt 1)),
        ("tags", .array []) ] ]

/-- The repository of a ledger that converts by the strict policy. -/
def strictLedger : Repository MemoryStore Specimen.ledgerModel Specimen.ledger :=
  inMemory ⟨"test", "notes"⟩ none { Copier.default with policy := .strict }

/-- A live record that is stored and decodes is missed, although it is counted. -/
theorem strictLedger_missed :
    Criteria.all.build = .ok Document.live ∧
      oneEntry.store.Evaluates ⟨"test", "notes"⟩ Document.live ∧
      (∀ document ∈ oneEntry.store.documents ⟨"test", "notes"⟩,
        (strictLedger.access.decode .findOne document).isOk = true) ∧
      ((strictLedger.exist .all).run.run oneEntry).1 = .ok false ∧
      oneEntry.store.count ⟨"test", "notes"⟩ Document.live = .ok 1 :=
  ⟨rfl, oneEntry.store.evaluates_live ⟨"test", "notes"⟩, by decide +kernel, by decide +kernel,
    by decide +kernel⟩

end Repository

end Docket
