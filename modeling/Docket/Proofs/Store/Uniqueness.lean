import Docket.Proofs.Number.Integers
import Docket.Proofs.Store.Integrity
import Docket.Proofs.Store.Reads

/-!
# What is stored once and what a filter finds

A field is guarded if it is the primary key or the one field of a unique index. Values of
a guarded field are stored once: no two documents have values there that are the same up to
the sign of zeros (`Guards.storedOnce`).

A filter that asks for a value compares numbers by their doubles, and all else by that
sameness (`valuesEqual_number_iff`, `valuesEqual_of_no_number`). So a filter that asks a
guarded field for anything but a number finds one document at most. One that asks for a
number finds documents whose numbers are confused: an integer and a float of one value, or
integers from two to the 53rd on that have one double (`Guards.found_confused`). That is so
after any calls (`guarded_matching`). The store takes such documents for different ones when
it writes, and for equal ones when it reads (`ones_matched_twice`).
-/

set_option autoImplicit false

namespace Docket

namespace Filter

/-- **The values that equal a number** are the numbers of its rank. -/
theorem valuesEqual_number_iff (actual : Json) (asked : Number) :
    valuesEqual actual (.number asked) = true ↔
      ∃ number, actual = .number number ∧ number.rank = asked.rank := by
  cases actual with
  | number number => simp [valuesEqual]
  | _ => simp [valuesEqual, Json.same, Json.unsignedZeros]

/-- **What equals no number** is the same. -/
theorem valuesEqual_of_no_number {expected : Json}
    (noNumber : ∀ number, expected ≠ .number number)
    (actual : Json) : valuesEqual actual expected = Json.same actual expected := by
  unfold valuesEqual
  split
  · next asked => exact absurd rfl (noNumber asked)
  · rfl

/-- Values that equal one value without being the same are confused numbers, and the value
is a number too. -/
theorem confused_of_valuesEqual {first second expected : Json}
    (firstEqual : valuesEqual first expected = true)
    (secondEqual : valuesEqual second expected = true) (differ : Json.same first second ≠ true) :
    (∃ asked, expected = .number asked) ∧
      ∃ one other : Number, first = .number one ∧ second = .number other ∧
        one.Confused other := by
  by_cases isNumber : ∃ asked, expected = .number asked
  · refine ⟨isNumber, ?_⟩
    obtain ⟨asked, rfl⟩ := isNumber
    obtain ⟨one, rfl, oneRank⟩ := (valuesEqual_number_iff first asked).mp firstEqual
    obtain ⟨other, rfl, otherRank⟩ := (valuesEqual_number_iff second asked).mp secondEqual
    refine ⟨one, other, rfl, rfl, (Number.confused_iff one other).mpr
      ⟨oneRank.trans otherRank.symm, fun same => differ ?_⟩⟩
    rw [Json.same_iff, Json.unsignedZeros, Json.unsignedZeros, same]
  · have noNumber : ∀ asked, expected ≠ .number asked := fun asked isAsked =>
      isNumber ⟨asked, isAsked⟩
    rw [valuesEqual_of_no_number noNumber] at firstEqual secondEqual
    exact absurd (Json.same_trans firstEqual (Json.same_comm _ _ ▸ secondEqual)) differ

/-- A filter that asks a field for a value that is neither null nor a list of operators
holds of the documents that have a value there that equals it. -/
theorem holds_value {field : String} {value : Json} (isField : field ≠ OperatorName.anyOf)
    (notNull : value ≠ .null) (plain : isOperatorList value = false) (document : Document) :
    holds document [(field, value)] =
      .ok ((Document.get? document field).any fun actual => valuesEqual actual value) := by
  rw [holds_single, memberHolds_of_ne isField, conditionHolds_of_value plain]
  cases Document.get? document field with
  | none => cases value <;> first | rfl | exact absurd rfl notNull
  | some actual => rfl

end Filter

namespace Collection

/-- A collection keeps the values of a field apart: it is the primary key, or the one field
of a unique index. -/
inductive Guards (collection : Collection) : String → Prop
  | primaryKey : Guards collection FieldName.primaryKey
  | index {field : String} {index : Index} (isIndex : index ∈ collection.indexes)
      (unique : index.unique = true) (only : ∀ key ∈ index.keys, key.1 = field) :
      Guards collection field

/-- Documents that have the same value in the one field of an index have the same key. -/
theorem sharesKey_of_same {field : String} {index : Index}
    (only : ∀ key ∈ index.keys, key.1 = field) {first second : Document} {one other : Json}
    (isOne : Document.get? first field = some one)
    (isOther : Document.get? second field = some other) (same : Json.same one other = true) :
    index.SharesKey first second := by
  rw [Index.SharesKey, sameKey, Json.same_iff, Json.unsignedZeros, Json.unsignedZeros,
    Json.unsignedZerosOfItems_eq_map, Json.unsignedZerosOfItems_eq_map, Index.key, Index.key,
    List.map_map, List.map_map]
  refine congrArg Json.array (List.map_congr_left fun key isKey => ?_)
  simp only [Function.comp, only key isKey, isOne, isOther, Option.getD_some]
  exact Json.same_iff.mp same

/-- **Values of a guarded field are stored once.** -/
theorem Guards.storedOnce {collection : Collection} {field : String}
    (guards : collection.Guards field) (intact : collection.Intact) :
    collection.documents.Pairwise fun first second => ∀ one other,
      Document.get? first field = some one → Document.get? second field = some other →
        Json.same one other ≠ true := by
  cases guards with
  | primaryKey =>
      exact intact.distinct.imp fun apart one other isOne isOther same =>
        apart ⟨one, other, isOne, isOther, same⟩
  | index isIndex unique only =>
      exact (intact.unique _ isIndex unique).imp fun apart one other isOne isOther same =>
        apart (sharesKey_of_same only isOne isOther same)

/-- A document that a filter finds by a value has a value there that equals it. -/
theorem exists_found {field : String} {value : Json} (isField : field ≠ OperatorName.anyOf)
    (notNull : value ≠ .null) (plain : Filter.isOperatorList value = false) {document : Document}
    (accepted : Filter.accepts document [(field, value)] = true) :
    ∃ actual, Document.get? document field = some actual ∧
      Filter.valuesEqual actual value = true := by
  rw [Filter.accepts_of_holds (Filter.holds_value isField notNull plain document)] at accepted
  exact (Option.any_eq_true _ _).mp accepted

/-- **Documents that are found by a value of a guarded field have confused numbers there**, and
it is a number that is asked for. -/
theorem Guards.found_confused {collection : Collection} {field : String} {value : Json}
    (guards : collection.Guards field) (intact : collection.Intact)
    (isField : field ≠ OperatorName.anyOf) (notNull : value ≠ .null)
    (plain : Filter.isOperatorList value = false) :
    (collection.documents.filter fun document =>
      Filter.accepts document [(field, value)]).Pairwise fun first second =>
        (∃ asked, value = .number asked) ∧ ∃ one other : Number,
          Document.get? first field = some (.number one) ∧
            Document.get? second field = some (.number other) ∧ one.Confused other := by
  refine ((guards.storedOnce intact).sublist List.filter_sublist).imp_of_mem
    fun isFirst isSecond differ => ?_
  obtain ⟨one, isOne, oneEqual⟩ :=
    exists_found isField notNull plain (List.mem_filter.mp isFirst).2
  obtain ⟨other, isOther, otherEqual⟩ :=
    exists_found isField notNull plain (List.mem_filter.mp isSecond).2
  obtain ⟨isNumber, first, second, rfl, rfl, confused⟩ :=
    Filter.confused_of_valuesEqual oneEqual otherEqual (differ one other isOne isOther)
  exact ⟨isNumber, first, second, isOne, isOther, confused⟩

end Collection

namespace StoreCall

/-- **What a filter finds under a guarded field.** After any calls, the filter for a value
of the field can be evaluated. Any two documents that match it have confused numbers there;
so it is one document at most, unless the value is a number. -/
theorem guarded_matching (calls : List StoreCall) (ids : IdSource) (place : Namespace)
    {field : String} {value : Json}
    (guards : ((after calls ⟨.empty, ids⟩).store.collection place).Guards field)
    (isField : field ≠ OperatorName.anyOf) (notNull : value ≠ .null)
    (plain : Filter.isOperatorList value = false) :
    let store := (after calls ⟨.empty, ids⟩).store
    let found := store.matching place [(field, value)]
    store.count place [(field, value)] = .ok found.length ∧
      found.Pairwise (fun first second => ∃ one other : Number,
        Document.get? first field = some (.number one) ∧
          Document.get? second field = some (.number other) ∧ one.Confused other) ∧
      ((∀ number, value ≠ .number number) → found.length ≤ 1) := by
  dsimp only
  generalize isStore : (after calls ⟨.empty, ids⟩).store = store at guards ⊢
  have intact : store.Intact := isStore ▸ after_intact calls .empty
  have evaluates : store.Evaluates place [(field, value)] := fun document _ =>
    ⟨_, Filter.holds_value isField notNull plain document⟩
  have confused : (store.matching place [(field, value)]).Pairwise _ :=
    guards.found_confused (intact.collection place) isField notNull plain
  refine ⟨MemoryStore.count_eq evaluates, confused.imp And.right, fun noNumber => ?_⟩
  match store.matching place [(field, value)], confused with
  | [], _ => exact Nat.zero_le 1
  | [_], _ => exact Nat.le_refl 1
  | _ :: _ :: _, confused =>
      obtain ⟨asked, isAsked⟩ := ((List.pairwise_cons.mp confused).1 _ List.mem_cons_self).1
      exact absurd isAsked (noNumber asked)

/-- A unique index over the slugs of articles. -/
def slugIndex : Index :=
  ⟨[("slug", .ascending)], true, none⟩

/-- The index is installed before two articles are stored. -/
def articles : List StoreCall :=
  [ createIndexes ⟨"test", "articles"⟩ [slugIndex],
    insertMany ⟨"test", "articles"⟩
      [ [("_id", .string "a"), ("slug", .string "first")],
        [("_id", .string "b"), ("slug", .string "second")] ] ]

theorem guarded_matching_articles :
    let store := (after articles ⟨.empty, .fromMillis 0⟩).store
    store.count ⟨"test", "articles"⟩ [("slug", .string "second")] = .ok 1 ∧
      (store.matching ⟨"test", "articles"⟩ [("slug", .string "second")]).length ≤ 1 := by
  have installed : slugIndex ∈ ((after articles ⟨.empty, .fromMillis 0⟩).store.collection
      ⟨"test", "articles"⟩).indexes := by
    decide +kernel
  have guards := Collection.Guards.index installed rfl
    (by decide : ∀ key ∈ slugIndex.keys, key.1 = "slug")
  have notNull : Json.string "second" ≠ .null := Json.noConfusion
  have plain : Filter.isOperatorList (.string "second") = false := rfl
  obtain ⟨_, _, once⟩ :=
    guarded_matching articles (.fromMillis 0) ⟨"test", "articles"⟩ guards (by decide)
      notNull plain
  have noNumber : ∀ number, Json.string "second" ≠ .number number := fun _ => Json.noConfusion
  refine ⟨?_, once noNumber⟩
  decide +kernel

/-- Two documents whose primary keys are the integer and the float of one value. -/
def ones : List Document :=
  [[("_id", .number (.integer 1 (by decide)))], [("_id", .number (.float (.ofInt 1)))]]

/-- **An integer and the float of its value are stored as different primary keys, and both
are found by the one that is asked for.** -/
theorem ones_matched_twice :
    let insertion := insertMany ⟨"test", "notes"⟩ ones
    let store := (after [insertion] ⟨.empty, .fromMillis 0⟩).store
    let filter := [("_id", Json.number (.integer 1 (by decide)))]
    insertion.answer ⟨.empty, .fromMillis 0⟩ = .ok () ∧
      store.matching ⟨"test", "notes"⟩ filter = ones ∧
        store.count ⟨"test", "notes"⟩ filter = .ok 2 := by
  decide +kernel

end StoreCall

end Docket
