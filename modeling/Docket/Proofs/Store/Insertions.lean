import Docket.Proofs.Store.Separation
import Mathlib.Data.List.Forall2

/-!
# How far insertions get

Documents are added one after another, each behind all that are there by then, and the first one
that collides with any of these ends the insertion. What was added before it stays. So an insertion
commits some first documents of those that it is given, and nothing else changes: neither the
documents that were there, nor the indexes, nor any other collection (`CommitsPrefix`). A document
is stored as it is given, except that one without a primary key gets one that is minted for it
(`Document.Completed`).

The answer tells how far an insertion got. It is the identifiers of all documents if all were
committed, and otherwise the error of the first one that was not, which collides with a document
that was there or with one that the same insertion committed before it. What collides is the
document as it would be stored, with the primary key that was minted for it.

The insertion of one document is that of a list of one (`insertions_commit`). As there is nothing
to commit before its only document, it changes nothing if it fails.
-/

set_option autoImplicit false

namespace Docket

/-! ## Documents with their primary keys -/

/-- **What a document is stored as**: as it is given if it has a primary key, and otherwise with
one that a source had still to mint. -/
inductive Document.Completed (source : IdSource) (given : Document) : Document → Prop
  | asGiven (keyed : given.Keyed) : Completed source given given
  | minted {position : Nat} (unkeyed : ¬ given.Keyed) (fresh : source.taken ≤ position) :
      Completed source given
        (Document.insert given FieldName.primaryKey (source.stream position).toJson)

/-- A text is the one of the primary key of a document. -/
def Document.HasIdText (document : Document) (text : String) : Prop :=
  ∃ id, Document.get? document FieldName.primaryKey = some id ∧ text = Collection.idText id

namespace Collection

section

variable (source : IdSource) (document : Document)

theorem keyed_completed : Document.Completed source document (keyed source document).1 := by
  unfold keyed
  cases found : Document.get? document FieldName.primaryKey with
  | some id => exact .asGiven ⟨id, found⟩
  | none =>
      refine .minted ?_ (Nat.le_refl source.taken)
      rintro ⟨id, isKey⟩
      rw [found] at isKey
      cases isKey

theorem keyed_hasIdText :
    Document.HasIdText (keyed source document).1 (idText (keyed source document).2.1) := by
  unfold keyed
  cases found : Document.get? document FieldName.primaryKey with
  | some id => exact ⟨id, found, rfl⟩
  | none => exact ⟨_, Document.get?_insert_self _ _ _, rfl⟩

/-- What is minted behind a document could have been minted for it. -/
theorem Completed.of_keyed {given stored : Document}
    (completed : Document.Completed (keyed source document).2.2 given stored) :
    Document.Completed source given stored := by
  unfold keyed at completed
  cases found : Document.get? document FieldName.primaryKey with
  | some id =>
      rw [found] at completed
      exact completed
  | none =>
      rw [found] at completed
      cases completed with
      | asGiven keyed => exact .asGiven keyed
      | minted unkeyed fresh => exact .minted unkeyed (Nat.le_of_succ_le fresh)

end

/-! ## One insertion -/

/-- **An insertion commits the first documents, as many as counted**: they are added behind those
that were there. It succeeds exactly if they are all, and tells their identifiers then. If it
fails, the next document collides with one that was there or was added. -/
structure Commits (indexes : List Index) (source : IdSource) (present documents : List Document)
    (stored : List Document) (answer : Except StoreError (List String)) (count : Nat)
    (added : List Document) : Prop where
  counted : count ≤ documents.length
  storedBehind : stored = present ++ added
  completed : List.Forall₂ (Document.Completed source) (documents.take count) added
  succeeds : (∃ ids, answer = .ok ids) ↔ count = documents.length
  named : ∀ ids, answer = .ok ids → List.Forall₂ Document.HasIdText added ids
  stops : ∀ error, answer = .error error → error.kind = .alreadyExists ∧
    ∃ given next, documents[count]? = some given ∧ Document.Completed source given next ∧
      ∃ other ∈ present ++ added, Collides indexes next other

section

variable {indexes : List Index} {source : IdSource} {present rest : List Document}
  {document : Document}

theorem Commits.nothing : Commits indexes source present [] present (.ok []) 0 [] where
  counted := Nat.le_refl 0
  storedBehind := (List.append_nil present).symm
  completed := .nil
  succeeds := ⟨fun _ => rfl, fun _ => ⟨[], rfl⟩⟩
  named ids isAnswer := by
    obtain rfl := Except.ok.inj isAnswer
    exact .nil
  stops error isAnswer := by cases isAnswer

/-- A document that collides is not committed, and none behind it is. -/
theorem Commits.stopped {error : StoreError} (duplicate : error.kind = .alreadyExists)
    (collides : ∃ other ∈ present, Collides indexes (keyed source document).1 other) :
    Commits indexes source present (document :: rest) present (.error error) 0 [] where
  counted := Nat.zero_le _
  storedBehind := (List.append_nil present).symm
  completed := .nil
  succeeds := by
    constructor
    · rintro ⟨ids, isAnswer⟩
      cases isAnswer
    · intro all
      cases all
  named ids isAnswer := by cases isAnswer
  stops other isAnswer := by
    obtain rfl := Except.error.inj isAnswer
    rw [List.append_nil]
    exact ⟨duplicate, document, _, rfl, keyed_completed source document, collides⟩

/-- A document that is committed comes before those that are committed behind it. -/
theorem Commits.behind {stored added : List Document} {answer : Except StoreError (List String)}
    {count : Nat}
    (commits : Commits indexes (keyed source document).2.2 (present ++ [(keyed source document).1])
      rest stored answer count added) :
    Commits indexes source present (document :: rest) stored
      (answer.map (idText (keyed source document).2.1 :: ·)) (count + 1)
      ((keyed source document).1 :: added) where
  counted := Nat.succ_le_succ commits.counted
  storedBehind := by rw [commits.storedBehind, List.append_assoc, List.singleton_append]
  completed := .cons (keyed_completed source document)
    (commits.completed.imp fun _ _ => Completed.of_keyed source document)
  succeeds := by
    rw [List.length_cons, Nat.succ_inj, ← commits.succeeds]
    cases answer <;> simp [Except.map]
  named ids isAnswer := by
    cases answer with
    | error cause => cases isAnswer
    | ok others =>
        obtain rfl := Except.ok.inj isAnswer
        exact .cons (keyed_hasIdText source document) (commits.named others rfl)
  stops error isAnswer := by
    cases answer with
    | ok ids => cases isAnswer
    | error cause =>
        obtain rfl := Except.error.inj isAnswer
        obtain ⟨duplicate, given, next, isNext, completed, collides⟩ := commits.stops cause rfl
        rw [List.append_assoc, List.singleton_append] at collides
        exact ⟨duplicate, given, next, isNext, Completed.of_keyed source document completed,
          collides⟩

end

section

variable {indexes : List Index} {source : IdSource}
  {present documents stored added : List Document}
  {answer : Except StoreError (List String)} {count : Nat}
  (commits : Commits indexes source present documents stored answer count added)

include commits

/-- As many documents are added as are counted, and one that is added has one identifier. -/
theorem Commits.length_ids {ids : List String} (isOk : answer = .ok ids) :
    ids.length = documents.length := by
  rw [← (commits.named ids isOk).length_eq, ← commits.completed.length_eq, List.length_take,
    Nat.min_eq_left commits.counted]
  exact commits.succeeds.mp ⟨ids, isOk⟩

/-- The operation that an error is said to be of has no part in what is committed. -/
theorem Commits.during (operation : StoreOperation) :
    Commits indexes source present documents stored
      (answer.mapError fun error => error.during operation) count added := by
  cases answer with
  | ok ids => exact commits
  | error cause =>
      refine { commits with succeeds := ?_, named := ?_, stops := ?_ }
      · rw [← commits.succeeds]
        constructor <;> rintro ⟨ids, isOk⟩ <;> cases isOk
      · intro ids isOk
        cases isOk
      · intro error isError
        obtain rfl := Except.error.inj isError
        exact commits.stops cause rfl

/-- If the only document is not committed, nothing is. -/
theorem Commits.unchanged {error : StoreError} (single : documents.length = 1)
    (refused : answer = .error error) : stored = present ∧ present ≠ [] := by
  have notAll : count ≠ documents.length := by
    intro all
    obtain ⟨ids, isOk⟩ := commits.succeeds.mpr all
    rw [refused] at isOk
    cases isOk
  obtain rfl : count = 0 := by
    have counted := commits.counted
    omega
  obtain rfl : added = [] := List.forall₂_nil_left_iff.mp commits.completed
  obtain ⟨_, _, _, _, _, other, isOther, _⟩ := commits.stops error refused
  rw [List.append_nil] at isOther
  exact ⟨commits.storedBehind.trans (List.append_nil present), List.ne_nil_of_mem isOther⟩

end

/-- **Every insertion commits some first documents.** -/
theorem exists_commits (place : Namespace) (indexes : List Index) (present : List Document)
    (source : IdSource) (documents : List Document) :
    ∃ count added, Commits indexes source present documents
      (insertFrom place indexes present source documents).documents
      (insertFrom place indexes present source documents).result count added := by
  induction documents generalizing present source with
  | nil => exact ⟨0, [], .nothing⟩
  | cons document rest ih =>
      cases found : firstCollision? indexes (keyed source document).1 present with
      | some collision =>
          rw [insertFrom_of_collision place found]
          exact ⟨0, [], .stopped (collision.error_kind place .insertMany)
            (exists_collides_of_firstCollision? found)⟩
      | none =>
          obtain ⟨count, added, commits⟩ :=
            ih (present ++ [(keyed source document).1]) (keyed source document).2.2
          rw [insertFrom_of_free place found]
          exact ⟨count + 1, _, commits.behind⟩

end Collection

/-! ## The store -/

namespace MemoryStore

/-- **An insertion commits a prefix** of the documents that it is given, and changes nothing but
the documents of the collection that they go into. -/
structure CommitsPrefix (place : Namespace) (documents : List Document)
    (before after : StoreState MemoryStore) (answer : Except StoreError (List String)) : Prop where
  committed : ∃ count added, Collection.Commits (before.store.collection place).indexes before.ids
    (before.store.documents place) documents (after.store.documents place) answer count added
  indexes : (after.store.collection place).indexes = (before.store.collection place).indexes
  elsewhere : ∀ other : Namespace, other.text ≠ place.text →
    after.store.made? other = before.store.made? other

section

variable (state : StoreState MemoryStore) (place : Namespace)

theorem insertMany_commitsPrefix (documents : List Document) :
    CommitsPrefix place documents state
      ⟨(state.store.insertMany place state.ids documents).store,
        (state.store.insertMany place state.ids documents).source⟩
      (state.store.insertMany place state.ids documents).result where
  committed := by
    dsimp only
    rw [insertMany_documents]
    exact Collection.exists_commits place _ _ _ documents
  indexes := by
    dsimp only
    rw [insertMany, collection_withCollection]
  elsewhere other differ := by
    dsimp only
    rw [insertMany, made?_withCollection, if_neg differ]

/-- An insertion of one document that fails leaves the store as it was: there is a document that
the new one collides with, so the collection was made before. -/
theorem insertMany_of_refused {document : Document} {error : StoreError}
    (refused : (state.store.insertMany place state.ids [document]).result = .error error) :
    (state.store.insertMany place state.ids [document]).store = state.store := by
  obtain ⟨count, added, commits⟩ := (insertMany_commitsPrefix state place [document]).committed
  obtain ⟨unchanged, notEmpty⟩ := commits.unchanged rfl refused
  dsimp only at unchanged
  rw [insertMany_documents] at unchanged
  cases made : state.store.made? place with
  | none =>
      rw [documents, collection, made] at notEmpty
      exact absurd rfl notEmpty
  | some collection =>
      have isCollection : state.store.collection place = collection := by
        rw [MemoryStore.collection, made, Option.getD_some]
      rw [documents, isCollection] at unchanged
      rw [insertMany, isCollection]
      dsimp only
      rw [unchanged]
      exact state.store.withCollection_self place made

/-- **The insertion of one document is that of a list of one.** -/
theorem run_insertOne (document : Document) :
    ∃ answer, (backend.insertOne place document).run.run state =
        (answer, ⟨(state.store.insertMany place state.ids [document]).store,
          (state.store.insertMany place state.ids [document]).source⟩) ∧
      answer.map (fun id => [id]) =
        (state.store.insertMany place state.ids [document]).result.mapError
          fun error => error.during .insertOne := by
  refine ⟨_, run_insertOneAction place document state, ?_⟩
  obtain ⟨count, added, commits⟩ := (insertMany_commitsPrefix state place [document]).committed
  dsimp only at commits
  cases result : (state.store.insertMany place state.ids [document]).result with
  | error cause => rfl
  | ok ids =>
      obtain ⟨id, rfl⟩ := List.length_eq_one_iff.mp (commits.length_ids result)
      rfl

end

/-- **Insertions commit a prefix.** Some first documents are added behind those that were there,
each as it was given but for a primary key that it lacked, and nothing else changes. The insertion
succeeds exactly if they are all, and then tells their identifiers in order; otherwise the next one
collides. The insertion of one document is that of a list of one, and changes nothing if it
fails. -/
theorem insertions_commit (state : StoreState MemoryStore) (place : Namespace) :
    (∀ documents,
      let ran := (backend.insertMany place documents).run.run state
      CommitsPrefix place documents state ran.2 ran.1) ∧
      ∀ document,
        let ran := (backend.insertOne place document).run.run state
        CommitsPrefix place [document] state ran.2 (ran.1.map fun id => [id]) ∧
          ∀ error, ran.1 = .error error → ran.2.store = state.store := by
  refine ⟨insertMany_commitsPrefix state place, fun document => ?_⟩
  obtain ⟨answer, isRun, isAnswer⟩ := run_insertOne state place document
  rw [isRun]
  constructor
  · have commitsPrefix := insertMany_commitsPrefix state place [document]
    obtain ⟨count, added, commits⟩ := commitsPrefix.committed
    dsimp only
    rw [isAnswer]
    exact { commitsPrefix with committed := ⟨count, added, commits.during .insertOne⟩ }
  · intro error refused
    dsimp only at refused
    cases result : (state.store.insertMany place state.ids [document]).result with
    | error cause => exact insertMany_of_refused state place result
    | ok ids =>
        rw [refused, result] at isAnswer
        cases isAnswer

/-- Three notes, of which the second has no primary key and the third has that of the first. -/
def notesWithDuplicate : List Document :=
  [[("_id", .string "a")], [("title", .string "x")], [("_id", .string "a")]]

/-- What comes of inserting them into an empty store. -/
def insertedNotes : Except StoreError (List String) × StoreState MemoryStore :=
  (backend.insertMany ⟨"test", "notes"⟩ notesWithDuplicate).run.run ⟨.empty, .fromMillis 0⟩

/-- What comes of inserting the third one by itself after that. -/
def insertedAgain : Except StoreError String × StoreState MemoryStore :=
  (backend.insertOne ⟨"test", "notes"⟩ [("_id", .string "a")]).run.run insertedNotes.2

theorem insertions_commit_notesWithDuplicate :
    CommitsPrefix ⟨"test", "notes"⟩ notesWithDuplicate ⟨.empty, .fromMillis 0⟩
        insertedNotes.2 insertedNotes.1 ∧
      (insertedNotes.2.store.documents ⟨"test", "notes"⟩).length = 2 ∧
      insertedAgain.1 =
        .error ⟨.insertOne, .alreadyExists, "duplicate key", some "test.notes", some "a"⟩ ∧
      insertedAgain.2.store = insertedNotes.2.store := by
  have stored : (insertedNotes.2.store.documents ⟨"test", "notes"⟩).length = 2 := by
    decide +kernel
  have refused : insertedAgain.1 =
      .error ⟨.insertOne, .alreadyExists, "duplicate key", some "test.notes", some "a"⟩ := by
    decide +kernel
  have committed := (insertions_commit ⟨.empty, .fromMillis 0⟩ ⟨"test", "notes"⟩).1
    notesWithDuplicate
  have unchanged := ((insertions_commit insertedNotes.2 ⟨"test", "notes"⟩).2
    [("_id", .string "a")]).2 _ refused
  exact ⟨committed, stored, refused, unchanged⟩

end MemoryStore

end Docket
