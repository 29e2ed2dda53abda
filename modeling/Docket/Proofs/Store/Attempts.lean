import Docket.Proofs.Store.Collisions
import Docket.Proofs.Store.Matching

/-!
# What the operations of a collection attempt

An insertion goes through new documents, an update through the documents that are
there, and an installation through new indexes. Each of them attempts one write
after another, and stops at the first one that is refused. Which writes it comes
to is said by a relation with one rule for every way in which it goes on
(`Inserts`, `Visits`, `Installs`).

Every attempt starts from an intact collection if the operation did, as every
write that is done leaves one behind. So refusing is the same as being about to
break the collection: an operation is refused as a duplicate if one of the writes
that it comes to collides, and a write collides if the collection would not be
intact with it (`Attempt.collides_iff`).

An update never changes a primary key. A document whose key it would change is
refused for that alone, whatever the new key is (`updateFrom_violation_iff`).
-/

set_option autoImplicit false

namespace Docket

/-! ## Refusals -/

/-- A result is a failure of a kind. -/
def Refused {α : Type} (kind : StoreErrorKind) (result : Except StoreError α) : Prop :=
  ∃ error, result = .error error ∧ error.kind = kind

section

variable {α β : Type} {kind : StoreErrorKind}

theorem refused_ok_iff (value : α) : Refused kind (.ok value) ↔ False := by
  simp [Refused]

theorem refused_error_iff (error : StoreError) :
    Refused (α := α) kind (.error error) ↔ error.kind = kind := by
  simp [Refused]

theorem refused_map_iff (change : α → β) (result : Except StoreError α) :
    Refused kind (result.map change) ↔ Refused kind result := by
  cases result <;> simp [Refused, Except.map]

end

namespace Document

theorem Keyed.insert {document : Document} (keyed : document.Keyed) (name : String)
    (value : Json) : Keyed (Document.insert document name value) := by
  by_cases here : FieldName.primaryKey = name
  · exact ⟨value, here ▸ get?_insert_self document name value⟩
  · obtain ⟨id, found⟩ := keyed
    exact ⟨id, by rw [get?_insert_of_ne document value here, found]⟩

theorem Keyed.extend {document : Document} (keyed : document.Keyed) (fields : Document) :
    Keyed (Document.extend document fields) := by
  induction fields generalizing document with
  | nil => exact keyed
  | cons field rest ih => exact ih (keyed.insert field.1 field.2)

/-- Fields that are written over a document leave its primary key as it is. -/
def KeepsKey (document fields : Document) : Prop :=
  ∀ value id, (FieldName.primaryKey, value) ∈ fields →
    get? document FieldName.primaryKey = some id → Json.same value id = true

theorem keepsKey_iff {document : Document} {id : Json}
    (found : get? document FieldName.primaryKey = some id) (fields : Document) :
    document.KeepsKey fields ↔
      ∀ value, (FieldName.primaryKey, value) ∈ fields → Json.same value id = true := by
  constructor
  · exact fun keeps value isField => keeps value id isField found
  · intro keeps value other isField otherFound
    obtain rfl := Option.some.inj (found.symm.trans otherFound)
    exact keeps value isField

theorem same_symm {first second : Document} (alike : Document.same first second = true) :
    Document.same second first = true := by
  rw [Document.same, Json.same_comm]
  exact alike

end Document

namespace Collection

theorem keyed_isKeyed (source : IdSource) (document : Document) :
    (keyed source document).1.Keyed := by
  unfold keyed
  split
  · next id found => exact ⟨id, found⟩
  · exact ⟨_, Document.get?_insert_self document _ _⟩

theorem Collision.error_kind (collision : Collision) (place : Namespace)
    (operation : StoreOperation) : (collision.error place operation).kind = .alreadyExists := by
  cases collision <;> rfl

/-! ## Attempts -/

/-- One write that an operation is about to do. -/
inductive Attempt where
  /-- To add a document. -/
  | insert (collection : Collection) (document : Document)
  /-- To put a document in the place of another one. -/
  | replace (indexes : List Index) (before : List Document) (document next : Document)
      (behind : List Document)
  /-- To install an index. -/
  | install (collection : Collection) (index : Index)

namespace Attempt

/-- The collection before the write. -/
def present : Attempt → Collection
  | .insert collection _ => collection
  | .replace indexes before document _ behind => ⟨before ++ document :: behind, indexes⟩
  | .install collection _ => collection

/-- The collection that the write would make. -/
def performed : Attempt → Collection
  | .insert collection document =>
      { collection with documents := collection.documents ++ [document] }
  | .replace indexes before _ next behind => ⟨before ++ next :: behind, indexes⟩
  | .install collection index => collection.withIndex index

/-- The write brings two documents together that must not be in one collection. -/
def Collides : Attempt → Prop
  | .insert collection document =>
      ∃ other ∈ collection.documents, Collection.Collides collection.indexes document other
  | .replace indexes before _ next behind =>
      ∃ other ∈ before ++ behind, Collection.Collides indexes next other
  | .install collection index =>
      index.unique = true ∧
        ∃ first second, [first, second].Sublist collection.documents ∧
          index.SharesKey first second

/-- The document that is written has a primary key. -/
def Keyed : Attempt → Prop
  | .insert _ document => document.Keyed
  | .replace _ _ _ next _ => next.Keyed
  | .install _ _ => True

/-- **A write collides exactly if it would break the collection.** -/
theorem collides_iff {attempt : Attempt} (intact : attempt.present.Intact)
    (keyed : attempt.Keyed) : attempt.Collides ↔ ¬ attempt.performed.Intact := by
  cases attempt with
  | insert collection document =>
      rw [performed, intact_append_iff intact keyed]
      simp [Collides]
  | replace indexes before document next behind =>
      rw [performed, intact_replace_iff intact keyed]
      simp [Collides]
  | install collection index =>
      have collectionIntact : collection.Intact := intact
      have installed := intact_withIndex_iff collectionIntact index
      rw [performed, installed, Collides, List.pairwise_iff_forall_sublist]
      simp

end Attempt

/-! ## Insertions -/

/-- The writes that an insertion comes to. It goes on behind a document that collides
with none of those that are there. -/
inductive Inserts (indexes : List Index) :
    List Document → IdSource → List Document → Attempt → Prop
  | here {present : List Document} {source : IdSource} {document : Document}
      {rest : List Document} :
      Inserts indexes present source (document :: rest)
        (.insert ⟨present, indexes⟩ (keyed source document).1)
  | later {present : List Document} {source : IdSource} {document : Document}
      {rest : List Document} {attempt : Attempt}
      (free : ∀ other ∈ present, ¬ Collides indexes (keyed source document).1 other)
      (behind : Inserts indexes (present ++ [(keyed source document).1])
        (keyed source document).2.2 rest attempt) :
      Inserts indexes present source (document :: rest) attempt

section

variable (place : Namespace) {indexes : List Index} {present : List Document}
  {source : IdSource} {documents : List Document}

theorem insertFrom_of_collision {document : Document} {collision : Collision}
    (found : firstCollision? indexes (keyed source document).1 present = some collision) :
    insertFrom place indexes present source (document :: documents) =
      ⟨present, (keyed source document).2.2, .error (collision.error place .insertMany)⟩ := by
  simp only [insertFrom, found]

theorem insertFrom_of_free {document : Document}
    (found : firstCollision? indexes (keyed source document).1 present = none) :
    insertFrom place indexes present source (document :: documents) =
      { insertFrom place indexes (present ++ [(keyed source document).1])
          (keyed source document).2.2 documents with
        result := (insertFrom place indexes (present ++ [(keyed source document).1])
          (keyed source document).2.2 documents).result.map
            (idText (keyed source document).2.1 :: ·) } := by
  simp only [insertFrom, found]

/-- An insertion leaves an intact collection behind. -/
theorem insertFrom_intact (intact : Intact ⟨present, indexes⟩) :
    Intact ⟨(insertFrom place indexes present source documents).documents, indexes⟩ := by
  induction documents generalizing present source with
  | nil => exact intact
  | cons document rest ih =>
      cases found : firstCollision? indexes (keyed source document).1 present with
      | some collision =>
          rw [insertFrom_of_collision place found]
          exact intact
      | none =>
          have free := (firstCollision?_eq_none_iff _ _ _).mp found
          rw [insertFrom_of_free place found]
          exact ih ((intact_append_iff intact (keyed_isKeyed source document)).mpr free)

/-- What an insertion comes to starts from an intact collection. -/
theorem Inserts.intact {attempt : Attempt}
    (inserts : Inserts indexes present source documents attempt)
    (intact : Intact ⟨present, indexes⟩) : attempt.present.Intact ∧ attempt.Keyed := by
  induction inserts with
  | here => exact ⟨intact, keyed_isKeyed _ _⟩
  | later free _ ih =>
      exact ih ((intact_append_iff intact (keyed_isKeyed _ _)).mpr free)

/-- **An insertion is refused only as a duplicate, and if it comes to a document that
collides.** -/
theorem insertFrom_refused_iff {kind : StoreErrorKind} :
    Refused kind (insertFrom place indexes present source documents).result ↔
      kind = .alreadyExists ∧
        ∃ attempt, Inserts indexes present source documents attempt ∧ attempt.Collides := by
  induction documents generalizing present source with
  | nil =>
      rw [insertFrom, refused_ok_iff]
      constructor
      · exact False.elim
      · rintro ⟨_, attempt, inserts, _⟩
        cases inserts
  | cons document rest ih =>
      cases found : firstCollision? indexes (keyed source document).1 present with
      | some collision =>
          have collides := exists_collides_of_firstCollision? found
          rw [insertFrom_of_collision place found, refused_error_iff, collision.error_kind,
            eq_comm]
          constructor
          · exact fun isKind => ⟨isKind, _, .here, collides⟩
          · exact And.left
      | none =>
          have free := (firstCollision?_eq_none_iff _ _ _).mp found
          rw [insertFrom_of_free place found, refused_map_iff, ih]
          refine and_congr_right fun _ => ?_
          constructor
          · rintro ⟨attempt, inserts, collides⟩
            exact ⟨attempt, .later free inserts, collides⟩
          · rintro ⟨attempt, inserts, collides⟩
            cases inserts with
            | here =>
                obtain ⟨other, isOther, collides⟩ := collides
                exact absurd collides (free other isOther)
            | later _ behind => exact ⟨attempt, behind, collides⟩

end

/-! ## Installations -/

/-- The writes that an installation comes to. It goes on behind an index that no two
documents violate. -/
inductive Installs : Collection → List Index → Attempt → Prop
  | here {collection : Collection} {index : Index} {rest : List Index} :
      Installs collection (index :: rest) (.install collection index)
  | later {collection : Collection} {index : Index} {rest : List Index} {attempt : Attempt}
      (free : ¬ (Attempt.install collection index).Collides)
      (behind : Installs (collection.withIndex index) rest attempt) :
      Installs collection (index :: rest) attempt

theorem violates_iff (collection : Collection) (index : Index) :
    (index.unique && hasRepeatedKey index collection.documents) = true ↔
      (Attempt.install collection index).Collides := by
  rw [Bool.and_eq_true, Attempt.Collides]
  refine and_congr_right fun _ => ?_
  rw [← Bool.not_eq_false, hasRepeatedKey_eq_false_iff, List.pairwise_iff_forall_sublist]
  simp

section

variable (place : Namespace) {collection : Collection} {indexes : List Index}

theorem createIndexes_of_violated {index : Index}
    (collides : (Attempt.install collection index).Collides) :
    createIndexes place collection (index :: indexes) =
      (collection, .error ⟨.createIndexes, .alreadyExists,
        s!"existing documents violate unique index {index.name}", some place.text, none⟩) := by
  rw [createIndexes, if_pos ((violates_iff collection index).mpr collides)]

theorem createIndexes_of_free {index : Index}
    (free : ¬ (Attempt.install collection index).Collides) :
    createIndexes place collection (index :: indexes) =
      ((createIndexes place (collection.withIndex index) indexes).1,
        (createIndexes place (collection.withIndex index) indexes).2.map (index.name :: ·)) := by
  rw [createIndexes, if_neg fun violated => free ((violates_iff collection index).mp violated)]
  rfl

/-- An index that no two documents violate can be installed. -/
theorem Intact.withIndex (intact : collection.Intact) {index : Index}
    (free : ¬ (Attempt.install collection index).Collides) :
    (collection.withIndex index).Intact := by
  have breaks : (Attempt.install collection index).Collides ↔
      ¬ (collection.withIndex index).Intact := Attempt.collides_iff intact trivial
  exact not_not.mp fun broken => free (breaks.mpr broken)

/-- An installation leaves an intact collection behind. -/
theorem createIndexes_intact (intact : collection.Intact) :
    (createIndexes place collection indexes).1.Intact := by
  induction indexes generalizing collection with
  | nil => exact intact
  | cons index rest ih =>
      by_cases collides : (Attempt.install collection index).Collides
      · rw [createIndexes_of_violated place collides]
        exact intact
      · rw [createIndexes_of_free place collides]
        exact ih (intact.withIndex collides)

/-- What an installation comes to starts from an intact collection. -/
theorem Installs.intact {attempt : Attempt} (installs : Installs collection indexes attempt)
    (intact : collection.Intact) : attempt.present.Intact ∧ attempt.Keyed := by
  induction installs with
  | here => exact ⟨intact, trivial⟩
  | later free _ ih => exact ih (intact.withIndex free)

/-- **An installation is refused only as a duplicate, and if it comes to an index that
two documents violate.** -/
theorem createIndexes_refused_iff {kind : StoreErrorKind} :
    Refused kind (createIndexes place collection indexes).2 ↔
      kind = .alreadyExists ∧
        ∃ attempt, Installs collection indexes attempt ∧ attempt.Collides := by
  induction indexes generalizing collection with
  | nil =>
      rw [createIndexes, refused_ok_iff]
      constructor
      · exact False.elim
      · rintro ⟨_, attempt, installs, _⟩
        cases installs
  | cons index rest ih =>
      by_cases collides : (Attempt.install collection index).Collides
      · rw [createIndexes_of_violated place collides, refused_error_iff, eq_comm]
        constructor
        · exact fun isKind => ⟨isKind, _, .here, collides⟩
        · exact And.left
      · rw [createIndexes_of_free place collides, refused_map_iff, ih]
        refine and_congr_right fun _ => ?_
        constructor
        · rintro ⟨attempt, installs, attemptCollides⟩
          exact ⟨attempt, .later collides installs, attemptCollides⟩
        · rintro ⟨attempt, installs, attemptCollides⟩
          cases installs with
          | here => exact absurd attemptCollides collides
          | later _ behind => exact ⟨attempt, behind, attemptCollides⟩

end

/-! ## Updates -/

/-- Writing fields over a document succeeds if they keep its primary key, and then
writes them all. -/
theorem overwritten_eq_some_iff {document : Document} (keyed : document.Keyed)
    (fields next : Document) :
    overwritten document fields = some next ↔
      document.KeepsKey fields ∧ next = Document.extend document fields := by
  induction fields generalizing document with
  | nil =>
      rw [overwritten, Option.some.injEq, eq_comm]
      constructor
      · intro equal
        exact ⟨fun _ _ isField => absurd isField List.not_mem_nil, equal⟩
      · exact And.right
  | cons field rest ih =>
      obtain ⟨name, value⟩ := field
      obtain ⟨id, found⟩ := keyed
      have behind := ih (Document.Keyed.insert ⟨id, found⟩ name value)
      by_cases isKey : name = FieldName.primaryKey
      · subst isKey
        rw [overwritten, found, Option.any_some]
        cases same : Json.same value id with
        | false =>
            rw [if_pos ⟨rfl, rfl⟩]
            constructor
            · intro impossible
              cases impossible
            · rintro ⟨keeps, _⟩
              rw [keeps value id List.mem_cons_self found] at same
              cases same
        | true =>
            rw [if_neg (by simp), behind, Document.extend_cons,
              Document.keepsKey_iff (Document.get?_insert_self document _ value),
              Document.keepsKey_iff found]
            refine and_congr_left fun _ => ?_
            have alike : ∀ other, Json.same other value = Json.same other id := by
              intro other
              rw [Json.same_comm other, Json.same_comm other, Json.same_congr_left same]
            constructor
            · intro keeps other isField
              rcases List.mem_cons.mp isField with isFirst | isBehind
              · rw [(Prod.mk.inj isFirst).2]
                exact same
              · exact (alike other).symm.trans (keeps other isBehind)
            · intro keeps other isField
              exact (alike other).trans (keeps other (List.mem_cons_of_mem _ isField))
      · have kept : Document.get? (Document.insert document name value) FieldName.primaryKey =
            some id := by
          rw [Document.get?_insert_of_ne document value (Ne.symm isKey), found]
        rw [overwritten, if_neg fun both => isKey both.1, behind, Document.extend_cons,
          Document.keepsKey_iff kept, Document.keepsKey_iff found]
        refine and_congr_left fun _ => ?_
        simp [Ne.symm isKey]

theorem overwritten_eq_none_iff {document : Document} (keyed : document.Keyed)
    (fields : Document) :
    overwritten document fields = none ↔ ¬ document.KeepsKey fields := by
  rw [Option.eq_none_iff_forall_ne_some]
  constructor
  · intro none keeps
    exact none _ ((overwritten_eq_some_iff keyed fields _).mpr ⟨keeps, rfl⟩)
  · intro changes next some
    exact changes ((overwritten_eq_some_iff keyed fields next).mp some).1

section

variable {update : Update} {indexes : List Index} {others : List Document} {document : Document}

/-- **Why a matched document is refused**: the update changes its primary key, or it
keeps the key and the changed document collides with another one. -/
theorem updatedDocument_refused_iff {kind : StoreErrorKind} (keyed : document.Keyed)
    (free : ∀ other ∈ others, ¬ Collides indexes document other) :
    Refused kind (updatedDocument update indexes others document) ↔
      (kind = .constraintViolation ∧ ¬ document.KeepsKey update.fields) ∨
        (kind = .alreadyExists ∧ document.KeepsKey update.fields ∧
          ∃ other ∈ others,
            Collides indexes (Document.extend document update.fields) other) := by
  by_cases keeps : document.KeepsKey update.fields
  · have written := (overwritten_eq_some_iff keyed update.fields _).mpr ⟨keeps, rfl⟩
    simp only [updatedDocument, written, keeps, not_true_eq_false, and_false, false_or, true_and]
    by_cases unchanged :
        Document.same (Document.extend document update.fields) document = true
    · rw [if_pos unchanged, refused_ok_iff, false_iff]
      rintro ⟨_, other, isOther, collides⟩
      exact free other isOther (collides.congr (Document.same_symm unchanged))
    · rw [if_neg unchanged]
      cases found : firstCollision? indexes (Document.extend document update.fields) others with
      | none =>
          have none := (firstCollision?_eq_none_iff _ _ _).mp found
          simp only [refused_ok_iff, false_iff]
          rintro ⟨_, other, isOther, collides⟩
          exact none other isOther collides
      | some collision =>
          have collides := exists_collides_of_firstCollision? found
          simp only [refused_error_iff, collision.error_kind, collides, and_true, eq_comm]
  · have refused := (overwritten_eq_none_iff keyed update.fields).mpr keeps
    simp only [updatedDocument, refused, refused_error_iff, immutableKey, keeps,
      not_false_eq_true, and_true, false_and, and_false, or_false, eq_comm]

/-- What a matched document becomes leaves an intact collection intact. -/
theorem updatedDocument_intact {before behind : List Document} {next : Document}
    (intact : Intact ⟨before ++ document :: behind, indexes⟩)
    (updated : updatedDocument update indexes (before ++ behind) document = .ok next) :
    Intact ⟨before ++ next :: behind, indexes⟩ := by
  have keyed : document.Keyed := intact.keyed document (by simp)
  unfold updatedDocument at updated
  split at updated
  · cases updated
  · next written overwrites =>
      have extended := ((overwritten_eq_some_iff keyed _ _).mp overwrites).2
      split at updated
      · cases updated
        exact intact
      · split at updated
        · cases updated
        · next free =>
            cases updated
            refine (intact_replace_iff intact ?_).mpr ((firstCollision?_eq_none_iff _ _ _).mp free)
            rw [extended]
            exact keyed.extend _

end

/-- The matched documents that an update comes to, each with those before it, as they
are by then, and those behind it. It goes on behind a document that does not match,
and behind one that it wrote if it is for many. -/
inductive Visits (update : Update) (indexes : List Index) :
    List Document → List Document → List Document → Document → List Document → Prop
  | here {before rest : List Document} {document : Document}
      (matched : Filter.holds document update.filter = .ok true) :
      Visits update indexes before (document :: rest) before document rest
  | passed {before rest earlier later : List Document} {document visited : Document}
      (unmatched : Filter.holds document update.filter = .ok false)
      (behind : Visits update indexes (before ++ [document]) rest earlier visited later) :
      Visits update indexes before (document :: rest) earlier visited later
  | written {before rest earlier later : List Document} {document next visited : Document}
      (matched : Filter.holds document update.filter = .ok true) (many : update.many = true)
      (updated : updatedDocument update indexes (before ++ rest) document = .ok next)
      (behind : Visits update indexes (before ++ [next]) rest earlier visited later) :
      Visits update indexes before (document :: rest) earlier visited later

section

variable {update : Update} {indexes : List Index} {before documents : List Document}
  {document : Document} (outcome : UpdateOutcome)

theorem updateFrom_of_fault {error : StoreError}
    (failed : Filter.holds document update.filter = .error error) :
    updateFrom update indexes before (document :: documents) outcome =
      (document :: documents, .error error) := by
  simp only [updateFrom, failed]

theorem updateFrom_of_unmatched (unmatched : Filter.holds document update.filter = .ok false) :
    updateFrom update indexes before (document :: documents) outcome =
      (document :: (updateFrom update indexes (before ++ [document]) documents outcome).1,
        (updateFrom update indexes (before ++ [document]) documents outcome).2) := by
  simp only [updateFrom, unmatched]

theorem updateFrom_of_refused (matched : Filter.holds document update.filter = .ok true)
    {error : StoreError}
    (refused : updatedDocument update indexes (before ++ documents) document = .error error) :
    updateFrom update indexes before (document :: documents) outcome =
      (document :: documents, .error error) := by
  simp only [updateFrom, matched, refused]

/-- Behind a written document an update for many goes on, and another one is done. -/
theorem updateFrom_of_written (matched : Filter.holds document update.filter = .ok true)
    {next : Document}
    (updated : updatedDocument update indexes (before ++ documents) document = .ok next) :
    updateFrom update indexes before (document :: documents) outcome =
      if update.many then
        (next :: (updateFrom update indexes (before ++ [next]) documents
            (counted outcome (!Document.same next document))).1,
          (updateFrom update indexes (before ++ [next]) documents
            (counted outcome (!Document.same next document))).2)
      else (next :: documents, .ok (counted outcome (!Document.same next document))) := by
  simp only [updateFrom, matched, updated]

/-- An update leaves an intact collection behind. -/
theorem updateFrom_intact (intact : Intact ⟨before ++ documents, indexes⟩) :
    Intact ⟨before ++ (updateFrom update indexes before documents outcome).1, indexes⟩ := by
  induction documents generalizing before outcome with
  | nil => exact intact
  | cons document rest ih =>
      cases matched : Filter.holds document update.filter with
      | error error =>
          rw [updateFrom_of_fault outcome matched]
          exact intact
      | ok verdict =>
          cases verdict with
          | false =>
              rw [updateFrom_of_unmatched outcome matched]
              rw [List.append_cons] at intact ⊢
              exact ih outcome intact
          | true =>
              cases updated : updatedDocument update indexes (before ++ rest) document with
              | error error =>
                  rw [updateFrom_of_refused outcome matched updated]
                  exact intact
              | ok next =>
                  have written := updatedDocument_intact intact updated
                  rw [updateFrom_of_written outcome matched updated]
                  cases update.many with
                  | false => exact written
                  | true =>
                      rw [List.append_cons] at written
                      rw [if_pos rfl, List.append_cons]
                      exact ih _ written

/-- What an update comes to is in an intact collection. -/
theorem Visits.intact {earlier later : List Document} {visited : Document}
    (visits : Visits update indexes before documents earlier visited later)
    (intact : Intact ⟨before ++ documents, indexes⟩) :
    Intact ⟨earlier ++ visited :: later, indexes⟩ := by
  induction visits with
  | here => exact intact
  | passed _ _ ih =>
      rw [List.append_cons] at intact
      exact ih intact
  | written _ _ updated _ ih =>
      have written := updatedDocument_intact intact updated
      rw [List.append_cons] at written
      exact ih written

/-- An update comes to nothing behind a fault. -/
theorem not_visits_of_fault {error : StoreError}
    (failed : Filter.holds document update.filter = .error error) {earlier later : List Document}
    {visited : Document} :
    ¬ Visits update indexes before (document :: documents) earlier visited later := by
  intro visits
  cases visits with
  | here matched | passed matched _ | written matched _ _ _ =>
      rw [failed] at matched
      cases matched

theorem visits_of_unmatched_iff
    (unmatched : Filter.holds document update.filter = .ok false) {earlier later : List Document}
    {visited : Document} :
    Visits update indexes before (document :: documents) earlier visited later ↔
      Visits update indexes (before ++ [document]) documents earlier visited later := by
  constructor
  · intro visits
    cases visits with
    | passed _ behind => exact behind
    | here matched | written matched _ _ _ =>
        rw [unmatched] at matched
        cases matched
  · exact .passed unmatched

theorem visits_of_matched_iff (matched : Filter.holds document update.filter = .ok true)
    {earlier later : List Document} {visited : Document} :
    Visits update indexes before (document :: documents) earlier visited later ↔
      (earlier = before ∧ visited = document ∧ later = documents) ∨
        update.many = true ∧
          ∃ next, updatedDocument update indexes (before ++ documents) document = .ok next ∧
            Visits update indexes (before ++ [next]) documents earlier visited later := by
  constructor
  · intro visits
    cases visits with
    | here _ => exact .inl ⟨rfl, rfl, rfl⟩
    | passed unmatched _ =>
        rw [matched] at unmatched
        cases unmatched
    | written _ many updated behind => exact .inr ⟨many, _, updated, behind⟩
  · rintro (⟨rfl, rfl, rfl⟩ | ⟨many, next, updated, behind⟩)
    · exact .here matched
    · exact .written matched many updated behind

/-- An update is refused if it is refused at a matched document that it comes to. -/
theorem updateFrom_refused_iff {kind : StoreErrorKind} (noFault : kind ≠ .databaseError) :
    Refused kind (updateFrom update indexes before documents outcome).2 ↔
      ∃ earlier visited later, Visits update indexes before documents earlier visited later ∧
        Refused kind (updatedDocument update indexes (earlier ++ later) visited) := by
  induction documents generalizing before outcome with
  | nil =>
      rw [updateFrom, refused_ok_iff, false_iff]
      rintro ⟨earlier, visited, later, visits, _⟩
      cases visits
  | cons document rest ih =>
      cases matched : Filter.holds document update.filter with
      | error error =>
          have fault := (Filter.holds_fault document update.filter matched).kind
          rw [updateFrom_of_fault outcome matched, refused_error_iff, fault]
          simp [noFault.symm, not_visits_of_fault matched]
      | ok verdict =>
          cases verdict with
          | false =>
              rw [updateFrom_of_unmatched outcome matched, ih outcome]
              simp only [visits_of_unmatched_iff matched]
          | true =>
              simp only [visits_of_matched_iff matched]
              cases updated : updatedDocument update indexes (before ++ rest) document with
              | error error =>
                  rw [updateFrom_of_refused outcome matched updated, refused_error_iff]
                  constructor
                  · intro isKind
                    refine ⟨before, document, rest, .inl ⟨rfl, rfl, rfl⟩, ?_⟩
                    rw [updated, refused_error_iff]
                    exact isKind
                  · rintro ⟨earlier, visited, later, here | ⟨_, next, other, _⟩, refused⟩
                    · obtain ⟨rfl, rfl, rfl⟩ := here
                      rw [updated, refused_error_iff] at refused
                      exact refused
                    · cases other
              | ok next =>
                  rw [updateFrom_of_written outcome matched updated]
                  constructor
                  · intro refused
                    cases many : update.many with
                    | false =>
                        rw [many, if_neg Bool.false_ne_true, refused_ok_iff] at refused
                        exact refused.elim
                    | true =>
                        rw [many, if_pos rfl, ih] at refused
                        obtain ⟨earlier, visited, later, visits, refused⟩ := refused
                        exact ⟨earlier, visited, later,
                          .inr ⟨rfl, next, rfl, visits⟩, refused⟩
                  · rintro
                      ⟨earlier, visited, later, here | ⟨many, other, equal, visits⟩, refused⟩
                    · obtain ⟨rfl, rfl, rfl⟩ := here
                      rw [updated, refused_ok_iff] at refused
                      exact refused.elim
                    · obtain rfl := Except.ok.inj equal
                      rw [if_pos many, ih]
                      exact ⟨earlier, visited, later, visits, refused⟩

end

/-- The writes that an update comes to: those at matched documents whose primary key
it keeps. -/
def Replaces (update : Update) (collection : Collection) (attempt : Attempt) : Prop :=
  ∃ earlier visited later,
    Visits update collection.indexes [] collection.documents earlier visited later ∧
      visited.KeepsKey update.fields ∧
        attempt = .replace collection.indexes earlier visited
          (Document.extend visited update.fields) later

/-- An update comes to a matched document whose primary key it changes. -/
def Rekeys (update : Update) (collection : Collection) : Prop :=
  ∃ earlier visited later,
    Visits update collection.indexes [] collection.documents earlier visited later ∧
      ¬ visited.KeepsKey update.fields

/-- The others of a matched document that an update comes to do not collide with it. -/
theorem Visits.free {update : Update} {collection : Collection} {earlier later : List Document}
    {visited : Document} (intact : collection.Intact)
    (visits : Visits update collection.indexes [] collection.documents earlier visited later) :
    visited.Keyed ∧ ∀ other ∈ earlier ++ later,
      ¬ Collides collection.indexes visited other :=
  ((intact_among_iff _ _ _ _).mp (visits.intact intact)).2

theorem Replaces.intact {update : Update} {collection : Collection} {attempt : Attempt}
    (replaces : Replaces update collection attempt) (intact : collection.Intact) :
    attempt.present.Intact ∧ attempt.Keyed := by
  obtain ⟨earlier, visited, later, visits, _, rfl⟩ := replaces
  exact ⟨visits.intact intact, (visits.free intact).1.extend update.fields⟩

section

variable {update : Update} {collection : Collection} (intact : collection.Intact)
  (outcome : UpdateOutcome)

include intact

/-- **An update is refused as a duplicate if it comes to a document that would
collide with another one.** -/
theorem updateFrom_duplicate_iff :
    Refused .alreadyExists
        (updateFrom update collection.indexes [] collection.documents outcome).2 ↔
      ∃ attempt, Replaces update collection attempt ∧ attempt.Collides := by
  rw [updateFrom_refused_iff outcome (by decide)]
  constructor
  · rintro ⟨earlier, visited, later, visits, refused⟩
    obtain ⟨keyed, free⟩ := visits.free intact
    rcases (updatedDocument_refused_iff keyed free).mp refused with
      ⟨other, _⟩ | ⟨_, keeps, collides⟩
    · cases other
    · exact ⟨_, ⟨earlier, visited, later, visits, keeps, rfl⟩, collides⟩
  · rintro ⟨attempt, ⟨earlier, visited, later, visits, keeps, rfl⟩, collides⟩
    obtain ⟨keyed, free⟩ := visits.free intact
    refine ⟨earlier, visited, later, visits, ?_⟩
    exact (updatedDocument_refused_iff keyed free).mpr (.inr ⟨rfl, keeps, collides⟩)

/-- **An update violates a constraint if it comes to a document whose primary key it
changes.** -/
theorem updateFrom_violation_iff :
    Refused .constraintViolation
        (updateFrom update collection.indexes [] collection.documents outcome).2 ↔
      Rekeys update collection := by
  rw [updateFrom_refused_iff outcome (by decide)]
  refine exists_congr fun earlier => exists_congr fun visited => exists_congr fun later =>
    and_congr_right fun visits => ?_
  obtain ⟨keyed, free⟩ := visits.free intact
  rw [updatedDocument_refused_iff keyed free]
  simp

end

end Collection

end Docket
