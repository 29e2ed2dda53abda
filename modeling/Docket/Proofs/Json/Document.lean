import Docket.Vocabulary
import Mathlib.Data.List.Sort

/-!
# Documents as maps

A document lists its members in the ascending order of their names. Adding a
member keeps that order, so the members of a document that was built by adding
are exactly what its names are mapped to (`Sorted.mem_iff_get?`).

Writing members over a document adds them one after another. What a name is
mapped to afterwards is decided by the last of them that has the name, and by
the document if none has it (`get?_extend_eq_some_iff`). Members under different
names may be added in either order, and of two under one name the second replaces
the first, so writing members twice is writing them once (`extend_extend`).
-/

set_option autoImplicit false

namespace Docket.Document

/-! ## Order -/

/-- Members in the strictly ascending order of their names. -/
def Sorted (document : Document) : Prop :=
  document.Pairwise fun first second => first.1 < second.1

theorem lt_of_not_lt {left right : String} (differ : left ≠ right) (notLess : ¬ left < right) :
    right < left := by
  refine Decidable.byContradiction fun notGreater => ?_
  exact differ (String.le_antisymm (String.not_lt.mp notGreater) (String.not_lt.mp notLess))

theorem Sorted.nil : Sorted [] :=
  List.Pairwise.nil

theorem Sorted.single (name : String) (value : Json) : Sorted (single name value) :=
  List.pairwise_singleton _ _

/-- The names of a document after a member was added: the old ones and the new. -/
theorem name_of_mem_insert {document : Document} {name : String} {value : Json}
    {member : String × Json} (isMember : member ∈ insert document name value) :
    member.1 = name ∨ member ∈ document := by
  induction document with
  | nil =>
      simp only [insert, List.mem_singleton] at isMember
      exact .inl (congrArg Prod.fst isMember)
  | cons first rest ih =>
      obtain ⟨other, old⟩ := first
      simp only [insert] at isMember
      split at isMember
      · rcases List.mem_cons.mp isMember with rfl | behind
        · exact .inl rfl
        · exact .inr (List.mem_cons_of_mem _ behind)
      · split at isMember
        · rcases List.mem_cons.mp isMember with rfl | behind
          · exact .inl rfl
          · exact .inr behind
        · rcases List.mem_cons.mp isMember with rfl | behind
          · exact .inr List.mem_cons_self
          · rcases ih behind with equal | inRest
            · exact .inl equal
            · exact .inr (List.mem_cons_of_mem _ inRest)

/-- Adding a member keeps the order. -/
theorem Sorted.insert {document : Document} (sorted : Sorted document) (name : String)
    (value : Json) : Sorted (document.insert name value) := by
  induction document with
  | nil => exact .single name value
  | cons first rest ih =>
      obtain ⟨other, old⟩ := first
      obtain ⟨before, restSorted⟩ := List.pairwise_cons.mp sorted
      simp only [Document.insert]
      split
      · next equal =>
          refine List.pairwise_cons.mpr ⟨fun member isMember => ?_, restSorted⟩
          rw [← equal]
          exact before member isMember
      · next differ =>
          split
          · next less =>
              refine List.pairwise_cons.mpr ⟨fun member isMember => ?_, sorted⟩
              rcases List.mem_cons.mp isMember with rfl | behind
              · exact less
              · exact String.lt_trans less (before member behind)
          · next notLess =>
              refine List.pairwise_cons.mpr ⟨fun member isMember => ?_, ih restSorted⟩
              rcases name_of_mem_insert isMember with equal | behind
              · rw [equal]
                exact lt_of_not_lt (Ne.symm differ) notLess
              · exact before member behind

theorem Sorted.extend {document : Document} (sorted : Sorted document) (additions : Document) :
    Sorted (document.extend additions) := by
  induction additions generalizing document with
  | nil => exact sorted
  | cons member rest ih => exact ih (sorted.insert member.1 member.2)

/-- Taking a member away keeps the order. -/
theorem Sorted.erase {document : Document} (sorted : Sorted document) (name : String) :
    Sorted (document.erase name) :=
  sorted.sublist List.filter_sublist

theorem mem_erase_iff {document : Document} {name : String} {member : String × Json} :
    member ∈ document.erase name ↔ member ∈ document ∧ member.1 ≠ name := by
  rw [erase, List.mem_filter, decide_eq_true_eq]

theorem Sorted.live : Sorted live :=
  .single _ _

/-! ## Members and values -/

theorem mem_of_get? {document : Document} {name : String} {value : Json}
    (found : get? document name = some value) : (name, value) ∈ document := by
  induction document with
  | nil => cases found
  | cons first rest ih =>
      obtain ⟨other, old⟩ := first
      simp only [get?] at found
      split at found
      · next equal =>
          obtain rfl := Option.some.inj found
          rw [equal]
          exact List.mem_cons_self
      · exact List.mem_cons_of_mem _ (ih found)

/-- The members of a sorted document are what its names are mapped to. -/
theorem Sorted.mem_iff_get? {document : Document} (sorted : Sorted document) {name : String}
    {value : Json} : (name, value) ∈ document ↔ get? document name = some value := by
  refine ⟨fun isMember => ?_, mem_of_get?⟩
  induction document with
  | nil => cases isMember
  | cons first rest ih =>
      obtain ⟨before, restSorted⟩ := List.pairwise_cons.mp sorted
      rcases List.mem_cons.mp isMember with rfl | behind
      · simp [get?]
      · have differ : first.1 ≠ name := fun equal =>
          String.lt_irrefl name (equal ▸ before (name, value) behind)
        simp [get?, differ, ih restSorted behind]

/-- Sorted documents that map every name alike are the same. -/
theorem Sorted.ext {first second : Document} (firstSorted : Sorted first)
    (secondSorted : Sorted second) (alike : ∀ name, get? first name = get? second name) :
    first = second := by
  have irreflexive : Std.Irrefl fun left right : String × Json => left.1 < right.1 :=
    ⟨fun member => String.lt_irrefl member.1⟩
  have antisymmetric : Std.Antisymm fun left right : String × Json => left.1 < right.1 :=
    ⟨fun left _ less greater => absurd (String.lt_trans less greater) (String.lt_irrefl left.1)⟩
  refine List.Pairwise.eq_of_mem_iff firstSorted secondSorted ?_
  rintro ⟨name, value⟩
  rw [firstSorted.mem_iff_get?, secondSorted.mem_iff_get?, alike]

theorem get?_single_self (name : String) (value : Json) :
    get? (single name value) name = some value := by
  simp [single, get?]

theorem get?_single_of_ne {name other : String} (value : Json) (differ : other ≠ name) :
    get? (single name value) other = none := by
  simp [single, get?, differ.symm]

/-! ## Writing members over a document -/

theorem extend_cons (document : Document) (name : String) (value : Json) (rest : Document) :
    extend document ((name, value) :: rest) = extend (insert document name value) rest :=
  rfl

theorem extend_append (document first second : Document) :
    extend document (first ++ second) = extend (extend document first) second :=
  List.foldl_append

/-- A value is the last that members give a name. -/
def LastFor (members : Document) (name : String) (value : Json) : Prop :=
  ∃ earlier later, members = earlier ++ (name, value) :: later ∧
    ∀ member ∈ later, member.1 ≠ name

theorem LastFor.mem {members : Document} {name : String} {value : Json}
    (last : LastFor members name value) : (name, value) ∈ members := by
  obtain ⟨earlier, later, rfl, _⟩ := last
  exact List.mem_append_right earlier List.mem_cons_self

theorem exists_lastFor {members : Document} {name : String}
    (named : ∃ member ∈ members, member.1 = name) : ∃ value, LastFor members name value := by
  induction members with
  | nil => simp at named
  | cons first rest ih =>
      by_cases behind : ∃ member ∈ rest, member.1 = name
      · obtain ⟨value, earlier, later, equal, none⟩ := ih behind
        exact ⟨value, first :: earlier, later, by rw [equal, List.cons_append], none⟩
      · obtain ⟨member, isMember, equal⟩ := named
        rcases List.mem_cons.mp isMember with rfl | inRest
        · refine ⟨member.2, [], rest, by rw [← equal, List.nil_append], ?_⟩
          intro other isOther same
          exact behind ⟨other, isOther, same⟩
        · exact absurd ⟨member, inRest, equal⟩ behind

theorem get?_extend_of_unnamed {members : Document} {name : String}
    (unnamed : ∀ member ∈ members, member.1 ≠ name) (document : Document) :
    get? (extend document members) name = get? document name := by
  induction members generalizing document with
  | nil => rfl
  | cons first rest ih =>
      have here : name ≠ first.1 := (unnamed first List.mem_cons_self).symm
      have behind := ih fun member isMember => unnamed member (List.mem_cons_of_mem _ isMember)
      calc
        get? (extend document (first :: rest)) name
            = get? (extend (insert document first.1 first.2) rest) name := rfl
        _ = get? (insert document first.1 first.2) name := behind _
        _ = get? document name := get?_insert_of_ne document _ here

theorem get?_extend_of_lastFor {members : Document} {name : String} {value : Json}
    (last : LastFor members name value) (document : Document) :
    get? (extend document members) name = some value := by
  obtain ⟨earlier, later, rfl, unnamed⟩ := last
  rw [extend_append, extend_cons, get?_extend_of_unnamed unnamed, get?_insert_self]

/-- **The last member with a name decides**, and the document if there is none. -/
theorem get?_extend_eq_some_iff {document members : Document} {name : String} {value : Json} :
    get? (extend document members) name = some value ↔
      LastFor members name value ∨
        (∀ member ∈ members, member.1 ≠ name) ∧ get? document name = some value := by
  by_cases named : ∃ member ∈ members, member.1 = name
  · obtain ⟨last, isLast⟩ := exists_lastFor named
    have found := get?_extend_of_lastFor isLast document
    constructor
    · intro equal
      rw [found] at equal
      obtain rfl := Option.some.inj equal
      exact .inl isLast
    · rintro (other | ⟨unnamed, _⟩)
      · exact get?_extend_of_lastFor other document
      · obtain ⟨member, isMember, equal⟩ := named
        exact absurd equal (unnamed member isMember)
  · have unnamed : ∀ member ∈ members, member.1 ≠ name := fun member isMember equal =>
      named ⟨member, isMember, equal⟩
    rw [get?_extend_of_unnamed unnamed]
    refine ⟨fun found => .inr ⟨unnamed, found⟩, ?_⟩
    rintro (⟨earlier, later, rfl, _⟩ | ⟨_, found⟩)
    · exact absurd rfl (unnamed (name, value) (by simp))
    · exact found

/-! ## Writing twice -/

theorem insert_cons_self (name : String) (old value : Json) (rest : Document) :
    insert ((name, old) :: rest) name value = (name, value) :: rest := by
  rw [insert, if_pos rfl]

theorem insert_cons_of_lt {name other : String} (less : name < other) (old value : Json)
    (rest : Document) :
    insert ((other, old) :: rest) name value = (name, value) :: (other, old) :: rest := by
  have differ : other ≠ name := fun equal => String.lt_irrefl name (equal ▸ less)
  rw [insert, if_neg differ, if_pos less]

theorem insert_cons_of_gt {name other : String} (greater : other < name) (old value : Json)
    (rest : Document) :
    insert ((other, old) :: rest) name value = (other, old) :: insert rest name value := by
  have differ : other ≠ name := fun equal => String.lt_irrefl name (equal ▸ greater)
  have notLess : ¬ name < other := fun less =>
    String.lt_irrefl name (String.lt_trans less greater)
  rw [insert, if_neg differ, if_neg notLess]

theorem lt_or_eq_or_gt (left right : String) : left < right ∨ left = right ∨ right < left := by
  by_cases equal : left = right
  · exact .inr (.inl equal)
  · by_cases less : left < right
    · exact .inl less
    · exact .inr (.inr (lt_of_not_lt equal less))

/-- A member that is added again under its name replaces the first one. -/
theorem insert_insert (document : Document) (name : String) (first second : Json) :
    insert (insert document name first) name second = insert document name second := by
  induction document with
  | nil => exact insert_cons_self name first second []
  | cons member rest ih =>
      obtain ⟨other, old⟩ := member
      rcases lt_or_eq_or_gt name other with less | rfl | greater
      · rw [insert_cons_of_lt less, insert_cons_of_lt less, insert_cons_self]
      · rw [insert_cons_self, insert_cons_self, insert_cons_self]
      · rw [insert_cons_of_gt greater, insert_cons_of_gt greater, insert_cons_of_gt greater, ih]

theorem insert_comm_of_lt (document : Document) {first second : String} (less : first < second)
    (value other : Json) :
    insert (insert document first value) second other =
      insert (insert document second other) first value := by
  induction document with
  | nil =>
      have firstThenSecond := insert_cons_of_gt less value other []
      have secondThenFirst := insert_cons_of_lt less other value []
      exact firstThenSecond.trans secondThenFirst.symm
  | cons member rest ih =>
      obtain ⟨held, old⟩ := member
      rcases lt_or_eq_or_gt first held with before | rfl | behind
      · rw [insert_cons_of_lt before, insert_cons_of_gt less]
        rcases lt_or_eq_or_gt second held with here | rfl | later
        · rw [insert_cons_of_lt here, insert_cons_of_lt less]
        · rw [insert_cons_self, insert_cons_of_lt before]
        · rw [insert_cons_of_gt later, insert_cons_of_lt before]
      · rw [insert_cons_self, insert_cons_of_gt less, insert_cons_of_gt less, insert_cons_self]
      · have later := String.lt_trans behind less
        rw [insert_cons_of_gt behind, insert_cons_of_gt later, insert_cons_of_gt later,
          insert_cons_of_gt behind, ih]

/-- Members under two names may be added in either order. -/
theorem insert_comm (document : Document) {first second : String} (differ : first ≠ second)
    (value other : Json) :
    insert (insert document first value) second other =
      insert (insert document second other) first value := by
  rcases lt_or_eq_or_gt first second with less | equal | greater
  · exact insert_comm_of_lt document less value other
  · exact absurd equal differ
  · exact (insert_comm_of_lt document greater other value).symm

/-- A member is lost if its name is written later. -/
theorem extend_insert_of_named {members : Document} {name : String}
    (named : ∃ member ∈ members, member.1 = name) (document : Document) (value : Json) :
    extend (insert document name value) members = extend document members := by
  induction members generalizing document with
  | nil =>
      obtain ⟨_, isMember, _⟩ := named
      cases isMember
  | cons first rest ih =>
      obtain ⟨other, written⟩ := first
      rw [extend_cons, extend_cons]
      by_cases here : other = name
      · rw [here, insert_insert]
      · have behind : ∃ member ∈ rest, member.1 = name := by
          obtain ⟨member, isMember, isName⟩ := named
          rcases List.mem_cons.mp isMember with rfl | isBehind
          · exact absurd isName here
          · exact ⟨member, isBehind, isName⟩
        rw [insert_comm document (Ne.symm here), ih behind]

/-- A member may be added later if its name is not written. -/
theorem extend_insert_of_unnamed {members : Document} {name : String}
    (unnamed : ∀ member ∈ members, member.1 ≠ name) (document : Document) (value : Json) :
    extend (insert document name value) members = insert (extend document members) name value := by
  induction members generalizing document with
  | nil => rfl
  | cons first rest ih =>
      obtain ⟨here, behind⟩ := List.forall_mem_cons.mp unnamed
      rw [extend_cons, extend_cons, insert_comm document (Ne.symm here), ih behind]

/-- **Writing members twice is writing them once.** -/
theorem extend_extend (document members : Document) :
    extend (extend document members) members = extend document members := by
  induction members generalizing document with
  | nil => rfl
  | cons first rest ih =>
      obtain ⟨name, value⟩ := first
      rw [extend_cons, extend_cons]
      by_cases named : ∃ member ∈ rest, member.1 = name
      · rw [extend_insert_of_named named, ih]
      · push Not at named
        have again : insert (extend (insert document name value) rest) name value =
            extend (insert document name value) rest := by
          rw [extend_insert_of_unnamed named, insert_insert]
        rw [again, ih]

/-- In a sorted document every member is the last of its name. -/
theorem Sorted.lastFor_iff {document : Document} (sorted : Sorted document) {name : String}
    {value : Json} : LastFor document name value ↔ get? document name = some value := by
  rw [← sorted.mem_iff_get?]
  constructor
  · rintro ⟨earlier, later, rfl, _⟩
    simp
  · intro isMember
    obtain ⟨earlier, later, rfl⟩ := List.append_of_mem isMember
    obtain ⟨_, behind, _⟩ := List.pairwise_append.mp sorted
    refine ⟨earlier, later, rfl, fun member isLater equal => ?_⟩
    have less := (List.pairwise_cons.mp behind).1 member isLater
    exact String.lt_irrefl name (equal ▸ less)

/-- Members may be written over each other first, and then over a document. -/
theorem extend_extend_nil {base : Document} (sorted : Sorted base) (members : Document) :
    extend base (extend [] members) = extend base members := by
  have merged : Sorted (extend [] members) := Sorted.nil.extend members
  refine (sorted.extend _).ext (sorted.extend _) fun name => ?_
  by_cases named : ∃ member ∈ members, member.1 = name
  · obtain ⟨value, last⟩ := exists_lastFor named
    have again : LastFor (extend [] members) name value :=
      merged.lastFor_iff.mpr (get?_extend_of_lastFor last [])
    rw [get?_extend_of_lastFor again, get?_extend_of_lastFor last]
  · have unnamed : ∀ member ∈ members, member.1 ≠ name := fun member isMember equal =>
      named ⟨member, isMember, equal⟩
    have stillUnnamed : ∀ member ∈ extend [] members, member.1 ≠ name := by
      rintro ⟨other, value⟩ isMember rfl
      have found := merged.mem_iff_get?.mp isMember
      rw [get?_extend_of_unnamed unnamed] at found
      cases found
    rw [get?_extend_of_unnamed stillUnnamed, get?_extend_of_unnamed unnamed]

end Docket.Document
