import Docket.Proofs.Text.Kept
import Docket.Store.Basic

/-!
# What the name of an index tells

An index that was given no name is named after its keys: every field with its direction, all
joined by underscores. Underscores may stand in fields too, so the name does not tell the
keys. An index over the one field `a_1_b` has the name of an index over `a` and `b`.

A field is plain if none of the parts between its underscores is a direction, except for the
part in front, which no underscore comes before. In the name of an index over plain fields the
first direction behind the front is that of the first field, so the keys can be read off it:
indexes over plain fields have the same keys if they have the same name (`keys_eq_of_name_eq`).
-/

set_option autoImplicit false

namespace Docket.Index

/-- The parts of a name between its underscores. -/
def parts (name : String) : List (List Char) :=
  Text.pieces (· == '_') name.toList

/-- A direction, as it stands in the name of an index. -/
def directionPart (direction : OrderDirection) : List Char :=
  (toString direction.number).toList

/-- **A field is plain** if no part behind one of its underscores is a direction. -/
def PlainField (field : String) : Prop :=
  ∀ direction, directionPart direction ∉ (parts field).tail

instance (field : String) : Decidable (PlainField field) :=
  decidable_of_iff (directionPart .ascending ∉ (parts field).tail ∧
      directionPart .descending ∉ (parts field).tail)
    ⟨fun both direction => by cases direction <;> [exact both.1; exact both.2],
      fun plain => ⟨plain .ascending, plain .descending⟩⟩

/-- Every field of an index is plain. -/
def OverPlainFields (index : Index) : Prop :=
  ∀ key ∈ index.keys, PlainField key.1

instance (index : Index) : Decidable index.OverPlainFields :=
  inferInstanceAs (Decidable (∀ key ∈ index.keys, PlainField key.1))

/-- The parts of a name tell the name. -/
theorem parts_injective : Function.Injective parts := by
  intro first second equal
  apply String.toList_injective
  rw [← Text.intercalate_pieces '_' first.toList, ← Text.intercalate_pieces '_' second.toList]
  exact congrArg _ equal

/-- What a key contributes to the parts of the name of an index. -/
def keyParts (key : String × OrderDirection) : List (List Char) :=
  parts key.1 ++ [directionPart key.2]

theorem exists_parts (name : String) : ∃ first others, parts name = first :: others := by
  cases cut : parts name with
  | nil => exact absurd cut (Text.pieces_ne_nil _ _)
  | cons first others => exact ⟨first, others, rfl⟩

/-- A direction has no underscores. -/
theorem pieces_directionPart (direction : OrderDirection) :
    Text.pieces (· == '_') (directionPart direction) = [directionPart direction] := by
  cases direction <;> rfl

theorem toList_keyName (key : String × OrderDirection) :
    (keyName key).toList = key.1.toList ++ '_' :: directionPart key.2 := by
  simp [keyName, directionPart]

theorem parts_keyName (key : String × OrderDirection) :
    Text.pieces (· == '_') (keyName key).toList = keyParts key := by
  rw [toList_keyName, Text.pieces_append_cut (by decide), pieces_directionPart, keyParts, parts]

/-- **The parts of the name of an index** are those of its fields, each with its direction
behind it. -/
theorem parts_name {index : Index} (unnamed : index.givenName = none)
    (nonempty : index.keys ≠ []) :
    parts index.name = index.keys.flatMap keyParts := by
  obtain ⟨keys, unique, givenName⟩ := index
  obtain rfl : givenName = none := unnamed
  have text : (name ⟨keys, unique, none⟩).toList =
      ['_'].intercalate (keys.map fun key => (keyName key).toList) := by
    simp [name, Function.comp_def]
  rw [parts, text]
  clear text
  induction keys with
  | nil => exact absurd rfl nonempty
  | cons key rest ih =>
      cases rest with
      | nil => simp [parts_keyName]
      | cons next others =>
          have behind := ih (List.cons_ne_nil next others)
          rw [List.map_cons, List.map_cons, List.intercalate_cons_cons, List.append_assoc,
            List.singleton_append, Text.pieces_append_cut (by decide), parts_keyName,
            List.flatMap_cons, ← behind, List.map_cons]

/-- The parts of a name tell the direction. -/
theorem directionPart_injective : Function.Injective directionPart := by
  intro first second equal
  cases first <;> cases second
  · rfl
  · exact absurd equal (by decide)
  · exact absurd equal (by decide)
  · rfl

/-- The first key can be read off the parts, if its field is plain: the first direction behind
the front part is that of the first key, as no later part of a plain field is one. -/
theorem keyParts_append_inj {first second : String × OrderDirection}
    (firstPlain : PlainField first.1) (secondPlain : PlainField second.1)
    {firstRest secondRest : List (List Char)}
    (equal : keyParts first ++ firstRest = keyParts second ++ secondRest) :
    first = second ∧ firstRest = secondRest := by
  obtain ⟨front, others, isFirst⟩ := exists_parts first.1
  obtain ⟨otherFront, otherOthers, isSecond⟩ := exists_parts second.1
  have firstFree := firstPlain second.2
  have secondFree := secondPlain first.2
  rw [isFirst, List.tail_cons] at firstFree
  rw [isSecond, List.tail_cons] at secondFree
  simp only [keyParts, isFirst, isSecond, List.cons_append, List.append_assoc,
    List.nil_append, List.cons.injEq] at equal
  obtain ⟨rfl, behind⟩ := equal
  rcases List.append_eq_append_iff.mp behind with ⟨more, rfl, cut⟩ | ⟨more, rfl, cut⟩
  · cases more with
    | nil =>
        obtain ⟨direction, rest⟩ := List.cons.inj cut
        exact ⟨Prod.ext (parts_injective (by rw [isFirst, isSecond, List.append_nil]))
          (directionPart_injective direction), rest⟩
    | cons part _ =>
        obtain ⟨rfl, _⟩ := List.cons.inj cut
        exact absurd (List.mem_append_right _ List.mem_cons_self) secondFree
  · cases more with
    | nil =>
        obtain ⟨direction, rest⟩ := List.cons.inj cut
        exact ⟨Prod.ext (parts_injective (by rw [isFirst, isSecond, List.append_nil]))
          (directionPart_injective direction.symm), rest.symm⟩
    | cons part _ =>
        obtain ⟨rfl, _⟩ := List.cons.inj cut
        exact absurd (List.mem_append_right _ List.mem_cons_self) firstFree

/-- Keys over plain fields can be read off their parts. -/
theorem flatMap_keyParts_inj {first second : List (String × OrderDirection)}
    (firstPlain : ∀ key ∈ first, PlainField key.1)
    (secondPlain : ∀ key ∈ second, PlainField key.1)
    (equal : first.flatMap keyParts = second.flatMap keyParts) : first = second := by
  induction first generalizing second with
  | nil =>
      cases second with
      | nil => rfl
      | cons key rest => simp [keyParts] at equal
  | cons key rest ih =>
      cases second with
      | nil => simp [keyParts] at equal
      | cons other others =>
          obtain ⟨rfl, behind⟩ := keyParts_append_inj
            (firstPlain key List.mem_cons_self) (secondPlain other List.mem_cons_self)
            (by simpa only [List.flatMap_cons] using equal)
          rw [ih (fun key among => firstPlain key (List.mem_cons_of_mem _ among))
            (fun key among => secondPlain key (List.mem_cons_of_mem _ among)) behind]

theorem two_le_length_keyParts (key : String × OrderDirection) :
    2 ≤ (keyParts key).length := by
  obtain ⟨front, others, cut⟩ := exists_parts key.1
  simp [keyParts, cut]

/-- An index over no keys has a name of one part only. -/
theorem keys_eq_nil_iff {index : Index} (unnamed : index.givenName = none) :
    index.keys = [] ↔ (parts index.name).length = 1 := by
  constructor
  · intro none
    obtain ⟨keys, unique, givenName⟩ := index
    obtain rfl : givenName = Option.none := unnamed
    obtain rfl : keys = [] := none
    rfl
  · intro single
    by_contra nonempty
    obtain ⟨key, rest, keys⟩ := List.exists_cons_of_ne_nil nonempty
    rw [parts_name unnamed nonempty, keys, List.flatMap_cons, List.length_append] at single
    have := two_le_length_keyParts key
    omega

/-- **Indexes over plain fields have the same keys if they have the same name.** -/
theorem keys_eq_of_name_eq {first second : Index} (firstUnnamed : first.givenName = none)
    (secondUnnamed : second.givenName = none) (firstPlain : first.OverPlainFields)
    (secondPlain : second.OverPlainFields) (equal : first.name = second.name) :
    first.keys = second.keys := by
  by_cases none : first.keys = []
  · rw [none, eq_comm, keys_eq_nil_iff secondUnnamed, ← equal, ← keys_eq_nil_iff firstUnnamed,
      none]
  · have others : second.keys ≠ [] := by
      rw [ne_eq, keys_eq_nil_iff secondUnnamed, ← equal, ← keys_eq_nil_iff firstUnnamed]
      exact none
    apply flatMap_keyParts_inj firstPlain secondPlain
    rw [← parts_name firstUnnamed none, ← parts_name secondUnnamed others, equal]

end Docket.Index
