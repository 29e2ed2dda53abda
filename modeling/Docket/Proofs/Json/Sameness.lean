import Docket.Json.Basic

/-!
# Sameness up to the sign of zeros

Values that are the same up to the sign of zeros have the same size, if the size
is taken after negative zeros were replaced (`extent_eq_of_same`). An item of an
array and a value of an object are smaller than the whole. So no value is the
same as an item or a member of itself, however deep it is nested.

Documents that are the same have the same members: what one of them has under a
name is the same as what the other has there (`same_get?`).
-/

set_option autoImplicit false

namespace Docket.Json

theorem same_iff {left right : Json} :
    Json.same left right = true ↔ left.unsignedZeros = right.unsignedZeros := by
  rw [same, decide_eq_true_eq]

/-- The size of a value, in which zeros of both signs count alike. -/
noncomputable def extent (value : Json) : Nat :=
  sizeOf value.unsignedZeros

theorem extent_eq_of_same {left right : Json} (same : Json.same left right = true) :
    left.extent = right.extent := by
  rw [extent, extent, same_iff.mp same]

theorem unsignedZerosOfItems_eq_map (items : List Json) :
    unsignedZerosOfItems items = items.map unsignedZeros := by
  induction items with
  | nil => rfl
  | cons item rest ih => rw [unsignedZerosOfItems, ih, List.map_cons]

theorem unsignedZerosOfMembers_eq_map (members : Document) :
    unsignedZerosOfMembers members =
      members.map fun member => (member.1, member.2.unsignedZeros) := by
  induction members with
  | nil => rfl
  | cons member rest ih =>
      obtain ⟨name, value⟩ := member
      rw [unsignedZerosOfMembers, ih, List.map_cons]

/-- An item is smaller than the array. -/
theorem extent_lt_of_mem_items {items : List Json} {item : Json} (isItem : item ∈ items) :
    item.extent < (Json.array items).extent := by
  have inside : item.unsignedZeros ∈ items.map unsignedZeros := List.mem_map_of_mem isItem
  have less := List.sizeOf_lt_of_mem inside
  rw [extent, extent, unsignedZeros, unsignedZerosOfItems_eq_map, Json.array.sizeOf_spec]
  omega

/-- The value of a member is smaller than the object. -/
theorem extent_lt_of_mem_members {members : Document} {name : String} {value : Json}
    (isMember : (name, value) ∈ members) : value.extent < (Json.object members).extent := by
  have inside : (name, value.unsignedZeros) ∈
      members.map fun member => (member.1, member.2.unsignedZeros) :=
    List.mem_map_of_mem (f := fun member : String × Json => (member.1, member.2.unsignedZeros))
      isMember
  have less := List.sizeOf_lt_of_mem inside
  rw [Prod.mk.sizeOf_spec] at less
  rw [extent, extent, unsignedZeros, unsignedZerosOfMembers_eq_map, Json.object.sizeOf_spec]
  omega

/-- Values are the same as what replaces them if they are the same as they are. -/
theorem same_congr_left {first second : Json} (alike : Json.same first second = true)
    (other : Json) : Json.same first other = Json.same second other := by
  rw [same, same, same_iff.mp alike]

end Docket.Json

namespace Docket.Document

open Json (unsignedZeros unsignedZerosOfMembers)

theorem get?_unsignedZerosOfMembers (document : Document) (name : String) :
    get? (unsignedZerosOfMembers document) name = (get? document name).map unsignedZeros := by
  induction document with
  | nil => rfl
  | cons member rest ih =>
      obtain ⟨other, value⟩ := member
      rw [unsignedZerosOfMembers, get?, get?]
      split
      · rfl
      · exact ih

theorem same_iff {first second : Document} :
    Document.same first second = true ↔
      unsignedZerosOfMembers first = unsignedZerosOfMembers second :=
  Json.same_iff.trans ⟨Json.object.inj, congrArg Json.object⟩

/-- Documents that are the same have the same under every name. -/
theorem same_get? {first second : Document} (alike : Document.same first second = true)
    (name : String) :
    (get? first name).map unsignedZeros = (get? second name).map unsignedZeros := by
  rw [← get?_unsignedZerosOfMembers, ← get?_unsignedZerosOfMembers, same_iff.mp alike]

/-- A text that is written into a document either is there already or makes it another
document, as no zero is in a text. -/
theorem insert_eq_of_same {document : Document} {name text : String}
    (alike : Document.same (insert document name (.string text)) document = true) :
    insert document name (.string text) = document := by
  rw [same_iff] at alike
  induction document with
  | nil => cases alike
  | cons member rest ih =>
      obtain ⟨other, old⟩ := member
      rw [insert] at alike ⊢
      split at alike
      · next isName =>
          rw [unsignedZerosOfMembers, unsignedZerosOfMembers] at alike
          injection alike with first _
          cases old <;> simp_all [unsignedZeros]
      · next differ =>
          rw [if_neg differ]
          split at alike
          · have lengths := congrArg List.length alike
            simp [Json.unsignedZerosOfMembers_eq_map] at lengths
          · next notBefore =>
              rw [if_neg notBefore, ih]
              rw [unsignedZerosOfMembers, unsignedZerosOfMembers] at alike
              exact (List.cons.inj alike).2

end Docket.Document
