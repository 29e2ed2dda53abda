import Mathlib.Data.List.Basic

/-!
# The first member of a list that has a property

A loop that stops at the first thing it cannot do reports that one. The member that it reports
is named by what stands before it: nothing there has the property.
-/

set_option autoImplicit false

namespace Docket

universe u

/-- The first member of a list that has a property. -/
def FirstWith {α : Type u} (property : α → Prop) (members : List α) (member : α) : Prop :=
  ∃ before behind, members = before ++ member :: behind ∧ property member ∧
    ∀ other ∈ before, ¬ property other

section

variable {α : Type u} {property : α → Prop}

theorem FirstWith.mem {members : List α} {member : α}
    (first : FirstWith property members member) : member ∈ members := by
  obtain ⟨before, behind, rfl, _⟩ := first
  exact List.mem_append_right before List.mem_cons_self

theorem FirstWith.holds {members : List α} {member : α}
    (first : FirstWith property members member) : property member := by
  obtain ⟨_, _, _, holds, _⟩ := first
  exact holds

theorem not_firstWith_nil (member : α) : ¬ FirstWith property [] member := by
  rintro ⟨before, behind, split, _⟩
  cases before <;> cases split

theorem firstWith_cons_iff {first member : α} {rest : List α} :
    FirstWith property (first :: rest) member ↔
      (property first ∧ member = first) ∨
        (¬ property first ∧ FirstWith property rest member) := by
  constructor
  · rintro ⟨before, behind, split, holds, none⟩
    cases before with
    | nil =>
        obtain ⟨rfl, rfl⟩ := List.cons.inj split
        exact .inl ⟨holds, rfl⟩
    | cons other others =>
        obtain ⟨rfl, rfl⟩ := List.cons.inj split
        obtain ⟨here, earlier⟩ := List.forall_mem_cons.mp none
        exact .inr ⟨here, others, behind, rfl, holds, earlier⟩
  · rintro (⟨holds, rfl⟩ | ⟨here, before, behind, rfl, holds, none⟩)
    · exact ⟨[], rest, rfl, holds, nofun⟩
    · exact ⟨first :: before, behind, rfl, holds, List.forall_mem_cons.mpr ⟨here, none⟩⟩

/-- The first member is in the front of a list, or none there has the property. -/
theorem firstWith_append_iff {front back : List α} {member : α} :
    FirstWith property (front ++ back) member ↔
      FirstWith property front member ∨
        ((∀ other ∈ front, ¬ property other) ∧ FirstWith property back member) := by
  induction front with
  | nil => simp [not_firstWith_nil]
  | cons first rest ih =>
      rw [List.cons_append, firstWith_cons_iff, firstWith_cons_iff, ih, List.forall_mem_cons]
      tauto

theorem exists_firstWith {members : List α} (some : ∃ member ∈ members, property member) :
    ∃ member, FirstWith property members member := by
  induction members with
  | nil =>
      obtain ⟨member, isMember, _⟩ := some
      cases isMember
  | cons first rest ih =>
      by_cases here : property first
      · exact ⟨first, firstWith_cons_iff.mpr (.inl ⟨here, rfl⟩)⟩
      · obtain ⟨member, isMember, holds⟩ := some
        rcases List.mem_cons.mp isMember with rfl | behind
        · exact absurd holds here
        · obtain ⟨found, isFirst⟩ := ih ⟨member, behind, holds⟩
          exact ⟨found, firstWith_cons_iff.mpr (.inr ⟨here, isFirst⟩)⟩

/-- A member is the first one if it is the only one. -/
theorem firstWith_iff_of_unique {members : List α}
    (unique : ∀ first ∈ members, ∀ second ∈ members, property first → property second →
      first = second) {member : α} :
    FirstWith property members member ↔ member ∈ members ∧ property member := by
  constructor
  · exact fun first => ⟨first.mem, first.holds⟩
  · rintro ⟨isMember, holds⟩
    obtain ⟨found, first⟩ := exists_firstWith ⟨member, isMember, holds⟩
    rwa [unique member isMember found first.mem holds first.holds]

/-- All members have a property, or there is a first one that does not. -/
theorem forall_or_exists_firstWith (property : α → Prop) (members : List α) :
    (∀ member ∈ members, property member) ∨
      ∃ member, FirstWith (fun member => ¬ property member) members member := by
  by_cases all : ∀ member ∈ members, property member
  · exact .inl all
  · push Not at all
    exact .inr (exists_firstWith all)

end

end Docket
