import Docket.Store.Ordering
import Mathlib.Order.Lattice

/-!
# Sorting is stable

Documents are sorted by insertion into a list that is kept last first. A document is
put before the first one that it does not precede, so it never passes a document that
compares equal to it. Sorting loses and repeats nothing, whatever the comparison is
(`sorted_perm`).

The comparison of documents is not an order for every kind of values: texts and numbers
are mixed by their JSON text, and timestamps among other texts are compared in two ways.
Where it is an order, by some rank that documents have, the result is in that order
(`pairwise_sorted`), and the documents of each rank are left as they were
(`filter_sorted`). These three facts determine the result.
-/

set_option autoImplicit false

namespace Docket.Sorting

variable (sort : List (String × OrderDirection))

/-! ## Nothing is lost -/

theorem place_perm (document : Document) (kept : List Document) :
    (place sort document kept).Perm (document :: kept) := by
  induction kept with
  | nil => exact List.Perm.refl _
  | cons last earlier ih =>
      rw [place]
      split
      · exact (ih.cons last).trans (List.Perm.swap document last earlier)
      · exact List.Perm.refl _

theorem foldl_place_perm (documents kept : List Document) :
    (documents.foldl (fun placed document => place sort document placed) kept).Perm
      (documents ++ kept) := by
  induction documents generalizing kept with
  | nil => exact List.Perm.refl _
  | cons document rest ih =>
      rw [List.foldl_cons]
      have inserted := (place_perm sort document kept).append_left rest
      exact (ih _).trans (inserted.trans List.perm_middle)

/-- **Sorting loses nothing and repeats nothing.** -/
theorem sorted_perm (documents : List Document) : (sorted sort documents).Perm documents := by
  have placed := foldl_place_perm sort documents []
  rw [List.append_nil] at placed
  exact (List.reverse_perm _).trans placed

/-! ## Order by a rank -/

section

variable {κ : Type} [LinearOrder κ]

/-- A sort goes by a rank of some documents: of two of them the one of smaller rank comes
first. -/
def GoesBy (rank : Document → κ) (documents : List Document) : Prop :=
  ∀ first ∈ documents, ∀ second ∈ documents,
    compareDocuments first second sort = .lt ↔ rank first < rank second

variable {sort} {rank : Document → κ}

theorem GoesBy.subset {documents others : List Document} (goesBy : GoesBy sort rank documents)
    (subset : others ⊆ documents) : GoesBy sort rank others :=
  fun first isFirst second isSecond => goesBy first (subset isFirst) second (subset isSecond)

/-- A sort goes by a rank of the same documents after one of them is put among others. -/
theorem GoesBy.placed {document : Document} {rest kept : List Document}
    (goesBy : GoesBy sort rank (document :: (rest ++ kept))) :
    GoesBy sort rank (document :: kept) ∧
      GoesBy sort rank (rest ++ place sort document kept) := by
  constructor
  · exact goesBy.subset (List.cons_subset_cons document (List.subset_append_right rest kept))
  · refine goesBy.subset fun other isOther => ?_
    have shuffled := ((place_perm sort document kept).append_left rest).trans List.perm_middle
    exact shuffled.mem_iff.mp isOther

theorem GoesBy.behind {document last : Document} {earlier : List Document}
    (goesBy : GoesBy sort rank (document :: last :: earlier)) :
    GoesBy sort rank (document :: earlier) :=
  goesBy.subset (List.cons_subset_cons document (List.subset_cons_self last earlier))

/-- What a document is put behind, in a list that is kept last first, is of smaller rank
or of the same. -/
theorem pairwise_place {document : Document} {kept : List Document}
    (goesBy : GoesBy sort rank (document :: kept))
    (ordered : kept.Pairwise fun later earlier => rank earlier ≤ rank later) :
    (place sort document kept).Pairwise fun later earlier => rank earlier ≤ rank later := by
  induction kept with
  | nil => exact List.pairwise_singleton _ _
  | cons last earlier ih =>
      obtain ⟨behindLast, restOrdered⟩ := List.pairwise_cons.mp ordered
      have compared := goesBy document List.mem_cons_self last
        (List.mem_cons_of_mem _ List.mem_cons_self)
      rw [place]
      split
      · next precedes =>
          refine List.pairwise_cons.mpr ⟨?_, ih goesBy.behind restOrdered⟩
          intro other isOther
          rcases List.mem_cons.mp ((place_perm sort document earlier).mem_iff.mp isOther) with
            rfl | isEarlier
          · exact le_of_lt (compared.mp precedes)
          · exact behindLast other isEarlier
      · next follows =>
          have lastLe : rank last ≤ rank document :=
            le_of_not_gt fun less => follows (compared.mpr less)
          refine List.pairwise_cons.mpr ⟨?_, ordered⟩
          intro other isOther
          rcases List.mem_cons.mp isOther with rfl | isEarlier
          · exact lastLe
          · exact (behindLast other isEarlier).trans lastLe

/-- Documents of one rank keep their order when a document is put among them, as it goes before
documents of greater rank only. -/
theorem filter_place {document : Document} {kept : List Document}
    (goesBy : GoesBy sort rank (document :: kept)) (value : κ) :
    (place sort document kept).filter (fun other => rank other = value) =
      (document :: kept).filter fun other => rank other = value := by
  induction kept with
  | nil => rfl
  | cons last earlier ih =>
      rw [place]
      split
      · next precedes =>
          have less := (goesBy document List.mem_cons_self last
            (List.mem_cons_of_mem _ List.mem_cons_self)).mp precedes
          rw [List.filter_cons, ih goesBy.behind, List.filter_cons, List.filter_cons,
            List.filter_cons]
          by_cases ofLast : rank last = value
          · have notHere : ¬ rank document = value := fun same => by
              rw [same, ofLast] at less
              exact lt_irrefl value less
            simp [ofLast, notHere]
          · simp [ofLast]
      · rfl

section

variable {documents kept : List Document} (goesBy : GoesBy sort rank (documents ++ kept))

include goesBy

theorem pairwise_foldl_place
    (ordered : kept.Pairwise fun later earlier => rank earlier ≤ rank later) :
    (documents.foldl (fun placed document => place sort document placed) kept).Pairwise
      fun later earlier => rank earlier ≤ rank later := by
  induction documents generalizing kept with
  | nil => exact ordered
  | cons document rest ih =>
      obtain ⟨here, behind⟩ := goesBy.placed
      rw [List.foldl_cons]
      exact ih behind (pairwise_place here ordered)

theorem filter_foldl_place (value : κ) :
    (documents.foldl (fun placed document => place sort document placed) kept).filter
        (fun other => rank other = value) =
      (documents.reverse ++ kept).filter fun other => rank other = value := by
  induction documents generalizing kept with
  | nil => rfl
  | cons document rest ih =>
      obtain ⟨here, behind⟩ := goesBy.placed
      rw [List.foldl_cons, ih behind, List.reverse_cons, List.append_assoc, List.filter_append,
        filter_place here, ← List.filter_append]
      rfl

end

variable {documents : List Document} (goesBy : GoesBy sort rank documents)

include goesBy

/-- **Sorted documents are in the order of their ranks.** -/
theorem pairwise_sorted :
    (sorted sort documents).Pairwise fun earlier later => rank earlier ≤ rank later := by
  rw [sorted, List.pairwise_reverse]
  refine pairwise_foldl_place ?_ List.Pairwise.nil
  rwa [List.append_nil]

/-- **Sorting leaves the documents of one rank in their order.** -/
theorem filter_sorted (value : κ) :
    (sorted sort documents).filter (fun document => rank document = value) =
      documents.filter fun document => rank document = value := by
  have among : GoesBy sort rank (documents ++ []) := by rwa [List.append_nil]
  rw [sorted, List.filter_reverse, filter_foldl_place among, List.append_nil,
    List.filter_reverse, List.reverse_reverse]

end

end Docket.Sorting
