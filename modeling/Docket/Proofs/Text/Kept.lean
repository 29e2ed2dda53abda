import Docket.Proofs.Text.Words
import Mathlib.Algebra.GroupWithZero.Nat

/-!
# What cutting keeps

Cutting a text at characters loses the characters that it is cut at and no other:
put together again, the pieces are the text without them (`flatten_pieces`). So the
words of a text have all of its characters but the blanks. If the text is cut at one
character only, that character between the pieces gives the text back
(`intercalate_pieces`).

Cutting at a separator loses whole occurrences of it. Which of its characters are left
depends on where occurrences overlap, but a character that the separator does not have
is left as often as it was there (`count_splitOn`).
-/

set_option autoImplicit false

namespace Docket.Text

theorem flatten_consFirst (character : Char) (pieces : List (List Char)) :
    (consFirst character pieces).flatten = character :: pieces.flatten := by
  cases pieces <;> rfl

/-- The pieces of a text are the text without what it was cut at. -/
theorem flatten_pieces (isCut : Char → Bool) (text : List Char) :
    (pieces isCut text).flatten = text.filter fun character => !isCut character := by
  induction text with
  | nil => rfl
  | cons character rest ih =>
      cases cuts : isCut character with
      | true => simp [pieces, cuts, ih]
      | false => simp [pieces, cuts, flatten_consFirst, ih]

theorem intercalate_consFirst (separator : List Char) (character : Char)
    {pieces : List (List Char)} (nonempty : pieces ≠ []) :
    separator.intercalate (consFirst character pieces) =
      character :: separator.intercalate pieces := by
  cases pieces with
  | nil => exact absurd rfl nonempty
  | cons piece others => cases others <;> simp [consFirst]

/-- **Pieces between occurrences of one character give the text back.** -/
theorem intercalate_pieces (cut : Char) (text : List Char) :
    [cut].intercalate (pieces (· == cut) text) = text := by
  induction text with
  | nil => simp [pieces]
  | cons character rest ih =>
      have nonempty := pieces_ne_nil (· == cut) rest
      by_cases isCut : character = cut
      · subst isCut
        simp [pieces, List.intercalate_cons_of_ne_nil nonempty, ih]
      · simp [pieces, isCut, intercalate_consFirst [cut] character nonempty, ih]

/-- The words of a text are the text without its blanks. -/
theorem flatten_words (text : List Char) :
    (words text).flatten = text.filter fun character => !isBlank character := by
  rw [words, List.flatten_filter_not_isEmpty, flatten_pieces]

/-- A character that is not blank occurs in the words as often as in the text. -/
theorem count_words {character : Char} (notBlank : isBlank character = false) (text : List Char) :
    (words text).flatten.count character = text.count character := by
  rw [flatten_words, List.count_filter]
  rw [notBlank, Bool.not_false]

/-- A text of which trimming leaves nothing has blanks only. -/
theorem count_of_trimmed_eq_nil {text : List Char} (nothing : trimmed text = []) {character : Char}
    (notBlank : isBlank character = false) : text.count character = 0 := by
  rw [← count_words notBlank, words_of_trimmed_eq_nil nothing]
  rfl

/-- What is passed over is not cut, and everything else keeps the characters that the
separator does not have. -/
theorem count_splitOnFrom {separator : List Char} (nonempty : separator ≠ []) {character : Char}
    (absent : character ∉ separator) (skipped : Nat) (text : List Char) :
    (splitOnFrom separator skipped text).flatten.count character =
      (text.drop skipped).count character := by
  induction text generalizing skipped with
  | nil => simp [splitOnFrom]
  | cons first rest ih =>
      cases skipped with
      | succ skipped =>
          rw [splitOnFrom, ih skipped, List.drop_succ_cons]
      | zero =>
          rw [splitOnFrom, List.drop_zero]
          by_cases found : separator.isPrefixOf (first :: rest) = true
          · obtain ⟨behind, equal⟩ := List.isPrefixOf_iff_prefix.mp found
            have passed : rest.drop (separator.length - 1) = behind := by
              have dropped := congrArg (List.drop separator.length) equal
              rw [List.drop_left] at dropped
              rw [dropped, ← List.drop_succ_cons (a := first),
                Nat.sub_add_cancel (List.length_pos_iff.mpr nonempty)]
            rw [if_pos found, List.flatten_cons, List.nil_append, ih, passed, ← equal,
              List.count_append, List.count_eq_zero_of_not_mem absent, Nat.zero_add]
          · rw [if_neg found, flatten_consFirst, List.count_cons, List.count_cons, ih,
              List.drop_zero]

/-- **A character that the separator does not have occurs in the pieces as often as in
the text.** -/
theorem count_splitOn {separator : List Char} (nonempty : separator ≠ []) {character : Char}
    (absent : character ∉ separator) (text : List Char) :
    ((splitOn separator text).map (List.count character)).sum = text.count character := by
  rw [← List.count_flatten, splitOn, count_splitOnFrom nonempty absent, List.drop_zero]

end Docket.Text
