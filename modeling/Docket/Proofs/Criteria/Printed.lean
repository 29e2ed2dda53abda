import Docket.Criteria.Expression
import Docket.Proofs.Text.Words
import Mathlib.Algebra.GroupWithZero.Nat

/-!
# Printed expressions

A clause is printed as its three words with spaces between them. Clauses are
joined by AND to groups, and groups by OR to an expression. What is printed is
parsed back to the same groups (`parse_text`), provided that no word of a clause
is one of the two joining words, and that a question mark stands for nothing but
an argument.

The statement that carries this does not need the printed form: any text that
has the three words of a clause stands for the clause, whatever white space is
around them (`parse_joined`). Cutting the expression is the inverse of joining by
`Text.splitOn_joined`; that the word OR does not hide in a group follows because
the words of the group are those of its clauses and AND.
-/

set_option autoImplicit false

namespace Docket

namespace Operand

/-- The word of an operand. -/
def word : Operand → List Char
  | .placeholder => placeholderWord
  | .literal text => text.toList

end Operand

namespace Expression

/-- The word that joins groups. -/
def orWord : List Char := ['O', 'R']

/-- The word that joins clauses. -/
def andWord : List Char := ['A', 'N', 'D']

theorem orWord_isWord : Text.IsWord orWord := by
  decide

theorem andWord_isWord : Text.IsWord andWord := by
  decide

/-- A word of a clause: it joins nothing and takes no argument. -/
structure IsPlainWord (word : List Char) : Prop extends Text.IsWord word where
  ne_or : word ≠ orWord
  ne_and : word ≠ andWord
  noMark : '?' ∉ word

instance (word : List Char) : Decidable (IsPlainWord word) :=
  decidable_of_iff (Text.IsWord word ∧ word ≠ orWord ∧ word ≠ andWord ∧ '?' ∉ word)
    ⟨fun all => ⟨all.1, all.2.1, all.2.2.1, all.2.2.2⟩,
      fun plain => ⟨plain.toIsWord, plain.ne_or, plain.ne_and, plain.noMark⟩⟩

end Expression

namespace Clause

open Expression (IsPlainWord)

/-- The three words of a clause. -/
def words (clause : Clause) : List (List Char) :=
  [clause.field.toList, clause.operator.token.toList, clause.operand.word]

/-- The printed form of a clause. -/
def text (clause : Clause) : List Char :=
  clause.field.toList ++ ' ' :: (clause.operator.token.toList ++ ' ' :: clause.operand.word)

/-- A clause that can be printed: its field and its literal are plain words. -/
structure Printable (clause : Clause) : Prop where
  field : IsPlainWord clause.field.toList
  literal : ∀ text, clause.operand = .literal text → IsPlainWord text.toList

instance (clause : Clause) : Decidable clause.Printable :=
  decidable_of_iff (IsPlainWord clause.field.toList ∧
      (clause.operand = .placeholder ∨ IsPlainWord clause.operand.word)) <| by
    constructor
    · rintro ⟨field, takes | literal⟩
      · exact ⟨field, fun text equal => by rw [takes] at equal; cases equal⟩
      · exact ⟨field, fun text equal => by rwa [equal] at literal⟩
    · intro printable
      refine ⟨printable.field, ?_⟩
      cases operand : clause.operand with
      | placeholder => exact .inl rfl
      | literal text => exact .inr (printable.literal text operand)

theorem token_isPlainWord (operator : FilterOperator) : IsPlainWord operator.token.toList := by
  cases operator <;> decide

theorem Printable.operand_isWord {clause : Clause} (printable : clause.Printable) :
    Text.IsWord clause.operand.word := by
  cases operand : clause.operand with
  | placeholder =>
      show Text.IsWord Operand.placeholderWord
      decide
  | literal text => exact (printable.literal text operand).toIsWord

/-- The words of a printable clause do not join anything. -/
theorem Printable.ne_joining {clause : Clause} (printable : clause.Printable) {word : List Char}
    (member : word ∈ clause.words) :
    word ≠ Expression.orWord ∧ word ≠ Expression.andWord := by
  simp only [words, List.mem_cons, List.not_mem_nil, or_false] at member
  rcases member with rfl | rfl | rfl
  · exact ⟨printable.field.ne_or, printable.field.ne_and⟩
  · exact ⟨(token_isPlainWord _).ne_or, (token_isPlainWord _).ne_and⟩
  · cases operand : clause.operand with
    | placeholder => exact ⟨by decide, by decide⟩
    | literal text =>
        have plain := printable.literal text operand
        exact ⟨plain.ne_or, plain.ne_and⟩

/-- The words of a printed clause are its three words. -/
theorem Printable.words_text {clause : Clause} (printable : clause.Printable) :
    Text.words clause.text = clause.words := by
  rw [text, printable.field.toIsWord.words_append_blank Text.space_isBlank,
    (token_isPlainWord clause.operator).toIsWord.words_append_blank Text.space_isBlank,
    printable.operand_isWord.words_eq, words]

theorem Printable.ofWord_word {clause : Clause} (printable : clause.Printable) :
    Operand.ofWord clause.operand.word = clause.operand := by
  cases operand : clause.operand with
  | placeholder => rfl
  | literal text =>
      have differ : text.toList ≠ Operand.placeholderWord := by
        intro equal
        have noMark := (printable.literal text operand).noMark
        rw [equal] at noMark
        exact noMark (by decide)
      rw [Operand.word, Operand.ofWord, if_neg differ, String.ofList_toList]

/-- **A text with the three words of a clause is parsed as the clause.** -/
theorem Printable.parse_of_words {clause : Clause} (printable : clause.Printable)
    {text : List Char} (same : Text.words text = clause.words) :
    Clause.parse text = .ok clause := by
  rw [Clause.parse, same, words]
  simp only [String.ofList_toList, FilterOperator.ofToken?_token, printable.ofWord_word]

end Clause

namespace Expression

open Text (joined)

/-- Reading every item of a list, if none can fail. -/
theorem mapM_eq_ok {α β ε : Type} {read : α → Except ε β} {result : α → β}
    {items : List α}
    (reads : ∀ item ∈ items, read item = .ok (result item)) :
    items.mapM read = .ok (items.map result) := by
  induction items with
  | nil => rfl
  | cons first rest ih =>
      have here := reads first List.mem_cons_self
      have behind := ih fun item member => reads item (List.mem_cons_of_mem _ member)
      rw [List.mapM_cons, here, behind]
      rfl

/-! ## Parsing -/

/-- A group is parsed clause by clause, if AND is no word of any clause. -/
theorem parseGroup_joined {texts : List (List Char)} (nonempty : texts ≠ [])
    (absent : ∀ text ∈ texts, andWord ∉ Text.words text) :
    parseGroup (joined andWord texts) = texts.mapM Clause.parse := by
  have cut := Text.splitOn_joined andWord_isWord nonempty absent
  exact congrArg (List.mapM Clause.parse) cut

/-- OR is no word of a group if it is no word of any of its clauses. -/
theorem orWord_absent {texts : List (List Char)}
    (absent : ∀ text ∈ texts, orWord ∉ Text.words text) :
    orWord ∉ Text.words (joined andWord texts) := by
  intro member
  rcases Text.mem_words_joined andWord_isWord member with equal | ⟨text, isText, isWord⟩
  · exact absurd equal (by decide)
  · exact absent text isText isWord

/-- **An expression is parsed to the clauses that its texts stand for**, whatever the texts and
the clauses are of. -/
theorem parse_joined {α : Type} (text : α → List Char) (clause : α → Clause)
    {groups : List (List α)} (nonempty : groups ≠ [])
    (groupsNonempty : ∀ group ∈ groups, group ≠ [])
    (stands : ∀ group ∈ groups, ∀ item ∈ group,
      (clause item).Printable ∧ Text.words (text item) = (clause item).words) :
    parse (joined orWord (groups.map fun group => joined andWord (group.map text))) =
      .ok (groups.map fun group => group.map clause) := by
  have noOr : ∀ group ∈ groups, ∀ written ∈ group.map text,
      orWord ∉ Text.words written := by
    intro group isGroup written isText member
    obtain ⟨item, isItem, rfl⟩ := List.mem_map.mp isText
    obtain ⟨printable, same⟩ := stands group isGroup item isItem
    exact (printable.ne_joining (same ▸ member)).1 rfl
  have noAnd : ∀ group ∈ groups, ∀ written ∈ group.map text,
      andWord ∉ Text.words written := by
    intro group isGroup written isText member
    obtain ⟨item, isItem, rfl⟩ := List.mem_map.mp isText
    obtain ⟨printable, same⟩ := stands group isGroup item isItem
    exact (printable.ne_joining (same ▸ member)).2 rfl
  have cut : Text.splitOn orSeparator
      (joined orWord (groups.map fun group => joined andWord (group.map text))) =
        groups.map fun group => joined andWord (group.map text) := by
    refine Text.splitOn_joined orWord_isWord (by simpa using nonempty) fun written isText => ?_
    obtain ⟨group, isGroup, rfl⟩ := List.mem_map.mp isText
    exact orWord_absent (noOr group isGroup)
  rw [parse, cut, List.mapM_map]
  refine mapM_eq_ok fun group isGroup => ?_
  have groupNonempty : group.map text ≠ [] := by simpa using groupsNonempty group isGroup
  rw [Function.comp_apply, parseGroup_joined groupNonempty (noAnd group isGroup), List.mapM_map]
  refine mapM_eq_ok fun item isItem => ?_
  obtain ⟨printable, same⟩ := stands group isGroup item isItem
  exact printable.parse_of_words same

/-- A blank text is no expression. -/
theorem not_blank_of_parse {text : List Char} {groups : List (List Clause)}
    (parsed : parse text = .ok groups) : (Text.trimmed text).isEmpty = false := by
  refine Bool.eq_false_iff.mpr fun blank => ?_
  have noWords := Text.words_of_trimmed_eq_nil (List.isEmpty_iff.mp blank)
  have oneGroup : Text.splitOn orSeparator text = [text] :=
    Text.splitOn_spaced_of_absent orWord_isWord (by simp [noWords])
  have oneClause : Text.splitOn andSeparator text = [text] :=
    Text.splitOn_spaced_of_absent andWord_isWord (by simp [noWords])
  have malformed : Clause.parse text =
      .error (.malformedClause (String.ofList (Text.trimmed text))) := by
    rw [Clause.parse, noWords]
  rw [parse, oneGroup, List.mapM_cons, parseGroup, oneClause, List.mapM_cons, malformed] at parsed
  cases parsed

/-! ## Printing -/

/-- The printed form of groups of clauses. -/
def text (groups : List (List Clause)) : List Char :=
  joined orWord (groups.map fun group => joined andWord (group.map Clause.text))

/-- **What is printed is parsed back.** -/
theorem parse_text {groups : List (List Clause)} (nonempty : groups ≠ [])
    (groupsNonempty : ∀ group ∈ groups, group ≠ [])
    (printable : ∀ group ∈ groups, ∀ clause ∈ group, clause.Printable) :
    parse (text groups) = .ok groups := by
  have parsed := parse_joined Clause.text id nonempty groupsNonempty
    fun group isGroup clause isClause =>
      ⟨printable group isGroup clause isClause,
        (printable group isGroup clause isClause).words_text⟩
  simpa [text] using parsed

/-! ## Counting question marks -/

theorem count_joined {character : Char} {word : List Char} (absent : character ∉ Text.spaced word)
    (texts : List (List Char)) :
    (joined word texts).count character = (texts.map (List.count character)).sum := by
  induction texts with
  | nil => rfl
  | cons first others ih =>
      cases others with
      | nil => simp [Text.joined_singleton]
      | cons second others =>
          rw [Text.joined_cons_cons, List.count_append, List.count_append,
            List.count_eq_zero_of_not_mem absent, ih]
          simp

/-- A printed clause has a question mark exactly if it takes an argument. -/
theorem count_text_clause {clause : Clause} (printable : clause.Printable) :
    clause.text.count '?' = if clause.operand = .placeholder then 1 else 0 := by
  have inField := List.count_eq_zero_of_not_mem printable.field.noMark
  have inToken := List.count_eq_zero_of_not_mem (Clause.token_isPlainWord clause.operator).noMark
  rw [Clause.text, List.count_append, List.count_cons_of_ne (by decide), List.count_append,
    List.count_cons_of_ne (by decide), inField, inToken]
  cases operand : clause.operand with
  | placeholder => rfl
  | literal text =>
      have inLiteral := List.count_eq_zero_of_not_mem (printable.literal text operand).noMark
      simp [Operand.word, inLiteral]

/-- The question marks of a printed expression are its placeholders. -/
theorem placeholderCount_text {groups : List (List Clause)}
    (printable : ∀ group ∈ groups, ∀ clause ∈ group, clause.Printable) :
    placeholderCount (String.ofList (text groups)) =
      groups.flatten.countP fun clause => clause.operand = .placeholder := by
  have inGroup : ∀ group ∈ groups, (joined andWord (group.map Clause.text)).count '?' =
      group.countP fun clause => clause.operand = .placeholder := by
    intro group isGroup
    have clauses := printable group isGroup
    rw [count_joined (by decide), List.map_map]
    clear isGroup
    induction group with
    | nil => rfl
    | cons clause rest ih =>
        have behind := ih fun other member => clauses other (List.mem_cons_of_mem _ member)
        rw [List.map_cons, List.sum_cons, behind, Function.comp_apply,
          count_text_clause (clauses clause List.mem_cons_self), List.countP_cons]
        simp [Nat.add_comm]
  rw [placeholderCount, String.toList_ofList, text, count_joined (by decide), List.map_map,
    List.countP_flatten]
  exact congrArg List.sum (List.map_congr_left inGroup)

end Expression

end Docket
