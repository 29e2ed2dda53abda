import Docket.Text.Blank
import Mathlib.Data.List.TakeWhile

/-!
# Joining texts by words and cutting them again

Texts can be joined by a word between two spaces, and cut again wherever that
word stands between two spaces. Cutting undoes joining as soon as the word is no
word of any of the texts (`splitOn_joined`).

That is less obvious than it looks. Separators begin and end with a space, so an
occurrence could begin in one text and end behind it: a text that ends with a
space and the word lets the word be found too early. What excludes it is that a
word between blanks is always one of the words of the text
(`mem_words_of_prefix`), and that the words of texts with a blank between them
are the words of both (`words_append_blank`). So the condition is on words only,
and blanks of any kind may stand around them.
-/

set_option autoImplicit false

namespace Docket.Text

/-- A word has at least one character and no blank. -/
structure IsWord (word : List Char) : Prop where
  ne_nil : word ≠ []
  noBlank : ∀ character ∈ word, isBlank character = false

instance (word : List Char) : Decidable (IsWord word) :=
  decidable_of_iff (word ≠ [] ∧ word.all (fun character => !isBlank character) = true) <| by
    rw [List.all_eq_true]
    simp only [Bool.not_eq_true']
    exact ⟨fun both => ⟨both.1, both.2⟩, fun isWord => ⟨isWord.ne_nil, isWord.noBlank⟩⟩

/-! ## Pieces and words -/

theorem pieces_ne_nil (isCut : Char → Bool) (text : List Char) : pieces isCut text ≠ [] := by
  cases text with
  | nil => simp [pieces]
  | cons character rest =>
      simp only [pieces]
      split
      · simp
      · cases pieces isCut rest <;> simp [consFirst]

theorem consFirst_append (character : Char) {first : List (List Char)} (second : List (List Char))
    (nonempty : first ≠ []) :
    consFirst character (first ++ second) = consFirst character first ++ second := by
  cases first with
  | nil => exact absurd rfl nonempty
  | cons piece others => rfl

/-- A text is cut at a character apart from what stands before and behind it. -/
theorem pieces_append_cut {isCut : Char → Bool} {cut : Char} (cuts : isCut cut = true)
    (left right : List Char) :
    pieces isCut (left ++ cut :: right) = pieces isCut left ++ pieces isCut right := by
  induction left with
  | nil => simp [pieces, cuts]
  | cons character rest ih =>
      simp only [List.cons_append, pieces]
      split
      · rw [ih, List.cons_append]
      · rw [ih, consFirst_append character _ (pieces_ne_nil isCut rest)]

theorem pieces_of_noCut {isCut : Char → Bool} {text : List Char}
    (noCut : ∀ character ∈ text, isCut character = false) : pieces isCut text = [text] := by
  induction text with
  | nil => rfl
  | cons character rest ih =>
      have here : isCut character = false := noCut character List.mem_cons_self
      have behind := ih fun other member => noCut other (List.mem_cons_of_mem _ member)
      simp [pieces, here, behind, consFirst]

/-- **The words of two texts with a blank between them are the words of both.** -/
theorem words_append_blank {blank : Char} (isBlank : isBlank blank = true)
    (left right : List Char) : words (left ++ blank :: right) = words left ++ words right := by
  rw [words, pieces_append_cut isBlank, List.filter_append]
  rfl

theorem words_nil : words [] = [] := rfl

/-- A word has itself as its only word. -/
theorem IsWord.words_eq {word : List Char} (isWord : IsWord word) : words word = [word] := by
  have nonempty : word.isEmpty = false := by
    simpa [List.isEmpty_iff] using isWord.ne_nil
  simp [words, pieces_of_noCut isWord.noBlank, nonempty]

theorem IsWord.trimmedLeft_eq {word : List Char} (isWord : IsWord word) :
    trimmedLeft word = word := by
  rw [trimmedLeft, List.dropWhile_eq_self_iff]
  intro nonempty blank
  rw [isWord.noBlank _ (List.getElem_mem nonempty)] at blank
  cases blank

/-- There is nothing to trim at a word. -/
theorem IsWord.trimmed_eq {word : List Char} (isWord : IsWord word) : trimmed word = word := by
  have reversed : IsWord word.reverse :=
    ⟨List.reverse_ne_nil_iff.mpr isWord.ne_nil,
      fun character isCharacter => isWord.noBlank character (List.mem_reverse.mp isCharacter)⟩
  rw [trimmed, isWord.trimmedLeft_eq, reversed.trimmedLeft_eq, List.reverse_reverse]

/-- Blanks in front of a text add no words. -/
theorem words_append_of_blank {blanks : List Char}
    (blank : ∀ character ∈ blanks, isBlank character = true) (rest : List Char) :
    words (blanks ++ rest) = words rest := by
  induction blanks with
  | nil => rfl
  | cons character others ih =>
      have behind := ih fun other member => blank other (List.mem_cons_of_mem _ member)
      have split := words_append_blank (blank character List.mem_cons_self) [] (others ++ rest)
      rw [words_nil, List.nil_append, List.nil_append] at split
      rw [List.cons_append, split, behind]

/-- A text of blanks has no words. -/
theorem words_of_blank {text : List Char}
    (blank : ∀ character ∈ text, isBlank character = true) :
    words text = [] := by
  rw [← List.append_nil text, words_append_of_blank blank, words_nil]

/-- A text of which trimming leaves nothing has no words. -/
theorem words_of_trimmed_eq_nil {text : List Char} (nothing : trimmed text = []) :
    words text = [] := by
  rw [trimmed, List.reverse_eq_nil_iff, trimmedLeft, List.dropWhile_eq_nil_iff] at nothing
  refine words_of_blank fun character member => ?_
  rw [← List.takeWhile_append_dropWhile (p := isBlank) (l := text), List.mem_append] at member
  rcases member with leading | behind
  · exact List.mem_takeWhile_imp leading
  · exact nothing character (List.mem_reverse.mpr behind)

/-- A word in front of a blank is the first word of the text. -/
theorem IsWord.words_append_blank {word : List Char} (isWord : IsWord word) {blank : Char}
    (isBlank : isBlank blank = true) (rest : List Char) :
    words (word ++ blank :: rest) = word :: words rest := by
  rw [Text.words_append_blank isBlank, isWord.words_eq, List.singleton_append]

/-- A word in front of some blanks is the first word of the text. -/
theorem IsWord.words_append_blanks {word blanks : List Char} (isWord : IsWord word)
    (nonempty : blanks ≠ []) (blank : ∀ character ∈ blanks, isBlank character = true)
    (rest : List Char) : words (word ++ (blanks ++ rest)) = word :: words rest := by
  cases blanks with
  | nil => exact absurd rfl nonempty
  | cons character others =>
      obtain ⟨here, behind⟩ := List.forall_mem_cons.mp blank
      rw [List.cons_append, isWord.words_append_blank here, words_append_of_blank behind]

/-- Blanks behind a word add no words. -/
theorem IsWord.words_append_of_blank {word blanks : List Char} (isWord : IsWord word)
    (blank : ∀ character ∈ blanks, isBlank character = true) :
    words (word ++ blanks) = [word] := by
  cases blanks with
  | nil => rw [List.append_nil, isWord.words_eq]
  | cons character others =>
      obtain ⟨here, behind⟩ := List.forall_mem_cons.mp blank
      rw [isWord.words_append_blank here, words_of_blank behind]

/-- A word that stands at the start of a text, with a blank behind it, is a word
of the text, even if that blank stands behind the text. -/
theorem mem_words_of_prefix {word text rest : List Char} {inner outer : Char}
    (isWord : IsWord word) (innerBlank : isBlank inner = true) (outerBlank : isBlank outer = true)
    (starts : word ++ [inner] <+: text ++ outer :: rest) : word ∈ words text := by
  obtain ⟨behind, equal⟩ := starts
  rw [List.append_assoc, List.append_eq_append_iff] at equal
  rcases equal with ⟨more, rfl, _⟩ | ⟨more, rfl, equal⟩
  · cases more with
    | nil => simp [isWord.words_eq]
    | cons first others =>
        have : first = inner := by simp_all
        subst this
        simp [isWord.words_append_blank innerBlank]
  · cases more with
    | nil =>
        rw [List.append_nil] at isWord ⊢
        simp [isWord.words_eq]
    | cons first others =>
        have : first = outer := by simp_all
        subst this
        have notBlank := isWord.noBlank first (by simp)
        rw [outerBlank] at notBlank
        cases notBlank

/-! ## Cutting at a separator -/

/-- Passing over a whole beginning is cutting what is behind it. -/
theorem splitOnFrom_append (separator skipped rest : List Char) :
    splitOnFrom separator skipped.length (skipped ++ rest) = splitOnFrom separator 0 rest := by
  induction skipped with
  | nil => rfl
  | cons character others ih => exact ih

theorem splitOn_separator_append {separator : List Char} (nonempty : separator ≠ [])
    (rest : List Char) : splitOn separator (separator ++ rest) = [] :: splitOn separator rest := by
  cases separator with
  | nil => exact absurd rfl nonempty
  | cons first others =>
      have found : (first :: others).isPrefixOf (first :: (others ++ rest)) = true := by simp
      rw [splitOn, List.cons_append, splitOnFrom, if_pos found]
      exact congrArg ([] :: ·) (splitOnFrom_append (first :: others) others rest)

/-- A character at which no separator begins belongs to the first piece. -/
theorem splitOn_cons {separator : List Char} {character : Char} {rest : List Char}
    (absent : ¬ separator <+: character :: rest) :
    splitOn separator (character :: rest) = consFirst character (splitOn separator rest) := by
  have notFound : ¬ separator.isPrefixOf (character :: rest) = true := by
    rwa [List.isPrefixOf_iff_prefix]
  rw [splitOn, splitOnFrom, if_neg notFound]
  rfl

/-- A text is the first piece of what it begins if no separator begins in it. -/
theorem splitOn_append {separator piece rest : List Char} (nonempty : separator ≠ [])
    (absent : ∀ front back, piece = front ++ back → back ≠ [] →
      ¬ separator <+: back ++ separator ++ rest) :
    splitOn separator (piece ++ separator ++ rest) = piece :: splitOn separator rest := by
  induction piece with
  | nil => exact splitOn_separator_append nonempty rest
  | cons character others ih =>
      have here := absent [] (character :: others) rfl (List.cons_ne_nil _ _)
      have behind := ih fun front back equal =>
        absent (character :: front) back (by rw [equal, List.cons_append])
      have first : splitOn separator (character :: (others ++ separator ++ rest)) =
          consFirst character (splitOn separator (others ++ separator ++ rest)) :=
            splitOn_cons here
      rw [List.cons_append, List.cons_append, first, behind]
      rfl

/-- A text in which no separator begins is one piece. -/
theorem splitOn_of_absent {separator piece : List Char}
    (absent : ∀ front back, piece = front ++ back → back ≠ [] → ¬ separator <+: back) :
    splitOn separator piece = [piece] := by
  induction piece with
  | nil => rfl
  | cons character others ih =>
      have here := absent [] (character :: others) rfl (List.cons_ne_nil _ _)
      have behind := ih fun front back equal =>
        absent (character :: front) back (by rw [equal, List.cons_append])
      rw [splitOn_cons here, behind]
      rfl

/-! ## Joining with a word -/

theorem space_isBlank : isBlank ' ' = true := by
  decide

/-- A word between two spaces. -/
def spaced (word : List Char) : List Char :=
  ' ' :: word ++ [' ']

theorem spaced_ne_nil (word : List Char) : spaced word ≠ [] :=
  List.cons_ne_nil _ _

/-- A spaced word that begins in a text is a word of the text, even if the blank
behind it stands behind the text. -/
theorem mem_words_of_suffix {word front back : List Char} (isWord : IsWord word)
    (nonempty : back ≠ []) {outer : Char} (outerBlank : isBlank outer = true) {rest : List Char}
    (starts : spaced word <+: back ++ outer :: rest) : word ∈ words (front ++ back) := by
  cases back with
  | nil => exact absurd rfl nonempty
  | cons first others =>
      obtain ⟨rfl, behind⟩ := List.cons_prefix_cons.mp starts
      have member := mem_words_of_prefix isWord space_isBlank outerBlank behind
      rw [words_append_blank space_isBlank, List.mem_append]
      exact .inr member

/-- The first of joined texts is cut off if the word is none of its words. -/
theorem splitOn_spaced_append {word piece rest : List Char} (isWord : IsWord word)
    (absent : word ∉ words piece) :
    splitOn (spaced word) (piece ++ spaced word ++ rest) =
      piece :: splitOn (spaced word) rest := by
  refine splitOn_append (spaced_ne_nil word) fun front back equal nonempty starts => ?_
  rw [List.append_assoc] at starts
  subst equal
  exact absent (mem_words_of_suffix isWord nonempty space_isBlank starts)

/-- A text is not cut if the word is none of its words. -/
theorem splitOn_spaced_of_absent {word piece : List Char} (isWord : IsWord word)
    (absent : word ∉ words piece) : splitOn (spaced word) piece = [piece] := by
  refine splitOn_of_absent fun front back equal nonempty starts => ?_
  subst equal
  have longer : spaced word <+: back ++ ' ' :: [] := starts.trans (List.prefix_append _ _)
  exact absent (mem_words_of_suffix isWord nonempty space_isBlank longer)

/-- Texts joined by a word between two spaces. -/
def joined (word : List Char) (texts : List (List Char)) : List Char :=
  (spaced word).intercalate texts

theorem joined_singleton (word text : List Char) : joined word [text] = text :=
  List.intercalate_singleton

theorem joined_cons_cons (word first second : List Char) (others : List (List Char)) :
    joined word (first :: second :: others) =
      first ++ spaced word ++ joined word (second :: others) :=
  List.intercalate_cons_cons

/-- **Cutting undoes joining** if the word is no word of any of the texts. -/
theorem splitOn_joined {word : List Char} (isWord : IsWord word) {texts : List (List Char)}
    (nonempty : texts ≠ []) (absent : ∀ text ∈ texts, word ∉ words text) :
    splitOn (spaced word) (joined word texts) = texts := by
  induction texts with
  | nil => exact absurd rfl nonempty
  | cons first others ih =>
      have here := absent first List.mem_cons_self
      cases others with
      | nil => rw [joined_singleton, splitOn_spaced_of_absent isWord here]
      | cons second others =>
          have behind := ih (List.cons_ne_nil _ _) fun text member =>
            absent text (List.mem_cons_of_mem _ member)
          rw [joined_cons_cons, splitOn_spaced_append isWord here, behind]

/-- The words of joined texts are those of the texts, and the joining word. -/
theorem mem_words_joined {word other : List Char} (isWord : IsWord word)
    {texts : List (List Char)} (member : other ∈ words (joined word texts)) :
    other = word ∨ ∃ text ∈ texts, other ∈ words text := by
  induction texts with
  | nil => simp [joined, words, pieces] at member
  | cons first others ih =>
      cases others with
      | nil =>
          rw [joined_singleton] at member
          exact .inr ⟨first, List.mem_cons_self, member⟩
      | cons second others =>
          have layout : joined word (first :: second :: others) =
              first ++ ' ' :: (word ++ ' ' :: joined word (second :: others)) := by
            rw [joined_cons_cons, spaced]
            simp
          rw [layout, words_append_blank space_isBlank, isWord.words_append_blank space_isBlank,
            List.mem_append, List.mem_cons] at member
          rcases member with member | rfl | member
          · exact .inr ⟨first, List.mem_cons_self, member⟩
          · exact .inl rfl
          · rcases ih member with rfl | ⟨text, isText, isWordOfText⟩
            · exact .inl rfl
            · exact .inr ⟨text, List.mem_cons_of_mem _ isText, isWordOfText⟩

end Docket.Text
