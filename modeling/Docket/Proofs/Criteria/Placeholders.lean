import Docket.Proofs.Criteria.Arguments

/-!
# Arguments cannot run out

Whoever makes criteria from an expression is asked for as many arguments as the text has
question marks. The text is cut only afterwards, and each clause whose value is the word `?`
takes an argument then. Nothing compares the two numbers again. Translation itself fails if
arguments run out, and it fails in this way exactly if the clauses at the beginning take all
arguments, and fit them, and the next clause asks for one more (`translate_eq_mismatch_iff`).
Where one group ends and the next begins does not matter (`groupFilters_eq_error_iff`).

If the numbers agreed, that cannot happen (`arguments_suffice`). Cutting a text at separators
that have no question marks keeps all that there are, and so does cutting a clause into words.
So clauses that ask have different question marks, and they are at most as many
(`countP_asks_le`). This is a fact about any text, whether it can be parsed or not. If it can,
the clauses that ask are those that take an argument (`countP_asks_of_parse`).
-/

set_option autoImplicit false

namespace Docket

namespace Expression

/-! ## Texts that ask -/

/-- The texts between the separators, of which each is to be a clause. -/
def clauseTexts (text : List Char) : List (List Char) :=
  (Text.splitOn orSeparator text).flatMap (Text.splitOn andSeparator)

/-- A text asks for an argument: it has three words, and the last of them is a question
mark. -/
def asks (text : List Char) : Bool :=
  match Text.words text with
  | [_, _, value] => value = Operand.placeholderWord
  | _ => false

/-- Cutting a text into clauses keeps its question marks. -/
theorem count_clauseTexts (text : List Char) :
    ((clauseTexts text).map (List.count '?')).sum = text.count '?' := by
  rw [clauseTexts, List.flatMap_def, List.map_flatten, List.sum_flatten, List.map_map,
    List.map_map, ← count_splitOn_or]
  exact congrArg List.sum (List.map_congr_left fun group _ => count_splitOn_and group)

theorem count_pos_of_asks {text : List Char} (isAsking : asks text = true) :
    0 < text.count '?' := by
  unfold asks at isAsking
  split at isAsking
  · next field operator value split =>
      obtain rfl := of_decide_eq_true isAsking
      rw [← Text.count_words (by decide), split, List.count_pos_iff]
      simp [Operand.placeholderWord]
  · cases isAsking

/-- **Clauses that ask have different question marks**, so that there are at least as many. -/
theorem countP_asks_le (text : List Char) : (clauseTexts text).countP asks ≤ text.count '?' := by
  rw [← count_clauseTexts]
  induction clauseTexts text with
  | nil => exact Nat.le_refl 0
  | cons first rest ih =>
      rw [List.countP_cons, List.map_cons, List.sum_cons]
      split
      · next isAsking =>
          have here := count_pos_of_asks isAsking
          omega
      · omega

end Expression

theorem Operand.ofWord_eq_placeholder_iff (word : List Char) :
    ofWord word = .placeholder ↔ word = placeholderWord := by
  unfold ofWord
  split <;> simp [*]

/-- A clause takes an argument if it was parsed from a text that asks. -/
theorem Clause.asks_of_parse {text : List Char} {clause : Clause}
    (parsed : parse text = .ok clause) :
    Expression.asks text = decide (clause.operand = .placeholder) := by
  unfold parse at parsed
  split at parsed
  · next field operator value words =>
      have asked : Expression.asks text = decide (value = Operand.placeholderWord) := by
        rw [Expression.asks, words]
      split at parsed
      · obtain rfl := Except.ok.inj parsed
        rw [asked]
        simp only [Operand.ofWord_eq_placeholder_iff]
      · cases parsed
  · cases parsed

namespace Expression

theorem countP_asks_of_parseGroup {text : List Char} {group : List Clause}
    (parsed : parseGroup text = .ok group) :
    (Text.splitOn andSeparator text).countP asks =
      group.countP fun clause => clause.operand = .placeholder := by
  have same := map_eq_of_mapM_eq_ok parsed fun _ _ => Clause.asks_of_parse
  have counted := congrArg (List.countP id) same
  rwa [List.countP_map, List.countP_map] at counted

/-- The clauses of an expression that take an argument are as many as the texts that ask. -/
theorem countP_asks_of_parse {text : List Char} {groups : List (List Clause)}
    (parsed : parse text = .ok groups) :
    (clauseTexts text).countP asks =
      groups.flatten.countP fun clause => clause.operand = .placeholder := by
  have same := map_eq_of_mapM_eq_ok parsed fun _ _ => countP_asks_of_parseGroup
  rw [clauseTexts, List.countP_flatMap, List.countP_flatten, ← same]
  rfl

/-! ## Translation without arguments left -/

variable (counts : Counts) (keepIdentifier : Bool)

theorem addClauses_cons (clause : Clause) (rest : List Clause) (base : Document)
    (values : List Json) :
    addClauses counts keepIdentifier (clause :: rest) base values =
      (takeValue counts clause.operand values).bind fun taken =>
        (clause.operator.constrain (storedField keepIdentifier clause.field) taken.1).bind
          fun condition => addClauses counts keepIdentifier rest
            (Document.insert base (storedField keepIdentifier clause.field) condition) taken.2 :=
  rfl

/-- Clauses are added after each other. -/
theorem addClauses_append (front back : List Clause) (base : Document) (values : List Json) :
    addClauses counts keepIdentifier (front ++ back) base values =
      (addClauses counts keepIdentifier front base values).bind fun taken =>
        addClauses counts keepIdentifier back taken.1 taken.2 := by
  induction front generalizing base values with
  | nil => rfl
  | cons clause rest ih =>
      simp only [List.cons_append, addClauses_cons, ih]
      cases takeValue counts clause.operand values with
      | error reason => rfl
      | ok taken =>
          dsimp only [Except.bind]
          cases clause.operator.constrain (storedField keepIdentifier clause.field) taken.1 <;> rfl

/-- What clauses are added to decides neither what fails nor which arguments are left. -/
theorem addClauses_rebase (clauses : List Clause) (base other : Document) (values : List Json) :
    (∃ reason, addClauses counts keepIdentifier clauses base values = .error reason ∧
        addClauses counts keepIdentifier clauses other values = .error reason) ∨
      ∃ filter extended left,
        addClauses counts keepIdentifier clauses base values = .ok (filter, left) ∧
          addClauses counts keepIdentifier clauses other values = .ok (extended, left) := by
  induction clauses generalizing base other values with
  | nil => exact .inr ⟨base, other, values, rfl, rfl⟩
  | cons clause rest ih =>
      rw [addClauses_cons, addClauses_cons]
      cases takeValue counts clause.operand values with
      | error reason => exact .inl ⟨reason, rfl, rfl⟩
      | ok taken =>
          dsimp only [Except.bind]
          cases clause.operator.constrain (storedField keepIdentifier clause.field) taken.1 with
          | error reason => exact .inl ⟨reason, rfl, rfl⟩
          | ok condition => exact ih _ _ _

theorem map_eq_error_iff {ε α β : Type} {result : Except ε α} {change : α → β}
    {error : ε} :
    result.map change = .error error ↔ result = .error error := by
  cases result with
  | error reason => simp only [Except.map, Except.error.injEq]
  | ok value => exact iff_of_false nofun nofun

theorem groupFilters_cons (group : List Clause) (others : List (List Clause))
    (values : List Json) :
    groupFilters counts keepIdentifier (group :: others) values =
      (addClauses counts keepIdentifier group [] values).bind fun taken =>
        (groupFilters counts keepIdentifier others taken.2).map (taken.1 :: ·) := by
  rw [groupFilters]
  cases addClauses counts keepIdentifier group [] values with
  | error reason => rfl
  | ok taken =>
      change (groupFilters counts keepIdentifier others taken.2).bind _ =
        (groupFilters counts keepIdentifier others taken.2).map _
      cases groupFilters counts keepIdentifier others taken.2 <;> rfl

/-- **Arguments are taken across groups**: groups fail as their clauses do in one group. -/
theorem groupFilters_eq_error_iff {groups : List (List Clause)} (base : Document)
    {values : List Json} {error : CriteriaError} :
    groupFilters counts keepIdentifier groups values = .error error ↔
      addClauses counts keepIdentifier groups.flatten base values = .error error := by
  induction groups generalizing base values with
  | nil => exact iff_of_false nofun nofun
  | cons group rest ih =>
      rw [groupFilters_cons, List.flatten_cons, addClauses_append]
      rcases addClauses_rebase counts keepIdentifier group [] base values with
        ⟨reason, alone, added⟩ | ⟨filter, extended, left, alone, added⟩
      · rw [alone, added]
        simp only [Except.bind, Except.error.injEq]
      · rw [alone, added]
        exact map_eq_error_iff.trans (ih extended)

end Expression

namespace Comparison

/-- Clauses are fed with arguments from the first to the last, or until a clause asks and all
arguments are taken. -/
theorem exists_fed (clauses : List Clause) (values : List Json) :
    ∃ (fed : List Comparison) (later : List Clause) (unused : List Json),
      clauses = fed.map clause ++ later ∧
        values = fed.flatMap (fun comparison => comparison.comparand.arguments) ++ unused ∧
        (later = [] ∨
          unused = [] ∧ ∃ asking behind, later = asking :: behind ∧
            asking.operand = .placeholder) := by
  induction clauses generalizing values with
  | nil => exact ⟨[], [], values, rfl, rfl, .inl rfl⟩
  | cons first rest ih =>
      rcases first with ⟨field, operator, _ | text⟩
      · cases values with
        | nil => exact ⟨[], _, [], rfl, rfl, .inr ⟨rfl, _, rest, rfl, rfl⟩⟩
        | cons value others =>
            obtain ⟨fed, later, unused, rfl, rfl, ends⟩ := ih others
            exact ⟨⟨field, operator, .argument value⟩ :: fed, later, unused, rfl, rfl, ends⟩
      · obtain ⟨fed, later, unused, rfl, rfl, ends⟩ := ih values
        exact ⟨⟨field, operator, .literal text⟩ :: fed, later, unused, rfl, rfl, ends⟩

end Comparison

namespace Expression

/-- Arguments run out on clauses: the first ones fit the arguments and take all of them, and
the next one asks for one more. -/
def RunsOut (clauses : List Clause) (values : List Json) : Prop :=
  ∃ (fed : List Comparison) (asking : Clause) (later : List Clause),
    clauses = fed.map Comparison.clause ++ asking :: later ∧
      (∀ comparison ∈ fed, comparison.Fits) ∧
      values = fed.flatMap (fun comparison => comparison.comparand.arguments) ∧
      asking.operand = .placeholder

/-- Clauses fail for lack of arguments exactly if these run out on them: one that asks for
membership is refused before. -/
theorem addClauses_eq_mismatch_iff {counts : Counts} {keepIdentifier : Bool}
    {clauses : List Clause} {base : Document} {values : List Json} {placeholders given : Nat} :
    addClauses counts keepIdentifier clauses base values =
        .error (.placeholderMismatch placeholders given) ↔
      RunsOut clauses values ∧ placeholders = counts.placeholders ∧
        given = counts.arguments := by
  constructor
  · intro failed
    obtain ⟨fed, later, unused, rfl, rfl, ends⟩ := Comparison.exists_fed clauses values
    rw [addClauses_append] at failed
    rcases forall_or_exists_firstWith Comparison.Fits fed with
      fits | ⟨misfit, earlier, behind, rfl, unfit, earlierFit⟩
    · rw [Comparison.addClauses_eq counts keepIdentifier fits] at failed
      rcases ends with rfl | ⟨rfl, asking, behind, rfl, isAsking⟩
      · cases failed
      · dsimp only [Except.bind] at failed
        rw [addClauses_cons, isAsking] at failed
        obtain ⟨rfl, rfl⟩ := CriteriaError.placeholderMismatch.inj (Except.error.inj failed)
        exact ⟨⟨fed, asking, behind, rfl, fits, List.append_nil _, isAsking⟩, rfl, rfl⟩
    · rw [Comparison.addClauses_of_misfit counts keepIdentifier
        (fun other isOther => not_not.mp (earlierFit other isOther)) unfit] at failed
      cases failed
  · rintro ⟨⟨fed, asking, later, rfl, fits, rfl, isAsking⟩, rfl, rfl⟩
    have taken := Comparison.addClauses_eq counts keepIdentifier fits base []
    rw [List.append_nil] at taken
    rw [addClauses_append, taken]
    dsimp only [Except.bind]
    rw [addClauses_cons, isAsking]
    rfl

/-- If arguments run out, there are fewer of them than clauses that take one. -/
theorem RunsOut.length_lt {clauses : List Clause} {values : List Json}
    (runsOut : RunsOut clauses values) :
    values.length < clauses.countP fun clause => clause.operand = .placeholder := by
  obtain ⟨fed, asking, later, rfl, _, rfl, isAsking⟩ := runsOut
  have taken : (fed.flatMap fun comparison => comparison.comparand.arguments).length =
      (fed.map Comparison.clause).countP fun clause => clause.operand = .placeholder := by
    have counted := Comparison.length_asking [fed]
    rw [← List.length_map, ← Comparison.arguments_eq_values_asking, Comparison.arguments,
      Comparison.clauses, List.map_singleton, List.flatten_singleton,
      List.flatten_singleton] at counted
    exact counted
  rw [taken, List.countP_append, List.countP_cons_of_pos (by simpa using isAsking)]
  omega

/-- Reading items fails only as reading one of them does. -/
theorem mapM_ne_error {α β ε : Type} {read : α → Except ε β} {error : ε}
    (never : ∀ item, read item ≠ .error error) (items : List α) :
    items.mapM read ≠ .error error := by
  induction items with
  | nil => exact nofun
  | cons first rest ih =>
      rw [List.mapM_cons]
      intro failed
      rcases Filter.bind_eq_error failed with here | ⟨result, _, failed⟩
      · exact never first here
      · rcases Filter.bind_eq_error failed with behind | ⟨results, _, returned⟩
        · exact ih behind
        · cases returned

theorem parse_ne_mismatch (text : List Char) (placeholders given : Nat) :
    parse text ≠ .error (.placeholderMismatch placeholders given) := by
  refine mapM_ne_error (fun group => mapM_ne_error (fun clause => ?_) _) _
  unfold Clause.parse
  split
  · split <;> exact nofun
  · exact nofun

theorem translate_of_parse_error {text : String} (notBlank : Text.trimmed text.toList ≠ [])
    {reason : CriteriaError} (failed : parse text.toList = .error reason) (values : List Json) :
    translate text values = .error reason := by
  have notEmpty : (Text.trimmed text.toList).isEmpty = false := by
    simpa [List.isEmpty_iff] using notBlank
  simp only [translate, notEmpty, failed]
  rfl

/-- **Translation lacks arguments exactly if they run out on the clauses of the text**, and
the error says how many question marks and arguments there were. -/
theorem translate_eq_mismatch_iff {text : String} {values : List Json} {placeholders given : Nat} :
    translate text values = .error (.placeholderMismatch placeholders given) ↔
      (∃ groups, parse text.toList = .ok groups ∧ RunsOut groups.flatten values) ∧
        placeholders = placeholderCount text ∧ given = values.length := by
  cases parsed : parse text.toList with
  | error reason =>
      refine iff_of_false (fun failed => ?_)
        (by rintro ⟨⟨groups, isParsed, _⟩, _⟩; cases isParsed)
      by_cases blank : Text.trimmed text.toList = []
      · rw [translate_of_blank blank] at failed
        cases failed
      · rw [translate_of_parse_error blank parsed] at failed
        obtain rfl := Except.error.inj failed
        exact parse_ne_mismatch _ _ _ parsed
  | ok groups =>
      rw [translate_of_parse parsed, map_eq_error_iff, groupFilters_eq_error_iff _ _ [],
        addClauses_eq_mismatch_iff]
      refine and_congr_left' ⟨fun runsOut => ⟨groups, rfl, runsOut⟩, ?_⟩
      rintro ⟨others, same, runsOut⟩
      obtain rfl := Except.ok.inj same
      exact runsOut

/-- **Arguments cannot run out.** In every text there are at most as many clauses that ask for
an argument as there are question marks; so translation never lacks an argument if there are
as many as question marks. -/
theorem arguments_suffice (text : String) :
    (clauseTexts text.toList).countP asks ≤ placeholderCount text ∧
      ∀ values : List Json, values.length = placeholderCount text →
        ∀ placeholders given,
          translate text values ≠ .error (.placeholderMismatch placeholders given) := by
  have atMost := countP_asks_le text.toList
  refine ⟨atMost, fun values counted placeholders given failed => ?_⟩
  obtain ⟨⟨groups, parsed, runsOut⟩, _⟩ := translate_eq_mismatch_iff.mp failed
  have fewer := runsOut.length_lt
  rw [← countP_asks_of_parse parsed, counted] at fewer
  exact absurd atMost (Nat.not_le_of_lt fewer)

theorem arguments_suffice_strayMark :
    [Json.string "x", .null, .array [.string "y"], .null].length =
        placeholderCount "id like ? OR b? = ? AND c in\t?" ∧
      (clauseTexts "id like ? OR b? = ? AND c in\t?".toList).countP asks = 3 ∧
      (∀ placeholders given,
        translate "id like ? OR b? = ? AND c in\t?"
            [.string "x", .null, .array [.string "y"], .null] ≠
          .error (.placeholderMismatch placeholders given)) ∧
      translate "id like ? OR b? = ? AND c in\t?" [.string "x", .null] =
        .error (.placeholderMismatch 4 2) :=
  ⟨rfl, rfl, (arguments_suffice "id like ? OR b? = ? AND c in\t?").2
    [.string "x", .null, .array [.string "y"], .null] rfl, rfl⟩

end Expression

end Docket
