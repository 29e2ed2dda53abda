import Docket.Codes
import Docket.Proofs.First
import Mathlib.Data.List.Nodup

/-!
# The history of a table of codes

Codes are added to a table one at a time, and an attempt that is refused leaves the table as
it was. A table that is built at some point so has a history: the codes that it started with,
and behind them those that were accepted since, in the order of the attempts.

The history decides everything about the table. Its codes are those of the history, put in
strictly ascending order of their numbers, and the reserved number is not among them
(`Holds`). An accepted code keeps this up with the history (`Holds.register`), so that every
list of attempts does (`Holds.attemptAll`). What a table accepts next, what it finds under a
number and under which code it reports a failure then follow from the history alone
(`Holds.answers`), whatever the table started from. Both tables that one can start from hold
their own codes, which gives the statement about all that can be built
(`answers_by_history`).
-/

set_option autoImplicit false

namespace Docket

/-- The number that a failure is to be reported under. Criteria and identifiers are faults of
the request. What the store did not find, or had already, has a number of its own. Everything
else is unknown to the one who asked. -/
inductive Failure.ReportedUnder : Failure → Int → Prop where
  | criteria (cause : CriteriaError) : ReportedUnder (.criteria cause) Code.parameterNumber
  | id (cause : IdError) : ReportedUnder (.id cause) Code.parameterNumber
  | notFound {failure : Failure} (kind : failure.storeKind? = some .notFound) :
      ReportedUnder failure Code.notFoundNumber
  | alreadyExists {failure : Failure} (kind : failure.storeKind? = some .alreadyExists) :
      ReportedUnder failure Code.repeatNumber
  | unknown {failure : Failure} (noCriteria : ∀ cause, failure ≠ .criteria cause)
      (noId : ∀ cause, failure ≠ .id cause) (found : failure.storeKind? ≠ some .notFound)
      (fresh : failure.storeKind? ≠ some .alreadyExists) :
      ReportedUnder failure Code.reservedNumber

namespace CodeTable

/-! ## Attempts -/

/-- The table after an attempt to add a code. A refused code leaves the table as it was. -/
def attempt (table : CodeTable) (code : Code) : CodeTable :=
  (table.register code).toOption.getD table

/-- The table after attempts, one after another. -/
def attemptAll (table : CodeTable) (codes : List Code) : CodeTable :=
  codes.foldl attempt table

/-- The codes that are accepted in attempts, each by the table that the ones before it left. -/
def accepted (table : CodeTable) : List Code → List Code
  | [] => []
  | code :: rest =>
      match table.register code with
      | .ok next => code :: accepted next rest
      | .error _ => accepted table rest

/-- The codes of a table are those of a history, in strictly ascending order of their numbers
and without the reserved one. -/
structure Holds (table : CodeTable) (history : List Code) : Prop where
  perm : table.codes.Perm history
  ascending : table.codes.Pairwise fun first second => first.number < second.number
  unreserved : ∀ code ∈ table.codes, code.number ≠ Code.reservedNumber

theorem empty_holds : empty.Holds [] :=
  ⟨.nil, .nil, nofun⟩

theorem builtin_holds : builtin.Holds Code.builtin :=
  ⟨.refl _, by decide, by decide⟩

/-! ## One attempt -/

theorem place_perm (code : Code) (codes : List Code) :
    (place code codes).Perm (code :: codes) := by
  induction codes with
  | nil => exact .refl _
  | cons other rest ih =>
      rw [place]
      split
      · exact .refl _
      · exact (ih.cons other).trans (.swap code other rest)

/-- A code with a new number is put where the order asks for it. -/
theorem ascending_place {code : Code} {codes : List Code}
    (ascending : codes.Pairwise fun first second => first.number < second.number)
    (fresh : ∀ other ∈ codes, other.number ≠ code.number) :
    (place code codes).Pairwise fun first second => first.number < second.number := by
  induction codes with
  | nil => exact List.pairwise_singleton _ _
  | cons other rest ih =>
      obtain ⟨least, behind⟩ := List.pairwise_cons.mp ascending
      obtain ⟨differs, freshBehind⟩ := List.forall_mem_cons.mp fresh
      rw [place]
      split
      · next before =>
          refine List.pairwise_cons.mpr ⟨List.forall_mem_cons.mpr ⟨before, ?_⟩, ascending⟩
          exact fun later isLater => Int.lt_trans before (least later isLater)
      · next notBefore =>
          have after : other.number < code.number := by omega
          refine List.pairwise_cons.mpr ⟨fun later isLater => ?_, ih behind freshBehind⟩
          rcases List.mem_cons.mp ((place_perm code rest).mem_iff.mp isLater) with rfl | isRest
          · exact after
          · exact least later isRest

theorem isSome_added?_iff (table : CodeTable) (number : Int) :
    (table.added? number).isSome = true ↔ ∃ code ∈ table.codes, code.number = number := by
  simp [added?]

/-- What is accepted, and what becomes of the table. -/
theorem register_eq_ok_iff {table next : CodeTable} {code : Code} :
    table.register code = .ok next ↔
      code.number ≠ Code.reservedNumber ∧
        (∀ other ∈ table.codes, other.number ≠ code.number) ∧
        next = ⟨place code table.codes⟩ := by
  unfold register
  split
  · next reserved => simp [reserved]
  · next unreserved =>
      split
      · next taken =>
          obtain ⟨other, isOther, same⟩ := (isSome_added?_iff table code.number).mp taken
          exact iff_of_false nofun fun all => all.2.1 other isOther same
      · next free =>
          have fresh : ∀ other ∈ table.codes, other.number ≠ code.number :=
            fun other isOther same =>
              free ((isSome_added?_iff table code.number).mpr ⟨other, isOther, same⟩)
          simp only [Except.ok.injEq]
          exact ⟨fun equal => ⟨unreserved, fresh, equal.symm⟩, fun all => all.2.2.symm⟩

namespace Holds

variable {table : CodeTable} {history : List Code}

/-- **An accepted code is the last of the history**, and nothing else changes. -/
theorem register (holds : table.Holds history) {code : Code} {next : CodeTable}
    (accepted : table.register code = .ok next) : next.Holds (history ++ [code]) := by
  obtain ⟨unreserved, fresh, rfl⟩ := register_eq_ok_iff.mp accepted
  refine ⟨?_, ascending_place holds.ascending fresh, fun other isOther => ?_⟩
  · have placed := (place_perm code table.codes).trans (holds.perm.cons code)
    exact placed.trans (List.perm_append_singleton code history).symm
  · rcases List.mem_cons.mp ((place_perm code table.codes).mem_iff.mp isOther) with rfl | isOld
    · exact unreserved
    · exact holds.unreserved other isOld

/-- **After any attempts a table holds what it held before and what was accepted.** -/
theorem attemptAll (holds : table.Holds history) (attempts : List Code) :
    (table.attemptAll attempts).Holds (history ++ table.accepted attempts) := by
  induction attempts generalizing table history with
  | nil => simpa [CodeTable.attemptAll, accepted] using holds
  | cons code rest ih =>
      rw [CodeTable.attemptAll, List.foldl_cons, attempt, accepted]
      cases result : table.register code with
      | error cause => exact ih holds
      | ok next =>
          have behind := ih (holds.register result)
          rw [List.append_assoc] at behind
          exact behind

/-! ## What a table answers -/

theorem mem_codes_iff (holds : table.Holds history) (code : Code) :
    code ∈ table.codes ↔ code ∈ history :=
  holds.perm.mem_iff

theorem unreserved_history (holds : table.Holds history) {code : Code}
    (isEntry : code ∈ history) : code.number ≠ Code.reservedNumber :=
  holds.unreserved code ((holds.mem_codes_iff code).mpr isEntry)

/-- A number has one code at most. -/
theorem distinct (holds : table.Holds history) : (history.map Code.number).Nodup := by
  rw [← (holds.perm.map Code.number).nodup_iff, List.Nodup, List.pairwise_map]
  exact holds.ascending.imp Int.ne_of_lt

theorem unique (holds : table.Holds history) {first second : Code} (isFirst : first ∈ history)
    (isSecond : second ∈ history) (same : first.number = second.number) : first = second :=
  List.inj_on_of_nodup_map holds.distinct isFirst isSecond same

theorem added?_eq_some_iff (holds : table.Holds history) {number : Int} {code : Code} :
    table.added? number = some code ↔ code ∈ history ∧ code.number = number := by
  constructor
  · intro found
    have isCode := (holds.mem_codes_iff code).mp (List.mem_of_find?_eq_some found)
    exact ⟨isCode, by simpa using List.find?_some found⟩
  · rintro ⟨isEntry, rfl⟩
    have some := (isSome_added?_iff table code.number).mpr
      ⟨code, (holds.mem_codes_iff code).mpr isEntry, rfl⟩
    obtain ⟨found, isFound⟩ := Option.isSome_iff_exists.mp some
    have inTable := (holds.mem_codes_iff found).mp (List.mem_of_find?_eq_some isFound)
    have sameNumber : found.number = code.number := by simpa using List.find?_some isFound
    rw [isFound, holds.unique inTable isEntry sameNumber]

theorem get?_eq_some_iff (holds : table.Holds history) {number : Int}
    (unreserved : number ≠ Code.reservedNumber) {code : Code} :
    table.get? number = some code ↔
      FirstWith (fun entry => entry.number = number) history code := by
  rw [get?, if_neg unreserved, holds.added?_eq_some_iff, firstWith_iff_of_unique]
  intro first isFirst second isSecond here there
  exact holds.unique isFirst isSecond (here.trans there.symm)

theorem contains_iff (holds : table.Holds history) (number : Int) :
    table.contains number = true ↔
      number = Code.reservedNumber ∨ ∃ entry ∈ history, entry.number = number := by
  unfold contains get?
  split
  · next reserved => simp [reserved]
  · next unreserved =>
      simp only [isSome_added?_iff, holds.mem_codes_iff, unreserved, false_or]

theorem lookUp_entry (holds : table.Holds history) {entry : Code} (isEntry : entry ∈ history) :
    table.lookUp entry.number = entry := by
  have found := holds.added?_eq_some_iff.mpr ⟨isEntry, rfl⟩
  rw [lookUp, get?, if_neg (holds.unreserved_history isEntry), found]
  rfl

end Holds

/-- The code under a number that a table has is of this number. -/
theorem number_lookUp {table : CodeTable} {number : Int} (has : table.contains number = true) :
    (table.lookUp number).number = number := by
  unfold contains at has
  obtain ⟨code, found⟩ := Option.isSome_iff_exists.mp has
  have isCode : table.lookUp number = code := by
    rw [lookUp, found]
    rfl
  rw [isCode]
  unfold get? at found
  split at found
  · next reserved =>
      obtain rfl := Option.some.inj found
      exact reserved.symm
  · simpa using List.find?_some found

theorem lookUp_of_not_contains {table : CodeTable} {number : Int}
    (lacks : table.contains number = false) : table.lookUp number = .unknown := by
  have nothing : table.get? number = none := by
    simpa [contains] using lacks
  rw [lookUp, nothing]
  rfl

theorem reportedUnder_numberFor (failure : Failure) :
    failure.ReportedUnder (numberFor failure) := by
  cases failure with
  | criteria cause => exact .criteria cause
  | id cause => exact .id cause
  | store cause =>
      obtain ⟨operation, kind, reason, collection, entityId⟩ := cause
      cases kind with
      | notFound => exact .notFound rfl
      | alreadyExists => exact .alreadyExists rfl
      | _ => exact .unknown nofun nofun nofun nofun
  | config reason => exact .unknown nofun nofun nofun nofun
  | conversion cause => exact .unknown nofun nofun nofun nofun
  | io reason => exact .unknown nofun nofun nofun nofun

/-! ## The history decides -/

/-- What a table with a history accepts, lists, finds and reports. -/
structure Answers (table : CodeTable) (history : List Code) : Prop
    extends table.Holds history where
  accepts : ∀ code, (∃ next, table.register code = .ok next) ↔
    code.number ≠ Code.reservedNumber ∧ ∀ entry ∈ history, entry.number ≠ code.number
  finds : ∀ number, number ≠ Code.reservedNumber → ∀ code,
    table.get? number = some code ↔ FirstWith (fun entry => entry.number = number) history code
  has : ∀ number, table.contains number = true ↔
    number = Code.reservedNumber ∨ ∃ entry ∈ history, entry.number = number
  looksUp_entry : ∀ entry ∈ history, table.lookUp entry.number = entry
  looksUp_number : ∀ number, table.contains number = true →
    (table.lookUp number).number = number
  looksUp_unknown : ∀ number, table.contains number = false → table.lookUp number = .unknown
  reports : ∀ failure : Failure, ∃ number, failure.ReportedUnder number ∧
    table.codeFor failure = { table.lookUp number with message := failure.message }
  reports_unknown : history = [] → ∀ failure : Failure,
    table.codeFor failure = { Code.unknown with message := failure.message }

theorem Holds.answers {table : CodeTable} {history : List Code} (holds : table.Holds history) :
    table.Answers history where
  toHolds := holds
  accepts code := by
    simp only [register_eq_ok_iff, holds.mem_codes_iff, exists_and_left, exists_eq, and_true]
  finds number unreserved code := holds.get?_eq_some_iff unreserved
  has := holds.contains_iff
  looksUp_entry entry isEntry := holds.lookUp_entry isEntry
  looksUp_number number has := number_lookUp has
  looksUp_unknown number lacks := lookUp_of_not_contains lacks
  reports failure := ⟨numberFor failure, reportedUnder_numberFor failure, rfl⟩
  reports_unknown none failure := by
    have unknown : table.lookUp (numberFor failure) = .unknown := by
      cases has : table.contains (numberFor failure) with
      | false => exact lookUp_of_not_contains has
      | true =>
          subst none
          have reserved : numberFor failure = Code.reservedNumber := by
            simpa using (holds.contains_iff _).mp has
          rw [reserved]
          rfl
    rw [codeFor, unknown]

/-- **Whatever is attempted, a table answers by what it started with and what was accepted
since**, if it started as one of the two tables that there are to start from. -/
theorem answers_by_history {start : CodeTable} (origin : start = .builtin ∨ start = .empty)
    (attempts : List Code) :
    (start.attemptAll attempts).Answers (start.codes ++ start.accepted attempts) := by
  have holds : start.Holds start.codes := by
    rcases origin with rfl | rfl
    · exact builtin_holds
    · exact empty_holds
  exact (holds.attemptAll attempts).answers

/-- Of five attempts three are refused: one on a built-in number, one on the reserved number
and one on a number that was accepted before. -/
theorem answers_by_history_quota :
    CodeTable.builtin.accepted
        [⟨20001, 409, "quota exceeded"⟩, ⟨10003, 410, "gone"⟩, ⟨9999, 500, "mine"⟩,
          ⟨20001, 429, "too many"⟩, ⟨-1, 200, "below"⟩] =
        [⟨20001, 409, "quota exceeded"⟩, ⟨-1, 200, "below"⟩] ∧
      (CodeTable.builtin.attemptAll
        [⟨20001, 409, "quota exceeded"⟩, ⟨10003, 410, "gone"⟩, ⟨9999, 500, "mine"⟩,
          ⟨20001, 429, "too many"⟩, ⟨-1, 200, "below"⟩]).Answers
        (Code.builtin ++ [⟨20001, 409, "quota exceeded"⟩, ⟨-1, 200, "below"⟩]) :=
  ⟨by decide, answers_by_history (.inl rfl)
    [⟨20001, 409, "quota exceeded"⟩, ⟨10003, 410, "gone"⟩,
    ⟨9999, 500, "mine"⟩, ⟨20001, 429, "too many"⟩, ⟨-1, 200, "below"⟩]⟩

end CodeTable

end Docket
