import Docket.Persistence.World

/-!
# What an operation on records ensures

An operation ensures a relation between the worlds before and after it, whether it
fails or not, and something of its result, if there is one. If the relation is
reflexive and transitive, operations that are done one after another ensure it
together (`Ensures.bind`), and whatever touches only the clock, the log or the
source of identifiers ensures it if it holds between worlds with the same store.
-/

set_option autoImplicit false

namespace Docket

/-- One operation and then another: the second begins where the first ended, unless
that failed. -/
theorem run_bind {ε τ α β : Type} (action : ExceptT ε (StateM τ) α)
    (next : α → ExceptT ε (StateM τ) β) (state : τ) :
    (action >>= next).run.run state =
      match action.run.run state with
      | (.ok value, behind) => (next value).run.run behind
      | (.error failure, behind) => (.error failure, behind) := by
  show (match action.run.run state with
      | (result, behind) => (ExceptT.bindCont next result).run behind) = _
  rcases action.run.run state with ⟨_ | _, behind⟩ <;> rfl

namespace Action

variable {σ α β : Type}

/-- A relation between worlds that can be followed through operations: it holds
between worlds with the same store, and along two steps if it holds along each. -/
structure Lasting (relation : World σ → World σ → Prop) : Prop where
  same : ∀ before after : World σ, after.store = before.store → relation before after
  trans : ∀ first second third, relation first second → relation second third →
    relation first third

/-- **An operation ensures a relation** between the worlds before and after it, and a
property of its result. -/
def Ensures (relation : World σ → World σ → Prop) (property : α → Prop)
    (action : Action σ α) : Prop :=
  ∀ world, relation world (action.run.run world).2 ∧
    ∀ value, (action.run.run world).1 = .ok value → property value

namespace Ensures

variable {relation : World σ → World σ → Prop} {property : α → Prop}
  {further : β → Prop}

/-- Operations one after another. -/
theorem bind (lasting : Lasting relation) {action : Action σ α} {next : α → Action σ β}
    (here : Ensures relation property action)
    (behind : ∀ value, property value → Ensures relation further (next value)) :
    Ensures relation further (action >>= next) := by
  intro world
  obtain ⟨step, result⟩ := here world
  rw [run_bind]
  rcases outcome : action.run.run world with ⟨failure | value, after⟩
  · rw [outcome] at step
    exact ⟨step, fun value impossible => nomatch impossible⟩
  · rw [outcome] at step result
    obtain ⟨steps, results⟩ := behind value (result value rfl) after
    exact ⟨lasting.trans _ _ _ step steps, results⟩

theorem pure (lasting : Lasting relation) {value : α} (holds : property value) :
    Ensures relation property (Pure.pure value : Action σ α) := by
  intro world
  refine ⟨lasting.same world world rfl, fun other ok => ?_⟩
  rw [← Except.ok.inj ok]
  exact holds

theorem throw (lasting : Lasting relation) (failure : Failure) :
    Ensures relation property (MonadExcept.throw failure : Action σ α) :=
  fun world => ⟨lasting.same world world rfl, fun _ impossible => nomatch impossible⟩

theorem ofExcept (lasting : Lasting relation) {result : Except Failure α}
    (holds : ∀ value, result = .ok value → property value) :
    Ensures relation property (Action.ofExcept result : Action σ α) :=
  fun world => ⟨lasting.same world world rfl, holds⟩

theorem report (lasting : Lasting relation) (entry : LogEntry) :
    Ensures relation (fun _ => True) (Action.report entry : Action σ Unit) :=
  fun world => ⟨lasting.same world _ rfl, fun _ _ => trivial⟩

theorem ofLogged (lasting : Lasting relation) (logged : Logged α) :
    Ensures relation (fun _ => True) (Action.ofLogged logged : Action σ α) :=
  fun world => ⟨lasting.same world _ rfl, fun _ _ => trivial⟩

theorem clock (lasting : Lasting relation) :
    Ensures relation (fun _ => True) (Action.clock : Action σ Instant) :=
  fun world => ⟨lasting.same world _ rfl, fun _ _ => trivial⟩

/-- An identifier from the source is assigned. -/
theorem nextId (lasting : Lasting relation) :
    Ensures relation (· ≠ .unassigned) (Action.nextId : Action σ RecordId) := by
  intro world
  refine ⟨lasting.same world _ rfl, fun id ok => ?_⟩
  rw [← Except.ok.inj ok]
  exact world.ids.assigned world.ids.taken

theorem ofConversion (lasting : Lasting relation)
    (logged : Logged (Except ConversionError α)) :
    Ensures relation (fun _ => True) (Action.ofConversion logged : Action σ α) :=
  (ofLogged lasting logged).bind lasting fun _ _ => ofExcept lasting fun _ _ => trivial

theorem attempt {action : Action σ α} (ensures : Ensures relation property action) :
    Ensures relation (fun _ => True) action.attempt := by
  intro world
  exact ⟨(ensures world).1, fun _ _ => trivial⟩

/-- An operation of the store, by what it does to a state of the store. -/
theorem ofStore {action : StoreAction σ α}
    (steps : ∀ world : World σ, relation world
      { world with
        store := (action.run.run ⟨world.store, world.ids⟩).2.store
        ids := (action.run.run ⟨world.store, world.ids⟩).2.ids }) :
    Ensures relation (fun _ => True) (Action.ofStore action) :=
  fun world => ⟨steps world, fun _ _ => trivial⟩

end Ensures

end Action

end Docket
