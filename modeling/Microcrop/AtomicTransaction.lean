import Mathlib.Logic.Basic

/-!
# Atomic transactions

A transaction reads a state and either commits, with a value, a new state and
the events it published, or fails and leaves nothing behind.  This file
defines the monad of such transactions, the two judgments `Commits` and
`Fails` that describe its runs, one characterization of each judgment for
every operation, and the errors that a run avoids.  Events are recorded by the
monad but hidden by the judgments, so that statements about states never
mention them.
-/

/-- What a committed transaction leaves behind. -/
structure Receipt (τ σ α : Type) where
  value : α
  state : σ
  events : List τ

/-- A computation over the state `σ` that publishes events `τ` when it commits
and returns an error `ε` when it does not. -/
def Transaction (ε τ σ α : Type) : Type :=
  σ → Except ε (Receipt τ σ α)

namespace Transaction

variable {ε τ σ ρ α β : Type}

/-- `program` run in `before` commits `value` and `after`. -/
def Commits (program : Transaction ε τ σ α) (before : σ) (value : α)
    (after : σ) : Prop :=
  ∃ events, program before = .ok ⟨value, after, events⟩

/-- `program` run in `before` is refused with `error`. -/
def Fails (program : Transaction ε τ σ α) (before : σ) (error : ε) : Prop :=
  program before = .error error

protected def pure (value : α) : Transaction ε τ σ α :=
  fun before => .ok ⟨value, before, []⟩

protected def bind (program : Transaction ε τ σ α)
    (next : α → Transaction ε τ σ β) : Transaction ε τ σ β :=
  fun before =>
    match program before with
    | .error error => .error error
    | .ok first =>
        match next first.value first.state with
        | .error error => .error error
        | .ok second =>
            .ok ⟨second.value, second.state, first.events ++ second.events⟩

instance : Monad (Transaction ε τ σ) where
  pure := Transaction.pure
  bind := Transaction.bind

/-- Refuse the transaction. -/
def fail (error : ε) : Transaction ε τ σ α :=
  fun _ => .error error

/-- Refuse the transaction when `condition` holds. -/
def panicIf (condition : Prop) [Decidable condition] (error : ε) :
    Transaction ε τ σ Unit :=
  if condition then fail error else pure ()

/-- The value of an option, or a refusal when there is none. -/
def unwrapOr (option : Option α) (error : ε) : Transaction ε τ σ α :=
  match option with
  | some value => pure value
  | none => fail error

/-- Read a part of the state. -/
def read (view : σ → α) : Transaction ε τ σ α :=
  fun before => .ok ⟨view before, before, []⟩

/-- Replace the state. -/
def modify (update : σ → σ) : Transaction ε τ σ Unit :=
  fun before => .ok ⟨(), update before, []⟩

/-- Publish one event. -/
def publish (event : τ) : Transaction ε τ σ Unit :=
  fun before => .ok ⟨(), before, [event]⟩

/-- Which errors a caller may recover from. -/
class Recovery (ε : Type) where
  recoverable : ε → Bool

/-- Nobody recovers from the error: it refuses every caller in turn. -/
def Fatal [Recovery ε] (error : ε) : Prop :=
  Recovery.recoverable error = false

instance [Recovery ε] (error : ε) : Decidable (Fatal error) :=
  inferInstanceAs (Decidable (_ = _))

/-- Run `program` and hand its refusal to the caller as a value, unless the
error is fatal.  A refused run changes no state and publishes nothing. -/
def attempt [Recovery ε] (program : Transaction ε τ σ α) :
    Transaction ε τ σ (Except ε α) :=
  fun before =>
    match program before with
    | .error error =>
        if Fatal error then .error error
        else .ok ⟨.error error, before, []⟩
    | .ok receipt => .ok ⟨.ok receipt.value, receipt.state, receipt.events⟩

/-- Run `program` on the component of the state that `view` finds, refusing
with the error of `view` when the component is not there. -/
def zoom (view : ρ → Except ε σ) (put : σ → ρ → ρ)
    (program : Transaction ε τ σ α) : Transaction ε τ ρ α :=
  fun before =>
    match view before with
    | .error error => .error error
    | .ok component =>
        match program component with
        | .error error => .error error
        | .ok receipt =>
            .ok ⟨receipt.value, put receipt.state before, receipt.events⟩

/-- Run `program` on the first component of a pair. -/
def internal (program : Transaction ε τ σ α) :
    Transaction ε τ (σ × ρ) α :=
  zoom (fun before => .ok before.1) (fun after before => (after, before.2))
    program

/-- Run `program` on the second component of a pair. -/
def external (program : Transaction ε τ ρ α) :
    Transaction ε τ (σ × ρ) α :=
  zoom (fun before => .ok before.2) (fun after before => (before.1, after))
    program

/-- Whether `program` commits in `before`. -/
def committed (program : Transaction ε τ σ α) (before : σ) : Bool :=
  match program before with
  | .ok _ => true
  | .error _ => false

/-- The state after an attempt to run `program`: a refusal changes nothing. -/
def advance (program : Transaction ε τ σ α) (before : σ) : σ :=
  match program before with
  | .ok receipt => receipt.state
  | .error _ => before

/-- What the caller of `program` is told. -/
def answer (program : Transaction ε τ σ α) (before : σ) : Except ε α :=
  (program before).map Receipt.value

/-! ## Runs -/

theorem Commits.answer_eq {program : Transaction ε τ σ α}
    {before after : σ} {value : α}
    (commits : program.Commits before value after) :
    program.answer before = .ok value := by
  obtain ⟨events, outcome⟩ := commits
  simp [answer, outcome, Except.map]

theorem Fails.answer_eq {program : Transaction ε τ σ α} {before : σ}
    {error : ε} (fails : program.Fails before error) :
    program.answer before = .error error := by
  unfold Fails at fails
  simp [answer, fails, Except.map]

theorem committed_iff (program : Transaction ε τ σ α) (before : σ) :
    program.committed before = true ↔
      ∃ value after, program.Commits before value after := by
  unfold committed Commits
  cases outcome : program before with
  | error error => simp
  | ok receipt => exact ⟨fun _ => ⟨_, _, _, rfl⟩, fun _ => rfl⟩

theorem Commits.advance_eq {program : Transaction ε τ σ α}
    {before after : σ} {value : α}
    (commits : program.Commits before value after) :
    program.advance before = after := by
  obtain ⟨events, outcome⟩ := commits
  simp [advance, outcome]

theorem Fails.advance_eq {program : Transaction ε τ σ α} {before : σ}
    {error : ε} (fails : program.Fails before error) :
    program.advance before = before := by
  unfold Fails at fails
  simp [advance, fails]

/-- Either a transaction is refused and changes nothing, or it commits the
state that follows. -/
theorem advance_cases (program : Transaction ε τ σ α) (before : σ) :
    (program.committed before = false ∧ program.advance before = before) ∨
      (program.committed before = true ∧
        ∃ value, program.Commits before value (program.advance before)) := by
  unfold committed advance Commits
  cases outcome : program before with
  | error error => exact Or.inl ⟨rfl, rfl⟩
  | ok receipt => exact Or.inr ⟨rfl, receipt.value, receipt.events, rfl⟩

theorem commits_or_fails (program : Transaction ε τ σ α) (before : σ) :
    (∃ value after, program.Commits before value after) ∨
      ∃ error, program.Fails before error := by
  cases outcome : program before with
  | error error => exact Or.inr ⟨error, outcome⟩
  | ok receipt =>
      exact Or.inl ⟨receipt.value, receipt.state, receipt.events, outcome⟩

theorem Commits.not_fails {program : Transaction ε τ σ α} {before after : σ}
    {value : α} (commits : program.Commits before value after) (error : ε) :
    ¬ program.Fails before error := by
  obtain ⟨events, outcome⟩ := commits
  simp [Fails, outcome]

/-- A transaction has at most one committed outcome. -/
theorem Commits.unique {program : Transaction ε τ σ α}
    {before first second : σ} {left right : α}
    (one : program.Commits before left first)
    (other : program.Commits before right second) :
    left = right ∧ first = second := by
  obtain ⟨firstEvents, firstOutcome⟩ := one
  obtain ⟨secondEvents, secondOutcome⟩ := other
  rw [firstOutcome] at secondOutcome
  injection secondOutcome with receipts
  injection receipts with values states
  exact ⟨values, states⟩

/-! ## Committed runs of each operation -/

@[simp]
theorem pure_commits (value result : α) (before after : σ) :
    (pure value : Transaction ε τ σ α).Commits before result after ↔
      result = value ∧ after = before := by
  change (∃ events, Except.ok (⟨value, before, []⟩ : Receipt τ σ α) =
    .ok ⟨result, after, events⟩) ↔ _
  simp [eq_comm]

@[simp]
theorem bind_commits (program : Transaction ε τ σ α)
    (next : α → Transaction ε τ σ β) (before after : σ) (result : β) :
    (program >>= next).Commits before result after ↔
      ∃ value middle, program.Commits before value middle ∧
        (next value).Commits middle result after := by
  change (∃ events, Transaction.bind program next before = _) ↔ _
  constructor
  · rintro ⟨events, outcome⟩
    unfold Transaction.bind at outcome
    cases first : program before with
    | error error => simp [first] at outcome
    | ok receipt =>
        cases second : next receipt.value receipt.state with
        | error error => simp [first, second] at outcome
        | ok final =>
            simp only [first, second, Except.ok.injEq,
              Receipt.mk.injEq] at outcome
            obtain ⟨rfl, rfl, _⟩ := outcome
            exact ⟨receipt.value, receipt.state, ⟨_, first⟩, ⟨_, second⟩⟩
  · rintro ⟨value, middle, ⟨firstEvents, first⟩, ⟨secondEvents, second⟩⟩
    refine ⟨firstEvents ++ secondEvents, ?_⟩
    simp [Transaction.bind, first, second]

@[simp]
theorem fail_commits (error : ε) (before after : σ) (result : α) :
    ¬ (fail error : Transaction ε τ σ α).Commits before result after := by
  rintro ⟨events, outcome⟩
  cases outcome

@[simp]
theorem panicIf_commits (condition : Prop) [Decidable condition] (error : ε)
    (before after : σ) (result : Unit) :
    (panicIf condition error : Transaction ε τ σ Unit).Commits before result
        after ↔
      ¬ condition ∧ after = before := by
  unfold panicIf
  split <;> rename_i holds <;> simp [holds]

@[simp]
theorem unwrapOr_commits (option : Option α) (error : ε) (before after : σ)
    (result : α) :
    (unwrapOr option error : Transaction ε τ σ α).Commits before result
        after ↔
      option = some result ∧ after = before := by
  cases option <;> simp [unwrapOr, eq_comm]

@[simp]
theorem read_commits (view : σ → α) (before after : σ) (result : α) :
    (read view : Transaction ε τ σ α).Commits before result after ↔
      result = view before ∧ after = before := by
  simp [read, Commits, eq_comm]

@[simp]
theorem modify_commits (update : σ → σ) (before after : σ) (result : Unit) :
    (modify update : Transaction ε τ σ Unit).Commits before result after ↔
      after = update before := by
  simp [modify, Commits, eq_comm]

@[simp]
theorem publish_commits (event : τ) (before after : σ) (result : Unit) :
    (publish event : Transaction ε τ σ Unit).Commits before result after ↔
      after = before := by
  simp [publish, Commits, eq_comm]

@[simp]
theorem attempt_commits [Recovery ε] (program : Transaction ε τ σ α)
    (before after : σ) (result : Except ε α) :
    (attempt program).Commits before result after ↔
      (∃ value, program.Commits before value after ∧ result = .ok value) ∨
        ∃ error, program.Fails before error ∧ ¬ Fatal error ∧
          result = .error error ∧ after = before := by
  cases outcome : program before with
  | error error =>
      by_cases fatal : Fatal error <;>
        simp [attempt, Commits, Fails, outcome, fatal, eq_comm]
  | ok receipt =>
      obtain ⟨value, state, events⟩ := receipt
      constructor
      · rintro ⟨_, equality⟩
        simp only [attempt, outcome, Except.ok.injEq,
          Receipt.mk.injEq] at equality
        obtain ⟨rfl, rfl, _⟩ := equality
        exact Or.inl ⟨value, ⟨events, outcome⟩, rfl⟩
      · rintro (⟨_, ⟨events, equality⟩, rfl⟩ | ⟨error, equality, _⟩)
        · exact ⟨events, by simp [attempt, equality]⟩
        · rw [Fails, outcome] at equality
          cases equality

@[simp]
theorem zoom_commits (view : ρ → Except ε σ) (put : σ → ρ → ρ)
    (program : Transaction ε τ σ α) (before after : ρ) (result : α) :
    (zoom view put program).Commits before result after ↔
      ∃ component changed, view before = .ok component ∧
        program.Commits component result changed ∧
          after = put changed before := by
  cases seen : view before with
  | error error => simp [zoom, Commits, seen]
  | ok component =>
      cases outcome : program component with
      | error error => simp [zoom, Commits, seen, outcome]
      | ok receipt =>
          obtain ⟨value, state, events⟩ := receipt
          constructor
          · rintro ⟨_, equality⟩
            simp only [zoom, seen, outcome, Except.ok.injEq,
              Receipt.mk.injEq] at equality
            obtain ⟨rfl, rfl, _⟩ := equality
            exact ⟨component, state, rfl, ⟨events, outcome⟩, rfl⟩
          · rintro ⟨_, changed, found, ⟨events, equality⟩, rfl⟩
            cases found
            exact ⟨events, by simp [zoom, seen, equality]⟩

@[simp]
theorem internal_commits (program : Transaction ε τ σ α)
    (before after : σ × ρ) (result : α) :
    (internal program).Commits before result after ↔
      ∃ changed, program.Commits before.1 result changed ∧
        after = (changed, before.2) := by
  simp [internal]

@[simp]
theorem external_commits (program : Transaction ε τ ρ α)
    (before after : σ × ρ) (result : α) :
    (external program).Commits before result after ↔
      ∃ changed, program.Commits before.2 result changed ∧
        after = (before.1, changed) := by
  simp [external]

/-! ## Refused runs of each operation -/

@[simp]
theorem pure_fails (value : α) (before : σ) (error : ε) :
    ¬ (pure value : Transaction ε τ σ α).Fails before error := by
  intro refused
  cases refused

@[simp]
theorem bind_fails (program : Transaction ε τ σ α)
    (next : α → Transaction ε τ σ β) (before : σ) (error : ε) :
    (program >>= next).Fails before error ↔
      program.Fails before error ∨
        ∃ value middle, program.Commits before value middle ∧
          (next value).Fails middle error := by
  change Transaction.bind program next before = _ ↔ _
  unfold Transaction.bind Fails Commits
  cases first : program before with
  | error refusal => simp
  | ok receipt =>
      obtain ⟨value, state, events⟩ := receipt
      cases second : next value state with
      | error refusal =>
          simp only [second, Except.error.injEq, reduceCtorEq, false_or]
          constructor
          · rintro rfl
            exact ⟨value, state, ⟨events, rfl⟩, second⟩
          · rintro ⟨_, _, ⟨_, equality⟩, refused⟩
            cases equality
            rw [second] at refused
            exact Except.error.inj refused
      | ok final =>
          simp only [second, reduceCtorEq, false_or, false_iff]
          rintro ⟨_, _, ⟨_, equality⟩, refused⟩
          cases equality
          rw [second] at refused
          cases refused

@[simp]
theorem fail_fails (refusal error : ε) (before : σ) :
    (fail refusal : Transaction ε τ σ α).Fails before error ↔
      error = refusal := by
  simp [fail, Fails, eq_comm]

@[simp]
theorem panicIf_fails (condition : Prop) [Decidable condition]
    (refusal error : ε) (before : σ) :
    (panicIf condition refusal : Transaction ε τ σ Unit).Fails before error ↔
      condition ∧ error = refusal := by
  unfold panicIf
  split <;> rename_i holds <;> simp [holds]

@[simp]
theorem unwrapOr_fails (option : Option α) (refusal error : ε) (before : σ) :
    (unwrapOr option refusal : Transaction ε τ σ α).Fails before error ↔
      option = none ∧ error = refusal := by
  cases option <;> simp [unwrapOr]

@[simp]
theorem read_fails (view : σ → α) (before : σ) (error : ε) :
    ¬ (read view : Transaction ε τ σ α).Fails before error := by
  simp [read, Fails]

@[simp]
theorem modify_fails (update : σ → σ) (before : σ) (error : ε) :
    ¬ (modify update : Transaction ε τ σ Unit).Fails before error := by
  simp [modify, Fails]

@[simp]
theorem publish_fails (event : τ) (before : σ) (error : ε) :
    ¬ (publish event : Transaction ε τ σ Unit).Fails before error := by
  simp [publish, Fails]

@[simp]
theorem attempt_fails [Recovery ε] (program : Transaction ε τ σ α)
    (before : σ) (error : ε) :
    (attempt program).Fails before error ↔
      program.Fails before error ∧ Fatal error := by
  cases outcome : program before with
  | error refusal =>
      by_cases fatal : Fatal refusal
      · simp only [attempt, Fails, outcome, if_pos fatal]
        grind
      · simp only [attempt, Fails, outcome, if_neg fatal]
        grind
  | ok receipt => simp [attempt, Fails, outcome]

@[simp]
theorem zoom_fails (view : ρ → Except ε σ) (put : σ → ρ → ρ)
    (program : Transaction ε τ σ α) (before : ρ) (error : ε) :
    (zoom view put program).Fails before error ↔
      view before = .error error ∨
        ∃ component, view before = .ok component ∧
          program.Fails component error := by
  cases seen : view before with
  | error refusal => simp [zoom, Fails, seen]
  | ok component =>
      cases outcome : program component <;>
        simp [zoom, Fails, seen, outcome]

@[simp]
theorem internal_fails (program : Transaction ε τ σ α) (before : σ × ρ)
    (error : ε) :
    (internal program).Fails before error ↔ program.Fails before.1 error := by
  simp [internal]

@[simp]
theorem external_fails (program : Transaction ε τ ρ α) (before : σ × ρ)
    (error : ε) :
    (external program).Fails before error ↔ program.Fails before.2 error := by
  simp [external]

/-! ## Building runs step by step -/

theorem pure_returns (value : α) (before : σ) :
    (pure value : Transaction ε τ σ α).Commits before value before :=
  (pure_commits _ _ _ _).mpr ⟨rfl, rfl⟩

theorem read_returns (view : σ → α) (before : σ) :
    (read view : Transaction ε τ σ α).Commits before (view before) before :=
  (read_commits _ _ _ _).mpr ⟨rfl, rfl⟩

theorem Commits.bind {program : Transaction ε τ σ α}
    {next : α → Transaction ε τ σ β} {before middle after : σ} {value : α}
    {result : β} (first : program.Commits before value middle)
    (rest : (next value).Commits middle result after) :
    (program >>= next).Commits before result after :=
  (bind_commits _ _ _ _ _).mpr ⟨value, middle, first, rest⟩

/-- What a program does first may be left out once it is known. -/
theorem Commits.bind_iff {program : Transaction ε τ σ α}
    {next : α → Transaction ε τ σ β} {before middle after : σ} {value : α}
    {result : β} (first : program.Commits before value middle) :
    (program >>= next).Commits before result after ↔
      (next value).Commits middle result after := by
  constructor
  · intro commits
    obtain ⟨other, reached, other_first, rest⟩ :=
      (bind_commits _ _ _ _ _).mp commits
    obtain ⟨rfl, rfl⟩ := first.unique other_first
    exact rest
  · exact first.bind

theorem Commits.internal {program : Transaction ε τ σ α}
    {before after : σ} {result : α}
    (commits : program.Commits before result after) (outside : ρ) :
    (internal program).Commits (before, outside) result (after, outside) :=
  (internal_commits _ _ _ _).mpr ⟨after, commits, rfl⟩

theorem Commits.external {program : Transaction ε τ ρ α}
    {before after : ρ} {result : α}
    (commits : program.Commits before result after) (inside : σ) :
    (external program).Commits (inside, before) result (inside, after) :=
  (external_commits _ _ _ _).mpr ⟨after, commits, rfl⟩

theorem Fails.bind {program : Transaction ε τ σ α} {before : σ} {error : ε}
    (fails : program.Fails before error)
    (next : α → Transaction ε τ σ β) :
    (program >>= next).Fails before error :=
  (bind_fails _ _ _ _).mpr (Or.inl fails)

theorem Commits.bind_fails {program : Transaction ε τ σ α}
    {next : α → Transaction ε τ σ β} {before middle : σ} {value : α}
    {error : ε} (first : program.Commits before value middle)
    (rest : (next value).Fails middle error) :
    (program >>= next).Fails before error :=
  (Transaction.bind_fails _ _ _ _).mpr (Or.inr ⟨value, middle, first, rest⟩)

/-! ## Errors that a run cannot end in -/

/-- No refusal of `program` in `before` is one of the excluded errors. -/
def Avoids (program : Transaction ε τ σ α) (before : σ)
    (excluded : ε → Prop) : Prop :=
  ∀ error, program.Fails before error → ¬ excluded error

section Avoids

variable {excluded : ε → Prop}

theorem avoids_of_not_fails {program : Transaction ε τ σ α} {before : σ}
    (accepts : ∀ error, ¬ program.Fails before error) :
    program.Avoids before excluded :=
  fun error refused => absurd refused (accepts error)

theorem Commits.avoids {program : Transaction ε τ σ α} {before after : σ}
    {value : α} (commits : program.Commits before value after) :
    program.Avoids before excluded :=
  avoids_of_not_fails commits.not_fails

theorem Fails.avoids {program : Transaction ε τ σ α} {before : σ} {error : ε}
    (fails : program.Fails before error) (allowed : ¬ excluded error) :
    program.Avoids before excluded := by
  intro other refused
  have same : Except.error error = Except.error other :=
    fails.symm.trans refused
  cases same
  exact allowed

@[simp]
theorem pure_avoids (value : α) (before : σ) :
    (pure value : Transaction ε τ σ α).Avoids before excluded :=
  avoids_of_not_fails (pure_fails value before)

@[simp]
theorem bind_avoids (program : Transaction ε τ σ α)
    (next : α → Transaction ε τ σ β) (before : σ) :
    (program >>= next).Avoids before excluded ↔
      program.Avoids before excluded ∧
        ∀ value middle, program.Commits before value middle →
          (next value).Avoids middle excluded := by
  constructor
  · intro avoids
    exact ⟨fun error refused =>
      avoids error ((bind_fails _ _ _ _).mpr (Or.inl refused)),
      fun value middle commits error refused => avoids error
        ((bind_fails _ _ _ _).mpr
          (Or.inr ⟨value, middle, commits, refused⟩))⟩
  · rintro ⟨first, rest⟩ error refused
    rcases (bind_fails _ _ _ _).mp refused with
      early | ⟨value, middle, commits, late⟩
    · exact first error early
    · exact rest value middle commits error late

@[simp]
theorem fail_avoids (refusal : ε) (before : σ) :
    (fail refusal : Transaction ε τ σ α).Avoids before excluded ↔
      ¬ excluded refusal := by
  simp [Avoids]

@[simp]
theorem panicIf_avoids (condition : Prop) [Decidable condition] (refusal : ε)
    (before : σ) :
    (panicIf condition refusal : Transaction ε τ σ Unit).Avoids before
        excluded ↔
      (condition → ¬ excluded refusal) := by
  simp [Avoids]

@[simp]
theorem unwrapOr_avoids (option : Option α) (refusal : ε) (before : σ) :
    (unwrapOr option refusal : Transaction ε τ σ α).Avoids before excluded ↔
      (option = none → ¬ excluded refusal) := by
  simp [Avoids]

@[simp]
theorem read_avoids (view : σ → α) (before : σ) :
    (read view : Transaction ε τ σ α).Avoids before excluded :=
  avoids_of_not_fails (read_fails view before)

@[simp]
theorem modify_avoids (update : σ → σ) (before : σ) :
    (modify update : Transaction ε τ σ Unit).Avoids before excluded :=
  avoids_of_not_fails (modify_fails update before)

@[simp]
theorem publish_avoids (event : τ) (before : σ) :
    (publish event : Transaction ε τ σ Unit).Avoids before excluded :=
  avoids_of_not_fails (publish_fails event before)

@[simp]
theorem attempt_avoids [Recovery ε] (program : Transaction ε τ σ α)
    (before : σ) :
    (attempt program).Avoids before excluded ↔
      program.Avoids before fun error => Fatal error ∧ excluded error := by
  simp [Avoids]

/-- Errors that callers may recover from do not come out of an attempt. -/
theorem attempt_avoids_of_survivable [Recovery ε]
    (survivable : ∀ error, excluded error → ¬ Fatal error)
    (program : Transaction ε τ σ α) (before : σ) :
    (attempt program).Avoids before excluded := by
  intro error refused listed
  exact survivable error listed ((attempt_fails _ _ _).mp refused).2

/-- An attempt goes through unless the program ends in a fatal error, and
hands over its answer. -/
theorem attempt_commits_iff [Recovery ε] (program : Transaction ε τ σ α)
    (before after : σ) (result : Except ε α) :
    (attempt program).Commits before result after ↔
      program.Avoids before Fatal ∧ result = program.answer before ∧
        after = program.advance before := by
  rw [attempt_commits]
  constructor
  · rintro (⟨value, commits, rfl⟩ | ⟨error, refused, survivable, rfl, rfl⟩)
    · exact ⟨commits.avoids, commits.answer_eq.symm, commits.advance_eq.symm⟩
    · exact ⟨refused.avoids survivable, refused.answer_eq.symm,
        refused.advance_eq.symm⟩
  · rintro ⟨survivable, rfl, rfl⟩
    rcases commits_or_fails program before with
      ⟨value, after, commits⟩ | ⟨error, refused⟩
    · rw [commits.answer_eq, commits.advance_eq]
      exact Or.inl ⟨value, commits, rfl⟩
    · rw [refused.answer_eq, refused.advance_eq]
      exact Or.inr ⟨error, refused, survivable error refused, rfl, rfl⟩

@[simp]
theorem zoom_avoids (view : ρ → Except ε σ) (put : σ → ρ → ρ)
    (program : Transaction ε τ σ α) (before : ρ) :
    (zoom view put program).Avoids before excluded ↔
      (∀ error, view before = .error error → ¬ excluded error) ∧
        ∀ component, view before = .ok component →
          program.Avoids component excluded := by
  constructor
  · intro avoids
    exact ⟨fun error missing =>
      avoids error ((zoom_fails _ _ _ _ _).mpr (Or.inl missing)),
      fun component found error refused => avoids error
        ((zoom_fails _ _ _ _ _).mpr (Or.inr ⟨component, found, refused⟩))⟩
  · rintro ⟨missing, found⟩ error refused
    rcases (zoom_fails _ _ _ _ _).mp refused with
      absent | ⟨component, present, late⟩
    · exact missing error absent
    · exact found component present error late

@[simp]
theorem internal_avoids (program : Transaction ε τ σ α) (before : σ × ρ) :
    (internal program).Avoids before excluded ↔
      program.Avoids before.1 excluded := by
  simp [internal]

@[simp]
theorem external_avoids (program : Transaction ε τ ρ α) (before : σ × ρ) :
    (external program).Avoids before excluded ↔
      program.Avoids before.2 excluded := by
  simp [external]

/-! Straight-line code is checked step by step, in the one state that each
step leads to. -/

theorem read_bind_avoids (view : σ → α) (next : α → Transaction ε τ σ β)
    (before : σ) :
    (read view >>= next).Avoids before excluded ↔
      (next (view before)).Avoids before excluded := by
  simp

theorem modify_bind_avoids (update : σ → σ)
    (next : Unit → Transaction ε τ σ β) (before : σ) :
    (modify update >>= next).Avoids before excluded ↔
      (next ()).Avoids (update before) excluded := by
  simp only [bind_avoids, modify_avoids, modify_commits, true_and]
  exact ⟨fun rest => rest () _ rfl, fun rest _ _ same => same ▸ rest⟩

theorem publish_bind_avoids (event : τ) (next : Unit → Transaction ε τ σ β)
    (before : σ) :
    (publish event >>= next).Avoids before excluded ↔
      (next ()).Avoids before excluded := by
  simp only [bind_avoids, publish_avoids, publish_commits, true_and]
  exact ⟨fun rest => rest () _ rfl, fun rest _ _ same => same ▸ rest⟩

theorem panicIf_bind_avoids (condition : Prop) [Decidable condition]
    (refusal : ε) (next : Unit → Transaction ε τ σ β) (before : σ) :
    (panicIf condition refusal >>= next).Avoids before excluded ↔
      (condition → ¬ excluded refusal) ∧
        (¬ condition → (next ()).Avoids before excluded) := by
  simp only [bind_avoids, panicIf_avoids, panicIf_commits, and_imp]
  refine and_congr_right fun _ => ⟨?_, ?_⟩
  · exact fun rest passed => rest () before passed rfl
  · exact fun rest _ _ passed same => same ▸ rest passed

end Avoids

/-! ## Runs that leave no trace -/

/-- `program` run in `before` is refused, or it returns a value with the
property, changes nothing and publishes nothing. -/
def Observes (program : Transaction ε τ σ α) (before : σ)
    (property : α → Prop) : Prop :=
  (∃ error, program.Fails before error) ∨
    ∃ value, property value ∧ program before = .ok ⟨value, before, []⟩

section Observes

variable {before : σ}

theorem pure_observes {property : α → Prop} {value : α}
    (holds : property value) :
    (pure value : Transaction ε τ σ α).Observes before property :=
  Or.inr ⟨value, holds, rfl⟩

theorem fail_observes {property : α → Prop} (error : ε) :
    (fail error : Transaction ε τ σ α).Observes before property :=
  Or.inl ⟨error, rfl⟩

theorem panicIf_observes (condition : Prop) [Decidable condition]
    (error : ε) :
    (panicIf condition error : Transaction ε τ σ Unit).Observes before
      fun _ => ¬ condition := by
  unfold panicIf
  split <;> rename_i holds
  · exact fail_observes error
  · exact pure_observes holds

theorem unwrapOr_observes (option : Option α) (error : ε) :
    (unwrapOr option error : Transaction ε τ σ α).Observes before
      fun value => option = some value := by
  cases option with
  | none => exact fail_observes error
  | some value => exact pure_observes rfl

theorem read_observes (view : σ → α) :
    (read view : Transaction ε τ σ α).Observes before
      fun value => value = view before :=
  Or.inr ⟨view before, rfl, rfl⟩

theorem Observes.bind {program : Transaction ε τ σ α}
    {next : α → Transaction ε τ σ β} {first : α → Prop} {second : β → Prop}
    (observes : program.Observes before first)
    (rest : ∀ value, first value → (next value).Observes before second) :
    (program >>= next).Observes before second := by
  rcases observes with ⟨error, refused⟩ | ⟨value, holds, returns⟩
  · exact Or.inl ⟨error, (bind_fails _ _ _ _).mpr (Or.inl refused)⟩
  · rcases rest value holds with ⟨error, refused⟩ | ⟨final, holdsFinal, done⟩
    · exact Or.inl ⟨error, (bind_fails _ _ _ _).mpr
        (Or.inr ⟨value, before, ⟨[], returns⟩, refused⟩)⟩
    · refine Or.inr ⟨final, holdsFinal, ?_⟩
      change Transaction.bind program next before = _
      simp [Transaction.bind, returns, done]

theorem observes_of_not_commits {program : Transaction ε τ σ α}
    {property : α → Prop}
    (refused : ∀ value after, ¬ program.Commits before value after) :
    program.Observes before property := by
  rcases commits_or_fails program before with
    ⟨value, after, commits⟩ | fails
  · exact absurd commits (refused value after)
  · exact Or.inl fails

/-- A component that is only observed leaves the whole as it was. -/
theorem Observes.zoom {view : ρ → Except ε σ} {put : σ → ρ → ρ}
    {program : Transaction ε τ σ α} {property : α → Prop} {whole : ρ}
    (observes : program.Observes before property)
    (found : view whole = .ok before) (restores : put before whole = whole) :
    (zoom view put program).Observes whole property := by
  rcases observes with ⟨error, refused⟩ | ⟨value, holds, returns⟩
  · exact Or.inl ⟨error,
      (zoom_fails _ _ _ _ _).mpr (Or.inr ⟨before, found, refused⟩)⟩
  · refine Or.inr ⟨value, holds, ?_⟩
    simp [Transaction.zoom, found, returns, restores]

theorem Observes.advance_eq {program : Transaction ε τ σ α}
    {property : α → Prop} (observes : program.Observes before property) :
    program.advance before = before := by
  rcases observes with ⟨error, refused⟩ | ⟨value, -, returns⟩
  · unfold Fails at refused
    simp [advance, refused]
  · simp [advance, returns]

end Observes

/-! ## Programs that only read -/

/-- No committed run of `program` changes the state. -/
def ReadOnly (program : Transaction ε τ σ α) : Prop :=
  ∀ before value after, program.Commits before value after → after = before

section ReadOnly

theorem pure_readOnly (value : α) :
    (pure value : Transaction ε τ σ α).ReadOnly :=
  fun _ _ _ commits => ((pure_commits _ _ _ _).mp commits).2

theorem read_readOnly (view : σ → α) :
    (read view : Transaction ε τ σ α).ReadOnly :=
  fun _ _ _ commits => ((read_commits _ _ _ _).mp commits).2

theorem panicIf_readOnly (condition : Prop) [Decidable condition]
    (error : ε) :
    (panicIf condition error : Transaction ε τ σ Unit).ReadOnly :=
  fun _ _ _ commits => ((panicIf_commits _ _ _ _ _).mp commits).2

theorem unwrapOr_readOnly (option : Option α) (error : ε) :
    (unwrapOr option error : Transaction ε τ σ α).ReadOnly :=
  fun _ _ _ commits => ((unwrapOr_commits _ _ _ _ _).mp commits).2

theorem fail_readOnly (error : ε) :
    (fail error : Transaction ε τ σ α).ReadOnly :=
  fun before value after commits =>
    absurd commits (fail_commits error before after value)

theorem ReadOnly.bind {program : Transaction ε τ σ α}
    {next : α → Transaction ε τ σ β} (first : program.ReadOnly)
    (rest : ∀ value, (next value).ReadOnly) : (program >>= next).ReadOnly := by
  intro before result after commits
  obtain ⟨value, middle, read, continued⟩ :=
    (bind_commits _ _ _ _ _).mp commits
  have untouched := first before value middle read
  rw [rest value middle result after continued, untouched]

theorem ReadOnly.attempt [Recovery ε] {program : Transaction ε τ σ α}
    (readOnly : program.ReadOnly) : (attempt program).ReadOnly := by
  intro before result after commits
  rcases (attempt_commits _ _ _ _).mp commits with
    ⟨value, committed, -⟩ | ⟨error, -, -, -, same⟩
  · exact readOnly before value after committed
  · exact same

/-- An attempt to run it commits and returns to the same state. -/
theorem ReadOnly.attempt_total [Recovery ε] {program : Transaction ε τ σ α}
    (readOnly : program.ReadOnly) {before : σ}
    (survivable : program.Avoids before Fatal) :
    ∃ result, (Transaction.attempt program).Commits before result before := by
  have tried := (attempt_commits_iff program before _ _).mpr
    ⟨survivable, rfl, rfl⟩
  have same := readOnly.attempt before _ _ tried
  rw [same] at tried
  exact ⟨_, tried⟩

/-- A component that is only read leaves the whole as it was. -/
theorem ReadOnly.zoom {view : ρ → Except ε σ} {put : σ → ρ → ρ}
    {program : Transaction ε τ σ α} (readOnly : program.ReadOnly)
    (restores : ∀ whole component, view whole = .ok component →
      put component whole = whole) : (zoom view put program).ReadOnly := by
  intro before result after commits
  obtain ⟨component, changed, found, committed, rfl⟩ :=
    (zoom_commits _ _ _ _ _ _).mp commits
  rw [readOnly component result changed committed]
  exact restores before component found

theorem ReadOnly.internal {program : Transaction ε τ σ α}
    (readOnly : program.ReadOnly) :
    (internal program : Transaction ε τ (σ × ρ) α).ReadOnly := by
  refine readOnly.zoom fun whole component found => ?_
  cases found
  rfl

theorem ReadOnly.external {program : Transaction ε τ ρ α}
    (readOnly : program.ReadOnly) :
    (external program : Transaction ε τ (σ × ρ) α).ReadOnly := by
  refine readOnly.zoom fun whole component found => ?_
  cases found
  rfl

theorem ReadOnly.advance_eq {program : Transaction ε τ σ α}
    (readOnly : program.ReadOnly) (before : σ) :
    program.advance before = before := by
  rcases advance_cases program before with
    ⟨-, same⟩ | ⟨-, value, committed⟩
  · exact same
  · exact readOnly before value _ committed

end ReadOnly

/-! ## Runs with their events -/

/-- `program` run in `before` commits `value` and `after` and publishes
`events`, in this order. -/
def Emits (program : Transaction ε τ σ α) (before : σ) (value : α)
    (after : σ) (events : List τ) : Prop :=
  program before = .ok ⟨value, after, events⟩

theorem Emits.commits {program : Transaction ε τ σ α} {before after : σ}
    {value : α} {events : List τ}
    (emits : program.Emits before value after events) :
    program.Commits before value after :=
  ⟨events, emits⟩

section Emits

variable (before : σ)

@[simp]
theorem pure_emits (value result : α) (after : σ) (events : List τ) :
    (pure value : Transaction ε τ σ α).Emits before result after events ↔
      result = value ∧ after = before ∧ events = [] := by
  change Except.ok (⟨value, before, []⟩ : Receipt τ σ α) =
    .ok ⟨result, after, events⟩ ↔ _
  simp [eq_comm]

@[simp]
theorem bind_emits (program : Transaction ε τ σ α)
    (next : α → Transaction ε τ σ β) (after : σ) (result : β)
    (events : List τ) :
    (program >>= next).Emits before result after events ↔
      ∃ value middle first second,
        program.Emits before value middle first ∧
          (next value).Emits middle result after second ∧
            events = first ++ second := by
  change Transaction.bind program next before = _ ↔ _
  unfold Transaction.bind Emits
  cases first : program before with
  | error error => simp
  | ok receipt =>
      obtain ⟨value, middle, published⟩ := receipt
      cases second : next value middle with
      | error error =>
          constructor
          · intro outcome
            simp [second] at outcome
          · rintro ⟨_, _, _, _, same, outcome, -⟩
            simp only [Except.ok.injEq, Receipt.mk.injEq] at same
            obtain ⟨rfl, rfl, -⟩ := same
            simp [second] at outcome
      | ok final =>
          obtain ⟨finalValue, finalState, more⟩ := final
          constructor
          · intro outcome
            simp only [second, Except.ok.injEq, Receipt.mk.injEq] at outcome
            obtain ⟨rfl, rfl, rfl⟩ := outcome
            exact ⟨value, middle, published, more, rfl, second, rfl⟩
          · rintro ⟨_, _, _, _, same, outcome, rfl⟩
            simp only [Except.ok.injEq, Receipt.mk.injEq] at same
            obtain ⟨rfl, rfl, rfl⟩ := same
            rw [second] at outcome
            simp only [Except.ok.injEq, Receipt.mk.injEq] at outcome
            obtain ⟨rfl, rfl, rfl⟩ := outcome
            simp [second]

@[simp]
theorem panicIf_emits (condition : Prop) [Decidable condition] (error : ε)
    (after : σ) (result : Unit) (events : List τ) :
    (panicIf condition error : Transaction ε τ σ Unit).Emits before result
        after events ↔
      ¬ condition ∧ after = before ∧ events = [] := by
  unfold panicIf
  split <;> rename_i holds
  · simp [Emits, fail, holds]
  · simp [holds]

@[simp]
theorem unwrapOr_emits (option : Option α) (error : ε) (after : σ)
    (result : α) (events : List τ) :
    (unwrapOr option error : Transaction ε τ σ α).Emits before result after
        events ↔
      option = some result ∧ after = before ∧ events = [] := by
  cases option with
  | none => simp [unwrapOr, Emits, fail]
  | some value => simp [unwrapOr, eq_comm]

@[simp]
theorem read_emits (view : σ → α) (after : σ) (result : α)
    (events : List τ) :
    (read view : Transaction ε τ σ α).Emits before result after events ↔
      result = view before ∧ after = before ∧ events = [] := by
  simp [read, Emits, eq_comm]

@[simp]
theorem modify_emits (update : σ → σ) (after : σ) (result : Unit)
    (events : List τ) :
    (modify update : Transaction ε τ σ Unit).Emits before result after
        events ↔
      after = update before ∧ events = [] := by
  simp [modify, Emits, eq_comm]

@[simp]
theorem publish_emits (event : τ) (after : σ) (result : Unit)
    (events : List τ) :
    (publish event : Transaction ε τ σ Unit).Emits before result after
        events ↔
      after = before ∧ events = [event] := by
  simp [publish, Emits, eq_comm]

theorem attempt_emits_ok [Recovery ε] {program : Transaction ε τ σ α}
    {before after : σ} {value : α} {events : List τ}
    (emits : program.Emits before value after events) :
    (attempt program).Emits before (.ok value) after events := by
  unfold Emits at emits
  simp [attempt, Emits, emits]

theorem attempt_emits_error [Recovery ε] {program : Transaction ε τ σ α}
    {before : σ} {error : ε} (fails : program.Fails before error)
    (survivable : ¬ Fatal error) :
    (attempt program).Emits before (.error error) before [] := by
  unfold Fails at fails
  simp [attempt, Emits, fails, survivable]

@[simp]
theorem internal_emits (program : Transaction ε τ σ α)
    (before after : σ × ρ) (result : α) (events : List τ) :
    (internal program).Emits before result after events ↔
      ∃ changed, program.Emits before.1 result changed events ∧
        after = (changed, before.2) := by
  unfold internal zoom Emits
  cases outcome : program before.1 with
  | error error => simp [outcome]
  | ok receipt =>
      obtain ⟨value, changed, published⟩ := receipt
      simp only [outcome, Except.ok.injEq, Receipt.mk.injEq]
      grind

@[simp]
theorem external_emits (program : Transaction ε τ ρ α)
    (before after : σ × ρ) (result : α) (events : List τ) :
    (external program).Emits before result after events ↔
      ∃ changed, program.Emits before.2 result changed events ∧
        after = (before.1, changed) := by
  unfold external zoom Emits
  cases outcome : program before.2 with
  | error error => simp [outcome]
  | ok receipt =>
      obtain ⟨value, changed, published⟩ := receipt
      simp only [outcome, Except.ok.injEq, Receipt.mk.injEq]
      grind

theorem panicIf_quiet {condition : Prop} [Decidable condition] {error : ε}
    {before : σ} (avoided : ¬ condition) :
    (panicIf condition error : Transaction ε τ σ Unit).Emits before () before
      [] :=
  (panicIf_emits _ _ _ _ _ _).mpr ⟨avoided, rfl, rfl⟩

theorem modify_quiet (before : σ) (update : σ → σ) :
    (modify update : Transaction ε τ σ Unit).Emits before ()
      (update before) [] :=
  (modify_emits _ _ _ _ _).mpr ⟨rfl, rfl⟩

theorem read_quiet (before : σ) (view : σ → α) :
    (read view : Transaction ε τ σ α).Emits before (view before) before [] :=
  (read_emits _ _ _ _ _).mpr ⟨rfl, rfl, rfl⟩

/-- A step that publishes nothing. -/
theorem Emits.quietly {program : Transaction ε τ σ α}
    {next : α → Transaction ε τ σ β} {before middle after : σ} {value : α}
    {result : β} {events : List τ}
    (quiet : program.Emits before value middle [])
    (rest : (next value).Emits middle result after events) :
    (program >>= next).Emits before result after events :=
  (bind_emits _ _ _ _ _ _).mpr ⟨value, middle, [], events, quiet, rest, rfl⟩

theorem Emits.inside {program : Transaction ε τ σ α} {before after : σ}
    {value : α} {events : List τ}
    (emits : program.Emits before value after events) (outside : ρ) :
    (internal program).Emits (before, outside) value (after, outside)
      events :=
  (internal_emits _ _ _ _ _).mpr ⟨after, emits, rfl⟩

end Emits

end Transaction
