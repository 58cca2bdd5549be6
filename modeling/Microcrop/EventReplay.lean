import Microcrop.AtomicTransaction
import Microcrop.TransitionHistory

/-!
# Replaying published events

A reader who sees nothing but the events of committed transactions can follow
a view of the state when absorbing the events of a transaction turns the view
before it into the view after it.  `Follows` says so of one program under an
invariant, and is closed under sequencing: a program that calls others
follows the view when they do.  `Silent` and `Announces` say which events of a
program the reader does not skip.  The last section turns what one label
publishes into the log of a whole run.
-/

namespace Transaction

variable {ε τ σ ρ μ α β : Type}

/-- The events that an attempt to run `program` publishes. -/
def published (program : Transaction ε τ σ α) (before : σ) : List τ :=
  match program before with
  | .ok receipt => receipt.events
  | .error _ => []

theorem Commits.emits_published {program : Transaction ε τ σ α}
    {before after : σ} {value : α}
    (commits : program.Commits before value after) :
    program.Emits before value after (program.published before) := by
  obtain ⟨events, outcome⟩ := commits
  simp [Emits, published, outcome]

theorem published_of_refused {program : Transaction ε τ σ α} {before : σ}
    (refused : program.committed before = false) :
    program.published before = [] := by
  unfold committed at refused
  unfold published
  cases outcome : program before with
  | error error => rfl
  | ok receipt => simp [outcome] at refused

theorem fail_emits (error : ε) (before after : σ) (value : α)
    (events : List τ) :
    ¬ (fail error : Transaction ε τ σ α).Emits before value after events := by
  intro emits
  cases emits

theorem attempt_emits [Recovery ε] (program : Transaction ε τ σ α)
    (before after : σ) (result : Except ε α) (events : List τ) :
    (attempt program).Emits before result after events ↔
      (∃ value, program.Emits before value after events ∧
          result = .ok value) ∨
        ∃ error, program.Fails before error ∧ ¬ Fatal error ∧
          result = .error error ∧ after = before ∧ events = [] := by
  unfold attempt Emits Fails
  cases outcome : program before with
  | error error => grind
  | ok receipt =>
      obtain ⟨value, state, published⟩ := receipt
      grind

theorem zoom_emits (view : ρ → Except ε σ) (put : σ → ρ → ρ)
    (program : Transaction ε τ σ α) (before after : ρ) (result : α)
    (events : List τ) :
    (zoom view put program).Emits before result after events ↔
      ∃ component changed, view before = .ok component ∧
        program.Emits component result changed events ∧
          after = put changed before := by
  unfold zoom Emits
  cases seen : view before with
  | error error => simp [seen]
  | ok component =>
      cases outcome : program component with
      | error error => simp [seen, outcome]
      | ok receipt =>
          obtain ⟨value, state, published⟩ := receipt
          simp only [seen, outcome, Except.ok.injEq, Receipt.mk.injEq]
          grind

/-! ## Programs that neither write nor publish -/

/-- Every committed run leaves the state as it was and publishes nothing. -/
def Idle (program : Transaction ε τ σ α) : Prop :=
  ∀ before value after events, program.Emits before value after events →
    after = before ∧ events = []

section Idle

theorem pure_idle (value : α) : (pure value : Transaction ε τ σ α).Idle :=
  fun _ _ _ _ emits => ((pure_emits _ _ _ _ _).mp emits).2

theorem read_idle (view : σ → α) : (read view : Transaction ε τ σ α).Idle :=
  fun _ _ _ _ emits => ((read_emits _ _ _ _ _).mp emits).2

theorem fail_idle (error : ε) : (fail error : Transaction ε τ σ α).Idle :=
  fun before value after events emits =>
    absurd emits (fail_emits error before after value events)

theorem panicIf_idle (condition : Prop) [Decidable condition] (error : ε) :
    (panicIf condition error : Transaction ε τ σ Unit).Idle :=
  fun _ _ _ _ emits => ((panicIf_emits _ _ _ _ _ _).mp emits).2

theorem unwrapOr_idle (option : Option α) (error : ε) :
    (unwrapOr option error : Transaction ε τ σ α).Idle :=
  fun _ _ _ _ emits => ((unwrapOr_emits _ _ _ _ _ _).mp emits).2

theorem Idle.bind {program : Transaction ε τ σ α}
    {next : α → Transaction ε τ σ β} (first : program.Idle)
    (rest : ∀ value, (next value).Idle) : (program >>= next).Idle := by
  intro before result after events emits
  obtain ⟨value, middle, early, late, emitsEarly, emitsLate, rfl⟩ :=
    (bind_emits _ _ _ _ _ _).mp emits
  obtain ⟨rfl, rfl⟩ := first before value middle early emitsEarly
  exact rest value _ result after late emitsLate

theorem Idle.attempt [Recovery ε] {program : Transaction ε τ σ α}
    (idle : program.Idle) : (attempt program).Idle := by
  intro before result after events emits
  rcases (attempt_emits _ _ _ _ _).mp emits with
    ⟨value, emits, -⟩ | ⟨error, -, -, -, same, none⟩
  · exact idle before value after events emits
  · exact ⟨same, none⟩

/-- A component that is only read leaves the whole as it was. -/
theorem Idle.zoom {view : ρ → Except ε σ} {put : σ → ρ → ρ}
    {program : Transaction ε τ σ α} (idle : program.Idle)
    (restores : ∀ whole component, view whole = .ok component →
      put component whole = whole) : (zoom view put program).Idle := by
  intro before result after events emits
  obtain ⟨component, changed, found, emitsInside, rfl⟩ :=
    (zoom_emits _ _ _ _ _ _ _).mp emits
  obtain ⟨rfl, rfl⟩ := idle component result changed events emitsInside
  exact ⟨restores before changed found, rfl⟩

theorem Idle.internal {program : Transaction ε τ σ α} (idle : program.Idle) :
    (internal program : Transaction ε τ (σ × ρ) α).Idle := by
  apply idle.zoom
  rintro whole component ⟨⟩
  rfl

theorem Idle.external {program : Transaction ε τ ρ α} (idle : program.Idle) :
    (external program : Transaction ε τ (σ × ρ) α).Idle := by
  apply idle.zoom
  rintro whole component ⟨⟩
  rfl

end Idle

/-! ## The events that a reader hears -/

/-- The reader hears nothing of a committed run. -/
def Silent (heard : τ → Bool) (program : Transaction ε τ σ α) : Prop :=
  ∀ before value after all, program.Emits before value after all →
    all.filter heard = []

/-- Of a committed run that returns `value` the reader hears exactly
`events value`. -/
def Announces (heard : τ → Bool) (program : Transaction ε τ σ α)
    (events : α → List τ) : Prop :=
  ∀ before value after all, program.Emits before value after all →
    all.filter heard = events value

section Silent

variable {heard : τ → Bool}

theorem Idle.silent {program : Transaction ε τ σ α} (idle : program.Idle) :
    program.Silent heard := by
  intro before value after all emits
  rw [(idle before value after all emits).2]
  rfl

theorem pure_silent (value : α) :
    (pure value : Transaction ε τ σ α).Silent heard :=
  (pure_idle value).silent

theorem read_silent (view : σ → α) :
    (read view : Transaction ε τ σ α).Silent heard :=
  (read_idle view).silent

theorem fail_silent (error : ε) :
    (fail error : Transaction ε τ σ α).Silent heard :=
  (fail_idle error).silent

theorem panicIf_silent (condition : Prop) [Decidable condition] (error : ε) :
    (panicIf condition error : Transaction ε τ σ Unit).Silent heard :=
  (panicIf_idle condition error).silent

theorem unwrapOr_silent (option : Option α) (error : ε) :
    (unwrapOr option error : Transaction ε τ σ α).Silent heard :=
  (unwrapOr_idle option error).silent

theorem modify_silent (update : σ → σ) :
    (modify update : Transaction ε τ σ Unit).Silent heard := by
  intro before result after all emits
  rw [((modify_emits _ _ _ _ _).mp emits).2]
  rfl

theorem publish_silent {event : τ} (unheard : heard event = false) :
    (publish event : Transaction ε τ σ Unit).Silent heard := by
  intro before result after all emits
  rw [((publish_emits _ _ _ _ _).mp emits).2]
  simp [unheard]

theorem Silent.bind {program : Transaction ε τ σ α}
    {next : α → Transaction ε τ σ β} (first : program.Silent heard)
    (rest : ∀ value, (next value).Silent heard) :
    (program >>= next).Silent heard := by
  intro before result after all emits
  obtain ⟨value, middle, early, late, emitsEarly, emitsLate, rfl⟩ :=
    (bind_emits _ _ _ _ _ _).mp emits
  rw [List.filter_append, first before value middle early emitsEarly,
    rest value middle result after late emitsLate]
  rfl

theorem Silent.attempt [Recovery ε] {program : Transaction ε τ σ α}
    (silent : program.Silent heard) : (attempt program).Silent heard := by
  intro before result after all emits
  rcases (attempt_emits _ _ _ _ _).mp emits with
    ⟨value, emits, -⟩ | ⟨error, -, -, -, -, rfl⟩
  · exact silent before value after all emits
  · rfl

theorem Silent.zoom {program : Transaction ε τ σ α}
    (silent : program.Silent heard) (view : ρ → Except ε σ)
    (put : σ → ρ → ρ) : (zoom view put program).Silent heard := by
  intro before result after all emits
  obtain ⟨component, changed, -, emitsInside, -⟩ :=
    (zoom_emits _ _ _ _ _ _ _).mp emits
  exact silent component result changed all emitsInside

theorem Silent.internal {program : Transaction ε τ σ α}
    (silent : program.Silent heard) :
    (internal program : Transaction ε τ (σ × ρ) α).Silent heard :=
  silent.zoom _ _

theorem Silent.external {program : Transaction ε τ ρ α}
    (silent : program.Silent heard) :
    (external program : Transaction ε τ (σ × ρ) α).Silent heard :=
  silent.zoom _ _

theorem Silent.announces {program : Transaction ε τ σ α}
    (silent : program.Silent heard) :
    program.Announces heard fun _ => [] :=
  silent

theorem publish_announces {event : τ} (hears : heard event = true) :
    (publish event : Transaction ε τ σ Unit).Announces heard
      fun _ => [event] := by
  intro before result after all emits
  rw [((publish_emits _ _ _ _ _).mp emits).2]
  simp [hears]

/-- What is announced before a value is returned depends on the value. -/
theorem Announces.returning {program : Transaction ε τ σ Unit} {value : α}
    {events : α → List τ}
    (announces : program.Announces heard fun _ => events value) :
    (program >>= fun _ => pure value).Announces heard events := by
  intro before result after all emits
  obtain ⟨_, middle, early, late, emitsEarly, returns, rfl⟩ :=
    (bind_emits _ _ _ _ _ _).mp emits
  obtain ⟨rfl, -, rfl⟩ := (pure_emits _ _ _ _ _).mp returns
  rw [List.append_nil]
  exact announces before () middle early emitsEarly

/-- A step that the reader does not hear, and what its value is known to
be. -/
theorem Silent.knowing {program : Transaction ε τ σ α}
    {next : α → Transaction ε τ σ β} {events : β → List τ}
    (silent : program.Silent heard)
    (rest : ∀ before value after, program.Commits before value after →
      (next value).Announces heard events) :
    (program >>= next).Announces heard events := by
  intro before result after all emits
  obtain ⟨value, middle, early, late, emitsEarly, emitsLate, rfl⟩ :=
    (bind_emits _ _ _ _ _ _).mp emits
  rw [List.filter_append, silent before value middle early emitsEarly,
    List.nil_append]
  exact rest before value middle emitsEarly.commits middle result after late
    emitsLate

theorem Silent.andThen {program : Transaction ε τ σ α}
    {next : α → Transaction ε τ σ β} {events : β → List τ}
    (silent : program.Silent heard)
    (rest : ∀ value, (next value).Announces heard events) :
    (program >>= next).Announces heard events :=
  silent.knowing fun _ value _ _ => rest value

theorem Announces.internal {program : Transaction ε τ σ α}
    {events : α → List τ} (announces : program.Announces heard events) :
    (internal program : Transaction ε τ (σ × ρ) α).Announces heard
      events := by
  intro before result after all emits
  obtain ⟨changed, emitsInside, -⟩ := (internal_emits _ _ _ _ _).mp emits
  exact announces before.1 result changed all emitsInside

end Silent

/-! ## Following a view -/

/-- From every state of the invariant, absorbing the events of a committed
run turns the view before it into the view after it. -/
def Follows (Invariant : σ → Prop) (absorb : μ → τ → μ) (view : σ → μ)
    (program : Transaction ε τ σ α) : Prop :=
  ∀ before value after events, Invariant before →
    program.Emits before value after events →
      Invariant after ∧ events.foldl absorb (view before) = view after

section Follows

variable {Invariant : σ → Prop} {absorb : μ → τ → μ} {view : σ → μ}
  {heard : τ → Bool}

/-- Events that are not heard can be left out of the log. -/
theorem foldl_heard
    (skips : ∀ known event, heard event = false → absorb known event = known)
    (known : μ) (events : List τ) :
    (events.filter heard).foldl absorb known =
      events.foldl absorb known := by
  induction events generalizing known with
  | nil => rfl
  | cons event events ih =>
      cases hears : heard event with
      | true => simp [hears, ih]
      | false => simp [hears, ih, skips known event hears]

/-- A program follows the view if its announced events account for what its
committed runs do to the view. -/
theorem Announces.follows {program : Transaction ε τ σ α}
    {events : α → List τ} (announces : program.Announces heard events)
    (skips : ∀ known event, heard event = false → absorb known event = known)
    (accounts : ∀ before value after, Invariant before →
      program.Commits before value after →
        Invariant after ∧
          (events value).foldl absorb (view before) = view after) :
    program.Follows Invariant absorb view := by
  intro before value after all invariant emits
  have heardEvents := announces before value after all emits
  rw [← foldl_heard skips, heardEvents]
  exact accounts before value after invariant emits.commits

theorem Idle.follows {program : Transaction ε τ σ α} (idle : program.Idle) :
    program.Follows Invariant absorb view := by
  intro before value after events invariant emits
  obtain ⟨rfl, rfl⟩ := idle before value after events emits
  exact ⟨invariant, rfl⟩

theorem publish_follows {event : τ}
    (skips : ∀ known event, heard event = false → absorb known event = known)
    (unheard : heard event = false) :
    (publish event : Transaction ε τ σ Unit).Follows Invariant absorb
      view := by
  apply (publish_silent unheard).announces.follows skips
  intro before value after invariant commits
  obtain rfl := (publish_commits _ _ _ _).mp commits
  exact ⟨invariant, rfl⟩

theorem Follows.bind {program : Transaction ε τ σ α}
    {next : α → Transaction ε τ σ β}
    (first : program.Follows Invariant absorb view)
    (rest : ∀ value, (next value).Follows Invariant absorb view) :
    (program >>= next).Follows Invariant absorb view := by
  intro before result after events invariant emits
  obtain ⟨value, middle, early, late, emitsEarly, emitsLate, rfl⟩ :=
    (bind_emits _ _ _ _ _ _).mp emits
  obtain ⟨invariantMiddle, sameMiddle⟩ :=
    first before value middle early invariant emitsEarly
  rw [List.foldl_append, sameMiddle]
  exact rest value middle result after late invariantMiddle emitsLate

theorem Follows.attempt [Recovery ε] {program : Transaction ε τ σ α}
    (follows : program.Follows Invariant absorb view) :
    (attempt program).Follows Invariant absorb view := by
  intro before result after events invariant emits
  rcases (attempt_emits _ _ _ _ _).mp emits with
    ⟨value, emits, -⟩ | ⟨error, -, -, -, rfl, rfl⟩
  · exact follows before value after events invariant emits
  · exact ⟨invariant, rfl⟩

/-- The view of the whole is the view of the component. -/
theorem Follows.zoom {Outer : ρ → Prop} {outer : ρ → μ}
    {find : ρ → Except ε σ} {put : σ → ρ → ρ}
    {program : Transaction ε τ σ α}
    (follows : program.Follows Invariant absorb view)
    (reads : ∀ whole component, find whole = .ok component → Outer whole →
      Invariant component ∧ outer whole = view component)
    (writes : ∀ whole component changed, find whole = .ok component →
      Outer whole → Invariant changed →
        Outer (put changed whole) ∧
          outer (put changed whole) = view changed) :
    (zoom find put program).Follows Outer absorb outer := by
  intro before result after events invariant emits
  obtain ⟨component, changed, found, emitsInside, rfl⟩ :=
    (zoom_emits _ _ _ _ _ _ _).mp emits
  obtain ⟨invariantBefore, same⟩ := reads before component found invariant
  obtain ⟨invariantAfter, absorbed⟩ :=
    follows component result changed events invariantBefore emitsInside
  obtain ⟨kept, written⟩ :=
    writes before component changed found invariant invariantAfter
  exact ⟨kept, by rw [same, written, absorbed]⟩

theorem Follows.internal {program : Transaction ε τ σ α}
    (follows : program.Follows Invariant absorb view) :
    (internal program : Transaction ε τ (σ × ρ) α).Follows
      (fun both => Invariant both.1) absorb fun both => view both.1 := by
  apply follows.zoom
  · rintro whole component ⟨⟩ invariant
    exact ⟨invariant, rfl⟩
  · rintro whole component changed - - invariant
    exact ⟨invariant, rfl⟩

/-- The view of the whole does not depend on the component. -/
theorem Silent.follows_zoom {Outer : ρ → Prop} {outer : ρ → μ}
    {find : ρ → Except ε σ} {put : σ → ρ → ρ}
    {program : Transaction ε τ σ α} (silent : program.Silent heard)
    (skips : ∀ known event, heard event = false → absorb known event = known)
    (untouched : ∀ whole changed, Outer whole →
      Outer (put changed whole) ∧ outer (put changed whole) = outer whole) :
    (Transaction.zoom find put program).Follows Outer absorb outer := by
  apply (silent.zoom find put).announces.follows skips
  intro before value after invariant commits
  obtain ⟨component, changed, -, -, rfl⟩ :=
    (zoom_commits _ _ _ _ _ _).mp commits
  obtain ⟨kept, same⟩ := untouched before changed invariant
  exact ⟨kept, same.symm⟩

/-- An attempted program follows the view whether it commits or not. -/
theorem Follows.published {program : Transaction ε τ σ α}
    (follows : program.Follows Invariant absorb view) {before : σ}
    (invariant : Invariant before) :
    Invariant (program.advance before) ∧
      (program.published before).foldl absorb (view before) =
        view (program.advance before) := by
  rcases advance_cases program before with
    ⟨refused, same⟩ | ⟨-, value, commits⟩
  · rw [same, published_of_refused refused]
    exact ⟨invariant, rfl⟩
  · exact follows before value _ _ invariant commits.emits_published

end Follows

end Transaction

/-! ## The log of a run -/

namespace Replay

variable {σ Λ τ μ : Type}

/-- What the labels of a run publish, oldest first. -/
def log (apply : σ → Λ → σ) (publishes : σ → Λ → List τ) :
    σ → List Λ → List τ
  | _, [] => []
  | state, label :: labels =>
      publishes state label ++ log apply publishes (apply state label) labels

/-- The reader who follows each label follows every run. -/
theorem foldl_log {apply : σ → Λ → σ} {publishes : σ → Λ → List τ}
    {absorb : μ → τ → μ} {view : σ → μ} {Invariant : σ → Prop}
    (follows : ∀ state label, Invariant state →
      Invariant (apply state label) ∧
        (publishes state label).foldl absorb (view state) =
          view (apply state label))
    (labels : List Λ) {state : σ} (start : Invariant state) :
    (log apply publishes state labels).foldl absorb (view state) =
      view (History.run apply state labels) := by
  induction labels generalizing state with
  | nil => rfl
  | cons label labels ih =>
      obtain ⟨invariant, absorbed⟩ := follows state label start
      unfold log
      rw [List.foldl_append, absorbed]
      exact ih invariant

end Replay
