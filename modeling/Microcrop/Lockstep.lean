import Microcrop.EventReplay

/-!
# Two transactions in lockstep

A relational triple.  From related states the two programs are refused with
one error, or they return one value, publish the same events and end in
related states.  The relation after the programs may depend on the value, so
that what one check established is known to the next.
-/

namespace Transaction

variable {ε τ σ ς ρ ϱ α β : Type}

/-- The programs run in lockstep. -/
def Lockstep (Pre : σ → ς → Prop) (left : Transaction ε τ σ α)
    (right : Transaction ε τ ς α) (Post : α → σ → ς → Prop) : Prop :=
  ∀ first second, Pre first second →
    (∃ error, left first = .error error ∧ right second = .error error) ∨
      ∃ value firstAfter secondAfter events,
        left first = .ok ⟨value, firstAfter, events⟩ ∧
          right second = .ok ⟨value, secondAfter, events⟩ ∧
            Post value firstAfter secondAfter

section Rules

variable {Pre : σ → ς → Prop} {left : Transaction ε τ σ α}
  {right : Transaction ε τ ς α} {Post : α → σ → ς → Prop}

theorem Lockstep.weaken (lockstep : Lockstep Pre left right Post)
    {Stronger : σ → ς → Prop} {Weaker : α → σ → ς → Prop}
    (before : ∀ first second, Stronger first second → Pre first second)
    (after : ∀ value first second, Post value first second →
      Weaker value first second) :
    Lockstep Stronger left right Weaker := by
  intro first second related
  rcases lockstep first second (before first second related) with refused |
    ⟨value, firstAfter, secondAfter, events, runs, runsOther, post⟩
  · exact Or.inl refused
  · exact Or.inr ⟨value, firstAfter, secondAfter, events, runs, runsOther,
      after _ _ _ post⟩

/-- A fact of the related states is known to the programs. -/
theorem Lockstep.given {fact : Prop}
    (holds : ∀ first second, Pre first second → fact)
    (lockstep : fact → Lockstep Pre left right Post) :
    Lockstep Pre left right Post :=
  fun first second related =>
    lockstep (holds first second related) first second related

theorem pure_lockstep (value : α)
    (holds : ∀ first second, Pre first second → Post value first second) :
    Lockstep Pre (pure value : Transaction ε τ σ α) (pure value) Post :=
  fun first second related =>
    Or.inr ⟨value, first, second, [], rfl, rfl, holds first second related⟩

theorem fail_lockstep (error : ε) :
    Lockstep Pre (fail error : Transaction ε τ σ α) (fail error) Post :=
  fun _ _ _ => Or.inl ⟨error, rfl, rfl⟩

theorem Lockstep.bind {Mid : α → σ → ς → Prop} {next : α → Transaction ε τ σ β}
    {nextOther : α → Transaction ε τ ς β} {Final : β → σ → ς → Prop}
    (lockstep : Lockstep Pre left right Mid)
    (rest : ∀ value, Lockstep (Mid value) (next value) (nextOther value)
      Final) :
    Lockstep Pre (left >>= next) (right >>= nextOther) Final := by
  intro first second related
  change (∃ error, Transaction.bind left next first = .error error ∧
      Transaction.bind right nextOther second = .error error) ∨ _
  rcases lockstep first second related with
    ⟨error, refused, refusedOther⟩ |
    ⟨value, middle, middleOther, events, runs, runsOther, mid⟩
  · exact Or.inl ⟨error, by simp [Transaction.bind, refused],
      by simp [Transaction.bind, refusedOther]⟩
  · rcases rest value middle middleOther mid with
      ⟨error, refused, refusedOther⟩ |
      ⟨result, final, finalOther, later, ends, endsOther, post⟩
    · exact Or.inl ⟨error, by simp [Transaction.bind, runs, refused],
        by simp [Transaction.bind, runsOther, refusedOther]⟩
    · refine Or.inr ⟨result, final, finalOther, events ++ later, ?_, ?_, post⟩
      · change Transaction.bind left next first = _
        simp [Transaction.bind, runs, ends]
      · change Transaction.bind right nextOther second = _
        simp [Transaction.bind, runsOther, endsOther]

theorem read_lockstep {view : σ → α} {viewOther : ς → α}
    (same : ∀ first second, Pre first second →
      view first = viewOther second ∧ Post (view first) first second) :
    Lockstep Pre (read view : Transaction ε τ σ α) (read viewOther) Post := by
  intro first second related
  obtain ⟨equal, post⟩ := same first second related
  exact Or.inr ⟨view first, first, second, [], rfl, by rw [equal]; rfl, post⟩

theorem modify_lockstep {update : σ → σ} {updateOther : ς → ς}
    {Final : Unit → σ → ς → Prop}
    (keeps : ∀ first second, Pre first second →
      Final () (update first) (updateOther second)) :
    Lockstep Pre (modify update : Transaction ε τ σ Unit)
      (modify updateOther) Final :=
  fun first second related =>
    Or.inr ⟨(), update first, updateOther second, [], rfl, rfl,
      keeps first second related⟩

theorem publish_lockstep (event : τ) :
    Lockstep Pre (publish event : Transaction ε τ σ Unit) (publish event)
      fun _ => Pre :=
  fun first second related =>
    Or.inr ⟨(), first, second, [event], rfl, rfl, related⟩

theorem panicIf_lockstep (condition : Prop) [Decidable condition]
    (error : ε) :
    Lockstep Pre (panicIf condition error : Transaction ε τ σ Unit)
      (panicIf condition error)
      fun _ first second => Pre first second ∧ ¬ condition := by
  unfold panicIf
  split
  · exact fail_lockstep error
  · rename_i holds
    exact pure_lockstep () fun _ _ related => ⟨related, holds⟩

theorem unwrapOr_lockstep (option : Option α) (error : ε) :
    Lockstep Pre (unwrapOr option error : Transaction ε τ σ α)
      (unwrapOr option error)
      fun value first second => Pre first second ∧ option = some value := by
  cases option with
  | none => exact fail_lockstep error
  | some value => exact pure_lockstep value fun _ _ related => ⟨related, rfl⟩

/-- A refused attempt leaves both states as they were. -/
theorem Lockstep.attempt [Recovery ε]
    (lockstep : Lockstep Pre left right Post) :
    Lockstep Pre (attempt left) (attempt right)
      fun answer first second =>
        match answer with
        | .ok value => Post value first second
        | .error _ => Pre first second := by
  intro first second related
  rcases lockstep first second related with
    ⟨error, refused, refusedOther⟩ |
    ⟨value, firstAfter, secondAfter, events, runs, runsOther, post⟩
  · by_cases fatal : Fatal error
    · exact Or.inl ⟨error, by simp [Transaction.attempt, refused, fatal],
        by simp [Transaction.attempt, refusedOther, fatal]⟩
    · exact Or.inr ⟨.error error, first, second, [],
        by simp [Transaction.attempt, refused, fatal],
        by simp [Transaction.attempt, refusedOther, fatal], related⟩
  · exact Or.inr ⟨.ok value, firstAfter, secondAfter, events,
      by simp [Transaction.attempt, runs],
      by simp [Transaction.attempt, runsOther], post⟩

/-- Programs on components run in lockstep where the components are found
together and put back into related states. -/
theorem Lockstep.zoom {view : ρ → Except ε σ} {viewOther : ϱ → Except ε ς}
    {put : σ → ρ → ρ} {putOther : ς → ϱ → ϱ} {Outer : ρ → ϱ → Prop}
    {Final : α → ρ → ϱ → Prop}
    (lockstep : ∀ whole other, Outer whole other →
      (∃ error, view whole = .error error ∧
        viewOther other = .error error) ∨
      ∃ part partOther, view whole = .ok part ∧
        viewOther other = .ok partOther ∧
          Lockstep (fun first second => first = part ∧ second = partOther)
            left right fun value first second =>
              Final value (put first whole) (putOther second other)) :
    Lockstep Outer (zoom view put left) (zoom viewOther putOther right)
      Final := by
  intro whole other related
  rcases lockstep whole other related with ⟨error, missing, missingOther⟩ |
    ⟨part, partOther, found, foundOther, runs⟩
  · exact Or.inl ⟨error, by simp [Transaction.zoom, missing],
      by simp [Transaction.zoom, missingOther]⟩
  · rcases runs part partOther ⟨rfl, rfl⟩ with
      ⟨error, refused, refusedOther⟩ |
      ⟨value, after, afterOther, events, ends, endsOther, post⟩
    · exact Or.inl ⟨error, by simp [Transaction.zoom, found, refused],
        by simp [Transaction.zoom, foundOther, refusedOther]⟩
    · exact Or.inr ⟨value, put after whole, putOther afterOther other, events,
        by simp [Transaction.zoom, found, ends],
        by simp [Transaction.zoom, foundOther, endsOther], post⟩

/-- Programs on the first components of pairs with equal second ones. -/
theorem Lockstep.internal (lockstep : Lockstep Pre left right Post) :
    Lockstep
      (fun (first : σ × ρ) (second : ς × ρ) =>
        Pre first.1 second.1 ∧ first.2 = second.2)
      (internal left) (internal right)
      fun value first second =>
        Post value first.1 second.1 ∧ first.2 = second.2 := by
  apply Lockstep.zoom
  rintro ⟨first, outside⟩ ⟨second, other⟩ ⟨related, rfl⟩
  refine Or.inr ⟨first, second, rfl, rfl, ?_⟩
  apply lockstep.weaken
  · rintro _ _ ⟨rfl, rfl⟩
    exact related
  · exact fun _ _ _ post => ⟨post, rfl⟩

end Rules

/-- A program runs in lockstep with itself from one state. -/
theorem refl_lockstep (program : Transaction ε τ σ α) :
    Lockstep Eq program program fun _ => Eq := by
  rintro state _ rfl
  cases outcome : program state with
  | error error => exact Or.inl ⟨error, rfl, rfl⟩
  | ok receipt => exact Or.inr ⟨_, _, _, _, rfl, rfl, rfl⟩

/-- A program on the equal second components of pairs leaves what relates the
first ones. -/
theorem external_lockstep (Related : σ → ς → Prop)
    (program : Transaction ε τ ρ α) :
    Lockstep
      (fun (first : σ × ρ) (second : ς × ρ) =>
        Related first.1 second.1 ∧ first.2 = second.2)
      (external program) (external program)
      fun _ first second =>
        Related first.1 second.1 ∧ first.2 = second.2 := by
  apply Lockstep.zoom
  rintro ⟨first, outside⟩ ⟨second, other⟩ ⟨related, rfl⟩
  refine Or.inr ⟨outside, outside, rfl, rfl, ?_⟩
  apply (refl_lockstep program).weaken
  · rintro _ _ ⟨rfl, rfl⟩
    rfl
  · rintro _ _ _ rfl
    exact ⟨related, rfl⟩

/-! ## Checks -/

/-- A program that depends on no state: it is refused or returns a value, and
neither writes nor publishes. -/
def IsCheck (program : Transaction ε τ σ α) : Prop :=
  ∃ outcome : Except ε α, ∀ before,
    program before = outcome.map fun value => ⟨value, before, []⟩

theorem pure_isCheck (value : α) :
    (pure value : Transaction ε τ σ α).IsCheck :=
  ⟨.ok value, fun _ => rfl⟩

theorem fail_isCheck (error : ε) :
    (fail error : Transaction ε τ σ α).IsCheck :=
  ⟨.error error, fun _ => rfl⟩

theorem panicIf_isCheck (condition : Prop) [Decidable condition]
    (error : ε) : (panicIf condition error : Transaction ε τ σ Unit).IsCheck := by
  unfold panicIf
  split
  · exact fail_isCheck error
  · exact pure_isCheck ()

theorem unwrapOr_isCheck (option : Option α) (error : ε) :
    (unwrapOr option error : Transaction ε τ σ α).IsCheck := by
  cases option with
  | none => exact fail_isCheck error
  | some value => exact pure_isCheck value

theorem IsCheck.bind {program : Transaction ε τ σ α}
    {next : α → Transaction ε τ σ β} (check : program.IsCheck)
    (rest : ∀ value, (next value).IsCheck) : (program >>= next).IsCheck := by
  obtain ⟨outcome, runs⟩ := check
  cases outcome with
  | error error =>
      refine ⟨.error error, fun before => ?_⟩
      change Transaction.bind program next before = _
      simp [Transaction.bind, runs, Except.map]
  | ok value =>
      obtain ⟨final, ends⟩ := rest value
      refine ⟨final, fun before => ?_⟩
      change Transaction.bind program next before = _
      simp only [Transaction.bind, runs, Except.map, ends]
      cases final <;> rfl

theorem IsCheck.lockstep {program : Transaction ε τ σ α}
    (check : program.IsCheck) (Pre : σ → σ → Prop) :
    Lockstep Pre program program fun _ => Pre := by
  obtain ⟨outcome, runs⟩ := check
  intro first second related
  rw [runs, runs]
  cases outcome with
  | error error => exact Or.inl ⟨error, rfl, rfl⟩
  | ok value => exact Or.inr ⟨value, first, second, [], rfl, rfl, related⟩

/-! ## What an outsider sees of two runs -/

/-- What an attempt to run `program` shows: the error, or the value and the
events. -/
def response (program : Transaction ε τ σ α) (before : σ) :
    Except ε (α × List τ) :=
  (program before).map fun receipt => (receipt.value, receipt.events)

section Outside

variable {Pre : σ → ς → Prop} {left : Transaction ε τ σ α}
  {right : Transaction ε τ ς α} {Post : α → σ → ς → Prop}

/-- Programs in lockstep show the same and end in states that are still
related. -/
theorem Lockstep.observed (lockstep : Lockstep Pre left right Post)
    {After : σ → ς → Prop}
    (refused : ∀ first second, Pre first second → After first second)
    (accepted : ∀ value first second, Post value first second →
      After first second)
    {first : σ} {second : ς} (related : Pre first second) :
    left.response first = right.response second ∧
      After (left.advance first) (right.advance second) := by
  unfold response advance
  rcases lockstep first second related with ⟨error, runs, runsOther⟩ |
    ⟨value, firstAfter, secondAfter, events, runs, runsOther, post⟩
  · rw [runs, runsOther]
    exact ⟨rfl, refused first second related⟩
  · rw [runs, runsOther]
    exact ⟨rfl, accepted value firstAfter secondAfter post⟩

end Outside

end Transaction

/-! ## Runs that leave out labels -/

namespace Replay

/-- What a transition of a run publishes is in its log. -/
theorem mem_log {σ Λ τ : Type} {apply : σ → Λ → σ}
    {publishes : σ → Λ → List τ} {labels : List Λ} {state : σ}
    {transition : Transition σ Λ}
    (member : transition ∈ History.trace apply state labels) {event : τ}
    (published : event ∈ publishes transition.source transition.label) :
    event ∈ log apply publishes state labels := by
  induction labels generalizing state with
  | nil => cases member
  | cons label labels ih =>
      unfold log
      rcases List.mem_cons.mp member with rfl | later
      · exact List.mem_append_left _ published
      · exact List.mem_append_right _ (ih later)

/-- What is used up when it is published is published once. -/
theorem log_nodup {σ Λ τ : Type} {apply : σ → Λ → σ}
    {publishes : σ → Λ → Option τ} {Guard : σ → Λ → Prop}
    {Invariant : σ → Prop} {Used : σ → τ → Prop}
    (keeps : ∀ state label, Invariant state → Invariant (apply state label))
    (stays : ∀ state label item, Invariant state → Used state item →
      Used (apply state label) item)
    (uses : ∀ state label item, Guard state label → Invariant state →
      publishes state label = some item →
        ¬ Used state item ∧ Used (apply state label) item)
    (labels : List Λ) {state : σ} (start : Invariant state)
    (guarded : ∀ transition ∈ History.trace apply state labels,
      Guard transition.source transition.label) :
    (log apply (fun state label => (publishes state label).toList) state
        labels).Nodup ∧
      ∀ item ∈ log apply (fun state label =>
        (publishes state label).toList) state labels, ¬ Used state item := by
  induction labels generalizing state with
  | nil => exact ⟨List.nodup_nil, fun _ member => absurd member (by simp [log])⟩
  | cons label labels ih =>
      obtain ⟨nodup, unused⟩ := ih (keeps state label start)
        fun transition member => guarded transition (by simp [member])
      have earlier : ∀ item ∈ log apply (fun state label =>
          (publishes state label).toList) (apply state label) labels,
            ¬ Used state item :=
        fun item member used =>
          unused item member (stays state label item start used)
      unfold log
      cases published : publishes state label with
      | none => exact ⟨nodup, earlier⟩
      | some item =>
          obtain ⟨fresh, used⟩ :=
            uses state label item
              (guarded (History.taken apply state label) (by simp)) start
              published
          refine ⟨List.nodup_cons.mpr ⟨fun member =>
            unused item member used, nodup⟩, ?_⟩
          intro other member
          rcases List.mem_cons.mp member with rfl | later
          · exact fresh
          · exact earlier other later

variable {σ Λ τ : Type} {apply : σ → Λ → σ} {Related : σ → σ → Prop}
  {Guard : σ → Λ → Prop} {kept : Λ → Bool}
  (follows : ∀ first second label, Related first second →
    Guard second label → kept label = true →
      Related (apply first label) (apply second label))
  (stutters : ∀ first second label, Related first second →
    kept label = false → Related (apply first label) second)

include follows stutters

/-- A run stays related to the run of the labels that are kept. -/
theorem run_filter (labels : List Λ) {first second : σ}
    (start : Related first second)
    (guarded : ∀ transition ∈
      History.trace apply second (labels.filter kept),
        Guard transition.source transition.label) :
    Related (History.run apply first labels)
      (History.run apply second (labels.filter kept)) := by
  induction labels generalizing first second with
  | nil => exact start
  | cons label labels ih =>
      cases keeps : kept label with
      | true =>
          rw [List.filter_cons_of_pos keeps] at guarded ⊢
          apply ih
          · exact follows first second label start
              (guarded _ (List.mem_cons_self ..)) keeps
          · intro transition later
            exact guarded transition (List.mem_cons_of_mem _ later)
      | false =>
          rw [List.filter_cons_of_neg (by simp [keeps])] at guarded ⊢
          exact ih (stutters first second label start keeps) guarded

/-- What is observed of the kept labels alone is observed alike. -/
theorem log_filter {observes : σ → Λ → List τ}
    (alike : ∀ first second label, Related first second →
      Guard second label → kept label = true →
        observes first label = observes second label)
    (unseen : ∀ state label, kept label = false → observes state label = [])
    (labels : List Λ) {first second : σ} (start : Related first second)
    (guarded : ∀ transition ∈
      History.trace apply second (labels.filter kept),
        Guard transition.source transition.label) :
    log apply observes first labels =
      log apply observes second (labels.filter kept) := by
  induction labels generalizing first second with
  | nil => rfl
  | cons label labels ih =>
      cases keeps : kept label with
      | true =>
          rw [List.filter_cons_of_pos keeps] at guarded ⊢
          have here : Guard second label := guarded _ (List.mem_cons_self ..)
          have later := ih (follows first second label start here keeps)
            fun transition later =>
              guarded transition (List.mem_cons_of_mem _ later)
          unfold log
          rw [alike first second label start here keeps, later]
      | false =>
          rw [List.filter_cons_of_neg (by simp [keeps])] at guarded ⊢
          have later := ih (stutters first second label start keeps) guarded
          exact (congrArg (· ++ _) (unseen first label keeps)).trans later

end Replay
