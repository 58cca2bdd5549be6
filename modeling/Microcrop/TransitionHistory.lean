import Mathlib.Data.List.Basic

/-!
# Histories of a deterministic machine

A machine consumes one label at a time.  A run is the state it ends in, and
its trace is the list of transitions it took.  Guards restrict the
transitions of a run; a time read off the labels orders them.  The rules at
the end turn what one transition preserves into what a whole run preserves,
for properties of the last state and of the past together.
-/

/-- One transition of a machine. -/
structure Transition (σ Λ : Type) where
  source : σ
  label : Λ
  target : σ

namespace History

variable {σ Λ : Type} (apply : σ → Λ → σ)

/-- The transition that `label` takes from `state`. -/
def taken (state : σ) (label : Λ) : Transition σ Λ :=
  ⟨state, label, apply state label⟩

/-- The state after all labels. -/
def run : σ → List Λ → σ
  | state, [] => state
  | state, label :: labels => run (apply state label) labels

/-- Every transition of the run, oldest first. -/
def trace : σ → List Λ → List (Transition σ Λ)
  | _, [] => []
  | state, label :: labels =>
      taken apply state label :: trace (apply state label) labels

@[simp]
theorem run_nil (state : σ) : run apply state [] = state :=
  rfl

@[simp]
theorem run_cons (state : σ) (label : Λ) (labels : List Λ) :
    run apply state (label :: labels) = run apply (apply state label) labels :=
  rfl

@[simp]
theorem trace_nil (state : σ) : trace apply state [] = [] :=
  rfl

@[simp]
theorem trace_cons (state : σ) (label : Λ) (labels : List Λ) :
    trace apply state (label :: labels) =
      taken apply state label :: trace apply (apply state label) labels :=
  rfl

theorem run_append (state : σ) (first second : List Λ) :
    run apply state (first ++ second) =
      run apply (run apply state first) second := by
  induction first generalizing state with
  | nil => rfl
  | cons label labels ih => exact ih (apply state label)

/-- A view that every label updates on its own runs on its own. -/
theorem run_view {τ : Type} (view : σ → τ) (react : τ → Λ → τ)
    (steps : ∀ state label, view (apply state label) = react (view state) label)
    (labels : List Λ) (state : σ) :
    view (run apply state labels) = run react (view state) labels := by
  induction labels generalizing state with
  | nil => rfl
  | cons label labels ih => rw [run_cons, run_cons, ih, steps]

/-- Labels that change nothing may be left out of a run. -/
theorem run_filter_idle (kept : Λ → Bool)
    (idle : ∀ state label, kept label = false → apply state label = state)
    (labels : List Λ) (state : σ) :
    run apply state (labels.filter kept) = run apply state labels := by
  induction labels generalizing state with
  | nil => rfl
  | cons label labels ih =>
      cases keeps : kept label with
      | true =>
          rw [List.filter_cons_of_pos keeps, run_cons, run_cons, ih]
      | false =>
          rw [List.filter_cons_of_neg (by simp [keeps]), run_cons,
            idle state label keeps, ih]

theorem trace_append (state : σ) (first second : List Λ) :
    trace apply state (first ++ second) =
      trace apply state first ++ trace apply (run apply state first) second := by
  induction first generalizing state with
  | nil => rfl
  | cons label labels ih => simp [ih]

/-- A transition of a run splits the run into what came before it and what
came after it. -/
theorem exists_split_of_mem_trace {state : σ} {labels : List Λ}
    {transition : Transition σ Λ}
    (member : transition ∈ trace apply state labels) :
    ∃ before after, labels = before ++ transition.label :: after ∧
      transition = taken apply (run apply state before) transition.label := by
  induction labels generalizing state with
  | nil => simp at member
  | cons label labels ih =>
      rcases List.mem_cons.mp member with rfl | later
      · exact ⟨[], labels, rfl, rfl⟩
      · obtain ⟨before, after, split, equality⟩ := ih later
        exact ⟨label :: before, after, by rw [split]; rfl, equality⟩

theorem label_mem_of_mem_trace {state : σ} {labels : List Λ}
    {transition : Transition σ Λ}
    (member : transition ∈ trace apply state labels) :
    transition.label ∈ labels := by
  obtain ⟨before, after, split, -⟩ := exists_split_of_mem_trace apply member
  rw [split]
  simp

/-- Times read off the labels never decrease. -/
def Chronological (time : Λ → Nat) (labels : List Λ) : Prop :=
  labels.Pairwise fun earlier later => time earlier ≤ time later

instance (time : Λ → Nat) (labels : List Λ) :
    Decidable (Chronological time labels) :=
  inferInstanceAs (Decidable (List.Pairwise _ _))

section Rules

variable (Guard : Transition σ Λ → Prop)

/-- A property of the past, the clock and the state holds after every guarded
chronological run if it holds at its start, survives the passage of time and
is preserved by every guarded transition. -/
theorem chronological_trace_invariant
    (Invariant : List (Transition σ Λ) → Nat → σ → Prop) {time : Λ → Nat}
    (waits : ∀ past clock now state, clock ≤ now →
      Invariant past clock state → Invariant past now state)
    (steps : ∀ past state label,
      Guard (taken apply state label) → Invariant past (time label) state →
        Invariant (past ++ [taken apply state label]) (time label)
          (apply state label))
    (labels : List Λ) (past : List (Transition σ Λ)) {clock now : Nat}
    {state : σ} (start : Invariant past clock state)
    (ordered : Chronological time labels)
    (afterClock : ∀ label ∈ labels, clock ≤ time label)
    (beforeNow : ∀ label ∈ labels, time label ≤ now) (clockLe : clock ≤ now)
    (guarded : ∀ transition ∈ trace apply state labels, Guard transition) :
    Invariant (past ++ trace apply state labels) now
      (run apply state labels) := by
  induction labels generalizing past clock state with
  | nil => simpa using waits past clock now state clockLe start
  | cons label labels ih =>
      obtain ⟨laterTimes, orderedTail⟩ := List.pairwise_cons.mp ordered
      have current := waits past clock (time label) state
        (afterClock label (by simp)) start
      have next := steps past state label (guarded _ (by simp)) current
      have final := ih _ next orderedTail laterTimes
        (fun other member => beforeNow other (by simp [member]))
        (beforeNow label (by simp))
        (fun transition member => guarded transition (by simp [member]))
      simpa using final

/-- The rule for properties of the clock and the state. -/
theorem chronological_invariant (Invariant : Nat → σ → Prop)
    {time : Λ → Nat}
    (waits : ∀ clock now state, clock ≤ now →
      Invariant clock state → Invariant now state)
    (steps : ∀ state label, Guard (taken apply state label) →
      Invariant (time label) state →
        Invariant (time label) (apply state label))
    (labels : List Λ) {clock now : Nat} {state : σ}
    (start : Invariant clock state) (ordered : Chronological time labels)
    (afterClock : ∀ label ∈ labels, clock ≤ time label)
    (beforeNow : ∀ label ∈ labels, time label ≤ now) (clockLe : clock ≤ now)
    (guarded : ∀ transition ∈ trace apply state labels, Guard transition) :
    Invariant now (run apply state labels) :=
  chronological_trace_invariant apply Guard (fun _ => Invariant)
    (fun _ => waits) (fun _ => steps) labels [] start ordered afterClock
    beforeNow clockLe guarded

/-- The rule for properties of the past and the state. -/
theorem trace_invariant (Invariant : List (Transition σ Λ) → σ → Prop)
    (steps : ∀ past state label,
      Guard (taken apply state label) → Invariant past state →
        Invariant (past ++ [taken apply state label]) (apply state label))
    (labels : List Λ) (past : List (Transition σ Λ)) {state : σ}
    (start : Invariant past state)
    (guarded : ∀ transition ∈ trace apply state labels, Guard transition) :
    Invariant (past ++ trace apply state labels)
      (run apply state labels) := by
  induction labels generalizing past state with
  | nil => simpa using start
  | cons label labels ih =>
      have next := steps past state label (guarded _ (by simp)) start
      have final := ih _ next
        (fun transition member => guarded transition (by simp [member]))
      simpa using final

/-- The rule for properties of the state. -/
theorem run_invariant (Invariant : σ → Prop)
    (steps : ∀ state label, Guard (taken apply state label) →
      Invariant state → Invariant (apply state label))
    (labels : List Λ) {state : σ} (start : Invariant state)
    (guarded : ∀ transition ∈ trace apply state labels, Guard transition) :
    Invariant (run apply state labels) := by
  induction labels generalizing state with
  | nil => exact start
  | cons label labels ih =>
      exact ih (steps state label (guarded _ (by simp)) start)
        (fun transition member => guarded transition (by simp [member]))

/-- What one label of a run brings about and every label keeps, holds at the
end of the run. -/
theorem reaches (Goal : σ → Prop) (keeps : ∀ state label, Goal state →
      Goal (apply state label)) {before after : List Λ} {label : Λ}
    {state : σ}
    (brings : Goal (apply (run apply state before) label)) :
    Goal (run apply state (before ++ label :: after)) := by
  rw [run_append, run_cons]
  exact run_invariant apply (fun _ => True) Goal
    (fun state label _ goal => keeps state label goal) after brings
    (fun _ _ => trivial)

/-- After the labels `past`, the second list is the first one with some labels
struck out, each of which repeats one that the run had accepted before. -/
inductive Strikes (accepts : Transition σ Λ → Bool) (Repeats : Λ → Λ → Prop)
    (start : σ) : List Λ → List Λ → List Λ → Prop
  | done (past : List Λ) : Strikes accepts Repeats start past [] []
  | kept {past labels struck : List Λ} (label : Λ)
      (rest : Strikes accepts Repeats start (past ++ [label]) labels struck) :
      Strikes accepts Repeats start past (label :: labels) (label :: struck)
  | struck {past labels struck : List Λ} (label : Λ)
      {transition : Transition σ Λ}
      (earlier : transition ∈ trace apply start past)
      (accepted : accepts transition = true)
      (repeats : Repeats transition.label label)
      (rest : Strikes accepts Repeats start (past ++ [label]) labels struck) :
      Strikes accepts Repeats start past (label :: labels) struck

/-- Repetitions that change nothing may be struck out of a run. -/
theorem Strikes.run_eq {accepts : Transition σ Λ → Bool}
    {Repeats : Λ → Λ → Prop} {start : σ}
    (idle : ∀ past label, ∀ transition ∈ trace apply start past,
      accepts transition = true → Repeats transition.label label →
        apply (run apply start past) label = run apply start past)
    {past labels struck : List Λ}
    (strikes : Strikes apply accepts Repeats start past labels struck) :
    run apply (run apply start past) struck =
      run apply (run apply start past) labels := by
  have extended : ∀ past label, run apply start (past ++ [label]) =
      apply (run apply start past) label := by
    intro past label
    rw [run_append]
    rfl
  induction strikes with
  | done => rfl
  | @kept past labels struck label rest ih =>
      rw [extended] at ih
      rw [run_cons, run_cons, ih]
  | @struck past labels struck label transition earlier accepted repeats rest
      ih =>
      have same := idle past label transition earlier accepted repeats
      rw [extended, same] at ih
      rw [run_cons, same, ih]

/-- A property of single transitions holds along every guarded run if each
guarded transition from a state of the invariant has it. -/
theorem transitions (Invariant : σ → Prop)
    (Property : Transition σ Λ → Prop)
    (steps : ∀ state label, Guard (taken apply state label) →
      Invariant state →
        Invariant (apply state label) ∧ Property (taken apply state label))
    (labels : List Λ) {state : σ} (start : Invariant state)
    (guarded : ∀ transition ∈ trace apply state labels, Guard transition) :
    ∀ transition ∈ trace apply state labels, Property transition := by
  induction labels generalizing state with
  | nil => simp
  | cons label labels ih =>
      obtain ⟨next, property⟩ := steps state label (guarded _ (by simp)) start
      intro transition member
      rcases List.mem_cons.mp member with rfl | later
      · exact property
      · exact ih next
          (fun other inTail => guarded other (by simp [inTail]))
          transition later

/-- A kind of transition that needs an open latch, and closes it for good,
happens at most once in a run. -/
theorem emits_once (Invariant Latched : σ → Prop)
    (emits : Transition σ Λ → Bool)
    (steps : ∀ state label, Guard (taken apply state label) →
      Invariant state → Invariant (apply state label))
    (stays : ∀ state label, Guard (taken apply state label) →
      Invariant state → Latched state → Latched (apply state label))
    (latches : ∀ state label, Guard (taken apply state label) →
      Invariant state → emits (taken apply state label) = true →
        ¬ Latched state ∧ Latched (apply state label))
    (labels : List Λ) {state : σ} (start : Invariant state)
    (guarded : ∀ transition ∈ trace apply state labels, Guard transition) :
    (trace apply state labels).countP emits ≤ 1 ∧
      (Latched state → (trace apply state labels).countP emits = 0) := by
  induction labels generalizing state with
  | nil => simp
  | cons label labels ih =>
      have guard := guarded (taken apply state label) (by simp)
      obtain ⟨atMostOne, noneLater⟩ := ih (steps state label guard start)
        (fun transition member => guarded transition (by simp [member]))
      rw [trace_cons, List.countP_cons]
      by_cases emitted : emits (taken apply state label) = true
      · obtain ⟨unlatched, latched⟩ := latches state label guard start emitted
        rw [if_pos emitted, noneLater latched]
        exact ⟨Nat.le_refl 1, fun latchedBefore => absurd latchedBefore unlatched⟩
      · rw [if_neg emitted]
        exact ⟨atMostOne, fun latched =>
          noneLater (stays state label guard start latched)⟩

/-- A property of single transitions holds along every guarded chronological
run if each guarded transition from a state of the invariant has it. -/
theorem chronological_transitions (Invariant : Nat → σ → Prop)
    (Property : Transition σ Λ → Prop) {time : Λ → Nat}
    (waits : ∀ clock now state, clock ≤ now →
      Invariant clock state → Invariant now state)
    (steps : ∀ state label, Guard (taken apply state label) →
      Invariant (time label) state →
        Invariant (time label) (apply state label) ∧
          Property (taken apply state label))
    (labels : List Λ) {clock : Nat} {state : σ}
    (start : Invariant clock state) (ordered : Chronological time labels)
    (afterClock : ∀ label ∈ labels, clock ≤ time label)
    (guarded : ∀ transition ∈ trace apply state labels, Guard transition) :
    ∀ transition ∈ trace apply state labels, Property transition := by
  induction labels generalizing clock state with
  | nil => simp
  | cons label labels ih =>
      obtain ⟨laterTimes, orderedTail⟩ := List.pairwise_cons.mp ordered
      have current := waits clock (time label) state
        (afterClock label (by simp)) start
      obtain ⟨next, property⟩ :=
        steps state label (guarded _ (by simp)) current
      intro transition member
      rcases List.mem_cons.mp member with rfl | later
      · exact property
      · exact ih next orderedTail laterTimes
          (fun other inTail => guarded other (by simp [inTail]))
          transition later

/-- A reflexive and transitive relation of states relates the ends of every
guarded chronological run if it relates the ends of each transition. -/
theorem chronological_relation (Invariant : Nat → σ → Prop)
    (Relates : σ → σ → Prop) {time : Λ → Nat}
    (reflexive : ∀ state, Relates state state)
    (transitive : ∀ first second third, Relates first second →
      Relates second third → Relates first third)
    (waits : ∀ clock now state, clock ≤ now →
      Invariant clock state → Invariant now state)
    (steps : ∀ state label, Guard (taken apply state label) →
      Invariant (time label) state →
        Invariant (time label) (apply state label) ∧
          Relates state (apply state label))
    (labels : List Λ) {clock : Nat} {state : σ}
    (start : Invariant clock state) (ordered : Chronological time labels)
    (afterClock : ∀ label ∈ labels, clock ≤ time label)
    (guarded : ∀ transition ∈ trace apply state labels, Guard transition) :
    Relates state (run apply state labels) := by
  induction labels generalizing clock state with
  | nil => exact reflexive state
  | cons label labels ih =>
      obtain ⟨laterTimes, orderedTail⟩ := List.pairwise_cons.mp ordered
      have current := waits clock (time label) state
        (afterClock label (by simp)) start
      obtain ⟨next, related⟩ :=
        steps state label (guarded _ (by simp)) current
      have rest := ih next orderedTail laterTimes
        (fun other inTail => guarded other (by simp [inTail]))
      exact transitive _ _ _ related rest

end Rules

/-! ## A component of a machine -/

section Component

variable {τ Μ : Type} (Cause : Λ → Μ → Prop)

/-- Every label causes some inputs of the component, in this order. -/
inductive Causes : List Λ → List Μ → Prop
  | nil : Causes [] []
  | cons {label : Λ} {labels : List Λ} {group inputs : List Μ}
      (caused : ∀ input ∈ group, Cause label input)
      (later : Causes labels inputs) :
      Causes (label :: labels) (group ++ inputs)

variable {Cause} {labels : List Λ} {inputs : List Μ}

theorem Causes.exists_cause (causes : Causes Cause labels inputs)
    {input : Μ} (member : input ∈ inputs) :
    ∃ label ∈ labels, Cause label input := by
  induction causes with
  | nil => simp at member
  | cons caused later ih =>
      rcases List.mem_append.mp member with here | inTail
      · exact ⟨_, by simp, caused input here⟩
      · obtain ⟨label, inLabels, cause⟩ := ih inTail
        exact ⟨label, by simp [inLabels], cause⟩

/-- Inputs at the time of their cause are in order. -/
theorem Causes.chronological (causes : Causes Cause labels inputs)
    {time : Λ → Nat} {inputTime : Μ → Nat}
    (sameTime : ∀ label input, Cause label input →
      inputTime input = time label)
    (ordered : Chronological time labels) :
    Chronological inputTime inputs := by
  induction causes with
  | nil => exact List.Pairwise.nil
  | @cons label labels group inputs caused later ih =>
      obtain ⟨laterTimes, orderedTail⟩ := List.pairwise_cons.mp ordered
      have together : group.Pairwise fun earlier next =>
          inputTime earlier ≤ inputTime next := by
        apply List.pairwise_of_forall_mem_list
        intro earlier member next nextMember
        have first := sameTime label earlier (caused earlier member)
        have second := sameTime label next (caused next nextMember)
        omega
      apply List.pairwise_append.mpr
      refine ⟨together, ih orderedTail, ?_⟩
      intro earlier member next nextMember
      obtain ⟨other, inLabels, cause⟩ := later.exists_cause nextMember
      rw [sameTime label earlier (caused earlier member),
        sameTime other next cause]
      exact laterTimes other inLabels

/-- A component that answers every label by inputs which the label causes runs
on its own inside every run. -/
theorem run_component (view : σ → Option τ) (react : τ → Μ → τ)
    (steps : ∀ state label part, view state = some part →
      ∃ group, (∀ input ∈ group, Cause label input) ∧
        view (apply state label) = some (run react part group))
    (labels : List Λ) {state : σ} {part : τ}
    (start : view state = some part) :
    ∃ inputs, Causes Cause labels inputs ∧
      view (run apply state labels) = some (run react part inputs) := by
  induction labels generalizing state part with
  | nil => exact ⟨[], .nil, start⟩
  | cons label labels ih =>
      obtain ⟨group, caused, next⟩ := steps state label part start
      obtain ⟨inputs, causes, final⟩ := ih next
      exact ⟨group ++ inputs, .cons caused causes,
        by rw [run_append]; exact final⟩

end Component

/-! ## Simulation by another machine -/

section Simulation

variable {τ Μ : Type}
  (Answer : Transition σ Λ → List (Transition τ Μ) → Prop)

/-- Every transition is answered by a group of transitions of the other
machine, in this order. -/
inductive Answered : List (Transition σ Λ) → List (Transition τ Μ) → Prop
  | nil : Answered [] []
  | cons {transition : Transition σ Λ} {transitions : List (Transition σ Λ)}
      {group others : List (Transition τ Μ)}
      (answer : Answer transition group)
      (later : Answered transitions others) :
      Answered (transition :: transitions) (group ++ others)

variable {Answer} {transitions : List (Transition σ Λ)}
  {others : List (Transition τ Μ)}

theorem Answered.exists_answer (answered : Answered Answer transitions others)
    {other : Transition τ Μ} (member : other ∈ others) :
    ∃ transition ∈ transitions, ∃ group,
      Answer transition group ∧ other ∈ group := by
  induction answered with
  | nil => simp at member
  | cons answer later ih =>
      rcases List.mem_append.mp member with here | inTail
      · exact ⟨_, List.mem_cons_self, _, answer, here⟩
      · obtain ⟨transition, inTransitions, found⟩ := ih inTail
        exact ⟨transition, List.mem_cons_of_mem _ inTransitions, found⟩

/-- Groups of inputs that their labels cause. -/
theorem Answered.causes {Cause : Λ → Μ → Prop}
    (answered : Answered Answer transitions others)
    (caused : ∀ {transition group}, Answer transition group →
      ∀ other ∈ group, Cause transition.label other.label) :
    Causes Cause (transitions.map Transition.label)
      (others.map Transition.label) := by
  induction answered with
  | nil => exact .nil
  | cons answer later ih =>
      rw [List.map_cons, List.map_append]
      refine .cons ?_ ih
      intro input member
      obtain ⟨other, inGroup, rfl⟩ := List.mem_map.mp member
      exact caused answer other inGroup

/-- What can be read off every group can be read off the whole run. -/
theorem Answered.filter_eq (answered : Answered Answer transitions others)
    {kept : Μ → Bool} {read : Transition σ Λ → Option Μ}
    (reads : ∀ {transition group}, Answer transition group →
      (group.map Transition.label).filter kept = (read transition).toList) :
    (others.map Transition.label).filter kept = transitions.filterMap read := by
  induction answered with
  | nil => rfl
  | @cons transition transitions group others answer later ih =>
      rw [List.map_append, List.filter_append, reads answer, ih,
        List.filterMap_cons]
      cases read transition <;> rfl

theorem map_label_trace (labels : List Λ) (state : σ) :
    (trace apply state labels).map Transition.label = labels := by
  induction labels generalizing state with
  | nil => rfl
  | cons label labels ih => rw [trace_cons, List.map_cons, ih, taken]

/-- A machine that answers every label of another one follows every run of
it, as long as the labels last for `bound`. -/
theorem run_simulates (Related : Nat → σ → τ → Prop) (react : τ → Μ → τ)
    {bound : Nat}
    (steps : ∀ count state label other, count < bound →
      Related count state other →
        ∃ group, Answer (taken apply state label) (trace react other group) ∧
          Related (count + 1) (apply state label) (run react other group))
    (labels : List Λ) {count : Nat} {state : σ} {other : τ}
    (lasts : count + labels.length ≤ bound)
    (start : Related count state other) :
    ∃ inputs,
      Answered Answer (trace apply state labels) (trace react other inputs) ∧
        Related (count + labels.length) (run apply state labels)
          (run react other inputs) := by
  induction labels generalizing count state other with
  | nil => exact ⟨[], .nil, start⟩
  | cons label labels ih =>
      rw [List.length_cons] at lasts ⊢
      obtain ⟨group, answer, next⟩ :=
        steps count state label other (by omega) start
      obtain ⟨inputs, answered, final⟩ := ih (by omega) next
      refine ⟨group ++ inputs, ?_, ?_⟩
      · rw [trace_append]
        exact .cons answer answered
      · have same : count + (labels.length + 1) =
            count + 1 + labels.length := by
          omega
        rw [run_append, same]
        exact final

end Simulation

end History
