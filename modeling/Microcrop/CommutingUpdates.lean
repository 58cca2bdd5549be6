import Mathlib.Logic.Function.Basic
import Microcrop.TransitionHistory

/-!
# Updates that commute

Two updates of single entries of a keyed store commute when they touch
different entries or when what they do to the shared entry commutes.  If the
labels of a machine commute and a repeated label changes nothing, then the end
of a run depends on the set of its labels only.
-/

namespace KeyedStore

variable {κ α : Type} [DecidableEq κ]

/-- Replace the entry under `key` by its image. -/
def adjust (store : κ → α) (key : κ) (change : α → α) : κ → α :=
  Function.update store key (change (store key))

@[simp]
theorem adjust_self (store : κ → α) (key : κ) (change : α → α) :
    adjust store key change key = change (store key) :=
  Function.update_self ..

theorem adjust_of_ne {store : κ → α} {key other : κ} {change : α → α}
    (different : other ≠ key) :
    adjust store key change other = store other :=
  Function.update_of_ne different ..

theorem adjust_eq_self {store : κ → α} {key : κ} {change : α → α}
    (same : change (store key) = store key) :
    adjust store key change = store := by
  unfold adjust
  rw [same, Function.update_eq_self]

/-- Adjustments commute when they commute on the entry that they share. -/
theorem adjust_comm (store : κ → α) {first second : κ}
    {change change' : α → α}
    (shared : first = second →
      change (change' (store second)) = change' (change (store second))) :
    adjust (adjust store second change') first change =
      adjust (adjust store first change) second change' := by
  by_cases same : first = second
  · subst same
    have agree := shared rfl
    ext key
    by_cases here : key = first
    · subst here
      simp [agree]
    · simp [adjust_of_ne here]
  · unfold adjust
    rw [Function.update_of_ne same, Function.update_of_ne (Ne.symm same),
      Function.update_comm (Ne.symm same)]

end KeyedStore

namespace History

variable {σ Λ κ : Type} {apply : σ → Λ → σ} {Allowed : Λ → Prop}
  {Invariant : σ → Prop} {key : Λ → κ}

/-- Allowed labels commute on the states of an invariant, and a label whose
key came before changes nothing. -/
structure Confluent (apply : σ → Λ → σ) (Allowed : Λ → Prop)
    (Invariant : σ → Prop) (key : Λ → κ) : Prop where
  keeps : ∀ {state label}, Allowed label → Invariant state →
    Invariant (apply state label)
  swaps : ∀ {state first second}, Allowed first → Allowed second →
    Invariant state →
      apply (apply state first) second = apply (apply state second) first
  absorbs : ∀ {state first second}, Allowed first → Allowed second →
    key first = key second → Invariant state →
      apply (apply state first) second = apply state first

section Confluent

variable (confluent : Confluent apply Allowed Invariant key)

include confluent

/-- A label moves from the end of a run to its start. -/
theorem Confluent.run_swap {state : σ} {labels : List Λ} {label : Λ}
    (holds : Invariant state) (allowed : ∀ other ∈ labels, Allowed other)
    (allowedLabel : Allowed label) :
    apply (run apply state labels) label =
      run apply (apply state label) labels := by
  induction labels generalizing state with
  | nil => rfl
  | cons next rest ih =>
      have allowedNext : Allowed next := allowed next (by simp)
      rw [run_cons, run_cons, confluent.swaps allowedLabel allowedNext holds]
      exact ih (confluent.keeps allowedNext holds)
        (fun other member => allowed other (by simp [member]))

/-- A label whose key came before changes nothing. -/
theorem Confluent.run_absorb {state : σ} {labels : List Λ} {label : Λ}
    (holds : Invariant state) (allowed : ∀ other ∈ labels, Allowed other)
    (allowedLabel : Allowed label) (seen : ∃ other ∈ labels,
      key other = key label) :
    apply (run apply state labels) label = run apply state labels := by
  induction labels generalizing state with
  | nil => simp at seen
  | cons next rest ih =>
      have allowedNext : Allowed next := allowed next (by simp)
      have allowedRest : ∀ other ∈ rest, Allowed other :=
        fun other member => allowed other (by simp [member])
      have holdsNext := confluent.keeps allowedNext holds
      obtain ⟨other, member, same⟩ := seen
      rw [run_cons]
      rcases List.mem_cons.mp member with rfl | later
      · rw [confluent.run_swap holdsNext allowedRest allowedLabel,
          confluent.absorbs allowedNext allowedLabel same holds]
      · exact ih holdsNext allowedRest ⟨other, later, same⟩

/-- Labels whose keys came before change nothing. -/
theorem Confluent.run_absorb_all {state : σ} {labels extra : List Λ}
    (holds : Invariant state) (allowed : ∀ other ∈ labels, Allowed other)
    (allowedExtra : ∀ other ∈ extra, Allowed other)
    (seen : ∀ label ∈ extra, ∃ other ∈ labels, key other = key label) :
    run apply state (labels ++ extra) = run apply state labels := by
  induction extra with
  | nil => simp
  | cons next rest ih =>
      rw [run_append, run_cons, confluent.run_absorb holds allowed
        (allowedExtra next (by simp)) (seen next (by simp)), ← run_append]
      exact ih (fun other member => allowedExtra other (by simp [member]))
        (fun label member => seen label (by simp [member]))

theorem Confluent.run_append_comm {state : σ} {first second : List Λ}
    (holds : Invariant state) (allowed : ∀ label ∈ first, Allowed label)
    (allowed' : ∀ label ∈ second, Allowed label) :
    run apply state (first ++ second) = run apply state (second ++ first) := by
  induction first generalizing state with
  | nil => simp
  | cons next rest ih =>
      have allowedNext : Allowed next := allowed next (by simp)
      have allowedRest : ∀ other ∈ rest, Allowed other :=
        fun other member => allowed other (by simp [member])
      rw [List.cons_append, run_cons,
        ih (confluent.keeps allowedNext holds) allowedRest, run_append,
        run_append, ← confluent.run_swap holds allowed' allowedNext, run_cons]

/-- Runs with the same keys end in the same state. -/
theorem Confluent.run_eq {state : σ} {first second : List Λ}
    (holds : Invariant state) (allowed : ∀ label ∈ first, Allowed label)
    (allowed' : ∀ label ∈ second, Allowed label)
    (covers : ∀ label ∈ second, ∃ other ∈ first, key other = key label)
    (covered : ∀ label ∈ first, ∃ other ∈ second, key other = key label) :
    run apply state first = run apply state second := by
  calc run apply state first
      = run apply state (first ++ second) :=
        (confluent.run_absorb_all holds allowed allowed' covers).symm
    _ = run apply state (second ++ first) :=
        confluent.run_append_comm holds allowed allowed'
    _ = run apply state second :=
        confluent.run_absorb_all holds allowed' allowed covered

end Confluent

end History
