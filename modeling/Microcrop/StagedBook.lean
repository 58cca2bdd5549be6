import Mathlib.Logic.Function.Basic
import Microcrop.TransitionHistory

/-!
# Books whose entries move one at a time

A book puts every key at a stage.  A machine is seen as a book when each of
its transitions moves at most one key, along an edge that its label allows.
The transitions of a run that move a key then form a path of edges from the
stage where the key started to the stage where it is, and where the edges
climb a rank, the ranks at the ends of a path bound its length.
-/

namespace StagedBook

variable {σ K S Λ : Type} (Edge : Λ → K → S → S → Prop)

/-- The label moves at most one key of the book. -/
def MovesOne [DecidableEq K] (label : Λ) (book after : K → S) : Prop :=
  after = book ∨
    ∃ key stage, Edge label key (book key) stage ∧
      after = Function.update book key stage

variable (view : σ → K → S)

/-- The transitions that move the key. -/
def movers [DecidableEq S] (key : K) (transitions : List (Transition σ Λ)) :
    List (Transition σ Λ) :=
  transitions.filter fun transition =>
    view transition.target key ≠ view transition.source key

/-- The transitions take the key from the first stage to the second one, each
along an edge from the stage that the one before it reached. -/
inductive Path (key : K) : S → List (Transition σ Λ) → S → Prop
  | nil {stage : S} : Path key stage [] stage
  | cons {transition : Transition σ Λ} {transitions : List (Transition σ Λ)}
      {last : S}
      (edge : Edge transition.label key (view transition.source key)
        (view transition.target key))
      (later : Path key (view transition.target key) transitions last) :
      Path key (view transition.source key) (transition :: transitions) last

variable {Edge view}

/-- A path is no longer than the climb of its rank. -/
theorem Path.length_le {key : K} {first last : S}
    {transitions : List (Transition σ Λ)}
    (path : Path Edge view key first transitions last) (rank : S → Nat)
    (climbs : ∀ {label first last}, Edge label key first last →
      rank first < rank last) :
    rank first + transitions.length ≤ rank last := by
  induction path with
  | nil => exact Nat.le_refl _
  | cons edge later ih =>
      have higher := climbs edge
      rw [List.length_cons]
      omega

/-- The key that a transition changed is the one that it moved. -/
theorem MovesOne.edge [DecidableEq K] {label : Λ} {book after : K → S}
    (moves : MovesOne Edge label book after) {key : K}
    (changed : after key ≠ book key) :
    Edge label key (book key) (after key) := by
  rcases moves with rfl | ⟨moved, stage, edge, rfl⟩
  · exact absurd rfl changed
  · by_cases here : key = moved
    · rw [here, Function.update_self]
      exact edge
    · exact absurd (Function.update_of_ne here ..) changed

/-- The transitions of a run that move a key form a path. -/
theorem path_of_movesOne [DecidableEq K] [DecidableEq S] (apply : σ → Λ → σ)
    (key : K) (labels : List Λ) (state : σ)
    (steps : ∀ transition ∈ History.trace apply state labels,
      MovesOne Edge transition.label (view transition.source)
        (view transition.target)) :
    Path Edge view key (view state key)
      (movers view key (History.trace apply state labels))
      (view (History.run apply state labels) key) := by
  induction labels generalizing state with
  | nil => exact .nil
  | cons label labels ih =>
      have first := steps _ List.mem_cons_self
      have later := ih (apply state label) fun transition member =>
        steps transition (List.mem_cons_of_mem _ member)
      rw [History.trace_cons, movers, List.filter_cons]
      split <;> rename_i changed
      · exact .cons (first.edge (of_decide_eq_true changed)) later
      · have same : view (apply state label) key = view state key :=
          not_not.mp fun moved => changed (decide_eq_true moved)
        rw [same] at later
        exact later

end StagedBook
