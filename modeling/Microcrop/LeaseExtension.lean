import Microcrop.TransitionHistory
import Mathlib.Order.MinMax

/-!
# Leases and their extension

A lease has some life left.  A request names a target and a threshold: leases
with at most the threshold left are extended to the target, all others are
left alone, and a cap bounds every extension.  Requests never shorten a lease.
A request whose threshold lies close under its target may be skipped, and then
costs the lease at most the distance between the two; over a sequence of
requests these losses do not add up.
-/

/-- A request to extend a lease to `target` when it has at most `threshold`
left. -/
structure LeaseRequest where
  threshold : Nat
  target : Nat
  threshold_le : threshold ≤ target

namespace LeaseRequest

variable (request : LeaseRequest) (cap : Nat)

/-- What a lease has left after the request. -/
def extend (remaining : Nat) : Nat :=
  if remaining ≤ request.threshold ∧ remaining < min request.target cap then
    min request.target cap
  else remaining

/-- A request that may be skipped leaves at most `slack` to be desired. -/
def Within (slack : Nat) : Prop :=
  request.target ≤ request.threshold + slack

theorem extend_cases (remaining : Nat) :
    request.extend cap remaining = remaining ∨
      (remaining < request.extend cap remaining ∧
        request.extend cap remaining = min request.target cap) := by
  unfold extend
  split <;> rename_i extended
  · exact Or.inr ⟨extended.2, rfl⟩
  · exact Or.inl rfl

/-- A request never shortens a lease. -/
theorem le_extend (remaining : Nat) :
    remaining ≤ request.extend cap remaining := by
  rcases request.extend_cases cap remaining with same | ⟨longer, -⟩
  · exact same.ge
  · exact longer.le

/-- Repeating a request changes nothing. -/
theorem extend_extend (remaining : Nat) :
    request.extend cap (request.extend cap remaining) =
      request.extend cap remaining := by
  rcases request.extend_cases cap remaining with same | ⟨-, extended⟩
  · rw [same, same]
  · rw [extended]
    unfold extend
    rw [if_neg fun again => lt_irrefl _ again.2]

/-- A lease that a request has changed is within the cap. -/
theorem extend_le_cap {remaining : Nat}
    (changed : request.extend cap remaining ≠ remaining) :
    request.extend cap remaining ≤ cap := by
  rcases request.extend_cases cap remaining with same | ⟨-, extended⟩
  · exact absurd same changed
  · rw [extended]
    exact min_le_right _ _

/-- The life that a request within `slack` leaves, whether it was skipped or
not. -/
theorem Within.le_extend {request : LeaseRequest} {slack : Nat}
    (within : request.Within slack) (remaining : Nat) :
    min request.target cap ≤ request.extend cap remaining + slack := by
  unfold Within at within
  unfold extend
  split <;> rename_i extended
  · exact Nat.le_add_right _ _
  · have skipped : request.threshold < remaining ∨
        min request.target cap ≤ remaining := by
      omega
    rcases skipped with above | long
    · have target : request.target ≤ remaining + slack := by omega
      exact (min_le_left _ _).trans target
    · exact long.trans (Nat.le_add_right _ _)

end LeaseRequest

/-! ## Leases in time -/

/-- A request made at an instant, with the expiry that the lease has been
given by others in the meantime. -/
structure LeaseTouch where
  instant : Nat
  cap : Nat
  request : LeaseRequest
  renewed : Nat

namespace LeaseTouch

/-- The expiry that a request finds.  Nobody shortens a lease, and a lease
that can be extended is alive. -/
def found (touch : LeaseTouch) (expiry : Nat) : Nat :=
  max (max expiry touch.renewed) touch.instant

/-- The expiry after a request. -/
def expiryAfter (expiry : Nat) (touch : LeaseTouch) : Nat :=
  touch.instant +
    touch.request.extend touch.cap (touch.found expiry - touch.instant)

/-- The expiry that a request asks for. -/
def asked (touch : LeaseTouch) : Nat :=
  touch.instant + min touch.request.target touch.cap

theorem le_expiryAfter (expiry : Nat) (touch : LeaseTouch) :
    expiry ≤ touch.expiryAfter expiry := by
  have alive : touch.instant ≤ touch.found expiry := le_max_right _ _
  have longer : expiry ≤ touch.found expiry :=
    (le_max_left _ _).trans (le_max_left _ _)
  have kept := touch.request.le_extend touch.cap
    (touch.found expiry - touch.instant)
  unfold expiryAfter
  omega

theorem asked_le_expiryAfter {slack : Nat} {touch : LeaseTouch}
    (within : touch.request.Within slack) (expiry : Nat) :
    touch.asked ≤ touch.expiryAfter expiry + slack := by
  have lives := within.le_extend touch.cap
    (touch.found expiry - touch.instant)
  unfold asked expiryAfter
  omega

/-- No run of requests shortens a lease. -/
theorem le_run (expiry : Nat) (touches : List LeaseTouch) :
    expiry ≤ History.run expiryAfter expiry touches := by
  induction touches generalizing expiry with
  | nil => exact Nat.le_refl expiry
  | cons touch touches ih =>
      have step := le_expiryAfter expiry touch
      exact step.trans (ih (touch.expiryAfter expiry))

/-- A lease keeps, up to the slack of one request, the longest expiry that
any request of the run asked for. -/
theorem asked_le_run {slack : Nat} {touches : List LeaseTouch}
    (within : ∀ touch ∈ touches, touch.request.Within slack) (expiry : Nat)
    {touch : LeaseTouch} (member : touch ∈ touches) :
    touch.asked ≤ History.run expiryAfter expiry touches + slack := by
  induction touches generalizing expiry with
  | nil => cases member
  | cons first rest ih =>
      have later : ∀ other ∈ rest, other.request.Within slack :=
        fun other inside => within other (List.mem_cons_of_mem first inside)
      rcases List.mem_cons.mp member with rfl | inside
      · have granted := asked_le_expiryAfter (within touch member) expiry
        have kept := le_run (touch.expiryAfter expiry) rest
        rw [History.run_cons]
        omega
      · exact ih later (first.expiryAfter expiry) inside

end LeaseTouch
