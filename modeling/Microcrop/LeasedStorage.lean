import Mathlib.Logic.Function.Basic
import Microcrop.AtomicTransaction
import Microcrop.LeaseExtension

/-!
# Storage whose entries have leases

A storage keeps values and, for every entry, the life that its lease has left.
Programs on the values and requests for single leases are transactions on the
whole.  `Grants` describes a program that keeps the values and makes a list of
requests; such programs compose, and what they do to the leases depends on
nothing but the list.
-/

/-- Values, and the life that the lease of each entry has left. -/
structure Leased (κ σ : Type) where
  values : σ
  lease : κ → Nat

namespace Leased

variable {ε τ κ σ α β : Type}

/-- Run a program on the values. -/
def onValues (program : Transaction ε τ σ α) :
    Transaction ε τ (Leased κ σ) α :=
  Transaction.zoom (fun storage => .ok storage.values)
    (fun after storage => { storage with values := after }) program

variable [DecidableEq κ]

/-- Run a program on the lease of one entry. -/
def onLease (key : κ) (program : Transaction ε τ Nat α) :
    Transaction ε τ (Leased κ σ) α :=
  Transaction.zoom (fun storage => .ok (storage.lease key))
    (fun after storage =>
      { storage with lease := Function.update storage.lease key after })
    program

/-- The leases after the requests, one after the other. -/
def granted (cap : Nat) : List (κ × LeaseRequest) → (κ → Nat) → κ → Nat
  | [], lease => lease
  | (key, request) :: requests, lease =>
      granted cap requests
        (Function.update lease key (request.extend cap (lease key)))

theorem granted_append (cap : Nat) (first second : List (κ × LeaseRequest))
    (lease : κ → Nat) :
    granted cap (first ++ second) lease =
      granted cap second (granted cap first lease) := by
  induction first generalizing lease with
  | nil => rfl
  | cons request requests ih => exact ih _

theorem granted_singleton_apply (cap : Nat) (key : κ)
    (request : LeaseRequest) (lease : κ → Nat) (other : κ) :
    granted cap [(key, request)] lease other =
      if other = key then request.extend cap (lease other)
      else lease other := by
  simp only [granted, Function.update_apply]
  split <;> rename_i here
  · rw [here]
  · rfl

/-- One request for two entries. -/
theorem granted_pair_apply (cap : Nat) {first second : κ}
    (distinct : first ≠ second) (request : LeaseRequest) (lease : κ → Nat)
    (other : κ) :
    granted cap [(first, request), (second, request)] lease other =
      if other = first ∨ other = second then
        request.extend cap (lease other)
      else lease other := by
  have pair := granted_append cap [(first, request)] [(second, request)] lease
  rw [List.singleton_append] at pair
  rw [pair, granted_singleton_apply, granted_singleton_apply]
  by_cases here : other = first
  · rw [if_neg (here ▸ distinct), if_pos here, if_pos (Or.inl here)]
  · rw [if_neg here]
    simp only [here, false_or]

/-- The program makes the request for the lease that it runs on. -/
def Asks (cap : Nat) (program : Transaction ε τ Nat Unit)
    (request : LeaseRequest) : Prop :=
  ∀ before, program.Commits before () (request.extend cap before)

theorem Asks.advance_eq {cap : Nat} {program : Transaction ε τ Nat Unit}
    {request : LeaseRequest} (asks : Asks cap program request)
    (before : Nat) : program.advance before = request.extend cap before :=
  (asks before).advance_eq

/-- The program commits the result in every storage of these values, keeps the
values and makes the requests. -/
def Grants (cap : Nat) (program : Transaction ε τ (Leased κ σ) α)
    (values : σ) (result : α) (requests : List (κ × LeaseRequest)) : Prop :=
  ∀ lease, program.Commits ⟨values, lease⟩ result
    ⟨values, granted cap requests lease⟩

variable {cap : Nat} {values : σ}

theorem grants_pure (result : α) :
    Grants cap (pure result : Transaction ε τ (Leased κ σ) α) values result
      [] := by
  intro lease
  exact Transaction.pure_returns result _

theorem Grants.bind {program : Transaction ε τ (Leased κ σ) α}
    {next : α → Transaction ε τ (Leased κ σ) β} {result : α} {last : β}
    {first second : List (κ × LeaseRequest)}
    (grants : Grants cap program values result first)
    (rest : Grants cap (next result) values last second) :
    Grants cap (program >>= next) values last (first ++ second) := by
  intro lease
  rw [granted_append]
  exact (grants lease).bind (rest _)

/-- A program that only reads the values requests nothing. -/
theorem grants_onValues {program : Transaction ε τ σ α} {result : α}
    (reads : program.Commits values result values) :
    Grants cap (onValues program : Transaction ε τ (Leased κ σ) α) values
      result [] := by
  intro lease
  exact (Transaction.zoom_commits _ _ _ _ _ _).mpr
    ⟨values, values, rfl, reads, rfl⟩

theorem grants_onLease {program : Transaction ε τ Nat Unit}
    {request : LeaseRequest} (asks : Asks cap program request) (key : κ) :
    Grants cap (onLease key program : Transaction ε τ (Leased κ σ) Unit)
      values () [(key, request)] := by
  intro lease
  exact (Transaction.zoom_commits _ _ _ _ _ _).mpr
    ⟨lease key, _, rfl, asks (lease key), rfl⟩

end Leased
