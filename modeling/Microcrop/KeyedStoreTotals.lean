import Mathlib.Algebra.BigOperators.Intervals
import Mathlib.Algebra.Order.BigOperators.Group.Finset

/-!
# Totals over a keyed store

A store keeps its entries under consecutive keys `1, …, size`.  A total adds
up a weight over the entries, and a count is the total of an indicator.  The
lemmas say how both change when an entry is replaced and when one is appended.
-/

namespace KeyedStore

section Total

variable {α M : Type} [AddCommMonoid M]

/-- The weights of the entries under the keys `1, …, size`, added up. -/
def total (weight : α → M) (store : Nat → Option α) (size : Nat) : M :=
  ∑ key ∈ Finset.Icc 1 size, (store key).elim 0 weight

@[simp]
theorem total_empty (weight : α → M) (size : Nat) :
    total weight (fun _ => none) size = 0 := by
  simp [total]

/-- Weightless entries add up to nothing. -/
theorem total_eq_zero {weight : α → M} {store : Nat → Option α} (size : Nat)
    (weightless : ∀ key entry, store key = some entry → weight entry = 0) :
    total weight store size = 0 := by
  apply Finset.sum_eq_zero
  intro key _
  cases found : store key with
  | none => rfl
  | some entry => exact weightless key entry found

/-- Replacing an entry trades its weight for the new one. -/
theorem total_replace (weight : α → M) {store : Nat → Option α}
    {size key : Nat} {old : α} (new : α) (stored : store key = some old)
    (positive : 1 ≤ key) (inRange : key ≤ size) :
    total weight (Function.update store key (some new)) size + weight old =
      total weight store size + weight new := by
  have member : key ∈ Finset.Icc 1 size :=
    Finset.mem_Icc.mpr ⟨positive, inRange⟩
  have others :
      ∑ other ∈ (Finset.Icc 1 size).erase key,
          (Function.update store key (some new) other).elim 0 weight =
        ∑ other ∈ (Finset.Icc 1 size).erase key,
          (store other).elim 0 weight := by
    apply Finset.sum_congr rfl
    intro other otherMember
    rw [Function.update_of_ne (Finset.ne_of_mem_erase otherMember)]
  unfold total
  rw [← Finset.add_sum_erase _ _ member, ← Finset.add_sum_erase _ _ member,
    others, Function.update_self, stored]
  simp only [Option.elim_some]
  rw [add_right_comm, add_comm (weight new), add_right_comm,
    add_comm (weight old)]

/-- Appending an entry adds its weight. -/
theorem total_append (weight : α → M) (store : Nat → Option α)
    (size : Nat) (new : α) :
    total weight (Function.update store (size + 1) (some new)) (size + 1) =
      total weight store size + weight new := by
  have others :
      ∑ other ∈ Finset.Icc 1 size,
          (Function.update store (size + 1) (some new) other).elim 0 weight =
        ∑ other ∈ Finset.Icc 1 size, (store other).elim 0 weight := by
    apply Finset.sum_congr rfl
    intro other otherMember
    have bound := (Finset.mem_Icc.mp otherMember).2
    rw [Function.update_of_ne (by omega)]
  unfold total
  rw [Finset.sum_Icc_succ_top (by omega), others, Function.update_self]
  rfl

end Total

/-- An entry weighs no more than the total of nonnegative weights. -/
theorem weight_le_total {α M : Type} [AddCommMonoid M] [PartialOrder M]
    [IsOrderedAddMonoid M] (weight : α → M) {store : Nat → Option α}
    {size key : Nat} {entry : α} (stored : store key = some entry)
    (positive : 1 ≤ key) (inRange : key ≤ size)
    (nonneg : ∀ other value, store other = some value → 0 ≤ weight value) :
    weight entry ≤ total weight store size := by
  have member : key ∈ Finset.Icc 1 size :=
    Finset.mem_Icc.mpr ⟨positive, inRange⟩
  have single := Finset.single_le_sum
    (f := fun other => (store other).elim 0 weight)
    (fun other _ => by
      cases found : store other with
      | none => exact le_rfl
      | some value => exact nonneg other value found) member
  simpa [total, stored] using single

/-- Values booked against distinct entries, none above the weight of its
entry, add up to no more than the total. -/
theorem sum_le_total {α ι M : Type} [AddCommMonoid M] [PartialOrder M]
    [IsOrderedAddMonoid M] (weight : α → M) {store : Nat → Option α}
    {size : Nat}
    (nonneg : ∀ other value, store other = some value → 0 ≤ weight value)
    (booked : Finset ι) (value : ι → M) (key : ι → Nat)
    (distinct : Set.InjOn key booked)
    (inRange : ∀ entry ∈ booked, 1 ≤ key entry ∧ key entry ≤ size)
    (covered : ∀ entry ∈ booked, ∃ held, store (key entry) = some held ∧
      value entry ≤ weight held) :
    ∑ entry ∈ booked, value entry ≤ total weight store size := by
  have included : booked.image key ⊆ Finset.Icc 1 size := by
    intro other member
    obtain ⟨entry, booked, rfl⟩ := Finset.mem_image.mp member
    exact Finset.mem_Icc.mpr (inRange entry booked)
  calc ∑ entry ∈ booked, value entry
      ≤ ∑ entry ∈ booked, (store (key entry)).elim 0 weight := by
        apply Finset.sum_le_sum
        intro entry member
        obtain ⟨held, stored, bound⟩ := covered entry member
        rw [stored]
        exact bound
    _ = ∑ other ∈ booked.image key, (store other).elim 0 weight :=
        (Finset.sum_image (f := fun other => (store other).elim 0 weight)
          distinct).symm
    _ ≤ total weight store size := by
        apply Finset.sum_le_sum_of_subset_of_nonneg included
        intro other _ _
        cases found : store other with
        | none => exact le_rfl
        | some held => exact nonneg other held found

/-- Weights add up entry by entry. -/
theorem total_add {α M : Type} [AddCommMonoid M] (first second : α → M)
    (store : Nat → Option α) (size : Nat) :
    total first store size + total second store size =
      total (fun entry => first entry + second entry) store size := by
  unfold total
  rw [← Finset.sum_add_distrib]
  apply Finset.sum_congr rfl
  intro key _
  cases store key with
  | none => exact add_zero 0
  | some entry => rfl

/-- Larger weights have a larger total. -/
theorem total_mono {α M : Type} [AddCommMonoid M] [PartialOrder M]
    [IsOrderedAddMonoid M] {smaller larger : α → M}
    {store : Nat → Option α} (size : Nat)
    (bound : ∀ key entry, store key = some entry →
      smaller entry ≤ larger entry) :
    total smaller store size ≤ total larger store size := by
  apply Finset.sum_le_sum
  intro key _
  cases found : store key with
  | none => exact le_rfl
  | some entry => exact bound key entry found

/-- Weights of at most `bound` add up to at most one `bound` for each key. -/
theorem total_le {α M : Type} [AddCommMonoid M] [PartialOrder M]
    [IsOrderedAddMonoid M] {weight : α → M} {store : Nat → Option α}
    (size : Nat) {bound : M} (nonneg : 0 ≤ bound)
    (bounded : ∀ key entry, store key = some entry → weight entry ≤ bound) :
    total weight store size ≤ size • bound := by
  have each : ∀ key ∈ Finset.Icc 1 size,
      (store key).elim 0 weight ≤ bound := by
    intro key _
    cases found : store key with
    | none => exact nonneg
    | some entry => exact bounded key entry found
  have sum := Finset.sum_le_card_nsmul _ _ bound each
  rwa [Nat.card_Icc, Nat.add_sub_cancel] at sum

theorem total_nonneg {α M : Type} [AddCommMonoid M] [PartialOrder M]
    [IsOrderedAddMonoid M] {weight : α → M} {store : Nat → Option α}
    (size : Nat)
    (nonneg : ∀ key entry, store key = some entry → 0 ≤ weight entry) :
    0 ≤ total weight store size := by
  apply Finset.sum_nonneg
  intro key _
  cases found : store key with
  | none => exact le_rfl
  | some entry => exact nonneg key entry found

section Count

variable {α : Type} (P : α → Prop) [DecidablePred P]

/-- How many of the entries under the keys `1, …, size` satisfy `P`. -/
def count (store : Nat → Option α) (size : Nat) : Nat :=
  total (fun entry => if P entry then 1 else 0) store size

@[simp]
theorem count_empty (size : Nat) : count P (fun _ => none) size = 0 :=
  total_empty _ size

theorem count_replace {store : Nat → Option α} {size key : Nat} {old : α}
    (new : α) (stored : store key = some old) (positive : 1 ≤ key)
    (inRange : key ≤ size) :
    count P (Function.update store key (some new)) size +
        (if P old then 1 else 0) =
      count P store size + (if P new then 1 else 0) :=
  total_replace (fun entry => if P entry then 1 else 0) new stored positive
    inRange

theorem count_append (store : Nat → Option α) (size : Nat) (new : α) :
    count P (Function.update store (size + 1) (some new)) (size + 1) =
      count P store size + (if P new then 1 else 0) :=
  total_append _ store size new

theorem count_pos {store : Nat → Option α} {size key : Nat} {entry : α}
    (stored : store key = some entry) (positive : 1 ≤ key)
    (inRange : key ≤ size) (holds : P entry) : 0 < count P store size := by
  have bound := weight_le_total (fun entry => if P entry then 1 else 0)
    stored positive inRange (fun _ _ _ => Nat.zero_le _)
  rw [if_pos holds] at bound
  exact bound

end Count

end KeyedStore
