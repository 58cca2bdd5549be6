import Mathlib.Algebra.BigOperators.Group.Finset.Piecewise
import Mathlib.Order.Interval.Finset.Nat

/-!
# An append-only store with an index for each group

Entries are stored under the keys `1, …, size` in the order they arrive.
Every entry belongs to a group and knows its place there; a second store
lists, for each group, the keys of its entries place by place.  `Indexed` says
that the two stores and the counters agree.  It holds of the empty store and
survives appending an entry and replacing one by another of the same group and
place.
-/

namespace GroupedStore

variable {α γ : Type}

/-- The stores agree: `store` holds exactly the keys up to `size`, `listing`
holds exactly the places below `counts`, and they name each other's entries in
the order of arrival. -/
structure Indexed (group : α → γ) (place : α → Nat) (store : Nat → Option α)
    (size : Nat) (listing : γ → Nat → Option Nat) (counts : γ → Nat) :
    Prop where
  numbered : ∀ key, (∃ entry, store key = some entry) ↔
    1 ≤ key ∧ key ≤ size
  filled : ∀ label index, (∃ key, listing label index = some key) ↔
    index < counts label
  listed : ∀ label index key, listing label index = some key ↔
    ∃ entry, store key = some entry ∧ group entry = label ∧
      place entry = index
  increasing : ∀ label first second key later,
    listing label first = some key → listing label second = some later →
      first < second → key < later
  counted : ∃ labels : Finset γ, (∀ label, label ∈ labels ↔ 0 < counts label) ∧
    ∑ label ∈ labels, counts label = size

variable {group : α → γ} {place : α → Nat}

theorem indexed_empty :
    Indexed group place (fun _ => none) 0 (fun _ _ => none) fun _ => 0 := by
  refine ⟨?_, ?_, ?_, ?_, ∅, ?_, rfl⟩
  · intro key
    simp
    omega
  · intro label index
    simp
  · intro label index key
    simp
  · intro label first second key later listed
    cases listed
  · intro label
    simp

variable {store : Nat → Option α} {size : Nat}
  {listing : γ → Nat → Option Nat} {counts : γ → Nat}
  (indexed : Indexed group place store size listing counts)

include indexed

theorem Indexed.store_next : store (size + 1) = none := by
  rw [Option.eq_none_iff_forall_ne_some]
  intro entry stored
  have bound := ((indexed.numbered (size + 1)).mp ⟨entry, stored⟩).2
  omega

theorem Indexed.listing_next (label : γ) :
    listing label (counts label) = none := by
  rw [Option.eq_none_iff_forall_ne_some]
  intro key listed
  have bound := (indexed.filled label (counts label)).mp ⟨key, listed⟩
  omega

/-- A listed key is in range. -/
theorem Indexed.key_le {label : γ} {index key : Nat}
    (listed : listing label index = some key) : key ≤ size := by
  obtain ⟨entry, stored, -, -⟩ := (indexed.listed label index key).mp listed
  exact ((indexed.numbered key).mp ⟨entry, stored⟩).2

/-- The stores agree after an entry was replaced by one of the same group and
place. -/
theorem Indexed.replace {key : Nat} {entry changed : α}
    (stored : store key = some entry) (sameGroup : group changed = group entry)
    (samePlace : place changed = place entry) :
    Indexed group place (Function.update store key (some changed)) size
      listing counts := by
  refine ⟨?_, indexed.filled, ?_, indexed.increasing, indexed.counted⟩
  · intro other
    rw [← indexed.numbered other]
    by_cases same : other = key
    · simp [same, stored]
    · rw [Function.update_of_ne same]
  · intro label index other
    rw [indexed.listed]
    by_cases same : other = key
    · subst same
      simp [stored, sameGroup, samePlace]
    · rw [Function.update_of_ne same]

variable [DecidableEq γ]

/-- Counting one more entry of a group. -/
theorem Indexed.counted_append (label : γ) :
    ∃ labels : Finset γ,
      (∀ other, other ∈ labels ↔
        0 < Function.update counts label (counts label + 1) other) ∧
      ∑ other ∈ labels,
        Function.update counts label (counts label + 1) other = size + 1 := by
  obtain ⟨labels, member, sum⟩ := indexed.counted
  have rest : counts label + ∑ other ∈ labels.erase label, counts other =
      size := by
    by_cases present : label ∈ labels
    · rw [Finset.add_sum_erase labels counts present, sum]
    · have zero : counts label = 0 := by
        rw [member label] at present
        omega
      rw [Finset.erase_eq_of_notMem present, zero, sum, Nat.zero_add]
  have absent : label ∉ labels.erase label := Finset.notMem_erase label _
  refine ⟨insert label (labels.erase label), ?_, ?_⟩
  · intro other
    rw [Finset.mem_insert, Function.update_apply]
    split <;> rename_i same
    · simp [same]
    · simp [same, member]
  · rw [Finset.sum_insert absent, Function.update_self,
      Finset.sum_update_of_notMem absent]
    omega

/-- The stores agree after an entry was appended at the end of its group. -/
theorem Indexed.append (entry : α)
    (placed : place entry = counts (group entry)) :
    Indexed group place
      (Function.update store (size + 1) (some entry)) (size + 1)
      (Function.update listing (group entry)
        (Function.update (listing (group entry)) (place entry)
          (some (size + 1))))
      (Function.update counts (group entry) (counts (group entry) + 1)) := by
  have fresh := indexed.store_next
  -- The one new place is the group's first free one.
  have lookup : ∀ label index,
      Function.update listing (group entry)
          (Function.update (listing (group entry)) (place entry)
            (some (size + 1))) label index =
        if label = group entry ∧ index = place entry then some (size + 1)
        else listing label index := by
    intro label index
    by_cases same : label = group entry
    · subst same
      rw [Function.update_self, Function.update_apply]
      simp
    · rw [Function.update_of_ne same]
      simp [same]
  refine ⟨?_, ?_, ?_, ?_, indexed.counted_append _⟩
  · intro key
    have old := indexed.numbered key
    by_cases new : key = size + 1
    · simp [new]
    · rw [Function.update_of_ne new, old]
      omega
  · intro label index
    have old := indexed.filled label index
    rw [lookup, Function.update_apply]
    by_cases same : label = group entry
    · subst same
      by_cases last : index = place entry
      · simp [last, placed]
      · simp only [last, and_false, if_false, if_true, old]
        omega
    · simp [same, old]
  · intro label index key
    have old := indexed.listed label index key
    rw [lookup]
    by_cases new : key = size + 1
    · subst new
      rw [Function.update_self]
      split <;> rename_i same
      · simp [same]
      · rw [old, fresh]
        have other : ¬ (group entry = label ∧ place entry = index) :=
          fun ⟨label, index⟩ => same ⟨label.symm, index.symm⟩
        simp [other]
    · rw [Function.update_of_ne new]
      split <;> rename_i same
      · obtain ⟨rfl, rfl⟩ := same
        have free := indexed.listing_next (group entry)
        rw [← placed] at free
        rw [free] at old
        simp only [Option.some.injEq, Ne.symm new, false_iff]
        simpa using old
      · exact old
  · intro label first second key later listedFirst listedSecond less
    rw [lookup] at listedFirst listedSecond
    have below : first < counts label := by
      split at listedSecond <;> rename_i same
      · obtain ⟨rfl, rfl⟩ := same
        omega
      · have bound :=
          (indexed.filled label second).mp ⟨later, listedSecond⟩
        omega
    rw [if_neg] at listedFirst
    · split at listedSecond
      · cases listedSecond
        have bound := indexed.key_le listedFirst
        omega
      · exact indexed.increasing label first second key later listedFirst
          listedSecond less
    · rintro ⟨rfl, rfl⟩
      omega

end GroupedStore
