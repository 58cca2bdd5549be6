import Mathlib.Data.Option.Basic
import Mathlib.Logic.Function.Basic

/-!
# Writes to a keyed store

A store keeps entries under keys.  The lemmas say what one write leaves of a
property of all entries, and how the written store relates to the one before.
-/

namespace KeyedStore

section Entries

variable {κ α : Type} [DecidableEq κ] {store : κ → Option α} {key other : κ}
  {new entry : α}

/-- An entry of the written store is the new one or was there before. -/
theorem new_or_stored
    (stored : Function.update store key (some new) other = some entry) :
    (other = key ∧ entry = new) ∨ store other = some entry := by
  by_cases same : other = key
  · rw [same, Function.update_self] at stored
    exact Or.inl ⟨same, (Option.some.inj stored).symm⟩
  · rw [Function.update_of_ne same] at stored
    exact Or.inr stored

theorem getD_update (store : κ → Option α) (key other : κ)
    (value default : α) :
    (Function.update store key (some value) other).getD default =
      if other = key then value else (store other).getD default := by
  rw [Function.update_apply]
  split <;> rfl

/-- Reading with a default after a write is a write to what was read. -/
theorem getD_written (store : κ → Option α) (key : κ) (value default : α) :
    (fun other => (Function.update store key (some value) other).getD
        default) =
      Function.update (fun other => (store other).getD default) key
        value := by
  funext other
  rw [getD_update, Function.update_apply]

/-- What holds of the new entry and of every earlier one holds of every
entry. -/
theorem forall_written {holds : κ → α → Prop}
    (earlier : ∀ other entry, store other = some entry → holds other entry)
    (written : holds key new) :
    ∀ other entry, Function.update store key (some new) other = some entry →
      holds other entry := by
  intro other entry stored
  rcases new_or_stored stored with ⟨sameKey, sameEntry⟩ | before
  · rw [sameKey, sameEntry]
    exact written
  · exact earlier other entry before

end Entries

section Relations

variable {κ α : Type} [DecidableEq κ] {store : κ → Option α} {key : κ}

/-- Every entry is as before, or changed as the written one. -/
theorem same_or_changed_at {value : Option α}
    {change : κ → Option α → Option α → Prop}
    (written : change key (store key) value) (other : κ) :
    Function.update store key value other = store other ∨
      change other (store other) (Function.update store key value other) := by
  by_cases same : other = key
  · subst same
    rw [Function.update_self]
    exact Or.inr written
  · exact Or.inl (Function.update_of_ne same value store)

/-- The same for changes that do not depend on the key. -/
theorem same_or_changed {value : Option α}
    {change : Option α → Option α → Prop}
    (written : change (store key) value) (other : κ) :
    Function.update store key value other = store other ∨
      change (store other) (Function.update store key value other) :=
  @same_or_changed_at κ α _ store key value (fun _ => change) written other

theorem rel_refl {related : α → α → Prop}
    (refl : ∀ entry, related entry entry) (stored : Option α) :
    Option.Rel related stored stored := by
  cases stored with
  | none => exact .none
  | some entry => exact .some (refl entry)

/-- A store relates to itself after one entry changed within the relation. -/
theorem rel_written {related : κ → α → α → Prop} {old new : α}
    (refl : ∀ key entry, related key entry entry)
    (stored : store key = some old) (changed : related key old new)
    (other : κ) :
    Option.Rel (related other) (store other)
      (Function.update store key (some new) other) := by
  by_cases same : other = key
  · rw [same, stored, Function.update_self]
    exact .some changed
  · rw [Function.update_of_ne same]
    exact rel_refl (refl other) (store other)

end Relations

end KeyedStore
