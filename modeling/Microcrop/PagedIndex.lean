import Mathlib.Data.List.Nodup
import Mathlib.Logic.Function.Basic
import Microcrop.TransitionHistory

/-!
# Append-only lists that are read in pages

A store keeps one list for each owner: a count, and the items under the places
below it.  `Maintains` says that the lists are given ones and survives
appending an item; along a run, the lists are those of its history.  A reader
who asks for page after page, each starting where the last one ended, sees the
whole list once if every page is a piece of it.
-/

namespace PagedIndex

variable {ε α γ : Type}

/-! ## Stores -/

/-- The places hold the items in order, and nothing else. -/
structure Lists (place : Nat → Option α) (count : Nat) (items : List α) :
    Prop where
  count_eq : count = items.length
  place_eq : ∀ index, place index = items[index]?

theorem lists_empty : Lists (fun _ => none) 0 ([] : List α) where
  count_eq := rfl
  place_eq _ := rfl

theorem Lists.append {place : Nat → Option α} {count : Nat}
    {items : List α} (lists : Lists place count items) (item : α) :
    Lists (Function.update place count (some item)) (count + 1)
      (items ++ [item]) where
  count_eq := by
    rw [lists.count_eq, List.length_append]
    rfl
  place_eq := by
    intro index
    rw [lists.count_eq]
    by_cases last : index = items.length
    · rw [last, Function.update_self, List.getElem?_concat_length]
    · rw [Function.update_of_ne last, lists.place_eq]
      by_cases inside : index < items.length
      · rw [List.getElem?_append_left inside]
      · have outside : items.length < index := by omega
        rw [List.getElem?_eq_none (by omega), List.getElem?_eq_none]
        rw [List.length_append, List.length_singleton]
        omega

/-- Each owner's places hold that owner's items, which are different, all
known, and fewer than `bound`. -/
structure Maintains (known : α → Prop) (bound : Nat)
    (place : γ → Nat → Option α) (counts : γ → Nat) (items : γ → List α) :
    Prop where
  lists : ∀ owner, Lists (place owner) (counts owner) (items owner)
  nodup : ∀ owner, (items owner).Nodup
  known : ∀ owner, ∀ item ∈ items owner, known item
  below : ∀ owner, counts owner < bound

theorem maintains_empty (known : α → Prop) {bound : Nat}
    (positive : 0 < bound) :
    Maintains known bound (fun _ _ => none) (fun _ : γ => 0)
      fun _ => [] where
  lists _ := lists_empty
  nodup _ := List.nodup_nil
  known := by
    intro owner item member
    cases member
  below _ := positive

section Append

variable {known later : α → Prop} {bound : Nat} {place : γ → Nat → Option α}
  {counts : γ → Nat} {items : γ → List α}
  (maintains : Maintains known bound place counts items)
  (still : ∀ item, known item → later item)

include maintains still

/-- More may become known while the lists stay. -/
theorem Maintains.mono : Maintains later bound place counts items where
  lists := maintains.lists
  nodup := maintains.nodup
  known owner item member := still item (maintains.known owner item member)
  below := maintains.below

/-- A new item goes to the end of its owner's list. -/
theorem Maintains.append [DecidableEq γ] (owner : γ) {item : α}
    (fresh : ¬ known item) (now : later item)
    (room : counts owner + 1 < bound) :
    Maintains later bound
      (Function.update place owner
        (Function.update (place owner) (counts owner) (some item)))
      (Function.update counts owner (counts owner + 1))
      (Function.update items owner (items owner ++ [item])) where
  lists := by
    intro other
    by_cases same : other = owner
    · rw [same, Function.update_self, Function.update_self,
        Function.update_self]
      exact (maintains.lists owner).append item
    · rw [Function.update_of_ne same, Function.update_of_ne same,
        Function.update_of_ne same]
      exact maintains.lists other
  nodup := by
    intro other
    by_cases same : other = owner
    · rw [same, Function.update_self]
      have absent : item ∉ items owner := fun member =>
        fresh (maintains.known owner item member)
      rw [← List.concat_eq_append]
      exact (maintains.nodup owner).concat absent
    · rw [Function.update_of_ne same]
      exact maintains.nodup other
  known := by
    intro other listed member
    by_cases same : other = owner
    · rw [same, Function.update_self, List.mem_append,
        List.mem_singleton] at member
      rcases member with old | rfl
      · exact still listed (maintains.known owner listed old)
      · exact now
    · rw [Function.update_of_ne same] at member
      exact still listed (maintains.known other listed member)
  below := by
    intro other
    by_cases same : other = owner
    · rw [same, Function.update_self]
      exact room
    · rw [Function.update_of_ne same]
      exact maintains.below other

end Append

/-! ## Machines -/

/-- An index in the states of a machine. -/
structure Index (σ γ α : Type) where
  place : σ → γ → Nat → Option α
  count : σ → γ → Nat
  known : σ → α → Prop

namespace Index

variable {σ Λ : Type} (index : Index σ γ α) (bound : Nat)

/-- The index lists the items. -/
def Holds (state : σ) (items : γ → List α) : Prop :=
  Maintains (index.known state) bound (index.place state) (index.count state)
    items

variable [DecidableEq γ]

/-- A transition that creates an item, for at most one owner, appends it to
that owner's list; any other leaves the lists. -/
inductive Step (before after : σ) (created : γ → Option α) : Prop
  | kept (place : index.place after = index.place before)
      (count : index.count after = index.count before)
      (still : ∀ item, index.known before item → index.known after item)
      (nothing : ∀ owner, created owner = none)
  | appended (owner : γ) (item : α)
      (place : index.place after = Function.update (index.place before) owner
        (Function.update (index.place before owner)
          (index.count before owner) (some item)))
      (count : index.count after = Function.update (index.count before) owner
        (index.count before owner + 1))
      (still : ∀ item, index.known before item → index.known after item)
      (fresh : ¬ index.known before item) (now : index.known after item)
      (room : index.count before owner + 1 < bound)
      (only : ∀ other, created other =
        if other = owner then some item else none)

variable {index bound}

theorem Step.holds {before after : σ} {created : γ → Option α}
    {items : γ → List α} (step : index.Step bound before after created)
    (holds : index.Holds bound before items) :
    index.Holds bound after fun owner =>
      items owner ++ (created owner).toList := by
  unfold Holds
  cases step with
  | kept place count still nothing =>
      have same : (fun owner => items owner ++ (created owner).toList) =
          items := by
        funext owner
        rw [nothing owner]
        exact List.append_nil _
      rw [place, count, same]
      exact holds.mono still
  | appended owner item place count still fresh now room only =>
      have longer : (fun other => items other ++ (created other).toList) =
          Function.update items owner (items owner ++ [item]) := by
        funext other
        rw [only other]
        by_cases same : other = owner
        · rw [if_pos same, same, Function.update_self]
          rfl
        · rw [if_neg same, Function.update_of_ne same]
          exact List.append_nil _
      rw [place, count, longer]
      exact holds.append still owner fresh now room

/-- After a run, the lists are those of the items created in it, oldest
first. -/
theorem holds_run {apply : σ → Λ → σ}
    {created : γ → Transition σ Λ → Option α} {start : σ}
    (steps : ∀ state label, index.Step bound state (apply state label)
      fun owner => created owner (History.taken apply state label))
    (empty : index.Holds bound start fun _ => []) (labels : List Λ) :
    index.Holds bound (History.run apply start labels) fun owner =>
      (History.trace apply start labels).filterMap (created owner) := by
  have invariant := History.trace_invariant apply (fun _ => True)
    (fun past state => index.Holds bound state fun owner =>
      past.filterMap (created owner))
    (fun past state label _ holds => by
      have next := (steps state label).holds holds
      have concat : ∀ owner,
          (past ++ [History.taken apply state label]).filterMap
              (created owner) =
            past.filterMap (created owner) ++
              (created owner (History.taken apply state label)).toList := by
        intro owner
        rw [List.filterMap_append]
        cases present : created owner (History.taken apply state label) <;>
          simp [present]
      simp only [concat]
      exact next)
    labels [] empty (fun _ _ => trivial)
  exact invariant

end Index

/-! ## Readers -/

/-- Read page after page, each from where the last one ended, until a page is
empty; `none` when that takes more than `fuel` pages. -/
def readPages (page : Nat → Except ε (List α)) :
    (fuel start : Nat) → Option (Except ε (List (List α)))
  | 0, _ => none
  | fuel + 1, start =>
      match page start with
      | .error error => some (.error error)
      | .ok items =>
          if items.isEmpty then some (.ok [])
          else
            (readPages page fuel (start + items.length)).map
              (Except.map (items :: ·))

/-- Every page is a piece of the list from its start on, and empty only at the
end of the list. -/
def Serves (page : Nat → Except ε (List α)) (items : List α) : Prop :=
  ∀ start, ∃ piece, page start = .ok piece ∧ piece <+: items.drop start ∧
    (start < items.length → piece ≠ [])

variable {page : Nat → Except ε (List α)} {items : List α}

/-- One page for each remaining item, and the empty one, are enough to read
the rest of the list. -/
theorem Serves.readPages_eq (serves : Serves page items) {fuel start : Nat}
    (inside : start ≤ items.length) (enough : items.length < start + fuel) :
    ∃ pages, readPages page fuel start = some (.ok pages) ∧
      pages.flatten = items.drop start := by
  induction fuel generalizing start with
  | zero => omega
  | succ fuel ih =>
      obtain ⟨piece, served, ⟨rest, split⟩, nonempty⟩ := serves start
      by_cases empty : piece = []
      · have last : items.length ≤ start := by
          by_contra remaining
          exact nonempty (Nat.lt_of_not_le remaining) empty
        have stops : readPages page (fuel + 1) start = some (.ok []) := by
          simp [readPages, served, empty]
        exact ⟨[], stops, (List.drop_eq_nil_of_le last).symm⟩
      · have positive := List.length_pos_iff.mpr empty
        have remaining : piece.length + rest.length =
            items.length - start := by
          rw [← List.length_append, split, List.length_drop]
        obtain ⟨pages, others, covered⟩ :=
          @ih (start + piece.length) (by omega) (by omega)
        have later : items.drop (start + piece.length) = rest := by
          rw [← List.drop_drop, ← split, List.drop_left]
        refine ⟨piece :: pages, ?_, ?_⟩
        · simp [readPages, served, empty, others, Except.map]
        · rw [List.flatten_cons, covered, later, split]

end PagedIndex
