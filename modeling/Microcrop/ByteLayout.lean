import Mathlib.Data.List.Basic

/-!
# Layouts

A layout lists the pieces of a string with the positions that each takes.  If
the pieces follow one another and have the length that their positions say,
then the string written from them holds every piece where the layout says.
-/

/-- One piece of a string: where it starts and stops, and what it is. -/
structure LayoutRow (β : Type) where
  start : Nat
  stop : Nat
  content : List β

namespace LayoutRow

variable {β : Type}

/-- The string that the pieces make up. -/
def written (rows : List (LayoutRow β)) : List β :=
  (rows.map content).flatten

/-- The pieces take the positions from `start` to `stop`, in order and without
gaps. -/
def Covers : Nat → Nat → List (LayoutRow β) → Prop
  | start, stop, [] => start = stop
  | start, stop, row :: rows =>
      row.start = start ∧ row.start + row.content.length = row.stop ∧
        Covers row.stop stop rows

@[simp]
theorem covers_nil (start stop : Nat) :
    Covers start stop ([] : List (LayoutRow β)) ↔ start = stop :=
  Iff.rfl

@[simp]
theorem covers_cons (start stop : Nat) (row : LayoutRow β)
    (rows : List (LayoutRow β)) :
    Covers start stop (row :: rows) ↔
      row.start = start ∧ row.start + row.content.length = row.stop ∧
        Covers row.stop stop rows :=
  Iff.rfl

@[simp]
theorem written_nil : written ([] : List (LayoutRow β)) = [] :=
  rfl

@[simp]
theorem written_cons (row : LayoutRow β) (rows : List (LayoutRow β)) :
    written (row :: rows) = row.content ++ written rows :=
  rfl

theorem written_append (first second : List (LayoutRow β)) :
    written (first ++ second) = written first ++ written second := by
  induction first with
  | nil => rfl
  | cons row rows ih =>
      rw [List.cons_append, written_cons, written_cons, ih,
        List.append_assoc]

variable {start stop : Nat} {rows : List (LayoutRow β)}

theorem Covers.append {final : Nat} {others : List (LayoutRow β)}
    (first : Covers start stop rows) (second : Covers stop final others) :
    Covers start final (rows ++ others) := by
  induction rows generalizing start with
  | nil =>
      rw [covers_nil] at first
      rw [first]
      exact second
  | cons row rows ih =>
      obtain ⟨here, fits, rest⟩ := first
      exact ⟨here, fits, ih rest⟩

theorem Covers.length_eq (covers : Covers start stop rows) :
    start + (written rows).length = stop := by
  induction rows generalizing start with
  | nil => exact covers
  | cons row rows ih =>
      obtain ⟨here, fits, rest⟩ := covers
      have later := ih rest
      rw [written_cons, List.length_append]
      omega

theorem Covers.start_le (covers : Covers start stop rows)
    {row : LayoutRow β} (member : row ∈ rows) : start ≤ row.start := by
  induction rows generalizing start with
  | nil => cases member
  | cons first rows ih =>
      obtain ⟨here, fits, rest⟩ := covers
      rcases List.mem_cons.mp member with rfl | later
      · exact Nat.le_of_eq here.symm
      · have after := ih rest later
        omega

theorem Covers.fits (covers : Covers start stop rows)
    {row : LayoutRow β} (member : row ∈ rows) :
    row.start + row.content.length = row.stop := by
  induction rows generalizing start with
  | nil => cases member
  | cons first rows ih =>
      obtain ⟨here, fits, rest⟩ := covers
      rcases List.mem_cons.mp member with rfl | later
      · exact fits
      · exact ih rest later

/-- Every piece is found at its distance from the start of the layout. -/
theorem Covers.take_drop (covers : Covers start stop rows)
    {row : LayoutRow β} (member : row ∈ rows) :
    ((written rows).drop (row.start - start)).take row.content.length =
      row.content := by
  induction rows generalizing start with
  | nil => cases member
  | cons first rows ih =>
      obtain ⟨here, fits, rest⟩ := covers
      rcases List.mem_cons.mp member with rfl | later
      · rw [here, Nat.sub_self, List.drop_zero, written_cons,
          List.take_left]
      · have after := rest.start_le later
        have beyond : row.start - start =
            first.content.length + (row.start - first.stop) := by
          omega
        rw [written_cons, beyond, List.drop_length_add_append]
        exact ih rest later

/-- A layout from position zero on holds every piece at its positions. -/
theorem Covers.extract_eq (covers : Covers 0 stop rows)
    {row : LayoutRow β} (member : row ∈ rows) :
    (written rows).extract row.start row.stop = row.content := by
  have found := covers.take_drop member
  have width : row.stop - row.start = row.content.length := by
    have fits := covers.fits member
    omega
  rw [Nat.sub_zero] at found
  rw [List.extract_eq_take_drop, width]
  exact found

end LayoutRow
