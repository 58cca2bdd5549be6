import Mathlib.Data.Finset.Card
import Mathlib.Data.List.Basic
import Mathlib.Order.Lattice

/-!
# A bounded buffer over a sliding window

Events are admitted while fewer than `capacity` of the buffered events are
alive, and only the newest `capacity` events are buffered.  An event is alive
until it expires, and later events expire no earlier.  The buffer then counts
exactly the living events of the whole history, although it forgot most of
them, and no window of one lifetime ever holds more than `capacity` events.
-/

namespace SlidingWindow

section Buffer

variable {T : Type} (capacity : Nat)

/-- The newest events of a history. -/
def kept (history : List T) : List T :=
  history.drop (history.length - capacity)

theorem kept_length_le (history : List T) :
    (kept capacity history).length ≤ capacity := by
  unfold kept
  rw [List.length_drop]
  omega

theorem kept_of_length_le {history : List T}
    (short : history.length ≤ capacity) : kept capacity history = history := by
  unfold kept
  rw [Nat.sub_eq_zero_of_le short, List.drop_zero]

/-- The buffer can be maintained without the history. -/
theorem kept_append (positive : 0 < capacity) (history : List T) (now : T) :
    kept capacity (kept capacity history ++ [now]) =
      kept capacity (history ++ [now]) := by
  unfold kept
  simp only [List.length_append, List.length_drop, List.length_singleton]
  by_cases short : history.length ≤ capacity
  · rw [Nat.sub_eq_zero_of_le short, List.drop_zero, Nat.sub_zero]
  · rw [← List.drop_append_of_le_length (by omega), List.drop_drop]
    congr 1
    omega

/-- Once the buffer is full, a new event pushes the oldest one out. -/
theorem kept_append_of_full {history : List T} {oldest : T} {rest : List T}
    (full : kept capacity history = oldest :: rest)
    (length : capacity ≤ history.length) (now : T) :
    kept capacity (history ++ [now]) = rest ++ [now] := by
  have shifted : (kept capacity history).drop 1 = rest := by
    rw [full]
    rfl
  unfold kept at shifted ⊢
  rw [List.drop_drop] at shifted
  have start : (history ++ [now]).length - capacity =
      history.length - capacity + 1 := by
    rw [List.length_append, List.length_singleton]
    omega
  have nonempty : history.length - capacity < history.length := by
    by_contra beyond
    unfold kept at full
    rw [List.drop_of_length_le (by omega)] at full
    cases full
  rw [start, List.drop_append_of_le_length (by omega), shifted]

end Buffer

variable {T : Type} [LinearOrder T] (expires : T → T) (capacity : Nat)

/-- How many events are alive at `now`. -/
def alive (now : T) (history : List T) : Nat :=
  history.countP fun event => now < expires event

/-- Histories that the buffer admits. -/
inductive Admissible : List T → Prop
  | nil : Admissible []
  | admitted {history : List T} {now : T} (past : Admissible history)
      (ordered : ∀ event ∈ history, event ≤ now)
      (room : alive expires now (kept capacity history) < capacity) :
      Admissible (history ++ [now])

theorem alive_append (now : T) (first second : List T) :
    alive expires now (first ++ second) =
      alive expires now first + alive expires now second :=
  List.countP_append

theorem alive_cons (now event : T) (history : List T) :
    alive expires now (event :: history) =
      alive expires now [event] + alive expires now history :=
  alive_append expires now [event] history

/-- With time events only expire. -/
theorem alive_antitone {clock now : T} (ordered : clock ≤ now)
    (history : List T) :
    alive expires now history ≤ alive expires clock history := by
  refine List.countP_mono_left ?_
  intro event _ living
  exact decide_eq_true (ordered.trans_lt (of_decide_eq_true living))

/-- A new event adds at most itself to the buffer. -/
theorem alive_kept_append_le (now : T) (buffer : List T) (event : T) :
    alive expires now (kept capacity (buffer ++ [event])) ≤
      alive expires now buffer + 1 := by
  have buffered : alive expires now (kept capacity (buffer ++ [event])) ≤
      alive expires now (buffer ++ [event]) :=
    (List.drop_sublist _ _).countP_le
  have single : alive expires now [event] ≤ 1 :=
    List.countP_le_length
  rw [alive_append] at buffered
  omega

theorem Admissible.sorted {history : List T}
    (admissible : Admissible expires capacity history) :
    history.Pairwise (· ≤ ·) := by
  induction admissible with
  | nil => exact List.Pairwise.nil
  | admitted past ordered room ih =>
      rw [List.pairwise_append]
      refine ⟨ih, List.pairwise_singleton _ _, ?_⟩
      intro event member now nowMember
      rw [List.mem_singleton.mp nowMember]
      exact ordered event member

/-- The oldest buffered event has expired when a full buffer admits. -/
theorem oldest_expired (monotone : Monotone expires) {now oldest : T}
    {rest : List T} (sorted : (oldest :: rest).Pairwise (· ≤ ·))
    (room : alive expires now (oldest :: rest) < (oldest :: rest).length) :
    expires oldest ≤ now := by
  by_contra living
  have everyAlive : alive expires now (oldest :: rest) =
      (oldest :: rest).length := by
    refine List.countP_eq_length.mpr ?_
    intro event member
    have oldestLe : oldest ≤ event := by
      rcases List.mem_cons.mp member with same | later
      · rw [same]
      · exact (List.pairwise_cons.mp sorted).1 event later
    have laterExpiry := monotone oldestLe
    exact decide_eq_true ((not_le.mp living).trans_le laterExpiry)
  omega

/-- From the last event on, the buffer counts the living events of the whole
history. -/
theorem alive_kept (monotone : Monotone expires) {history : List T}
    (admissible : Admissible expires capacity history) {now : T}
    (afterLast : ∀ event ∈ history, event ≤ now) :
    alive expires now (kept capacity history) =
      alive expires now history := by
  induction admissible with
  | nil => rw [kept_of_length_le capacity (Nat.zero_le _)]
  | @admitted history last past ordered room ih =>
      have lastLe : last ≤ now := afterLast last (by simp)
      have previous := ih fun event member =>
        (ordered event member).trans lastLe
      by_cases short : history.length < capacity
      · rw [kept_of_length_le capacity
          (by rw [List.length_append, List.length_singleton]; omega)]
      · have positive : 0 < capacity := by omega
        have keptLength : (kept capacity history).length = capacity := by
          unfold kept
          rw [List.length_drop]
          omega
        cases buffer : kept capacity history with
        | nil =>
            rw [buffer, List.length_nil] at keptLength
            omega
        | cons oldest rest =>
            have sorted : (oldest :: rest).Pairwise (· ≤ ·) := by
              rw [← buffer]
              exact past.sorted.drop
            have expired : expires oldest ≤ last := by
              rw [buffer] at room keptLength
              exact oldest_expired expires monotone sorted
                (by rw [keptLength]; exact room)
            have forgotten : alive expires now [oldest] = 0 := by
              unfold alive
              rw [List.countP_eq_zero]
              intro event member
              rw [List.mem_singleton.mp member]
              simpa using expired.trans lastLe
            rw [kept_append_of_full capacity buffer (by omega)]
            rw [buffer, alive_cons, forgotten, Nat.zero_add] at previous
            rw [alive_append, alive_append, previous]

/-- No window of one lifetime holds more than `capacity` events. -/
theorem window_le (monotone : Monotone expires) {history : List T}
    (admissible : Admissible expires capacity history) (start : T) :
    (history.countP fun event => start ≤ event ∧ event < expires start) ≤
      capacity := by
  induction admissible with
  | nil => simp
  | @admitted history last past ordered room ih =>
      rw [List.countP_append, List.countP_singleton]
      by_cases inside : start ≤ last ∧ last < expires start
      · have stillAlive : (history.countP fun event =>
            start ≤ event ∧ event < expires start) ≤
              alive expires last history := by
          refine List.countP_mono_left ?_
          intro event member holds
          have after : start ≤ event := (of_decide_eq_true holds).1
          exact decide_eq_true (inside.2.trans_le (monotone after))
        have counted := alive_kept expires capacity monotone past ordered
        rw [if_pos (by simpa using inside)]
        omega
      · rw [if_neg (by simpa using inside)]
        exact ih

/-- One more than `capacity` events span at least the lifetime of the
first. -/
theorem span_le (monotone : Monotone expires) {history : List T}
    (admissible : Admissible expires capacity history) {first last : T}
    (middle : List T) (events : (first :: (middle ++ [last])).Sublist history)
    (size : middle.length + 1 = capacity) : expires first ≤ last := by
  by_contra tight
  have sorted := (admissible.sorted).sublist events
  obtain ⟨firstLe, sortedTail⟩ := List.pairwise_cons.mp sorted
  have lastGe := (List.pairwise_append.mp sortedTail).2.2
  have inside : ∀ event ∈ first :: (middle ++ [last]),
      first ≤ event ∧ event ≤ last := by
    intro event member
    have firstLeLast := firstLe last (by simp)
    rcases List.mem_cons.mp member with same | later
    · rw [same]
      exact ⟨le_rfl, firstLeLast⟩
    · refine ⟨firstLe event later, ?_⟩
      rcases List.mem_append.mp later with between | final
      · exact lastGe event between last (by simp)
      · rw [List.mem_singleton.mp final]
  have all : (first :: (middle ++ [last])).countP
      (fun event => first ≤ event ∧ event < expires first) =
        (first :: (middle ++ [last])).length := by
    refine List.countP_eq_length.mpr ?_
    intro event member
    have bounds := inside event member
    exact decide_eq_true ⟨bounds.1, bounds.2.trans_lt (not_le.mp tight)⟩
  have most : (first :: (middle ++ [last])).countP
      (fun event => first ≤ event ∧ event < expires first) ≤
        history.countP (fun event => first ≤ event ∧ event < expires first) :=
    events.countP_le
  have bound := window_le expires capacity monotone admissible first
  rw [all] at most
  simp only [List.length_cons, List.length_append, List.length_nil] at most
  omega

section Records

variable {S ι : Type}

/-- Different records stand for different events of the history. -/
def Tallies (recorded : ι → Option S) (history : List S) : Prop :=
  ∀ (records : Finset ι) (P : S → Bool),
    (records.filter fun entry => (recorded entry).any P = true).card ≤
      history.countP P

theorem tallies_nil {recorded : ι → Option S}
    (nothing : ∀ entry, recorded entry = none) (history : List S) :
    Tallies recorded history := by
  intro records P
  simp [nothing]

/-- Records that were there before stand for the same events in a longer
history. -/
theorem Tallies.append {recorded later : ι → Option S} {history : List S}
    (tallies : Tallies recorded history) (events : List S)
    (earlier : ∀ entry event, later entry = some event →
      recorded entry = some event) : Tallies later (history ++ events) := by
  intro records P
  have fewer : (records.filter fun entry => (later entry).any P = true).card ≤
      (records.filter fun entry => (recorded entry).any P = true).card := by
    apply Finset.card_le_card
    intro entry member
    obtain ⟨inRecords, holds⟩ := Finset.mem_filter.mp member
    obtain ⟨event, found, good⟩ := (Option.any_eq_true ..).mp holds
    rw [Finset.mem_filter, earlier entry event found]
    exact ⟨inRecords, good⟩
  have before := tallies records P
  rw [List.countP_append]
  omega

/-- One new record stands for one new event. -/
theorem Tallies.extended [DecidableEq ι] {recorded later : ι → Option S}
    {history : List S} (tallies : Tallies recorded history) (new : ι)
    (event : S)
    (origin : ∀ entry other, later entry = some other →
      recorded entry = some other ∨ (entry = new ∧ other = event)) :
    Tallies later (history ++ [event]) := by
  intro records P
  have before := tallies records P
  have split : ∀ entry ∈ records, (later entry).any P = true →
      (recorded entry).any P = true ∨ (entry = new ∧ P event = true) := by
    intro entry _ holds
    obtain ⟨other, found, good⟩ := (Option.any_eq_true ..).mp holds
    rcases origin entry other found with earlier | ⟨rfl, rfl⟩
    · exact Or.inl ((Option.any_eq_true ..).mpr ⟨other, earlier, good⟩)
    · exact Or.inr ⟨rfl, good⟩
  rw [List.countP_append, List.countP_singleton]
  by_cases good : P event = true
  · have included : (records.filter fun entry =>
          (later entry).any P = true) ⊆
        insert new (records.filter fun entry =>
          (recorded entry).any P = true) := by
      intro entry member
      obtain ⟨inRecords, holds⟩ := Finset.mem_filter.mp member
      rcases split entry inRecords holds with earlier | ⟨rfl, -⟩
      · exact Finset.mem_insert_of_mem
          (Finset.mem_filter.mpr ⟨inRecords, earlier⟩)
      · exact Finset.mem_insert_self ..
    have most := (Finset.card_le_card included).trans
      (Finset.card_insert_le ..)
    rw [if_pos good]
    omega
  · have included : (records.filter fun entry =>
          (later entry).any P = true) ⊆
        records.filter fun entry => (recorded entry).any P = true := by
      intro entry member
      obtain ⟨inRecords, holds⟩ := Finset.mem_filter.mp member
      rcases split entry inRecords holds with earlier | ⟨-, bad⟩
      · exact Finset.mem_filter.mpr ⟨inRecords, earlier⟩
      · exact absurd bad good
    have most := Finset.card_le_card included
    rw [if_neg good]
    omega

end Records

end SlidingWindow
