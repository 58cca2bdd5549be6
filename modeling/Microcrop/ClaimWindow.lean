import Mathlib.Data.ZMod.Defs
import Microcrop.PolicyLifecycle
import Microcrop.SlidingWindow

/-!
# The claim buffer against the full history of claims

PolicyManager keeps a farmer's three newest claim times.  The buffer is an
instance of the sliding window whose events expire one claim window after
they were made, with the addition saturating at the largest timestamp, so it
counts the living claims of the farmer's whole history.
-/

namespace Microcrop

namespace PolicyManager

/-- When a claim leaves the window, as the contract computes it. -/
def claimExpiry (time : Nat) : Nat :=
  saturatingAddU64 time claimWindowSecs

theorem claimExpiry_monotone : Monotone claimExpiry := by
  intro earlier later ordered
  unfold claimExpiry saturatingAddU64
  omega

/-- Below the largest timestamp the saturation is not observable. -/
theorem lt_claimExpiry_iff {now : Nat} (bounded : now < 2 ^ 64 - 1)
    (time : Nat) : now < claimExpiry time ↔ now < time + claimWindowSecs :=
  lt_min_iff.trans (and_iff_left bounded)

theorem countP_eq_alive (expires : Nat → Nat) (now : Nat)
    (times : List Nat) :
    (times.countP fun time => now < expires time) =
      SlidingWindow.alive expires now times :=
  rfl

theorem claimsInWindow_eq_alive (state : State) (now : Nat)
    (farmer : Address) :
    state.claimsInWindow now farmer =
      SlidingWindow.alive claimExpiry now (state.claimTimes farmer) :=
  countP_eq_alive claimExpiry now (state.claimTimes farmer)

def Call.countsClaimOf (farmer : Address) : Call → Bool
  | .incrementClaimCount _ other => other = farmer
  | _ => false

variable {Ω : Type}

/-- The times of all accepted increments for a farmer, oldest first. -/
def claimHistory (farmer : Address)
    (past : List (Transition State (Input Ω))) : List Nat :=
  (past.filter fun transition =>
    accepts transition.source transition.label &&
      transition.label.call.countsClaimOf farmer).map
        fun transition => transition.label.time

theorem claimHistory_append (farmer : Address)
    (first second : List (Transition State (Input Ω))) :
    claimHistory farmer (first ++ second) =
      claimHistory farmer first ++ claimHistory farmer second := by
  unfold claimHistory
  rw [List.filter_append, List.map_append]

/-- The buffer is the end of an admissible history. -/
structure BuffersHistory (past : List (Transition State (Input Ω)))
    (clock : Nat) (state : State) : Prop where
  buffer : ∀ farmer, state.claimTimes farmer =
    SlidingWindow.kept maxClaimsPerFarmerPerYear (claimHistory farmer past)
  admissible : ∀ farmer, SlidingWindow.Admissible claimExpiry
    maxClaimsPerFarmerPerYear (claimHistory farmer past)
  past_le : ∀ farmer, ∀ time ∈ claimHistory farmer past, time ≤ clock

theorem buffersHistory_constructor (admin : Address) :
    BuffersHistory ([] : List (Transition State (Input Ω))) 0
      (constructor admin) where
  buffer _ := rfl
  admissible _ := .nil
  past_le farmer time member := by cases member

section Step

variable {past : List (Transition State (Input Ω))} {state : State}
  {input : Input Ω}

/-- A call that counts no claim leaves buffers and histories alone. -/
theorem buffersHistory_of_uncounted
    (buffers : BuffersHistory past input.time state)
    (uncounted : ∀ farmer,
      claimHistory farmer [History.taken apply state input] = [])
    (same : (apply state input).claimTimes = state.claimTimes) :
    BuffersHistory (past ++ [History.taken apply state input]) input.time
      (apply state input) where
  buffer farmer := by
    rw [claimHistory_append, uncounted, List.append_nil, same]
    exact buffers.buffer farmer
  admissible farmer := by
    rw [claimHistory_append, uncounted, List.append_nil]
    exact buffers.admissible farmer
  past_le farmer := by
    rw [claimHistory_append, uncounted, List.append_nil]
    exact buffers.past_le farmer

/-- An accepted increment admits one more event for its farmer. -/
theorem buffersHistory_of_counted {caller farmer : Address}
    (buffers : BuffersHistory past input.time state)
    (accepted : accepts state input = true)
    (called : input.call = .incrementClaimCount caller farmer)
    (room : state.claimsInWindow input.time farmer <
      maxClaimsPerFarmerPerYear)
    (pushed : apply state input = state.pushClaimTime farmer input.time) :
    BuffersHistory (past ++ [History.taken apply state input]) input.time
      (apply state input) := by
  have counted : ∀ other,
      claimHistory other [History.taken apply state input] =
        if farmer = other then [input.time] else [] := by
    intro other
    unfold claimHistory
    rw [List.filter_singleton]
    by_cases same : farmer = other
    · simp [History.taken, accepted, called, Call.countsClaimOf, same]
    · simp [History.taken, called, Call.countsClaimOf, same]
  refine ⟨?_, ?_, ?_⟩
  · intro other
    rw [claimHistory_append, counted, pushed,
      State.pushClaimTime_claimTimes]
    by_cases same : farmer = other
    · rw [if_pos same, if_pos same.symm, buffers.buffer farmer, ← same]
      have maintained := SlidingWindow.kept_append maxClaimsPerFarmerPerYear
        (by decide) (claimHistory farmer past) input.time
      rw [← maintained]
      rfl
    · rw [if_neg same, if_neg (fun equal => same equal.symm),
        List.append_nil]
      exact buffers.buffer other
  · intro other
    rw [claimHistory_append, counted]
    by_cases same : farmer = other
    · rw [if_pos same, ← same]
      refine .admitted (buffers.admissible farmer) (buffers.past_le farmer) ?_
      rw [← buffers.buffer farmer, ← claimsInWindow_eq_alive]
      exact room
    · rw [if_neg same, List.append_nil]
      exact buffers.admissible other
  · intro other time member
    rw [claimHistory_append, counted] at member
    rcases List.mem_append.mp member with earlier | now
    · exact buffers.past_le other time earlier
    · split at now
      · rw [List.mem_singleton.mp now]
      · cases now

theorem buffersHistory_apply (buffers : BuffersHistory past input.time state) :
    BuffersHistory (past ++ [History.taken apply state input]) input.time
      (apply state input) := by
  rcases apply_cases state input with
    ⟨refused, same⟩ | ⟨accepted, after, effect, same⟩
  · refine buffersHistory_of_uncounted buffers ?_ (by rw [same])
    intro farmer
    simp [claimHistory, History.taken, refused]
  · have uncounted (silent : ∀ farmer,
        input.call.countsClaimOf farmer = false)
        (times : after.1.claimTimes = state.claimTimes) :
        BuffersHistory (past ++ [History.taken apply state input])
          input.time (apply state input) := by
      refine buffersHistory_of_uncounted buffers ?_ (by rw [same, times])
      intro farmer
      simp [claimHistory, History.taken, silent]
    generalize called : input.call = call at effect
    cases effect with
    | administered signed admin administers =>
        refine uncounted ?_ rfl
        intro farmer
        rw [called]
        cases call <;> first | rfl | cases administers
    | sold signed backend valid capacity =>
        exact uncounted (fun farmer => by rw [called]; rfl) rfl
    | activated signed backend wired stored pending inTime cap ordered
        minted =>
        exact uncounted (fun farmer => by rw [called]; rfl)
          (State.activate_claimTimes ..)
    | closedActive stored active cause deactivates =>
        refine uncounted ?_ (State.closeActive_claimTimes ..)
        intro farmer
        rw [called]
        cases cause <;> rfl
    | closedPending stored pending cause =>
        refine uncounted ?_ (State.closePending_claimTimes ..)
        intro farmer
        rw [called]
        cases cause <;> rfl
    | claimCounted signed oracle cap =>
        exact buffersHistory_of_counted buffers accepted called cap same
    | alreadyExpired stored expired =>
        exact uncounted (fun farmer => by rw [called]; rfl) rfl

end Step

/-! ## Every run -/

/-- The claims of a farmer along a run. -/
def claimsOf (admin : Address) (inputs : List (Input Ω)) (farmer : Address) :
    List Nat :=
  claimHistory farmer (History.trace apply (constructor admin) inputs)

theorem buffersHistory_run (admin : Address) (inputs : List (Input Ω))
    {now : Nat} (ordered : History.Chronological Input.time inputs)
    (beforeNow : ∀ input ∈ inputs, input.time ≤ now) :
    BuffersHistory (History.trace apply (constructor admin) inputs) now
      (History.run apply (constructor admin) inputs) :=
  History.chronological_trace_invariant apply (fun _ => True)
    (fun past clock state => BuffersHistory past clock state)
    (fun _ _ _ _ later buffers => ⟨buffers.buffer, buffers.admissible,
      fun farmer time member =>
        (buffers.past_le farmer time member).trans later⟩)
    (fun _ _ _ _ buffers => buffersHistory_apply buffers)
    inputs [] (buffersHistory_constructor admin) ordered
    (fun _ _ => Nat.zero_le _) beforeNow (Nat.zero_le now)
    (fun _ _ => trivial)

/-- The buffer of a farmer against all claims the farmer ever made. -/
structure FaithfulBuffer (claims : List Nat) (state : State)
    (farmer : Address) : Prop where
  counts : ∀ now, (∀ time ∈ claims, time ≤ now) → now < 2 ^ 64 - 1 →
    state.claimsInWindow now farmer =
      claims.countP fun time => now < time + claimWindowSecs
  buffer : state.claimTimes farmer = claims.drop (claims.length - 3)
  sorted : (state.claimTimes farmer).Pairwise (· ≤ ·)
  length_le : (state.claimTimes farmer).length ≤ 3
  span : ∀ first second third fourth,
    [first, second, third, fourth].Sublist claims → fourth < 2 ^ 64 - 1 →
      first + claimWindowSecs ≤ fourth
  window : ∀ start, (claims.countP fun time =>
    start ≤ time ∧ time < start + claimWindowSecs ∧ time < 2 ^ 64 - 1) ≤ 3

theorem faithfulBuffer_of_buffersHistory
    {past : List (Transition State (Input Ω))} {clock : Nat} {state : State}
    (buffers : BuffersHistory past clock state) (farmer : Address) :
    FaithfulBuffer (claimHistory farmer past) state farmer := by
  have admissible := buffers.admissible farmer
  refine ⟨?_, buffers.buffer farmer, ?_, ?_, ?_, ?_⟩
  · intro now afterLast bounded
    rw [claimsInWindow_eq_alive, buffers.buffer farmer,
      SlidingWindow.alive_kept claimExpiry _ claimExpiry_monotone admissible
        afterLast, ← countP_eq_alive]
    apply List.countP_congr
    intro time member
    simpa using lt_claimExpiry_iff bounded time
  · rw [buffers.buffer farmer]
    exact admissible.sorted.drop
  · rw [buffers.buffer farmer]
    exact SlidingWindow.kept_length_le maxClaimsPerFarmerPerYear _
  · intro first second third fourth claims bounded
    have expired := SlidingWindow.span_le claimExpiry
      maxClaimsPerFarmerPerYear claimExpiry_monotone admissible
      [second, third] claims rfl
    by_contra tight
    exact absurd expired (not_le.mpr
      ((lt_claimExpiry_iff bounded first).mpr (not_le.mp tight)))
  · intro start
    have most := SlidingWindow.window_le claimExpiry
      maxClaimsPerFarmerPerYear claimExpiry_monotone admissible start
    have expires : ∀ time, time < 2 ^ 64 - 1 →
        time < start + claimWindowSecs → time < claimExpiry start :=
      fun time bounded => (lt_claimExpiry_iff bounded start).mpr
    generalize claimExpiry start = expiry at most expires
    refine le_trans (List.countP_mono_left ?_) most
    intro time member holds
    obtain ⟨after, before, bounded⟩ := of_decide_eq_true holds
    exact decide_eq_true ⟨after, expires time bounded before⟩

/-- Before the last representable second the three buffered times count the
whole history of a farmer's claims, and no 365-day window holds more than
three of them. -/
theorem claimBuffer_faithful (admin farmer : Address)
    (inputs : List (Input Ω))
    (ordered : History.Chronological Input.time inputs) :
    FaithfulBuffer (claimsOf admin inputs farmer)
      (History.run apply (constructor admin) inputs) farmer := by
  have latest : ∀ input ∈ inputs,
      input.time ≤ (inputs.map Input.time).sum :=
    fun input member => List.le_sum_of_mem (List.mem_map_of_mem member)
  exact faithfulBuffer_of_buffersHistory
    (buffersHistory_run admin inputs ordered latest) farmer

/-- Three claims in one window, a refused fourth one, and one more as soon as
the first claim is 365 days old. -/
def claimSeason (admin farmer : Address) : List (Input Unit) :=
  [signedByAll 0 (.grantRole admin .oracle admin),
    signedByAll 100 (.incrementClaimCount admin farmer),
    signedByAll 200 (.incrementClaimCount admin farmer),
    signedByAll 200 (.incrementClaimCount admin farmer),
    signedByAll 31536099 (.incrementClaimCount admin farmer),
    signedByAll 31536100 (.incrementClaimCount admin farmer)]

theorem claimBuffer_faithful_season :
    claimsOf (seasonAddress 1) (claimSeason (seasonAddress 1)
          (seasonAddress 2)) (seasonAddress 2) =
        [100, 200, 200, 31536100] ∧
      FaithfulBuffer
        (claimsOf (seasonAddress 1) (claimSeason (seasonAddress 1)
          (seasonAddress 2)) (seasonAddress 2))
        (History.run apply (constructor (seasonAddress 1))
          (claimSeason (seasonAddress 1) (seasonAddress 2)))
        (seasonAddress 2) :=
  ⟨by decide +kernel, claimBuffer_faithful (seasonAddress 1)
    (seasonAddress 2) (claimSeason (seasonAddress 1) (seasonAddress 2))
    (by decide +kernel)⟩

/-! ## The last second -/

/-- The administrator takes the Oracle role and counts four claims at the
last representable second. -/
def lastSecondCalls (admin farmer : Address) : List (Input Unit) :=
  signedByAll (2 ^ 64 - 1) (.grantRole admin .oracle admin) ::
    List.replicate 4
      (signedByAll (2 ^ 64 - 1) (.incrementClaimCount admin farmer))

/-- At the last representable second a claim is never inside the window that
the contract computes, so all four claims are accepted and none is counted. -/
theorem claimBuffer_lastSecond :
    History.Chronological Input.time
        (lastSecondCalls (seasonAddress 1) (seasonAddress 2)) ∧
      claimsOf (seasonAddress 1)
          (lastSecondCalls (seasonAddress 1) (seasonAddress 2))
          (seasonAddress 2) =
        List.replicate 4 (2 ^ 64 - 1) ∧
      (History.run apply (constructor (seasonAddress 1))
          (lastSecondCalls (seasonAddress 1)
            (seasonAddress 2))).claimsInWindow (2 ^ 64 - 1)
              (seasonAddress 2) ≠
        (claimsOf (seasonAddress 1)
          (lastSecondCalls (seasonAddress 1) (seasonAddress 2))
          (seasonAddress 2)).countP
            fun time => 2 ^ 64 - 1 < time + claimWindowSecs := by
  decide +kernel

end PolicyManager

end Microcrop
