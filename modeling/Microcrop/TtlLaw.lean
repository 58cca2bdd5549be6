import Microcrop.Ttl

/-!
# The law of the TTL helpers

No helper is ever refused, shortens an entry or sets it above the network
maximum, and the entries of a policy keep what the policy needs, up to one
day.  A shared entry, which many policies extend, keeps the longest need of
all of them, still up to one day only.
-/

namespace Microcrop

open Transaction

/-! ## Single calls -/

section Casts

variable {σ : Type}

theorem asU32_eq_pure {value : Nat} (fits : value < 2 ^ 32) :
    (asU32 value : Contract σ Nat) = pure value := by
  unfold asU32
  rw [Nat.mod_eq_of_lt fits]

theorem tryIntoU32_eq_pure {value : Nat} (fits : value < 2 ^ 32) :
    (tryIntoU32 value : Contract σ Nat) = pure value := by
  unfold tryIntoU32 panicIf
  rw [if_neg (not_le.mpr fits)]
  rfl

/-- `ledgers_until` casts only values that fit. -/
theorem ledgersUntilWith_congr {cast other : Nat → Contract σ Nat}
    (agree : ∀ value < 2 ^ 32, cast value = other value)
    (ledger : LedgerInfo) :
    ledgersUntilWith ledger cast = ledgersUntilWith ledger other := by
  have maxFits : (ledger.maxTtl : Nat) < 2 ^ 32 := ledger.maxTtl.isLt
  have clamps (ledgers : Nat) :
      (if (ledger.maxTtl : Nat) < ledgers then cast ledger.maxTtl
        else cast ledgers) =
      (if (ledger.maxTtl : Nat) < ledgers then other ledger.maxTtl
        else other ledgers) := by
    split <;> rename_i above
    · exact agree _ maxFits
    · exact agree _ (by omega)
  ext t
  unfold ledgersUntilWith
  simp only [clamps]

/-- A cast that traps instead of dropping bits makes no difference. -/
theorem ledgersUntil_exact (ledger : LedgerInfo) :
    ledgersUntilWith ledger (tryIntoU32 : Nat → Contract σ Nat) =
      ledgersUntil ledger := by
  apply ledgersUntilWith_congr
  intro value fits
  rw [asU32_eq_pure fits, tryIntoU32_eq_pure fits]

end Casts

namespace TtlCall

variable (ledger : LedgerInfo)

/-- A helper commits, and the entry lives as long as before, or longer within
the network maximum. -/
theorem exec_lawful (call : TtlCall) (before : Nat) :
    ∃ after, (call.exec ledger).Commits before () after ∧ before ≤ after ∧
      (after ≠ before → after ≤ ledger.maxTtl) := by
  have longer := (call.request ledger).le_extend ledger.maxTtl before
  exact ⟨_, (call.exec_commits ledger _ _ _).mpr rfl, longer,
    (call.request ledger).extend_le_cap ledger.maxTtl⟩

/-- A helper that computes a need leaves the entry that long, up to one
day. -/
theorem exec_needs (call : TtlCall) {need : Nat}
    (asks : call.request ledger = needRequest ledger.maxTtl need)
    (before : Nat) :
    ∃ after, (call.exec ledger).Commits before () after ∧
      min need ledger.maxTtl - dayLedgers ≤ after := by
  have within : (call.request ledger).Within dayLedgers := by
    rw [asks]
    exact needRequest_within _ _
  have target : min (call.request ledger).target ledger.maxTtl =
      min need ledger.maxTtl := by
    rw [asks]
    exact min_eq_left (min_le_right _ _)
  have lives := within.le_extend ledger.maxTtl before
  rw [target] at lives
  exact ⟨_, (call.exec_commits ledger _ _ _).mpr rfl,
    Nat.sub_le_of_le_add lives⟩

end TtlCall

/-! ## Sequences of extensions of a shared entry -/

/-- A call of `extend_shared` in some ledger.  `renewed` is the expiry ledger
that other transactions have given the entry since the last such call. -/
structure SharedCall where
  sequence : Nat
  info : LedgerInfo
  endDate : Option U64
  renewed : Nat

namespace SharedCall

/-- The need for which the call extends the entry, clamped to the network
maximum. -/
def clampedNeed (call : SharedCall) : Nat :=
  min (sharedNeedOf call.info.timestamp (call.endDate.map (↑)))
    call.info.maxTtl

/-- The expiry ledger that the call finds: no transaction shortens a TTL, and
an archived entry has to be restored before a call can touch it. -/
def found (call : SharedCall) (expiry : Nat) : Nat :=
  max (max expiry call.renewed) call.sequence

/-- The expiry ledger after the call. -/
def expiryAfter (expiry : Nat) (call : SharedCall) : Nat :=
  call.sequence +
    (extendShared call.info (call.endDate.map (↑))).advance
      (call.found expiry - call.sequence)

/-- The call as a touch of a lease. -/
def touch (call : SharedCall) : LeaseTouch where
  instant := call.sequence
  cap := call.info.maxTtl
  request := (TtlCall.shared call.endDate).request call.info
  renewed := call.renewed

theorem expiryAfter_eq (expiry : Nat) (call : SharedCall) :
    call.expiryAfter expiry = call.touch.expiryAfter expiry := by
  have commits := ((TtlCall.shared call.endDate).exec_commits call.info
    (call.found expiry - call.sequence) _ ()).mpr rfl
  unfold expiryAfter LeaseTouch.expiryAfter
  exact congrArg (call.sequence + ·) commits.advance_eq

theorem run_eq (calls : List SharedCall) (expiry : Nat) :
    History.run expiryAfter expiry calls =
      History.run LeaseTouch.expiryAfter expiry (calls.map touch) := by
  induction calls generalizing expiry with
  | nil => rfl
  | cons call calls ih =>
      rw [List.map_cons, History.run_cons, History.run_cons, expiryAfter_eq]
      exact ih (call.touch.expiryAfter expiry)

/-- The clamped need, counted from the ledger of the call, is part of what
the call asks for. -/
theorem clampedNeed_le_asked (call : SharedCall) :
    call.sequence + call.clampedNeed ≤ call.touch.asked := by
  unfold clampedNeed LeaseTouch.asked touch
  dsimp only [TtlCall.request, needRequest]
  omega

/-- A shared entry keeps, up to one day, the longest need of a whole sequence
of calls. -/
theorem clampedNeed_le_run {calls : List SharedCall} (expiry : Nat)
    {call : SharedCall} (member : call ∈ calls) :
    call.sequence + call.clampedNeed ≤
      History.run expiryAfter expiry calls + dayLedgers := by
  have within : ∀ touched ∈ calls.map touch,
      touched.request.Within dayLedgers := by
    intro touched inside
    obtain ⟨other, -, rfl⟩ := List.mem_map.mp inside
    exact needRequest_within _ _
  have asked := LeaseTouch.asked_le_run within expiry
    (List.mem_map_of_mem member)
  rw [run_eq]
  exact call.clampedNeed_le_asked.trans asked

end SharedCall

/-! ## The law -/

/-- The TTL helpers are never refused, never shorten an entry, never set it
above the network maximum and never drop bits in a cast; per-policy and shared
entries live as long as the policy needs, up to one day; and over any sequence
of extensions a shared entry keeps the longest need, up to one day. -/
theorem ttlHelperLaw :
    (∀ (ledger : LedgerInfo) (call : TtlCall) (before : Nat),
      ∃ after, (call.exec ledger).Commits before () after ∧
        before ≤ after ∧ (after ≠ before → after ≤ ledger.maxTtl)) ∧
    (∀ ledger : LedgerInfo,
      ledgersUntilWith ledger (tryIntoU32 : Nat → Contract Nat Nat) =
        ledgersUntil ledger) ∧
    (∀ (ledger : LedgerInfo) (endDate : U64) (before : Nat),
      ∃ after, (extendForPolicy ledger endDate).Commits before () after ∧
        min (policyNeed ledger.timestamp endDate) ledger.maxTtl -
          dayLedgers ≤ after) ∧
    (∀ (ledger : LedgerInfo) (endDate : Option U64) (before : Nat),
      ∃ after, (extendShared ledger (endDate.map (↑))).Commits before ()
          after ∧
        min (sharedNeedOf ledger.timestamp (endDate.map (↑)))
          ledger.maxTtl - dayLedgers ≤ after ∧
        min sharedFloorLedgers ledger.maxTtl - dayLedgers ≤ after) ∧
    (∀ (calls : List SharedCall) (expiry : Nat), ∀ call ∈ calls,
      call.sequence + call.clampedNeed ≤
        History.run SharedCall.expiryAfter expiry calls + dayLedgers) := by
  constructor
  · intro ledger call before
    exact call.exec_lawful ledger before
  constructor
  · exact ledgersUntil_exact
  constructor
  · intro ledger endDate before
    exact TtlCall.exec_needs ledger (.forPolicy endDate) rfl before
  constructor
  · intro ledger endDate before
    obtain ⟨after, commits, lives⟩ := TtlCall.exec_needs ledger
      (.shared endDate) rfl before
    exact ⟨after, commits, by omega, by omega⟩
  · intro calls expiry call member
    exact SharedCall.clampedNeed_le_run expiry member

/-- A policy of a farmer, and one that ends 1000 seconds later and is touched
100 ledgers later. -/
def seasonCalls : List SharedCall :=
  [{ sequence := 1000
     info := { timestamp := 1700000000, maxTtl := 3110400 }
     endDate := some 1708640000
     renewed := 0 },
   { sequence := 1100
     info := { timestamp := 1700000500, maxTtl := 3110400 }
     endDate := some 1708641000
     renewed := 0 }]

theorem ttlHelperLaw_season : ∀ call ∈ seasonCalls,
    call.sequence + call.clampedNeed ≤
      History.run SharedCall.expiryAfter 0 seasonCalls + dayLedgers :=
  ttlHelperLaw.2.2.2.2 seasonCalls 0

/-- The second call is within a day of the first, so it extends nothing, and
the entry expires before its need. -/
theorem needWithinDaySkipped : ∃ call ∈ seasonCalls,
    History.run SharedCall.expiryAfter 0 seasonCalls <
      call.sequence + call.clampedNeed := by
  decide

end Microcrop
