import Microcrop.Host
import Microcrop.LeaseExtension
import Mathlib.Algebra.Order.Floor.Div

/-!
# TTL policy

The helpers of `microcrop-shared::ttl`, which every contract uses to extend
the TTL of its storage entries.  A helper runs on the remaining TTL of one
entry, in ledgers, and reads the clock and the network maximum.  The host
extends an entry as a lease with the network maximum as its cap, and every
helper that reaches the host asks it for one lease request.
-/

namespace Microcrop

open Transaction

/-- What the TTL helpers read of the ledger: its time and the longest TTL that
the network grants. -/
structure LedgerInfo where
  timestamp : U64
  maxTtl : U32

/-! ## Constants -/

/-- Seconds between two ledgers. -/
def ledgerSeconds : Nat := 5

/-- One day of ledgers. -/
def dayLedgers : Nat := 17280

def userThresholdLedgers : Nat := 3 * dayLedgers

def userTargetLedgers : Nat := 10 * dayLedgers

def keeperThresholdLedgers : Nat := 23 * dayLedgers

def keeperTargetLedgers : Nat := 30 * dayLedgers

def roleThresholdLedgers : Nat := 30 * dayLedgers

def roleTargetLedgers : Nat := 60 * dayLedgers

def pendingThresholdLedgers : Nat := 30 * dayLedgers

def pendingTargetLedgers : Nat := 60 * dayLedgers

def sharedFloorLedgers : Nat := 60 * dayLedgers

def policyGraceSecs : Nat := 30 * 86400

def claimHistorySecs : Nat := 365 * 86400

/-! ## The host -/

/-- `extend_ttl` of the host for one entry. -/
def extendTtl (maxTtl threshold extendTo : Nat) : Contract Nat Unit := do
  panicIf (extendTo < threshold) (.host .storage)
  modify fun remaining =>
    if remaining ≤ threshold ∧ remaining < min extendTo maxTtl then
      min extendTo maxTtl
    else remaining

/-- `u64::div_ceil`. -/
def divCeilUnsigned {σ : Type} (width first second : Nat) :
    Contract σ Nat := do
  let quotient ← divUnsigned first second
  if 0 < first % second then addUnsigned width quotient 1 else pure quotient

/-- `as u32`, which drops the higher bits. -/
def asU32 {σ : Type} (value : Nat) : Contract σ Nat :=
  pure (value % 2 ^ 32)

/-- A cast to `u32` that traps where `as u32` would drop bits. -/
def tryIntoU32 {σ : Type} (value : Nat) : Contract σ Nat := do
  panicIf (2 ^ 32 ≤ value) (.host .arithmetic)
  pure value

/-! ## The helpers -/

section Helpers

variable (ledger : LedgerInfo)

/-- `touch_contract`, for the instance and for the code. -/
def touchContract : Contract Nat Unit :=
  extendTtl ledger.maxTtl (min userThresholdLedgers ledger.maxTtl)
    (min userTargetLedgers ledger.maxTtl)

/-- `keep_contract_alive`, for the instance and for the code. -/
def keepContractAlive : Contract Nat Unit :=
  extendTtl ledger.maxTtl (min keeperThresholdLedgers ledger.maxTtl)
    (min keeperTargetLedgers ledger.maxTtl)

/-- `ledgers_until`, with the cast that it uses as a parameter. -/
def ledgersUntilWith {σ : Type} (cast : Nat → Contract σ Nat) (t : Nat) :
    Contract σ Nat := do
  if t ≤ ledger.timestamp then pure 0
  else do
    let seconds ← subUnsigned t ledger.timestamp
    let ledgers ← divCeilUnsigned 64 seconds ledgerSeconds
    if (ledger.maxTtl : Nat) < ledgers then cast ledger.maxTtl
    else cast ledgers

/-- `ledgers_until`. -/
def ledgersUntil {σ : Type} (t : Nat) : Contract σ Nat :=
  ledgersUntilWith ledger asU32 t

/-- `extend_to`. -/
def extendTo (n : Nat) : Contract Nat Unit := do
  let n := min n ledger.maxTtl
  if n = 0 then pure ()
  else extendTtl ledger.maxTtl (n - dayLedgers) n

/-- `extend_for_policy`. -/
def extendForPolicy (endDate : Nat) : Contract Nat Unit := do
  let n ← ledgersUntil ledger (saturatingAddU64 endDate policyGraceSecs)
  extendTo ledger n

/-- `extend_pending`. -/
def extendPending : Contract Nat Unit :=
  extendTtl ledger.maxTtl (min pendingThresholdLedgers ledger.maxTtl)
    (min pendingTargetLedgers ledger.maxTtl)

/-- `extend_role`. -/
def extendRole : Contract Nat Unit :=
  extendTtl ledger.maxTtl (min roleThresholdLedgers ledger.maxTtl)
    (min roleTargetLedgers ledger.maxTtl)

/-- The need that `extend_shared` computes. -/
def sharedNeed {σ : Type} : Option Nat → Contract σ Nat
  | some endDate =>
      ledgersUntil ledger (saturatingAddU64 endDate policyGraceSecs)
  | none => pure 0

/-- `extend_shared`. -/
def extendShared (endDate : Option Nat) : Contract Nat Unit := do
  let need ← sharedNeed ledger endDate
  extendTo ledger (max need sharedFloorLedgers)

/-- `extend_for_secs`. -/
def extendForSecs (secs : Nat) : Contract Nat Unit := do
  let ledgers ← ledgersUntil ledger
    (saturatingAddU64 ledger.timestamp secs)
  extendTo ledger (max ledgers sharedFloorLedgers)

end Helpers

/-! ## What the helpers compute -/

/-- Ledgers from `now` until `t`, rounded up; none when `t` is not in the
future. -/
def ledgersBetween (now t : Nat) : Nat :=
  (t - now) ⌈/⌉ ledgerSeconds

/-- The instant until which the entries of a policy have to live. -/
def policyNeedEnd (endDate : Nat) : Nat :=
  min (endDate + policyGraceSecs) (2 ^ 64 - 1)

/-- What the entries of a policy that ends at `endDate` need at `now`. -/
def policyNeed (now endDate : Nat) : Nat :=
  ledgersBetween now (policyNeedEnd endDate)

/-- What an entry that several policies share needs for one of them. -/
def sharedNeedOf (now : Nat) : Option Nat → Nat
  | some endDate => policyNeed now endDate
  | none => 0

section Casts

variable {σ : Type}

theorem divCeilUnsigned_commits {first second : Nat} (several : 1 < second)
    (fits : first < 2 ^ 64) (before after : σ) (result : Nat) :
    (divCeilUnsigned 64 first second).Commits before result after ↔
      result = first ⌈/⌉ second ∧ after = before := by
  have positive : 0 < second := by omega
  have nonzero : second ≠ 0 := positive.ne'
  have quotient : first / second + 1 < 2 ^ 64 := by
    have halved : first / second ≤ first / 2 :=
      Nat.div_le_div_left several (by decide)
    omega
  have roundsUp : first ⌈/⌉ second =
      if 0 < first % second then first / second + 1 else first / second := by
    rw [Nat.ceilDiv_eq_add_pred_div]
    split <;> rename_i remainder
    · rw [Nat.div_eq_iff positive]
      have division := Nat.div_add_mod first second
      have smaller := Nat.mod_lt first positive
      constructor
      · rw [Nat.add_mul, Nat.mul_comm]
        omega
      · rw [Nat.add_mul, Nat.mul_comm]
        omega
    · rw [Nat.div_eq_iff positive]
      have division := Nat.div_add_mod first second
      constructor
      · rw [Nat.mul_comm]
        omega
      · rw [Nat.mul_comm]
        omega
  unfold divCeilUnsigned
  rw [roundsUp]
  split
  · simp only [bind_commits, divUnsigned_commits, addUnsigned_commits]
    constructor
    · rintro ⟨_, _, ⟨-, rfl, rfl⟩, -, rfl, rfl⟩
      exact ⟨rfl, rfl⟩
    · rintro ⟨rfl, rfl⟩
      exact ⟨_, _, ⟨nonzero, rfl, rfl⟩, quotient, rfl, rfl⟩
  · simp [nonzero]

theorem asU32_commits {value : Nat} (fits : value < 2 ^ 32)
    (before after : σ) (result : Nat) :
    (asU32 value).Commits before result after ↔
      result = value ∧ after = before := by
  unfold asU32
  rw [Nat.mod_eq_of_lt fits, pure_commits]

theorem saturatingAddU64_lt (first second : Nat) :
    saturatingAddU64 first second < 2 ^ 64 := by
  unfold saturatingAddU64
  omega

end Casts

section Needs

variable (ledger : LedgerInfo)

/-- The need until an instant, within what the network grants. -/
theorem ledgersUntilWith_commits {σ : Type} {cast : Nat → Contract σ Nat}
    (exact : ∀ value < 2 ^ 32, ∀ (before after : σ) (result : Nat),
      (cast value).Commits before result after ↔
        result = value ∧ after = before)
    {t : Nat} (fits : t < 2 ^ 64) (before after : σ) (result : Nat) :
    (ledgersUntilWith ledger cast t).Commits before result after ↔
      result = min (ledgersBetween ledger.timestamp t) ledger.maxTtl ∧
        after = before := by
  have maxFits : (ledger.maxTtl : Nat) < 2 ^ 32 := ledger.maxTtl.isLt
  unfold ledgersUntilWith
  split <;> rename_i past
  · have none : t - ledger.timestamp = 0 := Nat.sub_eq_zero_of_le past
    unfold ledgersBetween
    rw [none, zero_ceilDiv, Nat.zero_min]
    exact pure_commits _ _ _ _
  · have future : (ledger.timestamp : Nat) ≤ t := (not_le.mp past).le
    have clamps (clamped : σ) :
        (if (ledger.maxTtl : Nat) < ledgersBetween ledger.timestamp t then
            cast ledger.maxTtl
          else cast (ledgersBetween ledger.timestamp t)).Commits clamped
            result after ↔
          result = min (ledgersBetween ledger.timestamp t) ledger.maxTtl ∧
            after = clamped := by
      split <;> rename_i above
      · rw [min_eq_right above.le]
        exact exact _ maxFits _ _ _
      · rw [min_eq_left (not_lt.mp above)]
        exact exact _ (by omega) _ _ _
    rw [bind_commits]
    constructor
    · rintro ⟨_, _, subtracted, divided⟩
      obtain ⟨-, rfl, rfl⟩ := (subUnsigned_commits _ _ _ _ _).mp subtracted
      obtain ⟨_, _, rounded, clamped⟩ := (bind_commits _ _ _ _ _).mp divided
      obtain ⟨rfl, rfl⟩ := (divCeilUnsigned_commits (by decide) (by omega)
        _ _ _).mp rounded
      exact (clamps _).mp clamped
    · intro clamped
      have rounded : (divCeilUnsigned 64 (t - ledger.timestamp)
          ledgerSeconds).Commits before (ledgersBetween ledger.timestamp t)
          before :=
        (divCeilUnsigned_commits (by decide) (by omega) _ _ _).mpr ⟨rfl, rfl⟩
      exact ⟨_, _, (subUnsigned_commits _ _ _ _ _).mpr ⟨future, rfl, rfl⟩,
        (bind_commits _ _ _ _ _).mpr
          ⟨_, _, rounded, (clamps _).mpr clamped⟩⟩

theorem ledgersUntil_commits {σ : Type} {t : Nat} (fits : t < 2 ^ 64)
    (before after : σ) (result : Nat) :
    (ledgersUntil ledger t).Commits before result after ↔
      result = min (ledgersBetween ledger.timestamp t) ledger.maxTtl ∧
        after = before :=
  ledgersUntilWith_commits ledger (fun _ small => asU32_commits small) fits
    before after result

@[simp]
theorem sharedNeed_commits {σ : Type} (endDate : Option Nat)
    (before after : σ) (result : Nat) :
    (sharedNeed ledger endDate).Commits before result after ↔
      result = min (sharedNeedOf ledger.timestamp endDate) ledger.maxTtl ∧
        after = before := by
  cases endDate with
  | none => simp [sharedNeed, sharedNeedOf]
  | some endDate =>
      exact ledgersUntil_commits ledger (saturatingAddU64_lt _ _) _ _ _

end Needs

/-! ## What the helpers ask of the host -/

/-- The request for `n` ledgers, with a threshold one day below it. -/
def needRequest (maxTtl n : Nat) : LeaseRequest where
  threshold := min n maxTtl - dayLedgers
  target := min n maxTtl
  threshold_le := Nat.sub_le _ _

/-- The request of a class of entries with a fixed threshold and target. -/
def classRequest (maxTtl threshold target : Nat)
    (ordered : threshold ≤ target) : LeaseRequest where
  threshold := min threshold maxTtl
  target := min target maxTtl
  threshold_le := min_le_min_right maxTtl ordered

theorem needRequest_within (maxTtl n : Nat) :
    (needRequest maxTtl n).Within dayLedgers :=
  Nat.le_add_of_sub_le (Nat.le_refl _)

theorem extendTtl_commits (maxTtl : Nat) (request : LeaseRequest)
    (before after : Nat) (result : Unit) :
    (extendTtl maxTtl request.threshold request.target).Commits before result
        after ↔
      after = request.extend maxTtl before := by
  have ordered : ¬ request.target < request.threshold :=
    not_lt.mpr request.threshold_le
  simp [extendTtl, ordered, LeaseRequest.extend]

/-- A need that was clamped before its request. -/
theorem needRequest_clamped (maxTtl need floor : Nat) :
    needRequest maxTtl (max (min need maxTtl) floor) =
      needRequest maxTtl (max need floor) := by
  have same : min (max (min need maxTtl) floor) maxTtl =
      min (max need floor) maxTtl := by
    omega
  simp only [needRequest, same]

section Requests

variable (ledger : LedgerInfo)

@[simp]
theorem extendTo_commits (n before after : Nat) (result : Unit) :
    (extendTo ledger n).Commits before result after ↔
      after = (needRequest ledger.maxTtl n).extend ledger.maxTtl before := by
  change (if min n (ledger.maxTtl : Nat) = 0 then pure ()
    else extendTtl ledger.maxTtl (min n ledger.maxTtl - dayLedgers)
      (min n ledger.maxTtl)).Commits before result after ↔ _
  split <;> rename_i zero
  · have unasked : (needRequest ledger.maxTtl n).target = 0 := zero
    simp [LeaseRequest.extend, unasked]
  · exact extendTtl_commits ledger.maxTtl (needRequest ledger.maxTtl n)
      before after result

/-- A helper that first computes a need, clamped, and then takes it with a
floor. -/
theorem extendNeed_commits {need : Contract Nat Nat} {value : Nat}
    (computes : ∀ before after result, need.Commits before result after ↔
      result = min value ledger.maxTtl ∧ after = before)
    (floor before after : Nat) (result : Unit) :
    (need >>= fun n => extendTo ledger (max n floor)).Commits before result
        after ↔
      after = (needRequest ledger.maxTtl (max value floor)).extend
        ledger.maxTtl before := by
  rw [bind_commits, ← needRequest_clamped]
  constructor
  · rintro ⟨_, _, computed, extended⟩
    obtain ⟨rfl, rfl⟩ := (computes _ _ _).mp computed
    exact (extendTo_commits ledger _ _ _ _).mp extended
  · rintro extended
    have computed := (computes before before _).mpr ⟨rfl, rfl⟩
    exact ⟨_, _, computed, (extendTo_commits ledger _ _ _ _).mpr extended⟩

theorem extendForPolicy_commits (endDate before after : Nat)
    (result : Unit) :
    (extendForPolicy ledger endDate).Commits before result after ↔
      after = (needRequest ledger.maxTtl
        (policyNeed ledger.timestamp endDate)).extend ledger.maxTtl
          before := by
  have extended := extendNeed_commits ledger
    (ledgersUntil_commits ledger
      (saturatingAddU64_lt endDate policyGraceSecs)) 0 before after result
  simp only [Nat.max_zero] at extended
  exact extended

theorem extendShared_commits (endDate : Option Nat) (before after : Nat)
    (result : Unit) :
    (extendShared ledger endDate).Commits before result after ↔
      after = (needRequest ledger.maxTtl
        (max (sharedNeedOf ledger.timestamp endDate)
          sharedFloorLedgers)).extend ledger.maxTtl before :=
  extendNeed_commits ledger (sharedNeed_commits ledger _) sharedFloorLedgers
    before after result

end Requests

/-- A call of a helper. -/
inductive TtlCall
  | touch
  | keep
  | atLeast (n : U32)
  | forPolicy (endDate : U64)
  | shared (endDate : Option U64)
  | forSecs (secs : U64)
  | pending
  | role

namespace TtlCall

variable (ledger : LedgerInfo)

/-- Run the helper on the remaining TTL of an entry. -/
def exec : TtlCall → Contract Nat Unit
  | .touch => touchContract ledger
  | .keep => keepContractAlive ledger
  | .atLeast n => extendTo ledger n
  | .forPolicy endDate => extendForPolicy ledger endDate
  | .shared endDate => extendShared ledger (endDate.map (↑))
  | .forSecs secs => extendForSecs ledger secs
  | .pending => extendPending ledger
  | .role => extendRole ledger

/-- What the helper asks of the host. -/
def request : TtlCall → LeaseRequest
  | .touch => classRequest ledger.maxTtl userThresholdLedgers
      userTargetLedgers (by decide)
  | .keep => classRequest ledger.maxTtl keeperThresholdLedgers
      keeperTargetLedgers (by decide)
  | .atLeast n => needRequest ledger.maxTtl n
  | .forPolicy endDate =>
      needRequest ledger.maxTtl (policyNeed ledger.timestamp endDate)
  | .shared endDate => needRequest ledger.maxTtl
      (max (sharedNeedOf ledger.timestamp (endDate.map (↑)))
        sharedFloorLedgers)
  | .forSecs secs => needRequest ledger.maxTtl
      (max (ledgersBetween ledger.timestamp
        (saturatingAddU64 ledger.timestamp secs)) sharedFloorLedgers)
  | .pending => classRequest ledger.maxTtl pendingThresholdLedgers
      pendingTargetLedgers (by decide)
  | .role => classRequest ledger.maxTtl roleThresholdLedgers
      roleTargetLedgers (by decide)

/-- Every helper makes one lease request, capped by the network maximum. -/
theorem exec_commits (call : TtlCall) (before after : Nat) (result : Unit) :
    (call.exec ledger).Commits before result after ↔
      after = (call.request ledger).extend ledger.maxTtl before := by
  cases call with
  | touch => exact extendTtl_commits _ (request ledger .touch) _ _ _
  | keep => exact extendTtl_commits _ (request ledger .keep) _ _ _
  | atLeast n => exact extendTo_commits ledger n before after result
  | forPolicy endDate =>
      exact extendForPolicy_commits ledger endDate before after result
  | shared endDate => exact extendShared_commits ledger _ before after result
  | forSecs secs =>
      have fits := saturatingAddU64_lt ledger.timestamp secs
      exact extendNeed_commits ledger (ledgersUntil_commits ledger fits)
        sharedFloorLedgers before after result
  | pending => exact extendTtl_commits _ (request ledger .pending) _ _ _
  | role => exact extendTtl_commits _ (request ledger .role) _ _ _

/-- No helper is ever refused. -/
theorem exec_not_fails (call : TtlCall) (before : Nat) (error : Error) :
    ¬ (call.exec ledger).Fails before error := by
  have commits := (call.exec_commits ledger before _ ()).mpr rfl
  exact commits.not_fails error

end TtlCall

end Microcrop
