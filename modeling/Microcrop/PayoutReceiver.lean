import Mathlib.Logic.Function.Basic
import Mathlib.Tactic.Simps.Basic
import Microcrop.DroughtIndex
import Microcrop.Encoding
import Microcrop.Interfaces

/-!
# PayoutReceiver

The verifier of `crates/payout-receiver`: it accepts a signed determination
and records the obligation in the SettlementAdapter.  PolicyManager and the
adapters are reached through client parameters, and their state `Ω` is
threaded next to the receiver's own.
-/

namespace Microcrop

namespace PayoutReceiver

open Transaction

/-- 30%, in basis points. -/
def minDamageThreshold : Nat := 3000

/-- 100%, in basis points. -/
def maxDamagePercentage : Nat := 10000

def weatherWeight : Nat := 60

def satelliteWeight : Nat := 40

/-- One hour. -/
def maxReportAge : Nat := 3600

def basisPoints : Int := 10000

def weightDenominator : Nat := 100

/-- Largest difference between a signed coordinate and the plot's. -/
def plotCoordToleranceE6 : Int := 1

/-- Storage of a PayoutReceiver, one field for each `DataKey`. -/
structure State where
  roles : Roles
  settlementAdapter : Option Address
  policyManager : Option Address
  authorizedSigner : Option (BytesN 65)
  networkDomain : Option (BytesN 32)
  paused : Option Bool
  reports : Nat → Option DamageReport
  policyPaid : Nat → Option Bool
  consumedDetermination : BytesN 32 → Option Bool
  methodologyEnabled : MethodologyKind → Option Bool

instance : RoleStorage State where
  roles state := state.roles
  setRoles roles state := { state with roles }

@[simp]
theorem roleStorage_roles (state : State) :
    RoleStorage.roles state = state.roles :=
  rfl

@[simp]
theorem roleStorage_setRoles (roles : Roles) (state : State) :
    RoleStorage.setRoles roles state = { state with roles } :=
  rfl

/-- `__constructor`. -/
def constructor (settlementAdapter policyManager admin : Address) :
    State where
  roles := (Roles.grant (fun _ _ => false) .admin admin).grant .upgrader admin
  settlementAdapter := some settlementAdapter
  policyManager := some policyManager
  authorizedSigner := none
  networkDomain := none
  paused := some false
  reports _ := none
  policyPaid _ := none
  consumedDetermination _ := none
  methodologyEnabled _ := none

namespace State

/-! ## Views -/

def isPaused (state : State) : Bool :=
  state.paused.getD false

def isMethodologyEnabled (state : State) (kind : MethodologyKind) : Bool :=
  (state.methodologyEnabled kind).getD false

def isPolicyPaid (state : State) (policyId : Nat) : Bool :=
  (state.policyPaid policyId).getD false

/-! ## Writes -/

/-- The consumed marker, the paid flag and the report of a verified
determination. -/
@[simps]
def recordVerified (state : State) (report : DamageReport)
    (preimageHash : BytesN 32) : State :=
  { state with
    consumedDetermination := Function.update state.consumedDetermination
      preimageHash (some true)
    policyPaid := Function.update state.policyPaid report.policyId (some true)
    reports := Function.update state.reports report.policyId (some report) }

/-- The host drops an expired temporary marker. -/
@[simps]
def expireMarker (state : State) (preimageHash : BytesN 32) : State :=
  { state with
    consumedDetermination :=
      Function.update state.consumedDetermination preimageHash none }

end State

/-! ## Administration -/

def setAuthorizedSigner (env : Env) (caller : Address) (pubkey : BytesN 65) :
    Contract State Unit := do
  requireRole env caller .admin
  modify fun state => { state with authorizedSigner := some pubkey }
  publish (.authorizedSignerUpdated pubkey)

def setNetworkDomain (env : Env) (caller : Address) (domain : BytesN 32) :
    Contract State Unit := do
  requireRole env caller .admin
  modify fun state => { state with networkDomain := some domain }

def grantRole (env : Env) (caller : Address) (role : Role) (who : Address) :
    Contract State Unit := do
  requireRole env caller .admin
  Microcrop.grantRole role who

def revokeRole (env : Env) (caller : Address) (role : Role) (who : Address) :
    Contract State Unit := do
  requireRole env caller .admin
  Microcrop.revokeRole role who

def pause (env : Env) (caller : Address) : Contract State Unit := do
  requireRole env caller .admin
  modify fun state => { state with paused := some true }

def unpause (env : Env) (caller : Address) : Contract State Unit := do
  requireRole env caller .admin
  modify fun state => { state with paused := some false }

def setMethodologyEnabled (env : Env) (caller : Address)
    (kind : MethodologyKind) (enabled : Bool) : Contract State Unit := do
  requireRole env caller .admin
  modify fun state =>
    { state with
      methodologyEnabled :=
        Function.update state.methodologyEnabled kind (some enabled) }
  publish (.methodologyEnabledSet kind enabled)

/-! ## Checks of a submission -/

/-- Relayer role, not paused, signer configured, methodology enabled. -/
def beginSubmission (env : Env) (caller : Address) (kind : MethodologyKind) :
    Contract State (BytesN 65) := do
  requireRole env caller .relayer
  let paused ← read State.isPaused
  panicIf (paused = true) (.paused .contractPaused)
  let configured ← read State.authorizedSigner
  let signer ← unwrapOr configured (.payout .signerNotConfigured)
  let enabled ← read fun state => state.isMethodologyEnabled kind
  panicIf (enabled ≠ true) (.payout .methodologyDisabled)
  pure signer

/-- The SettlementAdapter and PolicyManager addresses. -/
def siblings : Contract State (Address × Address) := do
  let storedAdapter ← read State.settlementAdapter
  let adapter ← unwrapOr storedAdapter (.common .notConfigured)
  let storedManager ← read State.policyManager
  let policyManager ← unwrapOr storedManager (.common .notConfigured)
  pure (adapter, policyManager)

def networkDomain : Contract State (BytesN 32) := do
  let stored ← read State.networkDomain
  unwrapOr stored (.common .notConfigured)

section Checks

variable {σ : Type}

/-- Whether a signed coordinate is off the plot's, with checked arithmetic. -/
def coordinateOff (signed insured : Int) : Bool :=
  let difference := signed - insured
  let distance : Int := difference.natAbs
  if FitsI128 difference ∧ FitsI128 distance then
    plotCoordToleranceE6 < distance
  else true

def requirePlot (policy : Policy) (latE6 lonE6 : Int) : Contract σ Unit :=
  panicIf (coordinateOff latE6 policy.latE6 = true ∨
      coordinateOff lonE6 policy.lonE6 = true)
    (.payout .plotLocationMismatch)

def requirePayout (policy : Policy) (bp : Nat) (payout : Int) :
    Contract σ Unit := do
  let product ← mulI128 policy.sumInsured bp
  panicIf (payout ≠ product.tdiv basisPoints)
    (.payout .invalidPayoutCalculation)

/-- The weighted damage in basis points: satellite only, or 60 to 40. -/
def expectedBp (d : CropDetermination) : Contract σ Nat :=
  if d.weatherPresent.val = 0 then
    mulUnsigned 32 d.satelliteDamage.val weightDenominator
  else do
    let weather ← mulUnsigned 32 weatherWeight d.weatherDamage.val
    let satellite ← mulUnsigned 32 satelliteWeight d.satelliteDamage.val
    addUnsigned 32 weather satellite

/-- Bounds, consistency, weighted invariant and threshold of a CROP_DAMAGE
determination. -/
def requireCropEvidence (d : CropDetermination) : Contract σ Unit := do
  panicIf (d.damagePercentBp.val > maxDamagePercentage)
    (.payout .damageExceedsMaximum)
  panicIf (d.weatherDamage.val > 100 ∨ d.satelliteDamage.val > 100)
    (.payout .subScoreOutOfRange)
  panicIf (d.weatherPresent.val > 1) (.payout .invalidWeatherFlag)
  panicIf (d.weatherPresent.val = 0 ∧ d.weatherDamage.val ≠ 0)
    (.payout .weatherFlagDamageMismatch)
  let expected ← expectedBp d
  panicIf (expected ≠ d.damagePercentBp.val)
    (.payout .invalidWeightedDamage)
  panicIf (d.damagePercentBp.val < minDamageThreshold)
    (.payout .damageBelowThreshold)

/-- Bounds, unit invariant, recomputed index and threshold of a CROP_DROUGHT
determination. -/
def requireDroughtEvidence (d : DroughtDetermination) : Contract σ Unit := do
  panicIf (d.damagePercentBp.val > maxDamagePercentage)
    (.payout .damageExceedsMaximum)
  panicIf (d.droughtDamage.val > 100) (.payout .droughtScoreOutOfRange)
  panicIf (d.lgpDays.val ≠ Drought.lgpDays ∨
      d.cddW2Days.val > Drought.maxCddW2Days ∨
      d.rainRefW1E2.val = 0 ∨ d.rainRefW2E2.val = 0 ∨
      d.rainW1E2.val > Drought.maxRainE2 ∨
      d.rainRefW1E2.val > Drought.maxRainE2 ∨
      d.rainW2E2.val > Drought.maxRainE2 ∨
      d.rainRefW2E2.val > Drought.maxRainE2 ∨
      d.seasonStartEpoch.val % Drought.secondsPerDay ≠ 0 ∨
      d.methodologyParamsHash ≠ Encoding.droughtParamsHashRdi10)
    (.payout .droughtEvidenceInvalid)
  let bp ← mulUnsigned 32 d.droughtDamage.val 100
  panicIf (d.damagePercentBp.val ≠ bp) (.payout .invalidDroughtDamage)
  let recomputed ← Drought.rdiV1DroughtDamage d.rainW1E2.val
    d.rainRefW1E2.val d.rainW2E2.val d.rainRefW2E2.val
  panicIf (recomputed ≠ some d.droughtDamage.val)
    (.payout .invalidDroughtDamage)
  panicIf (d.damagePercentBp.val < minDamageThreshold)
    (.payout .damageBelowThreshold)

/-- The measured season lies inside the cover and was over when assessed. -/
def requireCoverWindow (policy : Policy) (d : DroughtDetermination) :
    Contract σ Unit := do
  let startDay ← subUnsigned policy.startDate
    (policy.startDate % Drought.secondsPerDay)
  let windowEnd := d.seasonStartEpoch.val + Drought.seasonWindowSecs
  panicIf (2 ^ 64 ≤ windowEnd) (.payout .evidenceOutsideCoverWindow)
  panicIf (d.seasonStartEpoch.val < startDay ∨ windowEnd > policy.endDate)
    (.payout .evidenceOutsideCoverWindow)
  panicIf (d.assessedAt.val < windowEnd) (.payout .seasonNotComplete)

end Checks

/-- The digest was not consumed and recovers to the authorized signer. -/
def requireUnconsumedAndSigned (crypto : Crypto) (digest : BytesN 32)
    (signature : BytesN 64) (recoveryId : U32)
    (authorizedSigner : BytesN 65) : Contract State Unit := do
  let consumed ← read fun state =>
    (state.consumedDetermination digest).isSome
  panicIf (consumed = true) (.payout .determinationAlreadyConsumed)
  let recovered ← unwrapOr
    (crypto.secp256k1Recover digest signature recoveryId) (.host .crypto)
  panicIf (recovered ≠ authorizedSigner) (.payout .invalidSignature)

section Clients

variable {Ω : Type} (crypto : Crypto) (pm : Env → PolicyManagerClient Ω)
  (adapters : Env → SettlementAdapterClient Ω)

/-- An adapter's answer names `this` as its PayoutReceiver; a failed call
counts as a wrong answer. -/
def requireBound {σ : Type} (this : Address) :
    Except Error (Option Address) → Contract σ Unit
  | .ok bound =>
      panicIf (bound ≠ some this) (.payout .settlementAdapterNotBound)
  | .error _ => .fail (.payout .settlementAdapterNotBound)

/-- Replace the SettlementAdapter; the new one must already name this
contract as its PayoutReceiver. -/
def setSettlementAdapter (env : Env) (caller adapter : Address) :
    Contract (State × Ω) Unit := do
  internal (requireRole env caller .admin)
  panicIf (adapter = env.currentContract) (.payout .settlementAdapterNotBound)
  let answer ← attempt (external (adapters (env.invoke adapter)).payoutReceiver)
  requireBound env.currentContract answer
  let stored ← internal (read State.settlementAdapter)
  let previous ← unwrapOr stored (.common .notConfigured)
  internal (modify fun state =>
    { state with settlementAdapter := some adapter })
  publish (.settlementAdapterUpdated previous adapter)

/-- The policy exists, is ACTIVE, within its cover and unpaid. -/
def openPolicy (env : Env) (policyManager : Address) (policyId : Nat) :
    Contract (State × Ω) Policy := do
  let client := pm (env.invoke policyManager)
  let policyExists ← external (client.policyExists policyId)
  panicIf (policyExists ≠ true) (.payout .policyDoesNotExist)
  let policy ← external (client.getPolicy policyId)
  panicIf (policy.status ≠ .active) (.payout .policyNotActive)
  panicIf (env.timestamp > policy.endDate) (.payout .policyExpired)
  let paid ← internal (read fun state => state.isPolicyPaid policyId)
  panicIf (paid = true) (.payout .policyAlreadyPaid)
  pure policy

/-- Freshness of the report and the farmer's claim limit. -/
def requireFreshAndClaimable (env : Env) (policyManager : Address)
    (policy : Policy) (assessedAt : Nat) : Contract (State × Ω) Unit := do
  panicIf (assessedAt > env.timestamp) (.payout .reportInFuture)
  panicIf (env.timestamp > saturatingAddU64 assessedAt maxReportAge)
    (.payout .reportTooOld)
  let claimable ← external
    ((pm (env.invoke policyManager)).canFarmerClaim policy.farmer)
  panicIf (claimable ≠ true) (.payout .farmerClaimLimitExceeded)

/-- Effects, then interactions: the markers, the recorded obligation with its
returned fields checked, and the two calls to PolicyManager. -/
def settleVerified (env : Env) (policyManager adapter : Address)
    (policy : Policy) (report : DamageReport) (preimageHash : BytesN 32) :
    Contract (State × Ω) Unit := do
  internal (modify fun state => state.recordVerified report preimageHash)
  let this := env.currentContract
  let obligation ← external
    ((adapters (env.invoke adapter)).recordObligation this report.policyId
      policy.org report.payoutAmount preimageHash)
  panicIf (obligation.payoutReceiver ≠ this ∨
      obligation.policyId ≠ report.policyId ∨
      obligation.org ≠ policy.org ∨
      obligation.amount ≠ report.payoutAmount ∨
      obligation.determinationDigest ≠ preimageHash ∨
      obligation.status ≠ .owed)
    (.payout .obligationNotRecorded)
  external ((pm (env.invoke policyManager)).markAsClaimed this
    report.policyId)
  external ((pm (env.invoke policyManager)).incrementClaimCount this
    policy.farmer)
  publish (.determinationVerified report.policyId preimageHash)
  publish (.damageReportReceived report.policyId policy.farmer
    report.damagePercentage report.payoutAmount)
  publish (.obligationRequested report.policyId obligation.id adapter
    report.payoutAmount)

/-- The retired CROP_DAMAGE path. -/
def submitDetermination (env : Env) (caller : Address)
    (d : CropDetermination) (signature : BytesN 64) (recoveryId : U32) :
    Contract (State × Ω) Unit := do
  let authorizedSigner ← internal
    (beginSubmission env caller .cropDualIndex10)
  requireCropEvidence d
  let (adapter, policyManager) ← internal siblings
  let policy ← openPolicy pm env policyManager d.onChainPolicyId.val
  panicIf (d.sumInsured.val ≠ policy.sumInsured)
    (.payout .sumInsuredMismatch)
  panicIf (policy.coverageType ≠ .comprehensive)
    (.payout .coverageNotSettledByMethodology)
  requirePlot policy d.latitudeE6.val d.longitudeE6.val
  requirePayout policy d.damagePercentBp.val d.payoutAmount.val
  requireFreshAndClaimable pm env policyManager policy d.assessedAt.val
  let domain ← internal networkDomain
  let digest := Encoding.determinationDigest crypto d env.currentContract
    domain
  internal (requireUnconsumedAndSigned crypto digest signature recoveryId
    authorizedSigner)
  settleVerified pm adapters env policyManager adapter policy
    { policyId := d.onChainPolicyId.val
      damagePercentage := d.damagePercentBp.val
      weatherDamage := d.weatherDamage.val
      satelliteDamage := d.satelliteDamage.val
      payoutAmount := d.payoutAmount.val
      assessedAt := d.assessedAt.val } digest

/-- The CROP_DROUGHT path. -/
def submitDroughtDetermination (env : Env) (caller : Address)
    (d : DroughtDetermination) (signature : BytesN 64) (recoveryId : U32) :
    Contract (State × Ω) Unit := do
  let authorizedSigner ← internal
    (beginSubmission env caller .cropDroughtRdi10)
  requireDroughtEvidence d
  let (adapter, policyManager) ← internal siblings
  let policy ← openPolicy pm env policyManager d.onChainPolicyId.val
  panicIf (policy.coverageType ≠ .drought)
    (.payout .coverageNotSettledByMethodology)
  panicIf (d.sumInsured.val ≠ policy.sumInsured)
    (.payout .sumInsuredMismatch)
  requirePlot policy d.latitudeE6.val d.longitudeE6.val
  requireCoverWindow policy d
  requirePayout policy d.damagePercentBp.val d.payoutAmount.val
  requireFreshAndClaimable pm env policyManager policy d.assessedAt.val
  let domain ← internal networkDomain
  let digest := Encoding.droughtDeterminationDigest crypto d
    env.currentContract domain
  internal (requireUnconsumedAndSigned crypto digest signature recoveryId
    authorizedSigner)
  publish (.droughtEvidenceRecorded d.onChainPolicyId.val d.droughtDamage.val
    d.seasonStartEpoch.val d.sourceHash)
  settleVerified pm adapters env policyManager adapter policy
    { policyId := d.onChainPolicyId.val
      damagePercentage := d.damagePercentBp.val
      weatherDamage := 0
      satelliteDamage := 0
      payoutAmount := d.payoutAmount.val
      assessedAt := d.assessedAt.val } digest

end Clients

/-! ## Entrypoints -/

/-- The state-changing entrypoints with their arguments. -/
inductive Call
  | setAuthorizedSigner (caller : Address) (pubkey : BytesN 65)
  | setNetworkDomain (caller : Address) (domain : BytesN 32)
  | setSettlementAdapter (caller adapter : Address)
  | grantRole (caller : Address) (role : Role) (who : Address)
  | revokeRole (caller : Address) (role : Role) (who : Address)
  | pause (caller : Address)
  | unpause (caller : Address)
  | setMethodologyEnabled (caller : Address) (kind : MethodologyKind)
      (enabled : Bool)
  | submitDetermination (caller : Address) (d : CropDetermination)
      (signature : BytesN 64) (recoveryId : U32)
  | submitDroughtDetermination (caller : Address) (d : DroughtDetermination)
      (signature : BytesN 64) (recoveryId : U32)

/-- Run an entrypoint. -/
def exec {Ω : Type} (crypto : Crypto) (pm : Env → PolicyManagerClient Ω)
    (adapters : Env → SettlementAdapterClient Ω) (env : Env) :
    Call → Contract (State × Ω) Unit
  | .setAuthorizedSigner caller pubkey =>
      internal (setAuthorizedSigner env caller pubkey)
  | .setNetworkDomain caller domain =>
      internal (setNetworkDomain env caller domain)
  | .setSettlementAdapter caller adapter =>
      setSettlementAdapter adapters env caller adapter
  | .grantRole caller role who => internal (grantRole env caller role who)
  | .revokeRole caller role who => internal (revokeRole env caller role who)
  | .pause caller => internal (pause env caller)
  | .unpause caller => internal (unpause env caller)
  | .setMethodologyEnabled caller kind enabled =>
      internal (setMethodologyEnabled env caller kind enabled)
  | .submitDetermination caller d signature recoveryId =>
      submitDetermination crypto pm adapters env caller d signature recoveryId
  | .submitDroughtDetermination caller d signature recoveryId =>
      submitDroughtDetermination crypto pm adapters env caller d signature
        recoveryId

end PayoutReceiver

end Microcrop
