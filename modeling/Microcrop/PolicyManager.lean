import Mathlib.Logic.Function.Basic
import Mathlib.Tactic.Simps.Basic
import Microcrop.Interfaces

/-!
# PolicyManager

The policy registry of `crates/policy-manager`.  Every entrypoint follows the
source statement by statement; storage TTLs are not part of the state.  The
certificate contract is reached through a client parameter, and its state `Ω`
is threaded next to PolicyManager's own.
-/

namespace Microcrop

namespace PolicyManager

open Transaction

def minSumInsured : Int := 1000000000

def maxSumInsured : Int := 10000000000000

def minDurationDays : Nat := 30

/-- The shortest Drought cover that can ever pay. -/
def minDroughtDurationDays : Nat := 117

def maxDurationDays : Nat := 365

/-- Cap on a farmer's open policies plus claims in the rolling window. -/
def maxActivePoliciesPerFarmer : Nat := 3

def maxClaimsPerFarmerPerYear : Nat := 3

def secondsPerDay : Nat := 86400

def maxLatE6 : Int := 90000000

def maxLonE6 : Int := 180000000

/-- A claim counts against the cap until it is exactly this old. -/
def claimWindowSecs : Nat := 365 * secondsPerDay

/-- Storage of PolicyManager, one field for each `DataKey`. -/
structure State where
  roles : Roles
  policyNft : Option Address
  policyCounter : Option Nat
  policies : Nat → Option Policy
  farmerPolicyCounts : Address → Option Nat
  farmerPolicyAt : Address → Nat → Option Nat
  farmerActiveCounts : Address → Option Nat
  farmerPendingCounts : Address → Option Nat
  farmerClaimTimes : Address → Option (List Nat)
  pendingCounted : Nat → Option Bool
  orgOutstandings : Address → Option Int

instance : RoleStorage State where
  roles state := state.roles
  setRoles roles state := { state with roles }

@[simp]
theorem roleStorage_roles (state : State) :
    RoleStorage.roles state = state.roles :=
  rfl

@[simp]
theorem roleStorage_setRoles (roles : Roles) (state : State) :
    RoleStorage.setRoles roles state = { state with roles } :=
  rfl

/-- `__constructor`. -/
def constructor (admin : Address) : State where
  roles := (Roles.grant (fun _ _ => false) .admin admin).grant .upgrader admin
  policyNft := none
  policyCounter := some 0
  policies _ := none
  farmerPolicyCounts _ := none
  farmerPolicyAt _ _ := none
  farmerActiveCounts _ := none
  farmerPendingCounts _ := none
  farmerClaimTimes _ := none
  pendingCounted _ := none
  orgOutstandings _ := none

namespace State

/-! ## Views -/

def getTotalPolicies (state : State) : Nat :=
  state.policyCounter.getD 0

def farmerPolicyCount (state : State) (farmer : Address) : Nat :=
  (state.farmerPolicyCounts farmer).getD 0

def farmerActiveCount (state : State) (farmer : Address) : Nat :=
  (state.farmerActiveCounts farmer).getD 0

def farmerPendingCount (state : State) (farmer : Address) : Nat :=
  (state.farmerPendingCounts farmer).getD 0

def claimTimes (state : State) (farmer : Address) : List Nat :=
  (state.farmerClaimTimes farmer).getD []

/-- Claims younger than the window. -/
def claimsInWindow (state : State) (now : Nat) (farmer : Address) : Nat :=
  (state.claimTimes farmer).countP fun time =>
    now < saturatingAddU64 time claimWindowSecs

def canFarmerClaim (state : State) (now : Nat) (farmer : Address) : Bool :=
  state.claimsInWindow now farmer < maxClaimsPerFarmerPerYear

def orgOutstanding (state : State) (org : Address) : Int :=
  (state.orgOutstandings org).getD 0

def isPendingCounted (state : State) (policyId : Nat) : Bool :=
  (state.pendingCounted policyId).getD false

def policyExists (state : State) (policyId : Nat) : Bool :=
  (state.policies policyId).isSome

/-! ## Writes -/

@[simps]
def savePolicy (state : State) (policy : Policy) : State :=
  { state with
    policies := Function.update state.policies policy.id (some policy) }

@[simps]
def setFarmerActiveCount (state : State) (farmer : Address) (count : Nat) :
    State :=
  { state with
    farmerActiveCounts :=
      Function.update state.farmerActiveCounts farmer (some count) }

@[simps]
def setFarmerPendingCount (state : State) (farmer : Address) (count : Nat) :
    State :=
  { state with
    farmerPendingCounts :=
      Function.update state.farmerPendingCounts farmer (some count) }

@[simps]
def setOrgOutstanding (state : State) (org : Address) (amount : Int) :
    State :=
  { state with
    orgOutstandings :=
      Function.update state.orgOutstandings org (some amount) }

@[simps]
def setPendingCounted (state : State) (policyId : Nat)
    (counted : Option Bool) : State :=
  { state with
    pendingCounted := Function.update state.pendingCounted policyId counted }

/-- Append a policy to its farmer's index. -/
@[simps]
def appendFarmerPolicy (state : State) (farmer : Address)
    (index policyId : Nat) : State :=
  { state with
    farmerPolicyAt := Function.update state.farmerPolicyAt farmer
      (Function.update (state.farmerPolicyAt farmer) index (some policyId))
    farmerPolicyCounts :=
      Function.update state.farmerPolicyCounts farmer (some (index + 1)) }

/-- Decrement the farmer's ACTIVE count, guarding underflow. -/
def decrementActive (state : State) (farmer : Address) : State :=
  let count := state.farmerActiveCount farmer
  if 0 < count then state.setFarmerActiveCount farmer (count - 1) else state

/-- Release a PENDING policy's slot, only if `create_policy` counted it. -/
def releasePendingSlot (state : State) (policyId : Nat) (farmer : Address) :
    State :=
  if state.isPendingCounted policyId then
    let unmarked := state.setPendingCounted policyId none
    let pending := unmarked.farmerPendingCount farmer
    if 0 < pending then
      unmarked.setFarmerPendingCount farmer (pending - 1)
    else unmarked
  else state

/-- Release an org's outstanding exposure, saturating at zero.  The difference
needs no check: `releaseOrgExposure_fits`. -/
def releaseOrgExposure (state : State) (org : Address) (sumInsured : Int) :
    State :=
  let outstanding := state.orgOutstanding org
  state.setOrgOutstanding org
    (if sumInsured < outstanding then outstanding - sumInsured else 0)

/-- The claim times after a claim at `now`: the newest three. -/
@[simps]
def pushClaimTime (state : State) (farmer : Address) (now : Nat) : State :=
  let times := state.claimTimes farmer ++ [now]
  { state with
    farmerClaimTimes := Function.update state.farmerClaimTimes farmer
      (some (times.drop (times.length - maxClaimsPerFarmerPerYear))) }

end State

/-! ## Administration -/

def setPolicyNft (env : Env) (caller policyNft : Address) :
    Contract State Unit := do
  requireRole env caller .admin
  modify fun state => { state with policyNft := some policyNft }
  publish (.policyNftSet policyNft)

def grantRole (env : Env) (caller : Address) (role : Role) (who : Address) :
    Contract State Unit := do
  requireRole env caller .admin
  Microcrop.grantRole role who

def revokeRole (env : Env) (caller : Address) (role : Role) (who : Address) :
    Contract State Unit := do
  requireRole env caller .admin
  Microcrop.revokeRole role who

/-! ## Policies -/

def loadPolicy (policyId : Nat) : Contract State Policy := do
  let stored ← read fun state => state.policies policyId
  unwrapOr stored (.policy .policyDoesNotExist)

/-- The insured-cover checks of `create_policy`. -/
def validateCover (latE6 lonE6 sumInsured premium : Int) (durationDays : Nat)
    (coverageType : CoverageType) : Contract State Unit := do
  panicIf (sumInsured < minSumInsured) (.policy .sumInsuredTooLow)
  panicIf (sumInsured > maxSumInsured) (.policy .sumInsuredTooHigh)
  panicIf (premium ≤ 0) (.policy .zeroPremium)
  panicIf (¬ (minDurationDays ≤ durationDays ∧ durationDays ≤ maxDurationDays))
    (.policy .invalidDuration)
  panicIf (¬ (-maxLatE6 ≤ latE6 ∧ latE6 ≤ maxLatE6) ∨
      ¬ (-maxLonE6 ≤ lonE6 ∧ lonE6 ≤ maxLonE6))
    (.policy .invalidCoordinates)
  panicIf (coverageType ≠ .drought) (.policy .coverageNotOffered)
  panicIf (durationDays < minDroughtDurationDays) (.policy .invalidDuration)

def createPolicy (env : Env) (caller farmer : Address) (plotId : Nat)
    (latE6 lonE6 sumInsured premium : Int) (durationDays : Nat)
    (coverageType : CoverageType) (org : Address) : Contract State Nat := do
  requireRole env caller .backend
  validateCover latE6 lonE6 sumInsured premium durationDays coverageType
  let active ← read fun state => state.farmerActiveCount farmer
  let pending ← read fun state => state.farmerPendingCount farmer
  let currentOpen ← addUnsigned 32 active pending
  let recentClaims ← read fun state =>
    state.claimsInWindow env.timestamp farmer
  let counted ← addUnsigned 32 currentOpen recentClaims
  panicIf (counted ≥ maxActivePoliciesPerFarmer)
    (.policy .tooManyActivePolicies)
  let counter ← read State.getTotalPolicies
  let policyId ← addUnsigned 64 counter 1
  modify fun state => { state with policyCounter := some policyId }
  let startDate := env.timestamp
  let endDate ← addUnsigned 64 startDate (durationDays * secondsPerDay)
  modify fun state => state.savePolicy
    { id := policyId, farmer, plotId, latE6, lonE6, sumInsured, premium,
      startDate, endDate, coverageType, status := .pending,
      createdAt := startDate, org }
  let index ← read fun state => state.farmerPolicyCount farmer
  let _ ← addUnsigned 32 index 1
  modify fun state => state.appendFarmerPolicy farmer index policyId
  let outstanding ← read fun state => state.orgOutstanding org
  let exposure ← addI128 outstanding sumInsured
  modify fun state => state.setOrgOutstanding org exposure
  let pendingBefore ← read fun state => state.farmerPendingCount farmer
  let pendingAfter ← addUnsigned 32 pendingBefore 1
  modify fun state => state.setFarmerPendingCount farmer pendingAfter
  modify fun state => state.setPendingCounted policyId (some true)
  publish (.policyCreated policyId farmer plotId sumInsured premium startDate
    endDate coverageType)
  pure policyId

section Certificates

variable {Ω : Type} (nft : Env → PolicyNftClient Ω)

/-- Best-effort certificate deactivation: a refused status update is
swallowed and surfaced as an event, unless the error is fatal.  The existence
query is not fallible. -/
def deactivatePolicyNft (env : Env) (policyId : Nat) :
    Contract (State × Ω) Unit := do
  let policyNft ← internal (read State.policyNft)
  match policyNft with
  | some address =>
      let client := nft (env.invoke address)
      let minted ← external (client.policyNftExists policyId)
      if minted then
        let result ← attempt (external (client.updatePolicyStatus
          env.currentContract policyId false))
        match result with
        | .error _ => publish (.policyNftUpdateSkipped policyId)
        | .ok _ => pure ()
      else publish (.policyNftUpdateSkipped policyId)
  | none => publish (.policyNftUpdateSkipped policyId)

def activatePolicy (env : Env) (caller : Address) (policyId : Nat)
    (distributor : Address) (distributorName region : String) :
    Contract (State × Ω) Unit := do
  internal (requireRole env caller .backend)
  let wired ← internal (read State.policyNft)
  let policyNft ← unwrapOr wired (.policy .policyNftNotSet)
  let policy ← internal (loadPolicy policyId)
  panicIf (policy.status ≠ .pending) (.policy .invalidPolicyStatus)
  panicIf (env.timestamp > policy.endDate) (.policy .policyExpired)
  let currentActive ← internal (read fun state =>
    state.farmerActiveCount policy.farmer)
  panicIf (currentActive ≥ maxActivePoliciesPerFarmer)
    (.policy .tooManyActivePolicies)
  let duration ← subUnsigned policy.endDate policy.startDate
  let endDate ← addUnsigned 64 env.timestamp duration
  let activated := { policy with
    status := .active, startDate := env.timestamp, endDate }
  internal (modify fun state => state.savePolicy activated)
  let activeAfter ← addUnsigned 32 currentActive 1
  internal (modify fun state =>
    state.setFarmerActiveCount activated.farmer activeAfter)
  internal (modify fun state =>
    state.releasePendingSlot policyId activated.farmer)
  let _ ← external ((nft (env.invoke policyNft)).mintPolicy
    env.currentContract activated.farmer policyId distributor distributorName
    activated.sumInsured activated.premium activated.startDate
    activated.endDate activated.coverageType region activated.plotId)
  publish (.policyActivated policyId env.timestamp)

def markAsClaimed (env : Env) (caller : Address) (policyId : Nat) :
    Contract (State × Ω) Unit := do
  internal (requireRole env caller .oracle)
  let policy ← internal (loadPolicy policyId)
  panicIf (policy.status ≠ .active) (.policy .invalidPolicyStatus)
  panicIf (env.timestamp > policy.endDate) (.policy .policyExpired)
  let claimed := { policy with status := .claimed }
  internal (modify fun state => state.savePolicy claimed)
  internal (modify fun state => state.decrementActive claimed.farmer)
  internal (modify fun state =>
    state.releaseOrgExposure claimed.org claimed.sumInsured)
  deactivatePolicyNft nft env policyId
  publish (.policyClaimed policyId env.timestamp)

/-- The branch that `cancel_policy` and `expire_policy` share: an ACTIVE policy
gives up its slot and its certificate, a PENDING one its reserved slot. -/
def releaseSlot (env : Env) (policyId : Nat) (policy : Policy) :
    Contract (State × Ω) Unit :=
  if policy.status = .active then do
    internal (modify fun state => state.decrementActive policy.farmer)
    deactivatePolicyNft nft env policyId
  else
    internal (modify fun state =>
      state.releasePendingSlot policyId policy.farmer)

def cancelPolicy (env : Env) (caller : Address) (policyId : Nat) :
    Contract (State × Ω) Unit := do
  internal (requireAuth env caller)
  let isAdmin ← internal (hasRole .admin caller)
  let isBackend ← internal (hasRole .backend caller)
  panicIf (¬ isAdmin ∧ ¬ isBackend) (.common .unauthorized)
  let policy ← internal (loadPolicy policyId)
  panicIf (policy.status ≠ .pending ∧ policy.status ≠ .active)
    (.policy .invalidPolicyStatus)
  panicIf (policy.status = .active ∧ ¬ isAdmin)
    (.policy .cancelActiveRequiresAdmin)
  internal (modify fun state =>
    state.releaseOrgExposure policy.org policy.sumInsured)
  releaseSlot nft env policyId policy
  internal (modify fun state =>
    state.savePolicy { policy with status := .cancelled })
  publish (.policyCancelled policyId env.timestamp)

def expirePolicy (env : Env) (policyId : Nat) :
    Contract (State × Ω) Unit := do
  let policy ← internal (loadPolicy policyId)
  if policy.status = .expired then
    pure ()
  else
    panicIf (policy.status ≠ .active ∧ policy.status ≠ .pending)
      (.policy .invalidPolicyStatus)
    panicIf (env.timestamp ≤ policy.endDate) (.policy .policyNotYetExpired)
    releaseSlot nft env policyId policy
    internal (modify fun state =>
      state.releaseOrgExposure policy.org policy.sumInsured)
    internal (modify fun state =>
      state.savePolicy { policy with status := .expired })
    publish (.policyExpired policyId env.timestamp)

end Certificates

/-- `increment_claim_count`: at most three claims for each farmer in any
rolling 365-day window. -/
def incrementClaimCount (env : Env) (caller farmer : Address) :
    Contract State Unit := do
  requireRole env caller .oracle
  let inWindow ← read fun state => state.claimsInWindow env.timestamp farmer
  panicIf (inWindow ≥ maxClaimsPerFarmerPerYear)
    (.policy .tooManyClaimsThisYear)
  modify fun state => state.pushClaimTime farmer env.timestamp
  publish (.claimCountIncremented farmer env.timestamp (inWindow + 1))

/-! ## Entrypoints -/

/-- The state-changing entrypoints with their arguments. -/
inductive Call
  | setPolicyNft (caller policyNft : Address)
  | grantRole (caller : Address) (role : Role) (who : Address)
  | revokeRole (caller : Address) (role : Role) (who : Address)
  | createPolicy (caller farmer : Address) (plotId : Nat)
      (latE6 lonE6 sumInsured premium : Int) (durationDays : Nat)
      (coverageType : CoverageType) (org : Address)
  | activatePolicy (caller : Address) (policyId : Nat) (distributor : Address)
      (distributorName region : String)
  | markAsClaimed (caller : Address) (policyId : Nat)
  | incrementClaimCount (caller farmer : Address)
  | cancelPolicy (caller : Address) (policyId : Nat)
  | expirePolicy (policyId : Nat)

/-- Run an entrypoint, dropping its return value. -/
def exec {Ω : Type} (nft : Env → PolicyNftClient Ω) (env : Env) :
    Call → Contract (State × Ω) Unit
  | .setPolicyNft caller policyNft =>
      internal (setPolicyNft env caller policyNft)
  | .grantRole caller role who => internal (grantRole env caller role who)
  | .revokeRole caller role who => internal (revokeRole env caller role who)
  | .createPolicy caller farmer plotId latE6 lonE6 sumInsured premium
      durationDays coverageType org => do
      let _ ← internal (createPolicy env caller farmer plotId latE6 lonE6
        sumInsured premium durationDays coverageType org)
      pure ()
  | .activatePolicy caller policyId distributor distributorName region =>
      activatePolicy nft env caller policyId distributor distributorName region
  | .markAsClaimed caller policyId => markAsClaimed nft env caller policyId
  | .incrementClaimCount caller farmer =>
      internal (incrementClaimCount env caller farmer)
  | .cancelPolicy caller policyId => cancelPolicy nft env caller policyId
  | .expirePolicy policyId => expirePolicy nft env policyId

/-- One call to PolicyManager, with the certificate contract and the rest of
the ledger as they answer it. -/
structure Input (Ω : Type) where
  env : Env
  nft : Env → PolicyNftClient Ω
  outside : Ω
  call : Call

/-- Whether the call is accepted. -/
def accepts {Ω : Type} (state : State) (input : Input Ω) : Bool :=
  (exec input.nft input.env input.call).committed (state, input.outside)

/-- The state after one call; a refused call leaves it unchanged. -/
def apply {Ω : Type} (state : State) (input : Input Ω) : State :=
  ((exec input.nft input.env input.call).advance (state, input.outside)).1

end PolicyManager

end Microcrop
