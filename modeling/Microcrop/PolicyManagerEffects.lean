import Microcrop.KeyedStoreWrites
import Microcrop.PolicyManager

/-!
# What a PolicyManager call can do

One characterization for every entrypoint of PolicyManager, and from them the
inversion of a committed call: `Effect` lists, with all guards, the states
that a call can leave.  Later files reason about `Effect` and never unfold an
entrypoint again.
-/

namespace Microcrop

namespace PolicyManager

open Transaction

/-! ## Reading what was written -/

namespace State

variable (state : State)

/-- Only the ACTIVE counts change. -/
theorem decrementActive_frame (farmer : Address) :
    state.decrementActive farmer =
      { state with
        farmerActiveCounts :=
          (state.decrementActive farmer).farmerActiveCounts } := by
  unfold decrementActive
  dsimp only
  split <;> rfl

theorem decrementActive_farmerActiveCount (farmer other : Address) :
    (state.decrementActive farmer).farmerActiveCount other =
      if other = farmer then state.farmerActiveCount farmer - 1
      else state.farmerActiveCount other := by
  unfold decrementActive
  dsimp only
  split
  · exact KeyedStore.getD_update state.farmerActiveCounts farmer other _ 0
  · rename_i empty
    split
    · rename_i same
      rw [same]
      omega
    · rfl

/-- Only the PENDING counts and marks change. -/
theorem releasePendingSlot_frame (policyId : Nat) (farmer : Address) :
    state.releasePendingSlot policyId farmer =
      { state with
        farmerPendingCounts :=
          (state.releasePendingSlot policyId farmer).farmerPendingCounts
        pendingCounted :=
          (state.releasePendingSlot policyId farmer).pendingCounted } := by
  unfold releasePendingSlot
  split
  · dsimp only
    split <;> rfl
  · rfl

theorem releasePendingSlot_farmerPendingCount {policyId : Nat}
    (counted : state.isPendingCounted policyId = true)
    (farmer other : Address) :
    (state.releasePendingSlot policyId farmer).farmerPendingCount other =
      if other = farmer then state.farmerPendingCount farmer - 1
      else state.farmerPendingCount other := by
  unfold releasePendingSlot
  rw [if_pos counted]
  dsimp only
  split
  · exact KeyedStore.getD_update state.farmerPendingCounts farmer other _ 0
  · rename_i empty
    change ¬ 0 < state.farmerPendingCount farmer at empty
    split
    · rename_i same
      rw [same]
      change state.farmerPendingCount farmer = _
      omega
    · rfl

theorem releasePendingSlot_pendingCounted {policyId : Nat}
    (counted : state.isPendingCounted policyId = true) (farmer : Address) :
    (state.releasePendingSlot policyId farmer).pendingCounted =
      Function.update state.pendingCounted policyId none := by
  unfold releasePendingSlot
  rw [if_pos counted]
  dsimp only
  split <;> rfl

theorem releaseOrgExposure_orgOutstanding (org other : Address)
    (sumInsured : Int) :
    (state.releaseOrgExposure org sumInsured).orgOutstanding other =
      if other = org then max (state.orgOutstanding org - sumInsured) 0
      else state.orgOutstanding other := by
  have written := KeyedStore.getD_update state.orgOutstandings org other
    (if sumInsured < state.orgOutstanding org then
      state.orgOutstanding org - sumInsured else 0) 0
  refine Eq.trans written ?_
  split
  · split <;> omega
  · rfl

@[simp]
theorem decrementActive_policies (farmer : Address) :
    (state.decrementActive farmer).policies = state.policies := by
  rw [decrementActive_frame]

@[simp]
theorem decrementActive_policyNft (farmer : Address) :
    (state.decrementActive farmer).policyNft = state.policyNft := by
  rw [decrementActive_frame]

@[simp]
theorem releaseOrgExposure_policyNft (org : Address) (sumInsured : Int) :
    (state.releaseOrgExposure org sumInsured).policyNft = state.policyNft :=
  rfl

theorem decrementActive_savePolicy (policy : Policy) (farmer : Address) :
    (state.savePolicy policy).decrementActive farmer =
      (state.decrementActive farmer).savePolicy policy := by
  unfold decrementActive
  simp only [apply_ite (fun current : State => current.savePolicy policy)]
  rfl

theorem releasePendingSlot_savePolicy (policy : Policy) (policyId : Nat)
    (farmer : Address) :
    (state.savePolicy policy).releasePendingSlot policyId farmer =
      (state.releasePendingSlot policyId farmer).savePolicy policy := by
  unfold releasePendingSlot
  simp only [apply_ite (fun current : State => current.savePolicy policy)]
  rfl

theorem releaseOrgExposure_savePolicy (policy : Policy) (org : Address)
    (sumInsured : Int) :
    (state.savePolicy policy).releaseOrgExposure org sumInsured =
      (state.releaseOrgExposure org sumInsured).savePolicy policy :=
  rfl

theorem releaseOrgExposure_decrementActive (farmer org : Address)
    (sumInsured : Int) :
    (state.decrementActive farmer).releaseOrgExposure org sumInsured =
      (state.releaseOrgExposure org sumInsured).decrementActive farmer := by
  unfold decrementActive
  simp only [apply_ite (fun current : State =>
    current.releaseOrgExposure org sumInsured)]
  rfl

theorem releaseOrgExposure_releasePendingSlot (policyId : Nat)
    (farmer org : Address) (sumInsured : Int) :
    (state.releasePendingSlot policyId farmer).releaseOrgExposure org
        sumInsured =
      (state.releaseOrgExposure org sumInsured).releasePendingSlot policyId
        farmer := by
  unfold releasePendingSlot
  simp only [apply_ite (fun current : State =>
    current.releaseOrgExposure org sumInsured)]
  rfl

/-! ## The states that calls leave -/

/-- A policy was sold. -/
def addPolicy (policy : Policy) : State :=
  (((({ state with policyCounter := some policy.id }.savePolicy
    policy).appendFarmerPolicy policy.farmer
      (state.farmerPolicyCount policy.farmer) policy.id).setOrgOutstanding
        policy.org (state.orgOutstanding policy.org +
          policy.sumInsured)).setFarmerPendingCount policy.farmer
            (state.farmerPendingCount policy.farmer + 1)).setPendingCounted
              policy.id (some true)

/-- A PENDING policy became `activated`. -/
def activate (policyId : Nat) (activated : Policy) : State :=
  ((state.savePolicy activated).setFarmerActiveCount activated.farmer
    (state.farmerActiveCount activated.farmer + 1)).releasePendingSlot
      policyId activated.farmer

/-- An ACTIVE policy was closed with `status`. -/
def closeActive (policy : Policy) (status : PolicyStatus) : State :=
  ((state.savePolicy { policy with status }).decrementActive
    policy.farmer).releaseOrgExposure policy.org policy.sumInsured

/-- A PENDING policy was closed with `status`. -/
def closePending (policyId : Nat) (policy : Policy) (status : PolicyStatus) :
    State :=
  ((state.savePolicy { policy with status }).releasePendingSlot policyId
    policy.farmer).releaseOrgExposure policy.org policy.sumInsured

theorem addPolicy_frame (policy : Policy) :
    state.addPolicy policy =
      { state with
        policyCounter := some policy.id
        policies := Function.update state.policies policy.id (some policy)
        farmerPolicyCounts := Function.update state.farmerPolicyCounts
          policy.farmer (some (state.farmerPolicyCount policy.farmer + 1))
        farmerPolicyAt := Function.update state.farmerPolicyAt policy.farmer
          (Function.update (state.farmerPolicyAt policy.farmer)
            (state.farmerPolicyCount policy.farmer) (some policy.id))
        farmerPendingCounts := Function.update state.farmerPendingCounts
          policy.farmer (some (state.farmerPendingCount policy.farmer + 1))
        pendingCounted :=
          Function.update state.pendingCounted policy.id (some true)
        orgOutstandings := Function.update state.orgOutstandings policy.org
          (some (state.orgOutstanding policy.org + policy.sumInsured)) } :=
  rfl

theorem activate_frame (policyId : Nat) (activated : Policy) :
    state.activate policyId activated =
      { state with
        policies :=
          Function.update state.policies activated.id (some activated)
        farmerActiveCounts := Function.update state.farmerActiveCounts
          activated.farmer
          (some (state.farmerActiveCount activated.farmer + 1))
        farmerPendingCounts := (state.releasePendingSlot policyId
          activated.farmer).farmerPendingCounts
        pendingCounted := (state.releasePendingSlot policyId
          activated.farmer).pendingCounted } := by
  have commuted : state.activate policyId activated =
      ((state.releasePendingSlot policyId
        activated.farmer).savePolicy activated).setFarmerActiveCount
          activated.farmer
          (state.farmerActiveCount activated.farmer + 1) := by
    unfold activate releasePendingSlot
    simp only [apply_ite (fun current : State =>
      (current.savePolicy activated).setFarmerActiveCount activated.farmer
        (state.farmerActiveCount activated.farmer + 1))]
    rfl
  rw [commuted, releasePendingSlot_frame]
  rfl

theorem closeActive_frame (policy : Policy) (status : PolicyStatus) :
    state.closeActive policy status =
      { state with
        policies := Function.update state.policies policy.id
          (some { policy with status })
        farmerActiveCounts :=
          (state.decrementActive policy.farmer).farmerActiveCounts
        orgOutstandings := (state.releaseOrgExposure policy.org
          policy.sumInsured).orgOutstandings } := by
  unfold closeActive
  rw [decrementActive_savePolicy, decrementActive_frame]
  rfl

theorem closePending_frame (policyId : Nat) (policy : Policy)
    (status : PolicyStatus) :
    state.closePending policyId policy status =
      { state with
        policies := Function.update state.policies policy.id
          (some { policy with status })
        farmerPendingCounts := (state.releasePendingSlot policyId
          policy.farmer).farmerPendingCounts
        pendingCounted := (state.releasePendingSlot policyId
          policy.farmer).pendingCounted
        orgOutstandings := (state.releaseOrgExposure policy.org
          policy.sumInsured).orgOutstandings } := by
  unfold closePending
  rw [releasePendingSlot_savePolicy, releasePendingSlot_frame]
  rfl

@[simp]
theorem addPolicy_policies (policy : Policy) :
    (state.addPolicy policy).policies =
      Function.update state.policies policy.id (some policy) :=
  rfl

@[simp]
theorem activate_policies (policyId : Nat) (activated : Policy) :
    (state.activate policyId activated).policies =
      Function.update state.policies activated.id (some activated) := by
  rw [activate_frame]

@[simp]
theorem closeActive_policies (policy : Policy) (status : PolicyStatus) :
    (state.closeActive policy status).policies =
      Function.update state.policies policy.id
        (some { policy with status }) := by
  rw [closeActive_frame]

@[simp]
theorem closePending_policies (policyId : Nat) (policy : Policy)
    (status : PolicyStatus) :
    (state.closePending policyId policy status).policies =
      Function.update state.policies policy.id
        (some { policy with status }) := by
  rw [closePending_frame]

@[simp]
theorem addPolicy_roles (policy : Policy) :
    (state.addPolicy policy).roles = state.roles :=
  rfl

@[simp]
theorem activate_roles (policyId : Nat) (activated : Policy) :
    (state.activate policyId activated).roles = state.roles := by
  rw [activate_frame]

@[simp]
theorem closeActive_roles (policy : Policy) (status : PolicyStatus) :
    (state.closeActive policy status).roles = state.roles := by
  rw [closeActive_frame]

@[simp]
theorem closePending_roles (policyId : Nat) (policy : Policy)
    (status : PolicyStatus) :
    (state.closePending policyId policy status).roles = state.roles := by
  rw [closePending_frame]

@[simp]
theorem addPolicy_claimTimes (policy : Policy) :
    (state.addPolicy policy).claimTimes = state.claimTimes :=
  rfl

@[simp]
theorem activate_claimTimes (policyId : Nat) (activated : Policy) :
    (state.activate policyId activated).claimTimes = state.claimTimes := by
  rw [activate_frame]
  rfl

@[simp]
theorem closeActive_claimTimes (policy : Policy) (status : PolicyStatus) :
    (state.closeActive policy status).claimTimes = state.claimTimes := by
  rw [closeActive_frame]
  rfl

@[simp]
theorem closePending_claimTimes (policyId : Nat) (policy : Policy)
    (status : PolicyStatus) :
    (state.closePending policyId policy status).claimTimes =
      state.claimTimes := by
  rw [closePending_frame]
  rfl

theorem pushClaimTime_claimTimes (farmer other : Address) (now : Nat) :
    (state.pushClaimTime farmer now).claimTimes other =
      if other = farmer then
        (state.claimTimes farmer ++ [now]).drop
          ((state.claimTimes farmer ++ [now]).length -
            maxClaimsPerFarmerPerYear)
      else state.claimTimes other :=
  KeyedStore.getD_update state.farmerClaimTimes farmer other _ []

theorem canFarmerClaim_iff (now : Nat) (farmer : Address) :
    state.canFarmerClaim now farmer = true ↔
      state.claimsInWindow now farmer < maxClaimsPerFarmerPerYear :=
  decide_eq_true_iff

theorem addPolicy_claimsInWindow (policy : Policy) (now : Nat)
    (farmer : Address) :
    (state.addPolicy policy).claimsInWindow now farmer =
      state.claimsInWindow now farmer :=
  rfl

theorem activate_claimsInWindow (policyId : Nat) (activated : Policy)
    (now : Nat) (farmer : Address) :
    (state.activate policyId activated).claimsInWindow now farmer =
      state.claimsInWindow now farmer := by
  unfold claimsInWindow
  rw [activate_claimTimes]

theorem closeActive_claimsInWindow (policy : Policy) (status : PolicyStatus)
    (now : Nat) (farmer : Address) :
    (state.closeActive policy status).claimsInWindow now farmer =
      state.claimsInWindow now farmer := by
  unfold claimsInWindow
  rw [closeActive_claimTimes]

theorem closePending_claimsInWindow (policyId : Nat) (policy : Policy)
    (status : PolicyStatus) (now : Nat) (farmer : Address) :
    (state.closePending policyId policy status).claimsInWindow now farmer =
      state.claimsInWindow now farmer := by
  unfold claimsInWindow
  rw [closePending_claimTimes]

@[simp]
theorem addPolicy_getTotalPolicies (policy : Policy) :
    (state.addPolicy policy).getTotalPolicies = policy.id :=
  rfl

@[simp]
theorem activate_getTotalPolicies (policyId : Nat) (activated : Policy) :
    (state.activate policyId activated).getTotalPolicies =
      state.getTotalPolicies := by
  rw [activate_frame]
  rfl

@[simp]
theorem closeActive_getTotalPolicies (policy : Policy)
    (status : PolicyStatus) :
    (state.closeActive policy status).getTotalPolicies =
      state.getTotalPolicies := by
  rw [closeActive_frame]
  rfl

@[simp]
theorem closePending_getTotalPolicies (policyId : Nat) (policy : Policy)
    (status : PolicyStatus) :
    (state.closePending policyId policy status).getTotalPolicies =
      state.getTotalPolicies := by
  rw [closePending_frame]
  rfl

end State

/-- The policy that `create_policy` stores. -/
def soldPolicy (env : Env) (state : State) (farmer : Address) (plotId : Nat)
    (latE6 lonE6 sumInsured premium : Int) (durationDays : Nat)
    (coverageType : CoverageType) (org : Address) : Policy where
  id := state.getTotalPolicies + 1
  farmer := farmer
  plotId := plotId
  latE6 := latE6
  lonE6 := lonE6
  sumInsured := sumInsured
  premium := premium
  startDate := env.timestamp
  endDate := env.timestamp + durationDays * secondsPerDay
  coverageType := coverageType
  status := .pending
  createdAt := env.timestamp
  org := org

/-- The cover that `create_policy` sells. -/
structure ValidCover (latE6 lonE6 sumInsured premium : Int)
    (durationDays : Nat) (coverageType : CoverageType) : Prop where
  sumInsured_ge : minSumInsured ≤ sumInsured
  sumInsured_le : sumInsured ≤ maxSumInsured
  premium_pos : 0 < premium
  duration_ge : minDroughtDurationDays ≤ durationDays
  duration_le : durationDays ≤ maxDurationDays
  lat_ge : -maxLatE6 ≤ latE6
  lat_le : latE6 ≤ maxLatE6
  lon_ge : -maxLonE6 ≤ lonE6
  lon_le : lonE6 ≤ maxLonE6
  drought : coverageType = .drought

/-- The caps that `create_policy` enforces, with the widths of its counters. -/
structure HasCapacity (env : Env) (state : State) (policy : Policy) :
    Prop where
  open_lt : state.farmerActiveCount policy.farmer +
    state.farmerPendingCount policy.farmer < 2 ^ 32
  counted_lt : state.farmerActiveCount policy.farmer +
    state.farmerPendingCount policy.farmer +
      state.claimsInWindow env.timestamp policy.farmer < 2 ^ 32
  counted_cap : state.farmerActiveCount policy.farmer +
    state.farmerPendingCount policy.farmer +
      state.claimsInWindow env.timestamp policy.farmer <
        maxActivePoliciesPerFarmer
  id_lt : policy.id < 2 ^ 64
  endDate_lt : policy.endDate < 2 ^ 64
  index_lt : state.farmerPolicyCount policy.farmer + 1 < 2 ^ 32
  exposure_fits :
    FitsI128 (state.orgOutstanding policy.org + policy.sumInsured)
  pending_lt : state.farmerPendingCount policy.farmer + 1 < 2 ^ 32

@[simp]
theorem validateCover_commits (latE6 lonE6 sumInsured premium : Int)
    (durationDays : Nat) (coverageType : CoverageType)
    (before after : State) (result : Unit) :
    (validateCover latE6 lonE6 sumInsured premium durationDays
        coverageType).Commits before result after ↔
      ValidCover latE6 lonE6 sumInsured premium durationDays coverageType ∧
        after = before := by
  simp only [validateCover, bind_commits, panicIf_commits, exists_const,
    and_assoc, exists_and_left, exists_eq_left, not_or, not_not, not_lt,
    not_le, gt_iff_lt]
  constructor
  · rintro ⟨sumLow, sumHigh, paid, _, durationLe, latGe, latLe, lonGe, lonLe,
      drought, durationGe, rfl⟩
    exact ⟨⟨sumLow, sumHigh, paid, durationGe, durationLe, latGe, latLe,
      lonGe, lonLe, drought⟩, rfl⟩
  · rintro ⟨valid, rfl⟩
    have longEnough : minDurationDays ≤ durationDays :=
      le_trans (by decide) valid.duration_ge
    exact ⟨valid.sumInsured_ge, valid.sumInsured_le, valid.premium_pos,
      longEnough, valid.duration_le, valid.lat_ge, valid.lat_le,
      valid.lon_ge, valid.lon_le, valid.drought, valid.duration_ge, rfl⟩

theorem createPolicy_commits (env : Env) (caller farmer : Address)
    (plotId : Nat) (latE6 lonE6 sumInsured premium : Int)
    (durationDays : Nat) (coverageType : CoverageType) (org : Address)
    (before after : State) (policyId : Nat) :
    (createPolicy env caller farmer plotId latE6 lonE6 sumInsured premium
        durationDays coverageType org).Commits before policyId after ↔
      env.authorized caller = true ∧ before.roles .backend caller = true ∧
        ValidCover latE6 lonE6 sumInsured premium durationDays coverageType ∧
          HasCapacity env before (soldPolicy env before farmer plotId latE6
            lonE6 sumInsured premium durationDays coverageType org) ∧
            policyId = before.getTotalPolicies + 1 ∧
              after = before.addPolicy (soldPolicy env before farmer plotId
                latE6 lonE6 sumInsured premium durationDays coverageType
                org) := by
  simp only [createPolicy, bind_commits, requireRole_commits,
    validateCover_commits, read_commits, addUnsigned_commits,
    panicIf_commits, modify_commits, addI128_commits, publish_commits,
    pure_commits, roleStorage_roles, exists_const, and_assoc,
    exists_and_left, exists_eq_left]
  constructor
  · rintro ⟨signed, held, valid, openLt, countedLt, cap, idLt, endLt,
      indexLt, fits, pendingLt, rfl, rfl⟩
    exact ⟨signed, held, valid, ⟨openLt, countedLt, not_le.mp cap, idLt,
      endLt, indexLt, fits, pendingLt⟩, rfl, rfl⟩
  · rintro ⟨signed, held, valid, capacity, rfl, rfl⟩
    exact ⟨signed, held, valid, capacity.open_lt, capacity.counted_lt,
      not_le.mpr capacity.counted_cap, capacity.id_lt, capacity.endDate_lt,
      capacity.index_lt, capacity.exposure_fits, capacity.pending_lt, rfl,
      rfl⟩

@[simp]
theorem loadPolicy_commits (policyId : Nat) (before after : State)
    (policy : Policy) :
    (loadPolicy policyId).Commits before policy after ↔
      before.policies policyId = some policy ∧ after = before := by
  simp only [loadPolicy, bind_commits, read_commits, unwrapOr_commits,
    and_assoc, exists_and_left, exists_eq_left]

@[simp]
theorem loadPolicy_fails (policyId : Nat) (before : State) (error : Error) :
    (loadPolicy policyId).Fails before error ↔
      before.policies policyId = none ∧
        error = .policy .policyDoesNotExist := by
  simp [loadPolicy]

section Certificates

variable {Ω : Type} (nft : Env → PolicyNftClient Ω) (env : Env)

/-- What a deactivation does to the state of the certificate contract. -/
def Deactivates (policyNft : Option Address) (policyId : Nat)
    (before after : Ω) : Prop :=
  match policyNft with
  | none => after = before
  | some address =>
      ∃ minted middle,
        ((nft (env.invoke address)).policyNftExists policyId).Commits before
            minted middle ∧
          if minted then
            ((nft (env.invoke address)).updatePolicyStatus
                env.currentContract policyId false).Commits middle () after ∨
              ∃ error, ((nft (env.invoke address)).updatePolicyStatus
                env.currentContract policyId false).Fails middle error ∧
                  ¬ Fatal error ∧ after = middle
          else after = middle

@[simp]
theorem deactivatePolicyNft_commits (policyId : Nat)
    (before after : State × Ω) (result : Unit) :
    (deactivatePolicyNft nft env policyId).Commits before result after ↔
      Deactivates nft env before.1.policyNft policyId before.2 after.2 ∧
        after.1 = before.1 := by
  obtain ⟨state, outside⟩ := before
  obtain ⟨stateAfter, outsideAfter⟩ := after
  simp only [deactivatePolicyNft, bind_commits, internal_commits,
    read_commits, and_assoc, exists_and_left, exists_eq_left]
  cases wired : state.policyNft with
  | none => simp [Deactivates, and_comm]
  | some address =>
      simp only [bind_commits, external_commits, Deactivates]
      constructor
      · rintro ⟨minted, _, ⟨middle, queried, rfl⟩, rest⟩
        cases minted with
        | false =>
            simp only [Bool.false_eq_true, if_false, publish_commits,
              Prod.mk.injEq] at rest
            obtain ⟨rfl, rfl⟩ := rest
            exact ⟨⟨false, _, queried, by simp⟩, rfl⟩
        | true =>
            simp only [if_true, bind_commits, attempt_commits,
              external_commits, external_fails] at rest
            obtain ⟨answer, _, updated | refused, rest⟩ := rest
            · obtain ⟨_, ⟨final, committed, rfl⟩, rfl⟩ := updated
              simp only [pure_commits, Prod.mk.injEq] at rest
              obtain ⟨_, rfl, rfl⟩ := rest
              exact ⟨⟨true, middle, queried, by simp [committed]⟩, rfl⟩
            · obtain ⟨error, failed, survivable, rfl, rfl⟩ := refused
              simp only [publish_commits, Prod.mk.injEq] at rest
              obtain ⟨rfl, rfl⟩ := rest
              exact ⟨⟨true, _, queried, by
                simpa using Or.inr ⟨error, failed, survivable⟩⟩, rfl⟩
      · rintro ⟨⟨minted, middle, queried, rest⟩, rfl⟩
        refine ⟨minted, _, ⟨middle, queried, rfl⟩, ?_⟩
        cases minted with
        | false =>
            simp only [Bool.false_eq_true, if_false] at rest
            simp [rest]
        | true =>
            simp only [if_true] at rest
            simp only [if_true, bind_commits, attempt_commits,
              external_commits, external_fails]
            rcases rest with committed | ⟨error, failed, survivable, rfl⟩
            · exact ⟨_, _, Or.inl ⟨(), ⟨outsideAfter, committed, rfl⟩, rfl⟩,
                by simp⟩
            · exact ⟨_, _, Or.inr ⟨error, failed, survivable, rfl, rfl⟩,
                by simp⟩

theorem activatePolicy_commits (caller : Address) (policyId : Nat)
    (distributor : Address) (distributorName region : String)
    (before after : State × Ω) (result : Unit) :
    (activatePolicy nft env caller policyId distributor distributorName
        region).Commits before result after ↔
      env.authorized caller = true ∧ before.1.roles .backend caller = true ∧
        ∃ address policy tokenId, before.1.policyNft = some address ∧
          before.1.policies policyId = some policy ∧
          policy.status = .pending ∧ env.timestamp ≤ policy.endDate ∧
          before.1.farmerActiveCount policy.farmer <
            maxActivePoliciesPerFarmer ∧
          policy.startDate ≤ policy.endDate ∧
          env.timestamp + (policy.endDate - policy.startDate) < 2 ^ 64 ∧
          before.1.farmerActiveCount policy.farmer + 1 < 2 ^ 32 ∧
          ((nft (env.invoke address)).mintPolicy env.currentContract
            policy.farmer policyId distributor distributorName
            policy.sumInsured policy.premium env.timestamp
            (env.timestamp + (policy.endDate - policy.startDate))
            policy.coverageType region policy.plotId).Commits before.2
              tokenId after.2 ∧
          after.1 = before.1.activate policyId
            { policy with
              status := .active, startDate := env.timestamp
              endDate := env.timestamp +
                (policy.endDate - policy.startDate) } := by
  obtain ⟨state, outside⟩ := before
  obtain ⟨stateAfter, outsideAfter⟩ := after
  simp only [activatePolicy, bind_commits, internal_commits,
    requireRole_commits, read_commits, unwrapOr_commits, loadPolicy_commits,
    panicIf_commits, subUnsigned_commits, addUnsigned_commits,
    modify_commits, external_commits, publish_commits, roleStorage_roles,
    exists_const, and_assoc, exists_and_left, exists_eq_left, not_not,
    not_lt, gt_iff_lt]
  constructor
  · rintro ⟨signed, held, address, wired, policy, stored, pending, inTime,
      cap, ordered, endLt, countLt, tokenId, _, ⟨changed, minted, rfl⟩,
      equality⟩
    rw [Prod.mk.injEq] at equality
    obtain ⟨rfl, rfl⟩ := equality
    exact ⟨signed, held, address, wired, policy, stored, pending, inTime,
      not_le.mp cap, ordered, endLt, countLt, tokenId, minted, rfl⟩
  · rintro ⟨signed, held, address, wired, policy, stored, pending, inTime,
      cap, ordered, endLt, countLt, tokenId, minted, rfl⟩
    exact ⟨signed, held, address, wired, policy, stored, pending, inTime,
      not_le.mpr cap, ordered, endLt, countLt, tokenId, _,
      ⟨outsideAfter, minted, rfl⟩, rfl⟩

theorem markAsClaimed_commits (caller : Address) (policyId : Nat)
    (before after : State × Ω) (result : Unit) :
    (markAsClaimed nft env caller policyId).Commits before result after ↔
      env.authorized caller = true ∧ before.1.roles .oracle caller = true ∧
        ∃ policy, before.1.policies policyId = some policy ∧
          policy.status = .active ∧ env.timestamp ≤ policy.endDate ∧
            Deactivates nft env before.1.policyNft policyId before.2 after.2 ∧
              after.1 = before.1.closeActive policy .claimed := by
  obtain ⟨state, outside⟩ := before
  obtain ⟨stateAfter, outsideAfter⟩ := after
  simp only [markAsClaimed, bind_commits, internal_commits,
    requireRole_commits, loadPolicy_commits, panicIf_commits,
    modify_commits, deactivatePolicyNft_commits, publish_commits,
    roleStorage_roles, State.releaseOrgExposure_policyNft,
    State.decrementActive_policyNft, State.savePolicy_policyNft,
    exists_const, and_assoc, exists_and_left, exists_eq_left, not_not,
    not_lt, gt_iff_lt]
  constructor
  · rintro ⟨signed, held, policy, stored, active, inTime, middle,
      deactivates, same, rfl⟩
    exact ⟨signed, held, policy, stored, active, inTime, deactivates, same⟩
  · rintro ⟨signed, held, policy, stored, active, inTime, deactivates, same⟩
    exact ⟨signed, held, policy, stored, active, inTime,
      (stateAfter, outsideAfter), deactivates, same, rfl⟩

@[simp]
theorem releaseSlot_commits (policyId : Nat) (policy : Policy)
    (before after : State × Ω) (result : Unit) :
    (releaseSlot nft env policyId policy).Commits before result after ↔
      if policy.status = .active then
        Deactivates nft env before.1.policyNft policyId before.2 after.2 ∧
          after.1 = before.1.decrementActive policy.farmer
      else
        after.1 = before.1.releasePendingSlot policyId policy.farmer ∧
          after.2 = before.2 := by
  unfold releaseSlot
  split
  · simp only [bind_commits, internal_commits, modify_commits,
      deactivatePolicyNft_commits, exists_const, exists_eq_left,
      State.decrementActive_policyNft]
  · simp only [internal_commits, modify_commits, exists_eq_left,
      Prod.ext_iff]

theorem cancelPolicy_commits (caller : Address) (policyId : Nat)
    (before after : State × Ω) (result : Unit) :
    (cancelPolicy nft env caller policyId).Commits before result after ↔
      env.authorized caller = true ∧
        ∃ policy, before.1.policies policyId = some policy ∧
          ((policy.status = .active ∧ before.1.roles .admin caller = true ∧
              Deactivates nft env before.1.policyNft policyId before.2
                after.2 ∧
              after.1 = before.1.closeActive policy .cancelled) ∨
            (policy.status = .pending ∧
              (before.1.roles .admin caller = true ∨
                before.1.roles .backend caller = true) ∧
              after.1 = before.1.closePending policyId policy .cancelled ∧
              after.2 = before.2)) := by
  obtain ⟨state, outside⟩ := before
  obtain ⟨stateAfter, outsideAfter⟩ := after
  simp only [cancelPolicy, bind_commits, internal_commits,
    requireAuth_commits, hasRole_commits, loadPolicy_commits,
    panicIf_commits, modify_commits, releaseSlot_commits, publish_commits,
    roleStorage_roles, State.releaseOrgExposure_policyNft, exists_const,
    and_assoc, exists_and_left, exists_eq_left, State.closeActive,
    State.closePending, State.decrementActive_savePolicy,
    State.releasePendingSlot_savePolicy,
    State.releaseOrgExposure_savePolicy,
    State.releaseOrgExposure_decrementActive,
    State.releaseOrgExposure_releasePendingSlot]
  constructor
  · rintro ⟨signed, allowed, policy, stored, isOpen, needsAdmin,
      ⟨middle, middleOutside⟩, released, equality⟩
    simp only [Prod.mk.injEq] at equality
    obtain ⟨rfl, rfl⟩ := equality
    refine ⟨signed, policy, stored, ?_⟩
    split at released <;> rename_i active
    · obtain ⟨deactivates, rfl⟩ := released
      exact Or.inl ⟨active, by grind, deactivates, rfl⟩
    · obtain ⟨rfl, rfl⟩ := released
      exact Or.inr ⟨by grind, by grind, rfl, rfl⟩
  · rintro ⟨signed, policy, stored, ⟨active, admin, deactivates, rfl⟩ |
      ⟨pending, allowed, rfl, rfl⟩⟩
    · refine ⟨signed, by simp [admin], policy, stored, by simp [active],
        by simp [admin], (_, outsideAfter), ?_, rfl⟩
      rw [if_pos active]
      exact ⟨deactivates, rfl⟩
    · refine ⟨signed, by grind, policy, stored, by simp [pending],
        by simp [pending], (_, outsideAfter), ?_, rfl⟩
      rw [if_neg (by simp [pending])]
      exact ⟨rfl, rfl⟩

theorem expirePolicy_commits (policyId : Nat) (before after : State × Ω)
    (result : Unit) :
    (expirePolicy nft env policyId).Commits before result after ↔
      ∃ policy, before.1.policies policyId = some policy ∧
        ((policy.status = .expired ∧ after = before) ∨
          (policy.status = .active ∧ policy.endDate < env.timestamp ∧
            Deactivates nft env before.1.policyNft policyId before.2 after.2 ∧
            after.1 = before.1.closeActive policy .expired) ∨
          (policy.status = .pending ∧ policy.endDate < env.timestamp ∧
            after.1 = before.1.closePending policyId policy .expired ∧
            after.2 = before.2)) := by
  obtain ⟨state, outside⟩ := before
  obtain ⟨stateAfter, outsideAfter⟩ := after
  simp only [expirePolicy, bind_commits, internal_commits,
    loadPolicy_commits, and_assoc, exists_and_left, exists_eq_left,
    State.closeActive, State.closePending]
  refine exists_congr fun policy => and_congr_right fun stored => ?_
  split <;> rename_i expired
  · simp [expired]
  · simp only [bind_commits, panicIf_commits, internal_commits,
      modify_commits, releaseSlot_commits, publish_commits, exists_const,
      and_assoc, exists_and_left, exists_eq_left, not_le,
      State.decrementActive_savePolicy, State.releasePendingSlot_savePolicy,
      State.releaseOrgExposure_savePolicy]
    constructor
    · rintro ⟨isOpen, ended, ⟨middle, middleOutside⟩, released, equality⟩
      simp only [Prod.mk.injEq] at equality
      obtain ⟨rfl, rfl⟩ := equality
      split at released <;> rename_i active
      · obtain ⟨deactivates, rfl⟩ := released
        exact Or.inr (Or.inl ⟨active, ended, deactivates, rfl⟩)
      · obtain ⟨rfl, rfl⟩ := released
        exact Or.inr (Or.inr ⟨by grind, ended, rfl, rfl⟩)
    · rintro (⟨same, _⟩ | ⟨active, ended, deactivates, rfl⟩ |
        ⟨pending, ended, rfl, rfl⟩)
      · exact absurd same expired
      · refine ⟨by simp [active], ended, (_, outsideAfter), ?_, rfl⟩
        rw [if_pos active]
        exact ⟨deactivates, rfl⟩
      · refine ⟨by simp [pending], ended, (_, outsideAfter), ?_, rfl⟩
        rw [if_neg (by simp [pending])]
        exact ⟨rfl, rfl⟩

end Certificates

theorem incrementClaimCount_commits (env : Env) (caller farmer : Address)
    (before after : State) (result : Unit) :
    (incrementClaimCount env caller farmer).Commits before result after ↔
      env.authorized caller = true ∧ before.roles .oracle caller = true ∧
        before.claimsInWindow env.timestamp farmer <
            maxClaimsPerFarmerPerYear ∧
          after = before.pushClaimTime farmer env.timestamp := by
  simp only [incrementClaimCount, bind_commits, requireRole_commits,
    read_commits, panicIf_commits, modify_commits, publish_commits,
    roleStorage_roles, exists_const, and_assoc, exists_and_left,
    exists_eq_left, not_le, ge_iff_le]

/-! ## Inversion of a committed call -/

/-- The calls that only set roles or the certificate contract. -/
def Call.administers : Call → Bool
  | .setPolicyNft .. => true
  | .grantRole .. => true
  | .revokeRole .. => true
  | _ => false

/-- The roles after the call. -/
def Call.rolesAfter (roles : Roles) : Call → Roles
  | .grantRole _ role who => roles.grant role who
  | .revokeRole _ role who => roles.revoke role who
  | _ => roles

/-- The certificate contract after the call. -/
def Call.policyNftAfter (wired : Option Address) : Call → Option Address
  | .setPolicyNft _ policyNft => some policyNft
  | _ => wired

/-- Why an ACTIVE policy is closed, and with which status. -/
inductive ClosesActive (env : Env) (state : State) (policyId : Nat)
    (policy : Policy) : Call → PolicyStatus → Prop
  | claimed {caller : Address} (signed : env.authorized caller = true)
      (oracle : state.roles .oracle caller = true)
      (inTime : env.timestamp ≤ policy.endDate) :
      ClosesActive env state policyId policy
        (.markAsClaimed caller policyId) .claimed
  | cancelled {caller : Address} (signed : env.authorized caller = true)
      (admin : state.roles .admin caller = true) :
      ClosesActive env state policyId policy
        (.cancelPolicy caller policyId) .cancelled
  | expired (ended : policy.endDate < env.timestamp) :
      ClosesActive env state policyId policy (.expirePolicy policyId) .expired

/-- Why a PENDING policy is closed, and with which status. -/
inductive ClosesPending (env : Env) (state : State) (policyId : Nat)
    (policy : Policy) : Call → PolicyStatus → Prop
  | cancelled {caller : Address} (signed : env.authorized caller = true)
      (allowed : state.roles .admin caller = true ∨
        state.roles .backend caller = true) :
      ClosesPending env state policyId policy
        (.cancelPolicy caller policyId) .cancelled
  | expired (ended : policy.endDate < env.timestamp) :
      ClosesPending env state policyId policy (.expirePolicy policyId)
        .expired

section Closing

variable {env : Env} {state : State} {policyId : Nat} {policy : Policy}
  {call : Call} {status : PolicyStatus}

theorem ClosesActive.not_pending
    (cause : ClosesActive env state policyId policy call status) :
    status ≠ .pending := by
  cases cause <;> decide

theorem ClosesActive.not_active
    (cause : ClosesActive env state policyId policy call status) :
    status ≠ .active := by
  cases cause <;> decide

theorem ClosesPending.not_pending
    (cause : ClosesPending env state policyId policy call status) :
    status ≠ .pending := by
  cases cause <;> decide

theorem ClosesPending.not_active
    (cause : ClosesPending env state policyId policy call status) :
    status ≠ .active := by
  cases cause <;> decide

end Closing

/-- Everything that a committed call can do. -/
inductive Effect {Ω : Type} (nft : Env → PolicyNftClient Ω) (env : Env)
    (before : State × Ω) : Call → State × Ω → Prop
  | administered {call : Call} {caller : Address}
      (signed : env.authorized caller = true)
      (admin : before.1.roles .admin caller = true)
      (administers : call.administers = true) :
      Effect nft env before call
        ({ before.1 with
          roles := call.rolesAfter before.1.roles
          policyNft := call.policyNftAfter before.1.policyNft }, before.2)
  | sold {caller farmer : Address} {plotId : Nat}
      {latE6 lonE6 sumInsured premium : Int} {durationDays : Nat}
      {coverageType : CoverageType} {org : Address}
      (signed : env.authorized caller = true)
      (backend : before.1.roles .backend caller = true)
      (valid : ValidCover latE6 lonE6 sumInsured premium durationDays
        coverageType)
      (capacity : HasCapacity env before.1 (soldPolicy env before.1 farmer
        plotId latE6 lonE6 sumInsured premium durationDays coverageType
        org)) :
      Effect nft env before
        (.createPolicy caller farmer plotId latE6 lonE6 sumInsured premium
          durationDays coverageType org)
        (before.1.addPolicy (soldPolicy env before.1 farmer plotId latE6
          lonE6 sumInsured premium durationDays coverageType org), before.2)
  | activated {caller : Address} {policyId : Nat} {distributor : Address}
      {distributorName region : String} {address : Address}
      {policy : Policy} {tokenId : Nat} {outside : Ω}
      (signed : env.authorized caller = true)
      (backend : before.1.roles .backend caller = true)
      (wired : before.1.policyNft = some address)
      (stored : before.1.policies policyId = some policy)
      (pending : policy.status = .pending)
      (inTime : env.timestamp ≤ policy.endDate)
      (cap : before.1.farmerActiveCount policy.farmer <
        maxActivePoliciesPerFarmer)
      (ordered : policy.startDate ≤ policy.endDate)
      (minted : ((nft (env.invoke address)).mintPolicy env.currentContract
        policy.farmer policyId distributor distributorName policy.sumInsured
        policy.premium env.timestamp
        (env.timestamp + (policy.endDate - policy.startDate))
        policy.coverageType region policy.plotId).Commits before.2 tokenId
          outside) :
      Effect nft env before
        (.activatePolicy caller policyId distributor distributorName region)
        (before.1.activate policyId
          { policy with
            status := .active, startDate := env.timestamp
            endDate := env.timestamp +
              (policy.endDate - policy.startDate) }, outside)
  | closedActive {call : Call} {policyId : Nat} {policy : Policy}
      {status : PolicyStatus} {outside : Ω}
      (stored : before.1.policies policyId = some policy)
      (active : policy.status = .active)
      (cause : ClosesActive env before.1 policyId policy call status)
      (deactivates : Deactivates nft env before.1.policyNft policyId before.2
        outside) :
      Effect nft env before call
        (before.1.closeActive policy status, outside)
  | closedPending {call : Call} {policyId : Nat} {policy : Policy}
      {status : PolicyStatus}
      (stored : before.1.policies policyId = some policy)
      (pending : policy.status = .pending)
      (cause : ClosesPending env before.1 policyId policy call status) :
      Effect nft env before call
        (before.1.closePending policyId policy status, before.2)
  | claimCounted {caller farmer : Address}
      (signed : env.authorized caller = true)
      (oracle : before.1.roles .oracle caller = true)
      (cap : before.1.claimsInWindow env.timestamp farmer <
        maxClaimsPerFarmerPerYear) :
      Effect nft env before (.incrementClaimCount caller farmer)
        (before.1.pushClaimTime farmer env.timestamp, before.2)
  | alreadyExpired {policyId : Nat} {policy : Policy}
      (stored : before.1.policies policyId = some policy)
      (expired : policy.status = .expired) :
      Effect nft env before (.expirePolicy policyId) before

/-- A committed call has one of the listed effects. -/
theorem exec_effect {Ω : Type} (nft : Env → PolicyNftClient Ω) (env : Env)
    (call : Call) {before after : State × Ω} {result : Unit}
    (commits : (exec nft env call).Commits before result after) :
    Effect nft env before call after := by
  obtain ⟨state, outside⟩ := before
  obtain ⟨stateAfter, outsideAfter⟩ := after
  cases call with
  | setPolicyNft caller policyNft =>
      simp only [exec, internal_commits, setPolicyNft, bind_commits,
        requireRole_commits, modify_commits, publish_commits, and_assoc,
        exists_const, exists_and_left, exists_eq_left, roleStorage_roles,
        Prod.mk.injEq] at commits
      obtain ⟨signed, admin, rfl, rfl⟩ := commits
      exact .administered signed admin rfl
  | grantRole caller role who =>
      simp only [exec, internal_commits, grantRole, bind_commits,
        requireRole_commits, grantRole_commits, and_assoc, exists_const,
        exists_and_left, exists_eq_left, roleStorage_roles,
        roleStorage_setRoles, Prod.mk.injEq] at commits
      obtain ⟨signed, admin, rfl, rfl⟩ := commits
      exact .administered signed admin rfl
  | revokeRole caller role who =>
      simp only [exec, internal_commits, revokeRole, bind_commits,
        requireRole_commits, revokeRole_commits, and_assoc, exists_const,
        exists_and_left, exists_eq_left, roleStorage_roles,
        roleStorage_setRoles, Prod.mk.injEq] at commits
      obtain ⟨signed, admin, rfl, rfl⟩ := commits
      exact .administered signed admin rfl
  | createPolicy caller farmer plotId latE6 lonE6 sumInsured premium
      durationDays coverageType org =>
      simp only [exec, bind_commits, internal_commits, pure_commits,
        createPolicy_commits] at commits
      obtain ⟨policyId, _, ⟨changed, ⟨signed, backend, valid, capacity, rfl,
        rfl⟩, rfl⟩, -, equality⟩ := commits
      rw [Prod.mk.injEq] at equality
      obtain ⟨rfl, rfl⟩ := equality
      exact .sold signed backend valid capacity
  | activatePolicy caller policyId distributor distributorName region =>
      obtain ⟨signed, backend, address, policy, tokenId, wired, stored,
        pending, inTime, cap, ordered, -, -, minted, rfl⟩ :=
        (activatePolicy_commits nft env caller policyId distributor
          distributorName region _ _ _).mp commits
      exact .activated signed backend wired stored pending inTime cap ordered
        minted
  | markAsClaimed caller policyId =>
      obtain ⟨signed, oracle, policy, stored, active, inTime, deactivates,
        rfl⟩ := (markAsClaimed_commits nft env caller policyId _ _ _).mp
          commits
      exact .closedActive stored active (.claimed signed oracle inTime)
        deactivates
  | incrementClaimCount caller farmer =>
      simp only [exec, internal_commits, incrementClaimCount_commits,
        Prod.mk.injEq] at commits
      obtain ⟨changed, ⟨signed, oracle, cap, rfl⟩, rfl, rfl⟩ := commits
      exact .claimCounted signed oracle cap
  | cancelPolicy caller policyId =>
      obtain ⟨signed, policy, stored, ⟨active, admin, deactivates, rfl⟩ |
        ⟨pending, allowed, rfl, same⟩⟩ :=
        (cancelPolicy_commits nft env caller policyId _ _ _).mp commits
      · exact .closedActive stored active (.cancelled signed admin)
          deactivates
      · obtain rfl : outsideAfter = outside := same
        exact .closedPending stored pending (.cancelled signed allowed)
  | expirePolicy policyId =>
      obtain ⟨policy, stored, ⟨expired, same⟩ |
        ⟨active, ended, deactivates, rfl⟩ | ⟨pending, ended, rfl, same⟩⟩ :=
        (expirePolicy_commits nft env policyId _ _ _).mp commits
      · rw [same]
        exact .alreadyExpired stored expired
      · exact .closedActive stored active (.expired ended) deactivates
      · obtain rfl : outsideAfter = outside := same
        exact .closedPending stored pending (.expired ended)

/-- A call is refused and changes nothing, or it has one of the effects. -/
theorem apply_cases {Ω : Type} (state : State) (input : Input Ω) :
    (accepts state input = false ∧ apply state input = state) ∨
      (accepts state input = true ∧
        ∃ after, Effect input.nft input.env (state, input.outside) input.call
          after ∧ apply state input = after.1) := by
  rcases advance_cases (exec input.nft input.env input.call)
    (state, input.outside) with ⟨refused, same⟩ | ⟨accepted, _, commits⟩
  · exact Or.inl ⟨refused, congrArg Prod.fst same⟩
  · exact Or.inr ⟨accepted, _,
      exec_effect input.nft input.env input.call commits, rfl⟩

end PolicyManager

end Microcrop
