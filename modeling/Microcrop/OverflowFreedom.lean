import Microcrop.Authority
import Microcrop.ExposureDrain
import Microcrop.Paging
import Microcrop.VerifierArithmetic

/-!
# No state-changing call overflows

The release profile traps on overflow.  The books bound what the entrypoints
add up: open slots and exposure by the policies sold, those and the indexes by
the number of invocations, and the dates by the clock.  In a run that fits the
counters no state-changing call of any contract therefore ends in an
arithmetic trap.
-/

namespace Microcrop

open Transaction

namespace PolicyManager

/-- What the counters and dates never exceed. -/
structure State.Bounded (state : State) : Prop where
  index : ∀ farmer, state.farmerPolicyCount farmer ≤ state.getTotalPolicies
  claims : ∀ farmer,
    (state.claimTimes farmer).length ≤ maxClaimsPerFarmerPerYear
  length : ∀ policyId policy, state.policies policyId = some policy →
    policy.endDate ≤ policy.startDate + longestCover
  ordered : ∀ policyId policy, state.policies policyId = some policy →
    policy.startDate ≤ policy.endDate

/-- A call makes at most one policy more. -/
theorem total_effect {Ω : Type} {nft : Env → PolicyNftClient Ω} {env : Env}
    {call : Call} {before after : State × Ω}
    (effect : Effect nft env before call after) :
    after.1.getTotalPolicies ≤ before.1.getTotalPolicies + 1 := by
  cases creates : call.creates with
  | true =>
      cases effect with
      | sold => exact Nat.le_refl _
      | administered => exact Nat.le_succ _
      | closedActive stored active cause => cases cause <;> cases creates
      | closedPending stored pending cause => cases cause <;> cases creates
      | activated | claimCounted | alreadyExpired => cases creates
  | false =>
      rw [(farmerIndex_kept effect creates).2.2]
      exact Nat.le_succ _

theorem index_effect {Ω : Type} {nft : Env → PolicyNftClient Ω} {env : Env}
    {call : Call} {before after : State × Ω}
    (effect : Effect nft env before call after)
    (bounded : before.1.Bounded) (farmer : Address) :
    after.1.farmerPolicyCount farmer ≤ after.1.getTotalPolicies := by
  cases creates : call.creates with
  | true =>
      cases effect with
      | @sold _ buyer =>
          change (Function.update before.1.farmerPolicyCounts buyer
            (some (before.1.farmerPolicyCount buyer + 1)) farmer).getD 0 ≤
              before.1.getTotalPolicies + 1
          rw [KeyedStore.getD_update]
          split
          · exact Nat.succ_le_succ (bounded.index buyer)
          · exact Nat.le_succ_of_le (bounded.index farmer)
      | administered => exact bounded.index farmer
      | closedActive stored active cause => cases cause <;> cases creates
      | closedPending stored pending cause => cases cause <;> cases creates
      | activated | claimCounted | alreadyExpired => cases creates
  | false =>
      obtain ⟨-, counts, total⟩ := farmerIndex_kept effect creates
      rw [counts, total]
      exact bounded.index farmer

theorem claims_effect {Ω : Type} {nft : Env → PolicyNftClient Ω} {env : Env}
    {call : Call} {before after : State × Ω}
    (effect : Effect nft env before call after)
    (bounded : before.1.Bounded) (farmer : Address) :
    (after.1.claimTimes farmer).length ≤ maxClaimsPerFarmerPerYear := by
  cases effect with
  | administered | sold | alreadyExpired => exact bounded.claims farmer
  | activated =>
      rw [State.activate_claimTimes]
      exact bounded.claims farmer
  | closedActive =>
      rw [State.closeActive_claimTimes]
      exact bounded.claims farmer
  | closedPending =>
      rw [State.closePending_claimTimes]
      exact bounded.claims farmer
  | claimCounted =>
      rw [State.pushClaimTime_claimTimes]
      split
      · rw [List.length_drop]
        omega
      · exact bounded.claims farmer

theorem ordered_effect {Ω : Type} {nft : Env → PolicyNftClient Ω} {env : Env}
    {call : Call} {before after : State × Ω}
    (effect : Effect nft env before call after)
    (bounded : before.1.Bounded) {policyId : Nat} {policy : Policy}
    (stored : after.1.policies policyId = some policy) :
    policy.startDate ≤ policy.endDate := by
  have written : ∀ {key : Nat} {changed : Policy},
      changed.startDate ≤ changed.endDate →
      Function.update before.1.policies key (some changed) policyId =
          some policy →
        policy.startDate ≤ policy.endDate := by
    intro key changed ordered found
    by_cases here : policyId = key
    · rw [here, Function.update_self] at found
      cases found
      exact ordered
    · rw [Function.update_of_ne here] at found
      exact bounded.ordered policyId policy found
  cases effect with
  | administered | claimCounted | alreadyExpired =>
      exact bounded.ordered policyId policy stored
  | sold => exact written (Nat.le_add_right _ _) stored
  | activated =>
      rw [State.activate_policies] at stored
      exact written (Nat.le_add_right _ _) stored
  | closedActive storedOld =>
      rw [State.closeActive_policies] at stored
      have kept := bounded.ordered _ _ storedOld
      refine written ?_ stored
      exact kept
  | closedPending storedOld =>
      rw [State.closePending_policies] at stored
      have kept := bounded.ordered _ _ storedOld
      refine written ?_ stored
      exact kept

theorem bounded_effect {Ω : Type} {nft : Env → PolicyNftClient Ω} {env : Env}
    {call : Call} {before after : State × Ω}
    (effect : Effect nft env before call after)
    (accounted : before.1.Accounted) (bounded : before.1.Bounded) :
    after.1.Bounded where
  index := index_effect effect bounded
  claims := claims_effect effect bounded
  length policyId policy stored := by
    rcases dated_effect effect accounted bounded.length stored with
      ⟨earlier, storedEarlier, starts, ends⟩ | ⟨-, -, length⟩
    · rw [starts, ends]
      exact bounded.length policyId earlier storedEarlier
    · exact length
  ordered _ _ stored := ordered_effect effect bounded stored

section Sums

variable {state : State} (accounted : state.Accounted)

include accounted

/-- No farmer has more open policies than were sold. -/
theorem open_le_total (farmer : Address) :
    state.farmerActiveCount farmer + state.farmerPendingCount farmer ≤
      state.getTotalPolicies := by
  rw [accounted.active, accounted.pending]
  unfold State.policiesWith KeyedStore.count
  rw [KeyedStore.total_add]
  refine (KeyedStore.total_le _ Nat.one_pos.le ?_).trans_eq (by simp)
  intro policyId policy _
  by_cases pending : policy.status = .pending
  · simp [pending]
    split <;> simp
  · simp [pending]
    split <;> simp

/-- An organisation's exposure is at most that of the policies sold, each
insured for the maximum. -/
theorem exposure_bounds (insured : state.AllInsured) (org : Address) :
    0 ≤ state.orgOutstanding org ∧
      state.orgOutstanding org ≤ state.getTotalPolicies * maxSumInsured := by
  rw [accounted.exposure]
  constructor
  · apply KeyedStore.total_nonneg
    intro policyId policy stored
    split
    · exact accounted.insured policyId policy stored
    · exact le_rfl
  · refine (KeyedStore.total_le _ (by decide) ?_).trans_eq
      (nsmul_eq_mul _ maxSumInsured)
    intro policyId policy stored
    split
    · obtain ⟨_, valid⟩ := insured policyId policy stored
      exact valid.sumInsured_le
    · decide

/-- What `release_org_exposure` subtracts leaves a 128-bit number. -/
theorem releaseOrgExposure_fits (insured : state.AllInsured)
    (few : state.getTotalPolicies < 2 ^ 32) {policyId : Nat} {policy : Policy}
    (stored : state.policies policyId = some policy) :
    FitsI128 (state.orgOutstanding policy.org - policy.sumInsured) := by
  obtain ⟨nonneg, exposure⟩ := exposure_bounds accounted insured policy.org
  obtain ⟨_, valid⟩ := insured policyId policy stored
  have lower := valid.sumInsured_ge
  have upper := valid.sumInsured_le
  unfold minSumInsured at lower
  unfold maxSumInsured at exposure upper
  unfold FitsI128
  omega

end Sums

/-! ## The entrypoints -/

section Calm

variable {state : State} (accounted : state.Accounted)
  (insured : state.AllInsured) (bounded : state.Bounded)
  (few : state.getTotalPolicies + maxClaimsPerFarmerPerYear < 2 ^ 32)
  {env : Env} (early : env.timestamp + longestCover < 2 ^ 64)

include accounted insured bounded few early

theorem createPolicy_calm (caller farmer : Address) (plotId : Nat)
    (latE6 lonE6 sumInsured premium : Int) (durationDays : Nat)
    (coverageType : CoverageType) (org : Address) :
    (createPolicy env caller farmer plotId latE6 lonE6 sumInsured premium
      durationDays coverageType org).Avoids state Error.Overflows := by
  have checks : (validateCover latE6 lonE6 sumInsured premium durationDays
      coverageType).Avoids state Error.Overflows := by
    simp [validateCover, Error.Overflows]
  have slots := open_le_total accounted farmer
  have pending : state.farmerPendingCount farmer ≤
      state.getTotalPolicies := by
    omega
  have claims : state.claimsInWindow env.timestamp farmer ≤
      maxClaimsPerFarmerPerYear :=
    List.countP_le_length.trans (bounded.claims farmer)
  have index := bounded.index farmer
  obtain ⟨nonneg, exposure⟩ := exposure_bounds accounted insured org
  have fits : ValidCover latE6 lonE6 sumInsured premium durationDays
      coverageType → FitsI128 (state.orgOutstanding org + sumInsured) := by
    intro valid
    have lower := valid.sumInsured_ge
    have upper := valid.sumInsured_le
    unfold minSumInsured at lower
    unfold maxSumInsured at exposure upper
    unfold FitsI128
    omega
  unfold createPolicy
  refine (bind_avoids ..).mpr ⟨by simp [Error.Overflows], ?_⟩
  intro _ _ reached
  rw [((requireRole_commits ..).mp reached).2.2]
  refine (bind_avoids ..).mpr ⟨checks, ?_⟩
  intro _ _ checked
  obtain ⟨valid, same⟩ := (validateCover_commits ..).mp checked
  rw [same]
  have length : durationDays * secondsPerDay ≤ longestCover :=
    Nat.mul_le_mul_right _ valid.duration_le
  simp only [read_bind_avoids, modify_bind_avoids, publish_bind_avoids,
    panicIf_bind_avoids, addUnsigned_bind_avoids, addI128_bind_avoids,
    pure_avoids]
  have short (count : Nat) (small : count ≤ state.getTotalPolicies) :
      ¬ 2 ^ 32 ≤ count + 1 := by
    unfold maxClaimsPerFarmerPerYear at few
    omega
  refine ⟨fun full => absurd full (by omega), fun _ => ?_⟩
  refine ⟨fun full => absurd full (by omega), fun _ => ?_⟩
  refine ⟨fun _ => by simp [Error.Overflows], fun _ => ?_⟩
  refine ⟨fun full => absurd full (by omega), fun _ => ?_⟩
  refine ⟨fun full => absurd full (by omega), fun _ => ?_⟩
  refine ⟨fun full => absurd full (short _ index), fun _ => ?_⟩
  refine ⟨fun full => absurd (fits valid) full, fun _ => ?_⟩
  exact ⟨fun full => absurd full (short _ pending), fun _ => trivial⟩

variable {Ω : Type} {nft : Env → PolicyNftClient Ω} {outside : Ω}

theorem activatePolicy_calm
    (mints : ∀ env caller farmer policyId distributor distributorName
      sumInsured premium startDate endDate coverageType region plotId,
      ((nft env).mintPolicy caller farmer policyId distributor distributorName
        sumInsured premium startDate endDate coverageType region
          plotId).Avoids outside Error.Overflows)
    (caller : Address) (policyId : Nat) (distributor : Address)
    (distributorName region : String) :
    (activatePolicy nft env caller policyId distributor distributorName
      region).Avoids (state, outside) Error.Overflows := by
  have capFits : maxActivePoliciesPerFarmer ≤ 2 ^ 32 - 1 := by decide
  simp only [activatePolicy, bind_avoids, internal_avoids, internal_commits,
    requireRole_avoids, requireRole_commits, loadPolicy_avoids,
    loadPolicy_commits, read_avoids, read_commits, unwrapOr_avoids,
    unwrapOr_commits, panicIf_avoids, panicIf_commits, subUnsigned_avoids,
    subUnsigned_commits, addUnsigned_avoids, addUnsigned_commits,
    modify_avoids, modify_commits, external_avoids, publish_avoids,
    implies_true, true_and, and_true, Error.Overflows, Error.host.injEq,
    reduceCtorEq, not_false_eq_true, not_true_eq_false, not_not]
  rintro _ _ ⟨_, ⟨-, -, rfl⟩, rfl⟩ _ _ ⟨_, ⟨-, rfl⟩, rfl⟩ wired _ ⟨-, rfl⟩
    policy _ ⟨_, ⟨stored, rfl⟩, rfl⟩ _ _ ⟨pending, rfl⟩ _ _ ⟨-, rfl⟩ _ _
    ⟨_, ⟨rfl, rfl⟩, rfl⟩ _ _ ⟨roomLeft, rfl⟩
  have length := bounded.length _ _ stored
  refine ⟨not_lt.mpr (bounded.ordered _ _ stored), ?_⟩
  rintro _ _ ⟨-, rfl, rfl⟩
  refine ⟨fun full => absurd full (by omega), ?_⟩
  rintro _ _ ⟨-, rfl, rfl⟩ _ _ ⟨_, rfl, rfl⟩
  refine ⟨fun full => roomLeft (capFits.trans (Nat.le_of_succ_le_succ full)),
    ?_⟩
  rintro _ _ ⟨-, rfl, rfl⟩ _ _ ⟨_, rfl, rfl⟩ _ _ ⟨_, rfl, rfl⟩
  exact mints _ _ _ _ _ _ _ _ _ _ _ _ _

section Closing

variable (exists_avoids : ∀ env policyId before,
  ((nft env).policyNftExists policyId).Avoids before Error.Overflows)

omit accounted insured bounded few early

include exists_avoids

theorem releaseSlot_calm (policyId : Nat) (policy : Policy)
    (before : State × Ω) :
    (releaseSlot nft env policyId policy).Avoids before Error.Overflows := by
  unfold releaseSlot
  split
  · simp [deactivatePolicyNft_avoids
      Error.sparesSubmission_overflows.survivable exists_avoids]
  · simp

theorem cancelPolicy_calm (caller : Address) (policyId : Nat)
    (before : State × Ω) :
    (cancelPolicy nft env caller policyId).Avoids before Error.Overflows := by
  simp [cancelPolicy, requireAuth, hasRole, loadPolicy_avoids,
    releaseSlot_calm exists_avoids, Error.Overflows]

theorem expirePolicy_calm (policyId : Nat) (before : State × Ω) :
    (expirePolicy nft env policyId).Avoids before Error.Overflows := by
  unfold expirePolicy
  refine (bind_avoids ..).mpr ⟨?_, ?_⟩
  · simp [loadPolicy_avoids, Error.Overflows]
  · intro policy middle _
    split
    · simp
    · simp [releaseSlot_calm exists_avoids, Error.Overflows]

end Closing

/-- No call to PolicyManager ends in an arithmetic trap. -/
theorem exec_calm
    (exists_avoids : ∀ env policyId before,
      ((nft env).policyNftExists policyId).Avoids before Error.Overflows)
    (mints : ∀ env caller farmer policyId distributor distributorName
      sumInsured premium startDate endDate coverageType region plotId,
      ((nft env).mintPolicy caller farmer policyId distributor distributorName
        sumInsured premium startDate endDate coverageType region
          plotId).Avoids outside Error.Overflows)
    (call : Call) :
    (exec nft env call).Avoids (state, outside) Error.Overflows := by
  cases call with
  | setPolicyNft | grantRole | revokeRole =>
      simp [exec, setPolicyNft, grantRole, revokeRole, Microcrop.grantRole,
        Microcrop.revokeRole, Error.Overflows]
  | createPolicy =>
      simp [exec,
        createPolicy_calm accounted insured bounded few early]
  | activatePolicy =>
      exact activatePolicy_calm accounted insured bounded few early mints _ _ _
        _ _
  | markAsClaimed =>
      exact markAsClaimed_avoids Error.sparesSubmission_overflows
        exists_avoids _ _ _ _
  | incrementClaimCount =>
      exact (internal_avoids ..).mpr (incrementClaimCount_avoids
        Error.sparesSubmission_overflows _ _ _ (by simp [Error.Overflows]))
  | cancelPolicy => exact cancelPolicy_calm exists_avoids _ _ _
  | expirePolicy => exact expirePolicy_calm exists_avoids _ _

end Calm

end PolicyManager

namespace PolicyNft

/-- A call lengthens the index of a distributor by at most one. -/
theorem distributorCount_effect {env : Env} {call : Call}
    {before after : State} (effect : Effect env before call after)
    (distributor : Address) :
    after.distributorCount distributor ≤
      before.distributorCount distributor + 1 := by
  cases effect with
  | @minted _ _ policyId buyer =>
      change (Function.update before.distributorCounts buyer
        (some (before.distributorCount buyer + 1)) distributor).getD 0 ≤ _
      rw [KeyedStore.getD_update]
      split
      · rename_i same
        rw [same]
      · exact Nat.le_succ _
  | wired | granted | revoked | updated | moved => exact Nat.le_succ _

section Calm

variable {state : State}
  (short : ∀ distributor, state.distributorCount distributor + 1 < 2 ^ 32)

include short

theorem mintPolicy_calm (env : Env) (caller farmer : Address)
    (policyId : Nat) (distributor : Address) (distributorName : String)
    (sumInsured premium : Int) (startDate endDate : Nat)
    (coverageType : CoverageType) (region : String) (plotId : Nat) :
    (mintPolicy env caller farmer policyId distributor distributorName
      sumInsured premium startDate endDate coverageType region
        plotId).Avoids state Error.Overflows := by
  unfold mintPolicy
  refine (bind_avoids ..).mpr ⟨by simp [Error.Overflows], ?_⟩
  intro _ _ reached
  rw [((requireRole_commits ..).mp reached).2.2]
  simp only [read_bind_avoids, modify_bind_avoids, publish_bind_avoids,
    panicIf_bind_avoids, addUnsigned_bind_avoids, pure_avoids]
  refine ⟨fun _ => by simp [Error.Overflows], fun _ => ?_⟩
  refine ⟨fun _ => by simp [Error.Overflows], fun _ => ?_⟩
  exact ⟨fun full => absurd full (Nat.not_le.mpr (short distributor)),
    fun _ => trivial⟩

theorem clientMintPolicy_calm (address : Address) (env : Env)
    (caller farmer : Address) (policyId : Nat) (distributor : Address)
    (distributorName : String) (sumInsured premium : Int)
    (startDate endDate : Nat) (coverageType : CoverageType)
    (region : String) (plotId : Nat) :
    ((clientAt address env).mintPolicy caller farmer policyId distributor
      distributorName sumInsured premium startDate endDate coverageType region
        plotId).Avoids state Error.Overflows := by
  unfold clientAt
  split
  · exact mintPolicy_calm short _ _ _ _ _ _ _ _ _ _ _ _ _
  · simp [PolicyNftClient.missing, Error.Overflows]

/-- No call to the certificate contract ends in an arithmetic trap. -/
theorem exec_calm (env : Env) (call : Call) :
    (exec env call).Avoids state Error.Overflows := by
  cases call with
  | mintPolicy => simp [exec, mintPolicy_calm short]
  | setPolicyManager | grantRole | revokeRole | updatePolicyStatus
  | transfer =>
      simp [exec, setPolicyManager, grantRole, revokeRole,
        Microcrop.grantRole, Microcrop.revokeRole, updatePolicyStatus,
        transfer, requireAuth, Error.Overflows]

end Calm

end PolicyNft

namespace SettlementAdapter

section Marks

variable (env : Env) (caller : Address) (obligationId : Nat)
  (referenceHash : BytesN 32) (before : State)

theorem beginMark_calm :
    (beginMark env caller obligationId referenceHash).Avoids before
      Error.Overflows := by
  simp [beginMark, load, requireAuth, hasRole, Error.Overflows]

theorem markFunded_calm :
    (markFunded env caller obligationId referenceHash).Avoids before
      Error.Overflows := by
  refine (bind_avoids ..).mpr ⟨beginMark_calm _ _ _ _ _, ?_⟩
  intro obligation _ _
  cases obligation.status <;> simp [Error.Overflows]

theorem markSettled_calm :
    (markSettled env caller obligationId referenceHash).Avoids before
      Error.Overflows := by
  refine (bind_avoids ..).mpr ⟨beginMark_calm _ _ _ _ _, ?_⟩
  intro obligation _ _
  split <;> simp [Error.Overflows]

end Marks

/-- No call to a SettlementAdapter ends in an arithmetic trap: its counters
are checked. -/
theorem exec_calm (env : Env) (call : Call) (before : State) :
    (exec env call).Avoids before Error.Overflows := by
  cases call with
  | recordObligation =>
      simp [exec,
        recordObligation_avoids Error.sparesSubmission_overflows]
  | setPayoutReceiver | grantRole | revokeRole =>
      simp [exec, setPayoutReceiver, grantRole, revokeRole,
        Microcrop.grantRole, Microcrop.revokeRole, Error.Overflows]
  | markFunded =>
      simp only [exec, bind_avoids, pure_avoids, implies_true, and_true]
      exact markFunded_calm _ _ _ _ _
  | markSettled =>
      simp only [exec, bind_avoids, pure_avoids, implies_true, and_true]
      exact markSettled_calm _ _ _ _ _

end SettlementAdapter

namespace Deployment

open Transaction

/-- What `steps` invocations leave of the counters. -/
structure Spacious (steps : Nat) (world : World PolicyNft.State) : Prop where
  bounded : world.policyManager.Bounded
  total : world.policyManager.getTotalPolicies ≤ steps
  distributors : ∀ distributor, world.nft.distributorCount distributor ≤ steps

section Runs

variable {deployment : Deployment PolicyNft.State PolicyNft.Call}
  {nftAddress nftAdmin : Address} (real : deployment.certificates =
    PolicyNft.certificates nftAddress nftAdmin)

/-- A step makes at most one policy. -/
theorem Step.total_le {env : Env} {before after : World PolicyNft.State}
    {call : World.Call PolicyNft.Call}
    (step : deployment.Step env before call after) :
    after.policyManager.getTotalPolicies ≤
      before.policyManager.getTotalPolicies + 1 := by
  cases step with
  | managed here effect => exact PolicyManager.total_effect effect
  | settled settlement =>
      have marked := (PolicyManager.farmerIndex_kept settlement.marked rfl).2.2
      have counted :=
        (PolicyManager.farmerIndex_kept settlement.counted rfl).2.2
      exact (counted.trans marked).le.trans (Nat.le_succ _)
  | administered | swapped | booked | certified | markerExpired =>
      exact Nat.le_succ _

include real

theorem Step.distributors_le {env : Env} {before after : World PolicyNft.State}
    {call : World.Call PolicyNft.Call}
    (step : deployment.Step env before call after) (distributor : Address) :
    after.nft.distributorCount distributor ≤
      before.nft.distributorCount distributor + 1 := by
  rcases step.nft_effect real with
    same | ⟨nftCall, -, effect⟩ | ⟨nftCall, inner, -, -, effect⟩
  · rw [same]
    exact Nat.le_succ _
  · exact PolicyNft.distributorCount_effect effect distributor
  · exact PolicyNft.distributorCount_effect effect distributor

theorem spacious_apply {steps : Nat} {world : World PolicyNft.State}
    (sound : deployment.Sound world) (spacious : Spacious steps world)
    (invocation : Invocation PolicyNft.Call) :
    Spacious (steps + 1) (deployment.apply world invocation) := by
  rcases deployment.apply_cases world invocation with ⟨-, same⟩ | ⟨-, step⟩
  · rw [same]
    exact ⟨spacious.bounded, Nat.le_succ_of_le spacious.total,
      fun distributor => Nat.le_succ_of_le (spacious.distributors distributor)⟩
  · have kept := step.manager_preserved
      (fun state => state.Accounted ∧ state.Bounded)
      (fun effect holds =>
        ⟨PolicyManager.accounted_effect effect holds.1,
          PolicyManager.bounded_effect effect holds.1 holds.2⟩)
      ⟨sound.accounted, spacious.bounded⟩
    exact ⟨kept.2, step.total_le.trans (Nat.succ_le_succ spacious.total),
      fun distributor => (step.distributors_le real distributor).trans
        (Nat.succ_le_succ (spacious.distributors distributor))⟩

theorem spacious_run (invocations : List (Invocation PolicyNft.Call)) :
    Spacious invocations.length (deployment.run invocations) := by
  induction invocations using List.reverseRecOn with
  | nil =>
      refine ⟨⟨?_, ?_, ?_, ?_⟩, Nat.le_refl _, ?_⟩
      · exact fun _ => Nat.le_refl _
      · exact fun _ => Nat.zero_le _
      · exact fun _ _ stored => by cases stored
      · exact fun _ _ stored => by cases stored
      · intro distributor
        unfold run genesis
        rw [real]
        exact Nat.le_refl _
  | append_singleton earlier invocation ih =>
      unfold run
      rw [History.run_append, List.length_append]
      exact spacious_apply real (deployment.sound_run earlier) ih invocation

/-- No call to a receiver ends in an arithmetic trap. -/
theorem receiverExec_calm {env : Env}
    {before : PayoutReceiver.State × Neighbors PolicyNft.State}
    (insured : before.2.policyManager.AllInsured)
    (call : PayoutReceiver.Call) :
    (PayoutReceiver.exec deployment.crypto deployment.managerClient
      adapterClient env call).Avoids before Error.Overflows := by
  apply PayoutReceiver.exec_avoids Error.sparesSubmission_overflows
  exact reachesAvoid (deployment.quiet_overflows real) (fun _ => insured)
    (by simp [Error.Overflows])

end Runs

/-! ## Every invocation -/

/-- With the real certificate contract, and before the counters of 32 bits or
the clock run out, no state-changing call of any contract ends in an
arithmetic trap, after any run, and no release of exposure overflows. -/
theorem arithmeticNeverTraps
    (deployment : Deployment PolicyNft.State PolicyNft.Call)
    {nftAddress nftAdmin : Address} (real : deployment.certificates =
      PolicyNft.certificates nftAddress nftAdmin)
    (invocations : List (Invocation PolicyNft.Call))
    (invocation : Invocation PolicyNft.Call)
    (short : invocations.length + PolicyManager.maxClaimsPerFarmerPerYear <
      2 ^ 32)
    (early : invocation.time + PolicyManager.longestCover < 2 ^ 64) :
    ¬ (deployment.exec invocation).Fails (deployment.run invocations)
        (.host .arithmetic) ∧
      ∀ policyId policy,
        (deployment.run invocations).policyManager.policies policyId =
            some policy →
          FitsI128 ((deployment.run invocations).policyManager.orgOutstanding
            policy.org - policy.sumInsured) := by
  have sound := deployment.sound_run invocations
  have spacious := spacious_run real invocations
  have room : ∀ distributor,
      (deployment.run invocations).nft.distributorCount distributor + 1 <
        2 ^ 32 := by
    intro distributor
    have count := spacious.distributors distributor
    unfold PolicyManager.maxClaimsPerFarmerPerYear at short
    omega
  have few : (deployment.run invocations).policyManager.getTotalPolicies +
      PolicyManager.maxClaimsPerFarmerPerYear < 2 ^ 32 := by
    have total := spacious.total
    omega
  have client : deployment.certificates.client =
      PolicyNft.clientAt nftAddress := by
    rw [real]
    rfl
  refine ⟨fun refused => ?_, fun policyId policy stored =>
    PolicyManager.releaseOrgExposure_fits sound.accounted sound.insured
      (by omega) stored⟩
  obtain ⟨timestamp, signers, call⟩ := invocation
  cases call with
  | policyManager call =>
      have failed := (onManager_fails ..).mp ((onNeighbors_fails ..).mp refused)
      refine PolicyManager.exec_calm sound.accounted sound.insured
        spacious.bounded few early
        (deployment.quiet_overflows real).exists_avoids ?_ call _ failed rfl
      rw [client]
      exact fun env => PolicyNft.clientMintPolicy_calm room nftAddress env
  | receiver address call =>
      rcases (onReceiver_fails ..).mp refused with ⟨-, missing⟩ | ⟨state, -,
        failed⟩
      · cases missing
      · exact receiverExec_calm real sound.insured call _ failed rfl
  | adapter address call =>
      rcases (onAdapter_fails ..).mp ((onNeighbors_fails ..).mp refused) with
        ⟨-, missing⟩ | ⟨ledger, -, failed⟩
      · cases missing
      · exact SettlementAdapter.exec_calm _ call ledger _ failed rfl
  | nft call =>
      have failed := (onNeighbors_fails ..).mp refused
      simp only [onNft, zoom_fails, reduceCtorEq, false_or, Except.ok.injEq,
        exists_eq_left', real] at failed
      exact PolicyNft.exec_calm room _ call _ failed rfl
  | expireMarker address preimageHash =>
      rcases (onReceiver_fails ..).mp refused with ⟨-, missing⟩ | ⟨state, -,
        failed⟩
      · cases missing
      · simp at failed

theorem arithmeticNeverTraps_season :
    ¬ (seasonDeployment.exec seasonClaim).Fails
      (seasonDeployment.run (seasonSetup ++ seasonCover))
        (.host .arithmetic) :=
  (arithmeticNeverTraps seasonDeployment rfl (seasonSetup ++ seasonCover)
    seasonClaim (by decide +kernel) (by decide +kernel)).1

end Deployment

end Microcrop
