import Microcrop.SettlementOnce
import Microcrop.SubmissionRefusals
import Microcrop.TtlLaw

/-!
# No determination makes the verifier trap

The release profile traps on overflow, so a submission is safe only because
every bound is checked before the arithmetic that relies on it.  Whatever a
determination contains, no step of the verifier ends in an arithmetic trap:
its checks refuse with a contract error code, and neither the drought index
nor a TTL helper refuses at all.
-/

namespace Microcrop

open Transaction

/-- The trap of overflow checks and of division by zero. -/
def Error.Overflows (error : Error) : Prop :=
  error = .host .arithmetic

/-- A refusal without a contract error code. -/
def Error.Codeless (error : Error) : Prop :=
  error.code = none

theorem Error.sparesSubmission_overflows :
    PayoutReceiver.SparesSubmission Error.Overflows where
  auth := nofun
  crypto := nofun
  missingContract := nofun
  common := nofun
  paused := nofun
  adapter := nofun
  checks := nofun
  policy := nofun
  survivable error overflows := by
    cases overflows
    decide

theorem Error.sparesChecks_codeless :
    PayoutReceiver.SparesChecks Error.Codeless := by
  intro error _ codeless
  cases codeless

namespace PolicyManager

/-- Some run of PolicyManager, with any certificate contract and any callers,
stores the policy. -/
def CanStore (policy : Policy) : Prop :=
  ∃ (Ω : Type) (admin : Address) (inputs : List (Input Ω)) (policyId : Nat),
    (History.run apply (constructor admin) inputs).policies policyId =
      some policy

theorem allInsured_run {Ω : Type} (admin : Address)
    (inputs : List (Input Ω)) :
    (History.run apply (constructor admin) inputs).AllInsured := by
  apply History.run_invariant apply (fun _ => True) State.AllInsured
  · intro state input _ insured
    rcases apply_cases state input with ⟨-, same⟩ | ⟨-, after, effect, same⟩
    · rw [same]
      exact insured
    · rw [same]
      exact allInsured_effect effect insured
  · intro policyId policy stored
    cases stored
  · intro _ _
    trivial

theorem CanStore.insured {policy : Policy} (canStore : CanStore policy) :
    policy.Insured := by
  obtain ⟨Ω, admin, inputs, policyId, stored⟩ := canStore
  exact allInsured_run admin inputs policyId policy stored

end PolicyManager

namespace PayoutReceiver

/-! ## Any siblings -/

section Siblings

variable {Ω : Type} {pm : Env → PolicyManagerClient Ω}
  {adapters : Env → SettlementAdapterClient Ω}

/-- No call to a sibling ends in an arithmetic trap of the sibling. -/
structure TrapFree (pm : Env → PolicyManagerClient Ω)
    (adapters : Env → SettlementAdapterClient Ω) : Prop where
  policyExists : ∀ env policyId before,
    ((pm env).policyExists policyId).Avoids before Error.Overflows
  getPolicy : ∀ env policyId before,
    ((pm env).getPolicy policyId).Avoids before Error.Overflows
  canFarmerClaim : ∀ env farmer before,
    ((pm env).canFarmerClaim farmer).Avoids before Error.Overflows
  markAsClaimed : ∀ env caller policyId before,
    ((pm env).markAsClaimed caller policyId).Avoids before Error.Overflows
  incrementClaimCount : ∀ env caller farmer before,
    ((pm env).incrementClaimCount caller farmer).Avoids before
      Error.Overflows
  recordObligation : ∀ env caller policyId org amount digest before,
    ((adapters env).recordObligation caller policyId org amount
      digest).Avoids before Error.Overflows

/-- The policies that a submission can open from a state on are policies that
PolicyManager can store. -/
def OpensStorable (pm : Env → PolicyManagerClient Ω) (env : Env)
    (before : State × Ω) : Prop :=
  ∀ policyManager policyId policy opened,
    (openPolicy pm env policyManager policyId).Commits before policy
      opened → PolicyManager.CanStore policy

theorem TrapFree.reachesAvoid (trapFree : TrapFree pm adapters) {env : Env}
    {before : State × Ω} (storable : OpensStorable pm env before)
    (policyId : Nat) :
    ReachesAvoid pm adapters env before policyId Error.Overflows where
  opens policyManager := by
    simp [openPolicy, trapFree.policyExists, trapFree.getPolicy,
      Error.Overflows]
  insured _ policyManager policy opened opens :=
    (storable policyManager policyId policy opened opens).insured
  fresh policyManager policy opened _ assessedAt := by
    simp [requireFreshAndClaimable, trapFree.canFarmerClaim, Error.Overflows]
  settles policyManager policy opened _ assessedAt checked _ adapter report
      digest := by
    simp [settleVerified, trapFree.recordObligation, trapFree.markAsClaimed,
      trapFree.incrementClaimCount, Error.Overflows]

end Siblings

/-! ## The steps -/

section Steps

variable {σ : Type}

/-- The steps of both submissions that compute refuse only with contract error
codes.  The payout check relies on the bound that the evidence check put on
the damage. -/
structure StepsCoded (σ : Type) : Prop where
  crop : ∀ (d : CropDetermination) (before : σ),
    (requireCropEvidence d).Avoids before Error.Codeless
  drought : ∀ (d : DroughtDetermination) (before : σ),
    (requireDroughtEvidence d).Avoids before Error.Codeless
  plot : ∀ (policy : Policy) (latE6 lonE6 : Int) (before : σ),
    (requirePlot policy latE6 lonE6).Avoids before Error.Codeless
  window : ∀ (policy : Policy) (d : DroughtDetermination) (before : σ),
    (requireCoverWindow policy d).Avoids before Error.Codeless
  payout : ∀ (policy : Policy) (bp : Nat) (payout : Int) (before : σ),
    PolicyManager.CanStore policy → bp ≤ maxDamagePercentage →
      (requirePayout policy bp payout).Avoids before Error.Codeless

theorem stepsCoded (σ : Type) : StepsCoded σ where
  crop d before :=
    requireCropEvidence_avoids before Error.sparesChecks_codeless d
  drought d before :=
    requireDroughtEvidence_avoids before Error.sparesChecks_codeless d
  plot policy latE6 lonE6 before :=
    requirePlot_avoids before Error.sparesChecks_codeless policy latE6 lonE6
  window policy d before :=
    requireCoverWindow_avoids before Error.sparesChecks_codeless policy d
  payout _ _ payout before canStore bpLe :=
    requirePayout_avoids before Error.sparesChecks_codeless
      (fun _ => canStore.insured) bpLe payout

/-- The freshness check refuses with a contract error code, or as PolicyManager
refuses the query for the farmer's claims. -/
theorem requireFreshAndClaimable_coded {Ω : Type}
    {pm : Env → PolicyManagerClient Ω} {env : Env} {policyManager : Address}
    {policy : Policy} {assessedAt : Nat} {before : State × Ω} {error : Error}
    (refused : (requireFreshAndClaimable pm env policyManager policy
      assessedAt).Fails before error) :
    error.code ≠ none ∨ ((pm (env.invoke policyManager)).canFarmerClaim
      policy.farmer).Fails before.2 error := by
  simp only [requireFreshAndClaimable, bind_fails, panicIf_fails,
    panicIf_commits, external_fails, external_commits] at refused
  rcases refused with ⟨-, rfl⟩ | ⟨_, _, ⟨-, rfl⟩, ⟨-, rfl⟩ | ⟨_, _, ⟨-, rfl⟩,
    queried | ⟨_, _, -, -, rfl⟩⟩⟩
  · exact Or.inl (by decide)
  · exact Or.inl (by decide)
  · exact Or.inr queried
  · exact Or.inl (by decide)

end Steps

end PayoutReceiver

namespace Deployment

/-- In a deployment with the real certificate contract no sibling traps on
arithmetic either. -/
theorem quiet_overflows
    (deployment : Deployment PolicyNft.State PolicyNft.Call)
    {nftAddress nftAdmin : Address} (real : deployment.certificates =
      PolicyNft.certificates nftAddress nftAdmin) :
    deployment.Quiet Error.Overflows where
  spares := Error.sparesSubmission_overflows
  exists_avoids env policyId before := by
    rw [real]
    dsimp only [PolicyNft.certificates, PolicyNft.clientAt]
    split
    · simp
    · simp [PolicyNftClient.missing, Error.Overflows]

/-- No submission to a receiver of the deployed system ends in an arithmetic
trap, after any run. -/
theorem submission_avoids
    (deployment : Deployment PolicyNft.State PolicyNft.Call)
    {nftAddress nftAdmin : Address} (real : deployment.certificates =
      PolicyNft.certificates nftAddress nftAdmin)
    (invocations : List (Invocation PolicyNft.Call)) (timestamp : U64)
    (signers : Address → Bool) (receiver caller : Address)
    (signature : BytesN 64) (recoveryId : U32) :
    (∀ d : CropDetermination,
      (deployment.exec ⟨timestamp, signers, .receiver receiver
        (.submitDetermination caller d signature recoveryId)⟩).Avoids
          (deployment.run invocations) Error.Overflows) ∧
    (∀ d : DroughtDetermination,
      (deployment.exec ⟨timestamp, signers, .receiver receiver
        (.submitDroughtDetermination caller d signature recoveryId)⟩).Avoids
          (deployment.run invocations) Error.Overflows) := by
  have insured := (deployment.sound_run invocations).insured
  have quiet := deployment.quiet_overflows real
  constructor
  · intro d error refused
    rcases (onReceiver_fails _ _ _ _).mp refused with
      ⟨-, rfl⟩ | ⟨state, -, failed⟩
    · exact quiet.spares.missingContract
    · exact PayoutReceiver.submitDetermination_avoids quiet.spares caller d
        signature recoveryId
        (reachesAvoid quiet (fun _ => insured) (by rintro (⟨⟨⟩⟩ | ⟨⟨⟩⟩))
          d.onChainPolicyId.val) error failed
  · intro d error refused
    rcases (onReceiver_fails _ _ _ _).mp refused with
      ⟨-, rfl⟩ | ⟨state, -, failed⟩
    · exact quiet.spares.missingContract
    · exact PayoutReceiver.submitDroughtDetermination_avoids quiet.spares
        caller d signature recoveryId
        (reachesAvoid quiet (fun _ => insured) (by rintro (⟨⟨⟩⟩ | ⟨⟨⟩⟩))
          d.onChainPolicyId.val) error failed

end Deployment

/-! ## Every submission -/

open PayoutReceiver
open PolicyManager (seasonAddress)

/-- Whatever a determination contains and whatever the siblings answer, no
arithmetic of a submission traps, in any state and at any time; the steps that
compute refuse only with contract error codes; the plot check accepts exactly
the coordinates within one unit per axis; the drought index and the TTL helpers
are never refused and their casts drop nothing. -/
theorem verifierNeverTraps :
    (∀ (Ω : Type) (crypto : Crypto) (pm : Env → PolicyManagerClient Ω)
      (adapters : Env → SettlementAdapterClient Ω) (env : Env)
      (before : State × Ω), TrapFree pm adapters →
      OpensStorable pm env before →
      ∀ (caller : Address) (signature : BytesN 64) (recoveryId : U32),
        (∀ d : CropDetermination,
          (submitDetermination crypto pm adapters env caller d signature
            recoveryId).Avoids before Error.Overflows) ∧
        (∀ d : DroughtDetermination,
          (submitDroughtDetermination crypto pm adapters env caller d
            signature recoveryId).Avoids before Error.Overflows)) ∧
    (∀ (deployment : Deployment PolicyNft.State PolicyNft.Call)
      (nftAddress nftAdmin : Address), deployment.certificates =
        PolicyNft.certificates nftAddress nftAdmin →
      ∀ (invocations : List (Invocation PolicyNft.Call)) (timestamp : U64)
        (signers : Address → Bool) (receiver caller : Address)
        (signature : BytesN 64) (recoveryId : U32),
        (∀ d : CropDetermination,
          (deployment.exec ⟨timestamp, signers, .receiver receiver
            (.submitDetermination caller d signature recoveryId)⟩).Avoids
              (deployment.run invocations) Error.Overflows) ∧
        (∀ d : DroughtDetermination,
          (deployment.exec ⟨timestamp, signers, .receiver receiver
            (.submitDroughtDetermination caller d signature
              recoveryId)⟩).Avoids
              (deployment.run invocations) Error.Overflows)) ∧
    (∀ σ : Type, StepsCoded σ) ∧
    (∀ (Ω : Type) (pm : Env → PolicyManagerClient Ω) (env : Env)
      (policyManager : Address) (policy : Policy) (assessedAt : Nat)
      (before : State × Ω) (error : Error),
      (requireFreshAndClaimable pm env policyManager policy
        assessedAt).Fails before error →
      error.code ≠ none ∨ ((pm (env.invoke policyManager)).canFarmerClaim
        policy.farmer).Fails before.2 error) ∧
    (∀ (policy : Policy) (latE6 lonE6 : Int) (before : State),
      (requirePlot policy latE6 lonE6).Commits before () before ↔
        (latE6 - policy.latE6).natAbs ≤ 1 ∧
          (lonE6 - policy.lonE6).natAbs ≤ 1) ∧
    (∀ (w1 r1 w2 r2 : U128) (before : State),
      (Drought.rdiV1DroughtDamage w1 r1 w2 r2).Commits before
        (Drought.index w1 r1 w2 r2) before) ∧
    (∀ (ledger : LedgerInfo) (call : TtlCall) (before : Nat) (error : Error),
      ¬ (call.exec ledger).Fails before error) ∧
    (∀ ledger : LedgerInfo,
      ledgersUntilWith ledger (tryIntoU32 : Nat → Contract Nat Nat) =
        ledgersUntil ledger) := by
  constructor
  · intro Ω crypto pm adapters env before trapFree storable caller signature
      recoveryId
    have reaches := trapFree.reachesAvoid storable
    have spares := Error.sparesSubmission_overflows
    constructor
    · intro d
      exact submitDetermination_avoids spares caller d signature recoveryId
        (reaches d.onChainPolicyId.val)
    · intro d
      exact submitDroughtDetermination_avoids spares caller d signature
        recoveryId (reaches d.onChainPolicyId.val)
  constructor
  · intro deployment nftAddress nftAdmin real
    exact deployment.submission_avoids real
  constructor
  · exact stepsCoded
  constructor
  · intro Ω pm env policyManager policy assessedAt before error refused
    exact requireFreshAndClaimable_coded refused
  constructor
  · intro policy latE6 lonE6 before
    simp [OnPlot]
  constructor
  · intro w1 r1 w2 r2 before
    simp
  constructor
  · intro ledger call
    exact call.exec_not_fails ledger
  · exact ledgersUntil_exact

/-- A PolicyManager that knows one policy, which may be claimed. -/
def knowing (policy : Policy) : PolicyManagerClient Unit where
  getPolicy _ := pure policy
  policyExists _ := pure true
  canFarmerClaim _ := pure true
  markAsClaimed _ _ := pure ()
  incrementClaimCount _ _ := pure ()

/-- An adapter that is not there. -/
def absentAdapter : SettlementAdapterClient Unit where
  recordObligation _ _ _ _ _ := .fail (.host .missingContract)
  payoutReceiver := .fail (.host .missingContract)

theorem verifierNeverTraps_season :
    (∃ policy, (History.run PolicyManager.apply
        (PolicyManager.constructor (seasonAddress 1))
        ((PolicyManager.soldAndClaimed (seasonAddress 1)
          (seasonAddress 2)).take 5)).policies 1 = some policy ∧
      (submitDroughtDetermination v1Crypto (fun _ => knowing policy)
        (fun _ => absentAdapter) (seasonDeployment.env seasonClaim)
        (seasonAddress 3) v1 v1Signature 1).Avoids
          (PayoutReceiver.constructor (seasonContract 2) (seasonContract 1)
            (seasonAddress 1), ()) Error.Overflows) ∧
    (seasonDeployment.exec seasonClaim).Avoids
      (seasonDeployment.run (seasonSetup ++ seasonCover))
        Error.Overflows := by
  constructor
  · obtain ⟨policy, stored⟩ : ∃ policy, (History.run PolicyManager.apply
        (PolicyManager.constructor (seasonAddress 1))
        ((PolicyManager.soldAndClaimed (seasonAddress 1)
          (seasonAddress 2)).take 5)).policies 1 = some policy :=
      Option.isSome_iff_exists.mp (by decide +kernel)
    have trapFree : TrapFree (fun _ => knowing policy)
        (fun _ => absentAdapter) := by
      constructor <;> intros <;>
        simp [knowing, absentAdapter, Error.Overflows]
    have storable : ∀ env before,
        OpensStorable (fun _ => knowing policy) env before := by
      intro env before policyManager policyId opened after opens
      have answered := ((openPolicy_commits _ _ _ _ _ _ _).mp opens).1
      simp only [knowing, pure_commits] at answered
      obtain ⟨queried, -, rfl, -⟩ := answered
      exact ⟨Unit, _, _, 1, stored⟩
    exact ⟨policy, stored, (verifierNeverTraps.1 Unit v1Crypto _ _ _ _
      trapFree (storable _ _) (seasonAddress 3) v1Signature 1).2 v1⟩
  · exact (verifierNeverTraps.2.1 seasonDeployment (seasonContract 3)
      (seasonAddress 1) rfl (seasonSetup ++ seasonCover) _ _ _ _ _ _).2 v1

end Microcrop
