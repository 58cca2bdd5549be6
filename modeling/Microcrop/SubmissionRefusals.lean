import Microcrop.SystemInvariant

/-!
# How a submission can be refused

For a set of errors that spares the codes of the checks, every step of a
submission that runs in the verifier itself avoids the set: the arithmetic of
a step never traps, since the steps before it bound its operands.  What is
left are the calls to PolicyManager and to the adapter.
-/

namespace Microcrop

open Transaction

namespace PayoutReceiver

/-- The set contains no code that a check raises, the farmer's claim limit
apart. -/
def SparesChecks (excluded : Error → Prop) : Prop :=
  ∀ error : PayoutError, error ≠ .farmerClaimLimitExceeded →
    ¬ excluded (.payout error)

/-- The set contains no error by which a submission is refused, the two claim
limits, arithmetic traps and the errors of the certificate contract apart. -/
structure SparesSubmission (excluded : Error → Prop) : Prop where
  auth : ¬ excluded (.host .auth)
  crypto : ¬ excluded (.host .crypto)
  missingContract : ¬ excluded (.host .missingContract)
  common : ∀ error, ¬ excluded (.common error)
  paused : ∀ error, ¬ excluded (.paused error)
  adapter : ∀ error, ¬ excluded (.adapter error)
  checks : SparesChecks excluded
  policy : ∀ error : PolicyError, error ≠ .tooManyClaimsThisYear →
    ¬ excluded (.policy error)
  survivable : ∀ error, excluded error → ¬ Fatal error

variable {excluded : Error → Prop}

/-! ## The checks -/

section Checks

variable {σ : Type} (before : σ) (spares : SparesChecks excluded)

include spares

/-- With sub-scores in range no product of the weighted damage overflows. -/
theorem requireCropEvidence_avoids (d : CropDetermination) :
    (requireCropEvidence d).Avoids before excluded := by
  have code : ∀ error : PayoutError, error ≠ .farmerClaimLimitExceeded →
      ¬ excluded (.payout error) := spares
  have expected (middle : σ) (weatherLe : d.weatherDamage.val ≤ 100)
      (satelliteLe : d.satelliteDamage.val ≤ 100) :
      (expectedBp d).Avoids middle excluded :=
    avoids_of_not_fails ((expectedBp_commits weatherLe satelliteLe middle
      middle _).mpr ⟨rfl, rfl⟩).not_fails
  simp only [requireCropEvidence, bind_avoids, panicIf_avoids,
    panicIf_commits, not_or, not_lt, gt_iff_lt, ne_eq, reduceCtorEq,
    not_false_eq_true, code, implies_true, true_and, and_true]
  rintro _ _ ⟨-, rfl⟩ _ _ ⟨⟨weatherLe, satelliteLe⟩, rfl⟩ _ _ - _ _ -
  exact expected _ weatherLe satelliteLe

/-- No product of the drought checks overflows, and the index never traps. -/
theorem requireDroughtEvidence_avoids (d : DroughtDetermination) :
    (requireDroughtEvidence d).Avoids before excluded := by
  have code : ∀ error : PayoutError, error ≠ .farmerClaimLimitExceeded →
      ¬ excluded (.payout error) := spares
  have index : ∀ w1 r1 w2 r2 (middle : σ),
      (Drought.rdiV1DroughtDamage w1 r1 w2 r2).Avoids middle excluded :=
    fun w1 r1 w2 r2 middle => avoids_of_not_fails
      (Drought.rdiV1DroughtDamage_fails w1 r1 w2 r2 middle)
  simp only [requireDroughtEvidence, bind_avoids, panicIf_avoids,
    panicIf_commits, mulUnsigned_avoids, index, not_lt, gt_iff_lt, ne_eq,
    reduceCtorEq, not_false_eq_true, code, implies_true, true_and, and_true]
  rintro _ _ ⟨-, rfl⟩ _ _ ⟨damageLe, rfl⟩ _ _ - overflow
  omega

theorem requirePlot_avoids (policy : Policy) (latE6 lonE6 : Int) :
    (requirePlot policy latE6 lonE6).Avoids before excluded := by
  have code := spares .plotLocationMismatch (by decide)
  simp [requirePlot, code]

/-- The day cover started is not after the cover, and the end of the season is
added with a check. -/
theorem requireCoverWindow_avoids (policy : Policy)
    (d : DroughtDetermination) :
    (requireCoverWindow policy d).Avoids before excluded := by
  have outside := spares .evidenceOutsideCoverWindow (by decide)
  have incomplete := spares .seasonNotComplete (by decide)
  have startDay := Nat.mod_le policy.startDate Drought.secondsPerDay
  simp only [requireCoverWindow, bind_avoids, subUnsigned_avoids,
    panicIf_avoids, outside, incomplete, not_false_eq_true, implies_true,
    and_true]
  intro later
  omega

/-- The product of an insured sum with a share of at most 100% fits. -/
theorem requirePayout_avoids {policy : Policy} {bp : Nat}
    (insured : excluded (.host .arithmetic) → policy.Insured)
    (bpLe : bp ≤ maxDamagePercentage) (payout : Int) :
    (requirePayout policy bp payout).Avoids before excluded := by
  have code := spares .invalidPayoutCalculation (by decide)
  simp only [requirePayout, bind_avoids, mulI128_avoids, panicIf_avoids,
    code, not_false_eq_true, implies_true, and_true]
  intro overflow traps
  exact overflow ((insured traps).paysOut bpLe).1

end Checks

/-! ## The steps that read the verifier's own state -/

section Reads

variable (before : State) (spares : SparesSubmission excluded)

include spares

theorem beginSubmission_avoids (env : Env) (caller : Address)
    (kind : MethodologyKind) :
    (beginSubmission env caller kind).Avoids before excluded := by
  have unconfigured := spares.checks .signerNotConfigured (by decide)
  have disabled := spares.checks .methodologyDisabled (by decide)
  simp [beginSubmission, spares.auth, spares.common, spares.paused,
    unconfigured, disabled]

theorem siblings_avoids : siblings.Avoids before excluded := by
  simp [siblings, spares.common]

theorem networkDomain_avoids : networkDomain.Avoids before excluded := by
  simp [networkDomain, spares.common]

theorem requireUnconsumedAndSigned_avoids (crypto : Crypto)
    (digest : BytesN 32) (signature : BytesN 64) (recoveryId : U32)
    (signer : BytesN 65) :
    (requireUnconsumedAndSigned crypto digest signature recoveryId
      signer).Avoids before excluded := by
  have consumed := spares.checks .determinationAlreadyConsumed (by decide)
  have unsigned := spares.checks .invalidSignature (by decide)
  simp [requireUnconsumedAndSigned, spares.crypto, consumed, unsigned]

end Reads

/-! ## Whole submissions -/

section Submission

variable {Ω : Type} {crypto : Crypto} {pm : Env → PolicyManagerClient Ω}
  {adapters : Env → SettlementAdapterClient Ω} {env : Env}
  {before : State × Ω}

/-- What a submission needs of the contracts it calls, from a state on, to
avoid the set: the policy is opened, checked for freshness and settled without
such an error, and is insured if arithmetic traps are in the set. -/
structure ReachesAvoid (pm : Env → PolicyManagerClient Ω)
    (adapters : Env → SettlementAdapterClient Ω) (env : Env)
    (before : State × Ω) (policyId : Nat) (excluded : Error → Prop) :
    Prop where
  opens : ∀ policyManager,
    (openPolicy pm env policyManager policyId).Avoids before excluded
  insured : excluded (.host .arithmetic) → ∀ policyManager policy opened,
    (openPolicy pm env policyManager policyId).Commits before policy
      opened → policy.Insured
  fresh : ∀ policyManager policy opened,
    (openPolicy pm env policyManager policyId).Commits before policy
      opened → ∀ assessedAt,
        (requireFreshAndClaimable pm env policyManager policy
          assessedAt).Avoids opened excluded
  settles : ∀ policyManager policy opened,
    (openPolicy pm env policyManager policyId).Commits before policy
      opened → ∀ assessedAt checked,
        (requireFreshAndClaimable pm env policyManager policy
          assessedAt).Commits opened () checked →
          ∀ adapter report digest,
            (settleVerified pm adapters env policyManager adapter policy
              report digest).Avoids checked excluded

variable (spares : SparesSubmission excluded)

include spares

theorem submitDetermination_avoids (caller : Address)
    (d : CropDetermination) (signature : BytesN 64) (recoveryId : U32)
    (reaches : ReachesAvoid pm adapters env before d.onChainPolicyId.val
      excluded) :
    (submitDetermination crypto pm adapters env caller d signature
      recoveryId).Avoids before excluded := by
  have mismatch := spares.checks .sumInsuredMismatch (by decide)
  have otherCover := spares.checks .coverageNotSettledByMethodology
    (by decide)
  simp only [submitDetermination, bind_avoids, internal_avoids,
    internal_commits, panicIf_avoids, panicIf_commits,
    beginSubmission_avoids _ spares, beginSubmission_commits,
    requireCropEvidence_avoids _ spares.checks, requireCropEvidence_commits,
    siblings_avoids _ spares, siblings_commits,
    requirePlot_avoids _ spares.checks, requirePlot_commits,
    requirePayout_commits, networkDomain_avoids _ spares,
    networkDomain_commits, requireUnconsumedAndSigned_avoids _ spares,
    requireUnconsumedAndSigned_commits, mismatch, otherCover,
    not_false_eq_true, implies_true, true_and]
  rintro signer _ ⟨_, ⟨-, -, -, -, -, rfl⟩, rfl⟩ _ _ ⟨evidence, rfl⟩
    ⟨adapter, policyManager⟩ _ ⟨_, ⟨-, -, rfl⟩, rfl⟩
  constructor
  · exact reaches.opens policyManager
  rintro policy opened opens _ _ ⟨-, rfl⟩ _ _ ⟨-, rfl⟩ _ _ ⟨-, rfl⟩
  constructor
  · exact requirePayout_avoids _ spares.checks
      (fun traps => reaches.insured traps _ _ _ opens) evidence.bp_le _
  rintro _ _ ⟨-, rfl⟩
  constructor
  · exact reaches.fresh _ _ _ opens _
  rintro _ checked checks domain _ ⟨_, ⟨-, rfl⟩, rfl⟩ _ _
    ⟨_, ⟨-, -, rfl⟩, rfl⟩
  exact reaches.settles _ _ _ opens _ _ checks _ _ _

theorem submitDroughtDetermination_avoids (caller : Address)
    (d : DroughtDetermination) (signature : BytesN 64) (recoveryId : U32)
    (reaches : ReachesAvoid pm adapters env before d.onChainPolicyId.val
      excluded) :
    (submitDroughtDetermination crypto pm adapters env caller d signature
      recoveryId).Avoids before excluded := by
  have mismatch := spares.checks .sumInsuredMismatch (by decide)
  have otherCover := spares.checks .coverageNotSettledByMethodology
    (by decide)
  simp only [submitDroughtDetermination, bind_avoids, internal_avoids,
    internal_commits, panicIf_avoids, panicIf_commits, publish_avoids,
    publish_commits, beginSubmission_avoids _ spares,
    beginSubmission_commits, requireDroughtEvidence_avoids _ spares.checks,
    requireDroughtEvidence_commits, siblings_avoids _ spares,
    siblings_commits, requirePlot_avoids _ spares.checks,
    requirePlot_commits, requireCoverWindow_avoids _ spares.checks,
    requireCoverWindow_commits, requirePayout_commits,
    networkDomain_avoids _ spares, networkDomain_commits,
    requireUnconsumedAndSigned_avoids _ spares,
    requireUnconsumedAndSigned_commits, mismatch, otherCover,
    not_false_eq_true, implies_true, true_and]
  rintro signer _ ⟨_, ⟨-, -, -, -, -, rfl⟩, rfl⟩ _ _ ⟨evidence, rfl⟩
    ⟨adapter, policyManager⟩ _ ⟨_, ⟨-, -, rfl⟩, rfl⟩
  constructor
  · exact reaches.opens policyManager
  rintro policy opened opens _ _ ⟨-, rfl⟩ _ _ ⟨-, rfl⟩ _ _ ⟨-, rfl⟩ _ _
    ⟨-, rfl⟩
  constructor
  · exact requirePayout_avoids _ spares.checks
      (fun traps => reaches.insured traps _ _ _ opens) evidence.bp_le _
  rintro _ _ ⟨-, rfl⟩
  constructor
  · exact reaches.fresh _ _ _ opens _
  rintro _ checked checks domain _ ⟨_, ⟨-, rfl⟩, rfl⟩ _ _
    ⟨_, ⟨-, -, rfl⟩, rfl⟩ _ _ rfl
  exact reaches.settles _ _ _ opens _ _ checks _ _ _

/-- A new adapter is refused with errors of the receiver only. -/
theorem setSettlementAdapter_avoids (caller adapter : Address) :
    (setSettlementAdapter adapters env caller adapter).Avoids before
      excluded := by
  have unbound := spares.checks .settlementAdapterNotBound (by decide)
  have bound (answer : Except Error (Option Address)) (middle : State × Ω) :
      (requireBound env.currentContract answer).Avoids middle excluded := by
    cases answer <;> simp [requireBound, unbound]
  simp only [setSettlementAdapter, bind_avoids, internal_avoids,
    requireRole_avoids, panicIf_avoids,
    attempt_avoids_of_survivable spares.survivable, bound, read_avoids,
    unwrapOr_avoids, modify_avoids, publish_avoids, spares.auth,
    spares.common, unbound, not_false_eq_true, implies_true, and_true]

/-- No call to a receiver is refused with an error of the set. -/
theorem exec_avoids (call : Call)
    (reaches : ∀ policyId, ReachesAvoid pm adapters env before policyId
      excluded) :
    (exec crypto pm adapters env call).Avoids before excluded := by
  cases call with
  | submitDetermination caller d signature recoveryId =>
      exact submitDetermination_avoids spares caller d signature recoveryId
        (reaches d.onChainPolicyId.val)
  | submitDroughtDetermination caller d signature recoveryId =>
      exact submitDroughtDetermination_avoids spares caller d signature
        recoveryId (reaches d.onChainPolicyId.val)
  | setSettlementAdapter caller adapter =>
      exact setSettlementAdapter_avoids spares caller adapter
  | _ =>
      simp [exec, setAuthorizedSigner, setNetworkDomain,
        PayoutReceiver.grantRole, PayoutReceiver.revokeRole,
        Microcrop.grantRole, Microcrop.revokeRole, pause, unpause,
        setMethodologyEnabled, spares.auth, spares.common]

end Submission

end PayoutReceiver

/-! ## The contracts that a submission calls -/

section Siblings

variable {excluded : Error → Prop}
  (spares : PayoutReceiver.SparesSubmission excluded)

include spares in
theorem SettlementAdapter.recordObligation_avoids (env : Env)
    (caller : Address) (policyId : Nat) (org : Address) (amount : Int)
    (determinationDigest : BytesN 32) (before : SettlementAdapter.State) :
    (recordObligation env caller policyId org amount
      determinationDigest).Avoids before excluded := by
  simp only [recordObligation, bind_avoids, read_avoids, unwrapOr_avoids,
    panicIf_avoids, requireAuth, spares.auth, spares.common, spares.adapter,
    not_false_eq_true, implies_true, true_and]
  intros
  split
  · simp [load, spares.adapter]
  · simp [recordNew, spares.common, spares.adapter]

namespace PolicyManager

theorem loadPolicy_avoids (policyId : Nat) (before : State) :
    (loadPolicy policyId).Avoids before excluded ↔
      (before.policies policyId = none →
        ¬ excluded (.policy .policyDoesNotExist)) := by
  simp [loadPolicy]

variable {Ω : Type} {nft : Env → PolicyNftClient Ω}

/-- The only refusal of the deactivation is that of the existence check, or a
fatal one. -/
theorem deactivatePolicyNft_avoids
    (survivable : ∀ error, excluded error → ¬ Fatal error)
    (exists_avoids : ∀ env policyId before,
      ((nft env).policyNftExists policyId).Avoids before excluded)
    (env : Env) (policyId : Nat) (before : State × Ω) :
    (deactivatePolicyNft nft env policyId).Avoids before excluded := by
  simp only [deactivatePolicyNft, bind_avoids, internal_avoids, read_avoids,
    true_and]
  intro policyNft middle _
  cases policyNft with
  | none => simp
  | some address =>
      simp only [bind_avoids, external_avoids]
      constructor
      · exact exists_avoids _ _ _
      · intro minted _ _
        cases minted with
        | false => simp
        | true =>
            simp only [if_true, bind_avoids,
              attempt_avoids_of_survivable survivable, true_and]
            intro result _ _
            cases result <;> simp

include spares

theorem markAsClaimed_avoids
    (exists_avoids : ∀ env policyId before,
      ((nft env).policyNftExists policyId).Avoids before excluded)
    (env : Env) (caller : Address) (policyId : Nat) (before : State × Ω) :
    (markAsClaimed nft env caller policyId).Avoids before excluded := by
  have missing := spares.policy .policyDoesNotExist (by decide)
  have status := spares.policy .invalidPolicyStatus (by decide)
  have expired := spares.policy .policyExpired (by decide)
  simp [markAsClaimed, loadPolicy_avoids, spares.auth, spares.common, missing,
    status, expired,
    deactivatePolicyNft_avoids spares.survivable exists_avoids]

theorem incrementClaimCount_avoids (env : Env) (caller farmer : Address)
    {before : State} (room : excluded (.policy .tooManyClaimsThisYear) →
      before.claimsInWindow env.timestamp farmer <
        maxClaimsPerFarmerPerYear) :
    (incrementClaimCount env caller farmer).Avoids before excluded := by
  simp only [incrementClaimCount, bind_avoids, requireRole_avoids,
    requireRole_commits, read_avoids, read_commits, panicIf_avoids,
    modify_avoids, publish_avoids, spares.auth, spares.common,
    not_false_eq_true, implies_true, true_and, and_true]
  rintro _ _ ⟨-, -, rfl⟩ _ _ ⟨rfl, rfl⟩ full limits
  exact absurd (room limits) (not_lt.mpr full)

end PolicyManager

end Siblings

namespace Deployment

variable {Ω κ : Type} (deployment : Deployment Ω κ) {env : Env}
  {excluded : Error → Prop}

/-- The set spares a submission, and the certificate contract never answers
the existence check with an error of the set. -/
structure Quiet (excluded : Error → Prop) : Prop where
  spares : PayoutReceiver.SparesSubmission excluded
  exists_avoids : ∀ env policyId before,
    ((deployment.certificates.client env).policyNftExists policyId).Avoids
      before excluded

variable {deployment} (quiet : deployment.Quiet excluded)

include quiet

section Clients

variable (before : Neighbors Ω)

theorem policyExists_avoids (policyId : Nat) :
    ((deployment.managerClient env).policyExists policyId).Avoids before
      excluded := by
  unfold managerClient
  split
  · simp [onManager]
  · simp [PolicyManagerClient.missing, quiet.spares.missingContract]

theorem getPolicy_avoids (policyId : Nat) :
    ((deployment.managerClient env).getPolicy policyId).Avoids before
      excluded := by
  have missing := quiet.spares.policy .policyDoesNotExist (by decide)
  unfold managerClient
  split
  · simp [onManager, PolicyManager.loadPolicy_avoids, missing]
  · simp [PolicyManagerClient.missing, quiet.spares.missingContract]

theorem canFarmerClaim_avoids (farmer : Address) :
    ((deployment.managerClient env).canFarmerClaim farmer).Avoids before
      excluded := by
  unfold managerClient
  split
  · simp [onManager]
  · simp [PolicyManagerClient.missing, quiet.spares.missingContract]

theorem managerMarkAsClaimed_avoids (caller : Address) (policyId : Nat) :
    ((deployment.managerClient env).markAsClaimed caller policyId).Avoids
      before excluded := by
  unfold managerClient
  split
  · simp [onManager, PolicyManager.markAsClaimed_avoids quiet.spares
      quiet.exists_avoids]
  · simp [PolicyManagerClient.missing, quiet.spares.missingContract]

theorem managerIncrementClaimCount_avoids (caller : Address)
    {farmer : Address} (room : excluded (.policy .tooManyClaimsThisYear) →
      before.policyManager.claimsInWindow env.timestamp farmer <
        PolicyManager.maxClaimsPerFarmerPerYear) :
    ((deployment.managerClient env).incrementClaimCount caller farmer).Avoids
      before excluded := by
  unfold managerClient
  split
  · simp [onManager,
      PolicyManager.incrementClaimCount_avoids quiet.spares _ _ _ room]
  · simp [PolicyManagerClient.missing, quiet.spares.missingContract]

theorem adapterRecordObligation_avoids (caller : Address) (policyId : Nat)
    (org : Address) (amount : Int) (determinationDigest : BytesN 32) :
    ((adapterClient env).recordObligation caller policyId org amount
      determinationDigest).Avoids before excluded := by
  intro error refused
  rcases (onAdapter_fails _ _ _ _).mp refused with
    ⟨-, rfl⟩ | ⟨ledger, -, refusedThere⟩
  · exact quiet.spares.missingContract
  · exact SettlementAdapter.recordObligation_avoids quiet.spares _ _ _ _ _ _
      _ error refusedThere

end Clients

section Submission

open PayoutReceiver

variable {before after : PayoutReceiver.State × Neighbors Ω}
  {policyManager : Address} {policy : Policy}

theorem openPolicy_avoids (policyId : Nat) :
    (openPolicy deployment.managerClient env policyManager policyId).Avoids
      before excluded := by
  have absent := quiet.spares.checks .policyDoesNotExist (by decide)
  have inactive := quiet.spares.checks .policyNotActive (by decide)
  have expired := quiet.spares.checks .policyExpired (by decide)
  have paid := quiet.spares.checks .policyAlreadyPaid (by decide)
  simp only [openPolicy, bind_avoids, external_avoids, internal_avoids,
    panicIf_avoids, read_avoids, pure_avoids, policyExists_avoids quiet,
    getPolicy_avoids quiet, absent, inactive, expired, paid,
    not_false_eq_true, implies_true, and_self]

omit quiet in
/-- An opened policy is the stored one, and opening it changes nothing. -/
theorem openPolicy_reads {policyId : Nat}
    (opens : (openPolicy deployment.managerClient env policyManager
      policyId).Commits before policy after) :
    policyManager = deployment.policyManager ∧
      before.2.policyManager.policies policyId = some policy ∧
        policy.status = .active ∧ after = before := by
  obtain ⟨⟨queried, existing, fetches⟩, active, -, -, same⟩ :=
    (openPolicy_commits _ _ _ _ _ _ _).mp opens
  have here := deployment.policyExists_reaches existing
  rw [here] at existing fetches
  obtain ⟨-, rfl⟩ := (deployment.policyExists_commits _ _ rfl _).mp existing
  obtain ⟨stored, unchanged⟩ :=
    (deployment.getPolicy_commits _ _ rfl _ _).mp fetches
  exact ⟨here, stored, active, Prod.ext same unchanged⟩

omit quiet in
/-- The freshness check changes nothing. -/
theorem requireFreshAndClaimable_reads {assessedAt : Nat}
    (checks : (requireFreshAndClaimable deployment.managerClient env
      deployment.policyManager policy assessedAt).Commits before () after) :
    after = before := by
  obtain ⟨-, claimable, same⟩ :=
    (requireFreshAndClaimable_commits _ _ _ _ _ _ _ _).mp checks
  exact Prod.ext same
    ((deployment.canFarmerClaim_commits _ _ rfl _).mp claimable).2

theorem requireFreshAndClaimable_avoids
    (room : excluded (.payout .farmerClaimLimitExceeded) →
      before.2.policyManager.claimsInWindow env.timestamp policy.farmer <
        PolicyManager.maxClaimsPerFarmerPerYear) (assessedAt : Nat) :
    (requireFreshAndClaimable deployment.managerClient env
      deployment.policyManager policy assessedAt).Avoids before
        excluded := by
  have future := quiet.spares.checks .reportInFuture (by decide)
  have old := quiet.spares.checks .reportTooOld (by decide)
  have answer (limits : excluded (.payout .farmerClaimLimitExceeded)) :
      ((deployment.managerClient (env.invoke
        deployment.policyManager)).canFarmerClaim policy.farmer).Commits
          before.2 true before.2 := by
    have claimable : before.2.policyManager.canFarmerClaim env.timestamp
        policy.farmer = true :=
      (PolicyManager.State.canFarmerClaim_iff _ _ _).mpr (room limits)
    exact (deployment.canFarmerClaim_commits _ _ rfl _).mpr ⟨claimable, rfl⟩
  simp only [requireFreshAndClaimable, bind_avoids, panicIf_avoids,
    panicIf_commits, external_avoids, external_commits,
    canFarmerClaim_avoids quiet, future, old, not_false_eq_true,
    implies_true, true_and]
  rintro _ _ ⟨-, rfl⟩ _ _ ⟨-, rfl⟩ claims _ ⟨_, answers, -⟩ refused limits
  exact absurd (answers.unique (answer limits)).1 refused

theorem settleVerified_avoids
    (room : excluded (.policy .tooManyClaimsThisYear) →
      before.2.policyManager.claimsInWindow env.timestamp policy.farmer <
        PolicyManager.maxClaimsPerFarmerPerYear) (adapter : Address)
    (report : DamageReport) (preimageHash : BytesN 32) :
    (settleVerified deployment.managerClient adapterClient env
      deployment.policyManager adapter policy report preimageHash).Avoids
        before excluded := by
  have unrecorded := quiet.spares.checks .obligationNotRecorded (by decide)
  simp only [settleVerified, bind_avoids, internal_avoids, internal_commits,
    modify_avoids, modify_commits, external_avoids, external_commits,
    panicIf_avoids, panicIf_commits, publish_avoids,
    adapterRecordObligation_avoids quiet, managerMarkAsClaimed_avoids quiet,
    unrecorded, not_false_eq_true, implies_true, true_and, and_true]
  rintro _ _ ⟨_, rfl, rfl⟩ obligation _ ⟨_, records, rfl⟩ _ _ ⟨-, rfl⟩ _ _
    ⟨_, marks, rfl⟩
  obtain ⟨ledger, ledgerAfter, -, -, rfl⟩ :=
    (onAdapter_commits _ _ _ _ _).mp records
  obtain ⟨changed, marked, rfl⟩ :=
    (deployment.managerMarkAsClaimed_commits _ _ rfl _ _).mp marks
  obtain ⟨-, -, closed, -, -, -, -, same⟩ :=
    (PolicyManager.markAsClaimed_commits _ _ _ _ _ _ _).mp marked
  apply managerIncrementClaimCount_avoids quiet
  intro limits
  rw [same, PolicyManager.State.closeActive_claimsInWindow]
  exact room limits

/-- The real contracts keep a submission clear of the set.  Insured policies
are needed for arithmetic traps, and room for a claim for the claim
limits. -/
theorem reachesAvoid
    (insured : excluded (.host .arithmetic) →
      before.2.policyManager.AllInsured)
    (room : excluded (.payout .farmerClaimLimitExceeded) ∨
        excluded (.policy .tooManyClaimsThisYear) →
      ∀ policyId policy,
        before.2.policyManager.policies policyId = some policy →
        policy.IsOpen →
          before.2.policyManager.claimsInWindow env.timestamp policy.farmer <
            PolicyManager.maxClaimsPerFarmerPerYear) (policyId : Nat) :
    ReachesAvoid deployment.managerClient adapterClient env before policyId
      excluded where
  opens policyManager := openPolicy_avoids quiet policyId
  insured traps policyManager policy opened opens := by
    obtain ⟨-, stored, -, -⟩ := openPolicy_reads opens
    exact insured traps policyId policy stored
  fresh policyManager policy opened opens assessedAt := by
    obtain ⟨rfl, stored, active, rfl⟩ := openPolicy_reads opens
    exact requireFreshAndClaimable_avoids quiet
      (fun limits => room (Or.inl limits) _ _ stored (Or.inr active)) _
  settles policyManager policy opened opens assessedAt checked checks
      adapter report digest := by
    obtain ⟨rfl, stored, active, rfl⟩ := openPolicy_reads opens
    obtain rfl := requireFreshAndClaimable_reads checks
    exact settleVerified_avoids quiet
      (fun limits => room (Or.inr limits) _ _ stored (Or.inr active)) _ _ _

end Submission

end Deployment

end Microcrop
