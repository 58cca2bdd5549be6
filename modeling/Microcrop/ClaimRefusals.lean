import Microcrop.ClaimCapacity
import Microcrop.SettlementOnce
import Microcrop.SubmissionRefusals

/-!
# The claim limit refuses nobody

Three errors of the source say that a farmer has no slot left.  With every
farmer within capacity the activation of a PENDING policy and the submission
for an ACTIVE one never end in them, whichever way they end.
-/

namespace Microcrop

open Transaction

/-- The two errors by which a claim limit refuses a submission. -/
def Error.LimitsClaims : Error → Prop
  | .payout .farmerClaimLimitExceeded => True
  | .policy .tooManyClaimsThisYear => True
  | _ => False

theorem not_limitsClaims_of_ownErrors {error : Error}
    (own : error.belongsToCover = false) : ¬ error.LimitsClaims := by
  cases error <;> simp_all [Error.belongsToCover, Error.LimitsClaims]

theorem Error.limitsClaims_of_code {error : Error}
    (coded : error.code = some 315 ∨ error.code = some 108) :
    error.LimitsClaims := by
  rcases error with error | error | error | error | error | error | error
  all_goals cases error <;> trivial

theorem Error.eq_of_code_107 {error : Error}
    (coded : error.code = some 107) :
    error = .policy .tooManyActivePolicies := by
  rcases error with error | error | error | error | error | error | error
  all_goals cases error <;> first | rfl | exact absurd coded (by decide)

theorem Error.sparesSubmission_limitsClaims :
    PayoutReceiver.SparesSubmission Error.LimitsClaims where
  auth := id
  crypto := id
  missingContract := id
  common _ := id
  paused _ := id
  adapter _ := id
  checks error other := by
    cases error <;> simp_all [Error.LimitsClaims]
  policy error other := by
    cases error <;> simp_all [Error.LimitsClaims]
  survivable error listed fatal := by
    rcases (fatal_iff error).mp fatal with rfl | rfl | rfl <;> exact listed

namespace PolicyManager

variable {Ω : Type} {nft : Env → PolicyNftClient Ω}
  (ownErrors : ∀ env, (nft env).OwnErrors)

include ownErrors

/-- An activation is not refused for the cap while a PENDING policy has
room. -/
theorem activatePolicy_avoids (env : Env) (caller : Address) (policyId : Nat)
    (distributor : Address) (distributorName region : String)
    {before : State × Ω}
    (room : ∀ policy, before.1.policies policyId = some policy →
      policy.status = .pending →
        before.1.farmerActiveCount policy.farmer <
          maxActivePoliciesPerFarmer) :
    (activatePolicy nft env caller policyId distributor distributorName
      region).Avoids before
        fun error => error = .policy .tooManyActivePolicies := by
  simp only [activatePolicy, bind_avoids, internal_avoids, internal_commits,
    requireRole_avoids, requireRole_commits, loadPolicy_avoids,
    loadPolicy_commits, read_avoids, read_commits, unwrapOr_avoids,
    unwrapOr_commits, panicIf_avoids, panicIf_commits, subUnsigned_avoids,
    addUnsigned_avoids, modify_avoids, external_avoids, publish_avoids,
    implies_true, true_and, and_true, reduceCtorEq, not_false_eq_true,
    not_true_eq_false, Error.policy.injEq, not_not]
  rintro _ _ ⟨_, ⟨-, -, rfl⟩, rfl⟩ _ _ ⟨_, ⟨-, rfl⟩, rfl⟩ address _ ⟨-, rfl⟩
    policy _ ⟨_, ⟨stored, rfl⟩, rfl⟩ _ _ ⟨pending, rfl⟩ _ _ ⟨-, rfl⟩ _ _
    ⟨_, ⟨rfl, rfl⟩, rfl⟩
  refine ⟨not_le.mpr (room policy stored pending), ?_⟩
  intro _ _ _ _ _ _ _ _ _ _ _ _ _ _ _ _ _ _ _ _ _ error refused same
  have own := (ownErrors _).mintPolicy _ _ _ _ _ _ _ _ _ _ _ _ _ _ refused
  rw [same] at own
  cases own

end PolicyManager

namespace Deployment

variable {Ω κ : Type} (deployment : Deployment Ω κ) {env : Env}

/-- The certificate contract raises no error of PolicyManager or of a
receiver. -/
theorem quiet_limitsClaims : deployment.Quiet Error.LimitsClaims where
  spares := Error.sparesSubmission_limitsClaims
  exists_avoids env policyId before error refused :=
    not_limitsClaims_of_ownErrors
      ((deployment.certificates.ownErrors env).policyNftExists policyId before
        error refused)

/-! ## A call to a receiver -/

section Submission

open PayoutReceiver

variable {before : PayoutReceiver.State × Neighbors Ω}
  (room : ∀ policyId policy,
  before.2.policyManager.policies policyId = some policy → policy.IsOpen →
    before.2.policyManager.claimsInWindow env.timestamp policy.farmer <
      PolicyManager.maxClaimsPerFarmerPerYear)

include room

/-- No call to a receiver ends in one of the two errors. -/
theorem receiverExec_avoids (call : PayoutReceiver.Call) :
    (PayoutReceiver.exec deployment.crypto deployment.managerClient
      adapterClient env call).Avoids before Error.LimitsClaims := by
  have reaches := reachesAvoid deployment.quiet_limitsClaims
    (fun traps => traps.elim) (fun _ => room)
  exact exec_avoids Error.sparesSubmission_limitsClaims call reaches

end Submission

/-! ## Every run -/

/-- At `now` every open policy of the system can still pay out.  The codes are
those of TooManyActivePolicies, FarmerClaimLimitExceeded and
TooManyClaimsThisYear. -/
structure OpenCoverPays (deployment : Deployment Ω κ) (world : World Ω)
    (now : Nat) : Prop where
  capacity : ∀ farmer, world.policyManager.farmerActiveCount farmer +
    world.policyManager.farmerPendingCount farmer +
      world.policyManager.claimsInWindow now farmer ≤ 3
  claimable : ∀ policyId policy,
    world.policyManager.policies policyId = some policy → policy.IsOpen →
      world.policyManager.canFarmerClaim now policy.farmer = true
  activates : ∀ (invocation : Invocation κ) caller policyId distributor
    distributorName region error, invocation.time = now →
      invocation.call = .policyManager (.activatePolicy caller policyId
        distributor distributorName region) →
      (deployment.exec invocation).Fails world error →
        error.code ≠ some 107
  submits : ∀ (invocation : Invocation κ) receiver call error,
    invocation.time = now → invocation.call = .receiver receiver call →
      (deployment.exec invocation).Fails world error →
        error.code ≠ some 315 ∧ error.code ≠ some 108

variable {deployment} {world : World Ω} {now : Nat}

theorem activates_of_withinCapacity (sound : deployment.Sound world)
    (capacity : world.policyManager.WithinCapacity now)
    {invocation : Invocation κ} {caller : Address} {policyId : Nat}
    {distributor : Address} {distributorName region : String}
    (called : invocation.call = .policyManager (.activatePolicy caller
      policyId distributor distributorName region)) {error : Error}
    (refused : (deployment.exec invocation).Fails world error) :
    error ≠ .policy .tooManyActivePolicies := by
  unfold exec at refused
  rw [called] at refused
  have failed := (onManager_fails _ _ _).mp
    ((onNeighbors_fails _ _ _).mp refused)
  exact PolicyManager.activatePolicy_avoids
    deployment.certificates.ownErrors _ _ _ _ _ _
    (fun policy stored pending =>
      PolicyManager.farmerActiveCount_lt_of_pending sound.accounted capacity
        stored pending)
    error failed

theorem submits_of_withinCapacity (sound : deployment.Sound world)
    {invocation : Invocation κ}
    (capacity : world.policyManager.WithinCapacity invocation.time)
    {receiver : Address} {call : PayoutReceiver.Call}
    (called : invocation.call = .receiver receiver call) {error : Error}
    (refused : (deployment.exec invocation).Fails world error) :
    ¬ error.LimitsClaims := by
  have clock : invocation.time = (deployment.env invocation).timestamp := rfl
  rw [clock] at capacity
  unfold exec at refused
  rw [called] at refused
  rcases (onReceiver_fails _ _ _ _).mp refused with
    ⟨-, rfl⟩ | ⟨state, -, failed⟩
  · exact id
  · exact deployment.receiverExec_avoids
      (fun policyId policy stored isOpen =>
        PolicyManager.claimsInWindow_lt_of_isOpen sound.accounted capacity
          stored isOpen)
      call error failed

/-- While only receivers hold Oracle and ledger time does not decrease, every
open policy can still pay out, at the end of every run and at every later
time. -/
theorem openCoverPays (deployment : Deployment Ω κ)
    (invocations : List (Invocation κ))
    (chronological : History.Chronological Invocation.time invocations)
    (oracles : ∀ transition ∈ deployment.trace invocations,
      deployment.OracleReceivers transition.source) {now : Nat}
    (past : ∀ invocation ∈ invocations, invocation.time ≤ now) :
    deployment.OpenCoverPays (deployment.run invocations) now := by
  have sound := deployment.sound_run invocations
  have capacity :=
    withinCapacity_run deployment invocations chronological oracles past
  refine
    { capacity := capacity
      claimable := ?_
      activates := ?_
      submits := ?_ }
  · intro policyId policy stored isOpen
    exact (PolicyManager.State.canFarmerClaim_iff _ _ _).mpr
      (PolicyManager.claimsInWindow_lt_of_isOpen sound.accounted capacity
        stored isOpen)
  · intro invocation caller policyId distributor distributorName region error
      _ called refused coded
    exact activates_of_withinCapacity sound capacity called refused
      (Error.eq_of_code_107 coded)
  · intro invocation receiver call error same called refused
    subst same
    have unlimited := submits_of_withinCapacity sound capacity called refused
    exact ⟨fun coded => unlimited (Error.limitsClaims_of_code (Or.inl coded)),
      fun coded => unlimited (Error.limitsClaims_of_code (Or.inr coded))⟩

theorem openCoverPays_season :
    seasonDeployment.OpenCoverPays (seasonDeployment.run season)
      1753574460 :=
  openCoverPays seasonDeployment season (by decide +kernel)
    (oracleReceivers_trace season (by decide +kernel)) (by decide +kernel)

end Deployment

end Microcrop
