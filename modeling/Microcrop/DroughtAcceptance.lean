import Microcrop.SettlementOnce

/-!
# Acceptance of a CROP_DROUGHT determination

The documented checks of `submit_drought_determination`, read off the stored
state without any call between contracts.  In every reachable state of a wired
deployment a submission is accepted exactly if they hold, so nothing that
follows the checks refuses what the checks let through.
-/

namespace Microcrop

open Transaction

/-- Behind the address of PolicyNft, a deactivation never refuses the call
that closes the policy. -/
theorem PolicyNft.exists_deactivates (address : Address) (env : Env)
    (policyId : Nat) (before : PolicyNft.State) :
    ∃ after, PolicyManager.Deactivates (PolicyNft.clientAt address) env
      (some address) policyId before after := by
  have reached : PolicyNft.clientAt address (env.invoke address) =
      { policyNftExists := fun policyId =>
          read fun state => state.policyNftExists policyId
        updatePolicyStatus := PolicyNft.updatePolicyStatus
          (env.invoke address)
        mintPolicy := PolicyNft.mintPolicy (env.invoke address) } :=
    if_pos rfl
  unfold PolicyManager.Deactivates
  simp only [reached, read_commits]
  cases minted : before.policyNftExists policyId with
  | false => exact ⟨before, false, before, ⟨rfl, rfl⟩, rfl⟩
  | true =>
      rcases commits_or_fails (PolicyNft.updatePolicyStatus
        (env.invoke address) env.currentContract policyId false) before with
        ⟨_, after, commits⟩ | ⟨error, refused⟩
      · exact ⟨after, true, before, ⟨rfl, rfl⟩, Or.inl commits⟩
      · have survivable := PolicyNft.updatePolicyStatus_survivable
          (env.invoke address) env.currentContract policyId false before
        exact ⟨before, true, before, ⟨rfl, rfl⟩,
          Or.inr ⟨error, refused, survivable error refused, rfl⟩⟩

namespace Deployment

section Checks

variable {Ω κ : Type} (deployment : Deployment Ω κ)

/-- The checks in the order of the source.  The digest of the fifteenth is the
one that the last two are about. -/
structure Documented (env : Env) (world : World Ω) (receiver : Address)
    (state : PayoutReceiver.State) (caller : Address)
    (d : DroughtDetermination) (signature : BytesN 64) (recoveryId : U32)
    (domain : BytesN 32) (policy : Policy) : Prop where
  signed : env.authorized caller = true
  relayer : state.roles .relayer caller = true
  unpaused : state.isPaused = false
  -- 2
  enabled : state.isMethodologyEnabled .cropDroughtRdi10 = true
  -- 3 to 6
  evidence : PayoutReceiver.DroughtEvidence d
  -- 7
  stored : world.policyManager.policies d.onChainPolicyId.val = some policy
  active : policy.status = .active
  inCover : env.timestamp ≤ policy.endDate
  unpaid : state.isPolicyPaid d.onChainPolicyId.val = false
  -- 8 to 10
  cover : policy.coverageType = .drought
  sumInsured : d.sumInsured.val = policy.sumInsured
  plot : PayoutReceiver.OnPlot policy d.latitudeE6.val d.longitudeE6.val
  -- 11
  window : PayoutReceiver.WithinCover policy d
  -- 12
  payout : d.payoutAmount.val =
    policy.sumInsured * d.damagePercentBp.val / PayoutReceiver.basisPoints
  -- 13 and 14
  fresh : PayoutReceiver.Fresh env d.assessedAt.val
  claimable : world.policyManager.canFarmerClaim env.timestamp
    policy.farmer = true
  -- 15 and 16
  unconsumed : state.consumedDetermination
    (Encoding.droughtDeterminationDigest deployment.crypto d receiver
      domain) = none
  -- 1 and 17
  recovered : ∃ signer, state.authorizedSigner = some signer ∧
    deployment.crypto.secp256k1Recover
      (Encoding.droughtDeterminationDigest deployment.crypto d receiver
        domain) signature recoveryId = some signer

/-- The receiver holds Oracle, its adapter is bound to it and can number one
more obligation, its domain is set and PolicyManager knows the certificate
contract. -/
structure Wired (world : World Ω) (receiver : Address)
    (state : PayoutReceiver.State) (domain : BytesN 32) : Prop where
  installed : world.receivers receiver = some state
  oracle : world.policyManager.roles .oracle receiver = true
  domain : state.networkDomain = some domain
  adapter : ∃ adapter ledger, state.settlementAdapter = some adapter ∧
    world.adapters adapter = some ledger ∧
      ledger.payoutReceiver = some receiver ∧
        (∀ next, ledger.nextObligationId = some next → next + 1 < 2 ^ 64) ∧
          ∀ org, ledger.orgObligationCount org + 1 < 2 ^ 32
  certificates : world.policyManager.policyNft =
    some deployment.certificates.address

end Checks

section Acceptance

variable {Ω κ : Type} {deployment : Deployment Ω κ} {world : World Ω}
  {receiver : Address} {state : PayoutReceiver.State} {env : Env}
  {caller : Address} {d : DroughtDetermination} {signature : BytesN 64}
  {recoveryId : U32} {domain : BytesN 32} {policy : Policy}

/-- No adapter has an obligation for a policy that is still ACTIVE. -/
theorem obligationOf_eq_none (sound : deployment.Sound world)
    (isReceiver : deployment.IsReceiver receiver) {adapter : Address}
    {ledger : SettlementAdapter.State}
    (found : world.adapters adapter = some ledger) {policyId : Nat}
    (stored : world.policyManager.policies policyId = some policy)
    (active : policy.status = .active) :
    ledger.obligationOf receiver policyId = none := by
  rw [Option.eq_none_iff_forall_ne_some]
  intro id recorded
  obtain ⟨obligation, storedThere, rfl, rfl⟩ :=
    (sound.ledgers adapter ledger found).stored receiver policyId id recorded
  have claimed := sound.claimed adapter id obligation
    ⟨ledger, found, storedThere⟩ isReceiver
  obtain ⟨other, storedOther, isClaimed⟩ :=
    PolicyManager.State.statusOf_eq_some.mp claimed
  rw [stored] at storedOther
  cases storedOther
  rw [active] at isClaimed
  cases isClaimed

/-- An adapter with fewer than `2 ^ 32` obligations can number one more. -/
theorem wired_of_few (sound : deployment.Sound world)
    {adapter : Address} {ledger : SettlementAdapter.State} {next : Nat}
    (installed : world.receivers receiver = some state)
    (oracle : world.policyManager.roles .oracle receiver = true)
    (configured : state.networkDomain = some domain)
    (bound : state.settlementAdapter = some adapter)
    (found : world.adapters adapter = some ledger)
    (boundTo : ledger.payoutReceiver = some receiver)
    (counter : ledger.nextObligationId = some next) (few : next < 2 ^ 32)
    (certificates : world.policyManager.policyNft =
      some deployment.certificates.address) :
    deployment.Wired world receiver state domain := by
  refine ⟨installed, oracle, configured, ⟨adapter, ledger, bound, found,
    boundTo, ?_, ?_⟩, certificates⟩
  · intro other counterOther
    rw [counter] at counterOther
    cases counterOther
    omega
  · intro org
    have counted := (sound.ledgers adapter ledger found).counted org next
      counter
    omega

/-- The checks of the code are the documented ones. -/
theorem Documented.checks (sound : deployment.Sound world)
    (here : env.currentContract = receiver)
    (configured : state.networkDomain = some domain)
    (documented : deployment.Documented env world receiver state caller d
      signature recoveryId domain policy) :
    PayoutReceiver.DroughtChecks deployment.crypto env state caller d
      signature recoveryId policy domain := by
  have insured := sound.insured _ _ documented.stored
  have pays := insured.paysOut documented.evidence.bp_le
  rw [← documented.payout] at pays
  subst here
  exact
    { submittable :=
        { signed := documented.signed
          relayer := documented.relayer
          unpaused := documented.unpaused
          enabled := documented.enabled
          active := documented.active
          inCover := documented.inCover
          unpaid := documented.unpaid
          payout := pays
          fresh := documented.fresh
          unconsumed := documented.unconsumed
          recovered := documented.recovered }
      evidence := documented.evidence
      cover := documented.cover
      sumInsured := documented.sumInsured
      plot := documented.plot
      window := documented.window
      domain := configured }

theorem documented_of_checks (sound : deployment.Sound world)
    (here : env.currentContract = receiver)
    (stored : world.policyManager.policies d.onChainPolicyId.val =
      some policy)
    (claimable : world.policyManager.canFarmerClaim env.timestamp
      policy.farmer = true)
    (checks : PayoutReceiver.DroughtChecks deployment.crypto env state caller
      d signature recoveryId policy domain) :
    deployment.Documented env world receiver state caller d signature
      recoveryId domain policy := by
  have submittable := checks.submittable
  have insured := sound.insured _ _ stored
  subst here
  exact
    { signed := submittable.signed
      relayer := submittable.relayer
      unpaused := submittable.unpaused
      enabled := submittable.enabled
      evidence := checks.evidence
      stored := stored
      active := submittable.active
      inCover := submittable.inCover
      unpaid := submittable.unpaid
      cover := checks.cover
      sumInsured := checks.sumInsured
      plot := checks.plot
      window := checks.window
      payout := insured.payout_eq submittable.payout
      fresh := submittable.fresh
      claimable := claimable
      unconsumed := submittable.unconsumed
      recovered := submittable.recovered }

end Acceptance

section Wired

variable {deployment : Deployment PolicyNft.State PolicyNft.Call}
  {world : World PolicyNft.State} {nft nftAdmin receiver : Address}
  {state : PayoutReceiver.State} {env : Env} {caller : Address}
  {d : DroughtDetermination} {signature : BytesN 64} {recoveryId : U32}
  {domain : BytesN 32} {policy : Policy}

/-- What the checks let through, the three contracts behind the receiver
accept. -/
theorem Wired.handover (real : deployment.certificates =
      PolicyNft.certificates nft nftAdmin)
    (sound : deployment.Sound world)
    (wired : deployment.Wired world receiver state domain)
    (here : env.currentContract = receiver)
    (documented : deployment.Documented env world receiver state caller d
      signature recoveryId domain policy) (digest : BytesN 32) :
    ∃ adapter ledger obligation ledgerAfter nftAfter,
      deployment.Handover env world.toNeighbors state policy
        (PayoutReceiver.droughtReport d) digest adapter ledger obligation
        ledgerAfter nftAfter := by
  obtain ⟨adapter, ledger, bound, found, boundTo, idLt, countLt⟩ :=
    wired.adapter
  obtain ⟨nftAfter, deactivates⟩ := PolicyNft.exists_deactivates nft
    (env.invoke deployment.policyManager) d.onChainPolicyId.val world.nft
  obtain ⟨next, counter, -⟩ := (sound.ledgers adapter ledger found).numbered
  have isReceiver : deployment.IsReceiver receiver := by
    rw [← sound.installed, wired.installed]
    rfl
  have missing := obligationOf_eq_none sound isReceiver found
    documented.stored documented.active
  have positive : 0 < d.payoutAmount.val := by
    rw [documented.payout]
    exact (sound.insured _ _ documented.stored).payout_pos
      documented.evidence.threshold
  have oracle := wired.oracle
  have certificates := wired.certificates
  subst here
  rw [real] at certificates
  have recorded := (SettlementAdapter.recordObligation_commits
    (env.invoke adapter) env.currentContract d.onChainPolicyId.val policy.org
    d.payoutAmount.val digest ledger _ _).mpr
    ⟨boundTo, (env.invoke_authorized _ _).mpr rfl, positive,
      Or.inr ⟨missing, next, counter, idLt next counter, countLt policy.org,
        rfl, rfl⟩⟩
  refine ⟨adapter, ledger, _, _, nftAfter,
    { managed := sound.managed _ _ wired.installed
      stored := documented.stored
      claimable := documented.claimable
      bound := bound
      found := found
      recorded := recorded
      receiver := rfl
      policyId := rfl
      org := rfl
      amount := rfl
      digest := rfl
      owed := rfl
      oracle := oracle
      deactivates := ?_ }⟩
  rw [real, certificates]
  exact deactivates

/-- In every reachable state in which the receiver is wired, a CROP_DROUGHT
submission is accepted exactly if the documented checks hold. -/
theorem droughtAcceptance
    (deployment : Deployment PolicyNft.State PolicyNft.Call)
    {nft nftAdmin receiver : Address} {state : PayoutReceiver.State}
    {domain : BytesN 32}
    (real : deployment.certificates = PolicyNft.certificates nft nftAdmin)
    (invocations : List (Invocation PolicyNft.Call))
    (wired : deployment.Wired (deployment.run invocations) receiver state
      domain) (timestamp : U64) (signers : Address → Bool) (caller : Address)
    (d : DroughtDetermination) (signature : BytesN 64) (recoveryId : U32) :
    let invocation : Invocation PolicyNft.Call :=
      ⟨timestamp, signers, .receiver receiver
        (.submitDroughtDetermination caller d signature recoveryId)⟩
    deployment.accepts (deployment.run invocations) invocation = true ↔
      ∃ policy, deployment.Documented (deployment.env invocation)
        (deployment.run invocations) receiver state caller d signature
        recoveryId domain policy := by
  intro invocation
  have sound := deployment.sound_run invocations
  unfold accepts
  rw [committed_iff]
  constructor
  · rintro ⟨_, after, commits⟩
    obtain ⟨found, changed, installed, executed, -⟩ :=
      (onReceiver_commits _ _ _ _ _).mp commits
    rw [wired.installed] at installed
    cases installed
    obtain ⟨policy, other, policyManager, adapter, queried, fetched, checked,
      obligation, recorded, claimed, checks, interacts, -⟩ :=
      (PayoutReceiver.submitDroughtDetermination_commits _ _ _ _ _ _ _ _ _ _
        _).mp executed
    obtain ⟨ledger, ledgerAfter, nftAfter, handover, -⟩ :=
      (deployment.interacts_iff checks.submittable.active
        checks.submittable.inCover).mp ⟨_, _, _, _, _, _, interacts⟩
    have same := checks.domain
    rw [wired.domain] at same
    cases same
    exact ⟨policy, documented_of_checks sound rfl handover.stored
      handover.claimable checks⟩
  · rintro ⟨policy, documented⟩
    have checks := documented.checks sound rfl wired.domain
    obtain ⟨adapter, ledger, obligation, ledgerAfter, nftAfter, handover⟩ :=
      wired.handover real sound rfl documented
        (Encoding.droughtDeterminationDigest deployment.crypto d receiver
          domain)
    obtain ⟨policyManager, queried, fetched, checked, recorded, claimed,
      interacts⟩ :=
      (deployment.interacts_iff documented.active documented.inCover).mpr
        ⟨ledger, ledgerAfter, nftAfter, handover, rfl⟩
    have executed := (PayoutReceiver.submitDroughtDetermination_commits
      deployment.crypto deployment.managerClient adapterClient
      (deployment.env invocation) caller d signature recoveryId
      (state, (deployment.run invocations).toNeighbors) (_, _) ()).mpr
      ⟨policy, domain, policyManager, adapter, queried, fetched, checked,
        obligation, recorded, claimed, checks, interacts, rfl⟩
    exact ⟨(), _, (onReceiver_commits _ _ _ _ _).mpr
      ⟨state, _, wired.installed, executed, rfl⟩⟩

end Wired

/-- The season before its claim. -/
def seasonSold : List (Invocation PolicyNft.Call) :=
  seasonSetup ++ seasonCover

theorem droughtAcceptance_season :
    seasonDeployment.accepts (seasonDeployment.run seasonSold) seasonClaim =
        true ∧
      ∃ state policy, seasonDeployment.Documented
        (seasonDeployment.env seasonClaim) (seasonDeployment.run seasonSold)
        testnetReceiver state (PolicyManager.seasonAddress 3) v1 v1Signature 1
        testnetDomain policy := by
  have accepted : seasonDeployment.accepts (seasonDeployment.run seasonSold)
      seasonClaim = true := by decide +kernel
  obtain ⟨state, installed⟩ : ∃ state, (seasonDeployment.run
      seasonSold).receivers testnetReceiver = some state :=
    Option.isSome_iff_exists.mp (by decide +kernel)
  obtain ⟨ledger, found⟩ : ∃ ledger, (seasonDeployment.run
      seasonSold).adapters (seasonContract 2) = some ledger :=
    Option.isSome_iff_exists.mp (by decide +kernel)
  have configured : ((seasonDeployment.run seasonSold).receivers
      testnetReceiver).bind (fun state => state.networkDomain) =
        some testnetDomain := by decide +kernel
  have bound : ((seasonDeployment.run seasonSold).receivers
      testnetReceiver).bind (fun state => state.settlementAdapter) =
        some (seasonContract 2) := by decide +kernel
  have boundTo : ((seasonDeployment.run seasonSold).adapters
      (seasonContract 2)).bind (fun ledger => ledger.payoutReceiver) =
        some testnetReceiver := by decide +kernel
  have counter : ((seasonDeployment.run seasonSold).adapters
      (seasonContract 2)).bind (fun ledger => ledger.nextObligationId) =
        some 1 := by decide +kernel
  rw [installed] at configured bound
  rw [found] at boundTo counter
  have wired : seasonDeployment.Wired (seasonDeployment.run seasonSold)
      testnetReceiver state testnetDomain :=
    wired_of_few (seasonDeployment.sound_run seasonSold) installed
      (by decide +kernel) configured bound found boundTo counter (by decide)
      (by decide +kernel)
  exact ⟨accepted, state, (droughtAcceptance seasonDeployment rfl seasonSold
    wired _ _ _ v1 v1Signature 1).mp accepted⟩

end Deployment

end Microcrop
