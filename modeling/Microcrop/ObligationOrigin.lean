import Microcrop.SettlementOnce

/-!
# The origin of every obligation

Every stored policy is Drought cover, so a verified submission is always one
of the CROP_DROUGHT path.  An obligation of any adapter can be traced back to
the step that recorded it, at which every check of that path held.
-/

namespace Microcrop

namespace Deployment

variable {Ω κ : Type} (deployment : Deployment Ω κ)

/-- The CROP_DROUGHT submission by which `obligation` was recorded, with the
state of the receiver and the policy that it found. -/
structure LawfulOrigin (transition : Transition (World Ω) (Invocation κ))
    (adapter : Address) (id : Nat) (obligation : Obligation)
    (receiver caller : Address) (d : DroughtDetermination)
    (signature : BytesN 64) (recoveryId : U32)
    (state : PayoutReceiver.State) (policy : Policy)
    (domain : BytesN 32) : Prop where
  call : transition.label.call = .receiver receiver
    (.submitDroughtDetermination caller d signature recoveryId)
  accepted : deployment.accepts transition.source transition.label = true
  installed : transition.source.receivers receiver = some state
  stored : transition.source.policyManager.policies d.onChainPolicyId.val =
    some policy
  checks : PayoutReceiver.DroughtChecks deployment.crypto
    (deployment.env transition.label) state caller d signature recoveryId
    policy domain
  fresh : ∀ earlier, ¬ transition.source.Holds adapter id earlier
  recorded : ∃ first, transition.target.Holds adapter id first ∧
    first.status = .owed ∧ first.Continues obligation
  payoutReceiver : obligation.payoutReceiver = receiver
  policyId : obligation.policyId = d.onChainPolicyId.val
  org : obligation.org = policy.org
  amount : obligation.amount = d.payoutAmount.val
  determinationDigest : obligation.determinationDigest =
    Encoding.droughtDeterminationDigest deployment.crypto d receiver domain

/-- Some transition of the past is the lawful origin of the obligation. -/
def Originates (past : List (Transition (World Ω) (Invocation κ)))
    (adapter : Address) (id : Nat) (obligation : Obligation) : Prop :=
  ∃ transition ∈ past, ∃ receiver caller d signature recoveryId state policy
    domain, deployment.LawfulOrigin transition adapter id obligation receiver
      caller d signature recoveryId state policy domain

variable {deployment}

/-- Marks of an obligation do not touch its origin. -/
theorem LawfulOrigin.continues
    {transition : Transition (World Ω) (Invocation κ)} {adapter : Address}
    {id : Nat} {obligation later : Obligation} {receiver caller : Address}
    {d : DroughtDetermination} {signature : BytesN 64} {recoveryId : U32}
    {state : PayoutReceiver.State} {policy : Policy} {domain : BytesN 32}
    (origin : deployment.LawfulOrigin transition adapter id obligation
      receiver caller d signature recoveryId state policy domain)
    (continues : obligation.Continues later) :
    deployment.LawfulOrigin transition adapter id later receiver caller d
      signature recoveryId state policy domain := by
  obtain ⟨first, holds, owed, continuesFirst⟩ := origin.recorded
  exact
    { call := origin.call
      accepted := origin.accepted
      installed := origin.installed
      stored := origin.stored
      checks := origin.checks
      fresh := origin.fresh
      recorded := ⟨first, holds, owed, continuesFirst.trans continues⟩
      payoutReceiver :=
        continues.payoutReceiver_eq.trans origin.payoutReceiver
      policyId := continues.policyId_eq.trans origin.policyId
      org := continues.org_eq.trans origin.org
      amount := continues.amount_eq.trans origin.amount
      determinationDigest :=
        continues.determinationDigest_eq.trans origin.determinationDigest }

/-- The CROP_DAMAGE path never settles: it needs a cover that is never
sold. -/
theorem Settlement.drought {env : Env} {before : World Ω} {address : Address}
    {call : PayoutReceiver.Call} {state : PayoutReceiver.State}
    {policy : Policy} {report : DamageReport} {digest : BytesN 32}
    {adapter : Address} {ledger ledgerAfter : SettlementAdapter.State}
    {obligation : Obligation} {nftAfter : Ω}
    (sound : deployment.Sound before)
    (settlement : deployment.Settlement env before address call state policy
      report digest adapter ledger obligation ledgerAfter nftAfter) :
    ∃ caller d signature recoveryId domain,
      call = .submitDroughtDetermination caller d signature recoveryId ∧
        report = PayoutReceiver.droughtReport d ∧
          digest = Encoding.droughtDeterminationDigest deployment.crypto d
            address domain ∧
          PayoutReceiver.DroughtChecks deployment.crypto env state caller d
            signature recoveryId policy domain := by
  obtain ⟨here, installed, checked, handover⟩ := settlement
  cases checked with
  | drought checks =>
      rw [here]
      exact ⟨_, _, _, _, _, rfl, rfl, rfl, checks⟩
  | crop checks =>
      obtain ⟨durationDays, valid⟩ := sound.insured _ _ handover.stored
      have drought := valid.drought
      rw [checks.cover] at drought
      cases drought

/-- A verified submission is the lawful origin of what it records. -/
theorem Records.lawfulOrigin {world : World Ω} {invocation : Invocation κ}
    (sound : deployment.Sound world)
    (accepted : deployment.accepts world invocation = true)
    {adapter : Address} {obligation : Obligation}
    (records : deployment.Records (deployment.env invocation) world
      invocation.call (deployment.apply world invocation) adapter
      obligation) :
    ∃ receiver caller d signature recoveryId state policy domain,
      deployment.LawfulOrigin
        (History.taken deployment.apply world invocation) adapter
        obligation.id obligation receiver caller d signature recoveryId state
        policy domain := by
  generalize called : invocation.call = call at records
  generalize reached : deployment.apply world invocation = after at records
  obtain ⟨settlement⟩ := records
  obtain ⟨caller, d, signature, recoveryId, domain, rfl, rfl, rfl, checks⟩ :=
    settlement.drought sound
  have handover := settlement.handover
  obtain ⟨-, next, -⟩ := settlement.records sound
  have free := SettlementAdapter.obligations_next
    (sound.ledgers _ _ handover.found) next
  refine ⟨_, caller, d, signature, recoveryId, _, _, domain,
    { call := called
      accepted := accepted
      installed := settlement.installed
      stored := handover.stored
      checks := checks
      fresh := ?_
      recorded := ⟨obligation, ?_, handover.owed, .refl obligation⟩
      payoutReceiver := settlement.payoutReceiver
      policyId := handover.policyId
      org := handover.org
      amount := handover.amount
      determinationDigest := handover.digest }⟩
  · rintro earlier ⟨ledger, found, stored⟩
    change world.adapters adapter = some ledger at found
    rw [handover.found] at found
    cases found
    rw [free] at stored
    cases stored
  · change (deployment.apply world invocation).Holds _ _ _
    rw [reached]
    exact (settlement.holds_iff sound).mpr (Or.inr ⟨rfl, rfl, rfl⟩)

theorem originates_apply {past : List (Transition (World Ω) (Invocation κ))}
    {world : World Ω} (sound : deployment.Sound world)
    (invocation : Invocation κ)
    (origins : ∀ adapter id obligation, world.Holds adapter id obligation →
      deployment.IsReceiver obligation.payoutReceiver →
        deployment.Originates past adapter id obligation) :
    ∀ adapter id obligation,
      (deployment.apply world invocation).Holds adapter id obligation →
        deployment.IsReceiver obligation.payoutReceiver →
          deployment.Originates
            (past ++ [History.taken deployment.apply world invocation])
            adapter id obligation := by
  intro adapter id later holds isReceiver
  have earlierOrigin : ∀ {obligation : Obligation},
      world.Holds adapter id obligation → obligation.Continues later →
        deployment.Originates
          (past ++ [History.taken deployment.apply world invocation]) adapter
          id later := by
    intro obligation earlier continues
    rw [continues.payoutReceiver_eq] at isReceiver
    obtain ⟨transition, member, receiver, caller, d, signature, recoveryId,
      state, policy, domain, origin⟩ :=
      origins adapter id obligation earlier isReceiver
    exact ⟨transition, by simp [member], receiver, caller, d, signature,
      recoveryId, state, policy, domain, origin.continues continues⟩
  rcases deployment.apply_cases world invocation with
    ⟨-, same⟩ | ⟨accepted, step⟩
  · rw [same] at holds
    exact earlierOrigin holds (.refl later)
  · rcases step.receiver_origin sound
      (deployment.not_isReceiver_of_authorized invocation) holds isReceiver
      with ⟨obligation, earlier, continues⟩ | ⟨rfl, recorded⟩
    · exact earlierOrigin earlier continues
    · exact ⟨History.taken deployment.apply world invocation, by simp,
        recorded.lawfulOrigin sound accepted⟩

/-- In every run, whatever the adapters are bound to, an obligation of a
receiver has a lawful origin. -/
theorem originates_run (deployment : Deployment Ω κ)
    (invocations : List (Invocation κ)) (adapter : Address) (id : Nat)
    (obligation : Obligation)
    (holds : (deployment.run invocations).Holds adapter id obligation)
    (isReceiver : deployment.IsReceiver obligation.payoutReceiver) :
    deployment.Originates (deployment.trace invocations) adapter id
      obligation := by
  have invariant := History.trace_invariant deployment.apply (fun _ => True)
    (fun past world => deployment.Sound world ∧
      ∀ adapter id obligation, world.Holds adapter id obligation →
        deployment.IsReceiver obligation.payoutReceiver →
          deployment.Originates past adapter id obligation)
    (fun past world invocation _ invariant =>
      ⟨deployment.sound_apply invariant.1 invocation,
        originates_apply invariant.1 invocation invariant.2⟩)
    invocations []
    ⟨deployment.sound_genesis, by
      rintro adapter id obligation ⟨ledger, found, stored⟩
      obtain ⟨admin, -, rfl⟩ := Option.map_eq_some_iff.mp found
      cases stored⟩
    (fun _ _ => trivial)
  exact invariant.2 adapter id obligation holds isReceiver

/-- In every run in which adapters are bound to receivers only, every
obligation of every adapter was recorded by a CROP_DROUGHT submission at which
all checks of that path held. -/
theorem obligationOrigin (deployment : Deployment Ω κ)
    (invocations : List (Invocation κ))
    (bound : ∀ transition ∈ deployment.trace invocations,
      deployment.BoundToReceivers transition.source)
    (adapter : Address) (id : Nat) (obligation : Obligation)
    (holds : (deployment.run invocations).Holds adapter id obligation) :
    deployment.Originates (deployment.trace invocations) adapter id
      obligation :=
  originates_run deployment invocations adapter id obligation holds
    (allReceivers_run invocations bound adapter id obligation holds)

/-- The obligation that the worked season records. -/
def seasonObligation : Obligation where
  id := 1
  payoutReceiver := testnetReceiver
  policyId := 1
  org := PolicyManager.seasonAddress 5
  amount := 4500000000
  determinationDigest := v1Digest
  status := .owed
  recordedAt := 1753574460
  orgIndex := 0
  fundedBy := none
  fundedAt := 0
  fundingReference := none
  settledBy := none
  settledAt := 0
  settlementReference := none

theorem obligationOrigin_season :
    seasonDeployment.Originates (seasonDeployment.trace season)
      (seasonContract 2) 1 seasonObligation :=
  obligationOrigin seasonDeployment season
    (boundToReceivers_trace season (by decide +kernel)) (seasonContract 2) 1
    seasonObligation (World.holds_iff.mpr (by decide +kernel))

end Deployment

end Microcrop
