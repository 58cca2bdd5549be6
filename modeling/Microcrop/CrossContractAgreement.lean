import Microcrop.Authority
import Microcrop.ObligationOrigin

/-!
# Agreement of the contracts

While one receiver is the only Oracle of PolicyManager, its paid flags and
reports, the CLAIMED policies and the obligations recorded for it are four
views of the same set of settlements, with one obligation for each.
-/

namespace Microcrop

open Transaction

namespace PolicyManager

/-- Only an Oracle turns a policy CLAIMED. -/
theorem claimed_origin_effect {Ω : Type} {nft : Env → PolicyNftClient Ω}
    {env : Env} {call : Call} {before after : State × Ω}
    (effect : Effect nft env before call after) {policyId : Nat}
    (claimed : after.1.statusOf policyId = some .claimed) :
    before.1.statusOf policyId = some .claimed ∨
      ∃ caller, env.authorized caller = true ∧
        before.1.roles .oracle caller = true := by
  have written : ∀ {key : Nat} {changed : Policy},
      changed.status ≠ .claimed →
        (Function.update before.1.policies key (some changed) policyId).map
            Policy.status = some .claimed →
          before.1.statusOf policyId = some .claimed := by
    intro key changed other found
    by_cases same : policyId = key
    · rw [same, Function.update_self] at found
      exact absurd (Option.some.inj found) other
    · rw [Function.update_of_ne same] at found
      exact found
  cases effect with
  | administered => exact Or.inl claimed
  | sold signed backend valid capacity =>
      exact Or.inl (written PolicyStatus.noConfusion claimed)
  | activated signed backend wired stored pending inTime cap ordered minted =>
      unfold State.statusOf at claimed
      rw [State.activate_policies] at claimed
      exact Or.inl (written PolicyStatus.noConfusion claimed)
  | closedActive stored active cause deactivates =>
      unfold State.statusOf at claimed
      rw [State.closeActive_policies] at claimed
      cases cause with
      | claimed signed oracle inTime => exact Or.inr ⟨_, signed, oracle⟩
      | cancelled signed admin =>
          exact Or.inl (written PolicyStatus.noConfusion claimed)
      | expired ended =>
          exact Or.inl (written PolicyStatus.noConfusion claimed)
  | closedPending stored pending cause =>
      unfold State.statusOf at claimed
      rw [State.closePending_policies] at claimed
      cases cause with
      | cancelled =>
          exact Or.inl (written PolicyStatus.noConfusion claimed)
      | expired => exact Or.inl (written PolicyStatus.noConfusion claimed)
  | claimCounted => exact Or.inl claimed
  | alreadyExpired => exact Or.inl claimed

end PolicyManager

namespace Deployment

variable {Ω κ : Type} (deployment : Deployment Ω κ)

/-- Nobody but `receiver` holds the Oracle role. -/
def OnlyOracle (receiver : Address) (world : World Ω) : Prop :=
  ∀ who, world.policyManager.roles .oracle who = true → who = receiver

end Deployment

/-- The obligation that settles a policy, against the policy and the report
of the settlement. -/
structure World.Settles {Ω : Type} (world : World Ω) (receiver : Address)
    (policyId : Nat) (report : DamageReport) (adapter : Address) (id : Nat)
    (obligation : Obligation) (policy : Policy) : Prop where
  holds : world.Holds adapter id obligation
  payoutReceiver : obligation.payoutReceiver = receiver
  forPolicy : obligation.policyId = policyId
  stored : world.policyManager.policies policyId = some policy
  claimed : policy.status = .claimed
  org : obligation.org = policy.org
  amount : obligation.amount = report.payoutAmount
  payout : report.payoutAmount =
    policy.sumInsured * report.damagePercentage / PayoutReceiver.basisPoints

/-- The books of a receiver agree with PolicyManager and the adapters. -/
structure World.Agrees {Ω : Type} (world : World Ω) (receiver : Address)
    (state : PayoutReceiver.State) : Prop where
  paid_iff : ∀ policyId, state.isPolicyPaid policyId = true ↔
    (state.reports policyId).isSome = true
  claimed_iff : ∀ policyId,
    world.policyManager.statusOf policyId = some .claimed ↔
      (state.reports policyId).isSome = true
  settled : ∀ policyId report, state.reports policyId = some report →
    ∃ adapter id obligation policy,
      world.Settles receiver policyId report adapter id obligation policy

namespace Deployment

variable {Ω κ : Type} {deployment : Deployment Ω κ} {env : Env}
  {before after : World Ω} {call : World.Call κ} {receiver : Address}

/-- A settlement survives every step. -/
theorem Step.settles_stays (sound : deployment.Sound before)
    (step : deployment.Step env before call after) {policyId : Nat}
    {report : DamageReport} {adapter : Address} {id : Nat}
    {obligation : Obligation} {policy : Policy}
    (settles : before.Settles receiver policyId report adapter id obligation
      policy) :
    ∃ later, after.Settles receiver policyId report adapter id later
      policy := by
  obtain ⟨later, holds, continues⟩ := step.holds_continues sound settles.holds
  exact ⟨later,
    { holds := holds
      payoutReceiver :=
        continues.payoutReceiver_eq.trans settles.payoutReceiver
      forPolicy := continues.policyId_eq.trans settles.forPolicy
      stored := step.closed_stays sound settles.stored (by
        rintro (pending | active)
        · simp [settles.claimed] at pending
        · simp [settles.claimed] at active)
      claimed := settles.claimed
      org := continues.org_eq.trans settles.org
      amount := continues.amount_eq.trans settles.amount
      payout := settles.payout }⟩

/-- A step that leaves the receiver's books as they are keeps them in
agreement, unless it turns a policy CLAIMED. -/
theorem Step.agrees_stays (sound : deployment.Sound before)
    (step : deployment.Step env before call after)
    {state changed : PayoutReceiver.State}
    (agrees : before.Agrees receiver state)
    (sameReports : changed.reports = state.reports)
    (samePaid : changed.policyPaid = state.policyPaid)
    (noClaim : ∀ policyId,
      after.policyManager.statusOf policyId = some .claimed →
        before.policyManager.statusOf policyId = some .claimed) :
    after.Agrees receiver changed where
  paid_iff policyId := by
    unfold PayoutReceiver.State.isPolicyPaid
    rw [sameReports, samePaid]
    exact agrees.paid_iff policyId
  claimed_iff policyId := by
    rw [sameReports, ← agrees.claimed_iff]
    exact ⟨noClaim policyId, step.claimed_stays sound⟩
  settled policyId report reported := by
    rw [sameReports] at reported
    obtain ⟨adapter, id, obligation, policy, settles⟩ :=
      agrees.settled policyId report reported
    obtain ⟨later, settlesLater⟩ := step.settles_stays sound settles
    exact ⟨adapter, id, later, policy, settlesLater⟩

section Settlement

variable {address : Address} {receiverCall : PayoutReceiver.Call}
  {state : PayoutReceiver.State} {policy : Policy} {report : DamageReport}
  {digest : BytesN 32} {adapter : Address}
  {ledger ledgerAfter : SettlementAdapter.State} {obligation : Obligation}
  {nftAfter : Ω} (sound : deployment.Sound before)
  (settlement : deployment.Settlement env before address receiverCall state
    policy report digest adapter ledger obligation ledgerAfter nftAfter)

include sound settlement

theorem Settlement.policies_of_ne {policyId : Nat}
    (other : policyId ≠ report.policyId) :
    (claimedManager before.policyManager policy env.timestamp).policies
        policyId = before.policyManager.policies policyId := by
  change (before.policyManager.closeActive policy .claimed).policies _ = _
  rw [PolicyManager.State.closeActive_policies, settlement.policy_id sound,
    Function.update_of_ne other]

/-- The payout is the floor of the insured share. -/
theorem Settlement.payout :
    report.payoutAmount = policy.sumInsured * report.damagePercentage /
      PayoutReceiver.basisPoints := by
  obtain ⟨_, _, _, _, submittable⟩ := settlement.checked.submittable
  exact (sound.insured _ _ settlement.handover.stored).payout_eq
    submittable.payout

/-- The new obligation settles the policy against the new report. -/
theorem Settlement.settles :
    (settledWorld before address state policy report digest adapter
        ledgerAfter nftAfter env.timestamp).Settles address report.policyId
      report adapter obligation.id obligation
      { policy with status := .claimed } := by
  have handover := settlement.handover
  have payout := settlement.payout sound
  refine
    { holds := (settlement.holds_iff sound).mpr (Or.inr ⟨rfl, rfl, rfl⟩)
      payoutReceiver := settlement.payoutReceiver
      forPolicy := handover.policyId
      stored := ?_
      claimed := rfl
      org := handover.org
      amount := handover.amount
      payout := payout }
  change (before.policyManager.closeActive policy .claimed).policies _ = _
  rw [PolicyManager.State.closeActive_policies, settlement.policy_id sound,
    Function.update_self]

/-- A settlement adds one policy to all four views. -/
theorem Settlement.agrees (agrees : before.Agrees address state) :
    (settledWorld before address state policy report digest adapter
        ledgerAfter nftAfter env.timestamp).Agrees address
      (state.recordVerified report digest) where
  paid_iff policyId := by
    rw [PayoutReceiver.isPolicyPaid_recordVerified,
      PayoutReceiver.State.recordVerified_reports]
    by_cases same : policyId = report.policyId
    · rw [if_pos same, same, Function.update_self]
      simp
    · rw [if_neg same, Function.update_of_ne same]
      exact agrees.paid_iff policyId
  claimed_iff policyId := by
    rw [PayoutReceiver.State.recordVerified_reports]
    change (claimedManager _ _ _).statusOf policyId = _ ↔ _
    by_cases same : policyId = report.policyId
    · rw [same, Function.update_self, settlement.claimed sound]
      simp
    · rw [Function.update_of_ne same, ← agrees.claimed_iff]
      unfold PolicyManager.State.statusOf
      rw [settlement.policies_of_ne sound same]
  settled policyId other reported := by
    rw [PayoutReceiver.State.recordVerified_reports] at reported
    by_cases same : policyId = report.policyId
    · rw [same, Function.update_self] at reported
      cases reported
      rw [same]
      exact ⟨adapter, obligation.id, obligation, _,
        settlement.settles sound⟩
    · rw [Function.update_of_ne same] at reported
      obtain ⟨otherAdapter, id, earlier, stored, settles⟩ :=
        agrees.settled policyId other reported
      obtain ⟨later, settlesLater⟩ :=
        (Step.settled settlement).settles_stays sound settles
      exact ⟨otherAdapter, id, later, stored, settlesLater⟩

end Settlement

/-- While `receiver` is the only Oracle, no other step turns a policy
CLAIMED, and no step separates the books. -/
theorem Step.agrees (sound : deployment.Sound before)
    (step : deployment.Step env before call after)
    (strangers : ∀ address, env.authorized address = true →
      ¬ deployment.IsReceiver address)
    (isReceiver : deployment.IsReceiver receiver)
    (sole : OnlyOracle receiver before) {state : PayoutReceiver.State}
    (installed : before.receivers receiver = some state)
    (agrees : before.Agrees receiver state) :
    ∃ changed, after.receivers receiver = some changed ∧
      after.Agrees receiver changed := by
  have kept : ∀ {address : Address} {old changed : PayoutReceiver.State},
      before.receivers address = some old →
        after.receivers =
            Function.update before.receivers address (some changed) →
          changed.reports = old.reports →
            changed.policyPaid = old.policyPaid →
              ∃ found, after.receivers receiver = some found ∧
                found.reports = state.reports ∧
                  found.policyPaid = state.policyPaid := by
    intro address old changed installedOld updated sameReports samePaid
    rw [updated]
    by_cases here : receiver = address
    · rw [here] at installed
      rw [installed] at installedOld
      cases installedOld
      exact ⟨changed, by rw [here, Function.update_self], sameReports,
        samePaid⟩
    · exact ⟨state, by rw [Function.update_of_ne here, installed], rfl, rfl⟩
  have stays : ∀ {changed : PayoutReceiver.State},
      changed.reports = state.reports →
        changed.policyPaid = state.policyPaid →
          (∀ policyId,
            after.policyManager.statusOf policyId = some .claimed →
              before.policyManager.statusOf policyId = some .claimed) →
            after.Agrees receiver changed :=
    step.agrees_stays sound agrees
  cases step with
  | managed here effect =>
      refine ⟨state, installed, stays rfl rfl ?_⟩
      intro policyId claimed
      rcases PolicyManager.claimed_origin_effect effect claimed with
        already | ⟨caller, signed, oracle⟩
      · exact already
      · rw [sole caller oracle] at signed
        exact absurd isReceiver (strangers receiver signed)
  | administered installedOld =>
      obtain ⟨found, present, sameReports, samePaid⟩ :=
        kept installedOld rfl rfl rfl
      exact ⟨found, present, stays sameReports samePaid fun _ => id⟩
  | swapped installedOld =>
      obtain ⟨found, present, sameReports, samePaid⟩ :=
        kept installedOld rfl rfl rfl
      exact ⟨found, present, stays sameReports samePaid fun _ => id⟩
  | settled settlement =>
      obtain rfl := sole _ settlement.oracle
      have same := settlement.installed
      rw [installed] at same
      cases same
      exact ⟨_, Function.update_self .., settlement.agrees sound agrees⟩
  | booked => exact ⟨state, installed, stays rfl rfl fun _ => id⟩
  | certified => exact ⟨state, installed, stays rfl rfl fun _ => id⟩
  | markerExpired installedOld =>
      obtain ⟨found, present, sameReports, samePaid⟩ :=
        kept installedOld rfl rfl rfl
      exact ⟨found, present, stays sameReports samePaid fun _ => id⟩

theorem agrees_run (deployment : Deployment Ω κ) {receiver : Address}
    (isReceiver : deployment.IsReceiver receiver)
    (invocations : List (Invocation κ))
    (sole : ∀ transition ∈ deployment.trace invocations,
      OnlyOracle receiver transition.source) :
    ∃ state, (deployment.run invocations).receivers receiver = some state ∧
      (deployment.run invocations).Agrees receiver state := by
  have invariant := History.run_invariant deployment.apply
    (fun transition => OnlyOracle receiver transition.source)
    (fun world => deployment.Sound world ∧
      ∃ state, world.receivers receiver = some state ∧
        world.Agrees receiver state)
    (fun world invocation sole ⟨sound, state, installed, agrees⟩ => by
      refine ⟨deployment.sound_apply sound invocation, ?_⟩
      rcases deployment.apply_cases world invocation with
        ⟨-, same⟩ | ⟨-, step⟩
      · rw [same]
        exact ⟨state, installed, agrees⟩
      · exact step.agrees sound
          (deployment.not_isReceiver_of_authorized invocation) isReceiver sole
          installed agrees)
    invocations
    ⟨deployment.sound_genesis, by
      obtain ⟨setup, present⟩ := Option.isSome_iff_exists.mp isReceiver
      refine ⟨_, Option.map_eq_some_iff.mpr ⟨setup, present, rfl⟩, ?_⟩
      refine ⟨?_, ?_, ?_⟩
      · intro policyId
        simp [PayoutReceiver.constructor, PayoutReceiver.State.isPolicyPaid]
      · intro policyId
        simp [PayoutReceiver.constructor, genesis, PolicyManager.constructor,
          PolicyManager.State.statusOf]
      · intro policyId report reported
        cases reported⟩
    sole
  exact invariant.2

/-- The four views of the settlement of one policy. -/
structure FourViews (deployment : Deployment Ω κ)
    (past : List (Transition (World Ω) (Invocation κ))) (world : World Ω)
    (receiver : Address) (state : PayoutReceiver.State) (policyId : Nat) :
    Prop where
  report_iff : (state.reports policyId).isSome = true ↔
    state.isPolicyPaid policyId = true
  claimed_iff : world.policyManager.statusOf policyId = some .claimed ↔
    state.isPolicyPaid policyId = true
  obligation_iff : (∃ adapter ledger, world.adapters adapter = some ledger ∧
      (ledger.obligationOf receiver policyId).isSome = true) ↔
    state.isPolicyPaid policyId = true
  exactlyOne : state.isPolicyPaid policyId = true →
    ∃ report adapter id obligation policy,
      state.reports policyId = some report ∧
        world.Settles receiver policyId report adapter id obligation policy ∧
        deployment.Originates past adapter id obligation ∧
        (∃ ledger, world.adapters adapter = some ledger ∧
          ledger.obligationOf receiver policyId = some id) ∧
        ∀ other otherId otherObligation,
          world.Holds other otherId otherObligation →
          otherObligation.payoutReceiver = receiver →
          otherObligation.policyId = policyId →
            other = adapter ∧ otherId = id

/-- While one receiver is the only Oracle, its paid flag, its report, the
CLAIMED status and the recorded obligation come together; there is then
exactly one obligation, for the policy's org, of the reported amount, under
the digest that the settling submission verified. -/
theorem crossContractAgreement (deployment : Deployment Ω κ)
    {receiver : Address} (isReceiver : deployment.IsReceiver receiver)
    (invocations : List (Invocation κ))
    (sole : ∀ transition ∈ deployment.trace invocations,
      OnlyOracle receiver transition.source) :
    ∃ state, (deployment.run invocations).receivers receiver = some state ∧
      ∀ policyId, deployment.FourViews (deployment.trace invocations)
        (deployment.run invocations) receiver state policyId := by
  obtain ⟨state, installed, agrees⟩ :=
    agrees_run deployment isReceiver invocations sole
  have sound := deployment.sound_run invocations
  refine ⟨state, installed, fun policyId => ?_⟩
  have indexed : ∀ {report adapter id obligation policy},
      (deployment.run invocations).Settles receiver policyId report adapter id
          obligation policy →
        ∃ ledger, (deployment.run invocations).adapters adapter =
            some ledger ∧
          ledger.obligationOf receiver policyId = some id := by
    intro report adapter id obligation policy settles
    obtain ⟨ledger, found, stored⟩ := settles.holds
    have lookup := (sound.ledgers adapter ledger found).indexed id obligation
      stored
    rw [settles.payoutReceiver, settles.forPolicy] at lookup
    exact ⟨ledger, found, lookup⟩
  refine
    { report_iff := (agrees.paid_iff policyId).symm
      claimed_iff :=
        (agrees.claimed_iff policyId).trans (agrees.paid_iff policyId).symm
      obligation_iff := ⟨?_, ?_⟩
      exactlyOne := ?_ }
  · rintro ⟨adapter, ledger, found, lookup⟩
    obtain ⟨id, lookup⟩ := Option.isSome_iff_exists.mp lookup
    obtain ⟨obligation, stored, sameReceiver, samePolicy⟩ :=
      (sound.ledgers adapter ledger found).stored receiver policyId id lookup
    have claimed := sound.claimed adapter id obligation
      ⟨ledger, found, stored⟩ (sameReceiver ▸ isReceiver)
    rw [samePolicy] at claimed
    exact (agrees.paid_iff policyId).mpr
      ((agrees.claimed_iff policyId).mp claimed)
  · intro paid
    obtain ⟨report, reported⟩ :=
      Option.isSome_iff_exists.mp ((agrees.paid_iff policyId).mp paid)
    obtain ⟨adapter, id, obligation, policy, settles⟩ :=
      agrees.settled policyId report reported
    obtain ⟨ledger, found, lookup⟩ := indexed settles
    exact ⟨adapter, ledger, found, by rw [lookup]; rfl⟩
  · intro paid
    obtain ⟨report, reported⟩ :=
      Option.isSome_iff_exists.mp ((agrees.paid_iff policyId).mp paid)
    obtain ⟨adapter, id, obligation, policy, settles⟩ :=
      agrees.settled policyId report reported
    have isReceiverHere : deployment.IsReceiver obligation.payoutReceiver :=
      settles.payoutReceiver ▸ isReceiver
    refine ⟨report, adapter, id, obligation, policy, reported, settles,
      originates_run deployment invocations adapter id obligation
        settles.holds isReceiverHere, indexed settles, ?_⟩
    intro other otherId otherObligation holds sameReceiver samePolicy
    exact sound.unique other otherId otherObligation adapter id obligation
      holds settles.holds (sameReceiver ▸ isReceiver) isReceiverHere
      (samePolicy.trans settles.forPolicy.symm)

/-- One receiver stays the only Oracle along every run that grants the role
to nobody else. -/
theorem onlyOracle_trace (invocations : List (Invocation κ))
    (within : ∀ invocation ∈ invocations,
      invocation.call.grantsWithin .oracle (fun who => who = receiver) =
        true) :
    ∀ transition ∈ deployment.trace invocations,
      OnlyOracle receiver transition.source := by
  intro transition member who holds
  have held := heldBy_trace deployment invocations
    (constructor_heldBy _ (by decide)) within transition member who holds
  exact of_decide_eq_true held

theorem crossContractAgreement_season :
    (seasonDeployment.run season).policyManager.statusOf 1 = some .claimed ∧
      ∃ state, (seasonDeployment.run season).receivers testnetReceiver =
          some state ∧
        ∀ policyId, seasonDeployment.FourViews
          (seasonDeployment.trace season) (seasonDeployment.run season)
          testnetReceiver state policyId :=
  ⟨by decide +kernel, crossContractAgreement seasonDeployment
    (show (seasonDeployment.receivers testnetReceiver).isSome = true by
      decide +kernel) season
    (onlyOracle_trace season (by decide +kernel))⟩

end Deployment

end Microcrop
