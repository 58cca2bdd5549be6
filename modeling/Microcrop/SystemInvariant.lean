import Microcrop.DeploymentSteps
import Microcrop.ObligationLedger
import Microcrop.PolicyManagerAccounting

/-!
# The invariant of the deployed system

What holds in every state that any run reaches, whoever holds which role and
wherever the adapters are bound: the accounts of PolicyManager are exact, all
policies are Drought cover, and an obligation recorded by a PayoutReceiver
belongs to a CLAIMED policy for which no second such obligation exists in any
adapter.
-/

namespace Microcrop

open Transaction

/-- The policy was sold with a cover that `create_policy` accepts. -/
def Policy.Insured (policy : Policy) : Prop :=
  ∃ durationDays, PolicyManager.ValidCover policy.latE6 policy.lonE6
    policy.sumInsured policy.premium durationDays policy.coverageType

section Payout

variable {policy : Policy} (insured : policy.Insured) {bp : Nat}

include insured

/-- The derived payout is the floor of the insured share. -/
theorem Policy.Insured.payout_eq {payout : Int}
    (pays : PayoutReceiver.PaysOut policy bp payout) :
    payout = policy.sumInsured * bp / PayoutReceiver.basisPoints := by
  obtain ⟨durationDays, valid⟩ := insured
  have lower := valid.sumInsured_ge
  have product : 0 ≤ policy.sumInsured * (bp : Int) := by
    refine Int.mul_nonneg ?_ (Int.natCast_nonneg bp)
    unfold PolicyManager.minSumInsured at lower
    omega
  rw [pays.2, Int.tdiv_eq_ediv_of_nonneg product]

/-- No insured share overflows. -/
theorem Policy.Insured.paysOut
    (bpLe : bp ≤ PayoutReceiver.maxDamagePercentage) :
    PayoutReceiver.PaysOut policy bp
      (policy.sumInsured * bp / PayoutReceiver.basisPoints) := by
  obtain ⟨durationDays, valid⟩ := insured
  have lower := valid.sumInsured_ge
  have upper := valid.sumInsured_le
  unfold PolicyManager.minSumInsured at lower
  unfold PolicyManager.maxSumInsured at upper
  unfold PayoutReceiver.maxDamagePercentage at bpLe
  have product : 0 ≤ policy.sumInsured * (bp : Int) :=
    Int.mul_nonneg (by omega) (Int.natCast_nonneg bp)
  have bounded : policy.sumInsured * (bp : Int) ≤ 10000000000000 * 10000 :=
    Int.mul_le_mul upper (by omega) (Int.natCast_nonneg bp) (by decide)
  refine ⟨?_, (Int.tdiv_eq_ediv_of_nonneg product).symm⟩
  unfold FitsI128
  omega

/-- A payout above the threshold is never zero. -/
theorem Policy.Insured.payout_pos
    (threshold : PayoutReceiver.minDamageThreshold ≤ bp) :
    0 < policy.sumInsured * bp / PayoutReceiver.basisPoints := by
  obtain ⟨durationDays, valid⟩ := insured
  have lower := valid.sumInsured_ge
  unfold PolicyManager.minSumInsured at lower
  unfold PayoutReceiver.minDamageThreshold at threshold
  have product : (1000000000 : Int) * 3000 ≤ policy.sumInsured * (bp : Int) :=
    Int.mul_le_mul lower (by omega) (by decide) (by omega)
  unfold PayoutReceiver.basisPoints
  omega

end Payout

/-- The status under which the policy is stored. -/
def PolicyManager.State.statusOf (state : PolicyManager.State)
    (policyId : Nat) : Option PolicyStatus :=
  (state.policies policyId).map Policy.status

theorem PolicyManager.State.statusOf_eq_some {state : PolicyManager.State}
    {policyId : Nat} {status : PolicyStatus} :
    state.statusOf policyId = some status ↔
      ∃ policy, state.policies policyId = some policy ∧
        policy.status = status :=
  Option.map_eq_some_iff

/-- Every stored policy is insured. -/
def PolicyManager.State.AllInsured (state : PolicyManager.State) : Prop :=
  ∀ policyId policy, state.policies policyId = some policy → policy.Insured

theorem PolicyManager.allInsured_effect {Ω : Type}
    {nft : Env → PolicyNftClient Ω} {env : Env} {call : PolicyManager.Call}
    {before after : PolicyManager.State × Ω}
    (effect : PolicyManager.Effect nft env before call after)
    (insured : before.1.AllInsured) : after.1.AllInsured := by
  cases effect with
  | administered => exact insured
  | sold signed backend valid capacity =>
      exact KeyedStore.forall_written insured ⟨_, valid⟩
  | activated signed backend wired stored pending inTime cap ordered minted =>
      obtain ⟨durationDays, valid⟩ := insured _ _ stored
      unfold PolicyManager.State.AllInsured
      rw [PolicyManager.State.activate_policies]
      exact KeyedStore.forall_written insured ⟨durationDays, valid⟩
  | closedActive stored active cause deactivates =>
      obtain ⟨durationDays, valid⟩ := insured _ _ stored
      unfold PolicyManager.State.AllInsured
      rw [PolicyManager.State.closeActive_policies]
      exact KeyedStore.forall_written insured ⟨durationDays, valid⟩
  | closedPending stored pending cause =>
      obtain ⟨durationDays, valid⟩ := insured _ _ stored
      unfold PolicyManager.State.AllInsured
      rw [PolicyManager.State.closePending_policies]
      exact KeyedStore.forall_written insured ⟨durationDays, valid⟩
  | claimCounted signed oracle cap => exact insured
  | alreadyExpired stored expired => exact insured

/-- The adapter at `address` stores the obligation under `id`. -/
def World.Holds {Ω : Type} (world : World Ω) (address : Address) (id : Nat)
    (obligation : Obligation) : Prop :=
  ∃ ledger, world.adapters address = some ledger ∧
    ledger.obligations id = some obligation

theorem World.holds_iff {Ω : Type} {world : World Ω} {address : Address}
    {id : Nat} {obligation : Obligation} :
    world.Holds address id obligation ↔
      ((world.adapters address).bind fun ledger => ledger.obligations id) =
        some obligation :=
  Option.bind_eq_some_iff.symm

namespace Deployment

variable {Ω κ : Type} (deployment : Deployment Ω κ)

/-- The address holds a PayoutReceiver of the deployment. -/
def IsReceiver (address : Address) : Prop :=
  (deployment.receivers address).isSome = true

/-- The invariant of every reachable state. -/
structure Sound (world : World Ω) : Prop where
  accounted : world.policyManager.Accounted
  insured : world.policyManager.AllInsured
  ledgers : ∀ address ledger, world.adapters address = some ledger →
    ledger.WellFormed
  installed : ∀ address, (world.receivers address).isSome = true ↔
    deployment.IsReceiver address
  managed : ∀ address state, world.receivers address = some state →
    state.policyManager = some deployment.policyManager
  claimed : ∀ address id obligation, world.Holds address id obligation →
    deployment.IsReceiver obligation.payoutReceiver →
      world.policyManager.statusOf obligation.policyId = some .claimed
  unique : ∀ address id obligation other otherId otherObligation,
    world.Holds address id obligation →
    world.Holds other otherId otherObligation →
    deployment.IsReceiver obligation.payoutReceiver →
    deployment.IsReceiver otherObligation.payoutReceiver →
    obligation.policyId = otherObligation.policyId →
      address = other ∧ id = otherId

theorem sound_genesis : deployment.Sound deployment.genesis := by
  have empty : ∀ address id obligation,
      ¬ deployment.genesis.Holds address id obligation := by
    rintro address id obligation ⟨ledger, found, stored⟩
    obtain ⟨admin, -, rfl⟩ := Option.map_eq_some_iff.mp found
    cases stored
  refine ⟨PolicyManager.accounted_constructor deployment.admin, ?_, ?_, ?_,
    ?_, ?_, ?_⟩
  · intro policyId policy stored
    cases stored
  · intro address ledger found
    obtain ⟨admin, -, rfl⟩ := Option.map_eq_some_iff.mp found
    exact SettlementAdapter.wellFormed_constructor admin
  · intro address
    simp [genesis, IsReceiver]
  · intro address state installed
    obtain ⟨setup, -, rfl⟩ := Option.map_eq_some_iff.mp installed
    rfl
  · intro address id obligation holds
    exact absurd holds (empty address id obligation)
  · intro address id obligation other otherId otherObligation holds
    exact absurd holds (empty address id obligation)

/-! ## A verified submission -/

section Settlement

variable {deployment} {env : Env} {before : World Ω} {address : Address}
  {call : PayoutReceiver.Call} {state : PayoutReceiver.State}
  {policy : Policy} {report : DamageReport} {digest : BytesN 32}
  {adapter : Address} {ledger ledgerAfter : SettlementAdapter.State}
  {obligation : Obligation} {nftAfter : Ω}
  (sound : deployment.Sound before)
  (settlement : deployment.Settlement env before address call state policy
    report digest adapter ledger obligation ledgerAfter nftAfter)

include settlement

/-- The policy is ACTIVE until the receiver's first call. -/
theorem Settlement.statusOf :
    before.policyManager.statusOf report.policyId = some .active :=
  PolicyManager.State.statusOf_eq_some.mpr
    ⟨policy, settlement.handover.stored, settlement.active⟩

include sound

theorem Settlement.isReceiver : deployment.IsReceiver address :=
  (sound.installed address).mp
    (Option.isSome_iff_exists.mpr ⟨state, settlement.installed⟩)

theorem Settlement.policy_id : policy.id = report.policyId :=
  (sound.accounted.keyed _ _ settlement.handover.stored).1

/-- No adapter holds an obligation of a receiver for an ACTIVE policy. -/
theorem Settlement.not_holds {other : Address} {id : Nat}
    {earlier : Obligation} (holds : before.Holds other id earlier)
    (isReceiver : deployment.IsReceiver earlier.payoutReceiver) :
    earlier.policyId ≠ report.policyId := by
  intro same
  have claimed := sound.claimed other id earlier holds isReceiver
  rw [same, settlement.statusOf] at claimed
  cases claimed

/-- The adapter records a new obligation. -/
theorem Settlement.records :
    ledger.obligationOf obligation.payoutReceiver obligation.policyId =
        none ∧
      ledger.nextObligationId = some obligation.id ∧
        obligation.orgIndex = ledger.orgObligationCount obligation.org ∧
          ledgerAfter = ledger.insertObligation obligation := by
  obtain ⟨-, -, -, ⟨id, -, stored, -⟩ | ⟨missing, id, next, -, -, written,
    changed⟩⟩ :=
    (SettlementAdapter.recordObligation_commits _ _ _ _ _ _ _ _ _).mp
      settlement.handover.recorded
  · have receiver : deployment.IsReceiver obligation.payoutReceiver := by
      rw [settlement.payoutReceiver]
      exact settlement.isReceiver sound
    exact absurd settlement.handover.policyId (settlement.not_holds sound
      ⟨ledger, settlement.handover.found, stored⟩ receiver)
  · rw [settlement.handover.receiver, settlement.handover.policyId]
    refine ⟨missing, ?_, ?_, changed⟩
    · rw [next, written]
      rfl
    · rw [written]
      rfl

/-- After a verified submission the adapters hold what they held before and
the new obligation. -/
theorem Settlement.holds_iff {other : Address} {id : Nat}
    {later : Obligation} :
    (settledWorld before address state policy report digest adapter
        ledgerAfter nftAfter env.timestamp).Holds other id later ↔
      before.Holds other id later ∨
        (other = adapter ∧ id = obligation.id ∧ later = obligation) := by
  obtain ⟨-, next, -, changed⟩ := settlement.records sound
  have free := SettlementAdapter.obligations_next
    (sound.ledgers adapter ledger settlement.handover.found) next
  have found := settlement.handover.found
  unfold World.Holds settledWorld
  dsimp only
  rw [changed]
  by_cases here : other = adapter
  · rw [here, Function.update_self]
    by_cases new : id = obligation.id
    · simp [new, found, free, eq_comm]
    · simp [new, found]
  · rw [Function.update_of_ne here]
    simp [here]

/-- The policy is CLAIMED after the receiver's calls. -/
theorem Settlement.claimed :
    (claimedManager before.policyManager policy env.timestamp).statusOf
      report.policyId = some .claimed := by
  refine PolicyManager.State.statusOf_eq_some.mpr
    ⟨{ policy with status := .claimed }, ?_, rfl⟩
  change (before.policyManager.closeActive policy .claimed).policies _ = _
  rw [PolicyManager.State.closeActive_policies, settlement.policy_id sound,
    Function.update_self]

end Settlement

/-- The step is a verified submission that records `obligation` in the
adapter at `adapter`. -/
inductive Records (env : Env) (before : World Ω) :
    World.Call κ → World Ω → Address → Obligation → Prop
  | intro {address adapter : Address} {call : PayoutReceiver.Call}
      {state : PayoutReceiver.State} {policy : Policy}
      {report : DamageReport} {digest : BytesN 32}
      {ledger ledgerAfter : SettlementAdapter.State}
      {obligation : Obligation} {nftAfter : Ω}
      (settlement : deployment.Settlement env before address call state
        policy report digest adapter ledger obligation ledgerAfter
        nftAfter) :
      Records env before (.receiver address call)
        (settledWorld before address state policy report digest adapter
          ledgerAfter nftAfter env.timestamp) adapter obligation

section Records

variable {deployment} {env : Env} {before after : World Ω}
  {call : World.Call κ} {adapter : Address} {obligation : Obligation}
  (sound : deployment.Sound before)
  (records : deployment.Records env before call after adapter obligation)

include sound records

/-- The obligation belongs to an ACTIVE policy, which is CLAIMED by the same
step. -/
theorem Records.claims :
    before.policyManager.statusOf obligation.policyId = some .active ∧
      after.policyManager.statusOf obligation.policyId = some .claimed := by
  obtain ⟨settlement⟩ := records
  rw [settlement.handover.policyId]
  exact ⟨settlement.statusOf, settlement.claimed sound⟩

theorem Records.isReceiver :
    deployment.IsReceiver obligation.payoutReceiver := by
  obtain ⟨settlement⟩ := records
  rw [settlement.payoutReceiver]
  exact settlement.isReceiver sound

/-- The adapter and the id of the new obligation follow from the state before
the step. -/
theorem Records.next :
    ∃ receiver receiverCall state ledger,
      call = .receiver receiver receiverCall ∧
        before.receivers receiver = some state ∧
          state.settlementAdapter = some adapter ∧
            before.adapters adapter = some ledger ∧
              ledger.nextObligationId = some obligation.id := by
  obtain ⟨settlement⟩ := records
  exact ⟨_, _, _, _, rfl, settlement.installed, settlement.handover.bound,
    settlement.handover.found, (settlement.records sound).2.1⟩

/-- A step records at most one obligation. -/
theorem Records.deterministic {other : Address} {second : Obligation}
    (again : deployment.Records env before call after other second) :
    adapter = other ∧ obligation.id = second.id := by
  obtain ⟨receiver, receiverCall, state, ledger, called, installed, bound,
    found, next⟩ := records.next sound
  obtain ⟨_, _, otherState, otherLedger, calledOther, installedOther,
    boundOther, foundOther, nextOther⟩ := again.next sound
  rw [called] at calledOther
  cases calledOther
  rw [installed] at installedOther
  cases installedOther
  rw [bound] at boundOther
  cases boundOther
  rw [found] at foundOther
  cases foundOther
  rw [next] at nextOther
  exact ⟨rfl, Option.some.inj nextOther⟩

end Records

/-! ## Every step -/

section Step

variable {deployment} {env : Env} {before after : World Ω}
  {call : World.Call κ} (sound : deployment.Sound before)
  (step : deployment.Step env before call after)

include sound step

/-- Obligations never disappear. -/
theorem Step.holds_continues {address : Address} {id : Nat}
    {obligation : Obligation} (holds : before.Holds address id obligation) :
    ∃ later, after.Holds address id later ∧ obligation.Continues later := by
  cases step with
  | managed => exact ⟨obligation, holds, rfl⟩
  | administered => exact ⟨obligation, holds, rfl⟩
  | swapped => exact ⟨obligation, holds, rfl⟩
  | settled settlement =>
      exact ⟨obligation, (settlement.holds_iff sound).mpr (Or.inl holds), rfl⟩
  | @booked adapter _ ledger changed found effect =>
      obtain ⟨other, foundOther, stored⟩ := holds
      by_cases here : address = adapter
      · rw [here, found] at foundOther
        cases foundOther
        obtain ⟨later, storedLater, continues⟩ :=
          SettlementAdapter.continues_effect effect
            (sound.ledgers adapter ledger found) stored
        exact ⟨later, ⟨changed, by rw [here]; exact Function.update_self ..,
          storedLater⟩, continues⟩
      · exact ⟨obligation, ⟨other,
          (Function.update_of_ne here ..).trans foundOther, stored⟩, rfl⟩
  | certified => exact ⟨obligation, holds, rfl⟩
  | markerExpired => exact ⟨obligation, holds, rfl⟩

/-- An obligation was there before, or a verified submission recorded it, or
the bound receiver authorized its record itself. -/
theorem Step.holds_origin {address : Address} {id : Nat} {later : Obligation}
    (holds : after.Holds address id later) :
    (∃ obligation, before.Holds address id obligation ∧
        obligation.Continues later) ∨
      (id = later.id ∧
        deployment.Records env before call after address later) ∨
      (env.authorized later.payoutReceiver = true ∧
        ∃ ledger, before.adapters address = some ledger ∧
          ledger.payoutReceiver = some later.payoutReceiver) := by
  cases step with
  | managed => exact Or.inl ⟨later, holds, rfl⟩
  | administered => exact Or.inl ⟨later, holds, rfl⟩
  | swapped => exact Or.inl ⟨later, holds, rfl⟩
  | settled settlement =>
      rcases (settlement.holds_iff sound).mp holds with earlier |
        ⟨rfl, sameId, rfl⟩
      · exact Or.inl ⟨later, earlier, rfl⟩
      · exact Or.inr (Or.inl ⟨sameId, .intro settlement⟩)
  | @booked adapter _ ledger changed found effect =>
      obtain ⟨other, foundOther, stored⟩ := holds
      change Function.update before.adapters adapter (some changed) address =
        some other at foundOther
      by_cases here : address = adapter
      · rw [here, Function.update_self] at foundOther
        cases foundOther
        rcases SettlementAdapter.origin_effect effect stored with
          ⟨obligation, storedBefore, continues⟩ | ⟨bound, signed⟩
        · exact Or.inl ⟨obligation, ⟨ledger, by rw [here, found],
            storedBefore⟩, continues⟩
        · exact Or.inr (Or.inr ⟨signed, ledger, by rw [here, found], bound⟩)
      · rw [Function.update_of_ne here] at foundOther
        exact Or.inl ⟨later, ⟨other, foundOther, stored⟩, rfl⟩
  | certified => exact Or.inl ⟨later, holds, rfl⟩
  | markerExpired => exact Or.inl ⟨later, holds, rfl⟩

/-- A closed policy stays as it is. -/
theorem Step.closed_stays {policyId : Nat} {policy : Policy}
    (stored : before.policyManager.policies policyId = some policy)
    (closed : ¬ policy.IsOpen) :
    after.policyManager.policies policyId = some policy :=
  (step.manager_preserved
    (fun manager => manager.Accounted ∧
      manager.policies policyId = some policy)
    (fun effect ⟨accounted, stored⟩ =>
      ⟨PolicyManager.accounted_effect effect accounted,
        PolicyManager.closed_effect effect accounted stored closed⟩)
    ⟨sound.accounted, stored⟩).2

theorem Step.claimed_stays {policyId : Nat}
    (claimed : before.policyManager.statusOf policyId = some .claimed) :
    after.policyManager.statusOf policyId = some .claimed := by
  obtain ⟨policy, stored, isClaimed⟩ :=
    PolicyManager.State.statusOf_eq_some.mp claimed
  have closed : ¬ policy.IsOpen := by
    rintro (pending | active)
    · simp [isClaimed] at pending
    · simp [isClaimed] at active
  exact PolicyManager.State.statusOf_eq_some.mpr
    ⟨policy, step.closed_stays sound stored closed, isClaimed⟩

/-- What inserting an obligation and every call of an adapter preserve holds
of all adapters after a step. -/
theorem Step.ledgers_preserved (Good : SettlementAdapter.State → Prop)
    (inserts : ∀ {ledger : SettlementAdapter.State} {obligation : Obligation},
      ledger.WellFormed → Good ledger →
        ledger.obligationOf obligation.payoutReceiver obligation.policyId =
          none →
        ledger.nextObligationId = some obligation.id →
        obligation.orgIndex = ledger.orgObligationCount obligation.org →
          Good (ledger.insertObligation obligation))
    (effects : ∀ {env : Env} {call : SettlementAdapter.Call}
      {ledger changed : SettlementAdapter.State},
      SettlementAdapter.Effect env ledger call changed →
        ledger.WellFormed → Good ledger → Good changed)
    (good : ∀ address ledger, before.adapters address = some ledger →
      Good ledger) (address : Address) (ledger : SettlementAdapter.State)
    (found : after.adapters address = some ledger) : Good ledger := by
  have updated : ∀ {adapter : Address} {changed : SettlementAdapter.State},
      Good changed →
        Function.update before.adapters adapter (some changed) address =
          some ledger → Good ledger := by
    intro adapter changed goodAfter foundAfter
    by_cases here : address = adapter
    · rw [here, Function.update_self] at foundAfter
      cases foundAfter
      exact goodAfter
    · rw [Function.update_of_ne here] at foundAfter
      exact good address ledger foundAfter
  cases step with
  | managed => exact good address ledger found
  | administered => exact good address ledger found
  | swapped => exact good address ledger found
  | settled settlement =>
      obtain ⟨missing, next, appended, changed⟩ :=
        settlement.records sound
      have foundBefore := settlement.handover.found
      refine updated ?_ found
      rw [changed]
      exact inserts (sound.ledgers _ _ foundBefore) (good _ _ foundBefore)
        missing next appended
  | booked foundBefore effect =>
      exact updated (effects effect (sound.ledgers _ _ foundBefore)
        (good _ _ foundBefore)) found
  | certified => exact good address ledger found
  | markerExpired => exact good address ledger found

theorem Step.ledgers_wellFormed (address : Address)
    (ledger : SettlementAdapter.State)
    (found : after.adapters address = some ledger) : ledger.WellFormed :=
  step.ledgers_preserved sound SettlementAdapter.State.WellFormed
    (fun wellFormed _ missing next appended =>
      SettlementAdapter.wellFormed_insert wellFormed missing next appended)
    (fun effect wellFormed _ =>
      SettlementAdapter.wellFormed_effect effect wellFormed)
    sound.ledgers address ledger found

theorem Step.receivers_installed (address : Address) :
    (after.receivers address).isSome = true ↔
      deployment.IsReceiver address := by
  rw [← sound.installed address]
  have updated : ∀ {receiver : Address} {old changed : PayoutReceiver.State},
      before.receivers receiver = some old →
        ((Function.update before.receivers receiver (some changed)
          address).isSome = true ↔
            (before.receivers address).isSome = true) := by
    intro receiver old changed installed
    by_cases here : address = receiver
    · rw [here, Function.update_self, installed]
      simp
    · rw [Function.update_of_ne here]
  cases step with
  | managed => exact Iff.rfl
  | administered installed => exact updated installed
  | swapped installed => exact updated installed
  | settled settlement => exact updated settlement.installed
  | booked => exact Iff.rfl
  | certified => exact Iff.rfl
  | markerExpired installed => exact updated installed

omit sound in
/-- A receiver keeps its siblings but for swaps of its adapter. -/
theorem Step.receivers_preserved
    (Good : (adapter manager : Option Address) → Prop)
    (swaps : ∀ {adapter manager} (swapped : Address),
      Good adapter manager → Good (some swapped) manager)
    (good : ∀ address state, before.receivers address = some state →
      Good state.settlementAdapter state.policyManager) (address : Address)
    (state : PayoutReceiver.State)
    (installed : after.receivers address = some state) :
    Good state.settlementAdapter state.policyManager := by
  have updated : ∀ {receiver : Address} {changed : PayoutReceiver.State},
      Function.update before.receivers receiver (some changed) address =
          some state →
        Good changed.settlementAdapter changed.policyManager →
          Good state.settlementAdapter state.policyManager := by
    intro receiver changed installedAfter goodAfter
    by_cases here : address = receiver
    · rw [here, Function.update_self] at installedAfter
      cases installedAfter
      exact goodAfter
    · rw [Function.update_of_ne here] at installedAfter
      exact good address state installedAfter
  cases step with
  | managed => exact good address state installed
  | administered installedOld =>
      have kept := good _ _ installedOld
      exact updated installed kept
  | swapped installedOld =>
      have kept := good _ _ installedOld
      exact updated installed (swaps _ kept)
  | settled settlement =>
      have kept := good _ _ settlement.installed
      exact updated installed kept
  | booked => exact good address state installed
  | certified => exact good address state installed
  | markerExpired installedOld =>
      have kept := good _ _ installedOld
      exact updated installed kept

/-- A receiver never forgets its PolicyManager. -/
theorem Step.receivers_managed (address : Address)
    (state : PayoutReceiver.State)
    (installed : after.receivers address = some state) :
    state.policyManager = some deployment.policyManager :=
  step.receivers_preserved
    (fun _ manager => manager = some deployment.policyManager)
    (fun _ same => same) sound.managed address state installed

/-- No contract authorizes a direct call, so every obligation of a receiver
stems from a verified submission. -/
theorem Step.receiver_origin
    (strangers : ∀ address, env.authorized address = true →
      ¬ deployment.IsReceiver address)
    {address : Address} {id : Nat} {later : Obligation}
    (holds : after.Holds address id later)
    (isReceiver : deployment.IsReceiver later.payoutReceiver) :
    (∃ obligation, before.Holds address id obligation ∧
        obligation.Continues later) ∨
      (id = later.id ∧
        deployment.Records env before call after address later) := by
  rcases step.holds_origin sound holds with earlier | recorded | direct
  · exact Or.inl earlier
  · exact Or.inr recorded
  · exact absurd isReceiver (strangers _ direct.1)

/-- The invariant survives every step. -/
theorem Step.sound_after
    (strangers : ∀ address, env.authorized address = true →
      ¬ deployment.IsReceiver address) : deployment.Sound after := by
  refine
    { accounted := step.manager_preserved PolicyManager.State.Accounted
        PolicyManager.accounted_effect sound.accounted
      insured := step.manager_preserved PolicyManager.State.AllInsured
        PolicyManager.allInsured_effect sound.insured
      ledgers := step.ledgers_wellFormed sound
      installed := step.receivers_installed sound
      managed := step.receivers_managed sound
      claimed := ?_
      unique := ?_ }
  · intro address id later holds isReceiver
    rcases step.receiver_origin sound strangers holds isReceiver with
      ⟨obligation, earlier, continues⟩ | ⟨-, recorded⟩
    · rw [continues.policyId_eq]
      rw [continues.payoutReceiver_eq] at isReceiver
      exact step.claimed_stays sound
        (sound.claimed address id obligation earlier isReceiver)
    · exact (recorded.claims sound).2
  · intro address id later other otherId otherLater holds holdsOther
      isReceiver isReceiverOther same
    rcases step.receiver_origin sound strangers holds isReceiver with
      ⟨obligation, earlier, continues⟩ | ⟨sameId, recorded⟩
    · rw [continues.policyId_eq] at same
      rw [continues.payoutReceiver_eq] at isReceiver
      rcases step.receiver_origin sound strangers holdsOther
        isReceiverOther with
        ⟨otherObligation, earlierOther, continuesOther⟩ | ⟨-, recordedOther⟩
      · rw [continuesOther.policyId_eq] at same
        rw [continuesOther.payoutReceiver_eq] at isReceiverOther
        exact sound.unique address id obligation other otherId
          otherObligation earlier earlierOther isReceiver isReceiverOther same
      · have claimed :=
          sound.claimed address id obligation earlier isReceiver
        rw [same, (recordedOther.claims sound).1] at claimed
        cases claimed
    · rcases step.receiver_origin sound strangers holdsOther
        isReceiverOther with
        ⟨otherObligation, earlierOther, continuesOther⟩ |
        ⟨sameOtherId, recordedOther⟩
      · rw [continuesOther.payoutReceiver_eq] at isReceiverOther
        have claimed := sound.claimed other otherId otherObligation
          earlierOther isReceiverOther
        rw [← continuesOther.policyId_eq, ← same,
          (recorded.claims sound).1] at claimed
        cases claimed
      · rw [sameId, sameOtherId]
        exact recorded.deterministic sound recordedOther

end Step

/-! ## Every run -/

/-- The authorization of an invocation never comes from a receiver. -/
theorem not_isReceiver_of_authorized (invocation : Invocation κ)
    (address : Address)
    (signed : (deployment.env invocation).authorized address = true) :
    ¬ deployment.IsReceiver address := by
  intro isReceiver
  obtain ⟨setup, present⟩ := Option.isSome_iff_exists.mp isReceiver
  simp [env, isContract, present] at signed

theorem sound_apply {world : World Ω} (sound : deployment.Sound world)
    (invocation : Invocation κ) :
    deployment.Sound (deployment.apply world invocation) := by
  rcases deployment.apply_cases world invocation with ⟨-, same⟩ | ⟨-, step⟩
  · rw [same]
    exact sound
  · exact step.sound_after sound
      (deployment.not_isReceiver_of_authorized invocation)

theorem sound_run (invocations : List (Invocation κ)) :
    deployment.Sound (deployment.run invocations) :=
  History.run_invariant deployment.apply (fun _ => True) deployment.Sound
    (fun _ invocation _ sound => deployment.sound_apply sound invocation)
    invocations deployment.sound_genesis (fun _ _ => trivial)

/-- What every accepted call keeps in a sound state is kept by every run. -/
theorem run_preserves (Kept : World Ω → Prop) {world : World Ω}
    (sound : deployment.Sound world) (kept : Kept world)
    (invocations : List (Invocation κ))
    (steps : ∀ world invocation after, deployment.Sound world →
      deployment.Step (deployment.env invocation) world invocation.call
        after → Kept world → Kept after) :
    Kept (History.run deployment.apply world invocations) := by
  have invariant := History.run_invariant deployment.apply (fun _ => True)
    (fun world => deployment.Sound world ∧ Kept world)
    (fun world invocation _ invariant => by
      obtain ⟨sound, kept⟩ := invariant
      refine ⟨deployment.sound_apply sound invocation, ?_⟩
      rcases deployment.apply_cases world invocation with
        ⟨-, same⟩ | ⟨-, step⟩
      · rw [same]
        exact kept
      · exact steps world invocation _ sound step kept)
    invocations ⟨sound, kept⟩ (fun _ _ => trivial)
  exact invariant.2

end Deployment

end Microcrop
