import Microcrop.ClaimWindow
import Microcrop.ComponentRuns
import Microcrop.Liability

/-!
# What one farmer can claim in a year

PolicyManager counts claims, and adapters record obligations.  A verified
submission does both in one step, so the obligations of a farmer, over all
receivers and adapters, stand for different claims in the farmer's history,
and the claim window bounds how many of them any 365 days can bring and what
they can amount to.
-/

namespace Microcrop

open Transaction

namespace Deployment

variable {Ω κ : Type} (deployment : Deployment Ω κ)

/-- When the obligation of a receiver under `entry` was recorded, if it is one
for the farmer. -/
def claimedAt (world : World Ω) (farmer : Address)
    (entry : Address × Nat) : Option Nat :=
  ((deployment.obligationAt world entry).filter fun obligation =>
    decide ((world.policyManager.policies obligation.policyId).map
      Policy.farmer = some farmer)).map Obligation.recordedAt

variable {deployment} {env : Env} {before after : World Ω}
  {call : World.Call κ}

theorem claimedAt_eq_some {world : World Ω} {farmer : Address}
    {entry : Address × Nat} {time : Nat} :
    deployment.claimedAt world farmer entry = some time ↔
      ∃ obligation, world.Holds entry.1 entry.2 obligation ∧
        deployment.IsReceiver obligation.payoutReceiver ∧
          (∃ policy, world.policyManager.policies obligation.policyId =
            some policy ∧ policy.farmer = farmer) ∧
            obligation.recordedAt = time := by
  simp only [claimedAt, Option.map_eq_some_iff, Option.filter_eq_some_iff,
    obligationAt_eq_some, decide_eq_true_eq, and_assoc]

/-- A step that records nothing adds no claim. -/
theorem Step.claimedAt_earlier (sound : deployment.Sound before)
    (step : deployment.Step env before call after)
    (strangers : ∀ address, env.authorized address = true →
      ¬ deployment.IsReceiver address)
    (unrecorded : ∀ adapter obligation,
      ¬ deployment.Records env before call after adapter obligation)
    {farmer : Address} {entry : Address × Nat} {time : Nat}
    (claimed : deployment.claimedAt after farmer entry = some time) :
    deployment.claimedAt before farmer entry = some time := by
  obtain ⟨later, holds, isReceiver, ⟨policy, stored, same⟩, recordedAt⟩ :=
    claimedAt_eq_some.mp claimed
  rcases step.receiver_origin sound strangers holds isReceiver with
    ⟨obligation, earlier, continues⟩ | ⟨-, recorded⟩
  · rw [continues.payoutReceiver_eq] at isReceiver
    have wasClaimed := sound.claimed _ _ _ earlier isReceiver
    obtain ⟨old, storedOld, isClaimed⟩ :=
      PolicyManager.State.statusOf_eq_some.mp wasClaimed
    have kept := step.closed_stays sound storedOld (by
      rintro (pending | active)
      · simp [isClaimed] at pending
      · simp [isClaimed] at active)
    rw [continues.policyId_eq, kept] at stored
    cases stored
    exact claimedAt_eq_some.mpr ⟨obligation, earlier, isReceiver,
      ⟨policy, storedOld, same⟩, continues.recordedAt_eq ▸ recordedAt⟩
  · exact absurd recorded (unrecorded _ _)

section Settlement

variable {address adapter : Address} {receiverCall : PayoutReceiver.Call}
  {state : PayoutReceiver.State} {policy : Policy} {report : DamageReport}
  {digest : BytesN 32} {ledger ledgerAfter : SettlementAdapter.State}
  {obligation : Obligation} {nftAfter : Ω}
  (sound : deployment.Sound before)
  (settlement : deployment.Settlement env before address receiverCall state
    policy report digest adapter ledger obligation ledgerAfter nftAfter)

include sound settlement

/-- A verified submission adds one claim of the policy's farmer. -/
theorem Settlement.claimedAt_origin {farmer : Address}
    {entry : Address × Nat} {time : Nat}
    (claimed : deployment.claimedAt (settledWorld before address state policy
      report digest adapter ledgerAfter nftAfter env.timestamp) farmer entry =
        some time) :
    deployment.claimedAt before farmer entry = some time ∨
      (policy.farmer = farmer ∧ entry = (adapter, obligation.id) ∧
        time = env.timestamp) := by
  obtain ⟨later, holds, isReceiver, ⟨insured, stored, same⟩, recordedAt⟩ :=
    claimedAt_eq_some.mp claimed
  rcases (settlement.holds_iff sound).mp holds with earlier |
    ⟨here, sameId, rfl⟩
  · have other := settlement.not_holds sound earlier isReceiver
    change (claimedManager before.policyManager policy
      env.timestamp).policies _ = _ at stored
    rw [settlement.policies_of_ne sound other] at stored
    exact Or.inl (claimedAt_eq_some.mpr ⟨later, earlier, isReceiver,
      ⟨insured, stored, same⟩, recordedAt⟩)
  · have settles := settlement.settles sound
    rw [settles.forPolicy, settles.stored] at stored
    cases stored
    exact Or.inr ⟨same, Prod.ext here sameId,
      by rw [← recordedAt, settlement.recordedAt sound]⟩

omit sound in
/-- Its two calls add one claim to the farmer's history. -/
theorem Settlement.claimHistory (farmer : Address) :
    PolicyManager.claimHistory farmer (History.trace PolicyManager.apply
        before.policyManager (deployment.claimInputs
          (env.invoke deployment.policyManager) address report.policyId
          policy.farmer before.nft nftAfter)) =
      if policy.farmer = farmer then [env.timestamp] else [] := by
  have marked : PolicyManager.apply before.policyManager
      { env := env.invoke deployment.policyManager
        nft := deployment.certificates.client, outside := before.nft
        call := .markAsClaimed address report.policyId } =
      before.policyManager.closeActive policy .claimed :=
    congrArg Prod.fst settlement.executes_mark.advance_eq
  have accepted : PolicyManager.accepts
      (before.policyManager.closeActive policy .claimed)
      { env := env.invoke deployment.policyManager
        nft := deployment.certificates.client, outside := nftAfter
        call := .incrementClaimCount address policy.farmer } = true :=
    (committed_iff _ _).mpr ⟨_, _, settlement.executes_count⟩
  unfold claimInputs PolicyManager.claimHistory
  rw [History.trace_cons, History.trace_cons, History.trace_nil, marked]
  by_cases same : policy.farmer = farmer
  · subst same
    simp [History.taken, PolicyManager.Call.countsClaimOf, accepted,
      PolicyManager.Input.time]
  · simp [History.taken, PolicyManager.Call.countsClaimOf, same]

end Settlement

/-- The claims of farmers up to a time: PolicyManager runs on its own, and
every farmer's obligations stand for different claims of that run. -/
def ClaimsTallied (deployment : Deployment Ω κ) (clock : Nat)
    (world : World Ω) : Prop :=
  ∃ inputs : List (PolicyManager.Input Ω),
    History.Chronological PolicyManager.Input.time inputs ∧
      (∀ input ∈ inputs, input.time ≤ clock) ∧
      world.policyManager = History.run PolicyManager.apply
        (PolicyManager.constructor deployment.admin) inputs ∧
      ∀ farmer, SlidingWindow.Tallies (deployment.claimedAt world farmer)
        (PolicyManager.claimsOf deployment.admin inputs farmer)

theorem ClaimsTallied.later {clock now : Nat} {world : World Ω}
    (claimed : deployment.ClaimsTallied clock world) (ordered : clock ≤ now) :
    deployment.ClaimsTallied now world := by
  obtain ⟨inputs, chronological, past, managed, tallies⟩ := claimed
  exact ⟨inputs, chronological,
    fun input member => (past input member).trans ordered, managed, tallies⟩

/-- A group of inputs at one time continues the run. -/
theorem ClaimsTallied.append {invocation : Invocation κ} {world after : World Ω}
    {inputs group : List (PolicyManager.Input Ω)}
    (chronological :
      History.Chronological PolicyManager.Input.time inputs)
    (past : ∀ input ∈ inputs, input.time ≤ invocation.time)
    (managed : world.policyManager = History.run PolicyManager.apply
      (PolicyManager.constructor deployment.admin) inputs)
    (caused : ∀ input ∈ group, deployment.ManagerInput invocation input)
    (final : after.policyManager =
      History.run PolicyManager.apply world.policyManager group)
    (tallies : ∀ farmer, SlidingWindow.Tallies
      (deployment.claimedAt after farmer)
      (PolicyManager.claimsOf deployment.admin inputs farmer ++
        PolicyManager.claimHistory farmer (History.trace PolicyManager.apply
          world.policyManager group))) :
    deployment.ClaimsTallied invocation.time after := by
  have atNow : ∀ input ∈ group, input.time = invocation.time :=
    fun input member => (caused input member).time_eq
  refine ⟨inputs ++ group, ?_, ?_, ?_, ?_⟩
  · apply List.pairwise_append.mpr
    refine ⟨chronological, ?_, ?_⟩
    · apply List.pairwise_of_forall_mem_list
      intro earlier member next nextMember
      rw [atNow earlier member, atNow next nextMember]
    · intro earlier member next nextMember
      rw [atNow next nextMember]
      exact past earlier member
  · intro input member
    rcases List.mem_append.mp member with earlier | new
    · exact past input earlier
    · exact (atNow input new).le
  · rw [History.run_append, ← managed, final]
  · intro farmer
    unfold PolicyManager.claimsOf
    rw [History.trace_append, PolicyManager.claimHistory_append, ← managed]
    exact tallies farmer

theorem claimsTallied_apply {world : World Ω} (sound : deployment.Sound world)
    (invocation : Invocation κ)
    (claimed : deployment.ClaimsTallied invocation.time world) :
    deployment.ClaimsTallied invocation.time
      (deployment.apply world invocation) := by
  rcases advance_cases (deployment.exec invocation) world with
    ⟨-, same⟩ | ⟨-, _, commits⟩
  · rw [apply, same]
    exact claimed
  · change deployment.ClaimsTallied invocation.time
      ((deployment.exec invocation).advance world)
    obtain ⟨inputs, chronological, past, managed, tallies⟩ := claimed
    have step := deployment.exec_step invocation commits
    by_cases recorded : ∃ adapter obligation, deployment.Records
        (deployment.env invocation) world invocation.call
        ((deployment.exec invocation).advance world) adapter obligation
    · obtain ⟨adapter, obligation, records⟩ := recorded
      generalize called : invocation.call = call at records
      generalize reached : (deployment.exec invocation).advance world = after
        at records
      obtain @⟨_, _, _, _, policy, _, _, _, _, _, _, settlement⟩ := records
      have made := made_invoke deployment invocation
        deployment.policyManager
      rw [called] at made
      apply ClaimsTallied.append chronological past managed
        (managerInput_of_claimInputs called made) settlement.manager_run
      intro farmer
      rw [settlement.claimHistory farmer]
      by_cases same : policy.farmer = farmer
      · rw [if_pos same]
        apply (tallies farmer).extended (adapter, obligation.id)
        intro entry time claimedAfter
        rcases settlement.claimedAt_origin sound claimedAfter with
          earlier | ⟨-, new⟩
        · exact Or.inl earlier
        · exact Or.inr new
      · rw [if_neg same]
        apply (tallies farmer).append
        intro entry time claimedAfter
        rcases settlement.claimedAt_origin sound claimedAfter with
          earlier | ⟨ours, -⟩
        · exact earlier
        · exact absurd ours same
    · obtain ⟨group, caused, final⟩ := manager_reacts commits
      refine ClaimsTallied.append chronological past managed caused final ?_
      intro farmer
      apply (tallies farmer).append
      intro entry time
      apply step.claimedAt_earlier sound
        (deployment.not_isReceiver_of_authorized invocation)
      intro adapter obligation records
      exact recorded ⟨adapter, obligation, records⟩

theorem claimsTallied_run (deployment : Deployment Ω κ)
    (invocations : List (Invocation κ))
    (chronological : History.Chronological Invocation.time invocations)
    {now : Nat} (past : ∀ invocation ∈ invocations, invocation.time ≤ now) :
    deployment.ClaimsTallied now (deployment.run invocations) := by
  have start : deployment.ClaimsTallied 0 deployment.genesis := by
    refine ⟨[], List.Pairwise.nil, by simp, rfl, ?_⟩
    intro farmer
    apply SlidingWindow.tallies_nil
    intro entry
    cases claimed : deployment.claimedAt deployment.genesis farmer entry with
    | none => rfl
    | some time =>
        obtain ⟨obligation, ⟨ledger, found, stored⟩, -⟩ :=
          claimedAt_eq_some.mp claimed
        obtain ⟨admin, -, rfl⟩ := Option.map_eq_some_iff.mp found
        cases stored
  have invariant := History.chronological_invariant deployment.apply
    (fun _ => True)
    (fun clock world => deployment.Sound world ∧
      deployment.ClaimsTallied clock world)
    (fun clock now world ordered ⟨sound, claims⟩ =>
      ⟨sound, claims.later ordered⟩)
    (fun world invocation _ ⟨sound, claims⟩ =>
      ⟨deployment.sound_apply sound invocation,
        claimsTallied_apply sound invocation claims⟩)
    invocations ⟨deployment.sound_genesis, start⟩ chronological
    (fun _ _ => Nat.zero_le _) past (Nat.zero_le now) (fun _ _ => trivial)
  exact invariant.2

/-- The entries whose obligations were recorded for the farmer in the 365 days
from `start` on, before the last representable second. -/
def claimedWithin (deployment : Deployment Ω κ) (world : World Ω)
    (farmer : Address) (start : Nat) (entries : Finset (Address × Nat)) :
    Finset (Address × Nat) :=
  entries.filter fun entry =>
    (deployment.claimedAt world farmer entry).any (fun time =>
      decide (start ≤ time ∧ time < start + PolicyManager.claimWindowSecs ∧
        time < 2 ^ 64 - 1)) = true

/-- No obligation is worth more than the largest sum insured. -/
theorem amount_le_max {world : World Ω}
    (backed : deployment.AllBacked world) (entry : Address × Nat) :
    (deployment.obligationAt world entry).elim 0 Obligation.amount ≤
      PolicyManager.maxSumInsured := by
  cases found : deployment.obligationAt world entry with
  | none => decide
  | some obligation =>
      obtain ⟨holds, isReceiver⟩ := obligationAt_eq_some.mp found
      obtain ⟨policy, backs⟩ := backed _ _ _ holds isReceiver
      obtain ⟨durationDays, valid⟩ := backs.insured
      exact backs.amount_bounds.2.trans valid.sumInsured_le

/-- Over all receivers and all adapters, and whatever became of the
obligations since, at most three obligations were recorded for a farmer in any
365 days, and they are worth at most three times the largest sum insured. -/
theorem yearlyClaims (deployment : Deployment Ω κ)
    (invocations : List (Invocation κ))
    (chronological : History.Chronological Invocation.time invocations)
    (farmer : Address) (start : Nat) (entries : Finset (Address × Nat)) :
    (deployment.claimedWithin (deployment.run invocations) farmer start
        entries).card ≤ 3 ∧
      ∑ entry ∈ deployment.claimedWithin (deployment.run invocations) farmer
          start entries,
        (deployment.obligationAt (deployment.run invocations) entry).elim 0
          Obligation.amount ≤ 3 * PolicyManager.maxSumInsured := by
  have latest : ∀ invocation ∈ invocations,
      invocation.time ≤ (invocations.map Invocation.time).sum :=
    fun invocation member => List.le_sum_of_mem (List.mem_map_of_mem member)
  obtain ⟨inputs, ordered, past, -, tallies⟩ :=
    claimsTallied_run deployment invocations chronological latest
  have faithful := PolicyManager.faithfulBuffer_of_buffersHistory
    (PolicyManager.buffersHistory_run deployment.admin inputs ordered past)
    farmer
  have few : (deployment.claimedWithin (deployment.run invocations) farmer
      start entries).card ≤ 3 :=
    (tallies farmer entries _).trans (faithful.window start)
  refine ⟨few, ?_⟩
  have bounded := Finset.sum_le_card_nsmul
    (deployment.claimedWithin (deployment.run invocations) farmer start
      entries)
    (fun entry => (deployment.obligationAt (deployment.run invocations)
      entry).elim 0 Obligation.amount)
    PolicyManager.maxSumInsured
    (fun entry _ => amount_le_max (allBacked_run deployment invocations) entry)
  have limit : (0 : Int) ≤ PolicyManager.maxSumInsured := by decide
  calc _ ≤ _ := bounded
    _ ≤ 3 • PolicyManager.maxSumInsured := nsmul_le_nsmul_left limit few
    _ = 3 * PolicyManager.maxSumInsured := by rw [nsmul_eq_mul]; rfl

theorem yearlyClaims_season :
    seasonDeployment.claimedWithin (seasonDeployment.run season)
        (PolicyManager.seasonAddress 4) 1753574000
        {(seasonContract 2, 1)} = {(seasonContract 2, 1)} ∧
      (seasonDeployment.claimedWithin (seasonDeployment.run season)
        (PolicyManager.seasonAddress 4) 1753574000
        {(seasonContract 2, 1)}).card ≤ 3 :=
  ⟨by decide +kernel, (yearlyClaims seasonDeployment season
    (by decide +kernel) (PolicyManager.seasonAddress 4) 1753574000
    {(seasonContract 2, 1)}).1⟩

end Deployment

end Microcrop
