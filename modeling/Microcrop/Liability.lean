import Microcrop.CrossContractAgreement

/-!
# What the obligations add up to

Every obligation of a receiver is backed by a CLAIMED policy of the same
organisation: its amount is a share of the sum insured above the damage
threshold, and it was recorded while the cover ran.  No two obligations are
backed by one policy, so whatever the adapters owe for an organisation is
covered by its CLAIMED policies, beside the exposure that is outstanding.
-/

namespace Microcrop

theorem Obligation.Continues.recordedAt_eq {obligation later : Obligation}
    (continues : obligation.Continues later) :
    later.recordedAt = obligation.recordedAt := by
  rw [continues]

/-- The CLAIMED policy that an obligation pays out. -/
structure World.Backs {Ω : Type} (world : World Ω) (obligation : Obligation)
    (policy : Policy) : Prop where
  stored : world.policyManager.policies obligation.policyId = some policy
  claimed : policy.status = .claimed
  insured : policy.Insured
  org : obligation.org = policy.org
  share : ∃ bp, PayoutReceiver.minDamageThreshold ≤ bp ∧
    bp ≤ PayoutReceiver.maxDamagePercentage ∧
      obligation.amount =
        policy.sumInsured * (bp : Int) / PayoutReceiver.basisPoints
  inCover : obligation.recordedAt ≤ policy.endDate

section Share

variable {Ω : Type} {world : World Ω} {obligation : Obligation}
  {policy : Policy} (backs : world.Backs obligation policy)

include backs

/-- An obligation is worth something, and never more than the sum insured. -/
theorem World.Backs.amount_bounds :
    0 < obligation.amount ∧ obligation.amount ≤ policy.sumInsured := by
  obtain ⟨bp, threshold, most, amount⟩ := backs.share
  have positive := backs.insured.payout_pos threshold
  obtain ⟨durationDays, valid⟩ := backs.insured
  have lower := valid.sumInsured_ge
  unfold PolicyManager.minSumInsured at lower
  unfold PayoutReceiver.maxDamagePercentage at most
  rw [amount]
  refine ⟨positive, ?_⟩
  have whole : policy.sumInsured * (bp : Int) ≤ policy.sumInsured * 10000 :=
    Int.mul_le_mul_of_nonneg_left (by omega) (by omega)
  unfold PayoutReceiver.basisPoints
  omega

end Share

namespace PolicyManager

variable (state : State)

/-- The sum insured of the organisation's CLAIMED policies. -/
def State.claimedExposure (org : Address) : Int :=
  KeyedStore.total
    (fun policy : Policy =>
      if policy.org = org ∧ policy.status = .claimed then policy.sumInsured
      else 0)
    state.policies state.getTotalPolicies

/-- The sum insured of all policies ever sold to the organisation. -/
def State.writtenExposure (org : Address) : Int :=
  KeyedStore.total
    (fun policy : Policy =>
      if policy.org = org then policy.sumInsured else 0)
    state.policies state.getTotalPolicies

/-- CLAIMED policies and the outstanding exposure are disjoint parts of what
was sold. -/
theorem claimed_add_outstanding_le {state : State}
    (accounted : state.Accounted) (org : Address) :
    state.claimedExposure org + state.orgOutstanding org ≤
      state.writtenExposure org := by
  rw [accounted.exposure]
  unfold State.claimedExposure State.openExposure State.writtenExposure
  rw [KeyedStore.total_add]
  apply KeyedStore.total_mono
  intro policyId policy stored
  have nonneg := accounted.insured policyId policy stored
  by_cases same : policy.org = org
  · by_cases claimed : policy.status = .claimed
    · have closed : ¬ policy.IsOpen := by
        rintro (pending | active)
        · simp [claimed] at pending
        · simp [claimed] at active
      simp [same, claimed, closed]
    · by_cases isOpen : policy.IsOpen
      · simp [same, claimed, isOpen]
      · simpa [same, claimed, isOpen] using nonneg
  · simp [same]

end PolicyManager

namespace Deployment

variable {Ω κ : Type} (deployment : Deployment Ω κ)

/-- Every obligation of a receiver is backed. -/
def AllBacked (world : World Ω) : Prop :=
  ∀ adapter id obligation, world.Holds adapter id obligation →
    deployment.IsReceiver obligation.payoutReceiver →
      ∃ policy, world.Backs obligation policy

/-- The obligation of a receiver that the adapter at `entry.1` stores under
`entry.2`. -/
def obligationAt (world : World Ω) (entry : Address × Nat) :
    Option Obligation :=
  ((world.adapters entry.1).bind fun ledger =>
    ledger.obligations entry.2).filter fun obligation =>
      (deployment.receivers obligation.payoutReceiver).isSome

/-- What the entry owes for the organisation. -/
def owed (world : World Ω) (org : Address) (entry : Address × Nat) : Int :=
  (deployment.obligationAt world entry).elim 0 fun obligation =>
    if obligation.org = org then obligation.amount else 0

/-- The policy that the entry pays out. -/
def owedFor (world : World Ω) (entry : Address × Nat) : Nat :=
  (deployment.obligationAt world entry).elim 0 Obligation.policyId

variable {deployment} {env : Env} {before after : World Ω}
  {call : World.Call κ}

/-- The policy that backs an obligation stays CLAIMED. -/
theorem Step.backs_stays (sound : deployment.Sound before)
    (step : deployment.Step env before call after)
    {obligation later : Obligation} {policy : Policy}
    (backs : before.Backs obligation policy)
    (continues : obligation.Continues later) :
    after.Backs later policy where
  stored := by
    rw [continues.policyId_eq]
    apply step.closed_stays sound backs.stored
    rintro (pending | active)
    · simp [backs.claimed] at pending
    · simp [backs.claimed] at active
  claimed := backs.claimed
  insured := backs.insured
  org := continues.org_eq.trans backs.org
  share := by
    rw [continues.amount_eq]
    exact backs.share
  inCover := by
    rw [continues.recordedAt_eq]
    exact backs.inCover

section Settlement

variable {address adapter : Address} {receiverCall : PayoutReceiver.Call}
  {state : PayoutReceiver.State} {policy : Policy} {report : DamageReport}
  {digest : BytesN 32} {ledger ledgerAfter : SettlementAdapter.State}
  {obligation : Obligation} {nftAfter : Ω}
  (sound : deployment.Sound before)
  (settlement : deployment.Settlement env before address receiverCall state
    policy report digest adapter ledger obligation ledgerAfter nftAfter)

include sound settlement

/-- A new obligation is recorded at the time of the step. -/
theorem Settlement.recordedAt : obligation.recordedAt = env.timestamp := by
  obtain ⟨missing, -, -, -⟩ := settlement.records sound
  obtain ⟨-, -, -, ⟨id, existing, -⟩ | ⟨-, id, -, -, -, written, -⟩⟩ :=
    (SettlementAdapter.recordObligation_commits _ _ _ _ _ _ _ _ _).mp
      settlement.handover.recorded
  · rw [settlement.handover.receiver, settlement.handover.policyId,
      existing] at missing
    cases missing
  · rw [written]
    rfl

/-- The policy of a verified submission backs the new obligation. -/
theorem Settlement.backs :
    (settledWorld before address state policy report digest adapter
        ledgerAfter nftAfter env.timestamp).Backs obligation
      { policy with status := .claimed } := by
  have settles := settlement.settles sound
  obtain ⟨durationDays, valid⟩ := sound.insured _ _ settlement.handover.stored
  obtain ⟨caller, d, signature, recoveryId, domain, -, reported, -, checks⟩ :=
    settlement.drought sound
  have percentage : report.damagePercentage = d.damagePercentBp.val := by
    rw [reported]
    rfl
  have inCover := settlement.inCover
  rw [← settlement.recordedAt sound] at inCover
  exact
    { stored := by
        rw [settles.forPolicy]
        exact settles.stored
      claimed := rfl
      insured := ⟨durationDays, valid⟩
      org := settles.org
      share := ⟨d.damagePercentBp.val, checks.evidence.threshold,
        checks.evidence.bp_le, by
          rw [settles.amount, settles.payout, percentage]⟩
      inCover := inCover }

end Settlement

/-- A verified submission backs what it records. -/
theorem Records.backs (sound : deployment.Sound before) {adapter : Address}
    {obligation : Obligation}
    (records : deployment.Records env before call after adapter
      obligation) :
    ∃ policy, after.Backs obligation policy := by
  obtain ⟨settlement⟩ := records
  exact ⟨_, settlement.backs sound⟩

theorem Step.allBacked (sound : deployment.Sound before)
    (step : deployment.Step env before call after)
    (strangers : ∀ address, env.authorized address = true →
      ¬ deployment.IsReceiver address)
    (backed : deployment.AllBacked before) : deployment.AllBacked after := by
  intro adapter id later holds isReceiver
  rcases step.receiver_origin sound strangers holds isReceiver with
    ⟨obligation, earlier, continues⟩ | ⟨-, recorded⟩
  · rw [continues.payoutReceiver_eq] at isReceiver
    obtain ⟨policy, backs⟩ :=
      backed adapter id obligation earlier isReceiver
    exact ⟨policy, step.backs_stays sound backs continues⟩
  · exact recorded.backs sound

/-- In every state that a run reaches, every obligation of a receiver is
backed. -/
theorem allBacked_run (deployment : Deployment Ω κ)
    (invocations : List (Invocation κ)) :
    deployment.AllBacked (deployment.run invocations) := by
  apply deployment.run_preserves deployment.AllBacked
    deployment.sound_genesis
  · rintro adapter id obligation ⟨ledger, found, stored⟩
    obtain ⟨admin, -, rfl⟩ := Option.map_eq_some_iff.mp found
    cases stored
  · intro world invocation after sound step backed
    exact step.allBacked sound
      (deployment.not_isReceiver_of_authorized invocation) backed

theorem obligationAt_eq_some {world : World Ω} {entry : Address × Nat}
    {obligation : Obligation} :
    deployment.obligationAt world entry = some obligation ↔
      world.Holds entry.1 entry.2 obligation ∧
        deployment.IsReceiver obligation.payoutReceiver := by
  unfold obligationAt IsReceiver
  rw [Option.filter_eq_some_iff, World.holds_iff]

/-- Only entries with an obligation count. -/
theorem sum_owed (world : World Ω) (org : Address)
    (entries : Finset (Address × Nat)) :
    ∑ entry ∈ entries with (deployment.obligationAt world entry).isSome = true,
        deployment.owed world org entry =
      ∑ entry ∈ entries, deployment.owed world org entry := by
  apply Finset.sum_filter_of_ne
  intro entry _ worth
  cases found : deployment.obligationAt world entry with
  | none => exact absurd (by rw [owed, found]; rfl) worth
  | some obligation => rfl

/-- Different entries pay out different policies. -/
theorem owedFor_injOn {world : World Ω} (sound : deployment.Sound world)
    (entries : Finset (Address × Nat)) :
    Set.InjOn (deployment.owedFor world)
      (entries.filter fun entry =>
        (deployment.obligationAt world entry).isSome = true) := by
  intro entry member other memberOther same
  obtain ⟨obligation, found⟩ := Option.isSome_iff_exists.mp
    (Finset.mem_filter.mp member).2
  obtain ⟨otherObligation, foundOther⟩ := Option.isSome_iff_exists.mp
    (Finset.mem_filter.mp memberOther).2
  unfold owedFor at same
  rw [found, foundOther] at same
  obtain ⟨holds, isReceiver⟩ := obligationAt_eq_some.mp found
  obtain ⟨holdsOther, isReceiverOther⟩ := obligationAt_eq_some.mp foundOther
  obtain ⟨sameAdapter, sameId⟩ := sound.unique _ _ _ _ _ _ holds holdsOther
    isReceiver isReceiverOther same
  exact Prod.ext sameAdapter sameId

/-- The sum of what any entries owe is covered by the CLAIMED policies. -/
theorem owed_le_claimedExposure {world : World Ω}
    (sound : deployment.Sound world) (backed : deployment.AllBacked world)
    (org : Address) (entries : Finset (Address × Nat)) :
    ∑ entry ∈ entries, deployment.owed world org entry ≤
      world.policyManager.claimedExposure org := by
  have nonneg : ∀ policyId policy,
      world.policyManager.policies policyId = some policy →
        0 ≤ if policy.org = org ∧ policy.status = .claimed then
          policy.sumInsured else 0 := by
    intro policyId policy stored
    have insured := sound.accounted.insured policyId policy stored
    split
    · exact insured
    · exact le_rfl
  have policyOf : ∀ entry ∈ entries.filter (fun entry =>
      (deployment.obligationAt world entry).isSome = true),
      ∃ obligation policy, deployment.obligationAt world entry =
          some obligation ∧ world.Backs obligation policy := by
    intro entry member
    obtain ⟨obligation, found⟩ := Option.isSome_iff_exists.mp
      (Finset.mem_filter.mp member).2
    obtain ⟨holds, isReceiver⟩ := obligationAt_eq_some.mp found
    obtain ⟨policy, backs⟩ := backed _ _ _ holds isReceiver
    exact ⟨obligation, policy, found, backs⟩
  rw [← sum_owed]
  apply KeyedStore.sum_le_total _ nonneg _ _ (deployment.owedFor world)
    (owedFor_injOn sound entries)
  · intro entry member
    obtain ⟨obligation, policy, found, backs⟩ := policyOf entry member
    have keyed := sound.accounted.keyed _ _ backs.stored
    rw [owedFor, found]
    exact keyed.2
  · intro entry member
    obtain ⟨obligation, policy, found, backs⟩ := policyOf entry member
    refine ⟨policy, ?_, ?_⟩
    · rw [owedFor, found]
      exact backs.stored
    · rw [owed, found, Option.elim_some, backs.org]
      by_cases ours : policy.org = org
      · rw [if_pos ours, if_pos ⟨ours, backs.claimed⟩]
        exact backs.amount_bounds.2
      · rw [if_neg ours]
        exact nonneg _ _ backs.stored

/-- In every state that a run reaches: each obligation of a receiver, in any
adapter and whatever marks it carries, is backed by a CLAIMED policy of its
organisation, and whatever set of entries an organisation's obligations are
added up over, the sum stays within the sum insured of its CLAIMED policies,
and together with the outstanding exposure within what was ever sold to it. -/
theorem obligationsCovered (deployment : Deployment Ω κ)
    (invocations : List (Invocation κ)) (org : Address)
    (entries : Finset (Address × Nat)) :
    (∀ adapter id obligation,
      (deployment.run invocations).Holds adapter id obligation →
        deployment.IsReceiver obligation.payoutReceiver →
          (∃ policy, (deployment.run invocations).Backs obligation policy) ∧
            0 < obligation.amount) ∧
      ∑ entry ∈ entries, deployment.owed (deployment.run invocations) org
          entry ≤
        (deployment.run invocations).policyManager.claimedExposure org ∧
      ∑ entry ∈ entries, deployment.owed (deployment.run invocations) org
            entry +
          (deployment.run invocations).policyManager.orgOutstanding org ≤
        (deployment.run invocations).policyManager.writtenExposure org := by
  have sound := deployment.sound_run invocations
  have backed := allBacked_run deployment invocations
  have covered := owed_le_claimedExposure sound backed org entries
  have disjoint := PolicyManager.claimed_add_outstanding_le sound.accounted org
  refine ⟨?_, covered, by omega⟩
  intro adapter id obligation holds isReceiver
  obtain ⟨policy, backs⟩ := backed adapter id obligation holds isReceiver
  exact ⟨⟨policy, backs⟩, backs.amount_bounds.1⟩

end Deployment

end Microcrop
