import Microcrop.Liability
import Microcrop.StagedBook

/-!
# The stages of a cover across the contracts

What the four contracts keep about one policy comes down to one stage, from
the sale to the settlement of the payout.  The system is seen as a book of
these stages: an invocation moves at most one policy, along an edge that its
call allows.
-/

namespace Microcrop

/-- How far the cover of a policy has come. -/
inductive Stage
  | unsold
  | pending
  | active
  | cancelled
  | expired
  /-- An Oracle closed the policy without a verified submission. -/
  | claimed
  | owed
  | funded
  | settled
  deriving DecidableEq

namespace Stage

/-- The stage of a policy with a receiver's obligation. -/
def ofObligation : ObligationStatus → Stage
  | .owed => .owed
  | .funded => .funded
  | .settled => .settled

/-- The stage of a policy without one. -/
def ofPolicy : Option PolicyStatus → Stage
  | none => .unsold
  | some .pending => .pending
  | some .active => .active
  | some .claimed => .claimed
  | some .cancelled => .cancelled
  | some .expired => .expired

/-- The longest way from the sale to a stage. -/
def rank : Stage → Nat
  | .unsold => 0
  | .pending => 1
  | .active => 2
  | .owed => 3
  | .funded => 4
  | .cancelled | .expired | .claimed | .settled => 5

end Stage

/-- The moves that a call can make, with the signatures that they need. -/
inductive Takes {κ : Type} (env : Env) :
    World.Call κ → Nat → Stage → Stage → Prop
  | sold {caller farmer : Address} {plotId : Nat}
      {latE6 lonE6 sumInsured premium : Int} {durationDays : Nat}
      {coverageType : CoverageType} {org : Address} (policyId : Nat)
      (signed : env.authorized caller = true) :
      Takes env (.policyManager (.createPolicy caller farmer plotId latE6
        lonE6 sumInsured premium durationDays coverageType org)) policyId
        .unsold .pending
  | activated {caller : Address} {policyId : Nat} {distributor : Address}
      {distributorName region : String}
      (signed : env.authorized caller = true) :
      Takes env (.policyManager (.activatePolicy caller policyId distributor
        distributorName region)) policyId .pending .active
  | cancelled {caller : Address} {policyId : Nat} {stage : Stage}
      (isOpen : stage = .pending ∨ stage = .active)
      (signed : env.authorized caller = true) :
      Takes env (.policyManager (.cancelPolicy caller policyId)) policyId
        stage .cancelled
  | expired {policyId : Nat} {stage : Stage}
      (isOpen : stage = .pending ∨ stage = .active) :
      Takes env (.policyManager (.expirePolicy policyId)) policyId stage
        .expired
  | claimed {caller : Address} {policyId : Nat}
      (signed : env.authorized caller = true) :
      Takes env (.policyManager (.markAsClaimed caller policyId)) policyId
        .active .claimed
  | owed {receiver : Address} {call : PayoutReceiver.Call} {policyId : Nat}
      (submits : call.submitsFor policyId = true) :
      Takes env (.receiver receiver call) policyId .active .owed
  | funded {adapter caller : Address} {obligationId policyId : Nat}
      {referenceHash : BytesN 32} (signed : env.authorized caller = true) :
      Takes env
        (.adapter adapter (.markFunded caller obligationId referenceHash))
        policyId .owed .funded
  | settled {adapter caller : Address} {obligationId policyId : Nat}
      {referenceHash : BytesN 32} {stage : Stage}
      (unsettled : stage = .owed ∨ stage = .funded)
      (signed : env.authorized caller = true) :
      Takes env
        (.adapter adapter (.markSettled caller obligationId referenceHash))
        policyId stage .settled

/-- Every move climbs. -/
theorem Takes.climbs {κ : Type} {env : Env} {call : World.Call κ}
    {policyId : Nat} {first last : Stage}
    (takes : Takes env call policyId first last) :
    first.rank < last.rank := by
  cases takes with
  | sold | activated | claimed | owed | funded => decide
  | cancelled isOpen signed => rcases isOpen with rfl | rfl <;> decide
  | expired isOpen => rcases isOpen with rfl | rfl <;> decide
  | settled unsettled signed => rcases unsettled with rfl | rfl <;> decide

namespace Deployment

variable {Ω κ : Type} (deployment : Deployment Ω κ)

/-- Some adapter holds an obligation of a receiver for the policy under this
status. -/
def Owes (world : World Ω) (policyId : Nat) (status : ObligationStatus) :
    Prop :=
  ∃ adapter id obligation, world.Holds adapter id obligation ∧
    deployment.IsReceiver obligation.payoutReceiver ∧
      obligation.policyId = policyId ∧ obligation.status = status

open Classical in
/-- The stage of a policy. -/
noncomputable def stage (world : World Ω) (policyId : Nat) : Stage :=
  if owes : ∃ status, deployment.Owes world policyId status then
    .ofObligation owes.choose
  else .ofPolicy (world.policyManager.statusOf policyId)

variable {deployment} {env : Env} {before after : World Ω}
  {call : World.Call κ}

/-- There is one obligation for a policy, so it has one status. -/
theorem Owes.unique (sound : deployment.Sound before) {policyId : Nat}
    {status other : ObligationStatus}
    (owes : deployment.Owes before policyId status)
    (owesOther : deployment.Owes before policyId other) : status = other := by
  obtain ⟨adapter, id, obligation, holds, isReceiver, same, rfl⟩ := owes
  obtain ⟨adapterOther, idOther, obligationOther, holdsOther,
    isReceiverOther, sameOther, rfl⟩ := owesOther
  obtain ⟨rfl, rfl⟩ := sound.unique _ _ _ _ _ _ holds holdsOther isReceiver
    isReceiverOther (same.trans sameOther.symm)
  obtain ⟨ledger, found, stored⟩ := holds
  obtain ⟨ledgerOther, foundOther, storedOther⟩ := holdsOther
  rw [found] at foundOther
  cases foundOther
  rw [stored] at storedOther
  cases storedOther
  rfl

theorem stage_of_owes (sound : deployment.Sound before) {policyId : Nat}
    {status : ObligationStatus}
    (owes : deployment.Owes before policyId status) :
    deployment.stage before policyId = .ofObligation status := by
  have some : ∃ status, deployment.Owes before policyId status :=
    ⟨status, owes⟩
  rw [stage, dif_pos some, Owes.unique sound some.choose_spec owes]

theorem stage_of_not_owes {policyId : Nat}
    (free : ∀ status, ¬ deployment.Owes before policyId status) :
    deployment.stage before policyId =
      .ofPolicy (before.policyManager.statusOf policyId) := by
  rw [stage, dif_neg (fun ⟨status, owes⟩ => free status owes)]

/-- A policy that is not CLAIMED has no obligation. -/
theorem not_owes_of_not_claimed (sound : deployment.Sound before)
    {policyId : Nat}
    (unclaimed : before.policyManager.statusOf policyId ≠ some .claimed)
    (status : ObligationStatus) :
    ¬ deployment.Owes before policyId status := by
  rintro ⟨adapter, id, obligation, holds, isReceiver, rfl, -⟩
  exact unclaimed (sound.claimed adapter id obligation holds isReceiver)

/-- The stage depends on the status and the obligation only. -/
theorem stage_congr (sound : deployment.Sound before)
    (soundAfter : deployment.Sound after) {policyId : Nat}
    (sameStatus : after.policyManager.statusOf policyId =
      before.policyManager.statusOf policyId)
    (sameOwed : ∀ status, deployment.Owes after policyId status ↔
      deployment.Owes before policyId status) :
    deployment.stage after policyId = deployment.stage before policyId := by
  by_cases owes : ∃ status, deployment.Owes before policyId status
  · obtain ⟨status, owes⟩ := owes
    rw [stage_of_owes sound owes,
      stage_of_owes soundAfter ((sameOwed status).mpr owes)]
  · have free : ∀ status, ¬ deployment.Owes before policyId status :=
      fun status held => owes ⟨status, held⟩
    rw [stage_of_not_owes free, stage_of_not_owes
      (fun status held => free status ((sameOwed status).mp held)),
      sameStatus]

/-- A step that leaves all policies but one alone moves that one. -/
theorem stage_moves (sound : deployment.Sound before)
    (soundAfter : deployment.Sound after) (moved : Nat)
    (sameStatus : ∀ policyId, policyId ≠ moved →
      after.policyManager.statusOf policyId =
        before.policyManager.statusOf policyId)
    (sameOwed : ∀ policyId, policyId ≠ moved → ∀ status,
      deployment.Owes after policyId status ↔
        deployment.Owes before policyId status) :
    deployment.stage after = Function.update (deployment.stage before) moved
      (deployment.stage after moved) := by
  ext policyId
  by_cases here : policyId = moved
  · rw [here, Function.update_self]
  · rw [Function.update_of_ne here]
    exact stage_congr sound soundAfter (sameStatus policyId here)
      (sameOwed policyId here)

end Deployment

/-! ## Moves of PolicyManager -/

namespace PolicyManager

/-- A call writes the status of at most one policy, which was not CLAIMED. -/
inductive Writes (κ : Type) (env : Env) (call : Call) (before after : State) :
    Prop
  | idle (same : ∀ policyId, after.statusOf policyId =
      before.statusOf policyId)
  | written (policyId : Nat) (status : PolicyStatus)
      (unclaimed : before.statusOf policyId ≠ some .claimed)
      (takes : Takes env (.policyManager call : World.Call κ) policyId
        (.ofPolicy (before.statusOf policyId)) (.ofPolicy (some status)))
      (changed : after.statusOf policyId = some status)
      (others : ∀ other, other ≠ policyId →
        after.statusOf other = before.statusOf other)

theorem statusOf_written (before : State) {after : State} {policyId : Nat}
    {policy : Policy} (keyed : policy.id = policyId)
    (written : after.policies =
      Function.update before.policies policy.id (some policy)) :
    after.statusOf policyId = some policy.status ∧
      ∀ other, other ≠ policyId →
        after.statusOf other = before.statusOf other := by
  unfold State.statusOf
  rw [written, keyed]
  refine ⟨by rw [Function.update_self]; rfl, ?_⟩
  intro other different
  rw [Function.update_of_ne different]

theorem ClosesActive.takes {κ : Type} {env : Env} {state : State}
    {policyId : Nat} {policy : Policy} {call : Call} {status : PolicyStatus}
    (cause : ClosesActive env state policyId policy call status) :
    Takes env (.policyManager call : World.Call κ) policyId .active
      (.ofPolicy (some status)) := by
  cases cause with
  | claimed signed oracle inTime => exact .claimed signed
  | cancelled signed admin => exact .cancelled (.inr rfl) signed
  | expired ended => exact .expired (.inr rfl)

theorem ClosesPending.takes {κ : Type} {env : Env} {state : State}
    {policyId : Nat} {policy : Policy} {call : Call} {status : PolicyStatus}
    (cause : ClosesPending env state policyId policy call status) :
    Takes env (.policyManager call : World.Call κ) policyId .pending
      (.ofPolicy (some status)) := by
  cases cause with
  | cancelled signed allowed => exact .cancelled (.inl rfl) signed
  | expired ended => exact .expired (.inl rfl)

theorem writes_effect {Ω : Type} (κ : Type) {nft : Env → PolicyNftClient Ω}
    {env : Env} {call : Call} {before after : State × Ω}
    (effect : Effect nft env before call after)
    (accounted : before.1.Accounted) :
    Writes κ env call before.1 after.1 := by
  -- Every write replaces an open policy or appends one.
  have replaced : ∀ {policyId : Nat} {policy : Policy} (changed : Policy),
      before.1.policies policyId = some policy →
        policy.status ≠ .claimed → changed.id = policy.id →
          after.1.policies = Function.update before.1.policies changed.id
              (some changed) →
            Takes env (.policyManager call : World.Call κ) policyId
                (.ofPolicy (some policy.status))
                (.ofPolicy (some changed.status)) →
              Writes κ env call before.1 after.1 := by
    intro policyId policy changed stored unclaimed sameId written takes
    have keyed := (accounted.keyed policyId policy stored).1
    obtain ⟨status, others⟩ := statusOf_written before.1
      (sameId.trans keyed) written
    have found : before.1.statusOf policyId = some policy.status :=
      State.statusOf_eq_some.mpr ⟨policy, stored, rfl⟩
    refine .written policyId changed.status ?_ ?_ status others
    · rw [found]
      simpa using unclaimed
    · rw [found]
      exact takes
  cases effect with
  | administered => exact .idle fun _ => rfl
  | sold signed backend valid capacity =>
      have unsold : before.1.statusOf (before.1.getTotalPolicies + 1) =
          none := by
        cases found : before.1.statusOf (before.1.getTotalPolicies + 1) with
        | none => rfl
        | some status =>
            obtain ⟨policy, stored, -⟩ := State.statusOf_eq_some.mp found
            have inRange := (accounted.keyed _ policy stored).2.2
            omega
      obtain ⟨changed, others⟩ := statusOf_written before.1 rfl
        (State.addPolicy_policies before.1 _)
      refine .written (before.1.getTotalPolicies + 1) .pending ?_ ?_ changed
        others
      · rw [unsold]
        simp
      · rw [unsold]
        exact .sold _ signed
  | activated signed backend wired stored pending inTime cap ordered minted =>
      refine replaced _ stored ?_ ?_ (State.activate_policies ..) ?_
      · rw [pending]
        decide
      · rfl
      · rw [pending]
        exact .activated signed
  | @closedActive _ _ policy status _ stored active cause deactivates =>
      refine replaced { policy with status } stored ?_ ?_
        (State.closeActive_policies ..) ?_
      · rw [active]
        decide
      · rfl
      · rw [active]
        exact cause.takes
  | @closedPending _ _ policy status stored pending cause =>
      refine replaced { policy with status } stored ?_ ?_
        (State.closePending_policies ..) ?_
      · rw [pending]
        decide
      · rfl
      · rw [pending]
        exact cause.takes
  | claimCounted => exact .idle fun _ => rfl
  | alreadyExpired => exact .idle fun _ => rfl

end PolicyManager

/-! ## Moves of the system -/

namespace Deployment

variable {Ω κ : Type} {deployment : Deployment Ω κ} {env : Env}
  {before after : World Ω} {call : World.Call κ}

variable (deployment) in
/-- The step leaves every stage or moves one policy. -/
def MovesOne (env : Env) (before : World Ω) (call : World.Call κ)
    (after : World Ω) : Prop :=
  StagedBook.MovesOne (Takes env) call (deployment.stage before)
    (deployment.stage after)

/-- Nothing moves when neither status nor obligation does. -/
theorem movesOne_of_same (sound : deployment.Sound before)
    (soundAfter : deployment.Sound after)
    (sameStatus : ∀ policyId, after.policyManager.statusOf policyId =
      before.policyManager.statusOf policyId)
    (sameOwed : ∀ policyId status, deployment.Owes after policyId status ↔
      deployment.Owes before policyId status) :
    deployment.MovesOne env before call after :=
  Or.inl (funext fun policyId => stage_congr sound soundAfter
    (sameStatus policyId) (sameOwed policyId))

theorem managed_movesOne {managerCall : PolicyManager.Call}
    {changed : PolicyManager.State × Ω} (sound : deployment.Sound before)
    (effect : PolicyManager.Effect deployment.certificates.client env
      (before.policyManager, before.nft) managerCall changed)
    (soundAfter : deployment.Sound
      { before with policyManager := changed.1, nft := changed.2 }) :
    deployment.MovesOne env before (.policyManager managerCall)
      { before with policyManager := changed.1, nft := changed.2 } := by
  have sameOwed : ∀ policyId status, deployment.Owes
      { before with policyManager := changed.1, nft := changed.2 } policyId
        status ↔ deployment.Owes before policyId status :=
    fun _ _ => Iff.rfl
  cases PolicyManager.writes_effect κ effect sound.accounted with
  | idle same => exact movesOne_of_same sound soundAfter same sameOwed
  | written policyId status unclaimed takes found others =>
      have free := not_owes_of_not_claimed sound unclaimed
      have stageAfter := stage_of_not_owes fun status owes =>
        free status ((sameOwed policyId status).mp owes)
      have moved := stage_moves sound soundAfter policyId others
        fun other _ => sameOwed other
      rw [stageAfter] at moved
      refine Or.inr ⟨policyId, _, ?_, moved⟩
      rw [stage_of_not_owes free]
      change Takes env _ policyId _ (.ofPolicy (changed.1.statusOf policyId))
      rw [found]
      exact takes

section Settlement

variable {address adapter : Address} {receiverCall : PayoutReceiver.Call}
  {state : PayoutReceiver.State} {policy : Policy} {report : DamageReport}
  {digest : BytesN 32} {ledger ledgerAfter : SettlementAdapter.State}
  {obligation : Obligation} {nftAfter : Ω}
  (sound : deployment.Sound before)
  (settlement : deployment.Settlement env before address receiverCall state
    policy report digest adapter ledger obligation ledgerAfter nftAfter)

include sound settlement

theorem Settlement.movesOne
    (soundAfter : deployment.Sound (settledWorld before address state policy
      report digest adapter ledgerAfter nftAfter env.timestamp)) :
    deployment.MovesOne env before (.receiver address receiverCall)
      (settledWorld before address state policy report digest adapter
        ledgerAfter nftAfter env.timestamp) := by
  have unclaimed : before.policyManager.statusOf report.policyId ≠
      some .claimed := by
    rw [settlement.statusOf]
    simp
  have settles := settlement.settles sound
  have stageBefore := stage_of_not_owes
    (not_owes_of_not_claimed sound unclaimed)
  rw [settlement.statusOf] at stageBefore
  have stageAfter := stage_of_owes soundAfter
    ⟨adapter, obligation.id, obligation, settles.holds,
      settles.payoutReceiver ▸ settlement.isReceiver sound,
      settles.forPolicy, settlement.handover.owed⟩
  have moved := stage_moves sound soundAfter report.policyId ?_ ?_
  · rw [stageAfter] at moved
    refine Or.inr ⟨report.policyId, .owed, ?_, moved⟩
    rw [stageBefore]
    exact .owed ((settlement.checked.submitsFor_iff report.policyId).mpr rfl)
  · intro policyId other
    change (claimedManager before.policyManager policy
      env.timestamp).statusOf policyId = _
    unfold PolicyManager.State.statusOf
    rw [settlement.policies_of_ne sound other]
  · intro policyId other status
    constructor
    · rintro ⟨otherAdapter, id, later, holds, isReceiver, same, isStatus⟩
      rcases (settlement.holds_iff sound).mp holds with earlier |
        ⟨-, -, rfl⟩
      · exact ⟨otherAdapter, id, later, earlier, isReceiver, same, isStatus⟩
      · exact absurd (same.symm.trans settles.forPolicy) other
    · rintro ⟨otherAdapter, id, earlier, holds, isReceiver, same, isStatus⟩
      exact ⟨otherAdapter, id, earlier,
        (settlement.holds_iff sound).mpr (Or.inl holds), isReceiver, same,
        isStatus⟩

end Settlement

section Booked

variable {address : Address} {ledger changed : SettlementAdapter.State}
  (found : before.adapters address = some ledger)

/-- The system after a call to the adapter at `address`. -/
def bookedWorld (before : World Ω) (address : Address)
    (changed : SettlementAdapter.State) : World Ω :=
  { before with
    adapters := Function.update before.adapters address (some changed) }

theorem holds_booked {adapter : Address} {id : Nat}
    {obligation : Obligation} :
    (bookedWorld before address changed).Holds adapter id obligation ↔
      if adapter = address then changed.obligations id = some obligation
      else before.Holds adapter id obligation := by
  unfold World.Holds bookedWorld
  dsimp only
  split
  · rename_i here
    rw [here, Function.update_self]
    simp
  · rename_i other
    rw [Function.update_of_ne other]

include found

/-- A policy owes what it owed if its obligations in the adapter stay. -/
theorem owes_booked_of_same {policyId : Nat}
    (same : ∀ id obligation,
      deployment.IsReceiver obligation.payoutReceiver →
        obligation.policyId = policyId →
          (changed.obligations id = some obligation ↔
            ledger.obligations id = some obligation))
    (status : ObligationStatus) :
    deployment.Owes (bookedWorld before address changed) policyId status ↔
      deployment.Owes before policyId status := by
  have holds : ∀ adapter id obligation,
      deployment.IsReceiver obligation.payoutReceiver →
        obligation.policyId = policyId →
          ((bookedWorld before address changed).Holds adapter id obligation ↔
            before.Holds adapter id obligation) := by
    intro adapter id obligation isReceiver forPolicy
    rw [holds_booked]
    split
    · rename_i here
      rw [same id obligation isReceiver forPolicy, here]
      unfold World.Holds
      simp [found]
    · exact Iff.rfl
  constructor
  · rintro ⟨adapter, id, obligation, held, isReceiver, forPolicy, rest⟩
    exact ⟨adapter, id, obligation,
      (holds adapter id obligation isReceiver forPolicy).mp held, isReceiver,
      forPolicy, rest⟩
  · rintro ⟨adapter, id, obligation, held, isReceiver, forPolicy, rest⟩
    exact ⟨adapter, id, obligation,
      (holds adapter id obligation isReceiver forPolicy).mpr held, isReceiver,
      forPolicy, rest⟩

/-- A mark moves the policy of the obligation, if that is a receiver's. -/
theorem marked_movesOne (sound : deployment.Sound before)
    (soundAfter : deployment.Sound (bookedWorld before address changed))
    {adapterCall : SettlementAdapter.Call} {id : Nat}
    {obligation later : Obligation}
    (stored : ledger.obligations id = some obligation)
    (written : changed.obligations =
      Function.update ledger.obligations id (some later))
    (continues : obligation.Continues later)
    (takes : ∀ policyId, Takes env
      (.adapter address adapterCall : World.Call κ) policyId
        (.ofObligation obligation.status) (.ofObligation later.status)) :
    deployment.MovesOne env before (.adapter address adapterCall)
      (bookedWorld before address changed) := by
  -- Obligations that the mark does not concern are where they were.
  have untouched : ∀ {policyId : Nat},
      ¬ (deployment.IsReceiver obligation.payoutReceiver ∧
        obligation.policyId = policyId) →
        ∀ other found, deployment.IsReceiver found.payoutReceiver →
          found.policyId = policyId →
            (changed.obligations other = some found ↔
              ledger.obligations other = some found) := by
    intro policyId elsewhere other found isReceiver forPolicy
    rw [written]
    by_cases here : other = id
    · rw [here, Function.update_self, stored]
      constructor
      · intro same
        obtain rfl := Option.some.inj same
        rw [continues.payoutReceiver_eq] at isReceiver
        rw [continues.policyId_eq] at forPolicy
        exact absurd ⟨isReceiver, forPolicy⟩ elsewhere
      · intro same
        obtain rfl := Option.some.inj same
        exact absurd ⟨isReceiver, forPolicy⟩ elsewhere
    · rw [Function.update_of_ne here]
  by_cases isReceiver : deployment.IsReceiver obligation.payoutReceiver
  · have holds : before.Holds address id obligation := ⟨ledger, found, stored⟩
    have holdsAfter : (bookedWorld before address changed).Holds address id
        later := by
      rw [holds_booked, if_pos rfl, written, Function.update_self]
    have stageBefore := stage_of_owes sound
      ⟨address, id, obligation, holds, isReceiver, rfl, rfl⟩
    have stageAfter := stage_of_owes soundAfter
      ⟨address, id, later, holdsAfter, continues.payoutReceiver_eq ▸ isReceiver,
        continues.policyId_eq, rfl⟩
    have moved := stage_moves sound soundAfter obligation.policyId
      (fun _ _ => rfl) (fun policyId other => owes_booked_of_same found
        (untouched fun same => other same.2.symm))
    rw [stageAfter] at moved
    refine Or.inr ⟨obligation.policyId, _, ?_, moved⟩
    rw [stageBefore]
    exact takes obligation.policyId
  · exact movesOne_of_same sound soundAfter (fun _ => rfl) fun policyId =>
      owes_booked_of_same found (untouched fun same => isReceiver same.1)

theorem booked_movesOne (sound : deployment.Sound before)
    (soundAfter : deployment.Sound (bookedWorld before address changed))
    (strangers : ∀ address, env.authorized address = true →
      ¬ deployment.IsReceiver address)
    {adapterCall : SettlementAdapter.Call}
    (effect : SettlementAdapter.Effect env ledger adapterCall changed) :
    deployment.MovesOne env before (.adapter address adapterCall)
      (bookedWorld before address changed) := by
  have idle : (∀ id obligation,
      deployment.IsReceiver obligation.payoutReceiver →
        (changed.obligations id = some obligation ↔
          ledger.obligations id = some obligation)) →
      deployment.MovesOne env before (.adapter address adapterCall)
        (bookedWorld before address changed) :=
    fun same => movesOne_of_same sound soundAfter (fun _ => rfl)
      fun policyId => owes_booked_of_same found
        fun id obligation isReceiver _ => same id obligation isReceiver
  cases effect with
  | bound => exact idle fun _ _ _ => Iff.rfl
  | granted => exact idle fun _ _ _ => Iff.rfl
  | revoked => exact idle fun _ _ _ => Iff.rfl
  | @recorded caller policyId org amount digest next configured signed
      positive missing counter =>
      apply idle
      intro id obligation isReceiver
      have free := SettlementAdapter.obligations_next
        (sound.ledgers address ledger found) counter
      rw [SettlementAdapter.State.insertObligation_obligations]
      by_cases new : id = next
      · rw [new, free]
        constructor
        · intro written
          have same : obligation.payoutReceiver = caller := by
            simp only [SettlementAdapter.newObligation,
              Function.update_self] at written
            rw [← Option.some.inj written]
          exact absurd (same ▸ isReceiver) (strangers caller signed)
        · intro missing
          cases missing
      · rw [Function.update_of_ne (by exact new)]
  | funded signed reference funder stored owed =>
      apply marked_movesOne found sound soundAfter stored rfl
        (SettlementAdapter.continues_funded ..)
      intro policyId
      rw [owed]
      exact .funded signed
  | @settled _ _ _ obligation signed reference funder stored unsettled =>
      apply marked_movesOne found sound soundAfter stored rfl
        (SettlementAdapter.continues_settled ..)
      intro policyId
      refine .settled ?_ signed
      cases status : obligation.status with
      | owed => exact Or.inl rfl
      | funded => exact Or.inr rfl
      | settled => exact absurd status unsettled
  | repeated => exact idle fun _ _ _ => Iff.rfl

end Booked

/-- Every step leaves the book or moves one policy. -/
theorem Step.movesOne (sound : deployment.Sound before)
    (soundAfter : deployment.Sound after)
    (strangers : ∀ address, env.authorized address = true →
      ¬ deployment.IsReceiver address)
    (step : deployment.Step env before call after) :
    deployment.MovesOne env before call after := by
  cases step with
  | managed here effect => exact managed_movesOne sound effect soundAfter
  | administered => exact Or.inl rfl
  | swapped => exact Or.inl rfl
  | settled settlement => exact settlement.movesOne sound soundAfter
  | booked found effect =>
      exact booked_movesOne found sound soundAfter strangers effect
  | certified => exact Or.inl rfl
  | markerExpired => exact Or.inl rfl

/-- Every transition of every run moves at most one policy, along an edge that
its call and its signers allow.  At most five transitions move a policy,
however long the run, and these form a path from the sale to its stage. -/
theorem coverStages (deployment : Deployment Ω κ)
    (invocations : List (Invocation κ)) :
    (∀ transition ∈ deployment.trace invocations,
      deployment.MovesOne (deployment.env transition.label) transition.source
        transition.label.call transition.target) ∧
      ∀ policyId,
        (StagedBook.movers deployment.stage policyId
          (deployment.trace invocations)).length ≤ 5 ∧
        StagedBook.Path
          (fun invocation =>
            Takes (deployment.env invocation) invocation.call)
          deployment.stage policyId .unsold
          (StagedBook.movers deployment.stage policyId
            (deployment.trace invocations))
          (deployment.stage (deployment.run invocations) policyId) := by
  have start : deployment.stage deployment.genesis = fun _ => .unsold := by
    ext policyId
    apply stage_of_not_owes
    exact not_owes_of_not_claimed deployment.sound_genesis
      fun claimed => by cases claimed
  have steps : ∀ transition ∈ deployment.trace invocations,
      deployment.MovesOne (deployment.env transition.label)
        transition.source transition.label.call transition.target := by
    intro transition member
    obtain ⟨before, after, -, taken⟩ :=
      History.exists_split_of_mem_trace deployment.apply member
    have sound := deployment.sound_run before
    generalize transition.label = invocation at taken ⊢
    rw [taken]
    rcases deployment.apply_cases (deployment.run before) invocation with
      ⟨-, same⟩ | ⟨-, step⟩
    · exact Or.inl (congrArg deployment.stage same)
    · exact step.movesOne sound (deployment.sound_apply sound invocation)
        (deployment.not_isReceiver_of_authorized invocation)
  refine ⟨steps, fun policyId => ?_⟩
  have path : StagedBook.Path
      (fun invocation => Takes (deployment.env invocation) invocation.call)
      deployment.stage policyId
      (deployment.stage deployment.genesis policyId)
      (StagedBook.movers deployment.stage policyId
        (deployment.trace invocations))
      (deployment.stage (deployment.run invocations) policyId) :=
    StagedBook.path_of_movesOne deployment.apply policyId invocations
      deployment.genesis steps
  rw [start] at path
  have bound := path.length_le Stage.rank fun edge => edge.climbs
  have highest : ∀ stage : Stage, stage.rank ≤ 5 := by
    intro stage
    cases stage <;> decide
  have limit := (Nat.le_add_left _ _).trans (bound.trans (highest _))
  exact ⟨limit, path⟩

end Deployment

end Microcrop
