import Microcrop.Authority
import Microcrop.SettlementOnce

/-!
# Active cover cannot be taken away

Within its cover an ACTIVE policy can only be cancelled by an administrator or
claimed through an Oracle.  Without calls of the administrators, and with the
Oracle role held by receivers only, it stays as it is until a verified
submission claims it and records the obligation.
-/

namespace Microcrop

open Transaction

namespace PolicyManager

/-- What a call can do to an ACTIVE policy. -/
theorem active_effect {Ω : Type} {nft : Env → PolicyNftClient Ω} {env : Env}
    {call : Call} {before after : State × Ω}
    (effect : Effect nft env before call after)
    (accounted : before.1.Accounted) {policyId : Nat} {policy : Policy}
    (stored : before.1.policies policyId = some policy)
    (active : policy.status = .active) :
    after.1.policies policyId = some policy ∨
      ∃ status, after.1.policies policyId = some { policy with status } ∧
        ClosesActive env before.1 policyId policy call status := by
  have key := accounted.keyed policyId policy stored
  have untouched : ∀ {other : Nat} {old : Policy},
      before.1.policies other = some old → old.status = .pending →
        ∀ changed, Function.update before.1.policies old.id (some changed)
          policyId = some policy := by
    intro other old storedOld pending changed
    have different : policyId ≠ old.id := by
      intro same
      rw [(accounted.keyed other old storedOld).1] at same
      rw [← same, stored] at storedOld
      cases storedOld
      rw [active] at pending
      cases pending
    rw [Function.update_of_ne different]
    exact stored
  cases effect with
  | administered => exact Or.inl stored
  | sold signed backend valid capacity =>
      refine Or.inl ((Function.update_of_ne ?_ ..).trans stored)
      change policyId ≠ before.1.getTotalPolicies + 1
      omega
  | activated signed backend wired storedOld pending inTime cap ordered
      minted =>
      rw [State.activate_policies]
      have kept := untouched storedOld pending
      exact Or.inl (kept _)
  | @closedActive _ other old status _ storedOld activeOld cause
      deactivates =>
      rw [State.closeActive_policies]
      have keyOld := (accounted.keyed other old storedOld).1
      by_cases same : policyId = other
      · subst same
        rw [stored] at storedOld
        cases storedOld
        rw [key.1, Function.update_self]
        exact Or.inr ⟨status, rfl, cause⟩
      · rw [keyOld, Function.update_of_ne same]
        exact Or.inl stored
  | closedPending storedOld pending cause =>
      rw [State.closePending_policies]
      exact Or.inl (untouched storedOld pending _)
  | claimCounted => exact Or.inl stored
  | alreadyExpired => exact Or.inl stored

end PolicyManager

/-- The policy is as it was, or claimed with an obligation for its org. -/
inductive World.Covers {Ω : Type} (world : World Ω) (policyId : Nat)
    (policy : Policy) : Prop
  | active (stored : world.policyManager.policies policyId = some policy)
  | claimed {adapter : Address} {id : Nat} {obligation : Obligation}
      (stored : world.policyManager.policies policyId =
        some { policy with status := .claimed })
      (holds : world.Holds adapter id obligation)
      (forPolicy : obligation.policyId = policyId)
      (org : obligation.org = policy.org)

namespace Deployment

variable {Ω κ : Type} (deployment : Deployment Ω κ)

/-- The step is signed by no administrator or upgrader of PolicyManager, and
only receivers hold the Oracle role. -/
structure Unprivileged (transition : Transition (World Ω) (Invocation κ)) :
    Prop where
  oracles : transition.source.policyManager.roles.HeldBy .oracle
    fun who => (deployment.receivers who).isSome
  admins : ∀ who,
    transition.source.policyManager.roles .admin who = true ∨
      transition.source.policyManager.roles .upgrader who = true →
        (deployment.env transition.label).authorized who = false

section Step

variable {deployment} {env : Env} {before after : World Ω}
  {call : World.Call κ} (sound : deployment.Sound before)
  (step : deployment.Step env before call after)

include sound step

/-- Claimed cover stays claimed, with its obligation. -/
theorem Step.covers_claimed {policyId : Nat} {policy : Policy}
    {adapter : Address} {id : Nat} {obligation : Obligation}
    (stored : before.policyManager.policies policyId =
      some { policy with status := .claimed })
    (holds : before.Holds adapter id obligation)
    (forPolicy : obligation.policyId = policyId)
    (org : obligation.org = policy.org) : after.Covers policyId policy := by
  obtain ⟨later, holdsLater, continues⟩ := step.holds_continues sound holds
  have kept := step.closed_stays sound stored (by
    rintro (pending | active)
    · cases pending
    · cases active)
  exact .claimed kept holdsLater (continues.policyId_eq.trans forPolicy)
    (continues.org_eq.trans org)

/-- Active cover stays active, or a verified submission claims it. -/
theorem Step.covers_active
    (strangers : ∀ address, env.authorized address = true →
      ¬ deployment.IsReceiver address)
    (oracles : before.policyManager.roles.HeldBy .oracle
      fun who => (deployment.receivers who).isSome)
    (admins : ∀ who, before.policyManager.roles .admin who = true →
      env.authorized who = false)
    {policyId : Nat} {policy : Policy}
    (stored : before.policyManager.policies policyId = some policy)
    (active : policy.status = .active)
    (inTime : env.timestamp ≤ policy.endDate) :
    after.Covers policyId policy := by
  cases step with
  | managed here effect =>
      rcases PolicyManager.active_effect effect sound.accounted stored
        active with same | ⟨status, -, cause⟩
      · exact .active same
      · cases cause with
        | claimed signed oracle inTime =>
            exact absurd (oracles _ oracle) (strangers _ signed)
        | cancelled signed admin =>
            rw [admins _ admin] at signed
            cases signed
        | expired ended => omega
  | administered => exact .active stored
  | swapped => exact .active stored
  | @settled address adapter _ state settled report digest ledger ledgerAfter
      obligation nftAfter settlement =>
      have handover := settlement.handover
      by_cases same : policyId = report.policyId
      · subst same
        have sameStored := handover.stored
        rw [stored] at sameStored
        cases sameStored
        refine .claimed ?_
          ((settlement.holds_iff sound).mpr (Or.inr ⟨rfl, rfl, rfl⟩))
          handover.policyId handover.org
        change (before.policyManager.closeActive policy .claimed).policies _ =
          _
        rw [PolicyManager.State.closeActive_policies,
          settlement.policy_id sound, Function.update_self]
      · refine .active ?_
        change (before.policyManager.closeActive settled .claimed).policies
          _ = _
        rw [PolicyManager.State.closeActive_policies,
          settlement.policy_id sound, Function.update_of_ne same]
        exact stored
  | booked => exact .active stored
  | certified => exact .active stored
  | markerExpired => exact .active stored

end Step

variable {deployment}

theorem covers_apply {world : World Ω} (sound : deployment.Sound world)
    {invocation : Invocation κ} {policyId : Nat} {policy : Policy}
    (active : policy.status = .active)
    (inTime : invocation.time ≤ policy.endDate)
    (unprivileged : deployment.Unprivileged
      (History.taken deployment.apply world invocation))
    (covers : world.Covers policyId policy) :
    (deployment.apply world invocation).Covers policyId policy := by
  rcases deployment.apply_cases world invocation with ⟨-, same⟩ | ⟨-, step⟩
  · rw [same]
    exact covers
  · cases covers with
    | active stored =>
        exact step.covers_active sound
          (deployment.not_isReceiver_of_authorized invocation)
          unprivileged.oracles
          (fun who admin => unprivileged.admins who (Or.inl admin)) stored
          active inTime
    | claimed stored holds forPolicy org =>
        exact step.covers_claimed sound stored holds forPolicy org

/-- From every reachable state in which a policy is ACTIVE, every run within
its cover that no administrator signs leaves it as it is, or CLAIMED with an
obligation recorded for it. -/
theorem activeCoverStays (deployment : Deployment Ω κ)
    (earlier later : List (Invocation κ)) {policyId : Nat} {policy : Policy}
    (stored : (deployment.run earlier).policyManager.policies policyId =
      some policy) (active : policy.status = .active)
    (inTime : ∀ invocation ∈ later, invocation.time ≤ policy.endDate)
    (unprivileged : ∀ transition ∈ History.trace deployment.apply
      (deployment.run earlier) later, deployment.Unprivileged transition) :
    (deployment.run (earlier ++ later)).Covers policyId policy := by
  have invariant := History.run_invariant deployment.apply
    (fun transition => deployment.Unprivileged transition ∧
      transition.label.time ≤ policy.endDate)
    (fun world => deployment.Sound world ∧ world.Covers policyId policy)
    (fun world invocation guard ⟨sound, covers⟩ =>
      ⟨deployment.sound_apply sound invocation,
        covers_apply sound active guard.2 guard.1 covers⟩)
    later ⟨deployment.sound_run earlier, .active stored⟩
    (fun transition member => ⟨unprivileged transition member,
      inTime _ (History.label_mem_of_mem_trace _ member)⟩)
  unfold run
  rw [History.run_append]
  exact invariant.2

/-- Runs in which every later Admin and Upgrader is the first one, who does
not sign, and only receivers become Oracles. -/
theorem unprivileged_trace (earlier later : List (Invocation κ))
    (within : ∀ invocation ∈ earlier ++ later,
      invocation.call.grantsWithin .oracle
          (fun who => (deployment.receivers who).isSome) = true ∧
        invocation.call.grantsWithin .admin
            (fun who => who = deployment.admin) = true ∧
          invocation.call.grantsWithin .upgrader
            (fun who => who = deployment.admin) = true)
    (unsigned : ∀ invocation ∈ later,
      (deployment.env invocation).authorized deployment.admin = false) :
    ∀ transition ∈ History.trace deployment.apply (deployment.run earlier)
      later, deployment.Unprivileged transition := by
  intro transition member
  have inRun : transition ∈ deployment.trace (earlier ++ later) := by
    unfold trace
    rw [History.trace_append]
    exact List.mem_append_right _ member
  have first : ∀ role, role = .admin ∨ role = .upgrader →
      (PolicyManager.constructor deployment.admin).roles.HeldBy role
        fun who => who = deployment.admin := by
    rintro role (rfl | rfl) who holds
    · simpa [PolicyManager.constructor] using holds
    · simpa [PolicyManager.constructor] using holds
  refine ⟨heldBy_trace deployment _ (constructor_heldBy _ (by decide))
    (fun invocation inside => (within invocation inside).1) transition inRun,
    ?_⟩
  intro who privileged
  have same : who = deployment.admin := by
    rcases privileged with admin | upgrader
    · exact of_decide_eq_true (heldBy_trace deployment _
        (first .admin (Or.inl rfl))
        (fun invocation inside => (within invocation inside).2.1) transition
        inRun who admin)
    · exact of_decide_eq_true (heldBy_trace deployment _
        (first .upgrader (Or.inr rfl))
        (fun invocation inside => (within invocation inside).2.2) transition
        inRun who upgrader)
  rw [same]
  exact unsigned _ (History.label_mem_of_mem_trace _ member)

/-- The cover of the worked season, as it was activated. -/
def seasonPolicy : Policy where
  id := 1
  farmer := PolicyManager.seasonAddress 4
  plotId := 7
  latE6 := -1286389
  lonE6 := 36817223
  sumInsured := 10000000000
  premium := 1000000
  startDate := 1743465600
  endDate := 1753833600
  coverageType := .drought
  status := .active
  createdAt := 1743465600
  org := PolicyManager.seasonAddress 5

theorem activeCoverStays_season :
    (seasonDeployment.run (seasonSetup ++ seasonCover ++
      [seasonClaim])).Covers 1 seasonPolicy :=
  activeCoverStays seasonDeployment (seasonSetup ++ seasonCover)
    [seasonClaim] (by decide +kernel) rfl (by decide +kernel)
    (unprivileged_trace _ _ (by decide +kernel) (by decide +kernel))

end Deployment

end Microcrop
