import Microcrop.BrokenCertificates
import Microcrop.SettlementOnce

/-!
# Exposure drains

Nobody can keep exposure on the books.  A policy is over a year after its own
sale or activation, and from then on anybody can expire it, whatever the
administrators do and whoever holds a role, provided that the certificate
contract lets an ACTIVE policy be closed.  Once that was done for every policy,
no organisation has exposure and no farmer has an open policy.
-/

namespace Microcrop

open Transaction

namespace PolicyManager

/-- The longest cover that is sold, in seconds. -/
def longestCover : Nat := maxDurationDays * secondsPerDay

/-- The policy whose dates a call sets. -/
def Call.opens (state : State) : Call → Option Nat
  | .createPolicy .. => some (state.getTotalPolicies + 1)
  | .activatePolicy _ policyId _ _ _ => some policyId
  | _ => none

/-- A policy that a call leaves behind was there before with the same dates,
or the call set them. -/
theorem dated_effect {Ω : Type} {nft : Env → PolicyNftClient Ω} {env : Env}
    {call : Call} {before after : State × Ω}
    (effect : Effect nft env before call after)
    (accounted : before.1.Accounted)
    (lengths : ∀ policyId policy, before.1.policies policyId = some policy →
      policy.endDate ≤ policy.startDate + longestCover)
    {policyId : Nat} {policy : Policy}
    (stored : after.1.policies policyId = some policy) :
    (∃ earlier, before.1.policies policyId = some earlier ∧
        policy.startDate = earlier.startDate ∧
          policy.endDate = earlier.endDate) ∨
      (call.opens before.1 = some policyId ∧
        policy.startDate = env.timestamp ∧
          policy.endDate ≤ policy.startDate + longestCover) := by
  have replaced : ∀ {key : Nat} {old changed : Policy},
      before.1.policies key = some old →
      changed.startDate = old.startDate → changed.endDate = old.endDate →
      Function.update before.1.policies old.id (some changed) policyId =
          some policy →
        ∃ earlier, before.1.policies policyId = some earlier ∧
          policy.startDate = earlier.startDate ∧
            policy.endDate = earlier.endDate := by
    intro key old changed storedOld starts ends found
    rw [(accounted.keyed key old storedOld).1] at found
    by_cases here : policyId = key
    · rw [here, Function.update_self] at found
      cases found
      exact ⟨old, here ▸ storedOld, starts, ends⟩
    · rw [Function.update_of_ne here] at found
      exact ⟨policy, found, rfl, rfl⟩
  cases effect with
  | administered => exact Or.inl ⟨policy, stored, rfl, rfl⟩
  | @sold _ _ _ _ _ _ _ durationDays _ _ _ _ valid capacity =>
      by_cases here : policyId = before.1.getTotalPolicies + 1
      · change Function.update before.1.policies
          (before.1.getTotalPolicies + 1) _ policyId = _ at stored
        rw [here, Function.update_self] at stored
        cases stored
        have length : durationDays * secondsPerDay ≤ longestCover :=
          Nat.mul_le_mul_right _ valid.duration_le
        exact Or.inr ⟨congrArg some here.symm, rfl,
          Nat.add_le_add_left length _⟩
      · exact Or.inl ⟨policy, (Function.update_of_ne here ..).symm.trans
          stored, rfl, rfl⟩
  | @activated _ key _ _ _ _ old _ _ signed backend wired storedOld pending
      inTime cap ordered =>
      rw [State.activate_policies] at stored
      have length := lengths key old storedOld
      have keyed : old.id = key := (accounted.keyed key old storedOld).1
      by_cases here : policyId = key
      · rw [here, ← keyed, Function.update_self] at stored
        cases stored
        refine Or.inr ⟨congrArg some here.symm, rfl, ?_⟩
        change env.timestamp + _ ≤ env.timestamp + longestCover
        omega
      · rw [Function.update_of_ne (by exact keyed.symm ▸ here)] at stored
        exact Or.inl ⟨policy, stored, rfl, rfl⟩
  | closedActive storedOld =>
      rw [State.closeActive_policies] at stored
      exact Or.inl (replaced storedOld (by rfl) (by rfl) stored)
  | closedPending storedOld =>
      rw [State.closePending_policies] at stored
      exact Or.inl (replaced storedOld (by rfl) (by rfl) stored)
  | claimCounted => exact Or.inl ⟨policy, stored, rfl, rfl⟩
  | alreadyExpired => exact Or.inl ⟨policy, stored, rfl, rfl⟩

/-- The books of a manager without open policies. -/
structure State.Drained (state : State) : Prop where
  closed : ∀ policyId policy, state.policies policyId = some policy →
    ¬ policy.IsOpen
  exposure : ∀ org, state.orgOutstanding org = 0
  active : ∀ farmer, state.farmerActiveCount farmer = 0
  pending : ∀ farmer, state.farmerPendingCount farmer = 0
  uncounted : ∀ policyId, state.pendingCounted policyId = none

theorem drained_of_closed {state : State} (accounted : state.Accounted)
    (closed : ∀ policyId policy, state.policies policyId = some policy →
      ¬ policy.IsOpen) : state.Drained where
  closed := closed
  exposure org := by
    rw [accounted.exposure]
    apply KeyedStore.total_eq_zero
    intro policyId policy stored
    rw [if_neg fun isOpen => closed policyId policy stored isOpen.2]
  active farmer := by
    rw [accounted.active]
    apply KeyedStore.total_eq_zero
    intro policyId policy stored
    rw [if_neg fun active => closed policyId policy stored (Or.inr active.2)]
  pending farmer := by
    rw [accounted.pending]
    apply KeyedStore.total_eq_zero
    intro policyId policy stored
    rw [if_neg fun pending => closed policyId policy stored (Or.inl pending.2)]
  uncounted policyId := by
    rw [accounted.counted, if_neg]
    rintro ⟨policy, stored, pending⟩
    exact closed policyId policy stored (Or.inl pending)

theorem deactivates_of_letsClose {Ω : Type}
    {nft : Env → PolicyNftClient Ω} {env : Env} {policyNft : Option Address}
    {policyId : Nat} {before : Ω}
    (lets : LetsClose nft env policyNft policyId before) :
    ∃ after, Deactivates nft env policyNft policyId before after := by
  cases policyNft with
  | none => exact ⟨before, rfl⟩
  | some address =>
      obtain ⟨minted, middle, queried, survivable⟩ := lets address rfl
      cases minted with
      | false => exact ⟨middle, false, middle, queried, rfl⟩
      | true =>
          rcases commits_or_fails ((nft (env.invoke address)).updatePolicyStatus
              env.currentContract policyId false) middle with
            ⟨_, after, events, updated⟩ | ⟨error, refused⟩
          · exact ⟨after, true, middle, queried, Or.inl ⟨events, updated⟩⟩
          · exact ⟨middle, true, middle, queried,
              Or.inr ⟨error, refused, survivable rfl error refused, rfl⟩⟩

/-- The real certificate contract lets a policy be closed. -/
theorem letsClose_real (sibling : Address) (env : Env)
    {policyNft : Option Address}
    (wired : policyNft = none ∨ policyNft = some sibling) (policyId : Nat)
    (before : PolicyNft.State) :
    LetsClose (PolicyNft.clientAt sibling) env policyNft policyId before := by
  rintro address rfl
  rcases wired with none | some
  · cases none
  · cases some
    have here : (env.invoke sibling).currentContract = sibling := rfl
    rw [PolicyNft.clientAt, if_pos here]
    exact ⟨before.policyNftExists policyId, before, read_returns _ before,
      fun _ => PolicyNft.updatePolicyStatus_survivable _ _ _ _ before⟩

/-- Anybody can expire a policy that is over. -/
theorem expirePolicy_closes {Ω : Type} {nft : Env → PolicyNftClient Ω}
    {env : Env} {before : State × Ω} {policyId : Nat} {policy : Policy}
    (accounted : before.1.Accounted)
    (stored : before.1.policies policyId = some policy)
    (isOpen : policy.IsOpen) (ended : policy.endDate < env.timestamp)
    (lets : policy.status = .active →
      LetsClose nft env before.1.policyNft policyId before.2) :
    ∃ after, (expirePolicy nft env policyId).Commits before () after ∧
      after.1.policies policyId = some { policy with status := .expired } := by
  have key := (accounted.keyed policyId policy stored).1
  rcases isOpen with pending | active
  · refine ⟨(before.1.closePending policyId policy .expired, before.2), ?_, ?_⟩
    · exact (expirePolicy_commits _ _ _ _ _ _).mpr
        ⟨policy, stored, Or.inr (Or.inr ⟨pending, ended, rfl, rfl⟩)⟩
    · rw [State.closePending_policies, key, Function.update_self]
  · obtain ⟨outside, deactivates⟩ := deactivates_of_letsClose (lets active)
    refine ⟨(before.1.closeActive policy .expired, outside), ?_, ?_⟩
    · exact (expirePolicy_commits _ _ _ _ _ _).mpr
        ⟨policy, stored, Or.inr (Or.inl ⟨active, ended, deactivates, rfl⟩)⟩
    · rw [State.closeActive_policies, key, Function.update_self]

end PolicyManager

open PolicyManager

namespace Deployment

variable {Ω κ : Type} {deployment : Deployment Ω κ}

/-- The transition is an accepted sale or activation of the policy. -/
def Opens (deployment : Deployment Ω κ) (policyId : Nat)
    (transition : Transition (World Ω) (Invocation κ)) : Prop :=
  deployment.accepts transition.source transition.label = true ∧
    ∃ call, transition.label.call = .policyManager call ∧
      call.opens transition.source.policyManager = some policyId

/-- The dates of every policy were set by its sale or activation. -/
def Dated (deployment : Deployment Ω κ)
    (past : List (Transition (World Ω) (Invocation κ)))
    (world : World Ω) : Prop :=
  ∀ policyId policy, world.policyManager.policies policyId = some policy →
    policy.endDate ≤ policy.startDate + longestCover ∧
      ∃ transition ∈ past, deployment.Opens policyId transition ∧
        policy.startDate = transition.label.time

theorem dated_apply {past : List (Transition (World Ω) (Invocation κ))}
    {world : World Ω} (sound : deployment.Sound world)
    (dated : deployment.Dated past world) (invocation : Invocation κ) :
    deployment.Dated (past ++ [History.taken deployment.apply world invocation])
      (deployment.apply world invocation) := by
  have kept : ∀ (policyId : Nat) (earlier policy : Policy),
      world.policyManager.policies policyId = some earlier →
      policy.startDate = earlier.startDate → policy.endDate = earlier.endDate →
        policy.endDate ≤ policy.startDate + longestCover ∧
          ∃ transition ∈
            past ++ [History.taken deployment.apply world invocation],
            deployment.Opens policyId transition ∧
              policy.startDate = transition.label.time := by
    intro policyId earlier policy stored starts ends
    obtain ⟨length, transition, member, opens, started⟩ :=
      dated policyId earlier stored
    rw [starts, ends]
    exact ⟨length, transition, List.mem_append_left _ member, opens, started⟩
  have lengths : ∀ policyId policy,
      world.policyManager.policies policyId = some policy →
        policy.endDate ≤ policy.startDate + longestCover :=
    fun policyId policy stored => (dated policyId policy stored).1
  intro policyId policy stored
  rcases deployment.apply_cases world invocation with
    ⟨-, same⟩ | ⟨accepted, step⟩
  · rw [same] at stored
    exact kept policyId policy policy stored rfl rfl
  · generalize targetEq : deployment.apply world invocation = target at *
    generalize called : invocation.call = call at step
    cases step with
    | @managed managerCall _ here effect =>
        rcases dated_effect effect sound.accounted lengths stored with
          ⟨earlier, storedEarlier, starts, ends⟩ | ⟨opens, starts, length⟩
        · exact kept policyId earlier policy storedEarlier starts ends
        · exact ⟨length, _, List.mem_append_right _ (List.mem_singleton_self _),
            ⟨accepted, managerCall, called, opens⟩, starts⟩
    | settled settlement =>
        rcases dated_effect settlement.marked sound.accounted lengths
          stored with ⟨earlier, storedEarlier, starts, ends⟩ | ⟨opens, -⟩
        · exact kept policyId earlier policy storedEarlier starts ends
        · cases opens
    | administered | swapped | booked | certified | markerExpired =>
        exact kept policyId policy policy stored rfl rfl

theorem dated_run (invocations : List (Invocation κ)) :
    deployment.Dated (deployment.trace invocations)
      (deployment.run invocations) := by
  have invariant := History.trace_invariant deployment.apply
    (fun _ => True)
    (fun past world => deployment.Sound world ∧ deployment.Dated past world)
    (fun past world invocation _ kept =>
      ⟨deployment.sound_apply kept.1 invocation,
        dated_apply kept.1 kept.2 invocation⟩)
    invocations [] ⟨deployment.sound_genesis, fun _ _ stored => by
      cases stored⟩
    (fun _ _ => trivial)
  exact invariant.2

/-- The invocation expires a policy that was sold before, when its cover is
over and, if it is ACTIVE, the certificate contract lets it be closed. -/
structure ExpiresLate (deployment : Deployment Ω κ) (policyId : Nat)
    (before : List (Invocation κ)) (invocation : Invocation κ) : Prop where
  call : invocation.call = .policyManager (.expirePolicy policyId)
  late : ∃ policy, (deployment.run before).policyManager.policies policyId =
    some policy ∧ policy.endDate < invocation.time ∧
      (policy.status = .active → LetsClose deployment.certificates.client
        (deployment.env invocation)
        (deployment.run before).policyManager.policyNft policyId
        (deployment.run before).nft)

/-- A policy that is closed in the state. -/
def Closed (policyId : Nat) (world : World Ω) : Prop :=
  ∃ policy, world.policyManager.policies policyId = some policy ∧
    ¬ policy.IsOpen

theorem closed_stays {world : World Ω} {policyId : Nat}
    (sound : deployment.Sound world) (closed : Closed policyId world)
    (invocation : Invocation κ) :
    Closed policyId (deployment.apply world invocation) := by
  rcases deployment.apply_cases world invocation with ⟨-, same⟩ | ⟨-, step⟩
  · rw [same]
    exact closed
  · obtain ⟨policy, stored, notOpen⟩ := closed
    exact ⟨policy, step.closed_stays sound stored notOpen, notOpen⟩

theorem ExpiresLate.closes {policyId : Nat} {before : List (Invocation κ)}
    {invocation : Invocation κ}
    (expires : deployment.ExpiresLate policyId before invocation) :
    Closed policyId
      (deployment.apply (deployment.run before) invocation) := by
  have sound := deployment.sound_run before
  obtain ⟨policy, stored, ended, lets⟩ := expires.late
  by_cases isOpen : policy.IsOpen
  · obtain ⟨after, commits, closed⟩ :=
      @expirePolicy_closes Ω deployment.certificates.client
        (deployment.env invocation)
        ((deployment.run before).policyManager, (deployment.run before).nft)
        policyId policy sound.accounted stored isOpen ended lets
    have executed : (deployment.exec invocation).Commits
        (deployment.run before) ()
        { deployment.run before with
          policyManager := after.1, nft := after.2 } := by
      unfold exec
      rw [expires.call]
      simp only [onNeighbors_commits, onManager_commits]
      exact ⟨_, ⟨after, commits, rfl⟩, rfl⟩
    refine ⟨{ policy with status := .expired }, ?_, by simp [Policy.IsOpen]⟩
    rw [apply, executed.advance_eq]
    exact closed
  · exact closed_stays sound ⟨policy, stored, isOpen⟩ invocation

/-- In every run cover ends within a year of its own accepted sale or
activation.  Once somebody has expired every policy after its end, no policy
is open, no organisation has exposure and no farmer has an open policy. -/
theorem exposureDrains (deployment : Deployment Ω κ)
    (invocations : List (Invocation κ)) :
    deployment.Dated (deployment.trace invocations)
        (deployment.run invocations) ∧
      ((∀ policyId policy,
        (deployment.run invocations).policyManager.policies policyId =
            some policy →
          ∃ before invocation after,
            invocations = before ++ invocation :: after ∧
              deployment.ExpiresLate policyId before invocation) →
        (deployment.run invocations).policyManager.Drained) := by
  refine ⟨dated_run invocations, fun expired => ?_⟩
  apply drained_of_closed (deployment.sound_run invocations).accounted
  intro policyId policy stored
  obtain ⟨before, invocation, after, split, expires⟩ :=
    expired policyId policy stored
  have closed : deployment.Sound (deployment.run invocations) ∧
      Closed policyId (deployment.run invocations) := by
    rw [split]
    apply History.reaches deployment.apply
      (fun world => deployment.Sound world ∧ Closed policyId world)
    · rintro world other ⟨sound, closed⟩
      exact ⟨deployment.sound_apply sound other,
        closed_stays sound closed other⟩
    · exact ⟨deployment.sound_apply (deployment.sound_run before) invocation,
        expires.closes⟩
  obtain ⟨found, storedFound, notOpen⟩ := closed.2
  rw [stored] at storedFound
  cases storedFound
  exact notOpen

/-- A stranger expires the policy of the season. -/
def drainedSeason : List (Invocation PolicyNft.Call) :=
  seasonSetup ++ seasonCover ++
    [signedBy (PolicyManager.seasonAddress 6) 1785001601
      (.policyManager (.expirePolicy 1))]

theorem exposureDrains_season :
    (seasonDeployment.run drainedSeason).policyManager.Drained := by
  apply (exposureDrains seasonDeployment drainedSeason).2
  intro policyId policy stored
  obtain ⟨-, positive, inRange⟩ :=
    (seasonDeployment.sound_run drainedSeason).accounted.keyed policyId policy
      stored
  have one :
      (seasonDeployment.run drainedSeason).policyManager.getTotalPolicies =
        1 := by
    decide +kernel
  obtain rfl : policyId = 1 := by omega
  obtain ⟨sold, storedSold⟩ : ∃ sold, (seasonDeployment.run
      (seasonSetup ++ seasonCover)).policyManager.policies 1 = some sold :=
    Option.isSome_iff_exists.mp (by decide +kernel)
  have ended : ((seasonDeployment.run
      (seasonSetup ++ seasonCover)).policyManager.policies 1).all
        (fun sold => decide (sold.endDate < 1785001601)) = true := by
    decide +kernel
  rw [storedSold] at ended
  exact ⟨seasonSetup ++ seasonCover, _, [], rfl, rfl, sold, storedSold,
    of_decide_eq_true ended, fun _ => letsClose_real (seasonContract 3) _
      (Or.inr (by decide +kernel)) 1 _⟩

end Deployment

end Microcrop
