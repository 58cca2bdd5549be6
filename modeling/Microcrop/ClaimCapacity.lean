import Microcrop.Authority
import Microcrop.ClaimWindow

/-!
# Every open policy can still pay out

The slots of a farmer are the open policies and the claims that still count.
A sale takes a free slot, a claim moves one from the first kind to the second
and the passage of time only frees them, so while receivers are the only
Oracles no farmer ever occupies more than three.
-/

namespace Microcrop

open Transaction

namespace PolicyManager

namespace State

variable (state : State)

/-- The slots that the farmer occupies at `now`. -/
def occupied (now : Nat) (farmer : Address) : Nat :=
  state.farmerActiveCount farmer + state.farmerPendingCount farmer +
    state.claimsInWindow now farmer

/-- No farmer occupies more than the cap. -/
def WithinCapacity (now : Nat) : Prop :=
  ∀ farmer, state.occupied now farmer ≤ maxActivePoliciesPerFarmer

theorem claimsInWindow_antitone {clock now : Nat} (ordered : clock ≤ now)
    (farmer : Address) :
    state.claimsInWindow now farmer ≤ state.claimsInWindow clock farmer := by
  rw [claimsInWindow_eq_alive, claimsInWindow_eq_alive]
  exact SlidingWindow.alive_antitone claimExpiry ordered _

/-- Waiting frees slots. -/
theorem WithinCapacity.later {state : State} {clock now : Nat}
    (capacity : state.WithinCapacity clock) (ordered : clock ≤ now) :
    state.WithinCapacity now := by
  intro farmer
  have before := capacity farmer
  have aged := state.claimsInWindow_antitone ordered farmer
  unfold occupied at before ⊢
  omega

theorem occupied_addPolicy (policy : Policy) (now : Nat) (farmer : Address) :
    (state.addPolicy policy).occupied now farmer =
      state.occupied now farmer + if farmer = policy.farmer then 1 else 0 := by
  have written := KeyedStore.getD_update state.farmerPendingCounts policy.farmer farmer
    (state.farmerPendingCount policy.farmer + 1) 0
  have pending : (state.addPolicy policy).farmerPendingCount farmer =
      if farmer = policy.farmer then
        state.farmerPendingCount policy.farmer + 1
      else state.farmerPendingCount farmer := written
  have active : (state.addPolicy policy).farmerActiveCount farmer =
      state.farmerActiveCount farmer := rfl
  unfold occupied
  rw [pending, active, addPolicy_claimsInWindow]
  split
  · rename_i same
    rw [same]
    omega
  · omega

/-- A counted claim takes at most one slot. -/
theorem occupied_pushClaimTime_le (farmer other : Address) (now : Nat) :
    (state.pushClaimTime farmer now).occupied now other ≤
      state.occupied now other + if other = farmer then 1 else 0 := by
  have claims : (state.pushClaimTime farmer now).claimsInWindow now other ≤
      state.claimsInWindow now other +
        if other = farmer then 1 else 0 := by
    rw [claimsInWindow_eq_alive, claimsInWindow_eq_alive,
      pushClaimTime_claimTimes]
    split
    · rename_i same
      rw [same]
      exact SlidingWindow.alive_kept_append_le claimExpiry
        maxClaimsPerFarmerPerYear now (state.claimTimes farmer) now
    · exact Nat.le_refl _
  have active : (state.pushClaimTime farmer now).farmerActiveCount other =
      state.farmerActiveCount other := rfl
  have pending : (state.pushClaimTime farmer now).farmerPendingCount other =
      state.farmerPendingCount other := rfl
  unfold occupied
  rw [active, pending]
  omega

end State

open State

section Book

variable {state : State} (accounted : state.Accounted)

include accounted

/-- An activation moves the slot from PENDING to ACTIVE. -/
theorem occupied_activate {policyId : Nat} {policy changed : Policy}
    (stored : state.policies policyId = some policy)
    (pending : policy.status = .pending)
    (sameFarmer : changed.farmer = policy.farmer) (now : Nat)
    (farmer : Address) :
    (state.activate policyId changed).occupied now farmer =
      state.occupied now farmer := by
  have released := farmerPendingCount_released accounted stored pending farmer
  have written := KeyedStore.getD_update state.farmerActiveCounts policy.farmer farmer
    (state.farmerActiveCount policy.farmer + 1) 0
  have active : (state.activate policyId changed).farmerActiveCount farmer =
      if farmer = policy.farmer then
        state.farmerActiveCount policy.farmer + 1
      else state.farmerActiveCount farmer := by
    rw [activate_frame, sameFarmer]
    exact written
  have pendings : (state.activate policyId changed).farmerPendingCount
      farmer = (state.releasePendingSlot policyId
        policy.farmer).farmerPendingCount farmer := by
    rw [activate_frame, sameFarmer]
    rfl
  unfold occupied
  rw [active, pendings, activate_claimsInWindow]
  by_cases same : farmer = policy.farmer
  · subst same
    rw [if_pos ⟨rfl, pending⟩] at released
    rw [if_pos rfl]
    omega
  · rw [if_neg fun both => same both.1] at released
    rw [if_neg same]
    omega

theorem occupied_closeActive {policyId : Nat} {policy : Policy}
    (stored : state.policies policyId = some policy)
    (active : policy.status = .active) (status : PolicyStatus) (now : Nat)
    (farmer : Address) :
    (state.closeActive policy status).occupied now farmer +
        (if farmer = policy.farmer then 1 else 0) =
      state.occupied now farmer := by
  have decremented :=
    farmerActiveCount_decremented accounted stored active farmer
  have actives : (state.closeActive policy status).farmerActiveCount farmer =
      (state.decrementActive policy.farmer).farmerActiveCount farmer := by
    rw [closeActive_frame]
    rfl
  have pendings : (state.closeActive policy status).farmerPendingCount
      farmer = state.farmerPendingCount farmer := by
    rw [closeActive_frame]
    rfl
  simp only [active, and_true] at decremented
  unfold occupied
  rw [actives, pendings, closeActive_claimsInWindow]
  omega

theorem occupied_closePending_le {policyId : Nat} {policy : Policy}
    (stored : state.policies policyId = some policy)
    (pending : policy.status = .pending) (status : PolicyStatus) (now : Nat)
    (farmer : Address) :
    (state.closePending policyId policy status).occupied now farmer ≤
      state.occupied now farmer := by
  have released := farmerPendingCount_released accounted stored pending farmer
  have actives : (state.closePending policyId policy
      status).farmerActiveCount farmer = state.farmerActiveCount farmer := by
    rw [closePending_frame]
    rfl
  have pendings : (state.closePending policyId policy
      status).farmerPendingCount farmer = (state.releasePendingSlot policyId
        policy.farmer).farmerPendingCount farmer := by
    rw [closePending_frame]
    rfl
  unfold occupied
  rw [actives, pendings, closePending_claimsInWindow]
  omega

/-- A farmer with an open policy has a claim left. -/
theorem claimsInWindow_lt_of_isOpen {now : Nat}
    (capacity : state.WithinCapacity now) {policyId : Nat} {policy : Policy}
    (stored : state.policies policyId = some policy)
    (isOpen : policy.IsOpen) :
    state.claimsInWindow now policy.farmer < maxClaimsPerFarmerPerYear := by
  have bound := capacity policy.farmer
  unfold occupied maxActivePoliciesPerFarmer at bound
  unfold maxClaimsPerFarmerPerYear
  rcases isOpen with pending | active
  · have positive := farmerPendingCount_pos accounted stored pending
    omega
  · have positive := farmerActiveCount_pos accounted stored active
    omega

/-- A PENDING policy leaves room for its own activation. -/
theorem farmerActiveCount_lt_of_pending {now : Nat}
    (capacity : state.WithinCapacity now) {policyId : Nat} {policy : Policy}
    (stored : state.policies policyId = some policy)
    (pending : policy.status = .pending) :
    state.farmerActiveCount policy.farmer < maxActivePoliciesPerFarmer := by
  have bound := capacity policy.farmer
  have positive := farmerPendingCount_pos accounted stored pending
  unfold occupied at bound
  omega

end Book

/-- Every call but a counted claim keeps the farmers within capacity. -/
theorem withinCapacity_effect {Ω : Type} {nft : Env → PolicyNftClient Ω}
    {env : Env} {call : Call} {before after : State × Ω}
    (effect : Effect nft env before call after)
    (uncounted : ∀ caller farmer, call = .incrementClaimCount caller farmer →
      env.authorized caller = true → before.1.roles .oracle caller = false)
    (accounted : before.1.Accounted)
    (capacity : before.1.WithinCapacity env.timestamp) :
    after.1.WithinCapacity env.timestamp := by
  intro farmer
  have bound := capacity farmer
  cases effect with
  | administered => exact bound
  | @sold caller insured plotId latE6 lonE6 sumInsured premium durationDays
      coverageType org signed backend valid room =>
      rw [occupied_addPolicy]
      have free := room.counted_cap
      split
      · rename_i same
        rw [same]
        exact free
      · exact bound
  | activated signed backend wired stored pending inTime cap ordered minted =>
      rw [occupied_activate accounted stored pending]
      · exact bound
      · rfl
  | @closedActive _ policyId policy status _ stored active cause deactivates =>
      have closed := occupied_closeActive accounted stored active status
        env.timestamp farmer
      change (before.1.closeActive policy status).occupied _ _ ≤ _
      omega
  | closedPending stored pending cause =>
      exact (occupied_closePending_le accounted stored pending _ _ _).trans
        bound
  | claimCounted signed oracle cap =>
      rw [uncounted _ _ rfl signed] at oracle
      cases oracle
  | alreadyExpired => exact bound

end PolicyManager

namespace Deployment

section Capacity

variable {Ω κ : Type} (deployment : Deployment Ω κ)

/-- Only receivers of the deployment hold the Oracle role. -/
def OracleReceivers (world : World Ω) : Prop :=
  world.policyManager.roles.HeldBy .oracle fun who =>
    (deployment.receivers who).isSome

variable {deployment} {env : Env} {before after : World Ω}
  {call : World.Call κ}

/-- A claim moves the slot of its policy to the claims that count. -/
theorem withinCapacity_claimed {manager : PolicyManager.State}
    (accounted : manager.Accounted) {policyId : Nat} {policy : Policy}
    (stored : manager.policies policyId = some policy)
    (active : policy.status = .active) {now : Nat}
    (capacity : manager.WithinCapacity now) :
    (claimedManager manager policy now).WithinCapacity now := by
  intro farmer
  have bound := capacity farmer
  have closed := PolicyManager.occupied_closeActive accounted stored active
    .claimed now farmer
  have counted := (manager.closeActive policy
    .claimed).occupied_pushClaimTime_le policy.farmer farmer now
  unfold claimedManager
  omega

theorem Step.withinCapacity (sound : deployment.Sound before)
    (step : deployment.Step env before call after)
    (strangers : ∀ address, env.authorized address = true →
      ¬ deployment.IsReceiver address)
    (oracles : deployment.OracleReceivers before)
    (capacity : before.policyManager.WithinCapacity env.timestamp) :
    after.policyManager.WithinCapacity env.timestamp := by
  cases step with
  | managed here effect =>
      refine PolicyManager.withinCapacity_effect effect ?_ sound.accounted
        capacity
      intro caller farmer _ signed
      by_contra held
      exact strangers caller signed (oracles caller (eq_true_of_ne_false held))
  | administered => exact capacity
  | swapped => exact capacity
  | settled settlement =>
      exact withinCapacity_claimed sound.accounted
        settlement.handover.stored settlement.active capacity
  | booked => exact capacity
  | certified => exact capacity
  | markerExpired => exact capacity

theorem withinCapacity_apply {world : World Ω}
    (sound : deployment.Sound world) (invocation : Invocation κ)
    (oracles : deployment.OracleReceivers world)
    (capacity : world.policyManager.WithinCapacity invocation.time) :
    (deployment.apply world invocation).policyManager.WithinCapacity
      invocation.time := by
  rcases deployment.apply_cases world invocation with ⟨-, same⟩ | ⟨-, step⟩
  · rw [same]
    exact capacity
  · have clock : invocation.time = (deployment.env invocation).timestamp :=
      rfl
    rw [clock] at capacity ⊢
    exact step.withinCapacity sound
      (deployment.not_isReceiver_of_authorized invocation) oracles capacity

theorem withinCapacity_run (deployment : Deployment Ω κ)
    (invocations : List (Invocation κ))
    (chronological : History.Chronological Invocation.time invocations)
    (oracles : ∀ transition ∈ deployment.trace invocations,
      deployment.OracleReceivers transition.source) {now : Nat}
    (past : ∀ invocation ∈ invocations, invocation.time ≤ now) :
    (deployment.run invocations).policyManager.WithinCapacity now := by
  have empty : deployment.genesis.policyManager.WithinCapacity 0 := by
    intro farmer
    have none : deployment.genesis.policyManager.occupied 0 farmer = 0 := rfl
    rw [none]
    exact Nat.zero_le _
  have invariant := History.chronological_invariant deployment.apply
    (fun transition => deployment.OracleReceivers transition.source)
    (fun clock world => deployment.Sound world ∧
      world.policyManager.WithinCapacity clock)
    (fun clock now world ordered ⟨sound, capacity⟩ =>
      ⟨sound, capacity.later ordered⟩)
    (fun world invocation oracles ⟨sound, capacity⟩ =>
      ⟨deployment.sound_apply sound invocation,
        withinCapacity_apply sound invocation oracles capacity⟩)
    invocations ⟨deployment.sound_genesis, empty⟩ chronological
    (fun _ _ => Nat.zero_le _) past (Nat.zero_le now) oracles
  exact invariant.2

/-- Receivers stay the only Oracles along every run that grants the role to
receivers only. -/
theorem oracleReceivers_trace (invocations : List (Invocation κ))
    (within : ∀ invocation ∈ invocations,
      invocation.call.grantsWithin .oracle
        (fun who => (deployment.receivers who).isSome) = true) :
    ∀ transition ∈ deployment.trace invocations,
      deployment.OracleReceivers transition.source :=
  heldBy_trace deployment invocations (constructor_heldBy _ (by decide))
    within

end Capacity

end Deployment

end Microcrop
