import Mathlib.Algebra.Order.Group.Int
import Microcrop.KeyedStoreTotals
import Microcrop.KeyedStoreWrites
import Microcrop.PolicyManagerEffects
import Microcrop.TransitionHistory

/-!
# Exact accounting of PolicyManager

The counters of PolicyManager against the policies it stores: the ACTIVE and
PENDING counts of a farmer, the outstanding exposure of an organisation and
the marks of counted PENDING policies.  Every effect of a call keeps them
equal to the counts and sums over the book, so the guards that release a slot
or an exposure always find something to release.
-/

namespace Microcrop

open Transaction

/-- A policy that still holds a slot and exposure. -/
def Policy.IsOpen (policy : Policy) : Prop :=
  policy.status = .pending ∨ policy.status = .active

instance (policy : Policy) : Decidable policy.IsOpen :=
  inferInstanceAs (Decidable (_ ∨ _))

namespace PolicyManager

namespace State

variable (state : State)

/-- How many policies of the farmer have the status. -/
def policiesWith (status : PolicyStatus) (farmer : Address) : Nat :=
  KeyedStore.count
    (fun policy : Policy => policy.farmer = farmer ∧ policy.status = status)
    state.policies state.getTotalPolicies

/-- The sum insured of the organisation's open policies. -/
def openExposure (org : Address) : Int :=
  KeyedStore.total
    (fun policy : Policy =>
      if policy.org = org ∧ policy.IsOpen then policy.sumInsured else 0)
    state.policies state.getTotalPolicies

/-- The counters agree with the book. -/
structure Accounted : Prop where
  keyed : ∀ policyId policy, state.policies policyId = some policy →
    policy.id = policyId ∧ 1 ≤ policyId ∧ policyId ≤ state.getTotalPolicies
  insured : ∀ policyId policy, state.policies policyId = some policy →
    0 ≤ policy.sumInsured
  active : ∀ farmer,
    state.farmerActiveCount farmer = state.policiesWith .active farmer
  pending : ∀ farmer,
    state.farmerPendingCount farmer = state.policiesWith .pending farmer
  exposure : ∀ org, state.orgOutstanding org = state.openExposure org
  counted : ∀ policyId, state.pendingCounted policyId =
    if ∃ policy ∈ state.policies policyId, policy.status = .pending then
      some true else none

end State

open State

section Book

variable {state : State} (accounted : state.Accounted)

include accounted

theorem isPendingCounted_iff (policyId : Nat) :
    state.isPendingCounted policyId = true ↔
      ∃ policy, state.policies policyId = some policy ∧
        policy.status = .pending := by
  unfold State.isPendingCounted
  rw [accounted.counted]
  split <;> rename_i present
  · simpa using present
  · simpa using present

theorem farmerActiveCount_pos {policyId : Nat} {policy : Policy}
    (stored : state.policies policyId = some policy)
    (active : policy.status = .active) :
    0 < state.farmerActiveCount policy.farmer := by
  obtain ⟨-, positive, inRange⟩ := accounted.keyed policyId policy stored
  rw [accounted.active]
  exact KeyedStore.count_pos _ stored positive inRange ⟨rfl, active⟩

theorem farmerPendingCount_pos {policyId : Nat} {policy : Policy}
    (stored : state.policies policyId = some policy)
    (pending : policy.status = .pending) :
    0 < state.farmerPendingCount policy.farmer := by
  obtain ⟨-, positive, inRange⟩ := accounted.keyed policyId policy stored
  rw [accounted.pending]
  exact KeyedStore.count_pos _ stored positive inRange ⟨rfl, pending⟩

theorem sumInsured_le_orgOutstanding {policyId : Nat} {policy : Policy}
    (stored : state.policies policyId = some policy)
    (isOpen : policy.IsOpen) :
    policy.sumInsured ≤ state.orgOutstanding policy.org := by
  obtain ⟨-, positive, inRange⟩ := accounted.keyed policyId policy stored
  have bound := KeyedStore.weight_le_total
    (fun other : Policy =>
      if other.org = policy.org ∧ other.IsOpen then other.sumInsured else 0)
    stored positive inRange (by
      intro other value found
      split
      · exact accounted.insured other value found
      · exact le_rfl)
  rw [accounted.exposure]
  simpa [isOpen, openExposure] using bound

/-- The book after a stored policy was replaced. -/
theorem keyed_replace {policyId : Nat} {policy : Policy}
    (stored : state.policies policyId = some policy) (changed : Policy)
    (sameId : changed.id = policy.id) :
    ∀ other value,
      Function.update state.policies changed.id (some changed) other =
          some value →
        value.id = other ∧ 1 ≤ other ∧ other ≤ state.getTotalPolicies := by
  have key := accounted.keyed policyId policy stored
  apply KeyedStore.forall_written accounted.keyed
  rw [sameId, key.1]
  exact ⟨rfl, key.2⟩

theorem insured_replace {policyId : Nat} {policy : Policy}
    (stored : state.policies policyId = some policy) (changed : Policy)
    (sameSum : changed.sumInsured = policy.sumInsured) :
    ∀ other value,
      Function.update state.policies changed.id (some changed) other =
          some value →
        0 ≤ value.sumInsured := by
  apply KeyedStore.forall_written accounted.insured
  rw [sameSum]
  exact accounted.insured policyId policy stored

/-- The count after a stored policy of the same farmer took its place. -/
theorem policiesWith_replace {policyId : Nat} {policy : Policy}
    (stored : state.policies policyId = some policy) (changed : Policy)
    (sameId : changed.id = policy.id)
    (sameFarmer : changed.farmer = policy.farmer) (status : PolicyStatus)
    (farmer : Address) :
    KeyedStore.count
        (fun other : Policy =>
          other.farmer = farmer ∧ other.status = status)
        (Function.update state.policies changed.id (some changed))
        state.getTotalPolicies +
        (if farmer = policy.farmer ∧ policy.status = status then 1 else 0) =
      state.policiesWith status farmer +
        (if farmer = policy.farmer ∧ changed.status = status then 1
          else 0) := by
  obtain ⟨key, positive, inRange⟩ := accounted.keyed policyId policy stored
  have replaced := KeyedStore.count_replace
    (fun other : Policy => other.farmer = farmer ∧ other.status = status)
    changed stored positive inRange
  rw [sameId, key]
  rw [sameFarmer] at replaced
  simpa only [eq_comm, State.policiesWith] using replaced

/-- The exposure after a stored policy of the same cover took its place. -/
theorem openExposure_replace {policyId : Nat} {policy : Policy}
    (stored : state.policies policyId = some policy) (changed : Policy)
    (sameId : changed.id = policy.id) (sameOrg : changed.org = policy.org)
    (sameSum : changed.sumInsured = policy.sumInsured) (org : Address) :
    KeyedStore.total
        (fun other : Policy =>
          if other.org = org ∧ other.IsOpen then other.sumInsured else 0)
        (Function.update state.policies changed.id (some changed))
        state.getTotalPolicies +
        (if org = policy.org ∧ policy.IsOpen then policy.sumInsured else 0) =
      state.openExposure org +
        (if org = policy.org ∧ changed.IsOpen then policy.sumInsured
          else 0) := by
  obtain ⟨key, positive, inRange⟩ := accounted.keyed policyId policy stored
  have replaced := KeyedStore.total_replace
    (fun other : Policy =>
      if other.org = org ∧ other.IsOpen then other.sumInsured else 0)
    changed stored positive inRange
  rw [sameId, key]
  rw [sameOrg, sameSum] at replaced
  simpa only [@eq_comm _ org, State.openExposure] using replaced

/-- The marks after a stored policy was replaced by one that is not
PENDING. -/
theorem counted_replace {policyId : Nat} {policy : Policy}
    (stored : state.policies policyId = some policy) (changed : Policy)
    (sameId : changed.id = policy.id)
    (notPending : changed.status ≠ .pending) (other : Nat) :
    Function.update state.pendingCounted policyId none other =
      if ∃ value ∈ Function.update state.policies changed.id (some changed)
          other, value.status = .pending then some true else none := by
  have key := (accounted.keyed policyId policy stored).1
  rw [sameId, key]
  by_cases same : other = policyId
  · rw [same, Function.update_self, Function.update_self]
    simp [notPending]
  · rw [Function.update_of_ne same, Function.update_of_ne same]
    exact accounted.counted other

theorem accounted_addPolicy {policy : Policy}
    (fresh : policy.id = state.getTotalPolicies + 1)
    (pending : policy.status = .pending) (insured : 0 ≤ policy.sumInsured) :
    (state.addPolicy policy).Accounted := by
  have size : (state.addPolicy policy).getTotalPolicies =
      state.getTotalPolicies + 1 := fresh
  rw [addPolicy_frame] at size ⊢
  refine ⟨?_, ?_, ?_, ?_, ?_, ?_⟩
  · intro policyId value found
    rw [size]
    by_cases same : policyId = policy.id
    · rw [same] at found ⊢
      simp only [Function.update_self, Option.some.injEq] at found
      rw [← found]
      omega
    · simp only [Function.update_of_ne same] at found
      have key := accounted.keyed policyId value found
      omega
  · intro policyId value found
    by_cases same : policyId = policy.id
    · rw [same] at found
      simp only [Function.update_self, Option.some.injEq] at found
      rw [← found]
      exact insured
    · simp only [Function.update_of_ne same] at found
      exact accounted.insured policyId value found
  · intro farmer
    have appended := KeyedStore.count_append
      (fun other : Policy => other.farmer = farmer ∧ other.status = .active)
      state.policies state.getTotalPolicies policy
    rw [if_neg (by simp [pending]), ← fresh] at appended
    exact (accounted.active farmer).trans appended.symm
  · intro farmer
    have appended := KeyedStore.count_append
      (fun other : Policy => other.farmer = farmer ∧ other.status = .pending)
      state.policies state.getTotalPolicies policy
    have before := accounted.pending farmer
    have written := KeyedStore.getD_update state.farmerPendingCounts
      policy.farmer farmer (state.farmerPendingCount policy.farmer + 1) 0
    rw [← fresh] at appended
    refine written.trans (Eq.trans ?_ appended.symm)
    by_cases same : farmer = policy.farmer
    · rw [if_pos same, if_pos ⟨same.symm, pending⟩, ← same, before]
      rfl
    · rw [if_neg same, if_neg (fun both => same both.1.symm)]
      exact before
  · intro org
    have appended := KeyedStore.total_append
      (fun other : Policy =>
        if other.org = org ∧ other.IsOpen then other.sumInsured else 0)
      state.policies state.getTotalPolicies policy
    have before := accounted.exposure org
    have written := KeyedStore.getD_update state.orgOutstandings policy.org
      org (state.orgOutstanding policy.org + policy.sumInsured) 0
    rw [← fresh] at appended
    refine written.trans (Eq.trans ?_ appended.symm)
    by_cases same : org = policy.org
    · rw [if_pos same, if_pos ⟨same.symm, Or.inl pending⟩, ← same, before]
      rfl
    · rw [if_neg same, if_neg (fun both => same both.1.symm), add_zero]
      exact before
  · intro policyId
    by_cases same : policyId = policy.id
    · simp [same, pending]
    · simp only [Function.update_of_ne same]
      exact accounted.counted policyId

/-- The accounts after a stored policy was replaced, if every counter moved
with the status. -/
theorem accounted_replace {after : State} {policyId : Nat} {policy : Policy}
    (stored : state.policies policyId = some policy) (changed : Policy)
    (sameId : changed.id = policy.id)
    (sameFarmer : changed.farmer = policy.farmer)
    (sameOrg : changed.org = policy.org)
    (sameSum : changed.sumInsured = policy.sumInsured)
    (notPending : changed.status ≠ .pending)
    (policies : after.policies =
      Function.update state.policies changed.id (some changed))
    (counter : after.policyCounter = state.policyCounter)
    (actives : ∀ farmer, after.farmerActiveCount farmer +
        (if farmer = policy.farmer ∧ policy.status = .active then 1 else 0) =
      state.farmerActiveCount farmer +
        (if farmer = policy.farmer ∧ changed.status = .active then 1
          else 0))
    (pendings : ∀ farmer, after.farmerPendingCount farmer +
        (if farmer = policy.farmer ∧ policy.status = .pending then 1
          else 0) =
      state.farmerPendingCount farmer)
    (exposures : ∀ org, after.orgOutstanding org +
        (if org = policy.org ∧ policy.IsOpen then policy.sumInsured else 0) =
      state.orgOutstanding org +
        (if org = policy.org ∧ changed.IsOpen then policy.sumInsured else 0))
    (marks : ∀ other, after.pendingCounted other =
      Function.update state.pendingCounted policyId none other) :
    after.Accounted := by
  have size : after.getTotalPolicies = state.getTotalPolicies :=
    congrArg (fun counter => counter.getD 0) counter
  refine ⟨?_, ?_, ?_, ?_, ?_, ?_⟩
  · rw [policies, size]
    exact keyed_replace accounted stored changed sameId
  · rw [policies]
    exact insured_replace accounted stored changed sameSum
  · intro farmer
    have replaced := policiesWith_replace accounted stored changed sameId
      sameFarmer .active farmer
    have moved := actives farmer
    rw [accounted.active farmer] at moved
    unfold policiesWith
    rw [policies, size]
    omega
  · intro farmer
    have replaced := policiesWith_replace accounted stored changed sameId
      sameFarmer .pending farmer
    have moved := pendings farmer
    rw [accounted.pending farmer] at moved
    unfold policiesWith
    rw [policies, size]
    rw [if_neg (c := _ ∧ changed.status = _) (by simp [notPending])]
      at replaced
    omega
  · intro org
    have replaced := openExposure_replace accounted stored changed sameId
      sameOrg sameSum org
    have moved := exposures org
    rw [accounted.exposure org] at moved
    unfold openExposure
    rw [policies, size]
    omega
  · intro other
    rw [marks, policies]
    exact counted_replace accounted stored changed sameId notPending other

/-- A released exposure leaves the account of its organisation exact. -/
theorem orgOutstanding_released {policyId : Nat} {policy : Policy}
    (stored : state.policies policyId = some policy)
    (wasOpen : policy.IsOpen) {status : PolicyStatus}
    (notPending : status ≠ .pending) (notActive : status ≠ .active)
    (org : Address) :
    (state.releaseOrgExposure policy.org policy.sumInsured).orgOutstanding
          org +
        (if org = policy.org ∧ policy.IsOpen then policy.sumInsured else 0) =
      state.orgOutstanding org +
        (if org = policy.org ∧ Policy.IsOpen { policy with status } then
          policy.sumInsured else 0) := by
  have covered := sumInsured_le_orgOutstanding accounted stored wasOpen
  have closed : ¬ (org = policy.org ∧
      Policy.IsOpen { policy with status }) :=
    fun both => both.2.elim notPending notActive
  rw [releaseOrgExposure_orgOutstanding, if_neg closed]
  by_cases same : org = policy.org
  · rw [if_pos same, if_pos ⟨same, wasOpen⟩, same]
    omega
  · rw [if_neg same, if_neg (fun both => same both.1)]

/-- A released slot leaves the PENDING count of its farmer exact. -/
theorem farmerPendingCount_released {policyId : Nat} {policy : Policy}
    (stored : state.policies policyId = some policy)
    (pending : policy.status = .pending) (farmer : Address) :
    (state.releasePendingSlot policyId policy.farmer).farmerPendingCount
          farmer +
        (if farmer = policy.farmer ∧ policy.status = .pending then 1
          else 0) =
      state.farmerPendingCount farmer := by
  have counted : state.isPendingCounted policyId = true :=
    (isPendingCounted_iff accounted policyId).mpr ⟨policy, stored, pending⟩
  have positive := farmerPendingCount_pos accounted stored pending
  rw [releasePendingSlot_farmerPendingCount state counted]
  by_cases same : farmer = policy.farmer
  · rw [if_pos same, if_pos ⟨same, pending⟩, same]
    omega
  · rw [if_neg same, if_neg (fun both => same both.1)]
    rfl

/-- A decremented slot leaves the ACTIVE count of its farmer exact. -/
theorem farmerActiveCount_decremented {policyId : Nat} {policy : Policy}
    (stored : state.policies policyId = some policy)
    (active : policy.status = .active) (farmer : Address) :
    (state.decrementActive policy.farmer).farmerActiveCount farmer +
        (if farmer = policy.farmer ∧ policy.status = .active then 1 else 0) =
      state.farmerActiveCount farmer := by
  have positive := farmerActiveCount_pos accounted stored active
  rw [decrementActive_farmerActiveCount]
  by_cases same : farmer = policy.farmer
  · rw [if_pos same, if_pos ⟨same, active⟩, same]
    omega
  · rw [if_neg same, if_neg (fun both => same both.1)]
    rfl

theorem accounted_activate {policyId : Nat} {policy : Policy}
    (stored : state.policies policyId = some policy)
    (pending : policy.status = .pending) (changed : Policy)
    (sameId : changed.id = policy.id)
    (sameFarmer : changed.farmer = policy.farmer)
    (sameOrg : changed.org = policy.org)
    (sameSum : changed.sumInsured = policy.sumInsured)
    (active : changed.status = .active) :
    (state.activate policyId changed).Accounted := by
  have counted : state.isPendingCounted policyId = true :=
    (isPendingCounted_iff accounted policyId).mpr ⟨policy, stored, pending⟩
  rw [activate_frame, sameFarmer]
  refine accounted_replace accounted stored changed sameId sameFarmer sameOrg
    sameSum (by simp [active]) rfl rfl ?_
    (farmerPendingCount_released accounted stored pending) ?_ ?_
  · intro farmer
    have written := KeyedStore.getD_update state.farmerActiveCounts
      policy.farmer farmer (state.farmerActiveCount policy.farmer + 1) 0
    refine (congrArg (· + _) written).trans ?_
    rw [if_neg (c := _ ∧ policy.status = _) (by simp [pending])]
    by_cases same : farmer = policy.farmer
    · rw [if_pos same, if_pos ⟨same, active⟩, same]
    · rw [if_neg same, if_neg (fun both => same both.1)]
      rfl
  · intro org
    have wasOpen : policy.IsOpen := Or.inl pending
    have isOpen : changed.IsOpen := Or.inr active
    simp only [wasOpen, isOpen]
    rfl
  · intro other
    rw [releasePendingSlot_pendingCounted state counted]

theorem accounted_closeActive {policyId : Nat} {policy : Policy}
    (stored : state.policies policyId = some policy)
    (active : policy.status = .active) {status : PolicyStatus}
    (notPending : status ≠ .pending) (notActive : status ≠ .active) :
    (state.closeActive policy status).Accounted := by
  rw [closeActive_frame]
  refine accounted_replace accounted stored { policy with status } rfl rfl rfl
    rfl notPending rfl rfl ?_ ?_
    (orgOutstanding_released accounted stored (Or.inr active) notPending
      notActive) ?_
  · intro farmer
    rw [if_neg (c := _ ∧ status = _) (by simp [notActive])]
    exact farmerActiveCount_decremented accounted stored active farmer
  · intro farmer
    rw [if_neg (by simp [active])]
    rfl
  · intro other
    have mark := accounted.counted policyId
    rw [stored, if_neg (by simp [active])] at mark
    rw [← mark, Function.update_eq_self]

theorem accounted_closePending {policyId : Nat} {policy : Policy}
    (stored : state.policies policyId = some policy)
    (pending : policy.status = .pending) {status : PolicyStatus}
    (notPending : status ≠ .pending) (notActive : status ≠ .active) :
    (state.closePending policyId policy status).Accounted := by
  have counted : state.isPendingCounted policyId = true :=
    (isPendingCounted_iff accounted policyId).mpr ⟨policy, stored, pending⟩
  rw [closePending_frame]
  refine accounted_replace accounted stored { policy with status } rfl rfl rfl
    rfl notPending rfl rfl ?_
    (farmerPendingCount_released accounted stored pending)
    (orgOutstanding_released accounted stored (Or.inl pending) notPending
      notActive) ?_
  · intro farmer
    rw [if_neg (by simp [pending]), if_neg (by simp [notActive])]
    rfl
  · intro other
    rw [releasePendingSlot_pendingCounted state counted]

end Book

/-! ## Every run -/

theorem accounted_constructor (admin : Address) :
    (constructor admin).Accounted := by
  refine ⟨?_, ?_, ?_, ?_, ?_, ?_⟩
  · intro policyId policy stored
    cases stored
  · intro policyId policy stored
    cases stored
  · intro farmer
    exact (KeyedStore.count_empty _ _).symm
  · intro farmer
    exact (KeyedStore.count_empty _ _).symm
  · intro org
    exact (KeyedStore.total_empty _ _).symm
  · intro policyId
    simp [constructor]

/-- Every effect keeps the accounts exact. -/
theorem accounted_effect {Ω : Type} {nft : Env → PolicyNftClient Ω}
    {env : Env} {call : Call} {before after : State × Ω}
    (effect : Effect nft env before call after)
    (accounted : before.1.Accounted) : after.1.Accounted := by
  cases effect with
  | administered =>
      exact ⟨accounted.keyed, accounted.insured, accounted.active,
        accounted.pending, accounted.exposure, accounted.counted⟩
  | sold signed backend valid capacity =>
      have positive : (0 : Int) ≤ minSumInsured := by decide
      exact accounted_addPolicy accounted rfl rfl
        (le_trans positive valid.sumInsured_ge)
  | activated signed backend wired stored pending inTime cap ordered minted =>
      exact accounted_activate accounted stored pending _ rfl rfl rfl rfl rfl
  | closedActive stored active cause deactivates =>
      exact accounted_closeActive accounted stored active
        cause.not_pending cause.not_active
  | closedPending stored pending cause =>
      exact accounted_closePending accounted stored pending
        cause.not_pending cause.not_active
  | claimCounted signed oracle cap =>
      exact ⟨accounted.keyed, accounted.insured, accounted.active,
        accounted.pending, accounted.exposure, accounted.counted⟩
  | alreadyExpired stored expired => exact accounted

/-- A call leaves every closed policy as it is. -/
theorem closed_effect {Ω : Type} {nft : Env → PolicyNftClient Ω}
    {env : Env} {call : Call} {before after : State × Ω}
    (effect : Effect nft env before call after)
    (accounted : before.1.Accounted) {policyId : Nat} {policy : Policy}
    (stored : before.1.policies policyId = some policy)
    (closed : ¬ policy.IsOpen) : after.1.policies policyId = some policy := by
  have key := accounted.keyed policyId policy stored
  have replaced : ∀ {other : Nat} {old : Policy},
      before.1.policies other = some old → old.IsOpen → ∀ changed,
        Function.update before.1.policies old.id (some changed) policyId =
          some policy := by
    intro other old storedOld isOpen changed
    have otherKey := (accounted.keyed other old storedOld).1
    have different : policyId ≠ old.id := by
      intro same
      rw [otherKey] at same
      rw [same, storedOld] at stored
      cases stored
      exact closed isOpen
    rw [Function.update_of_ne different]
    exact stored
  cases effect with
  | administered => exact stored
  | sold signed backend valid capacity =>
      rw [addPolicy_policies]
      refine (Function.update_of_ne ?_ ..).trans stored
      change policyId ≠ before.1.getTotalPolicies + 1
      omega
  | activated signed backend wired storedOld pending inTime cap ordered
      minted =>
      rw [activate_policies]
      have unchanged := replaced storedOld (Or.inl pending)
      exact unchanged _
  | closedActive storedOld active cause deactivates =>
      rw [closeActive_policies]
      exact replaced storedOld (Or.inr active) _
  | closedPending storedOld pending cause =>
      rw [closePending_policies]
      exact replaced storedOld (Or.inl pending) _
  | claimCounted signed oracle cap => exact stored
  | alreadyExpired storedOld expired => exact stored

theorem accounted_apply {Ω : Type} (state : State) (input : Input Ω)
    (accounted : state.Accounted) : (apply state input).Accounted := by
  rcases apply_cases state input with ⟨-, same⟩ | ⟨-, after, effect, same⟩
  · rw [same]
    exact accounted
  · rw [same]
    exact accounted_effect effect accounted

theorem accounted_run {Ω : Type} (admin : Address)
    (inputs : List (Input Ω)) :
    (History.run apply (constructor admin) inputs).Accounted :=
  History.run_invariant apply (fun _ => True) Accounted
    (fun state input _ accounted => accounted_apply state input accounted)
    inputs (accounted_constructor admin) (fun _ _ => trivial)

/-- Every release of a stored policy takes exactly its own unit or sum off
the counter. -/
structure State.ReleasesExactly (state : State) : Prop where
  active : ∀ policyId policy, state.policies policyId = some policy →
    policy.status = .active →
      (state.decrementActive policy.farmer).farmerActiveCount policy.farmer +
        1 = state.farmerActiveCount policy.farmer
  pending : ∀ policyId policy, state.policies policyId = some policy →
    policy.status = .pending →
      (state.releasePendingSlot policyId policy.farmer).farmerPendingCount
        policy.farmer + 1 = state.farmerPendingCount policy.farmer
  exposure : ∀ policyId policy, state.policies policyId = some policy →
    policy.IsOpen →
      (state.releaseOrgExposure policy.org policy.sumInsured).orgOutstanding
        policy.org + policy.sumInsured = state.orgOutstanding policy.org

theorem releasesExactly_of_accounted {state : State}
    (accounted : state.Accounted) : state.ReleasesExactly where
  active policyId policy stored active := by
    have decremented := farmerActiveCount_decremented accounted stored active
      policy.farmer
    rwa [if_pos ⟨rfl, active⟩] at decremented
  pending policyId policy stored pending := by
    have released := farmerPendingCount_released accounted stored pending
      policy.farmer
    rwa [if_pos ⟨rfl, pending⟩] at released
  exposure policyId policy stored isOpen := by
    have covered := sumInsured_le_orgOutstanding accounted stored isOpen
    rw [releaseOrgExposure_orgOutstanding, if_pos rfl]
    omega

/-- After any calls, in any order and by any callers, the counters equal the
counts and sums over the book, and no release drops a unit. -/
theorem exactAccounting {Ω : Type} (admin : Address)
    (inputs : List (Input Ω)) :
    (History.run apply (constructor admin) inputs).Accounted ∧
      (History.run apply (constructor admin) inputs).ReleasesExactly :=
  ⟨accounted_run admin inputs,
    releasesExactly_of_accounted (accounted_run admin inputs)⟩

end PolicyManager

end Microcrop
