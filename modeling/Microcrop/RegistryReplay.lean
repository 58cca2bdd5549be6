import Microcrop.EventReplay
import Microcrop.PolicyManagerAccounting

/-!
# The policy registry in its events

The events of PolicyManager carry everything it stores about a policy but the
coordinates and the organisation.  A reader of the log holds the announced
part of every policy, the index and the claim times of every farmer and the
certificate contract, and can count the open policies of a farmer.
-/

namespace Microcrop

open Transaction

/-! ## Checks are idle -/

section Checks

variable {σ : Type}

theorem requireAuth_idle (env : Env) (caller : Address) :
    (requireAuth env caller : Contract σ Unit).Idle :=
  panicIf_idle _ _

theorem addUnsigned_idle (width first second : Nat) :
    (addUnsigned width first second : Contract σ Nat).Idle :=
  (panicIf_idle _ _).bind fun _ => pure_idle _

theorem subUnsigned_idle (first second : Nat) :
    (subUnsigned first second : Contract σ Nat).Idle :=
  (panicIf_idle _ _).bind fun _ => pure_idle _

theorem addI128_idle (first second : Int) :
    (addI128 first second : Contract σ Int).Idle :=
  (panicIf_idle _ _).bind fun _ => pure_idle _

variable [RoleStorage σ]

theorem hasRole_idle (role : Role) (who : Address) :
    (hasRole role who : Contract σ Bool).Idle :=
  read_idle _

theorem requireRole_idle (env : Env) (caller : Address) (role : Role) :
    (requireRole env caller role : Contract σ Unit).Idle :=
  (requireAuth_idle _ _).bind fun _ =>
    (hasRole_idle _ _).bind fun _ => panicIf_idle _ _

end Checks

/-- What the events say of a policy. -/
structure AnnouncedPolicy where
  id : Nat
  farmer : Address
  plotId : Nat
  sumInsured : Int
  premium : Int
  startDate : Nat
  endDate : Nat
  coverageType : CoverageType
  status : PolicyStatus
  createdAt : Nat
  deriving DecidableEq

def Policy.announced (policy : Policy) : AnnouncedPolicy where
  id := policy.id
  farmer := policy.farmer
  plotId := policy.plotId
  sumInsured := policy.sumInsured
  premium := policy.premium
  startDate := policy.startDate
  endDate := policy.endDate
  coverageType := policy.coverageType
  status := policy.status
  createdAt := policy.createdAt

namespace PolicyManager

/-- What a reader of the events knows of PolicyManager. -/
@[ext]
structure Registry where
  policyNft : Option Address
  totalPolicies : Nat
  policies : Nat → Option AnnouncedPolicy
  farmerPolicyCount : Address → Nat
  farmerPolicyAt : Address → Nat → Option Nat
  claimTimes : Address → List Nat

/-- What there is to know. -/
def State.registry (state : State) : Registry where
  policyNft := state.policyNft
  totalPolicies := state.getTotalPolicies
  policies policyId := (state.policies policyId).map Policy.announced
  farmerPolicyCount := state.farmerPolicyCount
  farmerPolicyAt := state.farmerPolicyAt
  claimTimes := state.claimTimes

namespace Registry

def add (known : Registry) (policy : AnnouncedPolicy) : Registry :=
  { known with
    totalPolicies := policy.id
    policies := Function.update known.policies policy.id (some policy)
    farmerPolicyCount := Function.update known.farmerPolicyCount
      policy.farmer (known.farmerPolicyCount policy.farmer + 1)
    farmerPolicyAt := Function.update known.farmerPolicyAt policy.farmer
      (Function.update (known.farmerPolicyAt policy.farmer)
        (known.farmerPolicyCount policy.farmer) (some policy.id)) }

def change (known : Registry) (policyId : Nat)
    (changed : AnnouncedPolicy → AnnouncedPolicy) : Registry :=
  { known with
    policies := Function.update known.policies policyId
      ((known.policies policyId).map changed) }

def pushClaimTime (known : Registry) (farmer : Address) (now : Nat) :
    Registry :=
  let times := known.claimTimes farmer ++ [now]
  { known with
    claimTimes := Function.update known.claimTimes farmer
      (times.drop (times.length - maxClaimsPerFarmerPerYear)) }

/-- What the reader makes of one event.  An activation moves the term of the
policy to the time of the activation and keeps its length. -/
def absorb (known : Registry) : Event → Registry
  | .policyNftSet policyNft => { known with policyNft := some policyNft }
  | .policyCreated policyId farmer plotId sumInsured premium startDate
      endDate coverageType =>
      known.add
        { id := policyId, farmer, plotId, sumInsured, premium, startDate,
          endDate, coverageType, status := .pending,
          createdAt := startDate }
  | .policyActivated policyId activatedAt =>
      known.change policyId fun policy =>
        { policy with
          status := .active, startDate := activatedAt
          endDate := activatedAt + (policy.endDate - policy.startDate) }
  | .policyClaimed policyId _ =>
      known.change policyId fun policy => { policy with status := .claimed }
  | .policyCancelled policyId _ =>
      known.change policyId fun policy =>
        { policy with status := .cancelled }
  | .policyExpired policyId _ =>
      known.change policyId fun policy => { policy with status := .expired }
  | .claimCountIncremented farmer claimedAt _ =>
      known.pushClaimTime farmer claimedAt
  | _ => known

/-- The events that the reader does not skip. -/
def heard : Event → Bool
  | .policyNftSet .. => true
  | .policyCreated .. => true
  | .policyActivated .. => true
  | .policyClaimed .. => true
  | .policyCancelled .. => true
  | .policyExpired .. => true
  | .claimCountIncremented .. => true
  | _ => false

theorem skips (known : Registry) (event : Event)
    (unheard : heard event = false) : known.absorb event = known := by
  cases event <;> first | rfl | cases unheard

/-- How many policies of the farmer the reader knows with the status. -/
def policiesWith (known : Registry) (status : PolicyStatus)
    (farmer : Address) : Nat :=
  KeyedStore.count
    (fun policy : AnnouncedPolicy =>
      policy.farmer = farmer ∧ policy.status = status)
    known.policies known.totalPolicies

end Registry

/-! ## What each operation does to the registry -/

section Registry

variable (state : State)

theorem registry_addPolicy (policy : Policy) :
    (state.addPolicy policy).registry =
      state.registry.add policy.announced := by
  have policies : (state.addPolicy policy).registry.policies =
      Function.update state.registry.policies policy.id
        (some policy.announced) := by
    funext policyId
    change (Function.update state.policies policy.id (some policy)
      policyId).map Policy.announced = _
    by_cases same : policyId = policy.id
    · rw [same, Function.update_self, Function.update_self]
      rfl
    · rw [Function.update_of_ne same, Function.update_of_ne same]
      rfl
  apply Registry.ext
  · rfl
  · rfl
  · exact policies
  · exact KeyedStore.getD_written state.farmerPolicyCounts policy.farmer
      (state.farmerPolicyCount policy.farmer + 1) 0
  · rfl
  · rfl

/-- A write that only touches one policy and what no event mentions. -/
theorem registry_replaced {after : State} {policy changed : Policy}
    {announced : AnnouncedPolicy → AnnouncedPolicy}
    {actives pendings : Address → Option Nat} {marks : Nat → Option Bool}
    {exposures : Address → Option Int}
    (stored : state.policies policy.id = some policy)
    (same : changed.announced = announced policy.announced)
    (frame : after =
      { state with
        policies := Function.update state.policies policy.id (some changed)
        farmerActiveCounts := actives
        farmerPendingCounts := pendings
        pendingCounted := marks
        orgOutstandings := exposures }) :
    after.registry = state.registry.change policy.id announced := by
  have written : after.registry.policies =
      Function.update state.registry.policies policy.id
        ((state.registry.policies policy.id).map announced) := by
    rw [frame]
    funext other
    change (Function.update state.policies policy.id (some changed)
      other).map Policy.announced = _
    by_cases here : other = policy.id
    · have known : state.registry.policies policy.id =
          some policy.announced := congrArg (Option.map _) stored
      rw [here, Function.update_self, Function.update_self, known]
      exact congrArg some same
    · rw [Function.update_of_ne here, Function.update_of_ne here]
      rfl
  apply Registry.ext
  · rw [frame]
    rfl
  · rw [frame]
    rfl
  · exact written
  all_goals
    rw [frame]
    rfl

variable {state} {policyId : Nat} {policy : Policy}

theorem registry_activate
    (stored : state.policies policyId = some policy)
    (keyed : policy.id = policyId) (now : Nat) :
    (state.activate policyId
        { policy with
          status := .active, startDate := now
          endDate := now + (policy.endDate - policy.startDate) }).registry =
      state.registry.absorb (.policyActivated policyId now) := by
  subst keyed
  exact registry_replaced state stored rfl (State.activate_frame state _ _)

/-- Both closings leave the same registry. -/
theorem registry_closeActive
    (stored : state.policies policyId = some policy)
    (keyed : policy.id = policyId) (status : PolicyStatus) :
    (state.closeActive policy status).registry =
      state.registry.change policyId fun announced =>
        { announced with status } := by
  subst keyed
  exact registry_replaced state stored rfl
    (State.closeActive_frame state _ _)

theorem registry_closePending
    (stored : state.policies policyId = some policy)
    (keyed : policy.id = policyId) (status : PolicyStatus) :
    (state.closePending policyId policy status).registry =
      state.registry.change policyId fun announced =>
        { announced with status } := by
  subst keyed
  exact registry_replaced state stored rfl
    (State.closePending_frame state _ _ _)

variable (state) in
theorem registry_pushClaimTime (farmer : Address) (now : Nat) :
    (state.pushClaimTime farmer now).registry =
      state.registry.pushClaimTime farmer now := by
  have claims := KeyedStore.getD_written state.farmerClaimTimes farmer
    ((state.claimTimes farmer ++ [now]).drop
      ((state.claimTimes farmer ++ [now]).length -
        maxClaimsPerFarmerPerYear)) []
  exact congrArg (Registry.mk _ _ _ _ _) claims

/-- The reader counts what PolicyManager counts. -/
theorem registry_policiesWith (state : State) (status : PolicyStatus)
    (farmer : Address) :
    state.registry.policiesWith status farmer =
      state.policiesWith status farmer := by
  unfold Registry.policiesWith State.policiesWith KeyedStore.count
    KeyedStore.total
  apply Finset.sum_congr rfl
  intro key _
  change ((state.policies key).map Policy.announced).elim 0 _ = _
  cases state.policies key with
  | none => rfl
  | some policy => rfl

end Registry

/-! ## What each entrypoint announces -/

/-- The certificate contract publishes nothing that the reader hears. -/
structure SilentNft {Ω : Type} (heard : Event → Bool)
    (nft : Env → PolicyNftClient Ω) : Prop where
  policyNftExists : ∀ env policyId,
    ((nft env).policyNftExists policyId).Silent heard
  updatePolicyStatus : ∀ env caller policyId isActive,
    ((nft env).updatePolicyStatus caller policyId isActive).Silent heard
  mintPolicy : ∀ env caller farmer policyId distributor distributorName
    sumInsured premium startDate endDate coverageType region plotId,
    ((nft env).mintPolicy caller farmer policyId distributor distributorName
      sumInsured premium startDate endDate coverageType region
      plotId).Silent heard

theorem loadPolicy_idle (policyId : Nat) : (loadPolicy policyId).Idle :=
  (read_idle _).bind fun _ => unwrapOr_idle _ _

section Announcements

variable {Ω : Type} {nft : Env → PolicyNftClient Ω}
  (silent : SilentNft Registry.heard nft) (env : Env)

include silent

theorem deactivatePolicyNft_silent (policyId : Nat) :
    (deactivatePolicyNft nft env policyId).Silent Registry.heard := by
  have skipped : (publish (.policyNftUpdateSkipped policyId) :
      Contract (State × Ω) Unit).Silent Registry.heard :=
    publish_silent rfl
  apply (read_silent _).internal.bind
  rintro (_ | address)
  · exact skipped
  · apply (silent.policyNftExists _ _).external.bind
    intro minted
    split
    · apply (silent.updatePolicyStatus _ _ _ _).external.attempt.bind
      rintro (error | _)
      · exact skipped
      · exact pure_silent _
    · exact skipped

theorem releaseSlot_silent (policyId : Nat) (policy : Policy) :
    (releaseSlot nft env policyId policy).Silent Registry.heard := by
  unfold releaseSlot
  split
  · exact (modify_silent _).internal.bind fun _ =>
      deactivatePolicyNft_silent silent env policyId
  · exact (modify_silent _).internal

theorem activatePolicy_announces (caller : Address) (policyId : Nat)
    (distributor : Address) (distributorName region : String) :
    (activatePolicy nft env caller policyId distributor distributorName
      region).Announces Registry.heard
        fun _ => [.policyActivated policyId env.timestamp] :=
  (requireRole_idle _ _ _).silent.internal.andThen fun _ =>
    (read_silent _).internal.andThen fun _ =>
    (unwrapOr_silent _ _).andThen fun _ =>
    (loadPolicy_idle _).silent.internal.andThen fun _ =>
    (panicIf_silent _ _).andThen fun _ =>
    (panicIf_silent _ _).andThen fun _ =>
    (read_silent _).internal.andThen fun _ =>
    (panicIf_silent _ _).andThen fun _ =>
    (subUnsigned_idle _ _).silent.andThen fun _ =>
    (addUnsigned_idle _ _ _).silent.andThen fun _ =>
    (modify_silent _).internal.andThen fun _ =>
    (addUnsigned_idle _ _ _).silent.andThen fun _ =>
    (modify_silent _).internal.andThen fun _ =>
    (modify_silent _).internal.andThen fun _ =>
    (silent.mintPolicy _ _ _ _ _ _ _ _ _ _ _ _ _).external.andThen
      fun _ => publish_announces rfl

theorem markAsClaimed_announces (caller : Address) (policyId : Nat) :
    (markAsClaimed nft env caller policyId).Announces Registry.heard
      fun _ => [.policyClaimed policyId env.timestamp] :=
  (requireRole_idle _ _ _).silent.internal.andThen fun _ =>
    (loadPolicy_idle _).silent.internal.andThen fun _ =>
    (panicIf_silent _ _).andThen fun _ =>
    (panicIf_silent _ _).andThen fun _ =>
    (modify_silent _).internal.andThen fun _ =>
    (modify_silent _).internal.andThen fun _ =>
    (modify_silent _).internal.andThen fun _ =>
    (deactivatePolicyNft_silent silent env policyId).andThen fun _ =>
    publish_announces rfl

theorem cancelPolicy_announces (caller : Address) (policyId : Nat) :
    (cancelPolicy nft env caller policyId).Announces Registry.heard
      fun _ => [.policyCancelled policyId env.timestamp] :=
  (requireAuth_idle _ _).silent.internal.andThen fun _ =>
    (hasRole_idle _ _).silent.internal.andThen fun _ =>
    (hasRole_idle _ _).silent.internal.andThen fun _ =>
    (panicIf_silent _ _).andThen fun _ =>
    (loadPolicy_idle _).silent.internal.andThen fun _ =>
    (panicIf_silent _ _).andThen fun _ =>
    (panicIf_silent _ _).andThen fun _ =>
    (modify_silent _).internal.andThen fun _ =>
    (releaseSlot_silent silent env policyId _).andThen fun _ =>
    (modify_silent _).internal.andThen fun _ =>
    publish_announces rfl

omit silent

theorem validateCover_idle (latE6 lonE6 sumInsured premium : Int)
    (durationDays : Nat) (coverageType : CoverageType) :
    (validateCover latE6 lonE6 sumInsured premium durationDays
      coverageType).Idle :=
  (panicIf_idle _ _).bind fun _ =>
    (panicIf_idle _ _).bind fun _ =>
    (panicIf_idle _ _).bind fun _ =>
    (panicIf_idle _ _).bind fun _ =>
    (panicIf_idle _ _).bind fun _ =>
    (panicIf_idle _ _).bind fun _ => panicIf_idle _ _

/-- A sale announces the policy that it stores, under the id that it
returns. -/
theorem createPolicy_announces (caller farmer : Address) (plotId : Nat)
    (latE6 lonE6 sumInsured premium : Int) (durationDays : Nat)
    (coverageType : CoverageType) (org : Address) :
    (createPolicy env caller farmer plotId latE6 lonE6 sumInsured premium
      durationDays coverageType org).Announces Registry.heard
        fun policyId => [.policyCreated policyId farmer plotId sumInsured
          premium env.timestamp
          (env.timestamp + durationDays * secondsPerDay) coverageType] := by
  apply (requireRole_idle _ _ _).silent.andThen fun _ =>
    (validateCover_idle _ _ _ _ _ _).silent.andThen fun _ =>
    (read_silent _).andThen fun _ =>
    (read_silent _).andThen fun _ =>
    (addUnsigned_idle _ _ _).silent.andThen fun _ =>
    (read_silent _).andThen fun _ =>
    (addUnsigned_idle _ _ _).silent.andThen fun _ =>
    (panicIf_silent _ _).andThen fun _ =>
    (read_silent _).andThen fun _ =>
    (addUnsigned_idle _ _ _).silent.andThen fun policyId =>
    (modify_silent _).andThen fun _ =>
    (addUnsigned_idle _ _ _).silent.knowing ?_
  intro before endDate after adds
  obtain ⟨-, rfl, -⟩ := (addUnsigned_commits _ _ _ _ _ _).mp adds
  apply (modify_silent _).andThen fun _ =>
    (read_silent _).andThen fun _ =>
    (addUnsigned_idle _ _ _).silent.andThen fun _ =>
    (modify_silent _).andThen fun _ =>
    (read_silent _).andThen fun _ =>
    (addI128_idle _ _).silent.andThen fun _ =>
    (modify_silent _).andThen fun _ =>
    (read_silent _).andThen fun _ =>
    (addUnsigned_idle _ _ _).silent.andThen fun _ =>
    (modify_silent _).andThen fun _ =>
    (modify_silent _).andThen fun _ =>
    Announces.returning ?_
  exact publish_announces rfl

theorem incrementClaimCount_heard {caller farmer : Address}
    {before after : State} {events : List Event}
    (emits : (incrementClaimCount env caller farmer).Emits before () after
      events) :
    events = [.claimCountIncremented farmer env.timestamp
      (before.claimsInWindow env.timestamp farmer + 1)] := by
  simp only [incrementClaimCount, bind_emits, requireRole_emits, read_emits,
    panicIf_emits, modify_emits, publish_emits] at emits
  grind

end Announcements

/-! ## The registry follows every call -/

section Follows

variable {Ω : Type} {nft : Env → PolicyNftClient Ω}
  (silent : SilentNft Registry.heard nft) (env : Env)

/-- An ended policy is announced once, when it expires. -/
theorem expirePolicy_heard {policyId : Nat} {before after : State × Ω}
    {result : Unit} {events : List Event}
    (silent : SilentNft Registry.heard nft)
    (emits : (expirePolicy nft env policyId).Emits before result after
      events) :
    ∃ policy, before.1.policies policyId = some policy ∧
      events.filter Registry.heard =
        if policy.status = .expired then []
        else [.policyExpired policyId env.timestamp] := by
  obtain ⟨policy, middle, early, late, loads, rest, rfl⟩ :=
    (bind_emits _ _ _ _ _ _).mp emits
  have loadsQuietly := (loadPolicy_idle policyId).internal before policy
    middle early loads
  obtain ⟨_, loaded, -⟩ := (internal_commits _ _ _ _).mp loads.commits
  have stored := ((loadPolicy_commits _ _ _ _).mp loaded).1
  refine ⟨policy, stored, ?_⟩
  rw [loadsQuietly.2, List.nil_append]
  split at rest <;> rename_i expired
  · rw [if_pos expired]
    exact pure_silent _ _ _ _ _ rest
  · rw [if_neg expired]
    have announces : (do
        panicIf (policy.status ≠ .active ∧ policy.status ≠ .pending)
          (.policy .invalidPolicyStatus)
        panicIf (env.timestamp ≤ policy.endDate)
          (.policy .policyNotYetExpired)
        releaseSlot nft env policyId policy
        internal (modify fun state =>
          state.releaseOrgExposure policy.org policy.sumInsured)
        internal (modify fun state =>
          state.savePolicy { policy with status := .expired })
        publish (.policyExpired policyId env.timestamp) :
        Contract (State × Ω) Unit).Announces Registry.heard
          fun _ => [.policyExpired policyId env.timestamp] :=
      (panicIf_silent _ _).andThen fun _ =>
        (panicIf_silent _ _).andThen fun _ =>
        (releaseSlot_silent silent env policyId _).andThen fun _ =>
        (modify_silent _).internal.andThen fun _ =>
        (modify_silent _).internal.andThen fun _ => publish_announces rfl
    exact announces _ _ _ _ rest

/-- An entrypoint keeps the accounts, so the reader need only follow what its
announced events say. -/
theorem exec_accounted {call : Call} {before after : State × Ω}
    {result : Unit} (accounted : before.1.Accounted)
    (commits : (exec nft env call).Commits before result after) :
    after.1.Accounted :=
  accounted_effect (exec_effect nft env call commits) accounted

include silent

theorem exec_follows (call : Call) :
    (exec nft env call).Follows (fun both => both.1.Accounted)
      Registry.absorb fun both => both.1.registry := by
  intro before result after events accounted emits
  have commits := emits.commits
  have kept := exec_accounted env accounted commits
  refine ⟨kept, ?_⟩
  rw [← foldl_heard Registry.skips]
  change _ = after.1.registry
  cases call with
  | setPolicyNft caller policyNft =>
      have announces : (setPolicyNft env caller policyNft).Announces
          Registry.heard fun _ => [.policyNftSet policyNft] :=
        (requireRole_idle _ _ _).silent.andThen fun _ =>
          (modify_silent _).andThen fun _ => publish_announces rfl
      rw [announces.internal before result after events emits]
      simp only [exec, setPolicyNft, internal_commits, bind_commits,
        requireRole_commits, modify_commits, publish_commits, exists_const,
        and_assoc, exists_and_left, exists_eq_left] at commits
      obtain ⟨-, -, rfl⟩ := commits
      rfl
  | grantRole caller role who =>
      have quiet : (grantRole env caller role who).Silent Registry.heard :=
        (requireRole_idle _ _ _).silent.bind fun _ => modify_silent _
      rw [quiet.internal before result after events emits]
      simp only [exec, grantRole, internal_commits, bind_commits,
        requireRole_commits, grantRole_commits, roleStorage_setRoles,
        exists_const, and_assoc, exists_and_left, exists_eq_left] at commits
      obtain ⟨-, -, rfl⟩ := commits
      rfl
  | revokeRole caller role who =>
      have quiet : (revokeRole env caller role who).Silent Registry.heard :=
        (requireRole_idle _ _ _).silent.bind fun _ => modify_silent _
      rw [quiet.internal before result after events emits]
      simp only [exec, revokeRole, internal_commits, bind_commits,
        requireRole_commits, revokeRole_commits, roleStorage_setRoles,
        exists_const, and_assoc, exists_and_left, exists_eq_left] at commits
      obtain ⟨-, -, rfl⟩ := commits
      rfl
  | createPolicy caller farmer plotId latE6 lonE6 sumInsured premium
      durationDays coverageType org =>
      simp only [exec, bind_emits, pure_emits] at emits
      obtain ⟨policyId, sold, announced, _, sells, ⟨-, rfl, rfl⟩, rfl⟩ :=
        emits
      rw [List.append_nil, (createPolicy_announces env caller farmer plotId
        latE6 lonE6 sumInsured premium durationDays coverageType
        org).internal before policyId after announced sells]
      obtain ⟨changed, commitsInside, rfl⟩ :=
        (internal_commits _ _ _ _).mp sells.commits
      obtain ⟨-, -, -, -, rfl, rfl⟩ :=
        (createPolicy_commits _ _ _ _ _ _ _ _ _ _ _ _ _ _).mp commitsInside
      exact (registry_addPolicy before.1 (soldPolicy env before.1 farmer
        plotId latE6 lonE6 sumInsured premium durationDays coverageType
        org)).symm
  | activatePolicy caller policyId distributor distributorName region =>
      rw [activatePolicy_announces silent env caller policyId distributor
        distributorName region before result after events emits]
      obtain ⟨-, -, address, policy, tokenId, -, stored, -, -, -, -, -, -, -,
        changed⟩ := (activatePolicy_commits nft env caller policyId
          distributor distributorName region _ _ _).mp commits
      rw [changed]
      exact (registry_activate stored
        (accounted.keyed policyId policy stored).1 env.timestamp).symm
  | markAsClaimed caller policyId =>
      rw [markAsClaimed_announces silent env caller policyId before result
        after events emits]
      obtain ⟨-, -, policy, stored, -, -, -, changed⟩ :=
        (markAsClaimed_commits nft env caller policyId _ _ _).mp commits
      rw [changed]
      exact (registry_closeActive stored
        (accounted.keyed policyId policy stored).1 .claimed).symm
  | incrementClaimCount caller farmer =>
      obtain ⟨changed, counts, rfl⟩ := (internal_emits _ _ _ _ _).mp emits
      rw [incrementClaimCount_heard env counts]
      obtain ⟨-, -, -, rfl⟩ :=
        (incrementClaimCount_commits _ _ _ _ _ _).mp counts.commits
      exact (registry_pushClaimTime _ _ _).symm
  | cancelPolicy caller policyId =>
      rw [cancelPolicy_announces silent env caller policyId before result
        after events emits]
      obtain ⟨-, policy, stored, ⟨-, -, -, changed⟩ | ⟨-, -, changed, -⟩⟩ :=
        (cancelPolicy_commits nft env caller policyId _ _ _).mp commits
      · rw [changed]
        exact (registry_closeActive stored
          (accounted.keyed policyId policy stored).1 .cancelled).symm
      · rw [changed]
        exact (registry_closePending stored
          (accounted.keyed policyId policy stored).1 .cancelled).symm
  | expirePolicy policyId =>
      obtain ⟨policy, stored, heardEvents⟩ :=
        expirePolicy_heard env silent emits
      have keyed := (accounted.keyed policyId policy stored).1
      rw [heardEvents]
      obtain ⟨same, storedSame, ⟨expired, unchanged⟩ |
        ⟨active, -, -, changed⟩ | ⟨pending, -, changed, -⟩⟩ :=
        (expirePolicy_commits nft env policyId _ _ _).mp commits
      all_goals
        rw [stored] at storedSame
        cases storedSame
      · rw [if_pos expired, unchanged]
        rfl
      · rw [if_neg (by simp [active]), changed]
        exact (registry_closeActive stored keyed .expired).symm
      · rw [if_neg (by simp [pending]), changed]
        exact (registry_closePending stored keyed .expired).symm

end Follows

end PolicyManager

end Microcrop
