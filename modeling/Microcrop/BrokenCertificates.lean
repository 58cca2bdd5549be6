import Microcrop.PolicyLifecycle

/-!
# Closing a policy under a broken certificate contract

The three closing calls switch a certificate off on the way.  A refused
status update is swallowed unless its error is fatal, and the query before it
is an ordinary call: the closing goes through exactly when that query returns
and the update that it may lead to does not end the whole transaction.
-/

namespace Microcrop

namespace PolicyManager

open Transaction

variable {Ω : Type}

/-- The notice of a certificate update that was not made. -/
def notice (policyId : Nat) (skipped : Bool) : List Event :=
  if skipped then [.policyNftUpdateSkipped policyId] else []

/-- How the configured certificate contract takes a deactivation: the state it
is left in, the events it publishes, and whether the update was skipped. -/
inductive Deactivation (nft : Env → PolicyNftClient Ω) (env : Env)
    (policyId : Nat) (before : Ω) :
    Option Address → Ω → List Event → Bool → Prop
  | unwired : Deactivation nft env policyId before none before [] true
  | unminted {address : Address} {after : Ω} {events : List Event}
      (queried : ((nft (env.invoke address)).policyNftExists policyId).Emits
        before false after events) :
      Deactivation nft env policyId before (some address) after events true
  | refused {address : Address} {middle : Ω} {events : List Event}
      {error : Error}
      (queried : ((nft (env.invoke address)).policyNftExists policyId).Emits
        before true middle events)
      (refused : ((nft (env.invoke address)).updatePolicyStatus
        env.currentContract policyId false).Fails middle error)
      (survivable : ¬ Fatal error) :
      Deactivation nft env policyId before (some address) middle events true
  | updated {address : Address} {middle after : Ω}
      {first second : List Event}
      (queried : ((nft (env.invoke address)).policyNftExists policyId).Emits
        before true middle first)
      (updated : ((nft (env.invoke address)).updatePolicyStatus
        env.currentContract policyId false).Emits middle () after second) :
      Deactivation nft env policyId before (some address) after
        (first ++ second) false

/-- The configured certificate contract returns from the existence query and,
if it has a certificate, does not answer the update with a fatal error. -/
def LetsClose (nft : Env → PolicyNftClient Ω) (env : Env)
    (policyNft : Option Address) (policyId : Nat) (before : Ω) : Prop :=
  ∀ address, policyNft = some address → ∃ minted middle,
    ((nft (env.invoke address)).policyNftExists policyId).Commits before
        minted middle ∧
      (minted = true → ((nft (env.invoke address)).updatePolicyStatus
        env.currentContract policyId false).Avoids middle Fatal)

/-- A certificate contract that answers both calls of a deactivation. -/
def Healthy (client : PolicyNftClient Ω) (caller : Address) (policyId : Nat)
    (before : Ω) : Prop :=
  ∃ middle after first second,
    (client.policyNftExists policyId).Emits before true middle first ∧
      (client.updatePolicyStatus caller policyId false).Emits middle () after
        second

section Deactivation

variable {nft : Env → PolicyNftClient Ω} {env : Env} {policyId : Nat}
  {policyNft : Option Address} {before : Ω}

theorem deactivation_of_letsClose
    (lets : LetsClose nft env policyNft policyId before) :
    ∃ after events skipped,
      Deactivation nft env policyId before policyNft after events skipped := by
  cases policyNft with
  | none => exact ⟨before, [], true, .unwired⟩
  | some address =>
      obtain ⟨minted, middle, ⟨first, queried⟩, survivable⟩ :=
        lets address rfl
      cases minted with
      | false => exact ⟨middle, first, true, .unminted queried⟩
      | true =>
          rcases commits_or_fails ((nft (env.invoke address)).updatePolicyStatus
              env.currentContract policyId false) middle with
            ⟨_, after, second, updated⟩ | ⟨error, refused⟩
          · exact ⟨after, first ++ second, false, .updated queried updated⟩
          · exact ⟨middle, first, true,
              .refused queried refused (survivable rfl error refused)⟩

theorem deactivation_of_healthy
    (healthy : ∀ address, policyNft = some address →
      Healthy (nft (env.invoke address)) env.currentContract policyId
        before) :
    ∃ after events, Deactivation nft env policyId before policyNft after
      events policyNft.isNone := by
  cases policyNft with
  | none => exact ⟨before, [], .unwired⟩
  | some address =>
      obtain ⟨middle, after, first, second, queried, updated⟩ :=
        healthy address rfl
      exact ⟨after, first ++ second, .updated queried updated⟩

theorem letsClose_of_deactivates {after : Ω}
    (deactivates : Deactivates nft env policyNft policyId before after) :
    LetsClose nft env policyNft policyId before := by
  intro address wired
  rw [wired] at deactivates
  obtain ⟨minted, middle, queried, update⟩ := deactivates
  refine ⟨minted, middle, queried, ?_⟩
  rintro rfl
  rw [if_pos rfl] at update
  rcases update with updated | ⟨error, refused, survivable, -⟩
  · exact updated.avoids
  · exact refused.avoids survivable

/-- The deactivation publishes what the certificate contract published and
the notice of a skipped update. -/
theorem deactivatePolicyNft_emits {state : State} {after : Ω}
    {events : List Event} {skipped : Bool}
    (deactivation : Deactivation nft env policyId before state.policyNft after
      events skipped) :
    (deactivatePolicyNft nft env policyId).Emits (state, before) ()
      (state, after) (events ++ notice policyId skipped) := by
  simp only [deactivatePolicyNft, bind_emits, internal_emits, read_emits]
  refine ⟨_, _, _, _, ⟨_, ⟨rfl, rfl, rfl⟩, rfl⟩, ?_, rfl⟩
  generalize state.policyNft = policyNft at deactivation
  cases deactivation with
  | unwired => simp [notice]
  | unminted queried =>
      simp only [bind_emits, external_emits]
      exact ⟨_, _, _, _, ⟨_, queried, rfl⟩, by simp [notice], rfl⟩
  | refused queried refused survivable =>
      have attempted := attempt_emits_error
        ((external_fails _ (state, after) _).mpr refused) survivable
      simp only [bind_emits, external_emits]
      refine ⟨_, _, _, _, ⟨_, queried, rfl⟩, ?_, rfl⟩
      simp only [if_true, bind_emits]
      exact ⟨_, _, [], notice policyId true, attempted, by simp [notice], rfl⟩
  | @updated _ middle _ first second queried updated =>
      have attempted := attempt_emits_ok ((external_emits _ (state, middle) _
        _ _).mpr ⟨after, updated, rfl⟩)
      simp only [bind_emits, external_emits]
      refine ⟨_, _, first, second, ⟨_, queried, rfl⟩, ?_, by simp [notice]⟩
      simp only [if_true, bind_emits]
      exact ⟨_, _, second, [], attempted, by simp, by simp⟩

end Deactivation

/-! ## The closing calls -/

/-- The event of a closing call. -/
def closingEvent (env : Env) (policyId : Nat) : PolicyStatus → Event
  | .claimed => .policyClaimed policyId env.timestamp
  | .cancelled => .policyCancelled policyId env.timestamp
  | _ => .policyExpired policyId env.timestamp

section Closing

variable {nft : Env → PolicyNftClient Ω} {env : Env} {state : State}
  {outside : Ω} {policyId : Nat} {policy : Policy} {call : Call}
  {status : PolicyStatus}

theorem loadPolicy_emits (stored : state.policies policyId = some policy) :
    (loadPolicy policyId).Emits state policy state [] := by
  simp [loadPolicy, stored]

section Deactivated

variable {after : Ω} {events : List Event} {skipped : Bool}
  (stored : state.policies policyId = some policy)
  (active : policy.status = .active)
  (deactivation : Deactivation nft env policyId outside state.policyNft
    after events skipped)

include deactivation

/-- The deactivation does not depend on the rest of the state. -/
theorem deactivatePolicyNft_emits_of_wired {middle : State}
    (wired : middle.policyNft = state.policyNft) :
    (deactivatePolicyNft nft env policyId).Emits (middle, outside) ()
      (middle, after) (events ++ notice policyId skipped) := by
  rw [← wired] at deactivation
  exact deactivatePolicyNft_emits deactivation

include active

theorem releaseSlot_emits {middle : State}
    (wired : middle.policyNft = state.policyNft) :
    (releaseSlot nft env policyId policy).Emits (middle, outside) ()
      (middle.decrementActive policy.farmer, after)
      (events ++ notice policyId skipped) := by
  have wiredAfter :
      (middle.decrementActive policy.farmer).policyNft = state.policyNft :=
    (State.decrementActive_policyNft _ _).trans wired
  unfold releaseSlot
  rw [if_pos active]
  apply Emits.quietly (.inside (modify_quiet _ _) _)
  exact deactivatePolicyNft_emits_of_wired deactivation wiredAfter

include stored

theorem markAsClaimed_emits {caller : Address}
    (signed : env.authorized caller = true)
    (oracle : state.roles .oracle caller = true)
    (inTime : env.timestamp ≤ policy.endDate) :
    (markAsClaimed nft env caller policyId).Emits (state, outside) ()
      (state.closeActive policy .claimed, after)
      (events ++ notice policyId skipped ++
        [.policyClaimed policyId env.timestamp]) := by
  have authorized : (requireRole env caller .oracle).Emits state () state [] :=
    (requireRole_emits _ _ _ _ _ () _).mpr ⟨signed, oracle, rfl, rfl⟩
  apply Emits.quietly (.inside authorized _)
  apply Emits.quietly (.inside (loadPolicy_emits stored) _)
  apply Emits.quietly (panicIf_quiet (not_not.mpr active))
  apply Emits.quietly (panicIf_quiet (not_lt.mpr inTime))
  apply Emits.quietly (.inside (modify_quiet _ _) _)
  apply Emits.quietly (.inside (modify_quiet _ _) _)
  apply Emits.quietly (.inside (modify_quiet _ _) _)
  have wired : (state.closeActive policy .claimed).policyNft =
      state.policyNft := by
    rw [State.closeActive_frame]
  have deactivated := deactivatePolicyNft_emits_of_wired deactivation wired
  exact (bind_emits _ _ _ _ _ _).mpr
    ⟨(), _, _, _, deactivated, (publish_emits _ _ _ _ _).mpr ⟨rfl, rfl⟩, rfl⟩

theorem cancelPolicy_emits {caller : Address}
    (signed : env.authorized caller = true)
    (admin : state.roles .admin caller = true) :
    (cancelPolicy nft env caller policyId).Emits (state, outside) ()
      (state.closeActive policy .cancelled, after)
      (events ++ notice policyId skipped ++
        [.policyCancelled policyId env.timestamp]) := by
  apply Emits.quietly (.inside (panicIf_quiet (not_not.mpr signed)) _)
  apply Emits.quietly (.inside (read_quiet _ _) _)
  apply Emits.quietly (.inside (read_quiet _ _) _)
  apply Emits.quietly (panicIf_quiet fun neither => neither.1 admin)
  apply Emits.quietly (.inside (loadPolicy_emits stored) _)
  apply Emits.quietly (panicIf_quiet fun closed => closed.2 active)
  apply Emits.quietly (panicIf_quiet fun backend => backend.2 admin)
  apply Emits.quietly (.inside (modify_quiet _ _) _)
  have released := releaseSlot_emits active deactivation
    (State.releaseOrgExposure_policyNft state policy.org policy.sumInsured)
  -- the source saves the policy last; the closed state saves it first
  have reordered : state.closeActive policy .cancelled =
      ((state.releaseOrgExposure policy.org
        policy.sumInsured).decrementActive policy.farmer).savePolicy
          { policy with status := .cancelled } := by
    rw [State.closeActive, State.decrementActive_savePolicy,
      State.releaseOrgExposure_savePolicy,
      State.releaseOrgExposure_decrementActive]
  rw [reordered]
  apply (bind_emits _ _ _ _ _ _).mpr ⟨(), _, _, _, released, ?_, rfl⟩
  apply Emits.quietly (.inside (modify_quiet _ _) _)
  exact (publish_emits _ _ _ _ _).mpr ⟨rfl, rfl⟩

theorem expirePolicy_emits (ended : policy.endDate < env.timestamp) :
    (expirePolicy nft env policyId).Emits (state, outside) ()
      (state.closeActive policy .expired, after)
      (events ++ notice policyId skipped ++
        [.policyExpired policyId env.timestamp]) := by
  have isOpen : policy.status ≠ .expired := by simp [active]
  apply Emits.quietly (.inside (loadPolicy_emits stored) _)
  rw [if_neg isOpen]
  apply Emits.quietly (panicIf_quiet fun closed => closed.1 active)
  apply Emits.quietly (panicIf_quiet (not_le.mpr ended))
  have released := releaseSlot_emits active deactivation rfl
  have reordered : state.closeActive policy .expired =
      ((state.decrementActive policy.farmer).releaseOrgExposure policy.org
        policy.sumInsured).savePolicy { policy with status := .expired } := by
    rw [State.closeActive, State.decrementActive_savePolicy,
      State.releaseOrgExposure_savePolicy]
  rw [reordered]
  apply (bind_emits _ _ _ _ _ _).mpr ⟨(), _, _, _, released, ?_, rfl⟩
  apply Emits.quietly (.inside (modify_quiet _ _) _)
  apply Emits.quietly (.inside (modify_quiet _ _) _)
  exact (publish_emits _ _ _ _ _).mpr ⟨rfl, rfl⟩

/-- An authorized closing call goes through once the deactivation does. -/
theorem closing_emits
    (due : ClosesActive env state policyId policy call status) :
    (exec nft env call).Emits (state, outside) ()
      (state.closeActive policy status, after)
      (events ++ notice policyId skipped ++
        [closingEvent env policyId status]) := by
  cases due with
  | claimed signed oracle inTime =>
      exact markAsClaimed_emits stored active deactivation signed oracle
        inTime
  | cancelled signed admin =>
      exact cancelPolicy_emits stored active deactivation signed admin
  | expired ended =>
      exact expirePolicy_emits stored active deactivation ended

end Deactivated

/-- The closing call goes through as with a healthy certificate contract: the
same state of PolicyManager and, next to what the certificate contract
publishes, the same events but for the notice of a skipped update. -/
def ClosesAnyway (nft : Env → PolicyNftClient Ω) (env : Env) (state : State)
    (outside : Ω) (policyId : Nat) (call : Call) : Prop :=
  ∃ closed after events skipped own,
    Deactivation nft env policyId outside state.policyNft after events
        skipped ∧
      (exec nft env call).Emits (state, outside) () (closed, after)
        (events ++ notice policyId skipped ++ own) ∧
        ∀ healthy : Env → PolicyNftClient Ω,
          (∀ address, state.policyNft = some address →
            Healthy (healthy (env.invoke address)) env.currentContract
              policyId outside) →
            ∃ healthyAfter healthyEvents,
              Deactivation healthy env policyId outside state.policyNft
                  healthyAfter healthyEvents state.policyNft.isNone ∧
                (exec healthy env call).Emits (state, outside) ()
                  (closed, healthyAfter)
                  (healthyEvents ++
                    notice policyId state.policyNft.isNone ++ own)

theorem closesAnyway_of_letsClose
    (stored : state.policies policyId = some policy)
    (active : policy.status = .active)
    (due : ClosesActive env state policyId policy call status)
    (lets : LetsClose nft env state.policyNft policyId outside) :
    ClosesAnyway nft env state outside policyId call := by
  obtain ⟨after, events, skipped, deactivation⟩ :=
    deactivation_of_letsClose lets
  refine ⟨_, _, _, _, _, deactivation,
    closing_emits stored active deactivation due, ?_⟩
  intro healthy answers
  obtain ⟨healthyAfter, healthyEvents, healthyDeactivation⟩ :=
    deactivation_of_healthy answers
  exact ⟨_, _, healthyDeactivation,
    closing_emits stored active healthyDeactivation due⟩

/-- A closing call that went through was let through by the certificate
contract. -/
theorem letsClose_of_commits
    (stored : state.policies policyId = some policy)
    (active : policy.status = .active)
    (due : ClosesActive env state policyId policy call status)
    {after : State × Ω}
    (commits : (exec nft env call).Commits (state, outside) () after) :
    LetsClose nft env state.policyNft policyId outside := by
  cases due with
  | claimed signed oracle inTime =>
      obtain ⟨-, -, -, -, -, -, deactivates, -⟩ :=
        (markAsClaimed_commits _ _ _ _ _ _ _).mp commits
      exact letsClose_of_deactivates deactivates
  | cancelled signed admin =>
      obtain ⟨-, found, storedFound, ⟨-, -, deactivates, -⟩ |
        ⟨pending, -⟩⟩ := (cancelPolicy_commits _ _ _ _ _ _ _).mp commits
      · exact letsClose_of_deactivates deactivates
      · rw [stored] at storedFound
        cases storedFound
        rw [active] at pending
        cases pending
  | expired ended =>
      obtain ⟨found, storedFound, ⟨already, -⟩ | ⟨-, -, deactivates, -⟩ |
        ⟨pending, -⟩⟩ := (expirePolicy_commits _ _ _ _ _ _).mp commits
      · rw [stored] at storedFound
        cases storedFound
        rw [active] at already
        cases already
      · exact letsClose_of_deactivates deactivates
      · rw [stored] at storedFound
        cases storedFound
        rw [active] at pending
        cases pending

end Closing

/-- In every reachable state, a closing call that is due for an ACTIVE policy
goes through exactly if the existence query of the configured certificate
contract returns and the status update, if the query finds a certificate, does
not end in a fatal error. -/
theorem closingSurvives (admin : Address) (inputs : List (Input Ω))
    (nft : Env → PolicyNftClient Ω) (env : Env) (outside : Ω)
    {policyId : Nat} {policy : Policy} {call : Call} {status : PolicyStatus}
    (stored : (History.run apply (constructor admin) inputs).policies
      policyId = some policy)
    (active : policy.status = .active)
    (due : ClosesActive env (History.run apply (constructor admin) inputs)
      policyId policy call status) :
    ClosesAnyway nft env (History.run apply (constructor admin) inputs)
        outside policyId call ↔
      LetsClose nft env (History.run apply (constructor admin)
        inputs).policyNft policyId outside := by
  constructor
  · rintro ⟨closed, after, events, skipped, own, -, emits, -⟩
    exact letsClose_of_commits stored active due emits.commits
  · exact closesAnyway_of_letsClose stored active due

/-! ## A certificate contract that is gone -/

/-- A policy is sold and activated. -/
def soldAndActivated : List (Input Unit) :=
  (soldAndClaimed (seasonAddress 1) (seasonAddress 2)).take 5

/-- The state before the claim of the worked season. -/
def beforeClaim : State :=
  History.run apply (constructor (seasonAddress 1)) soldAndActivated

/-- The claim of the worked season. -/
def seasonInput : Input Unit :=
  signedByAll 10368200 (.markAsClaimed (seasonAddress 1) 1)

theorem beforeClaim_due :
    ∃ policy, beforeClaim.policies 1 = some policy ∧
      policy.status = .active ∧
        ClosesActive seasonInput.env beforeClaim 1 policy seasonInput.call
          .claimed := by
  obtain ⟨policy, stored⟩ : ∃ policy, beforeClaim.policies 1 = some policy :=
    Option.isSome_iff_exists.mp (by decide +kernel)
  have dates : (beforeClaim.policies 1).map (fun policy =>
      (policy.status, policy.endDate)) = some (.active, 10368200) := by
    decide +kernel
  rw [stored] at dates
  injection dates with dates
  injection dates with active endDate
  refine ⟨policy, stored, active, .claimed rfl (by decide +kernel) ?_⟩
  rw [endDate]
  decide

theorem closingSurvives_beforeClaim :
    ClosesAnyway (fun _ => acceptingNft) seasonInput.env beforeClaim () 1
      seasonInput.call := by
  obtain ⟨policy, stored, active, due⟩ := beforeClaim_due
  exact (closingSurvives (seasonAddress 1) soldAndActivated
    (fun _ => acceptingNft) seasonInput.env () stored active due).mpr
    fun _ _ => ⟨true, (), ⟨[], rfl⟩, fun _ => pure_avoids () ()⟩

/-- A claim that is due is refused when the certificate contract is gone. -/
theorem closing_blocked :
    (∃ policy, beforeClaim.policies 1 = some policy ∧
      policy.status = .active ∧
        ClosesActive seasonInput.env beforeClaim 1 policy seasonInput.call
          .claimed) ∧
      ¬ ClosesAnyway (fun _ => PolicyNftClient.missing) seasonInput.env
        beforeClaim () 1 seasonInput.call := by
  refine ⟨beforeClaim_due, ?_⟩
  rintro ⟨closed, after, events, skipped, own, -, emits, -⟩
  obtain ⟨policy, stored, active, due⟩ := beforeClaim_due
  have wired : beforeClaim.policyNft = some (.contract (.repeat 32 9)) := by
    decide +kernel
  obtain ⟨minted, middle, queried, -⟩ :=
    letsClose_of_commits stored active due emits.commits _ wired
  exact fail_commits _ _ _ _ queried

end PolicyManager

end Microcrop
