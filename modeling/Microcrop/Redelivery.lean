import Microcrop.ClosingOrder
import Microcrop.ExposureDrain
import Microcrop.RepeatedDelivery

/-!
# Redelivery to the whole system

The relayer, the backend, the keepers and the funder all deliver at least
once.  An activation, anything that ends a policy, a record and a mark may be
delivered again at any later moment: the repetition changes no contract and
publishes nothing, so that repetitions can be struck out of every run.
-/

namespace Microcrop

open Transaction

namespace World

variable {Ω κ : Type}

/-- The policy that a call activates, if it is accepted. -/
def Call.activates : World.Call κ → Option Nat
  | .policyManager (.activatePolicy _ policyId _ _ _) => some policyId
  | _ => none

/-- The policy that a call ends, if it is accepted: by a claim, a
cancellation, an expiry or a payout. -/
def Call.ends : World.Call κ → Option Nat
  | .policyManager call => call.closes
  | .receiver _ (.submitDetermination _ d _ _) => some d.onChainPolicyId.val
  | .receiver _ (.submitDroughtDetermination _ d _ _) =>
      some d.onChainPolicyId.val
  | _ => none

/-- The second call delivers the first one again.  Only the policy matters for
an activation and for the end of a policy, by whoever and however; an adapter
is handed the same record, or the same mark. -/
inductive Call.Repeats : World.Call κ → World.Call κ → Prop
  | activation {first second : World.Call κ} {policyId : Nat}
      (activates : first.activates = some policyId)
      (again : second.activates = some policyId) : Repeats first second
  | ending {first second : World.Call κ} {policyId : Nat}
      (ends : first.ends = some policyId)
      (again : second.ends = some policyId ∨
        second.activates = some policyId) : Repeats first second
  | delivery {first second : SettlementAdapter.Call} (address : Address)
      (repeats : first.Repeats second) :
      Repeats (.adapter address first) (.adapter address second)

/-- The system shows that the call was accepted before. -/
structure Answers (world : World Ω) (call : World.Call κ) : Prop where
  activated : ∀ policyId, call.activates = some policyId →
    ∃ policy, world.policyManager.policies policyId = some policy ∧
      policy.status ≠ .pending
  ended : ∀ policyId, call.ends = some policyId →
    Deployment.Closed policyId world
  delivered : ∀ address inner, call = .adapter address inner →
    ∃ ledger, world.adapters address = some ledger ∧ ledger.Answers inner

end World

namespace PolicyManager

section Effects

variable {Ω : Type} {nft : Env → PolicyNftClient Ω} {env : Env} {call : Call}
  {before after : State × Ω}

/-- A policy that is not PENDING never is again. -/
theorem started_effect (effect : Effect nft env before call after)
    (accounted : before.1.Accounted) {policyId : Nat} {policy : Policy}
    (stored : before.1.policies policyId = some policy)
    (started : policy.status ≠ .pending) :
    ∃ later, after.1.policies policyId = some later ∧
      later.status ≠ .pending := by
  have written : ∀ (key : Nat) (changed : Policy),
      changed.status ≠ .pending →
      ∃ later, Function.update before.1.policies key (some changed)
          policyId = some later ∧ later.status ≠ .pending := by
    intro key changed moved
    by_cases here : policyId = key
    · rw [here, Function.update_self]
      exact ⟨_, rfl, moved⟩
    · rw [Function.update_of_ne here]
      exact ⟨policy, stored, started⟩
  cases effect with
  | administered | claimCounted | alreadyExpired =>
      exact ⟨policy, stored, started⟩
  | sold =>
      have known := accounted.keyed policyId policy stored
      refine ⟨policy, ?_, started⟩
      rw [State.addPolicy_policies]
      refine (Function.update_of_ne ?_ ..).trans stored
      change policyId ≠ before.1.getTotalPolicies + 1
      omega
  | activated =>
      rw [State.activate_policies]
      exact written _ _ (by simp)
  | closedActive storedOld active cause =>
      rw [State.closeActive_policies]
      refine written _ _ ?_
      exact cause.not_pending
  | closedPending storedOld pending cause =>
      rw [State.closePending_policies]
      refine written _ _ ?_
      exact cause.not_pending

/-- An accepted activation leaves the policy ACTIVE. -/
theorem activated_effect {caller : Address} {policyId : Nat}
    {distributor : Address} {distributorName region : String}
    (effect : Effect nft env before
      (.activatePolicy caller policyId distributor distributorName region)
      after)
    (accounted : before.1.Accounted) :
    (∃ policy, before.1.policies policyId = some policy ∧
        policy.status = .pending) ∧
      ∃ policy, after.1.policies policyId = some policy ∧
        policy.status ≠ .pending := by
  cases effect with
  | administered signed admin administers => cases administers
  | @activated _ _ _ _ _ _ policy _ _ signed backend wired stored pending =>
      have keyed := (accounted.keyed policyId policy stored).1
      refine ⟨⟨policy, stored, pending⟩, ?_⟩
      rw [State.activate_policies]
      subst keyed
      exact ⟨_, Function.update_self .., by simp⟩
  | closedActive stored active cause => cases cause
  | closedPending stored pending cause => cases cause

/-- An accepted closing call finds the policy open, or it is a repeated expiry;
it leaves the policy closed. -/
theorem closing_effect (effect : Effect nft env before call after)
    (accounted : before.1.Accounted) {policyId : Nat}
    (closes : call.closes = some policyId) :
    (∃ policy, before.1.policies policyId = some policy ∧
      (policy.IsOpen ∨
        policy.status = .expired ∧ call = .expirePolicy policyId)) ∧
    ∃ policy, after.1.policies policyId = some policy ∧
      ¬ policy.IsOpen := by
  have closed : ∀ {policy : Policy} {status : PolicyStatus},
      before.1.policies policyId = some policy → status ≠ .pending →
      status ≠ .active →
        ∃ later, Function.update before.1.policies policy.id
            (some { policy with status }) policyId = some later ∧
          ¬ later.IsOpen := by
    intro policy status stored notPending notActive
    rw [(accounted.keyed policyId policy stored).1, Function.update_self]
    exact ⟨_, rfl, fun isOpen => isOpen.elim notPending notActive⟩
  cases effect with
  | administered signed admin administers =>
      cases call <;> cases administers <;> cases closes
  | sold | activated | claimCounted => cases closes
  | @closedActive _ key policy status _ stored active cause =>
      have same : key = policyId := by
        cases cause <;> exact Option.some.inj closes
      subst same
      rw [State.closeActive_policies]
      exact ⟨⟨policy, stored, Or.inl (Or.inr active)⟩,
        closed stored cause.not_pending cause.not_active⟩
  | @closedPending _ key policy status stored pending cause =>
      have same : key = policyId := by
        cases cause <;> exact Option.some.inj closes
      subst same
      rw [State.closePending_policies]
      exact ⟨⟨policy, stored, Or.inl (Or.inl pending)⟩,
        closed stored cause.not_pending cause.not_active⟩
  | alreadyExpired stored expired =>
      cases closes
      exact ⟨⟨_, stored, Or.inr ⟨expired, rfl⟩⟩, _, stored,
        by simp [Policy.IsOpen, expired]⟩

/-- A policy that is EXPIRED already is left alone. -/
theorem expirePolicy_observes {policyId : Nat} {policy : Policy}
    (stored : before.1.policies policyId = some policy)
    (expired : policy.status = .expired) :
    (expirePolicy nft env policyId).Observes before fun _ => True := by
  have loads : (loadPolicy policyId).Observes before.1
      fun loaded => before.1.policies policyId = some loaded := by
    refine (read_observes _).bind ?_
    rintro found rfl
    exact unwrapOr_observes _ _
  have loadsHere : (internal (loadPolicy policyId)).Observes before
      fun loaded => before.1.policies policyId = some loaded :=
    loads.zoom rfl rfl
  refine loadsHere.bind fun loaded found => ?_
  rw [stored] at found
  cases found
  rw [if_pos expired]
  exact pure_observes trivial

end Effects

end PolicyManager

namespace SettlementAdapter

theorem effect_of_recorded {env : Env} {caller : Address} {policyId : Nat}
    {org : Address} {amount : Int} {determinationDigest : BytesN 32}
    {before after : State} {obligation : Obligation}
    (recorded : (recordObligation env caller policyId org amount
      determinationDigest).Commits before obligation after) :
    Effect env before
      (.recordObligation caller policyId org amount determinationDigest)
      after :=
  exec_effect env _ (recorded.bind (pure_returns () after))

/-- A repeated call that the ledger answers changes and publishes nothing. -/
theorem State.Tolerates.exec_observes {ledger : State} {first second : Call}
    (harmless : ledger.Tolerates first) (repeats : first.Repeats second)
    (env : Env) : (exec env second).Observes ledger fun _ => True := by
  cases repeats with
  | record =>
      have observed := harmless env
      exact observed.bind fun _ _ => pure_observes trivial
  | mark mark first second =>
      cases mark with
      | funding | settlement =>
          have observed := harmless env second
          exact observed.bind fun _ _ => pure_observes trivial

end SettlementAdapter

section Reach

variable {Ω α : Type} {property : α → Prop}

theorem onNeighbors_observes {program : Contract (Neighbors Ω) α}
    {world : World Ω} (observes : program.Observes world.toNeighbors property) :
    (onNeighbors program).Observes world property :=
  observes.zoom rfl rfl

theorem onManager_observes
    {program : Contract (PolicyManager.State × Ω) α} {neighbors : Neighbors Ω}
    (observes : program.Observes (neighbors.policyManager, neighbors.nft)
      property) :
    (onManager program).Observes neighbors property :=
  observes.zoom rfl rfl

theorem onAdapter_observes {address : Address}
    {program : Contract SettlementAdapter.State α} {neighbors : Neighbors Ω}
    {ledger : SettlementAdapter.State}
    (observes : program.Observes ledger property)
    (found : neighbors.adapters address = some ledger) :
    (onAdapter address program).Observes neighbors property := by
  refine observes.zoom ((findContract_eq_ok _ _ _).mpr found) ?_
  rw [← found, Function.update_eq_self]

end Reach

namespace Deployment

variable {Ω κ : Type} {deployment : Deployment Ω κ} {world : World Ω}
  (sound : deployment.Sound world) {invocation : Invocation κ}

/-- A step leaves an adapter alone, or it has an effect on it. -/
theorem Step.adapter_cases {env : Env} {after : World Ω}
    {call : World.Call κ} (step : deployment.Step env world call after)
    {address : Address} {ledger : SettlementAdapter.State}
    (found : world.adapters address = some ledger) :
    ∃ changed, after.adapters address = some changed ∧
      (changed = ledger ∨ ∃ inner adapterCall,
        SettlementAdapter.Effect inner ledger adapterCall changed) := by
  have written : ∀ {adapter : Address} {earlier later : SettlementAdapter.State}
      {inner : Env} {adapterCall : SettlementAdapter.Call},
      world.adapters adapter = some earlier →
      SettlementAdapter.Effect inner earlier adapterCall later →
        ∃ changed, Function.update world.adapters adapter (some later)
            address = some changed ∧
          (changed = ledger ∨ ∃ inner adapterCall,
            SettlementAdapter.Effect inner ledger adapterCall changed) := by
    intro adapter earlier later inner adapterCall foundHere effect
    by_cases here : address = adapter
    · rw [← here, found] at foundHere
      cases foundHere
      rw [here, Function.update_self]
      exact ⟨later, rfl, Or.inr ⟨inner, adapterCall, effect⟩⟩
    · rw [Function.update_of_ne here]
      exact ⟨ledger, found, Or.inl rfl⟩
  cases step with
  | managed | administered | swapped | certified | markerExpired =>
      exact ⟨ledger, found, Or.inl rfl⟩
  | settled settlement =>
      have handover := settlement.handover
      exact written handover.found
        (SettlementAdapter.effect_of_recorded handover.recorded)
  | booked foundHere effect => exact written foundHere effect

/-! ## What an accepted invocation leaves behind -/

include sound

/-- An accepted call that ends a policy finds it open, or it is a repeated
expiry; it leaves the policy closed. -/
theorem Step.ending {env : Env} {after : World Ω} {call : World.Call κ}
    (step : deployment.Step env world call after) {policyId : Nat}
    (ends : call.ends = some policyId) :
    (∃ policy, world.policyManager.policies policyId = some policy ∧
      (policy.IsOpen ∨ policy.status = .expired ∧
        call = .policyManager (.expirePolicy policyId))) ∧
    Closed policyId after := by
  cases call with
  | policyManager call =>
      cases step with
      | managed here effect =>
          obtain ⟨⟨policy, stored, found⟩, closed⟩ :=
            PolicyManager.closing_effect effect sound.accounted ends
          refine ⟨⟨policy, stored, found.imp_right ?_⟩, closed⟩
          exact And.imp_right (congrArg World.Call.policyManager)
  | receiver address call =>
      have submitting : (World.Call.receiver address call : World.Call
          κ).submitsFor policyId = true := by
        cases call <;> cases ends <;> exact decide_eq_true rfl
      obtain ⟨adapter, obligation, rfl, records⟩ := step.submission submitting
      obtain ⟨wasActive, isClaimed⟩ := records.claims sound
      obtain ⟨policy, stored, active⟩ :=
        PolicyManager.State.statusOf_eq_some.mp wasActive
      obtain ⟨later, storedLater, claimed⟩ :=
        PolicyManager.State.statusOf_eq_some.mp isClaimed
      exact ⟨⟨policy, stored, Or.inl (Or.inr active)⟩, later, storedLater,
        by simp [Policy.IsOpen, claimed]⟩
  | adapter | nft | expireMarker => cases ends

theorem Step.activation {env : Env} {after : World Ω} {call : World.Call κ}
    (step : deployment.Step env world call after) {policyId : Nat}
    (activates : call.activates = some policyId) :
    (∃ policy, world.policyManager.policies policyId = some policy ∧
      policy.status = .pending) ∧
    ∃ policy, after.policyManager.policies policyId = some policy ∧
      policy.status ≠ .pending := by
  cases step with
  | @managed managerCall _ here effect =>
      cases managerCall with
      | activatePolicy =>
          cases activates
          exact PolicyManager.activated_effect effect sound.accounted
      | _ => cases activates
  | administered | swapped | settled | booked | certified | markerExpired =>
      cases activates

theorem answers_of_accepted
    (accepted : deployment.accepts world invocation = true) :
    (deployment.apply world invocation).Answers invocation.call := by
  obtain ⟨_, _, commits⟩ := (committed_iff _ _).mp accepted
  have reached : deployment.apply world invocation = _ := commits.advance_eq
  have step := deployment.exec_step invocation commits
  rw [reached]
  refine
    { activated := fun policyId activates =>
        (step.activation sound activates).2
      ended := fun policyId ends => (step.ending sound ends).2
      delivered := ?_ }
  intro address inner called
  unfold exec at commits
  rw [called] at commits
  obtain ⟨_, delivered, rfl⟩ := (onNeighbors_commits _ _ _ _).mp commits
  obtain ⟨ledger, changed, found, booked, rfl⟩ :=
    (onAdapter_commits _ _ _ _ _).mp delivered
  exact ⟨changed, Function.update_self ..,
    SettlementAdapter.answers_of_commits booked⟩

theorem answers_apply {call : World.Call κ} (answered : world.Answers call) :
    (deployment.apply world invocation).Answers call := by
  rcases deployment.apply_cases world invocation with ⟨-, same⟩ | ⟨-, step⟩
  · rw [same]
    exact answered
  · refine
      { activated := ?_
        ended := fun policyId ends =>
          closed_stays sound (answered.ended policyId ends) invocation
        delivered := ?_ }
    · intro policyId activates
      obtain ⟨policy, stored, started⟩ := answered.activated policyId activates
      exact (step.manager_preserved
        (fun state => state.Accounted ∧ ∃ policy,
          state.policies policyId = some policy ∧ policy.status ≠ .pending)
        (fun effect ⟨accounted, policy, stored, started⟩ =>
          ⟨PolicyManager.accounted_effect effect accounted,
            PolicyManager.started_effect effect accounted stored started⟩)
        ⟨sound.accounted, policy, stored, started⟩).2
    · intro address inner called
      obtain ⟨ledger, found, answers⟩ := answered.delivered address inner called
      obtain ⟨changed, foundAfter, rfl | ⟨_, _, effect⟩⟩ :=
        step.adapter_cases found
      · exact ⟨changed, foundAfter, answers⟩
      · exact ⟨changed, foundAfter, SettlementAdapter.answers_effect effect
          (sound.ledgers address ledger found) answers⟩

/-! ## Repetitions -/

/-- A repetition is refused, or it changes nothing and publishes nothing. -/
theorem exec_observes {call : World.Call κ} (answered : world.Answers call)
    (repeats : call.Repeats invocation.call) :
    (deployment.exec invocation).Observes world fun _ => True := by
  have refused : (∀ after, ¬ deployment.Step (deployment.env invocation) world
      invocation.call after) →
        (deployment.exec invocation).Observes world fun _ => True :=
    fun blocked => observes_of_not_commits fun _ after commits =>
      blocked after (deployment.exec_step invocation commits)
  generalize called : invocation.call = second at refused repeats
  cases repeats with
  | activation activates again =>
      apply refused
      intro after step
      obtain ⟨⟨policy, stored, pending⟩, -⟩ := step.activation sound again
      obtain ⟨other, storedOther, started⟩ := answered.activated _ activates
      rw [stored] at storedOther
      cases storedOther
      exact started pending
  | @ending _ _ policyId ends again =>
      obtain ⟨policy, stored, closed⟩ := answered.ended _ ends
      rcases again with ends | activates
      · by_cases expiry : policy.status = .expired ∧
            second = .policyManager (.expirePolicy policyId)
        · obtain ⟨expired, rfl⟩ := expiry
          unfold exec
          rw [called]
          exact onNeighbors_observes (onManager_observes
            (PolicyManager.expirePolicy_observes stored expired))
        · apply refused
          intro after step
          obtain ⟨⟨other, storedOther, found⟩, -⟩ := step.ending sound ends
          rw [stored] at storedOther
          cases storedOther
          exact found.elim closed expiry
      · apply refused
        intro after step
        obtain ⟨⟨other, storedOther, pending⟩, -⟩ :=
          step.activation sound activates
        rw [stored] at storedOther
        cases storedOther
        exact closed (Or.inl pending)
  | delivery address repeats =>
      obtain ⟨ledger, found, answers⟩ := answered.delivered address _ rfl
      have harmless := SettlementAdapter.tolerates_of_answers answers
      unfold exec
      rw [called]
      exact onNeighbors_observes (onAdapter_observes
        (harmless.exec_observes repeats (deployment.env invocation)) found)

omit sound

/-- Whatever was accepted in a run is harmless when it is delivered again at
its end, and a run without its repetitions ends in the same state. -/
structure DeliveredOnce (deployment : Deployment Ω κ)
    (invocations : List (Invocation κ)) : Prop where
  harmless : ∀ transition ∈ deployment.trace invocations,
    deployment.accepts transition.source transition.label = true →
      ∀ again : Invocation κ, transition.label.call.Repeats again.call →
        (deployment.exec again).Observes (deployment.run invocations)
          fun _ => True
  strikes : ∀ struck, History.Strikes deployment.apply
    (fun transition =>
      deployment.accepts transition.source transition.label)
    (fun first second => first.call.Repeats second.call) deployment.genesis []
      invocations struck →
    deployment.run struck = deployment.run invocations

variable (deployment : Deployment Ω κ) (invocations : List (Invocation κ))

/-- Every invocation that the past accepted is answered. -/
theorem answers_run :
    ∀ transition ∈ deployment.trace invocations,
      deployment.accepts transition.source transition.label = true →
        (deployment.run invocations).Answers transition.label.call := by
  have invariant := History.trace_invariant deployment.apply (fun _ => True)
    (fun past world => deployment.Sound world ∧
      ∀ transition ∈ past,
        deployment.accepts transition.source transition.label = true →
          world.Answers transition.label.call)
    ?_ invocations [] ⟨deployment.sound_genesis, by simp⟩
    (fun _ _ => trivial)
  · exact invariant.2
  · rintro past world invocation - ⟨sound, answered⟩
    refine ⟨deployment.sound_apply sound invocation, ?_⟩
    intro transition member accepted
    rcases List.mem_append.mp member with old | new
    · exact answers_apply sound (answered transition old accepted)
    · rw [List.mem_singleton.mp new] at accepted ⊢
      exact answers_of_accepted sound accepted

/-- Delivery at least once is safe for the whole system: a repetition of an
accepted activation, claim, cancellation, expiry, payout, record or mark is
refused or does nothing, whoever repeats it, however the policy ended and
whatever happened in between. -/
theorem redelivery : deployment.DeliveredOnce invocations := by
  have harmless : ∀ past, ∀ transition ∈ deployment.trace past,
      deployment.accepts transition.source transition.label = true →
        ∀ again : Invocation κ, transition.label.call.Repeats again.call →
          (deployment.exec again).Observes (deployment.run past)
            fun _ => True :=
    fun past transition member accepted again repeats =>
      exec_observes (deployment.sound_run past)
        (deployment.answers_run past transition member accepted) repeats
  refine ⟨harmless invocations, fun struck strikes => ?_⟩
  exact History.Strikes.run_eq deployment.apply
    (fun past again transition member accepted repeats =>
      (harmless past transition member accepted again repeats).advance_eq)
    strikes

end Deployment

end Microcrop
