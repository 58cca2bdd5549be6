import Microcrop.PolicyLifecycle
import Microcrop.SystemInvariant

/-!
# At most one settlement for each policy

Over any run of the system and over all its receivers and adapters, a policy
is settled at most once.  Behind it stands the paid flag: a PayoutReceiver
alone accepts one determination for each policy, whatever the contracts that
it calls answer.
-/

namespace Microcrop

open Transaction

namespace PayoutReceiver

/-- The call submits a determination, of either methodology, for the
policy. -/
def Call.submitsFor (policyId : Nat) : Call → Bool
  | .submitDetermination _ d _ _ => d.onChainPolicyId.val = policyId
  | .submitDroughtDetermination _ d _ _ => d.onChainPolicyId.val = policyId
  | _ => false

theorem Call.not_submitsFor_of_administers {call : Call}
    (administers : call.administers = true) (policyId : Nat) :
    call.submitsFor policyId = false := by
  cases call <;> first | rfl | cases administers

theorem Checked.submitsFor_iff {crypto : Crypto} {env : Env} {state : State}
    {policy : Policy} {call : Call} {report : DamageReport}
    {digest : BytesN 32}
    (checked : Checked crypto env state policy call report digest)
    (policyId : Nat) :
    call.submitsFor policyId = true ↔ report.policyId = policyId := by
  cases checked with
  | drought checks => exact decide_eq_true_iff
  | crop checks => exact decide_eq_true_iff

/-! ## One receiver against arbitrary contracts -/

/-- A call to a PayoutReceiver together with contracts that answer it in any
way, or the ledger dropping an expired marker. -/
inductive Input (Ω : Type)
  | invoke (env : Env) (pm : Env → PolicyManagerClient Ω)
      (adapters : Env → SettlementAdapterClient Ω) (outside : Ω)
      (call : Call)
  | expireMarker (preimageHash : BytesN 32)

section Alone

variable {Ω : Type} (crypto : Crypto)

/-- The state of the receiver after one input. -/
def apply (state : State) : Input Ω → State
  | .invoke env pm adapters outside call =>
      ((exec crypto pm adapters env call).advance (state, outside)).1
  | .expireMarker preimageHash => state.expireMarker preimageHash

/-- Whether the transition is an accepted submission for the policy. -/
def submits (policyId : Nat) (transition : Transition State (Input Ω)) :
    Bool :=
  match transition.label with
  | .invoke env pm adapters outside call =>
      call.submitsFor policyId &&
        (exec crypto pm adapters env call).committed
          (transition.source, outside)
  | .expireMarker _ => false

theorem isPolicyPaid_recordVerified (state : State) (report : DamageReport)
    (digest : BytesN 32) (policyId : Nat) :
    (state.recordVerified report digest).isPolicyPaid policyId =
      if policyId = report.policyId then true
      else state.isPolicyPaid policyId := by
  unfold State.isPolicyPaid
  rw [State.recordVerified_policyPaid, Function.update_apply]
  split <;> rfl

/-- A paid policy stays paid, and an accepted submission pays an unpaid
one. -/
theorem isPolicyPaid_effect {pm : Env → PolicyManagerClient Ω}
    {adapters : Env → SettlementAdapterClient Ω} {env : Env} {call : Call}
    {before after : State × Ω}
    (effect : Effect crypto pm adapters env before call after)
    (policyId : Nat) :
    (before.1.isPolicyPaid policyId = true →
        after.1.isPolicyPaid policyId = true) ∧
      (call.submitsFor policyId = true →
        before.1.isPolicyPaid policyId = false ∧
          after.1.isPolicyPaid policyId = true) := by
  cases effect with
  | administered signed admin administers =>
      refine ⟨fun paid => paid, fun submitting => ?_⟩
      rw [Call.not_submitsFor_of_administers administers] at submitting
      cases submitting
  | swapped => exact ⟨fun paid => paid, fun submitting => by cases submitting⟩
  | submitted checks interacts =>
      obtain ⟨_, _, _, _, submittable⟩ := checks.submittable
      rw [isPolicyPaid_recordVerified, checks.submitsFor_iff]
      refine ⟨fun paid => by simp [paid], ?_⟩
      rintro rfl
      exact ⟨submittable.unpaid, if_pos rfl⟩

theorem isPolicyPaid_apply (state : State) (input : Input Ω)
    (policyId : Nat) :
    (state.isPolicyPaid policyId = true →
        (apply crypto state input).isPolicyPaid policyId = true) ∧
      (submits crypto policyId ⟨state, input, apply crypto state input⟩ =
          true →
        state.isPolicyPaid policyId = false ∧
          (apply crypto state input).isPolicyPaid policyId = true) := by
  cases input with
  | invoke env pm adapters outside call =>
      rcases advance_cases (exec crypto pm adapters env call)
        (state, outside) with ⟨refused, same⟩ | ⟨-, _, commits⟩
      · have unchanged : apply crypto state (.invoke env pm adapters outside
            call) = state := congrArg Prod.fst same
        rw [unchanged]
        exact ⟨fun paid => paid, fun submitting => by
          simp [submits, refused] at submitting⟩
      · have effect := isPolicyPaid_effect crypto
          (exec_effect crypto pm adapters env call commits) policyId
        refine ⟨effect.1, fun submitting => effect.2 ?_⟩
        simp only [submits, Bool.and_eq_true] at submitting
        exact submitting.1
  | expireMarker preimageHash =>
      exact ⟨fun paid => paid, fun submitting => by cases submitting⟩

/-- Whatever its PolicyManager and its adapters answer, a PayoutReceiver
accepts at most one determination for each policy. -/
theorem submits_once (start : State) (inputs : List (Input Ω))
    (policyId : Nat) :
    (History.trace (apply crypto) start inputs).countP
      (submits crypto policyId) ≤ 1 :=
  (History.emits_once (apply crypto) (fun _ => True) (fun _ => True)
    (fun state => state.isPolicyPaid policyId = true)
    (submits crypto policyId) (fun _ _ _ _ => trivial)
    (fun state input _ _ => (isPolicyPaid_apply crypto state input
      policyId).1)
    (fun state input _ _ submitting => by
      obtain ⟨unpaid, paid⟩ :=
        (isPolicyPaid_apply crypto state input policyId).2 submitting
      exact ⟨ne_true_of_eq_false unpaid, paid⟩)
    inputs trivial (fun _ _ => trivial)).1

end Alone

end PayoutReceiver

/-! ## The whole system -/

namespace World

/-- The call submits a determination for the policy to some receiver. -/
def Call.submitsFor {κ : Type} (policyId : Nat) : World.Call κ → Bool
  | .receiver _ call => call.submitsFor policyId
  | _ => false

end World

namespace Deployment

variable {Ω κ : Type} (deployment : Deployment Ω κ)

/-- Whether the transition is an accepted submission for the policy. -/
def submits (policyId : Nat)
    (transition : Transition (World Ω) (Invocation κ)) : Bool :=
  transition.label.call.submitsFor policyId &&
    deployment.accepts transition.source transition.label

/-- Each adapter is bound to no address or to a receiver of the
deployment. -/
def BoundToReceivers (world : World Ω) : Prop :=
  ∀ address ledger receiver, world.adapters address = some ledger →
    ledger.payoutReceiver = some receiver → deployment.IsReceiver receiver

/-- The adapter stored the obligation at some moment of the run. -/
def EverHolds (invocations : List (Invocation κ)) (address : Address)
    (id : Nat) (obligation : Obligation) : Prop :=
  ∃ earlier later, invocations = earlier ++ later ∧
    (deployment.run earlier).Holds address id obligation

variable {deployment}

/-- An accepted submission for the policy takes it from ACTIVE to CLAIMED. -/
theorem Step.submission {env : Env} {before after : World Ω}
    {call : World.Call κ} (step : deployment.Step env before call after)
    {policyId : Nat}
    (submitting : call.submitsFor policyId = true) :
    ∃ adapter obligation, obligation.policyId = policyId ∧
      deployment.Records env before call after adapter obligation := by
  cases step with
  | managed => cases submitting
  | administered installed signed admin administers =>
      have other := PayoutReceiver.Call.not_submitsFor_of_administers
        administers policyId
      exact absurd submitting (ne_true_of_eq_false other)
  | swapped => cases submitting
  | settled settlement =>
      have same := (settlement.checked.submitsFor_iff policyId).mp submitting
      exact ⟨_, _, settlement.handover.policyId.trans same,
        .intro settlement⟩
  | booked => cases submitting
  | certified => cases submitting
  | markerExpired => cases submitting

theorem claimed_apply {world : World Ω} (sound : deployment.Sound world)
    (invocation : Invocation κ) {policyId : Nat}
    (claimed : world.policyManager.statusOf policyId = some .claimed) :
    (deployment.apply world invocation).policyManager.statusOf policyId =
      some .claimed := by
  rcases deployment.apply_cases world invocation with ⟨-, same⟩ | ⟨-, step⟩
  · rw [same]
    exact claimed
  · exact step.claimed_stays sound claimed

theorem submits_claims {world : World Ω} (sound : deployment.Sound world)
    (invocation : Invocation κ) {policyId : Nat}
    (submitting : deployment.submits policyId
      (History.taken deployment.apply world invocation) = true) :
    world.policyManager.statusOf policyId = some .active ∧
      (deployment.apply world invocation).policyManager.statusOf policyId =
        some .claimed := by
  simp only [submits, Bool.and_eq_true] at submitting
  rcases deployment.apply_cases world invocation with
    ⟨refused, -⟩ | ⟨-, step⟩
  · exact absurd submitting.2 (ne_true_of_eq_false refused)
  · obtain ⟨adapter, obligation, rfl, records⟩ :=
      step.submission submitting.1
    exact records.claims sound

/-- While adapters are bound to receivers only, nobody else's obligations
appear. -/
theorem allReceivers_apply {world : World Ω} (sound : deployment.Sound world)
    (invocation : Invocation κ) (bound : deployment.BoundToReceivers world)
    (receivers : ∀ address id obligation, world.Holds address id obligation →
      deployment.IsReceiver obligation.payoutReceiver) :
    ∀ address id obligation,
      (deployment.apply world invocation).Holds address id obligation →
        deployment.IsReceiver obligation.payoutReceiver := by
  intro address id later holds
  rcases deployment.apply_cases world invocation with ⟨-, same⟩ | ⟨-, step⟩
  · rw [same] at holds
    exact receivers address id later holds
  · rcases step.holds_origin sound holds with
      ⟨obligation, earlier, continues⟩ | ⟨-, recorded⟩ | ⟨-, ledger, found,
        boundTo⟩
    · rw [continues.payoutReceiver_eq]
      exact receivers address id obligation earlier
    · exact recorded.isReceiver sound
    · exact bound address ledger _ found boundTo

theorem allReceivers_run (invocations : List (Invocation κ))
    (bound : ∀ transition ∈ deployment.trace invocations,
      deployment.BoundToReceivers transition.source) :
    ∀ address id obligation,
      (deployment.run invocations).Holds address id obligation →
        deployment.IsReceiver obligation.payoutReceiver := by
  have invariant := History.run_invariant deployment.apply
    (fun transition => deployment.BoundToReceivers transition.source)
    (fun world => deployment.Sound world ∧
      ∀ address id obligation, world.Holds address id obligation →
        deployment.IsReceiver obligation.payoutReceiver)
    (fun world invocation bound invariant =>
      ⟨deployment.sound_apply invariant.1 invocation,
        allReceivers_apply invariant.1 invocation bound invariant.2⟩)
    invocations
    ⟨deployment.sound_genesis, by
      rintro address id obligation ⟨ledger, found, stored⟩
      obtain ⟨admin, -, rfl⟩ := Option.map_eq_some_iff.mp found
      cases stored⟩
    bound
  exact invariant.2

/-- What was recorded once is still there at the end, with the same identity
and for the same policy. -/
theorem holds_of_everHolds {invocations : List (Invocation κ)}
    {address : Address} {id : Nat} {obligation : Obligation}
    (ever : deployment.EverHolds invocations address id obligation) :
    ∃ later, (deployment.run invocations).Holds address id later ∧
      obligation.Continues later := by
  obtain ⟨earlier, rest, rfl, holds⟩ := ever
  have invariant := History.run_invariant deployment.apply (fun _ => True)
    (fun world => deployment.Sound world ∧
      ∃ later, world.Holds address id later ∧ obligation.Continues later)
    (fun world invocation _ ⟨sound, later, holdsLater, continues⟩ => by
      refine ⟨deployment.sound_apply sound invocation, ?_⟩
      rcases deployment.apply_cases world invocation with
        ⟨-, same⟩ | ⟨-, step⟩
      · rw [same]
        exact ⟨later, holdsLater, continues⟩
      · obtain ⟨final, holdsFinal, continuesFinal⟩ :=
          step.holds_continues sound holdsLater
        exact ⟨final, holdsFinal, continues.trans continuesFinal⟩)
    rest
    ⟨deployment.sound_run earlier, obligation, holds, .refl obligation⟩
    (fun _ _ => trivial)
  unfold run
  rw [History.run_append]
  exact invariant.2

/-- Over any run in which adapters are bound to receivers only, at most one
submission is accepted for each policy, and all adapters together record at
most one obligation for it.  One receiver alone accepts at most one
determination for each policy whatever its PolicyManager and adapters
answer. -/
theorem settlesAtMostOnce (deployment : Deployment Ω κ)
    (invocations : List (Invocation κ))
    (bound : ∀ transition ∈ deployment.trace invocations,
      deployment.BoundToReceivers transition.source) (policyId : Nat) :
    (deployment.trace invocations).countP (deployment.submits policyId) ≤ 1 ∧
      (∀ address id obligation other otherId otherObligation,
        deployment.EverHolds invocations address id obligation →
        deployment.EverHolds invocations other otherId otherObligation →
        obligation.policyId = policyId →
        otherObligation.policyId = policyId →
          address = other ∧ id = otherId) ∧
      ∀ {Ψ : Type} (crypto : Crypto) (start : PayoutReceiver.State)
        (inputs : List (PayoutReceiver.Input Ψ)),
        (History.trace (PayoutReceiver.apply crypto) start inputs).countP
          (PayoutReceiver.submits crypto policyId) ≤ 1 := by
  refine ⟨?_, ?_, ?_⟩
  · exact (History.emits_once deployment.apply (fun _ => True)
      deployment.Sound
      (fun world => world.policyManager.statusOf policyId = some .claimed)
      (deployment.submits policyId)
      (fun _ invocation _ sound => deployment.sound_apply sound invocation)
      (fun _ invocation _ sound claimed =>
        claimed_apply sound invocation claimed)
      (fun world invocation _ sound submitting => by
        obtain ⟨active, claimed⟩ := submits_claims sound invocation submitting
        exact ⟨by rw [active]; simp, claimed⟩)
      invocations deployment.sound_genesis (fun _ _ => trivial)).1
  · intro address id obligation other otherId otherObligation ever everOther
      samePolicy sameOther
    obtain ⟨later, holds, continues⟩ := holds_of_everHolds ever
    obtain ⟨otherLater, holdsOther, continuesOther⟩ :=
      holds_of_everHolds everOther
    have receivers := allReceivers_run invocations bound
    refine (deployment.sound_run invocations).unique address id later other
      otherId otherLater holds holdsOther (receivers _ _ _ holds)
      (receivers _ _ _ holdsOther) ?_
    rw [continues.policyId_eq, continuesOther.policyId_eq, samePolicy,
      sameOther]
  · intro Ψ crypto start inputs
    exact PayoutReceiver.submits_once crypto start inputs policyId

/-! ## Bindings by calls -/

/-- A call that binds an adapter binds it to a receiver. -/
def bindsReceivers (deployment : Deployment Ω κ) : World.Call κ → Bool
  | .adapter _ (.setPayoutReceiver _ receiver) =>
      (deployment.receivers receiver).isSome
  | _ => true

theorem Step.boundToReceivers {env : Env} {before after : World Ω}
    {call : World.Call κ} (step : deployment.Step env before call after)
    (binds : deployment.bindsReceivers call = true)
    (bound : deployment.BoundToReceivers before) :
    deployment.BoundToReceivers after := by
  have updated : ∀ {adapter : Address} {changed : SettlementAdapter.State},
      (∀ receiver, changed.payoutReceiver = some receiver →
        deployment.IsReceiver receiver) →
      ∀ address ledger receiver,
        Function.update before.adapters adapter (some changed) address =
          some ledger → ledger.payoutReceiver = some receiver →
            deployment.IsReceiver receiver := by
    intro adapter changed isReceiver address ledger receiver found boundTo
    by_cases here : address = adapter
    · rw [here, Function.update_self] at found
      cases found
      exact isReceiver receiver boundTo
    · rw [Function.update_of_ne here] at found
      exact bound address ledger receiver found boundTo
  cases step with
  | managed => exact bound
  | administered => exact bound
  | swapped => exact bound
  | settled settlement =>
      refine updated ?_
      have kept := fun receiver =>
        bound _ _ receiver settlement.handover.found
      obtain ⟨-, -, -, ⟨_, -, -, -, -, -, rfl⟩ | ⟨-, _, -, -, -, -, rfl⟩⟩ :=
        (SettlementAdapter.recordObligation_commits _ _ _ _ _ _ _ _ _).mp
          settlement.handover.recorded
      · exact kept
      · exact kept
  | booked found effect =>
      refine updated ?_
      have kept := fun receiver => bound _ _ receiver found
      cases effect with
      | bound signed admin other =>
          intro receiver same
          cases same
          exact binds
      | granted => exact kept
      | revoked => exact kept
      | recorded => exact kept
      | funded => exact kept
      | settled => exact kept
      | repeated => exact kept
  | certified => exact bound
  | markerExpired => exact bound

/-- Adapters stay bound to receivers along every run whose calls bind them to
receivers only. -/
theorem boundToReceivers_trace (invocations : List (Invocation κ))
    (binds : ∀ invocation ∈ invocations,
      deployment.bindsReceivers invocation.call = true) :
    ∀ transition ∈ deployment.trace invocations,
      deployment.BoundToReceivers transition.source := by
  refine History.transitions deployment.apply
    (fun transition =>
      deployment.bindsReceivers transition.label.call = true)
    deployment.BoundToReceivers
    (fun transition => deployment.BoundToReceivers transition.source)
    ?_ invocations ?_ ?_
  · intro world invocation allowed bound
    refine ⟨?_, bound⟩
    rcases deployment.apply_cases world invocation with
      ⟨-, same⟩ | ⟨-, step⟩
    · rw [same]
      exact bound
    · exact step.boundToReceivers allowed bound
  · intro address ledger receiver found boundTo
    obtain ⟨admin, -, rfl⟩ := Option.map_eq_some_iff.mp found
    cases boundTo
  · intro transition member
    exact binds _ (History.label_mem_of_mem_trace _ member)

end Deployment

/-! ## A worked season -/

open PolicyManager (seasonAddress)

/-- A contract that takes part in a worked season. -/
def seasonContract (byte : UInt8) : Address :=
  .contract (.repeat 32 byte)

/-- A deployment with one receiver and one adapter. -/
def seasonDeployment : Deployment PolicyNft.State PolicyNft.Call where
  policyManager := seasonContract 1
  admin := seasonAddress 1
  receivers address :=
    if address = testnetReceiver then
      some (seasonContract 2, seasonAddress 1)
    else none
  adapters address :=
    if address = seasonContract 2 then some (seasonAddress 1) else none
  certificates := PolicyNft.certificates (seasonContract 3) (seasonAddress 1)
  crypto := v1Crypto

/-- A call that one account signed. -/
def signedBy (signer : Address) (timestamp : U64)
    (call : World.Call PolicyNft.Call) : Invocation PolicyNft.Call where
  timestamp := timestamp
  signers address := address = signer
  call := call

/-- The contracts are wired and the roles granted. -/
def seasonSetup : List (Invocation PolicyNft.Call) :=
  [.policyManager (.grantRole (seasonAddress 1) .backend (seasonAddress 2)),
    .policyManager (.grantRole (seasonAddress 1) .oracle testnetReceiver),
    .policyManager (.setPolicyNft (seasonAddress 1) (seasonContract 3)),
    .nft (.grantRole (seasonAddress 1) .minter (seasonContract 1)),
    .nft (.setPolicyManager (seasonAddress 1) (seasonContract 1)),
    .adapter (seasonContract 2)
      (.setPayoutReceiver (seasonAddress 1) testnetReceiver),
    .receiver testnetReceiver
      (.setAuthorizedSigner (seasonAddress 1) v1Signer),
    .receiver testnetReceiver
      (.setNetworkDomain (seasonAddress 1) testnetDomain),
    .receiver testnetReceiver
      (.grantRole (seasonAddress 1) .relayer (seasonAddress 3)),
    .receiver testnetReceiver
      (.setMethodologyEnabled (seasonAddress 1) .cropDroughtRdi10 true)].map
    (signedBy (seasonAddress 1) 1743400000)

/-- A policy is sold and activated on the day the season starts. -/
def seasonCover : List (Invocation PolicyNft.Call) :=
  [.policyManager (.createPolicy (seasonAddress 2) (seasonAddress 4) 7
      (-1286389) 36817223 10000000000 1000000 120 .drought
      (seasonAddress 5)),
    .policyManager (.activatePolicy (seasonAddress 2) 1 (seasonAddress 5)
      "" "")].map
    (signedBy (seasonAddress 2) 1743465600)

/-- The relayer submits the vector. -/
def seasonClaim : Invocation PolicyNft.Call :=
  signedBy (seasonAddress 3) 1753574460
    (.receiver testnetReceiver (.submitDroughtDetermination (seasonAddress 3)
      v1 v1Signature 1))

def season : List (Invocation PolicyNft.Call) :=
  seasonSetup ++ seasonCover ++ [seasonClaim]

namespace Deployment

theorem settlesAtMostOnce_season :
    (seasonDeployment.trace season).countP (seasonDeployment.submits 1) = 1 ∧
      (seasonDeployment.trace season).countP (seasonDeployment.submits 1) ≤
        1 :=
  ⟨by decide +kernel, (settlesAtMostOnce seasonDeployment season
    (boundToReceivers_trace season (by decide +kernel)) 1).1⟩

end Deployment

end Microcrop
