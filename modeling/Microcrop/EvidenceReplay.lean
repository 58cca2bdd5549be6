import Microcrop.Authority
import Microcrop.EvidenceLane
import Microcrop.ObligationOrigin

/-!
# The evidence lane follows production

To a PayoutReceiver the fixture is an abstraction of PolicyManager: whatever
PolicyManager lets a receiver do, a fixture with the same policies lets it do.
Every run of a deployment can therefore be repeated on a lane in which the
fixture's administrator injects the policies that PolicyManager stores.
-/

namespace Microcrop

open Transaction
open PolicyManager (seasonAddress)

namespace PayoutReceiver

section Siblings

variable {Ω Ψ : Type} {crypto : Crypto} {env : Env}
  {pm : Env → PolicyManagerClient Ω}
  {adapters : Env → SettlementAdapterClient Ω}

/-- The administrator's calls do not depend on the siblings. -/
theorem exec_beside (other : Env → PolicyManagerClient Ψ)
    (otherAdapters : Env → SettlementAdapterClient Ψ) {call : Call}
    (administers : call.administers = true) {before after : State × Ω}
    (commits : (exec crypto pm adapters env call).Commits before () after)
    (outside : Ψ) :
    after.2 = before.2 ∧
      (exec crypto other otherAdapters env call).Commits (before.1, outside)
        () (after.1, outside) := by
  cases call with
  | setSettlementAdapter | submitDetermination
  | submitDroughtDetermination => cases administers
  | _ =>
      simp only [exec, internal_commits] at commits ⊢
      obtain ⟨changed, executed, rfl⟩ := commits
      exact ⟨rfl, changed, executed, rfl⟩

/-- A submission whose checks pass and whose interactions succeed is
accepted. -/
theorem Checked.commits {state : State} {policy : Policy} {call : Call}
    {report : DamageReport} {digest : BytesN 32}
    {policyManager adapter : Address} {before queried fetched checked : Ω}
    {obligation : Obligation} {recorded claimed after : Ω}
    (checks : Checked crypto env state policy call report digest)
    (interacts : Interacts pm adapters env state policy report digest
      policyManager adapter before queried fetched checked obligation recorded
      claimed after) :
    (exec crypto pm adapters env call).Commits (state, before) ()
      (state.recordVerified report digest, after) := by
  cases checks with
  | drought checks =>
      exact (submitDroughtDetermination_commits ..).mpr
        ⟨policy, _, policyManager, adapter, queried, fetched, checked,
          obligation, recorded, claimed, checks, interacts, rfl⟩
  | crop checks =>
      exact (submitDetermination_commits ..).mpr
        ⟨policy, _, policyManager, adapter, queried, fetched, checked,
          obligation, recorded, claimed, checks, interacts, rfl⟩

end Siblings

end PayoutReceiver

namespace PolicyManager

/-- A call writes at most one policy, under its id. -/
theorem Effect.policies_cases {Ω : Type} {nft : Env → PolicyNftClient Ω}
    {env : Env} {call : Call} {before after : State × Ω}
    (effect : Effect nft env before call after) :
    after.1.policies = before.1.policies ∨
      ∃ policy, after.1.policies =
        Function.update before.1.policies policy.id (some policy) := by
  cases effect with
  | administered | claimCounted | alreadyExpired => exact Or.inl rfl
  | sold => exact Or.inr ⟨_, State.addPolicy_policies ..⟩
  | activated => exact Or.inr ⟨_, State.activate_policies ..⟩
  | @closedActive _ _ policy status =>
      exact Or.inr ⟨{ policy with status },
        State.closeActive_policies ..⟩
  | @closedPending _ _ policy status =>
      exact Or.inr ⟨{ policy with status },
        State.closePending_policies ..⟩

/-- Only a grant makes an Oracle. -/
theorem Call.oracle_of_rolesAfter {call : Call} {roles : Roles}
    {who : Address}
    (other : ∀ caller role who, call ≠ .grantRole caller role who)
    (oracle : call.rolesAfter roles .oracle who = true) :
    roles .oracle who = true := by
  cases call with
  | grantRole => exact absurd rfl (other _ _ _)
  | revokeRole => exact ((Roles.revoke_apply ..).mp oracle).2
  | _ => exact oracle

end PolicyManager

namespace EvidenceLane

/-- The lane has the contracts of the deployment, with the fixture in
PolicyManager's place, and an account administers the fixture. -/
structure Replaces {Ω κ : Type} (lane : EvidenceLane)
    (deployment : Deployment Ω κ) : Prop where
  fixture : lane.fixture = deployment.policyManager
  receivers : lane.receivers = deployment.receivers
  adapters : lane.adapters = deployment.adapters
  crypto : lane.crypto = deployment.crypto
  account : deployment.isContract lane.fixtureAdmin = false

/-- What the fixture stores while it stands for PolicyManager, after at most
`counted` claims. -/
structure StandsFor (lane : EvidenceLane) (counted : Nat)
    (manager : PolicyManager.State) (fixture : TestnetPolicyFixture.State) :
    Prop where
  policies : fixture.policies = manager.policies
  oracles : ∀ who, manager.roles .oracle who = true →
    fixture.roles .oracle who = true
  admin : fixture.roles .admin lane.fixtureAdmin = true
  counts : ∀ farmer, fixture.claimCount farmer ≤ counted

/-- The lane has followed the deployment so far. -/
structure Follows {Ω : Type} (lane : EvidenceLane) (counted : Nat)
    (world : Microcrop.World Ω) (other : World) : Prop where
  standsFor : lane.StandsFor counted world.policyManager other.fixture
  adapters : other.adapters = world.adapters
  receivers : other.receivers = world.receivers

/-- A call of the fixture that its administrator signed. -/
def administration (lane : EvidenceLane) (timestamp : U64)
    (call : TestnetPolicyFixture.Call) : Invocation where
  timestamp := timestamp
  signers address := address = lane.fixtureAdmin
  call := .fixture call

/-- The invocations of the lane that an invocation of the deployment causes:
the same call of a receiver or an adapter, and after a call of PolicyManager
the administrator's injection of a policy or the grant of the same role. -/
inductive Replays {κ : Type} (admin : Address) :
    Microcrop.Invocation κ → Invocation → Prop
  | received {timestamp : U64} {signers : Address → Bool}
      {address : Address} {call : PayoutReceiver.Call} :
      Replays admin ⟨timestamp, signers, .receiver address call⟩
        ⟨timestamp, signers, .receiver address call⟩
  | booked {timestamp : U64} {signers : Address → Bool} {address : Address}
      {call : SettlementAdapter.Call} :
      Replays admin ⟨timestamp, signers, .adapter address call⟩
        ⟨timestamp, signers, .adapter address call⟩
  | markerExpired {timestamp : U64} {signers : Address → Bool}
      {address : Address} {preimageHash : BytesN 32} :
      Replays admin ⟨timestamp, signers, .expireMarker address preimageHash⟩
        ⟨timestamp, signers, .expireMarker address preimageHash⟩
  | injected {timestamp : U64} {signers : Address → Bool}
      {call : PolicyManager.Call} {policy : Policy} :
      Replays admin ⟨timestamp, signers, .policyManager call⟩
        ⟨timestamp, fun address => address = admin,
          .fixture (.setPolicy admin policy)⟩
  | granted {timestamp : U64} {signers : Address → Bool} {caller : Address}
      {role : Role} {who : Address} :
      Replays admin
        ⟨timestamp, signers, .policyManager (.grantRole caller role who)⟩
        ⟨timestamp, fun address => address = admin,
          .fixture (.grantRole admin role who)⟩

section Answers

variable {Ω κ : Type}

/-- The invocation of the lane that makes the same call of a receiver or an
adapter, where the deployment accepted one. -/
def counterpart (deployment : Deployment Ω κ)
    (transition :
      Transition (Microcrop.World Ω) (Microcrop.Invocation κ)) :
    Option Invocation :=
  let invocation := transition.label
  if deployment.accepts transition.source invocation then
    match invocation.call with
    | .receiver address call =>
        some ⟨invocation.timestamp, invocation.signers,
          .receiver address call⟩
    | .adapter address call =>
        some ⟨invocation.timestamp, invocation.signers,
          .adapter address call⟩
    | .expireMarker address preimageHash =>
        some ⟨invocation.timestamp, invocation.signers,
          .expireMarker address preimageHash⟩
    | .policyManager _ | .nft _ => none
  else none

/-- The lane answers a transition of the deployment: its inputs are caused by
the call and accepted, and they repeat what a receiver or an adapter
accepted. -/
structure Answers (lane : EvidenceLane) (deployment : Deployment Ω κ)
    (transition :
      Transition (Microcrop.World Ω) (Microcrop.Invocation κ))
    (group : List (Transition World Invocation)) : Prop where
  caused : ∀ input ∈ group,
    Replays lane.fixtureAdmin transition.label input.label
  accepted : ∀ input ∈ group, lane.accepts input.source input.label = true
  repeated : (group.map Transition.label).filter Invocation.isShared =
    (counterpart deployment transition).toList

/-- From `other`, the lane answers the transition and follows it. -/
def Matches (lane : EvidenceLane) (deployment : Deployment Ω κ)
    (counted : Nat) (other : World)
    (transition :
      Transition (Microcrop.World Ω) (Microcrop.Invocation κ)) : Prop :=
  ∃ inputs, lane.Answers deployment transition
      (History.trace lane.apply other inputs) ∧
    lane.Follows counted transition.target
      (History.run lane.apply other inputs)

variable {lane : EvidenceLane} {deployment : Deployment Ω κ}
  {counted : Nat} {other after : World}
  {transition : Transition (Microcrop.World Ω) (Microcrop.Invocation κ)}

/-- What no receiver and no adapter does may need no answer. -/
theorem matches_nil (silent : counterpart deployment transition = none)
    (follows : lane.Follows counted transition.target other) :
    lane.Matches deployment counted other transition := by
  refine ⟨[], ⟨?_, ?_, ?_⟩, follows⟩
  · intro input member
    cases member
  · intro input member
    cases member
  · rw [silent]
    rfl

/-- One accepted input answers a transition. -/
theorem matches_singleton {input : Invocation}
    (commits : (lane.exec input).Commits other () after)
    (caused : Replays lane.fixtureAdmin transition.label input)
    (repeated : [input].filter Invocation.isShared =
      (counterpart deployment transition).toList)
    (follows : lane.Follows counted transition.target after) :
    lane.Matches deployment counted other transition := by
  refine ⟨[input], ⟨?_, ?_, repeated⟩, ?_⟩
  · intro found member
    rw [List.mem_singleton.mp member]
    exact caused
  · intro found member
    rw [List.mem_singleton.mp member]
    exact (committed_iff ..).mpr ⟨(), after, commits⟩
  · rw [History.run_cons, History.run_nil, apply, commits.advance_eq]
    exact follows

end Answers

section Steps

variable {Ω κ : Type} {lane : EvidenceLane} {deployment : Deployment Ω κ}
  (replaces : lane.Replaces deployment)

section Fixture

variable {counted : Nat} {manager : PolicyManager.State}
  {fixture : TestnetPolicyFixture.State}
  (standsFor : lane.StandsFor counted manager fixture)

include standsFor

theorem StandsFor.weaken {more : Nat} (le : counted ≤ more) :
    lane.StandsFor more manager fixture :=
  { standsFor with counts := fun farmer => (standsFor.counts farmer).trans le }

/-- An injection lets the fixture stand for a PolicyManager that wrote a
policy and granted no Oracle. -/
theorem StandsFor.inject {after : PolicyManager.State} {policy : Policy}
    (written : after.policies =
      Function.update manager.policies policy.id (some policy))
    (oracles : ∀ who, after.roles .oracle who = true →
      manager.roles .oracle who = true) :
    lane.StandsFor counted after (fixture.savePolicy policy.id policy) where
  policies := by
    rw [written, ← standsFor.policies]
    rfl
  oracles who oracle := standsFor.oracles who (oracles who oracle)
  admin := standsFor.admin
  counts := standsFor.counts

/-- The fixture answers a receiver's settlement like PolicyManager. -/
theorem StandsFor.settle {policy : Policy} {policyId : Nat} {now : Nat}
    (keyed : policy.id = policyId) :
    lane.StandsFor (counted + 1)
      (Deployment.claimedManager manager policy now)
      ((fixture.savePolicy policyId
        { policy with status := .claimed }).saveClaimCount policy.farmer
          (fixture.claimCount policy.farmer + 1)) where
  policies := by
    have written : (Deployment.claimedManager manager policy now).policies =
        Function.update manager.policies policy.id
          (some { policy with status := .claimed }) :=
      PolicyManager.State.closeActive_policies ..
    rw [written, ← standsFor.policies, keyed]
    rfl
  oracles who oracle := by
    have same : (Deployment.claimedManager manager policy now).roles =
        manager.roles :=
      PolicyManager.State.closeActive_roles ..
    rw [same] at oracle
    exact standsFor.oracles who oracle
  admin := standsFor.admin
  counts farmer := by
    rw [TestnetPolicyFixture.State.saveClaimCount_claimCount]
    have bounds := standsFor.counts
    split
    · exact Nat.succ_le_succ (bounds policy.farmer)
    · exact (bounds farmer).trans (Nat.le_succ counted)

end Fixture

include replaces

theorem Replaces.isContract_eq :
    lane.isContract = deployment.isContract := by
  funext address
  rw [isContract, Deployment.isContract, replaces.fixture,
    replaces.receivers, replaces.adapters]

theorem Replaces.env_eq {timestamp : U64} {signers : Address → Bool}
    {call : Call} {original : World.Call κ}
    (target : lane.target call = deployment.target original) :
    lane.env ⟨timestamp, signers, call⟩ =
      deployment.env ⟨timestamp, signers, original⟩ := by
  unfold env Deployment.env
  rw [replaces.isContract_eq]
  dsimp only
  rw [target]

section Administration

variable {other : World} {timestamp : U64}

/-- The administrator's call of the fixture is accepted on the lane. -/
theorem Replaces.administered {call : TestnetPolicyFixture.Call}
    {after : TestnetPolicyFixture.State}
    (commits : ∀ env : Env, env.authorized lane.fixtureAdmin = true →
      (TestnetPolicyFixture.exec env call).Commits other.fixture () after) :
    (lane.exec (lane.administration timestamp call)).Commits other ()
      { other with fixture := after } := by
  have signed : (lane.env (lane.administration timestamp call)).authorized
      lane.fixtureAdmin = true := by
    simp [env, administration, replaces.isContract_eq, replaces.account]
  exact (onNeighbors_commits ..).mpr ⟨_, (onFixture_commits ..).mpr
    ⟨after, commits _ signed, rfl⟩, rfl⟩

variable (admin : other.fixture.roles .admin lane.fixtureAdmin = true)

include admin

theorem Replaces.setPolicy_commits {policy : Policy} :
    (lane.exec (lane.administration timestamp
        (.setPolicy lane.fixtureAdmin policy))).Commits other ()
      { other with fixture := other.fixture.savePolicy policy.id policy } :=
  replaces.administered fun _ signed =>
    (TestnetPolicyFixture.setPolicy_commits ..).mpr ⟨signed, admin, rfl⟩

theorem Replaces.grantRole_commits {role : Role} {who : Address} :
    (lane.exec (lane.administration timestamp
        (.grantRole lane.fixtureAdmin role who))).Commits other ()
      { other with
        fixture :=
          { other.fixture with
            roles := other.fixture.roles.grant role who } } :=
  replaces.administered fun _ signed =>
    (TestnetPolicyFixture.grantRole_commits ..).mpr ⟨signed, admin, rfl⟩

end Administration

section Settled

variable {counted : Nat} {world : Microcrop.World Ω} {other : World}
  (follows : lane.Follows counted world other) {env : Env}
  {address adapter : Address} {call : PayoutReceiver.Call}
  {state : PayoutReceiver.State} {policy : Policy} {report : DamageReport}
  {digest : BytesN 32} {ledger ledgerAfter : SettlementAdapter.State}
  {obligation : Obligation} {nftAfter : Ω}
  (settlement : deployment.Settlement env world address call state policy
    report digest adapter ledger obligation ledgerAfter nftAfter)

include follows settlement

/-- Where PolicyManager let a submission pass, the fixture does. -/
theorem Replaces.interacts (fits : counted + 1 < 2 ^ 32) :
    ∃ queried fetched checked recorded claimed,
      PayoutReceiver.Interacts lane.managerClient adapterClient env state
        policy report digest deployment.policyManager adapter
        other.toNeighbors queried fetched checked obligation recorded claimed
        { fixture := (other.fixture.savePolicy report.policyId
            { policy with status := .claimed }).saveClaimCount policy.farmer
              (other.fixture.claimCount policy.farmer + 1)
          adapters := Function.update other.adapters adapter
            (some ledgerAfter) } := by
  have here : (env.invoke deployment.policyManager).currentContract =
      lane.fixture := replaces.fixture.symm
  have signed : (env.invoke deployment.policyManager).authorized
      env.currentContract = true := (env.invoke_authorized _ _).mpr rfl
  have stored : other.fixture.policies report.policyId = some policy := by
    rw [follows.standsFor.policies]
    exact settlement.handover.stored
  have oracle := follows.standsFor.oracles _ settlement.handover.oracle
  have bounds := follows.standsFor.counts policy.farmer
  let recorded : Neighbors :=
    { other.toNeighbors with
      adapters := Function.update other.adapters adapter
        (some ledgerAfter) }
  let claimed : Neighbors :=
    { recorded with
      fixture := other.fixture.savePolicy report.policyId
        { policy with status := .claimed } }
  refine ⟨other.toNeighbors, other.toNeighbors, other.toNeighbors, recorded,
    claimed, settlement.handover.bound, settlement.handover.managed, ?_, ?_⟩
  · exact
      { existing := policyExists_commits _ here stored
        fetches := getPolicy_commits _ here stored
        claimable := canFarmerClaim_commits _ here policy.farmer }
  · have found : other.adapters adapter = some ledger := by
      rw [follows.adapters]
      exact settlement.handover.found
    exact
      { records := (onAdapter_commits ..).mpr
          ⟨ledger, ledgerAfter, found, settlement.handover.recorded, rfl⟩
        receiver := settlement.handover.receiver
        policyId := settlement.handover.policyId
        org := settlement.handover.org
        amount := settlement.handover.amount
        digest := settlement.handover.digest
        owed := settlement.handover.owed
        marks := managerMarkAsClaimed_commits recorded here signed oracle
          stored
        counts := managerIncrementClaimCount_commits claimed here signed
          oracle (by
            change other.fixture.claimCount policy.farmer + 1 < 2 ^ 32
            omega) }

end Settled

section Followed

variable {counted : Nat} {world : Microcrop.World Ω} {other : World}
  (follows : lane.Follows counted world other)

include follows

/-- A call of a receiver that the deployment accepts is accepted on the lane
and leaves the receiver in the same state. -/
theorem Replaces.received (sound : deployment.Sound world)
    (fits : counted + 1 < 2 ^ 32) {env : Env} {address : Address}
    {call : PayoutReceiver.Call} {state : PayoutReceiver.State}
    {changed : PayoutReceiver.State × Microcrop.Neighbors Ω}
    (here : env.currentContract = address)
    (installed : world.receivers address = some state)
    (executed : (PayoutReceiver.exec deployment.crypto
      deployment.managerClient Deployment.adapterClient env call).Commits
        (state, world.toNeighbors) () changed) :
    ∃ outside : Neighbors,
      (PayoutReceiver.exec lane.crypto lane.managerClient adapterClient env
        call).Commits (state, other.toNeighbors) () (changed.1, outside) ∧
      lane.StandsFor (counted + 1) changed.2.policyManager
        outside.fixture ∧
      outside.adapters = changed.2.adapters := by
  rw [replaces.crypto]
  have same := follows.standsFor.weaken (Nat.le_succ counted)
  cases PayoutReceiver.exec_effect _ _ _ _ call executed with
  | administered signed admin administers =>
      obtain ⟨-, beside⟩ := PayoutReceiver.exec_beside lane.managerClient
        adapterClient administers executed other.toNeighbors
      exact ⟨other.toNeighbors, beside, same, follows.adapters⟩
  | @swapped caller adapter outside signed admin elsewhere bound =>
      obtain ⟨-, -, -, -, stored, -⟩ :=
        (PayoutReceiver.setSettlementAdapter_commits ..).mp executed
      obtain ⟨ledger, found, names, rfl⟩ :=
        (Deployment.payoutReceiver_commits ..).mp bound
      have foundToo : other.adapters adapter = some ledger := by
        rw [follows.adapters]
        exact found
      have answers : ((adapterClient (env.invoke adapter)).payoutReceiver
          ).Commits other.toNeighbors (some env.currentContract)
            other.toNeighbors := by
        rw [names]
        exact payoutReceiver_commits foundToo
      exact ⟨other.toNeighbors,
        (PayoutReceiver.setSettlementAdapter_commits ..).mpr
          ⟨signed, admin, elsewhere, answers, stored, rfl⟩,
        same, follows.adapters⟩
  | submitted checks interacts =>
      obtain ⟨_, _, _, _, submittable⟩ := checks.submittable
      obtain ⟨ledger, ledgerAfter, nftAfter, handover, rfl⟩ :=
        (deployment.interacts_iff submittable.active submittable.inCover).mp
          ⟨_, _, _, _, _, _, interacts⟩
      have settlement := Deployment.Settlement.mk here installed checks
        handover
      obtain ⟨_, _, _, _, _, follow⟩ :=
        replaces.interacts follows settlement fits
      refine ⟨_, checks.commits follow,
        follows.standsFor.settle (settlement.policy_id sound), ?_⟩
      rw [follows.adapters]

/-- A call of PolicyManager is answered by at most one call of the
fixture. -/
theorem Replaces.managed {env : Env} {call : PolicyManager.Call}
    {changed : PolicyManager.State × Ω}
    (effect : PolicyManager.Effect deployment.certificates.client env
      (world.policyManager, world.nft) call changed)
    {transition :
      Transition (Microcrop.World Ω) (Microcrop.Invocation κ)}
    {timestamp : U64} {signers : Address → Bool}
    (called : transition.label = ⟨timestamp, signers, .policyManager call⟩)
    (reached : transition.target =
      { world with policyManager := changed.1, nft := changed.2 }) :
    lane.Matches deployment counted other transition := by
  have standsFor := follows.standsFor
  have roles := effect.roles_eq
  have silent : counterpart deployment transition = none := by
    simp [counterpart, called]
  by_cases grants : ∃ caller role who, call = .grantRole caller role who
  · obtain ⟨caller, role, who, rfl⟩ := grants
    have same : changed.1.policies = world.policyManager.policies := by
      cases effect with
      | administered => rfl
      | closedActive stored active cause => cases cause
      | closedPending stored pending cause => cases cause
    have granted : (lane.exec (lane.administration timestamp
        (.grantRole lane.fixtureAdmin role who))).Commits other () _ :=
      replaces.grantRole_commits standsFor.admin
    apply matches_singleton granted (called ▸ .granted)
    · rw [silent]
      rfl
    · rw [reached]
      exact
        { standsFor :=
            { policies := standsFor.policies.trans same.symm
              oracles := by
                intro address oracle
                rw [roles] at oracle
                rcases (Roles.grant_apply ..).mp oracle with new | earlier
                · exact (Roles.grant_apply ..).mpr (Or.inl new)
                · exact (Roles.grant_apply ..).mpr
                    (Or.inr (standsFor.oracles address earlier))
              admin := (Roles.grant_apply ..).mpr (Or.inr standsFor.admin)
              counts := standsFor.counts }
          adapters := follows.adapters
          receivers := follows.receivers }
  · have oracles : ∀ who, changed.1.roles .oracle who = true →
        world.policyManager.roles .oracle who = true := by
      intro who oracle
      rw [roles] at oracle
      refine PolicyManager.Call.oracle_of_rolesAfter ?_ oracle
      exact fun caller role who same => grants ⟨caller, role, who, same⟩
    rcases effect.policies_cases with same | ⟨policy, written⟩
    · apply matches_nil silent
      rw [reached]
      exact
        { standsFor :=
            { standsFor with
              policies := standsFor.policies.trans same.symm
              oracles := fun who oracle =>
                standsFor.oracles who (oracles who oracle) }
          adapters := follows.adapters
          receivers := follows.receivers }
    · have injected : (lane.exec (lane.administration timestamp
          (.setPolicy lane.fixtureAdmin policy))).Commits other () _ :=
        replaces.setPolicy_commits standsFor.admin
      apply matches_singleton injected (called ▸ .injected)
      · rw [silent]
        rfl
      · rw [reached]
        exact
          { standsFor := standsFor.inject written oracles
            adapters := follows.adapters
            receivers := follows.receivers }

omit replaces in
theorem Follows.weaken : lane.Follows (counted + 1) world other :=
  { follows with
    standsFor := follows.standsFor.weaken (Nat.le_succ counted) }

section Accepted

variable {timestamp : U64} {signers : Address → Bool} {address : Address}
  {after : Microcrop.World Ω}

/-- The same call of a receiver is accepted on the lane. -/
theorem Replaces.matches_receiver (sound : deployment.Sound world)
    (fits : counted + 1 < 2 ^ 32) {call : PayoutReceiver.Call}
    (accepted : deployment.accepts world
      ⟨timestamp, signers, .receiver address call⟩ = true)
    (commits : (deployment.exec
      ⟨timestamp, signers, .receiver address call⟩).Commits world () after) :
    lane.Matches deployment (counted + 1) other
      ⟨world, ⟨timestamp, signers, .receiver address call⟩, after⟩ := by
  obtain ⟨state, changed, installed, executed, rfl⟩ :=
    (Microcrop.onReceiver_commits ..).mp commits
  obtain ⟨outside, executedToo, standsFor, adapters⟩ :=
    replaces.received follows sound fits rfl installed executed
  have again : (lane.exec
      ⟨timestamp, signers, .receiver address call⟩).Commits other ()
        { toNeighbors := outside
          receivers := Function.update other.receivers address
            (some changed.1) } := by
    refine (onReceiver_commits ..).mpr
      ⟨state, (changed.1, outside), ?_, ?_, rfl⟩
    · rw [follows.receivers]
      exact installed
    · rw [replaces.env_eq (show _ =
        deployment.target (.receiver address call) from rfl)]
      exact executedToo
  apply matches_singleton again .received
  · simp [counterpart, accepted, Invocation.isShared]
  · exact ⟨standsFor, adapters, by rw [follows.receivers]⟩

/-- The same call of an adapter is accepted on the lane. -/
theorem Replaces.matches_adapter {call : SettlementAdapter.Call}
    (accepted : deployment.accepts world
      ⟨timestamp, signers, .adapter address call⟩ = true)
    (commits : (deployment.exec
      ⟨timestamp, signers, .adapter address call⟩).Commits world () after) :
    lane.Matches deployment (counted + 1) other
      ⟨world, ⟨timestamp, signers, .adapter address call⟩, after⟩ := by
  obtain ⟨_, reached, rfl⟩ := (Microcrop.onNeighbors_commits ..).mp commits
  obtain ⟨ledger, changed, found, executed, rfl⟩ :=
    (Microcrop.onAdapter_commits ..).mp reached
  have again : (lane.exec
      ⟨timestamp, signers, .adapter address call⟩).Commits other ()
        { other with
          adapters := Function.update other.adapters address
            (some changed) } := by
    refine (onNeighbors_commits ..).mpr ⟨_,
      (onAdapter_commits ..).mpr ⟨ledger, changed, ?_, ?_, rfl⟩, rfl⟩
    · rw [follows.adapters]
      exact found
    · rw [replaces.env_eq (show _ =
        deployment.target (.adapter address call) from rfl)]
      exact executed
  apply matches_singleton again .booked
  · simp [counterpart, accepted, Invocation.isShared]
  · exact ⟨follows.weaken.standsFor, by rw [follows.adapters],
      follows.receivers⟩

omit replaces in
/-- The same marker expires on the lane. -/
theorem Follows.matches_expireMarker {preimageHash : BytesN 32}
    (accepted : deployment.accepts world
      ⟨timestamp, signers, .expireMarker address preimageHash⟩ = true)
    (commits : (deployment.exec
      ⟨timestamp, signers, .expireMarker address preimageHash⟩).Commits world
        () after) :
    lane.Matches deployment (counted + 1) other
      ⟨world, ⟨timestamp, signers, .expireMarker address preimageHash⟩,
        after⟩ := by
  obtain ⟨state, _, installed, executed, rfl⟩ :=
    (Microcrop.onReceiver_commits ..).mp commits
  obtain ⟨changed, dropped, rfl⟩ := (internal_commits ..).mp executed
  have again : (lane.exec
      ⟨timestamp, signers, .expireMarker address preimageHash⟩).Commits other
        ()
        { other with
          receivers := Function.update other.receivers address
            (some changed) } := by
    refine (onReceiver_commits ..).mpr
      ⟨state, (changed, other.toNeighbors), ?_,
        (internal_commits ..).mpr ⟨changed, dropped, rfl⟩, rfl⟩
    rw [follows.receivers]
    exact installed
  apply matches_singleton again .markerExpired
  · simp [counterpart, accepted, Invocation.isShared]
  · exact ⟨follows.weaken.standsFor, follows.adapters,
      by rw [follows.receivers]⟩

end Accepted

/-- Whatever an invocation does in the deployment, the lane answers it and
follows. -/
theorem Replaces.step (sound : deployment.Sound world)
    (fits : counted + 1 < 2 ^ 32) (invocation : Microcrop.Invocation κ) :
    lane.Matches deployment (counted + 1) other
      (History.taken deployment.apply world invocation) := by
  rcases advance_cases (deployment.exec invocation) world with
    ⟨refused, same⟩ | ⟨accepted, _, commits⟩
  · change deployment.accepts world invocation = false at refused
    apply matches_nil
    · simp [counterpart, History.taken, refused]
    · rw [History.taken, Deployment.apply, same]
      exact follows.weaken
  · change deployment.accepts world invocation = true at accepted
    change (deployment.exec invocation).Commits world ()
      (deployment.apply world invocation) at commits
    obtain ⟨timestamp, signers, call⟩ := invocation
    rw [History.taken]
    generalize deployment.apply world _ = after at commits ⊢
    cases call with
    | policyManager call =>
        obtain ⟨_, reached, rfl⟩ :=
          (Microcrop.onNeighbors_commits ..).mp commits
        obtain ⟨changed, executed, rfl⟩ := (onManager_commits ..).mp reached
        exact replaces.managed follows.weaken
          (PolicyManager.exec_effect _ _ call executed) rfl rfl
    | receiver =>
        exact replaces.matches_receiver follows sound fits accepted commits
    | adapter => exact replaces.matches_adapter follows accepted commits
    | nft call =>
        obtain ⟨_, reached, rfl⟩ :=
          (Microcrop.onNeighbors_commits ..).mp commits
        obtain ⟨changed, executed, rfl⟩ := (onNft_commits ..).mp reached
        apply matches_nil (by simp [counterpart])
        exact
          { standsFor := follows.weaken.standsFor
            adapters := follows.adapters
            receivers := follows.receivers }
    | expireMarker => exact follows.matches_expireMarker accepted commits

end Followed

theorem Replaces.start : lane.Follows 0 deployment.genesis lane.genesis := by
  obtain ⟨-, roles, policies, claimCounts⟩ :=
    (TestnetPolicyFixture.constructor_eq_some ..).mp lane.deployed
  refine
    { standsFor :=
        { policies := policies
          oracles := ?_
          admin := ?_
          counts := ?_ }
      adapters := ?_
      receivers := ?_ }
  · intro who oracle
    change Roles.grant (fun _ _ => false) .admin deployment.admin .oracle
      who = true at oracle
    simp at oracle
  · change lane.start.roles .admin lane.fixtureAdmin = true
    rw [roles]
    exact (Roles.grant_apply ..).mpr (Or.inl ⟨rfl, rfl⟩)
  · intro farmer
    change (lane.start.claimCounts farmer).getD 0 ≤ 0
    rw [claimCounts]
    exact Nat.le_refl 0
  · funext address
    rw [genesis, Deployment.genesis, replaces.adapters]
  · funext address
    rw [genesis, Deployment.genesis, replaces.receivers, replaces.fixture]

/-- Every run of the deployment is repeated on the lane.  The lane accepts all
its inputs; those of the receivers and the adapters are exactly the calls that
the deployment accepted, in this order, and between them the administrator
injects policies and grants roles.  Receivers and adapters end in the same
states, and the fixture stores PolicyManager's policies. -/
theorem evidenceLane {invocations : List (Microcrop.Invocation κ)}
    (short : invocations.length < 2 ^ 32) :
    ∃ inputs,
      History.Causes (Replays lane.fixtureAdmin) invocations inputs ∧
      (∀ transition ∈ lane.trace inputs,
        lane.accepts transition.source transition.label = true) ∧
      inputs.filter Invocation.isShared =
        (deployment.trace invocations).filterMap (counterpart deployment) ∧
      (lane.run inputs).receivers = (deployment.run invocations).receivers ∧
      (lane.run inputs).adapters = (deployment.run invocations).adapters ∧
      (lane.run inputs).fixture.policies =
        (deployment.run invocations).policyManager.policies := by
  obtain ⟨inputs, answered, -, follows⟩ :=
    History.run_simulates deployment.apply
      (fun counted world other => deployment.Sound world ∧
        lane.Follows counted world other)
      lane.apply
      (fun counted world invocation other (fits : counted < 2 ^ 32 - 1)
          ⟨sound, follows⟩ => by
        obtain ⟨group, answers, next⟩ :=
          replaces.step follows sound (by omega) invocation
        exact ⟨group, answers, deployment.sound_apply sound invocation, next⟩)
      invocations (by omega)
      ⟨deployment.sound_genesis, replaces.start⟩
  have causes := answered.causes Answers.caused
  have repeated := answered.filter_eq Answers.repeated
  rw [History.map_label_trace, History.map_label_trace] at causes
  rw [History.map_label_trace] at repeated
  refine ⟨inputs, causes, ?_, repeated, follows.receivers, follows.adapters,
    follows.standsFor.policies⟩
  intro transition member
  obtain ⟨_, -, group, answers, inGroup⟩ := answered.exists_answer member
  exact answers.accepted transition inGroup

end Steps

/-- The lane beside the worked season. -/
def seasonLane : EvidenceLane where
  fixture := seasonContract 1
  fixtureAdmin := seasonAddress 1
  networkId := testnetDomain
  start :=
    { roles := Roles.grant (fun _ _ => false) .admin (seasonAddress 1)
      policies := fun _ => none
      claimCounts := fun _ => none }
  deployed := if_neg (by decide +kernel)
  receivers := seasonDeployment.receivers
  adapters := seasonDeployment.adapters
  crypto := v1Crypto

theorem evidenceLane_season :
    ∃ inputs, History.Causes (Replays (seasonAddress 1)) season inputs ∧
      ((seasonLane.run inputs).adapters (seasonContract 2)).bind
        (fun ledger => ledger.obligations 1) =
          some Deployment.seasonObligation := by
  have recorded : ((seasonDeployment.run season).adapters
      (seasonContract 2)).bind (fun ledger => ledger.obligations 1) =
        some Deployment.seasonObligation := by
    decide +kernel
  obtain ⟨inputs, causes, -, -, -, adapters, -⟩ :=
    evidenceLane
      (show seasonLane.Replaces seasonDeployment from
        ⟨rfl, rfl, rfl, rfl, by decide +kernel⟩)
      (show season.length < 2 ^ 32 by decide)
  refine ⟨inputs, causes, ?_⟩
  rw [adapters, recorded]

end EvidenceLane

end Microcrop
