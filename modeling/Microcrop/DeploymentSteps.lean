import Microcrop.Deployment
import Microcrop.PayoutReceiverEffects
import Microcrop.PolicyManagerEffects

/-!
# What one invocation does to the system

The inversion of an accepted invocation.  A verified submission is the one
step that touches three contracts; the calls that it makes are resolved here
against the code they reach.  The history of PolicyManager alone inside a run
of the system is a run of PolicyManager.
-/

namespace Microcrop

open Transaction

section Reach

variable {Ω α : Type}

@[simp]
theorem findContract_eq_ok {σ : Type} (contracts : Address → Option σ)
    (address : Address) (state : σ) :
    findContract contracts address = .ok state ↔
      contracts address = some state := by
  unfold findContract
  split <;> rename_i found <;> simp [found]

@[simp]
theorem findContract_eq_error {σ : Type} (contracts : Address → Option σ)
    (address : Address) (error : Error) :
    findContract contracts address = .error error ↔
      contracts address = none ∧ error = .host .missingContract := by
  unfold findContract
  split <;> rename_i found <;> simp [found, eq_comm]

@[simp]
theorem onManager_commits
    (program : Contract (PolicyManager.State × Ω) α)
    (before after : Neighbors Ω) (result : α) :
    (onManager program).Commits before result after ↔
      ∃ changed, program.Commits (before.policyManager, before.nft) result
          changed ∧
        after =
          { before with policyManager := changed.1, nft := changed.2 } := by
  simp [onManager]

@[simp]
theorem onManager_fails (program : Contract (PolicyManager.State × Ω) α)
    (before : Neighbors Ω) (error : Error) :
    (onManager program).Fails before error ↔
      program.Fails (before.policyManager, before.nft) error := by
  simp [onManager]

@[simp]
theorem onAdapter_commits (address : Address)
    (program : Contract SettlementAdapter.State α)
    (before after : Neighbors Ω) (result : α) :
    (onAdapter address program).Commits before result after ↔
      ∃ ledger changed, before.adapters address = some ledger ∧
        program.Commits ledger result changed ∧
          after =
            { before with
              adapters := Function.update before.adapters address
                (some changed) } := by
  simp [onAdapter]

@[simp]
theorem onAdapter_fails (address : Address)
    (program : Contract SettlementAdapter.State α)
    (before : Neighbors Ω) (error : Error) :
    (onAdapter address program).Fails before error ↔
      (before.adapters address = none ∧ error = .host .missingContract) ∨
        ∃ ledger, before.adapters address = some ledger ∧
          program.Fails ledger error := by
  simp [onAdapter]

@[simp]
theorem onNft_commits (program : Contract Ω α) (before after : Neighbors Ω)
    (result : α) :
    (onNft program).Commits before result after ↔
      ∃ changed, program.Commits before.nft result changed ∧
        after = { before with nft := changed } := by
  simp [onNft]

@[simp]
theorem onNeighbors_commits (program : Contract (Neighbors Ω) α)
    (before after : World Ω) (result : α) :
    (onNeighbors program).Commits before result after ↔
      ∃ changed, program.Commits before.toNeighbors result changed ∧
        after = { before with toNeighbors := changed } := by
  simp [onNeighbors]

@[simp]
theorem onNeighbors_fails (program : Contract (Neighbors Ω) α)
    (before : World Ω) (error : Error) :
    (onNeighbors program).Fails before error ↔
      program.Fails before.toNeighbors error := by
  simp [onNeighbors]

@[simp]
theorem onReceiver_commits (address : Address)
    (program : Contract (PayoutReceiver.State × Neighbors Ω) α)
    (before after : World Ω) (result : α) :
    (onReceiver address program).Commits before result after ↔
      ∃ state changed, before.receivers address = some state ∧
        program.Commits (state, before.toNeighbors) result changed ∧
          after =
            { toNeighbors := changed.2
              receivers := Function.update before.receivers address
                (some changed.1) } := by
  cases found : before.receivers address with
  | none => simp [onReceiver, findContract, found]
  | some state => simp [onReceiver, findContract, found]

@[simp]
theorem onReceiver_fails (address : Address)
    (program : Contract (PayoutReceiver.State × Neighbors Ω) α)
    (before : World Ω) (error : Error) :
    (onReceiver address program).Fails before error ↔
      (before.receivers address = none ∧ error = .host .missingContract) ∨
        ∃ state, before.receivers address = some state ∧
          program.Fails (state, before.toNeighbors) error := by
  cases found : before.receivers address with
  | none => simp [onReceiver, findContract, found, eq_comm]
  | some state => simp [onReceiver, findContract, found]

end Reach

namespace Deployment

variable {Ω κ : Type} (deployment : Deployment Ω κ)

/-! ## The calls of a PayoutReceiver -/

section Clients

variable {env : Env} (before after : Neighbors Ω)

theorem managerClient_eq_missing
    (elsewhere : env.currentContract ≠ deployment.policyManager) :
    deployment.managerClient env = .missing :=
  if_neg elsewhere

variable (here : env.currentContract = deployment.policyManager)

include here

theorem policyExists_commits (policyId : Nat) :
    ((deployment.managerClient env).policyExists policyId).Commits before true
        after ↔
      (∃ policy, before.policyManager.policies policyId = some policy) ∧
        after = before := by
  rw [managerClient, if_pos here]
  simp only [onManager_commits, internal_commits, read_commits, and_assoc,
    exists_and_left, exists_eq_left, PolicyManager.State.policyExists,
    ← Option.isSome_iff_exists, @eq_comm _ true]

theorem getPolicy_commits (policyId : Nat) (policy : Policy) :
    ((deployment.managerClient env).getPolicy policyId).Commits before policy
        after ↔
      before.policyManager.policies policyId = some policy ∧
        after = before := by
  rw [managerClient, if_pos here]
  simp only [onManager_commits, internal_commits,
    PolicyManager.loadPolicy_commits, and_assoc, exists_and_left,
    exists_eq_left]

theorem canFarmerClaim_commits (farmer : Address) :
    ((deployment.managerClient env).canFarmerClaim farmer).Commits before true
        after ↔
      before.policyManager.canFarmerClaim env.timestamp farmer = true ∧
        after = before := by
  rw [managerClient, if_pos here]
  simp only [onManager_commits, internal_commits, read_commits, and_assoc,
    exists_and_left, exists_eq_left, @eq_comm _ true]

theorem managerMarkAsClaimed_commits (caller : Address) (policyId : Nat) :
    ((deployment.managerClient env).markAsClaimed caller policyId).Commits
        before () after ↔
      ∃ changed, (PolicyManager.markAsClaimed deployment.certificates.client
          env caller policyId).Commits (before.policyManager, before.nft) ()
          changed ∧
        after =
          { before with policyManager := changed.1, nft := changed.2 } := by
  rw [managerClient, if_pos here]
  simp only [onManager_commits]

theorem managerIncrementClaimCount_commits (caller farmer : Address) :
    ((deployment.managerClient env).incrementClaimCount caller
        farmer).Commits before () after ↔
      ∃ changed, (PolicyManager.incrementClaimCount env caller
          farmer).Commits before.policyManager () changed ∧
        after = { before with policyManager := changed } := by
  rw [managerClient, if_pos here]
  simp only [onManager_commits, internal_commits]
  constructor
  · rintro ⟨_, ⟨changed, counted, rfl⟩, rfl⟩
    exact ⟨changed, counted, rfl⟩
  · rintro ⟨changed, counted, rfl⟩
    exact ⟨_, ⟨changed, counted, rfl⟩, rfl⟩

end Clients

theorem payoutReceiver_commits (env : Env) (before after : Neighbors Ω)
    (answer : Option Address) :
    ((adapterClient env).payoutReceiver).Commits before answer after ↔
      ∃ ledger, before.adapters env.currentContract = some ledger ∧
        answer = ledger.payoutReceiver ∧ after = before := by
  simp only [adapterClient, onAdapter_commits, read_commits]
  constructor
  · rintro ⟨ledger, _, found, ⟨answer, same⟩, rfl⟩
    exact ⟨ledger, found, answer,
      by rw [same, ← found, Function.update_eq_self]⟩
  · rintro ⟨ledger, found, answer, rfl⟩
    exact ⟨ledger, ledger, found, ⟨answer, rfl⟩,
      by rw [← found, Function.update_eq_self]⟩

/-! ## A verified submission -/

/-- The SettlementAdapter, its obligation and the certificate contract in the
interactions of a verified submission. -/
structure Handover (env : Env) (before : Neighbors Ω)
    (state : PayoutReceiver.State) (policy : Policy) (report : DamageReport)
    (digest : BytesN 32) (adapter : Address)
    (ledger : SettlementAdapter.State) (obligation : Obligation)
    (ledgerAfter : SettlementAdapter.State) (nftAfter : Ω) : Prop where
  managed : state.policyManager = some deployment.policyManager
  stored : before.policyManager.policies report.policyId = some policy
  claimable : before.policyManager.canFarmerClaim env.timestamp
    policy.farmer = true
  bound : state.settlementAdapter = some adapter
  found : before.adapters adapter = some ledger
  recorded : (SettlementAdapter.recordObligation (env.invoke adapter)
    env.currentContract report.policyId policy.org report.payoutAmount
      digest).Commits ledger obligation ledgerAfter
  receiver : obligation.payoutReceiver = env.currentContract
  policyId : obligation.policyId = report.policyId
  org : obligation.org = policy.org
  amount : obligation.amount = report.payoutAmount
  digest : obligation.determinationDigest = digest
  owed : obligation.status = .owed
  oracle : before.policyManager.roles .oracle env.currentContract = true
  deactivates : PolicyManager.Deactivates deployment.certificates.client
    (env.invoke deployment.policyManager) before.policyManager.policyNft
      report.policyId before.nft nftAfter

/-- PolicyManager after the claim of `policy`. -/
def claimedManager (before : PolicyManager.State) (policy : Policy)
    (now : Nat) : PolicyManager.State :=
  (before.closeActive policy .claimed).pushClaimTime policy.farmer now

section Handover

variable {deployment} {env : Env} {before : Neighbors Ω}
  {state : PayoutReceiver.State} {policy : Policy} {report : DamageReport}
  {digest : BytesN 32} {adapter : Address}
  {ledger ledgerAfter : SettlementAdapter.State} {obligation : Obligation}
  {nftAfter : Ω}
  (handover : deployment.Handover env before state policy report digest
    adapter ledger obligation ledgerAfter nftAfter)

include handover

/-- PolicyManager accepts the first call of the receiver. -/
theorem Handover.marks (active : policy.status = .active)
    (inCover : env.timestamp ≤ policy.endDate) :
    (PolicyManager.markAsClaimed deployment.certificates.client
      (env.invoke deployment.policyManager) env.currentContract
      report.policyId).Commits (before.policyManager, before.nft) ()
      (before.policyManager.closeActive policy .claimed, nftAfter) :=
  (PolicyManager.markAsClaimed_commits _ _ _ _ _ _ _).mpr
    ⟨(env.invoke_authorized _ _).mpr rfl, handover.oracle, policy,
      handover.stored, active, inCover, handover.deactivates, rfl⟩

/-- PolicyManager accepts the second call of the receiver. -/
theorem Handover.counts :
    (PolicyManager.incrementClaimCount (env.invoke deployment.policyManager)
      env.currentContract policy.farmer).Commits
      (before.policyManager.closeActive policy .claimed) ()
      (claimedManager before.policyManager policy env.timestamp) := by
  refine (PolicyManager.incrementClaimCount_commits _ _ _ _ _ _).mpr
    ⟨(env.invoke_authorized _ _).mpr rfl, ?_, ?_, rfl⟩
  · rw [PolicyManager.State.closeActive_roles]
    exact handover.oracle
  · rw [PolicyManager.State.closeActive_claimsInWindow]
    exact (PolicyManager.State.canFarmerClaim_iff _ _ _).mp handover.claimable

end Handover

/-- A PolicyManager that answers is the one of the deployment. -/
theorem policyExists_reaches {env : Env} {address : Address} {policyId : Nat}
    {before after : Neighbors Ω} {answer : Bool}
    (answers : ((deployment.managerClient (env.invoke address)).policyExists
      policyId).Commits before answer after) :
    address = deployment.policyManager := by
  by_contra elsewhere
  rw [deployment.managerClient_eq_missing elsewhere] at answers
  exact fail_commits _ _ _ _ answers

/-- The interactions of a submission succeed exactly if the calls do what
`Handover` says. -/
theorem interacts_iff {env : Env} {before after : Neighbors Ω}
    {state : PayoutReceiver.State} {policy : Policy} {report : DamageReport}
    {digest : BytesN 32} {adapter : Address} {obligation : Obligation}
    (active : policy.status = .active)
    (inCover : env.timestamp ≤ policy.endDate) :
    (∃ policyManager queried fetched checked recorded claimed,
      PayoutReceiver.Interacts deployment.managerClient adapterClient env
        state policy report digest policyManager adapter before queried
        fetched checked obligation recorded claimed after) ↔
      ∃ ledger ledgerAfter nftAfter,
        deployment.Handover env before state policy report digest adapter
          ledger obligation ledgerAfter nftAfter ∧
        after =
          { policyManager :=
              claimedManager before.policyManager policy env.timestamp
            adapters := Function.update before.adapters adapter
              (some ledgerAfter)
            nft := nftAfter } := by
  constructor
  · rintro ⟨policyManager, queried, fetched, checked, recorded, claimed,
      adapterBound, managerBound, ⟨existing, fetches, claimable⟩, settles⟩
    have here := deployment.policyExists_reaches existing
    rw [here] at managerBound existing fetches claimable settles
    obtain ⟨-, rfl⟩ :=
      (deployment.policyExists_commits _ _ rfl _).mp existing
    obtain ⟨stored, rfl⟩ :=
      (deployment.getPolicy_commits _ _ rfl _ _).mp fetches
    obtain ⟨canClaim, rfl⟩ :=
      (deployment.canFarmerClaim_commits _ _ rfl _).mp claimable
    obtain ⟨ledger, ledgerAfter, found, recorded', rfl⟩ :=
      (onAdapter_commits _ _ _ _ _).mp settles.records
    obtain ⟨⟨manager, nftAfter⟩, marks, rfl⟩ :=
      (deployment.managerMarkAsClaimed_commits _ _ rfl _ _).mp settles.marks
    obtain ⟨-, oracle, same, storedSame, -, -, deactivates, closed⟩ :=
      (PolicyManager.markAsClaimed_commits _ _ _ _ _ _ _).mp marks
    obtain ⟨manager', counts, rfl⟩ :=
      (deployment.managerIncrementClaimCount_commits _ _ rfl _ _).mp
        settles.counts
    obtain ⟨-, -, -, rfl⟩ :=
      (PolicyManager.incrementClaimCount_commits _ _ _ _ _ _).mp counts
    rw [stored] at storedSame
    cases storedSame
    dsimp only at closed
    rw [closed]
    exact ⟨ledger, ledgerAfter, nftAfter, ⟨managerBound, stored, canClaim,
      adapterBound, found, recorded', settles.receiver, settles.policyId,
      settles.org, settles.amount, settles.digest, settles.owed, oracle,
      deactivates⟩, rfl⟩
  · rintro ⟨ledger, ledgerAfter, nftAfter, handover, rfl⟩
    have marks := handover.marks active inCover
    have counts := handover.counts
    refine ⟨deployment.policyManager, before, before, before,
      { before with
        adapters :=
          Function.update before.adapters adapter (some ledgerAfter) },
      { policyManager := before.policyManager.closeActive policy .claimed
        adapters :=
          Function.update before.adapters adapter (some ledgerAfter)
        nft := nftAfter },
      handover.bound, handover.managed, ⟨?_, ?_, ?_⟩,
      ⟨?_, handover.receiver, handover.policyId, handover.org,
        handover.amount, handover.digest, handover.owed, ?_, ?_⟩⟩
    · exact (deployment.policyExists_commits _ _ rfl _).mpr
        ⟨⟨policy, handover.stored⟩, rfl⟩
    · exact (deployment.getPolicy_commits _ _ rfl _ _).mpr
        ⟨handover.stored, rfl⟩
    · exact (deployment.canFarmerClaim_commits _ _ rfl _).mpr
        ⟨handover.claimable, rfl⟩
    · exact (onAdapter_commits _ _ _ _ _).mpr
        ⟨ledger, ledgerAfter, handover.found, handover.recorded, rfl⟩
    · exact (deployment.managerMarkAsClaimed_commits _ _ rfl _ _).mpr
        ⟨_, marks, rfl⟩
    · exact (deployment.managerIncrementClaimCount_commits _ _ rfl _ _).mpr
        ⟨_, counts, rfl⟩

/-- A submission that the PayoutReceiver at `address` verified. -/
structure Settlement (env : Env) (before : World Ω) (address : Address)
    (call : PayoutReceiver.Call) (state : PayoutReceiver.State)
    (policy : Policy) (report : DamageReport) (digest : BytesN 32)
    (adapter : Address) (ledger : SettlementAdapter.State)
    (obligation : Obligation) (ledgerAfter : SettlementAdapter.State)
    (nftAfter : Ω) : Prop where
  here : env.currentContract = address
  installed : before.receivers address = some state
  checked : PayoutReceiver.Checked deployment.crypto env state policy call
    report digest
  handover : deployment.Handover env before.toNeighbors state policy report
    digest adapter ledger obligation ledgerAfter nftAfter

/-- The system after a verified submission. -/
def settledWorld (before : World Ω) (address : Address)
    (state : PayoutReceiver.State) (policy : Policy) (report : DamageReport)
    (digest : BytesN 32) (adapter : Address)
    (ledgerAfter : SettlementAdapter.State) (nftAfter : Ω) (now : Nat) :
    World Ω where
  policyManager := claimedManager before.policyManager policy now
  adapters := Function.update before.adapters adapter (some ledgerAfter)
  nft := nftAfter
  receivers := Function.update before.receivers address
    (some (state.recordVerified report digest))

/-- Everything that an accepted invocation can do. -/
inductive Step (env : Env) (before : World Ω) :
    World.Call κ → World Ω → Prop
  | managed {call : PolicyManager.Call} {after : PolicyManager.State × Ω}
      (here : env.currentContract = deployment.policyManager)
      (effect : PolicyManager.Effect deployment.certificates.client env
        (before.policyManager, before.nft) call after) :
      Step env before (.policyManager call)
        { before with policyManager := after.1, nft := after.2 }
  | administered {address caller : Address} {call : PayoutReceiver.Call}
      {state : PayoutReceiver.State}
      (installed : before.receivers address = some state)
      (signed : env.authorized caller = true)
      (admin : state.roles .admin caller = true)
      (administers : call.administers = true) (roles : Roles)
      (authorizedSigner : Option (BytesN 65))
      (networkDomain : Option (BytesN 32)) (paused : Option Bool)
      (methodologyEnabled : MethodologyKind → Option Bool) :
      Step env before (.receiver address call)
        { before with
          receivers := Function.update before.receivers address
            (some
              { state with
                roles, authorizedSigner, networkDomain, paused,
                methodologyEnabled }) }
  | swapped {address caller adapter : Address} {state : PayoutReceiver.State}
      {ledger : SettlementAdapter.State}
      (installed : before.receivers address = some state)
      (signed : env.authorized caller = true)
      (admin : state.roles .admin caller = true)
      (found : before.adapters adapter = some ledger)
      (bound : ledger.payoutReceiver = some address) :
      Step env before
        (.receiver address (.setSettlementAdapter caller adapter))
        { before with
          receivers := Function.update before.receivers address
            (some { state with settlementAdapter := some adapter }) }
  | settled {address adapter : Address} {call : PayoutReceiver.Call}
      {state : PayoutReceiver.State} {policy : Policy}
      {report : DamageReport} {digest : BytesN 32}
      {ledger ledgerAfter : SettlementAdapter.State}
      {obligation : Obligation} {nftAfter : Ω}
      (settlement : deployment.Settlement env before address call state
        policy report digest adapter ledger obligation ledgerAfter
        nftAfter) :
      Step env before (.receiver address call)
        (settledWorld before address state policy report digest adapter
          ledgerAfter nftAfter env.timestamp)
  | booked {address : Address} {call : SettlementAdapter.Call}
      {ledger after : SettlementAdapter.State}
      (found : before.adapters address = some ledger)
      (effect : SettlementAdapter.Effect env ledger call after) :
      Step env before (.adapter address call)
        { before with
          adapters :=
            Function.update before.adapters address (some after) }
  | certified {call : κ} {nftAfter : Ω}
      (commits : (deployment.certificates.exec env call).Commits before.nft
        () nftAfter) :
      Step env before (.nft call) { before with nft := nftAfter }
  | markerExpired {address : Address} {preimageHash : BytesN 32}
      {state : PayoutReceiver.State}
      (installed : before.receivers address = some state) :
      Step env before (.expireMarker address preimageHash)
        { before with
          receivers := Function.update before.receivers address
            (some (state.expireMarker preimageHash)) }

/-- The three ways in which a call to a PayoutReceiver is accepted. -/
theorem receiver_step {env : Env} {address : Address}
    {call : PayoutReceiver.Call} {before : World Ω}
    {state : PayoutReceiver.State} {after : PayoutReceiver.State × Neighbors Ω}
    (here : env.currentContract = address)
    (installed : before.receivers address = some state)
    (effect : PayoutReceiver.Effect deployment.crypto deployment.managerClient
      adapterClient env (state, before.toNeighbors) call after) :
    deployment.Step env before (.receiver address call)
      { toNeighbors := after.2
        receivers := Function.update before.receivers address
          (some after.1) } := by
  cases effect with
  | administered signed admin administers roles authorizedSigner
      networkDomain paused methodologyEnabled =>
      exact .administered installed signed admin administers roles
        authorizedSigner networkDomain paused methodologyEnabled
  | swapped signed admin other bound =>
      obtain ⟨ledger, found, answer, rfl⟩ :=
        (payoutReceiver_commits _ _ _ _).mp bound
      rw [here] at answer
      exact .swapped installed signed admin found answer.symm
  | submitted checks interacts =>
      obtain ⟨_, _, _, _, submittable⟩ := checks.submittable
      obtain ⟨ledger, ledgerAfter, nftAfter, handover, rfl⟩ :=
        (deployment.interacts_iff submittable.active submittable.inCover).mp
          ⟨_, _, _, _, _, _, interacts⟩
      exact .settled ⟨here, installed, checks, handover⟩

/-- An accepted invocation takes one of the listed steps. -/
theorem exec_step (invocation : Invocation κ) {before after : World Ω}
    (commits : (deployment.exec invocation).Commits before () after) :
    deployment.Step (deployment.env invocation) before invocation.call
      after := by
  obtain ⟨timestamp, signers, call⟩ := invocation
  cases call with
  | policyManager call =>
      obtain ⟨_, reached, rfl⟩ := (onNeighbors_commits _ _ _ _).mp commits
      obtain ⟨changed, executed, rfl⟩ :=
        (onManager_commits _ _ _ _).mp reached
      exact .managed rfl (PolicyManager.exec_effect _ _ call executed)
  | receiver address call =>
      obtain ⟨state, changed, installed, executed, rfl⟩ :=
        (onReceiver_commits _ _ _ _ _).mp commits
      exact deployment.receiver_step rfl installed
        (PayoutReceiver.exec_effect _ _ _ _ call executed)
  | adapter address call =>
      obtain ⟨_, reached, rfl⟩ := (onNeighbors_commits _ _ _ _).mp commits
      obtain ⟨ledger, changed, found, executed, rfl⟩ :=
        (onAdapter_commits _ _ _ _ _).mp reached
      exact .booked found (SettlementAdapter.exec_effect _ call executed)
  | nft call =>
      obtain ⟨_, reached, rfl⟩ := (onNeighbors_commits _ _ _ _).mp commits
      obtain ⟨changed, executed, rfl⟩ := (onNft_commits _ _ _ _).mp reached
      exact .certified executed
  | expireMarker address preimageHash =>
      obtain ⟨state, _, installed, executed, rfl⟩ :=
        (onReceiver_commits _ _ _ _ _).mp commits
      obtain ⟨changed, dropped, rfl⟩ :=
        (internal_commits _ _ _ _).mp executed
      rw [(modify_commits _ _ _ _).mp dropped]
      exact .markerExpired installed

/-- An invocation is refused and changes nothing, or it is accepted and takes
a step. -/
theorem apply_cases (world : World Ω) (invocation : Invocation κ) :
    (deployment.accepts world invocation = false ∧
        deployment.apply world invocation = world) ∨
      (deployment.accepts world invocation = true ∧
        deployment.Step (deployment.env invocation) world invocation.call
          (deployment.apply world invocation)) := by
  rcases advance_cases (deployment.exec invocation) world with
    ⟨refused, same⟩ | ⟨accepted, _, commits⟩
  · exact Or.inl ⟨refused, same⟩
  · exact Or.inr ⟨accepted, deployment.exec_step invocation commits⟩

/-! ## PolicyManager inside the system -/

section Settlement

variable {deployment} {env : Env} {before : World Ω} {address : Address}
  {call : PayoutReceiver.Call} {state : PayoutReceiver.State}
  {policy : Policy} {report : DamageReport} {digest : BytesN 32}
  {adapter : Address} {ledger ledgerAfter : SettlementAdapter.State}
  {obligation : Obligation} {nftAfter : Ω}
  (settlement : deployment.Settlement env before address call state policy
    report digest adapter ledger obligation ledgerAfter nftAfter)

include settlement

theorem Settlement.active : policy.status = .active := by
  obtain ⟨_, _, _, _, submittable⟩ := settlement.checked.submittable
  exact submittable.active

theorem Settlement.inCover : env.timestamp ≤ policy.endDate := by
  obtain ⟨_, _, _, _, submittable⟩ := settlement.checked.submittable
  exact submittable.inCover

/-- PolicyManager knows the receiver as an Oracle. -/
theorem Settlement.oracle :
    before.policyManager.roles .oracle address = true := by
  have oracle := settlement.handover.oracle
  rw [settlement.here] at oracle
  exact oracle

theorem Settlement.payoutReceiver : obligation.payoutReceiver = address :=
  settlement.handover.receiver.trans settlement.here

theorem Settlement.unpaid : state.isPolicyPaid report.policyId = false := by
  obtain ⟨_, _, _, _, submittable⟩ := settlement.checked.submittable
  exact submittable.unpaid

/-- The first call of the receiver closes the policy as CLAIMED. -/
theorem Settlement.marked :
    PolicyManager.Effect deployment.certificates.client
      (env.invoke deployment.policyManager)
      (before.policyManager, before.nft)
      (.markAsClaimed address report.policyId)
      (before.policyManager.closeActive policy .claimed, nftAfter) := by
  have marks := settlement.handover.marks settlement.active settlement.inCover
  rw [settlement.here] at marks
  exact PolicyManager.exec_effect _ _ (.markAsClaimed _ _) marks

/-- The second call of the receiver counts the claim. -/
theorem Settlement.counted :
    PolicyManager.Effect deployment.certificates.client
      (env.invoke deployment.policyManager)
      (before.policyManager.closeActive policy .claimed, nftAfter)
      (.incrementClaimCount address policy.farmer)
      (claimedManager before.policyManager policy env.timestamp,
        nftAfter) := by
  have counts := settlement.handover.counts
  rw [settlement.here] at counts
  exact PolicyManager.exec_effect _ _ (.incrementClaimCount _ _)
    ((internal_commits _ _ _ _).mpr ⟨_, counts, rfl⟩)

end Settlement

/-- A property of PolicyManager that each of its own calls preserves is
preserved by every step of the system. -/
theorem Step.manager_preserved {deployment : Deployment Ω κ} {env : Env}
    {before after : World Ω} {call : World.Call κ}
    (step : deployment.Step env before call after)
    (Property : PolicyManager.State → Prop)
    (preserved : ∀ {env : Env} {before after : PolicyManager.State × Ω}
      {call : PolicyManager.Call},
      PolicyManager.Effect deployment.certificates.client env before call
        after → Property before.1 → Property after.1)
    (holds : Property before.policyManager) :
    Property after.policyManager := by
  cases step with
  | managed here effect => exact preserved effect holds
  | administered => exact holds
  | swapped => exact holds
  | settled settlement =>
      have marked := preserved settlement.marked holds
      exact preserved settlement.counted marked
  | booked => exact holds
  | certified => exact holds
  | markerExpired => exact holds

end Deployment

end Microcrop
