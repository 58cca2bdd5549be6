import Microcrop.SettlementOnce

/-!
# Every contract runs on its own inside the system

An invocation reaches a contract directly or through calls that other
contracts make for it.  Either way the contract only ever sees calls of its
own entrypoints, at the time of the invocation and with the authorization of
its signers or of the calling contract, so its state inside any run of the
system is the state of a run of that contract alone.
-/

namespace Microcrop

open Transaction

namespace Deployment

variable {Ω κ : Type} (deployment : Deployment Ω κ)

/-! ## The calls that reach a contract -/

/-- A call of `contract` by `caller` during the invocation. -/
structure Made (invocation : Invocation κ) (caller contract : Address)
    (env : Env) : Prop where
  timestamp : env.timestamp = invocation.time
  here : env.currentContract = contract
  authorized : ∀ address, env.authorized address = true ↔ address = caller

/-- Calls of PolicyManager: the invocation itself, or the two calls of a
receiver in its own name. -/
inductive ManagerInput (invocation : Invocation κ) :
    PolicyManager.Input Ω → Prop
  | direct {call : PolicyManager.Call} (outside : Ω)
      (called : invocation.call = .policyManager call) :
      ManagerInput invocation
        { env := deployment.env invocation
          nft := deployment.certificates.client, outside, call }
  | marked {receiver : Address} {receiverCall : PayoutReceiver.Call}
      {env : Env} (policyId : Nat) (outside : Ω)
      (called : invocation.call = .receiver receiver receiverCall)
      (made : Made invocation receiver deployment.policyManager env) :
      ManagerInput invocation
        { env, nft := deployment.certificates.client, outside
          call := .markAsClaimed receiver policyId }
  | counted {receiver : Address} {receiverCall : PayoutReceiver.Call}
      {env : Env} (farmer : Address) (outside : Ω)
      (called : invocation.call = .receiver receiver receiverCall)
      (made : Made invocation receiver deployment.policyManager env) :
      ManagerInput invocation
        { env, nft := deployment.certificates.client, outside
          call := .incrementClaimCount receiver farmer }

/-- Calls of the adapter at `adapter`: the invocation itself, or a record that
a receiver asks for in its own name. -/
inductive AdapterInput (adapter : Address) (invocation : Invocation κ) :
    SettlementAdapter.Input → Prop
  | direct {call : SettlementAdapter.Call}
      (called : invocation.call = .adapter adapter call) :
      AdapterInput adapter invocation
        { env := deployment.env invocation, call }
  | recorded {receiver : Address} {receiverCall : PayoutReceiver.Call}
      {env : Env} (policyId : Nat) (org : Address) (amount : Int)
      (determinationDigest : BytesN 32)
      (called : invocation.call = .receiver receiver receiverCall)
      (made : Made invocation receiver adapter env) :
      AdapterInput adapter invocation
        { env
          call := .recordObligation receiver policyId org amount
            determinationDigest }

/-- Calls of the receiver at `receiver`, which nobody but a wallet makes, and
the expiry of its markers. -/
inductive ReceiverInput (receiver : Address) (invocation : Invocation κ) :
    PayoutReceiver.Input (Neighbors Ω) → Prop
  | direct {call : PayoutReceiver.Call} (outside : Neighbors Ω)
      (called : invocation.call = .receiver receiver call) :
      ReceiverInput receiver invocation
        (.invoke (deployment.env invocation) deployment.managerClient
          adapterClient outside call)
  | markerExpired {preimageHash : BytesN 32}
      (called : invocation.call = .expireMarker receiver preimageHash) :
      ReceiverInput receiver invocation (.expireMarker preimageHash)

variable {deployment} {invocation : Invocation κ}

/-- A call that the contract of `env` makes. -/
theorem made_of_env (env : Env) (contract : Address)
    (timestamp : env.timestamp = invocation.time) :
    Made invocation env.currentContract contract (env.invoke contract) where
  timestamp := timestamp
  here := rfl
  authorized := env.invoke_authorized contract

theorem made_invoke (deployment : Deployment Ω κ)
    (invocation : Invocation κ) (contract : Address) :
    Made invocation (deployment.target invocation.call) contract
      ((deployment.env invocation).invoke contract) :=
  made_of_env (deployment.env invocation) contract rfl

variable (deployment)

/-- The two calls by which a receiver settles a policy, with the certificate
contract as each of them finds it. -/
def claimInputs (env : Env) (receiver : Address) (policyId : Nat)
    (farmer : Address) (nft nftAfter : Ω) : List (PolicyManager.Input Ω) :=
  [{ env, nft := deployment.certificates.client, outside := nft
     call := .markAsClaimed receiver policyId },
    { env, nft := deployment.certificates.client, outside := nftAfter
      call := .incrementClaimCount receiver farmer }]

variable {deployment}

section Settlement

variable {env : Env} {before : World Ω} {address adapter : Address}
  {call : PayoutReceiver.Call} {state : PayoutReceiver.State}
  {policy : Policy} {report : DamageReport} {digest : BytesN 32}
  {ledger ledgerAfter : SettlementAdapter.State} {obligation : Obligation}
  {nftAfter : Ω}
  (settlement : deployment.Settlement env before address call state policy
    report digest adapter ledger obligation ledgerAfter nftAfter)

include settlement

theorem Settlement.executes_mark :
    (PolicyManager.exec deployment.certificates.client
      (env.invoke deployment.policyManager)
      (.markAsClaimed address report.policyId)).Commits
        (before.policyManager, before.nft) ()
        (before.policyManager.closeActive policy .claimed, nftAfter) := by
  have marks := settlement.handover.marks settlement.active
    settlement.inCover
  rw [settlement.here] at marks
  exact marks

theorem Settlement.executes_count :
    (PolicyManager.exec deployment.certificates.client
      (env.invoke deployment.policyManager)
      (.incrementClaimCount address policy.farmer)).Commits
        (before.policyManager.closeActive policy .claimed, nftAfter) ()
        (claimedManager before.policyManager policy env.timestamp,
          nftAfter) := by
  have counts := settlement.handover.counts
  rw [settlement.here] at counts
  exact (internal_commits _ _ _ _).mpr ⟨_, counts, rfl⟩

/-- PolicyManager accepts both calls of a verified submission. -/
theorem Settlement.manager_run :
    claimedManager before.policyManager policy env.timestamp =
      History.run PolicyManager.apply before.policyManager
        (deployment.claimInputs (env.invoke deployment.policyManager) address
          report.policyId policy.farmer before.nft nftAfter) := by
  have marked : PolicyManager.apply before.policyManager
      { env := env.invoke deployment.policyManager
        nft := deployment.certificates.client, outside := before.nft
        call := .markAsClaimed address report.policyId } =
      before.policyManager.closeActive policy .claimed :=
    congrArg Prod.fst settlement.executes_mark.advance_eq
  have counted : PolicyManager.apply
      (before.policyManager.closeActive policy .claimed)
      { env := env.invoke deployment.policyManager
        nft := deployment.certificates.client, outside := nftAfter
        call := .incrementClaimCount address policy.farmer } =
      claimedManager before.policyManager policy env.timestamp :=
    congrArg Prod.fst settlement.executes_count.advance_eq
  unfold claimInputs
  rw [History.run_cons, History.run_cons, History.run_nil, marked, counted]

/-- The adapter accepts the record of a verified submission. -/
theorem Settlement.adapter_run :
    SettlementAdapter.apply ledger
        { env := env.invoke adapter
          call := .recordObligation address report.policyId policy.org
            report.payoutAmount digest } = ledgerAfter := by
  have recorded := settlement.handover.recorded
  rw [settlement.here] at recorded
  have executed : (SettlementAdapter.exec (env.invoke adapter)
      (.recordObligation address report.policyId policy.org
        report.payoutAmount digest)).Commits ledger () ledgerAfter := by
    simp only [SettlementAdapter.exec, bind_commits, pure_commits]
    exact ⟨obligation, ledgerAfter, recorded, trivial, rfl⟩
  exact executed.advance_eq

end Settlement

theorem managerInput_of_claimInputs {receiver : Address}
    {receiverCall : PayoutReceiver.Call} {env : Env} {policyId : Nat}
    {farmer : Address} {nft nftAfter : Ω}
    (called : invocation.call = .receiver receiver receiverCall)
    (made : Made invocation receiver deployment.policyManager env) :
    ∀ input ∈ deployment.claimInputs env receiver policyId farmer nft
      nftAfter, deployment.ManagerInput invocation input := by
  unfold claimInputs
  intro input member
  rcases List.mem_cons.mp member with rfl | later
  · exact .marked policyId nft called made
  · obtain rfl := List.mem_singleton.mp later
    exact .counted farmer nftAfter called made

section Steps

variable {world after : World Ω}
  (commits : (deployment.exec invocation).Commits world () after)

include commits

/-- An accepted invocation reaches PolicyManager by a group of its inputs. -/
theorem manager_reacts :
    ∃ group, (∀ input ∈ group, deployment.ManagerInput invocation input) ∧
      after.policyManager =
        History.run PolicyManager.apply world.policyManager group := by
  obtain ⟨timestamp, signers, call⟩ := invocation
  cases call with
  | policyManager call =>
      obtain ⟨_, reached, rfl⟩ := (onNeighbors_commits _ _ _ _).mp commits
      obtain ⟨changed, executed, rfl⟩ :=
        (onManager_commits _ _ _ _).mp reached
      exact ⟨[_], List.forall_mem_singleton.mpr (.direct world.nft rfl),
        (congrArg Prod.fst executed.advance_eq).symm⟩
  | receiver address call =>
      cases deployment.exec_step _ commits with
      | administered => exact ⟨[], by simp, rfl⟩
      | swapped => exact ⟨[], by simp, rfl⟩
      | settled settlement =>
          exact ⟨_, managerInput_of_claimInputs rfl
            (made_invoke deployment _ deployment.policyManager), settlement.manager_run⟩
  | adapter address call =>
      cases deployment.exec_step _ commits
      exact ⟨[], by simp, rfl⟩
  | nft call =>
      cases deployment.exec_step _ commits
      exact ⟨[], by simp, rfl⟩
  | expireMarker address preimageHash =>
      cases deployment.exec_step _ commits
      exact ⟨[], by simp, rfl⟩

/-- An accepted invocation reaches an adapter by a group of its inputs. -/
theorem adapter_reacts {adapter : Address} {ledger : SettlementAdapter.State}
    (found : world.adapters adapter = some ledger) :
    ∃ group, (∀ input ∈ group, deployment.AdapterInput adapter invocation
        input) ∧
      after.adapters adapter =
        some (History.run SettlementAdapter.apply ledger group) := by
  obtain ⟨timestamp, signers, call⟩ := invocation
  cases call with
  | policyManager call =>
      cases deployment.exec_step _ commits
      exact ⟨[], by simp, found⟩
  | receiver address call =>
      cases deployment.exec_step _ commits with
      | administered => exact ⟨[], by simp, found⟩
      | swapped => exact ⟨[], by simp, found⟩
      | @settled _ other _ _ policy report digest ledgerOther ledgerAfter _ _
          settlement =>
          have handover := settlement.handover
          by_cases here : adapter = other
          · have foundOther := handover.found
            rw [← here] at foundOther
            change world.adapters adapter = some ledgerOther at foundOther
            rw [found] at foundOther
            cases foundOther
            rw [here]
            exact ⟨[_], List.forall_mem_singleton.mpr
              (.recorded report.policyId policy.org report.payoutAmount digest
                rfl (made_invoke deployment _ other)),
              (Function.update_self ..).trans
                (congrArg some settlement.adapter_run.symm)⟩
          · refine ⟨[], by simp, ?_⟩
            exact (Function.update_of_ne here _ _).trans found
  | adapter address call =>
      obtain ⟨_, reached, rfl⟩ := (onNeighbors_commits _ _ _ _).mp commits
      obtain ⟨other, changed, foundOther, executed, rfl⟩ :=
        (onAdapter_commits _ _ _ _ _).mp reached
      by_cases here : adapter = address
      · rw [← here] at foundOther
        change world.adapters adapter = some other at foundOther
        rw [found] at foundOther
        cases foundOther
        rw [here]
        exact ⟨[_], List.forall_mem_singleton.mpr (.direct rfl),
          (Function.update_self ..).trans
            (congrArg some executed.advance_eq.symm)⟩
      · refine ⟨[], by simp, ?_⟩
        exact (Function.update_of_ne here _ _).trans found
  | nft call =>
      cases deployment.exec_step _ commits
      exact ⟨[], by simp, found⟩
  | expireMarker address preimageHash =>
      cases deployment.exec_step _ commits
      exact ⟨[], by simp, found⟩

/-- An accepted invocation reaches a receiver directly. -/
theorem receiver_reacts {receiver : Address} {state : PayoutReceiver.State}
    (installed : world.receivers receiver = some state) :
    ∃ group, (∀ input ∈ group, deployment.ReceiverInput receiver invocation
        input) ∧
      after.receivers receiver = some
        (History.run (PayoutReceiver.apply deployment.crypto) state
          group) := by
  obtain ⟨timestamp, signers, call⟩ := invocation
  cases call with
  | policyManager call =>
      cases deployment.exec_step _ commits
      exact ⟨[], by simp, installed⟩
  | receiver address call =>
      obtain ⟨other, changed, found, executed, rfl⟩ :=
        (onReceiver_commits _ _ _ _ _).mp commits
      by_cases here : receiver = address
      · rw [here, found] at installed
        cases installed
        rw [here]
        exact ⟨[_], List.forall_mem_singleton.mpr
            (.direct world.toNeighbors rfl),
          (Function.update_self ..).trans
            (congrArg (some ∘ Prod.fst) executed.advance_eq).symm⟩
      · exact ⟨[], by simp,
          (Function.update_of_ne here _ _).trans installed⟩
  | adapter address call =>
      cases deployment.exec_step _ commits
      exact ⟨[], by simp, installed⟩
  | nft call =>
      cases deployment.exec_step _ commits
      exact ⟨[], by simp, installed⟩
  | expireMarker address preimageHash =>
      obtain ⟨other, _, found, executed, rfl⟩ :=
        (onReceiver_commits _ _ _ _ _).mp commits
      obtain ⟨changed, dropped, rfl⟩ :=
        (internal_commits _ _ _ _).mp executed
      obtain rfl := (modify_commits _ _ _ _).mp dropped
      by_cases here : receiver = address
      · rw [here, found] at installed
        cases installed
        rw [here]
        exact ⟨[_], List.forall_mem_singleton.mpr (.markerExpired rfl),
          Function.update_self ..⟩
      · exact ⟨[], by simp,
          (Function.update_of_ne here _ _).trans installed⟩

end Steps

/-! ## PolicyNft -/

section Certificates

variable {deployment : Deployment PolicyNft.State PolicyNft.Call}
  {nftAddress nftAdmin : Address}
  {invocation : Invocation PolicyNft.Call}

variable (deployment) in
/-- Calls of PolicyNft: the invocation itself, or a mint or an update that
PolicyManager makes in its own name. -/
inductive CertificateInput (invocation : Invocation PolicyNft.Call) :
    PolicyNft.Input → Prop
  | direct {call : PolicyNft.Call} (called : invocation.call = .nft call) :
      CertificateInput invocation { env := deployment.env invocation, call }
  | minted {caller farmer distributor : Address} {policyId : Nat}
      {distributorName region : String} {sumInsured premium : Int}
      {startDate endDate plotId : Nat} {coverageType : CoverageType}
      {env : Env}
      (called : invocation.call = .policyManager
        (.activatePolicy caller policyId distributor distributorName region))
      (made : Made invocation deployment.policyManager
        deployment.certificates.address env) :
      CertificateInput invocation
        { env
          call := .mintPolicy deployment.policyManager farmer policyId
            distributor distributorName sumInsured premium startDate endDate
            coverageType region plotId }
  | deactivated {env : Env} (policyId : Nat)
      (made : Made invocation deployment.policyManager
        deployment.certificates.address env) :
      CertificateInput invocation
        { env
          call := .updatePolicyStatus deployment.policyManager policyId
            false }

/-- A mint reaches PolicyNft where it is deployed. -/
theorem mints_react {env : Env} {address caller farmer distributor : Address}
    {policyId tokenId startDate endDate plotId : Nat}
    {distributorName region : String} {sumInsured premium : Int}
    {coverageType : CoverageType} {before after : PolicyNft.State}
    (minted : ((PolicyNft.clientAt nftAddress
      (env.invoke address)).mintPolicy caller farmer policyId distributor
        distributorName sumInsured premium startDate endDate coverageType
        region plotId).Commits before tokenId after) :
    address = nftAddress ∧
      PolicyNft.apply before
        { env := env.invoke nftAddress
          call := .mintPolicy caller farmer policyId distributor
            distributorName sumInsured premium startDate endDate coverageType
            region plotId } = after := by
  rw [PolicyNft.clientAt, Env.invoke_currentContract] at minted
  by_cases same : address = nftAddress
  · rw [if_pos same, same] at minted
    have executed : (PolicyNft.exec (env.invoke nftAddress)
        (.mintPolicy caller farmer policyId distributor distributorName
          sumInsured premium startDate endDate coverageType region
          plotId)).Commits before () after := by
      simp only [PolicyNft.exec, bind_commits, pure_commits]
      exact ⟨tokenId, after, minted, trivial, rfl⟩
    exact ⟨same, executed.advance_eq⟩
  · rw [if_neg same] at minted
    exact absurd minted (fail_commits _ _ _ _)

/-- A deactivation reaches PolicyNft by at most one update. -/
theorem deactivates_reacts {env : Env} {stored : Option Address}
    {policyId : Nat} {before after : PolicyNft.State}
    (deactivates : PolicyManager.Deactivates (PolicyNft.clientAt nftAddress)
      env stored policyId before after) :
    ∃ group, (∀ input ∈ group, input =
        { env := env.invoke nftAddress
          call := .updatePolicyStatus env.currentContract policyId false }) ∧
      after = History.run PolicyNft.apply before group := by
  cases stored with
  | none => exact ⟨[], by simp, deactivates⟩
  | some address =>
      obtain ⟨minted, middle, queried, rest⟩ := deactivates
      by_cases here : address = nftAddress
      · have client : PolicyNft.clientAt nftAddress (env.invoke address) =
            PolicyNft.clientAt nftAddress (env.invoke nftAddress) := by
          rw [here]
        rw [client, PolicyNft.clientAt, Env.invoke_currentContract,
          if_pos rfl] at queried rest
        obtain ⟨-, rfl⟩ := (read_commits _ _ _ _).mp queried
        cases minted with
        | false => exact ⟨[], by simp, rest⟩
        | true =>
            rcases rest with updated | ⟨error, -, -, rfl⟩
            · exact ⟨_, fun input => List.mem_singleton.mp,
                (Commits.advance_eq updated).symm⟩
            · exact ⟨[], by simp, rfl⟩
      · rw [PolicyNft.clientAt, Env.invoke_currentContract,
          if_neg here] at queried
        exact absurd queried (fail_commits _ _ _ _)

variable (real : deployment.certificates =
  PolicyNft.certificates nftAddress nftAdmin)

include real

/-- An accepted invocation reaches PolicyNft by a group of its inputs. -/
theorem certificates_react {world after : World PolicyNft.State}
    (commits : (deployment.exec invocation).Commits world () after) :
    ∃ group, (∀ input ∈ group,
        deployment.CertificateInput invocation input) ∧
      after.nft = History.run PolicyNft.apply world.nft group := by
  have address : deployment.certificates.address = nftAddress := by
    rw [real]
    rfl
  have client : deployment.certificates.client =
      PolicyNft.clientAt nftAddress := by
    rw [real]
    rfl
  have deactivated : ∀ {env : Env} {stored : Option Address}
      {policyId : Nat} {before after : PolicyNft.State},
      env.timestamp = invocation.time →
        env.currentContract = deployment.policyManager →
          PolicyManager.Deactivates deployment.certificates.client env stored
              policyId before after →
            ∃ group, (∀ input ∈ group,
                deployment.CertificateInput invocation input) ∧
              after = History.run PolicyNft.apply before group := by
    intro env stored policyId before after now here deactivates
    rw [client] at deactivates
    obtain ⟨group, updates, final⟩ := deactivates_reacts deactivates
    refine ⟨group, ?_, final⟩
    intro input member
    rw [updates input member, here, ← address]
    apply CertificateInput.deactivated
    have made := made_of_env env deployment.certificates.address now
    rw [here] at made
    exact made
  have step := deployment.exec_step invocation commits
  generalize called : invocation.call = call at step
  cases step with
  | managed here effect =>
      cases effect with
      | administered => exact ⟨[], by simp, rfl⟩
      | sold => exact ⟨[], by simp, rfl⟩
      | @activated _ _ _ _ _ other _ _ _ _ _ _ _ _ _ _ _ minted =>
          rw [client] at minted
          obtain ⟨same, mint⟩ := mints_react minted
          rw [here] at mint
          have made := made_of_env (deployment.env invocation) other rfl
          rw [here, same, ← address] at made
          rw [← address] at mint
          exact ⟨[_], List.forall_mem_singleton.mpr (.minted called made),
            mint.symm⟩
      | closedActive stored active cause deactivates =>
          exact deactivated rfl here deactivates
      | closedPending => exact ⟨[], by simp, rfl⟩
      | claimCounted => exact ⟨[], by simp, rfl⟩
      | alreadyExpired => exact ⟨[], by simp, rfl⟩
  | administered => exact ⟨[], by simp, rfl⟩
  | swapped => exact ⟨[], by simp, rfl⟩
  | settled settlement =>
      exact deactivated rfl rfl settlement.handover.deactivates
  | booked => exact ⟨[], by simp, rfl⟩
  | @certified call nftAfter executed =>
      rw [real] at executed
      exact ⟨[_], List.forall_mem_singleton.mpr (.direct called),
        executed.advance_eq.symm⟩
  | markerExpired => exact ⟨[], by simp, rfl⟩

end Certificates

/-! ## Every run -/

section Run

/-- What an accepted invocation does to a component by its inputs, a refused
one does by none. -/
theorem reacts_apply {τ Μ : Type} {Cause : Invocation κ → Μ → Prop}
    (view : World Ω → Option τ) {react : τ → Μ → τ}
    (reacts : ∀ {invocation world after part},
      (deployment.exec invocation).Commits world () after →
        view world = some part →
          ∃ group, (∀ input ∈ group, Cause invocation input) ∧
            view after = some (History.run react part group))
    (invocations : List (Invocation κ)) {part : τ}
    (start : view deployment.genesis = some part) :
    ∃ inputs, History.Causes Cause invocations inputs ∧
      view (deployment.run invocations) =
        some (History.run react part inputs) := by
  refine History.run_component deployment.apply view react ?_ invocations start
  intro world invocation part found
  rcases advance_cases (deployment.exec invocation) world with
    ⟨-, same⟩ | ⟨-, _, commits⟩
  · refine ⟨[], by simp, ?_⟩
    rw [apply, same]
    exact found
  · exact reacts commits found

end Run

/-- The runs of the contracts of which a run of the system is composed. -/
structure Composed (deployment : Deployment PolicyNft.State PolicyNft.Call)
    (nftAdmin : Address) (invocations : List (Invocation PolicyNft.Call))
    (world : World PolicyNft.State) : Prop where
  policyManager : ∃ inputs,
    History.Causes deployment.ManagerInput invocations inputs ∧
      (History.Chronological Invocation.time invocations →
        History.Chronological PolicyManager.Input.time inputs) ∧
      world.policyManager = History.run PolicyManager.apply
        (PolicyManager.constructor deployment.admin) inputs
  adapters : ∀ address admin, deployment.adapters address = some admin →
    ∃ inputs,
      History.Causes (deployment.AdapterInput address) invocations inputs ∧
        (History.Chronological Invocation.time invocations →
          History.Chronological SettlementAdapter.Input.time inputs) ∧
        world.adapters address =
          some (SettlementAdapter.run admin inputs)
  receivers : ∀ address setup, deployment.receivers address = some setup →
    ∃ inputs,
      History.Causes (deployment.ReceiverInput address) invocations inputs ∧
        world.receivers address = some
          (History.run (PayoutReceiver.apply deployment.crypto)
            (PayoutReceiver.constructor setup.1 deployment.policyManager
              setup.2) inputs)
  certificates : ∃ inputs,
    History.Causes deployment.CertificateInput invocations inputs ∧
      world.nft = History.run PolicyNft.apply
        (PolicyNft.constructor nftAdmin) inputs

theorem ManagerInput.time_eq {invocation : Invocation κ}
    {input : PolicyManager.Input Ω}
    (reached : deployment.ManagerInput invocation input) :
    input.time = invocation.time := by
  cases reached with
  | direct => rfl
  | marked policyId outside called made => exact made.timestamp
  | counted farmer outside called made => exact made.timestamp

theorem AdapterInput.time_eq {adapter : Address} {invocation : Invocation κ}
    {input : SettlementAdapter.Input}
    (reached : deployment.AdapterInput adapter invocation input) :
    input.time = invocation.time := by
  cases reached with
  | direct => rfl
  | recorded policyId org amount digest called made => exact made.timestamp

/-- In every run, each contract is in the state to which a run of its own
leads.  Its calls are the invocations of its entrypoints and the calls that
the other contracts make in their own name, at the times of the invocations
and in their order. -/
theorem componentRuns {nftAddress nftAdmin : Address}
    (deployment : Deployment PolicyNft.State PolicyNft.Call)
    (real : deployment.certificates =
      PolicyNft.certificates nftAddress nftAdmin)
    (invocations : List (Invocation PolicyNft.Call)) :
    deployment.Composed nftAdmin invocations
      (deployment.run invocations) where
  policyManager := by
    obtain ⟨inputs, causes, final⟩ := deployment.reacts_apply
      (fun world => some world.policyManager)
      (fun commits found => by
        obtain ⟨group, caused, after⟩ := manager_reacts commits
        exact ⟨group, caused, by rw [after, ← Option.some.inj found]⟩)
      invocations rfl
    exact ⟨inputs, causes, causes.chronological fun _ _ =>
      ManagerInput.time_eq, Option.some.inj final⟩
  adapters address admin present := by
    obtain ⟨inputs, causes, final⟩ := deployment.reacts_apply
      (fun world => world.adapters address)
      (fun commits found => adapter_reacts commits found) invocations
      (Option.map_eq_some_iff.mpr ⟨admin, present, rfl⟩)
    exact ⟨inputs, causes, causes.chronological fun _ _ =>
      AdapterInput.time_eq, final⟩
  receivers address setup present :=
    deployment.reacts_apply (fun world => world.receivers address)
      (fun commits found => receiver_reacts commits found) invocations
      (Option.map_eq_some_iff.mpr ⟨setup, present, rfl⟩)
  certificates := by
    obtain ⟨inputs, causes, final⟩ := deployment.reacts_apply
      (fun world => some world.nft)
      (fun commits found => by
        obtain ⟨group, caused, after⟩ := certificates_react real commits
        exact ⟨group, caused, by rw [after, ← Option.some.inj found]⟩)
      invocations (by rw [genesis, real])
    exact ⟨inputs, causes, Option.some.inj final⟩

theorem componentRuns_season :
    seasonDeployment.Composed (PolicyManager.seasonAddress 1) season
      (seasonDeployment.run season) :=
  componentRuns seasonDeployment
    (rfl : _ = PolicyNft.certificates (seasonContract 3) _) season

end Deployment

end Microcrop
