import Microcrop.DeploymentSteps
import Microcrop.TestnetPolicyFixture

/-!
# The evidence lane

PayoutReceivers and SettlementAdapters run their own code, unchanged, with
the fixture in PolicyManager's place.  There is no lane on mainnet: the
storage that the fixture starts from is what its constructor returned.
-/

namespace Microcrop

open Transaction

namespace EvidenceLane

/-- What a PayoutReceiver of the lane reaches by its calls. -/
structure Neighbors where
  fixture : TestnetPolicyFixture.State
  adapters : Address → Option SettlementAdapter.State

/-- The state of every contract of the lane. -/
structure World extends Neighbors where
  receivers : Address → Option PayoutReceiver.State

/-- The calls that an invocation can make, and the ledger dropping an expired
temporary entry. -/
inductive Call
  | fixture (call : TestnetPolicyFixture.Call)
  | receiver (address : Address) (call : PayoutReceiver.Call)
  | adapter (address : Address) (call : SettlementAdapter.Call)
  | expireMarker (address : Address) (preimageHash : BytesN 32)

/-- A call at a ledger time with the addresses that signed it. -/
structure Invocation where
  timestamp : U64
  signers : Address → Bool
  call : Call

/-- The invocation calls a receiver or an adapter, or drops an entry of
theirs. -/
def Invocation.isShared (invocation : Invocation) : Bool :=
  match invocation.call with
  | .fixture _ => false
  | .receiver _ _ | .adapter _ _ | .expireMarker _ _ => true

end EvidenceLane

/-- Where the contracts of the lane are deployed and what their constructors
received; `start` is the storage of the fixture after its constructor. -/
structure EvidenceLane where
  fixture : Address
  fixtureAdmin : Address
  networkId : BytesN 32
  start : TestnetPolicyFixture.State
  deployed : TestnetPolicyFixture.constructor networkId fixtureAdmin =
    some start
  receivers : Address → Option (Address × Address)
  adapters : Address → Option Address
  crypto : Crypto

namespace EvidenceLane

/-! ## Reaching a contract -/

section Reach

variable {α : Type}

/-- Run code of the fixture. -/
def onFixture (program : Contract TestnetPolicyFixture.State α) :
    Contract Neighbors α :=
  zoom (fun neighbors => .ok neighbors.fixture)
    (fun after neighbors => { neighbors with fixture := after }) program

/-- Run code of the SettlementAdapter at `address`. -/
def onAdapter (address : Address)
    (program : Contract SettlementAdapter.State α) : Contract Neighbors α :=
  zoom (fun neighbors => findContract neighbors.adapters address)
    (fun after neighbors =>
      { neighbors with
        adapters := Function.update neighbors.adapters address (some after) })
    program

/-- Run code that reaches everything but the receivers. -/
def onNeighbors (program : Contract Neighbors α) : Contract World α :=
  zoom (fun world => .ok world.toNeighbors)
    (fun after world => { world with toNeighbors := after }) program

/-- Run code of the PayoutReceiver at `address`. -/
def onReceiver (address : Address)
    (program : Contract (PayoutReceiver.State × Neighbors) α) :
    Contract World α :=
  zoom
    (fun world =>
      match findContract world.receivers address with
      | .ok state => .ok (state, world.toNeighbors)
      | .error error => .error error)
    (fun after world =>
      { toNeighbors := after.2
        receivers :=
          Function.update world.receivers address (some after.1) })
    program

@[simp]
theorem onFixture_commits (program : Contract TestnetPolicyFixture.State α)
    (before after : Neighbors) (result : α) :
    (onFixture program).Commits before result after ↔
      ∃ changed, program.Commits before.fixture result changed ∧
        after = { before with fixture := changed } := by
  simp [onFixture]

@[simp]
theorem onAdapter_commits (address : Address)
    (program : Contract SettlementAdapter.State α)
    (before after : Neighbors) (result : α) :
    (onAdapter address program).Commits before result after ↔
      ∃ ledger changed, before.adapters address = some ledger ∧
        program.Commits ledger result changed ∧
          after =
            { before with
              adapters := Function.update before.adapters address
                (some changed) } := by
  simp [onAdapter, findContract_eq_ok]

@[simp]
theorem onNeighbors_commits (program : Contract Neighbors α)
    (before after : World) (result : α) :
    (onNeighbors program).Commits before result after ↔
      ∃ changed, program.Commits before.toNeighbors result changed ∧
        after = { before with toNeighbors := changed } := by
  simp [onNeighbors]

@[simp]
theorem onReceiver_commits (address : Address)
    (program : Contract (PayoutReceiver.State × Neighbors) α)
    (before after : World) (result : α) :
    (onReceiver address program).Commits before result after ↔
      ∃ state changed, before.receivers address = some state ∧
        program.Commits (state, before.toNeighbors) result changed ∧
          after =
            { toNeighbors := changed.2
              receivers := Function.update before.receivers address
                (some changed.1) } := by
  cases found : before.receivers address with
  | none => simp [onReceiver, findContract, found]
  | some state => simp [onReceiver, findContract, found]

end Reach

variable (lane : EvidenceLane)

/-! ## The machine -/

/-- The lane right after the constructors ran. -/
def genesis : World where
  fixture := lane.start
  receivers address := (lane.receivers address).map fun setup =>
    PayoutReceiver.constructor setup.1 lane.fixture setup.2
  adapters address :=
    (lane.adapters address).map SettlementAdapter.constructor

/-- The contracts whose code never signs an invocation. -/
def isContract (address : Address) : Bool :=
  address = lane.fixture ||
    (lane.receivers address).isSome ||
      (lane.adapters address).isSome

/-- The contract that an invocation calls. -/
def target : Call → Address
  | .fixture _ => lane.fixture
  | .receiver address _ => address
  | .adapter address _ => address
  | .expireMarker address _ => address

/-- The environment of an invocation. -/
def env (invocation : Invocation) : Env where
  timestamp := invocation.timestamp
  timestamp_lt := invocation.timestamp.isLt
  currentContract := lane.target invocation.call
  authorized address :=
    invocation.signers address && !lane.isContract address

/-- The client for the fixture of the lane; no other address holds a
PolicyManager. -/
def managerClient (env : Env) : PolicyManagerClient Neighbors :=
  if env.currentContract = lane.fixture then
    { getPolicy := fun policyId =>
        onFixture (TestnetPolicyFixture.getPolicy policyId)
      policyExists := fun policyId =>
        onFixture (read fun state => state.policyExists policyId)
      canFarmerClaim := fun farmer =>
        onFixture (read fun state => state.canFarmerClaim farmer)
      markAsClaimed := fun caller policyId =>
        onFixture (TestnetPolicyFixture.markAsClaimed env caller policyId)
      incrementClaimCount := fun caller farmer =>
        onFixture (TestnetPolicyFixture.incrementClaimCount env caller
          farmer) }
  else .missing

/-- The client for the SettlementAdapters of the lane. -/
def adapterClient (env : Env) : SettlementAdapterClient Neighbors where
  recordObligation caller policyId org amount determinationDigest :=
    onAdapter env.currentContract (SettlementAdapter.recordObligation env
      caller policyId org amount determinationDigest)
  payoutReceiver :=
    onAdapter env.currentContract
      (read SettlementAdapter.State.payoutReceiver)

/-- Run one invocation. -/
def exec (invocation : Invocation) : Contract World Unit :=
  let env := lane.env invocation
  match invocation.call with
  | .fixture call =>
      onNeighbors (onFixture (TestnetPolicyFixture.exec env call))
  | .receiver address call =>
      onReceiver address (PayoutReceiver.exec lane.crypto lane.managerClient
        adapterClient env call)
  | .adapter address call =>
      onNeighbors (onAdapter address (SettlementAdapter.exec env call))
  | .expireMarker address preimageHash =>
      onReceiver address (internal (modify fun state =>
        state.expireMarker preimageHash))

/-- Whether the invocation is accepted. -/
def accepts (world : World) (invocation : Invocation) : Bool :=
  (lane.exec invocation).committed world

/-- The state after one invocation. -/
def apply (world : World) (invocation : Invocation) : World :=
  (lane.exec invocation).advance world

/-- The state after the invocations, from the constructors on. -/
def run (invocations : List Invocation) : World :=
  History.run lane.apply lane.genesis invocations

/-- The transitions of a run, oldest first. -/
def trace (invocations : List Invocation) :
    List (Transition World Invocation) :=
  History.trace lane.apply lane.genesis invocations

/-! ## The answers of the fixture -/

section Clients

variable {lane} {env : Env} (before : Neighbors)
  (here : env.currentContract = lane.fixture)

include here

theorem policyExists_commits {policyId : Nat} {policy : Policy}
    (stored : before.fixture.policies policyId = some policy) :
    ((lane.managerClient env).policyExists policyId).Commits before true
      before := by
  rw [managerClient, if_pos here]
  simp [TestnetPolicyFixture.State.policyExists, stored]

theorem getPolicy_commits {policyId : Nat} {policy : Policy}
    (stored : before.fixture.policies policyId = some policy) :
    ((lane.managerClient env).getPolicy policyId).Commits before policy
      before := by
  rw [managerClient, if_pos here]
  simp [TestnetPolicyFixture.getPolicy, stored]

theorem canFarmerClaim_commits (farmer : Address) :
    ((lane.managerClient env).canFarmerClaim farmer).Commits before true
      before := by
  rw [managerClient, if_pos here]
  simp [TestnetPolicyFixture.State.canFarmerClaim]

theorem managerMarkAsClaimed_commits {caller : Address} {policyId : Nat}
    {policy : Policy} (signed : env.authorized caller = true)
    (oracle : before.fixture.roles .oracle caller = true)
    (stored : before.fixture.policies policyId = some policy) :
    ((lane.managerClient env).markAsClaimed caller policyId).Commits before ()
      { before with
        fixture := before.fixture.savePolicy policyId
          { policy with status := .claimed } } := by
  rw [managerClient, if_pos here]
  refine (onFixture_commits ..).mpr ⟨_, ?_, rfl⟩
  exact (TestnetPolicyFixture.markAsClaimed_commits ..).mpr
    ⟨signed, oracle, policy, stored, rfl⟩

theorem managerIncrementClaimCount_commits {caller farmer : Address}
    (signed : env.authorized caller = true)
    (oracle : before.fixture.roles .oracle caller = true)
    (fits : before.fixture.claimCount farmer + 1 < 2 ^ 32) :
    ((lane.managerClient env).incrementClaimCount caller farmer).Commits
      before ()
      { before with
        fixture := before.fixture.saveClaimCount farmer
          (before.fixture.claimCount farmer + 1) } := by
  rw [managerClient, if_pos here]
  refine (onFixture_commits ..).mpr ⟨_, ?_, rfl⟩
  exact (TestnetPolicyFixture.incrementClaimCount_commits ..).mpr
    ⟨signed, oracle, fits, rfl⟩

end Clients

theorem payoutReceiver_commits {env : Env} {before : Neighbors}
    {ledger : SettlementAdapter.State}
    (found : before.adapters env.currentContract = some ledger) :
    ((adapterClient env).payoutReceiver).Commits before ledger.payoutReceiver
      before := by
  simp only [adapterClient, onAdapter_commits, read_commits]
  refine ⟨ledger, ledger, found, ⟨rfl, rfl⟩, ?_⟩
  rw [← found, Function.update_eq_self]

end EvidenceLane

end Microcrop
