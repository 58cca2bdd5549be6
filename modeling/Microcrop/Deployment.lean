import Microcrop.PayoutReceiver
import Microcrop.PolicyManager
import Microcrop.PolicyNft
import Microcrop.SettlementAdapter
import Microcrop.TransitionHistory

/-!
# The deployed system

One PolicyManager, a certificate contract and any number of PayoutReceivers
and SettlementAdapters, each running its own code and calling the others.  An
invocation of any entrypoint is one atomic step of the system: a refused one
changes nothing, and contracts are not re-entered.
-/

namespace Microcrop

open Transaction

/-- What a PayoutReceiver reaches by its calls; `nft` is the state of the
certificate contract and of whatever else answers PolicyManager. -/
structure Neighbors (Ω : Type) where
  policyManager : PolicyManager.State
  adapters : Address → Option SettlementAdapter.State
  nft : Ω

/-- The state of every contract of the system. -/
structure World (Ω : Type) extends Neighbors Ω where
  receivers : Address → Option PayoutReceiver.State

/-- The certificate contract as the other contracts reach it. -/
structure Certificates (Ω κ : Type) where
  address : Address
  genesis : Ω
  client : Env → PolicyNftClient Ω
  exec : Env → κ → Contract Ω Unit
  ownErrors : ∀ env, (client env).OwnErrors

/-- PolicyNft, deployed at `address`. -/
def PolicyNft.certificates (address admin : Address) :
    Certificates PolicyNft.State PolicyNft.Call where
  address := address
  genesis := PolicyNft.constructor admin
  client := PolicyNft.clientAt address
  exec := PolicyNft.exec
  ownErrors := PolicyNft.clientAt_ownErrors address

/-- Where the contracts are deployed and what their constructors received: the
SettlementAdapter and the administrator of each PayoutReceiver, and the
administrator of each SettlementAdapter. -/
structure Deployment (Ω κ : Type) where
  policyManager : Address
  admin : Address
  receivers : Address → Option (Address × Address)
  adapters : Address → Option Address
  certificates : Certificates Ω κ
  crypto : Crypto

/-- The calls that an invocation can make, and the ledger dropping an expired
temporary entry. -/
inductive World.Call (κ : Type)
  | policyManager (call : PolicyManager.Call)
  | receiver (address : Address) (call : PayoutReceiver.Call)
  | adapter (address : Address) (call : SettlementAdapter.Call)
  | nft (call : κ)
  | expireMarker (address : Address) (preimageHash : BytesN 32)

/-- A call at a ledger time with the addresses that signed it. -/
structure Invocation (κ : Type) where
  timestamp : U64
  signers : Address → Bool
  call : World.Call κ

namespace Invocation

variable {κ : Type}

def time (invocation : Invocation κ) : Nat :=
  invocation.timestamp

end Invocation

namespace Deployment

variable {Ω κ : Type} (deployment : Deployment Ω κ)

/-- The system right after the constructors ran. -/
def genesis : World Ω where
  policyManager := PolicyManager.constructor deployment.admin
  receivers address := (deployment.receivers address).map fun setup =>
    PayoutReceiver.constructor setup.1 deployment.policyManager setup.2
  adapters address :=
    (deployment.adapters address).map SettlementAdapter.constructor
  nft := deployment.certificates.genesis

/-- The contracts whose code never signs an invocation. -/
def isContract (address : Address) : Bool :=
  address = deployment.policyManager ||
    (deployment.receivers address).isSome ||
      (deployment.adapters address).isSome

/-- The contract that an invocation calls. -/
def target : World.Call κ → Address
  | .policyManager _ => deployment.policyManager
  | .receiver address _ => address
  | .adapter address _ => address
  | .nft _ => deployment.certificates.address
  | .expireMarker address _ => address

/-- The environment of an invocation. -/
def env (invocation : Invocation κ) : Env where
  timestamp := invocation.timestamp
  timestamp_lt := invocation.timestamp.isLt
  currentContract := deployment.target invocation.call
  authorized address :=
    invocation.signers address && !deployment.isContract address

end Deployment

/-! ## Reaching a contract -/

section Reach

variable {Ω α : Type}

/-- Run code of PolicyManager. -/
def onManager (program : Contract (PolicyManager.State × Ω) α) :
    Contract (Neighbors Ω) α :=
  zoom (fun neighbors => .ok (neighbors.policyManager, neighbors.nft))
    (fun after neighbors =>
      { neighbors with policyManager := after.1, nft := after.2 })
    program

/-- The contract stored at an address, or the trap of calling an address that
holds none. -/
def findContract {σ : Type} (contracts : Address → Option σ)
    (address : Address) : Except Error σ :=
  match contracts address with
  | some state => .ok state
  | none => .error (.host .missingContract)

/-- Run code of the SettlementAdapter at `address`. -/
def onAdapter (address : Address)
    (program : Contract SettlementAdapter.State α) :
    Contract (Neighbors Ω) α :=
  zoom (fun neighbors => findContract neighbors.adapters address)
    (fun after neighbors =>
      { neighbors with
        adapters := Function.update neighbors.adapters address (some after) })
    program

/-- Run code of the certificate contract. -/
def onNft (program : Contract Ω α) : Contract (Neighbors Ω) α :=
  zoom (fun neighbors => .ok neighbors.nft)
    (fun after neighbors => { neighbors with nft := after }) program

/-- Run code that reaches everything but the receivers. -/
def onNeighbors (program : Contract (Neighbors Ω) α) : Contract (World Ω) α :=
  zoom (fun world => .ok world.toNeighbors)
    (fun after world => { world with toNeighbors := after }) program

/-- Run code of the PayoutReceiver at `address`. -/
def onReceiver (address : Address)
    (program : Contract (PayoutReceiver.State × Neighbors Ω) α) :
    Contract (World Ω) α :=
  zoom
    (fun world =>
      match findContract world.receivers address with
      | .ok state => .ok (state, world.toNeighbors)
      | .error error => .error error)
    (fun after world =>
      { toNeighbors := after.2
        receivers :=
          Function.update world.receivers address (some after.1) })
    program

end Reach

namespace Deployment

variable {Ω κ : Type} (deployment : Deployment Ω κ)

/-- The client for the PolicyManager of the deployment; no other address
holds one. -/
def managerClient (env : Env) : PolicyManagerClient (Neighbors Ω) :=
  if env.currentContract = deployment.policyManager then
    { getPolicy := fun policyId =>
        onManager (internal (PolicyManager.loadPolicy policyId))
      policyExists := fun policyId =>
        onManager (internal (read fun state => state.policyExists policyId))
      canFarmerClaim := fun farmer =>
        onManager (internal (read fun state =>
          state.canFarmerClaim env.timestamp farmer))
      markAsClaimed := fun caller policyId =>
        onManager (PolicyManager.markAsClaimed deployment.certificates.client
          env caller policyId)
      incrementClaimCount := fun caller farmer =>
        onManager (internal (PolicyManager.incrementClaimCount env caller
          farmer)) }
  else .missing

/-- The client for the SettlementAdapters of the deployment. -/
def adapterClient (env : Env) : SettlementAdapterClient (Neighbors Ω) where
  recordObligation caller policyId org amount determinationDigest :=
    onAdapter env.currentContract (SettlementAdapter.recordObligation env
      caller policyId org amount determinationDigest)
  payoutReceiver :=
    onAdapter env.currentContract
      (read SettlementAdapter.State.payoutReceiver)

/-- Run one invocation. -/
def exec (invocation : Invocation κ) : Contract (World Ω) Unit :=
  let env := deployment.env invocation
  match invocation.call with
  | .policyManager call =>
      onNeighbors (onManager (PolicyManager.exec
        deployment.certificates.client env call))
  | .receiver address call =>
      onReceiver address (PayoutReceiver.exec deployment.crypto
        deployment.managerClient adapterClient env call)
  | .adapter address call =>
      onNeighbors (onAdapter address (SettlementAdapter.exec env call))
  | .nft call => onNeighbors (onNft (deployment.certificates.exec env call))
  | .expireMarker address preimageHash =>
      onReceiver address (internal (modify fun state =>
        state.expireMarker preimageHash))

/-- Whether the invocation is accepted. -/
def accepts (world : World Ω) (invocation : Invocation κ) : Bool :=
  (deployment.exec invocation).committed world

/-- The state after one invocation. -/
def apply (world : World Ω) (invocation : Invocation κ) : World Ω :=
  (deployment.exec invocation).advance world

/-- The state after the invocations, from the constructors on. -/
def run (invocations : List (Invocation κ)) : World Ω :=
  History.run deployment.apply deployment.genesis invocations

/-- The transitions of that run. -/
def trace (invocations : List (Invocation κ)) :
    List (Transition (World Ω) (Invocation κ)) :=
  History.trace deployment.apply deployment.genesis invocations

end Deployment

end Microcrop
