import Microcrop.Keepers
import Microcrop.LeasedStorage
import Microcrop.Ttl

/-!
# The per-policy keepers with their TTLs

`extend_policy_ttl` of the four contracts over storages that keep the
remaining TTL of every entry.  The calls that the source makes with `try_`
reach clients that may answer anything: a refusal, a value that does not
convert, or a value.
-/

namespace Microcrop

open Transaction Leased

/-! ## Extending entries -/

section Entries

variable {σ κ α : Type} [DecidableEq κ]

/-- `touch_contract` of a contract: its instance and its code. -/
def touchStorage (contractInstance contractCode : κ) (ledger : LedgerInfo) :
    Contract (Leased κ σ) Unit := do
  onLease contractInstance (touchContract ledger)
  onLease contractCode (touchContract ledger)

/-- A helper called on an entry, which the host refuses if it is missing. -/
def extendStored (entry : σ → Option α) (key : κ)
    (helper : Contract Nat Unit) : Contract (Leased κ σ) Unit := do
  onValues (extendEntry entry)
  onLease key helper

/-- A helper called on an entry if the storage has it. -/
def extendPresent (entry : σ → Option α) (key : κ)
    (helper : Contract Nat Unit) : Contract (Leased κ σ) Unit := do
  let stored ← onValues (read entry)
  if stored.isSome then extendStored entry key helper else pure ()

end Entries

/-- A returned value that does not convert to the type that the caller
expects. -/
inductive ConversionError
  | conversion
  deriving DecidableEq

/-- The calls that the keepers make with `try_`, at the address stored for the
contract.  The inner result is what the answer converts to. -/
structure TryClients (Ω : Type) where
  findObligation : (adapter payoutReceiver : Address) → (policyId : Nat) →
    Contract Ω (Except ConversionError (Option Nat))
  extendObligationTtl : (adapter : Address) → (obligationId : Nat) →
    Contract Ω (Except ConversionError Unit)
  extendPolicyTtl : (policyNft : Address) → (policyId : Nat) →
    Contract Ω (Except ConversionError Unit)

namespace PolicyNft

/-- `DataKey`, the role grants, and the instance and code of the contract. -/
inductive EntryKey
  | contractInstance
  | contractCode
  | role (role : Role) (who : Address)
  | certificate (tokenId : Nat)
  | owner (tokenId : Nat)
  | policyToToken (policyId : Nat)
  | distributorCount (distributor : Address)
  | distributorPolicy (distributor : Address) (index : Nat)
  deriving DecidableEq

/-- PolicyNft with the TTLs of its entries. -/
abbrev Storage := Leased EntryKey State

namespace WithTtl

/-- `extend_policy_ttl`. -/
def extendPolicyTtl (ledger : LedgerInfo) (policyId : Nat) :
    Contract Storage Unit := do
  touchStorage .contractInstance .contractCode ledger
  let token ← onValues (read fun state => state.policyToToken policyId)
  match token with
  | some tokenId => do
      let stored ← onValues (read fun state => state.certificates tokenId)
      match stored with
      | some certificate => do
          extendStored (fun state => state.policyToToken policyId)
            (.policyToToken policyId)
            (extendForPolicy ledger certificate.endDate)
          extendStored (fun state => state.certificates tokenId)
            (.certificate tokenId)
            (extendForPolicy ledger certificate.endDate)
          extendPresent (fun state => state.owners tokenId) (.owner tokenId)
            (extendForPolicy ledger certificate.endDate)
      | none => pure ()
  | none => pure ()

end WithTtl

end PolicyNft

namespace SettlementAdapter

/-- `DataKey`, the role grants, and the instance and code of the contract. -/
inductive EntryKey
  | contractInstance
  | contractCode
  | role (role : Role) (who : Address)
  | obligation (id : Nat)
  | obligationOf (payoutReceiver : Address) (policyId : Nat)
  | orgObligationCount (org : Address)
  | orgObligationAt (org : Address) (index : Nat)
  deriving DecidableEq

/-- SettlementAdapter with the TTLs of its entries.  `extended` is a ghost:
the obligations whose entries were extended, oldest first. -/
structure Storage where
  leased : Leased EntryKey State
  extended : List Obligation

namespace WithTtl

/-- Run a program on everything but the ghost. -/
def onLeased {α : Type} (program : Contract (Leased EntryKey State) α) :
    Contract Storage α :=
  zoom (fun storage => .ok storage.leased)
    (fun after storage => { storage with leased := after }) program

/-- `extend_entries`, which the ghost records. -/
def extendEntries (ledger : LedgerInfo) (obligation : Obligation) :
    Contract Storage Unit := do
  onLeased (extendStored (fun state => state.obligations obligation.id)
    (.obligation obligation.id) (extendPending ledger))
  onLeased (extendStored
    (fun state =>
      state.obligationOf obligation.payoutReceiver obligation.policyId)
    (.obligationOf obligation.payoutReceiver obligation.policyId)
    (extendPending ledger))
  onLeased (extendStored
    (fun state => state.orgObligationAt obligation.org obligation.orgIndex)
    (.orgObligationAt obligation.org obligation.orgIndex)
    (extendPending ledger))
  onLeased (extendStored
    (fun state => state.orgObligationCounts obligation.org)
    (.orgObligationCount obligation.org) (extendShared ledger none))
  modify fun storage =>
    { storage with extended := storage.extended ++ [obligation] }

/-- `find_obligation`. -/
def findObligation (payoutReceiver : Address) (policyId : Nat) :
    Contract Storage (Option Nat) :=
  onLeased (onValues (read fun state =>
    state.findObligation payoutReceiver policyId))

/-- `extend_obligation_ttl`. -/
def extendObligationTtl (ledger : LedgerInfo) (obligationId : Nat) :
    Contract Storage Unit := do
  onLeased (touchStorage .contractInstance .contractCode ledger)
  let stored ← onLeased (onValues (read fun state =>
    state.obligations obligationId))
  match stored with
  | some obligation =>
      if obligation.status ≠ .settled then extendEntries ledger obligation
      else pure ()
  | none => pure ()

end WithTtl

end SettlementAdapter

namespace PolicyManager

/-- `DataKey`, the role grants, and the instance and code of the contract. -/
inductive EntryKey
  | contractInstance
  | contractCode
  | role (role : Role) (who : Address)
  | policy (policyId : Nat)
  | farmerPolicyCount (farmer : Address)
  | farmerPolicyAt (farmer : Address) (index : Nat)
  | farmerActiveCount (farmer : Address)
  | farmerPendingCount (farmer : Address)
  | farmerClaimTimes (farmer : Address)
  | pendingCounted (policyId : Nat)
  | orgOutstanding (org : Address)
  deriving DecidableEq

/-- PolicyManager with the TTLs of its entries. -/
abbrev Storage := Leased EntryKey State

namespace WithTtl

/-- `bump_policy`. -/
def bumpPolicy (ledger : LedgerInfo) (policy : Policy) :
    Contract Storage Unit :=
  match policy.status with
  | .pending | .active =>
      extendStored (fun state => state.policies policy.id)
        (.policy policy.id) (extendForPolicy ledger policy.endDate)
  | .expired | .cancelled | .claimed => pure ()

/-- `load_policy`, which is also `get_policy`. -/
def loadPolicy (ledger : LedgerInfo) (policyId : Nat) :
    Contract Storage Policy := do
  let policy ← onValues (PolicyManager.loadPolicy policyId)
  bumpPolicy ledger policy
  pure policy

/-- The entries of the farmer and the org that the policy depends on. -/
def extendRelated (ledger : LedgerInfo) (policy : Policy) :
    Contract Storage Unit := do
  extendPresent (fun state => state.farmerActiveCounts policy.farmer)
    (.farmerActiveCount policy.farmer)
    (extendShared ledger (some policy.endDate))
  extendPresent (fun state => state.farmerPendingCounts policy.farmer)
    (.farmerPendingCount policy.farmer)
    (extendShared ledger (some policy.endDate))
  extendPresent (fun state => state.farmerPolicyCounts policy.farmer)
    (.farmerPolicyCount policy.farmer)
    (extendShared ledger (some policy.endDate))
  extendPresent (fun state => state.orgOutstandings policy.org)
    (.orgOutstanding policy.org)
    (extendShared ledger (some policy.endDate))
  extendPresent (fun state => state.farmerClaimTimes policy.farmer)
    (.farmerClaimTimes policy.farmer) (extendForSecs ledger claimHistorySecs)

/-- The part of `extend_policy_ttl` before the certificate. -/
def extendOwnEntries (ledger : LedgerInfo) (policyId : Nat) :
    Contract Storage Unit := do
  let policy ← loadPolicy ledger policyId
  extendStored (fun state => state.policies policyId) (.policy policyId)
    (extendForPolicy ledger policy.endDate)
  extendPresent (fun state => state.pendingCounted policyId)
    (.pendingCounted policyId) (extendForPolicy ledger policy.endDate)
  extendRelated ledger policy
  touchStorage .contractInstance .contractCode ledger

variable {Ω : Type}

/-- The certificate of the policy, best effort. -/
def extendCertificate (clients : TryClients Ω) (policyId : Nat) :
    Option Address → Contract Ω Unit
  | some address => do
      let _ ← attempt (clients.extendPolicyTtl address policyId)
      pure ()
  | none => pure ()

/-- `extend_policy_ttl`. -/
def extendPolicyTtl (clients : TryClients Ω) (ledger : LedgerInfo)
    (policyId : Nat) : Contract (Storage × Ω) Unit := do
  internal (extendOwnEntries ledger policyId)
  let policyNft ← internal (onValues (read State.policyNft))
  external (extendCertificate clients policyId policyNft)

end WithTtl

end PolicyManager

namespace PayoutReceiver

/-- `DataKey`, the role grants, and the instance and code of the contract. -/
inductive EntryKey
  | contractInstance
  | contractCode
  | role (role : Role) (who : Address)
  | report (policyId : Nat)
  | policyPaid (policyId : Nat)
  | consumedDetermination (preimageHash : BytesN 32)
  deriving DecidableEq

/-- PayoutReceiver with the TTLs of its entries. -/
abbrev Storage := Leased EntryKey State

namespace WithTtl

variable {Ω : Type}

/-- A call of the PolicyManager deployed at `manager`; every other address
holds none. -/
def callManager {α : Type} (manager address : Address)
    (program : Contract (PolicyManager.Storage × Ω) α) :
    Contract (PolicyManager.Storage × Ω) α :=
  if address = manager then program else .fail (.host .missingContract)

/-- The obligation that the look-up found, best effort. -/
def extendFound (clients : TryClients Ω) (adapter : Address) :
    Except Error (Except ConversionError (Option Nat)) → Contract Ω Unit
  | .ok (.ok (some id)) => do
      let _ ← attempt (clients.extendObligationTtl adapter id)
      pure ()
  | _ => pure ()

/-- `extend_policy_ttl` of the receiver that `env` runs. -/
def extendPolicyTtl (manager : Address) (clients : TryClients Ω) (env : Env)
    (ledger : LedgerInfo) (policyId : Nat) :
    Contract (Storage × (PolicyManager.Storage × Ω)) Unit := do
  internal (touchStorage .contractInstance .contractCode ledger)
  let (adapter, policyManager) ← internal (onValues siblings)
  let policy ← external (callManager manager policyManager
    (internal (PolicyManager.WithTtl.loadPolicy ledger policyId)))
  internal (extendPresent (fun state => state.policyPaid policyId)
    (.policyPaid policyId) (extendForPolicy ledger policy.endDate))
  internal (extendPresent (fun state => state.reports policyId)
    (.report policyId) (extendForPolicy ledger policy.endDate))
  let found ← external (external (attempt
    (clients.findObligation adapter env.currentContract policyId)))
  external (external (extendFound clients adapter found))
  external (callManager manager policyManager
    (PolicyManager.WithTtl.extendPolicyTtl clients ledger policyId))

end WithTtl

end PayoutReceiver

/-! ## The deployed contracts -/

/-- The deployed SettlementAdapters, and whatever answers for PolicyNft. -/
structure TryNeighbors (Ω : Type) where
  adapters : Address → Option SettlementAdapter.Storage
  nft : Ω

section Deployed

variable {Ω σ α : Type}

/-- A returned value of the type that the caller expects. -/
def converted (program : Contract σ α) :
    Contract σ (Except ConversionError α) := do
  let value ← program
  pure (.ok value)

/-- Run code of the SettlementAdapter at `address`. -/
def onAdapterStorage (address : Address)
    (program : Contract SettlementAdapter.Storage α) :
    Contract (TryNeighbors Ω) α :=
  zoom (fun neighbors => findContract neighbors.adapters address)
    (fun after neighbors =>
      { neighbors with
        adapters := Function.update neighbors.adapters address (some after) })
    program

/-- Run code of whatever answers for PolicyNft. -/
def onNftStorage (program : Contract Ω α) : Contract (TryNeighbors Ω) α :=
  zoom (fun neighbors => .ok neighbors.nft)
    (fun after neighbors => { neighbors with nft := after }) program

/-- The clients that reach the deployed SettlementAdapters. -/
def adapterClients (ledger : LedgerInfo)
    (certify : (policyNft : Address) → (policyId : Nat) →
      Contract Ω (Except ConversionError Unit)) :
    TryClients (TryNeighbors Ω) where
  findObligation adapter payoutReceiver policyId :=
    onAdapterStorage adapter (converted
      (SettlementAdapter.WithTtl.findObligation payoutReceiver policyId))
  extendObligationTtl adapter obligationId :=
    onAdapterStorage adapter (converted
      (SettlementAdapter.WithTtl.extendObligationTtl ledger obligationId))
  extendPolicyTtl policyNft policyId :=
    onNftStorage (certify policyNft policyId)

end Deployed

/-- The certificate contract of the deployment as PolicyManager tries it. -/
def Deployment.tryCertificate
    (deployment : Deployment PolicyNft.State PolicyNft.Call)
    (ledger : LedgerInfo) (policyNft : Address) (policyId : Nat) :
    Contract PolicyNft.Storage (Except ConversionError Unit) :=
  if policyNft = deployment.certificates.address then
    converted (PolicyNft.WithTtl.extendPolicyTtl ledger policyId)
  else .fail (.host .missingContract)

end Microcrop
