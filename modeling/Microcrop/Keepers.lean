import Microcrop.DeploymentSteps

/-!
# Keepers

The permissionless entrypoints that keep the entries of the four contracts
alive.  TTLs are not part of the state, so of an extension only its trap is
left; what a keeper reads, and which siblings it calls, follows the source
statement by statement.  Together with the invocations they make up the
operations of the system.
-/

namespace Microcrop

open Transaction

/-! ## Extending entries -/

section Entries

variable {σ α : Type}

/-- `extend_ttl` of a persistent entry.  The host refuses a missing entry as
it refuses a missing contract. -/
def extendEntry (entry : σ → Option α) : Contract σ Unit := do
  let stored ← read entry
  let _ ← unwrapOr stored (.host .missingContract)
  pure ()

/-- The extension of an entry that need not be there. -/
def extendIfStored (entry : σ → Option α) : Contract σ Unit := do
  let stored ← read entry
  if stored.isSome then extendEntry entry else pure ()

theorem extendEntry_readOnly (entry : σ → Option α) :
    (extendEntry entry).ReadOnly :=
  (read_readOnly _).bind fun _ =>
    (unwrapOr_readOnly _ _).bind fun _ => pure_readOnly _

theorem extendIfStored_readOnly (entry : σ → Option α) :
    (extendIfStored entry).ReadOnly := by
  refine (read_readOnly _).bind fun stored => ?_
  split
  · exact extendEntry_readOnly entry
  · exact pure_readOnly _

end Entries

namespace PolicyNft

/-- `extend_policy_ttl`. -/
def extendPolicyTtl (policyId : Nat) : Contract State Unit := do
  let token ← read fun state => state.policyToToken policyId
  match token with
  | some tokenId => do
      let stored ← read fun state => state.certificates tokenId
      match stored with
      | some _ => do
          extendEntry fun state : State => state.policyToToken policyId
          extendEntry fun state : State => state.certificates tokenId
          extendIfStored fun state : State => state.owners tokenId
      | none => pure ()
  | none => pure ()

/-- `extend_contract_ttl` extends the instance only. -/
def extendContractTtl : Contract State Unit :=
  pure ()

theorem extendPolicyTtl_readOnly (policyId : Nat) :
    (extendPolicyTtl policyId).ReadOnly := by
  refine (read_readOnly _).bind fun token => ?_
  cases token with
  | none => exact pure_readOnly _
  | some tokenId =>
      refine (read_readOnly _).bind fun stored => ?_
      cases stored with
      | none => exact pure_readOnly _
      | some certificate =>
          exact (extendEntry_readOnly _).bind fun _ =>
            (extendEntry_readOnly _).bind fun _ => extendIfStored_readOnly _

end PolicyNft

namespace SettlementAdapter

/-- `extend_entries`. -/
def extendEntries (obligation : Obligation) : Contract State Unit := do
  extendEntry fun state : State => state.obligations obligation.id
  extendEntry fun state : State =>
    state.obligationOf obligation.payoutReceiver obligation.policyId
  extendEntry fun state : State =>
    state.orgObligationAt obligation.org obligation.orgIndex
  extendEntry fun state : State => state.orgObligationCounts obligation.org

/-- `extend_obligation_ttl`: nothing for an unknown or a Settled
obligation. -/
def extendObligationTtl (obligationId : Nat) : Contract State Unit := do
  let stored ← read fun state => state.obligations obligationId
  match stored with
  | some obligation =>
      if obligation.status ≠ .settled then extendEntries obligation
      else pure ()
  | none => pure ()

/-- `extend_contract_ttl` extends the instance only. -/
def extendContractTtl : Contract State Unit :=
  pure ()

theorem extendEntries_readOnly (obligation : Obligation) :
    (extendEntries obligation).ReadOnly :=
  (extendEntry_readOnly _).bind fun _ => (extendEntry_readOnly _).bind fun _ =>
    (extendEntry_readOnly _).bind fun _ => extendEntry_readOnly _

theorem extendObligationTtl_readOnly (obligationId : Nat) :
    (extendObligationTtl obligationId).ReadOnly := by
  refine (read_readOnly _).bind fun stored => ?_
  cases stored with
  | none => exact pure_readOnly _
  | some obligation =>
      change (ite _ _ _ : Contract State Unit).ReadOnly
      split
      · exact extendEntries_readOnly obligation
      · exact pure_readOnly _

end SettlementAdapter

namespace PolicyManager

variable {Ω : Type}

/-- `extend_contract_ttl`; `keepAlive` extends the instance of a sibling. -/
def extendContractTtl (keepAlive : Address → Contract Ω Unit) :
    Contract (State × Ω) Unit := do
  let policyNft ← internal (read State.policyNft)
  match policyNft with
  | some address => external (keepAlive address)
  | none => pure ()

/-- `extend_policy_ttl`: the policy, the entries of its farmer and its org,
and, best effort, its certificate. -/
def extendPolicyTtl (extendCertificate : Address → Nat → Contract Ω Unit)
    (policyId : Nat) : Contract (State × Ω) Unit := do
  let policy ← internal (loadPolicy policyId)
  internal (extendEntry fun state => state.policies policyId)
  internal (extendIfStored fun state => state.pendingCounted policyId)
  internal (extendIfStored fun state =>
    state.farmerActiveCounts policy.farmer)
  internal (extendIfStored fun state =>
    state.farmerPendingCounts policy.farmer)
  internal (extendIfStored fun state =>
    state.farmerPolicyCounts policy.farmer)
  internal (extendIfStored fun state => state.orgOutstandings policy.org)
  internal (extendIfStored fun state => state.farmerClaimTimes policy.farmer)
  let policyNft ← internal (read State.policyNft)
  match policyNft with
  | some address => do
      let _ ← attempt (external (extendCertificate address policyId))
      pure ()
  | none => pure ()

theorem loadPolicy_readOnly (policyId : Nat) :
    (loadPolicy policyId).ReadOnly :=
  (read_readOnly _).bind fun _ => unwrapOr_readOnly _ _

theorem extendContractTtl_readOnly {keepAlive : Address → Contract Ω Unit}
    (keeps : ∀ address, (keepAlive address).ReadOnly) :
    (extendContractTtl keepAlive).ReadOnly := by
  refine (read_readOnly _).internal.bind fun policyNft => ?_
  cases policyNft with
  | none => exact pure_readOnly _
  | some address => exact (keeps address).external

theorem extendPolicyTtl_readOnly
    {extendCertificate : Address → Nat → Contract Ω Unit}
    (certified : ∀ address policyId,
      (extendCertificate address policyId).ReadOnly) (policyId : Nat) :
    (extendPolicyTtl extendCertificate policyId).ReadOnly := by
  refine (loadPolicy_readOnly policyId).internal.bind fun policy => ?_
  refine (extendEntry_readOnly _).internal.bind fun _ => ?_
  -- the entries of the policy, its farmer and its org that may be missing
  iterate 6 refine (extendIfStored_readOnly _).internal.bind fun _ => ?_
  refine (read_readOnly _).internal.bind fun policyNft => ?_
  cases policyNft with
  | none => exact pure_readOnly _
  | some address =>
      exact (certified address policyId).external.attempt.bind fun _ =>
        pure_readOnly _

end PolicyManager

namespace PayoutReceiver

variable {Ω : Type}

/-- What the keepers of a PayoutReceiver call on PolicyManager. -/
structure ManagerKeepers (Ω : Type) where
  getPolicy : (policyId : Nat) → Contract Ω Policy
  extendPolicyTtl : (policyId : Nat) → Contract Ω Unit
  extendContractTtl : Contract Ω Unit

/-- What the keepers of a PayoutReceiver call on its SettlementAdapter. -/
structure AdapterKeepers (Ω : Type) where
  findObligation : (payoutReceiver : Address) → (policyId : Nat) →
    Contract Ω (Option Nat)
  extendObligationTtl : (obligationId : Nat) → Contract Ω Unit

/-- The obligation that the look-up found, best effort. -/
def extendFound (adapter : AdapterKeepers Ω) :
    Except Error (Option Nat) → Contract (State × Ω) Unit
  | .ok (some id) => do
      let _ ← attempt (external (adapter.extendObligationTtl id))
      pure ()
  | _ => pure ()

/-- `extend_policy_ttl` of the receiver at `self`: the policy across all four
contracts. -/
def extendPolicyTtl (self : Address) (pm : Address → ManagerKeepers Ω)
    (adapters : Address → AdapterKeepers Ω) (policyId : Nat) :
    Contract (State × Ω) Unit := do
  let (adapter, policyManager) ← internal siblings
  let _ ← external ((pm policyManager).getPolicy policyId)
  internal (extendIfStored fun state => state.policyPaid policyId)
  internal (extendIfStored fun state => state.reports policyId)
  let found ← attempt (external
    ((adapters adapter).findObligation self policyId))
  extendFound (adapters adapter) found
  external ((pm policyManager).extendPolicyTtl policyId)

/-- `extend_contract_ttl`: all four contracts. -/
def extendContractTtl (keepAlive : Address → Contract Ω Unit)
    (pm : Address → ManagerKeepers Ω) : Contract (State × Ω) Unit := do
  let (adapter, policyManager) ← internal siblings
  external (keepAlive adapter)
  external (pm policyManager).extendContractTtl

theorem siblings_readOnly : siblings.ReadOnly :=
  (read_readOnly _).bind fun _ => (unwrapOr_readOnly _ _).bind fun _ =>
    (read_readOnly _).bind fun _ => (unwrapOr_readOnly _ _).bind fun _ =>
      pure_readOnly _

/-- The keepers of a sibling PolicyManager change nothing. -/
structure ManagerKeepers.ReadOnly (keepers : ManagerKeepers Ω) : Prop where
  getPolicy : ∀ policyId, (keepers.getPolicy policyId).ReadOnly
  extendPolicyTtl : ∀ policyId, (keepers.extendPolicyTtl policyId).ReadOnly
  extendContractTtl : keepers.extendContractTtl.ReadOnly

/-- The keepers of a sibling SettlementAdapter change nothing. -/
structure AdapterKeepers.ReadOnly (keepers : AdapterKeepers Ω) : Prop where
  findObligation : ∀ payoutReceiver policyId,
    (keepers.findObligation payoutReceiver policyId).ReadOnly
  extendObligationTtl : ∀ obligationId,
    (keepers.extendObligationTtl obligationId).ReadOnly

theorem extendFound_readOnly {adapter : AdapterKeepers Ω}
    (readOnly : adapter.ReadOnly) (found : Except Error (Option Nat)) :
    (extendFound adapter found).ReadOnly := by
  match found with
  | .ok (some id) =>
      exact (readOnly.extendObligationTtl id).external.attempt.bind fun _ =>
        pure_readOnly _
  | .ok none => exact pure_readOnly _
  | .error _ => exact pure_readOnly _

section ReadOnly

variable {pm : Address → ManagerKeepers Ω}
  (managers : ∀ address, (pm address).ReadOnly)

include managers

theorem extendPolicyTtl_readOnly (self : Address)
    {adapters : Address → AdapterKeepers Ω}
    (ledgers : ∀ address, (adapters address).ReadOnly) (policyId : Nat) :
    (extendPolicyTtl self pm adapters policyId).ReadOnly := by
  refine siblings_readOnly.internal.bind fun ⟨adapter, policyManager⟩ => ?_
  have extended := (managers policyManager).extendPolicyTtl policyId
  refine ((managers policyManager).getPolicy policyId).external.bind
    fun _ => ?_
  refine (extendIfStored_readOnly _).internal.bind fun _ => ?_
  refine (extendIfStored_readOnly _).internal.bind fun _ => ?_
  refine ((ledgers adapter).findObligation self policyId).external.attempt.bind
    fun found => ?_
  exact (extendFound_readOnly (ledgers adapter) found).bind fun _ =>
    extended.external

theorem extendContractTtl_readOnly {keepAlive : Address → Contract Ω Unit}
    (keeps : ∀ address, (keepAlive address).ReadOnly) :
    (extendContractTtl keepAlive pm).ReadOnly := by
  refine siblings_readOnly.internal.bind fun ⟨adapter, policyManager⟩ => ?_
  have extended := (managers policyManager).extendContractTtl
  exact (keeps adapter).external.bind fun _ => extended.external

end ReadOnly

end PayoutReceiver

/-! ## Keepers of the deployed system -/

section Reach

variable {Ω α : Type}

theorem onManager_readOnly
    {program : Contract (PolicyManager.State × Ω) α}
    (readOnly : program.ReadOnly) : (onManager program).ReadOnly := by
  apply readOnly.zoom
  intro neighbors component found
  cases found
  rfl

theorem onAdapter_readOnly (address : Address)
    {program : Contract SettlementAdapter.State α}
    (readOnly : program.ReadOnly) :
    (onAdapter address program : Contract (Neighbors Ω) α).ReadOnly := by
  apply readOnly.zoom
  intro neighbors ledger found
  have stored := (findContract_eq_ok _ _ _).mp found
  rw [← stored, Function.update_eq_self]

theorem onNft_readOnly {program : Contract Ω α}
    (readOnly : program.ReadOnly) : (onNft program).ReadOnly := by
  apply readOnly.zoom
  intro neighbors component found
  cases found
  rfl

theorem onNeighbors_readOnly {program : Contract (Neighbors Ω) α}
    (readOnly : program.ReadOnly) : (onNeighbors program).ReadOnly := by
  apply readOnly.zoom
  intro world component found
  cases found
  rfl

theorem onReceiver_readOnly (address : Address)
    {program : Contract (PayoutReceiver.State × Neighbors Ω) α}
    (readOnly : program.ReadOnly) :
    (onReceiver address program).ReadOnly := by
  intro before result after commits
  obtain ⟨state, changed, installed, committed, rfl⟩ :=
    (onReceiver_commits _ _ _ _ _).mp commits
  rw [readOnly _ _ _ committed, ← installed, Function.update_eq_self]

end Reach

/-- A keeper with its arguments. -/
inductive Keeper
  | managerContractTtl
  | managerPolicyTtl (policyId : Nat)
  | receiverContractTtl (address : Address)
  | receiverPolicyTtl (address : Address) (policyId : Nat)
  | adapterContractTtl (address : Address)
  | adapterObligationTtl (address : Address) (obligationId : Nat)
  | nftContractTtl
  | nftPolicyTtl (policyId : Nat)

/-- What can happen to the system: an invocation, or a keeper. -/
inductive Operation
  | invoked (invocation : Invocation PolicyNft.Call)
  | kept (timestamp : U64) (keeper : Keeper)

namespace Operation

def time : Operation → Nat
  | .invoked invocation => invocation.time
  | .kept timestamp _ => timestamp

end Operation

namespace Deployment

variable (deployment : Deployment PolicyNft.State PolicyNft.Call)

/-- `keep_other_contract_alive`: the host extends the instance of any deployed
contract. -/
def keepAlive {σ : Type} (address : Address) : Contract σ Unit :=
  panicIf (¬ (deployment.isContract address = true ∨
    address = deployment.certificates.address)) (.host .missingContract)

/-- `PolicyNft::extend_policy_ttl` as PolicyManager reaches it. -/
def extendCertificate (address : Address) (policyId : Nat) :
    Contract PolicyNft.State Unit :=
  if address = deployment.certificates.address then
    PolicyNft.extendPolicyTtl policyId
  else .fail (.host .missingContract)

/-- The PolicyManager that the keepers of a PayoutReceiver reach. -/
def managerKeepers (address : Address) :
    PayoutReceiver.ManagerKeepers (Neighbors PolicyNft.State) :=
  if address = deployment.policyManager then
    { getPolicy := fun policyId =>
        onManager (internal (PolicyManager.loadPolicy policyId))
      extendPolicyTtl := fun policyId =>
        onManager (PolicyManager.extendPolicyTtl deployment.extendCertificate
          policyId)
      extendContractTtl :=
        onManager (PolicyManager.extendContractTtl deployment.keepAlive) }
  else
    { getPolicy := fun _ => .fail (.host .missingContract)
      extendPolicyTtl := fun _ => .fail (.host .missingContract)
      extendContractTtl := .fail (.host .missingContract) }

/-- The SettlementAdapter that the keepers of a PayoutReceiver reach. -/
def adapterKeepers (address : Address) :
    PayoutReceiver.AdapterKeepers (Neighbors PolicyNft.State) where
  findObligation payoutReceiver policyId :=
    onAdapter address (read fun state =>
      state.findObligation payoutReceiver policyId)
  extendObligationTtl obligationId :=
    onAdapter address (SettlementAdapter.extendObligationTtl obligationId)

/-- Run a keeper. -/
def keep : Keeper → Contract (World PolicyNft.State) Unit
  | .managerContractTtl =>
      onNeighbors (onManager (PolicyManager.extendContractTtl
        deployment.keepAlive))
  | .managerPolicyTtl policyId =>
      onNeighbors (onManager (PolicyManager.extendPolicyTtl
        deployment.extendCertificate policyId))
  | .receiverContractTtl address =>
      onReceiver address (PayoutReceiver.extendContractTtl
        deployment.keepAlive deployment.managerKeepers)
  | .receiverPolicyTtl address policyId =>
      onReceiver address (PayoutReceiver.extendPolicyTtl address
        deployment.managerKeepers adapterKeepers policyId)
  | .adapterContractTtl address =>
      onNeighbors (onAdapter address SettlementAdapter.extendContractTtl)
  | .adapterObligationTtl address obligationId =>
      onNeighbors (onAdapter address
        (SettlementAdapter.extendObligationTtl obligationId))
  | .nftContractTtl => onNeighbors (onNft PolicyNft.extendContractTtl)
  | .nftPolicyTtl policyId =>
      onNeighbors (onNft (PolicyNft.extendPolicyTtl policyId))

theorem keepAlive_readOnly {σ : Type} (address : Address) :
    (deployment.keepAlive address : Contract σ Unit).ReadOnly :=
  panicIf_readOnly _ _

theorem extendCertificate_readOnly (address : Address) (policyId : Nat) :
    (deployment.extendCertificate address policyId).ReadOnly := by
  unfold extendCertificate
  split
  · exact PolicyNft.extendPolicyTtl_readOnly policyId
  · exact fail_readOnly _

theorem managerKeepers_readOnly (address : Address) :
    (deployment.managerKeepers address).ReadOnly := by
  unfold managerKeepers
  split
  · constructor
    · intro policyId
      exact onManager_readOnly
        (PolicyManager.loadPolicy_readOnly policyId).internal
    · intro policyId
      exact onManager_readOnly (PolicyManager.extendPolicyTtl_readOnly
        deployment.extendCertificate_readOnly policyId)
    · exact onManager_readOnly (PolicyManager.extendContractTtl_readOnly
        deployment.keepAlive_readOnly)
  · constructor
    · intro policyId
      exact fail_readOnly _
    · intro policyId
      exact fail_readOnly _
    · exact fail_readOnly _

theorem adapterKeepers_readOnly (address : Address) :
    (adapterKeepers address).ReadOnly where
  findObligation _ _ := onAdapter_readOnly address (read_readOnly _)
  extendObligationTtl obligationId := onAdapter_readOnly address
    (SettlementAdapter.extendObligationTtl_readOnly obligationId)

/-- A keeper changes no stored value of any contract. -/
theorem keep_readOnly (keeper : Keeper) :
    (deployment.keep keeper).ReadOnly := by
  have certified := deployment.extendCertificate_readOnly
  have keeps : ∀ {σ : Type} (address : Address),
      (deployment.keepAlive address : Contract σ Unit).ReadOnly :=
    deployment.keepAlive_readOnly
  have managers := deployment.managerKeepers_readOnly
  cases keeper with
  | managerContractTtl =>
      exact onNeighbors_readOnly (onManager_readOnly
        (PolicyManager.extendContractTtl_readOnly keeps))
  | managerPolicyTtl policyId =>
      exact onNeighbors_readOnly (onManager_readOnly
        (PolicyManager.extendPolicyTtl_readOnly certified policyId))
  | receiverContractTtl address =>
      exact onReceiver_readOnly address
        (PayoutReceiver.extendContractTtl_readOnly managers keeps)
  | receiverPolicyTtl address policyId =>
      exact onReceiver_readOnly address
        (PayoutReceiver.extendPolicyTtl_readOnly managers address
          adapterKeepers_readOnly policyId)
  | adapterContractTtl address =>
      exact onNeighbors_readOnly
        (onAdapter_readOnly address (pure_readOnly _))
  | adapterObligationTtl address obligationId =>
      exact onNeighbors_readOnly (onAdapter_readOnly address
        (SettlementAdapter.extendObligationTtl_readOnly obligationId))
  | nftContractTtl =>
      exact onNeighbors_readOnly (onNft_readOnly (pure_readOnly _))
  | nftPolicyTtl policyId =>
      exact onNeighbors_readOnly
        (onNft_readOnly (PolicyNft.extendPolicyTtl_readOnly policyId))

/-- The state after one operation. -/
def operate (world : World PolicyNft.State) :
    Operation → World PolicyNft.State
  | .invoked invocation => deployment.apply world invocation
  | .kept _ keeper => (deployment.keep keeper).advance world

/-- The transitions of a run of operations, from the constructors on. -/
def traceOperations (operations : List Operation) :
    List (Transition (World PolicyNft.State) Operation) :=
  History.trace deployment.operate deployment.genesis operations

@[simp]
theorem operate_kept (world : World PolicyNft.State) (timestamp : U64)
    (keeper : Keeper) :
    deployment.operate world (.kept timestamp keeper) = world :=
  (deployment.keep_readOnly keeper).advance_eq world

end Deployment

end Microcrop
