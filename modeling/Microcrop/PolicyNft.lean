import Mathlib.Logic.Function.Basic
import Mathlib.Tactic.Simps.Basic
import Microcrop.Interfaces

/-!
# PolicyNft

The certificate contract of `crates/policy-nft`: one certificate for each
activated policy, under the policy's id, owned by the farmer and bound to the
farmer while it is active.
-/

namespace Microcrop

namespace PolicyNft

open Transaction

/-- Storage of PolicyNft, one field for each `DataKey` that an entrypoint
reads. -/
structure State where
  roles : Roles
  policyManager : Option Address
  certificates : Nat → Option PolicyCertificate
  policyToToken : Nat → Option Nat
  owners : Nat → Option Address
  distributorCounts : Address → Option Nat
  distributorPolicyAt : Address → Nat → Option Nat

instance : RoleStorage State where
  roles state := state.roles
  setRoles roles state := { state with roles }

@[simp]
theorem roleStorage_roles (state : State) :
    RoleStorage.roles state = state.roles :=
  rfl

@[simp]
theorem roleStorage_setRoles (roles : Roles) (state : State) :
    RoleStorage.setRoles roles state = { state with roles } :=
  rfl

/-- `__constructor`. -/
def constructor (admin : Address) : State where
  roles := Roles.grant (fun _ _ => false) .admin admin
  policyManager := none
  certificates _ := none
  policyToToken _ := none
  owners _ := none
  distributorCounts _ := none
  distributorPolicyAt _ _ := none

namespace State

def distributorCount (state : State) (distributor : Address) : Nat :=
  (state.distributorCounts distributor).getD 0

def policyNftExists (state : State) (policyId : Nat) : Bool :=
  (state.policyToToken policyId).isSome

/-- Certificate, token index and ownership of a new token. -/
@[simps]
def saveToken (state : State) (tokenId policyId : Nat)
    (certificate : PolicyCertificate) (farmer : Address) : State :=
  { state with
    certificates :=
      Function.update state.certificates tokenId (some certificate)
    policyToToken :=
      Function.update state.policyToToken policyId (some tokenId)
    owners := Function.update state.owners tokenId (some farmer) }

/-- Append a token to its distributor's index. -/
@[simps]
def appendDistributorPolicy (state : State) (distributor : Address)
    (index tokenId : Nat) : State :=
  { state with
    distributorPolicyAt := Function.update state.distributorPolicyAt
      distributor
      (Function.update (state.distributorPolicyAt distributor) index
        (some tokenId))
    distributorCounts := Function.update state.distributorCounts distributor
      (some (index + 1)) }

@[simps]
def saveCertificate (state : State) (tokenId : Nat)
    (certificate : PolicyCertificate) : State :=
  { state with
    certificates :=
      Function.update state.certificates tokenId (some certificate) }

@[simps]
def setOwner (state : State) (tokenId : Nat) (owner : Address) : State :=
  { state with owners := Function.update state.owners tokenId (some owner) }

end State

/-! ## Administration -/

def setPolicyManager (env : Env) (caller policyManager : Address) :
    Contract State Unit := do
  requireRole env caller .admin
  modify fun state => { state with policyManager := some policyManager }
  publish (.policyManagerUpdated policyManager)

def grantRole (env : Env) (caller : Address) (role : Role) (who : Address) :
    Contract State Unit := do
  requireRole env caller .admin
  Microcrop.grantRole role who

def revokeRole (env : Env) (caller : Address) (role : Role) (who : Address) :
    Contract State Unit := do
  requireRole env caller .admin
  Microcrop.revokeRole role who

/-! ## Certificates -/

def mintPolicy (env : Env) (caller farmer : Address) (policyId : Nat)
    (distributor : Address) (distributorName : String)
    (sumInsured premium : Int) (startDate endDate : Nat)
    (coverageType : CoverageType) (region : String) (plotId : Nat) :
    Contract State Nat := do
  requireRole env caller .minter
  panicIf (policyId = 0) (.nft .invalidPolicyId)
  let minted ← read fun state => (state.policyToToken policyId).isSome
  panicIf (minted = true) (.nft .policyAlreadyMinted)
  let tokenId := policyId
  let certificate : PolicyCertificate :=
    { policyId, farmer, distributor, distributorName, sumInsured, premium
      startDate, endDate, coverageType, region, plotId, isActive := true }
  modify fun state => state.saveToken tokenId policyId certificate farmer
  let index ← read fun state => state.distributorCount distributor
  let _ ← addUnsigned 32 index 1
  modify fun state =>
    state.appendDistributorPolicy distributor index tokenId
  publish (.policyNftMinted tokenId policyId farmer distributor sumInsured)
  pure tokenId

def updatePolicyStatus (env : Env) (caller : Address) (policyId : Nat)
    (isActive : Bool) : Contract State Unit := do
  let policyManager ← read State.policyManager
  panicIf (policyManager ≠ some caller) (.nft .notPolicyManager)
  requireAuth env caller
  let token ← read fun state => state.policyToToken policyId
  let tokenId ← unwrapOr token (.nft .policyNotFound)
  let stored ← read fun state => state.certificates tokenId
  let certificate ← unwrapOr stored (.nft .policyNotFound)
  modify fun state =>
    state.saveCertificate tokenId { certificate with isActive }
  publish (.policyStatusUpdated tokenId isActive)

/-- Soulbound transfer: an active certificate does not move. -/
def transfer (env : Env) (source target : Address) (tokenId : Nat) :
    Contract State Unit := do
  requireAuth env source
  let owned ← read fun state => state.owners tokenId
  let owner ← unwrapOr owned (.nft .tokenNotFound)
  panicIf (owner ≠ source) (.common .unauthorized)
  let stored ← read fun state => state.certificates tokenId
  let certificate ← unwrapOr stored (.nft .tokenNotFound)
  panicIf (certificate.isActive = true) (.nft .transferWhileActive)
  modify fun state => state.setOwner tokenId target
  publish (.transfer source target tokenId)

/-! ## Entrypoints -/

/-- The state-changing entrypoints with their arguments. -/
inductive Call
  | setPolicyManager (caller policyManager : Address)
  | grantRole (caller : Address) (role : Role) (who : Address)
  | revokeRole (caller : Address) (role : Role) (who : Address)
  | mintPolicy (caller farmer : Address) (policyId : Nat)
      (distributor : Address) (distributorName : String)
      (sumInsured premium : Int) (startDate endDate : Nat)
      (coverageType : CoverageType) (region : String) (plotId : Nat)
  | updatePolicyStatus (caller : Address) (policyId : Nat) (isActive : Bool)
  | transfer (source target : Address) (tokenId : Nat)

/-- Run an entrypoint, dropping its return value. -/
def exec (env : Env) : Call → Contract State Unit
  | .setPolicyManager caller policyManager =>
      setPolicyManager env caller policyManager
  | .grantRole caller role who => grantRole env caller role who
  | .revokeRole caller role who => revokeRole env caller role who
  | .mintPolicy caller farmer policyId distributor distributorName sumInsured
      premium startDate endDate coverageType region plotId => do
      let _ ← mintPolicy env caller farmer policyId distributor
        distributorName sumInsured premium startDate endDate coverageType
        region plotId
      pure ()
  | .updatePolicyStatus caller policyId isActive =>
      updatePolicyStatus env caller policyId isActive
  | .transfer source target tokenId => transfer env source target tokenId

/-- One call to PolicyNft. -/
structure Input where
  env : Env
  call : Call

/-- Whether the call is accepted. -/
def accepts (state : State) (input : Input) : Bool :=
  (exec input.env input.call).committed state

/-- The state after one call; a refused call leaves it unchanged. -/
def apply (state : State) (input : Input) : State :=
  (exec input.env input.call).advance state

/-- The client that reaches the certificate contract deployed at `address`,
and traps anywhere else. -/
def clientAt (address : Address) (env : Env) : PolicyNftClient State :=
  if env.currentContract = address then
    { policyNftExists := fun policyId =>
        read fun state => state.policyNftExists policyId
      updatePolicyStatus := fun caller policyId isActive =>
        updatePolicyStatus env caller policyId isActive
      mintPolicy := fun caller farmer policyId distributor distributorName
          sumInsured premium startDate endDate coverageType region plotId =>
        mintPolicy env caller farmer policyId distributor distributorName
          sumInsured premium startDate endDate coverageType region plotId }
  else .missing

/-! ## What a call can do -/

/-- The certificate that `mint_policy` writes. -/
def newCertificate (farmer : Address) (policyId : Nat)
    (distributor : Address) (distributorName : String)
    (sumInsured premium : Int) (startDate endDate : Nat)
    (coverageType : CoverageType) (region : String) (plotId : Nat) :
    PolicyCertificate where
  policyId := policyId
  farmer := farmer
  distributor := distributor
  distributorName := distributorName
  sumInsured := sumInsured
  premium := premium
  startDate := startDate
  endDate := endDate
  coverageType := coverageType
  region := region
  plotId := plotId
  isActive := true

theorem mintPolicy_commits (env : Env) (caller farmer : Address)
    (policyId : Nat) (distributor : Address) (distributorName : String)
    (sumInsured premium : Int) (startDate endDate : Nat)
    (coverageType : CoverageType) (region : String) (plotId : Nat)
    (before after : State) (tokenId : Nat) :
    (mintPolicy env caller farmer policyId distributor distributorName
        sumInsured premium startDate endDate coverageType region
        plotId).Commits before tokenId after ↔
      env.authorized caller = true ∧ before.roles .minter caller = true ∧
        policyId ≠ 0 ∧ before.policyToToken policyId = none ∧
          before.distributorCount distributor + 1 < 2 ^ 32 ∧
            tokenId = policyId ∧
              after = (before.saveToken policyId policyId
                (newCertificate farmer policyId distributor distributorName
                  sumInsured premium startDate endDate coverageType region
                  plotId) farmer).appendDistributorPolicy distributor
                    (before.distributorCount distributor) policyId := by
  simp only [mintPolicy, bind_commits, requireRole_commits, panicIf_commits,
    read_commits, modify_commits, addUnsigned_commits, publish_commits,
    pure_commits, roleStorage_roles, exists_const, and_assoc,
    exists_and_left, exists_eq_left, Bool.not_eq_true,
    Option.isSome_eq_false_iff, Option.isNone_iff_eq_none]
  constructor
  · rintro ⟨signed, minter, positive, fresh, countLt, rfl, rfl⟩
    exact ⟨signed, minter, positive, fresh, countLt, rfl, rfl⟩
  · rintro ⟨signed, minter, positive, fresh, countLt, rfl, rfl⟩
    exact ⟨signed, minter, positive, fresh, countLt, rfl, rfl⟩

theorem clientAt_ownErrors (address : Address) (env : Env) :
    (clientAt address env).OwnErrors := by
  unfold clientAt
  split
  · constructor
    · intro policyId before error refused
      exact absurd refused (read_fails _ _ _)
    · intro caller farmer policyId distributor distributorName sumInsured
        premium startDate endDate coverageType region plotId before error
        refused
      simp only [mintPolicy, bind_fails, requireRole_fails, panicIf_fails,
        read_fails, modify_fails, addUnsigned_fails, publish_fails,
        pure_fails] at refused
      grind [Error.belongsToCover]
  · constructor
    · intro policyId before error refused
      rw [(fail_fails _ _ _).mp refused]
      rfl
    · intro caller farmer policyId distributor distributorName sumInsured
        premium startDate endDate coverageType region plotId before error
        refused
      rw [(fail_fails _ _ _).mp refused]
      rfl

theorem updatePolicyStatus_commits (env : Env) (caller : Address)
    (policyId : Nat) (isActive : Bool) (before after : State)
    (result : Unit) :
    (updatePolicyStatus env caller policyId isActive).Commits before result
        after ↔
      before.policyManager = some caller ∧ env.authorized caller = true ∧
        ∃ tokenId certificate, before.policyToToken policyId = some tokenId ∧
          before.certificates tokenId = some certificate ∧
            after = before.saveCertificate tokenId
              { certificate with isActive } := by
  simp only [updatePolicyStatus, bind_commits, read_commits,
    panicIf_commits, requireAuth_commits, unwrapOr_commits, modify_commits,
    publish_commits, exists_const, and_assoc, exists_and_left,
    exists_eq_left, not_not]

/-- A refused status update is one that a caller may recover from. -/
theorem updatePolicyStatus_survivable (env : Env) (caller : Address)
    (policyId : Nat) (isActive : Bool) (before : State) :
    (updatePolicyStatus env caller policyId isActive).Avoids before Fatal := by
  simp [updatePolicyStatus, requireAuth, fatal_iff]

theorem transfer_commits (env : Env) (source target : Address)
    (tokenId : Nat) (before after : State) (result : Unit) :
    (transfer env source target tokenId).Commits before result after ↔
      env.authorized source = true ∧ before.owners tokenId = some source ∧
        ∃ certificate, before.certificates tokenId = some certificate ∧
          certificate.isActive = false ∧
            after = before.setOwner tokenId target := by
  simp only [transfer, bind_commits, requireAuth_commits, read_commits,
    unwrapOr_commits, panicIf_commits, modify_commits, publish_commits,
    exists_const, and_assoc, exists_and_left, exists_eq_left, not_not,
    Bool.not_eq_true]
  constructor
  · rintro ⟨signed, owner, owned, rfl, rest⟩
    exact ⟨signed, owned, rest⟩
  · rintro ⟨signed, owned, rest⟩
    exact ⟨signed, source, owned, rfl, rest⟩

/-- Everything that a committed call can do. -/
inductive Effect (env : Env) (before : State) : Call → State → Prop
  | wired {caller policyManager : Address}
      (signed : env.authorized caller = true)
      (admin : before.roles .admin caller = true) :
      Effect env before (.setPolicyManager caller policyManager)
        { before with policyManager := some policyManager }
  | granted {caller who : Address} {role : Role}
      (signed : env.authorized caller = true)
      (admin : before.roles .admin caller = true) :
      Effect env before (.grantRole caller role who)
        { before with roles := before.roles.grant role who }
  | revoked {caller who : Address} {role : Role}
      (signed : env.authorized caller = true)
      (admin : before.roles .admin caller = true) :
      Effect env before (.revokeRole caller role who)
        { before with roles := before.roles.revoke role who }
  | minted {caller farmer : Address} {policyId : Nat} {distributor : Address}
      {distributorName : String} {sumInsured premium : Int}
      {startDate endDate : Nat} {coverageType : CoverageType}
      {region : String} {plotId : Nat}
      (signed : env.authorized caller = true)
      (minter : before.roles .minter caller = true)
      (positive : policyId ≠ 0)
      (fresh : before.policyToToken policyId = none) :
      Effect env before
        (.mintPolicy caller farmer policyId distributor distributorName
          sumInsured premium startDate endDate coverageType region plotId)
        ((before.saveToken policyId policyId
          (newCertificate farmer policyId distributor distributorName
            sumInsured premium startDate endDate coverageType region plotId)
          farmer).appendDistributorPolicy distributor
            (before.distributorCount distributor) policyId)
  | updated {caller : Address} {policyId tokenId : Nat} {isActive : Bool}
      {certificate : PolicyCertificate}
      (manager : before.policyManager = some caller)
      (signed : env.authorized caller = true)
      (token : before.policyToToken policyId = some tokenId)
      (stored : before.certificates tokenId = some certificate) :
      Effect env before (.updatePolicyStatus caller policyId isActive)
        (before.saveCertificate tokenId { certificate with isActive })
  | moved {source target : Address} {tokenId : Nat}
      {certificate : PolicyCertificate}
      (signed : env.authorized source = true)
      (owned : before.owners tokenId = some source)
      (stored : before.certificates tokenId = some certificate)
      (inactive : certificate.isActive = false) :
      Effect env before (.transfer source target tokenId)
        (before.setOwner tokenId target)

theorem exec_effect (env : Env) (call : Call) {before after : State}
    {result : Unit} (commits : (exec env call).Commits before result after) :
    Effect env before call after := by
  cases call with
  | setPolicyManager caller policyManager =>
      simp only [exec, setPolicyManager, bind_commits, requireRole_commits,
        modify_commits, publish_commits, roleStorage_roles, exists_const,
        and_assoc, exists_and_left, exists_eq_left] at commits
      obtain ⟨signed, admin, rfl⟩ := commits
      exact .wired signed admin
  | grantRole caller role who =>
      simp only [exec, grantRole, bind_commits, requireRole_commits,
        grantRole_commits, roleStorage_roles, roleStorage_setRoles,
        exists_const, and_assoc, exists_and_left, exists_eq_left] at commits
      obtain ⟨signed, admin, rfl⟩ := commits
      exact .granted signed admin
  | revokeRole caller role who =>
      simp only [exec, revokeRole, bind_commits, requireRole_commits,
        revokeRole_commits, roleStorage_roles, roleStorage_setRoles,
        exists_const, and_assoc, exists_and_left, exists_eq_left] at commits
      obtain ⟨signed, admin, rfl⟩ := commits
      exact .revoked signed admin
  | mintPolicy caller farmer policyId distributor distributorName sumInsured
      premium startDate endDate coverageType region plotId =>
      simp only [exec, bind_commits, mintPolicy_commits,
        pure_commits] at commits
      obtain ⟨tokenId, _, ⟨signed, minter, positive, fresh, _, _, rfl⟩, _,
        rfl⟩ := commits
      exact .minted signed minter positive fresh
  | updatePolicyStatus caller policyId isActive =>
      obtain ⟨manager, signed, tokenId, certificate, token, stored, rfl⟩ :=
        (updatePolicyStatus_commits env caller policyId isActive _ _ _).mp
          commits
      exact .updated manager signed token stored
  | transfer source target tokenId =>
      obtain ⟨signed, owned, certificate, stored, inactive, rfl⟩ :=
        (transfer_commits env source target tokenId _ _ _).mp commits
      exact .moved signed owned stored inactive

theorem apply_cases (state : State) (input : Input) :
    (accepts state input = false ∧ apply state input = state) ∨
      (accepts state input = true ∧
        (exec input.env input.call).Commits state ()
          (apply state input)) := by
  rcases advance_cases (exec input.env input.call) state with
    ⟨refused, same⟩ | ⟨accepted, _, commits⟩
  · exact Or.inl ⟨refused, same⟩
  · exact Or.inr ⟨accepted, commits⟩

end PolicyNft

end Microcrop
