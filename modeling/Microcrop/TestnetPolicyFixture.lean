import Microcrop.Encoding
import Microcrop.Host

/-!
# TestnetPolicyFixture

The stand-in for PolicyManager of `crates/testnet-policy-fixture`: its
administrator injects policies, and it answers what a PayoutReceiver asks.  It
keeps no lifecycle, no exposure and no claim window, and is never deployed on
mainnet.
-/

namespace Microcrop

namespace TestnetPolicyFixture

open Transaction

/-- `MAINNET_NETWORK_ID`. -/
def mainnetNetworkId : BytesN 32 :=
  Encoding.fixedBytes 32
    0x7ac33997544e3175d266bd022439b22cdb16508c01163f26e5cb2a3e1045a979

/-- Storage of the fixture: the roles and one field for each `DataKey`. -/
structure State where
  roles : Roles
  policies : Nat → Option Policy
  claimCounts : Address → Option Nat

instance : RoleStorage State where
  roles state := state.roles
  setRoles roles state := { state with roles }

@[simp]
theorem roleStorage_roles (state : State) :
    RoleStorage.roles state = state.roles :=
  rfl

@[simp]
theorem roleStorage_setRoles (roles : Roles) (state : State) :
    RoleStorage.setRoles roles state = { state with roles } :=
  rfl

/-- `__constructor`, which panics on mainnet. -/
def constructor (networkId : BytesN 32) (admin : Address) : Option State :=
  if networkId = mainnetNetworkId then none
  else
    some
      { roles := Roles.grant (fun _ _ => false) .admin admin
        policies := fun _ => none
        claimCounts := fun _ => none }

theorem constructor_eq_some (networkId : BytesN 32) (admin : Address)
    (state : State) :
    constructor networkId admin = some state ↔
      networkId ≠ mainnetNetworkId ∧
        state.roles = Roles.grant (fun _ _ => false) .admin admin ∧
          state.policies = (fun _ => none) ∧
            state.claimCounts = fun _ => none := by
  unfold constructor
  split <;> rename_i mainnet
  · simp [mainnet]
  · cases state
    simp [mainnet, eq_comm]

namespace State

def policyExists (state : State) (policyId : Nat) : Bool :=
  (state.policies policyId).isSome

/-- Always true: the fixture keeps no claim window. -/
def canFarmerClaim (_state : State) (_farmer : Address) : Bool :=
  true

def claimCount (state : State) (farmer : Address) : Nat :=
  (state.claimCounts farmer).getD 0

@[simps]
def savePolicy (state : State) (policyId : Nat) (policy : Policy) : State :=
  { state with
    policies := Function.update state.policies policyId (some policy) }

@[simps]
def saveClaimCount (state : State) (farmer : Address) (count : Nat) :
    State :=
  { state with
    claimCounts := Function.update state.claimCounts farmer (some count) }

theorem saveClaimCount_claimCount (state : State) (farmer other : Address)
    (count : Nat) :
    (state.saveClaimCount farmer count).claimCount other =
      if other = farmer then count else state.claimCount other := by
  unfold claimCount
  rw [saveClaimCount_claimCounts]
  by_cases same : other = farmer
  · rw [if_pos same, same, Function.update_self, Option.getD_some]
  · rw [if_neg same, Function.update_of_ne same]

end State

/-! ## Entrypoints -/

def grantRole (env : Env) (caller : Address) (role : Role) (who : Address) :
    Contract State Unit := do
  requireRole env caller .admin
  Microcrop.grantRole role who

/-- Inject a policy; not a sale. -/
def setPolicy (env : Env) (caller : Address) (policy : Policy) :
    Contract State Unit := do
  requireRole env caller .admin
  modify fun state => state.savePolicy policy.id policy

def getPolicy (policyId : Nat) : Contract State Policy := do
  let stored ← read fun state => state.policies policyId
  unwrapOr stored (.policy .policyDoesNotExist)

/-- Set the stored status to CLAIMED, whatever it was. -/
def markAsClaimed (env : Env) (caller : Address) (policyId : Nat) :
    Contract State Unit := do
  requireRole env caller .oracle
  let policy ← getPolicy policyId
  modify fun state =>
    state.savePolicy policyId { policy with status := .claimed }

/-- Count the claim, for inspection only. -/
def incrementClaimCount (env : Env) (caller farmer : Address) :
    Contract State Unit := do
  requireRole env caller .oracle
  let n ← read fun state => state.claimCount farmer
  let count ← addUnsigned 32 n 1
  modify fun state => state.saveClaimCount farmer count

/-- The calls that change the fixture. -/
inductive Call
  | grantRole (caller : Address) (role : Role) (who : Address)
  | setPolicy (caller : Address) (policy : Policy)
  | markAsClaimed (caller : Address) (policyId : Nat)
  | incrementClaimCount (caller farmer : Address)

def exec (env : Env) : Call → Contract State Unit
  | .grantRole caller role who => grantRole env caller role who
  | .setPolicy caller policy => setPolicy env caller policy
  | .markAsClaimed caller policyId => markAsClaimed env caller policyId
  | .incrementClaimCount caller farmer =>
      incrementClaimCount env caller farmer

/-! ## What the entrypoints do -/

section Commits

variable (env : Env) (caller : Address) (before after : State) (result : Unit)

theorem grantRole_commits (role : Role) (who : Address) :
    (grantRole env caller role who).Commits before result after ↔
      env.authorized caller = true ∧ before.roles .admin caller = true ∧
        after = { before with roles := before.roles.grant role who } := by
  simp [grantRole, and_assoc]

theorem setPolicy_commits (policy : Policy) :
    (setPolicy env caller policy).Commits before result after ↔
      env.authorized caller = true ∧ before.roles .admin caller = true ∧
        after = before.savePolicy policy.id policy := by
  simp [setPolicy, and_assoc]

theorem markAsClaimed_commits (policyId : Nat) :
    (markAsClaimed env caller policyId).Commits before result after ↔
      env.authorized caller = true ∧ before.roles .oracle caller = true ∧
        ∃ policy, before.policies policyId = some policy ∧
          after = before.savePolicy policyId
            { policy with status := .claimed } := by
  simp only [markAsClaimed, getPolicy, bind_commits, requireRole_commits,
    read_commits, unwrapOr_commits, modify_commits, roleStorage_roles,
    exists_const, and_assoc, exists_and_left, exists_eq_left]

theorem incrementClaimCount_commits (farmer : Address) :
    (incrementClaimCount env caller farmer).Commits before result after ↔
      env.authorized caller = true ∧ before.roles .oracle caller = true ∧
        before.claimCount farmer + 1 < 2 ^ 32 ∧
          after = before.saveClaimCount farmer
            (before.claimCount farmer + 1) := by
  simp only [incrementClaimCount, bind_commits, requireRole_commits,
    read_commits, addUnsigned_commits, modify_commits, roleStorage_roles,
    exists_const, and_assoc, exists_and_left, exists_eq_left]

end Commits

end TestnetPolicyFixture

end Microcrop
