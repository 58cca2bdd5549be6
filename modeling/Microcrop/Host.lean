import Microcrop.AtomicTransaction
import Microcrop.Types

/-!
# The contract host

What the contracts use of the ledger: the environment of one invocation, the
events they publish, arithmetic that traps on overflow, and the role registry
of `microcrop-shared::roles` that every contract keeps in its own storage.
-/

namespace Microcrop

/-- The environment of one invocation.  `authorized` holds of the addresses
whose authorization covers the invocation: those that signed it, and the
contract that makes the call. -/
structure Env where
  timestamp : Nat
  timestamp_lt : timestamp < 2 ^ 64
  currentContract : Address
  authorized : Address → Bool

/-- The environment of a call that the current contract makes to `callee`. -/
def Env.invoke (env : Env) (callee : Address) : Env where
  timestamp := env.timestamp
  timestamp_lt := env.timestamp_lt
  currentContract := callee
  authorized := fun address => decide (address = env.currentContract)

@[simp]
theorem Env.invoke_timestamp (env : Env) (callee : Address) :
    (env.invoke callee).timestamp = env.timestamp :=
  rfl

@[simp]
theorem Env.invoke_currentContract (env : Env) (callee : Address) :
    (env.invoke callee).currentContract = callee :=
  rfl

@[simp]
theorem Env.invoke_authorized (env : Env) (callee address : Address) :
    (env.invoke callee).authorized address = true ↔
      address = env.currentContract := by
  simp [Env.invoke]

/-- The events of the four contracts. -/
inductive Event
  | policyCreated (policyId : Nat) (farmer : Address) (plotId : Nat)
      (sumInsured premium : Int) (startDate endDate : Nat)
      (coverageType : CoverageType)
  | policyActivated (policyId activatedAt : Nat)
  | policyClaimed (policyId claimedAt : Nat)
  | policyCancelled (policyId cancelledAt : Nat)
  | policyExpired (policyId expiredAt : Nat)
  | policyNftSet (policyNft : Address)
  | policyNftUpdateSkipped (policyId : Nat)
  | claimCountIncremented (farmer : Address) (claimedAt claimsInWindow : Nat)
  | policyNftMinted (tokenId policyId : Nat) (farmer distributor : Address)
      (sumInsured : Int)
  | policyStatusUpdated (tokenId : Nat) (isActive : Bool)
  | policyManagerUpdated (newPolicyManager : Address)
  | transfer (source target : Address) (tokenId : Nat)
  | roleGranted (role : Role) (who grantedBy : Address)
  | roleRevoked (role : Role) (who revokedBy : Address)
  | payoutReceiverSet (previous : Option Address) (payoutReceiver : Address)
  | obligationRecorded (obligationId policyId : Nat)
      (org payoutReceiver : Address) (amount : Int)
      (determinationDigest : BytesN 32)
  | obligationFunded (obligationId policyId : Nat) (org fundedBy : Address)
      (referenceHash : BytesN 32)
  | obligationSettled (obligationId policyId : Nat) (org settledBy : Address)
      (referenceHash : BytesN 32) (amount : Int)
  | authorizedSignerUpdated (signer : BytesN 65)
  | determinationVerified (policyId : Nat) (preimageHash : BytesN 32)
  | damageReportReceived (policyId : Nat) (farmer : Address)
      (damagePercentage : Nat) (payoutAmount : Int)
  | obligationRequested (policyId obligationId : Nat) (adapter : Address)
      (amount : Int)
  | settlementAdapterUpdated (previous adapter : Address)
  | droughtEvidenceRecorded (policyId droughtDamage seasonStartEpoch : Nat)
      (sourceHash : BytesN 32)
  | methodologyEnabledSet (kind : MethodologyKind) (enabled : Bool)
  deriving DecidableEq

/-- Contract code over the storage `σ`. -/
abbrev Contract (σ α : Type) : Type :=
  Transaction Error Event σ α

open Transaction

/-- A caller that uses `try_` is not handed every error. -/
instance : Recovery Error :=
  ⟨Error.recoverable⟩

theorem fatal_iff (error : Error) :
    Fatal error ↔ error = .host .budgetExceeded ∨
      error = .host .footprintExceeded ∨ error = .host .internal := by
  change error.recoverable = false ↔ _
  unfold Error.recoverable
  split <;> simp_all

variable {σ : Type}

/-! ## Arithmetic that traps -/

/-- Addition of two unsigned integers of `width` bits. -/
def addUnsigned (width first second : Nat) : Contract σ Nat := do
  panicIf (2 ^ width ≤ first + second) (.host .arithmetic)
  pure (first + second)

/-- Subtraction of unsigned integers. -/
def subUnsigned (first second : Nat) : Contract σ Nat := do
  panicIf (first < second) (.host .arithmetic)
  pure (first - second)

/-- Multiplication of two unsigned integers of `width` bits. -/
def mulUnsigned (width first second : Nat) : Contract σ Nat := do
  panicIf (2 ^ width ≤ first * second) (.host .arithmetic)
  pure (first * second)

/-- Division of unsigned integers, which traps on zero. -/
def divUnsigned (first second : Nat) : Contract σ Nat := do
  panicIf (second = 0) (.host .arithmetic)
  pure (first / second)

/-- The values of a signed integer of 128 bits. -/
def FitsI128 (value : Int) : Prop :=
  -2 ^ 127 ≤ value ∧ value < 2 ^ 127

instance (value : Int) : Decidable (FitsI128 value) :=
  inferInstanceAs (Decidable (_ ∧ _))

def addI128 (first second : Int) : Contract σ Int := do
  panicIf (¬ FitsI128 (first + second)) (.host .arithmetic)
  pure (first + second)

def mulI128 (first second : Int) : Contract σ Int := do
  panicIf (¬ FitsI128 (first * second)) (.host .arithmetic)
  pure (first * second)

/-- `u64::saturating_add`. -/
def saturatingAddU64 (first second : Nat) : Nat :=
  min (first + second) (2 ^ 64 - 1)

@[simp]
theorem addUnsigned_commits (width first second : Nat) (before after : σ)
    (result : Nat) :
    (addUnsigned width first second).Commits before result after ↔
      first + second < 2 ^ width ∧ result = first + second ∧
        after = before := by
  simp [addUnsigned, and_assoc, and_comm, and_left_comm]

@[simp]
theorem addUnsigned_fails (width first second : Nat) (before : σ)
    (error : Error) :
    (addUnsigned width first second).Fails before error ↔
      2 ^ width ≤ first + second ∧ error = .host .arithmetic := by
  simp [addUnsigned]

@[simp]
theorem subUnsigned_commits (first second : Nat) (before after : σ)
    (result : Nat) :
    (subUnsigned first second).Commits before result after ↔
      second ≤ first ∧ result = first - second ∧ after = before := by
  simp [subUnsigned, and_assoc, and_comm, and_left_comm]

@[simp]
theorem subUnsigned_fails (first second : Nat) (before : σ) (error : Error) :
    (subUnsigned first second).Fails before error ↔
      first < second ∧ error = .host .arithmetic := by
  simp [subUnsigned]

@[simp]
theorem mulUnsigned_commits (width first second : Nat) (before after : σ)
    (result : Nat) :
    (mulUnsigned width first second).Commits before result after ↔
      first * second < 2 ^ width ∧ result = first * second ∧
        after = before := by
  simp [mulUnsigned, and_assoc, and_comm, and_left_comm]

@[simp]
theorem mulUnsigned_fails (width first second : Nat) (before : σ)
    (error : Error) :
    (mulUnsigned width first second).Fails before error ↔
      2 ^ width ≤ first * second ∧ error = .host .arithmetic := by
  simp [mulUnsigned]

@[simp]
theorem divUnsigned_commits (first second : Nat) (before after : σ)
    (result : Nat) :
    (divUnsigned first second).Commits before result after ↔
      second ≠ 0 ∧ result = first / second ∧ after = before := by
  simp [divUnsigned, and_assoc, and_comm, and_left_comm]

@[simp]
theorem divUnsigned_fails (first second : Nat) (before : σ) (error : Error) :
    (divUnsigned first second).Fails before error ↔
      second = 0 ∧ error = .host .arithmetic := by
  simp [divUnsigned]

@[simp]
theorem addI128_commits (first second : Int) (before after : σ)
    (result : Int) :
    (addI128 first second).Commits before result after ↔
      FitsI128 (first + second) ∧ result = first + second ∧
        after = before := by
  simp [addI128, and_assoc, and_comm, and_left_comm]

@[simp]
theorem addI128_fails (first second : Int) (before : σ) (error : Error) :
    (addI128 first second).Fails before error ↔
      ¬ FitsI128 (first + second) ∧ error = .host .arithmetic := by
  simp [addI128]

@[simp]
theorem mulI128_commits (first second : Int) (before after : σ)
    (result : Int) :
    (mulI128 first second).Commits before result after ↔
      FitsI128 (first * second) ∧ result = first * second ∧
        after = before := by
  simp [mulI128, and_assoc, and_comm, and_left_comm]

@[simp]
theorem mulI128_fails (first second : Int) (before : σ) (error : Error) :
    (mulI128 first second).Fails before error ↔
      ¬ FitsI128 (first * second) ∧ error = .host .arithmetic := by
  simp [mulI128]

section Avoids

variable {excluded : Error → Prop}

@[simp]
theorem addUnsigned_avoids (width first second : Nat) (before : σ) :
    (addUnsigned width first second).Avoids before excluded ↔
      (2 ^ width ≤ first + second → ¬ excluded (.host .arithmetic)) := by
  simp [addUnsigned]

@[simp]
theorem subUnsigned_avoids (first second : Nat) (before : σ) :
    (subUnsigned first second).Avoids before excluded ↔
      (first < second → ¬ excluded (.host .arithmetic)) := by
  simp [subUnsigned]

@[simp]
theorem mulUnsigned_avoids (width first second : Nat) (before : σ) :
    (mulUnsigned width first second).Avoids before excluded ↔
      (2 ^ width ≤ first * second → ¬ excluded (.host .arithmetic)) := by
  simp [mulUnsigned]

@[simp]
theorem mulI128_avoids (first second : Int) (before : σ) :
    (mulI128 first second).Avoids before excluded ↔
      (¬ FitsI128 (first * second) → ¬ excluded (.host .arithmetic)) := by
  simp [mulI128]

@[simp]
theorem addI128_avoids (first second : Int) (before : σ) :
    (addI128 first second).Avoids before excluded ↔
      (¬ FitsI128 (first + second) → ¬ excluded (.host .arithmetic)) := by
  simp [addI128]

theorem addUnsigned_bind_avoids {β : Type} (width first second : Nat)
    (next : Nat → Contract σ β) (before : σ) :
    (addUnsigned width first second >>= next).Avoids before excluded ↔
      (2 ^ width ≤ first + second → ¬ excluded (.host .arithmetic)) ∧
        (first + second < 2 ^ width →
          (next (first + second)).Avoids before excluded) := by
  simp only [bind_avoids, addUnsigned_avoids, addUnsigned_commits, and_imp]
  refine and_congr_right fun _ => ⟨?_, ?_⟩
  · exact fun rest fits => rest _ before fits rfl rfl
  · rintro rest _ _ fits rfl rfl
    exact rest fits

theorem addI128_bind_avoids {β : Type} (first second : Int)
    (next : Int → Contract σ β) (before : σ) :
    (addI128 first second >>= next).Avoids before excluded ↔
      (¬ FitsI128 (first + second) → ¬ excluded (.host .arithmetic)) ∧
        (FitsI128 (first + second) →
          (next (first + second)).Avoids before excluded) := by
  simp only [bind_avoids, addI128_avoids, addI128_commits, and_imp]
  refine and_congr_right fun _ => ⟨?_, ?_⟩
  · exact fun rest fits => rest _ before fits rfl rfl
  · rintro rest _ _ fits rfl rfl
    exact rest fits

end Avoids

/-! ## Roles -/

/-- The grants of one contract. -/
abbrev Roles := Role → Address → Bool

/-- Storage that holds a role registry. -/
class RoleStorage (σ : Type) where
  roles : σ → Roles
  setRoles : Roles → σ → σ

def Roles.grant (roles : Roles) (role : Role) (who : Address) : Roles :=
  fun other address =>
    if other = role ∧ address = who then true else roles other address

def Roles.revoke (roles : Roles) (role : Role) (who : Address) : Roles :=
  fun other address =>
    if other = role ∧ address = who then false else roles other address

@[simp]
theorem Roles.grant_apply (roles : Roles) (role other : Role)
    (who address : Address) :
    roles.grant role who other address = true ↔
      (other = role ∧ address = who) ∨ roles other address = true := by
  unfold Roles.grant
  split <;> rename_i same <;> simp [same]

@[simp]
theorem Roles.revoke_apply (roles : Roles) (role other : Role)
    (who address : Address) :
    roles.revoke role who other address = true ↔
      ¬ (other = role ∧ address = who) ∧ roles other address = true := by
  unfold Roles.revoke
  split <;> rename_i same <;> simp [same]

/-- Nobody but the allowed addresses holds the role. -/
def Roles.HeldBy (roles : Roles) (role : Role) (allowed : Address → Bool) :
    Prop :=
  ∀ who, roles role who = true → allowed who = true

theorem Roles.HeldBy.grant {roles : Roles} {role : Role}
    {allowed : Address → Bool} (held : roles.HeldBy role allowed)
    {other : Role} {who : Address}
    (within : other = role → allowed who = true) :
    (roles.grant other who).HeldBy role allowed := by
  intro address holds
  rcases (Roles.grant_apply _ _ _ _ _).mp holds with ⟨same, rfl⟩ | before
  · exact within same.symm
  · exact held address before

theorem Roles.HeldBy.revoke {roles : Roles} {role : Role}
    {allowed : Address → Bool} (held : roles.HeldBy role allowed)
    (other : Role) (who : Address) :
    (roles.revoke other who).HeldBy role allowed := by
  intro address holds
  exact held address ((Roles.revoke_apply _ _ _ _ _).mp holds).2

/-- `Address::require_auth`. -/
def requireAuth (env : Env) (caller : Address) : Contract σ Unit :=
  panicIf (env.authorized caller ≠ true) (.host .auth)

@[simp]
theorem requireAuth_commits (env : Env) (caller : Address) (before after : σ)
    (result : Unit) :
    (requireAuth env caller).Commits before result after ↔
      env.authorized caller = true ∧ after = before := by
  simp [requireAuth]

@[simp]
theorem requireAuth_fails (env : Env) (caller : Address) (before : σ)
    (error : Error) :
    (requireAuth env caller).Fails before error ↔
      env.authorized caller = false ∧ error = .host .auth := by
  simp [requireAuth]

section RoleStorage

variable [RoleStorage σ]

def hasRole (role : Role) (who : Address) : Contract σ Bool :=
  read fun state => RoleStorage.roles state role who

/-- The guard at the top of every role-gated entrypoint. -/
def requireRole (env : Env) (caller : Address) (role : Role) :
    Contract σ Unit := do
  requireAuth env caller
  let held ← hasRole role caller
  panicIf (held ≠ true) (.common .unauthorized)

def grantRole (role : Role) (who : Address) : Contract σ Unit :=
  modify fun state =>
    RoleStorage.setRoles ((RoleStorage.roles state).grant role who) state

def revokeRole (role : Role) (who : Address) : Contract σ Unit :=
  modify fun state =>
    RoleStorage.setRoles ((RoleStorage.roles state).revoke role who) state

@[simp]
theorem hasRole_commits (role : Role) (who : Address) (before after : σ)
    (result : Bool) :
    (hasRole role who).Commits before result after ↔
      result = RoleStorage.roles before role who ∧ after = before := by
  simp [hasRole]

@[simp]
theorem hasRole_fails (role : Role) (who : Address) (before : σ)
    (error : Error) : ¬ (hasRole role who).Fails before error := by
  simp [hasRole]

@[simp]
theorem requireRole_commits (env : Env) (caller : Address) (role : Role)
    (before after : σ) (result : Unit) :
    (requireRole env caller role).Commits before result after ↔
      env.authorized caller = true ∧
        RoleStorage.roles before role caller = true ∧ after = before := by
  simp [requireRole, and_assoc]

@[simp]
theorem requireRole_fails (env : Env) (caller : Address) (role : Role)
    (before : σ) (error : Error) :
    (requireRole env caller role).Fails before error ↔
      (env.authorized caller = false ∧ error = .host .auth) ∨
        (env.authorized caller = true ∧
          RoleStorage.roles before role caller = false ∧
            error = .common .unauthorized) := by
  simp [requireRole]

@[simp]
theorem requireRole_avoids (env : Env) (caller : Address) (role : Role)
    {excluded : Error → Prop} (before : σ) :
    (requireRole env caller role).Avoids before excluded ↔
      (env.authorized caller = false → ¬ excluded (.host .auth)) ∧
        (env.authorized caller = true →
          RoleStorage.roles before role caller = false →
            ¬ excluded (.common .unauthorized)) := by
  simp [requireRole, requireAuth, hasRole]

@[simp]
theorem requireRole_emits (env : Env) (caller : Address) (role : Role)
    (before after : σ) (result : Unit) (events : List Event) :
    (requireRole env caller role).Emits before result after events ↔
      env.authorized caller = true ∧
        RoleStorage.roles before role caller = true ∧ after = before ∧
          events = [] := by
  simp [requireRole, requireAuth, hasRole, and_assoc]

@[simp]
theorem grantRole_commits (role : Role) (who : Address) (before after : σ)
    (result : Unit) :
    (grantRole role who).Commits before result after ↔
      after = RoleStorage.setRoles
        ((RoleStorage.roles before).grant role who) before := by
  simp [grantRole]

@[simp]
theorem revokeRole_commits (role : Role) (who : Address) (before after : σ)
    (result : Unit) :
    (revokeRole role who).Commits before result after ↔
      after = RoleStorage.setRoles
        ((RoleStorage.roles before).revoke role who) before := by
  simp [revokeRole]

end RoleStorage

end Microcrop
