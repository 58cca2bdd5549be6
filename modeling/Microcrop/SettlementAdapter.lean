import Mathlib.Logic.Function.Basic
import Mathlib.Tactic.Simps.Basic
import Microcrop.Interfaces
import Microcrop.TransitionHistory

/-!
# SettlementAdapter

The obligation ledger of `crates/settlement-adapter`: one obligation for each
PayoutReceiver and policy, recorded by the bound PayoutReceiver and marked by
the Funder.
-/

namespace Microcrop

namespace SettlementAdapter

open Transaction

/-- Storage of a SettlementAdapter, one field for each `DataKey`. -/
structure State where
  roles : Roles
  payoutReceiver : Option Address
  nextObligationId : Option Nat
  obligations : Nat → Option Obligation
  obligationOf : Address → Nat → Option Nat
  orgObligationCounts : Address → Option Nat
  orgObligationAt : Address → Nat → Option Nat

instance : RoleStorage State where
  roles state := state.roles
  setRoles roles state := { state with roles }

@[simp]
theorem roleStorage_roles (state : State) :
    RoleStorage.roles state = state.roles :=
  rfl

@[simp]
theorem roleStorage_setRoles (roles : Roles) (state : State) :
    RoleStorage.setRoles roles state = { state with roles } :=
  rfl

/-- `__constructor`. -/
def constructor (admin : Address) : State where
  roles := (Roles.grant (fun _ _ => false) .admin admin).grant .upgrader admin
  payoutReceiver := none
  nextObligationId := some 1
  obligations _ := none
  obligationOf _ _ := none
  orgObligationCounts _ := none
  orgObligationAt _ _ := none

namespace State

/-! ## Views -/

def getObligation (state : State) (obligationId : Nat) : Option Obligation :=
  state.obligations obligationId

def findObligation (state : State) (payoutReceiver : Address)
    (policyId : Nat) : Option Nat :=
  state.obligationOf payoutReceiver policyId

def obligationCount (state : State) : Nat :=
  state.nextObligationId.getD 1 - 1

def orgObligationCount (state : State) (org : Address) : Nat :=
  (state.orgObligationCounts org).getD 0

/-! ## Writes -/

@[simps]
def saveObligation (state : State) (obligationId : Nat)
    (obligation : Obligation) : State :=
  { state with
    obligations :=
      Function.update state.obligations obligationId (some obligation) }

/-- The entries of a new obligation: itself, its lookup, and its place in the
index of its org. -/
@[simps]
def insertObligation (state : State) (obligation : Obligation) : State :=
  { state with
    nextObligationId := some (obligation.id + 1)
    obligations :=
      Function.update state.obligations obligation.id (some obligation)
    obligationOf := Function.update state.obligationOf
      obligation.payoutReceiver
      (Function.update (state.obligationOf obligation.payoutReceiver)
        obligation.policyId (some obligation.id))
    orgObligationAt := Function.update state.orgObligationAt obligation.org
      (Function.update (state.orgObligationAt obligation.org)
        obligation.orgIndex (some obligation.id))
    orgObligationCounts := Function.update state.orgObligationCounts
      obligation.org (some (obligation.orgIndex + 1)) }

end State

/-! ## Administration -/

def setPayoutReceiver (env : Env) (caller payoutReceiver : Address) :
    Contract State Unit := do
  requireRole env caller .admin
  panicIf (payoutReceiver = env.currentContract)
    (.adapter .invalidPayoutReceiver)
  let previous ← read State.payoutReceiver
  modify fun state => { state with payoutReceiver := some payoutReceiver }
  publish (.payoutReceiverSet previous payoutReceiver)

def grantRole (env : Env) (caller : Address) (role : Role) (who : Address) :
    Contract State Unit := do
  requireRole env caller .admin
  Microcrop.grantRole role who
  publish (.roleGranted role who caller)

def revokeRole (env : Env) (caller : Address) (role : Role) (who : Address) :
    Contract State Unit := do
  requireRole env caller .admin
  Microcrop.revokeRole role who
  publish (.roleRevoked role who caller)

/-! ## Obligations -/

def load (obligationId : Nat) : Contract State Obligation := do
  let stored ← read fun state => state.obligations obligationId
  unwrapOr stored (.adapter .obligationNotFound)

/-- The branch of `record_obligation` that writes a new obligation. -/
def recordNew (env : Env) (caller : Address) (policyId : Nat) (org : Address)
    (amount : Int) (determinationDigest : BytesN 32) :
    Contract State Obligation := do
  let nextId ← read State.nextObligationId
  let id ← unwrapOr nextId (.common .notInitialized)
  panicIf (2 ^ 64 ≤ id + 1) (.adapter .counterOverflow)
  let orgIndex ← read fun state => state.orgObligationCount org
  panicIf (2 ^ 32 ≤ orgIndex + 1) (.adapter .counterOverflow)
  let obligation : Obligation :=
    { id, payoutReceiver := caller, policyId, org, amount
      determinationDigest, status := .owed, recordedAt := env.timestamp
      orgIndex, fundedBy := none, fundedAt := 0, fundingReference := none
      settledBy := none, settledAt := 0, settlementReference := none }
  modify fun state => state.insertObligation obligation
  publish (.obligationRecorded id policyId org caller amount
    determinationDigest)
  pure obligation

def recordObligation (env : Env) (caller : Address) (policyId : Nat)
    (org : Address) (amount : Int) (determinationDigest : BytesN 32) :
    Contract State Obligation := do
  let bound ← read State.payoutReceiver
  let payoutReceiver ← unwrapOr bound (.common .notConfigured)
  panicIf (caller ≠ payoutReceiver) (.adapter .notPayoutReceiver)
  requireAuth env caller
  panicIf (amount ≤ 0) (.adapter .invalidAmount)
  let existing ← read fun state => state.obligationOf caller policyId
  match existing with
  | some existingId =>
      let obligation ← load existingId
      panicIf (¬ (obligation.org = org ∧ obligation.amount = amount ∧
          obligation.determinationDigest = determinationDigest))
        (.adapter .obligationConflict)
      pure obligation
  | none => recordNew env caller policyId org amount determinationDigest

/-- The common prefix of both marks. -/
def beginMark (env : Env) (caller : Address) (obligationId : Nat)
    (referenceHash : BytesN 32) : Contract State Obligation := do
  requireAuth env caller
  panicIf (referenceHash = .repeat 32 0) (.adapter .invalidReference)
  let isFunder ← hasRole .funder caller
  panicIf (isFunder ≠ true) (.common .unauthorized)
  load obligationId

/-- The obligation after its funding was attested. -/
def fundedObligation (env : Env) (caller : Address)
    (referenceHash : BytesN 32) (obligation : Obligation) : Obligation :=
  { obligation with
    status := .funded
    fundedBy := some caller
    fundedAt := env.timestamp
    fundingReference := some referenceHash }

/-- The obligation after its settlement was attested. -/
def settledObligation (env : Env) (caller : Address)
    (referenceHash : BytesN 32) (obligation : Obligation) : Obligation :=
  { obligation with
    status := .settled
    settledBy := some caller
    settledAt := env.timestamp
    settlementReference := some referenceHash }

def markFunded (env : Env) (caller : Address) (obligationId : Nat)
    (referenceHash : BytesN 32) : Contract State Obligation := do
  let obligation ← beginMark env caller obligationId referenceHash
  match obligation.status with
  | .owed =>
      let funded := fundedObligation env caller referenceHash obligation
      modify fun state => state.saveObligation obligationId funded
      publish (.obligationFunded obligationId funded.policyId funded.org
        caller referenceHash)
      pure funded
  | .funded =>
      panicIf (obligation.fundingReference ≠ some referenceHash)
        (.adapter .obligationAlreadyFunded)
      pure obligation
  | .settled => .fail (.adapter .obligationAlreadySettled)

def markSettled (env : Env) (caller : Address) (obligationId : Nat)
    (referenceHash : BytesN 32) : Contract State Obligation := do
  let obligation ← beginMark env caller obligationId referenceHash
  if obligation.status = .settled then
    panicIf (obligation.settlementReference ≠ some referenceHash)
      (.adapter .obligationAlreadySettled)
    pure obligation
  else
    let settled := settledObligation env caller referenceHash obligation
    modify fun state => state.saveObligation obligationId settled
    publish (.obligationSettled obligationId settled.policyId settled.org
      caller referenceHash settled.amount)
    pure settled

/-! ## Entrypoints -/

/-- The state-changing entrypoints with their arguments. -/
inductive Call
  | setPayoutReceiver (caller payoutReceiver : Address)
  | grantRole (caller : Address) (role : Role) (who : Address)
  | revokeRole (caller : Address) (role : Role) (who : Address)
  | recordObligation (caller : Address) (policyId : Nat) (org : Address)
      (amount : Int) (determinationDigest : BytesN 32)
  | markFunded (caller : Address) (obligationId : Nat)
      (referenceHash : BytesN 32)
  | markSettled (caller : Address) (obligationId : Nat)
      (referenceHash : BytesN 32)

/-- Run an entrypoint, dropping its return value. -/
def exec (env : Env) : Call → Contract State Unit
  | .setPayoutReceiver caller payoutReceiver =>
      setPayoutReceiver env caller payoutReceiver
  | .grantRole caller role who => grantRole env caller role who
  | .revokeRole caller role who => revokeRole env caller role who
  | .recordObligation caller policyId org amount determinationDigest => do
      let _ ← recordObligation env caller policyId org amount
        determinationDigest
      pure ()
  | .markFunded caller obligationId referenceHash => do
      let _ ← markFunded env caller obligationId referenceHash
      pure ()
  | .markSettled caller obligationId referenceHash => do
      let _ ← markSettled env caller obligationId referenceHash
      pure ()

/-- One call to a SettlementAdapter. -/
structure Input where
  env : Env
  call : Call

namespace Input

def time (input : Input) : Nat :=
  input.env.timestamp

end Input

/-- Whether the call is accepted. -/
def accepts (state : State) (input : Input) : Bool :=
  (exec input.env input.call).committed state

/-- The state after one call; a refused call leaves it unchanged. -/
def apply (state : State) (input : Input) : State :=
  (exec input.env input.call).advance state

/-- The state after the calls, from the constructor on. -/
def run (admin : Address) (inputs : List Input) : State :=
  History.run apply (constructor admin) inputs

/-- The transitions of that run. -/
def trace (admin : Address) (inputs : List Input) :
    List (Transition State Input) :=
  History.trace apply (constructor admin) inputs

/-! ## What a call can do -/

@[simp]
theorem load_commits (obligationId : Nat) (before after : State)
    (obligation : Obligation) :
    (load obligationId).Commits before obligation after ↔
      before.obligations obligationId = some obligation ∧ after = before := by
  simp only [load, bind_commits, read_commits, unwrapOr_commits, and_assoc,
    exists_and_left, exists_eq_left]

/-- The obligation that `record_obligation` writes under the id `id`. -/
def newObligation (env : Env) (state : State) (id : Nat) (caller : Address)
    (policyId : Nat) (org : Address) (amount : Int)
    (determinationDigest : BytesN 32) : Obligation where
  id := id
  payoutReceiver := caller
  policyId := policyId
  org := org
  amount := amount
  determinationDigest := determinationDigest
  status := .owed
  recordedAt := env.timestamp
  orgIndex := state.orgObligationCount org
  fundedBy := none
  fundedAt := 0
  fundingReference := none
  settledBy := none
  settledAt := 0
  settlementReference := none

theorem recordNew_commits (env : Env) (caller : Address) (policyId : Nat)
    (org : Address) (amount : Int) (determinationDigest : BytesN 32)
    (before after : State) (obligation : Obligation) :
    (recordNew env caller policyId org amount determinationDigest).Commits
        before obligation after ↔
      ∃ id, before.nextObligationId = some id ∧ id + 1 < 2 ^ 64 ∧
        before.orgObligationCount org + 1 < 2 ^ 32 ∧
          obligation = newObligation env before id caller policyId org amount
            determinationDigest ∧
          after = before.insertObligation obligation := by
  simp only [recordNew, bind_commits, read_commits, unwrapOr_commits,
    panicIf_commits, modify_commits, publish_commits, pure_commits,
    exists_const, and_assoc, exists_and_left, exists_eq_left, not_le]
  constructor
  · rintro ⟨id, next, idLt, indexLt, rfl, rfl⟩
    exact ⟨id, next, idLt, indexLt, rfl, rfl⟩
  · rintro ⟨id, next, idLt, indexLt, rfl, rfl⟩
    exact ⟨id, next, idLt, indexLt, rfl, rfl⟩

/-- A record is either new, or repeats the stored obligation. -/
theorem recordObligation_commits (env : Env) (caller : Address)
    (policyId : Nat) (org : Address) (amount : Int)
    (determinationDigest : BytesN 32) (before after : State)
    (obligation : Obligation) :
    (recordObligation env caller policyId org amount
        determinationDigest).Commits before obligation after ↔
      before.payoutReceiver = some caller ∧ env.authorized caller = true ∧
        0 < amount ∧
          ((∃ id, before.obligationOf caller policyId = some id ∧
              before.obligations id = some obligation ∧
              obligation.org = org ∧ obligation.amount = amount ∧
              obligation.determinationDigest = determinationDigest ∧
              after = before) ∨
            (before.obligationOf caller policyId = none ∧
              ∃ id, before.nextObligationId = some id ∧ id + 1 < 2 ^ 64 ∧
                before.orgObligationCount org + 1 < 2 ^ 32 ∧
                obligation = newObligation env before id caller policyId org
                  amount determinationDigest ∧
                after = before.insertObligation obligation)) := by
  simp only [recordObligation, bind_commits, read_commits, unwrapOr_commits,
    panicIf_commits, requireAuth_commits, exists_const, and_assoc,
    exists_and_left, exists_eq_left, not_not, not_le]
  constructor
  · rintro ⟨bound, configured, rfl, signed, positive, rest⟩
    refine ⟨configured, signed, positive, ?_⟩
    cases existing : before.obligationOf caller policyId with
    | some id =>
        simp only [existing, bind_commits, load_commits, panicIf_commits,
          pure_commits, exists_const, and_assoc, exists_and_left,
          exists_eq_left, not_not] at rest
        obtain ⟨found, stored, sameOrg, sameAmount, sameDigest, rfl, rfl⟩ :=
          rest
        exact Or.inl ⟨id, rfl, stored, sameOrg, sameAmount, sameDigest, rfl⟩
    | none =>
        simp only [existing, recordNew_commits] at rest
        exact Or.inr ⟨rfl, rest⟩
  · rintro ⟨configured, signed, positive, ⟨id, existing, stored, sameOrg,
      sameAmount, sameDigest, rfl⟩ | ⟨missing, new⟩⟩
    · refine ⟨caller, configured, rfl, signed, positive, ?_⟩
      simp only [existing, bind_commits, load_commits, panicIf_commits,
        pure_commits, exists_const, and_assoc, exists_and_left,
        exists_eq_left, not_not]
      exact ⟨obligation, stored, sameOrg, sameAmount, sameDigest, rfl,
        trivial⟩
    · refine ⟨caller, configured, rfl, signed, positive, ?_⟩
      simp only [missing, recordNew_commits]
      exact new

theorem beginMark_commits (env : Env) (caller : Address) (obligationId : Nat)
    (referenceHash : BytesN 32) (before after : State)
    (obligation : Obligation) :
    (beginMark env caller obligationId referenceHash).Commits before
        obligation after ↔
      env.authorized caller = true ∧ referenceHash ≠ .repeat 32 0 ∧
        before.roles .funder caller = true ∧
          before.obligations obligationId = some obligation ∧
            after = before := by
  simp only [beginMark, bind_commits, requireAuth_commits, panicIf_commits,
    hasRole_commits, load_commits, roleStorage_roles, exists_const,
    and_assoc, exists_and_left, exists_eq_left, not_not]

theorem markFunded_commits (env : Env) (caller : Address)
    (obligationId : Nat) (referenceHash : BytesN 32) (before after : State)
    (result : Obligation) :
    (markFunded env caller obligationId referenceHash).Commits before result
        after ↔
      env.authorized caller = true ∧ referenceHash ≠ .repeat 32 0 ∧
        before.roles .funder caller = true ∧
          ∃ obligation, before.obligations obligationId = some obligation ∧
            ((obligation.status = .owed ∧
                result = fundedObligation env caller referenceHash
                  obligation ∧
                after = before.saveObligation obligationId result) ∨
              (obligation.status = .funded ∧
                obligation.fundingReference = some referenceHash ∧
                result = obligation ∧ after = before)) := by
  simp only [markFunded, bind_commits, beginMark_commits, and_assoc,
    exists_and_left, exists_eq_left]
  refine and_congr_right fun _ => and_congr_right fun _ =>
    and_congr_right fun _ => exists_congr fun obligation =>
      and_congr_right fun _ => ?_
  cases status : obligation.status with
  | owed =>
      simp only [bind_commits, modify_commits, publish_commits, pure_commits,
        exists_const, exists_eq_left, reduceCtorEq, false_and, or_false,
        true_and]
      constructor
      · rintro ⟨rfl, rfl⟩
        exact ⟨rfl, rfl⟩
      · rintro ⟨rfl, rfl⟩
        exact ⟨rfl, rfl⟩
  | funded =>
      simp only [bind_commits, panicIf_commits, pure_commits, exists_const,
        and_assoc, exists_and_left, exists_eq_left, reduceCtorEq, false_and,
        false_or, true_and, not_not]
  | settled => simp

theorem markSettled_commits (env : Env) (caller : Address)
    (obligationId : Nat) (referenceHash : BytesN 32) (before after : State)
    (result : Obligation) :
    (markSettled env caller obligationId referenceHash).Commits before result
        after ↔
      env.authorized caller = true ∧ referenceHash ≠ .repeat 32 0 ∧
        before.roles .funder caller = true ∧
          ∃ obligation, before.obligations obligationId = some obligation ∧
            ((obligation.status ≠ .settled ∧
                result = settledObligation env caller referenceHash
                  obligation ∧
                after = before.saveObligation obligationId result) ∨
              (obligation.status = .settled ∧
                obligation.settlementReference = some referenceHash ∧
                result = obligation ∧ after = before)) := by
  simp only [markSettled, bind_commits, beginMark_commits, and_assoc,
    exists_and_left, exists_eq_left]
  refine and_congr_right fun _ => and_congr_right fun _ =>
    and_congr_right fun _ => exists_congr fun obligation =>
      and_congr_right fun _ => ?_
  split <;> rename_i status
  · simp [status, and_assoc, and_comm]
  · simp only [bind_commits, modify_commits, publish_commits, pure_commits,
      exists_const, exists_eq_left, status, false_and, or_false, true_and,
      ne_eq, not_false_eq_true]
    constructor
    · rintro ⟨rfl, rfl⟩
      exact ⟨rfl, rfl⟩
    · rintro ⟨rfl, rfl⟩
      exact ⟨rfl, rfl⟩

/-- Everything that a committed call can do. -/
inductive Effect (env : Env) (before : State) : Call → State → Prop
  | bound {caller payoutReceiver : Address}
      (signed : env.authorized caller = true)
      (admin : before.roles .admin caller = true)
      (other : payoutReceiver ≠ env.currentContract) :
      Effect env before (.setPayoutReceiver caller payoutReceiver)
        { before with payoutReceiver := some payoutReceiver }
  | granted {caller who : Address} {role : Role}
      (signed : env.authorized caller = true)
      (admin : before.roles .admin caller = true) :
      Effect env before (.grantRole caller role who)
        { before with roles := before.roles.grant role who }
  | revoked {caller who : Address} {role : Role}
      (signed : env.authorized caller = true)
      (admin : before.roles .admin caller = true) :
      Effect env before (.revokeRole caller role who)
        { before with roles := before.roles.revoke role who }
  | recorded {caller : Address} {policyId : Nat} {org : Address}
      {amount : Int} {determinationDigest : BytesN 32} {id : Nat}
      (configured : before.payoutReceiver = some caller)
      (signed : env.authorized caller = true) (positive : 0 < amount)
      (missing : before.obligationOf caller policyId = none)
      (next : before.nextObligationId = some id) :
      Effect env before
        (.recordObligation caller policyId org amount determinationDigest)
        (before.insertObligation (newObligation env before id caller policyId
          org amount determinationDigest))
  | funded {caller : Address} {obligationId : Nat} {referenceHash : BytesN 32}
      {obligation : Obligation} (signed : env.authorized caller = true)
      (reference : referenceHash ≠ .repeat 32 0)
      (funder : before.roles .funder caller = true)
      (stored : before.obligations obligationId = some obligation)
      (owed : obligation.status = .owed) :
      Effect env before (.markFunded caller obligationId referenceHash)
        (before.saveObligation obligationId
          (fundedObligation env caller referenceHash obligation))
  | settled {caller : Address} {obligationId : Nat}
      {referenceHash : BytesN 32} {obligation : Obligation}
      (signed : env.authorized caller = true)
      (reference : referenceHash ≠ .repeat 32 0)
      (funder : before.roles .funder caller = true)
      (stored : before.obligations obligationId = some obligation)
      (unsettled : obligation.status ≠ .settled) :
      Effect env before (.markSettled caller obligationId referenceHash)
        (before.saveObligation obligationId
          (settledObligation env caller referenceHash obligation))
  | repeated {call : Call} : Effect env before call before

theorem exec_effect (env : Env) (call : Call) {before after : State}
    {result : Unit} (commits : (exec env call).Commits before result after) :
    Effect env before call after := by
  cases call with
  | setPayoutReceiver caller payoutReceiver =>
      simp only [exec, setPayoutReceiver, bind_commits, requireRole_commits,
        panicIf_commits, read_commits, modify_commits, publish_commits,
        roleStorage_roles, exists_const, and_assoc, exists_and_left,
        exists_eq_left] at commits
      obtain ⟨signed, admin, other, rfl⟩ := commits
      exact .bound signed admin other
  | grantRole caller role who =>
      simp only [exec, grantRole, bind_commits, requireRole_commits,
        grantRole_commits, publish_commits, roleStorage_roles,
        roleStorage_setRoles, exists_const, and_assoc, exists_and_left,
        exists_eq_left] at commits
      obtain ⟨signed, admin, rfl⟩ := commits
      exact .granted signed admin
  | revokeRole caller role who =>
      simp only [exec, revokeRole, bind_commits, requireRole_commits,
        revokeRole_commits, publish_commits, roleStorage_roles,
        roleStorage_setRoles, exists_const, and_assoc, exists_and_left,
        exists_eq_left] at commits
      obtain ⟨signed, admin, rfl⟩ := commits
      exact .revoked signed admin
  | recordObligation caller policyId org amount determinationDigest =>
      simp only [exec, bind_commits, pure_commits,
        recordObligation_commits] at commits
      obtain ⟨obligation, _, ⟨configured, signed, positive,
        ⟨id, existing, stored, _, _, _, rfl⟩ |
        ⟨missing, id, next, _, _, rfl, rfl⟩⟩, _, rfl⟩ := commits
      · exact .repeated
      · exact .recorded configured signed positive missing next
  | markFunded caller obligationId referenceHash =>
      simp only [exec, bind_commits, pure_commits,
        markFunded_commits] at commits
      obtain ⟨result, _, ⟨signed, reference, funder, obligation, stored,
        ⟨owed, rfl, rfl⟩ | ⟨-, -, rfl, rfl⟩⟩, -, rfl⟩ := commits
      · exact .funded signed reference funder stored owed
      · exact .repeated
  | markSettled caller obligationId referenceHash =>
      simp only [exec, bind_commits, pure_commits,
        markSettled_commits] at commits
      obtain ⟨result, _, ⟨signed, reference, funder, obligation, stored,
        ⟨unsettled, rfl, rfl⟩ | ⟨-, -, rfl, rfl⟩⟩, -, rfl⟩ := commits
      · exact .settled signed reference funder stored unsettled
      · exact .repeated

/-- A call is refused and changes nothing, or it is accepted. -/
theorem apply_cases (state : State) (input : Input) :
    (accepts state input = false ∧ apply state input = state) ∨
      (accepts state input = true ∧
        (exec input.env input.call).Commits state ()
          (apply state input)) := by
  rcases advance_cases (exec input.env input.call) state with
    ⟨refused, same⟩ | ⟨accepted, _, commits⟩
  · exact Or.inl ⟨refused, same⟩
  · exact Or.inr ⟨accepted, commits⟩

end SettlementAdapter

end Microcrop
