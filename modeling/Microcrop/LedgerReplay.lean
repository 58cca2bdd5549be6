import Microcrop.EventReplay
import Microcrop.SettlementAdapter

/-!
# A SettlementAdapter is its event log

Every state change of a SettlementAdapter is published, and the events carry
enough to redo it: a reader who absorbs the log, each event with the time of
the ledger that closed over it, holds the whole storage of the contract.
-/

namespace Microcrop

namespace SettlementAdapter

open Transaction

/-- What a reader makes of one event and its ledger time. -/
def absorb (known : State) : Nat × Event → State
  | (_, .payoutReceiverSet _ payoutReceiver) =>
      { known with payoutReceiver := some payoutReceiver }
  | (_, .roleGranted role who _) =>
      { known with roles := known.roles.grant role who }
  | (_, .roleRevoked role who _) =>
      { known with roles := known.roles.revoke role who }
  | (time, .obligationRecorded id policyId org payoutReceiver amount
      determinationDigest) =>
      known.insertObligation
        { id, payoutReceiver, policyId, org, amount, determinationDigest
          status := .owed, recordedAt := time
          orgIndex := known.orgObligationCount org
          fundedBy := none, fundedAt := 0, fundingReference := none
          settledBy := none, settledAt := 0, settlementReference := none }
  | (time, .obligationFunded obligationId _ _ fundedBy referenceHash) =>
      match known.obligations obligationId with
      | some obligation => known.saveObligation obligationId
          { obligation with
            status := .funded, fundedBy := some fundedBy, fundedAt := time
            fundingReference := some referenceHash }
      | none => known
  | (time, .obligationSettled obligationId _ _ settledBy referenceHash _) =>
      match known.obligations obligationId with
      | some obligation => known.saveObligation obligationId
          { obligation with
            status := .settled, settledBy := some settledBy
            settledAt := time, settlementReference := some referenceHash }
      | none => known
  | _ => known

/-- The events of one call, stamped with its ledger time. -/
def published (state : State) (input : Input) : List (Nat × Event) :=
  ((exec input.env input.call).published state).map fun event =>
    (input.time, event)

/-- Everything an adapter ever published, oldest first. -/
def eventLog (admin : Address) (inputs : List Input) : List (Nat × Event) :=
  Replay.log apply published (constructor admin) inputs

section Emits

variable {env : Env} {before after : State} {events : List Event}

theorem load_emits (obligationId : Nat) (obligation : Obligation) :
    (load obligationId).Emits before obligation after events ↔
      before.obligations obligationId = some obligation ∧ after = before ∧
        events = [] := by
  simp only [load, bind_emits, read_emits, unwrapOr_emits]
  constructor
  · rintro ⟨_, _, _, _, ⟨rfl, rfl, rfl⟩, ⟨stored, rfl, rfl⟩, rfl⟩
    exact ⟨stored, rfl, rfl⟩
  · rintro ⟨stored, rfl, rfl⟩
    exact ⟨_, _, [], [], ⟨rfl, rfl, rfl⟩, ⟨stored, rfl, rfl⟩, rfl⟩

theorem beginMark_emits {caller : Address} {obligationId : Nat}
    {referenceHash : BytesN 32} {obligation : Obligation}
    (emits : (beginMark env caller obligationId referenceHash).Emits before
      obligation after events) :
    before.obligations obligationId = some obligation ∧ after = before ∧
      events = [] := by
  simp only [beginMark, requireAuth, hasRole, bind_emits, panicIf_emits,
    read_emits, load_emits] at emits
  grind

/-- A first record publishes all of the new obligation but its time. -/
theorem recordNew_emits {caller : Address} {policyId : Nat} {org : Address}
    {amount : Int} {determinationDigest : BytesN 32} {obligation : Obligation}
    (emits : (recordNew env caller policyId org amount
      determinationDigest).Emits before obligation after events) :
    ∃ id, after = before.insertObligation (newObligation env before id caller
        policyId org amount determinationDigest) ∧
      events = [.obligationRecorded id policyId org caller amount
        determinationDigest] := by
  simp only [recordNew, bind_emits, read_emits, unwrapOr_emits,
    panicIf_emits, modify_emits, publish_emits, pure_emits] at emits
  grind [newObligation]

theorem recordObligation_emits {caller : Address} {policyId : Nat}
    {org : Address} {amount : Int} {determinationDigest : BytesN 32}
    {obligation : Obligation}
    (emits : (recordObligation env caller policyId org amount
      determinationDigest).Emits before obligation after events) :
    (after = before ∧ events = []) ∨
      ∃ id, after = before.insertObligation (newObligation env before id
          caller policyId org amount determinationDigest) ∧
        events = [.obligationRecorded id policyId org caller amount
          determinationDigest] := by
  simp only [recordObligation, requireAuth, bind_emits, read_emits,
    unwrapOr_emits, panicIf_emits] at emits
  obtain ⟨_, _, _, _, ⟨rfl, rfl, rfl⟩, ⟨_, _, _, _, ⟨-, rfl, rfl⟩,
    ⟨_, _, _, _, ⟨-, rfl, rfl⟩, ⟨_, _, _, _, ⟨-, rfl, rfl⟩,
    ⟨_, _, _, _, ⟨-, rfl, rfl⟩, ⟨existing, _, _, _, ⟨rfl, rfl, rfl⟩,
    rest, rfl⟩, rfl⟩, rfl⟩, rfl⟩, rfl⟩, rfl⟩ := emits
  split at rest
  · simp only [bind_emits, load_emits, panicIf_emits, pure_emits] at rest
    grind
  · exact Or.inr (by simpa using recordNew_emits rest)

theorem markFunded_emits {caller : Address} {obligationId : Nat}
    {referenceHash : BytesN 32} {result : Obligation}
    (emits : (markFunded env caller obligationId referenceHash).Emits before
      result after events) :
    (after = before ∧ events = []) ∨
      ∃ obligation, before.obligations obligationId = some obligation ∧
        after = before.saveObligation obligationId
          (fundedObligation env caller referenceHash obligation) ∧
        events = [.obligationFunded obligationId obligation.policyId
          obligation.org caller referenceHash] := by
  obtain ⟨obligation, middle, _, late, begins, rest, rfl⟩ :=
    (bind_emits _ _ _ _ _ _).mp emits
  obtain ⟨stored, rfl, rfl⟩ := beginMark_emits begins
  cases status : obligation.status with
  | owed =>
      simp only [status, bind_emits, modify_emits, publish_emits,
        pure_emits] at rest
      grind [fundedObligation]
  | funded =>
      simp only [status, bind_emits, panicIf_emits, pure_emits] at rest
      grind
  | settled =>
      simp only [status] at rest
      exact absurd rest (fail_emits _ _ _ _ _)

theorem markSettled_emits {caller : Address} {obligationId : Nat}
    {referenceHash : BytesN 32} {result : Obligation}
    (emits : (markSettled env caller obligationId referenceHash).Emits before
      result after events) :
    (after = before ∧ events = []) ∨
      ∃ obligation, before.obligations obligationId = some obligation ∧
        after = before.saveObligation obligationId
          (settledObligation env caller referenceHash obligation) ∧
        events = [.obligationSettled obligationId obligation.policyId
          obligation.org caller referenceHash obligation.amount] := by
  obtain ⟨obligation, middle, _, late, begins, rest, rfl⟩ :=
    (bind_emits _ _ _ _ _ _).mp emits
  obtain ⟨stored, rfl, rfl⟩ := beginMark_emits begins
  split at rest
  · simp only [bind_emits, panicIf_emits, pure_emits] at rest
    grind
  · simp only [bind_emits, modify_emits, publish_emits, pure_emits] at rest
    grind [settledObligation]

/-- Absorbing what a call published redoes the call. -/
theorem exec_emits {call : Call} {result : Unit}
    (emits : (exec env call).Emits before result after events) :
    (events.map fun event => (env.timestamp, event)).foldl absorb before =
      after := by
  cases call with
  | setPayoutReceiver caller payoutReceiver =>
      simp only [exec, setPayoutReceiver, bind_emits, requireRole_emits,
        panicIf_emits, read_emits, modify_emits, publish_emits] at emits
      grind [absorb]
  | grantRole caller role who =>
      simp only [exec, grantRole, Microcrop.grantRole, bind_emits,
        requireRole_emits, modify_emits, publish_emits, roleStorage_roles,
        roleStorage_setRoles] at emits
      grind [absorb]
  | revokeRole caller role who =>
      simp only [exec, revokeRole, Microcrop.revokeRole, bind_emits,
        requireRole_emits, modify_emits, publish_emits, roleStorage_roles,
        roleStorage_setRoles] at emits
      grind [absorb]
  | recordObligation caller policyId org amount determinationDigest =>
      simp only [exec, bind_emits, pure_emits] at emits
      obtain ⟨obligation, _, _, _, records, ⟨-, rfl, rfl⟩, rfl⟩ := emits
      rcases recordObligation_emits records with ⟨rfl, rfl⟩ | ⟨id, rfl, rfl⟩
      · rfl
      · rfl
  | markFunded caller obligationId referenceHash =>
      simp only [exec, bind_emits, pure_emits] at emits
      obtain ⟨result, _, _, _, marks, ⟨-, rfl, rfl⟩, rfl⟩ := emits
      rcases markFunded_emits marks with
        ⟨rfl, rfl⟩ | ⟨obligation, stored, rfl, rfl⟩
      · rfl
      · simp [absorb, stored, fundedObligation]
  | markSettled caller obligationId referenceHash =>
      simp only [exec, bind_emits, pure_emits] at emits
      obtain ⟨result, _, _, _, marks, ⟨-, rfl, rfl⟩, rfl⟩ := emits
      rcases markSettled_emits marks with
        ⟨rfl, rfl⟩ | ⟨obligation, stored, rfl, rfl⟩
      · rfl
      · simp [absorb, stored, settledObligation]

end Emits

theorem published_absorbed (state : State) (input : Input) :
    (published state input).foldl absorb state = apply state input := by
  unfold published apply
  rcases advance_cases (exec input.env input.call) state with
    ⟨refused, same⟩ | ⟨-, value, commits⟩
  · rw [same, published_of_refused refused]
    rfl
  · exact exec_emits commits.emits_published

/-- After every run, whoever made the calls and however many were refused, the
reader who absorbed the log holds exactly the storage of the adapter: roles,
bound PayoutReceiver, counter, obligations with all their marks, and both
indexes. -/
theorem ledgerReplay (admin : Address) (inputs : List Input) :
    (eventLog admin inputs).foldl absorb (constructor admin) =
      run admin inputs :=
  Replay.foldl_log (fun state input (_ : True) =>
    ⟨trivial, published_absorbed state input⟩) inputs trivial

end SettlementAdapter

end Microcrop
