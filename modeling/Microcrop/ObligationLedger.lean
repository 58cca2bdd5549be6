import Microcrop.KeyedStoreWrites
import Microcrop.SettlementAdapter

/-!
# The obligation ledger of a SettlementAdapter

The obligations of an adapter and their lookup by receiver and policy are one
relation, obligations are numbered in the order they were recorded, and what
an obligation says about its policy never changes once it is stored.
-/

namespace Microcrop

/-- How a stored obligation looks later: only its marks may have moved. -/
def Obligation.Continues (obligation later : Obligation) : Prop :=
  later = { obligation with
    status := later.status
    fundedBy := later.fundedBy
    fundedAt := later.fundedAt
    fundingReference := later.fundingReference
    settledBy := later.settledBy
    settledAt := later.settledAt
    settlementReference := later.settlementReference }

theorem Obligation.Continues.refl (obligation : Obligation) :
    obligation.Continues obligation :=
  rfl

theorem Obligation.Continues.trans {obligation middle later : Obligation}
    (first : obligation.Continues middle) (second : middle.Continues later) :
    obligation.Continues later := by
  unfold Obligation.Continues at first second ⊢
  rw [second, first]

namespace Obligation.Continues

variable {obligation later : Obligation}
  (continues : obligation.Continues later)

include continues

theorem id_eq : later.id = obligation.id := by
  rw [continues]

theorem payoutReceiver_eq :
    later.payoutReceiver = obligation.payoutReceiver := by
  rw [continues]

theorem policyId_eq : later.policyId = obligation.policyId := by
  rw [continues]

theorem org_eq : later.org = obligation.org := by
  rw [continues]

theorem amount_eq : later.amount = obligation.amount := by
  rw [continues]

theorem determinationDigest_eq :
    later.determinationDigest = obligation.determinationDigest := by
  rw [continues]

end Obligation.Continues

namespace SettlementAdapter

open Transaction

/-- Obligations are stored under their own id, below the next one, the
lookup by receiver and policy finds exactly the stored ones, and the index of
an organisation is no longer than the ledger. -/
structure State.WellFormed (ledger : State) : Prop where
  numbered : ∃ next, ledger.nextObligationId = some next ∧
    ∀ id obligation, ledger.obligations id = some obligation →
      obligation.id = id ∧ id < next
  indexed : ∀ id obligation, ledger.obligations id = some obligation →
    ledger.obligationOf obligation.payoutReceiver obligation.policyId =
      some id
  stored : ∀ payoutReceiver policyId id,
    ledger.obligationOf payoutReceiver policyId = some id →
      ∃ obligation, ledger.obligations id = some obligation ∧
        obligation.payoutReceiver = payoutReceiver ∧
          obligation.policyId = policyId
  counted : ∀ org next, ledger.nextObligationId = some next →
    ledger.orgObligationCount org < next

theorem wellFormed_constructor (admin : Address) :
    (constructor admin).WellFormed := by
  refine ⟨⟨1, rfl, ?_⟩, ?_, ?_, ?_⟩
  · intro id obligation stored
    cases stored
  · intro id obligation stored
    cases stored
  · intro payoutReceiver policyId id indexed
    cases indexed
  · intro org next counter
    cases counter
    exact Nat.one_pos

section Writes

variable {ledger : State} (wellFormed : ledger.WellFormed)

include wellFormed

/-- The next id is free. -/
theorem obligations_next {next : Nat}
    (counter : ledger.nextObligationId = some next) :
    ledger.obligations next = none := by
  obtain ⟨other, same, below⟩ := wellFormed.numbered
  rw [counter] at same
  cases same
  rw [Option.eq_none_iff_forall_ne_some]
  intro obligation stored
  have bound := (below next obligation stored).2
  omega

theorem wellFormed_insert {obligation : Obligation}
    (missing : ledger.obligationOf obligation.payoutReceiver
      obligation.policyId = none)
    (counter : ledger.nextObligationId = some obligation.id)
    (appended : obligation.orgIndex =
      ledger.orgObligationCount obligation.org) :
    (ledger.insertObligation obligation).WellFormed := by
  have free := obligations_next wellFormed counter
  obtain ⟨next, same, below⟩ := wellFormed.numbered
  rw [counter] at same
  cases same
  refine ⟨⟨obligation.id + 1, rfl, ?_⟩, ?_, ?_, ?_⟩
  · intro id found stored
    rw [State.insertObligation_obligations] at stored
    by_cases new : id = obligation.id
    · rw [new, Function.update_self] at stored
      cases stored
      omega
    · rw [Function.update_of_ne new] at stored
      have old := below id found stored
      omega
  · intro id found stored
    rw [State.insertObligation_obligations] at stored
    rw [State.insertObligation_obligationOf]
    by_cases new : id = obligation.id
    · rw [new, Function.update_self] at stored
      cases stored
      rw [Function.update_self, Function.update_self, new]
    · rw [Function.update_of_ne new] at stored
      have indexed := wellFormed.indexed id found stored
      by_cases receiver : found.payoutReceiver = obligation.payoutReceiver
      · rw [receiver] at indexed
        have policy : found.policyId ≠ obligation.policyId := by
          intro same
          rw [same, missing] at indexed
          cases indexed
        rw [receiver, Function.update_self, Function.update_of_ne policy]
        exact indexed
      · rw [Function.update_of_ne receiver]
        exact indexed
  · intro payoutReceiver policyId id indexed
    rw [State.insertObligation_obligationOf] at indexed
    rw [State.insertObligation_obligations]
    have kept : ledger.obligationOf payoutReceiver policyId = some id →
        ∃ found, Function.update ledger.obligations obligation.id
            (some obligation) id = some found ∧
          found.payoutReceiver = payoutReceiver ∧
            found.policyId = policyId := by
      intro earlier
      obtain ⟨found, stored, receiver, policy⟩ :=
        wellFormed.stored payoutReceiver policyId id earlier
      have old : id ≠ obligation.id := by
        intro same
        rw [same, free] at stored
        cases stored
      exact ⟨found, by rw [Function.update_of_ne old, stored], receiver,
        policy⟩
    by_cases receiver : payoutReceiver = obligation.payoutReceiver
    · rw [receiver, Function.update_self] at indexed
      by_cases policy : policyId = obligation.policyId
      · rw [policy, Function.update_self] at indexed
        cases indexed
        exact ⟨obligation, Function.update_self .., receiver.symm,
          policy.symm⟩
      · rw [Function.update_of_ne policy] at indexed
        exact kept (receiver ▸ indexed)
    · rw [Function.update_of_ne receiver] at indexed
      exact kept indexed
  · intro org later laterCounter
    cases laterCounter
    have before := wellFormed.counted
    unfold State.orgObligationCount at before appended ⊢
    rw [State.insertObligation_orgObligationCounts]
    by_cases same : org = obligation.org
    · rw [same, Function.update_self, Option.getD_some, appended]
      exact Nat.succ_lt_succ (before obligation.org _ counter)
    · rw [Function.update_of_ne same]
      exact Nat.lt_succ_of_lt (before org _ counter)

theorem wellFormed_save {id : Nat} {obligation later : Obligation}
    (stored : ledger.obligations id = some obligation)
    (continues : obligation.Continues later) :
    (ledger.saveObligation id later).WellFormed := by
  obtain ⟨next, counter, below⟩ := wellFormed.numbered
  refine ⟨⟨next, counter, ?_⟩, ?_, ?_, wellFormed.counted⟩
  · apply KeyedStore.forall_written below
    rw [continues.id_eq]
    exact below id obligation stored
  · apply KeyedStore.forall_written wellFormed.indexed
    rw [continues.payoutReceiver_eq, continues.policyId_eq]
    exact wellFormed.indexed id obligation stored
  · intro payoutReceiver policyId other indexed
    rw [State.saveObligation_obligationOf] at indexed
    rw [State.saveObligation_obligations]
    obtain ⟨found, storedFound, receiver, policy⟩ :=
      wellFormed.stored payoutReceiver policyId other indexed
    by_cases same : other = id
    · rw [same, stored] at storedFound
      cases storedFound
      exact ⟨later, by rw [same, Function.update_self],
        continues.payoutReceiver_eq.trans receiver,
        continues.policyId_eq.trans policy⟩
    · exact ⟨found, by rw [Function.update_of_ne same, storedFound], receiver,
        policy⟩

end Writes

/-! ## Every call -/

theorem continues_funded (env : Env) (caller : Address)
    (referenceHash : BytesN 32) (obligation : Obligation) :
    obligation.Continues
      (fundedObligation env caller referenceHash obligation) :=
  rfl

theorem continues_settled (env : Env) (caller : Address)
    (referenceHash : BytesN 32) (obligation : Obligation) :
    obligation.Continues
      (settledObligation env caller referenceHash obligation) :=
  rfl

section Effects

variable {env : Env} {before after : State} {call : Call}

theorem wellFormed_effect (effect : Effect env before call after)
    (wellFormed : before.WellFormed) : after.WellFormed := by
  cases effect with
  | bound signed admin other =>
      exact ⟨wellFormed.numbered, wellFormed.indexed, wellFormed.stored,
        wellFormed.counted⟩
  | granted signed admin =>
      exact ⟨wellFormed.numbered, wellFormed.indexed, wellFormed.stored,
        wellFormed.counted⟩
  | revoked signed admin =>
      exact ⟨wellFormed.numbered, wellFormed.indexed, wellFormed.stored,
        wellFormed.counted⟩
  | recorded configured signed positive missing next =>
      exact wellFormed_insert wellFormed missing next rfl
  | funded signed reference funder stored owed =>
      exact wellFormed_save wellFormed stored (continues_funded ..)
  | settled signed reference funder stored unsettled =>
      exact wellFormed_save wellFormed stored (continues_settled ..)
  | repeated => exact wellFormed

/-- A stored obligation is still there after any call. -/
theorem continues_effect (effect : Effect env before call after)
    (wellFormed : before.WellFormed) {id : Nat} {obligation : Obligation}
    (stored : before.obligations id = some obligation) :
    ∃ later, after.obligations id = some later ∧
      obligation.Continues later := by
  have marked : ∀ {other : Nat} {old marked : Obligation},
      before.obligations other = some old → old.Continues marked →
        ∃ later, Function.update before.obligations other (some marked) id =
            some later ∧
          obligation.Continues later := by
    intro other old marked storedOld continues
    by_cases same : id = other
    · rw [same] at stored
      rw [stored] at storedOld
      cases storedOld
      exact ⟨marked, by rw [same, Function.update_self], continues⟩
    · exact ⟨obligation, by rw [Function.update_of_ne same, stored], rfl⟩
  cases effect with
  | bound signed admin other => exact ⟨obligation, stored, rfl⟩
  | granted signed admin => exact ⟨obligation, stored, rfl⟩
  | revoked signed admin => exact ⟨obligation, stored, rfl⟩
  | @recorded _ _ _ _ _ next configured signed positive missing counter =>
      have old : id ≠ next := by
        intro same
        rw [same, obligations_next wellFormed counter] at stored
        cases stored
      exact ⟨obligation, (Function.update_of_ne old ..).trans stored, rfl⟩
  | funded signed reference funder storedOld owed =>
      exact marked storedOld (continues_funded ..)
  | settled signed reference funder storedOld unsettled =>
      exact marked storedOld (continues_settled ..)
  | repeated => exact ⟨obligation, stored, rfl⟩

/-- An obligation was there before a call, or the bound PayoutReceiver
authorized its record. -/
theorem origin_effect (effect : Effect env before call after) {id : Nat}
    {later : Obligation} (stored : after.obligations id = some later) :
    (∃ obligation, before.obligations id = some obligation ∧
        obligation.Continues later) ∨
      (before.payoutReceiver = some later.payoutReceiver ∧
        env.authorized later.payoutReceiver = true) := by
  have marked : ∀ {other : Nat} {old marked : Obligation},
      before.obligations other = some old → old.Continues marked →
        Function.update before.obligations other (some marked) id =
            some later →
          ∃ obligation, before.obligations id = some obligation ∧
            obligation.Continues later := by
    intro other old marked storedOld continues storedLater
    rcases KeyedStore.new_or_stored storedLater with
      ⟨rfl, rfl⟩ | storedBefore
    · exact ⟨old, storedOld, continues⟩
    · exact ⟨later, storedBefore, rfl⟩
  cases effect with
  | bound signed admin other => exact Or.inl ⟨later, stored, rfl⟩
  | granted signed admin => exact Or.inl ⟨later, stored, rfl⟩
  | revoked signed admin => exact Or.inl ⟨later, stored, rfl⟩
  | @recorded caller policyId org amount digest next configured signed
      positive missing counter =>
      rw [State.insertObligation_obligations] at stored
      by_cases new : id = next
      · have written : later = newObligation env before next caller policyId
            org amount digest := by
          rw [new] at stored
          simpa [newObligation] using stored.symm
        rw [written]
        exact Or.inr ⟨configured, signed⟩
      · rw [Function.update_of_ne (by exact new)] at stored
        exact Or.inl ⟨later, stored, rfl⟩
  | funded signed reference funder storedOld owed =>
      exact Or.inl (marked storedOld (continues_funded ..) stored)
  | settled signed reference funder storedOld unsettled =>
      exact Or.inl (marked storedOld (continues_settled ..) stored)
  | repeated => exact Or.inl ⟨later, stored, rfl⟩

end Effects

end SettlementAdapter

end Microcrop
