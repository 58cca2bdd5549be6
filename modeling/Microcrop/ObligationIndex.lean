import Mathlib.Data.Set.Function
import Mathlib.Order.Interval.Set.Defs
import Microcrop.GroupedIndex
import Microcrop.ObligationLedger

/-!
# The stores of a SettlementAdapter agree

An obligation is stored four times over: under its id, in the lookup by
receiver and policy, in the index of its org and in the org's count.  After
every run these stores agree with each other and with the records that were
accepted.
-/

namespace Microcrop

namespace SettlementAdapter

open Transaction

/-- Obligations, org indexes and org counts agree. -/
def State.Indexed (ledger : State) : Prop :=
  GroupedStore.Indexed Obligation.org Obligation.orgIndex ledger.obligations
    ledger.obligationCount ledger.orgObligationAt ledger.orgObligationCount

/-- Every obligation has an amount to pay. -/
def State.Owes (ledger : State) : Prop :=
  ∀ id obligation, ledger.obligations id = some obligation →
    0 < obligation.amount

/-- The pair of receiver and policy that a call records. -/
def Call.recorded : Call → Option (Address × Nat)
  | .recordObligation caller policyId _ _ _ => some (caller, policyId)
  | _ => none

/-- A record for the receiver and the policy was accepted in the run. -/
def EverRecorded (admin : Address) (inputs : List Input)
    (payoutReceiver : Address) (policyId : Nat) : Prop :=
  ∃ transition ∈ trace admin inputs,
    accepts transition.source transition.label = true ∧
      transition.label.call.recorded = some (payoutReceiver, policyId)

theorem State.insertObligation_orgObligationCount (ledger : State)
    {obligation : Obligation}
    (appended : obligation.orgIndex =
      ledger.orgObligationCount obligation.org) :
    (ledger.insertObligation obligation).orgObligationCount =
      Function.update ledger.orgObligationCount obligation.org
        (ledger.orgObligationCount obligation.org + 1) := by
  funext org
  unfold State.orgObligationCount
  rw [State.insertObligation_orgObligationCounts]
  by_cases same : org = obligation.org
  · rw [same, Function.update_self, Function.update_self, appended]
    rfl
  · rw [Function.update_of_ne same, Function.update_of_ne same]

/-! ## Every call -/

/-- The stores agree after a new obligation was inserted. -/
theorem indexed_insert {ledger : State} {obligation : Obligation}
    (wellFormed : ledger.WellFormed) (indexed : ledger.Indexed)
    (next : ledger.nextObligationId = some obligation.id)
    (appended : obligation.orgIndex =
      ledger.orgObligationCount obligation.org) :
    (ledger.insertObligation obligation).Indexed := by
  have idPositive : 0 < obligation.id :=
    Nat.zero_lt_of_lt (wellFormed.counted obligation.org _ next)
  have size : ledger.obligationCount + 1 = obligation.id := by
    unfold State.obligationCount
    rw [next, Option.getD_some]
    omega
  have longer := indexed.append obligation appended
  rw [size, ← appended] at longer
  unfold State.Indexed
  rw [State.insertObligation_orgObligationCount ledger appended,
    ← appended]
  exact longer

section Effects

variable {env : Env} {before after : State} {call : Call}

theorem indexed_effect (effect : Effect env before call after)
    (wellFormed : before.WellFormed) (indexed : before.Indexed) :
    after.Indexed := by
  cases effect with
  | bound signed admin other => exact indexed
  | granted signed admin => exact indexed
  | revoked signed admin => exact indexed
  | recorded configured signed positive missing next =>
      exact indexed_insert wellFormed indexed next rfl
  | funded signed reference funder stored owed =>
      exact indexed.replace stored rfl rfl
  | settled signed reference funder stored unsettled =>
      exact indexed.replace stored rfl rfl
  | repeated => exact indexed

theorem owes_effect (effect : Effect env before call after)
    (owes : before.Owes) : after.Owes := by
  cases effect with
  | bound signed admin other => exact owes
  | granted signed admin => exact owes
  | revoked signed admin => exact owes
  | recorded configured signed positive missing next =>
      exact KeyedStore.forall_written owes positive
  | funded signed reference funder stored owed =>
      have positive := owes _ _ stored
      exact KeyedStore.forall_written owes positive
  | settled signed reference funder stored unsettled =>
      have positive := owes _ _ stored
      exact KeyedStore.forall_written owes positive
  | repeated => exact owes

/-- The pairs with an obligation are those from before and the one that the
call records. -/
theorem found_exec {result : Unit}
    (commits : (exec env call).Commits before result after)
    (payoutReceiver : Address) (policyId : Nat) :
    (∃ id, after.obligationOf payoutReceiver policyId = some id) ↔
      (∃ id, before.obligationOf payoutReceiver policyId = some id) ∨
        call.recorded = some (payoutReceiver, policyId) := by
  cases call with
  | recordObligation caller policy org amount digest =>
      simp only [exec, bind_commits, pure_commits,
        recordObligation_commits] at commits
      obtain ⟨obligation, _, ⟨-, -, -, ⟨id, existing, -, -, -, -, rfl⟩ |
        ⟨missing, id, -, -, -, rfl, rfl⟩⟩, -, rfl⟩ := commits
      · constructor
        · exact Or.inl
        · rintro (found | same)
          · exact found
          · cases same
            exact ⟨id, existing⟩
      · rw [State.insertObligation_obligationOf]
        simp only [newObligation, Call.recorded, Option.some.injEq,
          Prod.mk.injEq]
        by_cases receiver : payoutReceiver = caller
        · subst receiver
          by_cases same : policyId = policy
          · simp [same]
          · simp [Function.update_of_ne same, Ne.symm same]
        · simp [Function.update_of_ne receiver, Ne.symm receiver]
  | _ =>
      have effect := exec_effect env _ commits
      cases effect <;> simp [Call.recorded]

end Effects

/-! ## Every run -/

/-- The stores agree with each other and with the recorded pairs. -/
structure State.Represents (ledger : State)
    (recorded : Set (Address × Nat)) : Prop where
  indexed : GroupedStore.Indexed Obligation.org Obligation.orgIndex
    ledger.getObligation ledger.obligationCount ledger.orgObligationAt
    ledger.orgObligationCount
  own : ∀ id obligation, ledger.getObligation id = some obligation →
    obligation.id = id ∧ 0 < obligation.amount
  found : Set.BijOn
    (fun pair => ledger.findObligation pair.1 pair.2) recorded
    (some '' Set.Icc 1 ledger.obligationCount)
  missing : ∀ pair, pair ∉ recorded →
    ledger.findObligation pair.1 pair.2 = none
  agrees : ∀ id obligation, ledger.getObligation id = some obligation →
    ledger.findObligation obligation.payoutReceiver obligation.policyId =
      some id

theorem represents_of_wellFormed {ledger : State}
    {recorded : Set (Address × Nat)} (wellFormed : ledger.WellFormed)
    (indexed : ledger.Indexed) (owes : ledger.Owes)
    (found : ∀ payoutReceiver policyId,
      (payoutReceiver, policyId) ∈ recorded ↔
        ∃ id, ledger.obligationOf payoutReceiver policyId = some id) :
    ledger.Represents recorded := by
  obtain ⟨next, -, below⟩ := wellFormed.numbered
  refine
    { indexed := indexed
      own := fun id obligation stored =>
        ⟨(below id obligation stored).1, owes id obligation stored⟩
      found := ⟨?_, ?_, ?_⟩
      missing := ?_
      agrees := wellFormed.indexed }
  · rintro ⟨payoutReceiver, policyId⟩ member
    obtain ⟨id, foundId⟩ := (found payoutReceiver policyId).mp member
    obtain ⟨obligation, stored, -, -⟩ :=
      wellFormed.stored payoutReceiver policyId id foundId
    exact ⟨id, (indexed.numbered id).mp ⟨obligation, stored⟩, foundId.symm⟩
  · rintro ⟨payoutReceiver, policyId⟩ member ⟨other, otherPolicy⟩ - same
    obtain ⟨id, foundId⟩ := (found payoutReceiver policyId).mp member
    have foundOther : ledger.obligationOf other otherPolicy = some id :=
      same.symm.trans foundId
    obtain ⟨obligation, stored, receiver, policy⟩ :=
      wellFormed.stored payoutReceiver policyId id foundId
    obtain ⟨again, storedAgain, receiverAgain, policyAgain⟩ :=
      wellFormed.stored other otherPolicy id foundOther
    rw [stored] at storedAgain
    cases storedAgain
    rw [← receiver, ← policy, receiverAgain, policyAgain]
  · rintro _ ⟨id, inRange, rfl⟩
    obtain ⟨obligation, stored⟩ := (indexed.numbered id).mpr inRange
    have foundId := wellFormed.indexed id obligation stored
    exact ⟨(obligation.payoutReceiver, obligation.policyId),
      (found _ _).mpr ⟨id, foundId⟩, foundId⟩
  · rintro ⟨payoutReceiver, policyId⟩ unrecorded
    rw [found] at unrecorded
    rw [State.findObligation, Option.eq_none_iff_forall_ne_some]
    exact fun id foundId => unrecorded ⟨id, foundId⟩

/-- After every run of the adapter, whoever made its calls, all its stores
agree with each other and with the accepted records. -/
theorem obligationsIndexed (admin : Address) (inputs : List Input) :
    (run admin inputs).Represents
      {pair | EverRecorded admin inputs pair.1 pair.2} := by
  have started : (constructor admin).Owes := by
    intro id obligation stored
    cases stored
  have invariant := History.trace_invariant apply (fun _ => True)
    (fun past ledger => ledger.WellFormed ∧ ledger.Indexed ∧ ledger.Owes ∧
      ∀ payoutReceiver policyId,
        (∃ transition ∈ past,
          accepts transition.source transition.label = true ∧
            transition.label.call.recorded =
              some (payoutReceiver, policyId)) ↔
          ∃ id, ledger.obligationOf payoutReceiver policyId = some id)
    ?_ inputs [] ⟨wellFormed_constructor admin, GroupedStore.indexed_empty,
      started, by simp [constructor]⟩
    (fun _ _ => trivial)
  · obtain ⟨wellFormed, indexed, owes, found⟩ := invariant
    exact represents_of_wellFormed wellFormed indexed owes found
  · rintro past ledger input - ⟨wellFormed, indexed, owes, found⟩
    rcases apply_cases ledger input with
      ⟨refused, same⟩ | ⟨accepted, commits⟩
    · rw [same]
      refine ⟨wellFormed, indexed, owes, fun payoutReceiver policyId => ?_⟩
      rw [← found]
      simp [or_and_right, exists_or, History.taken, refused]
    · have effect := exec_effect input.env input.call commits
      refine ⟨wellFormed_effect effect wellFormed,
        indexed_effect effect wellFormed indexed, owes_effect effect owes,
        fun payoutReceiver policyId => ?_⟩
      rw [found_exec commits, ← found]
      simp [or_and_right, exists_or, History.taken, accepted]

end SettlementAdapter

end Microcrop
