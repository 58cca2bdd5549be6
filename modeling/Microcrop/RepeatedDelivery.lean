import Microcrop.ObligationLifecycle

/-!
# At-least-once delivery is safe

A record or a mark that was accepted once may be delivered again at any later
moment: it is refused, or it returns the stored obligation, and it leaves the
adapter as it is.  Repeated deliveries can therefore be struck out of a run.
-/

namespace Microcrop

namespace SettlementAdapter

open Transaction

/-- The second call delivers the first one again: a record with the same
receiver and arguments, or a mark of the same obligation with the same
reference, by anyone. -/
inductive Call.Repeats : Call → Call → Prop
  | record (caller : Address) (policyId : Nat) (org : Address) (amount : Int)
      (determinationDigest : BytesN 32) :
      Repeats
        (.recordObligation caller policyId org amount determinationDigest)
        (.recordObligation caller policyId org amount determinationDigest)
  | mark (mark : Mark) (first second : Address) (obligationId : Nat)
      (referenceHash : BytesN 32) :
      Repeats (mark.call first obligationId referenceHash)
        (mark.call second obligationId referenceHash)

/-- Delivered again to the ledger, in any environment, the call is refused or
returns the stored obligation, and it changes and publishes nothing. -/
def State.Tolerates (ledger : State) : Call → Prop
  | .recordObligation caller policyId org amount determinationDigest =>
      ∀ env, (recordObligation env caller policyId org amount
        determinationDigest).Observes ledger fun obligation =>
          ∃ id, ledger.findObligation caller policyId = some id ∧
            ledger.getObligation id = some obligation
  | .markFunded _ obligationId referenceHash =>
      ∀ env caller, (markFunded env caller obligationId
        referenceHash).Observes ledger fun obligation =>
          ledger.getObligation obligationId = some obligation
  | .markSettled _ obligationId referenceHash =>
      ∀ env caller, (markSettled env caller obligationId
        referenceHash).Observes ledger fun obligation =>
          ledger.getObligation obligationId = some obligation
  | _ => True

/-! ## What an accepted call leaves behind -/

/-- The ledger shows that the call was accepted before. -/
def State.Answers (ledger : State) : Call → Prop
  | .recordObligation caller policyId _ _ _ =>
      ∃ id, ledger.obligationOf caller policyId = some id
  | .markFunded _ obligationId _ =>
      ∃ obligation, ledger.obligations obligationId = some obligation ∧
        1 ≤ obligation.status.rank
  | .markSettled _ obligationId _ =>
      ∃ obligation, ledger.obligations obligationId = some obligation ∧
        2 ≤ obligation.status.rank
  | _ => True

theorem load_observes {ledger : State} (obligationId : Nat) :
    (load obligationId).Observes ledger fun obligation =>
      ledger.obligations obligationId = some obligation := by
  refine (read_observes _).bind ?_
  rintro stored rfl
  exact unwrapOr_observes _ _

theorem beginMark_observes {ledger : State} (env : Env) (caller : Address)
    (obligationId : Nat) (referenceHash : BytesN 32) :
    (beginMark env caller obligationId referenceHash).Observes ledger
      fun obligation => ledger.obligations obligationId = some obligation :=
  (panicIf_observes _ _).bind fun _ _ =>
    (panicIf_observes _ _).bind fun _ _ =>
      (read_observes _).bind fun _ _ =>
        (panicIf_observes _ _).bind fun _ _ => load_observes obligationId

theorem tolerates_of_answers {ledger : State} {call : Call}
    (answered : ledger.Answers call) : ledger.Tolerates call := by
  cases call with
  | setPayoutReceiver caller payoutReceiver => exact answered
  | grantRole caller role who => exact answered
  | revokeRole caller role who => exact answered
  | recordObligation caller policyId org amount determinationDigest =>
      obtain ⟨id, found⟩ := answered
      intro env
      refine (read_observes _).bind fun _ _ =>
        (unwrapOr_observes _ _).bind fun _ _ =>
          (panicIf_observes _ _).bind fun _ _ =>
            (panicIf_observes _ _).bind fun _ _ =>
              (panicIf_observes _ _).bind fun _ _ =>
                (read_observes _).bind ?_
      rintro existing rfl
      rw [found]
      refine (load_observes id).bind fun obligation stored =>
        (panicIf_observes _ _).bind fun _ _ => ?_
      exact pure_observes ⟨id, found, stored⟩
  | markFunded caller obligationId referenceHash =>
      obtain ⟨obligation, stored, funded⟩ := answered
      intro env caller
      refine (beginMark_observes env caller obligationId referenceHash).bind
        fun loaded storedLoaded => ?_
      rw [stored] at storedLoaded
      cases storedLoaded
      cases status : obligation.status with
      | owed =>
          rw [status] at funded
          cases funded
      | funded =>
          exact (panicIf_observes _ _).bind fun _ _ => pure_observes stored
      | settled => exact fail_observes _
  | markSettled caller obligationId referenceHash =>
      obtain ⟨obligation, stored, settled⟩ := answered
      intro env caller
      refine (beginMark_observes env caller obligationId referenceHash).bind
        fun loaded storedLoaded => ?_
      rw [stored] at storedLoaded
      cases storedLoaded
      have final : obligation.status = .settled := by
        cases status : obligation.status with
        | owed =>
            rw [status] at settled
            cases settled
        | funded =>
            rw [status] at settled
            exact absurd settled (by decide)
        | settled => rfl
      rw [if_pos final]
      exact (panicIf_observes _ _).bind fun _ _ => pure_observes stored

/-- An accepted call is answered in the state that it leaves. -/
theorem answers_of_commits {env : Env} {call : Call}
    {before after : State} {result : Unit}
    (commits : (exec env call).Commits before result after) :
    after.Answers call := by
  cases call with
  | setPayoutReceiver caller payoutReceiver => trivial
  | grantRole caller role who => trivial
  | revokeRole caller role who => trivial
  | recordObligation caller policyId org amount determinationDigest =>
      simp only [exec, bind_commits, pure_commits,
        recordObligation_commits] at commits
      obtain ⟨obligation, _, ⟨-, -, -, ⟨id, existing, -, -, -, -, rfl⟩ |
        ⟨-, id, -, -, -, rfl, rfl⟩⟩, -, rfl⟩ := commits
      · exact ⟨id, existing⟩
      · refine ⟨id, ?_⟩
        rw [State.insertObligation_obligationOf]
        exact (congrFun (Function.update_self ..) _).trans
          (Function.update_self ..)
  | markFunded caller obligationId referenceHash =>
      simp only [exec, bind_commits, pure_commits,
        markFunded_commits] at commits
      obtain ⟨_, _, ⟨-, -, -, obligation, stored, ⟨-, rfl, rfl⟩ |
        ⟨funded, -, rfl, rfl⟩⟩, -, rfl⟩ := commits
      · exact ⟨_, Function.update_self .., Nat.le_refl 1⟩
      · refine ⟨_, stored, ?_⟩
        rw [funded]
        exact Nat.le_refl 1
  | markSettled caller obligationId referenceHash =>
      simp only [exec, bind_commits, pure_commits,
        markSettled_commits] at commits
      obtain ⟨_, _, ⟨-, -, -, obligation, stored, ⟨-, rfl, rfl⟩ |
        ⟨settled, -, rfl, rfl⟩⟩, -, rfl⟩ := commits
      · exact ⟨_, Function.update_self .., Nat.le_refl 2⟩
      · refine ⟨_, stored, ?_⟩
        rw [settled]
        exact Nat.le_refl 2

/-! ## Later states -/

theorem Mark.rank_write {env : Env} {caller : Address}
    {referenceHash : BytesN 32} {obligation : Obligation} {mark : Mark}
    (admits : mark.Admits obligation.status) :
    obligation.status.rank ≤
      (mark.write env caller referenceHash obligation).status.rank := by
  cases mark with
  | funding =>
      have owed : obligation.status = .owed := admits
      rw [owed]
      exact Nat.zero_le _
  | settlement =>
      change obligation.status.rank ≤ 2
      cases obligation.status <;> decide

section Effects

variable {env : Env} {before after : State} {call : Call}

/-- The status of an obligation does not go back. -/
theorem rank_effect (effect : Effect env before call after)
    (wellFormed : before.WellFormed) {id : Nat} {obligation : Obligation}
    (stored : before.obligations id = some obligation) :
    ∃ later, after.obligations id = some later ∧
      obligation.status.rank ≤ later.status.rank := by
  rcases kept_or_marked effect wellFormed stored with
    kept | ⟨mark, caller, referenceHash, admits, written⟩
  · exact ⟨obligation, kept, Nat.le_refl _⟩
  · exact ⟨_, written, Mark.rank_write admits⟩

/-- The lookup of a pair stays. -/
theorem found_effect (effect : Effect env before call after)
    (wellFormed : before.WellFormed) {payoutReceiver : Address}
    {policyId id : Nat}
    (found : before.obligationOf payoutReceiver policyId = some id) :
    after.obligationOf payoutReceiver policyId = some id := by
  obtain ⟨obligation, stored, rfl, rfl⟩ :=
    wellFormed.stored payoutReceiver policyId id found
  obtain ⟨later, storedLater, continues⟩ :=
    continues_effect effect wellFormed stored
  rw [← continues.payoutReceiver_eq, ← continues.policyId_eq]
  exact (wellFormed_effect effect wellFormed).indexed id later storedLater

theorem answers_effect (effect : Effect env before call after)
    (wellFormed : before.WellFormed) {earlier : Call}
    (answered : before.Answers earlier) : after.Answers earlier := by
  have advanced : ∀ {id rank : Nat},
      (∃ obligation, before.obligations id = some obligation ∧
        rank ≤ obligation.status.rank) →
      ∃ obligation, after.obligations id = some obligation ∧
        rank ≤ obligation.status.rank := by
    rintro id rank ⟨obligation, stored, reached⟩
    obtain ⟨later, storedLater, further⟩ :=
      rank_effect effect wellFormed stored
    exact ⟨later, storedLater, reached.trans further⟩
  cases earlier with
  | setPayoutReceiver caller payoutReceiver => trivial
  | grantRole caller role who => trivial
  | revokeRole caller role who => trivial
  | recordObligation caller policyId org amount determinationDigest =>
      obtain ⟨id, found⟩ := answered
      exact ⟨id, found_effect effect wellFormed found⟩
  | markFunded caller obligationId referenceHash => exact advanced answered
  | markSettled caller obligationId referenceHash => exact advanced answered

end Effects

/-! ## Every run -/

/-- Every call that the past accepted is answered. -/
theorem answers_run (admin : Address) (inputs : List Input) :
    ∀ transition ∈ trace admin inputs,
      accepts transition.source transition.label = true →
        (run admin inputs).Answers transition.label.call := by
  have invariant := History.trace_invariant apply (fun _ => True)
    (fun past ledger => ledger.WellFormed ∧
      ∀ transition ∈ past,
        accepts transition.source transition.label = true →
          ledger.Answers transition.label.call)
    ?_ inputs [] ⟨wellFormed_constructor admin, by simp⟩
    (fun _ _ => trivial)
  · exact invariant.2
  · rintro past ledger input - ⟨wellFormed, answered⟩
    rcases apply_cases ledger input with
      ⟨refused, same⟩ | ⟨accepted, commits⟩
    · rw [same]
      refine ⟨wellFormed, ?_⟩
      intro transition member wasAccepted
      rcases List.mem_append.mp member with old | new
      · exact answered transition old wasAccepted
      · rw [List.mem_singleton.mp new] at wasAccepted
        exact absurd wasAccepted (ne_true_of_eq_false refused)
    · have effect := exec_effect input.env input.call commits
      refine ⟨wellFormed_effect effect wellFormed, ?_⟩
      intro transition member wasAccepted
      rcases List.mem_append.mp member with old | new
      · exact answers_effect effect wellFormed
          (answered transition old wasAccepted)
      · rw [List.mem_singleton.mp new]
        exact answers_of_commits commits

/-- A harmless call delivered again leaves the ledger as it is. -/
theorem State.Tolerates.apply_eq {ledger : State} {first : Call}
    (harmless : ledger.Tolerates first) {input : Input}
    (repeats : first.Repeats input.call) : apply ledger input = ledger := by
  obtain ⟨env, call⟩ := input
  have quiet : ∀ {program : Contract State Obligation}
      {property : Obligation → Prop}, program.Observes ledger property →
        (do let _ ← program; pure () : Contract State Unit).advance ledger =
          ledger := by
    intro program property observes
    have dropped : (do let _ ← program; pure () : Contract State Unit).Observes
        ledger fun _ => True :=
      observes.bind fun _ _ => pure_observes trivial
    exact dropped.advance_eq
  cases repeats with
  | record caller policyId org amount determinationDigest =>
      exact quiet (harmless env)
  | mark mark first second obligationId referenceHash =>
      cases mark with
      | funding => exact quiet (harmless env second)
      | settlement => exact quiet (harmless env second)

/-- After the inputs `past`, the second list is the first one with repeated
deliveries struck out: each one left out repeats a call that the run had
accepted before. -/
inductive Thins (admin : Address) :
    List Input → List Input → List Input → Prop
  | done (past : List Input) : Thins admin past [] []
  | kept {past inputs thinned : List Input} (input : Input)
      (rest : Thins admin (past ++ [input]) inputs thinned) :
      Thins admin past (input :: inputs) (input :: thinned)
  | struck {past inputs thinned : List Input} (input : Input)
      {transition : Transition State Input}
      (earlier : transition ∈ trace admin past)
      (accepted : accepts transition.source transition.label = true)
      (repeats : transition.label.call.Repeats input.call)
      (rest : Thins admin (past ++ [input]) inputs thinned) :
      Thins admin past (input :: inputs) thinned

theorem Thins.run_eq {admin : Address} {past inputs thinned : List Input}
    (thins : Thins admin past inputs thinned) :
    History.run apply (run admin past) thinned =
      History.run apply (run admin past) inputs := by
  have extended : ∀ past input,
      run admin (past ++ [input]) = apply (run admin past) input := by
    intro past input
    unfold run
    rw [History.run_append]
    rfl
  induction thins with
  | done past => rfl
  | @kept past inputs thinned input rest ih =>
      rw [extended] at ih
      rw [History.run_cons, History.run_cons, ih]
  | @struck past inputs thinned input transition earlier accepted repeats rest
      ih =>
      have answered := answers_run admin past transition earlier accepted
      have same := (tolerates_of_answers answered).apply_eq repeats
      rw [extended, same] at ih
      rw [History.run_cons, same, ih]

/-- Whatever was accepted in a run is harmless when it is delivered again at
its end, and a run without its repeated deliveries ends in the same state. -/
structure DeliveredOnce (admin : Address) (inputs : List Input) : Prop where
  harmless : ∀ transition ∈ trace admin inputs,
    accepts transition.source transition.label = true →
      ∀ again, transition.label.call.Repeats again →
        (run admin inputs).Tolerates again
  strikes : ∀ thinned, Thins admin [] inputs thinned →
    run admin thinned = run admin inputs

theorem repeatedDelivery (admin : Address) (inputs : List Input) :
    DeliveredOnce admin inputs := by
  refine ⟨?_, fun thinned thins => thins.run_eq⟩
  intro transition member accepted again repeats
  have harmless := tolerates_of_answers
    (answers_run admin inputs transition member accepted)
  generalize transition.label.call = first at repeats harmless
  cases repeats with
  | record caller policyId org amount determinationDigest => exact harmless
  | mark mark first second obligationId referenceHash =>
      cases mark with
      | funding => exact harmless
      | settlement => exact harmless

end SettlementAdapter

end Microcrop
