import Mathlib.Logic.Relation
import Microcrop.PolicyManagerAccounting

/-!
# The lifecycle of a policy

One transition relation for the policy stored under one id, and the proof
that every call of PolicyManager takes at most one step of it for each id.
Along a chronological run the cover of a policy never changes, its status
only moves forward, and its dates move once, at activation.
-/

namespace Microcrop

/-- The status moves of a policy. -/
inductive PolicyStatus.Moves : PolicyStatus → PolicyStatus → Prop
  | activate : Moves .pending .active
  | cancelPending : Moves .pending .cancelled
  | expirePending : Moves .pending .expired
  | claim : Moves .active .claimed
  | cancelActive : Moves .active .cancelled
  | expireActive : Moves .active .expired

theorem PolicyStatus.Moves.not_pending {source target : PolicyStatus}
    (moves : Moves source target) : target ≠ .pending := by
  cases moves <;> decide

namespace PolicyManager

/-- The ledger time of a call. -/
def Input.time {Ω : Type} (input : Input Ω) : Nat :=
  input.env.timestamp

end PolicyManager

open PolicyManager

/-- What one call at the ledger time `now` may do to the policy stored under
`policyId`. -/
inductive LifecycleStep (now policyId : Nat) :
    Call → Option Policy → Option Policy → Prop
  | unchanged (call : Call) (stored : Option Policy) :
      LifecycleStep now policyId call stored stored
  | sold {caller farmer : Address} {plotId : Nat}
      {latE6 lonE6 sumInsured premium : Int} {durationDays : Nat}
      {coverageType : CoverageType} {org : Address}
      (valid : ValidCover latE6 lonE6 sumInsured premium durationDays
        coverageType) :
      LifecycleStep now policyId
        (.createPolicy caller farmer plotId latE6 lonE6 sumInsured premium
          durationDays coverageType org) none
        (some
          { id := policyId, farmer, plotId, latE6, lonE6, sumInsured, premium
            startDate := now
            endDate := now + durationDays * secondsPerDay
            coverageType, status := .pending, createdAt := now, org })
  | activated {caller distributor : Address} {distributorName region : String}
      {policy : Policy} (pending : policy.status = .pending)
      (inTime : now ≤ policy.endDate) :
      LifecycleStep now policyId
        (.activatePolicy caller policyId distributor distributorName region)
        (some policy)
        (some
          { policy with
            status := .active, startDate := now
            endDate := now + (policy.endDate - policy.startDate) })
  | claimed {caller : Address} {policy : Policy}
      (active : policy.status = .active) (started : policy.startDate ≤ now)
      (inTime : now ≤ policy.endDate) :
      LifecycleStep now policyId (.markAsClaimed caller policyId)
        (some policy) (some { policy with status := .claimed })
  | cancelled {caller : Address} {policy : Policy} (isOpen : policy.IsOpen) :
      LifecycleStep now policyId (.cancelPolicy caller policyId)
        (some policy) (some { policy with status := .cancelled })
  | expired {policy : Policy} (isOpen : policy.IsOpen)
      (ended : policy.endDate < now) :
      LifecycleStep now policyId (.expirePolicy policyId)
        (some policy) (some { policy with status := .expired })

/-- The dates of a policy sold at `createdAt` for a whole number of days. -/
structure Policy.Lawful (policy : Policy) : Prop where
  sold : ∃ durationDays, ValidCover policy.latE6 policy.lonE6
      policy.sumInsured policy.premium durationDays policy.coverageType ∧
    policy.endDate = policy.startDate + durationDays * secondsPerDay
  created_le : policy.createdAt ≤ policy.startDate
  start_le : policy.startDate ≤
    policy.createdAt + (policy.endDate - policy.startDate)
  pending_start : policy.status = .pending →
    policy.startDate = policy.createdAt

/-- How a stored policy looks later: only its status and its dates may have
moved. -/
structure Policy.Continues (policy later : Policy) : Prop where
  cover : later = { policy with
    status := later.status
    startDate := later.startDate
    endDate := later.endDate }
  moves : Relation.ReflTransGen PolicyStatus.Moves policy.status later.status
  duration : later.endDate - later.startDate =
    policy.endDate - policy.startDate
  dates : policy.status ≠ .pending →
    later.startDate = policy.startDate ∧ later.endDate = policy.endDate
  final : ¬ policy.IsOpen → later = policy

theorem Policy.Continues.refl (policy : Policy) : policy.Continues policy where
  cover := rfl
  moves := .refl
  duration := rfl
  dates _ := ⟨rfl, rfl⟩
  final _ := rfl

theorem Policy.not_pending_of_moves {source target : PolicyStatus}
    (moves : Relation.ReflTransGen PolicyStatus.Moves source target)
    (notPending : source ≠ .pending) : target ≠ .pending := by
  induction moves with
  | refl => exact notPending
  | tail _ last _ => exact last.not_pending

theorem Policy.Continues.trans {policy middle later : Policy}
    (first : policy.Continues middle) (second : middle.Continues later) :
    policy.Continues later where
  cover := by
    rw [second.cover, first.cover]
  moves := first.moves.trans second.moves
  duration := second.duration.trans first.duration
  dates notPending := by
    have earlier := first.dates notPending
    have then' := second.dates
      (Policy.not_pending_of_moves first.moves notPending)
    exact ⟨then'.1.trans earlier.1, then'.2.trans earlier.2⟩
  final closed := by
    have same := first.final closed
    rw [same] at second
    exact second.final closed

/-- An open policy that leaves with the status. -/
theorem Policy.Continues.of_left {policy : Policy} {status : PolicyStatus}
    (isOpen : policy.IsOpen) (moves : policy.status.Moves status) :
    policy.Continues { policy with status } where
  cover := rfl
  moves := .single moves
  duration := rfl
  dates _ := ⟨rfl, rfl⟩
  final closed := absurd isOpen closed

theorem Policy.Lawful.of_left {policy : Policy} {status : PolicyStatus}
    (lawful : policy.Lawful) (left : status ≠ .pending) :
    Policy.Lawful { policy with status } where
  sold := lawful.sold
  created_le := lawful.created_le
  start_le := lawful.start_le
  pending_start stillPending := absurd stillPending left

namespace LifecycleStep

variable {now policyId : Nat} {call : Call} {source target : Option Policy}

/-- A stored policy stays stored, as a continuation of itself. -/
theorem continues {policy : Policy}
    (step : LifecycleStep now policyId call (some policy) target) :
    ∃ later, target = some later ∧ policy.Continues later := by
  cases step with
  | unchanged => exact ⟨policy, rfl, .refl policy⟩
  | activated pending inTime =>
      have moves : policy.status.Moves .active := by
        rw [pending]
        exact .activate
      exact ⟨_, rfl,
        { cover := rfl
          moves := .single moves
          duration := Nat.add_sub_cancel_left now _
          dates := fun notPending => absurd pending notPending
          final := fun closed => absurd (Or.inl pending) closed }⟩
  | claimed active started inTime =>
      have moves : policy.status.Moves .claimed := by
        rw [active]
        exact .claim
      exact ⟨_, rfl, .of_left (Or.inr active) moves⟩
  | cancelled isOpen =>
      have moves : policy.status.Moves .cancelled := by
        rcases isOpen with pending | active
        · rw [pending]
          exact .cancelPending
        · rw [active]
          exact .cancelActive
      exact ⟨_, rfl, .of_left isOpen moves⟩
  | expired isOpen ended =>
      have moves : policy.status.Moves .expired := by
        rcases isOpen with pending | active
        · rw [pending]
          exact .expirePending
        · rw [active]
          exact .expireActive
      exact ⟨_, rfl, .of_left isOpen moves⟩

theorem keyed (step : LifecycleStep now policyId call source target)
    (keyedSource : ∀ policy ∈ source, policy.id = policyId) :
    ∀ policy ∈ target, policy.id = policyId := by
  intro policy member
  cases source with
  | none =>
      cases step with
      | unchanged => cases member
      | sold valid =>
          cases member
          rfl
  | some old =>
      obtain ⟨later, equality, continuation⟩ := step.continues
      rw [equality] at member
      cases member
      rw [continuation.cover]
      exact keyedSource old rfl

/-- A policy is lawful and started, whichever step was taken. -/
theorem lawful (step : LifecycleStep now policyId call source target)
    (lawfulSource : ∀ policy ∈ source,
      policy.Lawful ∧ policy.startDate ≤ now) :
    ∀ policy ∈ target, policy.Lawful ∧ policy.startDate ≤ now := by
  intro policy member
  cases step with
  | unchanged => exact lawfulSource policy member
  | sold valid =>
      cases member
      exact ⟨⟨⟨_, valid, rfl⟩, le_rfl, by simp, fun _ => rfl⟩, le_rfl⟩
  | @activated _ _ _ _ old pending inTime =>
      cases member
      obtain ⟨lawful, started⟩ := lawfulSource old rfl
      obtain ⟨durationDays, valid, endDate⟩ := lawful.sold
      have sameStart := lawful.pending_start pending
      have created := lawful.created_le
      have duration : now + (old.endDate - old.startDate) =
          now + durationDays * secondsPerDay := by
        omega
      have createdBefore : old.createdAt ≤ now := by
        omega
      have startsBefore : now ≤ old.createdAt +
          (now + (old.endDate - old.startDate) - now) := by
        omega
      exact ⟨⟨⟨durationDays, valid, duration⟩, createdBefore, startsBefore,
        fun stillPending => by cases stillPending⟩, le_rfl⟩
  | @claimed _ old active started inTime =>
      cases member
      obtain ⟨lawful, -⟩ := lawfulSource old rfl
      exact ⟨lawful.of_left PolicyStatus.noConfusion, started⟩
  | @cancelled _ old isOpen =>
      cases member
      obtain ⟨lawful, started⟩ := lawfulSource old rfl
      exact ⟨lawful.of_left PolicyStatus.noConfusion, started⟩
  | @expired old isOpen ended =>
      cases member
      obtain ⟨lawful, started⟩ := lawfulSource old rfl
      exact ⟨lawful.of_left PolicyStatus.noConfusion, started⟩

end LifecycleStep

namespace PolicyManager

/-- The ids are `1, …, get_total_policies`, and every stored policy carries
its own id and lawful dates. -/
structure State.LawfulBook (state : State) : Prop where
  stored_iff : ∀ policyId, (∃ policy, state.policies policyId = some policy) ↔
    1 ≤ policyId ∧ policyId ≤ state.getTotalPolicies
  keyed : ∀ policyId policy, state.policies policyId = some policy →
    policy.id = policyId
  lawful : ∀ policyId policy, state.policies policyId = some policy →
    policy.Lawful

/-- Every policy started no later than `clock`. -/
def State.StartedBy (clock : Nat) (state : State) : Prop :=
  ∀ policyId policy, state.policies policyId = some policy →
    policy.startDate ≤ clock

/-- Every earlier policy is still stored, as a continuation of itself. -/
structure State.Continues (state later : State) : Prop where
  total_le : state.getTotalPolicies ≤ later.getTotalPolicies
  policies : ∀ policyId policy, state.policies policyId = some policy →
    ∃ continued, later.policies policyId = some continued ∧
      policy.Continues continued

theorem State.Continues.refl (state : State) : state.Continues state where
  total_le := le_rfl
  policies _ policy stored := ⟨policy, stored, .refl policy⟩

theorem State.Continues.trans {state middle later : State}
    (first : state.Continues middle) (second : middle.Continues later) :
    state.Continues later where
  total_le := first.total_le.trans second.total_le
  policies policyId policy stored := by
    obtain ⟨halfway, storedHalfway, continues⟩ :=
      first.policies policyId policy stored
    obtain ⟨final, storedFinal, continuesFurther⟩ :=
      second.policies policyId halfway storedHalfway
    exact ⟨final, storedFinal, continues.trans continuesFurther⟩

section Step

variable {now : Nat} {call : Call}

/-- A write under the id of a stored policy is one step for that id and none
for every other. -/
theorem lifecycle_update {policies : Nat → Option Policy} {policyId : Nat}
    {policy changed : Policy} (stored : policies policyId = some policy)
    (step : LifecycleStep now policyId call (some policy) (some changed))
    (key : changed.id = policyId) (other : Nat) :
    LifecycleStep now other call (policies other)
      (Function.update policies changed.id (some changed) other) := by
  rw [key]
  by_cases same : other = policyId
  · rw [same, stored, Function.update_self]
    exact step
  · rw [Function.update_of_ne same]
    exact .unchanged call (policies other)

/-- A call takes at most one lifecycle step for each id. -/
theorem lifecycle_effect {Ω : Type} {nft : Env → PolicyNftClient Ω}
    {env : Env} {before after : State × Ω}
    (effect : Effect nft env before call after)
    (book : before.1.LawfulBook) (started : before.1.StartedBy env.timestamp)
    (policyId : Nat) :
    LifecycleStep env.timestamp policyId call (before.1.policies policyId)
      (after.1.policies policyId) := by
  cases effect with
  | administered => exact .unchanged call _
  | sold signed backend valid capacity =>
      have absent : before.1.policies (before.1.getTotalPolicies + 1) =
          none := by
        rw [Option.eq_none_iff_forall_ne_some]
        intro policy stored
        have range := (book.stored_iff _).mp ⟨policy, stored⟩
        omega
      rw [State.addPolicy_policies]
      by_cases same : policyId = before.1.getTotalPolicies + 1
      · rw [same, absent]
        simp only [soldPolicy, Function.update_self]
        exact .sold valid
      · simp only [soldPolicy]
        rw [Function.update_of_ne same]
        exact .unchanged _ _
  | activated signed backend wired stored pending inTime cap ordered minted =>
      have key := book.keyed _ _ stored
      rw [State.activate_policies]
      exact lifecycle_update stored (.activated pending inTime) key policyId
  | closedActive stored active cause deactivates =>
      have key := book.keyed _ _ stored
      rw [State.closeActive_policies]
      cases cause with
      | claimed signed oracle inTime =>
          exact lifecycle_update stored
            (.claimed active (started _ _ stored) inTime) key policyId
      | cancelled signed admin =>
          exact lifecycle_update stored (.cancelled (Or.inr active)) key
            policyId
      | expired ended =>
          exact lifecycle_update stored (.expired (Or.inr active) ended) key
            policyId
  | closedPending stored pending cause =>
      have key := book.keyed _ _ stored
      rw [State.closePending_policies]
      cases cause with
      | cancelled signed allowed =>
          exact lifecycle_update stored (.cancelled (Or.inl pending)) key
            policyId
      | expired ended =>
          exact lifecycle_update stored (.expired (Or.inl pending) ended) key
            policyId
  | claimCounted signed oracle cap => exact .unchanged _ _
  | alreadyExpired stored expired => exact .unchanged _ _

/-- A call appends the next id or leaves the set of stored ids as it is. -/
theorem stored_iff_effect {Ω : Type} {nft : Env → PolicyNftClient Ω}
    {env : Env} {before after : State × Ω}
    (effect : Effect nft env before call after)
    (book : before.1.LawfulBook) (policyId : Nat) :
    (∃ policy, after.1.policies policyId = some policy) ↔
      1 ≤ policyId ∧ policyId ≤ after.1.getTotalPolicies := by
  have replaced : ∀ {id : Nat} {policy : Policy},
      before.1.policies id = some policy → ∀ changed,
        ((∃ found, Function.update before.1.policies policy.id
            (some changed) policyId = some found) ↔
          1 ≤ policyId ∧ policyId ≤ before.1.getTotalPolicies) := by
    intro id policy stored changed
    rw [book.keyed id policy stored]
    by_cases same : policyId = id
    · rw [same, Function.update_self, ← book.stored_iff, stored]
      simp
    · rw [Function.update_of_ne same]
      exact book.stored_iff policyId
  cases effect with
  | administered =>
      exact book.stored_iff policyId
  | sold signed backend valid capacity =>
      rw [State.addPolicy_policies, State.addPolicy_getTotalPolicies]
      simp only [soldPolicy]
      by_cases same : policyId = before.1.getTotalPolicies + 1
      · rw [same, Function.update_self]
        simp
      · rw [Function.update_of_ne same, book.stored_iff]
        omega
  | activated signed backend wired stored pending inTime cap ordered minted =>
      rw [State.activate_policies, State.activate_getTotalPolicies]
      have range := replaced stored
      exact range _
  | closedActive stored active cause deactivates =>
      rw [State.closeActive_policies, State.closeActive_getTotalPolicies]
      have range := replaced stored
      exact range _
  | closedPending stored pending cause =>
      rw [State.closePending_policies, State.closePending_getTotalPolicies]
      have range := replaced stored
      exact range _
  | claimCounted signed oracle cap => exact book.stored_iff policyId
  | alreadyExpired stored expired => exact book.stored_iff policyId

end Step

/-! ## Every run -/

/-- The book invariant at a ledger time. -/
def State.LawfulAt (clock : Nat) (state : State) : Prop :=
  state.LawfulBook ∧ state.StartedBy clock

theorem State.LawfulAt.mono {clock now : Nat} {state : State}
    (later : clock ≤ now) (lawful : state.LawfulAt clock) :
    state.LawfulAt now :=
  ⟨lawful.1, fun policyId policy stored =>
    (lawful.2 policyId policy stored).trans later⟩

theorem lawful_constructor (admin : Address) :
    (constructor admin).LawfulAt 0 := by
  have empty : ∀ policyId policy,
      (constructor admin).policies policyId ≠ some policy := by
    intro policyId policy stored
    cases stored
  have none : (constructor admin).getTotalPolicies = 0 := rfl
  have book : (constructor admin).LawfulBook :=
    { stored_iff := by
        intro policyId
        rw [none]
        constructor
        · rintro ⟨policy, stored⟩
          exact absurd stored (empty policyId policy)
        · intro range
          omega
      keyed := fun policyId policy stored =>
        absurd stored (empty policyId policy)
      lawful := fun policyId policy stored =>
        absurd stored (empty policyId policy) }
  exact ⟨book, fun policyId policy stored =>
    absurd stored (empty policyId policy)⟩

section Step

variable {Ω : Type} {state : State} {input : Input Ω}

/-- A call takes at most one lifecycle step for each id. -/
theorem lifecycle_apply (lawful : state.LawfulAt input.time)
    (policyId : Nat) :
    LifecycleStep input.time policyId input.call (state.policies policyId)
      ((apply state input).policies policyId) := by
  rcases apply_cases state input with ⟨-, same⟩ | ⟨-, after, effect, same⟩
  · rw [same]
    exact .unchanged _ _
  · rw [same]
    exact lifecycle_effect effect lawful.1 lawful.2 policyId

theorem stored_iff_apply (lawful : state.LawfulAt input.time)
    (policyId : Nat) :
    (∃ policy, (apply state input).policies policyId = some policy) ↔
      1 ≤ policyId ∧ policyId ≤ (apply state input).getTotalPolicies := by
  rcases apply_cases state input with ⟨-, same⟩ | ⟨-, after, effect, same⟩
  · rw [same]
    exact lawful.1.stored_iff policyId
  · rw [same]
    exact stored_iff_effect effect lawful.1 policyId

theorem lawful_apply (lawful : state.LawfulAt input.time) :
    (apply state input).LawfulAt input.time := by
  have step := fun policyId => lifecycle_apply lawful policyId
  have dated := fun policyId => (step policyId).lawful
    (fun policy stored => ⟨lawful.1.lawful policyId policy stored,
      lawful.2 policyId policy stored⟩)
  have book : (apply state input).LawfulBook :=
    { stored_iff := stored_iff_apply lawful
      keyed := fun policyId =>
        (step policyId).keyed (lawful.1.keyed policyId)
      lawful := fun policyId policy stored =>
        (dated policyId policy stored).1 }
  exact ⟨book, fun policyId policy stored => (dated policyId policy stored).2⟩

theorem continues_apply (lawful : state.LawfulAt input.time) :
    state.Continues (apply state input) := by
  have policies : ∀ policyId policy, state.policies policyId = some policy →
      ∃ continued, (apply state input).policies policyId = some continued ∧
        policy.Continues continued := by
    intro policyId policy stored
    have step := lifecycle_apply lawful policyId
    rw [stored] at step
    exact step.continues
  have total_le :
      state.getTotalPolicies ≤ (apply state input).getTotalPolicies := by
    by_cases empty : state.getTotalPolicies = 0
    · omega
    · have inRange : 1 ≤ state.getTotalPolicies ∧
          state.getTotalPolicies ≤ state.getTotalPolicies := by omega
      -- the last policy is still stored, so its id is still in range
      obtain ⟨policy, stored⟩ := (lawful.1.stored_iff _).mpr inRange
      obtain ⟨continued, storedLater, -⟩ := policies _ policy stored
      exact ((stored_iff_apply lawful _).mp ⟨continued, storedLater⟩).2
  exact ⟨total_le, policies⟩

end Step

section Run

variable {Ω : Type}

theorem lawful_run (admin : Address) (inputs : List (Input Ω)) {now : Nat}
    (ordered : History.Chronological Input.time inputs)
    (beforeNow : ∀ input ∈ inputs, input.time ≤ now) :
    (History.run apply (constructor admin) inputs).LawfulAt now :=
  History.chronological_invariant apply (fun _ => True)
    (fun clock state => state.LawfulAt clock)
    (fun _ _ _ later lawful => lawful.mono later)
    (fun _ _ _ lawful => lawful_apply lawful)
    inputs (lawful_constructor admin) ordered (fun _ _ => Nat.zero_le _)
    beforeNow (Nat.zero_le now) (fun _ _ => trivial)

/-- The end of a run continues each of the states before it. -/
theorem continues_run (admin : Address) (earlier later : List (Input Ω))
    (ordered : History.Chronological Input.time (earlier ++ later)) :
    (History.run apply (constructor admin) earlier).Continues
      (History.run apply (constructor admin) (earlier ++ later)) := by
  obtain ⟨orderedEarlier, orderedLater, across⟩ :=
    List.pairwise_append.mp ordered
  rw [History.run_append]
  cases later with
  | nil => exact .refl _
  | cons next rest =>
      have lawful := lawful_run admin earlier orderedEarlier
        (fun input member => across input member next (by simp))
      have afterNext : ∀ input ∈ next :: rest, next.time ≤ input.time := by
        intro input member
        rcases List.mem_cons.mp member with same | inRest
        · rw [same]
        · exact (List.pairwise_cons.mp orderedLater).1 input inRest
      exact History.chronological_relation apply (fun _ => True)
        (fun clock state => state.LawfulAt clock) State.Continues
        State.Continues.refl (fun _ _ _ => State.Continues.trans)
        (fun _ _ _ waited lawful => lawful.mono waited)
        (fun _ _ _ lawful => ⟨lawful_apply lawful, continues_apply lawful⟩)
        (next :: rest) lawful orderedLater afterNext (fun _ _ => trivial)

end Run

/-! ## The end of an ACTIVE policy -/

theorem accepts_iff {Ω : Type} (state : State) (input : Input Ω) :
    accepts state input = true ↔
      ∃ after, (exec input.nft input.env input.call).Commits
        (state, input.outside) () after := by
  unfold accepts
  rw [Transaction.committed_iff]
  exact ⟨fun ⟨_, after, commits⟩ => ⟨after, commits⟩,
    fun ⟨after, commits⟩ => ⟨(), after, commits⟩⟩

/-- The two exits that time decides.  Whatever the certificate contract does,
a claim is accepted only up to the end date and an expiry only after it; when
that contract answers, an authorized claim is accepted exactly in the first
case and an expiry exactly in the second. -/
structure ExclusiveExits (state : State) (policyId : Nat) (policy : Policy) :
    Prop where
  claim_inTime : ∀ {Ω : Type} (nft : Env → PolicyNftClient Ω) (env : Env)
    (outside : Ω) (caller : Address),
    accepts state ⟨env, nft, outside, .markAsClaimed caller policyId⟩ = true →
      env.timestamp ≤ policy.endDate
  expire_ended : ∀ {Ω : Type} (nft : Env → PolicyNftClient Ω) (env : Env)
    (outside : Ω),
    accepts state ⟨env, nft, outside, .expirePolicy policyId⟩ = true →
      policy.endDate < env.timestamp
  either : ∀ {Ω : Type} (nft : Env → PolicyNftClient Ω) (env : Env)
    (outside : Ω) (caller : Address), env.authorized caller = true →
    state.roles .oracle caller = true →
    (∃ after, Deactivates nft env state.policyNft policyId outside after) →
      (accepts state ⟨env, nft, outside, .markAsClaimed caller policyId⟩ =
          true ↔ env.timestamp ≤ policy.endDate) ∧
        (accepts state ⟨env, nft, outside, .expirePolicy policyId⟩ = true ↔
          policy.endDate < env.timestamp)

theorem exclusiveExits_of_active {state : State} {policyId : Nat}
    {policy : Policy} (stored : state.policies policyId = some policy)
    (active : policy.status = .active) :
    ExclusiveExits state policyId policy := by
  have claimed : ∀ {Ω : Type} (nft : Env → PolicyNftClient Ω) (env : Env)
      (outside : Ω) (caller : Address),
      accepts state ⟨env, nft, outside, .markAsClaimed caller policyId⟩ =
          true →
        env.timestamp ≤ policy.endDate := by
    intro Ω nft env outside caller accepted
    obtain ⟨after, commits⟩ := (accepts_iff _ _).mp accepted
    obtain ⟨-, -, found, storedFound, -, inTime, -, -⟩ :=
      (markAsClaimed_commits nft env caller policyId _ _ _).mp commits
    rw [stored] at storedFound
    cases storedFound
    exact inTime
  have expired : ∀ {Ω : Type} (nft : Env → PolicyNftClient Ω) (env : Env)
      (outside : Ω),
      accepts state ⟨env, nft, outside, .expirePolicy policyId⟩ = true →
        policy.endDate < env.timestamp := by
    intro Ω nft env outside accepted
    obtain ⟨after, commits⟩ := (accepts_iff _ _).mp accepted
    obtain ⟨found, storedFound, alreadyExpired | activeExit | pendingExit⟩ :=
      (expirePolicy_commits nft env policyId _ _ _).mp commits
    · rw [stored] at storedFound
      cases storedFound
      rw [active] at alreadyExpired
      cases alreadyExpired.1
    · rw [stored] at storedFound
      cases storedFound
      exact activeExit.2.1
    · rw [stored] at storedFound
      cases storedFound
      exact pendingExit.2.1
  refine ⟨claimed, expired, ?_⟩
  intro Ω nft env outside caller signed oracle ⟨outsideAfter, deactivates⟩
  refine ⟨⟨claimed nft env outside caller, ?_⟩,
    ⟨expired nft env outside, ?_⟩⟩
  · intro inTime
    exact (accepts_iff _ _).mpr ⟨(_, outsideAfter),
      (markAsClaimed_commits nft env caller policyId _ _ _).mpr
        ⟨signed, oracle, policy, stored, active, inTime, deactivates, rfl⟩⟩
  · intro ended
    exact (accepts_iff _ _).mpr ⟨(_, outsideAfter),
      (expirePolicy_commits nft env policyId _ _ _).mpr
        ⟨policy, stored, Or.inr (Or.inl
          ⟨active, ended, deactivates, rfl⟩)⟩⟩

/-- Along every chronological run: the ids are consecutive and the stored
policies lawful, every call takes at most one lifecycle step for each id,
later states continue earlier ones, and time alone decides whether an ACTIVE
policy can be claimed or expired. -/
theorem policyLifecycle {Ω : Type} (admin : Address)
    (inputs : List (Input Ω))
    (ordered : History.Chronological Input.time inputs) :
    (History.run apply (constructor admin) inputs).LawfulBook ∧
      (∀ transition ∈ History.trace apply (constructor admin) inputs,
        ∀ policyId, LifecycleStep transition.label.time policyId
          transition.label.call (transition.source.policies policyId)
          (transition.target.policies policyId)) ∧
      (∀ earlier later, inputs = earlier ++ later →
        (History.run apply (constructor admin) earlier).Continues
          (History.run apply (constructor admin) inputs)) ∧
      (∀ policyId policy,
        (History.run apply (constructor admin) inputs).policies policyId =
          some policy → policy.status = .active →
          ExclusiveExits (History.run apply (constructor admin) inputs)
            policyId policy) := by
  have mono : ∀ clock now state, clock ≤ now →
      State.LawfulAt clock state → State.LawfulAt now state :=
    fun _ _ _ later lawful => lawful.mono later
  refine ⟨?_, ?_, ?_, ?_⟩
  · have latest : ∀ input ∈ inputs,
        input.time ≤ (inputs.map Input.time).sum :=
      fun input member =>
        List.le_sum_of_mem (List.mem_map_of_mem member)
    exact (lawful_run admin inputs ordered latest).1
  · exact History.chronological_transitions apply (fun _ => True)
      (fun clock state => state.LawfulAt clock) _ mono
      (fun _ _ _ lawful => ⟨lawful_apply lawful, lifecycle_apply lawful⟩)
      inputs (lawful_constructor admin) ordered (fun _ _ => Nat.zero_le _)
      (fun _ _ => trivial)
  · intro earlier later split
    rw [split] at ordered ⊢
    exact continues_run admin earlier later ordered
  · intro policyId policy stored active
    exact exclusiveExits_of_active stored active

/-! ## A worked season -/

/-- An account that takes part in a worked season. -/
def seasonAddress (byte : UInt8) : Address :=
  .account (.repeat 32 byte)

/-- A certificate contract that accepts every call. -/
def acceptingNft : PolicyNftClient Unit where
  policyNftExists _ := pure true
  updatePolicyStatus _ _ _ := pure ()
  mintPolicy _ _ policyId _ _ _ _ _ _ _ _ _ := pure policyId

/-- A call that everybody signed. -/
def signedByAll (timestamp : U64) (call : Call) : Input Unit where
  env :=
    { timestamp := timestamp
      timestamp_lt := timestamp.isLt
      currentContract := .contract (.repeat 32 0)
      authorized := fun _ => true }
  nft _ := acceptingNft
  outside := ()
  call := call

/-- A policy is sold, activated and claimed. -/
def soldAndClaimed (admin farmer : Address) : List (Input Unit) :=
  [signedByAll 0 (.grantRole admin .backend admin),
    signedByAll 0 (.grantRole admin .oracle admin),
    signedByAll 0 (.setPolicyNft admin (.contract (.repeat 32 9))),
    signedByAll 100 (.createPolicy admin farmer 7 (-1286389) 36817223
      10000000000 1000000 120 .drought admin),
    signedByAll 200 (.activatePolicy admin 1 admin "" ""),
    signedByAll 10368200 (.markAsClaimed admin 1)]

theorem policyLifecycle_soldAndClaimed :
    ((History.run apply (constructor (seasonAddress 1))
        (soldAndClaimed (seasonAddress 1) (seasonAddress 2))).policies
          1).map Policy.status = some .claimed ∧
      (History.run apply (constructor (seasonAddress 1))
        (soldAndClaimed (seasonAddress 1) (seasonAddress 2))).LawfulBook :=
  ⟨by decide +kernel, (policyLifecycle (seasonAddress 1)
    (soldAndClaimed (seasonAddress 1) (seasonAddress 2))
    (by decide +kernel)).1⟩

end PolicyManager

end Microcrop
