import Microcrop.CommutingUpdates
import Microcrop.DroughtAcceptance

/-!
# Closing policies in any order

The closing calls share the counters of a farmer, the exposure of an org and
the certificate contract, yet two of them on distinct policies commute: each
adjusts single entries, and what they do to a shared entry commutes.
-/

namespace Microcrop

open Transaction

namespace PolicyManager

/-! ## Closings as adjustments of single entries -/

/-- A counter after `decrement_active`. -/
def decremented (cell : Option Nat) : Option Nat :=
  if 0 < cell.getD 0 then some (cell.getD 0 - 1) else cell

/-- An org's outstanding exposure after `release_org_exposure`. -/
def released (sumInsured : Int) (cell : Option Int) : Option Int :=
  some (if sumInsured < cell.getD 0 then cell.getD 0 - sumInsured else 0)

/-- A mark of a PENDING policy after `release_pending_slot`. -/
def unmarked (cell : Option Bool) : Option Bool :=
  if cell.getD false then none else cell

theorem released_comm {sumInsured other : Int} (nonneg : 0 ≤ sumInsured)
    (otherNonneg : 0 ≤ other) (cell : Option Int) :
    released sumInsured (released other cell) =
      released other (released sumInsured cell) := by
  unfold released
  simp only [Option.getD_some, Option.some.injEq]
  split <;> split <;> split <;> split <;> omega

namespace State

variable (state : State)

theorem decrementActive_farmerActiveCounts (farmer : Address) :
    (state.decrementActive farmer).farmerActiveCounts =
      KeyedStore.adjust state.farmerActiveCounts farmer decremented := by
  unfold decrementActive KeyedStore.adjust decremented farmerActiveCount
  dsimp only
  split
  · rfl
  · exact (Function.update_eq_self ..).symm

theorem releaseOrgExposure_orgOutstandings (org : Address)
    (sumInsured : Int) :
    (state.releaseOrgExposure org sumInsured).orgOutstandings =
      KeyedStore.adjust state.orgOutstandings org (released sumInsured) :=
  rfl

theorem releasePendingSlot_marks (policyId : Nat) (farmer : Address) :
    (state.releasePendingSlot policyId farmer).pendingCounted =
      KeyedStore.adjust state.pendingCounted policyId unmarked := by
  unfold releasePendingSlot KeyedStore.adjust unmarked isPendingCounted
  split
  · dsimp only
    split <;> rfl
  · exact (Function.update_eq_self ..).symm

theorem releasePendingSlot_farmerPendingCounts (policyId : Nat)
    (farmer : Address) :
    (state.releasePendingSlot policyId farmer).farmerPendingCounts =
      if state.isPendingCounted policyId then
        KeyedStore.adjust state.farmerPendingCounts farmer decremented
      else state.farmerPendingCounts := by
  unfold releasePendingSlot KeyedStore.adjust decremented
  split
  · dsimp only
    split <;> rename_i count
    · change 0 < (state.farmerPendingCounts farmer).getD 0 at count
      rw [if_pos count]
      rfl
    · change ¬ 0 < (state.farmerPendingCounts farmer).getD 0 at count
      rw [if_neg count]
      exact (Function.update_eq_self ..).symm
  · rfl

/-- Closing an ACTIVE policy adjusts its entry, its farmer's and its org's. -/
theorem closeActive_adjusts (policy : Policy) (status : PolicyStatus) :
    state.closeActive policy status =
      { state with
        policies := KeyedStore.adjust state.policies policy.id
          fun _ => some { policy with status }
        farmerActiveCounts := KeyedStore.adjust state.farmerActiveCounts
          policy.farmer decremented
        orgOutstandings := KeyedStore.adjust state.orgOutstandings policy.org
          (released policy.sumInsured) } := by
  rw [closeActive_frame, decrementActive_farmerActiveCounts,
    releaseOrgExposure_orgOutstandings]
  rfl

/-- Closing a PENDING policy adjusts its entries, its farmer's and its
org's. -/
theorem closePending_adjusts (policyId : Nat) (policy : Policy)
    (status : PolicyStatus) :
    state.closePending policyId policy status =
      { state with
        policies := KeyedStore.adjust state.policies policy.id
          fun _ => some { policy with status }
        farmerPendingCounts :=
          if state.isPendingCounted policyId then
            KeyedStore.adjust state.farmerPendingCounts policy.farmer
              decremented
          else state.farmerPendingCounts
        pendingCounted :=
          KeyedStore.adjust state.pendingCounted policyId unmarked
        orgOutstandings := KeyedStore.adjust state.orgOutstandings policy.org
          (released policy.sumInsured) } := by
  rw [closePending_frame, releasePendingSlot_farmerPendingCounts,
    releasePendingSlot_marks, releaseOrgExposure_orgOutstandings]
  rfl

section Comm

variable {policy other : Policy} {status otherStatus : PolicyStatus}
  {policyId otherId : Nat} (distinct : policy.id ≠ other.id)
  (nonneg : 0 ≤ policy.sumInsured) (otherNonneg : 0 ≤ other.sumInsured)

include distinct nonneg otherNonneg

theorem closeActive_comm :
    (state.closeActive other otherStatus).closeActive policy status =
      (state.closeActive policy status).closeActive other otherStatus := by
  simp only [closeActive_adjusts, State.mk.injEq, true_and]
  exact ⟨KeyedStore.adjust_comm _ fun same => absurd same distinct,
    KeyedStore.adjust_comm _ fun _ => rfl,
    KeyedStore.adjust_comm _ fun _ => released_comm nonneg otherNonneg _⟩

theorem closeActive_closePending_comm :
    (state.closePending otherId other otherStatus).closeActive policy status =
      (state.closeActive policy status).closePending otherId other
        otherStatus := by
  simp only [closeActive_adjusts, closePending_adjusts, isPendingCounted,
    State.mk.injEq, true_and]
  exact ⟨KeyedStore.adjust_comm _ fun same => absurd same distinct, rfl,
    KeyedStore.adjust_comm _ fun _ => released_comm nonneg otherNonneg _⟩

theorem closePending_comm (distinctIds : policyId ≠ otherId) :
    (state.closePending otherId other otherStatus).closePending policyId
        policy status =
      (state.closePending policyId policy status).closePending otherId other
        otherStatus := by
  have slots : ∀ counts : Address → Option Nat, ∀ mark otherMark : Bool,
      (if mark then
          KeyedStore.adjust (if otherMark then
            KeyedStore.adjust counts other.farmer decremented else counts)
              policy.farmer decremented
        else if otherMark then
          KeyedStore.adjust counts other.farmer decremented else counts) =
      if otherMark then
          KeyedStore.adjust (if mark then
            KeyedStore.adjust counts policy.farmer decremented else counts)
              other.farmer decremented
        else if mark then
          KeyedStore.adjust counts policy.farmer decremented else counts := by
    intro counts mark otherMark
    cases mark <;> cases otherMark <;> try rfl
    exact KeyedStore.adjust_comm _ fun _ => rfl
  simp only [closePending_adjusts, isPendingCounted, State.mk.injEq, true_and,
    KeyedStore.adjust_of_ne distinctIds,
    KeyedStore.adjust_of_ne distinctIds.symm]
  exact ⟨KeyedStore.adjust_comm _ fun same => absurd same distinct,
    slots _ _ _, KeyedStore.adjust_comm _ fun same => absurd same distinctIds,
    KeyedStore.adjust_comm _ fun _ => released_comm nonneg otherNonneg _⟩

end Comm

end State

end PolicyManager

namespace PolicyNft

/-- The certificate contract after PolicyManager switched a certificate off,
which it does for its stored policy manager only. -/
def State.switchOff (state : State) (manager : Address) (policyId : Nat) :
    State :=
  if state.policyManager = some manager then
    match state.policyToToken policyId with
    | some tokenId =>
        { state with
          certificates := KeyedStore.adjust state.certificates tokenId
            (Option.map fun certificate =>
              { certificate with isActive := false }) }
    | none => state
  else state

theorem State.switchOff_comm (state : State) (manager : Address)
    (first second : Nat) :
    (state.switchOff manager second).switchOff manager first =
      (state.switchOff manager first).switchOff manager second := by
  unfold switchOff
  by_cases bound : state.policyManager = some manager
  · simp only [if_pos bound]
    cases firstToken : state.policyToToken first with
    | none =>
        cases state.policyToToken second with
        | none => simp [bound, firstToken]
        | some token => simp [bound, firstToken]
    | some token =>
        cases state.policyToToken second with
        | none => simp [bound, firstToken]
        | some other =>
            simp only [bound, firstToken, if_true, State.mk.injEq, true_and,
              and_true]
            exact KeyedStore.adjust_comm _ fun _ => rfl
  · simp [bound]

/-- PolicyManager's status update switches the certificate off, or it is
refused and there was nothing to switch off. -/
theorem switchOff_cases (address : Address) (env : Env) (policyId : Nat)
    (before : State) :
    (updatePolicyStatus (env.invoke address) env.currentContract policyId
        false).Commits before () (before.switchOff env.currentContract
          policyId) ∨
      (∃ error, (updatePolicyStatus (env.invoke address) env.currentContract
          policyId false).Fails before error) ∧
        before.switchOff env.currentContract policyId = before := by
  rcases commits_or_fails (updatePolicyStatus (env.invoke address)
    env.currentContract policyId false) before with
    ⟨_, after, commits⟩ | ⟨error, refused⟩
  · obtain ⟨manager, -, tokenId, certificate, token, stored, same⟩ :=
      (updatePolicyStatus_commits _ _ _ _ _ _ _).mp commits
    have off : before.switchOff env.currentContract policyId = after := by
      unfold State.switchOff KeyedStore.adjust
      rw [if_pos manager, token, same]
      simp [stored, State.saveCertificate]
    rw [off]
    exact Or.inl commits
  · refine Or.inr ⟨⟨error, refused⟩, ?_⟩
    unfold State.switchOff
    split
    · rename_i manager
      cases token : before.policyToToken policyId with
      | none => rfl
      | some tokenId =>
          cases stored : before.certificates tokenId with
          | none =>
              have kept : KeyedStore.adjust before.certificates tokenId
                  (Option.map fun certificate : PolicyCertificate =>
                    { certificate with isActive := false }) =
                  before.certificates :=
                KeyedStore.adjust_eq_self (by rw [stored, Option.map_none])
              simp only [kept]
          | some certificate =>
              have commits := (updatePolicyStatus_commits (env.invoke address)
                env.currentContract policyId false before _ ()).mpr
                ⟨manager, (env.invoke_authorized _ _).mpr rfl, tokenId,
                  certificate, token, stored, rfl⟩
              exact absurd refused (commits.not_fails error)
    · rfl

/-- A deactivation through the client of the certificate contract. -/
theorem deactivates_iff (address : Address) (env : Env)
    (policyNft : Option Address) (policyId : Nat) (before after : State) :
    PolicyManager.Deactivates (clientAt address) env policyNft policyId before
        after ↔
      (policyNft = none ∧ after = before) ∨
        (policyNft = some address ∧
          after = before.switchOff env.currentContract policyId) := by
  cases policyNft with
  | none => simp [PolicyManager.Deactivates]
  | some other =>
      by_cases here : other = address
      · subst here
        simp only [PolicyManager.Deactivates, clientAt,
          Env.invoke_currentContract, if_true, read_commits,
          reduceCtorEq, false_and, true_and, false_or]
        have unminted : before.policyNftExists policyId = false →
            before.switchOff env.currentContract policyId = before := by
          intro missing
          have token : before.policyToToken policyId = none := by
            simpa [State.policyNftExists] using missing
          unfold State.switchOff
          rw [token]
          simp
        constructor
        · rintro ⟨minted, middle, ⟨rfl, rfl⟩, rest⟩
          split at rest <;> rename_i minted
          · rcases switchOff_cases other env policyId middle with
              commits | ⟨⟨error, refused⟩, same⟩
            · rcases rest with updated | ⟨error, refused, -⟩
              · exact (updated.unique commits).2
              · exact absurd refused (commits.not_fails error)
            · rcases rest with updated | ⟨-, -, -, unchanged⟩
              · exact absurd refused (updated.not_fails error)
              · rw [unchanged, same]
          · rw [rest, unminted (eq_false_of_ne_true minted)]
        · rintro rfl
          refine ⟨_, before, ⟨rfl, rfl⟩, ?_⟩
          split <;> rename_i minted
          · rcases switchOff_cases other env policyId before with
              commits | ⟨⟨error, refused⟩, same⟩
            · exact Or.inl commits
            · exact Or.inr ⟨error, refused,
                updatePolicyStatus_survivable _ _ _ _ _ error refused, same⟩
          · exact unminted (eq_false_of_ne_true minted)
      · simp [PolicyManager.Deactivates, clientAt, here,
          PolicyNftClient.missing]

end PolicyNft

namespace PolicyManager

/-! ## The closing calls -/

/-- The policy that a closing call is about. -/
def Call.closes : Call → Option Nat
  | .markAsClaimed _ policyId => some policyId
  | .cancelPolicy _ policyId => some policyId
  | .expirePolicy policyId => some policyId
  | _ => none

/-- How an accepted closing call leaves a policy. -/
inductive Exit
  | active (policy : Policy) (status : PolicyStatus)
  | pending (policy : Policy) (status : PolicyStatus)
  | already

/-- The state after the exit of the policy `policyId`. -/
def Exit.leave (policyId : Nat) : Exit → State → State
  | .active policy status, state => state.closeActive policy status
  | .pending policy status, state => state.closePending policyId policy status
  | .already, state => state

/-- The certificate contract after the exit, seen from `manager`. -/
def Exit.switch (manager : Address) (policyNft : Option Address)
    (policyId : Nat) : Exit → PolicyNft.State → PolicyNft.State
  | .active _ _, nft =>
      if policyNft = none then nft else nft.switchOff manager policyId
  | .pending _ _, nft => nft
  | .already, nft => nft

/-- When a closing call is accepted: what it needs of the roles, of the stored
policy and, for an ACTIVE one, of the certificate contract. -/
inductive Closes (address : Address) (env : Env) (policyId : Nat)
    (state : State) : Call → Exit → Prop
  | active {call : Call} {policy : Policy} {status : PolicyStatus}
      (stored : state.policies policyId = some policy)
      (active : policy.status = .active)
      (cause : ClosesActive env state policyId policy call status)
      (reached : state.policyNft = none ∨ state.policyNft = some address) :
      Closes address env policyId state call (.active policy status)
  | pending {call : Call} {policy : Policy} {status : PolicyStatus}
      (stored : state.policies policyId = some policy)
      (pending : policy.status = .pending)
      (cause : ClosesPending env state policyId policy call status) :
      Closes address env policyId state call (.pending policy status)
  | already {policy : Policy}
      (stored : state.policies policyId = some policy)
      (expired : policy.status = .expired) :
      Closes address env policyId state (.expirePolicy policyId) .already

section Closes

variable {address : Address} {env : Env} {policyId : Nat} {call : Call}

theorem ClosesActive.closes {state : State} {policy : Policy}
    {status : PolicyStatus}
    (cause : ClosesActive env state policyId policy call status) :
    call.closes = some policyId := by
  cases cause <;> rfl

theorem ClosesPending.closes {state : State} {policy : Policy}
    {status : PolicyStatus}
    (cause : ClosesPending env state policyId policy call status) :
    call.closes = some policyId := by
  cases cause <;> rfl

theorem Call.administers_of_closes (closes : call.closes = some policyId) :
    call.administers = false := by
  cases call <;> first | rfl | cases closes

theorem closes_of_commits (closes : call.closes = some policyId)
    {before after : State × PolicyNft.State}
    (commits : (exec (PolicyNft.clientAt address) env call).Commits before ()
      after) :
    ∃ exit, Closes address env policyId before.1 call exit ∧
      after = (exit.leave policyId before.1,
        exit.switch env.currentContract before.1.policyNft policyId
          before.2) := by
  have effect := exec_effect _ _ _ commits
  cases effect with
  | administered signed admin administers =>
      rw [Call.administers_of_closes closes] at administers
      cases administers
  | sold => cases closes
  | activated => cases closes
  | closedActive stored active cause deactivates =>
      obtain rfl := Option.some.inj (cause.closes.symm.trans closes)
      rcases (PolicyNft.deactivates_iff _ _ _ _ _ _).mp deactivates with
        ⟨unwired, same⟩ | ⟨wired, same⟩
      · rw [same]
        exact ⟨_, .active stored active cause (Or.inl unwired),
          by rw [Exit.switch, if_pos unwired]; rfl⟩
      · have isWired : before.1.policyNft ≠ none := by simp [wired]
        rw [same]
        exact ⟨_, .active stored active cause (Or.inr wired),
          by rw [Exit.switch, if_neg isWired]; rfl⟩
  | closedPending stored pending cause =>
      obtain rfl := Option.some.inj (cause.closes.symm.trans closes)
      exact ⟨_, .pending stored pending cause, rfl⟩
  | claimCounted => cases closes
  | alreadyExpired stored expired =>
      obtain rfl := Option.some.inj closes
      exact ⟨_, .already stored expired, rfl⟩

theorem commits_of_closes {before : State × PolicyNft.State} {exit : Exit}
    (closes : Closes address env policyId before.1 call exit) :
    (exec (PolicyNft.clientAt address) env call).Commits before ()
      (exit.leave policyId before.1,
        exit.switch env.currentContract before.1.policyNft policyId
          before.2) := by
  cases closes with
  | active stored active cause reached =>
      have deactivates : Deactivates (PolicyNft.clientAt address) env
          before.1.policyNft policyId before.2
            (if before.1.policyNft = none then before.2
              else before.2.switchOff env.currentContract policyId) := by
        rw [PolicyNft.deactivates_iff]
        rcases reached with unwired | wired
        · exact Or.inl ⟨unwired, if_pos unwired⟩
        · exact Or.inr ⟨wired, if_neg (by simp [wired])⟩
      cases cause with
      | claimed signed oracle inTime =>
          exact (markAsClaimed_commits _ _ _ _ _ _ _).mpr
            ⟨signed, oracle, _, stored, active, inTime, deactivates, rfl⟩
      | cancelled signed admin =>
          exact (cancelPolicy_commits _ _ _ _ _ _ _).mpr
            ⟨signed, _, stored, Or.inl ⟨active, admin, deactivates, rfl⟩⟩
      | expired ended =>
          exact (expirePolicy_commits _ _ _ _ _ _).mpr ⟨_, stored,
            Or.inr (Or.inl ⟨active, ended, deactivates, rfl⟩)⟩
  | pending stored pending cause =>
      cases cause with
      | cancelled signed allowed =>
          exact (cancelPolicy_commits _ _ _ _ _ _ _).mpr
            ⟨signed, _, stored, Or.inr ⟨pending, allowed, rfl, rfl⟩⟩
      | expired ended =>
          exact (expirePolicy_commits _ _ _ _ _ _).mpr ⟨_, stored,
            Or.inr (Or.inr ⟨pending, ended, rfl, rfl⟩)⟩
  | already stored expired =>
      exact (expirePolicy_commits _ _ _ _ _ _).mpr ⟨_, stored,
        Or.inl ⟨expired, rfl⟩⟩

/-- Whether a call closes depends on the roles, the policy and the wiring
only. -/
theorem Closes.congr {state other : State} {exit : Exit}
    (closes : Closes address env policyId state call exit)
    (roles : other.roles = state.roles)
    (policies : other.policies policyId = state.policies policyId)
    (policyNft : other.policyNft = state.policyNft) :
    Closes address env policyId other call exit := by
  cases closes with
  | active stored active cause reached =>
      rw [← policyNft] at reached
      have storedOther := policies.trans stored
      cases cause with
      | claimed signed oracle inTime =>
          rw [← roles] at oracle
          exact .active storedOther active (.claimed signed oracle inTime)
            reached
      | cancelled signed admin =>
          rw [← roles] at admin
          exact .active storedOther active (.cancelled signed admin) reached
      | expired ended =>
          exact .active storedOther active (.expired ended) reached
  | pending stored pending cause =>
      have storedOther := policies.trans stored
      cases cause with
      | cancelled signed allowed =>
          rw [← roles] at allowed
          exact .pending storedOther pending (.cancelled signed allowed)
      | expired ended => exact .pending storedOther pending (.expired ended)
  | already stored expired => exact .already (policies.trans stored) expired

/-! ## What an exit leaves alone -/

/-- The exit is that of a stored policy. -/
def Exit.Of (policyId : Nat) : Exit → Prop
  | .active policy _ => policy.id = policyId ∧ 0 ≤ policy.sumInsured
  | .pending policy _ => policy.id = policyId ∧ 0 ≤ policy.sumInsured
  | .already => True

theorem Closes.of {state : State} (accounted : state.Accounted) {exit : Exit}
    (closes : Closes address env policyId state call exit) :
    exit.Of policyId := by
  cases closes with
  | active stored active cause reached =>
      exact ⟨(accounted.keyed _ _ stored).1, accounted.insured _ _ stored⟩
  | pending stored pending cause =>
      exact ⟨(accounted.keyed _ _ stored).1, accounted.insured _ _ stored⟩
  | already => trivial

end Closes

section Exit

variable {exit second : Exit} {policyId otherId : Nat}

theorem Exit.leave_roles (state : State) :
    (exit.leave policyId state).roles = state.roles := by
  cases exit <;> simp [leave]

theorem Exit.leave_policyNft (state : State) :
    (exit.leave policyId state).policyNft = state.policyNft := by
  cases exit with
  | active policy status => simp [leave, State.closeActive_frame]
  | pending policy status => simp [leave, State.closePending_frame]
  | already => rfl

theorem Exit.leave_policies (of : exit.Of policyId)
    (distinct : otherId ≠ policyId) (state : State) :
    (exit.leave policyId state).policies otherId = state.policies otherId := by
  cases exit with
  | active policy status =>
      rw [leave, State.closeActive_policies, of.1,
        Function.update_of_ne distinct]
  | pending policy status =>
      rw [leave, State.closePending_policies, of.1,
        Function.update_of_ne distinct]
  | already => rfl

/-- Exits of distinct policies commute. -/
theorem Exit.leave_comm (of : exit.Of policyId) (otherOf : second.Of otherId)
    (distinct : policyId ≠ otherId) (state : State) :
    exit.leave policyId (second.leave otherId state) =
      second.leave otherId (exit.leave policyId state) := by
  cases exit with
  | active policy status =>
      cases second with
      | active other otherStatus =>
          exact state.closeActive_comm (by rw [of.1, otherOf.1]; exact distinct)
            of.2 otherOf.2
      | pending other otherStatus =>
          exact state.closeActive_closePending_comm
            (by rw [of.1, otherOf.1]; exact distinct) of.2 otherOf.2
      | already => rfl
  | pending policy status =>
      cases second with
      | active other otherStatus =>
          exact (state.closeActive_closePending_comm
            (by rw [of.1, otherOf.1]; exact distinct.symm) otherOf.2
            of.2).symm
      | pending other otherStatus =>
          exact state.closePending_comm
            (by rw [of.1, otherOf.1]; exact distinct) of.2 otherOf.2 distinct
      | already => rfl
  | already => rfl

theorem Exit.switch_comm (manager : Address) (policyNft : Option Address)
    (nft : PolicyNft.State) :
    exit.switch manager policyNft policyId
        (second.switch manager policyNft otherId nft) =
      second.switch manager policyNft otherId
        (exit.switch manager policyNft policyId nft) := by
  cases exit with
  | active policy status =>
      cases second with
      | active other otherStatus =>
          simp only [switch]
          split
          · rfl
          · exact nft.switchOff_comm manager policyId otherId
      | pending => rfl
      | already => rfl
  | pending => rfl
  | already => rfl

end Exit

/-! ## Expiring twice -/

section Expiry

variable {address : Address} {env : Env} {policyId : Nat} {state : State}
  {exit : Exit}

/-- An accepted expiry leaves the policy EXPIRED. -/
theorem Closes.expired (accounted : state.Accounted)
    (closes : Closes address env policyId state (.expirePolicy policyId)
      exit) :
    ∃ policy, (exit.leave policyId state).policies policyId = some policy ∧
      policy.status = .expired := by
  have of := closes.of accounted
  cases closes with
  | active stored active cause reached =>
      cases cause with
      | expired ended =>
          rw [Exit.leave, State.closeActive_policies, of.1,
            Function.update_self]
          exact ⟨_, rfl, rfl⟩
  | pending stored pending cause =>
      cases cause with
      | expired ended =>
          rw [Exit.leave, State.closePending_policies, of.1,
            Function.update_self]
          exact ⟨_, rfl, rfl⟩
  | already stored expired => exact ⟨_, stored, expired⟩

/-- Of an ended policy every expiry is accepted or none. -/
theorem Closes.expire_congr {other : Env} {policy : Policy}
    (closes : Closes address env policyId state (.expirePolicy policyId) exit)
    (stored : state.policies policyId = some policy)
    (ended : policy.endDate < other.timestamp) :
    Closes address other policyId state (.expirePolicy policyId) exit := by
  cases closes with
  | active storedSame active cause reached =>
      obtain rfl := Option.some.inj (stored.symm.trans storedSame)
      cases cause with
      | expired => exact .active stored active (.expired ended) reached
  | pending storedSame pending cause =>
      obtain rfl := Option.some.inj (stored.symm.trans storedSame)
      cases cause with
      | expired => exact .pending stored pending (.expired ended)
  | already storedSame expired => exact .already storedSame expired

/-- No exit moves the end date of a policy. -/
theorem Exit.leave_endDate {otherId : Nat} {policy : Policy}
    {call : Call} (accounted : state.Accounted)
    (closes : Closes address env policyId state call exit)
    (stored : state.policies otherId = some policy) :
    ∃ later, (exit.leave policyId state).policies otherId = some later ∧
      later.endDate = policy.endDate := by
  have of := closes.of accounted
  by_cases same : otherId = policyId
  · subst same
    cases closes with
    | active storedSame active cause reached =>
        obtain rfl := Option.some.inj (stored.symm.trans storedSame)
        rw [leave, State.closeActive_policies, of.1, Function.update_self]
        exact ⟨_, rfl, rfl⟩
    | pending storedSame pending cause =>
        obtain rfl := Option.some.inj (stored.symm.trans storedSame)
        rw [leave, State.closePending_policies, of.1, Function.update_self]
        exact ⟨_, rfl, rfl⟩
    | already => exact ⟨_, stored, rfl⟩
  · exact ⟨policy, (leave_policies of same state).trans stored, rfl⟩

end Expiry

end PolicyManager

/-! ## Closings of the system -/

/-- The world after an exit of the policy `policyId`. -/
def World.leave (manager : Address) (policyId : Nat)
    (exit : PolicyManager.Exit) (world : World PolicyNft.State) :
    World PolicyNft.State :=
  { world with
    policyManager := exit.leave policyId world.policyManager
    nft := exit.switch manager world.policyManager.policyNft policyId
      world.nft }

theorem World.leave_comm {manager : Address} {policyId otherId : Nat}
    {exit second : PolicyManager.Exit} (of : exit.Of policyId)
    (otherOf : second.Of otherId) (distinct : policyId ≠ otherId)
    (world : World PolicyNft.State) :
    (world.leave manager otherId second).leave manager policyId exit =
      (world.leave manager policyId exit).leave manager otherId second := by
  simp only [leave, PolicyManager.Exit.leave_policyNft,
    PolicyManager.Exit.leave_comm of otherOf distinct,
    PolicyManager.Exit.switch_comm]

namespace Deployment

section Closings

variable {deployment : Deployment PolicyNft.State PolicyNft.Call}
  {nft nftAdmin : Address}
  (real : deployment.certificates = PolicyNft.certificates nft nftAdmin)

include real

theorem closing_commits {invocation : Invocation PolicyNft.Call}
    {call : PolicyManager.Call} {policyId : Nat}
    (called : invocation.call = .policyManager call)
    (closes : call.closes = some policyId)
    (world after : World PolicyNft.State) :
    (deployment.exec invocation).Commits world () after ↔
      ∃ exit, PolicyManager.Closes nft (deployment.env invocation) policyId
          world.policyManager call exit ∧
        after = world.leave deployment.policyManager policyId exit := by
  obtain ⟨timestamp, signers, target⟩ := invocation
  obtain rfl : target = .policyManager call := called
  have client : deployment.certificates.client = PolicyNft.clientAt nft := by
    rw [real]
    rfl
  have reaches : (deployment.exec ⟨timestamp, signers,
      .policyManager call⟩).Commits world () after ↔
      ∃ changed, (PolicyManager.exec (PolicyNft.clientAt nft) (deployment.env
          ⟨timestamp, signers, .policyManager call⟩) call).Commits
          (world.policyManager, world.nft) () changed ∧
        after =
          { world with policyManager := changed.1, nft := changed.2 } := by
    rw [← client]
    change (onNeighbors (onManager _)).Commits _ _ _ ↔ _
    simp only [onNeighbors_commits, onManager_commits]
    constructor
    · rintro ⟨_, ⟨changed, executed, rfl⟩, rfl⟩
      exact ⟨changed, executed, rfl⟩
    · rintro ⟨changed, executed, rfl⟩
      exact ⟨_, ⟨changed, executed, rfl⟩, rfl⟩
  rw [reaches]
  constructor
  · rintro ⟨changed, executed, rfl⟩
    obtain ⟨exit, closed, rfl⟩ :=
      PolicyManager.closes_of_commits closes executed
    exact ⟨exit, closed, rfl⟩
  · rintro ⟨exit, closed, rfl⟩
    have executed :=
      @PolicyManager.commits_of_closes nft _ policyId _
        (world.policyManager, world.nft) exit closed
    exact ⟨_, executed, rfl⟩

variable {world : World PolicyNft.State}

theorem closing_accepts {invocation : Invocation PolicyNft.Call}
    {call : PolicyManager.Call} {policyId : Nat}
    (called : invocation.call = .policyManager call)
    (closes : call.closes = some policyId) :
    deployment.accepts world invocation = true ↔
      ∃ exit, PolicyManager.Closes nft (deployment.env invocation) policyId
        world.policyManager call exit := by
  unfold accepts
  rw [committed_iff]
  constructor
  · rintro ⟨_, after, commits⟩
    obtain ⟨exit, closed, -⟩ :=
      (closing_commits real called closes world after).mp commits
    exact ⟨exit, closed⟩
  · rintro ⟨exit, closed⟩
    exact ⟨(), _,
      (closing_commits real called closes world _).mpr ⟨exit, closed, rfl⟩⟩

theorem closing_apply {invocation : Invocation PolicyNft.Call}
    {call : PolicyManager.Call} {policyId : Nat} {exit : PolicyManager.Exit}
    (called : invocation.call = .policyManager call)
    (closes : call.closes = some policyId)
    (closed : PolicyManager.Closes nft (deployment.env invocation) policyId
      world.policyManager call exit) :
    deployment.apply world invocation =
      world.leave deployment.policyManager policyId exit :=
  ((closing_commits real called closes world _).mpr
    ⟨exit, closed, rfl⟩).advance_eq

/-- A closing call without an exit is refused and changes nothing. -/
theorem closing_refused {invocation : Invocation PolicyNft.Call}
    {call : PolicyManager.Call} {policyId : Nat}
    (called : invocation.call = .policyManager call)
    (closes : call.closes = some policyId)
    (refused : ∀ exit, ¬ PolicyManager.Closes nft (deployment.env invocation)
      policyId world.policyManager call exit) :
    deployment.apply world invocation = world := by
  rcases deployment.apply_cases world invocation with
    ⟨-, same⟩ | ⟨accepted, -⟩
  · exact same
  · obtain ⟨exit, closed⟩ :=
      (closing_accepts real called closes).mp accepted
    exact absurd closed (refused exit)

/-- A closing call is refused and changes nothing, or it leaves the world of
one exit. -/
theorem closing_cases {invocation : Invocation PolicyNft.Call}
    {call : PolicyManager.Call} {policyId : Nat}
    (called : invocation.call = .policyManager call)
    (closes : call.closes = some policyId) (world : World PolicyNft.State) :
    ((∀ exit, ¬ PolicyManager.Closes nft (deployment.env invocation) policyId
        world.policyManager call exit) ∧
          deployment.apply world invocation = world) ∨
      ∃ exit, PolicyManager.Closes nft (deployment.env invocation) policyId
          world.policyManager call exit ∧
        deployment.apply world invocation =
          world.leave deployment.policyManager policyId exit := by
  by_cases closed : ∃ exit, PolicyManager.Closes nft
      (deployment.env invocation) policyId world.policyManager call exit
  · obtain ⟨exit, closed⟩ := closed
    exact Or.inr ⟨exit, closed, closing_apply real called closes closed⟩
  · have refused := not_exists.mp closed
    exact Or.inl ⟨refused, closing_refused real called closes refused⟩

/-- A closing of one policy decides nothing about a closing of another. -/
theorem closes_apply_iff (sound : deployment.Sound world)
    {invocation : Invocation PolicyNft.Call} {call : PolicyManager.Call}
    {policyId otherId : Nat} (called : invocation.call = .policyManager call)
    (closes : call.closes = some policyId) (distinct : otherId ≠ policyId)
    (env : Env) (other : PolicyManager.Call) (exit : PolicyManager.Exit) :
    PolicyManager.Closes nft env otherId
        (deployment.apply world invocation).policyManager other exit ↔
      PolicyManager.Closes nft env otherId world.policyManager other exit := by
  rcases closing_cases real called closes world with
    ⟨-, same⟩ | ⟨first, closed, same⟩
  · rw [same]
  · rw [same]
    have roles : (world.leave deployment.policyManager policyId
        first).policyManager.roles = world.policyManager.roles :=
      PolicyManager.Exit.leave_roles _
    have policyNft : (world.leave deployment.policyManager policyId
        first).policyManager.policyNft = world.policyManager.policyNft :=
      PolicyManager.Exit.leave_policyNft _
    have policies : (world.leave deployment.policyManager policyId
        first).policyManager.policies otherId =
          world.policyManager.policies otherId :=
      PolicyManager.Exit.leave_policies (closed.of sound.accounted) distinct _
    constructor
    · intro closesLater
      exact closesLater.congr roles.symm policies.symm policyNft.symm
    · intro closesNow
      exact closesNow.congr roles policies policyNft

/-- Closings of distinct policies commute. -/
theorem closings_swap (sound : deployment.Sound world)
    {first second : Invocation PolicyNft.Call}
    {call other : PolicyManager.Call} {policyId otherId : Nat}
    (called : first.call = .policyManager call)
    (calledOther : second.call = .policyManager other)
    (closes : call.closes = some policyId)
    (closesOther : other.closes = some otherId)
    (distinct : policyId ≠ otherId) :
    deployment.apply (deployment.apply world first) second =
      deployment.apply (deployment.apply world second) first := by
  have after := closes_apply_iff real sound called closes distinct.symm
    (deployment.env second) other
  have afterOther := closes_apply_iff real sound calledOther closesOther
    distinct (deployment.env first) call
  rcases closing_cases real called closes world with
    ⟨refused, same⟩ | ⟨exit, closed, same⟩
  · have refusedLater := closing_refused real called closes fun exit closed =>
      refused exit ((afterOther exit).mp closed)
    rw [same, refusedLater]
  · rw [closing_apply real called closes ((afterOther exit).mpr closed)]
    rcases closing_cases real calledOther closesOther world with
      ⟨refused, kept⟩ | ⟨otherExit, closedOther, left⟩
    · have refusedLater := closing_refused real calledOther closesOther
        fun other closedOther => refused other ((after other).mp closedOther)
      rw [refusedLater, kept, same]
    · rw [closing_apply real calledOther closesOther
        ((after otherExit).mpr closedOther), same, left]
      exact (World.leave_comm (closed.of sound.accounted)
        (closedOther.of sound.accounted) distinct world).symm

/-! ## Keepers -/

/-- An accepted expiry can be repeated and changes nothing then. -/
theorem expiry_repeats (sound : deployment.Sound world)
    {first again : Invocation PolicyNft.Call} {policyId : Nat}
    (called : first.call = .policyManager (.expirePolicy policyId))
    (calledAgain : again.call = .policyManager (.expirePolicy policyId))
    (accepted : deployment.accepts world first = true) :
    deployment.accepts (deployment.apply world first) again = true ∧
      deployment.apply (deployment.apply world first) again =
        deployment.apply world first := by
  obtain ⟨exit, closed⟩ := (closing_accepts real called rfl).mp accepted
  obtain ⟨policy, stored, expired⟩ := closed.expired sound.accounted
  have left := closing_apply real called rfl closed
  have already : PolicyManager.Closes nft (deployment.env again) policyId
      (deployment.apply world first).policyManager (.expirePolicy policyId)
      .already := by
    rw [left]
    exact .already stored expired
  exact ⟨(closing_accepts real calledAgain rfl).mpr ⟨_, already⟩,
    closing_apply real calledAgain rfl already⟩

omit real in
/-- An expiry of a policy whose cover has ended. -/
def Ended (world : World PolicyNft.State)
    (invocation : Invocation PolicyNft.Call) : Prop :=
  ∃ policyId policy,
    invocation.call = .policyManager (.expirePolicy policyId) ∧
      world.policyManager.policies policyId = some policy ∧
        policy.endDate < invocation.timestamp.val

theorem ended_apply (sound : deployment.Sound world)
    {first second : Invocation PolicyNft.Call} (ended : Ended world first)
    (endedSecond : Ended world second) :
    Ended (deployment.apply world first) second := by
  obtain ⟨policyId, policy, called, stored, later⟩ := ended
  obtain ⟨otherId, other, calledOther, storedOther, laterOther⟩ := endedSecond
  rcases closing_cases real called rfl world with
    ⟨-, same⟩ | ⟨exit, closed, same⟩
  · rw [same]
    exact ⟨otherId, other, calledOther, storedOther, laterOther⟩
  · obtain ⟨kept, storedLater, endDate⟩ :=
      PolicyManager.Exit.leave_endDate sound.accounted closed storedOther
    rw [same]
    exact ⟨otherId, kept, calledOther, storedLater, by omega⟩

/-- Two expiries of one ended policy do the same. -/
theorem expiry_same {first second : Invocation PolicyNft.Call}
    {policyId : Nat} {policy : Policy}
    (called : first.call = .policyManager (.expirePolicy policyId))
    (calledSecond : second.call = .policyManager (.expirePolicy policyId))
    (stored : world.policyManager.policies policyId = some policy)
    (ended : policy.endDate < first.timestamp.val)
    (endedSecond : policy.endDate < second.timestamp.val) :
    deployment.apply world first = deployment.apply world second := by
  rcases closing_cases real called rfl world with
    ⟨refused, same⟩ | ⟨exit, closed, same⟩
  · have refusedSecond := closing_refused real calledSecond rfl
      fun exit closed =>
        refused exit (closed.expire_congr stored ended)
    rw [same, refusedSecond]
  · rw [same, closing_apply real calledSecond rfl
      (closed.expire_congr stored endedSecond)]

/-- A second expiry of an ended policy changes nothing, also when the first
was refused. -/
theorem expiry_absorbs (sound : deployment.Sound world)
    {first second : Invocation PolicyNft.Call} {policyId : Nat}
    {policy : Policy}
    (called : first.call = .policyManager (.expirePolicy policyId))
    (calledSecond : second.call = .policyManager (.expirePolicy policyId))
    (stored : world.policyManager.policies policyId = some policy)
    (ended : policy.endDate < first.timestamp.val)
    (endedSecond : policy.endDate < second.timestamp.val) :
    deployment.apply (deployment.apply world first) second =
      deployment.apply world first := by
  rcases deployment.apply_cases world first with
    ⟨-, same⟩ | ⟨accepted, -⟩
  · rw [same, ← expiry_same real called calledSecond stored ended endedSecond,
      same]
  · exact (expiry_repeats real sound called calledSecond accepted).2

/-- Among ended policies the order and the repetitions of expiries do not
matter. -/
theorem expiries_confluent (labels : List (Invocation PolicyNft.Call)) :
    History.Confluent deployment.apply (fun label => label ∈ labels)
      (fun world => deployment.Sound world ∧
        ∀ label ∈ labels, Ended world label)
      (fun label => label.call) where
  keeps member holds :=
    ⟨deployment.sound_apply holds.1 _, fun label later =>
      ended_apply real holds.1 (holds.2 _ member) (holds.2 label later)⟩
  swaps := by
    intro world first second member memberSecond ⟨sound, ended⟩
    obtain ⟨policyId, policy, called, stored, later⟩ := ended first member
    obtain ⟨otherId, other, calledOther, storedOther, laterOther⟩ :=
      ended second memberSecond
    by_cases same : policyId = otherId
    · subst same
      obtain rfl := Option.some.inj (stored.symm.trans storedOther)
      rw [expiry_absorbs real sound called calledOther stored later laterOther,
        expiry_absorbs real sound calledOther called stored laterOther later]
      exact expiry_same real called calledOther stored later laterOther
    · exact closings_swap real sound called calledOther rfl rfl same
  absorbs := by
    intro world first second member memberSecond same ⟨sound, ended⟩
    obtain ⟨policyId, policy, called, stored, later⟩ := ended first member
    obtain ⟨otherId, other, calledOther, storedOther, laterOther⟩ :=
      ended second memberSecond
    rw [called, calledOther] at same
    cases same
    obtain rfl := Option.some.inj (stored.symm.trans storedOther)
    exact expiry_absorbs real sound called calledOther stored later laterOther

end Closings

/-- In every reachable state two closing calls on distinct policies are
accepted or refused independently of their order and lead to the same state;
an accepted expiry can be repeated without effect; and whatever expiries of
ended policies keepers send, in any order and with any repetitions, the same
policies lead to the same state. -/
theorem closingsCommute
    (deployment : Deployment PolicyNft.State PolicyNft.Call)
    {nft nftAdmin : Address}
    (real : deployment.certificates = PolicyNft.certificates nft nftAdmin)
    (invocations : List (Invocation PolicyNft.Call)) :
    (∀ (first second : Invocation PolicyNft.Call) call other policyId otherId,
      first.call = .policyManager call → second.call = .policyManager other →
        call.closes = some policyId → other.closes = some otherId →
          policyId ≠ otherId →
            deployment.accepts (deployment.apply (deployment.run invocations)
                second) first =
              deployment.accepts (deployment.run invocations) first ∧
            deployment.accepts (deployment.apply (deployment.run invocations)
                first) second =
              deployment.accepts (deployment.run invocations) second ∧
            deployment.apply (deployment.apply (deployment.run invocations)
                first) second =
              deployment.apply (deployment.apply (deployment.run invocations)
                second) first) ∧
      (∀ (first again : Invocation PolicyNft.Call) policyId,
        first.call = .policyManager (.expirePolicy policyId) →
          again.call = first.call →
            deployment.accepts (deployment.run invocations) first = true →
              deployment.accepts (deployment.apply
                  (deployment.run invocations) first) again = true ∧
                deployment.apply (deployment.apply
                    (deployment.run invocations) first) again =
                  deployment.apply (deployment.run invocations) first) ∧
      ∀ keepers others : List (Invocation PolicyNft.Call),
        (∀ expiry ∈ keepers ++ others,
          Ended (deployment.run invocations) expiry) →
          (∀ expiry ∈ keepers, ∃ other ∈ others,
            other.call = expiry.call) →
            (∀ expiry ∈ others, ∃ other ∈ keepers,
              other.call = expiry.call) →
              deployment.run (invocations ++ keepers) =
                deployment.run (invocations ++ others) := by
  have sound := deployment.sound_run invocations
  refine ⟨?_, ?_, ?_⟩
  · intro first second call other policyId otherId called calledOther closes
      closesOther distinct
    refine ⟨?_, ?_,
      closings_swap real sound called calledOther closes closesOther distinct⟩
    · rw [Bool.eq_iff_iff, closing_accepts real called closes,
        closing_accepts real called closes]
      exact exists_congr fun exit =>
        closes_apply_iff real sound calledOther closesOther distinct _ _ exit
    · rw [Bool.eq_iff_iff, closing_accepts real calledOther closesOther,
        closing_accepts real calledOther closesOther]
      exact exists_congr fun exit =>
        closes_apply_iff real sound called closes distinct.symm _ _ exit
  · intro first again policyId called same accepted
    exact expiry_repeats real sound called (same.trans called) accepted
  · intro keepers others ended covered covers
    unfold run
    rw [History.run_append, History.run_append]
    exact (expiries_confluent real (keepers ++ others)).run_eq ⟨sound, ended⟩
      (fun label member => List.mem_append_left _ member)
      (fun label member => List.mem_append_right _ member) covers covered

open PolicyManager (seasonAddress)

/-- The worked season with a second policy of its farmer, for the same
org. -/
def seasonTwice : List (Invocation PolicyNft.Call) :=
  seasonSold ++
    [.policyManager (.createPolicy (seasonAddress 2) (seasonAddress 4) 8
        (-1286389) 36817223 10000000000 1000000 120 .drought
        (seasonAddress 5)),
      .policyManager (.activatePolicy (seasonAddress 2) 2 (seasonAddress 5)
        "" "")].map
      (signedBy (seasonAddress 2) 1743465600)

/-- A keeper expires the first policy after its cover. -/
def seasonExpiry (keeper : UInt8) : Invocation PolicyNft.Call :=
  signedBy (seasonAddress keeper) 1753920000
    (.policyManager (.expirePolicy 1))

/-- The admin cancels the second policy. -/
def seasonCancellation : Invocation PolicyNft.Call :=
  signedBy (seasonAddress 1) 1753920000
    (.policyManager (.cancelPolicy (seasonAddress 1) 2))

theorem closingsCommute_season :
    (∀ policyId ∈ [1, 2],
      ((seasonDeployment.run seasonTwice).policyManager.policies
          policyId).map (fun policy => (policy.farmer, policy.org)) =
        some (seasonAddress 4, seasonAddress 5)) ∧
      seasonDeployment.accepts (seasonDeployment.run seasonTwice)
        (seasonExpiry 6) = true ∧
      seasonDeployment.accepts (seasonDeployment.run seasonTwice)
        seasonCancellation = true ∧
      seasonDeployment.apply (seasonDeployment.apply
          (seasonDeployment.run seasonTwice) (seasonExpiry 6))
          seasonCancellation =
        seasonDeployment.apply (seasonDeployment.apply
          (seasonDeployment.run seasonTwice) seasonCancellation)
          (seasonExpiry 6) ∧
      seasonDeployment.run (seasonTwice ++ [seasonExpiry 6]) =
        seasonDeployment.run
          (seasonTwice ++ [seasonExpiry 7, seasonExpiry 6]) := by
  obtain ⟨policy, stored⟩ : ∃ policy, (seasonDeployment.run
      seasonTwice).policyManager.policies 1 = some policy :=
    Option.isSome_iff_exists.mp (by decide +kernel)
  have endDate : ((seasonDeployment.run seasonTwice).policyManager.policies
      1).map Policy.endDate = some 1753833600 := by decide +kernel
  rw [stored] at endDate
  have ended : ∀ keeper, Ended (seasonDeployment.run seasonTwice)
      (seasonExpiry keeper) := by
    intro keeper
    refine ⟨1, policy, rfl, stored, ?_⟩
    rw [Option.some.inj endDate]
    change 1753833600 < 1753920000
    decide
  obtain ⟨swaps, -, confluent⟩ :=
    closingsCommute seasonDeployment rfl seasonTwice
  refine ⟨by decide +kernel, by decide +kernel, by decide +kernel, ?_, ?_⟩
  · exact (swaps (seasonExpiry 6) seasonCancellation _ _ 1 2 rfl rfl rfl rfl
      (by decide)).2.2
  · refine confluent [seasonExpiry 6] [seasonExpiry 7, seasonExpiry 6]
      ?_ ?_ ?_
    · intro expiry member
      simp only [List.cons_append, List.nil_append, List.mem_cons,
        List.not_mem_nil, or_false] at member
      rcases member with rfl | rfl | rfl <;> exact ended _
    · simp [seasonExpiry, signedBy]
    · simp [seasonExpiry, signedBy]

end Deployment

end Microcrop
