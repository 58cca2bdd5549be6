import Microcrop.TtlKeepers

/-!
# What the per-policy keepers request

What `extend_policy_ttl` of a PayoutReceiver does to its own storage and to
that of PolicyManager is a list of lease requests, which depends on the stored
values alone.  The SettlementAdapter and PolicyNft may answer anything.
-/

namespace Microcrop

open Transaction Leased

/-! ## Requests of the helpers -/

section Requests

variable (ledger : LedgerInfo)

/-- The request for an entry of a policy. -/
def policyRequest (endDate : Nat) : LeaseRequest :=
  needRequest ledger.maxTtl (policyNeed ledger.timestamp endDate)

/-- The request for an entry that the policy shares with others. -/
def sharedRequest (endDate : Option Nat) : LeaseRequest :=
  needRequest ledger.maxTtl
    (max (sharedNeedOf ledger.timestamp endDate) sharedFloorLedgers)

/-- The request for the claim times of a farmer. -/
def claimTimesRequest : LeaseRequest :=
  TtlCall.request ledger (.forSecs (Fin.ofNat _ claimHistorySecs))

/-- The request for the instance and the code. -/
def touchRequest : LeaseRequest :=
  TtlCall.request ledger .touch

theorem asks_extendForPolicy (endDate : Nat) :
    Asks ledger.maxTtl (extendForPolicy ledger endDate)
      (policyRequest ledger endDate) := by
  intro before
  exact (extendForPolicy_commits ledger endDate before _ ()).mpr rfl

theorem asks_extendShared (endDate : Option Nat) :
    Asks ledger.maxTtl (extendShared ledger endDate)
      (sharedRequest ledger endDate) := by
  intro before
  exact (extendShared_commits ledger endDate before _ ()).mpr rfl

theorem asks_extendForSecs :
    Asks ledger.maxTtl (extendForSecs ledger claimHistorySecs)
      (claimTimesRequest ledger) := by
  intro before
  exact (TtlCall.exec_commits ledger (.forSecs (Fin.ofNat _ claimHistorySecs))
    before _ ()).mpr rfl

theorem asks_touchContract :
    Asks ledger.maxTtl (touchContract ledger) (touchRequest ledger) := by
  intro before
  exact (TtlCall.exec_commits ledger .touch before _ ()).mpr rfl

theorem asks_extendPending :
    Asks ledger.maxTtl (extendPending ledger)
      (TtlCall.request ledger .pending) := by
  intro before
  exact (TtlCall.exec_commits ledger .pending before _ ()).mpr rfl

end Requests

section Entries

variable {σ κ α : Type} [DecidableEq κ] {cap : Nat} (values : σ)
  {helper : Contract Nat Unit} {request : LeaseRequest}

/-- The request for an entry, if the storage has it. -/
def presentRequest (stored : Option α) (key : κ) (request : LeaseRequest) :
    List (κ × LeaseRequest) :=
  if stored.isSome then [(key, request)] else []

theorem granted_presentRequest_apply (stored : Option α) (key : κ)
    (request : LeaseRequest) (lease : κ → Nat) (other : κ) :
    granted cap (presentRequest stored key request) lease other =
      if other = key ∧ stored.isSome then request.extend cap (lease other)
      else lease other := by
  unfold presentRequest
  split <;> rename_i present
  · simp [granted_singleton_apply, present]
  · simp [granted, present]

theorem grants_read (cap : Nat) (view : σ → α) :
    Grants cap (onValues (κ := κ) (read view : Contract σ α)) values
      (view values) [] :=
  grants_onValues (read_returns view values)

theorem extendEntry_commits_stored (entry : σ → Option α)
    (stored : (entry values).isSome = true) :
    (extendEntry entry).Commits values () values := by
  obtain ⟨found, present⟩ := Option.isSome_iff_exists.mp stored
  simp [extendEntry, present]

theorem grants_extendStored (entry : σ → Option α)
    (asks : Asks cap helper request) (key : κ)
    (stored : (entry values).isSome = true) :
    Grants cap (extendStored entry key helper) values ()
      [(key, request)] := by
  have present : Grants cap (onValues (κ := κ) (extendEntry entry)) values
      () [] :=
    grants_onValues (extendEntry_commits_stored values entry stored)
  exact present.bind (grants_onLease asks key)

theorem grants_extendPresent (entry : σ → Option α)
    (asks : Asks cap helper request) (key : κ) :
    Grants cap (extendPresent entry key helper) values ()
      (presentRequest (entry values) key request) := by
  have extended : Grants cap
      (if (entry values).isSome then extendStored entry key helper
        else pure ())
      values () (presentRequest (entry values) key request) := by
    unfold presentRequest
    split <;> rename_i stored
    · exact grants_extendStored values entry asks key stored
    · exact grants_pure ()
  exact (grants_read values cap entry).bind extended

theorem grants_touchStorage (ledger : LedgerInfo)
    (contractInstance contractCode : κ) :
    Grants ledger.maxTtl
      (touchStorage contractInstance contractCode ledger) values ()
      [(contractInstance, touchRequest ledger),
        (contractCode, touchRequest ledger)] := by
  have asks := asks_touchContract ledger
  exact (grants_onLease asks contractInstance).bind
    (grants_onLease asks contractCode)

end Entries

/-- The TTLs once every entry with a helper has been through it. -/
def helpedTtl {κ : Type} (helper : κ → Option (Contract Nat Unit))
    (ttl : κ → Nat) (key : κ) : Nat :=
  (helper key).elim (ttl key) fun program => program.advance (ttl key)

/-- A helper that may be called makes its request, or none. -/
theorem elim_ite_of_asks {cap : Nat} {program : Contract Nat Unit}
    {request : LeaseRequest} (asks : Asks cap program request)
    (called : Prop) [Decidable called] (remaining : Nat) :
    ((if called then some program else none).elim remaining
        fun program => program.advance remaining) =
      if called then request.extend cap remaining else remaining := by
  split
  · exact asks.advance_eq remaining
  · rfl

/-! ## The calls that the keepers try -/

namespace TryClients

variable {Ω : Type} (clients : TryClients Ω)

/-- What the call to the certificate contract leaves. -/
def afterCertificate (policyId : Nat) : Option Address → Ω → Ω
  | some address, outside =>
      (clients.extendPolicyTtl address policyId).advance outside
  | none, outside => outside

/-- What the call for the obligation that the look-up found leaves. -/
def afterFound (adapter : Address) :
    Except Error (Except ConversionError (Option Nat)) → Ω → Ω
  | .ok (.ok (some id)), outside =>
      (clients.extendObligationTtl adapter id).advance outside
  | _, outside => outside

/-- What the two calls to the adapter leave. -/
def afterAdapter (adapter payoutReceiver : Address) (policyId : Nat)
    (outside : Ω) : Ω :=
  clients.afterFound adapter
    ((clients.findObligation adapter payoutReceiver policyId).answer outside)
    ((clients.findObligation adapter payoutReceiver policyId).advance outside)

/-- None of the calls that the keeper of a receiver tries ends in a fatal
error. -/
structure Survivable (adapter payoutReceiver : Address) (policyId : Nat)
    (policyNft : Option Address) (outside : Ω) : Prop where
  look : (clients.findObligation adapter payoutReceiver policyId).Avoids
    outside Fatal
  obligation : ∀ id, (clients.findObligation adapter payoutReceiver
      policyId).answer outside = .ok (.ok (some id)) →
    (clients.extendObligationTtl adapter id).Avoids
      ((clients.findObligation adapter payoutReceiver policyId).advance
        outside) Fatal
  certificate : ∀ address, policyNft = some address →
    (clients.extendPolicyTtl address policyId).Avoids
      (clients.afterAdapter adapter payoutReceiver policyId outside) Fatal

end TryClients

/-! ## PolicyManager -/

namespace PolicyManager

namespace WithTtl

section Own

variable (ledger : LedgerInfo) {state : State} {policyId : Nat}
  {policy : Policy}

/-- What `bump_policy` requests. -/
def bumpRequests (policy : Policy) : List (EntryKey × LeaseRequest) :=
  match policy.status with
  | .pending | .active =>
      [(.policy policy.id, policyRequest ledger policy.endDate)]
  | .expired | .cancelled | .claimed => []

/-- What the keeper requests for the entries that the policy depends on. -/
def relatedRequests (state : State) (policy : Policy) :
    List (EntryKey × LeaseRequest) :=
  presentRequest (state.farmerActiveCounts policy.farmer)
      (.farmerActiveCount policy.farmer)
      (sharedRequest ledger (some policy.endDate)) ++
    (presentRequest (state.farmerPendingCounts policy.farmer)
      (.farmerPendingCount policy.farmer)
      (sharedRequest ledger (some policy.endDate)) ++
    (presentRequest (state.farmerPolicyCounts policy.farmer)
      (.farmerPolicyCount policy.farmer)
      (sharedRequest ledger (some policy.endDate)) ++
    (presentRequest (state.orgOutstandings policy.org)
      (.orgOutstanding policy.org)
      (sharedRequest ledger (some policy.endDate)) ++
    presentRequest (state.farmerClaimTimes policy.farmer)
      (.farmerClaimTimes policy.farmer) (claimTimesRequest ledger))))

/-- What the keeper requests of PolicyManager for a stored policy. -/
def ownRequests (state : State) (policyId : Nat) (policy : Policy) :
    List (EntryKey × LeaseRequest) :=
  bumpRequests ledger policy ++
    ([(.policy policyId, policyRequest ledger policy.endDate)] ++
    (presentRequest (state.pendingCounted policyId)
      (.pendingCounted policyId) (policyRequest ledger policy.endDate) ++
    (relatedRequests ledger state policy ++
    [(.contractInstance, touchRequest ledger),
      (.contractCode, touchRequest ledger)])))

/-- The helper that the keeper of a stored policy runs on an entry. -/
def keeperHelper (state : State) (policyId : Nat) (policy : Policy) :
    EntryKey → Option (Contract Nat Unit)
  | .contractInstance | .contractCode => some (touchContract ledger)
  | .policy id =>
      if id = policyId then some (extendForPolicy ledger policy.endDate)
      else none
  | .pendingCounted id =>
      if id = policyId ∧ (state.pendingCounted policyId).isSome then
        some (extendForPolicy ledger policy.endDate)
      else none
  | .farmerActiveCount farmer =>
      if farmer = policy.farmer ∧
          (state.farmerActiveCounts policy.farmer).isSome then
        some (extendShared ledger (some policy.endDate))
      else none
  | .farmerPendingCount farmer =>
      if farmer = policy.farmer ∧
          (state.farmerPendingCounts policy.farmer).isSome then
        some (extendShared ledger (some policy.endDate))
      else none
  | .farmerPolicyCount farmer =>
      if farmer = policy.farmer ∧
          (state.farmerPolicyCounts policy.farmer).isSome then
        some (extendShared ledger (some policy.endDate))
      else none
  | .orgOutstanding org =>
      if org = policy.org ∧ (state.orgOutstandings policy.org).isSome then
        some (extendShared ledger (some policy.endDate))
      else none
  | .farmerClaimTimes farmer =>
      if farmer = policy.farmer ∧
          (state.farmerClaimTimes policy.farmer).isSome then
        some (extendForSecs ledger claimHistorySecs)
      else none
  | .role _ _ | .farmerPolicyAt _ _ => none

theorem granted_bumpRequests_apply (cap : Nat) (policy : Policy)
    (lease : EntryKey → Nat) (key : EntryKey) :
    granted cap (bumpRequests ledger policy) lease key =
      if key = .policy policy.id ∧
          (policy.status = .pending ∨ policy.status = .active) then
        (policyRequest ledger policy.endDate).extend cap (lease key)
      else lease key := by
  unfold bumpRequests
  cases status : policy.status with
  | pending | active => simp [granted_singleton_apply]
  | expired | cancelled | claimed => simp [granted]

/-- The requests are those of the helpers, each on its entry. -/
theorem granted_ownRequests (state : State) {policyId : Nat}
    {policy : Policy} (keyed : policy.id = policyId)
    (lease : EntryKey → Nat) :
    granted ledger.maxTtl (bumpRequests ledger policy ++
        ownRequests ledger state policyId policy) lease =
      helpedTtl (keeperHelper ledger state policyId policy) lease := by
  have touches := granted_pair_apply ledger.maxTtl
    (show EntryKey.contractInstance ≠ .contractCode by decide)
    (touchRequest ledger)
  have forPolicy := elim_ite_of_asks
    (asks_extendForPolicy ledger policy.endDate)
  have shared := elim_ite_of_asks
    (asks_extendShared ledger (some policy.endDate))
  have claimTimes := elim_ite_of_asks (asks_extendForSecs ledger)
  have touch := (asks_touchContract ledger).advance_eq
  funext key
  unfold ownRequests relatedRequests helpedTtl
  cases key with
  | policy id =>
      simp only [granted_append, touches, granted_presentRequest_apply,
        granted_singleton_apply, granted_bumpRequests_apply, keyed,
        keeperHelper, forPolicy, reduceCtorEq, false_and, false_or,
        EntryKey.policy.injEq, ↓reduceIte]
      -- `load_policy` may have extended the entry of the policy before
      split
      · split <;> simp [LeaseRequest.extend_extend]
      · rename_i other
        simp [other]
  | _ =>
      simp only [granted_append, touches, granted_presentRequest_apply,
        granted_singleton_apply, granted_bumpRequests_apply, keeperHelper,
        reduceCtorEq, false_and, false_or, true_or, or_true, ↓reduceIte]
      simp [forPolicy, shared, claimTimes, touch]

variable (stored : state.policies policyId = some policy)

theorem grants_extendRelated (policy : Policy) :
    Grants ledger.maxTtl (extendRelated ledger policy) state ()
      (relatedRequests ledger state policy) := by
  have shared := asks_extendShared ledger (some policy.endDate)
  apply (grants_extendPresent state _ shared _).bind
  apply (grants_extendPresent state _ shared _).bind
  apply (grants_extendPresent state _ shared _).bind
  apply (grants_extendPresent state _ shared _).bind
  exact grants_extendPresent state _ (asks_extendForSecs ledger) _

include stored

theorem grants_bumpPolicy (keyed : policy.id = policyId) :
    Grants ledger.maxTtl (bumpPolicy ledger policy) state ()
      (bumpRequests ledger policy) := by
  have present : (state.policies policy.id).isSome = true := by
    rw [keyed, stored]
    rfl
  have extended := grants_extendStored state
    (fun state : State => state.policies policy.id)
    (asks_extendForPolicy ledger policy.endDate)
    (EntryKey.policy policy.id) present
  unfold bumpPolicy bumpRequests
  cases policy.status with
  | pending => exact extended
  | active => exact extended
  | expired => exact grants_pure ()
  | cancelled => exact grants_pure ()
  | claimed => exact grants_pure ()

theorem grants_loadPolicy (keyed : policy.id = policyId) :
    Grants ledger.maxTtl (loadPolicy ledger policyId) state policy
      (bumpRequests ledger policy) := by
  have loaded : Grants ledger.maxTtl
      (onValues (κ := EntryKey) (PolicyManager.loadPolicy policyId)) state
      policy [] :=
    grants_onValues ((loadPolicy_commits _ _ _ _).mpr ⟨stored, rfl⟩)
  have bumped := grants_bumpPolicy ledger stored keyed
  have returned : Grants ledger.maxTtl
      (bumpPolicy ledger policy >>= fun _ => pure policy) state policy
      (bumpRequests ledger policy ++ []) :=
    bumped.bind (grants_pure policy)
  rw [List.append_nil] at returned
  exact loaded.bind returned

theorem grants_extendOwnEntries (keyed : policy.id = policyId) :
    Grants ledger.maxTtl (extendOwnEntries ledger policyId) state ()
      (ownRequests ledger state policyId policy) := by
  have present : (state.policies policyId).isSome = true := by
    rw [stored]
    rfl
  have asks := asks_extendForPolicy ledger policy.endDate
  have extended := grants_extendStored state
    (fun state : State => state.policies policyId) asks
    (EntryKey.policy policyId) present
  have counted := grants_extendPresent state
    (fun state : State => state.pendingCounted policyId) asks
    (EntryKey.pendingCounted policyId)
  apply (grants_loadPolicy ledger stored keyed).bind
  apply extended.bind
  apply counted.bind
  apply (grants_extendRelated ledger policy).bind
  exact grants_touchStorage state ledger _ _

end Own

theorem loadPolicy_fails (ledger : LedgerInfo) {state : State}
    {policyId : Nat} (missing : state.policies policyId = none)
    (lease : EntryKey → Nat) :
    (loadPolicy ledger policyId).Fails ⟨state, lease⟩
      (.policy .policyDoesNotExist) := by
  simp only [loadPolicy, onValues, bind_fails, zoom_fails]
  exact Or.inl (Or.inr ⟨state, rfl,
    (PolicyManager.loadPolicy_fails _ _ _).mpr ⟨missing, rfl⟩⟩)

variable {Ω : Type} (clients : TryClients Ω) (ledger : LedgerInfo)

/-- The certificate part goes through unless its call is fatal. -/
theorem extendCertificate_commits (policyId : Nat)
    (policyNft : Option Address) (outside after : Ω) (result : Unit) :
    (extendCertificate clients policyId policyNft).Commits outside result
        after ↔
      (∀ address, policyNft = some address →
        (clients.extendPolicyTtl address policyId).Avoids outside Fatal) ∧
        after = clients.afterCertificate policyId policyNft outside := by
  cases policyNft with
  | none => simp [extendCertificate, TryClients.afterCertificate]
  | some address =>
      simp only [extendCertificate, TryClients.afterCertificate,
        bind_commits, attempt_commits_iff, pure_commits, Option.some.injEq,
        forall_eq', true_and]
      constructor
      · rintro ⟨answer, _, ⟨survivable, -, rfl⟩, rfl⟩
        exact ⟨survivable, rfl⟩
      · rintro ⟨survivable, rfl⟩
        exact ⟨_, _, ⟨survivable, rfl, rfl⟩, rfl⟩

theorem extendPolicyTtl_commits {state : State} {policyId : Nat}
    {policy : Policy} (stored : state.policies policyId = some policy)
    (keyed : policy.id = policyId) (lease : EntryKey → Nat) (outside : Ω)
    (after : Storage × Ω) (result : Unit) :
    (extendPolicyTtl clients ledger policyId).Commits
        (⟨state, lease⟩, outside) result after ↔
      (∀ address, state.policyNft = some address →
        (clients.extendPolicyTtl address policyId).Avoids outside Fatal) ∧
        after = (⟨state, granted ledger.maxTtl
          (ownRequests ledger state policyId policy) lease⟩,
          clients.afterCertificate policyId state.policyNft outside) := by
  have own := grants_extendOwnEntries ledger stored keyed lease
  have wired := grants_read (κ := EntryKey) state ledger.maxTtl
    State.policyNft
  unfold extendPolicyTtl
  rw [(own.internal outside).bind_iff, ((wired _).internal outside).bind_iff,
    external_commits]
  simp only [extendCertificate_commits, granted]
  constructor
  · rintro ⟨_, ⟨survivable, rfl⟩, rfl⟩
    exact ⟨survivable, rfl⟩
  · rintro ⟨survivable, rfl⟩
    exact ⟨_, ⟨survivable, rfl⟩, rfl⟩

end WithTtl

end PolicyManager

/-! ## PayoutReceiver -/

namespace PayoutReceiver

namespace WithTtl

variable {Ω : Type} (clients : TryClients Ω) (ledger : LedgerInfo)

/-- What the keeper requests of a receiver for a policy. -/
def ownRequests (receiver : State) (policyId endDate : Nat) :
    List (EntryKey × LeaseRequest) :=
  [(.contractInstance, touchRequest ledger),
      (.contractCode, touchRequest ledger)] ++
    (presentRequest (receiver.policyPaid policyId) (.policyPaid policyId)
      (policyRequest ledger endDate) ++
    presentRequest (receiver.reports policyId) (.report policyId)
      (policyRequest ledger endDate))

/-- The helper that the keeper runs on an entry of a receiver. -/
def keeperHelper (receiver : State) (policyId endDate : Nat) :
    EntryKey → Option (Contract Nat Unit)
  | .contractInstance | .contractCode => some (touchContract ledger)
  | .policyPaid id =>
      if id = policyId ∧ (receiver.policyPaid policyId).isSome then
        some (extendForPolicy ledger endDate)
      else none
  | .report id =>
      if id = policyId ∧ (receiver.reports policyId).isSome then
        some (extendForPolicy ledger endDate)
      else none
  | .role _ _ | .consumedDetermination _ => none

/-- The requests are those of the helpers, each on its entry. -/
theorem granted_ownRequests (receiver : State) (policyId endDate : Nat)
    (lease : EntryKey → Nat) :
    granted ledger.maxTtl (ownRequests ledger receiver policyId endDate)
        lease =
      helpedTtl (keeperHelper ledger receiver policyId endDate) lease := by
  have touches := granted_pair_apply ledger.maxTtl
    (show EntryKey.contractInstance ≠ .contractCode by decide)
    (touchRequest ledger)
  have forPolicy := elim_ite_of_asks (asks_extendForPolicy ledger endDate)
  have touch := (asks_touchContract ledger).advance_eq
  funext key
  unfold ownRequests helpedTtl
  cases key <;>
    simp only [granted_append, touches, granted_presentRequest_apply,
      keeperHelper, reduceCtorEq, false_and, false_or, true_or, or_true,
      ↓reduceIte] <;>
    simp [forPolicy, touch]

@[simp]
theorem callManager_self {α : Type} (manager : Address)
    (program : Contract (PolicyManager.Storage × Ω) α) :
    callManager manager manager program = program :=
  if_pos rfl

/-- The obligation part goes through unless its call is fatal. -/
theorem extendFound_commits (adapter : Address)
    (found : Except Error (Except ConversionError (Option Nat)))
    (outside after : Ω) (result : Unit) :
    (extendFound clients adapter found).Commits outside result after ↔
      (∀ id, found = .ok (.ok (some id)) →
        (clients.extendObligationTtl adapter id).Avoids outside Fatal) ∧
        after = clients.afterFound adapter found outside := by
  match found with
  | .ok (.ok (some id)) =>
      simp only [extendFound, TryClients.afterFound, bind_commits,
        attempt_commits_iff, pure_commits, Except.ok.injEq,
        Option.some.injEq, forall_eq', true_and]
      constructor
      · rintro ⟨answer, _, ⟨survivable, -, rfl⟩, rfl⟩
        exact ⟨survivable, rfl⟩
      · rintro ⟨survivable, rfl⟩
        exact ⟨_, _, ⟨survivable, rfl, rfl⟩, rfl⟩
  | .ok (.ok none) => simp [extendFound, TryClients.afterFound]
  | .ok (.error _) => simp [extendFound, TryClients.afterFound]
  | .error _ => simp [extendFound, TryClients.afterFound]

section Commits

variable {manager adapter : Address} {receiver : State}
  {state : PolicyManager.State} {policyId : Nat}
  (bound : receiver.settlementAdapter = some adapter)
  (wired : receiver.policyManager = some manager)

include bound wired

theorem grants_siblings :
    Grants ledger.maxTtl (onValues (κ := EntryKey) siblings) receiver
      (adapter, manager) [] := by
  apply grants_onValues
  simp [siblings, bound, wired]

/-- For a stored policy the keeper goes through exactly if the calls that it
tries are survivable, and what it does to the storages of PayoutReceiver and
PolicyManager does not depend on the contracts that it calls. -/
theorem extendPolicyTtl_commits (env : Env) {policy : Policy}
    (stored : state.policies policyId = some policy)
    (keyed : policy.id = policyId) (receiverLease : EntryKey → Nat)
    (managerLease : PolicyManager.EntryKey → Nat) (outside : Ω)
    (after : Storage × (PolicyManager.Storage × Ω)) (result : Unit) :
    (extendPolicyTtl manager clients env ledger policyId).Commits
        (⟨receiver, receiverLease⟩, (⟨state, managerLease⟩, outside)) result
        after ↔
      clients.Survivable adapter env.currentContract policyId state.policyNft
          outside ∧
        after =
          (⟨receiver, helpedTtl
              (keeperHelper ledger receiver policyId policy.endDate)
              receiverLease⟩,
            (⟨state, helpedTtl
              (PolicyManager.WithTtl.keeperHelper ledger state policyId
                policy) managerLease⟩,
              clients.afterCertificate policyId state.policyNft
                (clients.afterAdapter adapter env.currentContract policyId
                  outside))) := by
  have touched := grants_touchStorage receiver ledger
    EntryKey.contractInstance EntryKey.contractCode receiverLease
  have siblingsRead := grants_siblings ledger bound wired
  have loaded := PolicyManager.WithTtl.grants_loadPolicy ledger stored keyed
    managerLease
  have asks := asks_extendForPolicy ledger policy.endDate
  have paid := grants_extendPresent receiver
    (fun receiver : State => receiver.policyPaid policyId) asks
    (EntryKey.policyPaid policyId)
  have reported := grants_extendPresent receiver
    (fun receiver : State => receiver.reports policyId) asks
    (EntryKey.report policyId)
  rw [← granted_ownRequests,
    ← PolicyManager.WithTtl.granted_ownRequests ledger state keyed]
  unfold ownRequests extendPolicyTtl
  rw [granted_append, granted_append, granted_append,
    (touched.internal _).bind_iff, ((siblingsRead _).internal _).bind_iff]
  -- `get_policy` answers with the policy, and PolicyManager bumps it
  simp only [callManager_self]
  rw [((loaded.internal _).external _).bind_iff,
    ((paid _).internal _).bind_iff, ((reported _).internal _).bind_iff]
  -- the calls to the adapter and to the certificate contract
  simp only [bind_commits, external_commits, attempt_commits_iff,
    extendFound_commits]
  constructor
  · rintro ⟨answer, _, ⟨_, ⟨_, ⟨look, rfl, rfl⟩, rfl⟩, rfl⟩, _, _,
      ⟨_, ⟨_, ⟨obligation, rfl⟩, rfl⟩, rfl⟩, _, managed, rfl⟩
    obtain ⟨certificate, rfl⟩ :=
      (PolicyManager.WithTtl.extendPolicyTtl_commits clients ledger stored
        keyed _ _ _ _).mp managed
    exact ⟨⟨look, obligation, certificate⟩, rfl⟩
  · rintro ⟨⟨look, obligation, certificate⟩, rfl⟩
    have managed :=
      (PolicyManager.WithTtl.extendPolicyTtl_commits clients ledger stored
        keyed (granted ledger.maxTtl
          (PolicyManager.WithTtl.bumpRequests ledger policy) managerLease)
        (clients.afterAdapter adapter env.currentContract policyId outside)
        _ ()).mpr ⟨certificate, rfl⟩
    exact ⟨_, _, ⟨_, ⟨_, ⟨look, rfl, rfl⟩, rfl⟩, rfl⟩, (), _,
      ⟨_, ⟨_, ⟨obligation, rfl⟩, rfl⟩, rfl⟩, _, managed, rfl⟩

/-- For an unknown policy the keeper fails, and PolicyManager says why. -/
theorem extendPolicyTtl_fails (env : Env)
    (missing : state.policies policyId = none)
    (receiverLease : EntryKey → Nat)
    (managerLease : PolicyManager.EntryKey → Nat) (outside : Ω) :
    (extendPolicyTtl manager clients env ledger policyId).Fails
      (⟨receiver, receiverLease⟩, (⟨state, managerLease⟩, outside))
      (.policy .policyDoesNotExist) := by
  have touched := grants_touchStorage receiver ledger
    EntryKey.contractInstance EntryKey.contractCode receiverLease
  have siblingsRead := grants_siblings ledger bound wired
  have refused := PolicyManager.WithTtl.loadPolicy_fails ledger missing
    managerLease
  apply (touched.internal _).bind_fails
  apply ((siblingsRead _).internal _).bind_fails
  simp only [callManager_self]
  apply Fails.bind
  exact (external_fails _ _ _).mpr ((internal_fails _ _ _).mpr refused)

end Commits

end WithTtl

end PayoutReceiver

end Microcrop
