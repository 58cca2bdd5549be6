import Microcrop.KeeperRequests
import Microcrop.ObligationIndex
import Microcrop.ObligationOrigin

/-!
# What a broken neighbour does to the per-policy keeper

In every reachable state `extend_policy_ttl` of a PayoutReceiver goes through
for an existing policy exactly if no call that it tries ends in a fatal error:
`try_` does not recover from those.  What it then does to its own storage and
to that of PolicyManager does not depend on the contracts stored as
SettlementAdapter and PolicyNft.  With the deployed adapters, the obligation
that the receiver recorded for the policy has its entries extended exactly
while the current adapter holds it and it is not settled.  The keeper answers
as the one of `Keepers`, which has no TTLs.
-/

namespace Microcrop

open Transaction Leased

/-! ## SettlementAdapter -/

namespace SettlementAdapter

/-- The obligation whose entries the keeper extends for a receiver and a
policy. -/
def State.toExtend (ledger : State) (payoutReceiver : Address)
    (policyId : Nat) : List Obligation :=
  match (ledger.findObligation payoutReceiver policyId).bind
      ledger.obligations with
  | some obligation => if obligation.status ≠ .settled then [obligation] else []
  | none => []

section Entries

variable {ledger : State} (wellFormed : ledger.WellFormed)

include wellFormed

/-- It is the open obligation of the receiver for the policy. -/
theorem mem_toExtend {payoutReceiver : Address} {policyId : Nat}
    {obligation : Obligation} :
    obligation ∈ ledger.toExtend payoutReceiver policyId ↔
      ∃ id, ledger.obligations id = some obligation ∧
        obligation.payoutReceiver = payoutReceiver ∧
          obligation.policyId = policyId ∧ obligation.status ≠ .settled := by
  unfold State.toExtend State.findObligation
  constructor
  · intro member
    cases found : ledger.obligationOf payoutReceiver policyId with
    | none => simp [found] at member
    | some id =>
        obtain ⟨stored, present, sameReceiver, samePolicy⟩ :=
          wellFormed.stored payoutReceiver policyId id found
        rw [found, Option.bind_some, present] at member
        dsimp only at member
        split at member
        · rename_i unsettled
          rw [List.mem_singleton] at member
          rw [member]
          exact ⟨id, present, sameReceiver, samePolicy, unsettled⟩
        · cases member
  · rintro ⟨id, present, rfl, rfl, unsettled⟩
    rw [wellFormed.indexed id obligation present, Option.bind_some, present]
    dsimp only
    rw [if_pos unsettled]
    exact List.mem_singleton_self obligation

/-- Every entry that the keeper extends for a stored obligation is there. -/
structure State.HasEntries (ledger : State) (obligation : Obligation) :
    Prop where
  stored : (ledger.obligations obligation.id).isSome = true
  found : (ledger.obligationOf obligation.payoutReceiver
    obligation.policyId).isSome = true
  listed : (ledger.orgObligationAt obligation.org
    obligation.orgIndex).isSome = true
  counted : (ledger.orgObligationCounts obligation.org).isSome = true

theorem hasEntries (indexed : ledger.Indexed) {id : Nat}
    {obligation : Obligation}
    (stored : ledger.obligations id = some obligation) :
    ledger.HasEntries obligation := by
  obtain ⟨next, -, below⟩ := wellFormed.numbered
  have ownId := (below id obligation stored).1
  have listed : ledger.orgObligationAt obligation.org obligation.orgIndex =
      some id :=
    (indexed.listed _ _ _).mpr ⟨obligation, stored, rfl, rfl⟩
  have counted : obligation.orgIndex <
      ledger.orgObligationCount obligation.org :=
    (indexed.filled _ _).mp ⟨id, listed⟩
  constructor
  · rw [ownId, stored]
    rfl
  · rw [wellFormed.indexed id obligation stored]
    rfl
  · rw [listed]
    rfl
  · cases present : ledger.orgObligationCounts obligation.org with
    | some count => rfl
    | none =>
        rw [State.orgObligationCount, present] at counted
        cases counted

end Entries

namespace WithTtl

section Keeper

variable (ledger : LedgerInfo) {storage : Storage}

/-- A program on everything but the ghost. -/
theorem onLeased_commits {α : Type}
    {program : Contract (Leased EntryKey State) α} {state : State}
    {result : α} {requests : List (EntryKey × LeaseRequest)}
    (grants : Grants ledger.maxTtl program state result requests)
    (lease : EntryKey → Nat) (extended : List Obligation) :
    (onLeased program).Commits ⟨⟨state, lease⟩, extended⟩ result
      ⟨⟨state, granted ledger.maxTtl requests lease⟩, extended⟩ :=
  (zoom_commits _ _ _ _ _ _).mpr ⟨_, _, rfl, grants lease, rfl⟩

/-- What the keeper requests for the entries of an obligation. -/
def entryRequests (obligation : Obligation) :
    List (EntryKey × LeaseRequest) :=
  [(.obligation obligation.id, TtlCall.request ledger .pending)] ++
    ([(.obligationOf obligation.payoutReceiver obligation.policyId,
      TtlCall.request ledger .pending)] ++
    ([(.orgObligationAt obligation.org obligation.orgIndex,
      TtlCall.request ledger .pending)] ++
    [(.orgObligationCount obligation.org, sharedRequest ledger none)]))

/-- What the keeper requests of an adapter for a stored obligation. -/
def keeperRequests (obligation : Obligation) :
    List (EntryKey × LeaseRequest) :=
  [(.contractInstance, touchRequest ledger),
      (.contractCode, touchRequest ledger)] ++
    if obligation.status ≠ .settled then entryRequests ledger obligation
    else []

/-- The helper that the keeper of a stored obligation runs on an entry. -/
def keeperHelper (obligation : Obligation) :
    EntryKey → Option (Contract Nat Unit)
  | .contractInstance | .contractCode => some (touchContract ledger)
  | .obligation id =>
      if id = obligation.id ∧ obligation.status ≠ .settled then
        some (extendPending ledger)
      else none
  | .obligationOf payoutReceiver policyId =>
      if (payoutReceiver = obligation.payoutReceiver ∧
          policyId = obligation.policyId) ∧ obligation.status ≠ .settled then
        some (extendPending ledger)
      else none
  | .orgObligationAt org index =>
      if (org = obligation.org ∧ index = obligation.orgIndex) ∧
          obligation.status ≠ .settled then
        some (extendPending ledger)
      else none
  | .orgObligationCount org =>
      if org = obligation.org ∧ obligation.status ≠ .settled then
        some (extendShared ledger none)
      else none
  | .role _ _ => none

/-- The requests are those of the helpers, each on its entry. -/
theorem granted_keeperRequests (obligation : Obligation)
    (lease : EntryKey → Nat) :
    granted ledger.maxTtl (keeperRequests ledger obligation) lease =
      helpedTtl (keeperHelper ledger obligation) lease := by
  have touches := granted_pair_apply ledger.maxTtl
    (show EntryKey.contractInstance ≠ .contractCode by decide)
    (touchRequest ledger)
  have pending := elim_ite_of_asks (asks_extendPending ledger)
  have shared := elim_ite_of_asks (asks_extendShared ledger none)
  have touch := (asks_touchContract ledger).advance_eq
  funext key
  unfold keeperRequests helpedTtl
  by_cases unsettled : obligation.status ≠ .settled
  · rw [if_pos unsettled]
    cases key <;>
      simp only [entryRequests, granted_append, touches,
        granted_singleton_apply, keeperHelper, reduceCtorEq, or_false,
        false_or, ↓reduceIte] <;>
      simp [pending, shared, touch, unsettled]
  · rw [if_neg unsettled, List.append_nil]
    cases key <;>
      simp only [touches, keeperHelper, reduceCtorEq, or_false, false_or,
        ↓reduceIte] <;>
      simp [touch, not_not.mp unsettled]

theorem extendEntries_commits {state : State} {obligation : Obligation}
    (entries : state.HasEntries obligation) (lease : EntryKey → Nat)
    (extended : List Obligation) :
    (extendEntries ledger obligation).Commits ⟨⟨state, lease⟩, extended⟩ ()
      ⟨⟨state, granted ledger.maxTtl (entryRequests ledger obligation) lease⟩,
        extended ++ [obligation]⟩ := by
  have asks := asks_extendPending ledger
  have first := onLeased_commits ledger (grants_extendStored state
    (fun state : State => state.obligations obligation.id) asks
    (EntryKey.obligation obligation.id) entries.stored)
  have second := onLeased_commits ledger (grants_extendStored state
    (fun state : State =>
      state.obligationOf obligation.payoutReceiver obligation.policyId) asks
    (EntryKey.obligationOf obligation.payoutReceiver obligation.policyId)
    entries.found)
  have third := onLeased_commits ledger (grants_extendStored state
    (fun state : State =>
      state.orgObligationAt obligation.org obligation.orgIndex) asks
    (EntryKey.orgObligationAt obligation.org obligation.orgIndex)
    entries.listed)
  have last := onLeased_commits ledger (grants_extendStored state
    (fun state : State => state.orgObligationCounts obligation.org)
    (asks_extendShared ledger none)
    (EntryKey.orgObligationCount obligation.org) entries.counted)
  unfold entryRequests
  rw [granted_append, granted_append, granted_append]
  apply (first lease extended).bind
  apply (second _ _).bind
  apply (third _ _).bind
  apply (last _ _).bind
  exact (modify_commits _ _ _ _).mpr rfl

/-- The keeper of an obligation commits, keeps the values, and extends the
entries of a stored obligation that is not settled. -/
theorem extendObligationTtl_commits {state : State} {id : Nat}
    {obligation : Obligation}
    (stored : state.obligations id = some obligation)
    (entries : state.HasEntries obligation) (lease : EntryKey → Nat)
    (extended : List Obligation) :
    (extendObligationTtl ledger id).Commits ⟨⟨state, lease⟩, extended⟩ ()
      ⟨⟨state, helpedTtl (keeperHelper ledger obligation) lease⟩, extended ++
        if obligation.status ≠ .settled then [obligation] else []⟩ := by
  have touched := onLeased_commits ledger (grants_touchStorage state ledger
    EntryKey.contractInstance EntryKey.contractCode) lease extended
  have looked := grants_read (κ := EntryKey) state ledger.maxTtl
    fun state : State => state.obligations id
  rw [stored] at looked
  rw [← granted_keeperRequests, keeperRequests, granted_append]
  apply touched.bind
  apply (onLeased_commits ledger looked _ _).bind
  dsimp only
  split
  · exact extendEntries_commits ledger entries _ extended
  · rw [List.append_nil]
    exact pure_returns () _

end Keeper

end WithTtl

end SettlementAdapter

/-! ## PolicyNft -/

/-- The keeper of a certificate always goes through. -/
theorem PolicyNft.WithTtl.extendPolicyTtl_grants (ledger : LedgerInfo)
    (state : State) (policyId : Nat) :
    ∃ requests, Grants ledger.maxTtl (extendPolicyTtl ledger policyId) state
      () requests := by
  have touched := grants_touchStorage state ledger EntryKey.contractInstance
    EntryKey.contractCode
  have looked := grants_read (κ := EntryKey) state ledger.maxTtl
    fun state : State => state.policyToToken policyId
  cases token : state.policyToToken policyId with
  | none =>
      rw [token] at looked
      exact ⟨_, touched.bind (looked.bind (grants_pure ()))⟩
  | some tokenId =>
      rw [token] at looked
      have read := grants_read (κ := EntryKey) state ledger.maxTtl
        fun state : State => state.certificates tokenId
      cases stored : state.certificates tokenId with
      | none =>
          rw [stored] at read
          exact ⟨_, touched.bind (looked.bind (read.bind (grants_pure ())))⟩
      | some certificate =>
          rw [stored] at read
          have asks := asks_extendForPolicy ledger certificate.endDate
          have first := grants_extendStored state
            (fun state : State => state.policyToToken policyId) asks
            (EntryKey.policyToToken policyId) (by rw [token]; rfl)
          have second := grants_extendStored state
            (fun state : State => state.certificates tokenId) asks
            (EntryKey.certificate tokenId) (by rw [stored]; rfl)
          have last := grants_extendPresent state
            (fun state : State => state.owners tokenId) asks
            (EntryKey.owner tokenId)
          exact ⟨_, touched.bind (looked.bind (read.bind
            (first.bind (second.bind last))))⟩

/-! ## The deployed adapters -/

/-- The storages of the adapters hold the values of the world. -/
def TryNeighbors.Agrees {Ω Ψ : Type} (neighbors : TryNeighbors Ω)
    (world : World Ψ) : Prop :=
  ∀ address, (neighbors.adapters address).map
    (fun storage => storage.leased.values) = world.adapters address

/-- The helper that the keeper of a receiver runs on an entry of an adapter,
for the obligation of a policy. -/
def SettlementAdapter.State.keeperHelper (ledger : LedgerInfo)
    (state : SettlementAdapter.State) (payoutReceiver : Address)
    (policyId : Nat) :
    SettlementAdapter.EntryKey → Option (Contract Nat Unit) :=
  match (state.findObligation payoutReceiver policyId).bind
      state.obligations with
  | some obligation =>
      SettlementAdapter.WithTtl.keeperHelper ledger obligation
  | none => fun _ => none

section Deployed

variable {Ω : Type} (ledger : LedgerInfo)
  (certify : (policyNft : Address) → (policyId : Nat) →
    Contract Ω (Except ConversionError Unit))

theorem onAdapterStorage_commits {α : Type} {address : Address}
    {program : Contract SettlementAdapter.Storage α}
    {neighbors : TryNeighbors Ω} {storage after : SettlementAdapter.Storage}
    {result : α} (found : neighbors.adapters address = some storage)
    (commits : program.Commits storage result after) :
    (onAdapterStorage address (converted program)).Commits neighbors
      (.ok result)
      { neighbors with
        adapters := Function.update neighbors.adapters address
          (some after) } := by
  have conversion : (converted program).Commits storage (.ok result)
      after :=
    commits.bind (pure_returns _ after)
  exact (zoom_commits _ _ _ _ _ _).mpr
    ⟨storage, after, (findContract_eq_ok _ _ _).mpr found, conversion, rfl⟩

variable {neighbors : TryNeighbors Ω} {adapter : Address}
  {storage : SettlementAdapter.Storage}
  (found : neighbors.adapters adapter = some storage)

include found

theorem findObligation_commits (self : Address) (policyId : Nat) :
    ((adapterClients ledger certify).findObligation adapter self
      policyId).Commits neighbors
      (.ok (storage.leased.values.findObligation self policyId))
      neighbors := by
  have looked : (SettlementAdapter.WithTtl.findObligation self
      policyId).Commits storage
      (storage.leased.values.findObligation self policyId) storage := by
    simp [SettlementAdapter.WithTtl.findObligation,
      SettlementAdapter.WithTtl.onLeased, onValues]
  have reached := onAdapterStorage_commits found looked
  rw [← found, Function.update_eq_self] at reached
  exact reached

/-- The keeper extends the open obligation of the receiver for the policy, and
no other, and leaves the certificate contract alone. -/
theorem adapter_extends
    (wellFormed : storage.leased.values.WellFormed)
    (indexed : storage.leased.values.Indexed) (self : Address)
    (policyId : Nat) :
    (∀ id, storage.leased.values.findObligation self policyId = some id →
      ((adapterClients ledger certify).extendObligationTtl adapter id).Avoids
        neighbors Fatal) ∧
      ∃ storageAfter,
        (adapterClients ledger certify).afterAdapter adapter self policyId
            neighbors =
          { neighbors with
            adapters := Function.update neighbors.adapters adapter
              (some storageAfter) } ∧
        storageAfter.leased.values = storage.leased.values ∧
        storageAfter.leased.lease = helpedTtl
          (storage.leased.values.keeperHelper ledger self policyId)
          storage.leased.lease ∧
        storageAfter.extended = storage.extended ++
          storage.leased.values.toExtend self policyId := by
  have looked := findObligation_commits ledger certify found self policyId
  unfold SettlementAdapter.State.toExtend
    SettlementAdapter.State.keeperHelper TryClients.afterAdapter
  rw [looked.answer_eq, looked.advance_eq]
  cases present : storage.leased.values.findObligation self policyId with
  | none =>
      refine ⟨by simp, storage, ?_, rfl, rfl, (List.append_nil _).symm⟩
      rw [← found, Function.update_eq_self]
      rfl
  | some id =>
      obtain ⟨obligation, stored, -, -⟩ :=
        wellFormed.stored self policyId id present
      have extended :=
        SettlementAdapter.WithTtl.extendObligationTtl_commits ledger stored
          (SettlementAdapter.hasEntries wellFormed indexed stored)
          storage.leased.lease storage.extended
      have reached : ((adapterClients ledger certify).extendObligationTtl
          adapter id).Commits _ _ _ :=
        onAdapterStorage_commits found extended
      rw [Option.bind_some, stored]
      refine ⟨?_, _, reached.advance_eq, rfl, rfl, rfl⟩
      rintro other ⟨⟩
      exact reached.avoids

/-- The deployed adapters end no transaction, so only the certificate contract
can. -/
theorem adapterClients_survivable
    (wellFormed : storage.leased.values.WellFormed)
    (indexed : storage.leased.values.Indexed) (self : Address)
    (policyId : Nat) (policyNft : Option Address) :
    (adapterClients ledger certify).Survivable adapter self policyId
        policyNft neighbors ↔
      ∀ address, policyNft = some address →
        (certify address policyId).Avoids neighbors.nft Fatal := by
  obtain ⟨obligation, storageAfter, left, -⟩ :=
    adapter_extends ledger certify found wellFormed indexed self policyId
  have looked := findObligation_commits ledger certify found self policyId
  -- the certificate contract is asked in the state that it was in before
  have certificate : ∀ address,
      ((adapterClients ledger certify).extendPolicyTtl address
        policyId).Avoids ((adapterClients ledger certify).afterAdapter adapter
          self policyId neighbors) Fatal ↔
        (certify address policyId).Avoids neighbors.nft Fatal := by
    intro address
    rw [left]
    change (onNftStorage (certify address policyId)).Avoids _ _ ↔ _
    simp [onNftStorage]
  constructor
  · intro survivable address wired
    exact (certificate address).mp (survivable.certificate address wired)
  · intro survivable
    refine ⟨looked.avoids, ?_, fun address wired =>
      (certificate address).mpr (survivable address wired)⟩
    intro id answer
    rw [looked.answer_eq] at answer
    rw [looked.advance_eq]
    exact obligation id (Except.ok.inj (Except.ok.inj answer))

omit found in
/-- The certificate part does not touch the adapters. -/
theorem afterCertificate_adapters (policyId : Nat)
    (policyNft : Option Address) (neighbors : TryNeighbors Ω) :
    ((adapterClients ledger certify).afterCertificate policyId policyNft
      neighbors).adapters = neighbors.adapters := by
  cases policyNft with
  | none => rfl
  | some address =>
      change ((onNftStorage (certify address policyId)).advance
        neighbors).adapters = _
      rcases advance_cases (onNftStorage (certify address policyId))
        neighbors with ⟨-, same⟩ | ⟨-, value, commits⟩
      · rw [same]
      · obtain ⟨_, _, -, -, same⟩ := (zoom_commits _ _ _ _ _ _).mp commits
        rw [same]

end Deployed

/-! ## Every run -/

namespace Deployment

variable {Ω κ : Type} (deployment : Deployment Ω κ)

theorem ledgers_indexed_run (invocations : List (Invocation κ)) :
    ∀ address ledger,
      (deployment.run invocations).adapters address = some ledger →
        ledger.Indexed := by
  apply deployment.run_preserves
    (fun world => ∀ address ledger,
      world.adapters address = some ledger → ledger.Indexed)
    deployment.sound_genesis
  · intro address ledger found
    obtain ⟨admin, -, rfl⟩ := Option.map_eq_some_iff.mp found
    exact GroupedStore.indexed_empty
  · intro world invocation after sound step indexed
    exact step.ledgers_preserved sound SettlementAdapter.State.Indexed
      (fun wellFormed indexed _ next appended =>
        SettlementAdapter.indexed_insert wellFormed indexed next appended)
      (fun effect wellFormed indexed =>
        SettlementAdapter.indexed_effect effect wellFormed indexed)
      indexed

/-- Every receiver has an adapter, and calls the deployed PolicyManager. -/
theorem receiver_siblings (invocations : List (Invocation κ))
    {address : Address} {state : PayoutReceiver.State}
    (installed : (deployment.run invocations).receivers address =
      some state) :
    ∃ adapter, state.settlementAdapter = some adapter ∧
      state.policyManager = some deployment.policyManager := by
  have wired := (deployment.sound_run invocations).managed address state
    installed
  have bound : ∀ address state,
      (deployment.run invocations).receivers address = some state →
        state.settlementAdapter.isSome = true := by
    apply deployment.run_preserves
      (fun world => ∀ address state, world.receivers address = some state →
        state.settlementAdapter.isSome = true)
      deployment.sound_genesis
    · intro address state installed
      obtain ⟨setup, -, rfl⟩ := Option.map_eq_some_iff.mp installed
      rfl
    · intro world invocation after _ step bound
      exact step.receivers_preserved
        (fun adapter _ => adapter.isSome = true) (fun _ _ => rfl) bound
  obtain ⟨adapter, bound⟩ :=
    Option.isSome_iff_exists.mp (bound address state installed)
  exact ⟨adapter, bound, wired⟩

/-- A submission through the receiver recorded the obligation that the adapter
keeps for the policy under the id. -/
def RecordedFor (past : List (Transition (World Ω) (Invocation κ)))
    (receiver : Address) (policyId : Nat) (adapter : Address) (id : Nat) :
    Prop :=
  ∃ transition ∈ past, ∃ call,
    transition.label.call = .receiver receiver call ∧
      call.submitsFor policyId = true ∧
      deployment.accepts transition.source transition.label = true ∧
      (∀ earlier, ¬ transition.source.Holds adapter id earlier) ∧
      ∃ first, transition.target.Holds adapter id first ∧
        first.payoutReceiver = receiver ∧ first.policyId = policyId

/-- An obligation continues what its adapter held under its id at any earlier
transition. -/
theorem continues_run (invocations : List (Invocation κ))
    {transition : Transition (World Ω) (Invocation κ)}
    (member : transition ∈ deployment.trace invocations) {adapter : Address}
    {id : Nat} {first : Obligation}
    (held : transition.target.Holds adapter id first) :
    ∃ later, (deployment.run invocations).Holds adapter id later ∧
      first.Continues later := by
  obtain ⟨before, after, split, taken⟩ :=
    History.exists_split_of_mem_trace deployment.apply member
  have sound : deployment.Sound transition.target := by
    rw [taken]
    exact deployment.sound_apply (deployment.sound_run before) _
  have reached : deployment.run invocations =
      History.run deployment.apply transition.target after := by
    rw [run, split, History.run_append, History.run_cons, taken]
    rfl
  rw [reached]
  apply deployment.run_preserves
    (fun world => ∃ later, world.Holds adapter id later ∧
      first.Continues later)
    sound ⟨first, held, .refl first⟩
  rintro world invocation after sound step ⟨later, holds, continues⟩
  obtain ⟨next, holdsNext, continuesNext⟩ := step.holds_continues sound holds
  exact ⟨next, holdsNext, continues.trans continuesNext⟩

/-- An obligation was recorded by the receiver for the policy if and only if
it says so. -/
theorem recordedFor_iff (invocations : List (Invocation κ))
    {receiver : Address} (isReceiver : deployment.IsReceiver receiver)
    {policyId : Nat} {adapter : Address} {id : Nat} {obligation : Obligation}
    (holds : (deployment.run invocations).Holds adapter id obligation) :
    deployment.RecordedFor (deployment.trace invocations) receiver policyId
        adapter id ↔
      obligation.payoutReceiver = receiver ∧
        obligation.policyId = policyId := by
  constructor
  · rintro ⟨transition, member, call, -, -, -, -, first, held, rfl, rfl⟩
    obtain ⟨later, holdsLater, continues⟩ :=
      deployment.continues_run invocations member held
    obtain ⟨ledger, found, stored⟩ := holds
    obtain ⟨other, foundOther, storedOther⟩ := holdsLater
    rw [found] at foundOther
    cases foundOther
    rw [stored] at storedOther
    cases storedOther
    exact ⟨continues.payoutReceiver_eq, continues.policyId_eq⟩
  · rintro ⟨rfl, rfl⟩
    obtain ⟨transition, member, receiver, caller, d, signature, recoveryId,
      state, policy, domain, origin⟩ :=
      originates_run deployment invocations adapter id obligation holds
        isReceiver
    obtain ⟨first, held, -, continues⟩ := origin.recorded
    refine ⟨transition, member,
      .submitDroughtDetermination caller d signature recoveryId, ?_, ?_,
      origin.accepted, origin.fresh, first, held,
      continues.payoutReceiver_eq.symm, continues.policyId_eq.symm⟩
    · rw [origin.payoutReceiver]
      exact origin.call
    · rw [origin.policyId]
      exact decide_eq_true rfl

/-- The keeper extends the obligation that the receiver recorded for the
policy, while it is not settled. -/
theorem mem_toExtend_iff (invocations : List (Invocation κ))
    {receiver : Address} (isReceiver : deployment.IsReceiver receiver)
    {policyId : Nat} {adapter : Address} {state : SettlementAdapter.State}
    (found : (deployment.run invocations).adapters adapter = some state)
    {obligation : Obligation} :
    obligation ∈ state.toExtend receiver policyId ↔
      ∃ id, deployment.RecordedFor (deployment.trace invocations) receiver
          policyId adapter id ∧
        (deployment.run invocations).Holds adapter id obligation ∧
          obligation.status ≠ .settled := by
  have wellFormed :=
    (deployment.sound_run invocations).ledgers adapter state found
  rw [SettlementAdapter.mem_toExtend wellFormed]
  constructor
  · rintro ⟨id, present, sameReceiver, samePolicy, unsettled⟩
    have holds : (deployment.run invocations).Holds adapter id obligation :=
      ⟨state, found, present⟩
    exact ⟨id, (deployment.recordedFor_iff invocations isReceiver
      holds).mpr ⟨sameReceiver, samePolicy⟩, holds, unsettled⟩
  · rintro ⟨id, recorded, holds, unsettled⟩
    obtain ⟨sameReceiver, samePolicy⟩ :=
      (deployment.recordedFor_iff invocations isReceiver holds).mp recorded
    obtain ⟨other, foundOther, present⟩ := holds
    rw [found] at foundOther
    cases foundOther
    exact ⟨id, present, sameReceiver, samePolicy, unsettled⟩

/-- What a run of the keeper leaves: the values of the receiver and of
PolicyManager as they were, their TTLs, and the contracts that it tries to
call. -/
def KeepsAlive (world : World Ω) (receiver : PayoutReceiver.State)
    (env : Env) (ledger : LedgerInfo) (policyId : Nat)
    (ttl ttlAfter : (PayoutReceiver.EntryKey → Nat) ×
      (PolicyManager.EntryKey → Nat))
    {Ψ : Type} (clients : TryClients Ψ) (outside after : Ψ) : Prop :=
  (PayoutReceiver.WithTtl.extendPolicyTtl deployment.policyManager clients env
    ledger policyId).Commits
    (⟨receiver, ttl.1⟩, (⟨world.policyManager, ttl.2⟩, outside)) ()
    (⟨receiver, ttlAfter.1⟩, (⟨world.policyManager, ttlAfter.2⟩, after))

/-- The TTLs that the keeper leaves for a policy: every entry of the policy,
of its farmer and of its organisation went through the helper of its class. -/
def ttlKept (world : World Ω) (receiver : PayoutReceiver.State)
    (ledger : LedgerInfo) (policyId : Nat) (policy : Policy)
    (ttl : (PayoutReceiver.EntryKey → Nat) ×
      (PolicyManager.EntryKey → Nat)) :
    (PayoutReceiver.EntryKey → Nat) × (PolicyManager.EntryKey → Nat) :=
  (helpedTtl (PayoutReceiver.WithTtl.keeperHelper ledger receiver policyId
      policy.endDate) ttl.1,
    helpedTtl (PolicyManager.WithTtl.keeperHelper ledger world.policyManager
      policyId policy) ttl.2)

section Keeper

variable (invocations : List (Invocation κ)) {address adapter : Address}
  {receiver : PayoutReceiver.State}
  (installed : (deployment.run invocations).receivers address =
    some receiver)
  (bound : receiver.settlementAdapter = some adapter)
  {env : Env} (here : env.currentContract = address)
  (ledger : LedgerInfo) {policyId : Nat} {policy : Policy}
  (stored : (deployment.run invocations).policyManager.policies policyId =
    some policy)
  (ttl : (PayoutReceiver.EntryKey → Nat) × (PolicyManager.EntryKey → Nat))

include installed bound here stored

theorem extendPolicyTtl_commits {Ψ : Type} (clients : TryClients Ψ)
    (outside : Ψ) (after : PayoutReceiver.Storage ×
      (PolicyManager.Storage × Ψ)) :
    (PayoutReceiver.WithTtl.extendPolicyTtl deployment.policyManager clients
      env ledger policyId).Commits
        (⟨receiver, ttl.1⟩,
          (⟨(deployment.run invocations).policyManager, ttl.2⟩, outside)) ()
        after ↔
      clients.Survivable adapter address policyId
          (deployment.run invocations).policyManager.policyNft outside ∧
        after =
          (⟨receiver, (ttlKept (deployment.run invocations)
              receiver ledger policyId policy ttl).1⟩,
            (⟨(deployment.run invocations).policyManager,
              (ttlKept (deployment.run invocations) receiver
                ledger policyId policy ttl).2⟩,
              clients.afterCertificate policyId
                (deployment.run invocations).policyManager.policyNft
                (clients.afterAdapter adapter address policyId outside))) := by
  have sound := deployment.sound_run invocations
  have keyed := (sound.accounted.keyed policyId policy stored).1
  have wired := sound.managed address receiver installed
  rw [PayoutReceiver.WithTtl.extendPolicyTtl_commits clients ledger bound
    wired env stored keyed ttl.1 ttl.2, here]
  rfl

/-- The keeper goes through, with the same TTLs for all neighbors, exactly if
they never end the whole transaction. -/
theorem keepsAlive_iff {Ψ : Type} (clients : TryClients Ψ) (outside : Ψ) :
    (∃ after, deployment.KeepsAlive (deployment.run invocations) receiver env
      ledger policyId ttl
      (ttlKept (deployment.run invocations) receiver ledger
        policyId policy ttl) clients outside after) ↔
      clients.Survivable adapter address policyId
        (deployment.run invocations).policyManager.policyNft outside := by
  unfold KeepsAlive
  simp only [deployment.extendPolicyTtl_commits invocations installed bound
    here ledger stored ttl]
  constructor
  · rintro ⟨after, survivable, -⟩
    exact survivable
  · exact fun survivable => ⟨_, survivable, rfl⟩

/-- With the deployed adapters. -/
theorem keepsAlive_adapter {Ψ : Type}
    (certify : Address → Nat → Contract Ψ (Except ConversionError Unit))
    {neighbors : TryNeighbors Ψ}
    (agrees : neighbors.Agrees (deployment.run invocations))
    {storage : SettlementAdapter.Storage}
    (found : neighbors.adapters adapter = some storage)
    (survivable : (adapterClients ledger certify).Survivable adapter address
      policyId (deployment.run invocations).policyManager.policyNft
        neighbors) :
    ∃ after storageAfter,
      deployment.KeepsAlive (deployment.run invocations) receiver env ledger
        policyId ttl
        (ttlKept (deployment.run invocations) receiver ledger policyId policy
          ttl) (adapterClients ledger certify) neighbors after ∧
      after.adapters adapter = some storageAfter ∧
      storageAfter.leased.values = storage.leased.values ∧
      storageAfter.leased.lease = helpedTtl
        (storage.leased.values.keeperHelper ledger address policyId)
        storage.leased.lease ∧
      storageAfter.extended = storage.extended ++
        storage.leased.values.toExtend address policyId := by
  have sound := deployment.sound_run invocations
  have foundLedger : (deployment.run invocations).adapters adapter =
      some storage.leased.values := by
    rw [← agrees adapter, found]
    rfl
  obtain ⟨-, storageAfter, left, kept⟩ :=
    adapter_extends ledger certify found
      (sound.ledgers adapter _ foundLedger)
      (deployment.ledgers_indexed_run invocations adapter _ foundLedger)
      address policyId
  have commits := (deployment.extendPolicyTtl_commits invocations installed
    bound here ledger stored ttl (adapterClients ledger certify) neighbors
    _).mpr ⟨survivable, rfl⟩
  refine ⟨_, storageAfter, commits, ?_, kept⟩
  rw [afterCertificate_adapters, left]
  exact Function.update_self ..

end Keeper

/-! ## The keeper without TTLs -/

section WithoutTtls

theorem extendIfStored_commits {σ α : Type} (values : σ)
    (entry : σ → Option α) :
    (extendIfStored entry).Commits values () values := by
  apply (read_returns entry values).bind
  split <;> rename_i stored
  · exact extendEntry_commits_stored values entry stored
  · exact pure_returns () values

theorem extendEntry_survivable {σ α : Type} (entry : σ → Option α)
    (values : σ) : (extendEntry entry).Avoids values Fatal := by
  simp [extendEntry, fatal_iff]

theorem extendIfStored_survivable {σ α : Type} (entry : σ → Option α)
    (values : σ) : (extendIfStored entry).Avoids values Fatal :=
  (extendIfStored_commits values entry).avoids

theorem extendCertificate_survivable
    (deployment : Deployment PolicyNft.State PolicyNft.Call)
    (address : Address) (policyId : Nat) (values : PolicyNft.State) :
    (deployment.extendCertificate address policyId).Avoids values Fatal := by
  unfold extendCertificate
  split
  · refine (read_bind_avoids _ _ _).mpr ?_
    cases values.policyToToken policyId with
    | none => exact pure_avoids _ _
    | some tokenId =>
        refine (read_bind_avoids _ _ _).mpr ?_
        cases values.certificates tokenId with
        | none => exact pure_avoids _ _
        | some certificate =>
            simp [extendEntry_survivable, extendIfStored_survivable]
  · simp [fatal_iff]

theorem onAdapter_survivable {α : Type} {adapter : Address}
    {program : Contract SettlementAdapter.State α}
    (survivable : ∀ ledger, program.Avoids ledger Fatal)
    (neighbors : Neighbors PolicyNft.State) :
    (onAdapter adapter program).Avoids neighbors Fatal := by
  intro error refused
  rcases (onAdapter_fails _ _ _ _).mp refused with
    ⟨-, rfl⟩ | ⟨ledger, -, refusedThere⟩
  · decide
  · exact survivable ledger error refusedThere

theorem findObligation_survivable (adapter self : Address) (policyId : Nat)
    (neighbors : Neighbors PolicyNft.State) :
    ((adapterKeepers adapter).findObligation self policyId).Avoids neighbors
      Fatal :=
  onAdapter_survivable (fun ledger => read_avoids _ ledger) neighbors

theorem extendObligationTtl_survivable (adapter : Address)
    (obligationId : Nat) (neighbors : Neighbors PolicyNft.State) :
    ((adapterKeepers adapter).extendObligationTtl obligationId).Avoids
      neighbors Fatal := by
  apply onAdapter_survivable
  intro ledger
  refine (read_bind_avoids _ _ _).mpr ?_
  cases ledger.obligations obligationId with
  | none => exact pure_avoids _ _
  | some obligation =>
      dsimp only
      split
      · simp [SettlementAdapter.extendEntries, extendEntry_survivable]
      · exact pure_avoids _ _

theorem managerPolicyTtl_commits {Ω : Type}
    {extendCertificate : Address → Nat → Contract Ω Unit}
    (certified : ∀ address policyId,
      (extendCertificate address policyId).ReadOnly)
    (survivable : ∀ address policyId values,
      (extendCertificate address policyId).Avoids values Fatal)
    {state : PolicyManager.State} {policyId : Nat} {policy : Policy}
    (stored : state.policies policyId = some policy) (outside : Ω) :
    (PolicyManager.extendPolicyTtl extendCertificate policyId).Commits
      (state, outside) () (state, outside) := by
  have loaded : (PolicyManager.loadPolicy policyId).Commits state policy
      state :=
    (PolicyManager.loadPolicy_commits _ _ _ _).mpr ⟨stored, rfl⟩
  have present : (state.policies policyId).isSome = true := by
    rw [stored]
    rfl
  have extended := extendEntry_commits_stored state
    (fun state : PolicyManager.State => state.policies policyId) present
  apply (loaded.internal outside).bind
  apply (extended.internal outside).bind
  iterate 6 apply ((extendIfStored_commits state _).internal outside).bind
  apply ((read_returns _ state).internal outside).bind
  cases state.policyNft with
  | none => exact pure_returns () (state, outside)
  | some address =>
      obtain ⟨result, tried⟩ :=
        (certified address policyId).external.attempt_total
          ((external_avoids _ (state, outside)).mpr
            (survivable address policyId outside))
      exact tried.bind (pure_returns () (state, outside))

theorem extendFound_commits_readOnly (adapter : Address)
    (found : Except Error (Option Nat))
    (before : PayoutReceiver.State × Neighbors PolicyNft.State) :
    (PayoutReceiver.extendFound (adapterKeepers adapter) found).Commits
      before () before := by
  match found with
  | .ok (some id) =>
      obtain ⟨result, tried⟩ :=
        ((adapterKeepers_readOnly adapter).extendObligationTtl
          id).external.attempt_total ((external_avoids _ before).mpr
            (extendObligationTtl_survivable adapter id before.2))
      exact tried.bind (pure_returns () before)
  | .ok none => exact pure_returns () before
  | .error _ => exact pure_returns () before

section Answers

variable {deployment : Deployment PolicyNft.State PolicyNft.Call}
  {world : World PolicyNft.State} {address adapter : Address}
  {receiver : PayoutReceiver.State} {policyId : Nat}
  (installed : world.receivers address = some receiver)
  (bound : receiver.settlementAdapter = some adapter)
  (wired : receiver.policyManager = some deployment.policyManager)

include installed bound wired

theorem receiverPolicyTtl_commits {policy : Policy}
    (stored : world.policyManager.policies policyId = some policy) :
    ∃ after, (deployment.keep (.receiverPolicyTtl address policyId)).Commits
      world () after := by
  have managed : deployment.managerKeepers deployment.policyManager =
      ⟨fun policyId => onManager (internal (PolicyManager.loadPolicy policyId)),
        fun policyId => onManager (PolicyManager.extendPolicyTtl
          deployment.extendCertificate policyId),
        onManager (PolicyManager.extendContractTtl deployment.keepAlive)⟩ :=
    if_pos rfl
  have called : PayoutReceiver.siblings.Commits receiver
      (adapter, deployment.policyManager) receiver :=
    (PayoutReceiver.siblings_commits _ _ _).mpr ⟨bound, wired, rfl⟩
  have loaded : (onManager (internal (PolicyManager.loadPolicy
      policyId))).Commits world.toNeighbors policy world.toNeighbors := by
    simp [stored]
  have extended : (onManager (PolicyManager.extendPolicyTtl
      deployment.extendCertificate policyId)).Commits world.toNeighbors ()
        world.toNeighbors :=
    (onManager_commits _ _ _ _).mpr ⟨_, managerPolicyTtl_commits
      deployment.extendCertificate_readOnly
      (extendCertificate_survivable deployment) stored world.nft, rfl⟩
  obtain ⟨found, looked⟩ := ((adapterKeepers_readOnly adapter).findObligation
    address policyId).external.attempt_total
      ((external_avoids _ (receiver, world.toNeighbors)).mpr
        (findObligation_survivable adapter address policyId _))
  have kept : (PayoutReceiver.extendPolicyTtl address
      deployment.managerKeepers adapterKeepers policyId).Commits
        (receiver, world.toNeighbors) () (receiver, world.toNeighbors) := by
    apply (called.internal _).bind
    simp only [managed]
    apply (loaded.external _).bind
    apply ((extendIfStored_commits receiver _).internal _).bind
    apply ((extendIfStored_commits receiver _).internal _).bind
    apply looked.bind
    apply (extendFound_commits_readOnly adapter found _).bind
    exact extended.external receiver
  exact ⟨_, (onReceiver_commits _ _ _ _ _).mpr
    ⟨receiver, _, installed, kept, rfl⟩⟩

theorem receiverPolicyTtl_fails
    (missing : world.policyManager.policies policyId = none) :
    (deployment.keep (.receiverPolicyTtl address policyId)).Fails world
      (.policy .policyDoesNotExist) := by
  have called : PayoutReceiver.siblings.Commits receiver
      (adapter, deployment.policyManager) receiver :=
    (PayoutReceiver.siblings_commits _ _ _).mpr ⟨bound, wired, rfl⟩
  have refused : (PayoutReceiver.extendPolicyTtl address
      deployment.managerKeepers adapterKeepers policyId).Fails
        (receiver, world.toNeighbors) (.policy .policyDoesNotExist) := by
    apply (called.internal _).bind_fails
    simp [managerKeepers, missing]
  exact (onReceiver_fails _ _ _ _).mpr (Or.inr ⟨receiver, installed, refused⟩)

end Answers

/-- In every reachable state the keeper answers the same with TTLs, whatever
its neighbors do short of ending the whole transaction, and without. -/
theorem receiverPolicyTtl_answer
    (deployment : Deployment PolicyNft.State PolicyNft.Call)
    (invocations : List (Invocation PolicyNft.Call))
    {address adapter : Address} {receiver : PayoutReceiver.State}
    (installed : (deployment.run invocations).receivers address =
      some receiver)
    (bound : receiver.settlementAdapter = some adapter) {env : Env}
    (here : env.currentContract = address) (ledger : LedgerInfo)
    (policyId : Nat)
    (ttl : (PayoutReceiver.EntryKey → Nat) × (PolicyManager.EntryKey → Nat))
    {Ψ : Type} (clients : TryClients Ψ) (outside : Ψ)
    (survivable : clients.Survivable adapter address policyId
      (deployment.run invocations).policyManager.policyNft outside) :
    (PayoutReceiver.WithTtl.extendPolicyTtl deployment.policyManager clients
        env ledger policyId).answer
        (⟨receiver, ttl.1⟩,
          (⟨(deployment.run invocations).policyManager, ttl.2⟩, outside)) =
      (deployment.keep (.receiverPolicyTtl address policyId)).answer
        (deployment.run invocations) := by
  have wired := (deployment.sound_run invocations).managed address receiver
    installed
  cases stored : (deployment.run invocations).policyManager.policies
      policyId with
  | none =>
      have fails := PayoutReceiver.WithTtl.extendPolicyTtl_fails clients
        ledger bound wired env stored ttl.1 ttl.2 outside
      rw [fails.answer_eq, (receiverPolicyTtl_fails installed bound wired
        stored).answer_eq]
  | some policy =>
      obtain ⟨after, withTtl⟩ := (deployment.keepsAlive_iff invocations
        installed bound here ledger stored ttl clients outside).mpr survivable
      obtain ⟨last, without⟩ := receiverPolicyTtl_commits installed bound
        wired stored
      rw [Commits.answer_eq withTtl, without.answer_eq]

end WithoutTtls

/-- In every reachable state, whoever authorizes what, the keeper of an
existing policy commits, keeps every stored value of the receiver and of
PolicyManager and leaves the TTLs that the helpers leave, which do not depend
on the contracts that are stored as SettlementAdapter and as PolicyNft,
exactly if no call that it tries to make to these ends in a fatal error.  With
the deployed adapter it then also runs the helpers on the entries of an
obligation exactly if the receiver recorded it for the policy, it is in the
current adapter and it is not settled.  For an unknown policy it fails. -/
theorem keeperSurvives (invocations : List (Invocation κ))
    {address adapter : Address} {receiver : PayoutReceiver.State}
    (installed : (deployment.run invocations).receivers address =
      some receiver)
    (bound : receiver.settlementAdapter = some adapter)
    {env : Env} (here : env.currentContract = address) (ledger : LedgerInfo)
    (policyId : Nat)
    (ttl : (PayoutReceiver.EntryKey → Nat) ×
      (PolicyManager.EntryKey → Nat)) :
    let world := deployment.run invocations
    (∀ policy, world.policyManager.policies policyId = some policy →
      let kept := ttlKept world receiver ledger policyId policy ttl
      (∀ (Ψ : Type) (clients : TryClients Ψ) (outside : Ψ),
        (∃ after, deployment.KeepsAlive world receiver env ledger policyId
            ttl kept clients outside after) ↔
          clients.Survivable adapter address policyId
            world.policyManager.policyNft outside) ∧
        ∀ (Ψ : Type) (certify : Address → Nat →
            Contract Ψ (Except ConversionError Unit))
          (neighbors : TryNeighbors Ψ) (storage : SettlementAdapter.Storage),
          neighbors.Agrees world →
          neighbors.adapters adapter = some storage →
            ((∃ after storageAfter extended,
              deployment.KeepsAlive world receiver env ledger policyId ttl
                kept (adapterClients ledger certify) neighbors after ∧
              after.adapters adapter = some storageAfter ∧
              storageAfter.leased.values = storage.leased.values ∧
              storageAfter.leased.lease = helpedTtl
                (storage.leased.values.keeperHelper ledger address policyId)
                storage.leased.lease ∧
              storageAfter.extended = storage.extended ++ extended ∧
              ∀ obligation, obligation ∈ extended ↔
                ∃ id, deployment.RecordedFor (deployment.trace invocations)
                    address policyId adapter id ∧
                  world.Holds adapter id obligation ∧
                    obligation.status ≠ .settled) ↔
              ∀ policyNft, world.policyManager.policyNft = some policyNft →
                (certify policyNft policyId).Avoids neighbors.nft Fatal)) ∧
    (world.policyManager.policies policyId = none →
      ∀ (Ψ : Type) (clients : TryClients Ψ) (outside : Ψ),
        (PayoutReceiver.WithTtl.extendPolicyTtl deployment.policyManager
          clients env ledger policyId).Fails
          (⟨receiver, ttl.1⟩, (⟨world.policyManager, ttl.2⟩, outside))
          (.policy .policyDoesNotExist)) := by
  intro world
  have sound := deployment.sound_run invocations
  have isReceiver : deployment.IsReceiver address :=
    (sound.installed address).mp (by rw [installed]; rfl)
  constructor
  · intro policy stored kept
    constructor
    · intro Ψ clients outside
      exact deployment.keepsAlive_iff invocations installed bound here ledger
        stored ttl clients outside
    · intro Ψ certify neighbors storage agrees found
      have foundLedger : world.adapters adapter =
          some storage.leased.values := by
        rw [← agrees adapter, found]
        rfl
      rw [← adapterClients_survivable ledger certify found
        (sound.ledgers adapter _ foundLedger)
        (deployment.ledgers_indexed_run invocations adapter _ foundLedger)
        address policyId]
      constructor
      · rintro ⟨after, -, -, keeps, -⟩
        exact (deployment.keepsAlive_iff invocations installed bound here
          ledger stored ttl _ _).mp ⟨after, keeps⟩
      · intro survivable
        obtain ⟨after, storageAfter, keeps, foundAfter, values, lease,
          longer⟩ := deployment.keepsAlive_adapter invocations installed
            bound here ledger stored ttl certify agrees found survivable
        exact ⟨after, storageAfter, _, keeps, foundAfter, values, lease,
          longer, fun obligation => deployment.mem_toExtend_iff invocations
            isReceiver foundLedger⟩
  · intro missing Ψ clients outside
    have wired := sound.managed address receiver installed
    exact PayoutReceiver.WithTtl.extendPolicyTtl_fails clients ledger bound
      wired env missing ttl.1 ttl.2 outside

/-- A keeper that nobody signed, at the receiver of the worked season. -/
def seasonKeeper : Env where
  timestamp := 1753660800
  timestamp_lt := by decide
  currentContract := testnetReceiver
  authorized _ := false

/-- The ledger of that keeper, with the network maximum of about 180 days. -/
def seasonLedger : LedgerInfo where
  timestamp := 1753660800
  maxTtl := 3110400

/-- The other contracts after the worked season. -/
def seasonNeighbors : TryNeighbors PolicyNft.Storage where
  adapters address := ((seasonDeployment.run season).adapters address).map
    fun state => ⟨⟨state, fun _ => 1000⟩, []⟩
  nft := ⟨(seasonDeployment.run season).nft, fun _ => 1000⟩

/-- The deployed certificate contract ends no transaction. -/
theorem tryCertificate_survivable
    (deployment : Deployment PolicyNft.State PolicyNft.Call)
    (ledger : LedgerInfo) (address : Address) (policyId : Nat)
    (storage : PolicyNft.Storage) :
    (deployment.tryCertificate ledger address policyId).Avoids storage
      Fatal := by
  obtain ⟨requests, grants⟩ := PolicyNft.WithTtl.extendPolicyTtl_grants ledger
    storage.values policyId
  unfold tryCertificate
  split
  · have conversion : (converted (PolicyNft.WithTtl.extendPolicyTtl ledger
        policyId)).Commits storage (.ok ()) _ :=
      (grants storage.lease).bind (pure_returns _ _)
    exact conversion.avoids
  · simp [fatal_iff]

theorem keeperSurvives_season :
    ∃ receiver policy after storage,
      (seasonDeployment.run season).receivers testnetReceiver =
          some receiver ∧
        seasonDeployment.KeepsAlive (seasonDeployment.run season) receiver
          seasonKeeper seasonLedger 1 (fun _ => 1000, fun _ => 1000)
          (ttlKept (seasonDeployment.run season) receiver seasonLedger 1
            policy (fun _ => 1000, fun _ => 1000))
          (adapterClients seasonLedger
            (seasonDeployment.tryCertificate seasonLedger))
          seasonNeighbors after ∧
        after.adapters (seasonContract 2) = some storage ∧
          seasonObligation ∈ storage.extended := by
  obtain ⟨receiver, installed⟩ : ∃ receiver, (seasonDeployment.run
      season).receivers testnetReceiver = some receiver :=
    Option.isSome_iff_exists.mp (by decide +kernel)
  obtain ⟨policy, stored⟩ : ∃ policy, (seasonDeployment.run
      season).policyManager.policies 1 = some policy :=
    Option.isSome_iff_exists.mp (by decide +kernel)
  obtain ⟨state, found⟩ : ∃ state, (seasonDeployment.run
      season).adapters (seasonContract 2) = some state :=
    Option.isSome_iff_exists.mp (by decide +kernel)
  have bound : ((seasonDeployment.run season).receivers
      testnetReceiver).bind (fun receiver => receiver.settlementAdapter) =
        some (seasonContract 2) := by decide +kernel
  rw [installed, Option.bind_some] at bound
  have holds : (seasonDeployment.run season).Holds (seasonContract 2) 1
      seasonObligation :=
    World.holds_iff.mpr (by decide +kernel)
  have recorded : seasonDeployment.RecordedFor (seasonDeployment.trace season)
      testnetReceiver 1 (seasonContract 2) 1 :=
    (seasonDeployment.recordedFor_iff season
      (show (seasonDeployment.receivers testnetReceiver).isSome = true by
        decide +kernel) holds).mpr ⟨rfl, rfl⟩
  have agrees : seasonNeighbors.Agrees (seasonDeployment.run season) := by
    intro address
    simp [seasonNeighbors, Function.comp_def]
  obtain ⟨-, adapters⟩ := (keeperSurvives seasonDeployment season installed
    bound (show seasonKeeper.currentContract = testnetReceiver from rfl)
    seasonLedger 1 (fun _ => 1000, fun _ => 1000)).1 policy stored
  obtain ⟨after, storage, extended, keeps, foundAfter, -, -, longer,
    exactly⟩ :=
    (adapters PolicyNft.Storage
      (seasonDeployment.tryCertificate seasonLedger) seasonNeighbors
      ⟨⟨state, fun _ => 1000⟩, []⟩ agrees
      (by simp [seasonNeighbors, found])).mpr
        fun policyNft _ => tryCertificate_survivable _ _ policyNft 1 _
  have member : seasonObligation ∈ extended :=
    (exactly seasonObligation).mpr ⟨1, recorded, holds, by decide⟩
  exact ⟨receiver, policy, after, storage, installed, keeps, foundAfter,
    by rw [longer]; exact member⟩

/-- An adapter that exhausts the budget when it is asked for an obligation. -/
def exhaustingAdapter : TryClients Unit where
  findObligation _ _ _ := fail (.host .budgetExceeded)
  extendObligationTtl _ _ := pure (.ok ())
  extendPolicyTtl _ _ := pure (.ok ())

/-- A certificate contract that exhausts the budget when it is asked to extend
a certificate, next to an adapter that knows no obligation. -/
def exhaustingCertificate : TryClients Unit where
  findObligation _ _ _ := pure (.ok none)
  extendObligationTtl _ _ := pure (.ok ())
  extendPolicyTtl _ _ := fail (.host .budgetExceeded)

/-- Either of them blocks the keeper of a sold policy. -/
theorem keeper_exhausted :
    ∃ receiver policy,
      (seasonDeployment.run season).receivers testnetReceiver =
          some receiver ∧
        (seasonDeployment.run season).policyManager.policies 1 =
            some policy ∧
          ∀ clients ∈ [exhaustingAdapter, exhaustingCertificate],
            ∀ ttlAfter after, ¬ seasonDeployment.KeepsAlive
              (seasonDeployment.run season) receiver seasonKeeper seasonLedger
              1 (fun _ => 1000, fun _ => 1000) ttlAfter clients () after := by
  obtain ⟨receiver, installed⟩ : ∃ receiver, (seasonDeployment.run
      season).receivers testnetReceiver = some receiver :=
    Option.isSome_iff_exists.mp (by decide +kernel)
  obtain ⟨policy, stored⟩ : ∃ policy, (seasonDeployment.run
      season).policyManager.policies 1 = some policy :=
    Option.isSome_iff_exists.mp (by decide +kernel)
  obtain ⟨adapter, bound, -⟩ :=
    seasonDeployment.receiver_siblings season installed
  have wired : (seasonDeployment.run season).policyManager.policyNft =
      some (seasonContract 3) := by
    decide +kernel
  refine ⟨receiver, policy, installed, stored, ?_⟩
  intro clients exhausting ttlAfter after keeps
  obtain ⟨survivable, -⟩ := (seasonDeployment.extendPolicyTtl_commits season
    installed bound rfl seasonLedger stored (fun _ => 1000, fun _ => 1000)
    clients () _).mp keeps
  rcases List.mem_pair.mp exhausting with rfl | rfl
  · exact survivable.look _ rfl rfl
  · exact survivable.certificate _ wired _ rfl rfl

end Deployment

end Microcrop
