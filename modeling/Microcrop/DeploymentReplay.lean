import Microcrop.CertificateReplay
import Microcrop.LedgerReplay
import Microcrop.SettlementOnce

/-!
# One event stream for the whole deployment

A reader of the events of the deployment follows PolicyManager and PolicyNft
through every call that reaches them, from an account or from a PayoutReceiver
in the middle of a submission.  What the receivers and the adapters publish is
skipped.
-/

namespace Microcrop

open Transaction

/-- The events that only PolicyManager and PolicyNft publish. -/
def Event.ofRegistry : Event → Bool
  | .policyCreated .. => true
  | .policyActivated .. => true
  | .policyClaimed .. => true
  | .policyCancelled .. => true
  | .policyExpired .. => true
  | .policyNftSet .. => true
  | .policyNftUpdateSkipped .. => true
  | .claimCountIncremented .. => true
  | .policyNftMinted .. => true
  | .policyStatusUpdated .. => true
  | .policyManagerUpdated .. => true
  | .transfer .. => true
  | _ => false

/-! ## The adapters are not heard -/

namespace SettlementAdapter

variable {heard : Event → Bool}
  (foreign : ∀ event, event.ofRegistry = false → heard event = false)

include foreign

theorem recordObligation_silent (env : Env) (caller : Address)
    (policyId : Nat) (org : Address) (amount : Int)
    (determinationDigest : BytesN 32) :
    (recordObligation env caller policyId org amount
      determinationDigest).Silent heard := by
  intro before obligation after events emits
  rcases recordObligation_emits emits with ⟨-, rfl⟩ | ⟨id, -, rfl⟩
  · rfl
  · exact List.filter_cons_of_neg (ne_true_of_eq_false (foreign _ rfl))

theorem markFunded_silent (env : Env) (caller : Address) (obligationId : Nat)
    (referenceHash : BytesN 32) :
    (markFunded env caller obligationId referenceHash).Silent heard := by
  intro before obligation after events emits
  rcases markFunded_emits emits with ⟨-, rfl⟩ | ⟨marked, -, -, rfl⟩
  · rfl
  · exact List.filter_cons_of_neg (ne_true_of_eq_false (foreign _ rfl))

theorem markSettled_silent (env : Env) (caller : Address)
    (obligationId : Nat) (referenceHash : BytesN 32) :
    (markSettled env caller obligationId referenceHash).Silent heard := by
  intro before obligation after events emits
  rcases markSettled_emits emits with ⟨-, rfl⟩ | ⟨marked, -, -, rfl⟩
  · rfl
  · exact List.filter_cons_of_neg (ne_true_of_eq_false (foreign _ rfl))

theorem exec_silent (env : Env) (call : Call) :
    (exec env call).Silent heard := by
  cases call with
  | setPayoutReceiver caller payoutReceiver =>
      exact (requireRole_idle _ _ _).silent.bind fun _ =>
        (panicIf_silent _ _).bind fun _ =>
        (read_silent _).bind fun _ =>
        (modify_silent _).bind fun _ => publish_silent (foreign _ rfl)
  | grantRole caller role who =>
      exact (requireRole_idle _ _ _).silent.bind fun _ =>
        (modify_silent _).bind fun _ => publish_silent (foreign _ rfl)
  | revokeRole caller role who =>
      exact (requireRole_idle _ _ _).silent.bind fun _ =>
        (modify_silent _).bind fun _ => publish_silent (foreign _ rfl)
  | recordObligation caller policyId org amount determinationDigest =>
      exact (recordObligation_silent foreign _ _ _ _ _ _).bind
        fun _ => pure_silent _
  | markFunded caller obligationId referenceHash =>
      exact (markFunded_silent foreign _ _ _ _).bind fun _ => pure_silent _
  | markSettled caller obligationId referenceHash =>
      exact (markSettled_silent foreign _ _ _ _).bind fun _ => pure_silent _

end SettlementAdapter

/-! ## The checks of a PayoutReceiver are idle -/

section Arithmetic

variable {σ : Type}

theorem mulUnsigned_idle (width first second : Nat) :
    (mulUnsigned width first second : Contract σ Nat).Idle :=
  (panicIf_idle _ _).bind fun _ => pure_idle _

theorem divUnsigned_idle (first second : Nat) :
    (divUnsigned first second : Contract σ Nat).Idle :=
  (panicIf_idle _ _).bind fun _ => pure_idle _

theorem mulI128_idle (first second : Int) :
    (mulI128 first second : Contract σ Int).Idle :=
  (panicIf_idle _ _).bind fun _ => pure_idle _

theorem Drought.windowLoss_idle (ky rain reference : Nat) :
    (windowLoss ky rain reference : Contract σ Nat).Idle :=
  (mulUnsigned_idle _ _ _).bind fun _ =>
    (divUnsigned_idle _ _).bind fun _ =>
    (subUnsigned_idle _ _).bind fun _ =>
    (mulUnsigned_idle _ _ _).bind fun _ => pure_idle _

theorem Drought.rdiV1DroughtDamage_idle (w1 r1 w2 r2 : Nat) :
    (rdiV1DroughtDamage w1 r1 w2 r2 : Contract σ (Option Nat)).Idle := by
  unfold rdiV1DroughtDamage
  split
  · exact pure_idle _
  · exact (windowLoss_idle _ _ _).bind fun _ =>
      (windowLoss_idle _ _ _).bind fun _ =>
      (subUnsigned_idle _ _).bind fun _ =>
      (subUnsigned_idle _ _).bind fun _ =>
      (mulUnsigned_idle _ _ _).bind fun _ =>
      (subUnsigned_idle _ _).bind fun _ => pure_idle _

end Arithmetic

namespace PayoutReceiver

section Checks

variable {σ : Type}

theorem requirePayout_idle (policy : Policy) (bp : Nat) (payout : Int) :
    (requirePayout policy bp payout : Contract σ Unit).Idle :=
  (mulI128_idle _ _).bind fun _ => panicIf_idle _ _

theorem expectedBp_idle (d : CropDetermination) :
    (expectedBp d : Contract σ Nat).Idle := by
  unfold expectedBp
  split
  · exact mulUnsigned_idle _ _ _
  · exact (mulUnsigned_idle _ _ _).bind fun _ =>
      (mulUnsigned_idle _ _ _).bind fun _ => addUnsigned_idle _ _ _

theorem requireCropEvidence_idle (d : CropDetermination) :
    (requireCropEvidence d : Contract σ Unit).Idle :=
  (panicIf_idle _ _).bind fun _ =>
    (panicIf_idle _ _).bind fun _ =>
    (panicIf_idle _ _).bind fun _ =>
    (panicIf_idle _ _).bind fun _ =>
    (expectedBp_idle _).bind fun _ =>
    (panicIf_idle _ _).bind fun _ => panicIf_idle _ _

theorem requireDroughtEvidence_idle (d : DroughtDetermination) :
    (requireDroughtEvidence d : Contract σ Unit).Idle :=
  (panicIf_idle _ _).bind fun _ =>
    (panicIf_idle _ _).bind fun _ =>
    (panicIf_idle _ _).bind fun _ =>
    (mulUnsigned_idle _ _ _).bind fun _ =>
    (panicIf_idle _ _).bind fun _ =>
    (Drought.rdiV1DroughtDamage_idle _ _ _ _).bind fun _ =>
    (panicIf_idle _ _).bind fun _ => panicIf_idle _ _

theorem requireCoverWindow_idle (policy : Policy)
    (d : DroughtDetermination) :
    (requireCoverWindow policy d : Contract σ Unit).Idle :=
  (subUnsigned_idle _ _).bind fun _ =>
    (panicIf_idle _ _).bind fun _ =>
    (panicIf_idle _ _).bind fun _ => panicIf_idle _ _

theorem requireBound_idle (this : Address)
    (answer : Except Error (Option Address)) :
    (requireBound this answer : Contract σ Unit).Idle := by
  cases answer with
  | ok bound => exact panicIf_idle _ _
  | error error => exact fail_idle _

end Checks

theorem beginSubmission_idle (env : Env) (caller : Address)
    (kind : MethodologyKind) : (beginSubmission env caller kind).Idle :=
  (requireRole_idle _ _ _).bind fun _ =>
    (read_idle _).bind fun _ =>
    (panicIf_idle _ _).bind fun _ =>
    (read_idle _).bind fun _ =>
    (unwrapOr_idle _ _).bind fun _ =>
    (read_idle _).bind fun _ =>
    (panicIf_idle _ _).bind fun _ => pure_idle _

theorem siblings_idle : siblings.Idle :=
  (read_idle _).bind fun _ =>
    (unwrapOr_idle _ _).bind fun _ =>
    (read_idle _).bind fun _ =>
    (unwrapOr_idle _ _).bind fun _ => pure_idle _

theorem networkDomain_idle : networkDomain.Idle :=
  (read_idle _).bind fun _ => unwrapOr_idle _ _

theorem requireUnconsumedAndSigned_idle (crypto : Crypto)
    (digest : BytesN 32) (signature : BytesN 64) (recoveryId : U32)
    (authorizedSigner : BytesN 65) :
    (requireUnconsumedAndSigned crypto digest signature recoveryId
      authorizedSigner).Idle :=
  (read_idle _).bind fun _ =>
    (panicIf_idle _ _).bind fun _ =>
    (unwrapOr_idle _ _).bind fun _ => panicIf_idle _ _

end PayoutReceiver

/-! ## Following a view of PolicyManager and the certificates -/

namespace Deployment

variable {Ω κ μ : Type}

/-- A reader who follows the calls of PolicyManager and those of the
certificate contract, and hears nothing else. -/
structure Reader (deployment : Deployment Ω κ) (absorb : μ → Event → μ)
    (heard : Event → Bool) (Invariant : PolicyManager.State × Ω → Prop)
    (view : PolicyManager.State × Ω → μ) : Prop where
  skips : ∀ known event, heard event = false → absorb known event = known
  foreign : ∀ event : Event, event.ofRegistry = false → heard event = false
  manager : ∀ env call, (PolicyManager.exec deployment.certificates.client
    env call).Follows Invariant absorb view
  nft : ∀ env call, (external (deployment.certificates.exec env call) :
    Contract (PolicyManager.State × Ω) Unit).Follows Invariant absorb view

/-- What the reader follows, as part of the neighbors of a receiver. -/
def registryOf (neighbors : Neighbors Ω) : PolicyManager.State × Ω :=
  (neighbors.policyManager, neighbors.nft)

section Reader

variable {deployment : Deployment Ω κ} {absorb : μ → Event → μ}
  {heard : Event → Bool} {Invariant : PolicyManager.State × Ω → Prop}
  {view : PolicyManager.State × Ω → μ}

theorem onManager_follows {α : Type}
    {program : Contract (PolicyManager.State × Ω) α}
    (follows : program.Follows Invariant absorb view) :
    (onManager program).Follows (fun neighbors =>
      Invariant (registryOf neighbors)) absorb fun neighbors =>
        view (registryOf neighbors) := by
  apply follows.zoom
  · rintro neighbors component ⟨⟩ invariant
    exact ⟨invariant, rfl⟩
  · rintro neighbors component changed - - invariant
    exact ⟨invariant, rfl⟩

theorem onManager_idle {α : Type}
    {program : Contract (PolicyManager.State × Ω) α} (idle : program.Idle) :
    (onManager program).Idle := by
  apply idle.zoom
  rintro neighbors component ⟨⟩
  rfl

/-- Code of the certificate contract is code next to PolicyManager. -/
theorem onNft_eq {α : Type} (program : Contract Ω α) :
    (onNft program : Contract (Neighbors Ω) α) =
      onManager (external program) := by
  funext neighbors
  unfold onNft onManager external zoom
  dsimp only
  cases program neighbors.nft <;> rfl

variable (reader : deployment.Reader absorb heard Invariant view)

include reader

theorem onAdapter_follows {α : Type} (address : Address)
    {program : Contract SettlementAdapter.State α}
    (silent : program.Silent heard) :
    (onAdapter address program).Follows (fun neighbors : Neighbors Ω =>
      Invariant (registryOf neighbors)) absorb fun neighbors =>
        view (registryOf neighbors) :=
  silent.follows_zoom reader.skips
    fun _ _ invariant => ⟨invariant, rfl⟩

/-- The reader's judgment for the code of a receiver. -/
def FollowsReceiver {α : Type} (Invariant : PolicyManager.State × Ω → Prop)
    (absorb : μ → Event → μ) (view : PolicyManager.State × Ω → μ)
    (program : Contract (PayoutReceiver.State × Neighbors Ω) α) : Prop :=
  program.Follows (fun both => Invariant (registryOf both.2)) absorb
    fun both => view (registryOf both.2)

theorem internal_followsReceiver {α : Type}
    {program : Contract PayoutReceiver.State α}
    (silent : program.Silent heard) :
    FollowsReceiver Invariant absorb view (internal program) :=
  silent.follows_zoom reader.skips
    fun _ _ invariant => ⟨invariant, rfl⟩

omit reader in
theorem external_followsReceiver {α : Type}
    {program : Contract (Neighbors Ω) α}
    (follows : program.Follows (fun neighbors =>
      Invariant (registryOf neighbors)) absorb fun neighbors =>
        view (registryOf neighbors)) :
    FollowsReceiver Invariant absorb view (external program) := by
  apply follows.zoom
  · rintro whole component ⟨⟩ invariant
    exact ⟨invariant, rfl⟩
  · rintro whole component changed - - invariant
    exact ⟨invariant, rfl⟩

end Reader

/-! ## The calls of a receiver -/

section Clients

variable (deployment : Deployment Ω κ)

theorem policyExists_idle (env : Env) (policyId : Nat) :
    ((deployment.managerClient env).policyExists policyId).Idle := by
  unfold managerClient
  split
  · dsimp only
    exact onManager_idle (read_idle _).internal
  · exact fail_idle _

theorem getPolicy_idle (env : Env) (policyId : Nat) :
    ((deployment.managerClient env).getPolicy policyId).Idle := by
  unfold managerClient
  split
  · exact onManager_idle (PolicyManager.loadPolicy_idle policyId).internal
  · exact fail_idle _

theorem canFarmerClaim_idle (env : Env) (farmer : Address) :
    ((deployment.managerClient env).canFarmerClaim farmer).Idle := by
  unfold managerClient
  split
  · dsimp only
    exact onManager_idle (read_idle _).internal
  · exact fail_idle _

theorem payoutReceiver_idle (env : Env) :
    ((adapterClient env).payoutReceiver :
      Contract (Neighbors Ω) (Option Address)).Idle := by
  change (onAdapter env.currentContract
    (read SettlementAdapter.State.payoutReceiver)).Idle
  apply Idle.zoom (read_idle _)
  intro neighbors ledger found
  have stored := (findContract_eq_ok _ _ _).mp found
  change { neighbors with adapters := Function.update _ _ _ } = neighbors
  rw [← stored, Function.update_eq_self]

theorem openPolicy_idle (env : Env) (policyManager : Address)
    (policyId : Nat) :
    (PayoutReceiver.openPolicy deployment.managerClient env policyManager
      policyId).Idle :=
  (deployment.policyExists_idle _ _).external.bind fun _ =>
    (panicIf_idle _ _).bind fun _ =>
    (deployment.getPolicy_idle _ _).external.bind fun _ =>
    (panicIf_idle _ _).bind fun _ =>
    (panicIf_idle _ _).bind fun _ =>
    (read_idle _).internal.bind fun _ =>
    (panicIf_idle _ _).bind fun _ => pure_idle _

theorem requireFreshAndClaimable_idle (env : Env) (policyManager : Address)
    (policy : Policy) (assessedAt : Nat) :
    (PayoutReceiver.requireFreshAndClaimable deployment.managerClient env
      policyManager policy assessedAt).Idle :=
  (panicIf_idle _ _).bind fun _ =>
    (panicIf_idle _ _).bind fun _ =>
    (deployment.canFarmerClaim_idle _ _).external.bind
      fun _ => panicIf_idle _ _

end Clients

section Receiver

variable {deployment : Deployment Ω κ} {absorb : μ → Event → μ}
  {heard : Event → Bool} {Invariant : PolicyManager.State × Ω → Prop}
  {view : PolicyManager.State × Ω → μ}
  (reader : deployment.Reader absorb heard Invariant view)

include reader

theorem markAsClaimed_follows (env : Env) (caller : Address)
    (policyId : Nat) :
    ((deployment.managerClient env).markAsClaimed caller policyId).Follows
      (fun neighbors => Invariant (registryOf neighbors)) absorb
        fun neighbors => view (registryOf neighbors) := by
  unfold managerClient
  split
  · exact onManager_follows
      (reader.manager env (.markAsClaimed caller policyId))
  · exact (fail_idle _).follows

theorem incrementClaimCount_follows (env : Env) (caller farmer : Address) :
    ((deployment.managerClient env).incrementClaimCount caller
      farmer).Follows
      (fun neighbors => Invariant (registryOf neighbors)) absorb
        fun neighbors => view (registryOf neighbors) := by
  unfold managerClient
  split
  · exact onManager_follows
      (reader.manager env (.incrementClaimCount caller farmer))
  · exact (fail_idle _).follows

/-- The two calls to PolicyManager are all that the reader hears of a verified
submission. -/
theorem settleVerified_follows (env : Env) (policyManager adapter : Address)
    (policy : Policy) (report : DamageReport) (digest : BytesN 32) :
    FollowsReceiver Invariant absorb view
      (PayoutReceiver.settleVerified deployment.managerClient adapterClient
        env policyManager adapter policy report digest) := by
  have unheard : ∀ event : Event, event.ofRegistry = false →
      FollowsReceiver Invariant absorb view (publish event) :=
    fun event other => publish_follows reader.skips (reader.foreign _ other)
  apply (internal_followsReceiver reader (modify_silent _)).bind
  intro _
  apply (external_followsReceiver (onAdapter_follows reader _
    (SettlementAdapter.recordObligation_silent reader.foreign _ _ _ _ _
      _))).bind
  intro obligation
  apply (panicIf_idle _ _).follows.bind
  intro _
  apply (external_followsReceiver (markAsClaimed_follows reader _ _ _)).bind
  intro _
  apply (external_followsReceiver
    (incrementClaimCount_follows reader _ _ _)).bind
  intro _
  apply (unheard _ rfl).bind
  intro _
  apply (unheard _ rfl).bind
  intro _
  exact unheard _ rfl

theorem submitDetermination_follows (env : Env) (caller : Address)
    (d : CropDetermination) (signature : BytesN 64) (recoveryId : U32) :
    FollowsReceiver Invariant absorb view
      (PayoutReceiver.submitDetermination deployment.crypto
        deployment.managerClient adapterClient env caller d signature
          recoveryId) :=
  (PayoutReceiver.beginSubmission_idle _ _ _).internal.follows.bind fun _ =>
    (PayoutReceiver.requireCropEvidence_idle _).follows.bind fun _ =>
    PayoutReceiver.siblings_idle.internal.follows.bind fun _ =>
    (deployment.openPolicy_idle _ _ _).follows.bind fun _ =>
    (panicIf_idle _ _).follows.bind fun _ =>
    (panicIf_idle _ _).follows.bind fun _ =>
    (panicIf_idle _ _).follows.bind fun _ =>
    (PayoutReceiver.requirePayout_idle _ _ _).follows.bind fun _ =>
    (deployment.requireFreshAndClaimable_idle _ _ _ _).follows.bind fun _ =>
    PayoutReceiver.networkDomain_idle.internal.follows.bind fun _ =>
    (PayoutReceiver.requireUnconsumedAndSigned_idle _ _ _ _
      _).internal.follows.bind fun _ =>
    settleVerified_follows reader _ _ _ _ _ _

theorem submitDroughtDetermination_follows (env : Env) (caller : Address)
    (d : DroughtDetermination) (signature : BytesN 64) (recoveryId : U32) :
    FollowsReceiver Invariant absorb view
      (PayoutReceiver.submitDroughtDetermination deployment.crypto
        deployment.managerClient adapterClient env caller d signature
          recoveryId) :=
  (PayoutReceiver.beginSubmission_idle _ _ _).internal.follows.bind fun _ =>
    (PayoutReceiver.requireDroughtEvidence_idle _).follows.bind fun _ =>
    PayoutReceiver.siblings_idle.internal.follows.bind fun _ =>
    (deployment.openPolicy_idle _ _ _).follows.bind fun _ =>
    (panicIf_idle _ _).follows.bind fun _ =>
    (panicIf_idle _ _).follows.bind fun _ =>
    (panicIf_idle _ _).follows.bind fun _ =>
    (PayoutReceiver.requireCoverWindow_idle _ _).follows.bind fun _ =>
    (PayoutReceiver.requirePayout_idle _ _ _).follows.bind fun _ =>
    (deployment.requireFreshAndClaimable_idle _ _ _ _).follows.bind fun _ =>
    PayoutReceiver.networkDomain_idle.internal.follows.bind fun _ =>
    (PayoutReceiver.requireUnconsumedAndSigned_idle _ _ _ _
      _).internal.follows.bind fun _ =>
    (publish_follows reader.skips (reader.foreign _ rfl)).bind fun _ =>
    settleVerified_follows reader _ _ _ _ _ _

theorem setSettlementAdapter_follows (env : Env)
    (caller adapter : Address) :
    FollowsReceiver Invariant absorb view
      (PayoutReceiver.setSettlementAdapter adapterClient env caller
        adapter) := by
  apply (requireRole_idle _ _ _).internal.follows.bind fun _ =>
    (panicIf_idle _ _).follows.bind fun _ =>
    (payoutReceiver_idle _).external.attempt.follows.bind fun _ =>
    (PayoutReceiver.requireBound_idle _ _).follows.bind fun _ =>
    (read_idle _).internal.follows.bind fun _ =>
    (unwrapOr_idle _ _).follows.bind fun _ =>
    (internal_followsReceiver reader (modify_silent _)).bind fun _ => ?_
  exact publish_follows reader.skips (reader.foreign _ rfl)

/-- A receiver changes nothing that the reader follows but by calling
PolicyManager. -/
theorem receiver_follows (env : Env) (call : PayoutReceiver.Call) :
    FollowsReceiver Invariant absorb view
      (PayoutReceiver.exec deployment.crypto deployment.managerClient
        adapterClient env call) := by
  have unheard : ∀ event : Event, event.ofRegistry = false →
      (publish event : Contract PayoutReceiver.State Unit).Silent heard :=
    fun event other => publish_silent (reader.foreign event other)
  cases call with
  | setAuthorizedSigner caller pubkey =>
      exact internal_followsReceiver reader
        ((requireRole_idle _ _ _).silent.bind fun _ =>
          (modify_silent _).bind fun _ => unheard _ rfl)
  | setNetworkDomain caller domain =>
      exact internal_followsReceiver reader
        ((requireRole_idle _ _ _).silent.bind fun _ => modify_silent _)
  | setSettlementAdapter caller adapter =>
      exact setSettlementAdapter_follows reader env caller adapter
  | grantRole caller role who =>
      exact internal_followsReceiver reader
        ((requireRole_idle _ _ _).silent.bind fun _ => modify_silent _)
  | revokeRole caller role who =>
      exact internal_followsReceiver reader
        ((requireRole_idle _ _ _).silent.bind fun _ => modify_silent _)
  | pause caller =>
      exact internal_followsReceiver reader
        ((requireRole_idle _ _ _).silent.bind fun _ => modify_silent _)
  | unpause caller =>
      exact internal_followsReceiver reader
        ((requireRole_idle _ _ _).silent.bind fun _ => modify_silent _)
  | setMethodologyEnabled caller kind enabled =>
      exact internal_followsReceiver reader
        ((requireRole_idle _ _ _).silent.bind fun _ =>
          (modify_silent _).bind fun _ => unheard _ rfl)
  | submitDetermination caller d signature recoveryId =>
      exact submitDetermination_follows reader env caller d signature
        recoveryId
  | submitDroughtDetermination caller d signature recoveryId =>
      exact submitDroughtDetermination_follows reader env caller d signature
        recoveryId

end Receiver

/-! ## Every run -/

section Run

variable {deployment : Deployment Ω κ} {absorb : μ → Event → μ}
  {heard : Event → Bool} {Invariant : PolicyManager.State × Ω → Prop}
  {view : PolicyManager.State × Ω → μ}

theorem onNeighbors_follows {α : Type} {program : Contract (Neighbors Ω) α}
    (follows : program.Follows (fun neighbors =>
      Invariant (registryOf neighbors)) absorb fun neighbors =>
        view (registryOf neighbors)) :
    (onNeighbors program).Follows (fun world : World Ω =>
      Invariant (registryOf world.toNeighbors)) absorb fun world =>
        view (registryOf world.toNeighbors) := by
  apply follows.zoom
  · rintro world component ⟨⟩ invariant
    exact ⟨invariant, rfl⟩
  · rintro world component changed - - invariant
    exact ⟨invariant, rfl⟩

theorem onReceiver_follows {α : Type} (address : Address)
    {program : Contract (PayoutReceiver.State × Neighbors Ω) α}
    (follows : FollowsReceiver Invariant absorb view program) :
    (onReceiver address program).Follows (fun world : World Ω =>
      Invariant (registryOf world.toNeighbors)) absorb fun world =>
        view (registryOf world.toNeighbors) := by
  apply follows.zoom
  · intro world component found invariant
    cases installed : world.receivers address with
    | none => simp [findContract, installed] at found
    | some state =>
        simp only [findContract, installed, Except.ok.injEq] at found
        rw [← found]
        exact ⟨invariant, rfl⟩
  · rintro world component changed - - invariant
    exact ⟨invariant, rfl⟩

variable (reader : deployment.Reader absorb heard Invariant view)

include reader

theorem exec_follows (invocation : Invocation κ) :
    (deployment.exec invocation).Follows (fun world =>
      Invariant (registryOf world.toNeighbors)) absorb fun world =>
        view (registryOf world.toNeighbors) := by
  obtain ⟨timestamp, signers, call⟩ := invocation
  cases call with
  | policyManager call =>
      exact onNeighbors_follows (onManager_follows (reader.manager _ call))
  | receiver address call =>
      exact onReceiver_follows address (receiver_follows reader _ call)
  | adapter address call =>
      exact onNeighbors_follows (onAdapter_follows reader address
        (SettlementAdapter.exec_silent reader.foreign _ call))
  | nft call =>
      have follows := onManager_follows (reader.nft
        (deployment.env ⟨timestamp, signers, .nft call⟩) call)
      rw [← onNft_eq] at follows
      exact onNeighbors_follows follows
  | expireMarker address preimageHash =>
      exact onReceiver_follows address
        (internal_followsReceiver reader (modify_silent _))

end Run

/-- Everything that the contracts of the deployment published, oldest
first. -/
def eventLog (deployment : Deployment Ω κ)
    (invocations : List (Invocation κ)) : List Event :=
  Replay.log deployment.apply
    (fun world invocation => (deployment.exec invocation).published world)
    deployment.genesis invocations

theorem Reader.replays {deployment : Deployment Ω κ}
    {absorb : μ → Event → μ} {heard : Event → Bool}
    {Invariant : PolicyManager.State × Ω → Prop}
    {view : PolicyManager.State × Ω → μ}
    (reader : deployment.Reader absorb heard Invariant view)
    (start : Invariant (registryOf deployment.genesis.toNeighbors))
    (invocations : List (Invocation κ)) :
    (deployment.eventLog invocations).foldl absorb
        (view (registryOf deployment.genesis.toNeighbors)) =
      view (registryOf (deployment.run invocations).toNeighbors) := by
  have follows : ∀ world invocation,
      Invariant (registryOf world.toNeighbors) →
        Invariant (registryOf
            (deployment.apply world invocation).toNeighbors) ∧
          ((deployment.exec invocation).published world).foldl absorb
              (view (registryOf world.toNeighbors)) =
            view (registryOf
              (deployment.apply world invocation).toNeighbors) :=
    fun _ invocation invariant =>
      (exec_follows reader invocation).published invariant
  exact Replay.foldl_log follows invocations start

/-- What the log says of PolicyManager. -/
def knownRegistry (deployment : Deployment Ω κ)
    (invocations : List (Invocation κ)) : PolicyManager.Registry :=
  (deployment.eventLog invocations).foldl PolicyManager.Registry.absorb
    (PolicyManager.constructor deployment.admin).registry

/-- While the certificate contract publishes no event of PolicyManager, the
log of the deployment determines the registry: every policy up to its
coordinates and organisation, the index and the claim times of every farmer,
the certificate contract, and, by counting, both slot counters. -/
theorem registryReplay (deployment : Deployment Ω κ)
    (silentClient : PolicyManager.SilentNft PolicyManager.Registry.heard
      deployment.certificates.client)
    (silentCalls : ∀ env call, (deployment.certificates.exec env call).Silent
      PolicyManager.Registry.heard)
    (invocations : List (Invocation κ)) :
    deployment.knownRegistry invocations =
        (deployment.run invocations).policyManager.registry ∧
      ∀ farmer,
        (deployment.knownRegistry invocations).policiesWith .active farmer =
            (deployment.run invocations).policyManager.farmerActiveCount
              farmer ∧
          (deployment.knownRegistry invocations).policiesWith .pending
              farmer =
            (deployment.run invocations).policyManager.farmerPendingCount
              farmer := by
  have reader : deployment.Reader PolicyManager.Registry.absorb
      PolicyManager.Registry.heard (fun both => both.1.Accounted)
      (fun both => both.1.registry) :=
    { skips := PolicyManager.Registry.skips
      foreign := by
        intro event other
        cases event <;> first | rfl | cases other
      manager := fun env call =>
        PolicyManager.exec_follows silentClient env call
      nft := fun env call => (silentCalls env call).follows_zoom
        PolicyManager.Registry.skips
          fun _ _ invariant => ⟨invariant, rfl⟩ }
  have known : deployment.knownRegistry invocations =
      (deployment.run invocations).policyManager.registry :=
    reader.replays (PolicyManager.accounted_constructor deployment.admin)
      invocations
  have accounted := (deployment.sound_run invocations).accounted
  refine ⟨known, fun farmer => ?_⟩
  rw [known, PolicyManager.registry_policiesWith,
    PolicyManager.registry_policiesWith]
  exact ⟨(accounted.active farmer).symm, (accounted.pending farmer).symm⟩

theorem registryReplay_season :
    ((seasonDeployment.knownRegistry season).policies 1).map
        AnnouncedPolicy.status = some .claimed ∧
      seasonDeployment.knownRegistry season =
        (seasonDeployment.run season).policyManager.registry :=
  ⟨by decide +kernel, (registryReplay seasonDeployment
    (PolicyNft.clientAt_silent PolicyNft.Register.unheard_by_registry _)
    (PolicyNft.exec_silent PolicyNft.Register.unheard_by_registry)
    season).1⟩

/-- What the log says of PolicyNft. -/
def knownRegister (deployment : Deployment PolicyNft.State PolicyNft.Call)
    (invocations : List (Invocation PolicyNft.Call)) : PolicyNft.Register :=
  (deployment.eventLog invocations).foldl PolicyNft.Register.absorb
    deployment.certificates.genesis.register

/-- The log of the deployment determines every certificate up to the data
that no event carries, every owner, the index of every distributor and the
stored PolicyManager, whether the calls came from PolicyManager or not. -/
theorem certificateReplay
    (deployment : Deployment PolicyNft.State PolicyNft.Call)
    (address admin : Address)
    (pinned : deployment.certificates = PolicyNft.certificates address admin)
    (invocations : List (Invocation PolicyNft.Call)) :
    deployment.knownRegister invocations =
      (deployment.run invocations).nft.register := by
  have reader : deployment.Reader PolicyNft.Register.absorb
      PolicyNft.Register.heard (fun _ => True)
      (fun both => both.2.register) := by
    constructor
    · exact PolicyNft.Register.skips
    · intro event other
      cases event <;> first | rfl | cases other
    · intro env call
      rw [pinned]
      exact PolicyManager.exec_followsRegister
        (PolicyNft.clientAt_followed address) env call
    · intro env call
      rw [pinned]
      exact PolicyManager.external_followsRegister
        (PolicyNft.exec_follows env call)
  exact reader.replays trivial invocations

theorem certificateReplay_season :
    (seasonDeployment.knownRegister season).owners 1 =
        some (PolicyManager.seasonAddress 4) ∧
      seasonDeployment.knownRegister season =
        (seasonDeployment.run season).nft.register :=
  ⟨by decide +kernel, certificateReplay seasonDeployment (seasonContract 3)
    seasonDeployment.admin rfl season⟩

end Deployment

end Microcrop
