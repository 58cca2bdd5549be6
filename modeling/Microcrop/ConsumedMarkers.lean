import Microcrop.DeploymentReplay
import Microcrop.DigestBinding
import Microcrop.Lockstep

/-!
# The markers of consumed determinations decide nothing

A PayoutReceiver marks the digest of an accepted determination in temporary
storage, which the ledger drops after a while.  The policy of a marked digest
is paid, and a submission is refused for a paid policy before the marker is
read.  Where the digests do not collide, the system therefore behaves alike
whichever markers the ledger dropped.
-/

namespace Microcrop

open Transaction

namespace PayoutReceiver

/-- The two states differ in their markers only, and what either has marked is
the digest of a paid policy. -/
structure Twins (Spent : BytesN 32 → Nat → Prop) (first second : State) :
    Prop where
  same : second =
    { first with consumedDetermination := second.consumedDetermination }
  paid : ∀ digest, (first.consumedDetermination digest).isSome = true ∨
    (second.consumedDetermination digest).isSome = true →
      ∃ policyId, Spent digest policyId ∧ first.isPolicyPaid policyId = true

/-- The write neither reads nor writes the markers, and pays no policy. -/
structure WritesBeside (update : State → State) : Prop where
  beside : ∀ state consumed,
    update { state with consumedDetermination := consumed } =
      { update state with consumedDetermination := consumed }
  markers : ∀ state, (update state).consumedDetermination =
    state.consumedDetermination
  payments : ∀ state, (update state).policyPaid = state.policyPaid

variable {Spent : BytesN 32 → Nat → Prop}

section Views

variable {first second : State} (twins : Twins Spent first second)

include twins

theorem Twins.roles_eq : first.roles = second.roles := by
  rw [twins.same]

/-- Writes beside the markers keep the states together. -/
theorem Twins.write {update : State → State}
    (writesBeside : WritesBeside update) :
    Twins Spent (update first) (update second) where
  same := by
    rw [writesBeside.markers]
    conv_lhs => rw [twins.same, writesBeside.beside]
  paid digest marked := by
    rw [writesBeside.markers, writesBeside.markers] at marked
    obtain ⟨policyId, spent, paid⟩ := twins.paid digest marked
    refine ⟨policyId, spent, ?_⟩
    unfold State.isPolicyPaid at paid ⊢
    rw [writesBeside.payments]
    exact paid

/-- A verified submission marks its digest and pays its policy on both
sides. -/
theorem Twins.recordVerified (report : DamageReport) {digest : BytesN 32}
    (spent : Spent digest report.policyId) :
    Twins Spent (first.recordVerified report digest)
      (second.recordVerified report digest) where
  same := by
    conv_lhs => rw [twins.same]
    rfl
  paid other marked := by
    by_cases new : other = digest
    · refine ⟨report.policyId, new ▸ spent, ?_⟩
      rw [isPolicyPaid_recordVerified, if_pos rfl]
    · rw [State.recordVerified_consumedDetermination,
        State.recordVerified_consumedDetermination,
        Function.update_of_ne new, Function.update_of_ne new] at marked
      obtain ⟨policyId, spentOther, paid⟩ := twins.paid other marked
      refine ⟨policyId, spentOther, ?_⟩
      rw [isPolicyPaid_recordVerified]
      split
      · rfl
      · exact paid

/-- The ledger drops a marker on one side. -/
theorem Twins.expireMarker (digest : BytesN 32) :
    Twins Spent (first.expireMarker digest) second where
  same := twins.same
  paid other marked := by
    apply twins.paid other
    rcases marked with marked | marked
    · by_cases here : other = digest
      · rw [State.expireMarker_consumedDetermination, here,
          Function.update_self] at marked
        cases marked
      · rw [State.expireMarker_consumedDetermination,
          Function.update_of_ne here] at marked
        exact Or.inl marked
    · exact Or.inr marked

end Views

/-! ## The pure checks of a submission -/

section Checks

variable {σ : Type}

theorem mulUnsigned_isCheck (width first second : Nat) :
    (mulUnsigned width first second : Contract σ Nat).IsCheck :=
  (panicIf_isCheck _ _).bind fun _ => pure_isCheck _

theorem addUnsigned_isCheck (width first second : Nat) :
    (addUnsigned width first second : Contract σ Nat).IsCheck :=
  (panicIf_isCheck _ _).bind fun _ => pure_isCheck _

theorem subUnsigned_isCheck (first second : Nat) :
    (subUnsigned first second : Contract σ Nat).IsCheck :=
  (panicIf_isCheck _ _).bind fun _ => pure_isCheck _

theorem divUnsigned_isCheck (first second : Nat) :
    (divUnsigned first second : Contract σ Nat).IsCheck :=
  (panicIf_isCheck _ _).bind fun _ => pure_isCheck _

theorem windowLoss_isCheck (ky rain reference : Nat) :
    (Drought.windowLoss ky rain reference : Contract σ Nat).IsCheck := by
  apply (mulUnsigned_isCheck _ _ _).bind
  intro scaled
  apply (divUnsigned_isCheck _ _).bind
  intro ratio
  apply (subUnsigned_isCheck _ _).bind
  intro deficit
  apply (mulUnsigned_isCheck _ _ _).bind
  intro weighted
  exact pure_isCheck _

theorem rdiV1DroughtDamage_isCheck (w1 r1 w2 r2 : Nat) :
    (Drought.rdiV1DroughtDamage w1 r1 w2 r2 :
      Contract σ (Option Nat)).IsCheck := by
  unfold Drought.rdiV1DroughtDamage
  split
  · exact pure_isCheck none
  · apply (windowLoss_isCheck _ _ _).bind
    intro loss1
    apply (windowLoss_isCheck _ _ _).bind
    intro loss2
    apply (subUnsigned_isCheck _ _).bind
    intro kept1
    apply (subUnsigned_isCheck _ _).bind
    intro kept2
    apply (mulUnsigned_isCheck _ _ _).bind
    intro product
    apply (subUnsigned_isCheck _ _).bind
    intro damage
    exact pure_isCheck _

theorem requirePlot_isCheck (policy : Policy) (latE6 lonE6 : Int) :
    (requirePlot policy latE6 lonE6 : Contract σ Unit).IsCheck :=
  panicIf_isCheck _ _

theorem requirePayout_isCheck (policy : Policy) (bp : Nat) (payout : Int) :
    (requirePayout policy bp payout : Contract σ Unit).IsCheck := by
  apply IsCheck.bind ((panicIf_isCheck _ _).bind fun _ => pure_isCheck _)
  intro product
  exact panicIf_isCheck _ _

theorem expectedBp_isCheck (d : CropDetermination) :
    (expectedBp d : Contract σ Nat).IsCheck := by
  unfold expectedBp
  split
  · exact mulUnsigned_isCheck _ _ _
  · apply (mulUnsigned_isCheck _ _ _).bind
    intro weather
    apply (mulUnsigned_isCheck _ _ _).bind
    intro satellite
    exact addUnsigned_isCheck _ _ _

theorem requireCropEvidence_isCheck (d : CropDetermination) :
    (requireCropEvidence d : Contract σ Unit).IsCheck := by
  apply (panicIf_isCheck _ _).bind
  intro _
  apply (panicIf_isCheck _ _).bind
  intro _
  apply (panicIf_isCheck _ _).bind
  intro _
  apply (panicIf_isCheck _ _).bind
  intro _
  apply (expectedBp_isCheck d).bind
  intro expected
  apply (panicIf_isCheck _ _).bind
  intro _
  exact panicIf_isCheck _ _

theorem requireDroughtEvidence_isCheck (d : DroughtDetermination) :
    (requireDroughtEvidence d : Contract σ Unit).IsCheck := by
  apply (panicIf_isCheck _ _).bind
  intro _
  apply (panicIf_isCheck _ _).bind
  intro _
  apply (panicIf_isCheck _ _).bind
  intro _
  apply (mulUnsigned_isCheck _ _ _).bind
  intro bp
  apply (panicIf_isCheck _ _).bind
  intro _
  apply (rdiV1DroughtDamage_isCheck _ _ _ _).bind
  intro recomputed
  apply (panicIf_isCheck _ _).bind
  intro _
  exact panicIf_isCheck _ _

theorem requireCoverWindow_isCheck (policy : Policy)
    (d : DroughtDetermination) :
    (requireCoverWindow policy d : Contract σ Unit).IsCheck := by
  apply (subUnsigned_isCheck _ _).bind
  intro startDay
  apply (panicIf_isCheck _ _).bind
  intro _
  apply (panicIf_isCheck _ _).bind
  intro _
  exact panicIf_isCheck _ _

end Checks

/-! ## Programs that do not read the markers -/

section Programs

variable {Pre : State → State → Prop}
  (twins : ∀ first second, Pre first second → Twins Spent first second)

include twins

theorem read_twins {α : Type} (view : State → α)
    (beside : ∀ state consumed,
      view { state with consumedDetermination := consumed } = view state) :
    Lockstep Pre (read view : Contract State α) (read view)
      fun value first second => Pre first second ∧ value = view first := by
  apply read_lockstep
  intro first second related
  have equal : view second = view first :=
    (congrArg view (twins first second related).same).trans (beside first _)
  exact ⟨equal.symm, related, rfl⟩

theorem view_twins {α : Type} (view : State → α)
    (beside : ∀ state consumed,
      view { state with consumedDetermination := consumed } = view state) :
    Lockstep Pre (read view : Contract State α) (read view) fun _ => Pre :=
  (read_twins twins view beside).weaken (fun _ _ => id)
    fun _ _ _ known => known.1

theorem requireRole_twins (env : Env) (caller : Address) (role : Role) :
    Lockstep Pre (requireRole env caller role) (requireRole env caller role)
      fun _ => Pre := by
  apply Lockstep.bind ((panicIf_isCheck _ _).lockstep Pre)
  intro _
  apply Lockstep.bind (read_twins twins _ fun _ _ => rfl)
  intro held
  exact (panicIf_lockstep _ _).weaken (fun _ _ => id)
    fun _ _ _ known => known.1.1

theorem beginSubmission_twins (env : Env) (caller : Address)
    (kind : MethodologyKind) :
    Lockstep Pre (beginSubmission env caller kind)
      (beginSubmission env caller kind) fun _ => Pre := by
  apply Lockstep.bind (requireRole_twins twins env caller .relayer)
  intro _
  apply Lockstep.bind (view_twins twins State.isPaused fun _ _ => rfl)
  intro paused
  apply Lockstep.bind ((panicIf_isCheck _ _).lockstep Pre)
  intro _
  apply Lockstep.bind (view_twins twins State.authorizedSigner fun _ _ => rfl)
  intro configured
  apply Lockstep.bind ((unwrapOr_isCheck _ _).lockstep Pre)
  intro signer
  apply Lockstep.bind (view_twins twins (fun state => state.isMethodologyEnabled kind)
    fun _ _ => rfl)
  intro enabled
  apply Lockstep.bind ((panicIf_isCheck _ _).lockstep Pre)
  intro _
  exact pure_lockstep signer fun _ _ related => related

theorem siblings_twins :
    Lockstep Pre siblings siblings fun _ => Pre := by
  apply Lockstep.bind (view_twins twins State.settlementAdapter fun _ _ => rfl)
  intro storedAdapter
  apply Lockstep.bind ((unwrapOr_isCheck _ _).lockstep Pre)
  intro adapter
  apply Lockstep.bind (view_twins twins State.policyManager fun _ _ => rfl)
  intro storedManager
  apply Lockstep.bind ((unwrapOr_isCheck _ _).lockstep Pre)
  intro policyManager
  exact pure_lockstep _ fun _ _ related => related

theorem networkDomain_twins :
    Lockstep Pre networkDomain networkDomain fun domain first second =>
      Pre first second ∧ first.networkDomain = some domain := by
  apply Lockstep.bind (read_twins twins State.networkDomain fun _ _ => rfl)
  intro stored
  exact (unwrapOr_lockstep stored _).weaken (fun _ _ => id)
    fun _ _ _ known => ⟨known.1.1, known.1.2.symm.trans known.2⟩

end Programs

section Submission

variable {Ω : Type} (crypto : Crypto) (pm : Env → PolicyManagerClient Ω)
  (adapters : Env → SettlementAdapterClient Ω) (env : Env)

/-- Related states beside the same contracts. -/
def Beside (Related : State → State → Prop) (first second : State × Ω) :
    Prop :=
  Related first.1 second.1 ∧ first.2 = second.2

variable {Related : State → State → Prop}

theorem Beside.internal {α : Type} {Final : α → State → State → Prop}
    {program : Contract State α}
    (lockstep : Lockstep Related program program Final) :
    Lockstep (Beside (Ω := Ω) Related) (internal program) (internal program)
      fun value => Beside (Final value) :=
  Lockstep.internal lockstep

theorem Beside.external {α : Type} (program : Contract Ω α) :
    Lockstep (Beside Related) (external program) (external program)
      fun _ => Beside Related :=
  external_lockstep Related program

theorem Beside.panicIf (condition : Prop) [Decidable condition]
    (error : Error) :
    Lockstep (Beside Related)
      (panicIf condition error : Contract (State × Ω) Unit)
      (panicIf condition error) fun _ => Beside Related :=
  (panicIf_isCheck condition error).lockstep _

variable (twins : ∀ first second, Related first second →
  Twins Spent first second)

include twins

/-- A policy that is still open for a submission is unpaid. -/
theorem openPolicy_twins (policyManager : Address) (policyId : Nat) :
    Lockstep (Beside Related) (openPolicy pm env policyManager policyId)
      (openPolicy pm env policyManager policyId)
      fun _ => Beside fun first second =>
        Related first second ∧ first.isPolicyPaid policyId = false := by
  apply Lockstep.bind (Beside.external _)
  intro policyExists
  apply Lockstep.bind (Beside.panicIf _ _)
  intro _
  apply Lockstep.bind (Beside.external _)
  intro policy
  apply Lockstep.bind (Beside.panicIf _ _)
  intro _
  apply Lockstep.bind (Beside.panicIf _ _)
  intro _
  apply Lockstep.bind (Beside.internal (read_twins twins
    (fun state => state.isPolicyPaid policyId) fun _ _ => rfl))
  intro paid
  apply Lockstep.bind (panicIf_lockstep _ _)
  intro _
  apply pure_lockstep
  rintro first second ⟨⟨⟨related, rfl⟩, outside⟩, unpaid⟩
  exact ⟨⟨related, eq_false_of_ne_true unpaid⟩, outside⟩

omit twins in
theorem requireFreshAndClaimable_twins (policyManager : Address)
    (policy : Policy) (assessedAt : Nat) :
    Lockstep (Beside Related)
      (requireFreshAndClaimable pm env policyManager policy assessedAt)
      (requireFreshAndClaimable pm env policyManager policy assessedAt)
      fun _ => Beside Related := by
  apply Lockstep.bind (Beside.panicIf _ _)
  intro _
  apply Lockstep.bind (Beside.panicIf _ _)
  intro _
  apply Lockstep.bind (Beside.external _)
  intro claimable
  exact Beside.panicIf _ _

/-- The digest of an unpaid policy is marked on neither side. -/
theorem requireUnconsumedAndSigned_twins {digest : BytesN 32}
    {policyId : Nat}
    (binds : ∀ other, Spent digest other → other = policyId)
    (unpaid : ∀ first second, Related first second →
      first.isPolicyPaid policyId = false)
    (signature : BytesN 64) (recoveryId : U32)
    (authorizedSigner : BytesN 65) :
    Lockstep Related
      (requireUnconsumedAndSigned crypto digest signature recoveryId
        authorizedSigner)
      (requireUnconsumedAndSigned crypto digest signature recoveryId
        authorizedSigner) fun _ => Related := by
  have unmarked : ∀ first second, Related first second →
      (first.consumedDetermination digest).isSome = false ∧
        (second.consumedDetermination digest).isSome = false := by
    intro first second related
    have fresh : ¬ ∃ other, Spent digest other ∧
        first.isPolicyPaid other = true := by
      rintro ⟨other, spent, paid⟩
      rw [binds other spent, unpaid first second related] at paid
      cases paid
    have known := (twins first second related).paid digest
    exact ⟨eq_false_of_ne_true fun marked => fresh (known (Or.inl marked)),
      eq_false_of_ne_true fun marked => fresh (known (Or.inr marked))⟩
  have reads : Lockstep Related
      (read fun state : State => (state.consumedDetermination digest).isSome :
        Contract State Bool)
      (read fun state => (state.consumedDetermination digest).isSome)
      fun _ => Related := by
    apply read_lockstep
    intro first second related
    obtain ⟨free, freeOther⟩ := unmarked first second related
    exact ⟨free.trans freeOther.symm, related⟩
  apply Lockstep.bind reads
  intro consumed
  apply Lockstep.bind ((panicIf_isCheck _ _).lockstep Related)
  intro _
  apply Lockstep.bind ((unwrapOr_isCheck _ _).lockstep Related)
  intro recovered
  exact (panicIf_isCheck _ _).lockstep Related

/-- The interactions reach the same neighbors. -/
theorem settleVerified_twins (policyManager adapter : Address)
    (policy : Policy) (report : DamageReport) {digest : BytesN 32}
    (spent : Spent digest report.policyId) :
    Lockstep (Beside Related)
      (settleVerified pm adapters env policyManager adapter policy report
        digest)
      (settleVerified pm adapters env policyManager adapter policy report
        digest) fun _ => Beside (Twins Spent) := by
  have recorded : Lockstep Related
      (modify fun state => state.recordVerified report digest :
        Contract State Unit)
      (modify fun state => state.recordVerified report digest)
      fun _ => Twins Spent := by
    apply modify_lockstep
    exact fun first second related =>
      (twins first second related).recordVerified report spent
  apply Lockstep.bind (Beside.internal recorded)
  intro _
  apply Lockstep.bind (Beside.external _)
  intro obligation
  apply Lockstep.bind (Beside.panicIf _ _)
  intro _
  apply Lockstep.bind (Beside.external _)
  intro _
  apply Lockstep.bind (Beside.external _)
  intro _
  apply Lockstep.bind (publish_lockstep _)
  intro _
  apply Lockstep.bind (publish_lockstep _)
  intro _
  exact publish_lockstep _

end Submission

/-- Both sides take the same write. -/
theorem modify_twins {update : State → State}
    (writesBeside : WritesBeside update) :
    Lockstep (Twins Spent) (modify update : Contract State Unit)
      (modify update) fun _ => Twins Spent := by
  apply modify_lockstep
  exact fun first second twins => twins.write writesBeside

/-- An administrator's call. -/
theorem administration_twins (env : Env) (caller : Address)
    {rest : Contract State Unit}
    (later : Lockstep (Twins Spent) rest rest fun _ => Twins Spent) :
    Lockstep (Twins Spent) (do requireRole env caller .admin; rest)
      (do requireRole env caller .admin; rest) fun _ => Twins Spent := by
  apply Lockstep.bind (requireRole_twins (fun _ _ => id) env caller .admin)
  intro _
  exact later

/-- An administrator's call that announces what it wrote. -/
theorem announced_twins (env : Env) (caller : Address)
    {update : State → State} (writesBeside : WritesBeside update)
    (event : Event) :
    Lockstep (Twins Spent)
      (do requireRole env caller .admin; modify update; publish event)
      (do requireRole env caller .admin; modify update; publish event)
      fun _ => Twins Spent := by
  apply administration_twins
  apply Lockstep.bind (modify_twins writesBeside)
  intro _
  exact publish_lockstep event

/-! ## The entrypoints -/

/-- The digest is spent on the policy and on no other. -/
def Identifies (Spent : BytesN 32 → Nat → Prop) (digest : BytesN 32)
    (policyId : Nat) : Prop :=
  Spent digest policyId ∧ ∀ other, Spent digest other → other = policyId

section Entrypoints

variable {Ω : Type} (crypto : Crypto) (pm : Env → PolicyManagerClient Ω)
  (adapters : Env → SettlementAdapterClient Ω) (env : Env)

/-- The states of one moment: they differ in their markers only and are
configured for the stored network. -/
def TwinsOn (Spent : BytesN 32 → Nat → Prop) (stored : Option (BytesN 32))
    (first second : State) : Prop :=
  Twins Spent first second ∧ first.networkDomain = stored

variable {stored : Option (BytesN 32)}

theorem submitDetermination_twins (caller : Address) (d : CropDetermination)
    (signature : BytesN 64) (recoveryId : U32)
    (identifies : ∀ domain, stored = some domain →
      Identifies Spent
        (Encoding.determinationDigest crypto d env.currentContract domain)
        d.onChainPolicyId) :
    Lockstep (Beside (TwinsOn Spent stored))
      (submitDetermination crypto pm adapters env caller d signature
        recoveryId)
      (submitDetermination crypto pm adapters env caller d signature
        recoveryId) fun _ => Beside (Twins Spent) := by
  apply Lockstep.bind (Beside.internal
    (beginSubmission_twins (fun _ _ => And.left) env caller _))
  intro authorizedSigner
  apply Lockstep.bind ((requireCropEvidence_isCheck d).lockstep _)
  intro _
  apply Lockstep.bind (Beside.internal (siblings_twins fun _ _ => And.left))
  rintro ⟨adapter, policyManager⟩
  apply Lockstep.bind
    (openPolicy_twins pm env (fun _ _ => And.left) policyManager _)
  intro policy
  apply Lockstep.bind (Beside.panicIf _ _)
  intro _
  apply Lockstep.bind (Beside.panicIf _ _)
  intro _
  apply Lockstep.bind ((requirePlot_isCheck policy _ _).lockstep _)
  intro _
  apply Lockstep.bind ((requirePayout_isCheck policy _ _).lockstep _)
  intro _
  apply Lockstep.bind (requireFreshAndClaimable_twins pm env policyManager
    policy _)
  intro _
  apply Lockstep.bind (Beside.internal
    (networkDomain_twins fun _ _ known => known.1.1))
  intro domain
  -- The configured network makes the digest one of the identified ones.
  apply Lockstep.given fun first second known =>
    known.1.1.1.2.symm.trans known.1.2
  intro configured
  obtain ⟨spent, binds⟩ := identifies domain configured
  apply Lockstep.bind (Beside.internal (requireUnconsumedAndSigned_twins
    crypto (fun _ _ known => known.1.1.1) binds
    (fun _ _ known => known.1.2) _ _ _))
  intro _
  exact settleVerified_twins pm adapters env (fun _ _ known => known.1.1.1)
    policyManager adapter policy _ spent

theorem submitDroughtDetermination_twins (caller : Address)
    (d : DroughtDetermination) (signature : BytesN 64) (recoveryId : U32)
    (identifies : ∀ domain, stored = some domain →
      Identifies Spent
        (Encoding.droughtDeterminationDigest crypto d env.currentContract
          domain) d.onChainPolicyId) :
    Lockstep (Beside (TwinsOn Spent stored))
      (submitDroughtDetermination crypto pm adapters env caller d signature
        recoveryId)
      (submitDroughtDetermination crypto pm adapters env caller d signature
        recoveryId) fun _ => Beside (Twins Spent) := by
  apply Lockstep.bind (Beside.internal
    (beginSubmission_twins (fun _ _ => And.left) env caller _))
  intro authorizedSigner
  apply Lockstep.bind ((requireDroughtEvidence_isCheck d).lockstep _)
  intro _
  apply Lockstep.bind (Beside.internal (siblings_twins fun _ _ => And.left))
  rintro ⟨adapter, policyManager⟩
  apply Lockstep.bind
    (openPolicy_twins pm env (fun _ _ => And.left) policyManager _)
  intro policy
  apply Lockstep.bind (Beside.panicIf _ _)
  intro _
  apply Lockstep.bind (Beside.panicIf _ _)
  intro _
  apply Lockstep.bind ((requirePlot_isCheck policy _ _).lockstep _)
  intro _
  apply Lockstep.bind ((requireCoverWindow_isCheck policy d).lockstep _)
  intro _
  apply Lockstep.bind ((requirePayout_isCheck policy _ _).lockstep _)
  intro _
  apply Lockstep.bind (requireFreshAndClaimable_twins pm env policyManager
    policy _)
  intro _
  apply Lockstep.bind (Beside.internal
    (networkDomain_twins fun _ _ known => known.1.1))
  intro domain
  apply Lockstep.given fun first second known =>
    known.1.1.1.2.symm.trans known.1.2
  intro configured
  obtain ⟨spent, binds⟩ := identifies domain configured
  apply Lockstep.bind (Beside.internal (requireUnconsumedAndSigned_twins
    crypto (fun _ _ known => known.1.1.1) binds
    (fun _ _ known => known.1.2) _ _ _))
  intro _
  apply Lockstep.bind (publish_lockstep _)
  intro _
  exact settleVerified_twins pm adapters env (fun _ _ known => known.1.1.1)
    policyManager adapter policy _ spent

theorem setSettlementAdapter_twins (caller adapter : Address) :
    Lockstep (Beside (Twins Spent))
      (setSettlementAdapter adapters env caller adapter)
      (setSettlementAdapter adapters env caller adapter)
      fun _ => Beside (Twins Spent) := by
  apply Lockstep.bind (Beside.internal
    (requireRole_twins (fun _ _ => id) env caller .admin))
  intro _
  apply Lockstep.bind (Beside.panicIf _ _)
  intro _
  have asked : Lockstep (Beside (Twins Spent))
      (attempt (external (adapters (env.invoke adapter)).payoutReceiver))
      (attempt (external (adapters (env.invoke adapter)).payoutReceiver))
      fun _ => Beside (Twins Spent) := by
    apply (Beside.external _).attempt.weaken (fun _ _ => id)
    intro answer first second known
    cases answer <;> exact known
  apply Lockstep.bind asked
  intro answer
  have bound : (requireBound env.currentContract answer :
      Contract (State × Ω) Unit).IsCheck := by
    cases answer with
    | ok bound => exact panicIf_isCheck _ _
    | error error => exact fail_isCheck _
  apply Lockstep.bind (bound.lockstep _)
  intro _
  apply Lockstep.bind (Beside.internal
    (view_twins (fun _ _ => id) State.settlementAdapter fun _ _ => rfl))
  intro storedAdapter
  apply Lockstep.bind ((unwrapOr_isCheck _ _).lockstep _)
  intro previous
  have replaced : WritesBeside fun state : State =>
      { state with settlementAdapter := some adapter } :=
    ⟨fun _ _ => rfl, fun _ => rfl, fun _ => rfl⟩
  apply Lockstep.bind (Beside.internal (modify_twins replaced))
  intro _
  exact publish_lockstep _

/-- Every entrypoint runs in lockstep, where the digest of a submission is
that of its policy. -/
theorem exec_twins (call : Call)
    (crop : ∀ caller d signature recoveryId domain,
      call = .submitDetermination caller d signature recoveryId →
      stored = some domain →
        Identifies Spent
          (Encoding.determinationDigest crypto d env.currentContract domain)
          d.onChainPolicyId)
    (drought : ∀ caller d signature recoveryId domain,
      call = .submitDroughtDetermination caller d signature recoveryId →
      stored = some domain →
        Identifies Spent
          (Encoding.droughtDeterminationDigest crypto d env.currentContract
            domain) d.onChainPolicyId) :
    Lockstep (Beside (TwinsOn Spent stored))
      (exec crypto pm adapters env call) (exec crypto pm adapters env call)
      fun _ => Beside (Twins Spent) := by
  have forget : ∀ first second : State × Ω,
      Beside (TwinsOn Spent stored) first second →
        Beside (Twins Spent) first second :=
    fun first second known => ⟨known.1.1, known.2⟩
  have inside : ∀ {program : Contract State Unit},
      Lockstep (Twins Spent) program program (fun _ => Twins Spent) →
        Lockstep (Beside (TwinsOn Spent stored))
          (internal program : Contract (State × Ω) Unit) (internal program)
          fun _ => Beside (Twins Spent) :=
    fun lockstep =>
      (Beside.internal lockstep).weaken forget fun _ _ _ => id
  cases call with
  | setAuthorizedSigner caller pubkey =>
      apply inside
      apply announced_twins
      exact ⟨fun _ _ => rfl, fun _ => rfl, fun _ => rfl⟩
  | setNetworkDomain caller domain =>
      apply inside
      apply administration_twins
      exact modify_twins ⟨fun _ _ => rfl, fun _ => rfl, fun _ => rfl⟩
  | setSettlementAdapter caller adapter =>
      exact (setSettlementAdapter_twins adapters env caller adapter).weaken
        forget fun _ _ _ => id
  | grantRole caller role who =>
      apply inside
      apply administration_twins
      exact modify_twins ⟨fun _ _ => rfl, fun _ => rfl, fun _ => rfl⟩
  | revokeRole caller role who =>
      apply inside
      apply administration_twins
      exact modify_twins ⟨fun _ _ => rfl, fun _ => rfl, fun _ => rfl⟩
  | pause caller =>
      apply inside
      apply administration_twins
      exact modify_twins ⟨fun _ _ => rfl, fun _ => rfl, fun _ => rfl⟩
  | unpause caller =>
      apply inside
      apply administration_twins
      exact modify_twins ⟨fun _ _ => rfl, fun _ => rfl, fun _ => rfl⟩
  | setMethodologyEnabled caller kind enabled =>
      apply inside
      apply announced_twins
      exact ⟨fun _ _ => rfl, fun _ => rfl, fun _ => rfl⟩
  | submitDetermination caller d signature recoveryId =>
      exact submitDetermination_twins crypto pm adapters env caller d
        signature recoveryId fun domain => crop _ _ _ _ domain rfl
  | submitDroughtDetermination caller d signature recoveryId =>
      exact submitDroughtDetermination_twins crypto pm adapters env caller d
        signature recoveryId fun domain => drought _ _ _ _ domain rfl

end Entrypoints

end PayoutReceiver

end Microcrop
