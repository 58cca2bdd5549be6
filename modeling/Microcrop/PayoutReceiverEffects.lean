import Microcrop.PayoutReceiver

/-!
# What a PayoutReceiver call can do

One characterization for every check of a submission, the predicate that all
checks of a CROP_DROUGHT submission amount to, and the inversion of a
committed call.
-/

namespace Microcrop

namespace PayoutReceiver

open Transaction

/-! ## The checks as predicates -/

/-- Bounds, unit invariant, recomputed index and threshold. -/
structure DroughtEvidence (d : DroughtDetermination) : Prop where
  bp_le : d.damagePercentBp.val ≤ maxDamagePercentage
  damage_le : d.droughtDamage.val ≤ 100
  lgp : d.lgpDays.val = Drought.lgpDays
  cdd_le : d.cddW2Days.val ≤ Drought.maxCddW2Days
  reference1_pos : d.rainRefW1E2.val ≠ 0
  reference2_pos : d.rainRefW2E2.val ≠ 0
  rain1_le : d.rainW1E2.val ≤ Drought.maxRainE2
  reference1_le : d.rainRefW1E2.val ≤ Drought.maxRainE2
  rain2_le : d.rainW2E2.val ≤ Drought.maxRainE2
  reference2_le : d.rainRefW2E2.val ≤ Drought.maxRainE2
  midnight : d.seasonStartEpoch.val % Drought.secondsPerDay = 0
  params : d.methodologyParamsHash = Encoding.droughtParamsHashRdi10
  unit : d.damagePercentBp.val = d.droughtDamage.val * 100
  index : Drought.index d.rainW1E2.val d.rainRefW1E2.val d.rainW2E2.val
    d.rainRefW2E2.val = some d.droughtDamage.val
  threshold : minDamageThreshold ≤ d.damagePercentBp.val

/-- Bounds, consistency, weighted invariant and threshold. -/
structure CropEvidence (d : CropDetermination) : Prop where
  bp_le : d.damagePercentBp.val ≤ maxDamagePercentage
  weather_le : d.weatherDamage.val ≤ 100
  satellite_le : d.satelliteDamage.val ≤ 100
  flag_le : d.weatherPresent.val ≤ 1
  consistent : d.weatherPresent.val = 0 → d.weatherDamage.val = 0
  weighted : d.damagePercentBp.val =
    if d.weatherPresent.val = 0 then d.satelliteDamage.val * weightDenominator
    else weatherWeight * d.weatherDamage.val +
      satelliteWeight * d.satelliteDamage.val
  threshold : minDamageThreshold ≤ d.damagePercentBp.val

/-- The signed coordinates are the plot's, within one micro-degree. -/
def OnPlot (policy : Policy) (latE6 lonE6 : Int) : Prop :=
  (latE6 - policy.latE6).natAbs ≤ 1 ∧ (lonE6 - policy.lonE6).natAbs ≤ 1

/-- Planting not before the UTC day cover started, the season inside cover
and over when it was assessed. -/
structure WithinCover (policy : Policy) (d : DroughtDetermination) :
    Prop where
  planted : policy.startDate - policy.startDate % Drought.secondsPerDay ≤
    d.seasonStartEpoch.val
  ends : d.seasonStartEpoch.val + Drought.seasonWindowSecs ≤ policy.endDate
  complete : d.seasonStartEpoch.val + Drought.seasonWindowSecs ≤
    d.assessedAt.val

/-- The payout that the contract derives, in checked arithmetic. -/
def PaysOut (policy : Policy) (bp : Nat) (payout : Int) : Prop :=
  FitsI128 (policy.sumInsured * bp) ∧
    payout = (policy.sumInsured * bp).tdiv basisPoints

/-- Assessed within the last hour. -/
def Fresh (env : Env) (assessedAt : Nat) : Prop :=
  assessedAt ≤ env.timestamp ∧ env.timestamp ≤ assessedAt + maxReportAge

theorem coordinateOff_eq_false_iff (signed insured : Int) :
    coordinateOff signed insured = false ↔ (signed - insured).natAbs ≤ 1 := by
  unfold coordinateOff FitsI128 plotCoordToleranceE6
  dsimp only
  split <;> rename_i fits
  · rw [decide_eq_false_iff_not]
    omega
  · simp only [Bool.true_eq_false, false_iff, not_le]
    omega

section Checks

variable {σ : Type}

@[simp]
theorem requirePlot_commits (policy : Policy) (latE6 lonE6 : Int)
    (before after : σ) (result : Unit) :
    (requirePlot policy latE6 lonE6).Commits before result after ↔
      OnPlot policy latE6 lonE6 ∧ after = before := by
  simp only [requirePlot, panicIf_commits, not_or, Bool.not_eq_true,
    coordinateOff_eq_false_iff, OnPlot]

@[simp]
theorem requirePayout_commits (policy : Policy) (bp : Nat) (payout : Int)
    (before after : σ) (result : Unit) :
    (requirePayout policy bp payout).Commits before result after ↔
      PaysOut policy bp payout ∧ after = before := by
  simp only [requirePayout, bind_commits, mulI128_commits, panicIf_commits,
    and_assoc, exists_and_left, exists_eq_left, not_not, PaysOut]

@[simp]
theorem requireDroughtEvidence_commits (d : DroughtDetermination)
    (before after : σ) (result : Unit) :
    (requireDroughtEvidence d).Commits before result after ↔
      DroughtEvidence d ∧ after = before := by
  simp only [requireDroughtEvidence, bind_commits, panicIf_commits,
    mulUnsigned_commits, Drought.rdiV1DroughtDamage_commits, exists_const,
    and_assoc, exists_and_left, exists_eq_left, not_or, not_not, not_lt,
    gt_iff_lt]
  constructor
  · rintro ⟨bpLe, damageLe, lgp, cdd, reference1, reference2, rain1,
      reference1Le, rain2, reference2Le, midnight, params, _, unit, index,
      threshold, rfl⟩
    exact ⟨⟨bpLe, damageLe, lgp, cdd, reference1, reference2, rain1,
      reference1Le, rain2, reference2Le, midnight, params, unit, index,
      threshold⟩, rfl⟩
  · rintro ⟨evidence, rfl⟩
    have damageLe := evidence.damage_le
    exact ⟨evidence.bp_le, damageLe, evidence.lgp, evidence.cdd_le,
      evidence.reference1_pos, evidence.reference2_pos, evidence.rain1_le,
      evidence.reference1_le, evidence.rain2_le, evidence.reference2_le,
      evidence.midnight, evidence.params, by omega, evidence.unit,
      evidence.index, evidence.threshold, rfl⟩

/-- With sub-scores in range the weighted damage cannot trap. -/
theorem expectedBp_commits {d : CropDetermination}
    (weatherLe : d.weatherDamage.val ≤ 100)
    (satelliteLe : d.satelliteDamage.val ≤ 100) (before after : σ)
    (result : Nat) :
    (expectedBp d).Commits before result after ↔
      result = (if d.weatherPresent.val = 0 then
          d.satelliteDamage.val * weightDenominator
        else weatherWeight * d.weatherDamage.val +
          satelliteWeight * d.satelliteDamage.val) ∧
        after = before := by
  unfold expectedBp weightDenominator weatherWeight satelliteWeight
  split
  · simp only [mulUnsigned_commits, and_iff_right_iff_imp]
    omega
  · simp only [bind_commits, mulUnsigned_commits, addUnsigned_commits,
      and_assoc, exists_and_left, exists_eq_left]
    constructor
    · rintro ⟨-, -, -, equality, same⟩
      exact ⟨equality, same⟩
    · rintro ⟨equality, same⟩
      exact ⟨by omega, by omega, by omega, equality, same⟩

@[simp]
theorem requireCropEvidence_commits (d : CropDetermination)
    (before after : σ) (result : Unit) :
    (requireCropEvidence d).Commits before result after ↔
      CropEvidence d ∧ after = before := by
  simp only [requireCropEvidence, bind_commits, panicIf_commits,
    exists_const, and_assoc, exists_and_left, exists_eq_left, not_or,
    not_and, not_not, not_lt, gt_iff_lt]
  constructor
  · rintro ⟨bpLe, weatherLe, satelliteLe, flagLe, consistent, expected, _,
      weighted, equal, threshold, rfl⟩
    obtain ⟨equality, rfl⟩ :=
      (expectedBp_commits weatherLe satelliteLe _ _ _).mp weighted
    exact ⟨⟨bpLe, weatherLe, satelliteLe, flagLe, consistent,
      equal.symm.trans equality, threshold⟩, rfl⟩
  · rintro ⟨evidence, rfl⟩
    exact ⟨evidence.bp_le, evidence.weather_le, evidence.satellite_le,
      evidence.flag_le, evidence.consistent, d.damagePercentBp.val, _,
      (expectedBp_commits evidence.weather_le evidence.satellite_le _ _
        _).mpr ⟨evidence.weighted, rfl⟩, rfl, evidence.threshold, rfl⟩

@[simp]
theorem requireCoverWindow_commits (policy : Policy)
    (d : DroughtDetermination) (before after : σ) (result : Unit) :
    (requireCoverWindow policy d).Commits before result after ↔
      WithinCover policy d ∧ after = before := by
  simp only [requireCoverWindow, bind_commits, subUnsigned_commits,
    panicIf_commits, exists_const, and_assoc, exists_and_left,
    exists_eq_left, not_or, not_le, not_lt, gt_iff_lt]
  constructor
  · rintro ⟨_, _, planted, ends, complete, rfl⟩
    exact ⟨⟨planted, ends, complete⟩, rfl⟩
  · rintro ⟨window, rfl⟩
    have complete := window.complete
    have assessedLt := d.assessedAt.isLt
    exact ⟨Nat.mod_le _ _, by omega, window.planted, window.ends, complete,
      rfl⟩

end Checks

@[simp]
theorem beginSubmission_commits (env : Env) (caller : Address)
    (kind : MethodologyKind) (before after : State)
    (signer : BytesN 65) :
    (beginSubmission env caller kind).Commits before signer after ↔
      env.authorized caller = true ∧ before.roles .relayer caller = true ∧
        before.isPaused = false ∧ before.authorizedSigner = some signer ∧
          before.isMethodologyEnabled kind = true ∧ after = before := by
  simp only [beginSubmission, bind_commits, requireRole_commits,
    read_commits, panicIf_commits, unwrapOr_commits, pure_commits,
    roleStorage_roles, exists_const, and_assoc, exists_and_left,
    exists_eq_left, not_not]
  constructor
  · rintro ⟨signed, relayer, unpaused, found, configured, enabled, rfl, rfl⟩
    exact ⟨signed, relayer, eq_false_of_ne_true unpaused, configured,
      enabled, rfl⟩
  · rintro ⟨signed, relayer, unpaused, configured, enabled, rfl⟩
    exact ⟨signed, relayer, ne_true_of_eq_false unpaused, signer, configured,
      enabled, rfl, rfl⟩

@[simp]
theorem siblings_commits (before after : State)
    (addresses : Address × Address) :
    siblings.Commits before addresses after ↔
      before.settlementAdapter = some addresses.1 ∧
        before.policyManager = some addresses.2 ∧ after = before := by
  obtain ⟨adapter, policyManager⟩ := addresses
  simp only [siblings, bind_commits, read_commits, unwrapOr_commits,
    pure_commits, and_assoc, exists_and_left, exists_eq_left, Prod.mk.injEq]
  constructor
  · rintro ⟨_, boundAdapter, _, boundManager, rfl, rfl, rfl⟩
    exact ⟨boundAdapter, boundManager, rfl⟩
  · rintro ⟨boundAdapter, boundManager, rfl⟩
    exact ⟨adapter, boundAdapter, policyManager, boundManager, rfl, rfl, rfl⟩

@[simp]
theorem networkDomain_commits (before after : State) (domain : BytesN 32) :
    networkDomain.Commits before domain after ↔
      before.networkDomain = some domain ∧ after = before := by
  simp only [networkDomain, bind_commits, read_commits, unwrapOr_commits,
    and_assoc, exists_and_left, exists_eq_left]

@[simp]
theorem requireUnconsumedAndSigned_commits (crypto : Crypto)
    (digest : BytesN 32) (signature : BytesN 64) (recoveryId : U32)
    (signer : BytesN 65) (before after : State) (result : Unit) :
    (requireUnconsumedAndSigned crypto digest signature recoveryId
        signer).Commits before result after ↔
      before.consumedDetermination digest = none ∧
        crypto.secp256k1Recover digest signature recoveryId = some signer ∧
          after = before := by
  simp only [requireUnconsumedAndSigned, bind_commits, read_commits,
    panicIf_commits, unwrapOr_commits, exists_const, and_assoc,
    exists_and_left, exists_eq_left, not_not, Bool.not_eq_true,
    Option.isSome_eq_false_iff, Option.isNone_iff_eq_none]
  constructor
  · rintro ⟨fresh, _, recovered, rfl, rfl⟩
    exact ⟨fresh, recovered, rfl⟩
  · rintro ⟨fresh, recovered, rfl⟩
    exact ⟨fresh, signer, recovered, rfl, rfl⟩

section Clients

variable {Ω : Type} (crypto : Crypto) (pm : Env → PolicyManagerClient Ω)
  (adapters : Env → SettlementAdapterClient Ω) (env : Env)

theorem openPolicy_commits (policyManager : Address) (policyId : Nat)
    (before after : State × Ω) (policy : Policy) :
    (openPolicy pm env policyManager policyId).Commits before policy after ↔
      (∃ queried, ((pm (env.invoke policyManager)).policyExists
          policyId).Commits before.2 true queried ∧
        ((pm (env.invoke policyManager)).getPolicy policyId).Commits queried
          policy after.2) ∧
        policy.status = .active ∧ env.timestamp ≤ policy.endDate ∧
          before.1.isPolicyPaid policyId = false ∧ after.1 = before.1 := by
  obtain ⟨state, outside⟩ := before
  obtain ⟨stateAfter, outsideAfter⟩ := after
  simp only [openPolicy, bind_commits, external_commits, panicIf_commits,
    internal_commits, read_commits, pure_commits, exists_const, and_assoc,
    exists_and_left, exists_eq_left, not_not, not_lt, gt_iff_lt]
  constructor
  · rintro ⟨_, _, ⟨queried, existed, rfl⟩, rfl, found, _, ⟨answered, got,
      rfl⟩, active, inTime, unpaid, rfl, equality⟩
    rw [Prod.mk.injEq] at equality
    obtain ⟨rfl, rfl⟩ := equality
    exact ⟨⟨queried, existed, got⟩, active, inTime,
      eq_false_of_ne_true unpaid, rfl⟩
  · rintro ⟨⟨queried, existed, got⟩, active, inTime, unpaid, rfl⟩
    exact ⟨true, _, ⟨queried, existed, rfl⟩, rfl, policy, _,
      ⟨outsideAfter, got, rfl⟩, active, inTime, ne_true_of_eq_false unpaid,
      rfl, rfl⟩

theorem requireFreshAndClaimable_commits (policyManager : Address)
    (policy : Policy) (assessedAt : Nat) (before after : State × Ω)
    (result : Unit) :
    (requireFreshAndClaimable pm env policyManager policy
        assessedAt).Commits before result after ↔
      Fresh env assessedAt ∧
        ((pm (env.invoke policyManager)).canFarmerClaim
          policy.farmer).Commits before.2 true after.2 ∧
          after.1 = before.1 := by
  obtain ⟨state, outside⟩ := before
  obtain ⟨stateAfter, outsideAfter⟩ := after
  have fresh : (assessedAt ≤ env.timestamp ∧
      env.timestamp ≤ saturatingAddU64 assessedAt maxReportAge) ↔
      Fresh env assessedAt := by
    have bound := env.timestamp_lt
    unfold saturatingAddU64 Fresh
    omega
  rw [← fresh]
  simp only [requireFreshAndClaimable, bind_commits, panicIf_commits,
    external_commits, exists_const, and_assoc, exists_and_left,
    exists_eq_left, not_not, not_lt, gt_iff_lt]
  constructor
  · rintro ⟨past, recent, _, _, ⟨queried, claimable, rfl⟩, rfl, equality⟩
    rw [Prod.mk.injEq] at equality
    obtain ⟨rfl, rfl⟩ := equality
    exact ⟨past, recent, claimable, rfl⟩
  · rintro ⟨past, recent, claimable, rfl⟩
    exact ⟨past, recent, true, _, ⟨outsideAfter, claimable, rfl⟩, rfl, rfl⟩

/-- What the interactions of a verified determination do to the other
contracts. -/
structure Settles (policyManager adapter : Address) (policy : Policy)
    (report : DamageReport) (preimageHash : BytesN 32) (before after : Ω)
    (obligation : Obligation) (recorded claimed : Ω) : Prop where
  records : ((adapters (env.invoke adapter)).recordObligation
    env.currentContract report.policyId policy.org report.payoutAmount
      preimageHash).Commits before obligation recorded
  receiver : obligation.payoutReceiver = env.currentContract
  policyId : obligation.policyId = report.policyId
  org : obligation.org = policy.org
  amount : obligation.amount = report.payoutAmount
  digest : obligation.determinationDigest = preimageHash
  owed : obligation.status = .owed
  marks : ((pm (env.invoke policyManager)).markAsClaimed
    env.currentContract report.policyId).Commits recorded () claimed
  counts : ((pm (env.invoke policyManager)).incrementClaimCount
    env.currentContract policy.farmer).Commits claimed () after

theorem settleVerified_commits (policyManager adapter : Address)
    (policy : Policy) (report : DamageReport) (preimageHash : BytesN 32)
    (before after : State × Ω) (result : Unit) :
    (settleVerified pm adapters env policyManager adapter policy report
        preimageHash).Commits before result after ↔
      (∃ obligation recorded claimed, Settles pm adapters env policyManager
        adapter policy report preimageHash before.2 after.2 obligation
          recorded claimed) ∧
        after.1 = before.1.recordVerified report preimageHash := by
  obtain ⟨state, outside⟩ := before
  obtain ⟨stateAfter, outsideAfter⟩ := after
  simp only [settleVerified, bind_commits, internal_commits, modify_commits,
    external_commits, panicIf_commits, publish_commits, exists_const,
    and_assoc, exists_eq_left, not_or, not_not]
  constructor
  · rintro ⟨obligation, _, ⟨recorded, records, rfl⟩, _, receiver, policyId,
      org, amount, digest, owed, rfl, _, _, ⟨claimed, marks, rfl⟩, _, _,
      ⟨counted, counts, rfl⟩, equality⟩
    rw [Prod.mk.injEq] at equality
    obtain ⟨rfl, rfl⟩ := equality
    exact ⟨⟨obligation, recorded, claimed, ⟨records, receiver, policyId, org,
      amount, digest, owed, marks, counts⟩⟩, rfl⟩
  · rintro ⟨⟨obligation, recorded, claimed, settles⟩, rfl⟩
    exact ⟨obligation, _, ⟨recorded, settles.records, rfl⟩, _,
      settles.receiver, settles.policyId, settles.org, settles.amount,
      settles.digest, settles.owed, rfl, (), _,
      ⟨claimed, settles.marks, rfl⟩, (), _,
      ⟨outsideAfter, settles.counts, rfl⟩, rfl⟩

/-- The answers of PolicyManager that a submission reads. -/
structure Answers (policyManager : Address) (policyId : Nat)
    (policy : Policy) (before queried fetched after : Ω) : Prop where
  existing : ((pm (env.invoke policyManager)).policyExists policyId).Commits
    before true queried
  fetches : ((pm (env.invoke policyManager)).getPolicy policyId).Commits
    queried policy fetched
  claimable : ((pm (env.invoke policyManager)).canFarmerClaim
    policy.farmer).Commits fetched true after

end Clients

/-- The report of a CROP_DROUGHT determination. -/
def droughtReport (d : DroughtDetermination) : DamageReport where
  policyId := d.onChainPolicyId.val
  damagePercentage := d.damagePercentBp.val
  weatherDamage := 0
  satelliteDamage := 0
  payoutAmount := d.payoutAmount.val
  assessedAt := d.assessedAt.val

/-- The report of a CROP_DAMAGE determination. -/
def cropReport (d : CropDetermination) : DamageReport where
  policyId := d.onChainPolicyId.val
  damagePercentage := d.damagePercentBp.val
  weatherDamage := d.weatherDamage.val
  satelliteDamage := d.satelliteDamage.val
  payoutAmount := d.payoutAmount.val
  assessedAt := d.assessedAt.val

section Submission

variable (crypto : Crypto) (env : Env) (state : State)

/-- The checks that both submissions share: who may submit, what the receiver
stores about the policy, and the signature over the digest. -/
structure Submittable (caller : Address) (kind : MethodologyKind)
    (policy : Policy) (report : DamageReport) (digest : BytesN 32)
    (signature : BytesN 64) (recoveryId : U32) : Prop where
  signed : env.authorized caller = true
  relayer : state.roles .relayer caller = true
  unpaused : state.isPaused = false
  enabled : state.isMethodologyEnabled kind = true
  active : policy.status = .active
  inCover : env.timestamp ≤ policy.endDate
  unpaid : state.isPolicyPaid report.policyId = false
  payout : PaysOut policy report.damagePercentage report.payoutAmount
  fresh : Fresh env report.assessedAt
  unconsumed : state.consumedDetermination digest = none
  recovered : ∃ signer, state.authorizedSigner = some signer ∧
    crypto.secp256k1Recover digest signature recoveryId = some signer

/-- All checks of a CROP_DROUGHT submission. -/
structure DroughtChecks (caller : Address) (d : DroughtDetermination)
    (signature : BytesN 64) (recoveryId : U32) (policy : Policy)
    (domain : BytesN 32) : Prop where
  submittable : Submittable crypto env state caller .cropDroughtRdi10 policy
    (droughtReport d)
    (Encoding.droughtDeterminationDigest crypto d env.currentContract domain)
    signature recoveryId
  evidence : DroughtEvidence d
  cover : policy.coverageType = .drought
  sumInsured : d.sumInsured.val = policy.sumInsured
  plot : OnPlot policy d.latitudeE6.val d.longitudeE6.val
  window : WithinCover policy d
  domain : state.networkDomain = some domain

/-- All checks of a CROP_DAMAGE submission. -/
structure CropChecks (caller : Address) (d : CropDetermination)
    (signature : BytesN 64) (recoveryId : U32) (policy : Policy)
    (domain : BytesN 32) : Prop where
  submittable : Submittable crypto env state caller .cropDualIndex10 policy
    (cropReport d)
    (Encoding.determinationDigest crypto d env.currentContract domain)
    signature recoveryId
  evidence : CropEvidence d
  cover : policy.coverageType = .comprehensive
  sumInsured : d.sumInsured.val = policy.sumInsured
  plot : OnPlot policy d.latitudeE6.val d.longitudeE6.val
  domain : state.networkDomain = some domain

/-- The checked submission `call` settles `policy` with `report` under
`digest`. -/
inductive Checked (policy : Policy) : Call → DamageReport → BytesN 32 → Prop
  | drought {caller : Address} {d : DroughtDetermination}
      {signature : BytesN 64} {recoveryId : U32} {domain : BytesN 32}
      (checks : DroughtChecks crypto env state caller d signature recoveryId
        policy domain) :
      Checked policy
        (.submitDroughtDetermination caller d signature recoveryId)
        (droughtReport d)
        (Encoding.droughtDeterminationDigest crypto d env.currentContract
          domain)
  | crop {caller : Address} {d : CropDetermination} {signature : BytesN 64}
      {recoveryId : U32} {domain : BytesN 32}
      (checks : CropChecks crypto env state caller d signature recoveryId
        policy domain) :
      Checked policy (.submitDetermination caller d signature recoveryId)
        (cropReport d)
        (Encoding.determinationDigest crypto d env.currentContract domain)

/-- Whichever path a submission takes, it passes the shared checks. -/
theorem Checked.submittable {policy : Policy} {call : Call}
    {report : DamageReport} {digest : BytesN 32}
    (checked : Checked crypto env state policy call report digest) :
    ∃ caller kind signature recoveryId, Submittable crypto env state caller
      kind policy report digest signature recoveryId := by
  cases checked with
  | drought checks => exact ⟨_, _, _, _, checks.submittable⟩
  | crop checks => exact ⟨_, _, _, _, checks.submittable⟩

end Submission

section Clients

variable {Ω : Type} (crypto : Crypto) (pm : Env → PolicyManagerClient Ω)
  (adapters : Env → SettlementAdapterClient Ω) (env : Env)

/-- The interactions of a submission: the bound siblings, their answers and
the settlement. -/
structure Interacts (state : State) (policy : Policy) (report : DamageReport)
    (digest : BytesN 32) (policyManager adapter : Address)
    (before queried fetched checked : Ω) (obligation : Obligation)
    (recorded claimed after : Ω) : Prop where
  adapterBound : state.settlementAdapter = some adapter
  managerBound : state.policyManager = some policyManager
  answers : Answers pm env policyManager report.policyId policy before
    queried fetched checked
  settles : Settles pm adapters env policyManager adapter policy report
    digest checked after obligation recorded claimed

/-- A CROP_DROUGHT submission is accepted exactly if all its checks pass and
its interactions succeed. -/
theorem submitDroughtDetermination_commits (caller : Address)
    (d : DroughtDetermination) (signature : BytesN 64) (recoveryId : U32)
    (before after : State × Ω) (result : Unit) :
    (submitDroughtDetermination crypto pm adapters env caller d signature
        recoveryId).Commits before result after ↔
      ∃ policy domain policyManager adapter queried fetched checked
          obligation recorded claimed,
        DroughtChecks crypto env before.1 caller d signature recoveryId policy
            domain ∧
          Interacts pm adapters env before.1 policy (droughtReport d)
            (Encoding.droughtDeterminationDigest crypto d env.currentContract
              domain)
            policyManager adapter before.2 queried fetched checked obligation
            recorded claimed after.2 ∧
          after.1 = before.1.recordVerified (droughtReport d)
            (Encoding.droughtDeterminationDigest crypto d env.currentContract
              domain) := by
  obtain ⟨state, outside⟩ := before
  obtain ⟨stateAfter, outsideAfter⟩ := after
  simp only [submitDroughtDetermination, bind_commits, internal_commits,
    beginSubmission_commits, requireDroughtEvidence_commits,
    siblings_commits, openPolicy_commits, panicIf_commits,
    requirePlot_commits, requireCoverWindow_commits, requirePayout_commits,
    requireFreshAndClaimable_commits, networkDomain_commits,
    requireUnconsumedAndSigned_commits, publish_commits,
    settleVerified_commits, exists_const, and_assoc, exists_and_left,
    exists_eq_left, not_not]
  constructor
  · rintro ⟨signed, relayer, unpaused, signer, configured, enabled, evidence,
      ⟨adapter, policyManager⟩, adapterBound, managerBound, policy, ⟨_, _⟩,
      ⟨queried, existing, fetches⟩, active, inCover, unpaid, rfl, cover,
      sumInsured, plot, window, payout, fresh, ⟨_, _⟩, claimable, rfl,
      domain, stored, unconsumed, recovered, ⟨obligation, recorded, claimed,
      settles⟩, rfl⟩
    exact ⟨policy, domain, ⟨⟨signed, relayer, unpaused, enabled, active,
      inCover, unpaid, payout, fresh, unconsumed, signer, configured,
      recovered⟩, evidence, cover, sumInsured, plot, window, stored⟩,
      policyManager, adapter, queried, _, _, obligation, recorded, claimed,
      ⟨adapterBound, managerBound, ⟨existing, fetches, claimable⟩, settles⟩,
      rfl⟩
  · rintro ⟨policy, domain, ⟨⟨signed, relayer, unpaused, enabled, active,
      inCover, unpaid, payout, fresh, unconsumed, signer, configured,
      recovered⟩, evidence, cover, sumInsured, plot, window, stored⟩,
      policyManager, adapter, queried, fetched, checked, obligation, recorded,
      claimed, ⟨adapterBound, managerBound, ⟨existing, fetches, claimable⟩,
      settles⟩, rfl⟩
    exact ⟨signed, relayer, unpaused, signer, configured, enabled, evidence,
      (adapter, policyManager), adapterBound, managerBound, policy,
      (state, fetched), ⟨queried, existing, fetches⟩, active, inCover, unpaid,
      rfl, cover, sumInsured, plot, window, payout, fresh, (state, checked),
      claimable, rfl, domain, stored, unconsumed, recovered,
      ⟨obligation, recorded, claimed, settles⟩, rfl⟩

/-- A CROP_DAMAGE submission is accepted exactly if all its checks pass and
its interactions succeed. -/
theorem submitDetermination_commits (caller : Address)
    (d : CropDetermination) (signature : BytesN 64) (recoveryId : U32)
    (before after : State × Ω) (result : Unit) :
    (submitDetermination crypto pm adapters env caller d signature
        recoveryId).Commits before result after ↔
      ∃ policy domain policyManager adapter queried fetched checked
          obligation recorded claimed,
        CropChecks crypto env before.1 caller d signature recoveryId policy
            domain ∧
          Interacts pm adapters env before.1 policy (cropReport d)
            (Encoding.determinationDigest crypto d env.currentContract domain)
            policyManager adapter before.2 queried fetched checked obligation
            recorded claimed after.2 ∧
          after.1 = before.1.recordVerified (cropReport d)
            (Encoding.determinationDigest crypto d env.currentContract
              domain) := by
  obtain ⟨state, outside⟩ := before
  obtain ⟨stateAfter, outsideAfter⟩ := after
  simp only [submitDetermination, bind_commits, internal_commits,
    beginSubmission_commits, requireCropEvidence_commits, siblings_commits,
    openPolicy_commits, panicIf_commits, requirePlot_commits,
    requirePayout_commits, requireFreshAndClaimable_commits,
    networkDomain_commits, requireUnconsumedAndSigned_commits,
    settleVerified_commits, exists_const, and_assoc, exists_and_left,
    exists_eq_left, not_not]
  constructor
  · rintro ⟨signed, relayer, unpaused, signer, configured, enabled, evidence,
      ⟨adapter, policyManager⟩, adapterBound, managerBound, policy, ⟨_, _⟩,
      ⟨queried, existing, fetches⟩, active, inCover, unpaid, rfl, sumInsured,
      cover, plot, payout, fresh, ⟨_, _⟩, claimable, rfl, domain, stored,
      unconsumed, recovered, ⟨obligation, recorded, claimed, settles⟩, rfl⟩
    exact ⟨policy, domain, ⟨⟨signed, relayer, unpaused, enabled, active,
      inCover, unpaid, payout, fresh, unconsumed, signer, configured,
      recovered⟩, evidence, cover, sumInsured, plot, stored⟩,
      policyManager, adapter, queried, _, _, obligation, recorded, claimed,
      ⟨adapterBound, managerBound, ⟨existing, fetches, claimable⟩, settles⟩,
      rfl⟩
  · rintro ⟨policy, domain, ⟨⟨signed, relayer, unpaused, enabled, active,
      inCover, unpaid, payout, fresh, unconsumed, signer, configured,
      recovered⟩, evidence, cover, sumInsured, plot, stored⟩,
      policyManager, adapter, queried, fetched, checked, obligation, recorded,
      claimed, ⟨adapterBound, managerBound, ⟨existing, fetches, claimable⟩,
      settles⟩, rfl⟩
    exact ⟨signed, relayer, unpaused, signer, configured, enabled, evidence,
      (adapter, policyManager), adapterBound, managerBound, policy,
      (state, fetched), ⟨queried, existing, fetches⟩, active, inCover, unpaid,
      rfl, sumInsured, cover, plot, payout, fresh, (state, checked),
      claimable, rfl, domain, stored, unconsumed, recovered,
      ⟨obligation, recorded, claimed, settles⟩, rfl⟩

end Clients

/-! ## Inversion of a committed call -/

/-- The calls that only the administrator's signature decides, besides the
swap of the adapter. -/
def Call.administers : Call → Bool
  | .setAuthorizedSigner .. => true
  | .setNetworkDomain .. => true
  | .grantRole .. => true
  | .revokeRole .. => true
  | .pause .. => true
  | .unpause .. => true
  | .setMethodologyEnabled .. => true
  | _ => false

/-- Everything that a committed call can do. -/
inductive Effect {Ω : Type} (crypto : Crypto)
    (pm : Env → PolicyManagerClient Ω)
    (adapters : Env → SettlementAdapterClient Ω) (env : Env)
    (before : State × Ω) : Call → State × Ω → Prop
  | administered {call : Call} {caller : Address}
      (signed : env.authorized caller = true)
      (admin : before.1.roles .admin caller = true)
      (administers : call.administers = true) (roles : Roles)
      (authorizedSigner : Option (BytesN 65))
      (networkDomain : Option (BytesN 32)) (paused : Option Bool)
      (methodologyEnabled : MethodologyKind → Option Bool) :
      Effect crypto pm adapters env before call
        ({ before.1 with
          roles, authorizedSigner, networkDomain, paused,
          methodologyEnabled }, before.2)
  | swapped {caller adapter : Address} {outside : Ω}
      (signed : env.authorized caller = true)
      (admin : before.1.roles .admin caller = true)
      (other : adapter ≠ env.currentContract)
      (bound : ((adapters (env.invoke adapter)).payoutReceiver).Commits
        before.2 (some env.currentContract) outside) :
      Effect crypto pm adapters env before
        (.setSettlementAdapter caller adapter)
        ({ before.1 with settlementAdapter := some adapter }, outside)
  | submitted {call : Call} {policy : Policy} {report : DamageReport}
      {digest : BytesN 32} {policyManager adapter : Address}
      {queried fetched checked : Ω} {obligation : Obligation}
      {recorded claimed outside : Ω}
      (checks : Checked crypto env before.1 policy call report digest)
      (interacts : Interacts pm adapters env before.1 policy report digest
        policyManager adapter before.2 queried fetched checked obligation
        recorded claimed outside) :
      Effect crypto pm adapters env before call
        (before.1.recordVerified report digest, outside)

@[simp]
theorem requireBound_commits {σ : Type} (this : Address)
    (answer : Except Error (Option Address)) (before after : σ)
    (result : Unit) :
    (requireBound this answer).Commits before result after ↔
      answer = .ok (some this) ∧ after = before := by
  cases answer <;> simp [requireBound]

theorem setSettlementAdapter_commits {Ω : Type}
    (adapters : Env → SettlementAdapterClient Ω) (env : Env)
    (caller adapter : Address) (before after : State × Ω) (result : Unit) :
    (setSettlementAdapter adapters env caller adapter).Commits before result
        after ↔
      env.authorized caller = true ∧ before.1.roles .admin caller = true ∧
        adapter ≠ env.currentContract ∧
          ((adapters (env.invoke adapter)).payoutReceiver).Commits before.2
            (some env.currentContract) after.2 ∧
          before.1.settlementAdapter.isSome = true ∧
            after.1 =
              { before.1 with settlementAdapter := some adapter } := by
  obtain ⟨state, outside⟩ := before
  obtain ⟨stateAfter, outsideAfter⟩ := after
  simp only [setSettlementAdapter, bind_commits, internal_commits,
    requireRole_commits, panicIf_commits, attempt_commits, external_commits,
    requireBound_commits, read_commits, unwrapOr_commits, modify_commits,
    publish_commits, roleStorage_roles, exists_const, and_assoc,
    exists_and_left, exists_eq_left]
  constructor
  · rintro ⟨signed, admin, other, answer, _, outcome, rfl, _, stored, rest⟩
    obtain ⟨_, ⟨queried, answered, rfl⟩, equality⟩ | ⟨_, _, _, refused, _⟩ :=
      outcome
    · cases equality
      rw [Prod.mk.injEq] at rest
      obtain ⟨rfl, rfl⟩ := rest
      exact ⟨signed, admin, other, answered,
        Option.isSome_iff_exists.mpr ⟨_, stored⟩, rfl⟩
    · cases refused
  · rintro ⟨signed, admin, other, answered, stored, rfl⟩
    obtain ⟨previous, stored⟩ := Option.isSome_iff_exists.mp stored
    exact ⟨signed, admin, other, .ok (some env.currentContract),
      (state, outsideAfter), Or.inl ⟨_, ⟨outsideAfter, answered, rfl⟩, rfl⟩,
      rfl, previous, stored, rfl⟩

/-- The administrator's calls change neither what was verified nor the
addresses of the siblings. -/
theorem exec_administered {Ω : Type} (crypto : Crypto)
    (pm : Env → PolicyManagerClient Ω)
    (adapters : Env → SettlementAdapterClient Ω) (env : Env) {call : Call}
    (administers : call.administers = true) {before after : State × Ω}
    {result : Unit}
    (commits : (exec crypto pm adapters env call).Commits before result
      after) :
    Effect crypto pm adapters env before call after := by
  obtain ⟨state, outside⟩ := before
  cases call with
  | setSettlementAdapter caller adapter => simp [Call.administers] at administers
  | submitDetermination caller d signature recoveryId =>
      simp [Call.administers] at administers
  | submitDroughtDetermination caller d signature recoveryId =>
      simp [Call.administers] at administers
  | _ =>
      simp only [exec, internal_commits, setAuthorizedSigner,
        setNetworkDomain, grantRole, revokeRole, pause, unpause,
        setMethodologyEnabled, bind_commits, requireRole_commits,
        modify_commits, publish_commits, grantRole_commits,
        revokeRole_commits, roleStorage_roles, roleStorage_setRoles,
        exists_const, and_assoc, exists_and_left, exists_eq_left] at commits
      obtain ⟨signed, admin, rfl⟩ := commits
      exact .administered signed admin administers _ _ _ _ _

theorem exec_effect {Ω : Type} (crypto : Crypto)
    (pm : Env → PolicyManagerClient Ω)
    (adapters : Env → SettlementAdapterClient Ω) (env : Env) (call : Call)
    {before after : State × Ω} {result : Unit}
    (commits : (exec crypto pm adapters env call).Commits before result
      after) :
    Effect crypto pm adapters env before call after := by
  cases call with
  | setSettlementAdapter caller adapter =>
      obtain ⟨signed, admin, other, bound, _, equality⟩ :=
        (setSettlementAdapter_commits adapters env caller adapter before after
          result).mp commits
      obtain ⟨stateAfter, outsideAfter⟩ := after
      dsimp only at equality bound
      subst equality
      exact .swapped signed admin other bound
  | submitDetermination caller d signature recoveryId =>
      obtain ⟨policy, domain, policyManager, adapter, queried, fetched,
        checked, obligation, recorded, claimed, checks, interacts, equality⟩ :=
        (submitDetermination_commits crypto pm adapters env caller d signature
          recoveryId before after result).mp commits
      obtain ⟨stateAfter, outsideAfter⟩ := after
      dsimp only at equality interacts
      subst equality
      exact .submitted (.crop checks) interacts
  | submitDroughtDetermination caller d signature recoveryId =>
      obtain ⟨policy, domain, policyManager, adapter, queried, fetched,
        checked, obligation, recorded, claimed, checks, interacts, equality⟩ :=
        (submitDroughtDetermination_commits crypto pm adapters env caller d
          signature recoveryId before after result).mp commits
      obtain ⟨stateAfter, outsideAfter⟩ := after
      dsimp only at equality interacts
      subst equality
      exact .submitted (.drought checks) interacts
  | _ => exact exec_administered crypto pm adapters env rfl commits

end PayoutReceiver

end Microcrop
