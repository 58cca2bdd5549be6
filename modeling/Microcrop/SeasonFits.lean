import Microcrop.PayoutReceiverEffects
import Microcrop.PolicyLifecycle

/-!
# The sale floor is the settlement floor

PolicyManager refuses Drought cover shorter than 117 days; a PayoutReceiver
settles a season of 110 days that lies inside the cover, and the rainfall
archive adds seven days before the assessment.  The two bounds are the same
one, whatever second of the day cover starts.
-/

namespace Microcrop

open Transaction

namespace PayoutReceiver

/-- How far the rainfall archive is behind. -/
def archiveLagSecs : Nat := 7 * 86400

/-- From the start of a season to its earliest assessment. -/
def assessmentSecs : Nat := Drought.seasonWindowSecs + archiveLagSecs

/-- The same determination for a season and a time of assessment. -/
def assessed (d : DroughtDetermination) (seasonStart assessedAt : U64) :
    DroughtDetermination :=
  { d with seasonStartEpoch := seasonStart, assessedAt }

/-- A determination that the archive allows and that passes the checks of the
season against the cover and the clock. -/
structure Settleable (env : Env) (policy : Policy) (d : DroughtDetermination) :
    Prop where
  midnight : d.seasonStartEpoch.val % Drought.secondsPerDay = 0
  archived : d.seasonStartEpoch.val + assessmentSecs ≤ d.assessedAt.val
  inCover : env.timestamp ≤ policy.endDate
  window : WithinCover policy d
  fresh : Fresh env d.assessedAt.val

/-- Every accepted submission passes these checks. -/
theorem DroughtChecks.settleable {crypto : Crypto} {env : Env} {state : State}
    {caller : Address} {d : DroughtDetermination} {signature : BytesN 64}
    {recoveryId : U32} {policy : Policy} {domain : BytesN 32}
    (checks : DroughtChecks crypto env state caller d signature recoveryId
      policy domain)
    (archived : d.seasonStartEpoch.val + assessmentSecs ≤ d.assessedAt.val) :
    Settleable env policy d where
  midnight := checks.evidence.midnight
  archived := archived
  inCover := checks.submittable.inCover
  window := checks.window
  fresh := checks.submittable.fresh

/-- The season that starts at the midnight before activation settles at any
time between its assessment and the end of cover. -/
theorem settleable_of_inCover {policy : Policy} (d : DroughtDetermination)
    (env : Env) {seasonStart : U64}
    (midnight : seasonStart.val =
      policy.startDate - policy.startDate % Drought.secondsPerDay)
    (archived : seasonStart.val + assessmentSecs ≤ env.timestamp)
    (inCover : env.timestamp ≤ policy.endDate) :
    Settleable env policy
      (assessed d seasonStart ⟨env.timestamp, env.timestamp_lt⟩) := by
  have shorter : Drought.seasonWindowSecs ≤ assessmentSecs := by decide
  refine ⟨?_, archived, inCover, ⟨?_, ?_, ?_⟩, ⟨le_rfl, ?_⟩⟩
  · change seasonStart.val % Drought.secondsPerDay = 0
    unfold Drought.secondsPerDay at midnight ⊢
    omega
  · exact midnight.ge
  · change seasonStart.val + Drought.seasonWindowSecs ≤ policy.endDate
    omega
  · change seasonStart.val + Drought.seasonWindowSecs ≤ env.timestamp
    omega
  · exact Nat.le_add_right _ _

section Cover

variable {policy : Policy} {days : Nat}
  (covers : policy.endDate =
    policy.startDate + days * PolicyManager.secondsPerDay)

include covers

/-- A season that settles needs the floor: it starts on the day of activation
at the earliest. -/
theorem Settleable.floor_le {env : Env} {d : DroughtDetermination}
    (settleable : Settleable env policy d) :
    PolicyManager.minDroughtDurationDays ≤ days := by
  have archived := settleable.archived
  have inCover := settleable.inCover
  have planted := settleable.window.planted
  have past := settleable.fresh.1
  unfold PolicyManager.secondsPerDay at covers
  unfold assessmentSecs archiveLagSecs Drought.seasonWindowSecs at archived
  unfold Drought.secondsPerDay at planted
  unfold PolicyManager.minDroughtDurationDays
  omega

/-- From the floor on, the assessment is possible before the end of cover. -/
theorem assessment_le_end
    (long : PolicyManager.minDroughtDurationDays ≤ days) :
    policy.startDate - policy.startDate % Drought.secondsPerDay +
      assessmentSecs ≤ policy.endDate := by
  unfold PolicyManager.minDroughtDurationDays at long
  unfold PolicyManager.secondsPerDay at covers
  unfold assessmentSecs archiveLagSecs Drought.seasonWindowSecs
  omega

end Cover

/-- A call that nobody signed. -/
def unsignedEnv (timestamp : Nat) (timestamp_lt : timestamp < 2 ^ 64) :
    Env where
  timestamp := timestamp
  timestamp_lt := timestamp_lt
  currentContract := .contract (.repeat 32 0)
  authorized _ := false

/-- From the floor on, some season settles. -/
theorem exists_settleable {policy : Policy} {days : Nat}
    (covers : policy.endDate =
      policy.startDate + days * PolicyManager.secondsPerDay)
    (ends : policy.endDate < 2 ^ 64)
    (long : PolicyManager.minDroughtDurationDays ≤ days)
    (d : DroughtDetermination) :
    ∃ env seasonStart assessedAt,
      Settleable env policy (assessed d seasonStart assessedAt) := by
  have inTime := assessment_le_end covers long
  have startLt : policy.startDate - policy.startDate % Drought.secondsPerDay <
      2 ^ 64 := by omega
  have settleable : Settleable (unsignedEnv policy.endDate ends) policy
      (assessed d ⟨_, startLt⟩ ⟨policy.endDate, ends⟩) :=
    settleable_of_inCover d _ rfl inTime le_rfl
  exact ⟨_, _, _, settleable⟩

end PayoutReceiver

namespace PolicyManager

/-- The policy was sold for a number of days that `create_policy` accepts, and
its cover still lasts that long. -/
def LastsAsSold (policy : Policy) : Prop :=
  policy.endDate < 2 ^ 64 ∧
    ∃ days, ValidCover policy.latE6 policy.lonE6 policy.sumInsured
        policy.premium days policy.coverageType ∧
      policy.endDate = policy.startDate + days * secondsPerDay

/-- Every stored policy lasts as sold. -/
def State.AllLast (state : State) : Prop :=
  ∀ policyId policy, state.policies policyId = some policy →
    LastsAsSold policy

theorem allLast_exec {Ω : Type} {nft : Env → PolicyNftClient Ω} {env : Env}
    {call : Call} {before after : State × Ω}
    (commits : (exec nft env call).Commits before () after)
    (allLast : before.1.AllLast) : after.1.AllLast := by
  have effect := exec_effect nft env call commits
  cases effect with
  | administered => exact allLast
  | sold signed backend valid capacity =>
      exact KeyedStore.forall_written allLast
        ⟨capacity.endDate_lt, _, valid, rfl⟩
  | @activated caller policyId distributor distributorName region address
      policy tokenId outside signed backend wired stored pending inTime cap
      ordered minted =>
      obtain ⟨-, days, valid, endDate⟩ := allLast _ _ stored
      obtain ⟨-, -, _, same, -, -, storedSame, -, -, -, -, endLt, -⟩ :=
        (activatePolicy_commits _ _ _ _ _ _ _ _ _ _).mp commits
      rw [stored] at storedSame
      cases storedSame
      unfold State.AllLast
      rw [State.activate_policies]
      have lasts : env.timestamp + (policy.endDate - policy.startDate) =
          env.timestamp + days * secondsPerDay := by
        omega
      exact KeyedStore.forall_written allLast ⟨endLt, days, valid, lasts⟩
  | closedActive stored active cause deactivates =>
      unfold State.AllLast
      rw [State.closeActive_policies]
      have lasts := allLast _ _ stored
      exact KeyedStore.forall_written allLast lasts
  | closedPending stored pending cause =>
      unfold State.AllLast
      rw [State.closePending_policies]
      have lasts := allLast _ _ stored
      exact KeyedStore.forall_written allLast lasts
  | claimCounted => exact allLast
  | alreadyExpired => exact allLast

theorem allLast_run {Ω : Type} (admin : Address) (inputs : List (Input Ω)) :
    (History.run apply (constructor admin) inputs).AllLast := by
  refine History.run_invariant apply (fun _ => True) State.AllLast ?_ inputs
    ?_ (fun _ _ => trivial)
  · intro state input _ allLast
    rcases advance_cases (exec input.nft input.env input.call)
      (state, input.outside) with ⟨-, same⟩ | ⟨-, _, commits⟩
    · unfold apply
      rw [same]
      exact allLast
    · exact allLast_exec commits allLast
  · intro policyId policy stored
    cases stored

/-- Cover shorter than the floor is refused. -/
theorem createPolicy_refused {env : Env} {caller farmer : Address}
    {plotId : Nat} {latE6 lonE6 sumInsured premium : Int} {durationDays : Nat}
    {coverageType : CoverageType} {org : Address}
    (short : durationDays < minDroughtDurationDays) (before after : State)
    (policyId : Nat) :
    ¬ (createPolicy env caller farmer plotId latE6 lonE6 sumInsured premium
      durationDays coverageType org).Commits before policyId after := by
  intro commits
  obtain ⟨-, -, valid, -⟩ :=
    (createPolicy_commits _ _ _ _ _ _ _ _ _ _ _ _ _ _).mp commits
  have long := valid.duration_ge
  omega

/-- The bound on the sale and the bound on the settlement are the same: a
season of a cover of whole days can be settled if and only if the cover is not
shorter than the floor; so every policy that is sold can be settled, and no
cover that is refused as too short could. -/
theorem saleFloor :
    (∀ (policy : Policy) (days : Nat) (d : DroughtDetermination),
      policy.endDate = policy.startDate + days * secondsPerDay →
        policy.endDate < 2 ^ 64 →
          ((∃ env seasonStart assessedAt, PayoutReceiver.Settleable env policy
              (PayoutReceiver.assessed d seasonStart assessedAt)) ↔
            117 ≤ days) ∧
          (117 ≤ days →
            policy.startDate - policy.startDate % Drought.secondsPerDay +
                PayoutReceiver.assessmentSecs ≤ policy.endDate ∧
              ∀ (env : Env) (seasonStart : U64),
                seasonStart.val = policy.startDate -
                    policy.startDate % Drought.secondsPerDay →
                  seasonStart.val + PayoutReceiver.assessmentSecs ≤
                      env.timestamp →
                    env.timestamp ≤ policy.endDate →
                      PayoutReceiver.Settleable env policy
                        (PayoutReceiver.assessed d seasonStart
                          ⟨env.timestamp, env.timestamp_lt⟩))) ∧
      (∀ {Ω : Type} (admin : Address) (inputs : List (Input Ω)) policyId
          policy,
        (History.run apply (constructor admin) inputs).policies policyId =
            some policy →
          ∃ env d, PayoutReceiver.Settleable env policy d) ∧
      ∀ (env : Env) (caller farmer : Address) (plotId : Nat)
          (latE6 lonE6 sumInsured premium : Int) (durationDays : Nat)
          (coverageType : CoverageType) (org : Address)
          (before after : State) (policyId : Nat),
        durationDays < 117 →
          ¬ (createPolicy env caller farmer plotId latE6 lonE6 sumInsured
            premium durationDays coverageType org).Commits before policyId
              after := by
  refine ⟨?_, ?_, ?_⟩
  · intro policy days d covers ends
    refine ⟨⟨?_, ?_⟩, ?_⟩
    · rintro ⟨env, seasonStart, assessedAt, settleable⟩
      exact settleable.floor_le covers
    · intro long
      exact PayoutReceiver.exists_settleable covers ends long d
    · intro long
      refine ⟨PayoutReceiver.assessment_le_end covers long, ?_⟩
      intro env seasonStart midnight archived inCover
      exact PayoutReceiver.settleable_of_inCover d env midnight archived
        inCover
  · intro Ω admin inputs policyId policy stored
    obtain ⟨ends, days, valid, covers⟩ :=
      allLast_run admin inputs policyId policy stored
    obtain ⟨env, seasonStart, assessedAt, settleable⟩ :=
      PayoutReceiver.exists_settleable covers ends valid.duration_ge v1
    exact ⟨env, _, settleable⟩
  · intro env caller farmer plotId latE6 lonE6 sumInsured premium durationDays
      coverageType org before after policyId short
    exact createPolicy_refused short before after policyId

theorem saleFloor_soldAndClaimed :
    ∃ policy, (History.run apply (constructor (seasonAddress 1))
        (soldAndClaimed (seasonAddress 1) (seasonAddress 2))).policies 1 =
          some policy ∧
      ∃ env d, PayoutReceiver.Settleable env policy d := by
  obtain ⟨policy, stored⟩ : ∃ policy, (History.run apply
      (constructor (seasonAddress 1)) (soldAndClaimed (seasonAddress 1)
        (seasonAddress 2))).policies 1 = some policy :=
    Option.isSome_iff_exists.mp (by decide +kernel)
  exact ⟨policy, stored, saleFloor.2.1 (seasonAddress 1)
    (soldAndClaimed (seasonAddress 1) (seasonAddress 2)) 1 policy stored⟩

end PolicyManager

end Microcrop
