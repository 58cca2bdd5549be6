import Microcrop.Host

/-!
# The rdi-1.0 drought index

`microcrop-shared::drought`: the index recomputed from the signed rainfall.
The recompute follows the source with its checked `u128` arithmetic; the
characterization shows that on every admissible input it neither traps nor
truncates and returns the closed form `index`.
-/

namespace Microcrop

namespace Drought

open Transaction

/-- Length of growing period the methodology is defined for. -/
def lgpDays : Nat := 180

def maxCddW2Days : Nat := 40

/-- Upper bound on any rainfall value, centi-mm. -/
def maxRainE2 : Nat := 1000000000

def secondsPerDay : Nat := 86400

/-- The measurement window ends 110 days after the season starts. -/
def seasonWindowSecs : Nat := 110 * 86400

/-- Yield response factor of the first window, x100. -/
def ky1E2 : Nat := 40

/-- Yield response factor of the second window, x100. -/
def ky2E2 : Nat := 150

section Recompute

variable {σ : Type}

/-- The yield loss of one rainfall window: its ratio, deficit and loss, one
line of the source each. -/
def windowLoss (ky rain reference : Nat) : Contract σ Nat := do
  let scaled ← mulUnsigned 128 1000 rain
  let quotient ← divUnsigned scaled reference
  let ratio := min 1000 quotient
  let deficit ← subUnsigned 100 (ratio / 10)
  let weighted ← mulUnsigned 128 ky deficit
  pure (min 100 (weighted / 100))

/-- `rdi_v1_drought_damage`. -/
def rdiV1DroughtDamage (w1 r1 w2 r2 : Nat) : Contract σ (Option Nat) :=
  if r1 = 0 ∨ r2 = 0 ∨ w1 > maxRainE2 ∨ w2 > maxRainE2 then
    pure none
  else do
    let g1 ← windowLoss ky1E2 w1 r1
    let g2 ← windowLoss ky2E2 w2 r2
    let kept1 ← subUnsigned 100 g1
    let kept2 ← subUnsigned 100 g2
    let product ← mulUnsigned 128 kept1 kept2
    let damage ← subUnsigned 100 (product / 100)
    pure (some (damage % 2 ^ 32))

end Recompute

/-! ## The closed form -/

/-- The yield loss of one window, in whole percent. -/
def loss (ky rain reference : Nat) : Nat :=
  min 100 (ky * (100 - min 1000 (1000 * rain / reference) / 10) / 100)

/-- The drought damage, in whole percent. -/
def damage (w1 r1 w2 r2 : Nat) : Nat :=
  100 - (100 - loss ky1E2 w1 r1) * (100 - loss ky2E2 w2 r2) / 100

/-- The index of admissible evidence. -/
def index (w1 r1 w2 r2 : Nat) : Option Nat :=
  if r1 = 0 ∨ r2 = 0 ∨ w1 > maxRainE2 ∨ w2 > maxRainE2 then none
  else some (damage w1 r1 w2 r2)

theorem loss_le (ky rain reference : Nat) : loss ky rain reference ≤ 100 :=
  min_le_left _ _

theorem damage_le (w1 r1 w2 r2 : Nat) : damage w1 r1 w2 r2 ≤ 100 :=
  Nat.sub_le _ _

section Recompute

variable {σ : Type}

theorem windowLoss_commits (ky : Nat) {rain reference : Nat}
    (kyLe : ky ≤ 1000) (rainLe : rain ≤ maxRainE2) (positive : reference ≠ 0)
    (before after : σ) (result : Nat) :
    (windowLoss ky rain reference).Commits before result after ↔
      result = loss ky rain reference ∧ after = before := by
  have scaledLt : 1000 * rain < 2 ^ 128 := by
    unfold maxRainE2 at rainLe
    omega
  have ratioLe : min 1000 (1000 * rain / reference) / 10 ≤ 100 := by
    have := min_le_left 1000 (1000 * rain / reference)
    omega
  have weightedLt :
      ky * (100 - min 1000 (1000 * rain / reference) / 10) < 2 ^ 128 := by
    have deficitLe : 100 - min 1000 (1000 * rain / reference) / 10 ≤ 100 :=
      Nat.sub_le _ _
    have product := Nat.mul_le_mul kyLe deficitLe
    omega
  simp only [windowLoss, bind_commits, mulUnsigned_commits,
    divUnsigned_commits, subUnsigned_commits, pure_commits, and_assoc,
    exists_and_left, exists_eq_left]
  constructor
  · rintro ⟨-, -, -, -, equality, same⟩
    exact ⟨equality, same⟩
  · rintro ⟨equality, same⟩
    exact ⟨scaledLt, positive, ratioLe, weightedLt, equality, same⟩

/-- The recompute always returns the index. -/
@[simp]
theorem rdiV1DroughtDamage_commits (w1 r1 w2 r2 : Nat) (before after : σ)
    (result : Option Nat) :
    (rdiV1DroughtDamage w1 r1 w2 r2).Commits before result after ↔
      result = index w1 r1 w2 r2 ∧ after = before := by
  unfold rdiV1DroughtDamage index
  split <;> rename_i admissible
  · simp
  · simp only [not_or, not_lt, gt_iff_lt] at admissible
    obtain ⟨positive1, positive2, rain1, rain2⟩ := admissible
    have kept1 := loss_le ky1E2 w1 r1
    have kept2 := loss_le ky2E2 w2 r2
    have damageLe := damage_le w1 r1 w2 r2
    have product : (100 - loss ky1E2 w1 r1) * (100 - loss ky2E2 w2 r2) ≤
        100 * 100 :=
      Nat.mul_le_mul (Nat.sub_le _ _) (Nat.sub_le _ _)
    have exact : damage w1 r1 w2 r2 % 2 ^ 32 = damage w1 r1 w2 r2 :=
      Nat.mod_eq_of_lt (by omega)
    simp only [bind_commits,
      windowLoss_commits ky1E2 (by decide) rain1 positive1,
      windowLoss_commits ky2E2 (by decide) rain2 positive2,
      subUnsigned_commits, mulUnsigned_commits, pure_commits, and_assoc,
      exists_and_left, exists_eq_left]
    constructor
    · rintro ⟨-, -, -, -, equality, same⟩
      exact ⟨equality.trans (congrArg some exact), same⟩
    · rintro ⟨equality, same⟩
      exact ⟨kept1, kept2, by omega, by omega,
        equality.trans (congrArg some exact.symm), same⟩

theorem rdiV1DroughtDamage_fails (w1 r1 w2 r2 : Nat) (before : σ)
    (error : Error) :
    ¬ (rdiV1DroughtDamage w1 r1 w2 r2).Fails before error :=
  ((rdiV1DroughtDamage_commits w1 r1 w2 r2 before before _).mpr
    ⟨rfl, rfl⟩).not_fails error

end Recompute

/-- The canonical vector of the methodology: 70% of normal rain in the second
window. -/
example : index 20000 20000 12600 18000 = some 45 := by decide

end Drought

end Microcrop
