import Mathlib.Algebra.Order.Ring.Rat
import Mathlib.Data.Nat.Cast.Order.Field
import Mathlib.Tactic.FieldSimp
import Mathlib.Tactic.Linarith
import Mathlib.Tactic.Positivity
import Mathlib.Tactic.Ring
import Microcrop.DroughtIndex
import Microcrop.PayoutReceiverEffects

/-!
# How the index rounds

The seven floors of rdi-1.0 against exact arithmetic.  The first four floors
of a window reduce it to a whole deficit between 0 and 100, so that the index
of all rainfalls is controlled by a grid of 101 by 101 deficits.  Less rain
never lowers the index.
-/

namespace Microcrop

namespace Drought

/-! ## Deficits -/

/-- The deficit of one window, in whole percent of its reference. -/
def deficit (rain reference : Nat) : Nat :=
  100 - min 1000 (1000 * rain / reference) / 10

/-- The loss of a window with that deficit. -/
def lossAt (ky deficit : Nat) : Nat :=
  min 100 (ky * deficit / 100)

/-- The damage of two windows with those deficits. -/
def damageAt (first second : Nat) : Nat :=
  100 - (100 - lossAt ky1E2 first) * (100 - lossAt ky2E2 second) / 100

theorem damage_eq_damageAt (w1 r1 w2 r2 : Nat) :
    damage w1 r1 w2 r2 = damageAt (deficit w1 r1) (deficit w2 r2) :=
  rfl

theorem deficit_le (rain reference : Nat) : deficit rain reference ≤ 100 :=
  Nat.sub_le _ _

/-- The whole deficit of a window that fell short of its reference. -/
theorem deficit_of_lt {rain reference : Nat} (short : rain < reference) :
    deficit rain reference = 100 - 100 * rain / reference := by
  have positive : 0 < reference := by omega
  have quotientLt : 1000 * rain / reference < 1000 :=
    (Nat.div_lt_iff_lt_mul positive).mpr (by omega)
  have tenth : 1000 * rain / reference / 10 = 100 * rain / reference := by
    rw [Nat.div_div_eq_div_mul, show 1000 * rain = 10 * (100 * rain) by omega,
      Nat.mul_comm reference 10, Nat.mul_div_mul_left _ _ (by decide)]
  unfold deficit
  rw [min_eq_right (by omega), tenth]

theorem deficit_of_le {rain reference : Nat} (positive : 0 < reference)
    (enough : reference ≤ rain) : deficit rain reference = 0 := by
  have quotientGe : 1000 ≤ 1000 * rain / reference :=
    (Nat.le_div_iff_mul_le positive).mpr (Nat.mul_le_mul_left _ enough)
  unfold deficit
  rw [min_eq_left quotientGe]

/-- What the recompute returns, from every state. -/
def Computes (w1 r1 w2 r2 result : Nat) : Prop :=
  ∀ {σ : Type} (before : σ),
    (rdiV1DroughtDamage w1 r1 w2 r2).Commits before (some result) before

theorem computes_iff (w1 r1 w2 r2 result : Nat) :
    Computes w1 r1 w2 r2 result ↔ index w1 r1 w2 r2 = some result := by
  constructor
  · intro computes
    exact ((rdiV1DroughtDamage_commits _ _ _ _ _ _ _).mp
      (computes ())).1.symm
  · intro defined σ before
    exact (rdiV1DroughtDamage_commits _ _ _ _ _ _ _).mpr
      ⟨defined.symm, rfl⟩

theorem index_eq_some {w1 r1 w2 r2 result : Nat}
    (defined : index w1 r1 w2 r2 = some result) :
    0 < r1 ∧ 0 < r2 ∧ result = damage w1 r1 w2 r2 := by
  unfold index at defined
  split at defined
  · cases defined
  · rename_i admissible
    exact ⟨by omega, by omega, (Option.some.inj defined).symm⟩

/-! ## Drier evidence -/

theorem deficit_mono {rain reference rain' reference' : Nat}
    (positive : 0 < reference') (rainLe : rain ≤ rain')
    (referenceLe : reference' ≤ reference) :
    deficit rain' reference' ≤ deficit rain reference := by
  have quotientLe : 1000 * rain / reference ≤ 1000 * rain' / reference' :=
    Nat.div_le_div (Nat.mul_le_mul_left _ rainLe) referenceLe (by omega)
  unfold deficit
  omega

theorem lossAt_mono (ky : Nat) {deficit deficit' : Nat}
    (deficitLe : deficit ≤ deficit') :
    lossAt ky deficit ≤ lossAt ky deficit' :=
  min_le_min_left _
    (Nat.div_le_div_right (Nat.mul_le_mul_left ky deficitLe))

theorem damageAt_mono {first second first' second' : Nat}
    (firstLe : first ≤ first') (secondLe : second ≤ second') :
    damageAt first second ≤ damageAt first' second' := by
  have firstLoss := lossAt_mono ky1E2 firstLe
  have secondLoss := lossAt_mono ky2E2 secondLe
  have product : (100 - lossAt ky1E2 first') * (100 - lossAt ky2E2 second') ≤
      (100 - lossAt ky1E2 first) * (100 - lossAt ky2E2 second) :=
    Nat.mul_le_mul (by omega) (by omega)
  exact Nat.sub_le_sub_left (Nat.div_le_div_right product) 100

/-- Below 34 percent of its reference the second window is a total loss. -/
theorem damage_of_failed {w1 r1 w2 r2 : Nat}
    (failed : 1000 * w2 < 340 * r2) : damage w1 r1 w2 r2 = 100 := by
  have positive : 0 < r2 := by omega
  have quotientLt : 1000 * w2 / r2 < 340 :=
    (Nat.div_lt_iff_lt_mul positive).mpr failed
  have deficitGe : 67 ≤ deficit w2 r2 := by
    unfold deficit
    omega
  have total : lossAt ky2E2 (deficit w2 r2) = 100 := by
    unfold lossAt ky2E2
    omega
  rw [damage_eq_damageAt, damageAt, total]
  simp

theorem damage_of_normal {w1 r1 w2 r2 : Nat} (positive1 : 0 < r1)
    (positive2 : 0 < r2) (normal1 : r1 ≤ w1) (normal2 : r2 ≤ w2) :
    damage w1 r1 w2 r2 = 0 := by
  rw [damage_eq_damageAt, deficit_of_le positive1 normal1,
    deficit_of_le positive2 normal2]
  decide

/-- Drier evidence never lowers the index, which is a percentage, zero in a
normal season and total when the second window fails. -/
structure FollowsDrought : Prop where
  drier : ∀ {w1 r1 w2 r2 w1' r1' w2' r2' result result'},
    Computes w1 r1 w2 r2 result → Computes w1' r1' w2' r2' result' →
      w1 ≤ w1' → w2 ≤ w2' → r1' ≤ r1 → r2' ≤ r2 → result' ≤ result
  percent : ∀ {w1 r1 w2 r2 result},
    Computes w1 r1 w2 r2 result → result ≤ 100
  normal : ∀ {w1 r1 w2 r2 result},
    Computes w1 r1 w2 r2 result → r1 ≤ w1 → r2 ≤ w2 → result = 0
  failed : ∀ {w1 r1 w2 r2 result},
    Computes w1 r1 w2 r2 result → 1000 * w2 < 340 * r2 → result = 100

theorem followsDrought : FollowsDrought where
  drier computes computes' rain1 rain2 reference1 reference2 := by
    obtain ⟨-, -, rfl⟩ := index_eq_some ((computes_iff _ _ _ _ _).mp computes)
    obtain ⟨positive1, positive2, rfl⟩ :=
      index_eq_some ((computes_iff _ _ _ _ _).mp computes')
    exact damageAt_mono (deficit_mono positive1 rain1 reference1)
      (deficit_mono positive2 rain2 reference2)
  percent computes := by
    obtain ⟨-, -, rfl⟩ := index_eq_some ((computes_iff _ _ _ _ _).mp computes)
    exact damage_le _ _ _ _
  normal computes normal1 normal2 := by
    obtain ⟨positive1, positive2, rfl⟩ :=
      index_eq_some ((computes_iff _ _ _ _ _).mp computes)
    exact damage_of_normal positive1 positive2 normal1 normal2
  failed computes failed := by
    obtain ⟨-, -, rfl⟩ := index_eq_some ((computes_iff _ _ _ _ _).mp computes)
    exact damage_of_failed failed

/-! ## Exact arithmetic -/

/-- The deficit of one window in exact arithmetic, in percent. -/
def exactDeficit (rain reference : Nat) : ℚ :=
  100 * (1 - min 1 ((rain : ℚ) / reference))

/-- The index in exact arithmetic, in percent. -/
def exactIndex (w1 r1 w2 r2 : Nat) : ℚ :=
  100 - (100 - 2 / 5 * exactDeficit w1 r1) *
    (100 - min 100 (3 / 2 * exactDeficit w2 r2)) / 100

/-- The whole deficit is the exact one, rounded up by less than a point. -/
theorem deficit_bounds (rain : Nat) {reference : Nat}
    (positive : 0 < reference) :
    ((deficit rain reference - 1 : Nat) : ℚ) ≤ exactDeficit rain reference ∧
      exactDeficit rain reference ≤ deficit rain reference := by
  have referencePos : (0 : ℚ) < reference := by exact_mod_cast positive
  by_cases short : rain < reference
  · have ratioLt : (rain : ℚ) / reference < 1 := by
      rw [div_lt_one referencePos]
      exact_mod_cast short
    have exact : exactDeficit rain reference =
        100 - 100 * rain / reference := by
      unfold exactDeficit
      rw [min_eq_right ratioLt.le]
      ring
    have floorLe : ((100 * rain / reference : Nat) : ℚ) ≤
        100 * rain / reference := by
      have := @Nat.cast_div_le ℚ _ _ _ (100 * rain) reference
      push_cast at this
      exact this
    have ltFloor : (100 * rain / reference : ℚ) <
        (100 * rain / reference : Nat) + 1 := by
      rw [div_lt_iff₀ referencePos]
      have := Nat.lt_mul_div_succ (100 * rain) positive
      have cast : ((100 * rain : Nat) : ℚ) <
          ((reference * (100 * rain / reference + 1) : Nat) : ℚ) := by
        exact_mod_cast this
      push_cast at cast
      linarith
    have floorLt : 100 * rain / reference < 100 :=
      (Nat.div_lt_iff_lt_mul positive).mpr (by omega)
    rw [exact, deficit_of_lt short]
    constructor
    · rw [Nat.sub_sub, Nat.cast_sub (by omega)]
      push_cast
      linarith
    · rw [Nat.cast_sub floorLt.le]
      push_cast
      linarith
  · have enough : reference ≤ rain := by omega
    have ratioGe : 1 ≤ (rain : ℚ) / reference := by
      rw [one_le_div referencePos]
      exact_mod_cast enough
    rw [deficit_of_le positive enough]
    unfold exactDeficit
    rw [min_eq_left ratioGe]
    simp

/-! ## The grid of deficits -/

/-- What two windows keep of 100 percent, times 100, at exact deficits. -/
def exactKept (first second : ℚ) : ℚ :=
  (100 - 2 / 5 * first) * (100 - min 100 (3 / 2 * second))

/-- What two windows keep of 100 percent after all floors. -/
def kept (first second : Nat) : Nat :=
  (100 - lossAt ky1E2 first) * (100 - lossAt ky2E2 second) / 100

/-- Twenty times `exactKept`, at whole deficits. -/
def gridKept (first second : Nat) : Nat :=
  (1000 - 4 * first) * (200 - min 200 (3 * second))

theorem kept_le (first second : Nat) : kept first second ≤ 100 := by
  have product : (100 - lossAt ky1E2 first) * (100 - lossAt ky2E2 second) ≤
      100 * 100 :=
    Nat.mul_le_mul (Nat.sub_le _ _) (Nat.sub_le _ _)
  unfold kept
  omega

theorem gridKept_cast {first second : Nat} (firstLe : first ≤ 100) :
    ((gridKept first second : Nat) : ℚ) = 20 * exactKept first second := by
  have capped : ((min 200 (3 * second) : Nat) : ℚ) =
      2 * min 100 (3 / 2 * (second : ℚ)) := by
    rw [mul_min_of_nonneg _ _ (by norm_num : (0 : ℚ) ≤ 2)]
    push_cast
    congr 1
    · norm_num
    · ring
  unfold gridKept exactKept
  rw [Nat.cast_mul, Nat.cast_sub (by omega), Nat.cast_sub (by omega), capped]
  push_cast
  ring

theorem exactKept_antitone {first second first' second' : ℚ}
    (firstLe : first ≤ first') (secondLe : second ≤ second')
    (bounded : first' ≤ 100) :
    exactKept first' second' ≤ exactKept first second := by
  have capped : min 100 (3 / 2 * second) ≤ min 100 (3 / 2 * second') :=
    min_le_min le_rfl (by linarith)
  have nonneg : min 100 (3 / 2 * second') ≤ 100 := min_le_left _ _
  unfold exactKept
  exact mul_le_mul (by linarith) (by linarith) (by linarith) (by linarith)

/-- On the grid the floors keep at most 2.71 points too little and at most 1.3
points too much. -/
theorem grid_bounds : ∀ first < 101, ∀ second < 101,
    gridKept (first - 1) (second - 1) ≤ 2000 * kept first second + 5420 ∧
      2000 * kept first second ≤ gridKept first second + 2600 := by
  decide +kernel

/-- The bias of the index at two windows with positive references. -/
theorem bias_bounds (w1 w2 : Nat) {r1 r2 : Nat} (positive1 : 0 < r1)
    (positive2 : 0 < r2) :
    -13 / 10 ≤ (damage w1 r1 w2 r2 : ℚ) - exactIndex w1 r1 w2 r2 ∧
      (damage w1 r1 w2 r2 : ℚ) - exactIndex w1 r1 w2 r2 ≤ 271 / 100 := by
  have firstLe := deficit_le w1 r1
  have secondLe := deficit_le w2 r2
  obtain ⟨firstLow, firstHigh⟩ := deficit_bounds w1 positive1
  obtain ⟨secondLow, secondHigh⟩ := deficit_bounds w2 positive2
  have bounded : exactDeficit w1 r1 ≤ 100 :=
    firstHigh.trans (by exact_mod_cast firstLe)
  obtain ⟨upper, lower⟩ := grid_bounds (deficit w1 r1) (by omega)
    (deficit w2 r2) (by omega)
  have above := exactKept_antitone firstLow secondLow bounded
  have below := exactKept_antitone firstHigh secondHigh
    (by exact_mod_cast firstLe)
  have upperCast : (20 : ℚ) * exactKept (deficit w1 r1 - 1 : Nat)
      (deficit w2 r2 - 1 : Nat) ≤
        2000 * kept (deficit w1 r1) (deficit w2 r2) + 5420 := by
    rw [← gridKept_cast (by omega)]
    exact_mod_cast upper
  have lowerCast : (2000 : ℚ) * kept (deficit w1 r1) (deficit w2 r2) ≤
      20 * exactKept (deficit w1 r1) (deficit w2 r2) + 2600 := by
    rw [← gridKept_cast firstLe]
    exact_mod_cast lower
  have whole : (damage w1 r1 w2 r2 : ℚ) =
      100 - kept (deficit w1 r1) (deficit w2 r2) := by
    rw [damage_eq_damageAt]
    change ((100 - kept (deficit w1 r1) (deficit w2 r2) : Nat) : ℚ) = _
    rw [Nat.cast_sub (kept_le _ _)]
    norm_num
  have exact : exactIndex w1 r1 w2 r2 =
      100 - exactKept (exactDeficit w1 r1) (exactDeficit w2 r2) / 100 :=
    rfl
  rw [whole, exact]
  constructor <;> linarith

section JustBelow

variable {percent n : Nat} (percentPos : 0 < percent) (percentLt : percent < 100)
  (positive : 0 < n)

include percentPos percentLt positive

/-- Just below a whole percentage the deficit is rounded up by a point. -/
theorem deficit_justBelow :
    deficit (percent * n - 1) (100 * n) = 101 - percent := by
  have atLeast : n ≤ percent * n := Nat.le_mul_of_pos_left n percentPos
  have below : percent * n ≤ 99 * n := Nat.mul_le_mul_right n (by omega)
  have floor : (percent * n - 1) / n = percent - 1 := by
    refine Nat.div_eq_of_lt_le ?_ ?_
    · rw [Nat.sub_mul]
      omega
    · rw [Nat.sub_add_cancel percentPos]
      omega
  rw [deficit_of_lt (by omega), Nat.mul_div_mul_left _ _ (by decide), floor]
  omega

theorem exactDeficit_justBelow :
    exactDeficit (percent * n - 1) (100 * n) = 100 - percent + 1 / n := by
  have atLeast : n ≤ percent * n := Nat.le_mul_of_pos_left n percentPos
  have below : percent * n ≤ 99 * n := Nat.mul_le_mul_right n (by omega)
  have nPos : (0 : ℚ) < n := by exact_mod_cast positive
  have short : ((percent * n - 1 : Nat) : ℚ) ≤ (100 * n : Nat) := by
    exact_mod_cast (by omega : percent * n - 1 ≤ 100 * n)
  have ratioLe : ((percent * n - 1 : Nat) : ℚ) / (100 * n : Nat) ≤ 1 :=
    div_le_one_of_le₀ short (Nat.cast_nonneg _)
  unfold exactDeficit
  rw [min_eq_right ratioLe, Nat.cast_sub (by omega)]
  push_cast
  field_simp
  ring

end JustBelow

/-- The bound from above cannot be lowered: it is approached just below 91 and
85 percent of the references. -/
theorem bias_near_bound {n : Nat} (positive : 0 < n) :
    damage (91 * n - 1) (100 * n) (85 * n - 1) (100 * n) = 28 ∧
      271 / 100 - 2 / (n : ℚ) ≤
        28 - exactIndex (91 * n - 1) (100 * n) (85 * n - 1) (100 * n) := by
  have nPos : (0 : ℚ) < n := by exact_mod_cast positive
  have oneLe : (1 : ℚ) ≤ n := by exact_mod_cast positive
  constructor
  · rw [damage_eq_damageAt, deficit_justBelow (by decide) (by decide) positive,
      deficit_justBelow (by decide) (by decide) positive]
    decide
  · have inverseLe : 1 / (n : ℚ) ≤ 1 := (div_le_one nPos).mpr oneLe
    have inversePos : 0 < 1 / (n : ℚ) := by positivity
    unfold exactIndex
    rw [exactDeficit_justBelow (by decide) (by decide) positive,
      exactDeficit_justBelow (by decide) (by decide) positive,
      min_eq_right (by push_cast; linarith)]
    have double : 2 / (n : ℚ) = 2 * (1 / n) := by ring
    rw [double]
    push_cast
    nlinarith

/-! ## The documented bias -/

/-- Evidence within the bounds that a receiver enforces. -/
structure Admissible (w1 r1 w2 r2 : Nat) : Prop where
  reference1_pos : 0 < r1
  reference2_pos : 0 < r2
  rain1_le : w1 ≤ maxRainE2
  reference1_le : r1 ≤ maxRainE2
  rain2_le : w2 ≤ maxRainE2
  reference2_le : r2 ≤ maxRainE2

/-- On all admissible evidence the index is at most 2.71 points above and 1.3
points below exact arithmetic, and so is the rate that a receiver pays. -/
theorem roundingBias :
    (∀ w1 r1 w2 r2, Admissible w1 r1 w2 r2 →
      ∃ damage : Nat,
        Computes w1 r1 w2 r2 damage ∧
          -13 / 10 ≤ (damage : ℚ) - exactIndex w1 r1 w2 r2 ∧
            (damage : ℚ) - exactIndex w1 r1 w2 r2 ≤ 271 / 100) ∧
      ∀ d : DroughtDetermination, PayoutReceiver.DroughtEvidence d →
        -130 ≤ (d.damagePercentBp.val : ℚ) - 100 * exactIndex
            d.rainW1E2.val d.rainRefW1E2.val d.rainW2E2.val
            d.rainRefW2E2.val ∧
          (d.damagePercentBp.val : ℚ) - 100 * exactIndex d.rainW1E2.val
            d.rainRefW1E2.val d.rainW2E2.val d.rainRefW2E2.val ≤ 271 := by
  refine ⟨?_, ?_⟩
  · intro w1 r1 w2 r2 admissible
    have defined : index w1 r1 w2 r2 = some (damage w1 r1 w2 r2) := by
      have := admissible.reference1_pos
      have := admissible.reference2_pos
      have := admissible.rain1_le
      have := admissible.rain2_le
      unfold index
      rw [if_neg (by omega)]
    exact ⟨damage w1 r1 w2 r2, (computes_iff _ _ _ _ _).mpr defined,
      bias_bounds _ _ admissible.reference1_pos admissible.reference2_pos⟩
  · intro d evidence
    obtain ⟨low, high⟩ := bias_bounds d.rainW1E2.val d.rainW2E2.val
      (Nat.pos_of_ne_zero evidence.reference1_pos)
      (Nat.pos_of_ne_zero evidence.reference2_pos)
    obtain ⟨-, -, whole⟩ := index_eq_some evidence.index
    have unit : (d.damagePercentBp.val : ℚ) = d.droughtDamage.val * 100 := by
      rw [evidence.unit]
      push_cast
      rfl
    rw [← whole] at low high
    rw [unit]
    constructor <;> linarith

theorem roundingBias_v1 :
    (∃ damage : Nat,
      Computes 20000 20000 12600 18000 damage ∧
        -13 / 10 ≤ (damage : ℚ) - exactIndex 20000 20000 12600 18000 ∧
          (damage : ℚ) - exactIndex 20000 20000 12600 18000 ≤ 271 / 100) ∧
      -130 ≤ (4500 : ℚ) - 100 * exactIndex 20000 20000 12600 18000 ∧
        (4500 : ℚ) - 100 * exactIndex 20000 20000 12600 18000 ≤ 271 := by
  have evidence : PayoutReceiver.DroughtEvidence v1 := by
    constructor <;> decide +kernel
  exact ⟨roundingBias.1 20000 20000 12600 18000 (by constructor <;> decide),
    roundingBias.2 v1 evidence⟩

/-- Two windows at 85.9 and 78.9 percent of their references, a loss that is
paid: the index is 38, and exact arithmetic stays below 35.6. -/
theorem bias_exceeds_documented :
    Admissible 859 1000 789 1000 ∧ index 859 1000 789 1000 = some 38 ∧
      24 / 10 < 38 - exactIndex 859 1000 789 1000 ∧
        240 < 3800 - 100 * exactIndex 859 1000 789 1000 := by
  have first : exactDeficit 859 1000 = 141 / 10 := by
    norm_num [exactDeficit]
  have second : exactDeficit 789 1000 = 211 / 10 := by
    norm_num [exactDeficit]
  have exact : exactIndex 859 1000 789 1000 = 3550494 / 100000 := by
    rw [exactIndex, first, second]
    norm_num
  refine ⟨by constructor <;> decide, by decide, ?_, ?_⟩
  · rw [exact]
    norm_num
  · rw [exact]
    norm_num

end Drought

end Microcrop
