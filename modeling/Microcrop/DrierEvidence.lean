import Microcrop.DroughtAcceptance
import Microcrop.IndexBounds

/-!
# Drier evidence never pays less

Two accepted determinations for the same policy are settled on the same sum
insured, and the index decides the rest: the drier one pays at least as much,
and equal rainfall leaves no choice.
-/

namespace Microcrop

open Transaction

namespace PolicyManager

/-- The policy `policyId` is insured for `sumInsured`. -/
def State.InsuredFor (state : State) (policyId : Nat) (sumInsured : Int) :
    Prop :=
  ∃ policy, state.policies policyId = some policy ∧
    policy.sumInsured = sumInsured

/-- No call changes the sum insured of a stored policy. -/
theorem insuredFor_effect {Ω : Type} {nft : Env → PolicyNftClient Ω}
    {env : Env} {call : Call} {before after : State × Ω}
    (effect : Effect nft env before call after)
    (accounted : before.1.Accounted) {policyId : Nat} {sumInsured : Int}
    (insured : before.1.InsuredFor policyId sumInsured) :
    after.1.InsuredFor policyId sumInsured := by
  obtain ⟨policy, stored, sum⟩ := insured
  have replaced : ∀ {other : Nat} {old : Policy},
      before.1.policies other = some old → ∀ changed : Policy,
        changed.sumInsured = old.sumInsured →
          ∃ found, Function.update before.1.policies old.id (some changed)
            policyId = some found ∧ found.sumInsured = sumInsured := by
    intro other old storedOld changed same
    have key := (accounted.keyed other old storedOld).1
    by_cases here : policyId = old.id
    · rw [key] at here
      rw [here, storedOld] at stored
      cases stored
      exact ⟨changed, by rw [key, here, Function.update_self],
        same.trans sum⟩
    · exact ⟨policy, by rw [Function.update_of_ne here, stored], sum⟩
  unfold State.InsuredFor
  cases effect with
  | administered => exact ⟨policy, stored, sum⟩
  | sold signed backend valid capacity =>
      have key := accounted.keyed policyId policy stored
      refine ⟨policy, (Function.update_of_ne ?_ ..).trans stored, sum⟩
      change policyId ≠ before.1.getTotalPolicies + 1
      omega
  | activated signed backend wired storedOld pending inTime cap ordered
      minted =>
      rw [State.activate_policies]
      exact replaced storedOld _ rfl
  | closedActive storedOld active cause deactivates =>
      rw [State.closeActive_policies]
      exact replaced storedOld _ rfl
  | closedPending storedOld pending cause =>
      rw [State.closePending_policies]
      exact replaced storedOld _ rfl
  | claimCounted => exact ⟨policy, stored, sum⟩
  | alreadyExpired => exact ⟨policy, stored, sum⟩

end PolicyManager

/-- At most as much rain against at least as much reference, in each
window. -/
structure DroughtDetermination.Drier (d other : DroughtDetermination) :
    Prop where
  rain1_le : d.rainW1E2.val ≤ other.rainW1E2.val
  reference1_ge : other.rainRefW1E2.val ≤ d.rainRefW1E2.val
  rain2_le : d.rainW2E2.val ≤ other.rainW2E2.val
  reference2_ge : other.rainRefW2E2.val ≤ d.rainRefW2E2.val

/-- The same rain against the same reference, in each window. -/
structure DroughtDetermination.SameRain (d other : DroughtDetermination) :
    Prop where
  rain1 : d.rainW1E2 = other.rainW1E2
  reference1 : d.rainRefW1E2 = other.rainRefW1E2
  rain2 : d.rainW2E2 = other.rainW2E2
  reference2 : d.rainRefW2E2 = other.rainRefW2E2

/-- What an accepted determination says about a policy with that sum insured:
the index of its evidence, its rate and its payout. -/
structure DroughtDetermination.Pays (d : DroughtDetermination)
    (sumInsured : Int) : Prop where
  index : Drought.index d.rainW1E2.val d.rainRefW1E2.val d.rainW2E2.val
    d.rainRefW2E2.val = some d.droughtDamage.val
  unit : d.damagePercentBp.val = d.droughtDamage.val * 100
  payout : d.payoutAmount.val =
    sumInsured * d.damagePercentBp.val / PayoutReceiver.basisPoints

section Pays

variable {d other : DroughtDetermination} {sumInsured : Int}
  (pays : d.Pays sumInsured) (otherPays : other.Pays sumInsured)

include pays otherPays

theorem DroughtDetermination.Pays.payout_le
    (drier : d.Drier other) (positive : 0 ≤ sumInsured) :
    other.payoutAmount.val ≤ d.payoutAmount.val := by
  have damageLe : other.droughtDamage.val ≤ d.droughtDamage.val :=
    Drought.followsDrought.drier
      ((Drought.computes_iff _ _ _ _ _).mpr pays.index)
      ((Drought.computes_iff _ _ _ _ _).mpr otherPays.index)
      drier.rain1_le drier.rain2_le drier.reference1_ge drier.reference2_ge
  have rateLe : (other.damagePercentBp.val : Int) ≤ d.damagePercentBp.val := by
    rw [pays.unit, otherPays.unit]
    omega
  rw [pays.payout, otherPays.payout]
  exact Int.ediv_le_ediv (by decide)
    (Int.mul_le_mul_of_nonneg_left rateLe positive)

theorem DroughtDetermination.Pays.eq_of_sameRain (same : d.SameRain other) :
    d.droughtDamage = other.droughtDamage ∧
      d.damagePercentBp = other.damagePercentBp ∧
        d.payoutAmount = other.payoutAmount := by
  have index := pays.index
  rw [same.rain1, same.reference1, same.rain2, same.reference2,
    otherPays.index] at index
  have damage : d.droughtDamage.val = other.droughtDamage.val :=
    (Option.some.inj index).symm
  have rate : d.damagePercentBp.val = other.damagePercentBp.val := by
    rw [pays.unit, otherPays.unit, damage]
  have payout : d.payoutAmount.val = other.payoutAmount.val := by
    rw [pays.payout, otherPays.payout, rate]
  exact ⟨Fin.val_injective damage, Fin.val_injective rate,
    Subtype.ext payout⟩

end Pays

namespace Deployment

variable {Ω κ : Type} (deployment : Deployment Ω κ)

/-- Some submission of the determination is accepted. -/
def Settles (world : World Ω) (d : DroughtDetermination) : Prop :=
  ∃ timestamp signers receiver caller signature recoveryId,
    deployment.accepts world ⟨timestamp, signers, .receiver receiver
      (.submitDroughtDetermination caller d signature recoveryId)⟩ = true

section Settles

variable {deployment}

theorem insuredFor_run (earlier later : List (Invocation κ)) {policyId : Nat}
    {sumInsured : Int}
    (insured : (deployment.run earlier).policyManager.InsuredFor policyId
      sumInsured) :
    (deployment.run (earlier ++ later)).policyManager.InsuredFor policyId
      sumInsured := by
  unfold run
  rw [History.run_append]
  apply deployment.run_preserves
    (fun world => world.policyManager.InsuredFor policyId sumInsured)
    (deployment.sound_run earlier) insured
  intro world invocation after sound step insured
  have kept := step.manager_preserved
    (fun manager => manager.Accounted ∧
      manager.InsuredFor policyId sumInsured)
    (fun effect ⟨accounted, insured⟩ =>
      ⟨PolicyManager.accounted_effect effect accounted,
        PolicyManager.insuredFor_effect effect accounted insured⟩)
    ⟨sound.accounted, insured⟩
  exact kept.2

/-- An accepted determination pays the policy that it names. -/
theorem pays_of_settles {world : World Ω} (sound : deployment.Sound world)
    {d : DroughtDetermination} (settles : deployment.Settles world d)
    {sumInsured : Int} (insured : world.policyManager.InsuredFor
      d.onChainPolicyId.val sumInsured) : d.Pays sumInsured := by
  obtain ⟨timestamp, signers, receiver, caller, signature, recoveryId,
    accepted⟩ := settles
  obtain ⟨policy, stored, sum⟩ := insured
  rcases deployment.apply_cases world ⟨timestamp, signers, .receiver receiver
      (.submitDroughtDetermination caller d signature recoveryId)⟩ with
    ⟨refused, -⟩ | ⟨-, step⟩
  · rw [accepted] at refused
    cases refused
  · generalize deployment.apply world _ = after at step
    cases step with
    | administered installed signed admin administers => cases administers
    | settled settlement =>
        have storedSame := settlement.handover.stored
        have checked := settlement.checked
        cases checked with
        | drought checks =>
            obtain rfl : policy = _ :=
              Option.some.inj (stored.symm.trans storedSame)
            have payout := (sound.insured _ _ stored).payout_eq
              checks.submittable.payout
            rw [sum] at payout
            exact ⟨checks.evidence.index, checks.evidence.unit, payout⟩

end Settles

/-- Drier evidence never lowers the index, and of two determinations that are
accepted for the same policy, in any two states after its sale, the drier one
pays at least as much; equal rainfall determines damage, rate and payout. -/
theorem drierPaysMore (deployment : Deployment Ω κ) :
    Drought.FollowsDrought ∧
      ∀ (sale first second : List (Invocation κ)) (d other :
          DroughtDetermination),
        (deployment.run sale).policyManager.policyExists
            d.onChainPolicyId.val = true →
          d.onChainPolicyId = other.onChainPolicyId →
            deployment.Settles (deployment.run (sale ++ first)) d →
              deployment.Settles (deployment.run (sale ++ second)) other →
                (d.Drier other →
                  other.payoutAmount.val ≤ d.payoutAmount.val) ∧
                (d.SameRain other →
                  d.droughtDamage = other.droughtDamage ∧
                    d.damagePercentBp = other.damagePercentBp ∧
                      d.payoutAmount = other.payoutAmount) := by
  refine ⟨Drought.followsDrought, ?_⟩
  intro sale first second d other isSold same settles otherSettles
  obtain ⟨policy, stored⟩ := Option.isSome_iff_exists.mp isSold
  have sold : (deployment.run sale).policyManager.InsuredFor
      d.onChainPolicyId.val policy.sumInsured := ⟨policy, stored, rfl⟩
  have positive : 0 ≤ policy.sumInsured :=
    (deployment.sound_run sale).accounted.insured _ _ stored
  have pays := pays_of_settles (deployment.sound_run _) settles
    (insuredFor_run sale first sold)
  rw [same] at sold
  have otherPays := pays_of_settles (deployment.sound_run _) otherSettles
    (insuredFor_run sale second sold)
  exact ⟨fun drier => pays.payout_le otherPays drier positive,
    fun sameRain => pays.eq_of_sameRain otherPays sameRain⟩

/-- The vector of the worked season without any rain in the second window. -/
def rainless : DroughtDetermination :=
  { v1 with
    damagePercentBp := 10000
    droughtDamage := 100
    payoutAmount := v1.sumInsured
    rainW2E2 := 0 }

def rainlessInputsHash : BytesN 32 :=
  Encoding.fixedBytes 32
    0xbc04343cecb7b2be80f9dbcd9139deb9da36ed0c6c30b027256ce3879b273121

def rainlessDigest : BytesN 32 :=
  Encoding.fixedBytes 32
    0x9bf6cee253d2d1295969394f091fecba29832ef0a37f11fa5c2464143d6193f0

/-- The key of the vector signed it, with recovery id 0. -/
def rainlessSignature : BytesN 64 :=
  Encoding.fixedBytes 64 (2 ^ 256 *
    0x3cbee83ab2678ac0436b5c17ff7b4fa13d844fb0d2c9b64978f973f67a1f146f +
    0x11ad87b3699bcf1242ac04e7bd1f4a5c69a50c696b008f9d81783367e68417cd)

/-- Keccak and recovery on the inputs of both determinations. -/
def rainlessCrypto : Crypto where
  keccak256 input :=
    if input = Encoding.encodeDroughtInputs rainless then rainlessInputsHash
    else if input = Encoding.encodeDroughtPreimage v1Crypto
        rainlessInputsHash rainless testnetReceiver testnetDomain then
      rainlessDigest
    else v1Crypto.keccak256 input
  secp256k1Recover digest signature recoveryId :=
    if digest = rainlessDigest ∧ signature = rainlessSignature ∧
        recoveryId = 0 then
      some v1Signer
    else v1Crypto.secp256k1Recover digest signature recoveryId

/-- The contracts of the worked season, with the hash of both
determinations. -/
def rainlessDeployment : Deployment PolicyNft.State PolicyNft.Call :=
  { seasonDeployment with crypto := rainlessCrypto }

theorem drierPaysMore_season :
    Drought.FollowsDrought ∧
      rainlessDeployment.Settles (rainlessDeployment.run seasonSold)
        rainless ∧
      rainlessDeployment.Settles (rainlessDeployment.run seasonSold) v1 ∧
      rainless.Drier v1 ∧
      v1.payoutAmount.val ≤ rainless.payoutAmount.val := by
  have settles : rainlessDeployment.Settles
      (rainlessDeployment.run seasonSold) rainless :=
    ⟨1753574460, fun address => address = PolicyManager.seasonAddress 3,
      testnetReceiver, PolicyManager.seasonAddress 3, rainlessSignature, 0,
      by decide +kernel⟩
  have otherSettles : rainlessDeployment.Settles
      (rainlessDeployment.run seasonSold) v1 :=
    ⟨1753574460, fun address => address = PolicyManager.seasonAddress 3,
      testnetReceiver, PolicyManager.seasonAddress 3, v1Signature, 1,
      by decide +kernel⟩
  have drier : rainless.Drier v1 :=
    ⟨by decide, by decide, by decide, by decide⟩
  obtain ⟨follows, pays⟩ := drierPaysMore rainlessDeployment
  exact ⟨follows, settles, otherSettles, drier,
    (pays seasonSold [] [] rainless v1 (by decide +kernel) rfl
      (by simpa using settles) (by simpa using otherSettles)).1 drier⟩

end Deployment

end Microcrop
