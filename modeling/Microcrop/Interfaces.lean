import Microcrop.Host

/-!
# Cross-contract interfaces

The client of a sibling contract is the collection of its entrypoints, acting
on whatever state `Ω` the siblings keep.  Contract code receives its clients
as parameters, so that one definition serves both the wired deployment and a
sibling that answers arbitrarily.
-/

namespace Microcrop

/-- Client for PolicyManager, used by PayoutReceiver. -/
structure PolicyManagerClient (Ω : Type) where
  getPolicy : (policyId : Nat) → Contract Ω Policy
  policyExists : (policyId : Nat) → Contract Ω Bool
  canFarmerClaim : (farmer : Address) → Contract Ω Bool
  markAsClaimed : (caller : Address) → (policyId : Nat) → Contract Ω Unit
  incrementClaimCount : (caller farmer : Address) → Contract Ω Unit

/-- Client for SettlementAdapter, used by PayoutReceiver. -/
structure SettlementAdapterClient (Ω : Type) where
  recordObligation : (caller : Address) → (policyId : Nat) →
    (org : Address) → (amount : Int) → (determinationDigest : BytesN 32) →
      Contract Ω Obligation
  payoutReceiver : Contract Ω (Option Address)

/-- Client for PolicyNft, used by PolicyManager. -/
structure PolicyNftClient (Ω : Type) where
  policyNftExists : (policyId : Nat) → Contract Ω Bool
  updatePolicyStatus : (caller : Address) → (policyId : Nat) →
    (isActive : Bool) → Contract Ω Unit
  mintPolicy : (caller farmer : Address) → (policyId : Nat) →
    (distributor : Address) → (distributorName : String) →
    (sumInsured premium : Int) → (startDate endDate : Nat) →
    (coverageType : CoverageType) → (region : String) → (plotId : Nat) →
      Contract Ω Nat

/-- The client of an address that holds no such contract: every call traps. -/
def PolicyManagerClient.missing {Ω : Type} : PolicyManagerClient Ω where
  getPolicy _ := .fail (.host .missingContract)
  policyExists _ := .fail (.host .missingContract)
  canFarmerClaim _ := .fail (.host .missingContract)
  markAsClaimed _ _ := .fail (.host .missingContract)
  incrementClaimCount _ _ := .fail (.host .missingContract)

def PolicyNftClient.missing {Ω : Type} : PolicyNftClient Ω where
  policyNftExists _ := .fail (.host .missingContract)
  updatePolicyStatus _ _ _ := .fail (.host .missingContract)
  mintPolicy _ _ _ _ _ _ _ _ _ _ _ _ := .fail (.host .missingContract)

/-- A refusal by the certificate contract carries no error of PolicyManager
or of a PayoutReceiver. -/
structure PolicyNftClient.OwnErrors {Ω : Type} (client : PolicyNftClient Ω) :
    Prop where
  policyNftExists : ∀ policyId before error,
    (client.policyNftExists policyId).Fails before error →
      error.belongsToCover = false
  mintPolicy : ∀ caller farmer policyId distributor distributorName sumInsured
    premium startDate endDate coverageType region plotId before error,
    (client.mintPolicy caller farmer policyId distributor distributorName
        sumInsured premium startDate endDate coverageType region
        plotId).Fails before error →
      error.belongsToCover = false

end Microcrop
