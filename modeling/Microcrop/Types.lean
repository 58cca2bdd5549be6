import Mathlib.Algebra.Group.Int.Defs
import Mathlib.Algebra.GroupWithZero.Nat
import Mathlib.Data.Fin.Basic
import Mathlib.Data.Int.Notation

/-!
# Shared data types

The records and enumerations of the `microcrop-shared` crate.  Identifiers,
timestamps and amounts that the contracts store are natural numbers and
integers, and the arithmetic on them is checked at the width of the source.
The fields of a determination carry their width in their type, because the
signed encoding depends on it.
-/

namespace Microcrop

/-- The `u32`, `u64` and `u128` values of a determination. -/
abbrev U32 := Fin (2 ^ 32)

abbrev U64 := Fin (2 ^ 64)

abbrev U128 := Fin (2 ^ 128)

instance neZero_u32 : NeZero (2 ^ 32 : Nat) := ⟨by decide⟩

instance neZero_u64 : NeZero (2 ^ 64 : Nat) := ⟨by decide⟩

instance neZero_u128 : NeZero (2 ^ 128 : Nat) := ⟨by decide⟩

/-- The `i128` values of a determination. -/
abbrev I128 := {value : Int // -2 ^ 127 ≤ value ∧ value < 2 ^ 127}

/-- Byte strings of a fixed length. -/
structure BytesN (length : Nat) where
  toList : List UInt8
  length_eq : toList.length = length
  deriving DecidableEq

/-- The byte string of `length` copies of `byte`. -/
def BytesN.repeat (length : Nat) (byte : UInt8) : BytesN length :=
  ⟨List.replicate length byte, List.length_replicate ..⟩

/-- Ledger addresses: a classic account or a contract. -/
inductive Address
  | account (key : BytesN 32)
  | contract (id : BytesN 32)
  deriving DecidableEq

/-- Coverage kinds. -/
inductive CoverageType
  | drought
  | flood
  | both
  | excessRain
  | comprehensive
  deriving DecidableEq

/-- Policy lifecycle states. -/
inductive PolicyStatus
  | pending
  | active
  | expired
  | cancelled
  | claimed
  deriving DecidableEq

/-- Access-control roles. -/
inductive Role
  | admin
  | backend
  | oracle
  | payout
  | relayer
  | upgrader
  | minter
  | funder
  deriving DecidableEq

/-- An insurance policy as PolicyManager stores it. -/
structure Policy where
  id : Nat
  farmer : Address
  plotId : Nat
  latE6 : Int
  lonE6 : Int
  sumInsured : Int
  premium : Int
  startDate : Nat
  endDate : Nat
  coverageType : CoverageType
  status : PolicyStatus
  createdAt : Nat
  org : Address
  deriving DecidableEq

/-- The damage report PayoutReceiver stores for a settled policy. -/
structure DamageReport where
  policyId : Nat
  damagePercentage : Nat
  weatherDamage : Nat
  satelliteDamage : Nat
  payoutAmount : Int
  assessedAt : Nat
  deriving DecidableEq

/-- A signed CROP_DAMAGE determination. -/
structure CropDetermination where
  onChainPolicyId : U64
  damagePercentBp : U32
  weatherDamage : U32
  satelliteDamage : U32
  payoutAmount : I128
  assessedAt : U64
  latitudeE6 : I128
  longitudeE6 : I128
  sumInsured : I128
  ndviScaled : I128
  weatherPresent : U32
  weatherTempCE2 : I128
  weatherPrecipE2 : U128
  weatherHumidity : U128
  weatherWindE2 : U128
  deriving DecidableEq

/-- Determination methodologies that PayoutReceiver can verify. -/
inductive MethodologyKind
  | cropDualIndex10
  | cropDroughtRdi10
  deriving DecidableEq

/-- A signed CROP_DROUGHT determination. -/
structure DroughtDetermination where
  onChainPolicyId : U64
  damagePercentBp : U32
  droughtDamage : U32
  payoutAmount : I128
  assessedAt : U64
  latitudeE6 : I128
  longitudeE6 : I128
  sumInsured : I128
  seasonStartEpoch : U64
  lgpDays : U32
  rainW1E2 : U128
  rainRefW1E2 : U128
  rainW2E2 : U128
  rainRefW2E2 : U128
  cddW2Days : U32
  sourceHash : BytesN 32
  methodologyParamsHash : BytesN 32
  deriving DecidableEq

/-- A policy certificate of PolicyNft. -/
structure PolicyCertificate where
  policyId : Nat
  farmer : Address
  distributor : Address
  distributorName : String
  sumInsured : Int
  premium : Int
  startDate : Nat
  endDate : Nat
  coverageType : CoverageType
  region : String
  plotId : Nat
  isActive : Bool
  deriving DecidableEq

/-- Lifecycle of an obligation. -/
inductive ObligationStatus
  | owed
  | funded
  | settled
  deriving DecidableEq

/-- A verified payout obligation of the SettlementAdapter. -/
structure Obligation where
  id : Nat
  payoutReceiver : Address
  policyId : Nat
  org : Address
  amount : Int
  determinationDigest : BytesN 32
  status : ObligationStatus
  recordedAt : Nat
  orgIndex : Nat
  fundedBy : Option Address
  fundedAt : Nat
  fundingReference : Option (BytesN 32)
  settledBy : Option Address
  settledAt : Nat
  settlementReference : Option (BytesN 32)
  deriving DecidableEq

/-! ## Contract errors -/

inductive CommonError
  | unauthorized
  | zeroAddress
  | notConfigured
  | notInitialized
  deriving DecidableEq

inductive PolicyError
  | zeroAddressFarmer
  | zeroAddressOrg
  | zeroAddressDistributor
  | sumInsuredTooLow
  | sumInsuredTooHigh
  | zeroPremium
  | invalidDuration
  | tooManyActivePolicies
  | tooManyClaimsThisYear
  | policyDoesNotExist
  | invalidPolicyStatus
  | policyExpired
  | policyNotYetExpired
  | policyNftNotSet
  | orgNotSetForPolicy
  | orgAlreadySet
  | cancelActiveRequiresAdmin
  | invalidCoordinates
  | coverageNotOffered
  deriving DecidableEq

inductive PayoutError
  | signerNotConfigured
  | damageExceedsMaximum
  | subScoreOutOfRange
  | invalidWeatherFlag
  | weatherFlagDamageMismatch
  | invalidWeightedDamage
  | damageBelowThreshold
  | policyDoesNotExist
  | policyNotActive
  | policyExpired
  | policyAlreadyPaid
  | sumInsuredMismatch
  | invalidPayoutCalculation
  | reportInFuture
  | reportTooOld
  | farmerClaimLimitExceeded
  | determinationAlreadyConsumed
  | invalidSignature
  | noPendingClaim
  | coverageNotSettledByMethodology
  | plotLocationMismatch
  | methodologyDisabled
  | droughtScoreOutOfRange
  | invalidDroughtDamage
  | droughtEvidenceInvalid
  | evidenceOutsideCoverWindow
  | seasonNotComplete
  | settlementAdapterNotBound
  | obligationNotRecorded
  deriving DecidableEq

/-- The receiver's own emergency-stop error. -/
inductive PausedError
  | contractPaused
  deriving DecidableEq

inductive NftError
  | zeroAddress
  | invalidPolicyId
  | policyAlreadyMinted
  | transferWhileActive
  | policyNotFound
  | notPolicyManager
  | tokenNotFound
  deriving DecidableEq

inductive AdapterError
  | notPayoutReceiver
  | invalidAmount
  | obligationConflict
  | obligationNotFound
  | obligationAlreadyFunded
  | obligationAlreadySettled
  | invalidReference
  | invalidPayoutReceiver
  | counterOverflow
  deriving DecidableEq

/-- Refusals of the host itself: a missing authorization, an arithmetic trap
(`overflow-checks` is on), a signature that cannot be decoded, a call to an
address that holds no such contract, an extension whose threshold is above its
target, and the errors that end the whole transaction: an exhausted budget, an
entry outside of the footprint and an internal error of the host. -/
inductive HostError
  | auth
  | arithmetic
  | crypto
  | missingContract
  | storage
  | budgetExceeded
  | footprintExceeded
  | internal
  deriving DecidableEq

/-- Every way a call can be refused. -/
inductive Error
  | common (error : CommonError)
  | policy (error : PolicyError)
  | payout (error : PayoutError)
  | paused (error : PausedError)
  | nft (error : NftError)
  | adapter (error : AdapterError)
  | host (error : HostError)
  deriving DecidableEq

/-- Whether `try_call` hands the error to the caller. -/
def Error.recoverable : Error → Bool
  | .host .budgetExceeded | .host .footprintExceeded | .host .internal => false
  | _ => true

def CommonError.code : CommonError → Nat
  | unauthorized => 1
  | zeroAddress => 2
  | notConfigured => 3
  | notInitialized => 4

def PolicyError.code : PolicyError → Nat
  | zeroAddressFarmer => 100
  | zeroAddressOrg => 101
  | zeroAddressDistributor => 102
  | sumInsuredTooLow => 103
  | sumInsuredTooHigh => 104
  | zeroPremium => 105
  | invalidDuration => 106
  | tooManyActivePolicies => 107
  | tooManyClaimsThisYear => 108
  | policyDoesNotExist => 109
  | invalidPolicyStatus => 110
  | policyExpired => 111
  | policyNotYetExpired => 112
  | policyNftNotSet => 113
  | orgNotSetForPolicy => 114
  | orgAlreadySet => 115
  | cancelActiveRequiresAdmin => 116
  | invalidCoordinates => 117
  | coverageNotOffered => 118

def PayoutError.code : PayoutError → Nat
  | signerNotConfigured => 300
  | damageExceedsMaximum => 301
  | subScoreOutOfRange => 302
  | invalidWeatherFlag => 303
  | weatherFlagDamageMismatch => 304
  | invalidWeightedDamage => 305
  | damageBelowThreshold => 306
  | policyDoesNotExist => 307
  | policyNotActive => 308
  | policyExpired => 309
  | policyAlreadyPaid => 310
  | sumInsuredMismatch => 311
  | invalidPayoutCalculation => 312
  | reportInFuture => 313
  | reportTooOld => 314
  | farmerClaimLimitExceeded => 315
  | determinationAlreadyConsumed => 316
  | invalidSignature => 317
  | noPendingClaim => 319
  | coverageNotSettledByMethodology => 320
  | plotLocationMismatch => 321
  | methodologyDisabled => 322
  | droughtScoreOutOfRange => 323
  | invalidDroughtDamage => 324
  | droughtEvidenceInvalid => 325
  | evidenceOutsideCoverWindow => 326
  | seasonNotComplete => 327
  | settlementAdapterNotBound => 328
  | obligationNotRecorded => 329

def PausedError.code : PausedError → Nat
  | contractPaused => 318

def NftError.code : NftError → Nat
  | zeroAddress => 400
  | invalidPolicyId => 401
  | policyAlreadyMinted => 402
  | transferWhileActive => 403
  | policyNotFound => 404
  | notPolicyManager => 405
  | tokenNotFound => 406

def AdapterError.code : AdapterError → Nat
  | notPayoutReceiver => 500
  | invalidAmount => 501
  | obligationConflict => 502
  | obligationNotFound => 503
  | obligationAlreadyFunded => 504
  | obligationAlreadySettled => 505
  | invalidReference => 506
  | invalidPayoutReceiver => 507
  | counterOverflow => 508

/-- The errors that only PolicyManager and PayoutReceiver raise. -/
def Error.belongsToCover : Error → Bool
  | policy _ => true
  | payout _ => true
  | _ => false

/-- The contract error code of a refusal; a host trap carries none. -/
def Error.code : Error → Option Nat
  | common error => some error.code
  | policy error => some error.code
  | payout error => some error.code
  | paused error => some error.code
  | nft error => some error.code
  | adapter error => some error.code
  | host _ => none

end Microcrop
