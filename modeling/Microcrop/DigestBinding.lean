import Mathlib.Data.Set.Function
import Microcrop.Encoding
import Microcrop.PrefixCode

/-!
# A digest binds everything

The two settlement digests hash nested concatenations of fixed layout.  Each
piece is a prefix code, so a preimage can be read back field by field, and the
kind word tells the two methodologies apart.  Where the hash does not collide
on the strings that were hashed, a digest therefore determines the
methodology, the contract, the network and every field of the determination.
-/

namespace Microcrop

namespace Encoding

/-! ## Words -/

theorem bigEndian_inj {length first second : Nat}
    (firstLt : first < 256 ^ length) (secondLt : second < 256 ^ length)
    (same : bigEndian length first = bigEndian length second) :
    first = second := by
  induction length generalizing first second with
  | zero => omega
  | succ length ih =>
      obtain ⟨front, last⟩ := List.append_inj' same rfl
      have digit : first % 256 = second % 256 := by
        have bytes := congrArg UInt8.toNat (List.cons.inj last).1
        simpa using bytes
      have rest : first / 256 = second / 256 := by
        refine ih ?_ ?_ front
        · rw [Nat.pow_succ] at firstLt
          omega
        · rw [Nat.pow_succ] at secondLt
          omega
      omega

theorem wordFromU128_length (value : Nat) :
    (wordFromU128 value).length = 32 := by
  simp [wordFromU128, bigEndian_length]

theorem wordFromI128_length (value : I128) :
    (wordFromI128 value).length = 32 := by
  simp [wordFromI128, bigEndian_length]

/-- A word of an unsigned field. -/
theorem prefixCode_unsigned {bound : Nat} (fits : bound ≤ 2 ^ 128) :
    PrefixCode fun value : Fin bound => wordFromU128 value := by
  have injective : Function.Injective
      fun value : Fin bound => wordFromU128 value := by
    intro first second same
    obtain ⟨-, digits⟩ := List.append_inj same rfl
    have width : 2 ^ 128 = 256 ^ 16 := by decide
    rw [width] at fits
    exact Fin.ext (bigEndian_inj (first.isLt.trans_le fits)
      (second.isLt.trans_le fits) digits)
  exact PrefixCode.of_length injective fun value => wordFromU128_length value

theorem prefixCode_u32 : PrefixCode fun value : U32 => wordFromU128 value :=
  prefixCode_unsigned (Nat.pow_le_pow_right (by decide) (by decide))

theorem prefixCode_u64 : PrefixCode fun value : U64 => wordFromU128 value :=
  prefixCode_unsigned (Nat.pow_le_pow_right (by decide) (by decide))

theorem prefixCode_u128 : PrefixCode fun value : U128 => wordFromU128 value :=
  prefixCode_unsigned (Nat.le_refl _)

/-- A word of a signed field. -/
theorem prefixCode_signed : PrefixCode wordFromI128 := by
  refine PrefixCode.of_length ?_ wordFromI128_length
  intro first second same
  obtain ⟨-, digits⟩ := List.append_inj same (by simp)
  obtain ⟨first, firstGe, firstLt⟩ := first
  obtain ⟨second, secondGe, secondLt⟩ := second
  have width : 256 ^ 16 = 2 ^ 128 := by decide
  have residues := bigEndian_inj (by omega) (by omega) digits
  dsimp only at residues
  have equal : first = second := by omega
  subst equal
  rfl

theorem prefixCode_bytes {length : Nat} :
    PrefixCode (@BytesN.toList length) := by
  refine PrefixCode.of_length ?_ BytesN.length_eq
  intro first second same
  cases first
  cases second
  cases same
  rfl

/-- The address tag tells accounts and contracts apart. -/
theorem prefixCode_toXdr : PrefixCode toXdr := by
  intro first second rest other same
  cases first with
  | account key =>
      cases second with
      | account otherKey =>
          simp only [toXdr, List.append_assoc] at same
          obtain ⟨keys, rests⟩ := prefixCode_bytes (List.append_cancel_left same)
          exact ⟨congrArg Address.account keys, rests⟩
      | contract id => simp [toXdr] at same
  | contract id =>
      cases second with
      | account key => simp [toXdr] at same
      | contract otherId =>
          simp only [toXdr, List.append_assoc] at same
          obtain ⟨ids, rests⟩ := prefixCode_bytes (List.append_cancel_left same)
          exact ⟨congrArg Address.contract ids, rests⟩

/-! ## Evidence -/

theorem encodeInputs_inj {first second : CropDetermination}
    (same : encodeInputs first = encodeInputs second) :
    first.onChainPolicyId = second.onChainPolicyId ∧
      first.latitudeE6 = second.latitudeE6 ∧
      first.longitudeE6 = second.longitudeE6 ∧
      first.sumInsured = second.sumInsured ∧
      first.ndviScaled = second.ndviScaled ∧
      first.weatherPresent = second.weatherPresent ∧
      first.weatherTempCE2 = second.weatherTempCE2 ∧
      first.weatherPrecipE2 = second.weatherPrecipE2 ∧
      first.weatherHumidity = second.weatherHumidity ∧
      first.weatherWindE2 = second.weatherWindE2 := by
  simp only [encodeInputs, List.append_assoc] at same
  obtain ⟨policyId, same⟩ := prefixCode_u64 same
  obtain ⟨latitude, same⟩ := prefixCode_signed same
  obtain ⟨longitude, same⟩ := prefixCode_signed same
  obtain ⟨sumInsured, same⟩ := prefixCode_signed same
  obtain ⟨ndvi, same⟩ := prefixCode_signed same
  obtain ⟨present, same⟩ := prefixCode_u32 same
  obtain ⟨temperature, same⟩ := prefixCode_signed same
  obtain ⟨precipitation, same⟩ := prefixCode_u128 same
  obtain ⟨humidity, same⟩ := prefixCode_u128 same
  have wind := prefixCode_u128.injective same
  exact ⟨policyId, latitude, longitude, sumInsured, ndvi, present,
    temperature, precipitation, humidity, wind⟩

theorem encodeDroughtInputs_inj {first second : DroughtDetermination}
    (same : encodeDroughtInputs first = encodeDroughtInputs second) :
    first.onChainPolicyId = second.onChainPolicyId ∧
      first.latitudeE6 = second.latitudeE6 ∧
      first.longitudeE6 = second.longitudeE6 ∧
      first.sumInsured = second.sumInsured ∧
      first.seasonStartEpoch = second.seasonStartEpoch ∧
      first.lgpDays = second.lgpDays ∧
      first.rainW1E2 = second.rainW1E2 ∧
      first.rainRefW1E2 = second.rainRefW1E2 ∧
      first.rainW2E2 = second.rainW2E2 ∧
      first.rainRefW2E2 = second.rainRefW2E2 ∧
      first.cddW2Days = second.cddW2Days ∧
      first.sourceHash = second.sourceHash ∧
      first.methodologyParamsHash = second.methodologyParamsHash := by
  simp only [encodeDroughtInputs, List.append_assoc] at same
  obtain ⟨policyId, same⟩ := prefixCode_u64 same
  obtain ⟨latitude, same⟩ := prefixCode_signed same
  obtain ⟨longitude, same⟩ := prefixCode_signed same
  obtain ⟨sumInsured, same⟩ := prefixCode_signed same
  obtain ⟨seasonStart, same⟩ := prefixCode_u64 same
  obtain ⟨lgpDays, same⟩ := prefixCode_u32 same
  obtain ⟨rainW1, same⟩ := prefixCode_u128 same
  obtain ⟨rainRefW1, same⟩ := prefixCode_u128 same
  obtain ⟨rainW2, same⟩ := prefixCode_u128 same
  obtain ⟨rainRefW2, same⟩ := prefixCode_u128 same
  obtain ⟨cdd, same⟩ := prefixCode_u32 same
  obtain ⟨source, same⟩ := prefixCode_bytes same
  have params := prefixCode_bytes.injective same
  exact ⟨policyId, latitude, longitude, sumInsured, seasonStart, lgpDays,
    rainW1, rainRefW1, rainW2, rainRefW2, cdd, source, params⟩

/-! ## Preimages -/

section Preimage

variable (crypto : Crypto) {contract other : Address}
  {domain otherDomain inputs otherInputs : BytesN 32}

theorem encodePreimage_inj {first second : CropDetermination}
    (same : encodePreimage crypto inputs first contract domain =
      encodePreimage crypto otherInputs second other otherDomain) :
    domain = otherDomain ∧ contract = other ∧ inputs = otherInputs ∧
      first.damagePercentBp = second.damagePercentBp ∧
      first.weatherDamage = second.weatherDamage ∧
      first.satelliteDamage = second.satelliteDamage ∧
      first.payoutAmount = second.payoutAmount ∧
      first.assessedAt = second.assessedAt := by
  simp only [encodePreimage, List.append_assoc] at same
  obtain ⟨-, same⟩ := prefixCode_bytes same
  obtain ⟨-, same⟩ := prefixCode_bytes same
  obtain ⟨-, same⟩ := prefixCode_bytes same
  obtain ⟨domains, same⟩ := prefixCode_bytes same
  obtain ⟨contracts, same⟩ := prefixCode_toXdr same
  obtain ⟨hashes, same⟩ := prefixCode_bytes same
  obtain ⟨-, same⟩ := prefixCode_u64 same
  obtain ⟨percent, same⟩ := prefixCode_u32 same
  obtain ⟨weather, same⟩ := prefixCode_u32 same
  obtain ⟨satellite, same⟩ := prefixCode_u32 same
  obtain ⟨payout, same⟩ := prefixCode_signed same
  have assessed := prefixCode_u64.injective same
  exact ⟨domains, contracts, hashes, percent, weather, satellite, payout,
    assessed⟩

theorem encodeDroughtPreimage_inj {first second : DroughtDetermination}
    (same : encodeDroughtPreimage crypto inputs first contract domain =
      encodeDroughtPreimage crypto otherInputs second other otherDomain) :
    domain = otherDomain ∧ contract = other ∧ inputs = otherInputs ∧
      first.damagePercentBp = second.damagePercentBp ∧
      first.droughtDamage = second.droughtDamage ∧
      first.payoutAmount = second.payoutAmount ∧
      first.assessedAt = second.assessedAt := by
  simp only [encodeDroughtPreimage, List.append_assoc] at same
  obtain ⟨-, same⟩ := prefixCode_bytes same
  obtain ⟨-, same⟩ := prefixCode_bytes same
  obtain ⟨-, same⟩ := prefixCode_bytes same
  obtain ⟨domains, same⟩ := prefixCode_bytes same
  obtain ⟨contracts, same⟩ := prefixCode_toXdr same
  obtain ⟨hashes, same⟩ := prefixCode_bytes same
  obtain ⟨-, same⟩ := prefixCode_u64 same
  obtain ⟨percent, same⟩ := prefixCode_u32 same
  obtain ⟨drought, same⟩ := prefixCode_u32 same
  obtain ⟨payout, same⟩ := prefixCode_signed same
  have assessed := prefixCode_u64.injective same
  exact ⟨domains, contracts, hashes, percent, drought, payout, assessed⟩

/-- Preimages of the two methodologies share a kind word at most by a
collision. -/
theorem kind_of_encodePreimage_eq {first : CropDetermination}
    {second : DroughtDetermination}
    (same : encodePreimage crypto inputs first contract domain =
      encodeDroughtPreimage crypto otherInputs second other otherDomain) :
    crypto.keccak256 kindCrop = crypto.keccak256 kindDrought := by
  simp only [encodePreimage, encodeDroughtPreimage,
    List.append_assoc] at same
  obtain ⟨-, same⟩ := prefixCode_bytes same
  obtain ⟨kinds, -⟩ := prefixCode_bytes same
  exact kinds

end Preimage

end Encoding

open Encoding

/-! ## Digests -/

/-- A determination of either methodology. -/
inductive Determination
  | crop (d : CropDetermination)
  | drought (d : DroughtDetermination)
  deriving DecidableEq

/-- What a digest is taken of. -/
structure Message where
  determination : Determination
  contract : Address
  networkDomain : BytesN 32
  deriving DecidableEq

namespace Message

variable (crypto : Crypto)

/-- The settlement digest of the message's methodology. -/
def digest (message : Message) : BytesN 32 :=
  match message.determination with
  | .crop d =>
      determinationDigest crypto d message.contract message.networkDomain
  | .drought d =>
      droughtDeterminationDigest crypto d message.contract
        message.networkDomain

/-- The byte strings that taking the digest hashes. -/
def hashed (message : Message) : List (List UInt8) :=
  match message.determination with
  | .crop d =>
      [schemaVersion, kindCrop, methodologyCrop, encodeInputs d,
        encodePreimage crypto (crypto.keccak256 (encodeInputs d)) d
          message.contract message.networkDomain]
  | .drought d =>
      [schemaVersion, kindDrought, methodologyDroughtRdi10,
        encodeDroughtInputs d,
        encodeDroughtPreimage crypto
          (crypto.keccak256 (encodeDroughtInputs d)) d message.contract
          message.networkDomain]

/-- The hash does not collide on what the digests of the messages hash. -/
def CollisionFree (messages : Set Message) : Prop :=
  Set.InjOn crypto.keccak256
    {bytes | ∃ message ∈ messages, bytes ∈ message.hashed crypto}

variable {crypto} {messages : Set Message}

theorem CollisionFree.inj (collisionFree : CollisionFree crypto messages)
    {first second : Message} (firstIn : first ∈ messages)
    (secondIn : second ∈ messages) {bytes others : List UInt8}
    (hashedFirst : bytes ∈ first.hashed crypto)
    (hashedSecond : others ∈ second.hashed crypto)
    (same : crypto.keccak256 bytes = crypto.keccak256 others) :
    bytes = others :=
  collisionFree ⟨first, firstIn, hashedFirst⟩
    ⟨second, secondIn, hashedSecond⟩ same

theorem crop_eq (collisionFree : CollisionFree crypto messages)
    {first second : CropDetermination} {contract other : Address}
    {domain otherDomain : BytesN 32}
    (firstIn : ⟨.crop first, contract, domain⟩ ∈ messages)
    (secondIn : ⟨.crop second, other, otherDomain⟩ ∈ messages)
    (same : determinationDigest crypto first contract domain =
      determinationDigest crypto second other otherDomain) :
    first = second ∧ contract = other ∧ domain = otherDomain := by
  have preimages := collisionFree.inj firstIn secondIn
    (by simp [hashed]) (by simp [hashed]) same
  obtain ⟨domains, contracts, hashes, percent, weather, satellite, payout,
    assessed⟩ := encodePreimage_inj crypto preimages
  have evidence := collisionFree.inj firstIn secondIn
    (by simp [hashed]) (by simp [hashed]) hashes
  obtain ⟨policyId, latitude, longitude, sumInsured, ndvi, present,
    temperature, precipitation, humidity, wind⟩ := encodeInputs_inj evidence
  refine ⟨?_, contracts, domains⟩
  cases first
  cases second
  simp only [CropDetermination.mk.injEq]
  exact ⟨policyId, percent, weather, satellite, payout, assessed, latitude,
    longitude, sumInsured, ndvi, present, temperature, precipitation,
    humidity, wind⟩

theorem drought_eq (collisionFree : CollisionFree crypto messages)
    {first second : DroughtDetermination} {contract other : Address}
    {domain otherDomain : BytesN 32}
    (firstIn : ⟨.drought first, contract, domain⟩ ∈ messages)
    (secondIn : ⟨.drought second, other, otherDomain⟩ ∈ messages)
    (same : droughtDeterminationDigest crypto first contract domain =
      droughtDeterminationDigest crypto second other otherDomain) :
    first = second ∧ contract = other ∧ domain = otherDomain := by
  have preimages := collisionFree.inj firstIn secondIn
    (by simp [hashed]) (by simp [hashed]) same
  obtain ⟨domains, contracts, hashes, percent, drought, payout, assessed⟩ :=
    encodeDroughtPreimage_inj crypto preimages
  have evidence := collisionFree.inj firstIn secondIn
    (by simp [hashed]) (by simp [hashed]) hashes
  obtain ⟨policyId, latitude, longitude, sumInsured, seasonStart, lgpDays,
    rainW1, rainRefW1, rainW2, rainRefW2, cdd, source, params⟩ :=
    encodeDroughtInputs_inj evidence
  refine ⟨?_, contracts, domains⟩
  cases first
  cases second
  simp only [DroughtDetermination.mk.injEq]
  exact ⟨policyId, percent, drought, payout, assessed, latitude, longitude,
    sumInsured, seasonStart, lgpDays, rainW1, rainRefW1, rainW2, rainRefW2,
    cdd, source, params⟩

/-- The kind words keep the two methodologies apart. -/
theorem crop_ne_drought (collisionFree : CollisionFree crypto messages)
    {first : CropDetermination} {second : DroughtDetermination}
    {contract other : Address} {domain otherDomain : BytesN 32}
    (firstIn : ⟨.crop first, contract, domain⟩ ∈ messages)
    (secondIn : ⟨.drought second, other, otherDomain⟩ ∈ messages) :
    determinationDigest crypto first contract domain ≠
      droughtDeterminationDigest crypto second other otherDomain := by
  intro same
  have preimages := collisionFree.inj firstIn secondIn
    (by simp [hashed]) (by simp [hashed]) same
  have words := kind_of_encodePreimage_eq crypto preimages
  have kinds := collisionFree.inj firstIn secondIn
    (by simp [hashed]) (by simp [hashed]) words
  exact absurd kinds (by decide)

end Message

/-- Where the hash does not collide on the strings that the digests of some
messages hash, different messages have different digests: a digest determines
the methodology, the contract, the network domain and every field of the
determination.  A signature that recovers the signer from one digest only
therefore verifies at most one of the messages. -/
theorem digestBindsEverything (crypto : Crypto) (messages : Set Message)
    (collisionFree : Message.CollisionFree crypto messages) :
    Set.InjOn (Message.digest crypto) messages ∧
      ∀ signature recoveryId signer,
        (∀ digest other,
          crypto.secp256k1Recover digest signature recoveryId = some signer →
          crypto.secp256k1Recover other signature recoveryId = some signer →
            digest = other) →
        {message ∈ messages | crypto.secp256k1Recover (message.digest crypto)
          signature recoveryId = some signer}.Subsingleton := by
  have injective : Set.InjOn (Message.digest crypto) messages := by
    rintro ⟨first, contract, domain⟩ firstIn ⟨second, other, otherDomain⟩
      secondIn same
    cases first with
    | crop first =>
        cases second with
        | crop second =>
            obtain ⟨rfl, rfl, rfl⟩ :=
              Message.crop_eq collisionFree firstIn secondIn same
            rfl
        | drought second =>
            exact absurd same
              (Message.crop_ne_drought collisionFree firstIn secondIn)
    | drought first =>
        cases second with
        | crop second =>
            exact absurd same.symm
              (Message.crop_ne_drought collisionFree secondIn firstIn)
        | drought second =>
            obtain ⟨rfl, rfl, rfl⟩ :=
              Message.drought_eq collisionFree firstIn secondIn same
            rfl
  refine ⟨injective, ?_⟩
  rintro signature recoveryId signer one first ⟨firstIn, verifies⟩ second
    ⟨secondIn, verifiesSecond⟩
  exact injective firstIn secondIn (one _ _ verifies verifiesSecond)

/-- A crop determination for the plot and the cover of the first drought
vector. -/
def cropVector : CropDetermination where
  onChainPolicyId := 1
  damagePercentBp := 4500
  weatherDamage := 45
  satelliteDamage := 45
  payoutAmount := v1.payoutAmount
  assessedAt := 1753574400
  latitudeE6 := v1.latitudeE6
  longitudeE6 := v1.longitudeE6
  sumInsured := v1.sumInsured
  ndviScaled := ⟨0, by decide⟩
  weatherPresent := 1
  weatherTempCE2 := ⟨0, by decide⟩
  weatherPrecipE2 := 0
  weatherHumidity := 0
  weatherWindE2 := 0

/-- Keccak on the inputs of the two vectors. -/
def vectorCrypto : Crypto where
  keccak256 input :=
    if input = kindCrop then fixedBytes 32
      0x5f9af3de2a933e8bd0a3e094d3cb87f1d8857e0cf8593b18c2f30d76b7de1294
    else if input = methodologyCrop then fixedBytes 32
      0xbe0399f7a3fda23b09abd5c2ff704f4f1271b776f7735191980d09bc5639471c
    else if input = encodeInputs cropVector then fixedBytes 32
      0x04ed45083bdcee2885df3e3e16df6015ec71ba81d11fc8035a5ed7f80ed743a7
    else if input.length = 392 then fixedBytes 32
      0xf629a6f2c821050274f8c8a8fa1ea08eb7b4ddf6c2fe548944b616a50afa605b
    else v1Crypto.keccak256 input
  secp256k1Recover := v1Crypto.secp256k1Recover

/-- The two vectors, bound to the testnet receiver. -/
def vectorMessages : List Message :=
  [⟨.crop cropVector, testnetReceiver, testnetDomain⟩,
    ⟨.drought v1, testnetReceiver, testnetDomain⟩]

theorem digestBindsEverything_vectors :
    Set.InjOn (Message.digest vectorCrypto)
      {message | message ∈ vectorMessages} := by
  refine (digestBindsEverything vectorCrypto {message | message ∈
    vectorMessages} ?_).1
  rintro first ⟨message, member, hashed⟩ second ⟨other, otherMember,
    otherHashed⟩ same
  have distinct : ∀ message ∈ vectorMessages, ∀ other ∈ vectorMessages,
      ∀ first ∈ message.hashed vectorCrypto,
        ∀ second ∈ other.hashed vectorCrypto,
          vectorCrypto.keccak256 first = vectorCrypto.keccak256 second →
            first = second := by
    decide +kernel
  exact distinct message member other otherMember first hashed second
    otherHashed same

end Microcrop
