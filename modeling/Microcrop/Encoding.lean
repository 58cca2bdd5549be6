import Microcrop.Types

/-!
# The signed byte layouts

`microcrop-shared::encoding`: every scalar is a 32-byte big-endian word, and a
determination is bound by the Keccak hash of its preimage.  The two host
functions, hashing and signature recovery, are parameters.
-/

namespace Microcrop

/-- The cryptographic functions of the host. -/
structure Crypto where
  keccak256 : List UInt8 → BytesN 32
  /-- `secp256k1_recover`; `none` where the host traps. -/
  secp256k1Recover : (digest : BytesN 32) → (signature : BytesN 64) →
    (recoveryId : U32) → Option (BytesN 65)

namespace Encoding

/-- The last `length` base-256 digits, most significant first. -/
def bigEndian : (length : Nat) → (value : Nat) → List UInt8
  | 0, _ => []
  | length + 1, value =>
      bigEndian length (value / 256) ++ [UInt8.ofNat (value % 256)]

theorem bigEndian_length (length value : Nat) :
    (bigEndian length value).length = length := by
  induction length generalizing value with
  | zero => rfl
  | succ length ih => simp [bigEndian, ih]

/-- The byte string that spells a number. -/
def fixedBytes (length value : Nat) : BytesN length :=
  ⟨bigEndian length value, bigEndian_length length value⟩

/-- `word_from_i128`: sign-extended two's complement. -/
def wordFromI128 (value : I128) : List UInt8 :=
  List.replicate 16 (if value.val < 0 then 0xff else 0x00) ++
    bigEndian 16 (value.val % 2 ^ 128).toNat

/-- `word_from_u128`: zero-padded. -/
def wordFromU128 (value : Nat) : List UInt8 :=
  List.replicate 16 0x00 ++ bigEndian 16 value

/-- The bytes of an ASCII literal. -/
def ascii (literal : String) : List UInt8 :=
  literal.toList.map fun character => UInt8.ofNat character.toNat

def schemaVersion : List UInt8 := ascii "1.0"

def kindCrop : List UInt8 := ascii "CROP_DAMAGE"

def methodologyCrop : List UInt8 := ascii "crop-dualindex-1.0"

def kindDrought : List UInt8 := ascii "CROP_DROUGHT"

def methodologyDroughtRdi10 : List UInt8 := ascii "crop-drought-rdi-1.0"

/-- `DROUGHT_PARAMS_HASH_RDI_1_0`. -/
def droughtParamsHashRdi10 : BytesN 32 where
  toList :=
    [0x25, 0x80, 0xaf, 0xa0, 0x00, 0x2f, 0x8a, 0xe3,
      0x49, 0xad, 0x07, 0x8f, 0xfe, 0xa4, 0x29, 0x04,
      0x9a, 0xb1, 0xc1, 0x14, 0x6b, 0xe2, 0xc5, 0x6b,
      0x82, 0xf3, 0xe4, 0x5a, 0x7c, 0xc4, 0x47, 0xcf]
  length_eq := rfl

/-- `Address::to_xdr`: the value tag, the address tag and the identifier. -/
def toXdr : Address → List UInt8
  | .account key => [0, 0, 0, 0x12, 0, 0, 0, 0, 0, 0, 0, 0] ++ key.toList
  | .contract id => [0, 0, 0, 0x12, 0, 0, 0, 1] ++ id.toList

section Digest

variable (crypto : Crypto)

/-- The evidence of a CROP_DAMAGE determination. -/
def encodeInputs (d : CropDetermination) : List UInt8 :=
  wordFromU128 d.onChainPolicyId ++
  wordFromI128 d.latitudeE6 ++
  wordFromI128 d.longitudeE6 ++
  wordFromI128 d.sumInsured ++
  wordFromI128 d.ndviScaled ++
  wordFromU128 d.weatherPresent ++
  wordFromI128 d.weatherTempCE2 ++
  wordFromU128 d.weatherPrecipE2 ++
  wordFromU128 d.weatherHumidity ++
  wordFromU128 d.weatherWindE2

/-- The settlement preimage of a CROP_DAMAGE determination. -/
def encodePreimage (inputsHash : BytesN 32) (d : CropDetermination)
    (contract : Address) (networkDomain : BytesN 32) : List UInt8 :=
  (crypto.keccak256 schemaVersion).toList ++
  (crypto.keccak256 kindCrop).toList ++
  (crypto.keccak256 methodologyCrop).toList ++
  networkDomain.toList ++
  toXdr contract ++
  inputsHash.toList ++
  wordFromU128 d.onChainPolicyId ++
  wordFromU128 d.damagePercentBp ++
  wordFromU128 d.weatherDamage ++
  wordFromU128 d.satelliteDamage ++
  wordFromI128 d.payoutAmount ++
  wordFromU128 d.assessedAt

def determinationDigest (d : CropDetermination) (contract : Address)
    (networkDomain : BytesN 32) : BytesN 32 :=
  crypto.keccak256 (encodePreimage crypto
    (crypto.keccak256 (encodeInputs d)) d contract networkDomain)

/-- The evidence of a CROP_DROUGHT determination. -/
def encodeDroughtInputs (d : DroughtDetermination) : List UInt8 :=
  wordFromU128 d.onChainPolicyId ++
  wordFromI128 d.latitudeE6 ++
  wordFromI128 d.longitudeE6 ++
  wordFromI128 d.sumInsured ++
  wordFromU128 d.seasonStartEpoch ++
  wordFromU128 d.lgpDays ++
  wordFromU128 d.rainW1E2 ++
  wordFromU128 d.rainRefW1E2 ++
  wordFromU128 d.rainW2E2 ++
  wordFromU128 d.rainRefW2E2 ++
  wordFromU128 d.cddW2Days ++
  d.sourceHash.toList ++
  d.methodologyParamsHash.toList

/-- The settlement preimage of a CROP_DROUGHT determination. -/
def encodeDroughtPreimage (inputsHash : BytesN 32) (d : DroughtDetermination)
    (contract : Address) (networkDomain : BytesN 32) : List UInt8 :=
  (crypto.keccak256 schemaVersion).toList ++
  (crypto.keccak256 kindDrought).toList ++
  (crypto.keccak256 methodologyDroughtRdi10).toList ++
  networkDomain.toList ++
  toXdr contract ++
  inputsHash.toList ++
  wordFromU128 d.onChainPolicyId ++
  wordFromU128 d.damagePercentBp ++
  wordFromU128 d.droughtDamage ++
  wordFromI128 d.payoutAmount ++
  wordFromU128 d.assessedAt

def droughtDeterminationDigest (d : DroughtDetermination)
    (contract : Address) (networkDomain : BytesN 32) : BytesN 32 :=
  crypto.keccak256 (encodeDroughtPreimage crypto
    (crypto.keccak256 (encodeDroughtInputs d)) d contract networkDomain)

end Digest

end Encoding

/-! ## Golden vectors -/

/-- The live testnet PayoutReceiver. -/
def testnetReceiver : Address :=
  .contract (Encoding.fixedBytes 32
    0xd7b5351c888754ea9ccaba42e07954d0a7bdb95814769091fac3a929cdfce82a)

def testnetDomain : BytesN 32 :=
  Encoding.fixedBytes 32
    0xcee0302d59844d32bdca915c8203dd44b33fbb7edc19051ea37abedf28ecd472

/-- The first golden vector of the drought encoding: 70% of normal rain in
the second window, 1,000 USDC insured, 450 USDC paid. -/
def v1 : DroughtDetermination where
  onChainPolicyId := 1
  damagePercentBp := 4500
  droughtDamage := 45
  payoutAmount := ⟨4500000000, by decide⟩
  assessedAt := 1753574400
  latitudeE6 := ⟨-1286389, by decide⟩
  longitudeE6 := ⟨36817223, by decide⟩
  sumInsured := ⟨10000000000, by decide⟩
  seasonStartEpoch := 1743465600
  lgpDays := 180
  rainW1E2 := 20000
  rainRefW1E2 := 20000
  rainW2E2 := 12600
  rainRefW2E2 := 18000
  cddW2Days := 21
  sourceHash := Encoding.fixedBytes 32
    0x0914c3741661d9f021ffd84f45a6a87b43023ee2bc8caba7f294a419748441b0
  methodologyParamsHash := Encoding.droughtParamsHashRdi10

def v1Digest : BytesN 32 :=
  Encoding.fixedBytes 32
    0x1c6d4c5891f94f1f91d9215a2cb40bb11150abbbd609bda8101025af6f45409a

/-- The signature over the digest of the vector, with recovery id 1. -/
def v1Signature : BytesN 64 :=
  Encoding.fixedBytes 64 (2 ^ 256 *
    0xb0f24d171bf0483e00415c260c74b5a4d2114b1e5d40c6fdfe77a9ba205717c6 +
    0x1ccd2fbe2f33550348c9e982083ccf627ccf0d374d06ee9434da52ff06976cc4)

/-- The key that signed it, uncompressed. -/
def v1Signer : BytesN 65 :=
  Encoding.fixedBytes 65 (2 ^ 512 * 0x04 + 2 ^ 256 *
    0xba5734d8f7091719471e7f7ed6b9df170dc70cc661ca05e688601ad984f068b0 +
    0xd67351e5f06073092499336ab0839ef8a521afd334e53807205fa2f08eec74f4)

/-- Keccak and recovery on the inputs of the vector. -/
def v1Crypto : Crypto where
  keccak256 input :=
    if input = Encoding.schemaVersion then Encoding.fixedBytes 32
      0xe6bbd6277e1bf288eed5e8d1780f9a50b239e86b153736bceebccf4ea79d90b3
    else if input = Encoding.kindDrought then Encoding.fixedBytes 32
      0xf2b99be7d15886c701cace71237751b285d7a5efd670dd4827b70222b4f2b6fe
    else if input = Encoding.methodologyDroughtRdi10 then
      Encoding.fixedBytes 32
      0x25e8b6bc86f982a1af7056c2ef67b624936c3ca109202f7ff94c543635fa6891
    else if input = Encoding.encodeDroughtInputs v1 then
      Encoding.fixedBytes 32
      0x5dddcbb1cff2a508d0aae6eaf1426365e5eeebea7150c1b528db0b4fa77ac235
    else v1Digest
  secp256k1Recover digest signature recoveryId :=
    if digest = v1Digest ∧ signature = v1Signature ∧ recoveryId = 1 then
      some v1Signer
    else none

end Microcrop
