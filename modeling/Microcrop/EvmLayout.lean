import Microcrop.AbiEncoding
import Microcrop.Encoding

/-!
# The signed layouts are those of the EVM

The byte loops of `word_from_i128` and `word_from_u128` make ABI words, the
two evidence encodings are ABI tuples of the documented fields, and the two
preimages hold every piece at its documented offset, from which each number is
decoded exactly.
-/

namespace Microcrop

namespace Encoding

/-! ## The byte loops -/

/-- The loop `while i < count { w[start + i] = source(i); i += 1; }`. -/
def storeBytes (source : Nat → UInt8) (start : Nat) :
    (count : Nat) → List UInt8 → List UInt8
  | 0, w => w
  | count + 1, w =>
      (storeBytes source start count w).set (start + count) (source count)

/-- The statements of `word_from_i128`. -/
def wordFromI128Loop (v : I128) : List UInt8 :=
  let zeroed := List.replicate 32 0
  let extended :=
    if v.val < 0 then storeBytes (fun _ => 0xff) 0 16 zeroed else zeroed
  let be := bigEndian 16 (v.val % 2 ^ 128).toNat
  storeBytes (fun i => be.getD i 0) 16 16 extended

/-- The statements of `word_from_u128`. -/
def wordFromU128Loop (v : Nat) : List UInt8 :=
  let be := bigEndian 16 v
  storeBytes (fun i => be.getD i 0) 16 16 (List.replicate 32 0)

/-- The loop replaces the bytes it covers and keeps the others. -/
theorem storeBytes_eq (source : Nat → UInt8) {start count : Nat}
    {w : List UInt8} (inside : start + count ≤ w.length) :
    storeBytes source start count w =
      w.take start ++ (List.range count).map source ++
        w.drop (start + count) := by
  induction count with
  | zero => simp [storeBytes]
  | succ count ih =>
      have before := ih (by omega)
      have next : w.drop (start + count) =
          w[start + count] :: w.drop (start + (count + 1)) :=
        List.drop_eq_getElem_cons (by omega)
      have front : (w.take start ++ (List.range count).map source).length =
          start + count := by
        rw [List.length_append, List.length_take, List.length_map,
          List.length_range]
        omega
      rw [storeBytes, before, next, List.set_append_right _ _ front.le, front,
        Nat.sub_self, List.set_cons_zero, List.range_succ, List.map_append]
      simp

/-- Reading a list byte by byte gives the list. -/
theorem map_getD_range {bytes : List UInt8} {count : Nat}
    (length : bytes.length = count) :
    (List.range count).map (fun i => bytes.getD i 0) = bytes := by
  apply List.ext_getElem
  · simp [length]
  · intro i inside other
    simp [List.getD_eq_getElem?_getD, other]

theorem wordFromU128Loop_eq (v : Nat) :
    wordFromU128Loop v = wordFromU128 v := by
  unfold wordFromU128Loop wordFromU128
  dsimp only
  rw [storeBytes_eq _ (by simp), map_getD_range (bigEndian_length 16 v)]
  simp

theorem wordFromI128Loop_eq (v : I128) :
    wordFromI128Loop v = wordFromI128 v := by
  have low := bigEndian_length 16 (v.val % 2 ^ 128).toNat
  have extended : storeBytes (fun _ => 0xff) 0 16 (List.replicate 32 0) =
      List.replicate 16 0xff ++ List.replicate 16 0 := by
    decide
  unfold wordFromI128Loop wordFromI128
  dsimp only
  split
  · rw [extended, storeBytes_eq _ (by simp), map_getD_range low]
    simp
  · rw [storeBytes_eq _ (by simp), map_getD_range low]
    simp

/-! ## Words -/

theorem bigEndian_eq_spell (length value : Nat) :
    bigEndian length value = Abi.spell length value := by
  induction length generalizing value with
  | zero => rfl
  | succ length ih =>
      rw [Abi.spell_succ, ← ih]
      rfl

/-- Zero padding gives the word of an unsigned value. -/
theorem wordFromU128_eq_word {v : Nat} (fits : v < 2 ^ 128) :
    wordFromU128 v = (Abi.Value.uint v).word := by
  have padding : List.replicate 16 (0 : UInt8) = Abi.spell 16 0 := by decide
  have high : v / 256 ^ 16 = 0 := Nat.div_eq_of_lt (by omega)
  have residue : v % 2 ^ 256 = v := Nat.mod_eq_of_lt (by omega)
  unfold wordFromU128 Abi.Value.word
  dsimp only
  rw [residue, Abi.spell_add 16 16, high, bigEndian_eq_spell, padding]

/-- Sign extension gives the word of a signed value, in two's complement. -/
theorem wordFromI128_eq_word (v : I128) :
    wordFromI128 v = (Abi.Value.int v.val).word := by
  obtain ⟨value, lower, upper⟩ := v
  have ones : List.replicate 16 (0xff : UInt8) =
      Abi.spell 16 (256 ^ 16 - 1) := by
    decide
  have zeros : List.replicate 16 (0 : UInt8) = Abi.spell 16 0 := by decide
  have low : Abi.spell 16 (value % 2 ^ 256).toNat =
      Abi.spell 16 (value % 2 ^ 128).toNat := by
    have residue : (value % 2 ^ 256).toNat % 256 ^ 16 =
        (value % 2 ^ 128).toNat := by
      omega
    rw [← residue, Abi.spell_mod]
  unfold wordFromI128 Abi.Value.word
  dsimp only
  rw [Abi.spell_add 16 16, low, bigEndian_eq_spell]
  split <;> rename_i sign
  · have high : (value % 2 ^ 256).toNat / 256 ^ 16 = 256 ^ 16 - 1 := by
      omega
    rw [high, ones]
  · have high : (value % 2 ^ 256).toNat / 256 ^ 16 = 0 := by omega
    rw [high, zeros]

/-! ## Fields -/

theorem fits_unsigned {bound : Nat} (small : bound ≤ 2 ^ 128)
    (v : Fin bound) : (Abi.Value.uint v).Fits := by
  have below := v.isLt
  have wider : 2 ^ 128 ≤ 2 ^ 256 := by decide
  exact below.trans_le (small.trans wider)

theorem wordFromU128_unsigned {bound : Nat} (small : bound ≤ 2 ^ 128)
    (v : Fin bound) : wordFromU128 v = (Abi.Value.uint v).word :=
  wordFromU128_eq_word (v.isLt.trans_le small)

theorem u32_small : 2 ^ 32 ≤ 2 ^ 128 := by decide

theorem u64_small : 2 ^ 64 ≤ 2 ^ 128 := by decide

theorem fits_signed (v : I128) : (Abi.Value.int v.val).Fits := by
  have lower : -2 ^ 127 ≤ v.val := v.property.1
  have upper : v.val < 2 ^ 127 := v.property.2
  constructor <;> omega

/-- The evidence of a CROP_DAMAGE determination, in its documented order. -/
def inputFields (d : CropDetermination) : List Abi.Field :=
  [⟨0, .uint d.onChainPolicyId⟩,
    ⟨32, .int d.latitudeE6.val⟩,
    ⟨64, .int d.longitudeE6.val⟩,
    ⟨96, .int d.sumInsured.val⟩,
    ⟨128, .int d.ndviScaled.val⟩,
    ⟨160, .uint d.weatherPresent⟩,
    ⟨192, .int d.weatherTempCE2.val⟩,
    ⟨224, .uint d.weatherPrecipE2⟩,
    ⟨256, .uint d.weatherHumidity⟩,
    ⟨288, .uint d.weatherWindE2⟩]

/-- The evidence of a CROP_DROUGHT determination, in its documented order. -/
def droughtInputFields (d : DroughtDetermination) : List Abi.Field :=
  [⟨0, .uint d.onChainPolicyId⟩,
    ⟨32, .int d.latitudeE6.val⟩,
    ⟨64, .int d.longitudeE6.val⟩,
    ⟨96, .int d.sumInsured.val⟩,
    ⟨128, .uint d.seasonStartEpoch⟩,
    ⟨160, .uint d.lgpDays⟩,
    ⟨192, .uint d.rainW1E2⟩,
    ⟨224, .uint d.rainRefW1E2⟩,
    ⟨256, .uint d.rainW2E2⟩,
    ⟨288, .uint d.rainRefW2E2⟩,
    ⟨320, .uint d.cddW2Days⟩,
    ⟨352, .bytes32 d.sourceHash.toList⟩,
    ⟨384, .bytes32 d.methodologyParamsHash.toList⟩]

theorem inputFields_fit (d : CropDetermination) :
    ∀ field ∈ inputFields d, field.value.Fits := by
  simp only [inputFields, List.forall_mem_cons, List.not_mem_nil,
    false_implies, implies_true, fits_unsigned u32_small,
    fits_unsigned u64_small, fits_unsigned (Nat.le_refl (2 ^ 128)),
    fits_signed, and_self]

theorem droughtInputFields_fit (d : DroughtDetermination) :
    ∀ field ∈ droughtInputFields d, field.value.Fits := by
  have source : (Abi.Value.bytes32 d.sourceHash.toList).Fits :=
    d.sourceHash.length_eq
  have params : (Abi.Value.bytes32 d.methodologyParamsHash.toList).Fits :=
    d.methodologyParamsHash.length_eq
  simp only [droughtInputFields, List.forall_mem_cons, List.not_mem_nil,
    false_implies, implies_true, fits_unsigned u32_small,
    fits_unsigned u64_small, fits_unsigned (Nat.le_refl (2 ^ 128)),
    fits_signed, source, params, and_self]

theorem encodeInputs_eq_encode (d : CropDetermination) :
    encodeInputs d = Abi.encode ((inputFields d).map Abi.Field.value) := by
  simp only [encodeInputs, Abi.encode, inputFields, List.map_cons,
    List.map_nil, List.flatten_cons, List.flatten_nil, List.append_nil,
    List.append_assoc, wordFromU128_unsigned u32_small,
    wordFromU128_unsigned u64_small,
    wordFromU128_unsigned (Nat.le_refl (2 ^ 128)), wordFromI128_eq_word]

theorem encodeDroughtInputs_eq_encode (d : DroughtDetermination) :
    encodeDroughtInputs d =
      Abi.encode ((droughtInputFields d).map Abi.Field.value) := by
  simp only [encodeDroughtInputs, Abi.encode, droughtInputFields,
    List.map_cons, List.map_nil, List.flatten_cons, List.flatten_nil,
    List.append_nil, List.append_assoc, wordFromU128_unsigned u32_small,
    wordFromU128_unsigned u64_small,
    wordFromU128_unsigned (Nat.le_refl (2 ^ 128)), wordFromI128_eq_word]
  rfl

/-! ## Settlement preimages -/

section Preimage

variable (crypto : Crypto) (inputsHash : BytesN 32) (contract : Address)
  (networkDomain : BytesN 32)

/-- The part of a settlement preimage before its result words. -/
def preimageHead (kind methodology : List UInt8) :
    List (LayoutRow UInt8) :=
  [⟨0, 32, (crypto.keccak256 schemaVersion).toList⟩,
    ⟨32, 64, (crypto.keccak256 kind).toList⟩,
    ⟨64, 96, (crypto.keccak256 methodology).toList⟩,
    ⟨96, 128, networkDomain.toList⟩,
    ⟨128, 168, toXdr contract⟩,
    ⟨168, 200, inputsHash.toList⟩]

/-- The result words of a CROP_DAMAGE determination. -/
def resultFields (d : CropDetermination) : List Abi.Field :=
  [⟨200, .uint d.onChainPolicyId⟩,
    ⟨232, .uint d.damagePercentBp⟩,
    ⟨264, .uint d.weatherDamage⟩,
    ⟨296, .uint d.satelliteDamage⟩,
    ⟨328, .int d.payoutAmount.val⟩,
    ⟨360, .uint d.assessedAt⟩]

/-- The result words of a CROP_DROUGHT determination. -/
def droughtResultFields (d : DroughtDetermination) : List Abi.Field :=
  [⟨200, .uint d.onChainPolicyId⟩,
    ⟨232, .uint d.damagePercentBp⟩,
    ⟨264, .uint d.droughtDamage⟩,
    ⟨296, .int d.payoutAmount.val⟩,
    ⟨328, .uint d.assessedAt⟩]

/-- The layout of `encode_preimage`. -/
def preimageRows (d : CropDetermination) : List (LayoutRow UInt8) :=
  preimageHead crypto inputsHash contract networkDomain kindCrop
      methodologyCrop ++
    (resultFields d).map Abi.Field.row

/-- The layout of `encode_drought_preimage`. -/
def droughtPreimageRows (d : DroughtDetermination) :
    List (LayoutRow UInt8) :=
  preimageHead crypto inputsHash contract networkDomain kindDrought
      methodologyDroughtRdi10 ++
    (droughtResultFields d).map Abi.Field.row

theorem resultFields_fit (d : CropDetermination) :
    ∀ field ∈ resultFields d, field.value.Fits := by
  simp only [resultFields, List.forall_mem_cons, List.not_mem_nil,
    false_implies, implies_true, fits_unsigned u32_small,
    fits_unsigned u64_small, fits_signed, and_self]

theorem droughtResultFields_fit (d : DroughtDetermination) :
    ∀ field ∈ droughtResultFields d, field.value.Fits := by
  simp only [droughtResultFields, List.forall_mem_cons, List.not_mem_nil,
    false_implies, implies_true, fits_unsigned u32_small,
    fits_unsigned u64_small, fits_signed, and_self]

variable {contract}

theorem preimageHead_covers (identified : (toXdr contract).length = 40)
    (kind methodology : List UInt8) :
    LayoutRow.Covers 0 200
      (preimageHead crypto inputsHash contract networkDomain kind
        methodology) := by
  simp only [preimageHead, LayoutRow.covers_cons, LayoutRow.covers_nil,
    BytesN.length_eq, identified, Nat.reduceAdd, and_self]

theorem preimageRows_covers (identified : (toXdr contract).length = 40)
    (d : CropDetermination) :
    LayoutRow.Covers 0 392
      (preimageRows crypto inputsHash contract networkDomain d) := by
  have head := preimageHead_covers crypto inputsHash networkDomain identified
    kindCrop methodologyCrop
  have result : Abi.Field.Consecutive 200 (resultFields d) := by
    simp only [resultFields, Abi.Field.Consecutive, and_self]
  exact head.append (result.covers (resultFields_fit d))

theorem droughtPreimageRows_covers
    (identified : (toXdr contract).length = 40) (d : DroughtDetermination) :
    LayoutRow.Covers 0 360
      (droughtPreimageRows crypto inputsHash contract networkDomain d) := by
  have head := preimageHead_covers crypto inputsHash networkDomain identified
    kindDrought methodologyDroughtRdi10
  have result : Abi.Field.Consecutive 200 (droughtResultFields d) := by
    simp only [droughtResultFields, Abi.Field.Consecutive, and_self]
  exact head.append (result.covers (droughtResultFields_fit d))

variable (contract)

theorem encodePreimage_eq_written (d : CropDetermination) :
    encodePreimage crypto inputsHash d contract networkDomain =
      LayoutRow.written
        (preimageRows crypto inputsHash contract networkDomain d) := by
  rw [preimageRows, LayoutRow.written_append, Abi.Field.written_rows]
  simp only [encodePreimage, preimageHead, resultFields, Abi.encode,
    LayoutRow.written_cons, LayoutRow.written_nil, List.map_cons,
    List.map_nil, List.flatten_cons, List.flatten_nil, List.append_nil,
    List.append_assoc, wordFromU128_unsigned u32_small,
    wordFromU128_unsigned u64_small, wordFromI128_eq_word]

theorem encodeDroughtPreimage_eq_written (d : DroughtDetermination) :
    encodeDroughtPreimage crypto inputsHash d contract networkDomain =
      LayoutRow.written
        (droughtPreimageRows crypto inputsHash contract networkDomain d) := by
  rw [droughtPreimageRows, LayoutRow.written_append, Abi.Field.written_rows]
  simp only [encodeDroughtPreimage, preimageHead, droughtResultFields,
    Abi.encode, LayoutRow.written_cons, LayoutRow.written_nil, List.map_cons,
    List.map_nil, List.flatten_cons, List.flatten_nil, List.append_nil,
    List.append_assoc, wordFromU128_unsigned u32_small,
    wordFromU128_unsigned u64_small, wordFromI128_eq_word]

end Preimage

/-! ## The layouts -/

/-- The bytes are the ABI tuple of the fields, and the word at the offset of
each field decodes to it. -/
structure EncodesFields (bytes : List UInt8) (fields : List Abi.Field)
    (length : Nat) : Prop where
  encoding : bytes = Abi.encode (fields.map Abi.Field.value)
  length_eq : bytes.length = length
  read : ∀ field ∈ fields, field.ReadFrom bytes

/-- The bytes are written from the rows and hold each where it says. -/
structure LaidOut (bytes : List UInt8) (rows : List (LayoutRow UInt8))
    (length : Nat) : Prop where
  written : bytes = LayoutRow.written rows
  length_eq : bytes.length = length
  held : ∀ row ∈ rows, bytes.extract row.start row.stop = row.content

theorem encodesFields {bytes : List UInt8} {fields : List Abi.Field}
    (encoding : bytes = Abi.encode (fields.map Abi.Field.value))
    (consecutive : Abi.Field.Consecutive 0 fields)
    (fits : ∀ field ∈ fields, field.value.Fits) :
    EncodesFields bytes fields (32 * fields.length) := by
  have layout := Abi.Field.encode_layout consecutive fits
  rw [← encoding] at layout
  exact ⟨encoding, layout.1, layout.2⟩

theorem laidOut {bytes : List UInt8} {rows : List (LayoutRow UInt8)}
    {length : Nat} (written : bytes = LayoutRow.written rows)
    (covers : LayoutRow.Covers 0 length rows) :
    LaidOut bytes rows length where
  written := written
  length_eq := by
    have length_eq := covers.length_eq
    rw [written]
    omega
  held := by
    intro row member
    rw [written]
    exact covers.extract_eq member

/-- The two byte loops make the 32-byte big-endian words of their arguments
modulo 2^256, the evidence of each determination is the ABI tuple of its
fields, and each settlement preimage of a contract address holds every piece
at its documented offset.  Every field is decoded from its word. -/
theorem evmLayout (crypto : Crypto) :
    (∀ v : I128, wordFromI128Loop v = wordFromI128 v ∧
      wordFromI128 v = Abi.spell 32 (v.val % 2 ^ 256).toNat) ∧
    (∀ v : U128, wordFromU128Loop v = wordFromU128 v ∧
      wordFromU128 v = Abi.spell 32 (v.val % 2 ^ 256)) ∧
    (∀ d, EncodesFields (encodeInputs d) (inputFields d) 320) ∧
    (∀ d, EncodesFields (encodeDroughtInputs d) (droughtInputFields d) 416) ∧
    ∀ (inputsHash : BytesN 32) (contract : Address)
        (networkDomain : BytesN 32), (toXdr contract).length = 40 →
      (∀ d,
        let preimage :=
          encodePreimage crypto inputsHash d contract networkDomain
        LaidOut preimage
            (preimageRows crypto inputsHash contract networkDomain d) 392 ∧
          ∀ field ∈ resultFields d, field.ReadFrom preimage) ∧
      (∀ d,
        let preimage :=
          encodeDroughtPreimage crypto inputsHash d contract networkDomain
        LaidOut preimage
            (droughtPreimageRows crypto inputsHash contract networkDomain d)
            360 ∧
          ∀ field ∈ droughtResultFields d, field.ReadFrom preimage) := by
  constructor
  · intro v
    exact ⟨wordFromI128Loop_eq v, wordFromI128_eq_word v⟩
  constructor
  · intro v
    exact ⟨wordFromU128Loop_eq v,
      wordFromU128_unsigned (Nat.le_refl (2 ^ 128)) v⟩
  constructor
  · intro d
    apply encodesFields (encodeInputs_eq_encode d) _ (inputFields_fit d)
    simp only [inputFields, Abi.Field.Consecutive, Nat.reduceAdd, and_self]
  constructor
  · intro d
    apply encodesFields (encodeDroughtInputs_eq_encode d) _
      (droughtInputFields_fit d)
    simp only [droughtInputFields, Abi.Field.Consecutive, Nat.reduceAdd,
      and_self]
  intro inputsHash contract networkDomain identified
  constructor
  · intro d
    have written := encodePreimage_eq_written crypto inputsHash contract
      networkDomain d
    have covers := preimageRows_covers crypto inputsHash networkDomain
      identified d
    constructor
    · exact laidOut written covers
    · intro field member
      rw [written]
      exact Abi.Field.readFrom_written covers
        (List.mem_append_right _ (List.mem_map_of_mem member))
        (resultFields_fit d field member)
  · intro d
    have written := encodeDroughtPreimage_eq_written crypto inputsHash
      contract networkDomain d
    have covers := droughtPreimageRows_covers crypto inputsHash
      networkDomain identified d
    constructor
    · exact laidOut written covers
    · intro field member
      rw [written]
      exact Abi.Field.readFrom_written covers
        (List.mem_append_right _ (List.mem_map_of_mem member))
        (droughtResultFields_fit d field member)

/-- The preimage of the first golden vector. -/
theorem evmLayout_v1 :
    LaidOut
      (encodeDroughtPreimage v1Crypto
        (v1Crypto.keccak256 (encodeDroughtInputs v1)) v1 testnetReceiver
        testnetDomain)
      (droughtPreimageRows v1Crypto
        (v1Crypto.keccak256 (encodeDroughtInputs v1)) testnetReceiver
        testnetDomain v1) 360 :=
  (((evmLayout v1Crypto).2.2.2.2 _ testnetReceiver testnetDomain
    (by decide)).2 v1).1

end Encoding

end Microcrop
