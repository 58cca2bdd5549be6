import Mathlib.Algebra.Group.Int.Defs
import Mathlib.Algebra.Group.Nat.Defs
import Mathlib.Data.List.OfFn
import Microcrop.ByteLayout

/-!
# Static values of the contract ABI

The ABI gives every static value one word of 32 bytes: integers modulo 2^256,
most significant byte first, so that signed ones are in two's complement, and
32-byte strings as they are.  A tuple of static values is the concatenation of
their words, and a word is decoded by the kind of its value.
-/

namespace Abi

/-! ## Numbers -/

/-- The last `width` base-256 digits of a number, most significant first. -/
def spell (width value : Nat) : List UInt8 :=
  List.ofFn fun index : Fin width =>
    UInt8.ofNat (value / 256 ^ (width - 1 - index) % 256)

/-- The number that a byte string spells. -/
def read (bytes : List UInt8) : Nat :=
  bytes.foldl (fun value byte => 256 * value + byte.toNat) 0

@[simp]
theorem spell_length (width value : Nat) :
    (spell width value).length = width := by
  simp [spell]

theorem spell_succ (width value : Nat) :
    spell (width + 1) value =
      spell width (value / 256) ++ [UInt8.ofNat (value % 256)] := by
  unfold spell
  rw [List.ofFn_succ_last]
  congr 1
  · congr 1
    funext index
    have shift : width + 1 - 1 - index.castSucc = width - 1 - index + 1 := by
      have := index.isLt
      simp only [Fin.val_castSucc]
      omega
    rw [shift, Nat.pow_succ', Nat.div_div_eq_div_mul]
  · simp

/-- A number is spelled by its high digits and then its low ones. -/
theorem spell_add (high low value : Nat) :
    spell (high + low) value =
      spell high (value / 256 ^ low) ++ spell low value := by
  induction low generalizing value with
  | zero => simp [spell]
  | succ low ih =>
      rw [← Nat.add_assoc, spell_succ, ih, spell_succ low value,
        Nat.div_div_eq_div_mul, ← Nat.pow_succ', List.append_assoc]

theorem spell_mod (width value : Nat) :
    spell width (value % 256 ^ width) = spell width value := by
  induction width generalizing value with
  | zero => rfl
  | succ width ih =>
      rw [spell_succ, spell_succ, Nat.pow_succ', Nat.mod_mul_right_div_self,
        ih, Nat.mod_mul_right_mod]

theorem read_append_singleton (bytes : List UInt8) (byte : UInt8) :
    read (bytes ++ [byte]) = 256 * read bytes + byte.toNat := by
  simp [read]

/-- What was spelled is read back, up to the digits that did not fit. -/
theorem read_spell (width value : Nat) :
    read (spell width value) = value % 256 ^ width := by
  induction width generalizing value with
  | zero => simp [spell, read, Nat.mod_one]
  | succ width ih =>
      have digit : (UInt8.ofNat (value % 256)).toNat = value % 256 := by
        simp
      rw [spell_succ, read_append_singleton, ih, digit, Nat.pow_succ',
        Nat.mod_mul]
      omega

/-! ## Values -/

/-- A static value. -/
inductive Value
  | uint (value : Nat)
  | int (value : Int)
  | bytes32 (bytes : List UInt8)
  deriving DecidableEq

/-- The kind by which a word is decoded. -/
inductive Kind
  | uint
  | int
  | bytes32
  deriving DecidableEq

namespace Value

def kind : Value → Kind
  | .uint _ => .uint
  | .int _ => .int
  | .bytes32 _ => .bytes32

/-- The values that the ABI has. -/
def Fits : Value → Prop
  | .uint value => value < 2 ^ 256
  | .int value => -2 ^ 255 ≤ value ∧ value < 2 ^ 255
  | .bytes32 bytes => bytes.length = 32

/-- The word of a value. -/
def word : Value → List UInt8
  | .uint value => spell 32 (value % 2 ^ 256)
  | .int value => spell 32 (value % 2 ^ 256).toNat
  | .bytes32 bytes => bytes

theorem word_length {value : Value} (fits : value.Fits) :
    value.word.length = 32 := by
  cases value with
  | uint value => exact spell_length _ _
  | int value => exact spell_length _ _
  | bytes32 bytes => exact fits

end Value

/-- The integer whose two's complement is a number of 256 bits. -/
def signed (value : Nat) : Int :=
  if value < 2 ^ 255 then value else value - 2 ^ 256

theorem signed_mod {value : Int} (lower : -2 ^ 255 ≤ value)
    (upper : value < 2 ^ 255) : signed (value % 2 ^ 256).toNat = value := by
  unfold signed
  split <;> omega

/-- The value of a kind that a word holds. -/
def Kind.decode (word : List UInt8) : Kind → Value
  | .uint => .uint (read word)
  | .int => .int (signed (read word))
  | .bytes32 => .bytes32 word

/-- A word decodes to the value that it was made of. -/
theorem Value.decode_word {value : Value} (fits : value.Fits) :
    value.kind.decode value.word = value := by
  have width : 256 ^ 32 = 2 ^ 256 := by decide
  cases value with
  | uint value =>
      have small : value < 2 ^ 256 := fits
      have same : read (spell 32 (value % 2 ^ 256)) = value := by
        rw [read_spell, width, Nat.mod_mod, Nat.mod_eq_of_lt small]
      exact congrArg Value.uint same
  | int value =>
      have residue : (value % 2 ^ 256).toNat < 2 ^ 256 := by omega
      have same : read (spell 32 (value % 2 ^ 256).toNat) =
          (value % 2 ^ 256).toNat := by
        rw [read_spell, width, Nat.mod_eq_of_lt residue]
      simp only [kind, word, Kind.decode, same, signed_mod fits.1 fits.2]
  | bytes32 bytes => rfl

/-! ## Tuples -/

/-- The encoding of a tuple of static values. -/
def encode (values : List Value) : List UInt8 :=
  (values.map Value.word).flatten

/-- A value at its offset. -/
structure Field where
  offset : Nat
  value : Value

namespace Field

/-- The field as a piece of a layout. -/
def row (field : Field) : LayoutRow UInt8 where
  start := field.offset
  stop := field.offset + 32
  content := field.value.word

/-- The fields follow one another, one word each, from `start` on. -/
def Consecutive : Nat → List Field → Prop
  | _, [] => True
  | start, field :: fields =>
      field.offset = start ∧ Consecutive (start + 32) fields

theorem written_rows (fields : List Field) :
    LayoutRow.written (fields.map row) = encode (fields.map Field.value) := by
  induction fields with
  | nil => rfl
  | cons field fields ih =>
      rw [List.map_cons, LayoutRow.written_cons, ih]
      rfl

variable {start : Nat} {fields : List Field}

theorem Consecutive.covers (consecutive : Consecutive start fields)
    (fits : ∀ field ∈ fields, field.value.Fits) :
    LayoutRow.Covers start (start + 32 * fields.length)
      (fields.map row) := by
  induction fields generalizing start with
  | nil => exact rfl
  | cons field fields ih =>
      obtain ⟨here, later⟩ := consecutive
      have rest := ih later fun other member =>
        fits other (List.mem_cons_of_mem field member)
      have word := Value.word_length (fits field List.mem_cons_self)
      have advance : start + 32 * (field :: fields).length =
          start + 32 + 32 * fields.length := by
        rw [List.length_cons]
        omega
      rw [advance, ← here] at *
      exact ⟨rfl, congrArg (field.offset + ·) word, rest⟩

/-- The word at the offset of the field decodes to its value. -/
def ReadFrom (bytes : List UInt8) (field : Field) : Prop :=
  field.value.kind.decode
    (bytes.extract field.offset (field.offset + 32)) = field.value

/-- Every field of a layout is read back. -/
theorem readFrom_written {stop : Nat} {rows : List (LayoutRow UInt8)}
    (covers : LayoutRow.Covers 0 stop rows) {field : Field}
    (member : field.row ∈ rows) (fits : field.value.Fits) :
    field.ReadFrom (LayoutRow.written rows) := by
  have word : (LayoutRow.written rows).extract field.offset
      (field.offset + 32) = field.value.word :=
    covers.extract_eq member
  unfold ReadFrom
  rw [word]
  exact Value.decode_word fits

/-- The encoding of a tuple has one word for each field, and every field is
read back from it. -/
theorem encode_layout (consecutive : Consecutive 0 fields)
    (fits : ∀ field ∈ fields, field.value.Fits) :
    (encode (fields.map value)).length = 32 * fields.length ∧
      ∀ field ∈ fields, field.ReadFrom (encode (fields.map value)) := by
  have covers := consecutive.covers fits
  have length := covers.length_eq
  rw [Nat.zero_add] at covers length
  rw [← written_rows]
  constructor
  · omega
  · intro field member
    exact readFrom_written covers (List.mem_map_of_mem member)
      (fits field member)

end Field

end Abi
