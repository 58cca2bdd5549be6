import Mathlib.Logic.Function.Basic

/-!
# Prefix codes

An encoding is a prefix code if the front of a byte string determines the
encoded value and where it ends.  A concatenation of prefix codes can then be
read back one value after the other.
-/

/-- The front of a string determines the value that it encodes. -/
def PrefixCode {α β : Type} (encode : α → List β) : Prop :=
  ∀ ⦃first second : α⦄ ⦃rest other : List β⦄,
    encode first ++ rest = encode second ++ other →
      first = second ∧ rest = other

namespace PrefixCode

variable {α β : Type}

/-- An injective code of one fixed length is a prefix code. -/
theorem of_length {encode : α → List β} {length : Nat}
    (injective : Function.Injective encode)
    (lengths : ∀ value, (encode value).length = length) :
    PrefixCode encode := by
  intro first second rest other same
  obtain ⟨front, back⟩ := List.append_inj same
    ((lengths first).trans (lengths second).symm)
  exact ⟨injective front, back⟩

theorem injective {encode : α → List β} (code : PrefixCode encode) :
    Function.Injective encode := by
  intro first second same
  have extended : encode first ++ [] = encode second ++ [] := by rw [same]
  exact (code extended).1

end PrefixCode
