import Mathlib.Tactic.Common

/-!
# Exact Arithmetic on Machine Integers

A program computes with 32 bits, and its result is meant to be that of the integers. Whether it is
can be asked of each operation: `Operation.Exact` says that the integer result fits the type of the
operation. What an exact operation computes is then the integer result.
-/

namespace GloDroid.Base

/-- An operation on machine integers with its operands. -/
inductive Operation where
  | mulInt32 (a b : Int32)
  | toUInt32 (a : Int32)
  | addUInt32 (a b : UInt32)
  | mulUInt32 (a b : UInt32)
  deriving DecidableEq

namespace Operation

/-- No overflow, no negative number converted, no wrap. -/
def Exact : Operation → Prop
  | mulInt32 a b =>
    Int32.minValue.toInt ≤ a.toInt * b.toInt ∧ a.toInt * b.toInt ≤ Int32.maxValue.toInt
  | toUInt32 a => 0 ≤ a.toInt
  | addUInt32 a b => a.toNat + b.toNat < UInt32.size
  | mulUInt32 a b => a.toNat * b.toNat < UInt32.size

instance : (op : Operation) → Decidable op.Exact
  | mulInt32 a b => inferInstanceAs (Decidable (Int32.minValue.toInt ≤ a.toInt * b.toInt ∧ _))
  | toUInt32 a => inferInstanceAs (Decidable (0 ≤ a.toInt))
  | addUInt32 a b => inferInstanceAs (Decidable (a.toNat + b.toNat < UInt32.size))
  | mulUInt32 a b => inferInstanceAs (Decidable (a.toNat * b.toNat < UInt32.size))

theorem exact_mulInt32_iff {a b : Int32} : (mulInt32 a b).Exact ↔
    -2147483648 ≤ a.toInt * b.toInt ∧ a.toInt * b.toInt ≤ 2147483647 :=
  Iff.rfl

theorem exact_addUInt32_iff {a b : UInt32} :
    (addUInt32 a b).Exact ↔ a.toNat + b.toNat < 4294967296 :=
  Iff.rfl

theorem exact_mulUInt32_iff {a b : UInt32} :
    (mulUInt32 a b).Exact ↔ a.toNat * b.toNat < 4294967296 :=
  Iff.rfl

theorem Exact.toInt_mul {a b : Int32} (h : (mulInt32 a b).Exact) :
    (a * b).toInt = a.toInt * b.toInt := by
  rw [Int32.toInt_mul]
  apply Int.bmod_eq_of_le
  · exact h.1
  · exact Int.lt_of_le_of_lt h.2 (by decide)

theorem Exact.toNat_toUInt32 {a : Int32} (h : (toUInt32 a).Exact) :
    (a.toUInt32.toNat : Int) = a.toInt := by
  have hle : 0 ≤ a := Int32.le_iff_toInt_le.mpr h
  rw [Int32.toNat_toUInt32_of_le hle, Int32.cast_toNatClampNeg a hle]

theorem Exact.toNat_add {a b : UInt32} (h : (addUInt32 a b).Exact) :
    (a + b).toNat = a.toNat + b.toNat := by
  rw [UInt32.toNat_add]
  exact Nat.mod_eq_of_lt h

theorem Exact.toNat_mul {a b : UInt32} (h : (mulUInt32 a b).Exact) :
    (a * b).toNat = a.toNat * b.toNat := by
  rw [UInt32.toNat_mul]
  exact Nat.mod_eq_of_lt h

end Operation

end GloDroid.Base
