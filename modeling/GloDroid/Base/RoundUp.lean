import Mathlib.Algebra.Order.Floor.Div
import Mathlib.Data.Nat.Bitwise
import Mathlib.Tactic.Common

/-!
# Rounding Sizes Up

A size is rounded up to a multiple of an alignment. For an alignment that is a power of two,
programs add one less than it and clear the low bits; with machine integers the sum may wrap, and
the mask may have fewer bits than the sum. `add_and_mask` says what comes out in all these cases.
-/

namespace GloDroid.Base

/-- The least multiple of `a` that is not below `n`. -/
def roundUp (n a : Nat) : Nat := a * (n ⌈/⌉ a)

section RoundUp

variable {n m a : Nat}

theorem le_roundUp (ha : 0 < a) : n ≤ roundUp n a := le_smul_ceilDiv ha

theorem dvd_roundUp (n a : Nat) : a ∣ roundUp n a := Nat.dvd_mul_right a _

theorem roundUp_zero (a : Nat) : roundUp 0 a = 0 := by
  rw [roundUp, zero_ceilDiv, Nat.mul_zero]

theorem roundUp_le (ha : 0 < a) (hn : n ≤ m) (hm : a ∣ m) : roundUp n a ≤ m := by
  obtain ⟨c, rfl⟩ := hm
  apply Nat.mul_le_mul_left
  exact (ceilDiv_le_iff_le_smul ha).mpr hn

theorem roundUp_eq_self_iff (ha : 0 < a) : roundUp n a = n ↔ a ∣ n := by
  constructor
  · intro h
    exact h ▸ dvd_roundUp n a
  · intro hdvd
    exact Nat.le_antisymm (roundUp_le ha (Nat.le_refl n) hdvd) (le_roundUp ha)

theorem roundUp_one (n : Nat) : roundUp n 1 = n :=
  (roundUp_eq_self_iff Nat.one_pos).mpr (Nat.one_dvd n)

/-- Reduced modulo a multiple of the alignment, the result is that of rounding or zero. -/
theorem roundUp_mod_eq (ha : 0 < a) (hdvd : a ∣ m) (hn : n < m) (hpos : roundUp n a % m ≠ 0) :
    roundUp n a % m = roundUp n a := by
  apply Nat.mod_eq_of_lt
  apply Nat.lt_of_le_of_ne (roundUp_le ha (Nat.le_of_lt hn) hdvd)
  intro heq
  rw [heq, Nat.mod_self] at hpos
  exact hpos rfl

end RoundUp

/-! ## Masks -/

theorem and_mask (x n k : Nat) : x &&& ((2 ^ n - 1) <<< k) = x / 2 ^ k % 2 ^ n * 2 ^ k := by
  rw [← Nat.shiftRight_eq_div_pow, ← Nat.and_two_pow_sub_one_eq_mod, ← Nat.shiftLeft_eq]
  apply Nat.eq_of_testBit_eq
  intro i
  simp only [Nat.testBit_and, Nat.testBit_shiftLeft, Nat.testBit_shiftRight,
    Nat.testBit_two_pow_sub_one]
  by_cases hi : k ≤ i <;> simp [hi]

/-- The sum is taken in `v` bits, and the mask is the complement of `2 ^ k - 1` in `w` bits. -/
theorem add_and_mask {k w v : Nat} (hk : k ≤ w) (hw : w ≤ v) (n : Nat) :
    (n + (2 ^ k - 1)) % 2 ^ v &&& (2 ^ w - 2 ^ k) = roundUp n (2 ^ k) % 2 ^ w := by
  have hmask : 2 ^ w - 2 ^ k = (2 ^ (w - k) - 1) <<< k := by
    rw [Nat.shiftLeft_eq, Nat.sub_mul, ← Nat.pow_add, Nat.sub_add_cancel hk, Nat.one_mul]
  have hround : roundUp n (2 ^ k) = (n + (2 ^ k - 1)) / 2 ^ k * 2 ^ k := by
    rw [roundUp, Nat.ceilDiv_eq_add_pred_div, Nat.mul_comm, Nat.add_sub_assoc Nat.one_le_two_pow]
  have hsum : 2 ^ v = 2 ^ k * 2 ^ (v - k) := by
    rw [← Nat.pow_add, Nat.add_sub_cancel' (hk.trans hw)]
  have hsize : 2 ^ w = 2 ^ (w - k) * 2 ^ k := by
    rw [← Nat.pow_add, Nat.sub_add_cancel hk]
  have hdvd : 2 ^ (w - k) ∣ 2 ^ (v - k) := Nat.pow_dvd_pow 2 (Nat.sub_le_sub_right hw k)
  rw [hmask, and_mask, hsum, Nat.mod_mul_right_div_self, Nat.mod_mod_of_dvd _ hdvd, hround, hsize,
    Nat.mul_mod_mul_right]

/-! ## Alignments of 32 bits -/

theorem toNat_pos {n : UInt32} (h : n ≠ 0) : 0 < n.toNat :=
  Nat.pos_of_ne_zero fun hzero => h (UInt32.toNat_inj.mp hzero)

section UInt32

variable {b : UInt32} {k : Nat}

theorem toNat_sub_one (hb : b.toNat = 2 ^ k) : (b - 1).toNat = 2 ^ k - 1 := by
  have hone : (1 : UInt32) ≤ b := by
    rw [UInt32.le_iff_toNat_le, hb]
    exact Nat.two_pow_pos k
  rw [UInt32.toNat_sub_of_le _ _ hone, hb, UInt32.toNat_one]

theorem toNat_mask (hb : b.toNat = 2 ^ k) : (~~~(b - 1)).toNat = 2 ^ 32 - 2 ^ k := by
  have hpos : 0 < 2 ^ k := Nat.two_pow_pos k
  rw [UInt32.toNat_not, toNat_sub_one hb, UInt32.size]
  omega

theorem exponent_le (hb : b.toNat = 2 ^ k) : k ≤ 32 := by
  apply Nat.le_of_lt
  apply (Nat.pow_lt_pow_iff_right Nat.one_lt_two).mp
  exact hb ▸ b.toNat_lt

/-- A result other than zero is that of rounding. -/
theorem roundUp_mod_size {n : Nat} (hb : b.toNat = 2 ^ k) (hn : n < UInt32.size)
    (hpos : roundUp n b.toNat % UInt32.size ≠ 0) :
    roundUp n b.toNat % UInt32.size = roundUp n b.toNat := by
  apply roundUp_mod_eq _ _ hn hpos
  · rw [hb]
    exact Nat.two_pow_pos k
  · rw [hb]
    exact Nat.pow_dvd_pow 2 (exponent_le hb)

end UInt32

end GloDroid.Base
