import Mathlib.Tactic.NormNum

set_option autoImplicit false

/-! # Go's 64-bit integers

Go's `int` (64-bit on every target the repository builds for) and `int64` are `BitVec 64`, read as
two's complement through `toInt`; `+`, `-` and `*` wrap around modulo `2^64`. The lemmas here say
when they do not: a result that stays in `[-2^63, 2^63)` is the exact one. -/

namespace GoNms.Go

/-- A Go `int` or `int64` value lies in `[-2^63, 2^63)`. -/
theorem toInt_mem_range (x : BitVec 64) : -2 ^ 63 ≤ x.toInt ∧ x.toInt < 2 ^ 63 := by
  have h1 := @Int.le_bmod x.toNat (2 ^ 64) (by norm_num)
  have h2 := @Int.bmod_lt x.toNat (2 ^ 64) (by norm_num)
  rw [BitVec.toInt_eq_toNat_bmod]
  norm_num at h1 h2 ⊢
  omega

/-- Reducing a value of Go's 64-bit range modulo `2^64` to the signed range leaves it alone. -/
theorem bmod_of_mem_range {x : ℤ} (h : -2 ^ 63 ≤ x ∧ x < 2 ^ 63) : x.bmod (2 ^ 64) = x := by
  rcases le_or_lt 0 x with hx | hx
  · rw [Int.bmod_pos _ _ (by norm_num; omega)]; norm_num; omega
  · rw [Int.bmod_neg _ _ (by norm_num; omega)]; norm_num; omega

theorem toInt_sub_of_mem_range {x y : BitVec 64}
    (h : -2 ^ 63 ≤ x.toInt - y.toInt ∧ x.toInt - y.toInt < 2 ^ 63) :
    (x - y).toInt = x.toInt - y.toInt := by
  rw [BitVec.toInt_sub, bmod_of_mem_range h]

theorem toInt_mul_of_mem_range {x y : BitVec 64}
    (h : -2 ^ 63 ≤ x.toInt * y.toInt ∧ x.toInt * y.toInt < 2 ^ 63) :
    (x * y).toInt = x.toInt * y.toInt := by
  rw [BitVec.toInt_mul, bmod_of_mem_range h]

/-- Go's signed `<` on `int` and `int64`. -/
@[simp]
theorem slt_eq_decide (x y : BitVec 64) : BitVec.slt x y = decide (x.toInt < y.toInt) := rfl

/-- A non-negative value has the same unsigned reading. -/
theorem toNat_eq_toInt_toNat {x : BitVec 64} (h : 0 ≤ x.toInt) : x.toNat = x.toInt.toNat := by
  have := x.isLt
  rw [BitVec.toInt_eq_toNat_cond] at h ⊢
  split_ifs at h ⊢ <;> omega

end GoNms.Go
