import Mathlib.Data.Int.Log
import Mathlib.Data.Rat.Floor

set_option autoImplicit false

/-! # Binary64 rounding over the rationals

Go's `float64` is IEEE 754 binary64: every integer conversion and every arithmetic result is
rounded to nearest, ties to even. The model represents a finite `float64` by the rational it
denotes, and `roundBinary64` is that rounding with the exponent unbounded above (overflow to an
infinity is decided one level up, in `GoFloat`). The significand has 53 bits, so in the binade
`[2^e, 2^(e+1))` the spacing is `2^(e-52)`; below `2^-1022` it stays `2^-1074` (subnormals).

Every numeric fact the model needs is derived from four properties proved here: rounding is
monotone, odd and idempotent, and it fixes every `m · 2^t` with `|m| ≤ 2^53` and `t ≥ -1074`. -/

namespace GoNms.Go

/-! ## Ties-to-even rounding to an integer -/

/-- The integer nearest to `x`, ties to the even one. -/
def roundHalfEven (x : ℚ) : ℤ :=
  if x - ⌊x⌋ < 1 / 2 then ⌊x⌋
  else if 1 / 2 < x - ⌊x⌋ then ⌊x⌋ + 1
  else if ⌊x⌋ % 2 = 0 then ⌊x⌋ else ⌊x⌋ + 1

@[simp]
theorem roundHalfEven_intCast (k : ℤ) : roundHalfEven k = k := by
  simp [roundHalfEven]

@[simp]
theorem roundHalfEven_zero : roundHalfEven 0 = 0 := by
  simpa using roundHalfEven_intCast 0

theorem floor_le_roundHalfEven (x : ℚ) : ⌊x⌋ ≤ roundHalfEven x := by
  unfold roundHalfEven; split_ifs <;> omega

theorem roundHalfEven_le_floor_add_one (x : ℚ) : roundHalfEven x ≤ ⌊x⌋ + 1 := by
  unfold roundHalfEven; split_ifs <;> omega

theorem roundHalfEven_le_add_half (x : ℚ) : (roundHalfEven x : ℚ) ≤ x + 1 / 2 := by
  have h1 := Int.floor_le x
  unfold roundHalfEven
  split_ifs <;> push_cast <;> linarith

theorem roundHalfEven_mono {x y : ℚ} (h : x ≤ y) : roundHalfEven x ≤ roundHalfEven y := by
  rcases lt_or_eq_of_le (Int.floor_mono h) with hlt | heq
  · calc roundHalfEven x ≤ ⌊x⌋ + 1 := roundHalfEven_le_floor_add_one x
      _ ≤ ⌊y⌋ := hlt
      _ ≤ roundHalfEven y := floor_le_roundHalfEven y
  · -- same integer part: the fractional parts are ordered like `x` and `y`
    have hfr : x - ⌊x⌋ ≤ y - ⌊y⌋ := by rw [heq]; linarith
    unfold roundHalfEven
    rw [heq] at hfr ⊢
    split_ifs <;> first | omega | (exfalso; linarith)

theorem roundHalfEven_neg (x : ℚ) : roundHalfEven (-x) = -roundHalfEven x := by
  rcases eq_or_lt_of_le (Int.floor_le x) with hx | hx
  · rw [← hx, ← Int.cast_neg, roundHalfEven_intCast, roundHalfEven_intCast]
  · have h1 := Int.lt_floor_add_one x
    have hneg : ⌊-x⌋ = -⌊x⌋ - 1 := by
      rw [Int.floor_eq_iff]; push_cast; constructor <;> linarith
    unfold roundHalfEven
    rw [hneg]
    push_cast
    split_ifs <;> first | omega | (exfalso; linarith)

/-! ## Binades and the rounding function -/

/-- The exponent of `q`'s binade: `⌊log₂ |q|⌋`, never below the subnormal exponent `-1022`. -/
def binade (q : ℚ) : ℤ := max (Int.log 2 |q|) (-1022)

/-- The spacing of binary64 values in `q`'s binade (a 53-bit significand). -/
def ulp (q : ℚ) : ℚ := 2 ^ (binade q - 52)

/-- `q` rounded to the nearest binary64 value, ties to even, with no upper exponent bound. -/
def roundBinary64 (q : ℚ) : ℚ := roundHalfEven (q / ulp q) * ulp q

theorem ulp_pos (q : ℚ) : 0 < ulp q := zpow_pos (by norm_num) _

@[simp]
theorem binade_neg (q : ℚ) : binade (-q) = binade q := by simp [binade]

@[simp]
theorem ulp_neg (q : ℚ) : ulp (-q) = ulp q := by simp [ulp]

theorem roundBinary64_neg (q : ℚ) : roundBinary64 (-q) = -roundBinary64 q := by
  simp only [roundBinary64, ulp_neg, neg_div, roundHalfEven_neg, Int.cast_neg, neg_mul]

@[simp]
theorem roundBinary64_zero : roundBinary64 0 = 0 := by simp [roundBinary64]

theorem roundBinary64_nonneg {q : ℚ} (hq : 0 ≤ q) : 0 ≤ roundBinary64 q := by
  have h : (0 : ℤ) ≤ roundHalfEven (q / ulp q) := by
    simpa using roundHalfEven_mono (div_nonneg hq (ulp_pos q).le)
  exact mul_nonneg (by exact_mod_cast h) (ulp_pos q).le

theorem roundBinary64_nonpos {q : ℚ} (hq : q ≤ 0) : roundBinary64 q ≤ 0 := by
  have := roundBinary64_nonneg (neg_nonneg.mpr hq)
  rw [roundBinary64_neg] at this
  linarith

/-! ## Where a value lies relative to its binade -/

theorem abs_lt_two_zpow_binade_add_one (q : ℚ) : |q| < 2 ^ (binade q + 1) := by
  calc |q| < 2 ^ (Int.log 2 |q| + 1) := by
        simpa using Int.lt_zpow_succ_log_self (R := ℚ) (b := 2) (by norm_num) |q|
    _ ≤ 2 ^ (binade q + 1) :=
        zpow_le_zpow_right₀ (by norm_num) (by simp only [binade]; omega)

theorem binade_eq_log {q : ℚ} (h : -1022 < binade q) : binade q = Int.log 2 |q| := by
  simp only [binade] at h ⊢; omega

theorem two_zpow_binade_le_abs {q : ℚ} (hq : q ≠ 0) (h : -1022 < binade q) :
    2 ^ binade q ≤ |q| := by
  rw [binade_eq_log h]
  simpa using Int.zpow_log_le_self (R := ℚ) (b := 2) (by norm_num) (abs_pos.mpr hq)

theorem binade_le_of_abs_le {q : ℚ} {e : ℤ} (hq : q ≠ 0) (he : -1022 ≤ e)
    (h : |q| ≤ 2 ^ e) : binade q ≤ e := by
  have hlog : Int.log 2 |q| ≤ e := by
    have := Int.log_mono_right (b := 2) (abs_pos.mpr hq) h
    rwa [show ((2 : ℚ) ^ e) = ((2 : ℕ) : ℚ) ^ e by norm_num,
      Int.log_zpow (by norm_num)] at this
  simp only [binade]; omega

theorem le_binade_of_le_abs {q : ℚ} {e : ℤ} (h : 2 ^ e ≤ |q|) : e ≤ binade q := by
  have hq : 0 < |q| := lt_of_lt_of_le (zpow_pos (by norm_num) _) h
  have : e ≤ Int.log 2 |q| :=
    (Int.zpow_le_iff_le_log (b := 2) (by norm_num) hq).mp (by simpa using h)
  simp only [binade]; omega

/-- Rounding never leaves the top of the binade: `|round q| ≤ 2^(binade q + 1)`. -/
theorem abs_roundBinary64_le (q : ℚ) : |roundBinary64 q| ≤ 2 ^ (binade q + 1) := by
  have hsplit : (2 : ℚ) ^ (binade q + 1) = ((2 ^ 53 : ℤ) : ℚ) * ulp q := by
    rw [ulp, Int.cast_pow, Int.cast_ofNat, ← zpow_natCast, ← zpow_add₀ (by norm_num)]
    congr 1; push_cast; ring
  have key : ∀ x : ℚ, 0 ≤ x → binade x = binade q → |x| < 2 ^ (binade q + 1) →
      roundBinary64 x ≤ 2 ^ (binade q + 1) := by
    intro x hx hb hlt
    have hu : ulp x = ulp q := by rw [ulp, ulp, hb]
    have hdiv : x / ulp q ≤ ((2 ^ 53 : ℤ) : ℚ) := by
      rw [div_le_iff₀ (ulp_pos q), ← hsplit]
      exact (le_abs_self x).trans hlt.le
    have := roundHalfEven_mono hdiv
    rw [roundHalfEven_intCast] at this
    rw [roundBinary64, hu, hsplit]
    exact mul_le_mul_of_nonneg_right (by exact_mod_cast this) (ulp_pos q).le
  rcases le_or_lt 0 q with hq | hq
  · rw [abs_of_nonneg (roundBinary64_nonneg hq)]
    exact key q hq rfl (abs_lt_two_zpow_binade_add_one q)
  · rw [abs_of_nonpos (roundBinary64_nonpos hq.le), ← roundBinary64_neg]
    exact key (-q) (by linarith) (binade_neg q) (by simpa using abs_lt_two_zpow_binade_add_one q)

/-- Above the subnormal range, rounding never falls below the bottom of the binade. -/
theorem two_zpow_binade_le_roundBinary64 {q : ℚ} (hq : 0 < q) (h : -1022 < binade q) :
    2 ^ binade q ≤ roundBinary64 q := by
  have hsplit : (2 : ℚ) ^ binade q = ((2 ^ 52 : ℤ) : ℚ) * ulp q := by
    rw [ulp, Int.cast_pow, Int.cast_ofNat, ← zpow_natCast, ← zpow_add₀ (by norm_num)]
    congr 1; push_cast; ring
  have hdiv : ((2 ^ 52 : ℤ) : ℚ) ≤ q / ulp q := by
    rw [le_div_iff₀ (ulp_pos q), ← hsplit]
    simpa [abs_of_pos hq] using two_zpow_binade_le_abs hq.ne' h
  have := roundHalfEven_mono hdiv
  rw [roundHalfEven_intCast] at this
  rw [roundBinary64, hsplit]
  exact mul_le_mul_of_nonneg_right (by exact_mod_cast this) (ulp_pos q).le

/-! ## Monotonicity -/

theorem roundBinary64_mono_of_pos {x y : ℚ} (hx : 0 < x) (h : x ≤ y) :
    roundBinary64 x ≤ roundBinary64 y := by
  have hy : 0 < y := hx.trans_le h
  have hxy : |x| ≤ |y| := by rwa [abs_of_pos hx, abs_of_pos hy]
  have hb : binade x ≤ binade y :=
    max_le_max (Int.log_mono_right (abs_pos.mpr hx.ne') hxy) le_rfl
  rcases lt_or_eq_of_le hb with hlt | heq
  · -- `x` rounds to at most the top of its binade, `y` to at least the bottom of a higher one
    calc roundBinary64 x ≤ 2 ^ (binade x + 1) :=
          (le_abs_self _).trans (abs_roundBinary64_le x)
      _ ≤ 2 ^ binade y := zpow_le_zpow_right₀ (by norm_num) hlt
      _ ≤ roundBinary64 y :=
          two_zpow_binade_le_roundBinary64 hy (lt_of_le_of_lt (le_max_right _ _) hlt)
  · have hu : ulp x = ulp y := by rw [ulp, ulp, heq]
    rw [roundBinary64, roundBinary64, hu]
    exact mul_le_mul_of_nonneg_right
      (by exact_mod_cast roundHalfEven_mono (div_le_div_of_nonneg_right h (ulp_pos y).le))
      (ulp_pos y).le

/-- Rounding to binary64 is monotone: the fact every bound of the model rests on. -/
theorem roundBinary64_mono : Monotone roundBinary64 := by
  intro x y h
  rcases lt_or_le 0 x with hx | hx
  · exact roundBinary64_mono_of_pos hx h
  rcases lt_or_le y 0 with hy | hy
  · have := roundBinary64_mono_of_pos (neg_pos.mpr hy) (neg_le_neg h)
    rw [roundBinary64_neg, roundBinary64_neg] at this
    linarith
  · exact (roundBinary64_nonpos hx).trans (roundBinary64_nonneg hy)

/-! ## Fixed points -/

/-- A multiple of its own `ulp` is already a binary64 value. -/
theorem roundBinary64_eq_self_of_mul {q : ℚ} (k : ℤ) (h : q = k * ulp q) :
    roundBinary64 q = q := by
  have hdiv : q / ulp q = k := by rw [h, mul_div_assoc, ← h, div_self (ulp_pos q).ne', mul_one]
  rw [roundBinary64, hdiv, roundHalfEven_intCast, ← h]

/-- Every `m · 2^t` with a significand of at most 53 bits and `t ≥ -1074` is a binary64 value. -/
theorem roundBinary64_mul_zpow {m : ℤ} {t : ℤ} (hm : |m| < 2 ^ 53) (ht : -1074 ≤ t) :
    roundBinary64 (m * 2 ^ t) = m * 2 ^ t := by
  rcases eq_or_ne m 0 with rfl | hm0
  · simp
  set q : ℚ := m * 2 ^ t
  have hpos : (0 : ℚ) < 2 ^ t := zpow_pos (by norm_num) _
  have hq : 0 < |q| := abs_pos.mpr (mul_ne_zero (by exact_mod_cast hm0) hpos.ne')
  have hlt : |q| < 2 ^ (53 + t) := by
    rw [abs_mul, abs_of_pos hpos, zpow_add₀ (by norm_num)]
    exact mul_lt_mul_of_pos_right (by exact_mod_cast hm) hpos
  have hlog : Int.log 2 |q| < 53 + t :=
    (Int.lt_zpow_iff_log_lt (b := 2) (by norm_num) hq).mp (by simpa using hlt)
  have hb : binade q - 52 ≤ t := by simp only [binade]; omega
  apply roundBinary64_eq_self_of_mul (m * 2 ^ (t - (binade q - 52)).toNat)
  rw [ulp, Int.cast_mul, Int.cast_pow, Int.cast_ofNat, ← zpow_natCast,
    Int.toNat_of_nonneg (by omega), mul_assoc, ← zpow_add₀ (by norm_num)]
  rw [sub_add_cancel]

/-- Every integer of magnitude at most `2^53` converts to `float64` exactly. -/
theorem roundBinary64_intCast {k : ℤ} (hk : |k| ≤ 2 ^ 53) : roundBinary64 k = k := by
  rcases lt_or_eq_of_le hk with hlt | heq
  · simpa using roundBinary64_mul_zpow (t := 0) hlt (by norm_num)
  · -- `k = ±2^53 = ±1 · 2^53`
    rcases (abs_eq (by norm_num : (0 : ℤ) ≤ 2 ^ 53)).mp heq with rfl | rfl
    · convert roundBinary64_mul_zpow (m := 1) (t := 53) (by norm_num) (by norm_num) using 2 <;>
        norm_num
    · convert roundBinary64_mul_zpow (m := -1) (t := 53) (by norm_num) (by norm_num) using 2 <;>
        norm_num

theorem neg_1022_le_binade (q : ℚ) : -1022 ≤ binade q := le_max_right _ _

theorem roundBinary64_idem_of_pos {q : ℚ} (hq : 0 < q) :
    roundBinary64 (roundBinary64 q) = roundBinary64 q := by
  set r := roundBinary64 q
  rcases eq_or_lt_of_le (roundBinary64_nonneg hq.le) with h0 | hr
  · rw [show r = 0 from h0.symm, roundBinary64_zero]
  have hup : r ≤ 2 ^ (binade q + 1) := (le_abs_self r).trans (abs_roundBinary64_le q)
  -- `r` stays in `q`'s binade or is the bottom of the next one
  have hlo : binade q ≤ binade r := by
    by_cases h : -1022 < binade q
    · exact le_binade_of_le_abs (by rw [abs_of_pos hr]; exact two_zpow_binade_le_roundBinary64 hq h)
    · exact (not_lt.mp h).trans (neg_1022_le_binade r)
  have hhi : binade r ≤ binade q + 1 :=
    binade_le_of_abs_le hr.ne' (by linarith [neg_1022_le_binade q]) (by rwa [abs_of_pos hr])
  rcases (show binade r = binade q ∨ binade r = binade q + 1 by omega) with heq | heq
  · have hu : ulp r = ulp q := by rw [ulp, ulp, heq]
    exact roundBinary64_eq_self_of_mul (roundHalfEven (q / ulp q)) (by rw [hu]; rfl)
  · have hbot : 2 ^ binade r ≤ r := by
      simpa [abs_of_pos hr] using two_zpow_binade_le_abs hr.ne'
        (by linarith [neg_1022_le_binade q])
    have htop : r = 2 ^ binade r := le_antisymm (by rwa [heq]) hbot
    apply roundBinary64_eq_self_of_mul (2 ^ 52)
    conv_lhs => rw [htop]
    rw [ulp, Int.cast_pow, Int.cast_ofNat, ← zpow_natCast, ← zpow_add₀ (by norm_num)]
    congr 1; push_cast; ring

/-- Rounding is idempotent: a rounded value is a binary64 value. -/
theorem roundBinary64_idem (q : ℚ) : roundBinary64 (roundBinary64 q) = roundBinary64 q := by
  rcases lt_trichotomy q 0 with hq | rfl | hq
  · rw [← neg_neg q, roundBinary64_neg, roundBinary64_neg, roundBinary64_idem_of_pos (by linarith)]
  · simp
  · exact roundBinary64_idem_of_pos hq

/-- Rounding moves a value up by at most half an ulp. -/
theorem roundBinary64_le_add_half_ulp (q : ℚ) : roundBinary64 q ≤ q + ulp q / 2 := by
  have hu := ulp_pos q
  calc roundBinary64 q = roundHalfEven (q / ulp q) * ulp q := rfl
    _ ≤ (q / ulp q + 1 / 2) * ulp q :=
        mul_le_mul_of_nonneg_right (roundHalfEven_le_add_half _) hu.le
    _ = q + ulp q / 2 := by field_simp; ring

/-- The binade of a value between `2^e` and `2^(e+1)`. -/
theorem binade_eq {q : ℚ} {e : ℤ} (he : -1022 ≤ e) (h1 : 2 ^ e ≤ |q|) (h2 : |q| < 2 ^ (e + 1)) :
    binade q = e := by
  refine le_antisymm ?_ (le_binade_of_le_abs h1)
  by_contra hlt
  have hq : q ≠ 0 := fun h => by simp [h] at h1; exact absurd h1 (not_le.mpr (zpow_pos (by norm_num) e))
  have := two_zpow_binade_le_abs hq (by omega)
  have := zpow_le_zpow_right₀ (by norm_num : (1 : ℚ) ≤ 2) (show e + 1 ≤ binade q by omega)
  linarith

/-- Below `2^(e+1)`, the ulp is at most `2^(e-52)`. -/
theorem ulp_le_of_abs_lt {q : ℚ} {e : ℤ} (hq : q ≠ 0) (he : -1022 ≤ e) (h : |q| < 2 ^ (e + 1)) :
    ulp q ≤ 2 ^ (e - 52) := by
  apply zpow_le_zpow_right₀ (by norm_num)
  by_contra hlt
  have hb : e + 1 ≤ binade q := by omega
  have := two_zpow_binade_le_abs hq (by omega)
  have := zpow_le_zpow_right₀ (by norm_num : (1 : ℚ) ≤ 2) hb
  linarith

end GoNms.Go
