import GoNms.Go.Int
import GoNms.Go.Rounding

set_option autoImplicit false

/-! # Go's `float64`

A finite `float64` is a `Float64`: the rational it denotes, together with the proof that it is a
binary64 value (rounding fixes it) and does not overflow. `GoFloat` adds the two infinities and
NaN. Signed zero is not modelled: `-0.0` is `0.0`, which no comparison distinguishes and no
output of the modelled code depends on.

Only the operations the repository's code performs are defined: conversion from integers, `*`,
`/`, the five comparisons, and `int64(f)`. Each rounds its exact rational result once, as IEEE 754
prescribes, through `GoFloat.ofRat`. -/

namespace GoNms.Go

/-- The largest finite binary64 value, `(2^53 - 1) · 2^971`. -/
def maxFinite : ℚ := ((2 ^ 53 - 1 : ℤ) : ℚ) * 2 ^ (971 : ℤ)

theorem roundBinary64_maxFinite : roundBinary64 maxFinite = maxFinite :=
  roundBinary64_mul_zpow (by norm_num) (by norm_num)

/-- A finite binary64 value: the rational it denotes, fixed by rounding and not past `maxFinite`. -/
@[ext]
structure Float64 where
  val : ℚ
  rounded : roundBinary64 val = val
  bounded : |val| ≤ maxFinite

instance : DecidableEq Float64 := fun a b => decidable_of_iff (a.val = b.val) Float64.ext_iff.symm

/-- Go's `float64`: a finite value, an infinity (`neg` is its sign), or NaN. -/
inductive GoFloat where
  | finite (x : Float64)
  | inf (neg : Bool)
  | nan
  deriving DecidableEq

namespace GoFloat

/-- The binary64 result of an exact rational: rounded to nearest, ties to even; `±Inf` past
`maxFinite`. -/
def ofRat (q : ℚ) : GoFloat :=
  if h : |roundBinary64 q| ≤ maxFinite then .finite ⟨roundBinary64 q, roundBinary64_idem q, h⟩
  else .inf (decide (q < 0))

/-- Go's `float64(i)` for an integer `i` of any width. -/
def ofInt (i : ℤ) : GoFloat := ofRat i

instance {n : ℕ} : OfNat GoFloat n := ⟨ofInt n⟩

/-- Go's `*` on `float64`. -/
def mul : GoFloat → GoFloat → GoFloat
  | .nan, _ | _, .nan => .nan
  | .finite a, .finite b => ofRat (a.val * b.val)
  | .inf s, .inf t => .inf (s != t)
  | .inf s, .finite b | .finite b, .inf s =>
      if b.val = 0 then .nan else .inf (s != decide (b.val < 0))

/-- Go's `/` on `float64`. -/
def div : GoFloat → GoFloat → GoFloat
  | .nan, _ | _, .nan => .nan
  | .finite a, .finite b =>
      if b.val = 0 then (if a.val = 0 then .nan else .inf (decide (a.val < 0)))
      else ofRat (a.val / b.val)
  | .finite _, .inf _ => ofRat 0
  | .inf _, .inf _ => .nan
  | .inf s, .finite b => .inf (s != decide (b.val < 0))

/-- Go's `+` on `float64`. -/
def add : GoFloat → GoFloat → GoFloat
  | .nan, _ | _, .nan => .nan
  | .finite a, .finite b => ofRat (a.val + b.val)
  | .inf s, .inf t => if s = t then .inf s else .nan
  | .inf s, .finite _ | .finite _, .inf s => .inf s

instance : Add GoFloat := ⟨add⟩
instance : Mul GoFloat := ⟨mul⟩
instance : Div GoFloat := ⟨div⟩

/-- Go's `<` on `float64`: false whenever NaN is involved. -/
def lt : GoFloat → GoFloat → Bool
  | .finite a, .finite b => decide (a.val < b.val)
  | .finite _, .inf neg => !neg
  | .inf neg, .finite _ => neg
  | .inf s, .inf t => s && !t
  | _, _ => false

/-- Go's `==` on `float64`: NaN equals nothing, itself included. -/
def eq : GoFloat → GoFloat → Bool
  | .finite a, .finite b => decide (a.val = b.val)
  | .inf s, .inf t => s == t
  | _, _ => false

/-- Go's `<=` on `float64`. -/
def le (a b : GoFloat) : Bool := lt a b || eq a b

/-- `math.IsNaN(f) || math.IsInf(f, 0)` is false: what `encoding/json` accepts. -/
def isFinite : GoFloat → Bool
  | .finite _ => true
  | _ => false

/-- Go's `int64(f)`: truncation toward zero. Go leaves out-of-range values, NaN and the
infinities implementation-defined; they are modelled as amd64's `0x8000000000000000`. -/
def toInt64 : GoFloat → BitVec 64
  | .finite a =>
      let t := a.val.num.tdiv a.val.den
      if -2 ^ 63 ≤ t ∧ t < 2 ^ 63 then BitVec.ofInt 64 t else BitVec.intMin 64
  | .inf _ => BitVec.intMin 64
  | .nan => BitVec.intMin 64

/-! ## In-range results -/

/-- Rounding keeps a value within any representable bound. -/
theorem abs_roundBinary64_le_of_abs_le {q b : ℚ} (hb : roundBinary64 b = b) (h : |q| ≤ b) :
    |roundBinary64 q| ≤ b := by
  rw [abs_le] at h ⊢
  constructor
  · calc -b = roundBinary64 (-b) := by rw [roundBinary64_neg, hb]
      _ ≤ roundBinary64 q := roundBinary64_mono h.1
  · calc roundBinary64 q ≤ roundBinary64 b := roundBinary64_mono h.2
      _ = b := hb

/-- A value within `maxFinite` rounds to a finite `float64`. -/
theorem ofRat_of_abs_le {q : ℚ} (h : |q| ≤ maxFinite) :
    ofRat q = .finite ⟨roundBinary64 q, roundBinary64_idem q,
      abs_roundBinary64_le_of_abs_le roundBinary64_maxFinite h⟩ :=
  dif_pos _

/-- Every value up to `2^1023` is in range. -/
theorem abs_le_maxFinite_of_abs_le_two_pow {x : ℚ} {n : ℕ} (hn : n ≤ 1023) (h : |x| ≤ 2 ^ n) :
    |x| ≤ maxFinite := by
  refine h.trans ((pow_le_pow_right₀ (by norm_num) hn).trans ?_)
  rw [maxFinite]
  norm_num

/-- Every 64-bit integer is in range. -/
theorem abs_le_maxFinite_of_abs_le {x : ℚ} (h : |x| ≤ 2 ^ 63) : |x| ≤ maxFinite :=
  abs_le_maxFinite_of_abs_le_two_pow (by norm_num) h

/-- Every integer of Go's 64-bit range converts to a finite `float64`. -/
theorem abs_intCast_le_maxFinite {a : ℤ} (ha : -2 ^ 63 ≤ a ∧ a < 2 ^ 63) :
    |(a : ℚ)| ≤ maxFinite := by
  apply abs_le_maxFinite_of_abs_le
  rw [abs_le]
  constructor <;> exact_mod_cast (by omega)

theorem abs_toInt_le_maxFinite (x : BitVec 64) : |(x.toInt : ℚ)| ≤ maxFinite :=
  abs_intCast_le_maxFinite (toInt_mem_range x)

/-- `if x < y { x = y }` on two in-range values leaves the float of their maximum. -/
theorem ofRat_raise {p q : ℚ} (hp : |p| ≤ maxFinite) (hq : |q| ≤ maxFinite) :
    (if lt (ofRat p) (ofRat q) then ofRat q else ofRat p) = ofRat (max p q) := by
  rw [ofRat_of_abs_le hp, ofRat_of_abs_le hq]
  simp only [lt, decide_eq_true_eq]
  rcases le_total p q with hpq | hqp
  · rw [max_eq_right hpq, ofRat_of_abs_le hq]
    split
    · rfl
    · next hlt =>
        exact congrArg finite (Float64.ext (le_antisymm (roundBinary64_mono hpq) (not_lt.mp hlt)))
  · rw [max_eq_left hqp, ofRat_of_abs_le hp, if_neg (not_lt.mpr (roundBinary64_mono hqp))]

/-- Integers up to `2^53` keep their identity in `float64`. -/
theorem ofInt_inj {a b : ℤ} (ha : |a| ≤ 2 ^ 53) (hb : |b| ≤ 2 ^ 53) :
    ofInt a = ofInt b ↔ a = b := by
  have hbound : ∀ {k : ℤ}, |k| ≤ 2 ^ 53 → |(k : ℚ)| ≤ maxFinite := fun hk =>
    abs_intCast_le_maxFinite (by rw [abs_le] at hk; omega)
  simp only [ofInt, ofRat_of_abs_le (hbound ha), ofRat_of_abs_le (hbound hb), finite.injEq,
    Float64.ext_iff]
  rw [roundBinary64_intCast ha, roundBinary64_intCast hb, Int.cast_inj]

/-! ## Arithmetic on in-range values -/

theorem add_ofRat {p q : ℚ} (hp : |p| ≤ maxFinite) (hq : |q| ≤ maxFinite) :
    ofRat p + ofRat q = ofRat (roundBinary64 p + roundBinary64 q) := by
  rw [ofRat_of_abs_le hp, ofRat_of_abs_le hq]
  rfl

theorem mul_ofRat {p q : ℚ} (hp : |p| ≤ maxFinite) (hq : |q| ≤ maxFinite) :
    ofRat p * ofRat q = ofRat (roundBinary64 p * roundBinary64 q) := by
  rw [ofRat_of_abs_le hp, ofRat_of_abs_le hq]
  rfl

theorem div_ofRat {p q : ℚ} (hp : |p| ≤ maxFinite) (hq : |q| ≤ maxFinite)
    (h0 : roundBinary64 q ≠ 0) : ofRat p / ofRat q = ofRat (roundBinary64 p / roundBinary64 q) := by
  rw [ofRat_of_abs_le hp, ofRat_of_abs_le hq]
  exact if_neg h0

/-- An in-range value rounds to a finite `float64`. -/
theorem isFinite_ofRat {q : ℚ} (h : |q| ≤ maxFinite) : (ofRat q).isFinite = true := by
  rw [ofRat_of_abs_le h]; rfl

theorem abs_intCast_le_maxFinite_of_abs_le {k : ℤ} (hk : |k| ≤ 2 ^ 53) : |(k : ℚ)| ≤ maxFinite :=
  abs_intCast_le_maxFinite (by rw [abs_le] at hk; omega)

/-- `float64(a) / float64(b)` is exact when `b` divides `a`, both at most `2^53`. -/
theorem ofInt_div_ofInt_of_dvd {a b : ℤ} (ha : |a| ≤ 2 ^ 53) (hb : |b| ≤ 2 ^ 53) (hb0 : b ≠ 0)
    (hdvd : b ∣ a) : ofInt a / ofInt b = ofInt (a / b) := by
  rw [ofInt, ofInt, div_ofRat (abs_intCast_le_maxFinite_of_abs_le ha)
      (abs_intCast_le_maxFinite_of_abs_le hb) (by rw [roundBinary64_intCast hb]; exact_mod_cast hb0),
    roundBinary64_intCast ha, roundBinary64_intCast hb, ofInt, Int.cast_div hdvd (by exact_mod_cast hb0)]

/-- Dividing a 64-bit integer's `float64` by a positive integer up to `2^53` stays finite. -/
theorem isFinite_ofInt_div {a b : ℤ} (ha : -2 ^ 63 ≤ a ∧ a < 2 ^ 63) (hb : 1 ≤ b ∧ b ≤ 2 ^ 53) :
    (ofInt a / ofInt b).isFinite = true := by
  have hb' : |b| ≤ 2 ^ 53 := by rw [abs_le]; omega
  have h63 : roundBinary64 (2 ^ 63 : ℚ) = 2 ^ 63 := by
    rw [show (2 : ℚ) ^ 63 = ((1 : ℤ) : ℚ) * 2 ^ (63 : ℤ) by norm_num]
    exact roundBinary64_mul_zpow (by norm_num) (by norm_num)
  have hra : |roundBinary64 a| ≤ 2 ^ 63 :=
    abs_roundBinary64_le_of_abs_le h63 (by rw [abs_le]; constructor <;> exact_mod_cast (by omega))
  have hb1 : (1 : ℚ) ≤ b := by exact_mod_cast hb.1
  rw [ofInt, ofInt, div_ofRat (abs_intCast_le_maxFinite ha) (abs_intCast_le_maxFinite_of_abs_le hb')
      (by rw [roundBinary64_intCast hb']; positivity), roundBinary64_intCast hb']
  refine isFinite_ofRat (abs_le_maxFinite_of_abs_le ?_)
  rw [abs_div, abs_of_pos (by positivity : (0 : ℚ) < b)]
  exact (div_le_self (abs_nonneg _) hb1).trans hra

/-- `float64(a) < float64(b)` is `a < b` for integers up to `2^53`. -/
theorem lt_ofInt_ofInt {a b : ℤ} (ha : |a| ≤ 2 ^ 53) (hb : |b| ≤ 2 ^ 53) :
    lt (ofInt a) (ofInt b) = decide (a < b) := by
  simp only [ofInt, ofRat_of_abs_le (abs_intCast_le_maxFinite_of_abs_le ha),
    ofRat_of_abs_le (abs_intCast_le_maxFinite_of_abs_le hb), lt, roundBinary64_intCast ha,
    roundBinary64_intCast hb, Int.cast_lt]

/-- `float64(a) == float64(b)` is `a = b` for integers up to `2^53`. -/
theorem eq_ofInt_ofInt {a b : ℤ} (ha : |a| ≤ 2 ^ 53) (hb : |b| ≤ 2 ^ 53) :
    eq (ofInt a) (ofInt b) = decide (a = b) := by
  simp only [ofInt, ofRat_of_abs_le (abs_intCast_le_maxFinite_of_abs_le ha),
    ofRat_of_abs_le (abs_intCast_le_maxFinite_of_abs_le hb), eq, roundBinary64_intCast ha,
    roundBinary64_intCast hb, Int.cast_inj]

/-- `float64` comparison of two in-range values compares their rounded values. -/
theorem le_ofRat_ofRat {p q : ℚ} (hp : |p| ≤ maxFinite) (hq : |q| ≤ maxFinite) :
    le (ofRat p) (ofRat q) = decide (roundBinary64 p ≤ roundBinary64 q) := by
  rw [ofRat_of_abs_le hp, ofRat_of_abs_le hq]
  simp only [le, lt, eq, Bool.decide_or, le_iff_lt_or_eq]

theorem lt_ofRat_ofRat {p q : ℚ} (hp : |p| ≤ maxFinite) (hq : |q| ≤ maxFinite) :
    lt (ofRat p) (ofRat q) = decide (roundBinary64 p < roundBinary64 q) := by
  rw [ofRat_of_abs_le hp, ofRat_of_abs_le hq]
  rfl

/-- Converting to `float64` is monotone: in-range `p ≤ q` give `float64(p) <= float64(q)`. -/
theorem le_ofRat_of_le {p q : ℚ} (hp : |p| ≤ maxFinite) (hq : |q| ≤ maxFinite) (h : p ≤ q) :
    le (ofRat p) (ofRat q) = true := by
  rw [le_ofRat_ofRat hp hq]
  exact decide_eq_true (roundBinary64_mono h)

/-- `0 < float64(a)` exactly when `0 < a`, for an integer in range. -/
theorem lt_zero_ofInt {a : ℤ} (ha : |(a : ℚ)| ≤ maxFinite) : lt 0 (ofInt a) = decide (0 < a) := by
  rw [show (0 : GoFloat) = ofRat ((0 : ℤ) : ℚ) from rfl, ofInt,
    ofRat_of_abs_le (abs_le_maxFinite_of_abs_le (by norm_num)), ofRat_of_abs_le ha]
  simp only [lt, Int.cast_zero, roundBinary64_zero, decide_eq_decide]
  constructor
  · intro h
    by_contra hle
    exact absurd (roundBinary64_nonpos (by exact_mod_cast not_lt.mp hle)) (not_le.mpr h)
  · intro h
    have h1 : ((1 : ℤ) : ℚ) ≤ a := by exact_mod_cast h
    have := roundBinary64_mono h1
    rw [roundBinary64_intCast (by norm_num)] at this
    push_cast at this
    linarith

/-- `int64(f)` of a value in `[0, 2^63)` is its floor. -/
theorem toInt_toInt64_ofRat {q : ℚ} (hq : |q| ≤ maxFinite) (h0 : 0 ≤ roundBinary64 q)
    (h1 : roundBinary64 q < 2 ^ 63) : (toInt64 (ofRat q)).toInt = ⌊roundBinary64 q⌋ := by
  have hfl : (roundBinary64 q).num.tdiv (roundBinary64 q).den = ⌊roundBinary64 q⌋ := by
    rw [Int.tdiv_eq_ediv (Rat.num_nonneg.mpr h0) (by positivity), Rat.floor_def]
  have hlo : 0 ≤ ⌊roundBinary64 q⌋ := Int.floor_nonneg.mpr h0
  have hhi : ⌊roundBinary64 q⌋ < 2 ^ 63 := Int.floor_lt.mpr (by exact_mod_cast h1)
  rw [ofRat_of_abs_le hq, toInt64.eq_1]
  simp only [hfl, if_pos (⟨by omega, hhi⟩ : -2 ^ 63 ≤ ⌊roundBinary64 q⌋ ∧ _), BitVec.toInt_ofInt]
  rw [Int.bmod_pos _ _ (by rw [Int.emod_eq_of_lt hlo (by omega)]; omega),
    Int.emod_eq_of_lt hlo (by omega)]

/-- `x / 100` rounds below the next integer, for an integer `0 < x < 2^53`: the rounding error,
at most half an ulp, is less than the hundredth that separates `x / 100` from it. -/
theorem floor_roundBinary64_div_hundred {x : ℤ} (h0 : 0 < x) (h1 : x < 2 ^ 53) :
    ⌊roundBinary64 ((x : ℚ) / 100)⌋ = x / 100 := by
  have hq : (((x / 100 : ℤ) : ℚ)) ≤ (x : ℚ) / 100 := by
    rw [le_div_iff₀ (by norm_num)]; exact_mod_cast Int.ediv_mul_le x (by norm_num)
  have hq' : (x : ℚ) / 100 ≤ ((x / 100 : ℤ) : ℚ) + 99 / 100 := by
    have hdm := Int.emod_add_ediv x 100
    have hlt := Int.emod_lt_of_pos x (by norm_num : (0 : ℤ) < 100)
    have h99 : ((x % 100 : ℤ) : ℚ) ≤ 99 := by exact_mod_cast (by omega)
    rw [div_le_iff₀ (by norm_num)]
    have hx : (x : ℚ) = ((x % 100 : ℤ) : ℚ) + 100 * ((x / 100 : ℤ) : ℚ) := by exact_mod_cast hdm.symm
    linarith
  have hpos : (0 : ℚ) < (x : ℚ) / 100 := by positivity
  have hulp : ulp ((x : ℚ) / 100) ≤ 2 ^ ((46 : ℤ) - 52) := by
    refine ulp_le_of_abs_lt hpos.ne' (by norm_num) ?_
    rw [abs_of_pos hpos, div_lt_iff₀ (by norm_num)]
    have : (x : ℚ) < 2 ^ 53 := by exact_mod_cast h1
    norm_num at this ⊢
    linarith
  rw [Int.floor_eq_iff]
  constructor
  · calc (((x / 100 : ℤ) : ℚ)) = roundBinary64 ((x / 100 : ℤ) : ℚ) :=
          (roundBinary64_intCast (by rw [abs_le]; constructor <;> omega)).symm
      _ ≤ roundBinary64 ((x : ℚ) / 100) := roundBinary64_mono hq
  · have := roundBinary64_le_add_half_ulp ((x : ℚ) / 100)
    norm_num at hulp
    linarith

/-- `int64(float64(t) * float64(p) / 100)` for positive integers that convert exactly and whose
product is a binary64 value below `2^63`: the floor of the rounded quotient. -/
theorem toInt_toInt64_mul_div_hundred_eq_floor {t p : ℤ} (ht : 0 < t) (hp : 0 < p)
    (ht53 : t ≤ 2 ^ 53) (hp53 : p ≤ 2 ^ 53) (htp : t * p < 2 ^ 63)
    (hexact : roundBinary64 ((t * p : ℤ) : ℚ) = (t * p : ℤ)) :
    (toInt64 (ofInt t * ofInt p / 100)).toInt = ⌊roundBinary64 (((t * p : ℤ) : ℚ) / 100)⌋ := by
  have hbound : ∀ k : ℤ, 0 ≤ k → k < 2 ^ 63 → |(k : ℚ)| ≤ maxFinite := fun k h0 h1 =>
    abs_intCast_le_maxFinite ⟨by omega, h1⟩
  have r100 := roundBinary64_intCast (k := 100) (by norm_num)
  have hpos : (0 : ℚ) < ((t * p : ℤ) : ℚ) / 100 := by have := mul_pos ht hp; positivity
  have hq : |((t * p : ℤ) : ℚ) / 100| ≤ 2 ^ 62 := by
    have : ((t * p : ℤ) : ℚ) < 2 ^ 63 := by exact_mod_cast htp
    rw [abs_of_pos hpos, div_le_iff₀ (by norm_num)]
    linarith
  have h62 : roundBinary64 (2 ^ 62 : ℚ) = 2 ^ 62 := by
    rw [show (2 : ℚ) ^ 62 = ((1 : ℤ) : ℚ) * 2 ^ (62 : ℤ) by norm_num]
    exact roundBinary64_mul_zpow (by norm_num) (by norm_num)
  have hround := (abs_le.mp (abs_roundBinary64_le_of_abs_le h62 hq)).2
  rw [show ofInt t * ofInt p / 100 = ofRat ((t : ℚ)) * ofRat (p : ℚ) / ofRat ((100 : ℤ) : ℚ) from rfl,
    mul_ofRat (hbound t ht.le (by omega)) (hbound p hp.le (by omega)),
    roundBinary64_intCast (by rw [abs_le]; omega), roundBinary64_intCast (by rw [abs_le]; omega),
    ← Int.cast_mul, div_ofRat (hbound _ (by positivity) htp) (hbound 100 (by norm_num) (by norm_num))
      (by rw [r100]; norm_num), hexact, r100, Int.cast_ofNat,
    toInt_toInt64_ofRat (abs_le_maxFinite_of_abs_le (hq.trans (by norm_num)))
      (roundBinary64_nonneg hpos.le) (hround.trans_lt (by norm_num))]

/-- `int64(float64(t) * float64(p) / 100)` for positive integers whose product is below `2^53`:
the conversions and the product are exact, and the quotient's rounding never reaches the next
integer, so the result is `t * p / 100`. -/
theorem toInt_toInt64_mul_div_hundred {t p : ℤ} (ht : 0 < t) (hp : 0 < p) (htp : t * p < 2 ^ 53) :
    (toInt64 (ofInt t * ofInt p / 100)).toInt = t * p / 100 := by
  have hle : t ≤ t * p ∧ p ≤ t * p := ⟨by nlinarith, by nlinarith⟩
  rw [toInt_toInt64_mul_div_hundred_eq_floor ht hp (by omega) (by omega) (by omega)
      (roundBinary64_intCast (by rw [abs_le]; omega)),
    floor_roundBinary64_div_hundred (by positivity) htp]

end GoFloat

end GoNms.Go
