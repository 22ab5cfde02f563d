import Mathlib.Data.Int.Log
import Mathlib.Data.Rat.Floor
import Mathlib.Algebra.Order.Field.Rat

/-
JavaScript numbers as doubles.  A double is a rational, and a division returns
the double nearest its exact quotient, a tie going to the even significand
(`roundBinary64`); the quotients the dashboard prints stay far below
`2 ^ 1024`, so overflow is left out.  `Math.log10` and `Math.pow` are only
approximated by the language: `JsMath` holds what an engine returns for the
expressions the hashrate text is made of, with the accuracy its theorems read
carried as fields.
-/

namespace PoolDashboard

/-- The integer nearest to `m`, the even one on a tie. -/
def roundHalfEven (m : ℚ) : ℤ :=
  if m - ⌊m⌋ < 1 / 2 then ⌊m⌋
  else if 1 / 2 < m - ⌊m⌋ then ⌊m⌋ + 1
  else if ⌊m⌋ % 2 = 0 then ⌊m⌋ else ⌊m⌋ + 1

/-- The exponent of the spacing of the doubles at `x`: `2 ^ (e - 52)` on
`[2 ^ e, 2 ^ (e + 1))`, and `2 ^ -1074` below the normal range. -/
def ulpExponent (x : ℚ) : ℤ :=
  max (Int.log 2 |x| - 52) (-1074)

/-- The double nearest to `x`, the one with the even significand on a tie. -/
def roundBinary64 (x : ℚ) : ℚ :=
  roundHalfEven (x / 2 ^ ulpExponent x) * 2 ^ ulpExponent x

/-- `a` is a whole multiple of `2 ^ e`. -/
def OnGrid (e : ℤ) (a : ℚ) : Prop :=
  ∃ n : ℤ, a = n * 2 ^ e

theorem roundHalfEven_cases (m : ℚ) :
    roundHalfEven m = ⌊m⌋ ∨ (roundHalfEven m = ⌊m⌋ + 1 ∧ 1 / 2 ≤ m - ⌊m⌋) := by
  unfold roundHalfEven
  split_ifs with hbelow habove
  · exact .inl rfl
  · exact .inr ⟨rfl, habove.le⟩
  · exact .inl rfl
  · exact .inr ⟨rfl, not_lt.mp hbelow⟩

theorem floor_le_roundHalfEven (m : ℚ) : ⌊m⌋ ≤ roundHalfEven m := by
  rcases roundHalfEven_cases m with h | ⟨h, -⟩ <;> rw [h]
  exact Int.le_add_one le_rfl

theorem roundHalfEven_le_ceil (m : ℚ) : roundHalfEven m ≤ ⌈m⌉ := by
  rcases roundHalfEven_cases m with h | ⟨h, hhalf⟩ <;> rw [h]
  · exact Int.floor_le_ceil m
  · have hfloor : (⌊m⌋ : ℚ) < m := by linarith
    exact Int.add_one_le_iff.mpr (Int.lt_ceil.mpr hfloor)

theorem OnGrid.mono {a : ℚ} {e j : ℤ} (ha : OnGrid j a) (hje : e ≤ j) : OnGrid e a := by
  obtain ⟨n, rfl⟩ := ha
  obtain ⟨d, hd⟩ := Int.eq_ofNat_of_zero_le (sub_nonneg.mpr hje)
  refine ⟨n * 2 ^ d, ?_⟩
  rw [Int.cast_mul, Int.cast_pow, Int.cast_ofNat, mul_assoc, ← zpow_natCast, ← hd,
    ← zpow_add₀ two_ne_zero, sub_add_cancel]

theorem onGrid_intCast (n : ℤ) {e : ℤ} (he : e ≤ 0) : OnGrid e n :=
  OnGrid.mono ⟨n, by rw [zpow_zero, mul_one]⟩ he

/-- A double of the grid at `x` below `x` stays below its rounding. -/
theorem le_roundBinary64 {x a : ℚ} (ha : OnGrid (ulpExponent x) a) (h : a ≤ x) :
    a ≤ roundBinary64 x := by
  obtain ⟨n, rfl⟩ := ha
  have hpos : (0 : ℚ) < 2 ^ ulpExponent x := zpow_pos two_pos _
  have hn : n ≤ roundHalfEven (x / 2 ^ ulpExponent x) :=
    (Int.le_floor.mpr ((le_div_iff₀ hpos).mpr h)).trans (floor_le_roundHalfEven _)
  exact mul_le_mul_of_nonneg_right (by exact_mod_cast hn) hpos.le

/-- A double of the grid at `x` above `x` stays above its rounding. -/
theorem roundBinary64_le {x a : ℚ} (ha : OnGrid (ulpExponent x) a) (h : x ≤ a) :
    roundBinary64 x ≤ a := by
  obtain ⟨n, rfl⟩ := ha
  have hpos : (0 : ℚ) < 2 ^ ulpExponent x := zpow_pos two_pos _
  have hn : roundHalfEven (x / 2 ^ ulpExponent x) ≤ n :=
    (roundHalfEven_le_ceil _).trans (Int.ceil_le.mpr ((div_le_iff₀ hpos).mpr h))
  exact mul_le_mul_of_nonneg_right (by exact_mod_cast hn) hpos.le

/-- Below `2 ^ k` the doubles are spaced at most `2 ^ (k - 53)` apart. -/
theorem ulpExponent_le {x : ℚ} {k : ℤ} (hx : 0 < x) (hk : x < 2 ^ k) :
    ulpExponent x ≤ max (k - 53) (-1074) := by
  have hlog : Int.log 2 x < k :=
    (Int.lt_zpow_iff_log_lt (b := 2) (by norm_num) hx).mp (by exact_mod_cast hk)
  unfold ulpExponent
  rw [abs_of_pos hx]
  exact max_le_max (by omega) le_rfl

/-- From 1 on, the power of two below `x` is on the grid at `x`. -/
theorem one_le_roundBinary64 {x : ℚ} (hx : 1 ≤ x) : 1 ≤ roundBinary64 x := by
  have hpos : 0 < x := lt_of_lt_of_le one_pos hx
  have hlog : 0 ≤ Int.log 2 x :=
    (Int.zpow_le_iff_le_log (b := 2) (by norm_num) hpos).mp (by simpa using hx)
  have hpow : ((2 : ℕ) : ℚ) ^ Int.log 2 x ≤ x := Int.zpow_log_le_self (by norm_num) hpos
  have hgrid : OnGrid (ulpExponent x) (((2 : ℕ) : ℚ) ^ Int.log 2 x) := by
    refine OnGrid.mono ⟨1, by push_cast; ring⟩ ?_
    unfold ulpExponent
    rw [abs_of_pos hpos]
    exact max_le (by omega) (by omega)
  have hone : (1 : ℚ) ≤ ((2 : ℕ) : ℚ) ^ Int.log 2 x := one_le_zpow₀ (by norm_num) hlog
  exact hone.trans (le_roundBinary64 hgrid hpow)

/-- On `(0, 1024)` every multiple of `2 ^ -43` is a double. -/
theorem onGrid_of_lt_1024 {x a : ℚ} (hx : 0 < x) (hx' : x < 1024) (ha : OnGrid (-43) a) :
    OnGrid (ulpExponent x) a :=
  ha.mono ((ulpExponent_le (k := 10) hx (by norm_num [hx'])).trans (max_le le_rfl (by norm_num)))

/-- `value` lies outside the window of relative width `2 ^ -40` around every
power of 1000. -/
def ClearOfPowers (value : ℚ) : Prop :=
  ∀ k : ℤ, value ≤ 1000 ^ k * (1 - 1 / 2 ^ 40) ∨ 1000 ^ k * (1 + 1 / 2 ^ 40) ≤ value

/-- A value between the windows of two consecutive powers of 1000 is clear of
them all. -/
theorem clearOfPowers_of_bounds {value : ℚ} (k : ℤ) (hlower : 1000 ^ k * (1 + 1 / 2 ^ 40) ≤ value)
    (hupper : value ≤ 1000 ^ (k + 1) * (1 - 1 / 2 ^ 40)) : ClearOfPowers value := by
  intro j
  rcases le_or_lt j k with hj | hj
  · refine .inr (le_trans ?_ hlower)
    exact mul_le_mul_of_nonneg_right (zpow_le_zpow_right₀ (by norm_num) hj) (by norm_num)
  · refine .inl (hupper.trans ?_)
    exact mul_le_mul_of_nonneg_right (zpow_le_zpow_right₀ (by norm_num) (by omega)) (by norm_num)

theorem log_lt_zero_iff {value : ℚ} (hvalue : 0 < value) : Int.log 1000 value < 0 ↔ value < 1 := by
  have h := Int.lt_zpow_iff_log_lt (b := 1000) (by norm_num) (x := 0) hvalue
  rw [zpow_zero] at h
  exact h.symm

/-- What an engine returns for the parts of the hashrate text the language
leaves approximate: `Math.floor(Math.log10(value) / 3)` and `Math.pow(10, n)`.
With `Math.log10` within a few units in the last place, the first is the
exponent of the power of 1000 below the value outside a window of relative
width `2 ^ -40` around each power, and it is negative exactly below 1, as
`Math.log10(1)` is `+0`.  The powers of ten up to `10 ^ 15` are doubles, and
`Math.pow` returns them. -/
structure JsMath where
  thousandsExponent : ℚ → ℤ
  pow10 : ℤ → ℚ
  thousandsExponent_eq_log : ∀ value, 0 < value → ClearOfPowers value →
    thousandsExponent value = Int.log 1000 value
  thousandsExponent_neg_iff : ∀ value, 0 < value → (thousandsExponent value < 0 ↔ value < 1)
  pow10_eq : ∀ n : ℕ, n ≤ 15 → pow10 n = 10 ^ n

/-- The engine with exact logarithms and powers. -/
def exactMath : JsMath where
  thousandsExponent := Int.log 1000
  pow10 n := 10 ^ n
  thousandsExponent_eq_log _ _ _ := rfl
  thousandsExponent_neg_iff _ hvalue := log_lt_zero_iff hvalue
  pow10_eq n _ := zpow_natCast 10 n

end PoolDashboard
