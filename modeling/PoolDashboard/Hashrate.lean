import PoolDashboard.Double

/-
The hashrate text (`formatHashrate`), one function copied into six files: the
home page, the miners page, the pool page, the dashboard, the pools overview
and the miner lookup panel, which prints each worker's hashrate with it.  The
value is divided by the power of 1000 below it and the double quotient is
printed with `toFixed` and the unit of that power.  The engine computes the
exponent, `Math.floor(Math.log10(value) / 3)`, and the power,
`Math.pow(10, index * 3)` (`JsMath`): the exponent is `Int.log 1000 value`
outside a narrow window around each power of 1000, and below 1 H/s it is
negative and the unit, read from the array at that index, is `undefined`.
-/

namespace PoolDashboard

section

/- `ToString(x)`, which `toFixed` returns from `10 ^ 21` on: the shortest
digits of the double, a property of the double format that the rationals
here do not carry. -/
variable (numberToString : ℚ → String)

/-- `x.toFixed(digits)` for `0 ≤ x`: the integer `n` nearest to
`x * 10 ^ digits`, the larger one on a tie, written with `digits` decimals
after zeros are padded in front. -/
def toFixed (x : ℚ) (digits : Nat) : String :=
  if (10 : ℚ) ^ 21 ≤ x then numberToString x
  else
    let m := (Nat.repr ⌊x * 10 ^ digits + 1 / 2⌋₊).toList
    if digits = 0 then String.mk m
    else
      let z := List.replicate (digits + 1 - m.length) '0' ++ m
      String.mk (z.take (z.length - digits) ++ '.' :: z.drop (z.length - digits))

/-- From half a unit below a whole number `n` up to `n`, `toFixed(0)` prints
`n`. -/
theorem toFixed_zero_of_near {x : ℚ} {n : ℕ} (hn : n < 10 ^ 21) (hlower : n - 1 / 2 ≤ x)
    (hupper : x ≤ n) : toFixed numberToString x 0 = Nat.repr n := by
  have hhalf : (n : ℚ) ≤ x + 1 / 2 := sub_le_iff_le_add.mp hlower
  have hnonneg : (0 : ℚ) ≤ x + 1 / 2 := (Nat.cast_nonneg n).trans hhalf
  have hfloor : ⌊x * 10 ^ 0 + 1 / 2⌋₊ = n := by
    rw [pow_zero, mul_one, Nat.floor_eq_iff hnonneg]
    exact ⟨hhalf, (add_le_add_right hupper _).trans_lt (add_lt_add_left (by norm_num) _)⟩
  unfold toFixed
  rw [if_neg (not_le.mpr (hupper.trans_lt (by exact_mod_cast hn))), hfloor]
  rfl

def hashrateUnits : List String := ["H/s", "kH/s", "MH/s", "GH/s", "TH/s", "PH/s"]

/-- `units[index]` in a template literal: outside the array the read gives
`undefined`, which the template writes out. -/
def unitText (index : ℤ) : String :=
  if 0 ≤ index then hashrateUnits[index.toNat]?.getD "undefined" else "undefined"

/-- `scaled >= 100 ? 0 : scaled >= 10 ? 1 : 2`. -/
def fixedDigits (scaled : ℚ) : Nat :=
  if 100 ≤ scaled then 0 else if 10 ≤ scaled then 1 else 2

variable (math : JsMath)

/-- `Math.min(Math.floor(Math.log10(value) / 3), units.length - 1)`. -/
def hashrateIndex (value : ℚ) : ℤ :=
  min (math.thousandsExponent value) (hashrateUnits.length - 1)

/-- `formatHashrate`: a dash for a missing or non-positive value, else the
double `value / Math.pow(10, index * 3)` and the unit of the index. -/
def formatHashrate : Option ℚ → String
  | none => "—"
  | some value =>
      if value ≤ 0 then "—"
      else
        let index := hashrateIndex math value
        let scaled := roundBinary64 (value / math.pow10 (index * 3))
        toFixed numberToString scaled (fixedDigits scaled) ++ " " ++ unitText index

theorem formatHashrate_of_pos {value : ℚ} (hvalue : 0 < value) :
    formatHashrate numberToString math (some value) =
      toFixed numberToString (roundBinary64 (value / math.pow10 (hashrateIndex math value * 3)))
          (fixedDigits (roundBinary64 (value / math.pow10 (hashrateIndex math value * 3)))) ++
        " " ++ unitText (hashrateIndex math value) := by
  simp only [formatHashrate]
  rw [if_neg (not_le.mpr hvalue)]

end

theorem ten_zpow_mul_three (k : ℤ) : (10 : ℚ) ^ (k * 3) = 1000 ^ k := by
  rw [mul_comm, zpow_mul]
  norm_num

/-- The engine's powers for the units' exponents are exact. -/
theorem pow10_unit (math : JsMath) {k : ℕ} (hk : k ≤ 5) : math.pow10 (k * 3) = 1000 ^ k := by
  have hpow := math.pow10_eq (k * 3) (by omega)
  push_cast at hpow
  rw [hpow, mul_comm, pow_mul]
  norm_num

/-- Between consecutive powers of 1000 the index is the lower exponent. -/
theorem log_eq_of_bounds {value : ℚ} {k : ℕ} (hlower : (1000 : ℚ) ^ k ≤ value)
    (hupper : value < 1000 ^ (k + 1)) : Int.log 1000 value = k := by
  have hpos : 0 < value := lt_of_lt_of_le (by positivity) hlower
  have h1 := (Int.zpow_le_iff_le_log (b := 1000) (by norm_num) (x := k) hpos).mp (by exact_mod_cast hlower)
  have h2 := (Int.lt_zpow_iff_log_lt (b := 1000) (by norm_num) (x := k + 1) hpos).mp
    (by exact_mod_cast hupper)
  omega

/-- Up to the window below the next power of 1000, the value in the unit of
`1000 ^ k` stays up to the window below 1000. -/
theorem div_thousand_pow_le {value : ℚ} {k : ℕ}
    (hupper : value ≤ 1000 ^ (k + 1) * (1 - 1 / 2 ^ 40)) : value / 1000 ^ k ≤ 1000 - 1 / 2 ^ 40 := by
  have hpow : (0 : ℚ) < 1000 ^ k := by positivity
  rw [div_le_iff₀ hpow]
  calc value ≤ 1000 ^ (k + 1) * (1 - 1 / 2 ^ 40) := hupper
    _ = (1000 - 1000 / 2 ^ 40) * 1000 ^ k := by ring
    _ ≤ (1000 - 1 / 2 ^ 40) * 1000 ^ k := mul_le_mul_of_nonneg_right (by norm_num) hpow.le

theorem onGrid_window_below_thousand : OnGrid (-43) (1000 - 1 / 2 ^ 40 : ℚ) :=
  ⟨1000 * 2 ^ 43 - 8, by norm_num⟩

/-- From 1 on, a hashrate clear of the powers of 1000 has as index a natural
number below 6: the exponent of the greatest power of 1000 up to the value,
whose next power is beyond the window, or 5 for every larger value. -/
theorem hashrateIndex_of_one_le (math : JsMath) {value : ℚ} (hvalue : 1 ≤ value)
    (hclear : ClearOfPowers value) :
    ∃ k : ℕ, hashrateIndex math value = k ∧ k < 6 ∧ (1000 : ℚ) ^ k ≤ value ∧
      (value ≤ 1000 ^ (k + 1) * (1 - 1 / 2 ^ 40) ∨ k = 5) := by
  have hpos : 0 < value := lt_of_lt_of_le one_pos hvalue
  have hlog : 0 ≤ Int.log 1000 value :=
    not_lt.mp fun h => not_le.mpr ((log_lt_zero_iff hpos).mp h) hvalue
  have hlen : hashrateUnits.length = 6 := rfl
  have hexp := math.thousandsExponent_eq_log value hpos hclear
  obtain ⟨k, hk⟩ := Int.eq_ofNat_of_zero_le
    (le_min hlog (by decide : (0 : ℤ) ≤ hashrateUnits.length - 1))
  have hkle : (k : ℤ) ≤ Int.log 1000 value := hk ▸ min_le_left _ _
  refine ⟨k, by rw [hashrateIndex, hexp, hk], by omega, ?_, ?_⟩
  · calc (1000 : ℚ) ^ k = 1000 ^ (k : ℤ) := (zpow_natCast _ _).symm
      _ ≤ 1000 ^ Int.log 1000 value := zpow_le_zpow_right₀ (by norm_num) hkle
      _ ≤ value := by exact_mod_cast Int.zpow_log_le_self (b := 1000) (by norm_num) hpos
  · by_cases h5 : k = 5
    · exact .inr h5
    · have hlogk : Int.log 1000 value = k := by omega
      have hnext : value < 1000 ^ (k + 1) := by
        have hupper := Int.lt_zpow_succ_log_self (b := 1000) (by norm_num) value
        rw [hlogk, ← Nat.cast_succ, zpow_natCast] at hupper
        exact_mod_cast hupper
      have hwindows := hclear (k + 1)
      rw [← Nat.cast_succ, zpow_natCast] at hwindows
      refine .inl (hwindows.resolve_right fun hwindow => ?_)
      have hgrow : (1000 : ℚ) ^ (k + 1) ≤ 1000 ^ (k + 1) * (1 + 1 / 2 ^ 40) :=
        le_mul_of_one_le_right (by positivity) (by norm_num)
      exact absurd (hgrow.trans hwindow) (not_le.mpr hnext)

/-- From 1 H/s on, away from the powers of 1000, the figure is the double
nearest to the hashrate in the unit of the greatest power of 1000 below it, at
least 1 and below 1000, except in PH/s, the last unit, which takes every
larger hashrate too. -/
theorem formatHashrate_scaled_range (math : JsMath) (numberToString : ℚ → String) (value : ℚ)
    (hvalue : 1 ≤ value) (hclear : ClearOfPowers value) :
    ∃ k < 6, ∃ unit, hashrateUnits[k]? = some unit ∧
      formatHashrate numberToString math (some value) =
        toFixed numberToString (roundBinary64 (value / 1000 ^ k))
          (fixedDigits (roundBinary64 (value / 1000 ^ k))) ++ " " ++ unit ∧
      1 ≤ roundBinary64 (value / 1000 ^ k) ∧ (roundBinary64 (value / 1000 ^ k) < 1000 ∨ k = 5) := by
  obtain ⟨k, hindex, hk6, hlower, hupper⟩ := hashrateIndex_of_one_le math hvalue hclear
  have hpow : (0 : ℚ) < 1000 ^ k := by positivity
  have hscaled : 1 ≤ value / 1000 ^ k := (le_div_iff₀ hpow).mpr (by simpa using hlower)
  obtain ⟨unit, hunit⟩ : ∃ unit, hashrateUnits[k]? = some unit :=
    ⟨_, List.getElem?_eq_getElem (by simpa [hashrateUnits] using hk6)⟩
  refine ⟨k, hk6, unit, hunit, ?_, one_le_roundBinary64 hscaled, ?_⟩
  · rw [formatHashrate_of_pos numberToString math (lt_of_lt_of_le one_pos hvalue), hindex,
      pow10_unit math (by omega)]
    unfold unitText
    rw [if_pos (Int.natCast_nonneg k), Int.toNat_natCast, hunit]
    rfl
  · rcases hupper with hupper | h5
    · have hbelow := div_thousand_pow_le hupper
      refine .inl ((roundBinary64_le (onGrid_of_lt_1024 (lt_of_lt_of_le one_pos hscaled)
        (hbelow.trans_lt (by norm_num)) onGrid_window_below_thousand) hbelow).trans_lt (by norm_num))
    · exact .inr h5

theorem formatHashrate_scaled_range_at_2500 :
    (1 : ℚ) ≤ 2500 ∧ ClearOfPowers 2500 ∧ ∃ k < 6, ∃ unit, hashrateUnits[k]? = some unit ∧
      formatHashrate toString exactMath (some 2500) =
        toFixed toString (roundBinary64 (2500 / 1000 ^ k))
          (fixedDigits (roundBinary64 (2500 / 1000 ^ k))) ++ " " ++ unit ∧
      1 ≤ roundBinary64 (2500 / 1000 ^ k) ∧ (roundBinary64 (2500 / 1000 ^ k) < 1000 ∨ k = 5) :=
  have hclear : ClearOfPowers 2500 := clearOfPowers_of_bounds 1 (by norm_num) (by norm_num)
  ⟨by norm_num, hclear, formatHashrate_scaled_range exactMath toString 2500 (by norm_num) hclear⟩

/-- From half a unit below 1000 of any unit from H/s to PH/s up to the window
below the next power of 1000, `toFixed(0)` rounds the figure up, and the text
reads 1000 in that unit rather than 1.00 in the next one. -/
theorem formatHashrate_rounds_to_thousand (math : JsMath) (numberToString : ℚ → String)
    (value : ℚ) (k : ℕ) (hk : k < 6) (hlower : 999.5 * 1000 ^ k ≤ value)
    (hupper : value ≤ 1000 ^ (k + 1) * (1 - 1 / 2 ^ 40)) :
    formatHashrate numberToString math (some value) = "1000 " ++ unitText k := by
  have hpow : (0 : ℚ) < 1000 ^ k := by positivity
  have hbelow : value < 1000 ^ (k + 1) :=
    hupper.trans_lt (mul_lt_of_lt_one_right (by positivity) (by norm_num))
  have hclear : ClearOfPowers value := by
    refine clearOfPowers_of_bounds k (le_trans ?_ hlower) (by exact_mod_cast hupper)
    rw [zpow_natCast, mul_comm]
    exact mul_le_mul_of_nonneg_right (by norm_num) hpow.le
  have hpos : 0 < value := lt_of_lt_of_le (by positivity) hlower
  have hindex : hashrateIndex math value = k := by
    have hlog := log_eq_of_bounds (le_trans (le_mul_of_one_le_left hpow.le (by norm_num)) hlower)
      hbelow
    have hlen : hashrateUnits.length = 6 := rfl
    rw [hashrateIndex, math.thousandsExponent_eq_log value hpos hclear]
    omega
  have hscaled_lo : 999.5 ≤ value / 1000 ^ k := (le_div_iff₀ hpow).mpr hlower
  have hscaled_hi := div_thousand_pow_le hupper
  have hgrid : ∀ a : ℚ, OnGrid (-43) a → OnGrid (ulpExponent (value / 1000 ^ k)) a :=
    fun a => onGrid_of_lt_1024 (lt_of_lt_of_le (by norm_num) hscaled_lo)
      (hscaled_hi.trans_lt (by norm_num))
  have hround_lo : 999.5 ≤ roundBinary64 (value / 1000 ^ k) :=
    le_roundBinary64 (hgrid _ ⟨1999 * 2 ^ 42, by norm_num⟩) hscaled_lo
  have hround_hi : roundBinary64 (value / 1000 ^ k) ≤ 1000 :=
    (roundBinary64_le (hgrid _ onGrid_window_below_thousand) hscaled_hi).trans (by norm_num)
  have hfigure : toFixed numberToString (roundBinary64 (value / 1000 ^ k)) 0 = Nat.repr 1000 :=
    toFixed_zero_of_near numberToString (by norm_num) (le_trans (by norm_num) hround_lo)
      (by exact_mod_cast hround_hi)
  have hdigits : fixedDigits (roundBinary64 (value / 1000 ^ k)) = 0 :=
    if_pos (le_trans (by norm_num) hround_lo)
  rw [formatHashrate_of_pos numberToString math hpos, hindex, pow10_unit math (by omega), hdigits,
    hfigure]
  rfl

theorem formatHashrate_rounds_to_thousand_at_999_7_mega :
    2 < 6 ∧ 999.5 * 1000 ^ 2 ≤ (999700000 : ℚ) ∧
      (999700000 : ℚ) ≤ 1000 ^ (2 + 1) * (1 - 1 / 2 ^ 40) ∧
      formatHashrate toString exactMath (some 999700000) = "1000 " ++ unitText 2 ∧
      unitText 2 = "MH/s" :=
  ⟨by norm_num, by norm_num, by norm_num,
    formatHashrate_rounds_to_thousand exactMath toString 999700000 2 (by norm_num) (by norm_num)
      (by norm_num),
    by decide⟩

end PoolDashboard
