import PoolDashboard.Hashrate

/-
The pool page's other figures with units: the block interval
(`formatDuration`), the port's vardiff target and retarget times
(`formatSecondsCompact`) and its difficulties (`formatDifficultyValue`).  Each
picks a unit by comparing the value with the unit's bound and then prints the
scaled value with `toFixed`, which can round it up to the bound itself.  The
values are finite numbers, so `Number.isFinite` holds of every one.  The
difficulty's quotient is the double `roundBinary64` gives; the time figures
divide exactly.
-/

namespace PoolDashboard

section

variable (numberToString : ℚ → String)

/-- `x.toFixed(digits)` for every `x`: a negative number is written as a minus
sign before the figure of its absolute value. -/
def signedToFixed (x : ℚ) (digits : Nat) : String :=
  if x < 0 then "-" ++ toFixed numberToString (-x) digits else toFixed numberToString x digits

/-- `value < 10 ? 1 : 0`, the decimals of a time figure. -/
def timeDigits (value : ℚ) : Nat :=
  if value < 10 then 1 else 0

/-- `formatDuration`: a dash for a missing or non-positive value, else the
value in seconds, minutes, hours or days. -/
def formatDuration : Option ℚ → String
  | none => "—"
  | some value =>
      if value ≤ 0 then "—"
      else if value < 60 then toFixed numberToString value (timeDigits value) ++ " s"
      else if value < 3600 then
        let minutes := value / 60
        toFixed numberToString minutes (timeDigits minutes) ++ " min"
      else
        let hours := value / 3600
        if hours < 24 then toFixed numberToString hours (timeDigits hours) ++ " h"
        else
          let days := hours / 24
          toFixed numberToString days (timeDigits days) ++ " d"

/-- `formatSecondsCompact`: the value in seconds, minutes or hours, and no
dash for a non-positive value. -/
def formatSecondsCompact : Option ℚ → String
  | none => "—"
  | some value =>
      if value < 60 then signedToFixed numberToString value (timeDigits value) ++ "s"
      else if value < 3600 then
        signedToFixed numberToString (value / 60) (timeDigits (value / 60)) ++ "m"
      else signedToFixed numberToString (value / 3600) (timeDigits (value / 3600)) ++ "h"

/-- The `thresholds` of `formatDifficultyValue`, tried in this order. -/
def difficultyThresholds : List (ℚ × String) :=
  [(1000000000, "G"), (1000000, "M"), (1000, "K")]

/-- `formatDifficultyValue`: the value divided by the first threshold it
reaches, as a double, with that threshold's suffix, or the value itself below
them all; the decimals are those of `formatHashrate`. -/
def formatDifficultyValue : Option ℚ → String
  | none => "—"
  | some value =>
      match difficultyThresholds.find? (fun threshold => threshold.1 ≤ value) with
      | some (limit, suffix) =>
          let scaled := roundBinary64 (value / limit)
          signedToFixed numberToString scaled (fixedDigits scaled) ++ suffix
      | none => signedToFixed numberToString value (fixedDigits value)

theorem formatDifficultyValue_some (value : ℚ) :
    formatDifficultyValue numberToString (some value) =
      match difficultyThresholds.find? (fun threshold => threshold.1 ≤ value) with
      | some (limit, suffix) =>
          signedToFixed numberToString (roundBinary64 (value / limit))
            (fixedDigits (roundBinary64 (value / limit))) ++ suffix
      | none => signedToFixed numberToString value (fixedDigits value) :=
  rfl

theorem signedToFixed_of_nonneg {x : ℚ} (hx : 0 ≤ x) (digits : Nat) :
    signedToFixed numberToString x digits = toFixed numberToString x digits :=
  if_neg (not_lt.mpr hx)

/-- A time figure within half a unit below a whole number from 11 on is
printed as that number. -/
theorem toFixed_timeDigits_of_near {x : ℚ} {n : ℕ} (hn : 11 ≤ n) (hn' : n < 10 ^ 21)
    (hlower : n - 1 / 2 ≤ x) (hupper : x < n) :
    toFixed numberToString x (timeDigits x) = Nat.repr n := by
  have h11 : (11 : ℚ) ≤ n := by exact_mod_cast hn
  have h10 : ¬ x < 10 := not_lt.mpr (le_trans (le_sub_iff_add_le.mpr (le_trans (by norm_num) h11)) hlower)
  rw [timeDigits, if_neg h10, toFixed_zero_of_near numberToString hn' hlower hupper.le]

/-- Below 1000 a difficulty is printed as it is. -/
theorem formatDifficultyValue_of_lt_thousand {value : ℚ} (hupper : value < 1000) :
    formatDifficultyValue numberToString (some value) =
      signedToFixed numberToString value (fixedDigits value) := by
  have hK : ¬ (1000 : ℚ) ≤ value := not_le.mpr hupper
  have hM : ¬ (1000000 : ℚ) ≤ value := fun h => hK (le_trans (by norm_num) h)
  have hG : ¬ (1000000000 : ℚ) ≤ value := fun h => hK (le_trans (by norm_num) h)
  have hfind : difficultyThresholds.find? (fun threshold => threshold.1 ≤ value) = none := by
    simp only [difficultyThresholds, List.find?, hK, hM, hG, decide_False]
  rw [formatDifficultyValue_some, hfind]

/-- A difficulty from a threshold up to 1000 times it is divided by that
threshold and takes its suffix. -/
theorem formatDifficultyValue_of_rung {value limit : ℚ} {suffix : String}
    (hrung : (limit, suffix) ∈ difficultyThresholds) (hlower : limit ≤ value)
    (hupper : value < 1000 * limit) :
    formatDifficultyValue numberToString (some value) =
      signedToFixed numberToString (roundBinary64 (value / limit))
        (fixedDigits (roundBinary64 (value / limit))) ++ suffix := by
  simp only [difficultyThresholds, List.mem_cons, Prod.mk.injEq, List.mem_nil_iff, or_false] at hrung
  rcases hrung with ⟨rfl, rfl⟩ | ⟨rfl, rfl⟩ | ⟨rfl, rfl⟩
  · have hfind : difficultyThresholds.find? (fun threshold => threshold.1 ≤ value) =
        some (1000000000, "G") := by
      simp only [difficultyThresholds, List.find?, hlower, decide_True]
    rw [formatDifficultyValue_some, hfind]
  · have hG : ¬ (1000000000 : ℚ) ≤ value := not_le.mpr (by norm_num at hupper; exact hupper)
    have hfind : difficultyThresholds.find? (fun threshold => threshold.1 ≤ value) =
        some (1000000, "M") := by
      simp only [difficultyThresholds, List.find?, hlower, hG, decide_True, decide_False]
    rw [formatDifficultyValue_some, hfind]
  · have hM : ¬ (1000000 : ℚ) ≤ value := not_le.mpr (by norm_num at hupper; exact hupper)
    have hG : ¬ (1000000000 : ℚ) ≤ value := fun h => hM (le_trans (by norm_num) h)
    have hfind : difficultyThresholds.find? (fun threshold => threshold.1 ≤ value) =
        some (1000, "K") := by
      simp only [difficultyThresholds, List.find?, hlower, hM, hG, decide_True, decide_False]
    rw [formatDifficultyValue_some, hfind]

/-- A figure from 999.5 to 1000 is printed as 1000. -/
theorem signedToFixed_near_thousand {x : ℚ} (hlower : 999.5 ≤ x) (hupper : x ≤ 1000) :
    signedToFixed numberToString x (fixedDigits x) = "1000" := by
  rw [signedToFixed_of_nonneg numberToString (le_trans (by norm_num) hlower),
    show fixedDigits x = 0 from if_pos (le_trans (by norm_num) hlower),
    toFixed_zero_of_near numberToString (n := 1000) (by norm_num) (le_trans (by norm_num) hlower)
      (by exact_mod_cast hupper)]
  rfl

end

/-- Within half a unit below the bound of seconds, minutes or hours, both time
figures round up to the bound: the block interval reads 60 s, 60 min or 24 h
and the vardiff times 60s, 60m or 24h, rather than 1.0 in the next unit. -/
theorem time_figures_round_up (numberToString : ℚ → String) (value divisor : ℚ) (bound : ℕ)
    (unit compactUnit : String)
    (hrung : (divisor, bound, unit, compactUnit) ∈
      [((1 : ℚ), (60 : ℕ), " s", "s"), (60, 60, " min", "m"), (3600, 24, " h", "h")])
    (hlower : (bound - 1 / 2) * divisor ≤ value) (hupper : value < bound * divisor) :
    formatDuration numberToString (some value) = Nat.repr bound ++ unit ∧
      formatSecondsCompact numberToString (some value) = Nat.repr bound ++ compactUnit := by
  simp only [List.mem_cons, Prod.mk.injEq, List.mem_nil_iff, or_false] at hrung
  have hdiv : 0 < divisor ∧ 11 ≤ bound ∧ bound ≤ 60 := by
    rcases hrung with ⟨rfl, rfl, -⟩ | ⟨rfl, rfl, -⟩ | ⟨rfl, rfl, -⟩ <;> norm_num
  have hlower' : (bound : ℚ) - 1 / 2 ≤ value / divisor := (le_div_iff₀ hdiv.1).mpr hlower
  have hupper' : value / divisor < bound := (div_lt_iff₀ hdiv.1).mpr hupper
  have hfigure := toFixed_timeDigits_of_near numberToString hdiv.2.1
    (lt_of_le_of_lt hdiv.2.2 (by norm_num)) hlower' hupper'
  have h11 : (11 : ℚ) ≤ bound := by exact_mod_cast hdiv.2.1
  have hpos : 0 < value / divisor := lt_of_lt_of_le (sub_pos.mpr (lt_of_lt_of_le (by norm_num) h11)) hlower'
  have hvalue : 0 < value := (div_pos_iff_of_pos_right hdiv.1).mp hpos
  rcases hrung with ⟨rfl, rfl, rfl, rfl⟩ | ⟨rfl, rfl, rfl, rfl⟩ | ⟨rfl, rfl, rfl, rfl⟩
  · rw [div_one] at hfigure hpos hupper'
    simp only [formatDuration, formatSecondsCompact, if_neg (not_le.mpr hvalue),
      if_pos (show value < 60 by exact_mod_cast hupper'), signedToFixed_of_nonneg numberToString hpos.le,
      hfigure, and_self]
  · norm_num at hlower hupper
    have h60 : ¬ value < 60 := not_lt.mpr (le_trans (by norm_num) hlower)
    simp only [formatDuration, formatSecondsCompact, if_neg (not_le.mpr hvalue), if_neg h60, if_pos hupper,
      signedToFixed_of_nonneg numberToString hpos.le, hfigure, and_self]
  · norm_num at hlower
    have h60 : ¬ value < 60 := not_lt.mpr (le_trans (by norm_num) hlower)
    have h3600 : ¬ value < 3600 := not_lt.mpr (le_trans (by norm_num) hlower)
    simp only [formatDuration, formatSecondsCompact, if_neg (not_le.mpr hvalue), if_neg h60, if_neg h3600,
      if_pos (show value / 3600 < 24 by exact_mod_cast hupper'),
      signedToFixed_of_nonneg numberToString hpos.le, hfigure, and_self]

theorem time_figures_round_up_at_3590_seconds :
    ((60 : ℚ), (60 : ℕ), " min", "m") ∈
        [((1 : ℚ), (60 : ℕ), " s", "s"), (60, 60, " min", "m"), (3600, 24, " h", "h")] ∧
      (((60 : ℕ) : ℚ) - 1 / 2) * 60 ≤ 3590 ∧ (3590 : ℚ) < (60 : ℕ) * 60 ∧
      formatDuration toString (some 3590) = Nat.repr 60 ++ " min" ∧
        formatSecondsCompact toString (some 3590) = Nat.repr 60 ++ "m" :=
  ⟨by simp, by norm_num, by norm_num,
    time_figures_round_up toString 3590 60 60 " min" "m" (by simp) (by norm_num) (by norm_num)⟩

/-- Within half a unit below 1000 of each threshold, and below 1000 itself,
`toFixed(0)` rounds the difficulty up: the card reads 1000K, 1000M, 1000G or
1000 rather than 1.00 with the next suffix. -/
theorem formatDifficultyValue_rounds_to_thousand (numberToString : ℚ → String)
    (value limit : ℚ) (suffix : String) (hrung : (limit, suffix) ∈ (1, "") :: difficultyThresholds)
    (hlower : 999.5 * limit ≤ value) (hupper : value < 1000 * limit) :
    formatDifficultyValue numberToString (some value) = "1000" ++ suffix := by
  rcases List.mem_cons.mp hrung with hunit | hrung
  · obtain ⟨rfl, rfl⟩ := Prod.mk.inj hunit
    rw [mul_one] at hlower hupper
    rw [formatDifficultyValue_of_lt_thousand numberToString hupper,
      signedToFixed_near_thousand numberToString hlower hupper.le]
    rfl
  · have hlimit : 0 < limit := by
      simp only [difficultyThresholds, List.mem_cons, Prod.mk.injEq, List.mem_nil_iff,
        or_false] at hrung
      rcases hrung with ⟨rfl, -⟩ | ⟨rfl, -⟩ | ⟨rfl, -⟩ <;> norm_num
    have hscaled_lo : 999.5 ≤ value / limit := (le_div_iff₀ hlimit).mpr hlower
    have hscaled_hi : value / limit < 1000 := (div_lt_iff₀ hlimit).mpr hupper
    have hgrid : ∀ a : ℚ, OnGrid (-43) a → OnGrid (ulpExponent (value / limit)) a :=
      fun a => onGrid_of_lt_1024 (lt_of_lt_of_le (by norm_num) hscaled_lo)
        (hscaled_hi.trans (by norm_num))
    have hround_lo : 999.5 ≤ roundBinary64 (value / limit) :=
      le_roundBinary64 (hgrid _ ⟨1999 * 2 ^ 42, by norm_num⟩) hscaled_lo
    have hround_hi : roundBinary64 (value / limit) ≤ 1000 :=
      roundBinary64_le (hgrid _ (onGrid_intCast 1000 (by norm_num))) hscaled_hi.le
    rw [formatDifficultyValue_of_rung numberToString hrung
        (le_trans (le_mul_of_one_le_left hlimit.le (by norm_num)) hlower) hupper,
      signedToFixed_near_thousand numberToString hround_lo hround_hi]

theorem formatDifficultyValue_rounds_to_thousand_at_999_7_kilo :
    ((1000 : ℚ), "K") ∈ (1, "") :: difficultyThresholds ∧ 999.5 * 1000 ≤ (999700 : ℚ) ∧
      (999700 : ℚ) < 1000 * 1000 ∧ formatDifficultyValue toString (some 999700) = "1000" ++ "K" :=
  ⟨by simp [difficultyThresholds], by norm_num, by norm_num,
    formatDifficultyValue_rounds_to_thousand toString 999700 1000 "K" (by simp [difficultyThresholds])
      (by norm_num) (by norm_num)⟩

end PoolDashboard
