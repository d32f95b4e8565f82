import BucketGuard.Binary64
import Mathlib.Algebra.Order.Field.Power
import Mathlib.Data.Int.Log
import Mathlib.Data.Rat.Floor
import Mathlib.Tactic.GCongr
import Mathlib.Tactic.Linarith
import Mathlib.Tactic.NormNum
import Mathlib.Tactic.Positivity
import Mathlib.Tactic.Ring

namespace BucketGuard

/-! Rounding depends on the value of a fraction alone, not on its numerator and denominator. What it
gives is in the one form that the format has, and a number in that form is what its own value is
rounded to. So a decimal may be written in any way that leaves its value. -/

namespace Binary64

/-! ## Quotients -/

theorem roundQuotient_mul (factor numerator denominator : Nat) (positive : 0 < factor) :
    roundQuotient (factor * numerator) (factor * denominator) =
      roundQuotient numerator denominator := by
  have doubled (remainder : Nat) : 2 * (factor * remainder) = factor * (2 * remainder) :=
    Nat.mul_left_comm ..
  simp only [roundQuotient, Nat.mul_div_mul_left _ _ positive, Nat.mul_mod_mul_left, doubled,
    Nat.mul_lt_mul_left positive]

theorem roundQuotient_eq {numerator denominator other scale : Nat} (positive : 0 < denominator)
    (otherPositive : 0 < scale) (equal : (numerator : ℚ) / denominator = other / scale) :
    roundQuotient numerator denominator = roundQuotient other scale := by
  have crossed : scale * numerator = denominator * other := by
    rw [div_eq_div_iff (by positivity) (by positivity)] at equal
    have : (scale * numerator : ℚ) = denominator * other := by linarith
    exact_mod_cast this
  rw [← roundQuotient_mul scale numerator denominator otherPositive, crossed,
    Nat.mul_comm scale denominator, roundQuotient_mul denominator other scale positive]

theorem roundQuotient_of_mul (significand denominator : Nat) (positive : 0 < denominator) :
    roundQuotient (significand * denominator) denominator = significand := by
  simp [roundQuotient, Nat.mul_div_cancel _ positive, positive]

/-- A quotient between two numbers is rounded to one between them. -/
theorem roundQuotient_bounds {numerator denominator : Nat} (low : Nat) {high : Nat}
    (ofLow : low * denominator ≤ numerator) (ofHigh : numerator < high * denominator) :
    low ≤ roundQuotient numerator denominator ∧ roundQuotient numerator denominator ≤ high := by
  have positive : 0 < denominator := Nat.pos_of_ne_zero fun none => by simp [none] at ofHigh
  have least : low ≤ numerator / denominator := (Nat.le_div_iff_mul_le positive).mpr ofLow
  have greatest : numerator / denominator < high := (Nat.div_lt_iff_lt_mul positive).mpr ofHigh
  simp only [roundQuotient]
  split
  · omega
  · split <;> omega

/-! ## Exponents -/

theorem scaled_ratio (numerator denominator : Nat) (exponent : Int) :
    ((scaled numerator denominator exponent).1 : ℚ) / (scaled numerator denominator exponent).2 =
      numerator / denominator / 2 ^ exponent := by
  rcases le_total 0 exponent with up | down
  · have none : (-exponent).toNat = 0 := by omega
    have power : (2 : ℚ) ^ exponent.toNat = 2 ^ exponent := by
      rw [← zpow_natCast, Int.toNat_of_nonneg up]
    simp only [scaled, none, Nat.cast_mul, Nat.cast_pow, Nat.cast_ofNat, pow_zero, mul_one, power,
      div_div]
  · have none : exponent.toNat = 0 := by omega
    have power : (2 : ℚ) ^ (-exponent).toNat = (2 ^ exponent)⁻¹ := by
      rw [← zpow_natCast, Int.toNat_of_nonneg (by omega), zpow_neg]
    simp only [scaled, none, Nat.cast_mul, Nat.cast_pow, Nat.cast_ofNat, pow_zero, mul_one, power]
    ring

/-- The logarithm of a fraction, up to one, is the difference of those of its parts. -/
private theorem log_ratio {numerator denominator : Nat} (positive : 0 < numerator)
    (scalePositive : 0 < denominator) :
    Int.log 2 ((numerator : ℚ) / denominator) = numerator.log2 - denominator.log2 ∨
      Int.log 2 ((numerator : ℚ) / denominator) = numerator.log2 - denominator.log2 - 1 := by
  have ratio : (0 : ℚ) < numerator / denominator := by positivity
  have two : (2 : ℚ) ≠ 0 := by norm_num
  have numeratorLow : (2 : ℚ) ^ numerator.log2 ≤ numerator := by
    exact_mod_cast Nat.log2_self_le positive.ne'
  have numeratorHigh : (numerator : ℚ) < 2 ^ (numerator.log2 + 1) := by
    exact_mod_cast Nat.lt_log2_self (n := numerator)
  have denominatorLow : (2 : ℚ) ^ denominator.log2 ≤ denominator := by
    exact_mod_cast Nat.log2_self_le scalePositive.ne'
  have denominatorHigh : (denominator : ℚ) < 2 ^ (denominator.log2 + 1) := by
    exact_mod_cast Nat.lt_log2_self (n := denominator)
  have low : (2 : ℚ) ^ ((numerator.log2 : Int) - denominator.log2 - 1) ≤
      numerator / denominator := by
    rw [le_div_iff₀ (by positivity)]
    calc (2 : ℚ) ^ ((numerator.log2 : Int) - denominator.log2 - 1) * denominator
        ≤ 2 ^ ((numerator.log2 : Int) - denominator.log2 - 1) * 2 ^ (denominator.log2 + 1) := by
          gcongr
      _ = 2 ^ numerator.log2 := by
          rw [← zpow_natCast, ← zpow_natCast, ← zpow_add₀ two]
          congr 1
          push_cast
          ring
      _ ≤ numerator := numeratorLow
  have high : (numerator : ℚ) / denominator <
      2 ^ ((numerator.log2 : Int) - denominator.log2 + 1) := by
    rw [div_lt_iff₀ (by positivity)]
    calc (numerator : ℚ) < 2 ^ (numerator.log2 + 1) := numeratorHigh
      _ = 2 ^ ((numerator.log2 : Int) - denominator.log2 + 1) * 2 ^ denominator.log2 := by
          rw [← zpow_natCast, ← zpow_natCast, ← zpow_add₀ two]
          congr 1
          push_cast
          ring
      _ ≤ 2 ^ ((numerator.log2 : Int) - denominator.log2 + 1) * denominator := by gcongr
  have atLeast := (Int.zpow_le_iff_le_log (b := 2) (by decide) ratio).mp (by rwa [Nat.cast_ofNat])
  have below := (Int.lt_zpow_iff_log_lt (b := 2) (by decide) ratio).mp (by rwa [Nat.cast_ofNat])
  omega

/-- The fitting exponent in terms of the value alone. -/
theorem fittingExponent_eq {numerator denominator : Nat} (positive : 0 < numerator)
    (scalePositive : 0 < denominator) :
    fittingExponent numerator denominator =
      max leastExponent (Int.log 2 ((numerator : ℚ) / denominator) - 52) := by
  have ratio : (0 : ℚ) < numerator / denominator := by positivity
  have two : (2 : ℚ) ≠ 0 := by norm_num
  have logarithm := log_ratio positive scalePositive
  generalize guessed : ((numerator.log2 : Int) - denominator.log2 - 52) = guess
  have scalePositive' : (0 : ℚ) < (scaled numerator denominator guess).2 := by
    simp only [scaled]
    positivity
  have less_iff : (scaled numerator denominator guess).1 <
        2 ^ 52 * (scaled numerator denominator guess).2 ↔
      Int.log 2 ((numerator : ℚ) / denominator) < numerator.log2 - denominator.log2 := by
    rw [← Int.lt_zpow_iff_log_lt (b := 2) (by decide) ratio, ← Nat.cast_lt (α := ℚ), Nat.cast_mul,
      ← div_lt_iff₀ scalePositive', scaled_ratio, div_lt_iff₀ (by positivity)]
    have powers : ((2 ^ 52 : Nat) : ℚ) * 2 ^ guess =
        ((2 : Nat) : ℚ) ^ ((numerator.log2 : Int) - denominator.log2) := by
      calc ((2 ^ 52 : Nat) : ℚ) * 2 ^ guess
          = 2 ^ (52 : Int) * 2 ^ guess := by norm_num
        _ = 2 ^ (52 + guess) := (zpow_add₀ two _ _).symm
        _ = ((2 : Nat) : ℚ) ^ ((numerator.log2 : Int) - denominator.log2) := by
          rw [← guessed, Nat.cast_ofNat]
          congr 1
          ring
    rw [powers]
  simp only [fittingExponent, guessed]
  congr 1
  split
  · rename_i less
    have := less_iff.mp less
    omega
  · rename_i notLess
    have := mt less_iff.mpr notLess
    omega

theorem scaled_positive {denominator : Nat} (positive : 0 < denominator) (numerator : Nat)
    (exponent : Int) : 0 < (scaled numerator denominator exponent).2 :=
  Nat.mul_pos positive (Nat.two_pow_pos _)

/-- On the scale of its fitting exponent a fraction is below `2^53`, and above `2^52` unless the
exponent is the least one. -/
private theorem scaled_bounds {numerator denominator : Nat} (positive : 0 < numerator)
    (scalePositive : 0 < denominator) {exponent : Int}
    (fitting : fittingExponent numerator denominator = exponent) :
    (scaled numerator denominator exponent).1 <
        2 ^ 53 * (scaled numerator denominator exponent).2 ∧
      (exponent = leastExponent ∨ 2 ^ 52 * (scaled numerator denominator exponent).2 ≤
        (scaled numerator denominator exponent).1) := by
  have ratio : (0 : ℚ) < numerator / denominator := by positivity
  have two : (2 : ℚ) ≠ 0 := by norm_num
  have bottom : (0 : ℚ) < (scaled numerator denominator exponent).2 := by
    exact_mod_cast scaled_positive scalePositive numerator exponent
  rw [fittingExponent_eq positive scalePositive] at fitting
  have power (count : Nat) : ((2 ^ count : Nat) : ℚ) * 2 ^ exponent =
      ((2 : Nat) : ℚ) ^ ((count : Int) + exponent) := by
    rw [Nat.cast_ofNat, zpow_add₀ two, zpow_natCast]
    push_cast
    rfl
  constructor
  · rw [← Nat.cast_lt (α := ℚ), Nat.cast_mul, ← div_lt_iff₀ bottom, scaled_ratio,
      div_lt_iff₀ (by positivity), power, Int.lt_zpow_iff_log_lt (by decide) ratio]
    omega
  · refine or_iff_not_imp_left.mpr fun notLeast => ?_
    rw [← Nat.cast_le (α := ℚ), Nat.cast_mul, ← le_div_iff₀ bottom, scaled_ratio,
      le_div_iff₀ (by positivity), power, Int.zpow_le_iff_le_log (by decide) ratio]
    omega

/-! ## Numbers in form -/

/-- A number in the one form that the format has for it. -/
def InForm : Binary64 → Prop
  | .finite _ significand exponent =>
      significand < 2 ^ 53 ∧ leastExponent ≤ exponent ∧ exponent ≤ greatestExponent ∧
        (exponent = leastExponent ∨ 2 ^ 52 ≤ significand)
  | _ => True

theorem inForm_zero (negative : Bool) : (zero negative).InForm := by
  simp [zero, InForm, leastExponent, greatestExponent]

theorem ofFraction_inForm (negative : Bool) (numerator : Nat) {denominator : Nat}
    (scalePositive : 0 < denominator) : (ofFraction negative numerator denominator).InForm := by
  unfold ofFraction
  split
  · exact inForm_zero negative
  rename_i positive
  have positive : 0 < numerator := Nat.pos_of_ne_zero positive
  have least : leastExponent ≤ fittingExponent numerator denominator := by
    rw [fittingExponent_eq positive scalePositive]
    exact le_max_left ..
  have bounds := scaled_bounds positive scalePositive rfl
  rcases roundQuotient_bounds 0 (by omega) bounds.1 with ⟨-, high⟩
  have low := bounds.2.imp_right fun ofLow => (roundQuotient_bounds _ ofLow bounds.1).1
  dsimp only
  split
  · split
    · trivial
    · refine ⟨by norm_num, ?_, ?_, .inr le_rfl⟩ <;> omega
  · split
    · trivial
    · exact ⟨by omega, least, by omega, low⟩

/-- Rounding depends on the value of a fraction alone. -/
theorem ofFraction_eq (negative : Bool) {numerator denominator other scale : Nat}
    (positive : 0 < denominator) (otherPositive : 0 < scale)
    (equal : (numerator : ℚ) / denominator = other / scale) :
    ofFraction negative numerator denominator = ofFraction negative other scale := by
  have zero_iff : numerator = 0 ↔ other = 0 := by
    have both : (numerator : ℚ) / denominator = 0 ↔ (other : ℚ) / scale = 0 := by rw [equal]
    simpa [positive.ne', otherPositive.ne'] using both
  by_cases none : numerator = 0
  · rw [ofFraction, ofFraction, if_pos none, if_pos (zero_iff.mp none)]
  have otherNone : other ≠ 0 := mt zero_iff.mpr none
  have fitting : fittingExponent numerator denominator = fittingExponent other scale := by
    rw [fittingExponent_eq (Nat.pos_of_ne_zero none) positive,
      fittingExponent_eq (Nat.pos_of_ne_zero otherNone) otherPositive, equal]
  have rounded (exponent : Int) :
      roundQuotient (scaled numerator denominator exponent).1
          (scaled numerator denominator exponent).2 =
        roundQuotient (scaled other scale exponent).1 (scaled other scale exponent).2 :=
    roundQuotient_eq (scaled_positive positive _ _) (scaled_positive otherPositive _ _)
      (by rw [scaled_ratio, scaled_ratio, equal])
  simp only [ofFraction, none, otherNone, if_false, fitting, rounded]

/-- The value of a number in binary form, as a fraction. -/
theorem binary_ratio (significand : Nat) (exponent : Int) :
    ((significand * 2 ^ exponent.toNat : Nat) : ℚ) / (2 ^ (-exponent).toNat : Nat) =
      significand * 2 ^ exponent := by
  have ratio := scaled_ratio significand 1 (-exponent)
  simpa [scaled] using ratio

/-- A number in form is what its own value is rounded to. -/
theorem ofFraction_of_inForm {negative : Bool} {significand : Nat} {exponent : Int}
    (inForm : InForm (.finite negative significand exponent)) :
    ofFraction negative (significand * 2 ^ exponent.toNat) (2 ^ (-exponent).toNat) =
      .finite negative significand exponent := by
  rcases inForm with ⟨fits, least, greatest, full⟩
  by_cases none : significand = 0
  · have isLeast : exponent = leastExponent := full.resolve_right (by omega)
    rw [none, Nat.zero_mul, ofFraction, if_pos rfl, isLeast, zero]
  have two : (2 : ℚ) ≠ 0 := by norm_num
  have given : (0 : ℚ) < significand := by exact_mod_cast Nat.pos_of_ne_zero none
  have positive : 0 < significand * 2 ^ exponent.toNat :=
    Nat.mul_pos (Nat.pos_of_ne_zero none) (Nat.two_pow_pos _)
  have scalePositive : 0 < 2 ^ (-exponent).toNat := Nat.two_pow_pos _
  have ratio : (0 : ℚ) < significand * 2 ^ exponent := by positivity
  have power (count : Nat) :
      ((2 : Nat) : ℚ) ^ ((count : Int) + exponent) = (2 ^ count : Nat) * 2 ^ exponent := by
    rw [Nat.cast_ofNat, zpow_add₀ two, zpow_natCast]
    push_cast
    rfl
  have below : Int.log 2 ((significand : ℚ) * 2 ^ exponent) < (53 : Nat) + exponent := by
    rw [← Int.lt_zpow_iff_log_lt (by decide) ratio, power]
    gcongr
  have fitting : fittingExponent (significand * 2 ^ exponent.toNat) (2 ^ (-exponent).toNat) =
      exponent := by
    rw [fittingExponent_eq positive scalePositive, binary_ratio]
    rcases full with isLeast | full
    · omega
    · have atLeast : (52 : Nat) + exponent ≤ Int.log 2 ((significand : ℚ) * 2 ^ exponent) := by
        rw [← Int.zpow_le_iff_le_log (by decide) ratio, power]
        gcongr
      omega
  have rounded : roundQuotient
      (scaled (significand * 2 ^ exponent.toNat) (2 ^ (-exponent).toNat) exponent).1
      (scaled (significand * 2 ^ exponent.toNat) (2 ^ (-exponent).toNat) exponent).2 =
        significand := by
    have whole := roundQuotient_of_mul significand 1 Nat.one_pos
    rw [Nat.mul_one] at whole
    rw [← whole]
    refine roundQuotient_eq (scaled_positive scalePositive _ _) Nat.one_pos ?_
    rw [whole, scaled_ratio, binary_ratio]
    field_simp
    simp
  have notCarried : significand ≠ 2 ^ 53 := by omega
  have notInfinite : ¬greatestExponent < exponent := by omega
  simp only [ofFraction, positive.ne', if_false, fitting, rounded, notCarried, notInfinite]

/-! ## Decimals -/

private theorem ofFraction_of_tiny (negative : Bool) {numerator denominator : Nat}
    (positive : 0 < numerator) (scalePositive : 0 < denominator)
    (tiny : (numerator : ℚ) / denominator < 2 ^ (-1075 : Int)) :
    ofFraction negative numerator denominator = zero negative := by
  have ratio : (0 : ℚ) < numerator / denominator := by positivity
  have below : Int.log 2 ((numerator : ℚ) / denominator) < -1075 := by
    rw [← Int.lt_zpow_iff_log_lt (by decide) ratio]
    exact tiny
  have fitting : fittingExponent numerator denominator = leastExponent := by
    rw [fittingExponent_eq positive scalePositive, leastExponent]
    omega
  have bottom : (0 : ℚ) < (scaled numerator denominator leastExponent).2 := by
    exact_mod_cast scaled_positive scalePositive numerator leastExponent
  have half : 2 * (scaled numerator denominator leastExponent).1 <
      (scaled numerator denominator leastExponent).2 := by
    have onScale : ((scaled numerator denominator leastExponent).1 : ℚ) /
        (scaled numerator denominator leastExponent).2 < 1 / 2 := by
      rw [scaled_ratio, leastExponent, div_lt_iff₀ (by positivity)]
      calc (numerator : ℚ) / denominator < 2 ^ (-1075 : Int) := tiny
        _ = 1 / 2 * 2 ^ (-1074 : Int) := by
          rw [show (-1075 : Int) = -1 + -1074 by norm_num, zpow_add₀ (by norm_num)]
          norm_num
    rw [div_lt_iff₀ bottom] at onScale
    have doubled : (2 : ℚ) * (scaled numerator denominator leastExponent).1 <
        (scaled numerator denominator leastExponent).2 := by linarith
    exact_mod_cast doubled
  have rounded : roundQuotient (scaled numerator denominator leastExponent).1
      (scaled numerator denominator leastExponent).2 = 0 := by
    rw [roundQuotient, Nat.mod_eq_of_lt (by omega), Nat.div_eq_of_lt (by omega), if_pos half]
  simp only [ofFraction, positive.ne', if_false, fitting, rounded, zero]
  rfl

private theorem ofFraction_of_huge (negative : Bool) {numerator denominator : Nat}
    (positive : 0 < numerator) (scalePositive : 0 < denominator)
    (huge : (2 : ℚ) ^ (1024 : Int) ≤ numerator / denominator) :
    ofFraction negative numerator denominator = .infinite negative := by
  have ratio : (0 : ℚ) < numerator / denominator := by positivity
  have atLeast : 1024 ≤ Int.log 2 ((numerator : ℚ) / denominator) := by
    rw [← Int.zpow_le_iff_le_log (by decide) ratio]
    exact huge
  have beyond : greatestExponent < fittingExponent numerator denominator := by
    rw [fittingExponent_eq positive scalePositive, greatestExponent]
    omega
  have beyondCarry : greatestExponent < fittingExponent numerator denominator + 1 := by omega
  unfold ofFraction
  rw [if_neg positive.ne']
  dsimp only
  split <;> rfl

private theorem decimal_ratio (digits : Nat) (power : Int) :
    ((digits * 10 ^ power.toNat : Nat) : ℚ) / (10 ^ (-power).toNat : Nat) = digits * 10 ^ power := by
  rcases le_total 0 power with up | down
  · have none : (-power).toNat = 0 := by omega
    rw [none, Nat.cast_mul, Nat.cast_pow, pow_zero, Nat.cast_one, div_one, Nat.cast_ofNat,
      ← zpow_natCast, Int.toNat_of_nonneg up]
  · have none : power.toNat = 0 := by omega
    rw [none, pow_zero, mul_one, Nat.cast_pow, Nat.cast_ofNat, ← zpow_natCast,
      Int.toNat_of_nonneg (by omega), zpow_neg, div_inv_eq_mul]

private theorem ten_pow_tiny : (10 : ℚ) ^ (-400 : Int) < 2 ^ (-1075 : Int) := by
  have powers : 2 ^ 1075 < 10 ^ 400 := by decide +kernel
  rw [zpow_neg, zpow_neg, inv_lt_inv₀ (by positivity) (by positivity)]
  exact_mod_cast powers

private theorem ten_pow_huge : (2 : ℚ) ^ (1024 : Int) ≤ 10 ^ (401 : Int) := by
  have powers : 2 ^ 1024 ≤ 10 ^ 401 := by decide +kernel
  exact_mod_cast powers

/-- Decimals far outside the range are rounded as all others are. -/
private theorem ofDecimal_eq_ofFraction (negative : Bool) {digits : Nat} (power : Int)
    (given : digits ≠ 0) :
    ofDecimal negative digits power =
      ofFraction negative (digits * 10 ^ power.toNat) (10 ^ (-power).toNat) := by
  have ten : (10 : ℚ) ≠ 0 := by norm_num
  have positive : 0 < digits * 10 ^ power.toNat :=
    Nat.mul_pos (Nat.pos_of_ne_zero given) (Nat.pow_pos (by decide))
  have scalePositive : 0 < 10 ^ (-power).toNat := Nat.pow_pos (by decide)
  unfold ofDecimal
  split
  · rename_i small
    have small := small.resolve_left given
    have tiny : (digits : ℚ) * 10 ^ power < 2 ^ (-1075 : Int) := by
      have below : (digits : ℚ) < 10 ^ ((digits.log2 : Int) + 1) := by
        have binary : digits < 10 ^ (digits.log2 + 1) :=
          Nat.lt_log2_self.trans_le (Nat.pow_le_pow_left (by decide) _)
        exact_mod_cast binary
      calc (digits : ℚ) * 10 ^ power
          ≤ digits * 10 ^ (-401 - digits.log2 : Int) := by
            gcongr
            · norm_num
            · omega
        _ < 10 ^ ((digits.log2 : Int) + 1) * 10 ^ (-401 - digits.log2 : Int) := by gcongr
        _ = 10 ^ (-400 : Int) := by
            rw [← zpow_add₀ ten]
            congr 1
            ring
        _ < 2 ^ (-1075 : Int) := ten_pow_tiny
    exact (ofFraction_of_tiny negative positive scalePositive (by rwa [decimal_ratio])).symm
  split
  · rename_i large
    have huge : (2 : ℚ) ^ (1024 : Int) ≤ digits * 10 ^ power := by
      calc (2 : ℚ) ^ (1024 : Int) ≤ 10 ^ (401 : Int) := ten_pow_huge
        _ = 1 * 10 ^ (401 : Int) := (one_mul _).symm
        _ ≤ digits * 10 ^ power := by
            gcongr
            · exact_mod_cast Nat.one_le_iff_ne_zero.mpr given
            · norm_num
            · omega
    exact (ofFraction_of_huge negative positive scalePositive (by rwa [decimal_ratio])).symm
  · rfl

theorem ofDecimal_inForm (negative : Bool) (digits : Nat) (power : Int) :
    (ofDecimal negative digits power).InForm := by
  by_cases none : digits = 0
  · rw [ofDecimal, if_pos (.inl none)]
    exact inForm_zero negative
  · rw [ofDecimal_eq_ofFraction negative power none]
    exact ofFraction_inForm negative _ (Nat.pow_pos (by decide))

/-- Decimals of one value are rounded to one number. -/
theorem ofDecimal_eq (negative : Bool) {digits other : Nat} {power otherPower : Int}
    (equal : (digits : ℚ) * 10 ^ power = other * 10 ^ otherPower) :
    ofDecimal negative digits power = ofDecimal negative other otherPower := by
  have zero_iff : digits = 0 ↔ other = 0 := by
    have both : (digits : ℚ) * 10 ^ power = 0 ↔ (other : ℚ) * 10 ^ otherPower = 0 := by rw [equal]
    have ten (power : Int) : (10 : ℚ) ^ power ≠ 0 := zpow_ne_zero _ (by norm_num)
    simpa [ten] using both
  by_cases none : digits = 0
  · rw [ofDecimal, ofDecimal, if_pos (.inl none), if_pos (.inl (zero_iff.mp none))]
  · rw [ofDecimal_eq_ofFraction negative power none,
      ofDecimal_eq_ofFraction negative otherPower (mt zero_iff.mpr none)]
    exact ofFraction_eq negative (Nat.pow_pos (by decide)) (Nat.pow_pos (by decide))
      (by rw [decimal_ratio, decimal_ratio, equal])

/-- A number in form is what a decimal of its value is rounded to. -/
theorem ofDecimal_of_inForm {negative : Bool} {significand : Nat} {exponent : Int}
    (inForm : InForm (.finite negative significand exponent)) (given : significand ≠ 0)
    {digits : Nat} {power : Int}
    (equal : (digits : ℚ) * 10 ^ power = significand * 2 ^ exponent) :
    ofDecimal negative digits power = .finite negative significand exponent := by
  have digitsGiven : digits ≠ 0 := by
    rintro rfl
    simp [given, zpow_ne_zero] at equal
  rw [ofDecimal_eq_ofFraction negative power digitsGiven, ← ofFraction_of_inForm inForm]
  exact ofFraction_eq negative (Nat.pow_pos (by decide)) (Nat.two_pow_pos _)
    (by rw [decimal_ratio, binary_ratio, equal])

end Binary64

end BucketGuard
