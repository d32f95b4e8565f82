import BucketGuard.Binary64.Layout
import BucketGuard.Proofs.Binary64.Rounding
import Mathlib.Tactic.FieldSimp

namespace BucketGuard

/-! The digits of a number read back. The decimal that is chosen for a number is rounded to it: the
short candidates are tried before they are taken, and the exact value behind them is rounded to
itself. The digits that are shown are those of the decimal without the zeros at their end. -/

namespace Decimal

/-! ## Digits -/

/-- The first digit of a number is no zero. -/
theorem head?_toDigits {number : Nat} (given : number ≠ 0) :
    (Nat.toDigits 10 number).head? ≠ some '0' := by
  induction number using Nat.strongRecOn with
  | ind number induction =>
      by_cases small : number < 10
      · rw [Nat.toDigits_of_lt_base small]
        simpa using given
      · have shorter := induction (number / 10) (by omega) (by omega)
        rw [Nat.toDigits_of_base_le (by decide) (by omega), List.head?_append]
        cases first : (Nat.toDigits 10 (number / 10)).head? with
        | none => exact absurd (List.head?_eq_none_iff.mp first) Nat.toDigits_ne_nil
        | some character => rwa [first] at shorter

def value (decimal : Decimal) : ℚ := decimal.digits * 10 ^ decimal.power

/-- The digits that are shown, with the zeros that are not. -/
private theorem significant_append (decimal : Decimal) :
    ∃ zeros, Nat.toDigits 10 decimal.digits =
      decimal.significant.1 ++ List.replicate zeros '0' := by
  refine ⟨((Nat.toDigits 10 decimal.digits).reverse.takeWhile (· = '0')).length, ?_⟩
  have zeros : (Nat.toDigits 10 decimal.digits).reverse.takeWhile (· = '0') =
      List.replicate ((Nat.toDigits 10 decimal.digits).reverse.takeWhile (· = '0')).length '0' :=
    List.eq_replicate_iff.mpr ⟨rfl, fun character member => by
      simpa using List.all_eq_true.mp List.all_takeWhile character member⟩
  rw [← List.reverse_replicate, ← zeros, significant, ← List.reverse_append,
    List.takeWhile_append_dropWhile, List.reverse_reverse]

/-- Digits of a number that is not zero, and where its point stands before their end. -/
structure Shows (digits : List Char) (point : Int) (decimal : Decimal) : Prop where
  areDigits : ∀ character ∈ digits, character.isDigit
  nonempty : digits ≠ []
  leads : digits.head? ≠ some '0'
  value : decimal.value = (Nat.ofDigitChars 10 digits 0 : ℚ) * 10 ^ (point - digits.length)

/-- What is shown of a decimal has its value. -/
theorem shows_significant {decimal : Decimal} (given : decimal.digits ≠ 0) :
    Shows decimal.significant.1 decimal.significant.2 decimal := by
  rcases significant_append decimal with ⟨zeros, equal⟩
  have leads := head?_toDigits given
  have number := Nat.ofDigitChars_ten_toDigits (n := decimal.digits)
  have length : (Nat.toDigits 10 decimal.digits).length = decimal.significant.1.length + zeros := by
    rw [equal, List.length_append, List.length_replicate]
  have nonempty : decimal.significant.1 ≠ [] := by
    intro none
    cases zeros with
    | zero => exact Nat.toDigits_ne_nil (equal.trans (by rw [none]; rfl))
    | succ zeros => exact leads (by rw [equal, none]; rfl)
  refine { areDigits := ?_, nonempty, leads := ?_, value := ?_ }
  · intro character member
    have isShown : character ∈ Nat.toDigits 10 decimal.digits := by
      rw [equal]
      exact List.mem_append_left _ member
    exact Nat.isDigit_of_mem_toDigits (by decide) (by decide) isShown
  · rwa [equal, List.head?_append_of_ne_nil _ nonempty] at leads
  · rw [equal, Nat.ofDigitChars_append, Nat.ofDigitChars_replicate_zero] at number
    have point : decimal.significant.2 - decimal.significant.1.length = zeros + decimal.power := by
      simp only [significant] at length ⊢
      omega
    rw [point, value, ← number, zpow_add₀ (by norm_num), zpow_natCast]
    push_cast
    ring

/-! ## The shortest decimal -/

private theorem ofBinary_value (significand : Nat) (exponent : Int) :
    (ofBinary significand exponent).value = significand * 2 ^ exponent := by
  rcases le_total 0 exponent with up | down
  · have none : (-exponent).toNat = 0 := by omega
    have power : (2 : ℚ) ^ exponent.toNat = 2 ^ exponent := by
      rw [← zpow_natCast, Int.toNat_of_nonneg up]
    rw [value, ofBinary, none, min_eq_right up]
    push_cast
    rw [power, mul_one, mul_one]
  · have none : exponent.toNat = 0 := by omega
    have power : (5 : ℚ) ^ (-exponent).toNat = (5 ^ exponent)⁻¹ := by
      rw [← zpow_natCast, Int.toNat_of_nonneg (by omega), zpow_neg]
    have ten : (10 : ℚ) ^ exponent = 2 ^ exponent * 5 ^ exponent := by
      rw [← mul_zpow]
      norm_num
    rw [value, ofBinary, none, min_eq_left down]
    push_cast
    rw [power, ten]
    field_simp

/-- The chosen decimal is rounded to the number it is chosen for. -/
theorem shortest_readsBackAs {significand : Nat} {exponent : Int}
    (inForm : Binary64.InForm (.finite false significand exponent)) (given : significand ≠ 0) :
    (shortest significand exponent).readsBackAs significand exponent := by
  unfold shortest
  dsimp only
  split
  · rename_i found
    exact (List.find?_some found :)
  · rw [readsBackAs, decide_eq_true_eq]
    exact Binary64.ofDecimal_of_inForm inForm given (ofBinary_value significand exponent)

end Decimal

namespace Binary64

private def signed (negative : Bool) : Binary64 → Binary64
  | .nan => .nan
  | .infinite _ => .infinite negative
  | .finite _ significand exponent => .finite negative significand exponent

private theorem ofFraction_signed (negative : Bool) (numerator denominator : Nat) :
    ofFraction negative numerator denominator =
      (ofFraction false numerator denominator).signed negative := by
  unfold ofFraction
  split
  · rfl
  · dsimp only
    split <;> split <;> rfl

private theorem ofDecimal_signed (negative : Bool) (digits : Nat) (power : Int) :
    ofDecimal negative digits power = (ofDecimal false digits power).signed negative := by
  unfold ofDecimal
  split
  · rfl
  split
  · rfl
  · exact ofFraction_signed negative _ _

/-- Decimals of the value of the chosen one are rounded to the number, whatever its sign is. -/
theorem ofDecimal_shortest {negative : Bool} {significand : Nat} {exponent : Int}
    (inForm : InForm (.finite negative significand exponent)) (given : significand ≠ 0)
    {digits : Nat} {power : Int}
    (equal : (digits : ℚ) * 10 ^ power = (Decimal.shortest significand exponent).value) :
    ofDecimal negative digits power = .finite negative significand exponent := by
  have rounded := Decimal.shortest_readsBackAs inForm given
  rw [Decimal.readsBackAs, decide_eq_true_eq] at rounded
  rw [ofDecimal_signed, ofDecimal_eq false equal, rounded, signed]

theorem shortest_digits {significand : Nat} {exponent : Int}
    (inForm : InForm (.finite false significand exponent)) (given : significand ≠ 0) :
    (Decimal.shortest significand exponent).digits ≠ 0 := by
  intro none
  have rounded := Decimal.shortest_readsBackAs inForm given
  rw [Decimal.readsBackAs, decide_eq_true_eq, none, ofDecimal, if_pos (.inl rfl), zero] at rounded
  exact given (Binary64.finite.inj rounded).2.1.symm

end Binary64

end BucketGuard
