import TradingAI.Lib.RelativeError
import TradingAI.Lib.Rounding
import Mathlib.Data.Int.Log

/-!
# `Lib.SignificantDigits` — a decimal context of finite precision

Decimal arithmetic rounds each result to a number of significant digits. Where a quotient is then quantized to
a few places, it has been rounded twice. The second rounding undoes the first if the denominator is small
enough: a quotient of such a denominator is either a middle between two places, and then has few digits, or
further from it than the first rounding moves it.

## Contents
- `toDigits`: half-even rounding to significant digits. `within_toDigits`: one relative error.
- `roundHalfEven_eq_of_near`: a small move changes no rounding away from the middles.
- `quantize_toDigits`: rounding twice is rounding once.
-/

namespace Rounding

/-- The unit of the last of `digits` significant digits of `x`. -/
def lastUnit (digits : ℕ) (x : ℚ) : ℚ := 10 ^ (Int.log 10 |x| + 1 - digits)

/-- `x` rounded half to even to `digits` significant digits. -/
def toDigits (digits : ℕ) (x : ℚ) : ℚ := roundHalfEven (x / lastUnit digits x) * lastUnit digits x

theorem lastUnit_pos (digits : ℕ) (x : ℚ) : 0 < lastUnit digits x := by
  exact zpow_pos (by norm_num) _

/-- What is a multiple of the last unit has no more digits. -/
theorem toDigits_of_multiple {digits : ℕ} {x : ℚ} {n : ℤ} (h : x / lastUnit digits x = n) :
    toDigits digits x = x := by
  unfold toDigits
  rw [h, roundHalfEven_fixes, ← h, div_mul_cancel₀ _ (lastUnit_pos digits x).ne']

/-- Rounding to digits moves by at most half of the last unit. -/
theorem abs_toDigits_sub_le (digits : ℕ) (x : ℚ) : |toDigits digits x - x| ≤ lastUnit digits x / 2 := by
  have hpos := lastUnit_pos digits x
  have hsplit : toDigits digits x - x =
      (roundHalfEven (x / lastUnit digits x) - x / lastUnit digits x) * lastUnit digits x := by
    unfold toDigits
    rw [sub_mul, div_mul_cancel₀ _ hpos.ne']
  rw [hsplit, abs_mul, abs_of_pos hpos]
  have := mul_le_mul_of_nonneg_right (roundHalfEven_near (x / lastUnit digits x)) hpos.le
  linarith

theorem toDigits_zero (digits : ℕ) : toDigits digits 0 = 0 :=
  toDigits_of_multiple (n := 0) (by rw [zero_div, Int.cast_zero])

theorem toDigits_neg (digits : ℕ) (x : ℚ) : toDigits digits (-x) = -toDigits digits x := by
  unfold toDigits lastUnit
  rw [abs_neg, neg_div, roundHalfEven_neg, Int.cast_neg, neg_mul]

/-! ## The relative error -/

/-- The factor that one rounding to digits stays under. -/
def digitsFactor (digits : ℕ) : ℚ := 1 + 10 / 10 ^ digits

theorem one_le_digitsFactor (digits : ℕ) : 1 ≤ digitsFactor digits := by
  unfold digitsFactor
  have : (0 : ℚ) ≤ 10 / 10 ^ digits := by positivity
  linarith

/-- The last unit in terms of the number. -/
theorem lastUnit_le_mul (digits : ℕ) {x : ℚ} (hx : x ≠ 0) : lastUnit digits x ≤ |x| * (10 / 10 ^ digits) := by
  have hlog : (10 : ℚ) ^ Int.log 10 |x| ≤ |x| := by
    exact_mod_cast Int.zpow_log_le_self (b := 10) (by norm_num) (abs_pos.mpr hx)
  have hunit : lastUnit digits x = 10 ^ Int.log 10 |x| * (10 / 10 ^ digits) := by
    unfold lastUnit
    rw [zpow_sub₀ (by norm_num), zpow_add₀ (by norm_num), zpow_one, zpow_natCast, mul_div_assoc]
  rw [hunit]
  exact mul_le_mul_of_nonneg_right hlog (by positivity)

/-- Rounding to digits moves by a part of the number. -/
theorem abs_toDigits_sub_le_mul (digits : ℕ) (x : ℚ) : |toDigits digits x - x| ≤ |x| * (10 / 10 ^ digits) / 2 := by
  by_cases hx : x = 0
  · rw [hx, toDigits_zero, sub_self, abs_zero, zero_mul, zero_div]
  · exact (abs_toDigits_sub_le digits x).trans (div_le_div_of_nonneg_right (lastUnit_le_mul digits hx) zero_le_two)

/-- **One rounding is one error.** -/
theorem within_toDigits {digits : ℕ} (hdigits : 0 < digits) {x : ℚ} (hx : 0 ≤ x) :
    Within (digitsFactor digits) 1 x (toDigits digits x) := by
  have hnear := abs_le.mp (abs_toDigits_sub_le_mul digits x)
  have hsmall : (10 : ℚ) / 10 ^ digits ≤ 1 := by
    rw [div_le_one (by positivity)]
    exact_mod_cast Nat.le_self_pow hdigits.ne' 10
  have hnonneg : (0 : ℚ) ≤ 10 / 10 ^ digits := by positivity
  rw [abs_of_nonneg hx] at hnear
  unfold digitsFactor
  generalize (10 : ℚ) / 10 ^ digits = δ at *
  have hmoved : 0 ≤ x * δ := mul_nonneg hx hnonneg
  constructor
  · -- half of an error less, times the factor, is at least the number
    have hback : 0 ≤ x * δ * (1 - δ) := mul_nonneg hmoved (sub_nonneg.mpr hsmall)
    rw [pow_one]
    nlinarith
  · rw [pow_one]
    linarith

theorem toDigits_pos {digits : ℕ} (hdigits : 0 < digits) {x : ℚ} (hx : 0 < x) : 0 < toDigits digits x :=
  (within_toDigits hdigits hx.le).pos (one_le_digitsFactor digits) hx

/-- Rounding to digits keeps the sign. -/
theorem toDigits_pos_iff {digits : ℕ} (hdigits : 0 < digits) {x : ℚ} : 0 < toDigits digits x ↔ 0 < x := by
  refine ⟨fun h => ?_, toDigits_pos hdigits⟩
  by_contra hnot
  rcases (not_lt.mp hnot).eq_or_lt with rfl | hneg
  · rw [toDigits_zero] at h
    exact lt_irrefl _ h
  · have hmirror := toDigits_pos hdigits (neg_pos.mpr hneg)
    rw [toDigits_neg] at hmirror
    linarith

theorem toDigits_neg_iff {digits : ℕ} (hdigits : 0 < digits) {x : ℚ} : toDigits digits x < 0 ↔ x < 0 := by
  rw [← neg_pos, ← toDigits_neg, toDigits_pos_iff hdigits, neg_pos]

/-! ## Rounding twice -/

/-- A number of at most 1 has a last unit of at most `10 ^ (1 - digits)`. -/
theorem log_nonpos {x : ℚ} (h : |x| ≤ 1) : Int.log 10 |x| ≤ 0 := by
  rw [Int.log_of_right_le_one 10 h]
  omega

theorem lastUnit_le {digits : ℕ} {x : ℚ} (h : |x| ≤ 1) : lastUnit digits x ≤ 10 / 10 ^ digits := by
  have hlog := log_nonpos h
  have hunit : (10 : ℚ) / 10 ^ digits = 10 ^ (1 - digits : ℤ) := by
    rw [zpow_sub₀ (by norm_num), zpow_one, zpow_natCast]
  rw [hunit]
  apply zpow_le_zpow_right₀ (by norm_num)
  omega

/-! ## Away from the middles -/

/-- A number that is nearer to `x` than every middle is rounds as `x` does. -/
theorem roundHalfEven_eq_of_near {x y : ℚ} (h : ∀ n : ℤ, |y - x| < |x - (n + 1 / 2)|) :
    roundHalfEven y = roundHalfEven x := by
  have hsame : ∀ n : ℤ, n < roundHalfEven y ↔ n < roundHalfEven x := by
    intro n
    have hnear := h n
    rw [lt_roundHalfEven_iff, lt_roundHalfEven_iff]
    rcases lt_trichotomy x (n + 1 / 2) with hlt | heq | hgt
    · -- both are under the middle above `n`
      rw [abs_of_neg (sub_neg.mpr hlt), abs_lt] at hnear
      refine iff_of_false ?_ ?_
      · rintro (hover | ⟨heq, -⟩) <;> linarith
      · rintro (hover | ⟨heq, -⟩) <;> linarith
    · rw [heq, sub_self, abs_zero] at hnear
      exact absurd hnear (abs_nonneg _).not_gt
    · rw [abs_of_pos (sub_pos.mpr hgt), abs_lt] at hnear
      exact iff_of_true (.inl (by linarith)) (.inl hgt)
  apply le_antisymm
  · exact le_of_not_gt fun hlt => lt_irrefl _ ((hsame _).mp hlt)
  · exact le_of_not_gt fun hlt => lt_irrefl _ ((hsame _).mpr hlt)

/-- A fraction is a middle, or off it by at least half of what its denominator counts. -/
theorem le_abs_sub_middle {a : ℤ} {b k : ℕ} (hb : 0 < b) (n : ℤ) (h : (a : ℚ) / b * 10 ^ k ≠ n + 1 / 2) :
    1 / (2 * b : ℚ) ≤ |(a : ℚ) / b * 10 ^ k - (n + 1 / 2)| := by
  have hpos : (0 : ℚ) < b := by exact_mod_cast hb
  have hsplit : (a : ℚ) / b * 10 ^ k - (n + 1 / 2) = (2 * a * 10 ^ k - (2 * n + 1) * b : ℤ) / (2 * b) := by
    push_cast
    field_simp
  have hnonzero : 2 * a * 10 ^ k - (2 * n + 1) * b ≠ 0 := by
    intro hzero
    rw [hzero, Int.cast_zero, zero_div, sub_eq_zero] at hsplit
    exact h hsplit
  have hone : (1 : ℚ) ≤ |((2 * a * 10 ^ k - (2 * n + 1) * b : ℤ) : ℚ)| := by
    exact_mod_cast Int.one_le_abs hnonzero
  rw [hsplit, abs_div, abs_of_pos (show (0 : ℚ) < 2 * b by linarith)]
  exact div_le_div_of_nonneg_right hone (by linarith)

/-- A middle between two numbers of `k` places has few digits. -/
theorem toDigits_of_middle {digits k : ℕ} {x : ℚ} {n : ℤ} (hx : |x| ≤ 1) (hdigits : k + 2 ≤ digits)
    (h : x * 10 ^ k = n + 1 / 2) : toDigits digits x = x := by
  have hlog := log_nonpos hx
  obtain ⟨m, hm⟩ := Int.eq_ofNat_of_zero_le (show 0 ≤ (digits : ℤ) - (k + 2) - Int.log 10 |x| by omega)
  apply toDigits_of_multiple (n := (2 * n + 1) * 5 * 10 ^ m)
  have hunit : lastUnit digits x = 1 / (10 ^ k * 10 * 10 ^ m) := by
    have hexponent : Int.log 10 |x| + 1 - digits = -((k + 1 + m : ℕ) : ℤ) := by
      push_cast
      omega
    unfold lastUnit
    rw [hexponent, zpow_neg, zpow_natCast, pow_add, pow_add, pow_one, one_div]
  rw [hunit, div_div_eq_mul_div, div_one, ← mul_assoc, ← mul_assoc, h]
  push_cast
  ring

/-- **Rounding twice is rounding once**: a fraction of a small denominator, rounded to digits and then to
    places, is the fraction rounded to places. -/
theorem quantize_toDigits {digits k : ℕ} {a : ℤ} {b : ℕ} (hb : 0 < b) (hdigits : b * 10 ^ (k + 1) < 10 ^ digits)
    (hle : |(a : ℚ) / b| ≤ 1) :
    halfEven.quantize k (toDigits digits (a / b)) = halfEven.quantize k (a / b) := by
  have hplaces : k + 2 ≤ digits := by
    have hlt : 10 ^ (k + 1) < 10 ^ digits := (Nat.le_mul_of_pos_left _ hb).trans_lt hdigits
    exact (Nat.pow_lt_pow_iff_right (by decide)).mp hlt
  by_cases hmiddle : ∃ n : ℤ, (a : ℚ) / b * 10 ^ k = n + 1 / 2
  · obtain ⟨n, hn⟩ := hmiddle
    rw [toDigits_of_middle hle hplaces hn]
  · unfold Mode.quantize
    congr 2
    apply roundHalfEven_eq_of_near
    intro n
    refine lt_of_lt_of_le ?_ (le_abs_sub_middle hb n fun h => hmiddle ⟨n, h⟩)
    have hmoved := (abs_toDigits_sub_le digits ((a : ℚ) / b)).trans
      (div_le_div_of_nonneg_right (lastUnit_le hle) (by norm_num))
    have hpow : (0 : ℚ) < 10 ^ k := by positivity
    have hbpos : (0 : ℚ) < b := by exact_mod_cast hb
    rw [← sub_mul, abs_mul, abs_of_pos hpow]
    refine lt_of_le_of_lt (mul_le_mul_of_nonneg_right hmoved hpow.le) ?_
    have hcast : (b : ℚ) * 10 ^ (k + 1) < 10 ^ digits := by exact_mod_cast hdigits
    rw [div_div, div_mul_eq_mul_div, div_lt_div_iff₀ (by positivity) (by positivity)]
    rw [pow_succ] at hcast
    nlinarith [hcast]

end Rounding
