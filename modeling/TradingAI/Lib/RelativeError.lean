import Mathlib.Algebra.BigOperators.Group.List.Basic
import Mathlib.Algebra.Order.BigOperators.Group.List
import Mathlib.Algebra.Order.Field.Basic
import Mathlib.Tactic.Linarith
import Mathlib.Tactic.Ring

/-!
# `Lib.RelativeError` — values that are a few rounding errors apart

Two values that are not negative are *within `k` errors* if neither is more than the other times `ρ ^ k`, where
`ρ` is the factor that one rounding may move a value by. The relation goes both ways, so it passes through a
quotient: the errors of the numerator and of the denominator add up. A sum has the errors of its worst term.

## Contents
- `Within`: the relation, its order and its algebra.
- `Within.sum`: rounding every term of a sum, and every addition.
- `Within.abs_sub_le`: the distance of the two values.
-/

namespace Rounding

variable {α : Type} [Field α] [LinearOrder α] [IsStrictOrderedRing α]

/-- Neither value is more than the other times `ρ ^ k`. -/
structure Within (ρ : α) (k : ℕ) (x y : α) : Prop where
  le : x ≤ y * ρ ^ k
  ge : y ≤ x * ρ ^ k

variable {ρ x y z x' y' : α} {j k : ℕ}

namespace Within

theorem refl (hρ : 1 ≤ ρ) (hx : 0 ≤ x) : Within ρ k x x :=
  ⟨le_mul_of_one_le_right hx (one_le_pow₀ hρ), le_mul_of_one_le_right hx (one_le_pow₀ hρ)⟩

theorem mono (h : Within ρ j x y) (hρ : 1 ≤ ρ) (hx : 0 ≤ x) (hy : 0 ≤ y) (hjk : j ≤ k) : Within ρ k x y := by
  have hpow : ρ ^ j ≤ ρ ^ k := pow_le_pow_right₀ hρ hjk
  exact ⟨h.le.trans (mul_le_mul_of_nonneg_left hpow hy), h.ge.trans (mul_le_mul_of_nonneg_left hpow hx)⟩

theorem trans (h : Within ρ j x y) (h' : Within ρ k y z) (hρ : 1 ≤ ρ) : Within ρ (j + k) x z := by
  have hj : 0 ≤ ρ ^ j := pow_nonneg (zero_le_one.trans hρ) j
  have hk : 0 ≤ ρ ^ k := pow_nonneg (zero_le_one.trans hρ) k
  constructor
  · calc x ≤ y * ρ ^ j := h.le
      _ ≤ z * ρ ^ k * ρ ^ j := mul_le_mul_of_nonneg_right h'.le hj
      _ = z * ρ ^ (j + k) := by rw [pow_add]; ring
  · calc z ≤ y * ρ ^ k := h'.ge
      _ ≤ x * ρ ^ j * ρ ^ k := mul_le_mul_of_nonneg_right h.ge hk
      _ = x * ρ ^ (j + k) := by rw [pow_add]; ring

theorem add (h : Within ρ k x y) (h' : Within ρ k x' y') : Within ρ k (x + x') (y + y') := by
  constructor
  · rw [add_mul]
    exact add_le_add h.le h'.le
  · rw [add_mul]
    exact add_le_add h.ge h'.ge

/-- One side of a quotient. -/
theorem div_le (hle : x ≤ y * ρ ^ j) (hge : y' ≤ x' * ρ ^ k) (hρ : 1 ≤ ρ) (hy : 0 ≤ y) (hx' : 0 < x')
    (hy' : 0 < y') : x / x' ≤ y / y' * ρ ^ (j + k) := by
  have hpos : 0 ≤ y * ρ ^ j := mul_nonneg hy (pow_nonneg (zero_le_one.trans hρ) j)
  rw [div_mul_eq_mul_div, div_le_div_iff₀ hx' hy']
  calc x * y' ≤ y * ρ ^ j * y' := mul_le_mul_of_nonneg_right hle hy'.le
    _ ≤ y * ρ ^ j * (x' * ρ ^ k) := mul_le_mul_of_nonneg_left hge hpos
    _ = y * ρ ^ (j + k) * x' := by rw [pow_add]; ring

/-- **The errors of a quotient** are those of its two parts. -/
theorem div (h : Within ρ j x y) (h' : Within ρ k x' y') (hρ : 1 ≤ ρ) (hx : 0 ≤ x) (hy : 0 ≤ y) (hx' : 0 < x')
    (hy' : 0 < y') : Within ρ (j + k) (x / x') (y / y') :=
  ⟨div_le h.le h'.ge hρ hy hx' hy', div_le h.ge h'.le hρ hx hy' hx'⟩

/-- A value within some errors of a positive one is positive. -/
theorem pos (h : Within ρ k x y) (hρ : 1 ≤ ρ) (hx : 0 < x) : 0 < y := by
  have hpow : 0 < ρ ^ k := pow_pos (zero_lt_one.trans_le hρ) k
  exact (mul_pos_iff_of_pos_right hpow).mp (hx.trans_le h.le)

theorem nonneg (h : Within ρ k x y) (hρ : 1 ≤ ρ) (hx : 0 ≤ x) : 0 ≤ y := by
  have hpow : 0 < ρ ^ k := pow_pos (zero_lt_one.trans_le hρ) k
  exact (mul_nonneg_iff_of_pos_right hpow).mp (hx.trans h.le)

theorem abs_sub_le (h : Within ρ k x y) (hρ : 1 ≤ ρ) (hx : 0 ≤ x) : |y - x| ≤ x * (ρ ^ k - 1) := by
  have hpow : 1 ≤ ρ ^ k := one_le_pow₀ hρ
  rw [abs_sub_le_iff]
  constructor
  · linarith [h.ge]
  · -- `x` is at most `y` times the factor, and `y` is at most `x` times it
    by_cases hyx : y ≤ x
    · have hmoved : y * (ρ ^ k - 1) ≤ x * (ρ ^ k - 1) := mul_le_mul_of_nonneg_right hyx (by linarith)
      linarith [h.le]
    · have hnonneg : 0 ≤ x * (ρ ^ k - 1) := mul_nonneg hx (by linarith)
      linarith

/-! ## Sums -/

section
variable {round : α → α}

/-- The step of a rounded sum: two partial sums, and one more term. -/
theorem foldl (hρ : 1 ≤ ρ) (hround : ∀ x, 0 ≤ x → Within ρ 1 x (round x)) (xs : List α) (hxs : ∀ x ∈ xs, 0 ≤ x)
    {total total' : α} (h : Within ρ (k + 1) total total') (htotal : 0 ≤ total) :
    Within ρ (k + xs.length + 1) (total + xs.sum)
      ((xs.map round).foldl (fun total x => round (total + x)) total') := by
  induction xs generalizing k total total' with
  | nil => simpa using h
  | cons x xs ih =>
      have hx : 0 ≤ x := hxs x List.mem_cons_self
      have hterm : Within ρ (k + 1) x (round x) :=
        (hround x hx).mono hρ hx ((hround x hx).nonneg hρ hx) (by omega)
      have hadded : Within ρ (k + 1) (total + x) (total' + round x) := h.add hterm
      have hsum : 0 ≤ total + x := add_nonneg htotal hx
      have hrounded := hadded.trans (hround _ (hadded.nonneg hρ hsum)) hρ
      have htail := ih (fun y hy => hxs y (List.mem_cons_of_mem _ hy)) hrounded hsum
      have hcount : k + (x :: xs).length + 1 = k + 1 + xs.length + 1 := by rw [List.length_cons]; omega
      rw [List.sum_cons, ← add_assoc, hcount]
      exact htail

/-- **A rounded sum** of rounded terms: one error for each addition, and one for the terms. -/
theorem sum (hρ : 1 ≤ ρ) (hround : ∀ x, 0 ≤ x → Within ρ 1 x (round x)) {xs : List α} (hxs : ∀ x ∈ xs, 0 ≤ x) :
    Within ρ (xs.length + 1) xs.sum ((xs.map round).foldl (fun total x => round (total + x)) 0) := by
  have h := foldl (k := 0) hρ hround xs hxs (refl hρ le_rfl) le_rfl
  rwa [zero_add, zero_add] at h

end

end Within

end Rounding
