import Mathlib.Algebra.Order.Floor.Ring
import Mathlib.Algebra.Order.Archimedean.Basic
import Mathlib.Data.Rat.Floor
import Mathlib.Tactic.Linarith
import Mathlib.Tactic.Ring
import Mathlib.Tactic.FieldSimp
import Mathlib.Tactic.Positivity
import Mathlib.Tactic.NormNum

/-!
# `Lib.Rounding` — decimal places on exact rationals

A decimal number is an exact rational; what a program calls *quantizing* is a **rounding mode** applied
after scaling by a power of ten. A mode carries its own laws (it fixes integers, it moves a number by at
most one half), so every fact about quantizing below holds for half-even and half-away alike.

## Contents
- `Mode`, with the two modes `halfEven` and `halfAway`.
- `truncate x`: the integer part of `x`, towards zero.
- `OnGrid k x`: `x` has at most `k` decimal places. `ceilTo k x` is the next such number upwards.
- `Mode.quantize m k x`: `x` rounded to `k` decimal places. It lands on the grid, fixes it, and never moves
  a number by more than half a unit of it.
-/

namespace Rounding

/-- A rounding mode to integers: it fixes every integer and moves a number by at most one half. -/
structure Mode where
  toInt : ℚ → ℤ
  fixes : ∀ n : ℤ, toInt n = n
  near  : ∀ x : ℚ, |(toInt x : ℚ) - x| ≤ 1 / 2

/-! ## The two modes -/

/-- The nearest integer, ties to the even one. -/
def roundHalfEven (x : ℚ) : ℤ :=
  if x - ⌊x⌋ < 1 / 2 then ⌊x⌋
  else if 1 / 2 < x - ⌊x⌋ then ⌊x⌋ + 1
  else if ⌊x⌋ % 2 = 0 then ⌊x⌋
  else ⌊x⌋ + 1

/-- The nearest integer, ties away from zero. -/
def roundHalfAway (x : ℚ) : ℤ :=
  if 0 ≤ x then ⌊x + 1 / 2⌋ else -⌊-x + 1 / 2⌋

theorem roundHalfEven_fixes (n : ℤ) : roundHalfEven n = n := by
  simp [roundHalfEven]

theorem roundHalfEven_near (x : ℚ) : |(roundHalfEven x : ℚ) - x| ≤ 1 / 2 := by
  have hlo : (⌊x⌋ : ℚ) ≤ x := Int.floor_le x
  have hhi : x < ⌊x⌋ + 1 := Int.lt_floor_add_one x
  unfold roundHalfEven
  split_ifs with h1 h2 h3
  · rw [abs_le]; constructor <;> linarith
  · push_cast; rw [abs_le]; constructor <;> linarith
  · rw [abs_le]; constructor <;> linarith
  · push_cast; rw [abs_le]; constructor <;> linarith

/-- What rounds to more than `n`: what is over the middle between `n` and `n + 1`, and the middle itself if
    it goes up. -/
theorem lt_roundHalfEven_iff {n : ℤ} {x : ℚ} :
    n < roundHalfEven x ↔ (n : ℚ) + 1 / 2 < x ∨ x = n + 1 / 2 ∧ n % 2 = 1 := by
  have hlo : (⌊x⌋ : ℚ) ≤ x := Int.floor_le x
  have hhi : x < ⌊x⌋ + 1 := Int.lt_floor_add_one x
  rcases lt_trichotomy n ⌊x⌋ with hn | rfl | hn
  · -- the middle above `n` is below the floor, and `x` rounds to its floor at least
    have hcast : (n : ℚ) + 1 ≤ ⌊x⌋ := by exact_mod_cast hn
    have hround : ⌊x⌋ ≤ roundHalfEven x := by
      unfold roundHalfEven
      split_ifs <;> omega
    exact iff_of_true (hn.trans_le hround) (.inl (by linarith))
  · unfold roundHalfEven
    split_ifs with h₁ h₂ h₃
    · refine iff_of_false (lt_irrefl _) ?_
      rintro (h | ⟨h, -⟩) <;> linarith
    · exact iff_of_true (by omega) (.inl (by linarith))
    · refine iff_of_false (lt_irrefl _) ?_
      rintro (h | ⟨-, h⟩)
      · linarith
      · omega
    · exact iff_of_true (by omega) (.inr ⟨by linarith, by omega⟩)
  · have hcast : (⌊x⌋ : ℚ) + 1 ≤ n := by exact_mod_cast hn
    have hround : roundHalfEven x ≤ ⌊x⌋ + 1 := by
      unfold roundHalfEven
      split_ifs <;> omega
    refine iff_of_false (by omega) ?_
    rintro (h | ⟨h, -⟩) <;> linarith

/-- What rounds to less than `n`. -/
theorem roundHalfEven_lt_iff {n : ℤ} {x : ℚ} :
    roundHalfEven x < n ↔ x < (n : ℚ) - 1 / 2 ∨ x = n - 1 / 2 ∧ n % 2 = 1 := by
  have hnot : roundHalfEven x < n ↔ ¬ n - 1 < roundHalfEven x := by omega
  have hmiddle : ((n - 1 : ℤ) : ℚ) + 1 / 2 = n - 1 / 2 := by push_cast; ring
  rw [hnot, lt_roundHalfEven_iff, hmiddle]
  constructor
  · intro h
    rw [not_or, not_lt] at h
    rcases h.1.lt_or_eq with hlt | heq
    · exact .inl hlt
    · exact .inr ⟨heq, by have := mt (And.intro heq) h.2; omega⟩
  · rintro (h | ⟨h, hodd⟩) (h' | ⟨h', hodd'⟩)
    · linarith
    · linarith
    · linarith
    · omega

/-- What rounds to `n`: what is nearer to it than to its neighbours, and the middles if `n` is even. -/
theorem roundHalfEven_eq_iff {n : ℤ} {x : ℚ} :
    roundHalfEven x = n ↔ |x - n| < 1 / 2 ∨ |x - n| = 1 / 2 ∧ n % 2 = 0 := by
  have hsides : roundHalfEven x = n ↔ ¬ n < roundHalfEven x ∧ ¬ roundHalfEven x < n := by omega
  rw [hsides, lt_roundHalfEven_iff, roundHalfEven_lt_iff]
  constructor
  · rintro ⟨hover, hunder⟩
    rw [not_or] at hover hunder
    have hle : |x - n| ≤ 1 / 2 := abs_le.mpr ⟨by linarith, by linarith⟩
    rcases hle.lt_or_eq with hlt | heq
    · exact .inl hlt
    · refine .inr ⟨heq, ?_⟩
      by_contra hodd
      have hodd : n % 2 = 1 := by omega
      rcases eq_or_eq_neg_of_abs_eq heq with h | h
      · exact hover.2 ⟨by linarith, hodd⟩
      · exact hunder.2 ⟨by linarith, hodd⟩
  · rintro (hnear | ⟨hmiddle, heven⟩)
    · rw [abs_lt] at hnear
      constructor
      · rintro (h | ⟨h, -⟩) <;> linarith
      · rintro (h | ⟨h, -⟩) <;> linarith
    · have hle := abs_le.mp hmiddle.le
      constructor
      · rintro (h | ⟨-, hodd⟩)
        · linarith
        · omega
      · rintro (h | ⟨-, hodd⟩)
        · linarith
        · omega

theorem roundHalfEven_neg (x : ℚ) : roundHalfEven (-x) = -roundHalfEven x := by
  have h := roundHalfEven_eq_iff.mp (rfl : roundHalfEven x = roundHalfEven x)
  have hmirror : |-x - ((-roundHalfEven x : ℤ) : ℚ)| = |x - roundHalfEven x| := by
    rw [Int.cast_neg, ← abs_neg]
    ring_nf
  rw [roundHalfEven_eq_iff, hmirror]
  exact h.imp_right fun h => ⟨h.1, by omega⟩

/-- What rounds over an integer does so for every greater number. -/
theorem roundHalfEven_mono {x y : ℚ} (h : x ≤ y) : roundHalfEven x ≤ roundHalfEven y := by
  by_contra hlt
  rw [not_le, lt_roundHalfEven_iff] at hlt
  apply lt_irrefl (roundHalfEven y)
  rw [lt_roundHalfEven_iff]
  rcases hlt with hover | ⟨hmiddle, hodd⟩
  · exact .inl (hover.trans_le h)
  · rcases h.lt_or_eq with hxy | rfl
    · exact .inl (hmiddle ▸ hxy)
    · exact .inr ⟨hmiddle, hodd⟩

/-- The floor of an integer plus one half is the integer. -/
theorem floor_intCast_add_half (n : ℤ) : ⌊(n : ℚ) + 1 / 2⌋ = n := by
  rw [Int.floor_eq_iff]; constructor <;> linarith

theorem roundHalfAway_fixes (n : ℤ) : roundHalfAway n = n := by
  unfold roundHalfAway
  split_ifs with h
  · exact floor_intCast_add_half n
  · have hneg : ⌊-(n : ℚ) + 1 / 2⌋ = -n := by
      have := floor_intCast_add_half (-n)
      rwa [Int.cast_neg] at this
    rw [hneg, neg_neg]

theorem roundHalfAway_near (x : ℚ) : |(roundHalfAway x : ℚ) - x| ≤ 1 / 2 := by
  unfold roundHalfAway
  split_ifs with h
  · have hlo := Int.floor_le (x + 1 / 2)
    have hhi := Int.lt_floor_add_one (x + 1 / 2)
    rw [abs_le]; constructor <;> linarith
  · have hlo := Int.floor_le (-x + 1 / 2)
    have hhi := Int.lt_floor_add_one (-x + 1 / 2)
    push_cast
    rw [abs_le]; constructor <;> linarith

/-- What rounds to more than zero: one half does. -/
theorem roundHalfAway_pos_iff {x : ℚ} : 0 < roundHalfAway x ↔ 1 / 2 ≤ x := by
  unfold roundHalfAway
  split_ifs with h
  · rw [Int.floor_pos]
    constructor <;> intro hx <;> linarith
  · have hfloor : 0 ≤ ⌊-x + 1 / 2⌋ := Int.floor_nonneg.mpr (by linarith)
    exact iff_of_false (by omega) (by linarith)

/-- Ties to even. -/
def halfEven : Mode := ⟨roundHalfEven, roundHalfEven_fixes, roundHalfEven_near⟩

/-- Ties away from zero. -/
def halfAway : Mode := ⟨roundHalfAway, roundHalfAway_fixes, roundHalfAway_near⟩

/-! ## Truncation -/

variable {x : ℚ}

/-- The integer part, towards zero. -/
def truncate (x : ℚ) : ℤ := if 0 ≤ x then ⌊x⌋ else ⌈x⌉

theorem truncate_of_nonneg (h : 0 ≤ x) : truncate x = ⌊x⌋ := if_pos h

theorem truncate_of_neg (h : x < 0) : truncate x = -⌊-x⌋ := by
  rw [truncate, if_neg (not_le.mpr h), Int.floor_neg, neg_neg]

/-- The integer part is the integer between zero and `x` that is less than one from `x`. -/
theorem eq_truncate_iff {n : ℤ} :
    n = truncate x ↔ (0 < n → (n : ℚ) ≤ x) ∧ (n < 0 → x ≤ n) ∧ |x - n| < 1 := by
  rcases le_or_gt 0 x with hx | hx
  · rw [truncate_of_nonneg hx]
    have hfloor : 0 ≤ ⌊x⌋ := Int.floor_nonneg.mpr hx
    have hlo := Int.floor_le x
    have hhi := Int.lt_floor_add_one x
    constructor
    · rintro rfl
      refine ⟨fun _ => hlo, fun hneg => absurd hneg (not_lt.mpr hfloor), ?_⟩
      rw [abs_of_nonneg (sub_nonneg.mpr hlo)]
      linarith
    · rintro ⟨hpos, hneg, hnear⟩
      rw [abs_lt] at hnear
      apply Eq.symm
      rw [Int.floor_eq_iff]
      refine ⟨?_, by linarith⟩
      -- a negative `n` would have `x` below it, and zero is below `x`
      rcases lt_trichotomy n 0 with h | rfl | h
      · have hlt : (n : ℚ) < 0 := by exact_mod_cast h
        linarith
      · rw [Int.cast_zero]
        exact hx
      · exact hpos h
  · rw [truncate_of_neg hx]
    have hfloor : 0 ≤ ⌊-x⌋ := Int.floor_nonneg.mpr (by linarith)
    have hlo := Int.floor_le (-x)
    have hhi := Int.lt_floor_add_one (-x)
    constructor
    · rintro rfl
      push_cast
      refine ⟨fun hpos => absurd hpos (by omega), fun _ => by linarith, ?_⟩
      rw [abs_lt]
      constructor <;> linarith
    · rintro ⟨hpos, hneg, hnear⟩
      rw [abs_lt] at hnear
      have hle : x ≤ n := by
        rcases lt_trichotomy n 0 with h | rfl | h
        · exact hneg h
        · rw [Int.cast_zero]
          exact hx.le
        · have hlt : (0 : ℚ) < n := by exact_mod_cast h
          linarith [hpos h]
      have hval : ⌊-x⌋ = -n := by
        rw [Int.floor_eq_iff]
        push_cast
        constructor <;> linarith
      omega

theorem abs_truncate_le (x : ℚ) : |(truncate x : ℚ)| ≤ |x| := by
  rcases le_or_gt 0 x with hx | hx
  · have hfloor : (0 : ℚ) ≤ ⌊x⌋ := by exact_mod_cast Int.floor_nonneg.mpr hx
    rw [truncate_of_nonneg hx, abs_of_nonneg hfloor, abs_of_nonneg hx]
    exact Int.floor_le x
  · have hfloor : (0 : ℚ) ≤ ⌊-x⌋ := by exact_mod_cast Int.floor_nonneg.mpr (neg_nonneg.mpr hx.le)
    rw [truncate_of_neg hx, Int.cast_neg, abs_neg, abs_of_nonneg hfloor, abs_of_neg hx]
    exact Int.floor_le (-x)

/-- Truncating a number moves it towards zero, so not below a number that is not above either. -/
theorem le_truncate {b : ℚ} (hb : b ≤ 0) (h : b ≤ x) : b ≤ truncate x := by
  rcases le_or_gt 0 x with hx | hx
  · rw [truncate_of_nonneg hx]
    exact hb.trans (by exact_mod_cast Int.floor_nonneg.mpr hx)
  · rw [truncate, if_neg (not_le.mpr hx)]
    exact h.trans (Int.le_ceil x)

/-! ## The decimal grid -/

/-- `x` has at most `k` decimal places. -/
def OnGrid (k : ℕ) (x : ℚ) : Prop := ∃ n : ℤ, x * 10 ^ k = n

/-- Being on the grid is decided by the scaled number's denominator. -/
theorem onGrid_iff_den {k : ℕ} {x : ℚ} : OnGrid k x ↔ (x * 10 ^ k).den = 1 := by
  constructor
  · rintro ⟨n, hn⟩; rw [hn]; exact Rat.den_intCast n
  · intro h; exact ⟨(x * 10 ^ k).num, (Rat.den_eq_one_iff _).mp h |>.symm⟩

instance (k : ℕ) (x : ℚ) : Decidable (OnGrid k x) := decidable_of_iff _ onGrid_iff_den.symm

variable {k : ℕ} {y : ℚ}

theorem OnGrid.zero : OnGrid k 0 := ⟨0, by simp⟩

theorem OnGrid.add (hx : OnGrid k x) (hy : OnGrid k y) : OnGrid k (x + y) := by
  obtain ⟨n, hn⟩ := hx
  obtain ⟨m, hm⟩ := hy
  exact ⟨n + m, by rw [add_mul, hn, hm]; push_cast; rfl⟩

theorem OnGrid.neg (hx : OnGrid k x) : OnGrid k (-x) := by
  obtain ⟨n, hn⟩ := hx
  exact ⟨-n, by rw [neg_mul, hn]; push_cast; rfl⟩

theorem OnGrid.sub (hx : OnGrid k x) (hy : OnGrid k y) : OnGrid k (x - y) := by
  rw [sub_eq_add_neg]; exact hx.add hy.neg

theorem OnGrid.sum {l : List ℚ} (h : ∀ x ∈ l, OnGrid k x) : OnGrid k l.sum := by
  induction l with
  | nil => exact OnGrid.zero
  | cons a l ih =>
      rw [List.sum_cons]
      exact (h a (by simp)).add (ih fun x hx => h x (by simp [hx]))

/-! ## Rounding up -/

/-- The least number with `k` decimal places that is at least `x`. -/
def ceilTo (k : ℕ) (x : ℚ) : ℚ := ⌈x * 10 ^ k⌉ / 10 ^ k

theorem ceilTo_onGrid (k : ℕ) (x : ℚ) : OnGrid k (ceilTo k x) :=
  ⟨⌈x * 10 ^ k⌉, by unfold ceilTo; field_simp⟩

theorem le_ceilTo (k : ℕ) (x : ℚ) : x ≤ ceilTo k x := by
  unfold ceilTo
  rw [le_div_iff₀ (by positivity)]
  exact Int.le_ceil _

theorem ceilTo_le_of_onGrid (hy : OnGrid k y) (h : x ≤ y) : ceilTo k x ≤ y := by
  have hpos : (0 : ℚ) < 10 ^ k := by positivity
  obtain ⟨n, hn⟩ := hy
  have hle : x * 10 ^ k ≤ n := by rw [← hn]; exact mul_le_mul_of_nonneg_right h hpos.le
  have hint : ⌈x * 10 ^ k⌉ ≤ n := Int.ceil_le.mpr hle
  unfold ceilTo
  rw [div_le_iff₀ hpos, hn]
  exact_mod_cast hint

theorem ceilTo_mono (h : x ≤ y) : ceilTo k x ≤ ceilTo k y :=
  ceilTo_le_of_onGrid (ceilTo_onGrid k y) (h.trans (le_ceilTo k y))

@[simp] theorem ceilTo_zero : ceilTo k 0 = 0 := by simp [ceilTo]

/-! ## Quantizing -/

namespace Mode

variable (m : Mode)

/-- `x` rounded to `k` decimal places. -/
def quantize (k : ℕ) (x : ℚ) : ℚ := m.toInt (x * 10 ^ k) / 10 ^ k

theorem quantize_onGrid (k : ℕ) (x : ℚ) : OnGrid k (m.quantize k x) :=
  ⟨m.toInt (x * 10 ^ k), by unfold quantize; field_simp⟩

theorem quantize_of_onGrid (h : OnGrid k x) : m.quantize k x = x := by
  obtain ⟨n, hn⟩ := h
  unfold quantize
  rw [hn, m.fixes, ← hn]
  field_simp

/-- Quantizing moves a number by at most half a unit of the grid. -/
theorem abs_quantize_sub_le (k : ℕ) (x : ℚ) : |m.quantize k x - x| ≤ 1 / 2 / 10 ^ k := by
  have hpos : (0 : ℚ) < 10 ^ k := by positivity
  have hsplit : m.quantize k x - x = (m.toInt (x * 10 ^ k) - x * 10 ^ k) / 10 ^ k := by
    unfold quantize; field_simp
  rw [hsplit, abs_div, abs_of_pos hpos]
  exact div_le_div_of_nonneg_right (m.near _) hpos.le

/-- A grid number above `x` is above the quantized `x`. -/
theorem quantize_le_of_onGrid (hy : OnGrid k y) (h : x ≤ y) : m.quantize k x ≤ y := by
  have hpos : (0 : ℚ) < 10 ^ k := by positivity
  obtain ⟨n, hn⟩ := hy
  have hnear := (abs_le.mp (m.near (x * 10 ^ k))).2
  have hle : x * 10 ^ k ≤ n := by rw [← hn]; exact mul_le_mul_of_nonneg_right h hpos.le
  -- the rounded integer exceeds `n` by at most one half, hence not at all
  have hint : m.toInt (x * 10 ^ k) ≤ n := by
    have hlt : (m.toInt (x * 10 ^ k) : ℚ) < n + 1 := by linarith
    exact_mod_cast Int.lt_add_one_iff.mp (by exact_mod_cast hlt)
  unfold quantize
  rw [div_le_iff₀ hpos, hn]
  exact_mod_cast hint

/-- A grid number below `x` is below the quantized `x`. -/
theorem le_quantize_of_onGrid (hy : OnGrid k y) (h : y ≤ x) : y ≤ m.quantize k x := by
  have hpos : (0 : ℚ) < 10 ^ k := by positivity
  obtain ⟨n, hn⟩ := hy
  have hnear := (abs_le.mp (m.near (x * 10 ^ k))).1
  have hle : (n : ℚ) ≤ x * 10 ^ k := by rw [← hn]; exact mul_le_mul_of_nonneg_right h hpos.le
  have hint : n ≤ m.toInt (x * 10 ^ k) := by
    have hlt : (n : ℚ) < m.toInt (x * 10 ^ k) + 1 := by linarith
    exact Int.lt_add_one_iff.mp (by exact_mod_cast hlt)
  unfold quantize
  rw [le_div_iff₀ hpos, hn]
  exact_mod_cast hint

/-- What rounds to more than `y`, at `k` places and half to even. -/
theorem lt_quantize_halfEven_iff (k : ℕ) (x y : ℚ) :
    y < halfEven.quantize k x ↔ ⌊y * 10 ^ k⌋ < roundHalfEven (x * 10 ^ k) := by
  rw [quantize, lt_div_iff₀ (by positivity), Int.floor_lt]
  rfl

theorem quantize_halfEven_lt_iff (k : ℕ) (x y : ℚ) :
    halfEven.quantize k x < y ↔ roundHalfEven (x * 10 ^ k) < ⌈y * 10 ^ k⌉ := by
  rw [quantize, div_lt_iff₀ (by positivity), Int.lt_ceil]
  rfl

/-- Half to even, quantizing keeps the order. -/
theorem quantize_halfEven_mono (k : ℕ) (h : x ≤ y) : halfEven.quantize k x ≤ halfEven.quantize k y := by
  have hpos : (0 : ℚ) < 10 ^ k := by positivity
  have hround := roundHalfEven_mono (mul_le_mul_of_nonneg_right h hpos.le)
  exact div_le_div_of_nonneg_right (by exact_mod_cast hround) hpos.le

/-- Half away from zero, what is kept of a number is positive from half a unit on. -/
theorem quantize_halfAway_pos_iff (k : ℕ) : 0 < halfAway.quantize k x ↔ 1 / 2 / 10 ^ k ≤ x := by
  have hpos : (0 : ℚ) < 10 ^ k := by positivity
  have hdiv : 0 < halfAway.quantize k x ↔ 0 < roundHalfAway (x * 10 ^ k) := by
    unfold quantize
    rw [div_pos_iff_of_pos_right hpos]
    exact Int.cast_pos
  rw [hdiv, roundHalfAway_pos_iff, div_le_iff₀ hpos]

theorem quantize_le_ceilTo (k : ℕ) (x : ℚ) : m.quantize k x ≤ ceilTo k x :=
  m.quantize_le_of_onGrid (ceilTo_onGrid k x) (le_ceilTo k x)

theorem quantize_nonneg (h : 0 ≤ x) : 0 ≤ m.quantize k x :=
  m.le_quantize_of_onGrid OnGrid.zero h

end Mode

end Rounding
