import TradingAI.Execution.Metrics
import TradingAI.Lib.RunningPeak
import TradingAI.Lib.SignificantDigits

/-!
# `Correctness.Drawdown` — the maximal drawdown is the deepest fall

`_max_drawdown` keeps a running peak and rounds at each value. Rounding keeps the order and a fall from a
higher peak is deeper, so the loop is the pass of `Lib.RunningPeak`.
-/

namespace TradingAI

open Rounding RunningPeak

namespace BasicMetricCalculator

/-- The fall from `peak` to `value`, to eight places. -/
def roundedFall (peak value : ℚ) : ℚ := quantize8 ((value - peak) / peak)

/-- The falls between the values of a portfolio, from a positive one to itself or to a later one. -/
abbrev portfolioFalls (values : List ℚ) : Set ℚ := falls (0 < ·) roundedFall values

/-- From a higher peak the fall is deeper. -/
theorem roundedFall_antitone {peak higher value : ℚ} (hpeak : 0 < peak) (hle : peak ≤ higher) (hvalue : 0 ≤ value) :
    roundedFall higher value ≤ roundedFall peak value := by
  apply Mode.quantize_halfEven_mono
  have hhigher : 0 < higher := hpeak.trans_le hle
  rw [sub_div, sub_div, div_self hhigher.ne', div_self hpeak.ne']
  exact sub_le_sub_right (div_le_div_of_nonneg_left hvalue hpeak hle) 1

theorem roundedFall_self {value : ℚ} : roundedFall value value = 0 := by
  unfold roundedFall
  rw [sub_self, zero_div]
  exact halfEven.quantize_of_onGrid OnGrid.zero

/-- Nothing falls by more than the whole. -/
theorem neg_one_le_roundedFall {peak value : ℚ} (hpeak : 0 < peak) (hvalue : 0 ≤ value) :
    -1 ≤ roundedFall peak value := by
  apply halfEven.le_quantize_of_onGrid (show OnGrid 8 (-1) from ⟨-10 ^ 8, by norm_num⟩)
  rw [le_div_iff₀ hpeak]
  linarith

/-- One value of the loop, once there is a positive peak. -/
theorem drawdownStep_some {acc : ℚ × ℚ} (hpeak : 0 < acc.1) (v : ℚ) :
    drawdownStep (some acc.1, acc.2) v = (some (step roundedFall acc v).1, (step roundedFall acc v).2) := by
  have hmax : (if acc.1 < v then v else acc.1) = max acc.1 v := (max_def_lt acc.1 v).symm
  unfold drawdownStep step roundedFall
  simp only [hmax]
  rw [if_pos (lt_max_of_lt_left hpeak)]

/-- The loop over the other values is the pass with the running peak. -/
theorem foldl_drawdownStep (rest : List ℚ) (acc : ℚ × ℚ) (hpeak : 0 < acc.1) :
    rest.foldl drawdownStep (some acc.1, acc.2) =
      (some (rest.foldl (step roundedFall) acc).1, (rest.foldl (step roundedFall) acc).2) := by
  -- by induction on the values; the peak stays positive
  induction rest generalizing acc with
  | nil => rfl
  | cons v rest ih =>
      rw [List.foldl_cons, List.foldl_cons, drawdownStep_some hpeak]
      exact ih _ (lt_max_of_lt_left hpeak)

theorem maxDrawdown_eq {first : ℚ} (hfirst : 0 < first) (rest : List ℚ) :
    maxDrawdown (first :: rest) = (run roundedFall first rest).2 := by
  have hstep : drawdownStep (none, 0) first = (some first, roundedFall first first) := by
    show (if 0 < first then (some first, min 0 (roundedFall first first)) else _) = _
    rw [if_pos hfirst, roundedFall_self, min_self]
  unfold maxDrawdown run
  rw [List.foldl_cons, hstep]
  exact congrArg Prod.snd (foldl_drawdownStep rest (first, roundedFall first first) hfirst)

/-- A longer history has no lesser drawdown. -/
theorem maxDrawdown_append_le (values more : List ℚ) : maxDrawdown (values ++ more) ≤ maxDrawdown values := by
  induction more using List.reverseRecOn with
  | nil => rw [List.append_nil]
  | append_singleton more v ih =>
      refine le_trans ?_ ih
      unfold maxDrawdown
      rw [← List.append_assoc, List.foldl_append]
      exact drawdownStep_le _ v

theorem maxDrawdown_of_calculate {initialCapital current : ℚ} {previous : List ℚ} {trades : ℕ}
    {result : MetricResult} (h : calculate initialCapital current previous trades = .ok result) :
    result.maxDrawdown = maxDrawdown (previous ++ [current]) := by
  unfold calculate at h
  dsimp only at h
  split_ifs at h
  cases h
  rfl

/-! ## The precision of a context -/

/-- A value a `NUMERIC(19, 4)` column can have, not negative. -/
def ColumnValue (v : ℚ) : Prop := OnGrid 4 v ∧ 0 ≤ v ∧ v < 10 ^ 15

/-- The peak with one more value. -/
def peakWith (peak : Option ℚ) (value : ℚ) : ℚ :=
  match peak with
  | some p => if p < value then value else p
  | none   => value

theorem drawdownStep_eq (acc : Option ℚ × ℚ) (v : ℚ) :
    drawdownStep acc v =
      if 0 < peakWith acc.1 v then (some (peakWith acc.1 v), min acc.2 (roundedFall (peakWith acc.1 v) v))
      else (some (peakWith acc.1 v), acc.2) := by
  obtain ⟨peak, deepest⟩ := acc
  cases peak with
  | none => rfl
  | some p => rfl

/-- A round of the loop where a quotient has `digits` significant digits before it is quantized. -/
def drawdownStepTo (digits : ℕ) (acc : Option ℚ × ℚ) (value : ℚ) : Option ℚ × ℚ :=
  let peak := peakWith acc.1 value
  if 0 < peak then (some peak, min acc.2 (quantize8 (toDigits digits ((value - peak) / peak))))
  else (some peak, acc.2)

/-- `_max_drawdown` in a context of `digits` significant digits. -/
def maxDrawdownTo (digits : ℕ) (values : List ℚ) : ℚ := (values.foldl (drawdownStepTo digits) (none, 0)).2

/-- 28 digits are enough for the fall between two values of the column. -/
theorem roundedFall_toDigits {peak value : ℚ} (hpeak : ColumnValue peak) (hvalue : ColumnValue value)
    (hpositive : 0 < peak) (hle : value ≤ peak) :
    quantize8 (toDigits 28 ((value - peak) / peak)) = roundedFall peak value := by
  obtain ⟨n, hn⟩ := hpeak.1
  obtain ⟨m, hm⟩ := hvalue.1
  have hnpos : (0 : ℚ) < n := by
    rw [← hn]
    positivity
  have hnlt : (n : ℚ) < 10 ^ 19 := by
    rw [← hn]
    have := hpeak.2.2
    linarith
  have hnat : ((n.toNat : ℕ) : ℚ) = n := by
    have hcast : (n.toNat : ℤ) = n := Int.toNat_of_nonneg (by exact_mod_cast hnpos.le)
    exact_mod_cast congrArg (Int.cast (R := ℚ)) hcast
  have hfraction : (value - peak) / peak = ((m - n : ℤ) : ℚ) / (n.toNat : ℕ) := by
    rw [hnat, ← hn]
    push_cast
    rw [← hm, ← hn]
    field_simp
  have hbound : |(value - peak) / peak| ≤ 1 := by
    rw [abs_le, le_div_iff₀ hpositive, div_le_iff₀ hpositive]
    have := hvalue.2.1
    constructor <;> linarith
  unfold roundedFall
  rw [hfraction] at hbound ⊢
  apply quantize_toDigits _ _ hbound
  · exact_mod_cast hnat ▸ hnpos
  · have hlt : n.toNat < 10 ^ 19 := by exact_mod_cast hnat ▸ hnlt
    omega

/-- The precision of the context is enough for the values of the column. -/
theorem foldl_drawdownStepTo (values : List ℚ) (hvalues : ∀ v ∈ values, ColumnValue v) {acc : Option ℚ × ℚ}
    (hacc : ∀ p, acc.1 = some p → ColumnValue p) :
    values.foldl (drawdownStepTo 28) acc = values.foldl drawdownStep acc := by
  -- by induction on the values; the peak is one of them, or none yet
  induction values generalizing acc with
  | nil => rfl
  | cons v values ih =>
      have hv := hvalues v List.mem_cons_self
      obtain ⟨hpeak, hle⟩ : ColumnValue (peakWith acc.1 v) ∧ v ≤ peakWith acc.1 v := by
        unfold peakWith
        cases hcase : acc.1 with
        | none => exact ⟨hv, le_rfl⟩
        | some p =>
            dsimp only
            split_ifs with hlt
            · exact ⟨hv, le_rfl⟩
            · exact ⟨hacc p hcase, not_lt.mp hlt⟩
      have hstep : drawdownStepTo 28 acc v = drawdownStep acc v := by
        rw [drawdownStep_eq]
        unfold drawdownStepTo
        by_cases hpositive : 0 < peakWith acc.1 v
        · simp only [if_pos hpositive, roundedFall_toDigits hpeak hv hpositive hle]
        · simp only [if_neg hpositive]
      rw [List.foldl_cons, List.foldl_cons, hstep]
      refine ih (fun w hw => hvalues w (List.mem_cons_of_mem v hw)) ?_
      intro p hp
      have hfirst : (drawdownStep acc v).1 = some (peakWith acc.1 v) := by
        rw [drawdownStep_eq]
        split_ifs <;> rfl
      rw [hfirst] at hp
      cases hp
      exact hpeak

/-- **The maximal drawdown is the deepest fall** of a history that starts positive and has no negative value:
    the least rounded fall from a positive value to itself or to a later one. It is between -1 and 0, it
    does not go up when a value comes, and along calls on a growing history it does not either. For values of
    the column a context of 28 digits computes the same. -/
theorem maxDrawdown_is_the_deepest_fall {first : ℚ} {rest : List ℚ} (hfirst : 0 < first)
    (hvalues : ∀ v ∈ first :: rest, 0 ≤ v) :
    IsLeast (portfolioFalls (first :: rest)) (maxDrawdown (first :: rest)) ∧
    (-1 ≤ maxDrawdown (first :: rest) ∧ maxDrawdown (first :: rest) ≤ 0) ∧
    (∀ v, maxDrawdown (first :: rest ++ [v]) ≤ maxDrawdown (first :: rest)) ∧
    (∀ previous current more next initialCapital trades laterTrades earlier later,
      first :: rest = previous ++ [current] →
      calculate initialCapital current previous trades = .ok earlier →
      calculate initialCapital next (previous ++ [current] ++ more) laterTrades = .ok later →
      later.maxDrawdown ≤ earlier.maxDrawdown) ∧
    ((∀ v ∈ first :: rest, ColumnValue v) → maxDrawdownTo 28 (first :: rest) = maxDrawdown (first :: rest)) := by
  have hleast : IsLeast (portfolioFalls (first :: rest)) (maxDrawdown (first :: rest)) := by
    rw [maxDrawdown_eq hfirst]
    refine (run_spec (fun u w hu hle => lt_of_lt_of_le hu hle) hfirst ?_).2
    intro v hv u w hu hle
    exact roundedFall_antitone hu hle (hvalues v hv)
  refine ⟨hleast, ⟨?_, maxDrawdown_nonpos _⟩, fun v => maxDrawdown_append_le _ [v], ?_, ?_⟩
  · obtain ⟨i, j, u, v, -, -, hj, hu, hfall⟩ := hleast.1
    rw [hfall]
    exact neg_one_le_roundedFall hu (hvalues v (List.mem_of_getElem? hj))
  · intro previous current more next initialCapital trades laterTrades earlier later hhistory hearlier hlater
    rw [maxDrawdown_of_calculate hearlier, maxDrawdown_of_calculate hlater, List.append_assoc]
    exact maxDrawdown_append_le _ _
  · intro hcolumn
    exact congrArg Prod.snd (foldl_drawdownStepTo _ hcolumn (by rintro p ⟨⟩))

/-- A portfolio that goes from 100 up to 120 and down to 90. -/
theorem fall_by_a_quarter :
    maxDrawdown [100, 120, 90] = -1 / 4 ∧ IsLeast (portfolioFalls [100, 120, 90]) (maxDrawdown [100, 120, 90]) :=
  ⟨by decide +kernel, (maxDrawdown_is_the_deepest_fall (by decide) (by decide)).1⟩

end BasicMetricCalculator

end TradingAI
