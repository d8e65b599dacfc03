import TradingAI.Agents.TechnicalAnalysis

/-!
# `Correctness.RelativeStrengthIndex` — which changes RSI(14) looks at

The index of the last fourteen changes is a function of two sums: what was gained and what was lost. `_rsi` sorts
the changes of the whole history into gains and losses first and takes the last fourteen of each. Where the
window has fewer than fourteen gains, older gains are **carried** into it, and older losses in the same way.

The code computes with 28 digits. Its value before the last rounding is within `10 ^ -20` of the share that the
gains have in everything counted (`decimalShare_near`), so the digits decide nothing unless that share is that
close to the middle between two numbers of four places (`NearMiddle`). Away from the middles the result is the
index of the window exactly if what is carried moves the share by less than half a unit of the last place.

## Contents
- `indexOf`: the index of two sums. `windowRsi`: the index of the last fourteen changes.
- `carriedGains`, `carriedLosses`, `share`: all that `_rsi` counts. `CarriesLittle`.
- `decimalShare`, `rsi_eq`, `decimalShare_near`: what `_rsi` computes. `OnSide`: what the digits decide.
- `rsi_is_windowed_iff`.
-/

namespace TradingAI

open Rounding

/-! ## The index of a window -/

/-- The index of the sum of the gains and of the sum of the losses. -/
def indexOf (gains losses : ℚ) : ℚ :=
  if gains = 0 ∧ losses = 0 then 50
  else if losses = 0 then 100
  else quantize4 (100 - 100 / (1 + gains / losses))

/-- The differences of consecutive closes. -/
def differences (closes : List ℚ) : List ℚ :=
  List.zipWith (fun previous current => current - previous) closes closes.tail

/-- The last fourteen changes. -/
def windowChanges (closes : List ℚ) : List ℚ := lastOf 14 (differences closes)

/-- The index of the last fourteen changes. -/
def windowRsi (closes : List ℚ) : ℚ :=
  indexOf (gainsOf (windowChanges closes)).sum (lossesOf (windowChanges closes)).sum

/-- The gains before the window that make up for what the window has less than fourteen of. -/
def carriedGains (closes : List ℚ) : List ℚ :=
  lastOf (14 - (gainsOf (windowChanges closes)).length) (gainsOf ((differences closes).rdrop 14))

/-- The losses before the window that make up for what the window has less than fourteen of. -/
def carriedLosses (closes : List ℚ) : List ℚ :=
  lastOf (14 - (lossesOf (windowChanges closes)).length) (lossesOf ((differences closes).rdrop 14))

/-- What is gained by the last fourteen gains. -/
def allGains (closes : List ℚ) : ℚ := (carriedGains closes).sum + (gainsOf (windowChanges closes)).sum

def allLosses (closes : List ℚ) : ℚ := (carriedLosses closes).sum + (lossesOf (windowChanges closes)).sum

/-- The share of the gains in percent; a half where nothing moved. -/
def shareOf (gains losses : ℚ) : ℚ := if gains = 0 ∧ losses = 0 then 50 else 100 * gains / (gains + losses)

/-- **The share of the gains in all that is counted**, with what is carried in. -/
def share (closes : List ℚ) : ℚ := shareOf (allGains closes) (allLosses closes)

/-! ## The digits -/

/-- Within `10 ^ -20` of the middle between two numbers of four places. -/
def NearMiddle (x : ℚ) : Prop := |x * 10 ^ 4 - (⌊x * 10 ^ 4⌋ + 1 / 2)| ≤ 1 / 10 ^ 16

instance (x : ℚ) : Decidable (NearMiddle x) := inferInstanceAs (Decidable (_ ≤ _))

/-- The average of the last fourteen values, in 28 digits. -/
def decimalAverage (values : List ℚ) : ℚ := inContext (contextSum (lastOf 14 values) / 14)

/-- The share of the gains as 28 digits give it. -/
def decimalShare (gains losses : List ℚ) : ℚ :=
  if gains = [] ∧ losses = [] then 50
  else if losses = [] then 100
  else inContext (100 - inContext (100 / inContext (1 + inContext (decimalAverage gains / decimalAverage losses))))

/-- The middle between the two numbers of four places around `x`. -/
def middle (x : ℚ) : ℚ := (⌊x * 10 ^ 4⌋ + 1 / 2) / 10 ^ 4

/-- `index` is the number of four places next to the middle of `x`, on the side of `digits`; at the middle itself
    the even one. -/
def OnSide (x digits index : ℚ) : Prop :=
  digits < middle x ∧ index = middle x - 1 / 20000 ∨ middle x < digits ∧ index = middle x + 1 / 20000 ∨
    digits = middle x ∧ index = quantize4 (middle x)

instance (x digits index : ℚ) : Decidable (OnSide x digits index) := inferInstanceAs (Decidable (_ ∨ _ ∨ _))

/-- **Little is carried in**: the share of the gains is less than half a unit of the last place away from the index
    of the window. Right at the middle of two places the digits have to come down on the side of that index. -/
def CarriesLittle (closes : List ℚ) : Prop :=
  if NearMiddle (share closes) then
    OnSide (share closes) (decimalShare (gainsOf (changes closes)) (lossesOf (changes closes))) (windowRsi closes)
  else |share closes - windowRsi closes| < 1 / 20000

instance (closes : List ℚ) : Decidable (CarriesLittle closes) := by
  unfold CarriesLittle
  infer_instance

/-! ## The last of two kinds of changes -/

theorem lastOf_append {α : Type} {n : ℕ} (older recent : List α) (h : recent.length ≤ n) :
    lastOf n (older ++ recent) = lastOf (n - recent.length) older ++ recent := by
  have hrecent : older.length + recent.length - n - older.length = 0 := by omega
  have holder : older.length + recent.length - n = older.length - (n - recent.length) := by omega
  unfold lastOf List.rtake
  rw [List.length_append, List.drop_append, hrecent, List.drop_zero, holder]

theorem differences_split (closes : List ℚ) : (differences closes).rdrop 14 ++ windowChanges closes = differences closes :=
  List.take_append_drop _ _

theorem length_windowChanges_le (closes : List ℚ) : (windowChanges closes).length ≤ 14 := by
  unfold windowChanges lastOf List.rtake
  rw [List.length_drop]
  omega

theorem gainsOf_append (older recent : List ℚ) : gainsOf (older ++ recent) = gainsOf older ++ gainsOf recent :=
  List.filter_append ..

theorem lossesOf_append (older recent : List ℚ) : lossesOf (older ++ recent) = lossesOf older ++ lossesOf recent := by
  unfold lossesOf
  rw [List.filter_append, List.map_append]

/-- The last fourteen gains: those of the window, and what is carried in. -/
theorem lastOf_gains (closes : List ℚ) :
    (lastOf 14 (gainsOf (differences closes))).sum = allGains closes := by
  have hlength : (gainsOf (windowChanges closes)).length ≤ 14 :=
    (List.length_filter_le _ _).trans (length_windowChanges_le closes)
  have hsplit := congrArg gainsOf (differences_split closes)
  rw [← hsplit, gainsOf_append, lastOf_append _ _ hlength, List.sum_append]
  rfl

theorem lastOf_losses (closes : List ℚ) :
    (lastOf 14 (lossesOf (differences closes))).sum = allLosses closes := by
  have hlength : (lossesOf (windowChanges closes)).length ≤ 14 := by
    unfold lossesOf
    rw [List.length_map]
    exact (List.length_filter_le _ _).trans (length_windowChanges_le closes)
  have hsplit := congrArg lossesOf (differences_split closes)
  rw [← hsplit, lossesOf_append, lastOf_append _ _ hlength, List.sum_append]
  rfl

theorem gainsOf_pos {l : List ℚ} {x : ℚ} (h : x ∈ gainsOf l) : 0 < x :=
  of_decide_eq_true (List.mem_filter.mp h).2

theorem lossesOf_pos {l : List ℚ} {x : ℚ} (h : x ∈ lossesOf l) : 0 < x := by
  obtain ⟨y, hy, rfl⟩ := List.mem_map.mp h
  exact neg_pos.mpr (of_decide_eq_true (List.mem_filter.mp hy).2)

/-- The sum of the last positive values is zero only if there are none. -/
theorem sum_lastOf_eq_zero_iff (values : List ℚ) (h : ∀ x ∈ values, 0 < x) :
    (lastOf 14 values).sum = 0 ↔ values = [] := by
  constructor
  · intro hzero
    by_contra hne
    have hlast : lastOf 14 values ≠ [] := by
      have := List.length_pos_of_ne_nil hne
      intro hnil
      have hlength := congrArg List.length hnil
      unfold lastOf List.rtake at hlength
      rw [List.length_drop, List.length_nil] at hlength
      omega
    exact (List.sum_pos _ (fun x hx => h x (List.mem_of_mem_drop hx)) hlast).ne' hzero
  · rintro rfl
    rfl

theorem sum_lastOf_nonneg {values : List ℚ} (h : ∀ x ∈ values, 0 < x) : 0 ≤ (lastOf 14 values).sum :=
  List.sum_nonneg fun x hx => (h x (List.mem_of_mem_drop hx)).le

theorem allGains_nonneg (closes : List ℚ) : 0 ≤ allGains closes := by
  rw [← lastOf_gains]
  exact sum_lastOf_nonneg fun _ => gainsOf_pos

theorem allLosses_nonneg (closes : List ℚ) : 0 ≤ allLosses closes := by
  rw [← lastOf_losses]
  exact sum_lastOf_nonneg fun _ => lossesOf_pos

/-! ## The share -/

/-- The index is the share of the gains, rounded. -/
theorem indexOf_eq {gains losses : ℚ} (hgains : 0 ≤ gains) (hlosses : 0 ≤ losses) :
    indexOf gains losses = quantize4 (shareOf gains losses) := by
  unfold indexOf shareOf
  by_cases hnone : gains = 0 ∧ losses = 0
  · rw [if_pos hnone, if_pos hnone]
    exact (quantize4_of_onGrid ⟨500000, by norm_num⟩).symm
  · rw [if_neg hnone, if_neg hnone]
    by_cases hzero : losses = 0
    · have hgained : gains ≠ 0 := fun h => hnone ⟨h, hzero⟩
      rw [if_pos hzero, hzero, add_zero, mul_div_assoc, div_self hgained, mul_one]
      exact (quantize4_of_onGrid ⟨1000000, by norm_num⟩).symm
    · have htotal : gains + losses ≠ 0 := (add_pos_of_nonneg_of_pos hgains (hlosses.lt_of_ne' hzero)).ne'
      rw [if_neg hzero]
      congr 1
      field_simp
      ring

theorem shareOf_range {gains losses : ℚ} (hgains : 0 ≤ gains) (hlosses : 0 ≤ losses) :
    0 ≤ shareOf gains losses ∧ shareOf gains losses ≤ 100 := by
  unfold shareOf
  split
  · norm_num
  · rcases (add_nonneg hgains hlosses).eq_or_lt with htotal | htotal
    · rw [← htotal, div_zero]
      norm_num
    · refine ⟨by positivity, ?_⟩
      rw [div_le_iff₀ htotal]
      linarith

theorem share_range (closes : List ℚ) : 0 ≤ share closes ∧ share closes ≤ 100 :=
  shareOf_range (allGains_nonneg closes) (allLosses_nonneg closes)

/-! ## What the code computes -/

/-- The code's changes are the differences in 28 digits. -/
theorem changes_eq (closes : List ℚ) : changes closes = (differences closes).map inContext := by
  unfold changes differences
  rw [List.map_zipWith]

/-- Digits do not move a change from the gains to the losses. -/
theorem gainsOf_map (l : List ℚ) : gainsOf (l.map inContext) = (gainsOf l).map inContext := by
  unfold gainsOf
  rw [List.filter_map]
  congr 1
  apply List.filter_congr
  intro x _
  exact decide_eq_decide.mpr (toDigits_pos_iff (by decide))

theorem lossesOf_map (l : List ℚ) : lossesOf (l.map inContext) = (lossesOf l).map inContext := by
  unfold lossesOf
  rw [List.filter_map, List.map_map, List.map_map]
  have hsame : l.filter ((fun x => decide (x < 0)) ∘ inContext) = l.filter (· < 0) := by
    apply List.filter_congr
    intro x _
    exact decide_eq_decide.mpr (toDigits_neg_iff (by decide))
  rw [hsame]
  apply List.map_congr_left
  intro x _
  exact (toDigits_neg 28 x).symm

/-- What is left of an average in 28 digits: sixteen roundings. -/
theorem decimalAverage_within {values : List ℚ} (h : ∀ x ∈ values, 0 < x) :
    Within (digitsFactor 28) 16 ((lastOf 14 values).sum / 14) (decimalAverage (values.map inContext)) := by
  have hfactor := one_le_digitsFactor 28
  have hmap : lastOf 14 (values.map inContext) = (lastOf 14 values).map inContext := by
    unfold lastOf List.rtake
    rw [List.length_map, List.map_drop]
  have hlength : (lastOf 14 values).length ≤ 14 := by
    unfold lastOf List.rtake
    rw [List.length_drop]
    omega
  have hnonneg := sum_lastOf_nonneg h
  have hsum : Within (digitsFactor 28) ((lastOf 14 values).length + 1) (lastOf 14 values).sum
      (contextSum ((lastOf 14 values).map inContext)) :=
    .sum hfactor (fun _ => within_toDigits (by decide)) fun x hx => (h x (List.mem_of_mem_drop hx)).le
  have hsum15 := hsum.mono hfactor hnonneg (hsum.nonneg hfactor hnonneg) (k := 15) (by omega)
  have hdiv := hsum15.div (.refl (k := 0) hfactor (by norm_num : (0 : ℚ) ≤ 14)) hfactor hnonneg
    (hsum15.nonneg hfactor hnonneg) (by norm_num) (by norm_num)
  unfold decimalAverage
  rw [hmap]
  exact hdiv.trans (within_toDigits (by decide) (hdiv.nonneg hfactor (by positivity))) hfactor

/-- The average of positive values is not zero, however many digits there are. -/
theorem decimalAverage_pos {values : List ℚ} (h : ∀ x ∈ values, 0 < x) (hne : values ≠ []) :
    0 < decimalAverage (values.map inContext) := by
  have hsum : 0 < (lastOf 14 values).sum :=
    (sum_lastOf_nonneg h).lt_of_ne' (mt (sum_lastOf_eq_zero_iff values h).mp hne)
  exact (decimalAverage_within h).pos (one_le_digitsFactor 28) (by positivity)

/-- **`_rsi` is the share in 28 digits**, quantized. -/
theorem rsi_eq {closes : List ℚ} (h : 14 < closes.length) :
    TechnicalAnalysisService.rsi closes 14 =
      some (quantize4 (decimalShare (gainsOf (changes closes)) (lossesOf (changes closes)))) := by
  have hfifty : quantize4 50 = 50 := quantize4_of_onGrid ⟨500000, by norm_num⟩
  have hhundred : quantize4 100 = 100 := quantize4_of_onGrid ⟨1000000, by norm_num⟩
  have hnone : decimalAverage [] = 0 := by decide +kernel
  have hlost : lossesOf (changes closes) ≠ [] → decimalAverage (lossesOf (changes closes)) ≠ 0 := by
    rw [changes_eq, lossesOf_map]
    intro hne
    exact (decimalAverage_pos (fun _ => lossesOf_pos) fun hnil => hne (by rw [hnil]; rfl)).ne'
  unfold TechnicalAnalysisService.rsi decimalShare
  rw [if_neg (by omega)]
  generalize gainsOf (changes closes) = gains, lossesOf (changes closes) = losses at hlost ⊢
  have havg : ∀ values : List ℚ,
      (if values ≠ [] then inContext (contextSum (lastOf 14 values) / (14 : ℕ)) else 0) = decimalAverage values := by
    intro values
    by_cases hnil : values = []
    · rw [if_neg (not_not.mpr hnil), hnil, hnone]
    · rw [if_pos hnil]
      rfl
  simp only [havg]
  by_cases hboth : gains = [] ∧ losses = []
  · rw [if_pos hboth, if_pos hboth, hfifty]
  · rw [if_neg hboth, if_neg hboth]
    by_cases hnil : losses = []
    · rw [if_pos (hnil ▸ hnone), if_pos hnil, hhundred]
    · rw [if_neg (hlost hnil), if_neg hnil]

/-- What the errors of 28 digits come to. -/
theorem abs_sub_shareOf_le {gains losses quotient : ℚ} (hgains : 0 ≤ gains) (hlosses : 0 < losses)
    (h : Within (digitsFactor 28) 35 (100 / (1 + gains / losses)) quotient) :
    |inContext (100 - quotient) - shareOf gains losses| ≤ 1 / 10 ^ 20 := by
  have htotal : gains + losses ≠ 0 := (add_pos_of_nonneg_of_pos hgains hlosses).ne'
  have hratio : 0 ≤ gains / losses := div_nonneg hgains hlosses.le
  have hshare : shareOf gains losses = 100 - 100 / (1 + gains / losses) := by
    unfold shareOf
    rw [if_neg fun hboth => hlosses.ne' hboth.2]
    field_simp
    ring
  have hle : 100 / (1 + gains / losses) ≤ 100 := div_le_self (by norm_num) (by linarith)
  have hfactor : digitsFactor 28 ^ 35 - 1 ≤ 1 / 10 ^ 25 := by
    unfold digitsFactor
    norm_num
  have hnonneg : 0 ≤ digitsFactor 28 ^ 35 - 1 := sub_nonneg.mpr (one_le_pow₀ (one_le_digitsFactor 28))
  have hquotient : |quotient - 100 / (1 + gains / losses)| ≤ 100 / 10 ^ 25 := by
    refine (h.abs_sub_le (one_le_digitsFactor 28) (by positivity)).trans ?_
    calc 100 / (1 + gains / losses) * (digitsFactor 28 ^ 35 - 1)
      _ ≤ 100 * (digitsFactor 28 ^ 35 - 1) := mul_le_mul_of_nonneg_right hle hnonneg
      _ ≤ 100 * (1 / 10 ^ 25) := mul_le_mul_of_nonneg_left hfactor (by norm_num)
      _ = 100 / 10 ^ 25 := by norm_num
  -- the last operation adds an error of its own
  have hlast := abs_toDigits_sub_le_mul 28 (100 - quotient)
  have hbound : |100 - quotient| ≤ 101 := by
    have hnear := abs_le.mp hquotient
    have hpositive : (0 : ℚ) ≤ 100 / (1 + gains / losses) := by positivity
    rw [abs_le]
    constructor <;> linarith
  have hrounded : |inContext (100 - quotient) - (100 - quotient)| ≤ 101 * (10 / 10 ^ 28) / 2 := by
    refine hlast.trans ?_
    have := mul_le_mul_of_nonneg_right hbound (by norm_num : (0 : ℚ) ≤ 10 / 10 ^ 28)
    linarith
  rw [hshare]
  rw [abs_le] at hquotient hrounded ⊢
  constructor <;> linarith

/-- **The digits are of no matter up to `10 ^ -20`.** -/
theorem decimalShare_near (gains losses : List ℚ) (hgains : ∀ x ∈ gains, 0 < x) (hlosses : ∀ x ∈ losses, 0 < x) :
    |decimalShare (gains.map inContext) (losses.map inContext) -
      shareOf (lastOf 14 gains).sum (lastOf 14 losses).sum| ≤ 1 / 10 ^ 20 := by
  have hsmall : (0 : ℚ) ≤ 1 / 10 ^ 20 := by norm_num
  have hfactor := one_le_digitsFactor 28
  have hgained := sum_lastOf_eq_zero_iff gains hgains
  have hlost := sum_lastOf_eq_zero_iff losses hlosses
  unfold decimalShare
  simp only [List.map_eq_nil_iff]
  by_cases hboth : gains = [] ∧ losses = []
  · rw [if_pos hboth, shareOf, if_pos ⟨hgained.mpr hboth.1, hlost.mpr hboth.2⟩, sub_self, abs_zero]
    exact hsmall
  · rw [if_neg hboth]
    by_cases hnil : losses = []
    · have hne : (lastOf 14 gains).sum ≠ 0 := fun hzero => hboth ⟨hgained.mp hzero, hnil⟩
      rw [if_pos hnil, shareOf, if_neg fun h => hne h.1, hlost.mpr hnil, add_zero, mul_div_assoc, div_self hne,
        mul_one, sub_self, abs_zero]
      exact hsmall
    · rw [if_neg hnil]
      have hG : 0 ≤ (lastOf 14 gains).sum := sum_lastOf_nonneg hgains
      have hL : 0 < (lastOf 14 losses).sum := (sum_lastOf_nonneg hlosses).lt_of_ne' (mt hlost.mp hnil)
      apply abs_sub_shareOf_le hG hL
      -- one operation after the other
      have hratio : 0 ≤ (lastOf 14 gains).sum / (lastOf 14 losses).sum := div_nonneg hG hL.le
      have havgGain := decimalAverage_within hgains
      have havgLoss := decimalAverage_within hlosses
      have hquotient := havgGain.div havgLoss hfactor (by positivity) (havgGain.nonneg hfactor (by positivity))
        (by positivity) (havgLoss.pos hfactor (by positivity))
      rw [div_div_div_cancel_right₀ (by norm_num)] at hquotient
      have hrs := hquotient.trans (within_toDigits (by decide) (hquotient.nonneg hfactor hratio)) hfactor
      have hsum := (Within.refl (k := 33) hfactor (zero_le_one (α := ℚ))).add hrs
      have hone := hsum.trans (within_toDigits (by decide) (hsum.nonneg hfactor (by positivity))) hfactor
      have hdiv := (Within.refl (k := 0) hfactor (by norm_num : (0 : ℚ) ≤ 100)).div hone hfactor (by norm_num)
        (by norm_num) (by positivity) (hone.pos hfactor (by positivity))
      exact hdiv.trans (within_toDigits (by decide) (hdiv.nonneg hfactor (by positivity))) hfactor

/-- The share that the code rounds, and the exact one. -/
theorem decimalShare_sub_share (closes : List ℚ) :
    |decimalShare (gainsOf (changes closes)) (lossesOf (changes closes)) - share closes| ≤ 1 / 10 ^ 20 := by
  have h := decimalShare_near (gainsOf (differences closes)) (lossesOf (differences closes)) (fun _ => gainsOf_pos)
    fun _ => lossesOf_pos
  rwa [← gainsOf_map, ← lossesOf_map, ← changes_eq, lastOf_gains, lastOf_losses] at h

/-! ## The middles -/

/-- The middle after the integer part is the nearest one. -/
theorem lt_abs_sub_middle {x : ℚ} (h : ¬ NearMiddle x) (n : ℤ) : 1 / 10 ^ 16 < |x * 10 ^ 4 - (n + 1 / 2)| := by
  unfold NearMiddle at h
  rw [not_le] at h
  have hfloor := Int.floor_le (x * 10 ^ 4)
  have hceil := Int.lt_floor_add_one (x * 10 ^ 4)
  rcases lt_trichotomy n ⌊x * 10 ^ 4⌋ with hlt | rfl | hgt
  · have hstep : (n : ℚ) + 1 ≤ ⌊x * 10 ^ 4⌋ := by exact_mod_cast hlt
    refine lt_of_lt_of_le ?_ (le_abs_self _)
    norm_num
    linarith
  · exact h
  · have hstep : (⌊x * 10 ^ 4⌋ : ℚ) + 1 ≤ n := by exact_mod_cast hgt
    refine lt_of_lt_of_le ?_ (neg_le_abs _)
    norm_num
    linarith

/-- Away from the middles a number and one that is near it are rounded to the same place. -/
theorem quantize4_eq_of_near {x y : ℚ} (h : ¬ NearMiddle x) (hnear : |y - x| ≤ 1 / 10 ^ 20) :
    quantize4 y = quantize4 x := by
  show (roundHalfEven (y * 10 ^ 4) : ℚ) / 10 ^ 4 = (roundHalfEven (x * 10 ^ 4) : ℚ) / 10 ^ 4
  rw [roundHalfEven_eq_of_near fun n => ?_]
  refine lt_of_le_of_lt ?_ (lt_abs_sub_middle h n)
  rw [← sub_mul, abs_mul, abs_of_pos (by positivity : (0 : ℚ) < 10 ^ 4)]
  calc |y - x| * 10 ^ 4 ≤ 1 / 10 ^ 20 * 10 ^ 4 := mul_le_mul_of_nonneg_right hnear (by positivity)
    _ = 1 / 10 ^ 16 := by norm_num

/-- Away from the middles a number is rounded to the place it is nearer to than half a unit. -/
theorem quantize4_eq_iff {x y : ℚ} (h : ¬ NearMiddle x) (hy : OnGrid 4 y) : quantize4 x = y ↔ |x - y| < 1 / 20000 := by
  obtain ⟨n, hn⟩ := hy
  have hscaled : |x * 10 ^ 4 - n| = |x - y| * 10 ^ 4 := by
    rw [← hn, ← sub_mul, abs_mul, abs_of_pos (by positivity : (0 : ℚ) < 10 ^ 4)]
  have hround : quantize4 x = y ↔ roundHalfEven (x * 10 ^ 4) = n := by
    have hy' : y = (n : ℚ) / 10 ^ 4 := by rw [← hn, mul_div_cancel_right₀ _ (by norm_num)]
    rw [hy']
    show (_ : ℚ) / 10 ^ 4 = _ ↔ _
    rw [div_left_inj' (by norm_num), Int.cast_inj]
    rfl
  have hmiddle : |x * 10 ^ 4 - n| ≠ 1 / 2 := by
    intro heq
    rcases eq_or_eq_neg_of_abs_eq heq with hover | hunder
    · have hfar := lt_abs_sub_middle h n
      rw [show x * 10 ^ 4 - (n + 1 / 2) = 0 by linarith, abs_zero] at hfar
      norm_num at hfar
    · have hfar := lt_abs_sub_middle h (n - 1)
      rw [show x * 10 ^ 4 - (((n - 1 : ℤ) : ℚ) + 1 / 2) = 0 by push_cast; linarith, abs_zero] at hfar
      norm_num at hfar
  rw [hround, roundHalfEven_eq_iff, or_iff_left fun h => hmiddle h.1, hscaled]
  constructor <;> intro hlt <;> linarith

/-- Near a middle a number is rounded to its own side. -/
theorem quantize4_eq_iff_onSide {x y index : ℚ} (h : NearMiddle x) (hnear : |y - x| ≤ 1 / 10 ^ 20) :
    quantize4 y = index ↔ OnSide x y index := by
  have hscaled : middle x * 10 ^ 4 = ⌊x * 10 ^ 4⌋ + 1 / 2 := div_mul_cancel₀ _ (by norm_num)
  have hx := abs_le.mp (h : |x * 10 ^ 4 - (⌊x * 10 ^ 4⌋ + 1 / 2)| ≤ 1 / 10 ^ 16)
  have hy := abs_le.mp hnear
  norm_num at hx hy hscaled
  have hrounds : ∀ n : ℤ, |y * 10 ^ 4 - n| < 1 / 2 → quantize4 y = n / 10 ^ 4 := by
    intro n hn
    show (roundHalfEven (y * 10 ^ 4) : ℚ) / 10 ^ 4 = _
    rw [roundHalfEven_eq_iff.mpr (.inl hn)]
  unfold OnSide
  rcases lt_trichotomy y (middle x) with hlt | heq | hgt
  · have hbelow : quantize4 y = middle x - 1 / 20000 := by
      rw [hrounds ⌊x * 10 ^ 4⌋ (abs_lt.mpr ⟨by norm_num; linarith, by norm_num; linarith⟩)]
      norm_num
      linarith
    simp only [hbelow, hlt, hlt.not_gt, hlt.ne, true_and, false_and, or_false, eq_comm]
  · rw [heq]
    simp only [lt_irrefl, true_and, false_and, false_or, eq_comm]
  · have habove : quantize4 y = middle x + 1 / 20000 := by
      rw [hrounds (⌊x * 10 ^ 4⌋ + 1) (abs_lt.mpr ⟨by push_cast; norm_num; linarith, by push_cast; norm_num; linarith⟩)]
      push_cast
      norm_num
      linarith
    simp only [habove, hgt, hgt.not_gt, hgt.ne', true_and, false_and, or_false, false_or, eq_comm]

/-- A value near a number between 0 and 100 is rounded into that range. -/
theorem quantize4_range {x y : ℚ} (hx : 0 ≤ x ∧ x ≤ 100) (hnear : |y - x| ≤ 1 / 10 ^ 20) :
    0 ≤ quantize4 y ∧ quantize4 y ≤ 100 := by
  have hlow : quantize4 (-(1 / 10 ^ 20)) = 0 := by decide +kernel
  have hhigh : quantize4 (100 + 1 / 10 ^ 20) = 100 := by decide +kernel
  have hbounds := abs_le.mp hnear
  constructor
  · rw [← hlow]
    exact Mode.quantize_halfEven_mono 4 (by linarith)
  · rw [← hhigh]
    exact Mode.quantize_halfEven_mono 4 (by linarith)

/-! ## The two windows -/

theorem sum_gainsOf_nonneg (l : List ℚ) : 0 ≤ (gainsOf l).sum := List.sum_nonneg fun _ hx => (gainsOf_pos hx).le

theorem sum_lossesOf_nonneg (l : List ℚ) : 0 ≤ (lossesOf l).sum := List.sum_nonneg fun _ hx => (lossesOf_pos hx).le

theorem windowRsi_eq (closes : List ℚ) : windowRsi closes =
    quantize4 (shareOf (gainsOf (windowChanges closes)).sum (lossesOf (windowChanges closes)).sum) :=
  indexOf_eq (sum_gainsOf_nonneg _) (sum_lossesOf_nonneg _)

/-- The changes of the last closes are the last changes. -/
theorem windowChanges_lastOf {closes : List ℚ} (h : 14 < closes.length) :
    windowChanges (lastOf 15 closes) = windowChanges closes := by
  have hdrop : ∀ n, differences (closes.drop n) = (differences closes).drop n := by
    intro n
    unfold differences
    rw [List.drop_zipWith, List.tail_drop, List.drop_tail]
  unfold windowChanges lastOf List.rtake
  rw [hdrop, List.drop_drop]
  congr 1
  unfold differences
  simp
  omega

/-- The code's value is the index of the window exactly if little is carried in. -/
theorem decimalIndex_eq_windowRsi_iff (closes : List ℚ) :
    quantize4 (decimalShare (gainsOf (changes closes)) (lossesOf (changes closes))) = windowRsi closes ↔
      CarriesLittle closes := by
  have hgrid : OnGrid 4 (windowRsi closes) := by
    rw [windowRsi_eq]
    exact quantize4_onGrid _
  unfold CarriesLittle
  split
  · next hnear => exact quantize4_eq_iff_onSide hnear (decimalShare_sub_share closes)
  · next hfar =>
      rw [quantize4_eq_of_near hfar (decimalShare_sub_share closes)]
      exact quantize4_eq_iff hfar hgrid

/-- Where nothing is carried in and the share is away from the middles, the index is that of the window. -/
theorem carriesLittle_of_nothing {closes : List ℚ} (hgains : carriedGains closes = [])
    (hlosses : carriedLosses closes = []) (hfar : ¬ NearMiddle (share closes)) : CarriesLittle closes := by
  have hsame : share closes = shareOf (gainsOf (windowChanges closes)).sum (lossesOf (windowChanges closes)).sum := by
    unfold share allGains allLosses
    rw [hgains, hlosses, List.sum_nil, zero_add, zero_add]
  rw [← decimalIndex_eq_windowRsi_iff, quantize4_eq_of_near hfar (decimalShare_sub_share closes), windowRsi_eq, hsame]

/-- **RSI(14) is the index of the last fourteen changes exactly where little is carried in.** Both copies
    compute the same for any history of more than fourteen closes: a value between 0 and 100, at most half a unit of
    the last place from the share of the gains in all that is counted. The index of the last fourteen changes depends
    on the last fifteen closes only. -/
theorem rsi_is_windowed_iff {closes : List ℚ} (h : 14 < closes.length) :
    (∃ value, TechnicalAnalysisService.rsi closes 14 = some value ∧ 0 ≤ value ∧ value ≤ 100 ∧
      |value - share closes| ≤ 1 / 20000 + 1 / 10 ^ 20) ∧
    AgentDecisionPipeline.rsi closes 14 = TechnicalAnalysisService.rsi closes 14 ∧
    windowRsi (lastOf 15 closes) = windowRsi closes ∧
    (TechnicalAnalysisService.rsi closes 14 = some (windowRsi closes) ↔ CarriesLittle closes) := by
  have hnear := decimalShare_sub_share closes
  obtain ⟨hlow, hhigh⟩ := quantize4_range (share_range closes) hnear
  refine ⟨⟨_, rsi_eq h, hlow, hhigh, ?_⟩, rfl, ?_, ?_⟩
  · exact (abs_sub_le _ _ _).trans (add_le_add (abs_quantize4_sub_le _) hnear)
  · unfold windowRsi
    rw [windowChanges_lastOf h]
  · rw [rsi_eq h, Option.some_inj]
    exact decimalIndex_eq_windowRsi_iff closes

/-- Fifteen closes that go up three times and down once, and again. -/
def fifteenCloses : List ℚ := (List.range 15).map fun i => ((100 + i % 4 : ℕ) : ℚ)

/-- They have no older change. -/
theorem fifteenCloses_windowed :
    TechnicalAnalysisService.rsi fifteenCloses 14 = some (windowRsi fifteenCloses) :=
  (rsi_is_windowed_iff (by decide)).2.2.2.mpr
    (carriesLittle_of_nothing (by decide +kernel) (by decide +kernel) (by decide +kernel))

/-- A fall from 101 to 100, and fourteen rises by one. -/
def fallenBefore : List ℚ := 101 :: (List.range 15).map fun i => ((100 + i : ℕ) : ℚ)

/-- The fall is not among the last fourteen changes, and still counts. -/
theorem olderLoss_counts :
    14 < fallenBefore.length ∧ TechnicalAnalysisService.rsi fallenBefore 14 = some (933333 / 10000) ∧
      windowRsi fallenBefore = 100 ∧ ¬ CarriesLittle fallenBefore := by
  decide +kernel

/-- Fifteen closes that gain 0.67 and lose 0.61: the share of the gains is 52.34375. -/
def middleCloses : List ℚ := 100 :: 10067 / 100 :: List.replicate 13 (10006 / 100)

/-- At the middle the digits decide: nothing is carried in, and the result is a unit below the index. -/
example : TechnicalAnalysisService.rsi middleCloses 14 = some (523437 / 10000) ∧
    windowRsi middleCloses = 523438 / 10000 ∧ carriedGains middleCloses = [] ∧ carriedLosses middleCloses = [] := by
  decide +kernel

end TradingAI
