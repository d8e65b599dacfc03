import TradingAI.Execution.Calls
import TradingAI.Execution.HistoricalSteps

/-!
# `Correctness.MovingAveragePaths` — the average of a paper step and of a historical bar

A historical run rounds its moving average to eight places, as the column of the market data has them. A paper
step rounds it to four. The strategy compares the price with the rounded average, so the two decide
differently exactly when the price is between the two roundings: at a close of 100.0000 under a mean of
100.00005 the historical run sells and the paper step holds.

Half to even, a mean `m` rounds to more than the price if it is over the middle of the unit the price is in,
or at the middle of an odd one (`RoundsAbove`).

## Contents
- `RoundsAbove`, `RoundsBelow`, `RoundingsAgree`.
- `Provides`: the provider's answer, and the averages both paths make of it.
- `paths_decide_alike_iff`, `averages_apart`.
-/

namespace TradingAI

open Rounding

/-! ## Roundings and a price -/

/-- Rounded to `k` places, `mean` is more than `price`. -/
def RoundsAbove (k : ℕ) (price mean : ℚ) : Prop :=
  (⌊price * 10 ^ k⌋ : ℚ) + 1 / 2 < mean * 10 ^ k ∨
    mean * 10 ^ k = ⌊price * 10 ^ k⌋ + 1 / 2 ∧ ⌊price * 10 ^ k⌋ % 2 = 1

/-- Rounded to `k` places, `mean` is less than `price`. -/
def RoundsBelow (k : ℕ) (price mean : ℚ) : Prop :=
  mean * 10 ^ k < (⌈price * 10 ^ k⌉ : ℚ) - 1 / 2 ∨
    mean * 10 ^ k = ⌈price * 10 ^ k⌉ - 1 / 2 ∧ ⌈price * 10 ^ k⌉ % 2 = 1

/-- Four and eight places put `mean` on the same side of `price`, as far as the strategy looks: with a
    position it asks whether the average is more, without one whether it is less. -/
def RoundingsAgree (positionQuantity : Option ℚ) (price mean : ℚ) : Prop :=
  if hasPosition positionQuantity then RoundsAbove 4 price mean ↔ RoundsAbove 8 price mean
  else RoundsBelow 4 price mean ↔ RoundsBelow 8 price mean

theorem roundsAbove_iff (k : ℕ) (price mean : ℚ) :
    price < halfEven.quantize k mean ↔ RoundsAbove k price mean :=
  (Mode.lt_quantize_halfEven_iff k mean price).trans lt_roundHalfEven_iff

theorem roundsBelow_iff (k : ℕ) (price mean : ℚ) :
    halfEven.quantize k mean < price ↔ RoundsBelow k price mean :=
  (Mode.quantize_halfEven_lt_iff k mean price).trans roundHalfEven_lt_iff

/-- **Far from the mean** the places do not matter: further than half of the fourth place. -/
theorem averages_apart {price mean : ℚ} (h : 1 / 20000 < |price - mean|) (positionQuantity : Option ℚ) :
    RoundingsAgree positionQuantity price mean := by
  have h4 := halfEven.abs_quantize_sub_le 4 mean
  have h8 := halfEven.abs_quantize_sub_le 8 mean
  rw [abs_le] at h4 h8
  unfold RoundingsAgree
  rw [← roundsAbove_iff, ← roundsAbove_iff, ← roundsBelow_iff, ← roundsBelow_iff]
  rcases lt_abs.mp h with h | h
  · -- the price is over both
    have hover4 : halfEven.quantize 4 mean < price := by linarith
    have hover8 : halfEven.quantize 8 mean < price := by linarith
    split_ifs
    · exact iff_of_false hover4.not_gt hover8.not_gt
    · exact iff_of_true hover4 hover8
  · have hunder4 : price < halfEven.quantize 4 mean := by linarith
    have hunder8 : price < halfEven.quantize 8 mean := by linarith
    split_ifs
    · exact iff_of_true hunder4 hunder8
    · exact iff_of_false hunder4.not_gt hunder8.not_gt

/-! ## The two averages -/

/-- The mean of the last `window` closes. -/
def meanOfLast (window : ℕ) (bars : List DailyBar) : ℚ :=
  ((bars.drop (bars.length - window)).map DailyBar.adjustedClose).sum / window

/-- The provider's answer `recent`, up to the day of `latest`, is the end of `bars`, in any order, with at
    least `window` of them. -/
def Provides (window : ℕ) (bars recent : List DailyBar) (latest : DailyBar) : Prop :=
  ∃ older newer, bars = older ++ newer ∧ window ≤ newer.length ∧
    (recent.filter (·.date ≤ latest.date)).Perm newer

theorem historicalMovingAverage_eq {window : ℕ} {bars : List DailyBar} (h : window ≤ bars.length) :
    historicalMovingAverage (bars.map DailyBar.adjustedClose) window =
      some (quantize8 (meanOfLast window bars)) := by
  unfold historicalMovingAverage meanOfLast
  rw [List.length_map, if_neg (by omega), List.map_drop]

/-- Bars in any order, sorted by their dates. -/
theorem insertionSort_bars {recent bars : List DailyBar} (hperm : recent.Perm bars)
    (hdates : bars.Pairwise fun a b => a.date < b.date) :
    recent.insertionSort (fun a b => a.date ≤ b.date) = bars := by
  apply List.Perm.eq_of_pairwise
  · -- two bars of one date are the same bar
    intro a b ha hb hab hba
    have hmem : a ∈ bars := hperm.mem_iff.mp ((List.mem_insertionSort _).mp ha)
    have hdistinct : (bars.map DailyBar.date).Nodup := List.pairwise_map.mpr (hdates.imp fun hlt => hlt.ne)
    exact List.inj_on_of_nodup_map hdistinct hmem hb (le_antisymm hab hba)
  · exact List.pairwise_insertionSort _ _
  · exact hdates.imp fun hlt => hlt.le
  · exact (List.perm_insertionSort _ _).trans hperm

theorem averageOfLast_eq {window : ℕ} {bars recent : List DailyBar} {latest : DailyBar}
    (hdates : bars.Pairwise fun a b => a.date < b.date) (h : Provides window bars recent latest) :
    averageOfLast window latest.date recent = some (quantize4 (meanOfLast window bars)) := by
  obtain ⟨older, newer, rfl, hlength, hperm⟩ := h
  have hsorted := insertionSort_bars hperm (List.pairwise_append.mp hdates).2.1
  have hlast : (older ++ newer).drop ((older ++ newer).length - window) = newer.drop (newer.length - window) := by
    rw [List.length_append, List.drop_append, List.drop_eq_nil_of_le (by omega), List.nil_append]
    congr 1
    omega
  unfold averageOfLast meanOfLast
  dsimp only
  rw [hsorted, if_neg (by omega), hlast]

/-! ## The decisions -/

/-- What the strategy asks of the average. -/
theorem decide_action (symbol : String) (price average : ℚ) (positionQuantity : Option ℚ) (window : ℕ) :
    (MovingAverageStrategy.decide symbol price (some average) positionQuantity window).action =
      if hasPosition positionQuantity then (if price < average then .sell else .hold)
      else (if average < price then .buy else .hold) := by
  unfold MovingAverageStrategy.decide
  dsimp only
  by_cases hposition : hasPosition positionQuantity = true
  · by_cases hunder : price < average
    · simp [hposition, hunder, hunder.not_gt]
    · simp only [hposition, hunder]
      split_ifs <;> simp_all
  · by_cases hover : average < price
    · simp [hposition, hover]
    · simp only [hposition, hover]
      split_ifs <;> simp_all

/-- Two averages lead to the same action if they are on the same side of the price. -/
theorem decide_action_eq_iff (symbol symbol' : String) (price average average' : ℚ)
    (positionQuantity : Option ℚ) (window : ℕ) :
    (MovingAverageStrategy.decide symbol price (some average) positionQuantity window).action =
        (MovingAverageStrategy.decide symbol' price (some average') positionQuantity window).action ↔
      if hasPosition positionQuantity then price < average ↔ price < average'
      else average < price ↔ average' < price := by
  rw [decide_action, decide_action]
  by_cases hposition : hasPosition positionQuantity = true
  · simp only [hposition, if_true]
    by_cases h : price < average <;> by_cases h' : price < average' <;> simp [h, h']
  · simp only [hposition]
    by_cases h : average < price <;> by_cases h' : average' < price <;> simp [h, h']

/-- **The two paths decide alike** at a bar exactly when four and eight places put the mean on the same side
    of its close. -/
theorem paths_decide_alike_iff (env : StepEnv) (experiment : Experiment) (config : StrategyConfig)
    (portfolio : Portfolio) (before recent : List DailyBar) (latest : DailyBar)
    (hstrategy : experiment.strategyType = .movingAverage)
    (hdates : (before ++ [latest]).Pairwise fun a b => a.date < b.date)
    (hrecent : env.loadRange (latest.date - (config.window * 2 + 10 : ℕ)) latest.date experiment.assetSymbol =
      .ok recent)
    (hprovides : Provides config.window (before ++ [latest]) recent latest) :
    (movingAverageForStep env experiment config latest).map (fun average =>
          (decideDaily experiment portfolio latest.adjustedClose average config.window).action) =
        .ok ((movingAverageStep latest (historicalMovingAverage
          ((before ++ [latest]).map DailyBar.adjustedClose) config.window) config.window).decide
            portfolio.positionQuantity).action ↔
      RoundingsAgree portfolio.positionQuantity latest.adjustedClose
        (meanOfLast config.window (before ++ [latest])) := by
  have hlength : config.window ≤ (before ++ [latest]).length := by
    obtain ⟨older, newer, hsplit, hlength, -⟩ := hprovides
    rw [hsplit, List.length_append]
    omega
  have hpaper : movingAverageForStep env experiment config latest =
      .ok (some (quantize4 (meanOfLast config.window (before ++ [latest])))) := by
    unfold movingAverageForStep
    rw [if_neg (not_not.mpr hstrategy)]
    dsimp only
    rw [hrecent, ← averageOfLast_eq hdates hprovides]
    rfl
  rw [hpaper, historicalMovingAverage_eq hlength]
  show Except.ok _ = Except.ok _ ↔ _
  rw [Except.ok.injEq]
  unfold decideDaily
  rw [hstrategy]
  refine (decide_action_eq_iff _ _ _ _ _ _ _).trans ?_
  unfold RoundingsAgree
  rw [← roundsAbove_iff, ← roundsAbove_iff, ← roundsBelow_iff, ← roundsBelow_iff]
  rfl

/-! ## Two days -/

def dayAt (date : Date) (close : ℚ) : DailyBar := ⟨date, close, close, close, close, close, 1, none⟩

/-- A provider that has these bars. -/
def envOver (bars : List DailyBar) : StepEnv :=
  { smallEnv 100 (fun _ => .error (runtimeError "no broker")) with loadRange := fun _ _ _ => .ok bars }

def twoDayWindow : StrategyConfig := ⟨some 2, none, none, none, none⟩

def heldShare : Portfolio := ⟨0, some spySymbol, some 1, none, none, none, 0⟩

/-- A close of 110 after one of 100 is far over their mean. -/
theorem risingClose_decided_alike :
    (movingAverageForStep (envOver [dayAt 2 110, dayAt 1 100]) (smallExperiment .movingAverage .daily)
          twoDayWindow (dayAt 2 110)).map (fun average =>
            (decideDaily (smallExperiment .movingAverage .daily) heldShare 110 average twoDayWindow.window).action) =
      .ok ((movingAverageStep (dayAt 2 110) (historicalMovingAverage
        (([dayAt 1 100] ++ [dayAt 2 110]).map DailyBar.adjustedClose) twoDayWindow.window)
          twoDayWindow.window).decide heldShare.positionQuantity).action := by
  have hmean : meanOfLast twoDayWindow.window ([dayAt 1 100] ++ [dayAt 2 110]) = 105 := by decide +kernel
  have hfar : RoundingsAgree heldShare.positionQuantity (dayAt 2 110).adjustedClose
      (meanOfLast twoDayWindow.window ([dayAt 1 100] ++ [dayAt 2 110])) := by
    apply averages_apart
    rw [hmean]
    norm_num [dayAt]
  refine (paths_decide_alike_iff (envOver [dayAt 2 110, dayAt 1 100]) (smallExperiment .movingAverage .daily)
    twoDayWindow heldShare [dayAt 1 100] [dayAt 2 110, dayAt 1 100] (dayAt 2 110) rfl ?_ rfl ?_).mpr hfar
  · decide +kernel
  · exact ⟨[], [dayAt 1 100, dayAt 2 110], rfl, le_rfl, List.Perm.swap _ _ _⟩

/-- A close of 100.0000 after one of 100.0001, with a position: the paper step holds, the historical bar
    sells. -/
theorem fallingClose_decided_apart :
    (movingAverageForStep (envOver [dayAt 1 (1000001 / 10000), dayAt 2 100])
          (smallExperiment .movingAverage .daily) twoDayWindow (dayAt 2 100)).toOption.map (fun average =>
            (decideDaily (smallExperiment .movingAverage .daily) heldShare 100 average twoDayWindow.window).action) =
        some .hold ∧
      ((movingAverageStep (dayAt 2 100) (historicalMovingAverage
        ([dayAt 1 (1000001 / 10000), dayAt 2 100].map DailyBar.adjustedClose) twoDayWindow.window)
          twoDayWindow.window).decide heldShare.positionQuantity).action = .sell := by
  decide +kernel

end TradingAI
