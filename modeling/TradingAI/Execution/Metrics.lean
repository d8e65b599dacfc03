import TradingAI.Domain.Values
import Mathlib.Tactic.SplitIfs

/-!
# `Execution.Metrics` — performance figures of a portfolio

`BasicMetricCalculator`: return, profit, and the deepest fall from a running peak. Dividing by an initial
capital of zero raises, as `Decimal` division does: zero over zero is undefined, anything else over zero is a
division by zero.
-/

namespace TradingAI

structure MetricResult where
  totalReturn            : ℚ
  profitLoss             : ℚ
  numberOfTrades         : ℕ
  maxDrawdown            : ℚ
  buyAndHoldReturn       : ℚ
  differenceToBuyAndHold : ℚ

namespace BasicMetricCalculator

/-- One value of the drawdown loop: the peak and the deepest drawdown after it. -/
def drawdownStep (acc : Option ℚ × ℚ) (value : ℚ) : Option ℚ × ℚ :=
  let peak := match acc.1 with
    | some p => if p < value then value else p
    | none   => value
  if 0 < peak then (some peak, min acc.2 (quantize8 ((value - peak) / peak)))
  else (some peak, acc.2)

/-- `_max_drawdown`. -/
def maxDrawdown (values : List ℚ) : ℚ := (values.foldl drawdownStep (none, 0)).2

/-- What the division of `dividend` by an initial capital of zero raises. -/
def divisionError (dividend : ℚ) : Raised :=
  ⟨.other, if dividend = 0 then "[<class 'decimal.DivisionUndefined'>]" else "[<class 'decimal.DivisionByZero'>]", []⟩

def calculate (initialCapital currentPortfolioValue : ℚ) (previousPortfolioValues : List ℚ)
    (numberOfTrades : ℕ) : Except Raised MetricResult :=
  let profitLoss := quantize4 (currentPortfolioValue - initialCapital)
  if initialCapital = 0 then
    .error (divisionError profitLoss)
  else
    let totalReturn := quantize8 (profitLoss / initialCapital)
    .ok { totalReturn, profitLoss, numberOfTrades,
          maxDrawdown := maxDrawdown (previousPortfolioValues ++ [currentPortfolioValue]),
          buyAndHoldReturn := totalReturn, differenceToBuyAndHold := 0 }

/-- The deepest fall never goes up along the loop. -/
theorem drawdownStep_le (acc : Option ℚ × ℚ) (v : ℚ) : (drawdownStep acc v).2 ≤ acc.2 := by
  obtain ⟨peak, deepest⟩ := acc
  simp only [drawdownStep]
  split_ifs with hpeak
  · exact min_le_left _ _
  · exact le_refl deepest

/-- **A drawdown is a loss**: it is never positive. -/
theorem maxDrawdown_nonpos (values : List ℚ) : maxDrawdown values ≤ 0 := by
  have hfold : ∀ (l : List ℚ) (acc : Option ℚ × ℚ), (l.foldl drawdownStep acc).2 ≤ acc.2 := by
    intro l
    induction l with
    | nil => exact fun _ => le_rfl
    | cons v l ih => exact fun acc => (ih _).trans (drawdownStep_le acc v)
  exact hfold values (none, 0)

end BasicMetricCalculator

end TradingAI
