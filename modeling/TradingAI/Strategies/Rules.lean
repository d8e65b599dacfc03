import TradingAI.Domain.Values

/-!
# `Strategies.Rules` — the rule-based strategies

Each strategy reads its view of the market and the local position and returns a `StrategyDecision`.
Agents return the same with a confidence and, for target-exposure trading, a target.
-/

namespace TradingAI

/-- What a strategy proposes. -/
structure StrategyDecision where
  action : TradeAction
  symbol : String
  reason : String
  deriving DecidableEq

/-- What an agent proposes. -/
structure AgentDecision extends StrategyDecision where
  confidence        : ℚ
  tradeIntent       : Option TradeIntent := none
  targetExposurePct : Option ℚ := none
  primaryDriver     : Option PrimaryDriver := none
  newInformation    : Option Bool := none
  rawDecisionJson   : Details := []

/-- `position_quantity is not None and position_quantity > 0`. -/
def hasPosition (positionQuantity : Option ℚ) : Bool :=
  match positionQuantity with
  | some q => 0 < q
  | none   => false

/-! ## Buy and hold -/

namespace BuyAndHoldStrategy

def sourceName : String := "BuyAndHoldStrategy"

def decide (symbol : String) (positionQuantity : Option ℚ) : StrategyDecision :=
  if positionQuantity = none ∨ positionQuantity = some 0 then
    { action := .buy, symbol,
      reason := "No current " ++ symbol ++ " position exists; buy and hold enters once." }
  else
    { action := .hold, symbol, reason := "Existing " ++ symbol ++ " position is already held." }

end BuyAndHoldStrategy

/-! ## Moving average -/

namespace MovingAverageStrategy

def sourceName : String := "MovingAverageStrategy"

def defaultMovingAverageWindow : ℕ := 200

def decide (symbol : String) (price : ℚ) (movingAverage positionQuantity : Option ℚ) (window : ℕ) :
    StrategyDecision :=
  match movingAverage with
  | none =>
      { action := .hold, symbol,
        reason := "Moving average unavailable until " ++ toString window ++ " bars are available." }
  | some average =>
      if average < price ∧ ¬ hasPosition positionQuantity then
        { action := .buy, symbol,
          reason := symbol ++ " price is above moving average and no position exists." }
      else if average < price ∧ hasPosition positionQuantity then
        { action := .hold, symbol,
          reason := symbol ++ " price is above moving average and position already exists." }
      else if price < average ∧ hasPosition positionQuantity then
        { action := .sell, symbol,
          reason := symbol ++ " price is below moving average and position exists." }
      else if price < average then
        { action := .hold, symbol,
          reason := symbol ++ " price is below moving average and no position exists." }
      else
        { action := .hold, symbol, reason := symbol ++ " price is equal to moving average." }

end MovingAverageStrategy

/-! ## Opening range breakout -/

/-- What the session has shown so far. -/
structure OpeningRangeBreakoutState where
  sessionDate          : Date
  openingRangeHigh     : Option ℚ
  openingRangeLow      : Option ℚ
  openingRangeComplete : Bool
  finalBar             : Bool
  roundTripCompleted   : Bool

namespace OpeningRangeBreakoutStrategy

def sourceName : String := "OpeningRangeBreakoutStrategy"

/-- `state.opening_range_high is not None and close > state.opening_range_high`. -/
def brokeAbove (close : ℚ) (state : OpeningRangeBreakoutState) : Bool :=
  state.openingRangeHigh.any (· < close)

/-- `state.opening_range_low is not None and close < state.opening_range_low`. -/
def brokeBelow (close : ℚ) (state : OpeningRangeBreakoutState) : Bool :=
  state.openingRangeLow.any (close < ·)

def decide (symbol : String) (close : ℚ) (positionQuantity : Option ℚ)
    (state : OpeningRangeBreakoutState) : StrategyDecision :=
  if ¬ state.openingRangeComplete then
    { action := .hold, symbol, reason := "Opening range is not complete yet." }
  else if state.finalBar ∧ hasPosition positionQuantity then
    { action := .sell, symbol,
      reason := "Final regular-session bar exits the open long position." }
  else if state.roundTripCompleted then
    { action := .hold, symbol,
      reason := "Session already completed one round trip; re-entry is disabled." }
  else if brokeAbove close state then
    if ¬ hasPosition positionQuantity then
      { action := .buy, symbol,
        reason := "Close broke above the opening range high with no position." }
    else
      { action := .hold, symbol,
        reason := "Close is above the opening range high and position is already held." }
  else if brokeBelow close state then
    if hasPosition positionQuantity then
      { action := .sell, symbol,
        reason := "Close broke below the opening range low with an open position." }
    else
      { action := .hold, symbol,
        reason := "Close is below the opening range low with no position." }
  else
    { action := .hold, symbol, reason := "No opening range breakout signal is present." }

end OpeningRangeBreakoutStrategy

/-! ## Smoke test -/

namespace PaperTradingSmokeTestStrategy

def sourceName : String := "PaperTradingSmokeTestStrategy"

def decide (symbol : String) (positionQuantity : Option ℚ) : StrategyDecision :=
  if hasPosition positionQuantity then
    { action := .sell, symbol,
      reason := "Smoke-test position exists; sell the current local SPY position." }
  else
    { action := .buy, symbol,
      reason := "No smoke-test SPY position exists; buy exactly one share." }

end PaperTradingSmokeTestStrategy

end TradingAI
