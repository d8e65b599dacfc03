import TradingAI.Execution.PaperProvider

/-!
# `Execution.SimulationProvider` — executing a risk check in a historical simulation

`SimulationExecutionProvider.execute_if_applicable` books the whole quantity at the bar's price, on the
loaded portfolio. A BUY adds to the position; a SELL closes it, whatever its quantity. The order row and
the trade are returned for the caller to flush.
-/

namespace TradingAI

open Rounding

/-- What the caller gets back; `portfolio` is the loaded portfolio with the execution booked. -/
structure SimulationResult where
  order     : Option Order
  trade     : Option Trade
  portfolio : Portfolio

namespace SimulationExecutionProvider

/-- Cash and position after an execution worth `orderValue`. -/
def book (p : Portfolio) (side : OrderSide) (quantity orderValue : ℚ) : Portfolio :=
  match side with
  | .buy =>
      { p with
        cash             := quantize4 (p.cash - orderValue)
        positionSymbol   := some spySymbol
        positionQuantity := some (p.heldQuantity + quantity) }
  | .sell =>
      { p with
        cash                 := quantize4 (p.cash + orderValue)
        positionSymbol       := none
        positionQuantity     := some 0
        currentPositionValue := some 0 }

/-- The order row; its key is still 0. -/
def orderOf (side : OrderSide) (quantity price : ℚ) (executionStepId riskCheckId : ℕ)
    (timestamp now : DateTime) : Order where
  id               := 0
  executionStepId  := executionStepId
  riskCheckId      := riskCheckId
  mode             := .simulated
  brokerName       := some .none
  brokerOrderId    := none
  symbol           := spySymbol
  side             := side
  quantity         := numeric 8 quantity
  orderType        := .market
  status           := .filled
  submittedAt      := some timestamp
  filledAt         := some timestamp
  averageFillPrice := some (numeric 8 price)
  errorMessage     := none
  createdAt        := now

/-- The trade; its key and its `order_id` are still 0. -/
def tradeOf (side : OrderSide) (quantity price : ℚ) (executionStepId : ℕ) (timestamp now : DateTime) :
    Trade where
  id                       := 0
  executionStepId          := executionStepId
  orderId                  := 0
  timestamp                := timestamp
  symbol                   := spySymbol
  side                     := side
  quantity                 := numeric 8 quantity
  price                    := numeric 8 price
  orderValue               := numeric 4 (fillValue quantity price)
  fee                      := numeric 8 0
  portfolioValueAfterTrade := none
  createdAt                := now

/-- A booked execution with its two rows. -/
def execute (side : OrderSide) (quantity price : ℚ) (portfolio : Portfolio) (executionStepId riskCheckId : ℕ)
    (timestamp now : DateTime) : SimulationResult where
  order     := some (orderOf side quantity price executionStepId riskCheckId timestamp now)
  trade     := some (tradeOf side quantity price executionStepId timestamp now)
  portfolio := book portfolio side quantity (fillValue quantity price)

/-- `SimulationExecutionProvider.execute_if_applicable`. -/
def executeIfApplicable (riskResult : RiskResult) (portfolio : Portfolio)
    (executionStepId riskCheckId : ℕ) (timestamp : DateTime) (price : ℚ) (now : DateTime) :
    SimulationResult :=
  match riskResult.finalAction, riskResult.finalQuantity with
  | .buy, some quantity =>
      execute .buy quantity price portfolio executionStepId riskCheckId timestamp now
  | .sell, some quantity =>
      execute .sell quantity price portfolio executionStepId riskCheckId timestamp now
  | _, _ => { order := none, trade := none, portfolio }

end SimulationExecutionProvider

end TradingAI
