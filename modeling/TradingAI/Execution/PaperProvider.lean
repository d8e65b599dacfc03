import TradingAI.Execution.Environment
import TradingAI.Execution.Risk

/-!
# `Execution.PaperProvider` — submitting an order and booking what it filled at once

`executeIfApplicable` is `PaperExecutionProvider.execute_if_applicable`. It places at most one order per
step, maps the broker's status word, and books an immediate fill on the loaded portfolio. The order row
and the trade are returned for the caller to flush.
-/

namespace TradingAI

open Session Rounding

/-! ## Booking a fill -/

/-- Cash and position after `quantity` shares changed hands for `fillValue`. A sale that leaves nothing,
    or less, closes the position. -/
def Portfolio.bookFill (p : Portfolio) (side : OrderSide) (symbol : String) (quantity fillValue : ℚ) :
    Portfolio :=
  match side with
  | .buy =>
      { p with
        cash := quantize4 (p.cash - fillValue)
        positionSymbol := some symbol
        positionQuantity := some (p.heldQuantity + quantity) }
  | .sell =>
      let remainingQuantity := p.heldQuantity - quantity
      if remainingQuantity ≤ 0 then
        { p with
          cash := quantize4 (p.cash + fillValue)
          positionSymbol := none
          positionQuantity := some 0
          currentPositionValue := some 0 }
      else
        { p with
          cash := quantize4 (p.cash + fillValue)
          positionSymbol := some symbol
          positionQuantity := some remainingQuantity }

/-- `(quantity * price).quantize(Decimal("0.0001"))`. -/
def fillValue (quantity price : ℚ) : ℚ := quantize4 (quantity * price)

theorem fillValue_onGrid (q p : ℚ) : OnGrid 4 (fillValue q p) := quantize4_onGrid _

@[simp] theorem numeric_fillValue (q p : ℚ) : (numeric 4 (fillValue q p)).val = fillValue q p :=
  numeric_val_of_onGrid (fillValue_onGrid q p)

/-- `_apply_fill_to_portfolio`. The trade's `order_id` is still 0. -/
def applyFillToPortfolio (brokerResult : BrokerOrderResult) (averageFillPrice : ℚ) (portfolio : Portfolio)
    (executionStepId : ℕ) (timestamp now : DateTime) : Portfolio × Trade :=
  let value := fillValue brokerResult.filledQuantity averageFillPrice
  (portfolio.bookFill brokerResult.side brokerResult.symbol brokerResult.filledQuantity value,
   { id := 0, executionStepId, orderId := 0, timestamp, symbol := brokerResult.symbol,
     side := brokerResult.side, quantity := numeric 8 brokerResult.filledQuantity,
     price := numeric 8 averageFillPrice, orderValue := numeric 4 value, fee := numeric 8 0,
     portfolioValueAfterTrade := none, createdAt := now })

/-! ## Placing the order -/

/-- `_side_for_action`. -/
def sideForAction : FinalAction → Except Raised OrderSide
  | .buy  => .ok .buy
  | .sell => .ok .sell
  | .hold => .error (runtimeError "Unsupported paper trading action: HOLD")

namespace PaperExecutionProvider

/-- `_map_order_status`: an unknown word means `FAILED`. -/
def mapOrderStatus (status : String) : OrderStatus := (knownOrderStatus status).getD .failed

/-- What the caller gets back; `portfolio` is the loaded portfolio with the fill booked. -/
structure Result where
  order        : Option Order
  trade        : Option Trade
  brokerResult : Option BrokerOrderResult
  rejected     : Bool := false
  portfolio    : Portfolio

/-- Whether there is anything to send: approved, not HOLD, a positive quantity. -/
def applicableQuantity (riskResult : RiskResult) : Option ℚ :=
  if riskResult.approved = false ∨ riskResult.finalAction = .hold then none
  else riskResult.finalQuantity.filter (0 < ·)

def clientOrderId (experimentId executionStepId riskCheckId : ℕ) : String :=
  "experiment-" ++ toString experimentId ++ "-step-" ++ toString executionStepId
    ++ "-risk-" ++ toString riskCheckId

/-- The order row for a broker's answer; its key is still 0. -/
def orderOf (r : BrokerOrderResult) (executionStepId riskCheckId : ℕ) (timestamp now : DateTime) :
    Order where
  id               := 0
  executionStepId  := executionStepId
  riskCheckId      := riskCheckId
  mode             := .paperBroker
  brokerName       := some .alpaca
  brokerOrderId    := some r.brokerOrderId
  symbol           := r.symbol
  side             := r.side
  quantity         := numeric 8 r.quantity
  orderType        := .market
  status           := mapOrderStatus r.status
  submittedAt      := some (r.submittedAt.getD timestamp)
  filledAt         := r.filledAt
  averageFillPrice := r.averageFillPrice.map (numeric 8)
  errorMessage     := r.errorMessage
  createdAt        := now

/-- The immediate fill of an answer, if it reports a quantity and a price. -/
def immediateFill (r : BrokerOrderResult) (portfolio : Portfolio) (executionStepId : ℕ)
    (timestamp now : DateTime) : Portfolio × Option Trade :=
  match r.averageFillPrice with
  | some price =>
      if 0 < r.filledQuantity then
        let (portfolio', trade) := applyFillToPortfolio r price portfolio executionStepId timestamp now
        (portfolio', some trade)
      else (portfolio, none)
  | none => (portfolio, none)

/-- `PaperExecutionProvider.execute_if_applicable`. -/
def executeIfApplicable (env : StepEnv) (riskResult : RiskResult) (portfolio : Portfolio)
    (executionStepId riskCheckId : ℕ) (symbol : String) (timestamp now : DateTime) : DbTx Result :=
  match applicableQuantity riskResult with
  | none => pure { order := none, trade := none, brokerResult := none, portfolio }
  | some quantity => do
      env.op .findExistingOrder
      let db ← Tx.get
      match db.existingOrder executionStepId riskCheckId with
      | some order =>
          pure { order := some order, trade := none, brokerResult := none,
                 rejected := order.status = .rejected, portfolio }
      | none =>
          let side ← Tx.ofExcept (sideForAction riskResult.finalAction)
          let brokerResult ← env.submit
            { symbol, side, quantity, orderType := .market,
              clientOrderId := clientOrderId db.experimentId executionStepId riskCheckId }
          let order := orderOf brokerResult executionStepId riskCheckId timestamp now
          let (portfolio', trade) :=
            immediateFill brokerResult portfolio executionStepId timestamp now
          pure { order := some order, trade, brokerResult := some brokerResult,
                 rejected := order.status = .rejected, portfolio := portfolio' }

end PaperExecutionProvider

end TradingAI
