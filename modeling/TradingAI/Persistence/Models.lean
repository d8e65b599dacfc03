import TradingAI.Domain.Values

/-!
# `Persistence.Models` — the rows of one experiment

One structure per table, with the columns the execution package reads or writes. A decimal column is a
`Numeric`, so a row cannot hold a value its column cannot. The `experiment_id` columns are gone: a `Db`
holds the rows of one experiment.

The portfolio has two forms. `PortfolioRow` is what the table holds; `Portfolio` is the loaded object,
whose attributes take any decimal until they are written back.
-/

namespace TradingAI

/-! ## The experiment and its configuration -/

structure Experiment where
  id               : ℕ
  mode             : ExperimentMode
  strategyType     : StrategyType
  assetSymbol      : String
  status           : ExperimentStatus
  initialCapital   : Numeric 4
  startDate        : Date
  endDate          : Date
  tradingFrequency : TradingFrequency
  updatedAt        : DateTime

structure StrategyConfig where
  movingAverageWindow : Option ℕ
  agentMode           : Option AgentMode
  modelName           : Option String
  confidenceThreshold : Option (Numeric 4)
  parametersJson      : Option Details

/-! ## The portfolio -/

/-- A loaded portfolio object. -/
structure Portfolio where
  cash                  : ℚ
  positionSymbol        : Option String
  positionQuantity      : Option ℚ
  currentPrice          : Option ℚ
  currentPositionValue  : Option ℚ
  currentPortfolioValue : Option ℚ
  updatedAt             : DateTime
  deriving DecidableEq

/-- A row of `portfolios`. -/
structure PortfolioRow where
  cash                  : Numeric 4
  positionSymbol        : Option String
  positionQuantity      : Option (Numeric 8)
  currentPrice          : Option (Numeric 8)
  currentPositionValue  : Option (Numeric 4)
  currentPortfolioValue : Option (Numeric 4)
  updatedAt             : DateTime
  deriving DecidableEq

/-- The object the mapper builds from a row. -/
def PortfolioRow.load (r : PortfolioRow) : Portfolio where
  cash                  := r.cash.val
  positionSymbol        := r.positionSymbol
  positionQuantity      := r.positionQuantity.map Numeric.val
  currentPrice          := r.currentPrice.map Numeric.val
  currentPositionValue  := r.currentPositionValue.map Numeric.val
  currentPortfolioValue := r.currentPortfolioValue.map Numeric.val
  updatedAt             := r.updatedAt

/-- The row a flush writes for an object. -/
def Portfolio.row (p : Portfolio) : PortfolioRow where
  cash                  := numeric 4 p.cash
  positionSymbol        := p.positionSymbol
  positionQuantity      := p.positionQuantity.map (numeric 8)
  currentPrice          := p.currentPrice.map (numeric 8)
  currentPositionValue  := p.currentPositionValue.map (numeric 4)
  currentPortfolioValue := p.currentPortfolioValue.map (numeric 4)
  updatedAt             := p.updatedAt

/-- Flushing an untouched object leaves its row as it is. -/
@[simp] theorem PortfolioRow.row_load (r : PortfolioRow) : r.load.row = r := by
  obtain ⟨cash, sym, qty, price, value, total, at_⟩ := r
  have h4 (o : Option (Numeric 4)) : (o.map Numeric.val).map (numeric 4) = o := by
    cases o <;> simp
  have h8 (o : Option (Numeric 8)) : (o.map Numeric.val).map (numeric 8) = o := by
    cases o <;> simp
  simp only [PortfolioRow.load, Portfolio.row, numeric_val, h4, h8]

/-- `portfolio.position_quantity or Decimal("0")`. -/
def Portfolio.heldQuantity (p : Portfolio) : ℚ := p.positionQuantity.getD 0

/-- The position a row records. -/
def PortfolioRow.position (r : PortfolioRow) : ℚ := (r.positionQuantity.map Numeric.val).getD 0

@[simp] theorem PortfolioRow.load_cash (r : PortfolioRow) : r.load.cash = r.cash.val := rfl

@[simp] theorem PortfolioRow.load_heldQuantity (r : PortfolioRow) :
    r.load.heldQuantity = r.position := rfl

/-! ## Execution artifacts -/

structure ExecutionStep where
  id             : ℕ
  scheduledFor   : Option DateTime
  startedAt      : Option DateTime
  completedAt    : Option DateTime
  status         : ExecutionStepStatus
  triggerType    : TriggerType
  sequenceNumber : ℕ
  errorMessage   : Option String
  createdAt      : DateTime
  deriving DecidableEq

structure MarketDataSnapshot where
  id              : ℕ
  executionStepId : ℕ
  timestamp       : DateTime
  symbol          : String
  price           : Option (Numeric 8)
  movingAverage   : Option (Numeric 8)
  createdAt       : DateTime

structure TradingDecision where
  id                   : ℕ
  executionStepId      : ℕ
  marketDataSnapshotId : ℕ
  sourceType           : DecisionSourceType
  sourceName           : String
  action               : TradeAction
  symbol               : String
  confidence           : Numeric 4
  reason               : String
  createdAt            : DateTime

/-- What an agent hands over to be logged. -/
structure AgentDecisionLogPayload where
  agentStepName       : AgentStepName
  agentName           : String
  promptVersion       : String
  modelName           : Option String
  modelVersion        : Option String
  promptText          : Option String
  rawOutputText       : Option String
  parsedOutputJson    : Details
  parsingStatus       : ParsingStatus
  repairPromptText    : Option String
  repairRawOutputText : Option String

structure AgentDecisionLog where
  id                : ℕ
  executionStepId   : ℕ
  tradingDecisionId : ℕ
  agentMode         : AgentMode
  payload           : AgentDecisionLogPayload
  createdAt         : DateTime

structure RiskCheck where
  id                : ℕ
  executionStepId   : ℕ
  tradingDecisionId : ℕ
  approved          : Bool
  finalAction       : FinalAction
  finalQuantity     : Option (Numeric 8)
  finalNotional     : Option (Numeric 4)
  rejectionReason   : Option String
  rulesTriggered    : Details
  createdAt         : DateTime

structure Order where
  id               : ℕ
  executionStepId  : ℕ
  riskCheckId      : ℕ
  mode             : OrderMode
  brokerName       : Option BrokerName
  brokerOrderId    : Option String
  symbol           : String
  side             : OrderSide
  quantity         : Numeric 8
  orderType        : OrderType
  status           : OrderStatus
  submittedAt      : Option DateTime
  filledAt         : Option DateTime
  averageFillPrice : Option (Numeric 8)
  errorMessage     : Option String
  createdAt        : DateTime
  deriving DecidableEq

structure Trade where
  id                       : ℕ
  executionStepId          : ℕ
  orderId                  : ℕ
  timestamp                : DateTime
  symbol                   : String
  side                     : OrderSide
  quantity                 : Numeric 8
  price                    : Numeric 8
  orderValue               : Numeric 4
  fee                      : Numeric 8
  portfolioValueAfterTrade : Option (Numeric 4)
  createdAt                : DateTime
  deriving DecidableEq

structure PortfolioSnapshot where
  id                  : ℕ
  executionStepId     : ℕ
  timestamp           : DateTime
  cash                : Numeric 4
  positionSymbol      : Option String
  positionQuantity    : Option (Numeric 8)
  positionMarketValue : Option (Numeric 4)
  totalPortfolioValue : Option (Numeric 4)
  currentPrice        : Option (Numeric 8)
  createdAt           : DateTime

structure MetricSnapshot where
  id                     : ℕ
  executionStepId        : ℕ
  timestamp              : DateTime
  totalReturn            : Numeric 8
  profitLoss             : Numeric 4
  numberOfTrades         : ℕ
  maxDrawdown            : Numeric 8
  buyAndHoldReturn       : Numeric 8
  differenceToBuyAndHold : Numeric 8
  createdAt              : DateTime

/-! ## Events and logs -/

structure NewsEvent where
  id              : ℕ
  externalEventId : String
  provider        : String
  timestamp       : DateTime
  headline        : String
  summary         : Option String
  source          : Option String
  eventType       : String
  severity        : String
  affectedSymbols : Value

structure EventDecision where
  id                : ℕ
  eventId           : ℕ
  executionStepId   : Option ℕ
  tradingDecisionId : Option ℕ
  status            : EventDecisionStatus
  reason            : Option String
  createdAt         : DateTime
  updatedAt         : DateTime

structure SystemEventLog where
  id              : ℕ
  executionStepId : Option ℕ
  timestamp       : DateTime
  level           : EventLevel
  eventType       : SystemEventType
  message         : String
  details         : Details
  createdAt       : DateTime

structure BrokerSyncLog where
  id              : ℕ
  executionStepId : ℕ
  timestamp       : DateTime
  brokerName      : BrokerName
  syncStatus      : BrokerSyncStatus
  localCash       : Option (Numeric 4)
  localPositions  : Option Details
  mismatchDetails : Details
  errorMessage    : Option String
  createdAt       : DateTime

end TradingAI
