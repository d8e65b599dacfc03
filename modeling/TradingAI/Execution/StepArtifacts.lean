import TradingAI.Execution.PaperProvider
import TradingAI.Execution.Metrics

/-!
# `Execution.StepArtifacts` — market data, decision and risk check of a paper step

The three strategy branches of `PaperTradingStepRunner`: daily rules and the smoke test, opening range
breakout, and agents. Each runs one transaction that loads the state, stores what it saw and decided, and
ends in one of two ways. Either there is something to trade: the risk check is committed and handed on as
a `Submission`. Or there is not: snapshots are taken and the step is completed in the same transaction.

## Contents
- `StepState`, `loadState`: the four rows every branch needs.
- `persistSnapshotAndMetrics`, `settle`: the end all branches share.
- `dailyArtifacts`, `orbArtifacts`, `agenticArtifacts`.
-/

namespace TradingAI

open Session

/-- A risk check the broker is to be asked to execute. -/
structure Submission where
  riskResult  : RiskResult
  riskCheckId : ℕ
  price       : ℚ
  symbol      : String

def missingState (experimentId : ℕ) : Raised :=
  runtimeError ("Experiment " ++ toString experimentId ++ " is missing state.")

/-! ## Loading -/

/-- The rows a branch loads before it decides. -/
structure StepState where
  experiment : Experiment
  portfolio  : PortfolioRow
  config     : StrategyConfig
  step       : ExecutionStep

/-- The four rows, if all are there. -/
def Db.stepState (db : Db) (executionStepId : ℕ) : Option StepState :=
  match db.experiment, db.portfolio, db.strategyConfig, db.getStep executionStepId with
  | some experiment, some portfolio, some config, some step =>
      some { experiment, portfolio, config, step }
  | _, _, _, _ => none

/-- Load what `rows` picks out; something missing is an error. -/
def loadRows {α : Type} (env : StepEnv) (o : DbOp) (rows : Db → Option α) : DbTx α := do
  env.op o
  let db ← Tx.get
  Tx.expect (rows db) (missingState db.experimentId)

def loadState (env : StepEnv) (executionStepId : ℕ) : DbTx StepState :=
  loadRows env .loadState (·.stepState executionStepId)

/-! ## Storing what was seen and decided -/

def Db.addMarketData (db : Db) (row : MarketDataSnapshot) : Db :=
  { db with marketData := db.marketData ++ [row], nextId := db.nextId + 1 }

def Db.addDecision (db : Db) (row : TradingDecision) : Db :=
  { db with decisions := db.decisions ++ [row], nextId := db.nextId + 1 }

def Db.addRiskCheck (db : Db) (row : RiskCheck) : Db :=
  { db with riskChecks := db.riskChecks ++ [row], nextId := db.nextId + 1 }

def addMarketData (env : StepEnv) (executionStepId : ℕ) (timestamp : DateTime) (symbol : String)
    (price : ℚ) (movingAverage : Option ℚ) : DbTx ℕ := do
  let db ← Tx.get
  let row : MarketDataSnapshot :=
    { id := db.nextId, executionStepId, timestamp, symbol, price := some (numeric 8 price),
      movingAverage := movingAverage.map (numeric 8), createdAt := env.startedAt }
  Tx.modify (·.addMarketData row)
  env.op .flushMarketData
  pure db.nextId

def addDecision (env : StepEnv) (executionStepId marketDataSnapshotId : ℕ)
    (sourceType : DecisionSourceType) (sourceName : String) (confidence : ℚ) (d : StrategyDecision) :
    DbTx ℕ := do
  let db ← Tx.get
  let row : TradingDecision :=
    { id := db.nextId, executionStepId, marketDataSnapshotId, sourceType, sourceName,
      action := d.action, symbol := d.symbol, confidence := numeric 4 confidence, reason := d.reason,
      createdAt := env.startedAt }
  Tx.modify (·.addDecision row)
  env.op .flushDecision
  pure db.nextId

def addRiskCheck (env : StepEnv) (executionStepId tradingDecisionId : ℕ) (r : RiskResult) :
    DbTx ℕ := do
  let db ← Tx.get
  let row : RiskCheck :=
    { id := db.nextId, executionStepId, tradingDecisionId, approved := r.approved,
      finalAction := r.finalAction, finalQuantity := r.finalQuantity.map (numeric 8),
      finalNotional := r.finalNotional.map (numeric 4), rejectionReason := r.rejectionReason,
      rulesTriggered := r.rulesTriggered, createdAt := env.startedAt }
  Tx.modify (·.addRiskCheck row)
  env.op .flushRiskCheck
  pure db.nextId

/-! ## The shared end of a step -/

/-- `_requires_broker_submission`. -/
def requiresBrokerSubmission (r : RiskResult) : Bool :=
  r.approved ∧ (r.finalAction = .buy ∨ r.finalAction = .sell) ∧ r.finalQuantity.any (0 < ·)

/-- The value of the loaded position at `price`, and of the whole portfolio with it. -/
def positionValueAt (portfolio : Portfolio) (price : ℚ) : ℚ := quantize4 (portfolio.heldQuantity * price)

def portfolioValueAt (portfolio : Portfolio) (price : ℚ) : ℚ :=
  quantize4 (portfolio.cash + positionValueAt portfolio price)

/-- The portfolio marked to `price`. -/
def Portfolio.markedTo (p : Portfolio) (price : ℚ) (timestamp : DateTime) : Portfolio :=
  { p with
    currentPrice := some price
    currentPositionValue := some (positionValueAt p price)
    currentPortfolioValue := some (portfolioValueAt p price)
    updatedAt := timestamp }

/-- Write the loaded portfolio back, and the portfolio value into the trade of this step. -/
def Db.writePortfolio (db : Db) (portfolio : Portfolio) (tradeId : Option ℕ) : Db :=
  { db with
    portfolio := some portfolio.row
    trades := db.trades.map fun t =>
      if tradeId = some t.id then
        { t with portfolioValueAfterTrade := portfolio.currentPortfolioValue.map (numeric 4) }
      else t }

/-- The row for `metrics`; its key is still 0. -/
def metricSnapshotOf (metrics : MetricResult) (executionStepId : ℕ) (timestamp : DateTime) :
    MetricSnapshot where
  id                     := 0
  executionStepId        := executionStepId
  timestamp              := timestamp
  totalReturn            := numeric 8 metrics.totalReturn
  profitLoss             := numeric 4 metrics.profitLoss
  numberOfTrades         := metrics.numberOfTrades
  maxDrawdown            := numeric 8 metrics.maxDrawdown
  buyAndHoldReturn       := numeric 8 metrics.buyAndHoldReturn
  differenceToBuyAndHold := numeric 8 metrics.differenceToBuyAndHold
  createdAt              := timestamp

/-- Insert the two snapshots of a step. -/
def Db.addSnapshots (db : Db) (portfolio : PortfolioSnapshot) (metric : MetricSnapshot) : Db :=
  { db with
    portfolioSnapshots := db.portfolioSnapshots ++ [portfolio]
    metricSnapshots := db.metricSnapshots ++ [{ metric with id := db.nextId + 1 }]
    nextId := db.nextId + 2 }

/-- `_persist_snapshot_and_metrics`. -/
def persistSnapshotAndMetrics (env : StepEnv) (executionStepId : ℕ) (experiment : Experiment)
    (portfolio : Portfolio) (price : ℚ) (timestamp : DateTime) (tradeId : Option ℕ) : DbTx Unit := do
  let marked := portfolio.markedTo price timestamp
  Tx.modify (·.writePortfolio marked tradeId)
  env.op .listSnapshots
  let db ← Tx.get
  let previousValues := db.listPortfolioSnapshots.filterMap fun s => s.totalPortfolioValue.map (·.val)
  let snapshot : PortfolioSnapshot :=
    { id := db.nextId, executionStepId, timestamp, cash := numeric 4 marked.cash,
      positionSymbol := marked.positionSymbol,
      positionQuantity := marked.positionQuantity.map (numeric 8),
      positionMarketValue := some (numeric 4 (positionValueAt portfolio price)),
      totalPortfolioValue := some (numeric 4 (portfolioValueAt portfolio price)),
      currentPrice := some (numeric 8 price), createdAt := timestamp }
  env.op .countTrades
  let metrics ← Tx.ofExcept (BasicMetricCalculator.calculate experiment.initialCapital.val
    (portfolioValueAt portfolio price) previousValues db.countTrades)
  Tx.modify (·.addSnapshots snapshot (metricSnapshotOf metrics executionStepId timestamp))

/-- `execution_step.status = COMPLETED; execution_step.completed_at = now`. -/
def ExecutionStep.completedStep (now : DateTime) (s : ExecutionStep) : ExecutionStep :=
  { s with status := .completed, completedAt := some now }

/-- The end of a branch: record the risk check, then either hand it on or complete the step. -/
def settle (env : StepEnv) (executionStepId : ℕ) (st : StepState) (tradingDecisionId : ℕ)
    (riskResult : RiskResult) (price : ℚ) (symbol : String) (timestamp : DateTime) :
    DbTx (Option Submission) := do
  let riskCheckId ← addRiskCheck env executionStepId tradingDecisionId riskResult
  if requiresBrokerSubmission riskResult then
    env.op .commitRiskCheck
    pure (some { riskResult, riskCheckId, price, symbol })
  else
    persistSnapshotAndMetrics env executionStepId st.experiment st.portfolio.load price timestamp none
    Tx.modify (·.updateStep executionStepId (·.completedStep env.startedAt))
    env.op .commitResult
    pure none

/-! ## Daily rules and the smoke test -/

/-- `strategy_config.moving_average_window or DEFAULT_MOVING_AVERAGE_WINDOW`. -/
def StrategyConfig.window (c : StrategyConfig) : ℕ :=
  match c.movingAverageWindow with
  | some 0 => MovingAverageStrategy.defaultMovingAverageWindow
  | some n => n
  | none   => MovingAverageStrategy.defaultMovingAverageWindow

/-- The average of the last `window` closes up to `latest`, if there are that many. -/
def averageOfLast (window : ℕ) (latest : Date) (bars : List DailyBar) : Option ℚ :=
  let eligible := (bars.filter (·.date ≤ latest)).insertionSort fun a b => a.date ≤ b.date
  if eligible.length < window then none
  else
    let total := ((eligible.drop (eligible.length - window)).map DailyBar.adjustedClose).sum
    some (quantize4 (total / window))

/-- `_moving_average_for_step`. -/
def movingAverageForStep (env : StepEnv) (experiment : Experiment) (config : StrategyConfig)
    (latestBar : DailyBar) : Except Raised (Option ℚ) :=
  if experiment.strategyType ≠ .movingAverage then .ok none
  else do
    let lookbackStart := latestBar.date - (config.window * 2 + 10 : ℕ)
    let bars ← env.loadRange lookbackStart latestBar.date experiment.assetSymbol
    .ok (averageOfLast config.window latestBar.date bars)

/-- `_decide`. -/
def decideDaily (experiment : Experiment) (portfolio : Portfolio) (price : ℚ) (movingAverage : Option ℚ)
    (window : ℕ) : StrategyDecision :=
  match experiment.strategyType with
  | .paperTradingSmokeTest => PaperTradingSmokeTestStrategy.decide spySymbol portfolio.positionQuantity
  | .movingAverage =>
      MovingAverageStrategy.decide experiment.assetSymbol price movingAverage portfolio.positionQuantity
        window
  | _ => BuyAndHoldStrategy.decide experiment.assetSymbol portfolio.positionQuantity

/-- `_source_name`. -/
def sourceName : StrategyType → String
  | .paperTradingSmokeTest => PaperTradingSmokeTestStrategy.sourceName
  | .movingAverage         => MovingAverageStrategy.sourceName
  | .openingRangeBreakout  => OpeningRangeBreakoutStrategy.sourceName
  | _                      => BuyAndHoldStrategy.sourceName

/-- The daily branch's risk check: the smoke test replaces the validator's verdict by its own. -/
def dailyRiskResult (experiment : Experiment) (d : StrategyDecision) (portfolio : Portfolio) (price : ℚ) :
    RiskResult :=
  if experiment.strategyType = .paperTradingSmokeTest then smokeTestRiskResult d.action portfolio price
  else evaluate d portfolio price

/-- The transaction of `_run_daily_step_artifacts`. -/
def dailyArtifacts (env : StepEnv) (executionStepId : ℕ) : DbTx (Option Submission) := do
  let st ← loadState env executionStepId
  let symbol := st.experiment.assetSymbol
  let bar ← Tx.ofExcept (env.latestBar symbol)
  let movingAverage ← Tx.ofExcept (movingAverageForStep env st.experiment st.config bar)
  let marketDataId ←
    addMarketData env executionStepId env.startedAt symbol bar.adjustedClose movingAverage
  let decision :=
    decideDaily st.experiment st.portfolio.load bar.adjustedClose movingAverage st.config.window
  let decisionId ← addDecision env executionStepId marketDataId .strategy
    (sourceName st.experiment.strategyType) 1 decision
  let riskResult := dailyRiskResult st.experiment decision st.portfolio.load bar.adjustedClose
  settle env executionStepId st decisionId riskResult bar.adjustedClose symbol env.startedAt

/-! ## Opening range breakout -/

/-- `OPENING_RANGE_END`. -/
def openingRangeEnd : TimeOfDay := timeOfDay 9 55

/-- `max(...)`, of a list that may be empty. -/
def maxOf (values : List ℚ) : Option ℚ :=
  match values with
  | []      => none
  | v :: vs => some (vs.foldl max v)

/-- `min(...)`, of a list that may be empty. -/
def minOf (values : List ℚ) : Option ℚ :=
  match values with
  | []      => none
  | v :: vs => some (vs.foldl min v)

/-- `_orb_round_trip_completed`. -/
def Db.orbRoundTripCompleted (db : Db) (sessionDate : Date) : Bool :=
  db.trades.any fun t => t.side = .sell ∧ t.timestamp.date = sessionDate

/-- `_orb_state`. -/
def orbState (env : StepEnv) (db : Db) (bars : List IntradayBar) (bar : IntradayBar) :
    OpeningRangeBreakoutState :=
  let openingRangeBars := bars.filter (·.timestamp.time ≤ openingRangeEnd)
  let openingRangeComplete : Bool := openingRangeEnd < bar.timestamp.time
  { sessionDate := bar.sessionDate
    openingRangeHigh :=
      if openingRangeComplete then maxOf (openingRangeBars.map IntradayBar.high) else none
    openingRangeLow :=
      if openingRangeComplete then minOf (openingRangeBars.map IntradayBar.low) else none
    openingRangeComplete
    finalBar := env.finalBarStart bar.sessionDate = some bar.timestamp
    roundTripCompleted := db.orbRoundTripCompleted bar.sessionDate }

/-- The first session of `_run_orb_step_artifacts`: the slot and the symbol. -/
def orbSlot (env : StepEnv) (executionStepId : ℕ) : DbTx (DateTime × String) := do
  env.op .loadSlot
  let db ← Tx.get
  let scheduledFor ← Tx.expect ((db.getStep executionStepId).bind ExecutionStep.scheduledFor)
    (runtimeError "Scheduled ORB paper step is missing its slot.")
  let experiment ← Tx.expect db.experiment (missingState db.experimentId)
  pure (scheduledFor, experiment.assetSymbol)

/-- The session of `_orb_round_trip_completed`. -/
def orbStateTx (env : StepEnv) (bars : List IntradayBar) (bar : IntradayBar) :
    DbTx OpeningRangeBreakoutState := do
  env.op .listTrades
  let db ← Tx.get
  pure (orbState env db bars bar)

/-- The last transaction of `_run_orb_step_artifacts`. -/
def orbArtifacts (env : StepEnv) (executionStepId : ℕ) (symbol : String) (bar : IntradayBar)
    (state : OpeningRangeBreakoutState) : DbTx (Option Submission) := do
  let st ← loadState env executionStepId
  let marketDataId ← addMarketData env executionStepId bar.timestamp symbol bar.close none
  let decision := OpeningRangeBreakoutStrategy.decide symbol bar.close
    st.portfolio.load.positionQuantity state
  let decisionId ← addDecision env executionStepId marketDataId .strategy
    OpeningRangeBreakoutStrategy.sourceName 1 decision
  let riskResult := evaluate decision st.portfolio.load bar.close
  settle env executionStepId st decisionId riskResult bar.close symbol bar.timestamp

/-! ## Agents -/

/-- `_agent_market_bar`: hourly experiments aggregate the slot's intraday bars. -/
def agentMarketBar (env : StepEnv) (experiment : Experiment) (step : ExecutionStep) :
    Except Raised DailyBar :=
  if experiment.tradingFrequency = .hourly then
    env.hourlyBar experiment.assetSymbol (step.scheduledFor.getD env.startedAt)
  else env.latestBar experiment.assetSymbol

/-- `_event_context`. -/
def eventContext (db : Db) (eventId : Option ℕ) : Option Details :=
  eventId.bind fun id => (db.newsEvents.find? (·.id = id)).map fun event =>
    [("eventId", .num event.id), ("externalEventId", .text event.externalEventId),
     ("provider", .text event.provider), ("timestamp", .datetime event.timestamp),
     ("headline", .text event.headline), ("summary", event.summary.elim .null .text),
     ("source", event.source.elim .null .text), ("eventType", .text event.eventType),
     ("severity", .text event.severity), ("affectedSymbols", event.affectedSymbols)]

/-- `strategy_config.model_name or settings.scadsai_default_model`. -/
def selectedModel (env : StepEnv) (config : StrategyConfig) : String :=
  match config.modelName with
  | some name => if name = "" then env.defaultModel else name
  | none      => env.defaultModel

/-- `agent_result.log_payloads or (agent_result.log_payload,)`. -/
def AgentRunResult.payloads (r : AgentRunResult) : List AgentDecisionLogPayload :=
  if r.logPayloads.isEmpty then [r.logPayload] else r.logPayloads

/-- Insert one row for each payload. -/
def Db.addAgentLogs (db : Db) (executionStepId tradingDecisionId : ℕ) (agentMode : AgentMode)
    (payloads : List AgentDecisionLogPayload) (now : DateTime) : Db :=
  { db with
    agentLogs := db.agentLogs ++ payloads.mapIdx fun i payload =>
      { id := db.nextId + i, executionStepId, tradingDecisionId, agentMode, payload, createdAt := now }
    nextId := db.nextId + payloads.length }

def addAgentLogs (env : StepEnv) (executionStepId tradingDecisionId : ℕ) (agentMode : AgentMode)
    (payloads : List AgentDecisionLogPayload) : DbTx Unit := do
  Tx.modify (·.addAgentLogs executionStepId tradingDecisionId agentMode payloads env.startedAt)
  env.op .flushAgentLogs

/-- `_mark_event_decision_triggered`, on the row it finds or adds. -/
def Db.markEventDecision (db : Db) (eventId executionStepId tradingDecisionId : ℕ) (now : DateTime) : Db :=
  if db.eventDecisions.any (·.eventId = eventId) then
    { db with
      eventDecisions := db.eventDecisions.map fun d =>
        if d.eventId = eventId then
          { d with
            executionStepId := some executionStepId
            tradingDecisionId := some tradingDecisionId
            status := .triggered
            reason := some "Event-triggered agent run executed."
            updatedAt := now }
        else d }
  else
    let row : EventDecision :=
      { id := db.nextId, eventId, executionStepId := some executionStepId,
        tradingDecisionId := some tradingDecisionId, status := .triggered,
        reason := some "Event-triggered agent run executed.", createdAt := now, updatedAt := now }
    { db with eventDecisions := db.eventDecisions ++ [row], nextId := db.nextId + 1 }

/-- The same, when the step was not triggered by an event: nothing. -/
def Db.markEvent (db : Db) (eventId : Option ℕ) (executionStepId tradingDecisionId : ℕ)
    (now : DateTime) : Db :=
  match eventId with
  | some eventId => db.markEventDecision eventId executionStepId tradingDecisionId now
  | none         => db

/-- `_mark_event_decision_triggered`. -/
def markEventDecisionTriggered (env : StepEnv) (eventId : Option ℕ)
    (executionStepId tradingDecisionId : ℕ) : DbTx Unit := do
  env.opIf eventId.isSome .loadEventDecision
  Tx.modify (·.markEvent eventId executionStepId tradingDecisionId env.startedAt)

/-- The transaction of `_run_agentic_ai_step_artifacts`. -/
def agenticArtifacts (env : StepEnv) (executionStepId : ℕ) (eventId : Option ℕ) :
    DbTx (Option Submission) := do
  let st ← loadState env executionStepId
  let model := selectedModel env st.config
  let agentMode := st.config.agentMode.getD .singleAgent
  let symbol := st.experiment.assetSymbol
  let bar ← Tx.ofExcept (agentMarketBar env st.experiment st.step)
  Tx.ofExcept (env.createAgentStrategy model agentMode)
  let timestamp := bar.timestamp.getD env.startedAt
  let marketDataId ← addMarketData env executionStepId timestamp symbol bar.adjustedClose none
  env.opIf eventId.isSome .loadEvent
  let db ← Tx.get
  let portfolio := st.portfolio.load
  let result ← Tx.ofExcept (env.agentDecide
    { experimentId := db.experimentId, executionStepId, symbol, bar, cash := portfolio.cash,
      positionQuantity := portfolio.positionQuantity,
      currentPortfolioValue := portfolio.currentPortfolioValue,
      confidenceThreshold := st.config.confidenceThreshold.map (·.val),
      parametersJson := st.config.parametersJson, agentMode, modelName := some model,
      eventContext := eventContext db eventId })
  let decisionId ← addDecision env executionStepId marketDataId .agent "AgenticAIStrategy"
    result.decision.confidence result.decision.toStrategyDecision
  addAgentLogs env executionStepId decisionId agentMode result.payloads
  markEventDecisionTriggered env eventId executionStepId decisionId
  let riskResult := evaluateTargetExposure result.decision portfolio bar.adjustedClose
  settle env executionStepId st decisionId riskResult bar.adjustedClose symbol timestamp

end TradingAI
