import TradingAI.Execution.SimulationProvider
import TradingAI.Execution.HistoricalDrivers
import Mathlib.Data.Finset.Sort

/-!
# `Execution.HistoricalSteps` — the historical orchestrators, bar by bar

`runStep` is the transaction all three `_run_step`s share; a `BarStep` is what they do not share: where the
price comes from, the moving average, and the strategy. `RunState.runBar` creates the step and runs it.

A run that raises stops where it is: the transaction is rolled back, and `RunState.close` records the
failure with the step it happened in. `history` is no part of the program: it keeps the database as every
completed step left it.

## Contents
- `BarStep`, `runStep`, with the bar steps of the three strategies.
- `RunState`, `runSteps`: the loop over the bars of a session, or of a daily run.
- `HistoricalOrchestrator.run`.
-/

namespace TradingAI

/-! ## One step -/

/-- A bar as `_run_step` reads it, with the strategy that decides on it. -/
structure BarStep where
  timestamp     : DateTime
  price         : ℚ
  movingAverage : Option ℚ
  sourceName    : String
  decide        : Option ℚ → StrategyDecision

def executionStepNotFound (executionStepId : ℕ) : Raised :=
  runtimeError ("Execution step " ++ toString executionStepId ++ " was not found.")

def BarStep.marketDataRow (s : BarStep) (id executionStepId : ℕ) (now : DateTime) : MarketDataSnapshot where
  id              := id
  executionStepId := executionStepId
  timestamp       := s.timestamp
  symbol          := spySymbol
  price           := some (numeric 8 s.price)
  movingAverage   := s.movingAverage.map (numeric 8)
  createdAt       := now

def BarStep.decisionRow (s : BarStep) (id executionStepId marketDataSnapshotId : ℕ) (now : DateTime)
    (d : StrategyDecision) : TradingDecision where
  id                   := id
  executionStepId      := executionStepId
  marketDataSnapshotId := marketDataSnapshotId
  sourceType           := .strategy
  sourceName           := s.sourceName
  action               := d.action
  symbol               := d.symbol
  confidence           := numeric 4 1
  reason               := d.reason
  createdAt            := now

def RiskResult.row (r : RiskResult) (id executionStepId tradingDecisionId : ℕ) (now : DateTime) :
    RiskCheck where
  id                := id
  executionStepId   := executionStepId
  tradingDecisionId := tradingDecisionId
  approved          := r.approved
  finalAction       := r.finalAction
  finalQuantity     := r.finalQuantity.map (numeric 8)
  finalNotional     := r.finalNotional.map (numeric 4)
  rejectionReason   := r.rejectionReason
  rulesTriggered    := r.rulesTriggered
  createdAt         := now

/-- The rows up to the risk check. Their keys are the next three. -/
def Db.recordDecision (db : Db) (s : BarStep) (executionStepId : ℕ) (now : DateTime) (d : StrategyDecision)
    (r : RiskResult) : Db :=
  ((db.addMarketData (s.marketDataRow db.nextId executionStepId now)).addDecision
    (s.decisionRow (db.nextId + 1) executionStepId db.nextId now d)).addRiskCheck
    (r.row (db.nextId + 2) executionStepId (db.nextId + 1) now)

/-- The order and the trade of an execution, if it has both. Their keys are the next two. -/
def Db.recordExecution (db : Db) (result : SimulationResult) : Db :=
  match result.order, result.trade with
  | some order, some trade => (db.addOrder order).addTrade trade db.nextId
  | _, _                   => db

/-- The key of the trade `recordExecution` adds, if it adds one. -/
def Db.executionTradeId (db : Db) (result : SimulationResult) : Option ℕ :=
  match result.order, result.trade with
  | some _, some _ => some (db.nextId + 1)
  | _, _           => none

def BarStep.snapshotRow (s : BarStep) (id executionStepId : ℕ) (now : DateTime) (portfolio : Portfolio) :
    PortfolioSnapshot where
  id                  := id
  executionStepId     := executionStepId
  timestamp           := s.timestamp
  cash                := numeric 4 portfolio.cash
  positionSymbol      := portfolio.positionSymbol
  positionQuantity    := portfolio.positionQuantity.map (numeric 8)
  positionMarketValue := some (numeric 4 (positionValueAt portfolio s.price))
  totalPortfolioValue := some (numeric 4 (portfolioValueAt portfolio s.price))
  currentPrice        := some (numeric 8 s.price)
  createdAt           := now

/-- The portfolio marked to the bar, the two snapshots, and the completed step. -/
def Db.recordResult (db : Db) (initialCapital : ℚ) (s : BarStep) (executionStepId : ℕ) (now : DateTime)
    (portfolio : Portfolio) (tradeId : Option ℕ) : Except Raised Db := do
  let db := db.writePortfolio (portfolio.markedTo s.price now) tradeId
  let previousValues := db.listPortfolioSnapshots.filterMap fun p => p.totalPortfolioValue.map (·.val)
  let metrics ← BasicMetricCalculator.calculate initialCapital (portfolioValueAt portfolio s.price)
    previousValues db.countTrades
  let metric := { metricSnapshotOf metrics executionStepId s.timestamp with createdAt := now }
  pure ((db.addSnapshots (s.snapshotRow db.nextId executionStepId now portfolio) metric).updateStep
    executionStepId (·.completedStep now))

/-- The risk check of a bar, from the portfolio its step loads. -/
def BarStep.riskResult (s : BarStep) (portfolio : Portfolio) : RiskResult :=
  evaluate (s.decide portfolio.positionQuantity) portfolio s.price

/-- What is executed at a bar. -/
def BarStep.execution (s : BarStep) (portfolio : Portfolio) (executionStepId riskCheckId : ℕ)
    (now : DateTime) : SimulationResult :=
  SimulationExecutionProvider.executeIfApplicable (s.riskResult portfolio) portfolio executionStepId
    riskCheckId s.timestamp s.price now

/-- `_run_step`. The result says whether a SELL was executed: `completed_round_trip`. -/
def runStep (s : BarStep) (executionStepId : ℕ) (now : DateTime) (db : Db) : Except Raised (Db × Bool) :=
  match db.experiment, db.portfolio, db.strategyConfig with
  | some experiment, some row, some _ =>
      match db.getStep executionStepId with
      | none => .error (executionStepNotFound executionStepId)
      | some _ => do
          let portfolio := row.load
          let decided := db.recordDecision s executionStepId now (s.decide portfolio.positionQuantity)
            (s.riskResult portfolio)
          let result := s.execution portfolio executionStepId (db.nextId + 2) now
          let db' ← (decided.recordExecution result).recordResult experiment.initialCapital.val s
            executionStepId now result.portfolio (decided.executionTradeId result)
          pure (db', (s.riskResult portfolio).finalAction = .sell ∧ result.trade.isSome)
  | _, _, _ => .error (missingState db.experimentId)

/-! ## The strategies -/

/-- `HistoricalBuyAndHoldOrchestrator._run_step`. -/
def buyAndHoldStep (bar : DailyBar) : BarStep where
  timestamp     := bar.barTimestamp
  price         := bar.adjustedClose
  movingAverage := none
  sourceName    := BuyAndHoldStrategy.sourceName
  decide        := BuyAndHoldStrategy.decide spySymbol

/-- `HistoricalMovingAverageOrchestrator._moving_average`. -/
def historicalMovingAverage (prices : List ℚ) (window : ℕ) : Option ℚ :=
  if prices.length < window then none
  else some (quantize8 ((prices.drop (prices.length - window)).sum / window))

/-- `HistoricalMovingAverageOrchestrator._run_step`. -/
def movingAverageStep (bar : DailyBar) (movingAverage : Option ℚ) (window : ℕ) : BarStep where
  timestamp     := bar.barTimestamp
  price         := bar.adjustedClose
  movingAverage := movingAverage
  sourceName    := MovingAverageStrategy.sourceName
  decide        := fun positionQuantity =>
    MovingAverageStrategy.decide spySymbol bar.adjustedClose movingAverage positionQuantity window

/-- `HistoricalOpeningRangeBreakoutOrchestrator._run_step`. -/
def openingRangeStep (bar : IntradayBar) (state : OpeningRangeBreakoutState) : BarStep where
  timestamp     := bar.timestamp
  price         := bar.close
  movingAverage := none
  sourceName    := OpeningRangeBreakoutStrategy.sourceName
  decide        := fun positionQuantity =>
    OpeningRangeBreakoutStrategy.decide spySymbol bar.close positionQuantity state

/-! ## The loop -/

/-- The clock as a step reads it: when it is created and when it runs. -/
structure StepClock where
  createdAt : DateTime
  startedAt : DateTime

/-- A completed step: its key, its bar, and the database it left. -/
structure StepRecord where
  executionStepId : ℕ
  bar             : BarStep
  db              : Db

/-- Where a run is. `raised` is the exception that ended its loop, with `current_step_id`. -/
structure RunState where
  db      : Db
  history : List StepRecord := []
  raised  : Option (Option ℕ × Raised) := none

/-- `_create_running_step` and `_run_step`. -/
def RunState.runBar (clock : StepClock) (s : BarStep) (rs : RunState) : RunState × Bool :=
  let executionStepId := rs.db.nextId
  let opened := rs.db.addNextStep .historical s.timestamp clock.createdAt
  match runStep s executionStepId clock.startedAt opened with
  | .ok (db, completedRoundTrip) =>
      ({ rs with db, history := rs.history ++ [⟨executionStepId, s, db⟩] }, completedRoundTrip)
  | .error e => ({ rs with db := opened, raised := some (some executionStepId, e) }, false)

/-- The loop over bars. What to do at a bar may depend on `round_trip_completed`, which a SELL sets; the
    daily loops do not look at it. The clock goes on with every step. -/
def runSteps (clock : ℕ → StepClock) : List (Bool → BarStep) → Bool → RunState → RunState
  | [], _, rs => rs
  | step :: steps, roundTripCompleted, rs =>
      match rs.raised with
      | some _ => rs
      | none   =>
          let (rs', completed) := rs.runBar (clock rs.history.length) (step roundTripCompleted)
          runSteps clock steps (roundTripCompleted || completed) rs'

/-! ## The three runs -/

/-- The answers of the data providers, and the clock. -/
structure HistoricalEnv where
  clock             : ℕ → StepClock
  closedAt          : DateTime
  loadRange         : Date → Date → Except Raised (List DailyBar)
  loadIntradayRange : Date → Date → String → TradingFrequency → Except Raised (List IntradayBar)

/-- The bars of a buy-and-hold run. -/
def buyAndHoldSteps (bars : List DailyBar) : List (Bool → BarStep) := bars.map fun bar _ => buyAndHoldStep bar

/-- The bars of a moving-average run; `prices` are the closes the loop has appended so far. -/
def movingAverageSteps (window : ℕ) : List ℚ → List DailyBar → List (Bool → BarStep)
  | _, []               => []
  | prices, bar :: bars =>
      let prices := prices ++ [bar.adjustedClose]
      (fun _ => movingAverageStep bar (historicalMovingAverage prices window) window)
        :: movingAverageSteps window prices bars

/-- `_group_by_session`. -/
def groupBySession (bars : List IntradayBar) : List (List IntradayBar) :=
  ((bars.map IntradayBar.sessionDate).toFinset.sort (· ≤ ·)).map fun sessionDate =>
    bars.filter (·.sessionDate = sessionDate)

/-- What `max` and `min` raise. -/
def emptySequence (function : String) : Raised :=
  ⟨.other, function ++ "() iterable argument is empty", []⟩

/-- `opening_range_high` and `opening_range_low` of a session. -/
def openingRange (sessionBars : List IntradayBar) : Except Raised (ℚ × ℚ) :=
  let openingBars := sessionBars.filter (·.timestamp.time ≤ openingRangeEnd)
  match maxOf (openingBars.map IntradayBar.high), minOf (openingBars.map IntradayBar.low) with
  | some high, some low => .ok (high, low)
  | none, _             => .error (emptySequence "max")
  | _, none             => .error (emptySequence "min")

/-- The state the loop over a session builds for a bar. -/
def sessionState (sessionBars : List IntradayBar) (high low : ℚ) (bar : IntradayBar)
    (roundTripCompleted : Bool) : OpeningRangeBreakoutState :=
  let openingRangeComplete : Bool := openingRangeEnd < bar.timestamp.time
  { sessionDate          := bar.sessionDate
    openingRangeHigh     := if openingRangeComplete then some high else none
    openingRangeLow      := if openingRangeComplete then some low else none
    openingRangeComplete
    finalBar             := sessionBars.getLast?.map IntradayBar.timestamp = some bar.timestamp
    roundTripCompleted }

/-- The bars of a session. -/
def sessionSteps (sessionBars : List IntradayBar) (high low : ℚ) : List (Bool → BarStep) :=
  sessionBars.map fun bar roundTripCompleted =>
    openingRangeStep bar (sessionState sessionBars high low bar roundTripCompleted)

/-- The loop over sessions. -/
def runSessions (clock : ℕ → StepClock) : List (List IntradayBar) → RunState → RunState
  | [], rs => rs
  | sessionBars :: sessions, rs =>
      match rs.raised with
      | some _ => rs
      | none   =>
          match openingRange sessionBars with
          | .error e         => { rs with raised := some (none, e) }
          | .ok (high, low) => runSessions clock sessions (runSteps clock (sessionSteps sessionBars high low) false rs)

def experimentWasNotFound (experimentId : ℕ) : Raised :=
  runtimeError ("Experiment " ++ toString experimentId ++ " was not found.")

def missingConfiguration (experimentId : ℕ) : Raised :=
  runtimeError ("Experiment " ++ toString experimentId ++ " is missing strategy configuration.")

/-- `_moving_average_window`. -/
def movingAverageWindow (db : Db) : Except Raised ℕ :=
  match db.strategyConfig with
  | some config => .ok config.window
  | none        => .error (missingConfiguration db.experimentId)

namespace HistoricalOrchestrator

/-- The `try` body of `run` before its loop, and the loop. -/
def loop (o : HistoricalOrchestrator) (env : HistoricalEnv) (e : Experiment) (db : Db) :
    Except Raised RunState :=
  match o with
  | .buyAndHold => do
      let bars ← env.loadRange e.startDate e.endDate
      pure (runSteps env.clock (buyAndHoldSteps bars) false { db })
  | .movingAverage => do
      let bars ← env.loadRange e.startDate e.endDate
      let window ← movingAverageWindow db
      pure (runSteps env.clock (movingAverageSteps window [] bars) false { db })
  | .openingRangeBreakout => do
      let bars ← env.loadIntradayRange e.startDate e.endDate e.assetSymbol e.tradingFrequency
      pure (runSessions env.clock (groupBySession bars) { db })

/-- `_complete_experiment`, or `_persist_failure` and the exception again. -/
def close (o : HistoricalOrchestrator) (env : HistoricalEnv) (rs : RunState) : RunState :=
  match rs.raised with
  | some (executionStepId, e) =>
      if e.kind = .base then rs
      else
        { rs with db := rs.db.recordHistoricalFailure o.failureMessage executionStepId e env.closedAt }
  | none =>
      match rs.db.experiment with
      | some _ => { rs with db := rs.db.completeExperiment env.closedAt }
      | none   =>
          let e := experimentWasNotFound rs.db.experimentId
          { rs with
            db     := rs.db.recordHistoricalFailure o.failureMessage none e env.closedAt
            raised := some (none, e) }

/-- `run`. -/
def run (o : HistoricalOrchestrator) (env : HistoricalEnv) (db : Db) : RunState :=
  match db.experiment with
  | none   => o.close env { db, raised := some (none, experimentWasNotFound db.experimentId) }
  | some e =>
      match o.loop env e db with
      | .ok rs   => o.close env rs
      | .error e => o.close env { db, raised := some (none, e) }

end HistoricalOrchestrator

end TradingAI
