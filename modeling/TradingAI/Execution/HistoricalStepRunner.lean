import TradingAI.Execution.HistoricalSteps

/-!
# `Execution.HistoricalStepRunner` — one historical step per call

`HistoricalStepRunner.run_next_step` runs the bar after the largest sequence number, with the orchestrators'
own `_run_step`. It remembers nothing between two calls: each asks the provider for all bars again, to pick
the next one, to rebuild the closes up to it by its date, and to see whether it was the last.
-/

namespace TradingAI

/-- What a call is told from outside. -/
structure StepRunnerEnv where
  createdAt    : DateTime
  startedAt    : DateTime
  closedAt     : DateTime
  lockAcquired : Bool := true
  loadRange    : Date → Date → Except Raised (List DailyBar)

/-- `StepRunResult`: the status is the step's, or the experiment's if there was no bar left. -/
structure HistoricalStepResult where
  executionStepId : Option ℕ
  status          : ExecutionStepStatus ⊕ ExperimentStatus
  message         : String

/-! ## Selecting the bar -/

def unsupportedStepping (experimentId : ℕ) (e : Experiment) : Raised :=
  invalidExperimentConfigurationAppError
    "Manual stepping supports only daily historical SPY Buy-and-Hold and Moving Average experiments."
    [("experimentId", .num experimentId), ("mode", .text e.mode.value),
     ("strategyType", .text e.strategyType.value), ("tradingFrequency", .text e.tradingFrequency.value),
     ("assetSymbol", .text e.assetSymbol)]

/-- `_mark_completed_in_session`, of the experiment that was loaded. -/
def Db.markCompleted (db : Db) (e : Experiment) (now : DateTime) : Db :=
  if e.status = .completed then db else db.completeExperiment now

/-- The bar of a call, its sequence number, and the key of its step. -/
structure SelectedBar where
  bar             : DailyBar
  sequenceNumber  : ℕ
  executionStepId : ℕ

/-- `_select_bar_and_create_step`. -/
def selectBarAndCreateStep (env : StepRunnerEnv) (triggerType : TriggerType) (db : Db) :
    Except Raised (Db × Option SelectedBar) :=
  match db.experiment with
  | none   => .error (experimentNotFound db.experimentId)
  | some e =>
      if e.status ≠ .running then .error (experimentNotRunning db.experimentId e.status)
      else if ¬ supportsManualStepping e then .error (unsupportedStepping db.experimentId e)
      else if ¬ env.lockAcquired then .error (stepInProgress db.experimentId)
      else if db.hasRunningStep then .error (stepInProgress db.experimentId)
      else do
        let bars ← env.loadRange e.startDate e.endDate
        let nextIndex := db.maxSequenceNumber
        match bars[nextIndex]? with
        | none     => pure (db.markCompleted e env.closedAt, none)
        | some bar =>
            pure (db.insertStep triggerType bar.barTimestamp env.createdAt (nextIndex + 1),
              some ⟨bar, nextIndex + 1, db.nextId⟩)

/-! ## Running it -/

/-- The closes up to and with the first bar of this date. -/
def pricesThrough (date : Date) : List DailyBar → List ℚ
  | []           => []
  | bar :: bars => bar.adjustedClose :: if bar.date = date then [] else pricesThrough date bars

/-- `_prices_through_bar`. -/
def pricesThroughBar (env : StepRunnerEnv) (bar : DailyBar) (db : Db) : Except Raised (List ℚ) :=
  match db.experiment with
  | none   => .error (experimentNotFound db.experimentId)
  | some e => do
      let bars ← env.loadRange e.startDate e.endDate
      pure (pricesThrough bar.date bars)

/-- `_run_step_artifacts`. Its branch for agents is left out: `_select_bar_and_create_step` has refused
    them. -/
def runHistoricalStepArtifacts (env : StepRunnerEnv) (bar : DailyBar) (executionStepId : ℕ) (db : Db) :
    Except Raised Db :=
  match db.experiment with
  | none   => .error (experimentNotFound db.experimentId)
  | some e =>
      if e.strategyType = .buyAndHold then do
        let (db', _) ← runStep (buyAndHoldStep bar) executionStepId env.startedAt db
        pure db'
      else do
        let prices ← pricesThroughBar env bar db
        let window ← movingAverageWindow db
        let movingAverage := historicalMovingAverage prices window
        let (db', _) ← runStep (movingAverageStep bar movingAverage window) executionStepId env.startedAt db
        pure db'

/-- `_is_final_bar`. -/
def isFinalBar (env : StepRunnerEnv) (sequenceNumber : ℕ) (db : Db) : Except Raised Bool :=
  match db.experiment with
  | none   => .error (experimentNotFound db.experimentId)
  | some e => do
      let bars ← env.loadRange e.startDate e.endDate
      pure (bars.length ≤ sequenceNumber)

/-- `_complete_experiment`. -/
def completeHistorical (env : StepRunnerEnv) (db : Db) : Except Raised Db :=
  match db.experiment with
  | none   => .error (experimentNotFound db.experimentId)
  | some e => pure (db.markCompleted e env.closedAt)

/-- The exception handlers of `run_next_step`. -/
def failHistorical (env : StepRunnerEnv) (failureStepId : Option ℕ) (e : Raised) (db : Db) :
    Db × Except Raised HistoricalStepResult :=
  let driver := Driver.stepRunner 0
  (if driver.records e.kind then
    db.recordHistoricalFailure driver.failureMessage failureStepId e env.closedAt
   else db, .error e)

/-- The completion of the last bar, and the result. -/
def finishHistoricalStep (env : StepRunnerEnv) (selected : SelectedBar) (db : Db) :
    Db × Except Raised HistoricalStepResult :=
  let result : HistoricalStepResult :=
    ⟨some selected.executionStepId, .inl .completed, "Manual execution step completed."⟩
  match isFinalBar env selected.sequenceNumber db with
  | .error e   => failHistorical env none e db
  | .ok false => (db, .ok result)
  | .ok true  =>
      match completeHistorical env db with
      | .error e => failHistorical env none e db
      | .ok db'  => (db', .ok result)

/-- `run_next_step`. -/
def runNextHistoricalStep (env : StepRunnerEnv) (triggerType : TriggerType) (db : Db) :
    Db × Except Raised HistoricalStepResult :=
  match selectBarAndCreateStep env triggerType db with
  | .error e               => failHistorical env none e db
  | .ok (db', none)        =>
      (db', .ok ⟨none, .inr .completed, "Experiment completed; no remaining historical bars."⟩)
  | .ok (db', some selected) =>
      match runHistoricalStepArtifacts env selected.bar selected.executionStepId db' with
      | .error e => failHistorical env (some selected.executionStepId) e db'
      | .ok db'' => finishHistoricalStep env selected db''

/-- One call of `run_next_step`. -/
structure StepperCall where
  env         : StepRunnerEnv
  triggerType : TriggerType

/-- The database after a list of calls. -/
def stepThrough (calls : List StepperCall) (db : Db) : Db :=
  calls.foldl (fun db call => (runNextHistoricalStep call.env call.triggerType db).1) db

end TradingAI
