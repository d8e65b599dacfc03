import TradingAI.Execution.Environment

/-!
# `Execution.StepCreation` — creating the step of a paper call

`validateAndCreateStep` is `PaperTradingStepRunner._validate_and_create_step`: the experiment must be
running and supported, nobody else may hold its advisory lock or have a step in progress, and a scheduled
slot is used once. The step is committed `RUNNING` with the next sequence number.
-/

namespace TradingAI

open Session

/-- `_is_supported_experiment`. -/
def isSupportedExperiment (testModeEnabled : Bool) (experiment : Experiment) (triggerType : TriggerType) :
    Bool :=
  if experiment.mode ≠ .paperTrading then false
  else
    match experiment.strategyType, experiment.tradingFrequency with
    | .buyAndHold, .daily    => isSupportedEquitySymbol experiment.assetSymbol
    | .movingAverage, .daily => isSupportedEquitySymbol experiment.assetSymbol
    | .agenticAi, .daily     => isSupportedEquitySymbol experiment.assetSymbol
    | .agenticAi, .hourly    => isSupportedEquitySymbol experiment.assetSymbol
    | .openingRangeBreakout, .intraday5Min =>
        isSupportedEquitySymbol experiment.assetSymbol ∧ triggerType = .scheduled
    | .paperTradingSmokeTest, .test1Min =>
        testModeEnabled ∧ triggerType = .scheduled ∧ experiment.assetSymbol = spySymbol
    | _, _ => false

/-! ## The errors of step creation -/

def unsupportedTrigger (triggerType : TriggerType) : Raised :=
  invalidExperimentConfigurationAppError
    "Paper trading supports manual, scheduled, and event execution only."
    [("triggerType", .text triggerType.value)]

def experimentNotFound (experimentId : ℕ) : Raised :=
  notFoundAppError "Experiment was not found." [("experimentId", .num experimentId)]

def experimentNotRunning (experimentId : ℕ) (status : ExperimentStatus) : Raised :=
  invalidStatusAppError "Experiment must be RUNNING to execute the next step."
    [("experimentId", .num experimentId), ("status", .text status.value)]

def missingStrategyConfiguration (experimentId : ℕ) : Raised :=
  invalidExperimentConfigurationAppError "Experiment is missing strategy configuration."
    [("experimentId", .num experimentId)]

def unsupportedExperiment (experimentId : ℕ) (e : Experiment) : Raised :=
  invalidExperimentConfigurationAppError
    ("Paper trading supports configured equity symbols for Buy-and-Hold daily, Moving Average daily, "
      ++ "and Agentic AI daily/hourly; Opening Range Breakout and smoke-test remain SPY-only.")
    [("experimentId", .num experimentId), ("mode", .text e.mode.value),
     ("strategyType", .text e.strategyType.value), ("tradingFrequency", .text e.tradingFrequency.value),
     ("assetSymbol", .text e.assetSymbol)]

def stepInProgress (experimentId : ℕ) : Raised :=
  experimentStepAlreadyRunningAppError "Experiment already has a step in progress."
    [("experimentId", .num experimentId)]

def slotTaken (experimentId : ℕ) (scheduledFor : DateTime) : Raised :=
  experimentStepAlreadyRunningAppError
    "Experiment already has a step for the scheduled paper trading slot."
    [("experimentId", .num experimentId), ("scheduledFor", .datetime scheduledFor)]

/-! ## Creating the step -/

/-- The row `_validate_and_create_step` adds. -/
def newStep (id : ℕ) (triggerType : TriggerType) (scheduledFor now : DateTime) (sequenceNumber : ℕ) :
    ExecutionStep where
  id             := id
  scheduledFor   := some scheduledFor
  startedAt      := some now
  completedAt    := none
  status         := .running
  triggerType    := triggerType
  sequenceNumber := sequenceNumber
  errorMessage   := none
  createdAt      := now

/-- Insert a step with a given sequence number; its key is the old `nextId`. -/
def Db.insertStep (db : Db) (triggerType : TriggerType) (scheduledFor now : DateTime)
    (sequenceNumber : ℕ) : Db :=
  { db with
    steps := db.steps ++ [newStep db.nextId triggerType scheduledFor now sequenceNumber]
    nextId := db.nextId + 1 }

/-- Insert the next step. -/
def Db.addNextStep (db : Db) (triggerType : TriggerType) (scheduledFor now : DateTime) : Db :=
  { db with
    steps := db.steps
      ++ [newStep db.nextId triggerType scheduledFor now (db.maxSequenceNumber + 1)]
    nextId := db.nextId + 1 }

theorem Db.addNextStep_eq (db : Db) (triggerType : TriggerType) (scheduledFor now : DateTime) :
    db.addNextStep triggerType scheduledFor now =
      db.insertStep triggerType scheduledFor now (db.maxSequenceNumber + 1) := rfl

/-- The transaction of `_validate_and_create_step`. -/
def createStep (env : StepEnv) (triggerType : TriggerType) (scheduledFor : Option DateTime) :
    DbTx ℕ := do
  env.op .loadExperiment
  let db ← Tx.get
  let experiment ← Tx.expect db.experiment (experimentNotFound db.experimentId)
  Tx.require (experiment.status = .running) (experimentNotRunning db.experimentId experiment.status)
  env.op .loadStrategyConfig
  Tx.require (db.strategyConfig.isSome) (missingStrategyConfiguration db.experimentId)
  Tx.require (isSupportedExperiment env.testModeEnabled experiment triggerType)
    (unsupportedExperiment db.experimentId experiment)
  env.op .tryLock
  Tx.require env.lockAcquired (stepInProgress db.experimentId)
  env.op .hasRunningStep
  Tx.require (db.hasRunningStep = false) (stepInProgress db.experimentId)
  let stepScheduledFor := scheduledFor.getD env.createdAt
  env.opIf (triggerType = .scheduled) .hasStepForSlot
  Tx.require (triggerType = .scheduled → db.hasStepForScheduledSlot stepScheduledFor = false)
    (slotTaken db.experimentId stepScheduledFor)
  env.op .flushStep
  Tx.modify (·.addNextStep triggerType stepScheduledFor env.createdAt)
  env.op .commitStep
  pure db.nextId

/-- `_validate_and_create_step`. -/
def validateAndCreateStep (env : StepEnv) (triggerType : TriggerType) (scheduledFor : Option DateTime) :
    DbProc ℕ := do
  if triggerType = .historical then
    Proc.raise (unsupportedTrigger triggerType)
  else
    Proc.withSession (createStep env triggerType scheduledFor)

end TradingAI
