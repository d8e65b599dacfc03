import TradingAI.Execution.StepCreation
import TradingAI.Execution.StepArtifacts

/-!
# `Execution.PaperStepRunner` — one paper step, from its creation to its result

`runNextStep` and `runEventStep` are the two entry points of `PaperTradingStepRunner`. Both create a
`RUNNING` step in a transaction of its own, run the branch of the experiment's strategy, and, if the risk
check asks for a trade, submit it to the broker and record everything in one last transaction.
`runNextStep` has exception handlers that record a failure; `runEventStep` has none.
-/

namespace TradingAI

open Session PaperExecutionProvider

/-! ## Failures -/

structure PaperStepFailure where
  errorCode    : String
  message      : String
  brokerResult : Option BrokerOrderResult := none

/-- The status words `_controlled_order_failure` lets pass. -/
def supportedStatuses : List String :=
  ["accepted", "new", "pending_new", "partially_filled", "filled", "canceled", "cancelled", "expired"]

/-- `_controlled_order_failure`. -/
def controlledOrderFailure (brokerResult : Option BrokerOrderResult) : Option PaperStepFailure :=
  match brokerResult with
  | none => none
  | some r =>
      if lower r.status = "rejected" then
        some ⟨"ORDER_REJECTED", "Broker rejected the paper order.", some r⟩
      else if ¬ supportedStatuses.contains (lower r.status) then
        some ⟨"ORDER_FAILED", "Broker returned an unsupported order status.", some r⟩
      else none

/-- The `details_json` of `_failure_event`. -/
def failureDetails (experimentId : ℕ) (failure : PaperStepFailure) (providerDetails : Details) : Details :=
  [("experimentId", .num experimentId), ("errorCode", .text failure.errorCode),
   ("provider", .text "alpaca"), ("message", .text failure.message)]
  ++ (match failure.brokerResult with
      | some r => [("brokerOrderId", .text r.brokerOrderId), ("brokerStatus", .text r.status)]
      | none   => [])
  ++ (if providerDetails.isEmpty then [] else [("providerDetails", .dict providerDetails)])

/-- `_failure_event`; its key is still 0. -/
def failureEvent (experimentId : ℕ) (executionStepId : Option ℕ) (failure : PaperStepFailure)
    (now : DateTime) (providerDetails : Details := [])
    (eventType : SystemEventType := .experimentFailed) : SystemEventLog where
  id              := 0
  executionStepId := executionStepId
  timestamp       := now
  level           := .error
  eventType       := eventType
  message         := if eventType = .experimentFailed then "Experiment failed." else failure.message
  details         := failureDetails experimentId failure providerDetails
  createdAt       := now

def Db.addSystemEvent (db : Db) (event : SystemEventLog) : Db :=
  { db with systemEvents := db.systemEvents ++ [{ event with id := db.nextId }], nextId := db.nextId + 1 }

def Db.addBrokerSyncLog (db : Db) (log : BrokerSyncLog) : Db :=
  { db with brokerSyncLogs := db.brokerSyncLogs ++ [{ log with id := db.nextId }], nextId := db.nextId + 1 }

/-- `step.status = FAILED; step.completed_at = now; step.error_message = message`. -/
def ExecutionStep.failedStep (now : DateTime) (message : String) (s : ExecutionStep) : ExecutionStep :=
  { s with status := .failed, completedAt := some now, errorMessage := some message }

/-- `experiment.status = FAILED; experiment.updated_at = now`. -/
def Db.failExperiment (db : Db) (now : DateTime) : Db :=
  { db with experiment := db.experiment.map fun e => { e with status := .failed, updatedAt := now } }

/-! ## Trading and recording -/

/-- Insert the order row of a submission. -/
def Db.addOrder (db : Db) (order : Order) : Db :=
  { db with orders := db.orders ++ [{ order with id := db.nextId }], nextId := db.nextId + 1 }

/-- Insert a trade of the order `orderId`. -/
def Db.addTrade (db : Db) (trade : Trade) (orderId : ℕ) : Db :=
  { db with
    trades := db.trades ++ [{ trade with id := db.nextId, orderId }]
    nextId := db.nextId + 1 }

/-- Flush the order and the trade of an execution; the trade's key, if there is a trade. An order that
    was already there keeps its key. -/
def flushExecution (env : StepEnv) (result : PaperExecutionProvider.Result) : DbTx (Option ℕ) := do
  match result.order with
  | none => pure none
  | some order =>
      let db ← Tx.get
      env.op .flushOrder
      if result.brokerResult.isSome then Tx.modify (·.addOrder order)
      let orderId := if result.brokerResult.isSome then db.nextId else order.id
      match result.trade with
      | none => pure none
      | some trade =>
          let db ← Tx.get
          env.op .flushTrade
          Tx.modify (·.addTrade trade orderId)
          pure (some db.nextId)

/-- Close the step: failed, with the experiment, when the broker's answer is a failure; completed
    otherwise. -/
def Db.finishStep (db : Db) (executionStepId : ℕ) (failure : Option PaperStepFailure) (now : DateTime) :
    Db :=
  match failure with
  | some failure =>
      ((db.updateStep executionStepId (·.failedStep now failure.message)).failExperiment now).addSystemEvent
        (failureEvent db.experimentId (some executionStepId) failure now)
  | none => db.updateStep executionStepId (·.completedStep now)

/-- The rows `_run_broker_execution` needs, if all are there. -/
def Db.brokerRows (db : Db) (executionStepId : ℕ) : Option (Experiment × PortfolioRow) :=
  match db.experiment, db.portfolio, db.getStep executionStepId with
  | some experiment, some portfolio, some _ => some (experiment, portfolio)
  | _, _, _ => none

def loadBrokerState (env : StepEnv) (executionStepId : ℕ) : DbTx (Experiment × PortfolioRow) :=
  loadRows env .loadBrokerState (·.brokerRows executionStepId)

/-- The transaction of `_run_broker_execution`. -/
def brokerExecution (env : StepEnv) (executionStepId : ℕ) (s : Submission) :
    DbTx (Option PaperStepFailure) := do
  let (experiment, portfolio) ← loadBrokerState env executionStepId
  let result ← executeIfApplicable env s.riskResult portfolio.load executionStepId s.riskCheckId s.symbol
    env.executedAt env.executedAt
  let tradeId ← flushExecution env result
  persistSnapshotAndMetrics env executionStepId experiment result.portfolio s.price env.executedAt tradeId
  let failure := controlledOrderFailure result.brokerResult
  Tx.modify (·.finishStep executionStepId failure env.executedAt)
  env.op .commitResult
  pure failure

/-- What follows a branch's transaction: nothing, or `_run_broker_execution`. -/
def continueWith (env : StepEnv) (executionStepId : ℕ) (submission : Option Submission) :
    DbProc (Option PaperStepFailure) :=
  match submission with
  | none   => pure none
  | some s => Proc.withSession (brokerExecution env executionStepId s)

/-! ## The branches -/

/-- `_run_daily_step_artifacts`. -/
def runDailyStepArtifacts (env : StepEnv) (executionStepId : ℕ) : DbProc (Option PaperStepFailure) := do
  let submission ← Proc.withSession (dailyArtifacts env executionStepId)
  continueWith env executionStepId submission

/-- `bars[-1]`. -/
def lastBar (bars : List IntradayBar) : Except Raised IntradayBar :=
  match bars.getLast? with
  | some bar => .ok bar
  | none     => .error (runtimeError "list index out of range")

/-- `_run_orb_step_artifacts`. -/
def runOrbStepArtifacts (env : StepEnv) (executionStepId : ℕ) : DbProc (Option PaperStepFailure) := do
  let (scheduledFor, symbol) ← Proc.readSession (orbSlot env executionStepId)
  let bars ← Proc.ofExcept (env.loadSessionUntil scheduledFor.date scheduledFor symbol)
  let bar ← Proc.ofExcept (lastBar bars)
  let state ← Proc.readSession (orbStateTx env bars bar)
  let submission ← Proc.withSession (orbArtifacts env executionStepId symbol bar state)
  continueWith env executionStepId submission

/-- `_run_agentic_ai_step_artifacts`. -/
def runAgenticAiStepArtifacts (env : StepEnv) (executionStepId : ℕ) (eventId : Option ℕ) :
    DbProc (Option PaperStepFailure) := do
  let submission ← Proc.withSession (agenticArtifacts env executionStepId eventId)
  continueWith env executionStepId submission

/-- The session of `_run_step_artifacts` that reads the strategy. -/
def loadStrategyType (env : StepEnv) : DbTx StrategyType :=
  loadRows env .loadStrategyType fun db => db.experiment.map Experiment.strategyType

/-- `_run_step_artifacts`. -/
def runStepArtifacts (env : StepEnv) (executionStepId : ℕ) (eventId : Option ℕ) :
    DbProc (Option PaperStepFailure) := do
  let strategyType ← Proc.readSession (loadStrategyType env)
  match strategyType with
  | .openingRangeBreakout => runOrbStepArtifacts env executionStepId
  | .agenticAi            => runAgenticAiStepArtifacts env executionStepId eventId
  | _                     => runDailyStepArtifacts env executionStepId

/-! ## Recording an exception -/

/-- What a handler of `run_next_step` records. -/
structure FailureRecord where
  errorCode       : String
  message         : String
  providerDetails : Details := []
  failExperiment  : Bool
  eventType       : SystemEventType

/-- The handler of `run_next_step` for an exception: what it records and what it raises. `none` is for the
    exceptions that are raised again untouched: four application errors, and whatever is outside
    `Exception`. -/
def failureRecord (e : Raised) : Option (FailureRecord × Raised) :=
  match e.kind with
  | .experimentStepAlreadyRunning | .invalidExperimentConfiguration | .invalidStatus | .notFound
  | .base => none
  | .agentProviderConfiguration =>
      some ({ errorCode := "AGENT_PROVIDER_CONFIGURATION_ERROR", message := e.message,
              providerDetails := e.details, failExperiment := true, eventType := .experimentFailed },
            invalidExperimentConfigurationAppError e.message e.details)
  | .marketDataUnavailable =>
      some ({ errorCode := "MARKET_DATA_MISSING", message := e.message, providerDetails := e.details,
              failExperiment := false, eventType := .marketDataMissing }, e)
  | .marketDataProvider =>
      some ({ errorCode := "MARKET_DATA_PROVIDER_ERROR", message := e.message,
              providerDetails := e.details, failExperiment := false, eventType := .marketDataMissing }, e)
  | .brokerProvider =>
      some ({ errorCode := "BROKER_PROVIDER_ERROR", message := e.message, providerDetails := e.details,
              failExperiment := false, eventType := .orderFailed }, e)
  | .brokerConfiguration | .other =>
      some ({ errorCode := "BROKER_PROVIDER_ERROR", message := e.message, failExperiment := false,
              eventType := .orderFailed }, e)

/-- The log of a failed submission; its key is still 0. -/
def submitFailureLog (executionStepId : ℕ) (f : FailureRecord) (now : DateTime) : BrokerSyncLog where
  id              := 0
  executionStepId := executionStepId
  timestamp       := now
  brokerName      := .alpaca
  syncStatus      := .failed
  localCash       := none
  localPositions  := none
  mismatchDetails := [("syncType", .text "PAPER_ORDER_SUBMIT"), ("errorCode", .text f.errorCode),
                      ("providerDetails", .dict f.providerDetails)]
  errorMessage    := some f.message
  createdAt       := now

/-- The rows `_persist_failure` writes. -/
def Db.recordFailure (db : Db) (executionStepId : Option ℕ) (f : FailureRecord) (now : DateTime) : Db :=
  let db := match executionStepId with
    | some id => db.updateStep id (·.failedStep now f.message)
    | none    => db
  if db.experiment.isNone then db
  else
    let db := if f.failExperiment then db.failExperiment now else db
    let db := db.addSystemEvent (failureEvent db.experimentId executionStepId ⟨f.errorCode, f.message, none⟩
      now f.providerDetails f.eventType)
    match executionStepId with
    | some id => if f.eventType = .orderFailed then db.addBrokerSyncLog (submitFailureLog id f now) else db
    | none    => db

/-- `_persist_failure`. -/
def persistFailure (env : StepEnv) (executionStepId : Option ℕ) (f : FailureRecord) : DbProc Unit :=
  Proc.withSession do
    env.op .recordFailure
    Tx.modify (·.recordFailure executionStepId f env.failedAt)

/-- The `except` clauses of `run_next_step`. -/
def handleFailure {α : Type} (env : StepEnv) (executionStepId : Option ℕ) (e : Raised) : DbProc α :=
  match failureRecord e with
  | none => Proc.raise e
  | some (record, raised) => do
      persistFailure env executionStepId record
      Proc.raise raised

/-! ## The entry points -/

structure StepRunResult where
  executionStepId : ℕ
  status          : ExecutionStepStatus
  message         : String
  deriving DecidableEq

/-- `_create_broker_adapter`: a configuration error becomes an application error. -/
def createBrokerAdapter (env : StepEnv) : Except Raised Unit :=
  match env.brokerAdapter with
  | .ok ()   => .ok ()
  | .error e =>
      if e.kind = .brokerConfiguration then
        .error (invalidExperimentConfigurationAppError e.message e.details)
      else .error e

/-- The result of a step that ran to its end. -/
def stepRunResult (executionStepId : ℕ) (completedMessage : String) (failure : Option PaperStepFailure) :
    StepRunResult :=
  match failure with
  | some failure => ⟨executionStepId, .failed, failure.message⟩
  | none         => ⟨executionStepId, .completed, completedMessage⟩

/-- The broker adapter and the step: everything before the step is committed. -/
def openStep (env : StepEnv) (triggerType : TriggerType) (scheduledFor : Option DateTime) :
    DbProc ℕ := do
  Proc.ofExcept (createBrokerAdapter env)
  validateAndCreateStep env triggerType scheduledFor

/-- `PaperTradingStepRunner.run_next_step`. -/
def runNextStep (env : StepEnv) (triggerType : TriggerType) (scheduledFor : Option DateTime) :
    DbProc StepRunResult := do
  match ← Proc.attempt (openStep env triggerType scheduledFor) with
  | .error e => handleFailure env none e
  | .ok executionStepId =>
      match ← Proc.attempt (runStepArtifacts env executionStepId none) with
      | .error e => handleFailure env (some executionStepId) e
      | .ok failure =>
          pure (stepRunResult executionStepId "Paper trading execution step completed." failure)

/-- `PaperTradingStepRunner.run_event_step`. -/
def runEventStep (env : StepEnv) (eventId : ℕ) (scheduledFor : Option DateTime) :
    DbProc StepRunResult := do
  let executionStepId ← openStep env .event scheduledFor
  let failure ← runStepArtifacts env executionStepId (some eventId)
  pure (stepRunResult executionStepId "Event-triggered paper trading step completed." failure)

end TradingAI
