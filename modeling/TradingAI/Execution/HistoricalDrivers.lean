import TradingAI.Execution.StepTransactions

/-!
# `Execution.HistoricalDrivers` — the two drivers of a historical experiment

Starting a historical experiment launches an orchestrator, which runs every bar in a loop. The same
experiment is also advanced one bar at a time by `HistoricalStepRunner.run_next_step`, from the API and from
the scheduler. Each creates a step in one transaction and completes it in another.

The step runner takes the experiment's advisory lock, refuses if a step is running, and picks the bar after
the largest sequence number. The orchestrator does none of this: it takes the bar its loop is at.

`historicalDrivers bars` is the program of a thread of either kind; `bars` are the timestamps of the bars
both get from `load_range`, in order.

## Contents
- `Db.completeExperiment`, `Db.recordHistoricalFailure`.
- `HistoricalThread`, `HistoricalChoice`, `historicalDrivers`.
-/

namespace TradingAI

open Transactions

/-! ## Ends -/

/-- `experiment.status = status; experiment.updated_at = now`. -/
def Db.setStatus (db : Db) (status : ExperimentStatus) (now : DateTime) : Db :=
  { db with experiment := db.experiment.map fun e => { e with status, updatedAt := now } }

@[simp] theorem Db.status_setStatus (db : Db) (status : ExperimentStatus) (now : DateTime) :
    (db.setStatus status now).status = db.status.map fun _ => status := by
  unfold Db.status Db.setStatus
  cases db.experiment <;> rfl

@[simp] theorem Db.status_addSystemEvent (db : Db) (event : SystemEventLog) :
    (db.addSystemEvent event).status = db.status := rfl

/-- The event of a completed experiment; its key is still 0. -/
def completedEvent (experimentId : ℕ) (now : DateTime) : SystemEventLog where
  id              := 0
  executionStepId := none
  timestamp       := now
  level           := .info
  eventType       := .experimentCompleted
  message         := "Experiment completed."
  details         := [("experimentId", .num experimentId)]
  createdAt       := now

/-- The rows of `_complete_experiment` and of `_mark_completed_in_session`. -/
def Db.completeExperiment (db : Db) (now : DateTime) : Db :=
  (db.setStatus .completed now).addSystemEvent (completedEvent db.experimentId now)

theorem Db.status_completeExperiment (db : Db) (now : DateTime) :
    (db.completeExperiment now).status = db.status.map fun _ => .completed := db.status_setStatus ..

/-- `_failure_details`. -/
def historicalFailureDetails (experimentId : ℕ) (e : Raised) : Details :=
  ("experimentId", .num experimentId) ::
    match e.kind with
    | .marketDataUnavailable =>
        [("errorCode", .text "MARKET_DATA_MISSING"), ("providerDetails", .dict e.details)]
    | .marketDataProvider =>
        [("errorCode", .text "MARKET_DATA_PROVIDER_ERROR"), ("providerDetails", .dict e.details)]
    | _ => []

/-- The event of a failed experiment; its key is still 0. -/
def historicalFailureEvent (experimentId : ℕ) (executionStepId : Option ℕ) (e : Raised) (now : DateTime) :
    SystemEventLog where
  id              := 0
  executionStepId := executionStepId
  timestamp       := now
  level           := .error
  eventType       := .experimentFailed
  message         := "Experiment failed."
  details         := historicalFailureDetails experimentId e
  createdAt       := now

/-- `step.status = FAILED` and the rest, for the step of a failure, if it has one. -/
def Db.failStep (db : Db) (executionStepId : Option ℕ) (now : DateTime) (message : String) : Db :=
  match executionStepId with
  | some id => db.updateStep id (·.failedStep now message)
  | none    => db

/-- The rows of both `_persist_failure`s. -/
def Db.recordHistoricalFailure (db : Db) (message : String) (executionStepId : Option ℕ) (e : Raised)
    (now : DateTime) : Db :=
  let db := db.failStep executionStepId now message
  if db.experiment.isNone then db
  else
    (db.setStatus .failed now).addSystemEvent
      (historicalFailureEvent db.experimentId executionStepId e now)

theorem Db.status_recordHistoricalFailure (db : Db) (message : String) (id : Option ℕ) (e : Raised)
    (now : DateTime) :
    (db.recordHistoricalFailure message id e now).status = db.status.map fun _ => .failed := by
  have hexp : (db.failStep id now message).experiment = db.experiment := by cases id <;> rfl
  unfold Db.recordHistoricalFailure
  dsimp only
  split
  · next h =>
      have hnone : db.experiment = none := by rw [← hexp]; simpa using h
      simp [Db.status, hexp, hnone]
  · rw [Db.status_addSystemEvent, Db.status_setStatus, Db.status, hexp]; rfl

/-- The steps a failure leaves: its own failed, the others as they were. -/
theorem Db.recordHistoricalFailure_steps (db : Db) (message : String) (id : Option ℕ) (e : Raised)
    (now : DateTime) :
    (db.recordHistoricalFailure message id e now).steps = (db.failStep id now message).steps := by
  unfold Db.recordHistoricalFailure
  dsimp only
  split <;> rfl

/-! ## The drivers -/

inductive HistoricalOrchestrator
  | buyAndHold | movingAverage | openingRangeBreakout
  deriving DecidableEq, Repr

/-- `failure_message`. -/
def HistoricalOrchestrator.failureMessage : HistoricalOrchestrator → String
  | .buyAndHold           => "Historical Buy-and-Hold simulation failed."
  | .movingAverage        => "Historical Moving Average simulation failed."
  | .openingRangeBreakout => "Historical Opening Range Breakout simulation failed."

/-- Who runs a step: a call of `run_next_step`, with the step's sequence number, or the loop of an
    orchestrator, with the index of its bar. -/
inductive Driver
  | stepRunner (sequenceNumber : ℕ)
  | orchestrator (o : HistoricalOrchestrator) (index : ℕ)

/-- The error message of a failed step. -/
def Driver.failureMessage : Driver → String
  | .stepRunner _     => "Manual historical execution step failed."
  | .orchestrator o _ => o.failureMessage

/-- The exceptions a driver records: the step runner raises four application errors again, and nobody
    catches what is outside `Exception`. -/
def Driver.records : Driver → ErrorKind → Bool
  | _, .base => false
  | .stepRunner _, .experimentStepAlreadyRunning | .stepRunner _, .invalidExperimentConfiguration
  | .stepRunner _, .invalidStatus | .stepRunner _, .notFound => false
  | _, _ => true

/-- What a driver raises if the experiment is gone. -/
def Driver.missingExperiment (experimentId : ℕ) : Driver → Raised
  | .stepRunner _     => experimentNotFound experimentId
  | .orchestrator _ _ => runtimeError ("Experiment " ++ toString experimentId ++ " was not found.")

/-- What `run_next_step` supports. -/
def supportsManualStepping (e : Experiment) : Bool :=
  e.mode = .historicalSimulation ∧ (e.strategyType = .buyAndHold ∨ e.strategyType = .movingAverage)
    ∧ e.tradingFrequency = .daily ∧ e.assetSymbol = spySymbol

/-- Where a thread is. From `selecting` to `numbered` it is in `_select_bar_and_create_step`; `launched`,
    `atBar` and `barNumbered` are places of an orchestrator's loop; the rest is common. -/
inductive HistoricalThread
  | idle
  | selecting (t : TriggerType)
  | accepted (t : TriggerType)
  | locked (t : TriggerType)
  | noneRunning (t : TriggerType)
  | numbered (t : TriggerType) (nextIndex : ℕ)
  | launched (o : HistoricalOrchestrator)
  | atBar (o : HistoricalOrchestrator) (index : ℕ)
  | barNumbered (o : HistoricalOrchestrator) (index : ℕ) (bar : DateTime) (maxSequenceNumber : ℕ)
  | running (d : Driver) (executionStepId : ℕ)
  | checkingFinal (sequenceNumber : ℕ)
  | completing (d : Driver)
  | closing (d : Driver) (loaded : Option ExperimentStatus)
  | failing (message : String) (executionStepId : Option ℕ) (e : Raised)
  | recording (message : String) (executionStepId : Option ℕ) (e : Raised)
      (loaded : Option ExperimentStatus)

inductive HistoricalChoice
  | call (t : TriggerType)
  | proceed (now : DateTime)
  | finish (rows : OtherRows) (now : DateTime)
  | raise (e : Raised)

namespace HistoricalThread

/-- Where an exception leads a driver. -/
def recover (d : Driver) (executionStepId : Option ℕ) (e : Raised) : HistoricalThread :=
  if d.records e.kind then .failing d.failureMessage executionStepId e else .idle

/-- An exception at any point: the open transaction is rolled back. -/
def raised (e : Raised) : HistoricalThread → HistoricalThread
  | .selecting _ | .accepted _ | .locked _ | .noneRunning _ | .numbered _ _ =>
      recover (.stepRunner 0) none e
  | .launched o => recover (.orchestrator o 0) none e
  | .atBar o i | .barNumbered o i _ _ => recover (.orchestrator o i) none e
  | .running d id => recover d (some id) e
  | .checkingFinal n => recover (.stepRunner n) none e
  | .completing d | .closing d _ => recover d none e
  | .idle | .failing .. | .recording .. => .idle

/-- Where a driver goes on after its step is completed. -/
def afterStep : Driver → HistoricalThread
  | .stepRunner n     => .checkingFinal n
  | .orchestrator o i => .atBar o (i + 1)

/-- The thread has the experiment's advisory lock. -/
def holdsLock : HistoricalThread → Bool
  | .locked _ | .noneRunning _ | .numbered _ _ => true
  | _ => false

end HistoricalThread

/-- What a driver commits when the last bar is done. The step runner leaves a completed experiment alone. -/
def Driver.close (d : Driver) (db : Db) (loaded : Option ExperimentStatus) (now : DateTime) : Db :=
  match d with
  | .stepRunner _ =>
      if loaded = some .completed then db else db.flush loaded (db.completeExperiment now)
  | .orchestrator _ _ => db.flush loaded (db.completeExperiment now)

/-! ## Their program -/

open HistoricalThread in
/-- The statements of a thread. `run_next_step` is called with `MANUAL` and with `SCHEDULED`. Its
    transaction keeps the experiment it loaded at first, so the status it overwrites is `RUNNING` to it. -/
def historicalDrivers (bars : List DateTime) : Program Db HistoricalThread HistoricalChoice
  | .call t, _, .idle => if t = .manual ∨ t = .scheduled then .go (.selecting t) else .go .idle
  | .proceed _, db, .selecting t =>
      match db.experiment with
      | some e =>
          if e.status = .running ∧ supportsManualStepping e then .go (.accepted t) else .rollback .idle
      | none => .rollback .idle
  | .proceed _, _, .accepted t => .tryLock (.locked t) .idle
  | .proceed _, db, .locked t => if db.hasRunningStep then .rollback .idle else .go (.noneRunning t)
  | .proceed _, db, .noneRunning t => .go (.numbered t db.maxSequenceNumber)
  | .proceed now, db, .numbered t n =>
      match bars[n]? with
      | none => .commit (db.flush (some .running) (db.completeExperiment now)) .idle
      | some bar =>
          if db.hasSequenceNumber (n + 1) then
            .rollback (recover (.stepRunner (n + 1)) none duplicateSequenceNumber)
          else .commit (db.insertStep t bar now (n + 1)) (.running (.stepRunner (n + 1)) db.nextId)
  | .proceed _, db, .launched o =>
      if db.experiment.isSome then .go (.atBar o 0)
      else .rollback ((HistoricalThread.launched o).raised
        (Driver.missingExperiment db.experimentId (.orchestrator o 0)))
  | .proceed _, db, .atBar o i =>
      match bars[i]? with
      | none     => .go (.completing (.orchestrator o i))
      | some bar => .go (.barNumbered o i bar db.maxSequenceNumber)
  | .proceed now, db, .barNumbered o i bar n =>
      if db.hasSequenceNumber (n + 1) then
        .rollback (recover (.orchestrator o i) none duplicateSequenceNumber)
      else .commit (db.insertStep .historical bar now (n + 1)) (.running (.orchestrator o i) db.nextId)
  | .finish rows now, db, .running d id =>
      .commit ((rows.write db).updateStep id (·.completedStep now)) (afterStep d)
  | .proceed _, _, .checkingFinal n =>
      if bars.length ≤ n then .go (.completing (.stepRunner n)) else .go .idle
  | .proceed _, db, .completing d =>
      if db.experiment.isSome then .go (.closing d db.status)
      else .rollback (recover d none (d.missingExperiment db.experimentId))
  | .proceed now, db, .closing d loaded => .commit (d.close db loaded now) .idle
  | .proceed _, db, .failing message id e => .go (.recording message id e db.status)
  | .proceed now, db, .recording message id e loaded =>
      .commit (db.flush loaded (db.recordHistoricalFailure message id e now)) .idle
  | .raise e, _, l => .rollback (l.raised e)
  | _, _, l => .go l

end TradingAI
