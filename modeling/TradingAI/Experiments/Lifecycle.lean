import TradingAI.Execution.HistoricalDrivers
import TradingAI.Execution.StepTransactions
import TradingAI.Experiments.StatusMachine

/-!
# `Experiments.Lifecycle` — lifecycle actions next to everything that runs an experiment

An action of the API loads the experiment, checks the status it loaded and commits the new one. A start
then hands a historical experiment to its orchestrator, in the background. `lifecycleActions` is the program
of such a thread; `experimentThreads` is that of any thread of an experiment: an action, a driver of
historical steps, or a paper step.

## Contents
- `startRefusal`, `orchestratorFor`.
- `LifecycleThread`, `lifecycleActions`.
- `ExperimentThread`, `experimentThreads`.
- `Publishes`: everything a statement can commit.
-/

namespace TradingAI

open Transactions

/-! ## Starting -/

/-- The configurations `start_experiment` refuses. -/
def startRefusal (experimentId : ℕ) (e : Experiment) : Option Raised :=
  if e.mode = .historicalSimulation ∧ e.strategyType = .agenticAi then
    some (invalidExperimentConfigurationAppError "Agentic AI is supported for PAPER_TRADING mode only."
      [("experimentId", .num experimentId), ("mode", .text e.mode.value),
       ("strategyType", .text e.strategyType.value)])
  else if e.mode = .historicalSimulation ∧ e.strategyType = .movingAverage
      ∧ e.tradingFrequency ≠ .daily then
    some (invalidExperimentConfigurationAppError
      "Moving Average historical simulation supports DAILY frequency only."
      [("experimentId", .num experimentId), ("tradingFrequency", .text e.tradingFrequency.value)])
  else if e.strategyType = .openingRangeBreakout
      ∧ ((e.mode ≠ .historicalSimulation ∧ e.mode ≠ .paperTrading)
        ∨ e.tradingFrequency ≠ .intraday5Min
        ∨ (e.mode = .historicalSimulation ∧ e.assetSymbol ≠ spySymbol)) then
    some (invalidExperimentConfigurationAppError
      ("Opening Range Breakout supports HISTORICAL_SIMULATION or "
        ++ "PAPER_TRADING with INTRADAY_5_MIN; historical ORB is SPY-only.")
      [("experimentId", .num experimentId), ("mode", .text e.mode.value),
       ("tradingFrequency", .text e.tradingFrequency.value), ("assetSymbol", .text e.assetSymbol)])
  else none

/-- The orchestrator a start adds to the background tasks. -/
def orchestratorFor (e : Experiment) : Option HistoricalOrchestrator :=
  if e.mode = .historicalSimulation then
    match e.strategyType with
    | .buyAndHold    => some .buyAndHold
    | .movingAverage => some .movingAverage
    | .openingRangeBreakout =>
        if e.tradingFrequency = .intraday5Min then some .openingRangeBreakout else none
    | _ => none
  else none

/-! ## An action -/

/-- `event_map`. -/
def LifecycleAction.eventType : LifecycleAction → SystemEventType
  | .start  => .experimentStarted
  | .pause  => .experimentPaused
  | .resume => .experimentResumed
  | .stop   => .experimentStopped

/-- `message_map`. -/
def LifecycleAction.message : LifecycleAction → String
  | .start  => "Experiment started."
  | .pause  => "Experiment paused."
  | .resume => "Experiment resumed."
  | .stop   => "Experiment stopped."

/-- The event of an action; its key is still 0. -/
def lifecycleEvent (experimentId : ℕ) (action : LifecycleAction) (nextStatus : ExperimentStatus)
    (now : DateTime) : SystemEventLog where
  id              := 0
  executionStepId := none
  timestamp       := now
  level           := .info
  eventType       := action.eventType
  message         := action.message
  details         := [("experimentId", .num experimentId), ("status", .text nextStatus.value)]
  createdAt       := now

/-- The rows of `apply_lifecycle_action`. -/
def Db.applyLifecycleAction (db : Db) (action : LifecycleAction) (nextStatus : ExperimentStatus)
    (now : DateTime) : Db :=
  (db.setStatus nextStatus now).addSystemEvent (lifecycleEvent db.experimentId action nextStatus now)

theorem Db.status_applyLifecycleAction (db : Db) (action : LifecycleAction) (t : ExperimentStatus)
    (now : DateTime) : (db.applyLifecycleAction action t now).status = db.status.map fun _ => t :=
  db.status_setStatus ..

/-- What the checks before a transition let through: the status it leads to. -/
def checkedTransition (experimentId : ℕ) (action : LifecycleAction) (e : Experiment) :
    Except Raised ExperimentStatus :=
  match action, startRefusal experimentId e with
  | .start, some refusal => .error refusal
  | _, _                 => validateTransition action e.status

/-- Where a thread is. `validated` has the experiment it loaded and the status it will write; `launching`
    is a background task that has not begun. -/
inductive LifecycleThread
  | idle
  | requested (action : LifecycleAction)
  | validated (action : LifecycleAction) (experiment : Experiment) (nextStatus : ExperimentStatus)
  | launching (o : HistoricalOrchestrator)

inductive LifecycleChoice
  | call (action : LifecycleAction)
  | proceed (now : DateTime)
  | raise (e : Raised)

/-- Where a thread goes on after its action is committed. -/
def LifecycleThread.applied (action : LifecycleAction) (e : Experiment) : LifecycleThread :=
  match action, orchestratorFor e with
  | .start, some o => .launching o
  | _, _           => .idle

open LifecycleThread in
/-- The statements of a thread. The session keeps the experiment it loaded, so the status is read once. -/
def lifecycleActions : Program Db LifecycleThread LifecycleChoice
  | .call action, _, .idle => .go (.requested action)
  | .proceed _, db, .requested action =>
      match db.experiment with
      | none   => .rollback .idle
      | some e =>
          match checkedTransition db.experimentId action e with
          | .ok nextStatus => .go (.validated action e nextStatus)
          | .error _       => .rollback .idle
  | .proceed now, db, .validated action e nextStatus =>
      .commit (db.flush (some e.status) (db.applyLifecycleAction action nextStatus now)) (applied action e)
  | .raise _, _, .requested _ | .raise _, _, .validated _ _ _ => .rollback .idle
  | _, _, l => .go l

/-! ## Every thread of an experiment -/

inductive ExperimentThread
  | lifecycle (l : LifecycleThread)
  | historical (l : HistoricalThread)
  | paper (l : StepThread)

/-- What the surroundings choose for a thread. -/
inductive ExperimentChoice
  | lifecycle (c : LifecycleChoice)
  | historical (c : HistoricalChoice)
  | paper (c : StepChoice)

/-- A background task goes on as the orchestrator. -/
def ExperimentThread.ofLifecycle : LifecycleThread → ExperimentThread
  | .launching o => .historical (.launched o)
  | l            => .lifecycle l

/-- The statements of a thread, by its kind. -/
def experimentThreads (testModeEnabled : Bool) (bars : List DateTime) :
    Program Db ExperimentThread ExperimentChoice
  | .lifecycle c, db, .lifecycle l   => (lifecycleActions c db l).map .ofLifecycle
  | .historical c, db, .historical l => (historicalDrivers bars c db l).map .historical
  | .paper c, db, .paper l           => (paperSteps testModeEnabled c db l).map .paper
  | _, _, l                          => .go l

/-- A thread that has not begun is one of these. -/
inductive ThreadKind
  | lifecycle | historical | paper

def ThreadKind.idle : ThreadKind → ExperimentThread
  | .lifecycle  => .lifecycle .idle
  | .historical => .historical .idle
  | .paper      => .paper .idle

/-- Nobody has begun. -/
def idleMachine (db : Db) (kinds : ℕ → ThreadKind) : Machine Db ExperimentThread :=
  ⟨db, none, fun i => (kinds i).idle⟩

/-! ## What a statement can commit -/

/-- What a statement can leave of the committed database: it is as it was, or one of the writes of the
    programs has been flushed over it. -/
inductive Publishes (db : Db) : Db → Prop
  | nothing : Publishes db db
  | action (loaded : Option ExperimentStatus) (a : LifecycleAction) (t : ExperimentStatus) (now : DateTime) :
      Publishes db (db.flush loaded (db.applyLifecycleAction a t now))
  | inserted (t : TriggerType) (slot now : DateTime) (n : ℕ) : Publishes db (db.insertStep t slot now n)
  | rows (rows : OtherRows) : Publishes db (rows.write db)
  | ranStep (rows : OtherRows) (id : ℕ) (now : DateTime) :
      Publishes db ((rows.write db).updateStep id (·.completedStep now))
  | completed (loaded : Option ExperimentStatus) (now : DateTime) :
      Publishes db (db.flush loaded (db.completeExperiment now))
  | historicalFailure (loaded : Option ExperimentStatus) (message : String) (id : Option ℕ) (e : Raised)
      (now : DateTime) : Publishes db (db.flush loaded (db.recordHistoricalFailure message id e now))
  | finished (loaded : Option ExperimentStatus) (rows : OtherRows) (id : ℕ) (failure : Option PaperStepFailure)
      (now : DateTime) : Publishes db (db.flush loaded ((rows.write db).finishStep id failure now))
  | paperFailure (loaded : Option ExperimentStatus) (id : Option ℕ) (failure : FailureRecord) (now : DateTime) :
      Publishes db (db.flush loaded (db.recordFailure id failure now))

section
variable {db : Db} {testModeEnabled : Bool} {bars : List DateTime}

theorem lifecycle_publishes (c : LifecycleChoice) (l : LifecycleThread) :
    Publishes db ((lifecycleActions c db l).published db) := by
  cases c with
  | call action => cases l <;> exact .nothing
  | raise e => cases l <;> exact .nothing
  | proceed now =>
      cases l with
      | idle | launching => exact .nothing
      | requested action =>
          simp only [lifecycleActions]
          split
          · exact .nothing
          · split <;> exact .nothing
      | validated action e nextStatus => exact .action (some e.status) action nextStatus now

theorem historical_publishes (c : HistoricalChoice) (l : HistoricalThread) :
    Publishes db ((historicalDrivers bars c db l).published db) := by
  cases c with
  | call t =>
      cases l with
      | idle => simp only [historicalDrivers]; split <;> exact .nothing
      | _ => exact .nothing
  | raise e => cases l <;> exact .nothing
  | finish rows now =>
      cases l with
      | running d id => exact .ranStep rows id now
      | _ => exact .nothing
  | proceed now =>
      cases l with
      | idle | accepted | noneRunning | running | failing => exact .nothing
      | selecting t => simp only [historicalDrivers]; split <;> [split; skip] <;> exact .nothing
      | locked t => simp only [historicalDrivers]; split <;> exact .nothing
      | launched o => simp only [historicalDrivers]; split <;> exact .nothing
      | atBar o i => simp only [historicalDrivers]; split <;> exact .nothing
      | checkingFinal n => simp only [historicalDrivers]; split <;> exact .nothing
      | completing d => simp only [historicalDrivers]; split <;> exact .nothing
      | barNumbered o i bar n =>
          simp only [historicalDrivers]
          split
          · exact .nothing
          · exact .inserted .historical bar now (n + 1)
      | numbered t n =>
          simp only [historicalDrivers]
          split
          · exact .completed (some .running) now
          · next bar _ =>
              split
              · exact .nothing
              · exact .inserted t bar now (n + 1)
      | closing d loaded =>
          cases d with
          | orchestrator o i => exact .completed loaded now
          | stepRunner n =>
              simp only [historicalDrivers, Driver.close]
              split
              · exact .nothing
              · exact .completed loaded now
      | recording message id e loaded => exact .historicalFailure loaded message id e now

theorem paper_publishes (c : StepChoice) (l : StepThread) :
    Publishes db ((paperSteps testModeEnabled c db l).published db) := by
  cases c with
  | call r =>
      cases l with
      | idle => simp only [paperSteps]; split <;> exact .nothing
      | _ => exact .nothing
  | save rows =>
      cases l with
      | idle | created => exact .rows rows
      | _ => exact .nothing
  | raise e => cases l <;> exact .nothing
  | finish rows failure now =>
      cases l with
      | executing r id loaded => exact .finished loaded rows id failure now
      | _ => exact .nothing
  | record now =>
      cases l with
      | recording id failure loaded => exact .paperFailure loaded id failure now
      | _ => exact .nothing
  | proceed =>
      cases l with
      | idle | supported | slotFree | created | executing | failing | recording => exact .nothing
      | opened r => simp only [paperSteps]; split <;> [split; skip] <;> exact .nothing
      | loaded r e => simp only [paperSteps]; split <;> exact .nothing
      | locked r => simp only [paperSteps]; split <;> exact .nothing
      | noneRunning r => simp only [paperSteps]; split <;> exact .nothing
      | numbered r n =>
          simp only [paperSteps]
          split
          · exact .nothing
          · exact .inserted r.triggerType r.slot r.now (n + 1)

/-- **Whatever a thread does next, it publishes nothing else.** -/
theorem statement_publishes (c : ExperimentChoice) (l : ExperimentThread) :
    Publishes db ((experimentThreads testModeEnabled bars c db l).published db) := by
  unfold experimentThreads
  split
  · rw [Action.published_map]
    exact lifecycle_publishes ..
  · rw [Action.published_map]
    exact historical_publishes ..
  · rw [Action.published_map]
    exact paper_publishes ..
  · exact .nothing

end

end TradingAI
