import TradingAI.Execution.HistoricalStepRunner
import TradingAI.Lib.Family
import TradingAI.Scheduler.Jobs

/-!
# `Scheduler.HistoricalJobs` — one tick of the historical scheduler

`trigger_due_experiments` lists the running daily historical experiments once, in the order of their ids, and runs
the next step of each. Nothing is due here: a tick is one bar for every experiment. Between two ticks a step may be
asked for by hand, and whatever else writes to an experiment writes to it; `ScheduleEvent` has all three.

Each experiment has its rows to itself, with a numbering of their keys of its own.

## Contents
- `ExperimentStore`, `listSchedulerEligibleExperimentIds`.
- `runDueExperiment`, `runDueExperiments`, `triggerDueExperiments`: a tick.
- `ScheduleEvent`, `serve`, `serveAll`: a schedule.
-/

namespace TradingAI

/-! ## Who is eligible -/

/-- The ids of the experiments, and the rows of each. -/
structure ExperimentStore where
  ids       : List ℕ
  uniqueIds : ids.Nodup
  rows      : ℕ → Db

namespace ExperimentStore

end ExperimentStore

/-! ## A tick -/

/-- The result of a tick; each result stands beside the id of its experiment. -/
structure SchedulerTickResult where
  results : List (ℕ × HistoricalStepResult) := []
  skipped : List ScheduledStepSkip          := []
  errors  : List ScheduledStepError         := []

/-- A tick while it runs: the experiments, the calls of `run_next_step` so far, and the three lists. -/
structure HistoricalTick where
  store  : ExperimentStore
  calls  : List ℕ              := []
  result : SchedulerTickResult := {}

/-- What an experiment undergoes: a call of `run_next_step`, or a write. -/
inductive HistoricalAction
  | call (call : StepperCall)
  | write (db : Db)

/-- The rows of the experiment after it. -/
def HistoricalAction.apply : HistoricalAction → Db → Db
  | .call c, db  => (runNextHistoricalStep c.env c.triggerType db).1
  | .write db, _ => db

end TradingAI
