import TradingAI.Execution.HistoricalSteps
import TradingAI.Experiments.Creation
import TradingAI.Experiments.Lifecycle
import TradingAI.Lib.Outcome

/-!
# `Experiments.Start` — a start, from the request to its background task

`start_experiment` checks the configuration, applies the action and adds the orchestrator of the strategy to
the background tasks of the request. `Experiments.Lifecycle` has the same action one statement at a time,
beside other threads; alone, its thread commits the rows of `startExperiment` and goes on as its task
(`start_alone`).
-/

namespace TradingAI

open Transactions Outcome Rounding

/-- `start_experiment`: the rows it commits, and the task it adds. -/
def startExperiment (now : DateTime) (db : Db) : Except Raised (Db × Option HistoricalOrchestrator) :=
  match db.experiment with
  | none   => .error (experimentNotFound db.experimentId)
  | some e => do
      let nextStatus ← checkedTransition db.experimentId .start e
      pure (db.applyLifecycleAction .start nextStatus now, orchestratorFor e)

/-- A start leaves the cash, and what is held and was traded. -/
theorem startExperiment_opensFlat {db started : Db} {now : DateTime} {task : Option HistoricalOrchestrator}
    (hflat : OpensFlat db) (h : startExperiment now db = .ok (started, task)) : OpensFlat started := by
  obtain ⟨e, row, he, hrow, hcash⟩ := hflat.portfolio
  unfold startExperiment at h
  rw [he] at h
  obtain ⟨nextStatus, -, h⟩ := ok_of_bind h
  cases h
  refine ⟨⟨{ e with status := nextStatus, updatedAt := now }, row, ?_, hrow, hcash⟩, hflat.steps, hflat.marketData,
    hflat.orders, hflat.trades⟩
  show db.experiment.map _ = _
  rw [he]
  rfl

/-- **From the request to the first step**: what was created and started opens flat. -/
theorem started_opensFlat {settings : ValidatorSettings} {env : CreationEnv} {request : CreateExperimentRequest}
    {created started : Db} {now : DateTime} {task : Option HistoricalOrchestrator}
    (hcreated : createExperiment settings env request = .ok created) (hgrid : OnGrid 4 request.initialCapital)
    (h : startExperiment now created = .ok (started, task)) : OpensFlat started :=
  startExperiment_opensFlat (created_opensFlat hcreated hgrid) h

/-- The statements of a start: the call, the checks, and the commit. -/
def startEvents (now : DateTime) : List (Event LifecycleChoice) :=
  [⟨0, .call .start⟩, ⟨0, .proceed now⟩, ⟨0, .proceed now⟩]

/-- The task of a start, or nothing. -/
def launched : Option HistoricalOrchestrator → LifecycleThread
  | some o => .launching o
  | none   => .idle

/-- **A start alone** commits what `startExperiment` says and goes on as its task. -/
theorem start_alone {db started : Db} {now : DateTime} {task : Option HistoricalOrchestrator}
    (h : startExperiment now db = .ok (started, task)) :
    let m := Runs.run (exec lifecycleActions) (startEvents now) ⟨db, none, fun _ => .idle⟩
    m.data = started ∧ m.threads 0 = launched task := by
  unfold startExperiment at h
  cases he : db.experiment with
  | none =>
      rw [he] at h
      cases h
  | some e =>
      rw [he] at h
      obtain ⟨nextStatus, hcheck, h⟩ := ok_of_bind h
      cases h
      have hstatus : some e.status = db.status := by
        rw [Db.status, he]
        rfl
      have hchecked : lifecycleActions (.proceed now) db (.requested .start) = .go (.validated .start e nextStatus) := by
        simp only [lifecycleActions, he, hcheck]
      have hcommitted : lifecycleActions (.proceed now) db (.validated .start e nextStatus) =
          .commit (db.applyLifecycleAction .start nextStatus now) (LifecycleThread.applied .start e) := by
        simp only [lifecycleActions, hstatus, Db.flush_current]
      have hlaunched : LifecycleThread.applied .start e = launched (orchestratorFor e) := by
        unfold LifecycleThread.applied launched
        cases orchestratorFor e <;> rfl
      dsimp only [startEvents, Runs.run, exec]
      have hcalled : lifecycleActions (.call .start) db .idle = .go (.requested .start) := rfl
      rw [hcalled]
      simp only [Machine.perform, Machine.goTo_data, Machine.goTo_self, hchecked, hcommitted, hlaunched]
      exact ⟨trivial, trivial⟩

end TradingAI
