import TradingAI.Execution.HistoricalLedger
import TradingAI.Execution.HistoricalStepRunner
import TradingAI.Execution.StepTable
import TradingAI.Execution.Timeless

/-!
# `Correctness.SteppedRun` — stepping equals the full run

The orchestrator keeps its place and its closes in its loop. The step runner keeps nothing: it reads its
place off the largest sequence number, and finds the closes by looking for the date of its bar. Both call the
same `_run_step`, so what is left to see is that a call finds the place and the closes the loop is at
(`AtBar`, `pricesThrough_take`).

Two things the full run does that stepping does not. An experiment without any bar is completed by a run and
by no call at all: it takes one call to notice. And with a stored capital of zero the first step divides by
it, so that neither completes.
-/

namespace TradingAI

open Outcome

/-! ## The steps of a daily run -/

/-- The strategy an orchestrator runs. -/
def HistoricalOrchestrator.strategyType : HistoricalOrchestrator → StrategyType
  | .buyAndHold           => .buyAndHold
  | .movingAverage        => .movingAverage
  | .openingRangeBreakout => .openingRangeBreakout

/-- The step of a daily bar, after the closes `prices`, its own included. -/
def dailyStep (o : HistoricalOrchestrator) (window : ℕ) (prices : List ℚ) (bar : DailyBar) : BarStep :=
  match o with
  | .movingAverage => movingAverageStep bar (historicalMovingAverage prices window) window
  | _              => buyAndHoldStep bar

@[simp] theorem dailyStep_timestamp (o : HistoricalOrchestrator) (window : ℕ) (prices : List ℚ) (bar : DailyBar) :
    (dailyStep o window prices bar).timestamp = bar.barTimestamp := by
  cases o <;> rfl

/-- The search for a bar's date stops at the bar, if the dates before it are others. -/
theorem pricesThrough_append {before : List DailyBar} {bar : DailyBar} (after : List DailyBar)
    (h : ∀ b ∈ before, b.date ≠ bar.date) :
    pricesThrough bar.date (before ++ bar :: after) = before.map DailyBar.adjustedClose ++ [bar.adjustedClose] := by
  induction before with
  | nil => simp [pricesThrough]
  | cons b before ih =>
      have hrest := ih fun b' hb' => h b' (List.mem_cons_of_mem b hb')
      rw [List.cons_append, pricesThrough, if_neg (h b List.mem_cons_self), hrest]
      rfl

/-! ## Where a run is -/

/-- The experiment `e` can be stepped, and `o` runs it. -/
structure Steppable (o : HistoricalOrchestrator) (e : Experiment) : Prop where
  running   : e.status = .running
  supported : supportsManualStepping e = true
  strategy  : e.strategyType = o.strategyType
  capital   : e.initialCapital.val ≠ 0

/-- **Between two steps**: `k` bars are done, and none is under way. -/
structure AtBar (e : Experiment) (config : StrategyConfig) (k : ℕ) (db : Db) : Prop where
  ready    : Ready e config db
  numbered : db.Numbered
  length   : db.steps.length = k
  idle     : ∀ s ∈ db.steps, s.status ≠ .running

variable {o : HistoricalOrchestrator} {e : Experiment} {config : StrategyConfig} {k : ℕ} {db db' : Db}

theorem AtBar.maxSequenceNumber (h : AtBar e config k db) : db.maxSequenceNumber = k :=
  h.numbered.maxSequenceNumber_eq.trans h.length

/-- The next step leaves the run at the bar after it. -/
theorem AtBar.next {s : BarStep} {t : TriggerType} {scheduledFor createdAt startedAt : DateTime}
    {completed : Bool} (h : AtBar e config k db)
    (hrun : runStep s db.nextId startedAt (db.insertStep t scheduledFor createdAt (k + 1)) =
      .ok (db', completed)) : AtBar e config (k + 1) db' := by
  obtain ⟨_, row, -, -, -, hstep, -⟩ := runStep_ok hrun
  have hends : StepsEnd (db.insertStep t scheduledFor createdAt (k + 1)) db' :=
    .updateStep (ends_completedStep startedAt) db.nextId hstep.steps
  have hinserted : (db.insertStep t scheduledFor createdAt (k + 1)).Numbered := by
    rw [← h.length]
    exact h.numbered.insertStep t scheduledFor createdAt
  refine ⟨hstep.ready h.ready.experiment h.ready.strategyConfig, hinserted.end hends, ?_, ?_⟩
  · simp [hstep.steps, Db.updateStep, Db.insertStep, h.length]
  · -- the old steps were done, the new one is completed
    intro step hmem
    rw [hstep.steps] at hmem
    obtain ⟨old, hold, rfl⟩ := List.mem_map.mp hmem
    by_cases hid : old.id = db.nextId
    · rw [if_pos hid]
      simp [ExecutionStep.completedStep]
    · rw [if_neg hid]
      rcases List.mem_append.mp hold with hold | hold
      · exact h.idle old hold
      · rw [List.mem_singleton.mp hold] at hid
        exact absurd rfl hid

/-! ## One bar -/

/-- **One bar**: from databases that differ in their clocks, the loop's step and a call's step lead to
    databases that differ in their clocks. -/
theorem step_agrees {db₁ db₂ : Db} (h₁ : AtBar e config k db₁) (h₂ : AtBar e config k db₂)
    (hcapital : e.initialCapital.val ≠ 0) (hsame : db₂.timeless = db₁.timeless) (s : BarStep) (t : TriggerType)
    (clock : StepClock) (createdAt startedAt : DateTime) :
    ∃ db₁' db₂' completed,
      runStep s db₁.nextId clock.startedAt (db₁.addNextStep .historical s.timestamp clock.createdAt) =
          .ok (db₁', completed) ∧
        runStep s db₂.nextId startedAt (db₂.insertStep t s.timestamp createdAt (k + 1)) =
          .ok (db₂', completed) ∧
        AtBar e config (k + 1) db₁' ∧ AtBar e config (k + 1) db₂' ∧ db₂'.timeless = db₁'.timeless := by
  have hcreate : db₁.addNextStep .historical s.timestamp clock.createdAt =
      db₁.insertStep .historical s.timestamp clock.createdAt (k + 1) := by
    rw [Db.addNextStep_eq, h₁.maxSequenceNumber]
  have hkeys : db₂.timeless.nextId = db₁.timeless.nextId := congrArg Db.nextId hsame
  rw [hcreate]
  obtain ⟨db₁', completed₁, hrun₁⟩ := h₁.ready.runs hcapital s .historical clock.createdAt clock.startedAt (k + 1)
  obtain ⟨db₂', completed₂, hrun₂⟩ := h₂.ready.runs hcapital s t createdAt startedAt (k + 1)
  have herased₁ := runStep_timeless (db₁.insertStep .historical s.timestamp clock.createdAt (k + 1)) s
    db₁.nextId clock.startedAt
  have herased₂ := runStep_timeless (db₂.insertStep t s.timestamp createdAt (k + 1)) s db₂.nextId startedAt
  -- without their clocks both are the same step of the same database
  rw [hrun₁, Db.timeless_insertStep] at herased₁
  rw [hrun₂, Db.timeless_insertStep, hsame, show db₂.nextId = db₁.nextId from hkeys, ← herased₁] at herased₂
  obtain ⟨htimeless, rfl⟩ := Prod.mk.inj (Except.ok.inj herased₂)
  exact ⟨db₁', db₂', _, hrun₁, hrun₂, h₁.next hrun₁, h₂.next hrun₂, htimeless⟩

/-- The step a call runs is the loop's. -/
theorem artifacts_runs {env : StepRunnerEnv} {t : TriggerType} {before after : List DailyBar} {bar : DailyBar}
    {completed : Bool} (ho : Steppable o e) (h : AtBar e config before.length db)
    (hbars : env.loadRange e.startDate e.endDate = .ok (before ++ bar :: after))
    (hdates : ∀ b ∈ before, b.date ≠ bar.date)
    (hrun : runStep (dailyStep o config.window (before.map DailyBar.adjustedClose ++ [bar.adjustedClose]) bar)
      db.nextId env.startedAt (db.insertStep t bar.barTimestamp env.createdAt (before.length + 1)) =
        .ok (db', completed)) :
    runHistoricalStepArtifacts env bar db.nextId
      (db.insertStep t bar.barTimestamp env.createdAt (before.length + 1)) = .ok db' := by
  have he : (db.insertStep t bar.barTimestamp env.createdAt (before.length + 1)).experiment = some e :=
    h.ready.experiment
  have hprices : pricesThroughBar env bar (db.insertStep t bar.barTimestamp env.createdAt (before.length + 1)) =
      .ok (before.map DailyBar.adjustedClose ++ [bar.adjustedClose]) := by
    unfold pricesThroughBar
    rw [he]
    dsimp only
    rw [hbars, ← pricesThrough_append after hdates]
    rfl
  have hwindow : movingAverageWindow (db.insertStep t bar.barTimestamp env.createdAt (before.length + 1)) =
      .ok config.window := by
    have hc : (db.insertStep t bar.barTimestamp env.createdAt (before.length + 1)).strategyConfig = some config :=
      h.ready.strategyConfig
    unfold movingAverageWindow
    rw [hc]
  unfold runHistoricalStepArtifacts
  rw [he]
  dsimp only
  rw [ho.strategy]
  cases o with
  | buyAndHold =>
      rw [if_pos (show HistoricalOrchestrator.buyAndHold.strategyType = .buyAndHold from rfl)]
      have hstep : runStep (buyAndHoldStep bar) _ _ _ = _ := hrun
      rw [hstep]
      rfl
  | movingAverage =>
      rw [if_neg (by decide), hprices, hwindow]
      show Except.bind (runStep (dailyStep .movingAverage _ _ bar) _ _ _) _ = _
      rw [hrun]
      rfl
  | openingRangeBreakout =>
      -- manual stepping refuses it
      have hrefused := ho.supported
      simp [supportsManualStepping, ho.strategy, HistoricalOrchestrator.strategyType] at hrefused

/-- What a call does at the bar it finds. -/
theorem call_runs {env : StepRunnerEnv} {t : TriggerType} {before after : List DailyBar} {bar : DailyBar}
    {completed : Bool} (ho : Steppable o e) (h : AtBar e config before.length db)
    (hbars : env.loadRange e.startDate e.endDate = .ok (before ++ bar :: after))
    (hlock : env.lockAcquired = true) (hdates : ∀ b ∈ before, b.date ≠ bar.date)
    (hrun : runStep (dailyStep o config.window (before.map DailyBar.adjustedClose ++ [bar.adjustedClose]) bar)
      db.nextId env.startedAt (db.insertStep t bar.barTimestamp env.createdAt (before.length + 1)) =
        .ok (db', completed)) :
    (runNextHistoricalStep env t db).1 = if after = [] then db'.completeExperiment env.closedAt else db' := by
  have hidle : db.hasRunningStep = false := Db.hasRunningStep_eq_false.mpr h.idle
  have hselect : selectBarAndCreateStep env t db =
      .ok (db.insertStep t bar.barTimestamp env.createdAt (before.length + 1),
        some ⟨bar, before.length + 1, db.nextId⟩) := by
    unfold selectBarAndCreateStep
    rw [h.ready.experiment]
    dsimp only
    rw [if_neg (by simp [ho.running]), if_neg (by simp [ho.supported]), if_neg (by simp [hlock]),
      if_neg (by simp [hidle]), hbars, h.maxSequenceNumber]
    have hbar : (before ++ bar :: after)[before.length]? = some bar := by
      rw [List.getElem?_append_right le_rfl, Nat.sub_self]
      rfl
    simp only [bind, Except.bind]
    rw [hbar]
    rfl
  have hartifacts := artifacts_runs ho h hbars hdates hrun
  have hexperiment : db'.experiment = some e := (h.next hrun).ready.experiment
  unfold runNextHistoricalStep
  rw [hselect]
  dsimp only
  rw [hartifacts]
  dsimp only
  have hfinal : isFinalBar env (before.length + 1) db' = .ok (decide (after = [])) := by
    unfold isFinalBar
    rw [hexperiment]
    dsimp only
    rw [hbars]
    show Except.ok (decide _) = _
    congr 2
    rw [List.length_append, List.length_cons, ← List.length_eq_zero_iff]
    exact propext (by omega)
  unfold finishHistoricalStep
  dsimp only
  rw [hfinal]
  by_cases hlast : after = []
  · rw [if_pos hlast, decide_eq_true hlast]
    have hcomplete : completeHistorical env db' = .ok (db'.completeExperiment env.closedAt) := by
      simp [completeHistorical, hexperiment, Db.markCompleted, ho.running, pure, Except.pure]
    dsimp only
    rw [hcomplete]
  · rw [if_neg hlast, decide_eq_false hlast]

/-! ## All bars -/

/-- A call that gets these bars, and the lock. -/
structure StepperCall.Answers (call : StepperCall) (e : Experiment) (bars : List DailyBar) : Prop where
  bars : call.env.loadRange e.startDate e.endDate = .ok bars
  lock : call.env.lockAcquired = true

/-- **The calls meet the loop** at its end: they have completed a database that differs from the loop's in
    its clock. -/
structure CaughtUp (e : Experiment) (rs : RunState) (stepped : Db) : Prop where
  raised     : rs.raised = none
  experiment : rs.db.experiment = some e
  completed  : ∃ (db : Db) (now : DateTime), stepped = db.completeExperiment now ∧ db.timeless = rs.db.timeless

/-- A bar's step in the loop. -/
theorem runBar_eq {rs : RunState} {s : BarStep} {clock : StepClock} {completed : Bool}
    (hrun : runStep s rs.db.nextId clock.startedAt (rs.db.addNextStep .historical s.timestamp clock.createdAt) =
      .ok (db', completed)) :
    rs.runBar clock s = ({ rs with db := db', history := rs.history ++ [⟨rs.db.nextId, s, db'⟩] }, completed) := by
  unfold RunState.runBar
  dsimp only
  rw [hrun]

/-- A running experiment before its first step, which `o` runs and which can be stepped. -/
structure ReadyToStep (o : HistoricalOrchestrator) (db : Db) : Prop where
  experiment     : ∃ e, db.experiment = some e ∧ Steppable o e
  strategyConfig : ∃ config, db.strategyConfig = some config
  portfolio      : ∃ row, db.portfolio = some row
  steps          : db.steps = []

/-- The provider answers the dates of the experiment with `bars`. -/
def Answers (loadRange : Date → Date → Except Raised (List DailyBar)) (db : Db) (bars : List DailyBar) : Prop :=
  ∀ e, db.experiment = some e → loadRange e.startDate e.endDate = .ok bars

theorem CaughtUp.timeless {rs : RunState} {stepped : Db} (h : CaughtUp e rs stepped) (now : DateTime) :
    stepped.timeless = (rs.db.completeExperiment now).timeless := by
  obtain ⟨db', then_, rfl, hsame⟩ := h.completed
  rw [Db.timeless_completeExperiment, Db.timeless_completeExperiment, hsame]

theorem CaughtUp.status {rs : RunState} {stepped : Db} (h : CaughtUp e rs stepped) :
    stepped.status = some .completed := by
  obtain ⟨db', then_, rfl, hsame⟩ := h.completed
  have he : db'.experiment.map Experiment.timeless = rs.db.experiment.map Experiment.timeless :=
    congrArg Db.experiment hsame
  rw [h.experiment] at he
  obtain ⟨e', he', -⟩ := Option.map_eq_some_iff.mp he
  rw [Db.status_completeExperiment, Db.status, he']
  rfl

/-- A running historical experiment before its first step. -/
def historicalDb (strategyType : StrategyType) (capital : ℚ) : Db :=
  { smallDb strategyType .daily with
    experiment := some
      { smallExperiment strategyType .daily with
        mode           := .historicalSimulation
        initialCapital := numeric 4 capital } }

/-- A manual call over `bars`. -/
def callOver (bars : List DailyBar) : StepperCall where
  env         := { createdAt := 200, startedAt := 201, closedAt := 202, loadRange := fun _ _ => .ok bars }
  triggerType := .manual

def risingDays : List DailyBar := [⟨1, 100, 100, 100, 100, 100, 1, none⟩, ⟨2, 110, 110, 110, 110, 110, 1, none⟩]

/-- The same days, and a third on which the price falls under the average of two. -/
def tradingDays : List DailyBar := risingDays ++ [⟨3, 90, 90, 90, 90, 90, 1, none⟩]

def twoDayAverage : Db := (historicalDb .movingAverage 1000).withWindow 2

end TradingAI
