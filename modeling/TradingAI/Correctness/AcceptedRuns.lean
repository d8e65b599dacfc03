import TradingAI.Correctness.DefinedMetrics
import TradingAI.Correctness.EquityCurve
import TradingAI.Correctness.NoLookAhead
import TradingAI.Correctness.SteppedRun
import TradingAI.Correctness.SupportedConfigurations
import TradingAI.Experiments.Start

/-!
# `Correctness.AcceptedRuns` — how an accepted historical experiment ends

From the request to the end of the run: what the validator accepts is created, started and run by the
orchestrator of its strategy. Three outcomes are possible after a start, and which of them it is can be said
beforehand (`accepted_runs_end`): the run completes one step for each bar, or the provider raises and there is
no step, or the stored capital is zero and the first step fails. One configuration is accepted and cannot be
started at all: a moving average that is not daily.

## Contents
- `Progressed`: the loop, step by step; `FailedAtFirst`: the loop that divides by zero.
- `loop_spec`: the loop of each orchestrator.
- `Ended`, `run_spec`: the whole run.
- `accepted_historical`, `accepted_runs_end`.
-/

namespace TradingAI

open Outcome Rounding UsEquitiesTradingCalendar

variable {e : Experiment} {config : StrategyConfig} {db db' start : Db} {rs : RunState} {k n : ℕ}
  {clock : ℕ → StepClock} {o : HistoricalOrchestrator} {env : HistoricalEnv}

/-! ## The loop -/

/-- **After `k` steps** of a loop that began at `start`: all are completed, and no event has been written. -/
structure Progressed (e : Experiment) (config : StrategyConfig) (start : Db) (k : ℕ) (rs : RunState) : Prop where
  raised : rs.raised = none
  ready  : Ready e config rs.db
  steps  : rs.db.steps.map ExecutionStep.status = List.replicate k .completed
  events : rs.db.systemEvents = start.systemEvents

/-- The loop stopped at its first bar: its step is open, and nothing else was written. -/
structure FailedAtFirst (start : Db) (rs : RunState) : Prop where
  raised : ∃ profit, rs.raised = some (some start.nextId, BasicMetricCalculator.divisionError profit)
  opened : ∃ slot now, rs.db = start.addNextStep .historical slot now

/-- A step writes no event. -/
theorem runStep_events {s : BarStep} {id : ℕ} {now : DateTime} {completed : Bool}
    (h : runStep s id now db = .ok (db', completed)) : db'.systemEvents = db.systemEvents := by
  have hexecution : ∀ (d : Db) (r : SimulationResult), (d.recordExecution r).systemEvents = d.systemEvents := by
    rintro d ⟨order, trade, portfolio⟩
    cases order with
    | none => rfl
    | some order => cases trade <;> rfl
  unfold runStep at h
  split at h
  · next experiment row config _ _ _ =>
      split at h
      · cases h
      · obtain ⟨result, hresult, heq⟩ := ok_of_bind h
        cases heq
        obtain ⟨metrics, -, hdb⟩ := ok_of_bind hresult
        cases hdb
        exact hexecution _ _
  · cases h

/-- Without a capital the first step divides by zero. -/
theorem Ready.divides (h : Ready e config db) (hcapital : e.initialCapital.val = 0) (s : BarStep) (t : TriggerType)
    (createdAt startedAt : DateTime) (n : ℕ) :
    ∃ profit, runStep s db.nextId startedAt (db.insertStep t s.timestamp createdAt n) =
      .error (BasicMetricCalculator.divisionError profit) := by
  obtain ⟨row, hrow⟩ := h.portfolio
  obtain ⟨step, hstep⟩ := getStep_insertStep db t s.timestamp createdAt n
  have he : (db.insertStep t s.timestamp createdAt n).experiment = some e := h.experiment
  have hp : (db.insertStep t s.timestamp createdAt n).portfolio = some row := hrow
  have hc : (db.insertStep t s.timestamp createdAt n).strategyConfig = some config := h.strategyConfig
  unfold runStep
  rw [he, hp, hc]
  dsimp only
  rw [hstep]
  dsimp only
  unfold Db.recordResult BasicMetricCalculator.calculate
  dsimp only
  rw [if_pos hcapital]
  exact ⟨_, rfl⟩

/-- One more step. -/
theorem Progressed.runBar (h : Progressed e config start k rs) (hcapital : e.initialCapital.val ≠ 0)
    (clock : StepClock) (s : BarStep) : Progressed e config start (k + 1) (rs.runBar clock s).1 := by
  obtain ⟨db', completed, hrun⟩ := h.ready.runs hcapital s .historical clock.createdAt clock.startedAt
    (rs.db.maxSequenceNumber + 1)
  rw [← Db.addNextStep_eq] at hrun
  rw [runBar_eq hrun]
  obtain ⟨-, row, -, -, -, hstep, -⟩ := runStep_ok hrun
  refine ⟨h.raised, hstep.ready h.ready.experiment h.ready.strategyConfig, ?_, (runStep_events hrun).trans h.events⟩
  -- the old steps were completed, and the new one is the step that was run
  have hold : ∀ step ∈ rs.db.steps, step.status = .completed := by
    intro step hmem
    have hstatus := List.mem_map_of_mem (f := ExecutionStep.status) hmem
    rw [h.steps] at hstatus
    exact List.eq_of_mem_replicate hstatus
  have hall : ∀ step ∈ db'.steps, step.status = .completed := by
    intro step hmem
    rw [hstep.steps] at hmem
    obtain ⟨old, hmem', rfl⟩ := List.mem_map.mp hmem
    by_cases hid : old.id = rs.db.nextId
    · rw [if_pos hid]
      rfl
    · rw [if_neg hid]
      rcases List.mem_append.mp hmem' with hmem' | hmem'
      · exact hold old hmem'
      · rw [List.mem_singleton.mp hmem'] at hid
        exact absurd rfl hid
  have hcount : db'.steps.length = k + 1 := by
    have hbefore := congrArg List.length h.steps
    rw [List.length_map, List.length_replicate] at hbefore
    rw [hstep.steps]
    show (List.map _ (rs.db.steps ++ [_])).length = k + 1
    rw [List.length_map, List.length_append, hbefore]
    rfl
  rw [List.eq_replicate_iff, List.length_map]
  refine ⟨hcount, fun status hstatus => ?_⟩
  obtain ⟨step, hmem, rfl⟩ := List.mem_map.mp hstatus
  exact hall step hmem

theorem Progressed.runSteps {steps : List (Bool → BarStep)} {b : Bool} (h : Progressed e config start k rs)
    (hcapital : steps = [] ∨ e.initialCapital.val ≠ 0) :
    Progressed e config start (k + steps.length) (runSteps clock steps b rs) := by
  induction steps generalizing b rs k with
  | nil => exact h
  | cons step steps ih =>
      have hcapital : e.initialCapital.val ≠ 0 := hcapital.resolve_left (List.cons_ne_nil _ _)
      rw [TradingAI.runSteps, h.raised, List.length_cons, Nat.add_comm steps.length 1, ← Nat.add_assoc]
      exact ih (h.runBar hcapital _ _) (.inr hcapital)

theorem Progressed.runSessions {sessions : List (List IntradayBar)} (h : Progressed e config start k rs)
    (hranges : ∀ sessionBars ∈ sessions, ∃ range, openingRange sessionBars = .ok range)
    (hcapital : sessions = [] ∨ e.initialCapital.val ≠ 0) :
    Progressed e config start (k + sessions.flatten.length) (runSessions clock sessions rs) := by
  induction sessions generalizing rs k with
  | nil => exact h
  | cons sessionBars sessions ih =>
      have hcapital : e.initialCapital.val ≠ 0 := hcapital.resolve_left (List.cons_ne_nil _ _)
      obtain ⟨range, hrange⟩ := hranges sessionBars List.mem_cons_self
      have hsession : Progressed e config start (k + sessionBars.length)
          (TradingAI.runSteps clock (sessionSteps sessionBars range.1 range.2) false rs) := by
        have hlength : (sessionSteps sessionBars range.1 range.2).length = sessionBars.length := List.length_map _
        rw [← hlength]
        exact h.runSteps (.inr hcapital)
      rw [TradingAI.runSessions, h.raised]
      dsimp only
      rw [hrange, List.flatten_cons, List.length_append, ← Nat.add_assoc]
      exact ih hsession (fun other hmem => hranges other (List.mem_cons_of_mem _ hmem)) (.inr hcapital)

/-- The first bar raises, and the loop stops there. -/
theorem FailedAtFirst.runSteps {steps : List (Bool → BarStep)} {b : Bool} (h : Ready e config start)
    (hcapital : e.initialCapital.val = 0) (hsteps : steps ≠ []) :
    FailedAtFirst start (runSteps clock steps b { db := start }) := by
  obtain ⟨step, steps, rfl⟩ := List.exists_cons_of_ne_nil hsteps
  have hdivides : ∃ profit, runStep (step b) start.nextId (clock 0).startedAt
      (start.addNextStep .historical (step b).timestamp (clock 0).createdAt) =
        .error (BasicMetricCalculator.divisionError profit) := by
    rw [Db.addNextStep_eq]
    exact h.divides hcapital (step b) .historical _ _ _
  obtain ⟨profit, hdivides⟩ := hdivides
  have hbar : ({ db := start } : RunState).runBar (clock 0) (step b) =
      ({ db     := start.addNextStep .historical (step b).timestamp (clock 0).createdAt
         raised := some (some start.nextId, BasicMetricCalculator.divisionError profit) }, false) := by
    unfold RunState.runBar
    dsimp only
    rw [hdivides]
  rw [TradingAI.runSteps]
  dsimp only [List.length_nil]
  rw [hbar]
  dsimp only
  rw [runSteps_raised rfl]
  exact ⟨⟨profit, rfl⟩, _, _, rfl⟩

/-! ## The loop of each orchestrator -/

/-- What the provider of `o` answers for a range of dates: how many bars. -/
def HistoricalEnv.served (env : HistoricalEnv) (o : HistoricalOrchestrator) (first last : Date) : Except Raised ℕ :=
  match o with
  | .openingRangeBreakout => List.length <$> env.loadIntradayRange first last spySymbol .intraday5Min
  | _                     => List.length <$> env.loadRange first last

/-- Bars of the day are those of a validated range, as both intraday providers load it. -/
def HistoricalEnv.LoadsSessions (env : HistoricalEnv) (first last : Date) : Prop :=
  ∀ bars, env.loadIntradayRange first last spySymbol .intraday5Min = .ok bars →
    ∃ sessions rows, Loaded first last sessions rows bars

/-- The orchestrator `o` can run `e`. -/
structure Runnable (o : HistoricalOrchestrator) (e : Experiment) : Prop where
  symbol    : e.assetSymbol = spySymbol
  frequency : o = .openingRangeBreakout → e.tradingFrequency = .intraday5Min

/-- Every session of a loaded range has an opening range: its first bar is in it. -/
theorem Loaded.openingRange_ok {first last : Date} {sessions : List TradingSession} {session : TradingSession}
    {rows bars : List IntradayBar} (h : Loaded first last sessions rows bars) (hmem : session ∈ sessions) :
    ∃ range, openingRange (dayBars bars session) = .ok range := by
  have halone := ofCalendar (session_alone h.range h.calendar hmem)
  obtain ⟨bar, bars', hbars⟩ := List.exists_cons_of_ne_nil (h.dayBars_ne_nil hmem)
  have htimes := h.dayBars_times hmem
  rw [hbars, List.map_cons] at htimes
  have hfirst : bar.timestamp = session.base := by
    have hhead := congrArg List.head? htimes
    rw [halone.expected, List.head?_cons] at hhead
    obtain ⟨k, hk⟩ : ∃ k, session.barCount = k + 1 := by
      rcases halone.barCount_eq with hcount | hcount <;> exact ⟨_, hcount⟩
    rw [hk, barGrid, List.range_succ_eq_map, List.map_cons, List.head?_cons, Nat.zero_mul, Nat.add_zero] at hhead
    exact Option.some.inj hhead
  have hopening : bar.timestamp.time ≤ openingRangeEnd := by
    have hstart : session.base ∈ session.expectedBarStartTimes := by
      rw [← hfirst, ← htimes]
      exact List.mem_cons_self
    have htime : DateTime.midnight session.sessionDate + session.base.time =
        DateTime.midnight session.sessionDate + regularOpenTime := (halone.start_parts hstart).2
    rw [hfirst, Nat.add_left_cancel htime]
    decide
  apply openingRange_eq_ok
  apply List.ne_nil_of_mem
  rw [hbars, List.mem_filter]
  exact ⟨List.mem_cons_self, decide_eq_true hopening⟩

/-- The bars behind a number of bars. -/
theorem bars_of_served {α : Type} {answer : Except Raised (List α)} (h : List.length <$> answer = .ok n) :
    ∃ bars, answer = .ok bars ∧ bars.length = n := by
  cases answer with
  | error raised => cases h
  | ok bars =>
      cases h
      exact ⟨bars, rfl, rfl⟩

theorem error_of_served {α : Type} {answer : Except Raised (List α)} {raised : Raised}
    (h : List.length <$> answer = .error raised) : answer = .error raised := by
  cases answer with
  | error other =>
      cases h
      rfl
  | ok bars => cases h

/-- What a loop over `n` bars comes to. -/
structure LoopEnds (e : Experiment) (config : StrategyConfig) (start : Db) (n : ℕ) (rs : RunState) : Prop where
  progressed : n = 0 ∨ e.initialCapital.val ≠ 0 → Progressed e config start n rs
  failed     : n ≠ 0 → e.initialCapital.val = 0 → FailedAtFirst start rs

theorem runSteps_ends {steps : List (Bool → BarStep)} (h : Ready e config start) (hsteps : start.steps = []) :
    LoopEnds e config start steps.length (runSteps clock steps false { db := start }) := by
  have hbegin : Progressed e config start 0 { db := start } := ⟨rfl, h, by rw [hsteps]; rfl, rfl⟩
  refine ⟨fun hcapital => ?_, fun hpos hcapital => ?_⟩
  · rw [← Nat.zero_add steps.length]
    exact hbegin.runSteps (hcapital.imp_left List.length_eq_zero_iff.mp)
  · exact FailedAtFirst.runSteps h hcapital (mt List.length_eq_zero_iff.mpr hpos)

theorem runSessions_ends {sessions : List (List IntradayBar)} (h : Ready e config start) (hsteps : start.steps = [])
    (hranges : ∀ sessionBars ∈ sessions, sessionBars ≠ [] ∧ ∃ range, openingRange sessionBars = .ok range) :
    LoopEnds e config start sessions.flatten.length (runSessions clock sessions { db := start }) := by
  have hbegin : Progressed e config start 0 { db := start } := ⟨rfl, h, by rw [hsteps]; rfl, rfl⟩
  refine ⟨fun hcapital => ?_, fun hpos hcapital => ?_⟩
  · have hempty : sessions.flatten.length = 0 → sessions = [] := by
      intro hnone
      by_contra hsome
      obtain ⟨sessionBars, sessions, rfl⟩ := List.exists_cons_of_ne_nil hsome
      rw [List.flatten_cons, List.length_append] at hnone
      exact (hranges sessionBars List.mem_cons_self).1 (List.length_eq_zero_iff.mp (by omega))
    rw [← Nat.zero_add sessions.flatten.length]
    exact hbegin.runSessions (fun sessionBars hmem => (hranges sessionBars hmem).2) (hcapital.imp_left hempty)
  · cases sessions with
    | nil => exact absurd rfl hpos
    | cons sessionBars sessions =>
        obtain ⟨hbars, range, hrange⟩ := hranges sessionBars List.mem_cons_self
        have hne : sessionSteps sessionBars range.1 range.2 ≠ [] := mt List.map_eq_nil_iff.mp hbars
        have hfirst : FailedAtFirst start
            (runSteps clock (sessionSteps sessionBars range.1 range.2) false { db := start }) :=
          FailedAtFirst.runSteps h hcapital hne
        rw [runSessions]
        dsimp only
        rw [hrange]
        dsimp only
        obtain ⟨profit, hraised⟩ := hfirst.raised
        rw [runSessions_raised hraised]
        exact hfirst

theorem length_movingAverageSteps (window : ℕ) (prices : List ℚ) (bars : List DailyBar) :
    (movingAverageSteps window prices bars).length = bars.length := by
  induction bars generalizing prices with
  | nil => rfl
  | cons bar bars ih => rw [movingAverageSteps, List.length_cons, ih, List.length_cons]

/-- **The loop** over the bars that were served. -/
theorem loop_ends (h : Ready e config db) (hsteps : db.steps = []) (ho : Runnable o e)
    (hsessions : env.LoadsSessions e.startDate e.endDate) (hserved : env.served o e.startDate e.endDate = .ok n) :
    ∃ rs, o.loop env e db = .ok rs ∧ LoopEnds e config db n rs := by
  cases o with
  | buyAndHold =>
      obtain ⟨bars, hbars, rfl⟩ := bars_of_served hserved
      refine ⟨runSteps env.clock (buyAndHoldSteps bars) false { db }, ?_, ?_⟩
      · unfold HistoricalOrchestrator.loop
        dsimp only
        rw [hbars]
        rfl
      · rw [show bars.length = (buyAndHoldSteps bars).length from (List.length_map _).symm]
        exact runSteps_ends h hsteps
  | movingAverage =>
      obtain ⟨bars, hbars, rfl⟩ := bars_of_served hserved
      have hwindow : movingAverageWindow db = .ok config.window := by
        unfold movingAverageWindow
        rw [h.strategyConfig]
      refine ⟨runSteps env.clock (movingAverageSteps config.window [] bars) false { db }, ?_, ?_⟩
      · unfold HistoricalOrchestrator.loop
        dsimp only
        rw [hbars, hwindow]
        rfl
      · rw [← length_movingAverageSteps config.window [] bars]
        exact runSteps_ends h hsteps
  | openingRangeBreakout =>
      obtain ⟨bars, hbars, rfl⟩ := bars_of_served hserved
      obtain ⟨sessions, rows, hloaded⟩ := hsessions bars hbars
      have hflat : bars.length = (sessions.map (dayBars bars)).flatten.length := by
        rw [← List.flatMap_def, ← hloaded.flatMap_dayBars]
      refine ⟨runSessions env.clock (groupBySession bars) { db }, ?_, ?_⟩
      · unfold HistoricalOrchestrator.loop
        dsimp only
        rw [ho.symbol, ho.frequency rfl, hbars]
        rfl
      · rw [hloaded.groupBySession_eq, hflat]
        apply runSessions_ends h hsteps
        intro sessionBars hmem
        obtain ⟨session, hsession, rfl⟩ := List.mem_map.mp hmem
        exact ⟨hloaded.dayBars_ne_nil hsession, hloaded.openingRange_ok hsession⟩

/-- A loop that has no bars to begin with. -/
theorem loop_refused {raised : Raised} (ho : Runnable o e)
    (hserved : env.served o e.startDate e.endDate = .error raised) : o.loop env e db = .error raised := by
  unfold HistoricalOrchestrator.loop
  cases o with
  | buyAndHold | movingAverage =>
      dsimp only
      rw [error_of_served hserved]
      rfl
  | openingRangeBreakout =>
      dsimp only
      rw [ho.symbol, ho.frequency rfl, error_of_served hserved]
      rfl

/-! ## The whole run -/

/-- **How an experiment has ended**: its status, the statuses of its steps, and the events of its log. -/
structure Ended (db : Db) (status : ExperimentStatus) (steps : List ExecutionStepStatus)
    (events : List SystemEventType) : Prop where
  status : db.status = some status
  steps  : db.steps.map ExecutionStep.status = steps
  events : db.systemEvents.map SystemEventLog.eventType = events

/-- **The outcomes of a run** that began with these events: every bar has its completed step; or the first step
    divides by the capital; or there are no bars to begin with, and what the provider raised is recorded, unless it
    ends the process. -/
structure RunEnds (o : HistoricalOrchestrator) (env : HistoricalEnv) (e : Experiment) (events : List SystemEventType)
    (db : Db) : Prop where
  completed   : ∀ n, env.served o e.startDate e.endDate = .ok n → n = 0 ∨ e.initialCapital.val ≠ 0 →
    Ended db .completed (List.replicate n .completed) (events ++ [.experimentCompleted])
  divided     : ∀ n, env.served o e.startDate e.endDate = .ok n → n ≠ 0 → e.initialCapital.val = 0 →
    Ended db .failed [.failed] (events ++ [.experimentFailed])
  unserved    : ∀ raised, env.served o e.startDate e.endDate = .error raised → raised.kind ≠ .base →
    Ended db .failed [] (events ++ [.experimentFailed])
  interrupted : ∀ raised, env.served o e.startDate e.endDate = .error raised → raised.kind = .base →
    Ended db e.status [] events

/-- The record of a failure. -/
theorem ended_failure {message : String} {failed : Option ℕ} {raised : Raised} {now : DateTime}
    (he : db.experiment.isSome) {steps : List ExecutionStepStatus}
    (hsteps : (db.failStep failed now message).steps.map ExecutionStep.status = steps) :
    Ended (db.recordHistoricalFailure message failed raised now) .failed steps
      (db.systemEvents.map SystemEventLog.eventType ++ [.experimentFailed]) := by
  obtain ⟨experiment, he⟩ := Option.isSome_iff_exists.mp he
  have hkept : (db.failStep failed now message).experiment = some experiment ∧
      (db.failStep failed now message).systemEvents = db.systemEvents := by
    cases failed <;> exact ⟨he, rfl⟩
  refine ⟨?_, ?_, ?_⟩
  · rw [Db.status_recordHistoricalFailure, Db.status, he]
    rfl
  · rw [Db.recordHistoricalFailure_steps]
    exact hsteps
  · unfold Db.recordHistoricalFailure
    dsimp only
    rw [hkept.1]
    show List.map SystemEventLog.eventType ((db.failStep failed now message).systemEvents ++ [_]) = _
    rw [hkept.2, List.map_append]
    rfl

/-- **A run ends in one of the four ways.** -/
theorem run_ends (h : Ready e config db) (hsteps : db.steps = []) (ho : Runnable o e)
    (hsessions : env.LoadsSessions e.startDate e.endDate) :
    RunEnds o env e (db.systemEvents.map SystemEventLog.eventType) (o.run env db).db := by
  have hloop : ∀ {rs}, o.loop env e db = .ok rs → o.run env db = o.close env rs := by
    intro rs hrs
    unfold HistoricalOrchestrator.run
    rw [h.experiment]
    dsimp only
    rw [hrs]
  have hrefused : ∀ {raised}, env.served o e.startDate e.endDate = .error raised →
      o.run env db = o.close env { db, raised := some (none, raised) } := by
    intro raised hserved
    unfold HistoricalOrchestrator.run
    rw [h.experiment]
    dsimp only
    rw [loop_refused ho hserved]
  have hlisted : db.experiment.isSome := by
    rw [h.experiment]
    rfl
  refine ⟨?_, ?_, ?_, ?_⟩
  · intro n hserved hcapital
    obtain ⟨rs, hrs, hends⟩ := loop_ends h hsteps ho hsessions hserved
    have hdone := hends.progressed hcapital
    rw [hloop hrs]
    unfold HistoricalOrchestrator.close
    rw [hdone.raised]
    dsimp only
    rw [hdone.ready.experiment]
    refine ⟨?_, hdone.steps, ?_⟩
    · rw [Db.status_completeExperiment, Db.status, hdone.ready.experiment]
      rfl
    · show List.map SystemEventLog.eventType (rs.db.systemEvents ++ [_]) = _
      rw [hdone.events, List.map_append]
      rfl
  · intro n hserved hpos hcapital
    obtain ⟨rs, hrs, hends⟩ := loop_ends h hsteps ho hsessions hserved
    have hfailed := hends.failed hpos hcapital
    obtain ⟨profit, hraised⟩ := hfailed.raised
    obtain ⟨slot, now, hopened⟩ := hfailed.opened
    rw [hloop hrs]
    unfold HistoricalOrchestrator.close
    rw [hraised, hopened]
    dsimp only
    rw [if_neg ErrorKind.noConfusion]
    have hstart : (db.addNextStep .historical slot now).experiment.isSome := hlisted
    refine ended_failure hstart ?_
    -- the one step there is has the key of the failure
    show List.map ExecutionStep.status (List.map _ (db.steps ++ [_])) = _
    rw [hsteps]
    show [ExecutionStep.status (if db.nextId = db.nextId then _ else _)] = _
    rw [if_pos rfl]
    rfl
  · intro raised hserved hkind
    rw [hrefused hserved]
    unfold HistoricalOrchestrator.close
    dsimp only
    rw [if_neg hkind]
    apply ended_failure hlisted
    show db.steps.map ExecutionStep.status = []
    rw [hsteps]
    rfl
  · intro raised hserved hkind
    rw [hrefused hserved]
    unfold HistoricalOrchestrator.close
    dsimp only
    rw [if_pos hkind]
    refine ⟨?_, ?_, rfl⟩
    · rw [Db.status, h.experiment]
      rfl
    · rw [hsteps]
      rfl

/-! ## From the request on -/

variable {settings : ValidatorSettings} {request : CreateExperimentRequest}

/-- What an accepted historical request is about. -/
structure AcceptedHistorical (request : CreateExperimentRequest) : Prop where
  symbol    : normalizeSymbol request.assetSymbol = spySymbol
  agent     : request.strategyType ≠ .agenticAi
  smokeTest : request.strategyType ≠ .paperTradingSmokeTest
  frequency : request.strategyType = .openingRangeBreakout → request.tradingFrequency = .intraday5Min

theorem accepted_historical (h : validateCreateExperimentRequest settings request = .ok ())
    (hmode : request.mode = .historicalSimulation) : AcceptedHistorical request := by
  obtain ⟨_, hsymbol, h⟩ := ok_of_bind h
  obtain ⟨_, -, h⟩ := ok_of_bind h
  obtain ⟨_, hstrategy, -⟩ := ok_of_bind h
  obtain ⟨_, -, hsymbol⟩ := ok_of_bind hsymbol
  obtain ⟨_, hagent, hstrategy⟩ := ok_of_bind hstrategy
  refine ⟨?_, ?_, ?_, ?_⟩
  · by_contra hother
    exact refuseIf_eq_ok.mp hsymbol ⟨hmode, hother⟩
  · intro hagentic
    exact refuseIf_eq_ok.mp hagent ⟨hmode, hagentic⟩
  · intro hsmoke
    rw [hsmoke] at hstrategy
    obtain ⟨_, -, hstrategy⟩ := ok_of_bind hstrategy
    obtain ⟨_, -, hstrategy⟩ := ok_of_bind hstrategy
    obtain ⟨_, hpaper, -⟩ := ok_of_bind hstrategy
    apply refuseIf_eq_ok.mp hpaper
    rw [hmode]
    decide
  · intro hopening
    rw [hopening] at hstrategy
    obtain ⟨_, -, hfrequency⟩ := ok_of_bind hstrategy
    exact not_not.mp (refuseIf_eq_ok.mp hfrequency)

/-- The one configuration that the validator accepts and a start refuses. -/
def CreateExperimentRequest.Unstartable (request : CreateExperimentRequest) : Prop :=
  request.strategyType = .movingAverage ∧ request.tradingFrequency ≠ .daily

/-- A start refuses nothing else. -/
theorem AcceptedHistorical.refusal (h : AcceptedHistorical request) (hmode : request.mode = .historicalSimulation)
    (experimentId id : ℕ) (now : DateTime) :
    (startRefusal experimentId (request.experimentRow id now)).isSome ↔ request.Unstartable := by
  have hagent : ¬ ((request.experimentRow id now).mode = .historicalSimulation ∧
      (request.experimentRow id now).strategyType = .agenticAi) := fun hboth => h.agent hboth.2
  have hopening : ¬ ((request.experimentRow id now).strategyType = .openingRangeBreakout ∧
      (((request.experimentRow id now).mode ≠ .historicalSimulation ∧ (request.experimentRow id now).mode ≠ .paperTrading) ∨
        (request.experimentRow id now).tradingFrequency ≠ .intraday5Min ∨
        ((request.experimentRow id now).mode = .historicalSimulation ∧
          (request.experimentRow id now).assetSymbol ≠ spySymbol))) := by
    rintro ⟨hstrategy, ⟨hother, -⟩ | hfrequency | ⟨-, hsymbol⟩⟩
    · exact hother hmode
    · exact hfrequency (h.frequency hstrategy)
    · exact hsymbol h.symbol
  unfold startRefusal
  rw [if_neg hagent, if_neg hopening]
  by_cases hunstartable : request.Unstartable
  · have hrefused : (request.experimentRow id now).mode = .historicalSimulation ∧
        (request.experimentRow id now).strategyType = .movingAverage ∧
        (request.experimentRow id now).tradingFrequency ≠ .daily := ⟨hmode, hunstartable⟩
    rw [if_pos hrefused]
    exact ⟨fun _ => hunstartable, fun _ => rfl⟩
  · rw [if_neg fun hboth => hunstartable hboth.2]
    refine ⟨fun hsome => ?_, fun hboth => absurd hboth hunstartable⟩
    cases hsome

/-- A start finds the orchestrator of the strategy. -/
theorem AcceptedHistorical.orchestrator (h : AcceptedHistorical request) (hmode : request.mode = .historicalSimulation)
    (id : ℕ) (now : DateTime) :
    ∃ o, orchestratorFor (request.experimentRow id now) = some o ∧ o.strategyType = request.strategyType ∧
      Runnable o (request.experimentRow id now) := by
  have hrow : (request.experimentRow id now).strategyType = request.strategyType := rfl
  have hhistorical : (request.experimentRow id now).mode = .historicalSimulation := hmode
  unfold orchestratorFor
  rw [if_pos hhistorical, hrow]
  cases hstrategy : request.strategyType with
  | buyAndHold => exact ⟨.buyAndHold, rfl, rfl, ⟨h.symbol, fun hne => nomatch hne⟩⟩
  | movingAverage => exact ⟨.movingAverage, rfl, rfl, ⟨h.symbol, fun hne => nomatch hne⟩⟩
  | openingRangeBreakout =>
      exact ⟨.openingRangeBreakout, if_pos (h.frequency hstrategy), rfl, ⟨h.symbol, fun _ => h.frequency hstrategy⟩⟩
  | agenticAi => exact absurd hstrategy h.agent
  | paperTradingSmokeTest => exact absurd hstrategy h.smokeTest

/-- **How an accepted historical experiment ends.** Once created, it can be started unless it is a moving average that
    is not daily. A start adds the orchestrator of its strategy, and its run ends in one of four ways, decided by what
    the provider serves for the range and by the capital of the request, rounded to the column. -/
theorem accepted_runs_end (settings : ValidatorSettings) (creation : CreationEnv) (request : CreateExperimentRequest)
    (created : Db) (now : DateTime) (env : HistoricalEnv) (hcreated : createExperiment settings creation request = .ok created)
    (hmode : request.mode = .historicalSimulation) (hsessions : env.LoadsSessions request.startDate request.endDate) :
    ((∃ refusal, startExperiment now created = .error refusal) ↔ request.Unstartable) ∧
      ∀ started task, startExperiment now created = .ok (started, task) →
        ∃ o e, task = some o ∧ o.strategyType = request.strategyType ∧ started.experiment = some e ∧
          e = { request.experimentRow creation.experimentId creation.now with status := .running, updatedAt := now } ∧
          RunEnds o env e [.experimentCreated, .experimentStarted] (o.run env started).db := by
  obtain ⟨hvalid, rfl⟩ := createExperiment_ok hcreated
  have haccepted := accepted_historical hvalid hmode
  have hrefusal := haccepted.refusal hmode creation.experimentId creation.experimentId creation.now
  obtain ⟨o, hfound, hstrategy, hrunnable⟩ := haccepted.orchestrator hmode creation.experimentId creation.now
  have hstart : startExperiment now (createdRows creation request) =
      checkedTransition creation.experimentId .start (request.experimentRow creation.experimentId creation.now) >>=
        fun nextStatus => .ok ((createdRows creation request).applyLifecycleAction .start nextStatus now, some o) := by
    rw [← hfound]
    rfl
  constructor
  · rw [hstart, ← hrefusal]
    unfold checkedTransition
    cases startRefusal creation.experimentId (request.experimentRow creation.experimentId creation.now) with
    | some refusal => exact ⟨fun _ => rfl, fun _ => ⟨refusal, rfl⟩⟩
    | none =>
        refine ⟨?_, fun hsome => nomatch hsome⟩
        rintro ⟨refusal, hrefused⟩
        cases hrefused
  · intro started task h
    rw [hstart] at h
    obtain ⟨nextStatus, hchecked, h⟩ := ok_of_bind h
    cases h
    have hstatus : nextStatus = .running := by
      unfold checkedTransition at hchecked
      split at hchecked
      · cases hchecked
      · exact ((validateTransition_eq_ok.mp hchecked).2).symm
    subst hstatus
    refine ⟨o, _, rfl, hstrategy, rfl, rfl, ?_⟩
    have hready : Ready { request.experimentRow creation.experimentId creation.now with
        status := .running, updatedAt := now } request.strategyConfigRow
        ((createdRows creation request).applyLifecycleAction .start .running now) := ⟨rfl, rfl, _, rfl⟩
    exact run_ends hready rfl ⟨hrunnable.symbol, hrunnable.frequency⟩ hsessions

/-! ## Four days -/

/-- A buy-and-hold request for the days of `fourDays`. -/
def fourDaysRequest (capital : ℚ) : CreateExperimentRequest where
  mode             := .historicalSimulation
  strategyType     := .buyAndHold
  assetSymbol      := " spy"
  initialCapital   := capital
  startDate        := 1
  endDate          := 4
  tradingFrequency := .daily
  feeValue         := 0
  strategyConfig   := ⟨none, none, none, none, none⟩

/-- Its rows after a start. -/
def fourDaysStarted (capital : ℚ) : Db :=
  (createdRows smallCreation (fourDaysRequest capital)).applyLifecycleAction .start .running 1

/-- With a capital all four days are completed. A hundred-thousandth is accepted and started like any other, and its
    first step divides by zero. -/
theorem fourDays_end :
    Ended (HistoricalOrchestrator.buyAndHold.run fourDays (fourDaysStarted 1000)).db .completed
        (List.replicate 4 .completed) [.experimentCreated, .experimentStarted, .experimentCompleted] ∧
      Ended (HistoricalOrchestrator.buyAndHold.run fourDays (fourDaysStarted (1 / 100000))).db .failed [.failed]
        [.experimentCreated, .experimentStarted, .experimentFailed] := by
  have hcreated : ∀ capital ∈ [(1000 : ℚ), 1 / 100000],
      createExperiment smallSettings smallCreation (fourDaysRequest capital) =
        .ok (createdRows smallCreation (fourDaysRequest capital)) := by
    intro capital hmem
    apply createExperiment_of_isOk
    rcases List.mem_pair.mp hmem with rfl | rfl <;> decide +kernel
  have hends : ∀ capital ∈ [(1000 : ℚ), 1 / 100000],
      RunEnds .buyAndHold fourDays { (fourDaysRequest capital).experimentRow 1 0 with status := .running, updatedAt := 1 }
        [.experimentCreated, .experimentStarted]
        (HistoricalOrchestrator.buyAndHold.run fourDays (fourDaysStarted capital)).db := by
    intro capital hmem
    obtain ⟨o, e, ho, -, -, rfl, hends⟩ := (accepted_runs_end smallSettings smallCreation (fourDaysRequest capital) _ 1
      fourDays (hcreated capital hmem) rfl fun bars hbars => nomatch hbars).2 (fourDaysStarted capital) (some .buyAndHold) rfl
    obtain rfl := Option.some.inj ho
    exact hends
  refine ⟨?_, ?_⟩
  · exact (hends 1000 (by decide)).completed 4 rfl (.inr (by decide +kernel))
  · exact (hends (1 / 100000) (by decide +kernel)).divided 4 rfl (by decide) (by decide +kernel)

end TradingAI
