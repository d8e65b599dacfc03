import TradingAI.Execution.HistoricalSteps
import TradingAI.Execution.Account
import TradingAI.Execution.Ledger

/-!
# `Execution.HistoricalLedger` — what a completed historical step leaves

One spec for `runStep`, whatever its strategy: which rows are new, and that the stored account is the
account after the bar's action (`Stepped`). From it what a whole loop leaves: a predicate that every step
keeps holds of every record of its history (`runSteps_keeps`).

## Contents
- `Trade.unmarked`: a trade without the column that is filled in later.
- `Stepped`, `runStep_ok`, `Stepped.account`.
- `runSteps_keeps`, `run_keeps`.
-/

namespace TradingAI

open Rounding SimulationExecutionProvider Outcome

/-! ## Rows -/

/-- A trade without the one column that is written after it. -/
def Trade.unmarked (t : Trade) : Trade := { t with portfolioValueAfterTrade := none }

/-- The trades as they were booked. -/
def Db.bookedTrades (db : Db) : List Trade := db.trades.map Trade.unmarked

@[simp] theorem Db.bookedTrades_writePortfolio (db : Db) (p : Portfolio) (tradeId : Option ℕ) :
    (db.writePortfolio p tradeId).bookedTrades = db.bookedTrades := by
  unfold bookedTrades writePortfolio
  rw [List.map_map]
  apply List.map_congr_left
  intro t _
  simp only [Function.comp]
  split <;> rfl

/-- The account of a stored row. -/
def PortfolioRow.account (row : PortfolioRow) : Account := ⟨row.cash.val, row.position⟩

@[simp] theorem PortfolioRow.load_account (row : PortfolioRow) : row.load.account = row.account := rfl

/-- Storing a marked portfolio stores its account, if the columns can hold it. -/
theorem account_row_markedTo {p : Portfolio} (hcash : OnGrid 4 p.cash) (hposition : OnGrid 8 p.heldQuantity)
    (price : ℚ) (t : DateTime) : (p.markedTo price t).row.account = p.account := by
  unfold PortfolioRow.account
  rw [Portfolio.row_position, Portfolio.row_cash, Portfolio.markedTo_cash, Portfolio.markedTo_heldQuantity,
    numeric_val_of_onGrid hcash, numeric_val_of_onGrid hposition]
  rfl

/-- The trade an execution adds, with its keys. -/
def SimulationResult.newTrade (result : SimulationResult) (orderId : ℕ) : Option Trade :=
  match result.order, result.trade with
  | some _, some trade => some { trade with id := orderId + 1, orderId }
  | _, _               => none

/-! ## One step -/

/-- The order a bar leads to. -/
def BarStep.order (s : BarStep) (row : PortfolioRow) : Option ShareOrder :=
  row.account.order (s.decide row.load.positionQuantity).action s.price

/-- The rows of an execution are an order and a trade, or nothing. -/
theorem recordExecution_spec (db : Db) (r : SimulationResult) :
    (db.recordExecution r).experiment = db.experiment ∧ (db.recordExecution r).steps = db.steps ∧
      (db.recordExecution r).strategyConfig = db.strategyConfig ∧
      (db.recordExecution r).decisions = db.decisions ∧ (db.recordExecution r).riskChecks = db.riskChecks ∧
      (db.recordExecution r).bookedTrades =
        db.bookedTrades ++ ((r.newTrade db.nextId).map Trade.unmarked).toList ∧
      (db.recordExecution r).portfolioSnapshots = db.portfolioSnapshots ∧
      db.nextId ≤ (db.recordExecution r).nextId := by
  obtain ⟨order, trade, portfolio⟩ := r
  cases order with
  | none => exact ⟨rfl, rfl, rfl, rfl, rfl, (List.append_nil _).symm, rfl, le_rfl⟩
  | some order =>
      cases trade with
      | none => exact ⟨rfl, rfl, rfl, rfl, rfl, (List.append_nil _).symm, rfl, le_rfl⟩
      | some trade =>
          refine ⟨rfl, rfl, rfl, rfl, rfl, List.map_append, rfl, ?_⟩
          show db.nextId ≤ db.nextId + 1 + 1
          omega

/-- **A completed step** of `s`: the rows it adds to those of `db`, where `row` was the portfolio. -/
structure Stepped (s : BarStep) (executionStepId : ℕ) (now : DateTime) (row : PortfolioRow)
    (db db' : Db) : Prop where
  experiment     : db'.experiment = db.experiment
  strategyConfig : db'.strategyConfig = db.strategyConfig
  steps          : db'.steps = (db.updateStep executionStepId (·.completedStep now)).steps
  portfolio      : db'.portfolio = some ((s.execution row.load executionStepId (db.nextId + 2)
    now).portfolio.markedTo s.price now).row
  decisions      : db'.decisions = db.decisions ++ [s.decisionRow (db.nextId + 1) executionStepId db.nextId now
    (s.decide row.load.positionQuantity)]
  riskChecks     : db'.riskChecks = db.riskChecks ++ [(s.riskResult row.load).row (db.nextId + 2)
    executionStepId (db.nextId + 1) now]
  trades         : db'.bookedTrades = db.bookedTrades ++ (((s.execution row.load executionStepId
    (db.nextId + 2) now).newTrade (db.nextId + 3)).map Trade.unmarked).toList
  snapshots      : ∃ id, db'.portfolioSnapshots = db.portfolioSnapshots ++ [s.snapshotRow id executionStepId
    now (s.execution row.load executionStepId (db.nextId + 2) now).portfolio]
  nextId         : db.nextId ≤ db'.nextId

/-- What the result of a step is made of. -/
theorem recordResult_ok {db db' : Db} {initialCapital : ℚ} {s : BarStep} {executionStepId : ℕ} {now : DateTime}
    {p : Portfolio} {tradeId : Option ℕ}
    (h : db.recordResult initialCapital s executionStepId now p tradeId = .ok db') :
    initialCapital ≠ 0 ∧ db'.experiment = db.experiment ∧ db'.strategyConfig = db.strategyConfig ∧
      db'.steps = (db.updateStep executionStepId (·.completedStep now)).steps ∧
      db'.portfolio = some (p.markedTo s.price now).row ∧ db'.decisions = db.decisions ∧
      db'.riskChecks = db.riskChecks ∧ db'.bookedTrades = db.bookedTrades ∧
      (∃ id, db'.portfolioSnapshots = db.portfolioSnapshots ++ [s.snapshotRow id executionStepId now p]) ∧
      db.nextId ≤ db'.nextId := by
  obtain ⟨metrics, hmetrics, hdb⟩ := ok_of_bind h
  have hcapital : initialCapital ≠ 0 := by
    intro hzero
    simp [BasicMetricCalculator.calculate, hzero] at hmetrics
  cases hdb
  refine ⟨hcapital, rfl, rfl, rfl, rfl, rfl, rfl, ?_, ⟨db.nextId, rfl⟩, ?_⟩
  · exact Db.bookedTrades_writePortfolio db _ tradeId
  · show db.nextId ≤ db.nextId + 2
    omega

/-- A bar executes its order. -/
theorem BarStep.execution_eq (s : BarStep) (row : PortfolioRow) (executionStepId riskCheckId : ℕ)
    (now : DateTime) :
    s.execution row.load executionStepId riskCheckId now =
      match s.order row with
      | none           => { order := none, trade := none, portfolio := row.load }
      | some (side, q) => execute side q s.price row.load executionStepId riskCheckId s.timestamp now := by
  have horder : (s.riskResult row.load).order = s.order row := (evaluate_order _ _ _).1
  rewrite [BarStep.execution, executeIfApplicable_eq, horder]
  cases s.order row <;> rfl

/-- A round trip is completed by a SELL. -/
theorem BarStep.completes_iff (s : BarStep) (row : PortfolioRow) (executionStepId riskCheckId : ℕ)
    (now : DateTime) :
    ((s.riskResult row.load).finalAction = .sell ∧
        (s.execution row.load executionStepId riskCheckId now).trade.isSome) ↔
      finalActionOf (s.order row) = .sell := by
  have haction : (s.riskResult row.load).finalAction = finalActionOf (s.order row) :=
    (evaluate_order _ _ _).2
  rw [haction, BarStep.execution_eq]
  cases s.order row with
  | none => simp [finalActionOf]
  | some o => simp [execute]

/-- **Spec of `_run_step`.** -/
theorem runStep_ok {s : BarStep} {executionStepId : ℕ} {now : DateTime} {db db' : Db} {completed : Bool}
    (h : runStep s executionStepId now db = .ok (db', completed)) :
    ∃ e row, db.experiment = some e ∧ e.initialCapital.val ≠ 0 ∧ db.portfolio = some row ∧
      Stepped s executionStepId now row db db' ∧ completed = decide (finalActionOf (s.order row) = .sell) := by
  unfold runStep at h
  split at h
  · next e row config he hrow hconfig =>
      split at h
      · cases h
      · obtain ⟨db'', hresult, heq⟩ := ok_of_bind h
        cases heq
        obtain ⟨hcapital, hexperiment, hstrategy, hsteps, hportfolio, hdecisions, hrisks, htrades, hsnapshots,
          hnext⟩ := recordResult_ok hresult
        refine ⟨e, row, he, hcapital, hrow, ?_, ?_⟩
        · -- the step's rows are those of its three parts
          obtain ⟨hx₁, hx, hx₂, hx₃, hx₄, hx₅, hx₆, hx₇⟩ := recordExecution_spec
            (db.recordDecision s executionStepId now (s.decide row.load.positionQuantity)
              (s.riskResult row.load)) (s.execution row.load executionStepId (db.nextId + 2) now)
          have hnext' : db.nextId ≤ (db.recordDecision s executionStepId now
              (s.decide row.load.positionQuantity) (s.riskResult row.load)).nextId := by
            show db.nextId ≤ db.nextId + 3
            omega
          exact
            { experiment     := hexperiment.trans hx₁
              strategyConfig := hstrategy.trans hx₂
              steps          := by rw [hsteps]; exact congrArg (List.map _) hx
              portfolio      := hportfolio
              decisions      := hdecisions.trans hx₃
              riskChecks     := hrisks.trans hx₄
              trades         := htrades.trans hx₅
              snapshots      := by rw [hx₆] at hsnapshots; exact hsnapshots
              nextId         := hnext'.trans (hx₇.trans hnext) }
        · exact decide_eq_decide.mpr (s.completes_iff row executionStepId (db.nextId + 2) now)
  · cases h

/-- **An execution books the bar's order** on the account. -/
theorem BarStep.execution_account (s : BarStep) {row : PortfolioRow} (hsound : row.account.Sound)
    (executionStepId riskCheckId : ℕ) (now : DateTime) :
    (s.execution row.load executionStepId riskCheckId now).portfolio.account =
      row.account.book s.price (s.order row) := by
  rw [BarStep.execution_eq]
  cases horder : s.order row with
  | none => rfl
  | some o =>
      obtain ⟨side, q⟩ := o
      refine execute_account hsound.grid fun hside => ?_
      subst hside
      exact (Account.order_eq_sell horder).2.2.2

/-- **The stored account after a step** is the account after the bar's order. -/
theorem Stepped.account {s : BarStep} {executionStepId : ℕ} {now : DateTime} {row row' : PortfolioRow}
    {db db' : Db} (h : Stepped s executionStepId now row db db') (hsound : row.account.Sound)
    (hrow : db'.portfolio = some row') : row'.account = row.account.book s.price (s.order row) := by
  obtain rfl := Option.some.inj (hrow.symm.trans h.portfolio)
  have hafter : (row.account.book s.price (s.order row)).Sound := hsound.trade _ _
  have haccount := s.execution_account hsound executionStepId (db.nextId + 2) now
  rw [account_row_markedTo, haccount]
  · rw [← Portfolio.account_cash, haccount]
    exact hafter.grid
  · rw [← Portfolio.account_position, haccount]
    exact hafter.position_onGrid

/-! ## A step that does not raise -/

/-- The rows every step of the experiment `e` loads. -/
structure Ready (e : Experiment) (config : StrategyConfig) (db : Db) : Prop where
  experiment     : db.experiment = some e
  strategyConfig : db.strategyConfig = some config
  portfolio      : ∃ row, db.portfolio = some row

/-- A step is there after its creation. -/
theorem getStep_insertStep (db : Db) (t : TriggerType) (scheduledFor now : DateTime) (n : ℕ) :
    ∃ step, (db.insertStep t scheduledFor now n).getStep db.nextId = some step := by
  rw [← Option.isSome_iff_exists]
  simp [Db.getStep, Db.insertStep, newStep]

/-- The next step does not raise, unless it has to divide by a capital of zero. -/
theorem Ready.runs {e : Experiment} {config : StrategyConfig} {db : Db} (h : Ready e config db)
    (hcapital : e.initialCapital.val ≠ 0) (s : BarStep) (t : TriggerType) (createdAt startedAt : DateTime) (n : ℕ) :
    ∃ db' completed, runStep s db.nextId startedAt (db.insertStep t s.timestamp createdAt n) =
      .ok (db', completed) := by
  obtain ⟨row, hrow⟩ := h.portfolio
  obtain ⟨step, hstep⟩ := getStep_insertStep db t s.timestamp createdAt n
  have he : (db.insertStep t s.timestamp createdAt n).experiment = some e := h.experiment
  have hp : (db.insertStep t s.timestamp createdAt n).portfolio = some row := hrow
  have hc : (db.insertStep t s.timestamp createdAt n).strategyConfig = some config := h.strategyConfig
  unfold runStep
  rw [he, hp, hc]
  dsimp only
  rw [hstep]
  dsimp only
  unfold Db.recordResult BasicMetricCalculator.calculate
  dsimp only
  rw [if_neg hcapital]
  exact ⟨_, _, rfl⟩

/-- The rows are there after a step. -/
theorem Stepped.ready {e : Experiment} {config : StrategyConfig} {s : BarStep} {id : ℕ} {now : DateTime}
    {row : PortfolioRow} {db db' : Db} (h : Stepped s id now row db db') (he : db.experiment = some e)
    (hconfig : db.strategyConfig = some config) : Ready e config db' :=
  ⟨h.experiment.trans he, h.strategyConfig.trans hconfig, _, h.portfolio⟩

/-- **One bar of a loop** that does not raise. -/
theorem Ready.runBar {e : Experiment} {config : StrategyConfig} {rs : RunState} (h : Ready e config rs.db)
    (hcapital : e.initialCapital.val ≠ 0) (clock : StepClock) (s : BarStep) :
    ∃ row db', rs.db.portfolio = some row ∧
      rs.runBar clock s = ({ rs with db := db', history := rs.history ++ [⟨rs.db.nextId, s, db'⟩] },
        decide (finalActionOf (s.order row) = .sell)) ∧
      Stepped s rs.db.nextId clock.startedAt row (rs.db.addNextStep .historical s.timestamp clock.createdAt) db' := by
  obtain ⟨db', completed, hrun⟩ := h.runs hcapital s .historical clock.createdAt clock.startedAt
    (rs.db.maxSequenceNumber + 1)
  rw [← Db.addNextStep_eq] at hrun
  obtain ⟨-, row, -, -, hrow, hstep, rfl⟩ := runStep_ok hrun
  refine ⟨row, db', hrow, ?_, hstep⟩
  unfold RunState.runBar
  dsimp only
  rw [hrun]

/-! ## A whole run -/

/-- What holds between steps, and of every completed step, as long as nothing was raised. -/
structure RunState.Keeps (rs : RunState) (I : Db → Prop) (J : StepRecord → Prop) : Prop where
  db      : rs.raised = none → I rs.db
  history : ∀ r ∈ rs.history, J r

/-- One step of `s`, from its creation, keeps `I` and leaves a record with `J`. -/
def BarStep.Keeps (s : BarStep) (I : Db → Prop) (J : StepRecord → Prop) : Prop :=
  ∀ (clock : StepClock) (db db' : Db) (completed : Bool), I db →
    runStep s db.nextId clock.startedAt (db.addNextStep .historical s.timestamp clock.createdAt) =
      .ok (db', completed) → I db' ∧ J ⟨db.nextId, s, db'⟩

variable {I : Db → Prop} {J : StepRecord → Prop}

theorem runBar_keeps {rs : RunState} {s : BarStep} (clock : StepClock) (h : rs.Keeps I J)
    (hraised : rs.raised = none) (hs : s.Keeps I J) : (rs.runBar clock s).1.Keeps I J := by
  unfold RunState.runBar
  dsimp only
  split
  · next db' completed hrun =>
      obtain ⟨hI, hJ⟩ := hs clock rs.db db' completed (h.db hraised) hrun
      refine ⟨fun _ => hI, fun r hr => ?_⟩
      rcases List.mem_append.mp hr with hr | hr
      · exact h.history r hr
      · rw [List.mem_singleton.mp hr]
        exact hJ
  · exact ⟨fun hnone => (Option.some_ne_none _ hnone).elim, h.history⟩

/-- **Loop rule.** -/
theorem runSteps_keeps {clock : ℕ → StepClock} {steps : List (Bool → BarStep)} {b : Bool} {rs : RunState}
    (h : rs.Keeps I J) (hsteps : ∀ step ∈ steps, ∀ b, (step b).Keeps I J) :
    (runSteps clock steps b rs).Keeps I J := by
  -- by induction on the steps; a raised exception ends the loop where it is
  induction steps generalizing b rs with
  | nil => exact h
  | cons step steps ih =>
      rw [runSteps]
      cases hraised : rs.raised with
      | some _ => exact h
      | none =>
          apply ih
          · exact runBar_keeps _ h hraised (hsteps step List.mem_cons_self b)
          · intro step' hstep'
            exact hsteps step' (List.mem_cons_of_mem _ hstep')

theorem runSessions_keeps {clock : ℕ → StepClock} {sessions : List (List IntradayBar)} {rs : RunState}
    (h : rs.Keeps I J) (hsteps : ∀ sessionBars ∈ sessions, ∀ high low,
      ∀ step ∈ sessionSteps sessionBars high low, ∀ b, (step b).Keeps I J) :
    (runSessions clock sessions rs).Keeps I J := by
  induction sessions generalizing rs with
  | nil => exact h
  | cons sessionBars sessions ih =>
      rw [runSessions]
      cases hraised : rs.raised with
      | some _ => exact h
      | none =>
          cases openingRange sessionBars with
          | error e => exact ⟨fun hnone => (Option.some_ne_none _ hnone).elim, h.history⟩
          | ok range =>
              apply ih
              · exact runSteps_keeps h (hsteps sessionBars List.mem_cons_self range.1 range.2)
              · intro bars hbars
                exact hsteps bars (List.mem_cons_of_mem _ hbars)

/-- Every price the providers return meets `P`. -/
structure HistoricalEnv.PricesMeet (env : HistoricalEnv) (P : ℚ → Prop) : Prop where
  daily    : ∀ first last bars, env.loadRange first last = .ok bars → ∀ bar ∈ bars, P bar.adjustedClose
  intraday : ∀ first last symbol frequency bars,
    env.loadIntradayRange first last symbol frequency = .ok bars → ∀ bar ∈ bars, P bar.close

/-- The steps of a moving-average run are at the closes of its bars. -/
theorem price_movingAverageSteps {window : ℕ} {prices : List ℚ} {bars : List DailyBar} {b : Bool} :
    ∀ step ∈ movingAverageSteps window prices bars, ∃ bar ∈ bars, (step b).price = bar.adjustedClose := by
  induction bars generalizing prices with
  | nil =>
      intro step hstep
      cases hstep
  | cons bar bars ih =>
      intro step hstep
      rcases List.mem_cons.mp hstep with rfl | hstep
      · exact ⟨bar, List.mem_cons_self, rfl⟩
      · obtain ⟨other, hother, hprice⟩ := ih step hstep
        exact ⟨other, List.mem_cons_of_mem _ hother, hprice⟩

/-- Closing a run keeps its history. -/
theorem close_history (o : HistoricalOrchestrator) (env : HistoricalEnv) (rs : RunState) :
    (o.close env rs).history = rs.history := by
  unfold HistoricalOrchestrator.close
  split
  · split <;> rfl
  · split <;> rfl

/-- **Run rule**: what every step at an admissible price keeps, every record of the run has. -/
theorem run_keeps {P : ℚ → Prop} {o : HistoricalOrchestrator} {env : HistoricalEnv} {db : Db} (hdb : I db)
    (hprices : env.PricesMeet P) (hsteps : ∀ s : BarStep, P s.price → s.Keeps I J) :
    ∀ r ∈ (o.run env db).history, J r := by
  have hstart : RunState.Keeps { db } I J := by
    refine ⟨fun _ => hdb, fun r hr => ?_⟩
    cases hr
  have hloop : ∀ e rs, o.loop env e db = .ok rs → rs.Keeps I J := by
    intro e rs h
    cases o with
    | buyAndHold =>
        obtain ⟨bars, hbars, h⟩ := ok_of_bind h
        cases h
        refine runSteps_keeps hstart fun step hstep b => ?_
        obtain ⟨bar, hbar, rfl⟩ := List.mem_map.mp hstep
        exact hsteps _ (hprices.daily _ _ _ hbars bar hbar)
    | movingAverage =>
        obtain ⟨bars, hbars, h⟩ := ok_of_bind h
        obtain ⟨window, -, h⟩ := ok_of_bind h
        cases h
        refine runSteps_keeps hstart fun step hstep b => ?_
        obtain ⟨bar, hbar, hprice⟩ := price_movingAverageSteps step hstep
        apply hsteps
        rw [hprice]
        exact hprices.daily _ _ _ hbars bar hbar
    | openingRangeBreakout =>
        obtain ⟨bars, hbars, h⟩ := ok_of_bind h
        cases h
        refine runSessions_keeps hstart fun sessionBars hsession high low step hstep b => ?_
        obtain ⟨bar, hbar, rfl⟩ := List.mem_map.mp hstep
        obtain ⟨date, -, rfl⟩ := List.mem_map.mp hsession
        exact hsteps _ (hprices.intraday _ _ _ _ _ hbars bar (List.mem_of_mem_filter hbar))
  unfold HistoricalOrchestrator.run
  cases db.experiment with
  | none =>
      dsimp only
      rw [close_history]
      intro r hr
      cases hr
  | some e =>
      dsimp only
      cases hrun : o.loop env e db with
      | ok rs =>
          dsimp only
          rw [close_history]
          exact (hloop e rs hrun).history
      | error raised =>
          dsimp only
          rw [close_history]
          intro r hr
          cases hr

end TradingAI
