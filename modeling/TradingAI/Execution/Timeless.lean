import TradingAI.Execution.HistoricalSteps

/-!
# `Execution.Timeless` — an experiment without its clock

Two runs over the same bars at different hours leave the same rows, but for the columns that hold the time
of day and for the trigger of their steps. `Db.timeless` forgets these columns. No step reads them, so a
step forgets and goes on as it would have gone on without forgetting (`runStep_timeless`).

The times of the bars are no time of day, and stay.
-/

namespace TradingAI

open SimulationExecutionProvider

/-! ## Rows -/

def ExecutionStep.timeless (s : ExecutionStep) : ExecutionStep :=
  { s with
    startedAt   := s.startedAt.map fun _ => 0
    completedAt := s.completedAt.map fun _ => 0
    triggerType := .historical
    createdAt   := 0 }

def MarketDataSnapshot.timeless (m : MarketDataSnapshot) : MarketDataSnapshot := { m with createdAt := 0 }

def TradingDecision.timeless (d : TradingDecision) : TradingDecision := { d with createdAt := 0 }

def RiskCheck.timeless (r : RiskCheck) : RiskCheck := { r with createdAt := 0 }

def Order.timeless (o : Order) : Order := { o with createdAt := 0 }

def Trade.timeless (t : Trade) : Trade := { t with createdAt := 0 }

def PortfolioSnapshot.timeless (p : PortfolioSnapshot) : PortfolioSnapshot := { p with createdAt := 0 }

def MetricSnapshot.timeless (m : MetricSnapshot) : MetricSnapshot := { m with createdAt := 0 }

def SystemEventLog.timeless (e : SystemEventLog) : SystemEventLog := { e with timestamp := 0, createdAt := 0 }

def Experiment.timeless (e : Experiment) : Experiment := { e with updatedAt := 0 }

def Portfolio.timeless (p : Portfolio) : Portfolio := { p with updatedAt := 0 }

def PortfolioRow.timeless (r : PortfolioRow) : PortfolioRow := { r with updatedAt := 0 }

/-- The rows without the clock, of the tables a historical run writes. -/
def Db.timeless (db : Db) : Db :=
  { db with
    experiment         := db.experiment.map Experiment.timeless
    portfolio          := db.portfolio.map PortfolioRow.timeless
    steps              := db.steps.map ExecutionStep.timeless
    marketData         := db.marketData.map MarketDataSnapshot.timeless
    decisions          := db.decisions.map TradingDecision.timeless
    riskChecks         := db.riskChecks.map RiskCheck.timeless
    orders             := db.orders.map Order.timeless
    trades             := db.trades.map Trade.timeless
    portfolioSnapshots := db.portfolioSnapshots.map PortfolioSnapshot.timeless
    metricSnapshots    := db.metricSnapshots.map MetricSnapshot.timeless
    systemEvents       := db.systemEvents.map SystemEventLog.timeless }

def SimulationResult.timeless (r : SimulationResult) : SimulationResult where
  order     := r.order.map Order.timeless
  trade     := r.trade.map Trade.timeless
  portfolio := r.portfolio.timeless

/-! ## What a transaction writes -/

variable (db : Db)

theorem Db.timeless_insertStep (t : TriggerType) (scheduledFor now : DateTime) (n : ℕ) :
    (db.insertStep t scheduledFor now n).timeless = db.timeless.insertStep .historical scheduledFor 0 n := by
  simp [timeless, insertStep, newStep, ExecutionStep.timeless]

theorem Db.timeless_completeStep (id : ℕ) (now : DateTime) :
    (db.updateStep id (·.completedStep now)).timeless = db.timeless.updateStep id (·.completedStep 0) := by
  simp only [timeless, updateStep, List.map_map, Db.mk.injEq, true_and, and_true]
  apply List.map_congr_left
  intro s _
  by_cases h : s.id = id <;> simp [h, ExecutionStep.timeless, ExecutionStep.completedStep]

theorem Db.getStep_timeless (id : ℕ) : db.timeless.getStep id = (db.getStep id).map ExecutionStep.timeless := by
  unfold getStep timeless
  rw [List.find?_map]
  rfl

theorem Db.timeless_recordDecision (s : BarStep) (id : ℕ) (now : DateTime) (d : StrategyDecision)
    (r : RiskResult) :
    (db.recordDecision s id now d r).timeless = db.timeless.recordDecision s id 0 d r := by
  simp [timeless, recordDecision, addMarketData, addDecision, addRiskCheck, MarketDataSnapshot.timeless,
    TradingDecision.timeless, RiskCheck.timeless, BarStep.marketDataRow, BarStep.decisionRow, RiskResult.row]

theorem Db.timeless_recordExecution (r : SimulationResult) :
    (db.recordExecution r).timeless = db.timeless.recordExecution r.timeless := by
  obtain ⟨order, trade, portfolio⟩ := r
  cases order with
  | none => rfl
  | some order =>
      cases trade with
      | none => rfl
      | some trade =>
          simp [timeless, recordExecution, SimulationResult.timeless, addOrder, addTrade, Order.timeless,
            Trade.timeless]

theorem Db.executionTradeId_timeless (r : SimulationResult) :
    db.timeless.executionTradeId r.timeless = db.executionTradeId r := by
  obtain ⟨order, trade, portfolio⟩ := r
  cases order <;> cases trade <;> rfl

theorem Db.timeless_writePortfolio (p : Portfolio) (tradeId : Option ℕ) :
    (db.writePortfolio p tradeId).timeless = db.timeless.writePortfolio p.timeless tradeId := by
  simp only [timeless, writePortfolio, List.map_map, Db.mk.injEq, true_and, and_true]
  refine ⟨rfl, ?_⟩
  apply List.map_congr_left
  intro t _
  by_cases h : tradeId = some t.id <;> simp [h, Trade.timeless, Portfolio.timeless]

theorem Db.timeless_addSnapshots (p : PortfolioSnapshot) (m : MetricSnapshot) :
    (db.addSnapshots p m).timeless = db.timeless.addSnapshots p.timeless m.timeless := by
  simp [timeless, addSnapshots, MetricSnapshot.timeless]

/-- The values a drawdown is computed from, in the order they are read. -/
theorem Db.previousValues_timeless :
    (db.timeless.listPortfolioSnapshots.filterMap fun p => p.totalPortfolioValue.map (·.val)) =
      db.listPortfolioSnapshots.filterMap fun p => p.totalPortfolioValue.map (·.val) := by
  have hsorted : db.timeless.listPortfolioSnapshots = db.listPortfolioSnapshots.map PortfolioSnapshot.timeless := by
    symm
    apply List.map_insertionSort
    intro a _ b _
    rfl
  rw [hsorted, List.filterMap_map]
  rfl

theorem Db.countTrades_timeless : db.timeless.countTrades = db.countTrades := List.length_map _

theorem Db.timeless_recordResult (initialCapital : ℚ) (s : BarStep) (id : ℕ) (now : DateTime) (p : Portfolio)
    (tradeId : Option ℕ) :
    (db.recordResult initialCapital s id now p tradeId).map Db.timeless =
      db.timeless.recordResult initialCapital s id 0 p.timeless tradeId := by
  have hwritten : db.timeless.writePortfolio (p.timeless.markedTo s.price 0) tradeId =
      (db.writePortfolio (p.markedTo s.price now) tradeId).timeless := by
    rw [timeless_writePortfolio]
    rfl
  unfold recordResult
  dsimp only
  rw [hwritten, previousValues_timeless, countTrades_timeless]
  show Except.map _ (Except.bind _ _) = Except.bind (BasicMetricCalculator.calculate initialCapital
    (portfolioValueAt p s.price) _ _) _
  cases BasicMetricCalculator.calculate initialCapital (portfolioValueAt p s.price) _ _ with
  | error e => rfl
  | ok metrics =>
      show Except.ok _ = Except.ok _
      rw [timeless_completeStep, timeless_addSnapshots]
      rfl

theorem Db.timeless_completeExperiment (now : DateTime) :
    (db.completeExperiment now).timeless = db.timeless.completeExperiment 0 := by
  obtain ⟨experimentId, experiment⟩ := db
  cases experiment <;>
    simp [timeless, completeExperiment, setStatus, addSystemEvent, completedEvent, SystemEventLog.timeless,
      Experiment.timeless]

/-! ## A step -/

theorem BarStep.timeless_execution (s : BarStep) (row : PortfolioRow) (id riskCheckId : ℕ) (now : DateTime) :
    (s.execution row.load id riskCheckId now).timeless = s.execution row.timeless.load id riskCheckId 0 := by
  show _ = executeIfApplicable (s.riskResult row.load) _ _ _ _ _ _
  unfold BarStep.execution executeIfApplicable
  split <;> rfl

/-- The rows of a step before its result. -/
def BarStep.executed (s : BarStep) (id : ℕ) (now : DateTime) (row : PortfolioRow) (db : Db) : Db :=
  (db.recordDecision s id now (s.decide row.load.positionQuantity) (s.riskResult row.load)).recordExecution
    (s.execution row.load id (db.nextId + 2) now)

/-- The key of its trade. -/
def BarStep.tradeId (s : BarStep) (id : ℕ) (now : DateTime) (row : PortfolioRow) (db : Db) : Option ℕ :=
  (db.recordDecision s id now (s.decide row.load.positionQuantity) (s.riskResult row.load)).executionTradeId
    (s.execution row.load id (db.nextId + 2) now)

/-- What a step returns that found its rows. -/
def BarStep.outcome (s : BarStep) (id : ℕ) (now : DateTime) (e : Experiment) (row : PortfolioRow) (db : Db) :
    Except Raised (Db × Bool) :=
  ((s.executed id now row db).recordResult e.initialCapital.val s id now
    (s.execution row.load id (db.nextId + 2) now).portfolio (s.tradeId id now row db)).map
    fun db' => (db', (s.riskResult row.load).finalAction = .sell ∧
      (s.execution row.load id (db.nextId + 2) now).trade.isSome)

theorem BarStep.timeless_executed (s : BarStep) (id : ℕ) (now : DateTime) (row : PortfolioRow) :
    (s.executed id now row db).timeless = s.executed id 0 row.timeless db.timeless := by
  unfold executed
  rw [Db.timeless_recordExecution, timeless_execution, Db.timeless_recordDecision]
  rfl

theorem BarStep.timeless_tradeId (s : BarStep) (id : ℕ) (now : DateTime) (row : PortfolioRow) :
    s.tradeId id now row db = s.tradeId id 0 row.timeless db.timeless := by
  unfold tradeId
  rw [← Db.executionTradeId_timeless, timeless_execution, Db.timeless_recordDecision]
  rfl

theorem BarStep.timeless_outcome (s : BarStep) (id : ℕ) (now : DateTime) (e : Experiment) (row : PortfolioRow) :
    (s.outcome id now e row db).map (Prod.map Db.timeless fun completed => completed) =
      s.outcome id 0 e.timeless row.timeless db.timeless := by
  have hexecution := s.timeless_execution row id (db.nextId + 2) now
  have htrade : (s.execution row.timeless.load id (db.nextId + 2) 0).trade.isSome =
      (s.execution row.load id (db.nextId + 2) now).trade.isSome := by
    rw [← hexecution]
    exact Option.isSome_map
  have hportfolio : (s.execution row.timeless.load id (db.nextId + 2) 0).portfolio =
      (s.execution row.load id (db.nextId + 2) now).portfolio.timeless := by
    rw [← hexecution]
    rfl
  unfold outcome
  show _ = Except.map _ (Db.recordResult _ _ _ _ _ (s.execution row.timeless.load id (db.nextId + 2) 0).portfolio _)
  rw [← timeless_executed, ← timeless_tradeId, hportfolio]
  have hresult := (s.executed id now row db).timeless_recordResult e.initialCapital.val s id now
    (s.execution row.load id (db.nextId + 2) now).portfolio (s.tradeId id now row db)
  show _ = Except.map _ (Db.recordResult _ e.initialCapital.val _ _ _ _ _)
  rw [← hresult]
  cases Db.recordResult _ _ _ _ _ _ _ with
  | error raised => rfl
  | ok db' =>
      refine congrArg (fun completed => Except.ok (db'.timeless, completed)) (decide_eq_decide.mpr ?_)
      show _ ↔ (s.riskResult row.load).finalAction = .sell ∧
        (s.execution row.timeless.load id (db.nextId + 2) 0).trade.isSome = true
      rw [htrade]

theorem runStep_eq (s : BarStep) (id : ℕ) (now : DateTime) :
    runStep s id now db =
      match db.experiment, db.portfolio, db.strategyConfig with
      | some e, some row, some _ =>
          match db.getStep id with
          | none   => .error (executionStepNotFound id)
          | some _ => s.outcome id now e row db
      | _, _, _ => .error (missingState db.experimentId) := by
  unfold runStep
  cases db.experiment with
  | none => rfl
  | some e =>
      cases db.portfolio with
      | none => rfl
      | some row =>
          cases db.strategyConfig with
          | none => rfl
          | some config =>
              cases db.getStep id with
              | none => rfl
              | some step => exact bind_pure_comp _ (Db.recordResult _ _ _ _ _ _ _)

/-- **A step does not look at the clock.** -/
theorem runStep_timeless (s : BarStep) (id : ℕ) (now : DateTime) :
    (runStep s id now db).map (Prod.map Db.timeless fun completed => completed) = runStep s id 0 db.timeless := by
  have hexperiment : db.timeless.experiment = db.experiment.map Experiment.timeless := rfl
  have hportfolio : db.timeless.portfolio = db.portfolio.map PortfolioRow.timeless := rfl
  have hconfig : db.timeless.strategyConfig = db.strategyConfig := rfl
  rw [runStep_eq, runStep_eq, hexperiment, hportfolio, hconfig, db.getStep_timeless]
  cases db.experiment with
  | none => rfl
  | some e =>
      cases db.portfolio with
      | none => rfl
      | some row =>
          cases db.strategyConfig with
          | none => rfl
          | some config =>
              cases db.getStep id with
              | none => rfl
              | some step => exact BarStep.timeless_outcome db s id now e row

end TradingAI
