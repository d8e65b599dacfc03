import TradingAI.Execution.AuditTrail
import TradingAI.Execution.Calls
import TradingAI.Lib.SessionHistory

/-!
# `Execution.Growth` — tables that only grow

Whatever runs an experiment adds rows to its tables and takes none away. Some rows are written again, orders
and trades among them, but what a listing sorts them by stays. So each database of a run has grown from those
before it: the committed ones of a paper run, those of a historical run, those between manual steps.

## Contents
- `Db.Grows`; what the single writes do.
- `runCalls_chained`: paper runs, `run_growing`: historical runs, `stepped_growing`: manual steps.
-/

namespace TradingAI

open Session Outcome PaperBrokerSyncService

/-! ## What only grows -/

/-- What a row of an order or a trade is listed by. The rest of it may change. -/
def Order.listedAt (o : Order) : DateTime × ℕ := (o.createdAt, o.id)

def Trade.listedAt (t : Trade) : DateTime × ℕ := (t.timestamp, t.id)

/-- **The listed tables only grow**, and the experiment stays. -/
structure Db.Grows (db db' : Db) : Prop where
  orders             : (db.orders.map Order.listedAt).Sublist (db'.orders.map Order.listedAt)
  trades             : (db.trades.map Trade.listedAt).Sublist (db'.trades.map Trade.listedAt)
  agentLogs          : db.agentLogs.Sublist db'.agentLogs
  portfolioSnapshots : db.portfolioSnapshots.Sublist db'.portfolioSnapshots
  metricSnapshots    : db.metricSnapshots.Sublist db'.metricSnapshots
  systemEvents       : db.systemEvents.Sublist db'.systemEvents
  brokerSyncLogs     : db.brokerSyncLogs.Sublist db'.brokerSyncLogs
  experiment         : db'.experiment.isSome = db.experiment.isSome

theorem Db.Grows.refl (db : Db) : db.Grows db := ⟨.refl _, .refl _, .refl _, .refl _, .refl _, .refl _, .refl _, rfl⟩

theorem Db.Grows.trans {db db' db'' : Db} (h : db.Grows db') (h' : db'.Grows db'') : db.Grows db'' where
  orders             := h.orders.trans h'.orders
  trades             := h.trades.trans h'.trades
  agentLogs          := h.agentLogs.trans h'.agentLogs
  portfolioSnapshots := h.portfolioSnapshots.trans h'.portfolioSnapshots
  metricSnapshots    := h.metricSnapshots.trans h'.metricSnapshots
  systemEvents       := h.systemEvents.trans h'.systemEvents
  brokerSyncLogs     := h.brokerSyncLogs.trans h'.brokerSyncLogs
  experiment         := h'.experiment.trans h.experiment

instance : Std.Refl Db.Grows := ⟨Db.Grows.refl⟩

instance : IsTrans Db Db.Grows := ⟨fun _ _ _ => Db.Grows.trans⟩

namespace Db

variable (db : Db)

theorem grows_addMarketData (row : MarketDataSnapshot) : db.Grows (db.addMarketData row) :=
  ⟨.refl _, .refl _, .refl _, .refl _, .refl _, .refl _, .refl _, rfl⟩

theorem grows_addDecision (row : TradingDecision) : db.Grows (db.addDecision row) :=
  ⟨.refl _, .refl _, .refl _, .refl _, .refl _, .refl _, .refl _, rfl⟩

theorem grows_addRiskCheck (row : RiskCheck) : db.Grows (db.addRiskCheck row) :=
  ⟨.refl _, .refl _, .refl _, .refl _, .refl _, .refl _, .refl _, rfl⟩

theorem grows_insertStep (t : TriggerType) (slot now : DateTime) (n : ℕ) : db.Grows (db.insertStep t slot now n) :=
  ⟨.refl _, .refl _, .refl _, .refl _, .refl _, .refl _, .refl _, rfl⟩

theorem grows_updateStep (id : ℕ) (f : ExecutionStep → ExecutionStep) : db.Grows (db.updateStep id f) :=
  ⟨.refl _, .refl _, .refl _, .refl _, .refl _, .refl _, .refl _, rfl⟩

theorem grows_setStatus (status : ExperimentStatus) (now : DateTime) : db.Grows (db.setStatus status now) :=
  ⟨.refl _, .refl _, .refl _, .refl _, .refl _, .refl _, .refl _, Option.isSome_map⟩

theorem grows_failExperiment (now : DateTime) : db.Grows (db.failExperiment now) :=
  ⟨.refl _, .refl _, .refl _, .refl _, .refl _, .refl _, .refl _, Option.isSome_map⟩

theorem grows_addAgentLogs (s d : ℕ) (mode : AgentMode) (payloads : List AgentDecisionLogPayload) (now : DateTime) :
    db.Grows (db.addAgentLogs s d mode payloads now) :=
  ⟨.refl _, .refl _, List.sublist_append_left _ _, .refl _, .refl _, .refl _, .refl _, rfl⟩

theorem grows_addSnapshots (p : PortfolioSnapshot) (m : MetricSnapshot) : db.Grows (db.addSnapshots p m) :=
  ⟨.refl _, .refl _, .refl _, List.sublist_append_left _ _, List.sublist_append_left _ _, .refl _, .refl _, rfl⟩

theorem grows_addSystemEvent (event : SystemEventLog) : db.Grows (db.addSystemEvent event) :=
  ⟨.refl _, .refl _, .refl _, .refl _, .refl _, List.sublist_append_left _ _, .refl _, rfl⟩

theorem grows_addBrokerSyncLog (log : BrokerSyncLog) : db.Grows (db.addBrokerSyncLog log) :=
  ⟨.refl _, .refl _, .refl _, .refl _, .refl _, .refl _, List.sublist_append_left _ _, rfl⟩

theorem grows_addOrder (order : Order) : db.Grows (db.addOrder order) :=
  ⟨(List.sublist_append_left _ _).map _, .refl _, .refl _, .refl _, .refl _, .refl _, .refl _, rfl⟩

theorem grows_addTrade (trade : Trade) (orderId : ℕ) : db.Grows (db.addTrade trade orderId) :=
  ⟨.refl _, (List.sublist_append_left _ _).map _, .refl _, .refl _, .refl _, .refl _, .refl _, rfl⟩

/-- An update of an order moves it nowhere. -/
theorem grows_updateOrder (id : ℕ) {f : Order → Order} (hf : ∀ o, (f o).listedAt = o.listedAt) :
    db.Grows (db.updateOrder id f) := by
  have hsame : (db.updateOrder id f).orders.map Order.listedAt = db.orders.map Order.listedAt := by
    unfold Db.updateOrder
    rw [List.map_map]
    refine List.map_congr_left fun o _ => ?_
    simp only [Function.comp_apply]
    split
    · exact hf o
    · rfl
  exact ⟨hsame ▸ .refl _, .refl _, .refl _, .refl _, .refl _, .refl _, .refl _, rfl⟩

/-- The value of the portfolio that is noted on a trade neither. -/
theorem grows_writePortfolio (p : Portfolio) (tradeId : Option ℕ) : db.Grows (db.writePortfolio p tradeId) := by
  have hsame : (db.writePortfolio p tradeId).trades.map Trade.listedAt = db.trades.map Trade.listedAt := by
    unfold Db.writePortfolio
    rw [List.map_map]
    refine List.map_congr_left fun t _ => ?_
    simp only [Function.comp_apply]
    split <;> rfl
  exact ⟨.refl _, hsame ▸ .refl _, .refl _, .refl _, .refl _, .refl _, .refl _, rfl⟩

theorem grows_markEvent (e : Option ℕ) (s d : ℕ) (now : DateTime) : db.Grows (db.markEvent e s d now) := by
  unfold Db.markEvent Db.markEventDecision
  split
  · split <;> exact ⟨.refl _, .refl _, .refl _, .refl _, .refl _, .refl _, .refl _, rfl⟩
  · exact .refl _

theorem grows_finishStep (id : ℕ) (failure : Option PaperStepFailure) (now : DateTime) :
    db.Grows (db.finishStep id failure now) := by
  cases failure with
  | none => exact db.grows_updateStep id _
  | some failure =>
      exact ((db.grows_updateStep id _).trans (grows_failExperiment _ _)).trans (grows_addSystemEvent _ _)

theorem grows_recordFailure (step : Option ℕ) (f : FailureRecord) (now : DateTime) :
    db.Grows (db.recordFailure step f now) := by
  have hexperiment (db : Db) : db.Grows (if f.failExperiment then db.failExperiment now else db) := by
    split
    · exact db.grows_failExperiment now
    · exact .refl _
  unfold Db.recordFailure
  cases step with
  | none =>
      dsimp only
      split
      · exact .refl _
      · exact (hexperiment db).trans (grows_addSystemEvent _ _)
  | some id =>
      have hfailed := db.grows_updateStep id (·.failedStep now f.message)
      dsimp only
      split
      · exact hfailed
      · have hevent (event : SystemEventLog) :=
          hfailed.trans ((hexperiment _).trans (grows_addSystemEvent _ event))
        split
        · exact (hevent _).trans (grows_addBrokerSyncLog _ _)
        · exact hevent _

/-- Booking a report writes a trade and a log, and changes what its order says. -/
theorem grows_applyReport (o : Order) (portfolio : PortfolioRow) (status : OrderStatus) (r : BrokerOrderResult)
    (now : DateTime) : db.Grows (applyReport db o portfolio status r now) := by
  have hsynced : db.Grows (db.updateOrder o.id (syncedOrder r status)) := db.grows_updateOrder o.id fun _ => rfl
  unfold PaperBrokerSyncService.applyReport
  cases unbookedFill db o.id r with
  | none => exact hsynced.trans (grows_addBrokerSyncLog _ _)
  | some entry =>
      have hportfolio : db.Grows { db.updateOrder o.id (syncedOrder r status) with
          portfolio := some (bookDelta o portfolio.load entry.1 entry.2 now).row } :=
        ⟨hsynced.orders, hsynced.trades, hsynced.agentLogs, hsynced.portfolioSnapshots, hsynced.metricSnapshots,
          hsynced.systemEvents, hsynced.brokerSyncLogs, hsynced.experiment⟩
      exact (hportfolio.trans (grows_addTrade _ _ _)).trans (grows_addBrokerSyncLog _ _)

end Db

/-! ## Every transaction of a run -/

section
variable {env : StepEnv} {executionStepId : ℕ}

theorem extends_op {o : DbOp} : (env.op o).Extends Db.Grows := .mayRaise

theorem extends_opIf {c : Bool} {o : DbOp} : (env.opIf c o).Extends Db.Grows := .mayRaise

theorem extends_loadRows {α : Type} {o : DbOp} {rows : Db → Option α} : (loadRows env o rows).Extends Db.Grows :=
  .bind extends_op fun _ => .bind .get fun _ => .expect

theorem extends_addMarketData {timestamp : DateTime} {symbol : String} {price : ℚ} {movingAverage : Option ℚ} :
    (addMarketData env executionStepId timestamp symbol price movingAverage).Extends Db.Grows :=
  .bind .get fun _ => .bind (.modify fun db => db.grows_addMarketData _) fun _ => .bind extends_op fun _ => .pure

theorem extends_addDecision {marketDataId : ℕ} {sourceType : DecisionSourceType} {sourceName : String}
    {confidence : ℚ} {d : StrategyDecision} :
    (addDecision env executionStepId marketDataId sourceType sourceName confidence d).Extends Db.Grows :=
  .bind .get fun _ => .bind (.modify fun db => db.grows_addDecision _) fun _ => .bind extends_op fun _ => .pure

theorem extends_addAgentLogs {decisionId : ℕ} {mode : AgentMode} {payloads : List AgentDecisionLogPayload} :
    (addAgentLogs env executionStepId decisionId mode payloads).Extends Db.Grows :=
  .bind (.modify fun db => db.grows_addAgentLogs ..) fun _ => extends_op

theorem extends_markEvent {decisionId : ℕ} {eventId : Option ℕ} :
    (markEventDecisionTriggered env eventId executionStepId decisionId).Extends Db.Grows :=
  .bind extends_opIf fun _ => .modify fun db => db.grows_markEvent ..

theorem extends_addRiskCheck {decisionId : ℕ} {r : RiskResult} :
    (addRiskCheck env executionStepId decisionId r).Extends Db.Grows :=
  .bind .get fun _ => .bind (.modify fun db => db.grows_addRiskCheck _) fun _ => .bind extends_op fun _ => .pure

theorem extends_persistSnapshotAndMetrics {experiment : Experiment} {portfolio : Portfolio} {price : ℚ}
    {timestamp : DateTime} {tradeId : Option ℕ} :
    (persistSnapshotAndMetrics env executionStepId experiment portfolio price timestamp tradeId).Extends Db.Grows := by
  unfold persistSnapshotAndMetrics
  refine .bind (.modify fun db => db.grows_writePortfolio _ _) fun _ => ?_
  refine .bind extends_op fun _ => .bind .get fun db => ?_
  refine .bind extends_op fun _ => .bind .ofExcept fun metrics => ?_
  exact .modify fun db => db.grows_addSnapshots _ _

/-! ### The branches -/

theorem extends_settle {state : StepState} {decisionId : ℕ} {r : RiskResult} {price : ℚ} {symbol : String}
    {timestamp : DateTime} :
    (settle env executionStepId state decisionId r price symbol timestamp).Extends Db.Grows := by
  unfold settle
  refine .bind extends_addRiskCheck fun riskCheckId => ?_
  split
  · exact .bind extends_op fun _ => .pure
  · refine .bind extends_persistSnapshotAndMetrics fun _ => ?_
    exact .bind (.modify fun db => db.grows_updateStep _ _) fun _ => .bind extends_op fun _ => .pure

theorem extends_dailyArtifacts : (dailyArtifacts env executionStepId).Extends Db.Grows := by
  unfold dailyArtifacts loadState
  refine .bind extends_loadRows fun state => ?_
  refine .bind .ofExcept fun bar => .bind .ofExcept fun movingAverage => ?_
  refine .bind extends_addMarketData fun marketDataId => .bind extends_addDecision fun decisionId => ?_
  exact extends_settle

theorem extends_orbArtifacts {symbol : String} {bar : IntradayBar} {state : OpeningRangeBreakoutState} :
    (orbArtifacts env executionStepId symbol bar state).Extends Db.Grows := by
  unfold orbArtifacts loadState
  refine .bind extends_loadRows fun state => ?_
  refine .bind extends_addMarketData fun marketDataId => .bind extends_addDecision fun decisionId => ?_
  exact extends_settle

theorem extends_agenticArtifacts {eventId : Option ℕ} :
    (agenticArtifacts env executionStepId eventId).Extends Db.Grows := by
  unfold agenticArtifacts loadState
  refine .bind extends_loadRows fun state => ?_
  refine .bind .ofExcept fun bar => .bind .ofExcept fun _ => ?_
  refine .bind extends_addMarketData fun marketDataId => ?_
  refine .bind extends_opIf fun _ => .bind .get fun db => .bind .ofExcept fun result => ?_
  refine .bind extends_addDecision fun decisionId => .bind extends_addAgentLogs fun _ => ?_
  exact .bind extends_markEvent fun _ => extends_settle

/-! ### The execution of a submission -/

theorem extends_submit {request : OrderRequest} : (env.submit request).Extends Db.Grows :=
  fun db _ => StepEnv.wp_submit (fun _ _ => .refl db) fun _ _ => trivial

theorem extends_executeIfApplicable {r : RiskResult} {p : Portfolio} {riskCheckId : ℕ} {symbol : String}
    {timestamp now : DateTime} :
    (PaperExecutionProvider.executeIfApplicable env r p executionStepId riskCheckId symbol timestamp now).Extends
      Db.Grows := by
  unfold PaperExecutionProvider.executeIfApplicable
  cases PaperExecutionProvider.applicableQuantity r with
  | none => exact .pure
  | some quantity =>
      dsimp only
      refine .bind extends_op fun _ => .bind .get fun db => ?_
      cases db.existingOrder executionStepId riskCheckId with
      | some order => exact .pure
      | none => exact .bind .ofExcept fun side => .bind extends_submit fun report => .pure

theorem extends_flushExecution {result : PaperExecutionProvider.Result} :
    (flushExecution env result).Extends Db.Grows := by
  obtain ⟨order, trade, brokerResult, rejected, portfolio⟩ := result
  unfold flushExecution
  cases order with
  | none => exact .pure
  | some order =>
      dsimp only
      refine .bind .get fun _ => .bind extends_op fun _ => ?_
      cases brokerResult with
      | none =>
          cases trade with
          | none => exact .pure
          | some trade =>
              dsimp only
              refine .bind .get fun _ => .bind extends_op fun _ => ?_
              exact .bind (.modify fun db => db.grows_addTrade _ _) fun _ => .pure
      | some report =>
          refine .bind (.modify fun db => db.grows_addOrder _) fun _ => ?_
          cases trade with
          | none => exact .pure
          | some trade =>
              dsimp only
              refine .bind .get fun _ => .bind extends_op fun _ => ?_
              exact .bind (.modify fun db => db.grows_addTrade _ _) fun _ => .pure

theorem extends_brokerExecution {s : Submission} : (brokerExecution env executionStepId s).Extends Db.Grows := by
  unfold brokerExecution loadBrokerState
  refine .bind extends_loadRows fun rows => ?_
  refine .bind extends_executeIfApplicable fun result => .bind extends_flushExecution fun tradeId => ?_
  refine .bind extends_persistSnapshotAndMetrics fun _ => ?_
  exact .bind (.modify fun db => db.grows_finishStep _ _ _) fun _ => .bind extends_op fun _ => .pure

/-! ### The calls -/

theorem extends_createStep {triggerType : TriggerType} {scheduledFor : Option DateTime} :
    (createStep env triggerType scheduledFor).Extends Db.Grows := by
  unfold createStep
  refine .bind extends_op fun _ => .bind .get fun db => .bind .expect fun experiment => .bind .require fun _ => ?_
  refine .bind extends_op fun _ => .bind .require fun _ => .bind .require fun _ => ?_
  refine .bind extends_op fun _ => .bind .require fun _ => ?_
  refine .bind extends_op fun _ => .bind .require fun _ => ?_
  refine .bind extends_opIf fun _ => .bind .require fun _ => .bind extends_op fun _ => ?_
  exact .bind (.modify fun db => db.grows_insertStep ..) fun _ => .bind extends_op fun _ => .pure

theorem extends_openStep {triggerType : TriggerType} {scheduledFor : Option DateTime} :
    (openStep env triggerType scheduledFor).Extends Db.Grows := by
  unfold openStep validateAndCreateStep
  refine .bind .ofExcept fun _ => ?_
  split
  · exact .raise
  · exact .withSession extends_createStep

/-- A branch, and the execution of what it submits. -/
theorem extends_branch {artifacts : DbTx (Option Submission)} (h : artifacts.Extends Db.Grows) :
    (do let submission ← Proc.withSession artifacts
        continueWith env executionStepId submission : DbProc (Option PaperStepFailure)).Extends Db.Grows := by
  refine .bind (.withSession h) fun submission => ?_
  cases submission with
  | none => exact .pure
  | some s => exact .withSession extends_brokerExecution

theorem extends_runStepArtifacts {eventId : Option ℕ} :
    (runStepArtifacts env executionStepId eventId).Extends Db.Grows := by
  unfold runStepArtifacts
  refine .bind .readSession fun strategyType => ?_
  cases strategyType with
  | openingRangeBreakout =>
      unfold runOrbStepArtifacts
      refine .bind .readSession fun slot => .bind .ofExcept fun bars => .bind .ofExcept fun bar => ?_
      exact .bind .readSession fun state => extends_branch extends_orbArtifacts
  | agenticAi => exact extends_branch extends_agenticArtifacts
  | buyAndHold | movingAverage | paperTradingSmokeTest => exact extends_branch extends_dailyArtifacts

theorem extends_handleFailure {α : Type} {step : Option ℕ} {e : Raised} :
    (handleFailure (α := α) env step e).Extends Db.Grows := by
  unfold handleFailure
  split
  · exact .raise
  · next record raised _ =>
      have hrecord : (persistFailure env step record).Extends Db.Grows :=
        .withSession (.bind extends_op fun _ => .modify fun db => db.grows_recordFailure _ _ _)
      exact .bind hrecord fun _ => .raise

theorem extends_nextStep {triggerType : TriggerType} {scheduledFor : Option DateTime} :
    (runNextStep env triggerType scheduledFor).Extends Db.Grows := by
  unfold runNextStep
  refine .bind (.attempt extends_openStep) fun opened => ?_
  cases opened with
  | error e => exact extends_handleFailure
  | ok executionStepId =>
      refine .bind (.attempt extends_runStepArtifacts) fun ran => ?_
      cases ran with
      | error e    => exact extends_handleFailure
      | ok failure => exact .pure

theorem extends_eventStep {eventId : ℕ} {scheduledFor : Option DateTime} :
    (runEventStep env eventId scheduledFor).Extends Db.Grows := by
  unfold runEventStep
  exact .bind extends_openStep fun executionStepId => .bind extends_runStepArtifacts fun failure => .pure

theorem extends_persistOrderSync {senv : SyncEnv} {orderId : ℕ} {r : BrokerOrderResult} :
    (persistOrderSync senv orderId r).Extends Db.Grows := by
  unfold persistOrderSync
  refine .bind .mayRaise fun _ => .bind .get fun db => .bind .expect fun order => .bind .expect fun portfolio => ?_
  cases PaperBrokerSyncService.mapOrderStatus r.status with
  | none => exact .bind (.modify fun db => db.grows_addBrokerSyncLog _) fun _ => .pure
  | some status => exact .bind (.modify fun db => db.grows_applyReport ..) fun _ => .pure

theorem extends_persistSyncFailure {senv : SyncEnv} {orderId : ℕ} {message : String} {details : Details} :
    (persistSyncFailure senv orderId message details).Extends Db.Grows := by
  unfold persistSyncFailure
  refine .bind .mayRaise fun _ => .bind .get fun db => .bind .expect fun order => ?_
  exact .bind (.modify fun db => db.grows_addBrokerSyncLog _) fun _ => .pure

theorem extends_syncOrders {senv : SyncEnv} {orders : List Order} : (syncOrders senv orders).Extends Db.Grows := by
  induction orders with
  | nil => exact .pure
  | cons o orders ih =>
      unfold syncOrders
      have horder : (syncOrder senv o).Extends Db.Grows := by
        unfold syncOrder
        refine .tryCatch (.bind .ofExcept fun r => .withSession extends_persistOrderSync) fun e => ?_
        split
        · exact .withSession extends_persistSyncFailure
        · exact .raise
      exact .bind horder fun r => .bind ih fun rest => .pure

theorem extends_sync {senv : SyncEnv} : (syncOpenOrders senv).Extends Db.Grows := by
  unfold syncOpenOrders
  exact .bind .ofExcept fun _ => .bind .readSession fun orders => extends_syncOrders

end

/-- **Every call of a paper run** lengthens the history by databases that have grown. -/
theorem PaperCall.chained {st : Store Db BrokerBook} (hst : st.Chained Db.Grows) (c : PaperCall) :
    (c.exec st).Chained Db.Grows := by
  cases c with
  | nextStep env triggerType scheduledFor => exact extends_nextStep.exec hst
  | eventStep env eventId scheduledFor    => exact extends_eventStep.exec hst
  | sync env                              => exact extends_sync.exec hst

theorem runCalls_chained (calls : List PaperCall) (db : Db) : (runCalls calls db).Chained Db.Grows := by
  have hstep : ∀ c (st : Store Db BrokerBook), st.Chained Db.Grows → True → (PaperCall.exec c st).Chained Db.Grows :=
    fun c _ hst _ => PaperCall.chained hst c
  have hmeet : Runs.AllMeet PaperCall.exec (fun _ _ => True) calls (Store.opened db {}) :=
    Runs.allMeet_iff_forall.mpr fun _ _ => trivial
  exact Runs.run_keeps hstep hmeet .opened

/-! ## Historical runs -/

theorem Db.grows_recordDecision (db : Db) (s : BarStep) (executionStepId : ℕ) (now : DateTime) (d : StrategyDecision)
    (r : RiskResult) : db.Grows (db.recordDecision s executionStepId now d r) :=
  ((db.grows_addMarketData _).trans (grows_addDecision _ _)).trans (grows_addRiskCheck _ _)

theorem Db.grows_recordExecution (db : Db) (result : SimulationResult) : db.Grows (db.recordExecution result) := by
  unfold Db.recordExecution
  split
  · exact (db.grows_addOrder _).trans (grows_addTrade _ _ _)
  · exact .refl db

theorem Db.grows_recordResult {db db' : Db} {initialCapital : ℚ} {s : BarStep} {executionStepId : ℕ} {now : DateTime}
    {p : Portfolio} {tradeId : Option ℕ}
    (h : db.recordResult initialCapital s executionStepId now p tradeId = .ok db') : db.Grows db' := by
  obtain ⟨metrics, -, hdb⟩ := ok_of_bind h
  cases hdb
  exact ((db.grows_writePortfolio _ _).trans (grows_addSnapshots _ _ _)).trans (grows_updateStep _ _ _)

theorem Db.grows_completeExperiment (db : Db) (now : DateTime) : db.Grows (db.completeExperiment now) :=
  (db.grows_setStatus _ _).trans (grows_addSystemEvent _ _)

theorem Db.grows_recordHistoricalFailure (db : Db) (message : String) (step : Option ℕ) (e : Raised) (now : DateTime) :
    db.Grows (db.recordHistoricalFailure message step e now) := by
  have hfailed : db.Grows (db.failStep step now message) := by
    cases step with
    | none    => exact .refl db
    | some id => exact db.grows_updateStep id _
  unfold Db.recordHistoricalFailure
  dsimp only
  split
  · exact hfailed
  · exact (hfailed.trans (grows_setStatus _ _ _)).trans (grows_addSystemEvent _ _)

theorem runStep_grows {db db' : Db} {s : BarStep} {executionStepId : ℕ} {now : DateTime} {completed : Bool}
    (h : runStep s executionStepId now db = .ok (db', completed)) : db.Grows db' := by
  unfold runStep at h
  split at h
  · split at h
    · cases h
    · obtain ⟨db'', hresult, heq⟩ := ok_of_bind h
      cases heq
      exact ((db.grows_recordDecision s executionStepId now _ _).trans (Db.grows_recordExecution _ _)).trans
        (Db.grows_recordResult hresult)
  · cases h

/-- The databases of a run: where it starts, what each step leaves, and where it is. -/
def RunState.databases (start : Db) (rs : RunState) : List Db := start :: rs.history.map StepRecord.db ++ [rs.db]

/-- Each of them has grown from those before. -/
def RunState.Growing (start : Db) (rs : RunState) : Prop := (rs.databases start).Pairwise Db.Grows

variable {start : Db} {rs : RunState}

/-- The run goes on with a database that has grown. -/
theorem RunState.Growing.next (h : rs.Growing start) {db' : Db} (hgrows : rs.db.Grows db')
    (raised : Option (Option ℕ × Raised)) : RunState.Growing start { rs with db := db', raised } := by
  obtain ⟨hbefore, -, hcurrent⟩ := List.pairwise_append.mp h
  refine List.pairwise_append.mpr ⟨hbefore, List.pairwise_singleton _ _, fun s hs s' hs' => ?_⟩
  rw [List.mem_singleton.mp hs']
  exact (hcurrent s hs rs.db (List.mem_singleton_self _)).trans hgrows

/-- The current database becomes that of a step. -/
theorem RunState.Growing.record (h : rs.Growing start) (r : StepRecord) (hr : r.db = rs.db) :
    RunState.Growing start { rs with history := rs.history ++ [r] } := by
  have hsame : RunState.databases start { rs with history := rs.history ++ [r] } =
      rs.databases start ++ [rs.db] := by
    simp [RunState.databases, hr]
  obtain ⟨-, -, hcurrent⟩ := List.pairwise_append.mp h
  unfold RunState.Growing
  rw [hsame]
  refine List.pairwise_append.mpr ⟨h, List.pairwise_singleton _ _, fun s hs s' hs' => ?_⟩
  rw [List.mem_singleton.mp hs']
  rcases List.mem_append.mp hs with hs | hs
  · exact hcurrent s hs rs.db (List.mem_singleton_self _)
  · rw [List.mem_singleton.mp hs]
    exact .refl rs.db

theorem runBar_growing (h : rs.Growing start) (clock : StepClock) (s : BarStep) :
    (rs.runBar clock s).1.Growing start := by
  have hopened : rs.db.Grows (rs.db.addNextStep .historical s.timestamp clock.createdAt) :=
    rs.db.grows_insertStep _ _ _ _
  unfold RunState.runBar
  dsimp only
  split
  · next db' completed hrun =>
      exact (h.next (hopened.trans (runStep_grows hrun)) rs.raised).record _ rfl
  · exact h.next hopened _

theorem runSteps_growing {clock : ℕ → StepClock} {steps : List (Bool → BarStep)} {b : Bool} (h : rs.Growing start) :
    (runSteps clock steps b rs).Growing start := by
  induction steps generalizing b rs with
  | nil => exact h
  | cons step steps ih =>
      rw [runSteps]
      cases rs.raised with
      | some _ => exact h
      | none   => exact ih (runBar_growing h _ _)

theorem runSessions_growing {clock : ℕ → StepClock} {sessions : List (List IntradayBar)} (h : rs.Growing start) :
    (runSessions clock sessions rs).Growing start := by
  induction sessions generalizing rs with
  | nil => exact h
  | cons sessionBars sessions ih =>
      rw [runSessions]
      cases rs.raised with
      | some _ => exact h
      | none =>
          cases openingRange sessionBars with
          | error e  => exact h.next (.refl rs.db) _
          | ok range => exact ih (runSteps_growing h)

theorem close_growing {o : HistoricalOrchestrator} {henv : HistoricalEnv} (h : rs.Growing start) :
    (o.close henv rs).Growing start := by
  unfold HistoricalOrchestrator.close
  cases rs.raised with
  | some failure =>
      dsimp only
      split
      · exact h
      · exact h.next (rs.db.grows_recordHistoricalFailure _ _ _ _) _
  | none =>
      dsimp only
      cases rs.db.experiment with
      | some e => exact h.next (rs.db.grows_completeExperiment _) _
      | none   => exact h.next (rs.db.grows_recordHistoricalFailure _ _ _ _) _

theorem run_growing (db : Db) (o : HistoricalOrchestrator) (henv : HistoricalEnv) : (o.run henv db).Growing db := by
  have hstart (raised : Option (Option ℕ × Raised)) : RunState.Growing db { db, raised } :=
    List.pairwise_pair.mpr (.refl db)
  have hloop : ∀ e rs, o.loop henv e db = .ok rs → rs.Growing db := by
    intro e rs hrun
    cases o with
    | buyAndHold =>
        obtain ⟨bars, -, hrun⟩ := ok_of_bind hrun
        cases hrun
        exact runSteps_growing (hstart none)
    | movingAverage =>
        obtain ⟨bars, -, hrun⟩ := ok_of_bind hrun
        obtain ⟨window, -, hrun⟩ := ok_of_bind hrun
        cases hrun
        exact runSteps_growing (hstart none)
    | openingRangeBreakout =>
        obtain ⟨bars, -, hrun⟩ := ok_of_bind hrun
        cases hrun
        exact runSessions_growing (hstart none)
  unfold HistoricalOrchestrator.run
  cases db.experiment with
  | none => exact close_growing (hstart _)
  | some e =>
      dsimp only
      cases hrun : o.loop henv e db with
      | ok rs   => exact close_growing (hloop e rs hrun)
      | error e => exact close_growing (hstart _)

/-! ## Manual steps -/

section
variable {renv : StepRunnerEnv} {db : Db}

theorem Db.grows_markCompleted (db : Db) (e : Experiment) (now : DateTime) : db.Grows (db.markCompleted e now) := by
  unfold Db.markCompleted
  split
  · exact .refl db
  · exact db.grows_completeExperiment now

theorem failHistorical_grows (step : Option ℕ) (e : Raised) : db.Grows (failHistorical renv step e db).1 := by
  unfold failHistorical
  dsimp only
  split
  · exact db.grows_recordHistoricalFailure _ _ _ _
  · exact .refl db

theorem select_grows {t : TriggerType} {db' : Db} {selected : Option SelectedBar}
    (h : selectBarAndCreateStep renv t db = .ok (db', selected)) : db.Grows db' := by
  unfold selectBarAndCreateStep at h
  split at h
  · cases h
  · split_ifs at h
    obtain ⟨bars, -, h⟩ := ok_of_bind h
    dsimp only at h
    split at h
    · cases h
      exact db.grows_markCompleted _ _
    · cases h
      exact db.grows_insertStep _ _ _ _

theorem artifacts_grow {bar : DailyBar} {executionStepId : ℕ} {db' : Db}
    (h : runHistoricalStepArtifacts renv bar executionStepId db = .ok db') : db.Grows db' := by
  unfold runHistoricalStepArtifacts at h
  split at h
  · cases h
  · split at h
    · obtain ⟨⟨db'', completed⟩, hstep, h⟩ := ok_of_bind h
      cases h
      exact runStep_grows hstep
    · obtain ⟨prices, -, h⟩ := ok_of_bind h
      obtain ⟨window, -, h⟩ := ok_of_bind h
      obtain ⟨⟨db'', completed⟩, hstep, h⟩ := ok_of_bind h
      cases h
      exact runStep_grows hstep

theorem finish_grows {selected : SelectedBar} : db.Grows (finishHistoricalStep renv selected db).1 := by
  unfold finishHistoricalStep
  dsimp only
  split
  · exact failHistorical_grows _ _
  · exact .refl db
  · cases hcomplete : completeHistorical renv db with
    | error e => exact failHistorical_grows _ _
    | ok db' =>
        unfold completeHistorical at hcomplete
        split at hcomplete
        · cases hcomplete
        · cases hcomplete
          exact db.grows_markCompleted _ _

theorem stepNext_grows (t : TriggerType) : db.Grows (runNextHistoricalStep renv t db).1 := by
  unfold runNextHistoricalStep
  split
  · exact failHistorical_grows _ _
  · next hselect => exact select_grows hselect
  · next hselect =>
      have hselected := select_grows hselect
      split
      · exact hselected.trans (failHistorical_grows _ _)
      · next hrun => exact (hselected.trans (artifacts_grow hrun)).trans finish_grows

end

/-- The databases between the calls of `run_next_step`. -/
def steppedDatabases (calls : List StepperCall) (db : Db) : List Db :=
  calls.scanl (fun db call => (runNextHistoricalStep call.env call.triggerType db).1) db

theorem stepped_growing (calls : List StepperCall) (db : Db) : (steppedDatabases calls db).Pairwise Db.Grows := by
  -- growing is transitive, so it is enough that each call grows what it finds
  rw [← List.isChain_iff_pairwise]
  unfold steppedDatabases
  induction calls generalizing db with
  | nil => exact .singleton _
  | cons call calls ih =>
      rw [List.scanl_cons]
      refine List.isChain_cons.mpr ⟨fun db' hdb' => ?_, ih _⟩
      rw [List.head?_scanl] at hdb'
      obtain rfl := Option.some.inj hdb'
      exact stepNext_grows call.triggerType

end TradingAI
