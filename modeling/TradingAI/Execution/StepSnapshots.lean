import TradingAI.Execution.Calls

/-!
# `Execution.StepSnapshots` — the snapshots a paper step takes, and the clock they are stamped with

A step that runs to its end takes one portfolio and one metric snapshot; a step that raises takes none. The
stamp is not read off one clock. A step that sent an order stamps with the time its report was recorded. A
step without an order stamps with the time of its bar, if its strategy is opening range breakout or an agent,
and with its own start otherwise.

## Contents
- `Db.snapshotTables`, `SnapshotsKept`, `SnapshotTaken`: what a transaction leaves of the snapshots.
- `branchStamp`, `snapshotStamp`: the clock of a step.
- `wp_runStepArtifacts_snapshots`: a step takes its snapshots with that stamp, or none.
-/

namespace TradingAI

open Session Rounding Outcome PaperBrokerSyncService

/-! ## What a transaction leaves of the snapshots -/

/-- What the snapshot queries read: the snapshots, and the numbers of the steps by their keys. -/
structure SnapshotTables where
  stepNumbers        : List (ℕ × ℕ)
  portfolioSnapshots : List PortfolioSnapshot
  metricSnapshots    : List MetricSnapshot

def Db.snapshotTables (db : Db) : SnapshotTables where
  stepNumbers        := db.steps.map fun s => (s.id, s.sequenceNumber)
  portfolioSnapshots := db.portfolioSnapshots
  metricSnapshots    := db.metricSnapshots

/-- No snapshot was taken, and the steps keep their numbers. -/
structure SnapshotsKept (db db' : Db) : Prop where
  tables : db'.snapshotTables = db.snapshotTables
  nextId : db.nextId ≤ db'.nextId

/-- The values `_persist_snapshot_and_metrics` collects from snapshots. -/
def portfolioValues (snapshots : List PortfolioSnapshot) : List ℚ :=
  snapshots.filterMap fun s => s.totalPortfolioValue.map (·.val)

/-- One snapshot of each kind was taken, with new keys; the drawdown is over the snapshots as they are listed. -/
structure SnapshotTaken (executionStepId : ℕ) (stamp : DateTime) (p : PortfolioSnapshot) (m : MetricSnapshot)
    (db db' : Db) : Prop where
  tables   : db'.snapshotTables = { db.snapshotTables with
    portfolioSnapshots := db.portfolioSnapshots ++ [p]
    metricSnapshots := db.metricSnapshots ++ [m] }
  keys     : db.nextId ≤ p.id ∧ p.id < db'.nextId ∧ db.nextId ≤ m.id ∧ m.id < db'.nextId
  step     : p.executionStepId = executionStepId ∧ m.executionStepId = executionStepId
  stamp    : p.timestamp = stamp ∧ m.timestamp = stamp
  drawdown : m.maxDrawdown = numeric 8 (BasicMetricCalculator.maxDrawdown
    (portfolioValues (db.listPortfolioSnapshots ++ [p])))

section
variable {db db₁ db' : Db} {executionStepId : ℕ} {stamp : DateTime} {p : PortfolioSnapshot} {m : MetricSnapshot}

theorem SnapshotsKept.refl : SnapshotsKept db db := ⟨rfl, le_rfl⟩

theorem SnapshotsKept.trans (h : SnapshotsKept db db₁) (h' : SnapshotsKept db₁ db') : SnapshotsKept db db' :=
  ⟨h'.tables.trans h.tables, h.nextId.trans h'.nextId⟩

theorem SnapshotsKept.portfolioSnapshots (h : SnapshotsKept db db') :
    db'.portfolioSnapshots = db.portfolioSnapshots := congrArg SnapshotTables.portfolioSnapshots h.tables

theorem SnapshotsKept.metricSnapshots (h : SnapshotsKept db db') :
    db'.metricSnapshots = db.metricSnapshots := congrArg SnapshotTables.metricSnapshots h.tables

theorem SnapshotsKept.taken (h : SnapshotsKept db db₁) (h' : SnapshotTaken executionStepId stamp p m db₁ db') :
    SnapshotTaken executionStepId stamp p m db db' := by
  obtain ⟨htables, hkeys, hstep, hstamp, hdrawdown⟩ := h'
  have hnext := h.nextId
  have hlist : db₁.listPortfolioSnapshots = db.listPortfolioSnapshots := by
    unfold Db.listPortfolioSnapshots
    rw [h.portfolioSnapshots]
  rw [h.tables, h.portfolioSnapshots, h.metricSnapshots] at htables
  rw [hlist] at hdrawdown
  exact ⟨htables, by omega, hstep, hstamp, hdrawdown⟩

theorem SnapshotTaken.kept (h : SnapshotTaken executionStepId stamp p m db db₁) (h' : SnapshotsKept db₁ db') :
    SnapshotTaken executionStepId stamp p m db db' := by
  obtain ⟨htables, hkeys, hstep, hstamp, hdrawdown⟩ := h
  have hnext := h'.nextId
  exact ⟨h'.tables.trans htables, by omega, hstep, hstamp, hdrawdown⟩

/-! ## The transactions that take none -/

theorem snapshotTables_updateStep {id : ℕ} {f : ExecutionStep → ExecutionStep}
    (hid : ∀ s, (f s).id = s.id) (hnumber : ∀ s, (f s).sequenceNumber = s.sequenceNumber) :
    (db.updateStep id f).snapshotTables = db.snapshotTables := by
  unfold Db.snapshotTables Db.updateStep
  rw [List.map_map]
  congr 1
  apply List.map_congr_left
  intro s _
  show ((if s.id = id then f s else s).id, (if s.id = id then f s else s).sequenceNumber) = _
  split
  · rw [hid, hnumber]
  · rfl

theorem SnapshotsKept.addMarketData (row : MarketDataSnapshot) : SnapshotsKept db (db.addMarketData row) :=
  ⟨rfl, Nat.le_succ _⟩

theorem SnapshotsKept.addDecision (row : TradingDecision) : SnapshotsKept db (db.addDecision row) :=
  ⟨rfl, Nat.le_succ _⟩

theorem SnapshotsKept.addRiskCheck (row : RiskCheck) : SnapshotsKept db (db.addRiskCheck row) :=
  ⟨rfl, Nat.le_succ _⟩

theorem SnapshotsKept.addAgentLogs (s d : ℕ) (mode : AgentMode) (ps : List AgentDecisionLogPayload)
    (now : DateTime) : SnapshotsKept db (db.addAgentLogs s d mode ps now) :=
  ⟨rfl, Nat.le_add_right _ _⟩

theorem SnapshotsKept.markEvent (e : Option ℕ) (s d : ℕ) (now : DateTime) :
    SnapshotsKept db (db.markEvent e s d now) := by
  refine ⟨?_, by rw [Db.nextId_markEvent]; exact Nat.le_add_right _ _⟩
  unfold Db.markEvent Db.markEventDecision
  split
  · split <;> rfl
  · rfl

theorem SnapshotsKept.addOrder (order : Order) : SnapshotsKept db (db.addOrder order) := ⟨rfl, Nat.le_succ _⟩

theorem SnapshotsKept.addTrade (trade : Trade) (orderId : ℕ) : SnapshotsKept db (db.addTrade trade orderId) :=
  ⟨rfl, Nat.le_succ _⟩

theorem SnapshotsKept.addSystemEvent (event : SystemEventLog) : SnapshotsKept db (db.addSystemEvent event) :=
  ⟨rfl, Nat.le_succ _⟩

theorem SnapshotsKept.addBrokerSyncLog (log : BrokerSyncLog) : SnapshotsKept db (db.addBrokerSyncLog log) :=
  ⟨rfl, Nat.le_succ _⟩

theorem SnapshotsKept.completeStep (id : ℕ) (now : DateTime) :
    SnapshotsKept db (db.updateStep id (·.completedStep now)) :=
  ⟨snapshotTables_updateStep (fun _ => rfl) fun _ => rfl, le_rfl⟩

theorem SnapshotsKept.failStep (id : ℕ) (now : DateTime) (message : String) :
    SnapshotsKept db (db.updateStep id (·.failedStep now message)) :=
  ⟨snapshotTables_updateStep (fun _ => rfl) fun _ => rfl, le_rfl⟩

theorem SnapshotsKept.failExperiment (now : DateTime) : SnapshotsKept db (db.failExperiment now) := ⟨rfl, le_rfl⟩

theorem SnapshotsKept.finishStep (id : ℕ) (failure : Option PaperStepFailure) (now : DateTime) :
    SnapshotsKept db (db.finishStep id failure now) := by
  cases failure with
  | none => exact .completeStep id now
  | some failure =>
      exact (SnapshotsKept.failStep id now failure.message).trans ((SnapshotsKept.failExperiment now).trans (.addSystemEvent _))

theorem SnapshotsKept.recordFailure (step : Option ℕ) (f : FailureRecord) (now : DateTime) :
    SnapshotsKept db (db.recordFailure step f now) := by
  -- the step first, then the experiment, the event and the log
  have hfail : ∀ db₁ : Db, SnapshotsKept db₁ (if f.failExperiment then db₁.failExperiment now else db₁) := by
    intro db₁
    split
    · exact .failExperiment now
    · exact .refl
  unfold Db.recordFailure
  cases step with
  | none =>
      dsimp only
      split
      · exact .refl
      · exact (hfail db).trans (.addSystemEvent _)
  | some id =>
      have hstep : SnapshotsKept db (db.updateStep id (·.failedStep now f.message)) := .failStep id now f.message
      dsimp only
      split
      · exact hstep
      · split
        · exact hstep.trans ((hfail _).trans ((SnapshotsKept.addSystemEvent _).trans (.addBrokerSyncLog _)))
        · exact hstep.trans ((hfail _).trans (.addSystemEvent _))

theorem SnapshotsKept.applyReport (o : Order) (row : PortfolioRow) (status : OrderStatus)
    (r : BrokerOrderResult) (now : DateTime) : SnapshotsKept db (applyReport db o row status r now) := by
  unfold PaperBrokerSyncService.applyReport
  cases unbookedFill db o.id r with
  | none => exact ⟨rfl, Nat.le_succ _⟩
  | some delta => exact ⟨rfl, (Nat.le_succ _).trans (Nat.le_succ _)⟩

end

/-! ## The transactions of a step -/

/-- The clock a step without an order stamps with. -/
def branchStamp (env : StepEnv) (db : Db) (executionStepId : ℕ) : Except Raised DateTime := do
  match ← strategyPlan env db with
  | .openingRangeBreakout =>
      let (scheduledFor, symbol) ← orbSlotPlan env db executionStepId
      let bars ← env.loadSessionUntil scheduledFor.date scheduledFor symbol
      let bar ← lastBar bars
      .ok bar.timestamp
  | .agenticAi =>
      let st ← loadedState env db executionStepId
      let bar ← agentMarketBar env st.experiment st.step
      .ok (bar.timestamp.getD env.startedAt)
  | _ => .ok env.startedAt

/-- **The stamp of a step's snapshots**, or what it raises instead of taking them. -/
def snapshotStamp (env : StepEnv) (db : Db) (executionStepId : ℕ) (eventId : Option ℕ) :
    Except Raised DateTime := do
  stepOutcome env db executionStepId eventId
  match ← brokerReport env db executionStepId eventId with
  | some _ => .ok env.executedAt
  | none   => branchStamp env db executionStepId

/-- Snapshots with the stamp `stamp` were taken. -/
def TakesSnapshots (executionStepId : ℕ) (stamp : DateTime) (db db' : Db) : Prop :=
  ∃ p m, SnapshotTaken executionStepId stamp p m db db'

/-- How a branch leaves the snapshots: as they were, if it hands a submission on. -/
def BranchSnapshots (executionStepId : ℕ) (stamp : DateTime) (submission : Option Submission) (db db' : Db) : Prop :=
  match submission with
  | some _ => SnapshotsKept db db'
  | none   => TakesSnapshots executionStepId stamp db db'

section
variable {env : StepEnv} {executionStepId : ℕ} {db₀ db : Db} {book : BrokerBook}

theorem calculate_maxDrawdown {capital value : ℚ} {previous : List ℚ} {n : ℕ} {metrics : MetricResult}
    (h : BasicMetricCalculator.calculate capital value previous n = .ok metrics) :
    metrics.maxDrawdown = BasicMetricCalculator.maxDrawdown (previous ++ [value]) := by
  unfold BasicMetricCalculator.calculate at h
  dsimp only at h
  split at h
  · cases h
  · cases h
    rfl

theorem wp_persistSnapshotAndMetrics_taken (hkept : SnapshotsKept db₀ db) (experiment : Experiment)
    (portfolio : Portfolio) (price : ℚ) (timestamp : DateTime) (tradeId : Option ℕ) :
    (persistSnapshotAndMetrics env executionStepId experiment portfolio price timestamp tradeId).wp
      (fun _ db' _ => TakesSnapshots executionStepId timestamp db₀ db') (fun _ _ => True) db book := by
  unfold persistSnapshotAndMetrics
  simp only [Tx.wp_bind, Tx.wp_get, Tx.wp_modify]
  refine Tx.wp_mayRaise (fun _ => ?_) fun _ _ => trivial
  refine Tx.wp_mayRaise (fun _ => ?_) fun _ _ => trivial
  refine Tx.wp_ofExcept (fun metrics hmetrics => ?_) fun _ _ => trivial
  refine ⟨_, _, hkept.taken ⟨rfl, ?_, ⟨rfl, rfl⟩, ⟨rfl, rfl⟩, ?_⟩⟩
  · show db.nextId ≤ db.nextId ∧ db.nextId < db.nextId + 2 ∧ db.nextId ≤ db.nextId + 1 ∧ db.nextId + 1 < db.nextId + 2
    omega
  · -- the value written is the value the drawdown was computed with
    have hvalue : (numeric 4 (portfolioValueAt portfolio price)).val = portfolioValueAt portfolio price :=
      numeric_val_of_onGrid (quantize4_onGrid _)
    show numeric 8 metrics.maxDrawdown = _
    rw [calculate_maxDrawdown hmetrics, portfolioValues, List.filterMap_append]
    simp only [List.filterMap_cons, List.filterMap_nil, Option.map_some, hvalue]
    rfl

theorem wp_settle_snapshots (hkept : SnapshotsKept db₀ db) {st : StepState} {decisionId : ℕ}
    {riskResult : RiskResult} {price : ℚ} {symbol : String} {timestamp : DateTime} :
    (settle env executionStepId st decisionId riskResult price symbol timestamp).wp
      (fun submission db' _ => BranchSnapshots executionStepId timestamp submission db₀ db') (fun _ _ => True)
      db book := by
  unfold settle addRiskCheck
  simp only [Tx.wp_bind, Tx.wp_get, Tx.wp_modify]
  refine Tx.wp_mayRaise (fun _ => ?_) fun _ _ => trivial
  rw [Tx.wp_pure]
  have hkept' : ∀ row, SnapshotsKept db₀ (db.addRiskCheck row) := fun row => hkept.trans (.addRiskCheck row)
  split
  · rw [Tx.wp_bind]
    exact Tx.wp_mayRaise (fun _ => hkept' _) fun _ _ => trivial
  · rw [Tx.wp_bind]
    refine Tx.wp_mono (wp_persistSnapshotAndMetrics_taken (hkept' _) _ _ _ _ _) ?_ fun _ _ h => h
    rintro _ db' book' ⟨p, m, htaken⟩
    simp only [Tx.wp_bind, Tx.wp_modify]
    exact Tx.wp_mayRaise (fun _ => ⟨p, m, htaken.kept (.completeStep _ _)⟩) fun _ _ => trivial

theorem dailyArtifacts_snapshots :
    (dailyArtifacts env executionStepId).wp
      (fun submission db' _ => BranchSnapshots executionStepId env.startedAt submission db db')
      (fun _ _ => True) db book := by
  unfold dailyArtifacts addMarketData addDecision
  simp only [Tx.wp_bind, Tx.wp_get, Tx.wp_modify, Tx.wp_pure]
  refine wp_loadRows (fun st _ _ => ?_) fun _ _ => trivial
  refine Tx.wp_ofExcept (fun bar _ => ?_) fun _ _ => trivial
  refine Tx.wp_ofExcept (fun average _ => ?_) fun _ _ => trivial
  refine Tx.wp_mayRaise (fun _ => ?_) fun _ _ => trivial
  refine Tx.wp_mayRaise (fun _ => ?_) fun _ _ => trivial
  exact wp_settle_snapshots ((SnapshotsKept.addMarketData _).trans (.addDecision _))

theorem orbArtifacts_snapshots {symbol : String} {bar : IntradayBar} {state : OpeningRangeBreakoutState} :
    (orbArtifacts env executionStepId symbol bar state).wp
      (fun submission db' _ => BranchSnapshots executionStepId bar.timestamp submission db db')
      (fun _ _ => True) db book := by
  unfold orbArtifacts addMarketData addDecision
  simp only [Tx.wp_bind, Tx.wp_get, Tx.wp_modify, Tx.wp_pure]
  refine wp_loadRows (fun st _ _ => ?_) fun _ _ => trivial
  refine Tx.wp_mayRaise (fun _ => ?_) fun _ _ => trivial
  refine Tx.wp_mayRaise (fun _ => ?_) fun _ _ => trivial
  exact wp_settle_snapshots ((SnapshotsKept.addMarketData _).trans (.addDecision _))

theorem agenticArtifacts_snapshots {eventId : Option ℕ} :
    (agenticArtifacts env executionStepId eventId).wp
      (fun submission db' _ => ∃ st bar, loadedState env db executionStepId = .ok st ∧
        agentMarketBar env st.experiment st.step = .ok bar ∧
        BranchSnapshots executionStepId (bar.timestamp.getD env.startedAt) submission db db')
      (fun _ _ => True) db book := by
  unfold agenticArtifacts addMarketData addDecision addAgentLogs markEventDecisionTriggered
  simp only [Tx.wp_bind, Tx.wp_get, Tx.wp_modify, Tx.wp_pure]
  refine wp_loadRows (fun st hst _ => ?_) fun _ _ => trivial
  refine Tx.wp_ofExcept (fun bar hbar => ?_) fun _ _ => trivial
  refine Tx.wp_ofExcept (fun _ _ => ?_) fun _ _ => trivial
  refine Tx.wp_mayRaise (fun _ => ?_) fun _ _ => trivial
  refine Tx.wp_mayRaise (fun _ => ?_) fun _ _ => trivial
  refine Tx.wp_ofExcept (fun result _ => ?_) fun _ _ => trivial
  refine Tx.wp_mayRaise (fun _ => ?_) fun _ _ => trivial
  refine Tx.wp_mayRaise (fun _ => ?_) fun _ _ => trivial
  refine Tx.wp_mayRaise (fun _ => ?_) fun _ _ => trivial
  have hkept : ∀ row row' mode ps now d now', SnapshotsKept db
      ((((db.addMarketData row).addDecision row').addAgentLogs executionStepId d mode ps now).markEvent eventId
        executionStepId d now') := fun row row' mode ps now d now' =>
    (SnapshotsKept.addMarketData row).trans ((SnapshotsKept.addDecision row').trans
      ((SnapshotsKept.addAgentLogs _ _ _ _ _).trans (.markEvent _ _ _ _)))
  refine Tx.wp_mono (wp_settle_snapshots (hkept _ _ _ _ _ _ _)) ?_ fun _ _ h => h
  exact fun _ _ _ h => ⟨st, bar, hst, hbar, h⟩

/-- Asking the broker writes nothing. -/
theorem wp_executeIfApplicable_frame {riskResult : RiskResult} {portfolio : Portfolio} {riskCheckId : ℕ}
    {symbol : String} {timestamp now : DateTime} :
    (PaperExecutionProvider.executeIfApplicable env riskResult portfolio executionStepId riskCheckId symbol
      timestamp now).wp (fun _ db' _ => db' = db) (fun _ _ => True) db book := by
  unfold PaperExecutionProvider.executeIfApplicable
  split
  · exact rfl
  · simp only [Tx.wp_bind, Tx.wp_get]
    refine Tx.wp_mayRaise (fun _ => ?_) fun _ _ => trivial
    split
    · exact rfl
    · simp only [Tx.wp_bind]
      refine Tx.wp_ofExcept (fun side _ => ?_) fun _ _ => trivial
      exact StepEnv.wp_submit (fun _ _ => rfl) fun _ _ => trivial

theorem wp_flushExecution_kept {result : PaperExecutionProvider.Result} :
    (flushExecution env result).wp (fun _ db' _ => SnapshotsKept db db') (fun _ _ => True) db book := by
  unfold flushExecution
  cases result.order with
  | none => exact .refl
  | some order =>
      -- an order that was there already is not written again
      simp only [Tx.wp_bind, Tx.wp_get]
      refine Tx.wp_mayRaise (fun _ => ?_) fun _ _ => trivial
      cases result.trade with
      | none =>
          split
          · rw [Tx.wp_bind, Tx.wp_modify]
            exact .addOrder order
          · exact .refl
      | some trade =>
          have htrade : ∀ {db₁ : Db} {orderId : ℕ}, SnapshotsKept db db₁ →
              (Tx.get >>= fun current => env.op .flushTrade >>= fun _ =>
                Tx.modify (·.addTrade trade orderId) >>= fun _ => pure (some current.nextId) : DbTx (Option ℕ)).wp
                (fun _ db' _ => SnapshotsKept db db') (fun _ _ => True) db₁ book := by
            intro db₁ orderId hkept
            simp only [Tx.wp_bind, Tx.wp_get, Tx.wp_modify, Tx.wp_pure]
            exact Tx.wp_mayRaise (fun _ => hkept.trans (.addTrade _ _)) fun _ _ => trivial
          split
          · rw [Tx.wp_bind, Tx.wp_modify]
            exact htrade (.addOrder order)
          · exact htrade .refl

theorem brokerExecution_snapshots {s : Submission} :
    (brokerExecution env executionStepId s).wp
      (fun _ db' _ => TakesSnapshots executionStepId env.executedAt db db') (fun _ _ => True) db book := by
  unfold brokerExecution
  simp only [Tx.wp_bind]
  refine wp_loadRows (fun rows _ _ => ?_) fun _ _ => trivial
  obtain ⟨experiment, portfolio⟩ := rows
  refine Tx.wp_mono wp_executeIfApplicable_frame (fun result db₁ book₁ hsame => ?_) fun _ _ h => h
  subst hsame
  refine Tx.wp_mono wp_flushExecution_kept (fun tradeId db₂ book₂ hkept => ?_) fun _ _ h => h
  refine Tx.wp_mono (wp_persistSnapshotAndMetrics_taken hkept _ _ _ _ _) ?_ fun _ _ h => h
  rintro _ db₃ book₃ ⟨p, m, htaken⟩
  simp only [Tx.wp_modify, Tx.wp_pure]
  exact Tx.wp_mayRaise (fun _ => ⟨p, m, htaken.kept (.finishStep _ _ _)⟩) fun _ _ => trivial

end

/-! ## A step -/

/-- How a step ends that returns: the snapshots are taken in its only transaction, or in its second one, after
    the broker was asked. -/
def ReturnsWithSnapshots (env : StepEnv) (executionStepId : ℕ) (st st' : Store Db BrokerBook) : Prop :=
  (∃ stamp db' w, branchStamp env st.current executionStepId = .ok stamp ∧
    TakesSnapshots executionStepId stamp st.current db' ∧ st' = st.commit db' w) ∨
  ∃ db' w db'' w', SnapshotsKept st.current db' ∧ TakesSnapshots executionStepId env.executedAt db' db'' ∧
    st' = (st.commit db' w).commit db'' w'

/-- How a step ends that raises: at most its first transaction is committed. -/
def RaisesWithoutSnapshots (st st' : Store Db BrokerBook) : Prop :=
  (∃ w, st' = st.rollback w) ∨
  ∃ db' w w', SnapshotsKept st.current db' ∧ st' = (st.commit db' w).rollback w'

section
variable {env : StepEnv} {executionStepId : ℕ} {eventId : Option ℕ} {st : Store Db BrokerBook}

/-- A branch's transaction, and what follows it. -/
theorem wp_branch_snapshots {tx : DbTx (Option Submission)}
    (h : tx.wp (fun submission db' _ => ∃ stamp, branchStamp env st.current executionStepId = .ok stamp ∧
      BranchSnapshots executionStepId stamp submission st.current db') (fun _ _ => True) st.current st.world) :
    (Proc.withSession tx >>= continueWith env executionStepId).wp
      (fun _ st' => ReturnsWithSnapshots env executionStepId st st') (fun _ st' => RaisesWithoutSnapshots st st')
      st := by
  rw [Proc.wp_bind, Proc.wp_withSession]
  refine Tx.wp_mono h ?_ fun _ w _ => .inl ⟨w, rfl⟩
  rintro submission db' w ⟨stamp, hstamp, hbranch⟩
  cases submission with
  | none => exact .inl ⟨stamp, db', w, hstamp, hbranch, rfl⟩
  | some s =>
      show (Proc.withSession (brokerExecution env executionStepId s)).wp _ _ _
      rw [Proc.wp_withSession]
      refine Tx.wp_mono brokerExecution_snapshots ?_ fun _ w' _ => .inr ⟨db', w, w', hbranch, rfl⟩
      exact fun _ db'' w' htaken => .inr ⟨db', w, db'', w', hbranch, htaken, rfl⟩

theorem runOrbStepArtifacts_snapshots
    (hstrategy : strategyPlan env st.current = .ok .openingRangeBreakout) :
    (runOrbStepArtifacts env executionStepId).wp (fun _ st' => ReturnsWithSnapshots env executionStepId st st')
      (fun _ st' => RaisesWithoutSnapshots st st') st := by
  have hnothing : RaisesWithoutSnapshots st st := .inl ⟨st.world, rfl⟩
  unfold runOrbStepArtifacts
  simp only [Proc.wp_bind]
  refine wp_readSession_of_reads orbSlot_reads (fun slot hslot => ?_) fun _ _ => hnothing
  obtain ⟨scheduledFor, symbol⟩ := slot
  refine Proc.wp_ofExcept (fun bars hbars => ?_) fun _ _ => hnothing
  refine Proc.wp_ofExcept (fun bar hbar => ?_) fun _ _ => hnothing
  refine wp_readSession_of_reads orbStateTx_reads (fun state _ => ?_) fun _ _ => hnothing
  have hstamp : branchStamp env st.current executionStepId = .ok bar.timestamp := by
    rw [branchStamp, hstrategy, ok_bind]
    dsimp only
    rw [hslot, ok_bind]
    dsimp only
    rw [hbars, ok_bind, hbar, ok_bind]
  rw [← Proc.wp_bind]
  refine wp_branch_snapshots (Tx.wp_mono orbArtifacts_snapshots ?_ fun _ _ h => h)
  exact fun submission db' _ h => ⟨bar.timestamp, hstamp, h⟩

theorem runStepArtifacts_snapshots :
    (runStepArtifacts env executionStepId eventId).wp
      (fun _ st' => ReturnsWithSnapshots env executionStepId st st') (fun _ st' => RaisesWithoutSnapshots st st')
      st := by
  unfold runStepArtifacts
  rw [Proc.wp_bind]
  refine wp_readSession_of_reads loadStrategyType_reads (fun strategyType hstrategy => ?_) fun _ _ =>
    .inl ⟨st.world, rfl⟩
  cases strategyType with
  | openingRangeBreakout => exact runOrbStepArtifacts_snapshots hstrategy
  | agenticAi =>
      refine wp_branch_snapshots (Tx.wp_mono agenticArtifacts_snapshots ?_ fun _ _ h => h)
      rintro submission db' _ ⟨state, bar, hstate, hbar, h⟩
      refine ⟨bar.timestamp.getD env.startedAt, ?_, h⟩
      rw [branchStamp, hstrategy, ok_bind]
      dsimp only
      rw [hstate, ok_bind, hbar, ok_bind]
  | buyAndHold | movingAverage | paperTradingSmokeTest =>
      refine wp_branch_snapshots (Tx.wp_mono dailyArtifacts_snapshots ?_ fun _ _ h => h)
      exact fun submission db' _ h => ⟨env.startedAt, by rw [branchStamp, hstrategy, ok_bind], h⟩

/-- How a step leaves the snapshots: taken with its stamp if it has one, and not at all if it raises. -/
structure StepSnapshots (env : StepEnv) (executionStepId : ℕ) (eventId : Option ℕ) (st st' : Store Db BrokerBook) :
    Prop where
  taken   : ∀ stamp, snapshotStamp env st.current executionStepId eventId = .ok stamp →
    TakesSnapshots executionStepId stamp st.current st'.current
  kept    : ∀ e, snapshotStamp env st.current executionStepId eventId = .error e →
    SnapshotsKept st.current st'.current
  history : ∀ db ∈ st'.committed, db ∈ st.committed ∨ SnapshotsKept st.current db ∨ db = st'.current

/-- The number of commits tells which stamp a step has that returns. -/
theorem wp_runStepArtifacts_stamp (hkeys : st.current.WellKeyed)
    (hnew : ∀ o ∈ st.current.orders, o.executionStepId ≠ executionStepId) :
    (runStepArtifacts env executionStepId eventId).wp
      (fun _ st' =>
        snapshotStamp env st.current executionStepId eventId = branchStamp env st.current executionStepId ∧
          st'.committed.length = st.committed.length + 1 ∨
        snapshotStamp env st.current executionStepId eventId = .ok env.executedAt ∧
          st'.committed.length = st.committed.length + 2)
      (fun _ _ => ∃ e, snapshotStamp env st.current executionStepId eventId = .error e) st := by
  have herror : ∀ e, stepOutcome env st.current executionStepId eventId = .error e →
      ∃ e, snapshotStamp env st.current executionStepId eventId = .error e := by
    intro e he
    exact ⟨e, by rw [snapshotStamp, he]; rfl⟩
  refine wp_runStepArtifacts_end hkeys hnew ?_ ?_ ?_ ?_ ?_
  · intro hreport p db' _ _
    refine .inl ⟨?_, rfl⟩
    have hout : stepOutcome env st.current executionStepId eventId = .ok () := by
      rw [stepOutcome, hreport]; rfl
    rw [snapshotStamp, hout, ok_bind, hreport, ok_bind]
  · intro r hreport hrecord p db' db'' _ _ _ _
    refine .inr ⟨?_, rfl⟩
    have hout : stepOutcome env st.current executionStepId eventId = .ok () := by
      rw [stepOutcome, hreport, ok_bind]; exact hrecord
    rw [snapshotStamp, hout, ok_bind, hreport, ok_bind]
  · intro r e hreport hrecord p db' _ _
    exact herror e (by rw [stepOutcome, hreport, ok_bind]; exact hrecord)
  · intro e hreport p db' _ _
    exact herror e (by rw [stepOutcome, hreport]; rfl)
  · intro e hreport
    exact herror e (by rw [stepOutcome, hreport]; rfl)

theorem StepSnapshots.of_taken {stamp : DateTime} {st' : Store Db BrokerBook}
    (hstamp : snapshotStamp env st.current executionStepId eventId = .ok stamp)
    (htaken : TakesSnapshots executionStepId stamp st.current st'.current)
    (hhistory : ∀ db ∈ st'.committed, db ∈ st.committed ∨ SnapshotsKept st.current db ∨ db = st'.current) :
    StepSnapshots env executionStepId eventId st st' where
  taken stamp' h := by
    rw [hstamp] at h
    cases h
    exact htaken
  kept e h := by
    rw [hstamp] at h
    cases h
  history := hhistory

/-- **A step takes its snapshots with its stamp**, or raises and takes none. -/
theorem wp_runStepArtifacts_snapshots (hkeys : st.current.WellKeyed)
    (hnew : ∀ o ∈ st.current.orders, o.executionStepId ≠ executionStepId) :
    (runStepArtifacts env executionStepId eventId).wp
      (fun _ st' => StepSnapshots env executionStepId eventId st st')
      (fun _ st' => StepSnapshots env executionStepId eventId st st' ∧
        ∃ e, snapshotStamp env st.current executionStepId eventId = .error e) st := by
  refine Proc.wp_mono (Proc.wp_and runStepArtifacts_snapshots (wp_runStepArtifacts_stamp hkeys hnew)) ?_ ?_
  · rintro failure st' ⟨⟨stamp, db', w, hstamp, htaken, rfl⟩ | ⟨db', w, db'', w', hkept, ⟨p, m, htaken⟩, rfl⟩, hend⟩
    · rcases hend with ⟨hbranch, -⟩ | ⟨-, hlength⟩
      · refine .of_taken (hbranch.trans hstamp) htaken fun db hdb => ?_
        rcases List.mem_cons.mp hdb with rfl | hdb
        · exact .inr (.inr rfl)
        · exact .inl hdb
      · simp [Store.commit] at hlength
    · rcases hend with ⟨-, hlength⟩ | ⟨hexecuted, -⟩
      · simp [Store.commit] at hlength
      · refine .of_taken hexecuted ⟨p, m, hkept.taken htaken⟩ fun db hdb => ?_
        rcases List.mem_cons.mp hdb with rfl | hdb
        · exact .inr (.inr rfl)
        · rcases List.mem_cons.mp hdb with rfl | hdb
          · exact .inr (.inl hkept)
          · exact .inl hdb
  · rintro e st' ⟨hraises, e', herror⟩
    have hnone : ∀ stamp, snapshotStamp env st.current executionStepId eventId ≠ .ok stamp := by
      intro stamp h
      rw [herror] at h
      cases h
    refine ⟨?_, e', herror⟩
    rcases hraises with ⟨w, rfl⟩ | ⟨db', w, w', hkept, rfl⟩
    · exact ⟨fun stamp h => (hnone stamp h).elim, fun _ _ => .refl, fun db hdb => .inl hdb⟩
    · refine ⟨fun stamp h => (hnone stamp h).elim, fun _ _ => hkept, fun db hdb => ?_⟩
      rcases List.mem_cons.mp hdb with rfl | hdb
      · exact .inr (.inl hkept)
      · exact .inl hdb

end

/-! ## A call -/

/-- Nothing that was committed since took a snapshot. -/
structure KeptThroughout (st st' : Store Db BrokerBook) : Prop where
  current : SnapshotsKept st.current st'.current
  history : ∀ db ∈ st'.committed, db ∈ st.committed ∨ SnapshotsKept st.current db

/-- How a call leaves the snapshots that creates a step, or is refused one. -/
structure CallSnapshots (env : StepEnv) (eventId : Option ℕ) (triggerType : TriggerType) (slot : DateTime)
    (st st' : Store Db BrokerBook) : Prop where
  refused : ¬ CreationAllowed env triggerType slot st.current → KeptThroughout st st'
  created : CreationAllowed env triggerType slot st.current →
    StepSnapshots env st.current.nextId eventId
      (st.commit (st.current.addNextStep triggerType slot env.createdAt) st.world) st'

section
variable {env : StepEnv} {executionStepId : ℕ} {eventId : Option ℕ} {st st₁ st₂ : Store Db BrokerBook}
variable {triggerType : TriggerType} {scheduledFor : Option DateTime}

theorem KeptThroughout.refl : KeptThroughout st st := ⟨.refl, fun _ hdb => .inl hdb⟩

theorem KeptThroughout.rollback (w : BrokerBook) : KeptThroughout st (st.rollback w) := ⟨.refl, fun _ hdb => .inl hdb⟩

theorem KeptThroughout.commit {db : Db} {w : BrokerBook} (h : SnapshotsKept st.current db) :
    KeptThroughout st (st.commit db w) := by
  refine ⟨h, fun db' hdb' => ?_⟩
  rcases List.mem_cons.mp hdb' with rfl | hdb'
  · exact .inr h
  · exact .inl hdb'

theorem KeptThroughout.trans (h : KeptThroughout st st₁) (h' : KeptThroughout st₁ st₂) : KeptThroughout st st₂ := by
  refine ⟨h.current.trans h'.current, fun db hdb => ?_⟩
  rcases h'.history db hdb with hdb | hkept
  · exact h.history db hdb
  · exact .inr (h.current.trans hkept)

/-- A step that raised has taken nothing, and takes nothing while its failure is recorded. -/
theorem StepSnapshots.failed {e : Raised} (h : StepSnapshots env executionStepId eventId st st₁)
    (herror : snapshotStamp env st.current executionStepId eventId = .error e) (h' : KeptThroughout st₁ st₂) :
    StepSnapshots env executionStepId eventId st st₂ := by
  have hkept := h.kept e herror
  refine ⟨fun stamp hstamp => ?_, fun _ _ => hkept.trans h'.current, fun db hdb => ?_⟩
  · rw [herror] at hstamp
    cases hstamp
  · rcases h'.history db hdb with hdb | hdb
    · rcases h.history db hdb with hdb | hdb | rfl
      · exact .inl hdb
      · exact .inr (.inl hdb)
      · exact .inr (.inl hkept)
    · exact .inr (.inl (hkept.trans hdb))

theorem handleFailure_snapshots {α : Type} {step : Option ℕ} {e : Raised} :
    (handleFailure (α := α) env step e).wp (fun _ st' => KeptThroughout st st') (fun _ st' => KeptThroughout st st')
      st := by
  unfold handleFailure
  split
  · exact .refl
  · unfold persistFailure
    simp only [Proc.wp_bind, Proc.wp_withSession, Tx.wp_bind]
    refine Tx.wp_mayRaise (fun _ => ?_) fun _ _ => .rollback _
    exact .commit (.recordFailure _ _ _)

theorem nextStep_snapshots (hkeys : st.current.WellKeyed) :
    CallSnapshots env none triggerType (slotOf env scheduledFor) st
      ((runNextStep env triggerType scheduledFor).exec st) := by
  refine Proc.exec_of_wp (P := CallSnapshots env none triggerType (slotOf env scheduledFor) st) ?_
  unfold runNextStep
  simp only [Proc.wp_bind, Proc.wp_attempt]
  refine wp_openStep (fun hallowed => ?_) fun e hdenied => ?_
  · obtain ⟨-, hnew⟩ := created_facts hkeys triggerType (slotOf env scheduledFor) env.createdAt
    refine Proc.wp_mono (wp_runStepArtifacts_snapshots (hkeys.addNextStep _ _ _) hnew) ?_ ?_
    · exact fun _ st' h => ⟨fun hdenied => (hdenied hallowed).elim, fun _ => h⟩
    · rintro e st' ⟨h, e', herror⟩
      refine Proc.wp_mono handleFailure_snapshots ?_ ?_
      · exact fun _ st'' h' => ⟨fun hdenied => (hdenied hallowed).elim, fun _ => h.failed herror h'⟩
      · exact fun _ st'' h' => ⟨fun hdenied => (hdenied hallowed).elim, fun _ => h.failed herror h'⟩
  · refine Proc.wp_mono handleFailure_snapshots ?_ ?_
    · exact fun _ st' h => ⟨fun _ => h, fun hallowed => (hdenied hallowed).elim⟩
    · exact fun _ st' h => ⟨fun _ => h, fun hallowed => (hdenied hallowed).elim⟩

theorem eventStep_snapshots {event : ℕ} (hkeys : st.current.WellKeyed) :
    CallSnapshots env (some event) .event (slotOf env scheduledFor) st
      ((runEventStep env event scheduledFor).exec st) := by
  refine Proc.exec_of_wp (P := CallSnapshots env (some event) .event (slotOf env scheduledFor) st) ?_
  unfold runEventStep
  rw [Proc.wp_bind]
  refine wp_openStep (fun hallowed => ?_) fun e hdenied =>
    ⟨fun _ => .refl, fun hallowed => (hdenied hallowed).elim⟩
  obtain ⟨-, hnew⟩ := created_facts hkeys .event (slotOf env scheduledFor) env.createdAt
  rw [Proc.wp_bind]
  refine Proc.wp_mono (wp_runStepArtifacts_snapshots (hkeys.addNextStep _ _ _) hnew) ?_ ?_
  · exact fun _ st' h => ⟨fun hdenied => (hdenied hallowed).elim, fun _ => h⟩
  · exact fun _ st' h => ⟨fun hdenied => (hdenied hallowed).elim, fun _ => h.1⟩

/-! ### Syncs -/

variable {senv : SyncEnv}

theorem persistOrderSync_kept {orderId : ℕ} {r : BrokerOrderResult} {db : Db} {book : BrokerBook} :
    (persistOrderSync senv orderId r).wp (fun _ db' _ => SnapshotsKept db db') (fun _ _ => True) db book := by
  unfold persistOrderSync
  simp only [Tx.wp_bind, Tx.wp_get]
  refine Tx.wp_mayRaise (fun _ => ?_) fun _ _ => trivial
  refine Tx.wp_expect (fun o _ => ?_) fun _ => trivial
  refine Tx.wp_expect (fun portfolio _ => ?_) fun _ => trivial
  split
  · exact SnapshotsKept.addBrokerSyncLog _
  · exact SnapshotsKept.applyReport _ _ _ _ _

theorem persistSyncFailure_kept {orderId : ℕ} {message : String} {details : Details} {db : Db} {book : BrokerBook} :
    (persistSyncFailure senv orderId message details).wp (fun _ db' _ => SnapshotsKept db db') (fun _ _ => True)
      db book := by
  unfold persistSyncFailure
  simp only [Tx.wp_bind, Tx.wp_get]
  refine Tx.wp_mayRaise (fun _ => ?_) fun _ _ => trivial
  refine Tx.wp_expect (fun o _ => ?_) fun _ => trivial
  exact SnapshotsKept.addBrokerSyncLog _

theorem syncOrder_snapshots {o : Order} :
    (syncOrder senv o).wp (fun _ st' => KeptThroughout st st') (fun _ st' => KeptThroughout st st') st := by
  have hcatch : ∀ (e : Raised) (w : BrokerBook), (if e.kind = .brokerProvider then
        Proc.withSession (persistSyncFailure senv o.id e.message e.details)
      else Proc.raise e : DbProc BrokerOrderSyncResult).wp (fun _ st' => KeptThroughout st st')
      (fun _ st' => KeptThroughout st st') (st.rollback w) := by
    intro e w
    split
    · rw [Proc.wp_withSession]
      refine Tx.wp_mono persistSyncFailure_kept (fun _ db' w' hkept => ?_) fun _ w' _ => .rollback w'
      exact KeptThroughout.commit hkept
    · exact .rollback w
  unfold syncOrder
  simp only [Proc.wp_tryCatch, Proc.wp_bind]
  refine Proc.wp_ofExcept (fun r _ => ?_) fun e _ => hcatch e st.world
  rw [Proc.wp_withSession]
  refine Tx.wp_mono persistOrderSync_kept (fun _ db' w hkept => ?_) fun e w _ => hcatch e w
  exact .commit hkept

theorem syncOrders_snapshots {orders : List Order} :
    (syncOrders senv orders).wp (fun _ st' => KeptThroughout st st') (fun _ st' => KeptThroughout st st') st := by
  -- by induction on the orders, from any store: each poll has a transaction of its own
  induction orders generalizing st with
  | nil => exact .refl
  | cons o os ih =>
      unfold syncOrders
      simp only [Proc.wp_bind, Proc.wp_pure]
      refine Proc.wp_mono syncOrder_snapshots (fun _ st₁ h => ?_) fun _ _ h => h
      refine Proc.wp_mono ih ?_ ?_
      · exact fun _ st₂ h' => h.trans h'
      · exact fun _ st₂ h' => h.trans h'

theorem sync_snapshots : KeptThroughout st ((syncOpenOrders senv).exec st) := by
  refine Proc.exec_of_wp (P := KeptThroughout st) ?_
  unfold syncOpenOrders
  simp only [Proc.wp_bind]
  refine Proc.wp_ofExcept (fun _ _ => ?_) fun _ _ => .refl
  rw [Proc.wp_readSession]
  simp only [Tx.wp_bind, Tx.wp_get, Tx.wp_pure]
  exact Tx.wp_mayRaise (fun _ => syncOrders_snapshots) fun _ _ => .refl

/-! ### What calls keep -/

variable {P : Db → Prop}

theorem KeptThroughout.keeps (h : KeptThroughout st st₁) (hst : st.Keeps P)
    (hkept : ∀ db db', SnapshotsKept db db' → P db → P db') : st₁.Keeps P := by
  refine ⟨hkept _ _ h.current hst.1, fun db hdb => ?_⟩
  rcases h.history db hdb with hdb | hdb
  · exact hst.2 db hdb
  · exact hkept _ _ hdb hst.1

theorem StepSnapshots.keeps (h : StepSnapshots env executionStepId eventId st st₁) (hst : st.Keeps P)
    (hkept : ∀ db db', SnapshotsKept db db' → P db → P db')
    (htaken : ∀ stamp db', snapshotStamp env st.current executionStepId eventId = .ok stamp →
      TakesSnapshots executionStepId stamp st.current db' → P db') : st₁.Keeps P := by
  have hcurrent : P st₁.current := by
    cases hstamp : snapshotStamp env st.current executionStepId eventId with
    | ok stamp => exact htaken stamp _ hstamp (h.taken stamp hstamp)
    | error e => exact hkept _ _ (h.kept e hstamp) hst.1
  refine ⟨hcurrent, fun db hdb => ?_⟩
  rcases h.history db hdb with hdb | hdb | rfl
  · exact hst.2 db hdb
  · exact hkept _ _ hdb hst.1
  · exact hcurrent

theorem CallSnapshots.keeps {slot : DateTime} (h : CallSnapshots env eventId triggerType slot st st₁) (hst : st.Keeps P)
    (hkept : ∀ db db', SnapshotsKept db db' → P db → P db')
    (hcreate : P (st.current.addNextStep triggerType slot env.createdAt))
    (htaken : CreationAllowed env triggerType slot st.current → ∀ stamp db',
      snapshotStamp env (st.current.addNextStep triggerType slot env.createdAt) st.current.nextId eventId = .ok stamp →
      TakesSnapshots st.current.nextId stamp (st.current.addNextStep triggerType slot env.createdAt) db' → P db') :
    st₁.Keeps P := by
  by_cases hallowed : CreationAllowed env triggerType slot st.current
  · exact (h.created hallowed).keeps (hst.commit hcreate) hkept (htaken hallowed)
  · exact (h.refused hallowed).keeps hst hkept

/-- **What a call keeps of the snapshots**: what taking none keeps, creating a step, and a step that meets its
    condition taking them. -/
theorem call_keeps_snapshots {step : StepEnv → Option ℕ → ℕ → Db → Prop}
    {poll : Order → BrokerOrderResult → Db → Prop} {c : PaperCall} (hkeys : st.current.WellKeyed)
    (hst : st.Keeps P) (hkept : ∀ db db', SnapshotsKept db db' → P db → P db')
    (hcreate : ∀ triggerType slot now, P (st.current.addNextStep triggerType slot now))
    (htaken : ∀ env eventId triggerType slot stamp db',
      step env eventId st.current.nextId (st.current.addNextStep triggerType slot env.createdAt) →
      snapshotStamp env (st.current.addNextStep triggerType slot env.createdAt) st.current.nextId eventId = .ok stamp →
      TakesSnapshots st.current.nextId stamp (st.current.addNextStep triggerType slot env.createdAt) db' → P db')
    (hok : CallMeets step poll c st) : (c.exec st).Keeps P := by
  cases c with
  | nextStep env triggerType scheduledFor =>
      exact (nextStep_snapshots hkeys).keeps hst hkept (hcreate _ _ _)
        fun hallowed stamp db' => htaken env none _ _ stamp db' (hok hallowed)
  | eventStep env event scheduledFor =>
      exact (eventStep_snapshots hkeys).keeps hst hkept (hcreate _ _ _)
        fun hallowed stamp db' => htaken env (some event) _ _ stamp db' (hok hallowed)
  | sync env => exact sync_snapshots.keeps hst hkept

end

end TradingAI
