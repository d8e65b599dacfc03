import TradingAI.Execution.BrokerSync
import TradingAI.Execution.HistoricalStepRunner

/-!
# `Execution.AuditTrail` — how the rows of an experiment refer to each other

A decision refers to the market data it was made on, an agent's log to the decision it led to, a risk check
to the decision it judged, an order to the risk check that let it through, and a trade to its order. A step
that is completed has a risk check, and a snapshot of the portfolio and of the metrics. Rows are inserted in
this order, so every insertion keeps `AuditTrail`.

## Contents
- `AuditTrail`; `Db.Sees`, `Db.Decides`, `Db.Clears`: the row a reference leads to.
- What each operation on the rows asks for (`addDecision`, `addRiskCheck`, `addOrder`, `completeStep`, …).
-/

namespace TradingAI

/-! ## The invariant -/

/-- A risk check that lets an order through. -/
def RiskCheck.Permits (r : RiskCheck) : Prop := r.approved = true ∧ (r.finalAction = .buy ∨ r.finalAction = .sell)

/-- The market data, the decision and the risk check of a step under a key. -/
def Db.Sees (db : Db) (executionStepId id : ℕ) : Prop :=
  ∃ m ∈ db.marketData, m.id = id ∧ m.executionStepId = executionStepId

def Db.Decides (db : Db) (executionStepId id : ℕ) : Prop :=
  ∃ d ∈ db.decisions, d.id = id ∧ d.executionStepId = executionStepId

def Db.Clears (db : Db) (executionStepId id : ℕ) : Prop :=
  ∃ r ∈ db.riskChecks, r.id = id ∧ r.executionStepId = executionStepId ∧ r.Permits

/-- The rows that a completed step leaves: a risk check and the two snapshots. -/
def Db.Documents (db : Db) (executionStepId : ℕ) : Prop :=
  (∃ r ∈ db.riskChecks, r.executionStepId = executionStepId) ∧
    (∃ p ∈ db.portfolioSnapshots, p.executionStepId = executionStepId) ∧
    ∃ m ∈ db.metricSnapshots, m.executionStepId = executionStepId

/-- **The audit trail.** Every reference leads to a row of the same step. -/
structure AuditTrail (db : Db) : Prop where
  decisions  : ∀ d ∈ db.decisions, db.Sees d.executionStepId d.marketDataSnapshotId
  agentLogs  : ∀ l ∈ db.agentLogs, db.Decides l.executionStepId l.tradingDecisionId
  riskChecks : ∀ r ∈ db.riskChecks, db.Decides r.executionStepId r.tradingDecisionId
  orders     : ∀ o ∈ db.orders, db.Clears o.executionStepId o.riskCheckId
  trades     : ∀ t ∈ db.trades, ∃ o ∈ db.orders,
    o.id = t.orderId ∧ o.executionStepId = t.executionStepId ∧ o.symbol = t.symbol ∧ o.side = t.side
  completed  : ∀ s ∈ db.steps, s.status = .completed → db.Documents s.id

variable {db db' : Db} {executionStepId : ℕ}

namespace AuditTrail

/-! ## The initial rows -/

/-- An experiment without steps and artifacts. -/
theorem initial (hsteps : db.steps = []) (hdecisions : db.decisions = []) (hlogs : db.agentLogs = [])
    (hchecks : db.riskChecks = []) (horders : db.orders = []) (htrades : db.trades = []) : AuditTrail db := by
  refine ⟨?_, ?_, ?_, ?_, ?_, ?_⟩
  · rw [hdecisions]; exact List.forall_mem_nil _
  · rw [hlogs]; exact List.forall_mem_nil _
  · rw [hchecks]; exact List.forall_mem_nil _
  · rw [horders]; exact List.forall_mem_nil _
  · rw [htrades]; exact List.forall_mem_nil _
  · rw [hsteps]; exact List.forall_mem_nil _

/-! ## Insertions -/

theorem addMarketData (h : AuditTrail db) (row : MarketDataSnapshot) : AuditTrail (db.addMarketData row) where
  decisions d hd := by
    obtain ⟨m, hm, href⟩ := h.decisions d hd
    exact ⟨m, List.mem_append_left _ hm, href⟩
  agentLogs  := h.agentLogs
  riskChecks := h.riskChecks
  orders     := h.orders
  trades     := h.trades
  completed  := h.completed

theorem addDecision (h : AuditTrail db) {row : TradingDecision}
    (hsees : db.Sees row.executionStepId row.marketDataSnapshotId) : AuditTrail (db.addDecision row) where
  decisions d hd := by
    rcases List.mem_append.mp hd with hd | hd
    · exact h.decisions d hd
    · rw [List.mem_singleton.mp hd]
      exact hsees
  agentLogs l hl := by
    obtain ⟨d, hd, href⟩ := h.agentLogs l hl
    exact ⟨d, List.mem_append_left _ hd, href⟩
  riskChecks r hr := by
    obtain ⟨d, hd, href⟩ := h.riskChecks r hr
    exact ⟨d, List.mem_append_left _ hd, href⟩
  orders    := h.orders
  trades    := h.trades
  completed := h.completed

theorem addAgentLogs (h : AuditTrail db) {tradingDecisionId : ℕ}
    (hdecides : db.Decides executionStepId tradingDecisionId) (mode : AgentMode)
    (payloads : List AgentDecisionLogPayload) (now : DateTime) :
    AuditTrail (db.addAgentLogs executionStepId tradingDecisionId mode payloads now) where
  decisions := h.decisions
  agentLogs l hl := by
    rcases List.mem_append.mp hl with hl | hl
    · exact h.agentLogs l hl
    · -- every payload is filed under the one decision
      obtain ⟨_, _, rfl⟩ := List.mem_mapIdx.mp hl
      exact hdecides
  riskChecks := h.riskChecks
  orders     := h.orders
  trades     := h.trades
  completed  := h.completed

theorem addRiskCheck (h : AuditTrail db) {row : RiskCheck}
    (hdecides : db.Decides row.executionStepId row.tradingDecisionId) : AuditTrail (db.addRiskCheck row) where
  decisions := h.decisions
  agentLogs := h.agentLogs
  riskChecks r hr := by
    rcases List.mem_append.mp hr with hr | hr
    · exact h.riskChecks r hr
    · rw [List.mem_singleton.mp hr]
      exact hdecides
  orders o ho := by
    obtain ⟨r, hr, href⟩ := h.orders o ho
    exact ⟨r, List.mem_append_left _ hr, href⟩
  trades := h.trades
  completed s hs hdone := by
    obtain ⟨⟨r, hr, hstep⟩, hportfolio, hmetrics⟩ := h.completed s hs hdone
    exact ⟨⟨r, List.mem_append_left _ hr, hstep⟩, hportfolio, hmetrics⟩

theorem addOrder (h : AuditTrail db) {order : Order}
    (hclears : db.Clears order.executionStepId order.riskCheckId) : AuditTrail (db.addOrder order) where
  decisions  := h.decisions
  agentLogs  := h.agentLogs
  riskChecks := h.riskChecks
  orders o ho := by
    rcases List.mem_append.mp ho with ho | ho
    · exact h.orders o ho
    · rw [List.mem_singleton.mp ho]
      exact hclears
  trades t ht := by
    obtain ⟨o, ho, href⟩ := h.trades t ht
    exact ⟨o, List.mem_append_left _ ho, href⟩
  completed := h.completed

/-- What a trade asks for is what its row says, under the key of its order. -/
theorem addTrade (h : AuditTrail db) {trade : Trade} {orderId : ℕ} (horder : ∃ o ∈ db.orders, o.id = orderId ∧
      o.executionStepId = trade.executionStepId ∧ o.symbol = trade.symbol ∧ o.side = trade.side) :
    AuditTrail (db.addTrade trade orderId) where
  decisions  := h.decisions
  agentLogs  := h.agentLogs
  riskChecks := h.riskChecks
  orders     := h.orders
  trades t ht := by
    rcases List.mem_append.mp ht with ht | ht
    · exact h.trades t ht
    · rw [List.mem_singleton.mp ht]
      exact horder
  completed := h.completed

theorem addSnapshots (h : AuditTrail db) (p : PortfolioSnapshot) (m : MetricSnapshot) :
    AuditTrail (db.addSnapshots p m) where
  decisions  := h.decisions
  agentLogs  := h.agentLogs
  riskChecks := h.riskChecks
  orders     := h.orders
  trades     := h.trades
  completed s hs hdone := by
    obtain ⟨hcheck, ⟨p', hp, hpstep⟩, m', hm, hmstep⟩ := h.completed s hs hdone
    exact ⟨hcheck, ⟨p', List.mem_append_left _ hp, hpstep⟩, m', List.mem_append_left _ hm, hmstep⟩

/-! ## Updates -/

theorem insertStep (h : AuditTrail db) (t : TriggerType) (scheduledFor now : DateTime) (n : ℕ) :
    AuditTrail (db.insertStep t scheduledFor now n) where
  decisions  := h.decisions
  agentLogs  := h.agentLogs
  riskChecks := h.riskChecks
  orders     := h.orders
  trades     := h.trades
  completed s hs hdone := by
    rcases List.mem_append.mp hs with hs | hs
    · exact h.completed s hs hdone
    · -- a new step is running
      rw [List.mem_singleton.mp hs] at hdone
      cases hdone

theorem updateStep (h : AuditTrail db) {f : ExecutionStep → ExecutionStep} (hid : ∀ s, (f s).id = s.id)
    (hdone : ∀ s, (f s).status = .completed → db.Documents executionStepId) :
    AuditTrail (db.updateStep executionStepId f) where
  decisions  := h.decisions
  agentLogs  := h.agentLogs
  riskChecks := h.riskChecks
  orders     := h.orders
  trades     := h.trades
  completed s hs hcompleted := by
    obtain ⟨s', hs', rfl⟩ := List.mem_map.mp hs
    have hdocuments : db.Documents s'.id := by
      by_cases heq : s'.id = executionStepId
      · rw [if_pos heq] at hcompleted
        exact heq ▸ hdone s' hcompleted
      · rw [if_neg heq] at hcompleted
        exact h.completed s' hs' hcompleted
    have hkey : (if s'.id = executionStepId then f s' else s').id = s'.id := by
      split
      · exact hid s'
      · rfl
    rw [hkey]
    exact hdocuments

/-- A documented step may be completed. -/
theorem completeStep (h : AuditTrail db) (hdocuments : db.Documents executionStepId) (now : DateTime) :
    AuditTrail (db.updateStep executionStepId (·.completedStep now)) :=
  h.updateStep (fun _ => rfl) fun _ _ => hdocuments

/-- Any step may fail. -/
theorem failStep (h : AuditTrail db) (now : DateTime) (message : String) :
    AuditTrail (db.updateStep executionStepId (·.failedStep now message)) :=
  h.updateStep (fun _ => rfl) fun _ hdone => by cases hdone

theorem writePortfolio (h : AuditTrail db) (p : Portfolio) (tradeId : Option ℕ) :
    AuditTrail (db.writePortfolio p tradeId) where
  decisions  := h.decisions
  agentLogs  := h.agentLogs
  riskChecks := h.riskChecks
  orders     := h.orders
  trades t ht := by
    obtain ⟨t', ht', rfl⟩ := List.mem_map.mp ht
    obtain ⟨o, ho, hid, hstep, hsymbol, hside⟩ := h.trades t' ht'
    refine ⟨o, ho, ?_⟩
    split
    · exact ⟨hid, hstep, hsymbol, hside⟩
    · exact ⟨hid, hstep, hsymbol, hside⟩
  completed  := h.completed

/-- A report may change an order, but not what it refers to. -/
theorem updateOrder (h : AuditTrail db) (orderId : ℕ) {f : Order → Order}
    (hf : ∀ o, (f o).id = o.id ∧ (f o).riskCheckId = o.riskCheckId ∧ (f o).executionStepId = o.executionStepId ∧
      (f o).symbol = o.symbol ∧ (f o).side = o.side) : AuditTrail (db.updateOrder orderId f) := by
  have hsame : ∀ o : Order, (if o.id = orderId then f o else o).id = o.id ∧
      (if o.id = orderId then f o else o).riskCheckId = o.riskCheckId ∧
      (if o.id = orderId then f o else o).executionStepId = o.executionStepId ∧
      (if o.id = orderId then f o else o).symbol = o.symbol ∧ (if o.id = orderId then f o else o).side = o.side := by
    intro o
    split
    · exact hf o
    · exact ⟨rfl, rfl, rfl, rfl, rfl⟩
  refine ⟨h.decisions, h.agentLogs, h.riskChecks, fun o ho => ?_, fun t ht => ?_, h.completed⟩
  · obtain ⟨o', ho', rfl⟩ := List.mem_map.mp ho
    rw [(hsame o').2.1, (hsame o').2.2.1]
    exact h.orders o' ho'
  · obtain ⟨o, ho, hid, hstep, hsymbol, hside⟩ := h.trades t ht
    obtain ⟨hid', -, hstep', hsymbol', hside'⟩ := hsame o
    exact ⟨_, List.mem_map_of_mem ho, hid'.trans hid, hstep'.trans hstep, hsymbol'.trans hsymbol, hside'.trans hside⟩

end AuditTrail

/-! ## Rows outside the trail -/

/-- The tables of the trail are left alone. -/
structure SameTrail (db db' : Db) : Prop where
  steps              : db'.steps = db.steps
  marketData         : db'.marketData = db.marketData
  decisions          : db'.decisions = db.decisions
  agentLogs          : db'.agentLogs = db.agentLogs
  riskChecks         : db'.riskChecks = db.riskChecks
  orders             : db'.orders = db.orders
  trades             : db'.trades = db.trades
  portfolioSnapshots : db'.portfolioSnapshots = db.portfolioSnapshots
  metricSnapshots    : db'.metricSnapshots = db.metricSnapshots

theorem AuditTrail.same (h : AuditTrail db) (hsame : SameTrail db db') : AuditTrail db' := by
  obtain ⟨hsteps, hmarket, hdecisions, hlogs, hchecks, horders, htrades, hportfolios, hmetrics⟩ := hsame
  have hsees : ∀ s id, db.Sees s id → db'.Sees s id := by
    intro s id hs
    unfold Db.Sees
    rw [hmarket]
    exact hs
  have hdecides : ∀ s id, db.Decides s id → db'.Decides s id := by
    intro s id hs
    unfold Db.Decides
    rw [hdecisions]
    exact hs
  have hclears : ∀ s id, db.Clears s id → db'.Clears s id := by
    intro s id hs
    unfold Db.Clears
    rw [hchecks]
    exact hs
  refine ⟨?_, ?_, ?_, ?_, ?_, ?_⟩
  · rw [hdecisions]
    exact fun d hd => hsees _ _ (h.decisions d hd)
  · rw [hlogs]
    exact fun l hl => hdecides _ _ (h.agentLogs l hl)
  · rw [hchecks]
    exact fun r hr => hdecides _ _ (h.riskChecks r hr)
  · rw [horders]
    exact fun o ho => hclears _ _ (h.orders o ho)
  · rw [htrades, horders]
    exact h.trades
  · unfold Db.Documents
    rw [hsteps, hchecks, hportfolios, hmetrics]
    exact h.completed

theorem SameTrail.markEvent (db : Db) (e : Option ℕ) (s d : ℕ) (now : DateTime) : SameTrail db (db.markEvent e s d now) := by
  unfold Db.markEvent Db.markEventDecision
  split
  · split <;> exact ⟨rfl, rfl, rfl, rfl, rfl, rfl, rfl, rfl, rfl⟩
  · exact ⟨rfl, rfl, rfl, rfl, rfl, rfl, rfl, rfl, rfl⟩

theorem AuditTrail.addSystemEvent (h : AuditTrail db) (event : SystemEventLog) : AuditTrail (db.addSystemEvent event) :=
  h.same ⟨rfl, rfl, rfl, rfl, rfl, rfl, rfl, rfl, rfl⟩

theorem AuditTrail.addBrokerSyncLog (h : AuditTrail db) (log : BrokerSyncLog) : AuditTrail (db.addBrokerSyncLog log) :=
  h.same ⟨rfl, rfl, rfl, rfl, rfl, rfl, rfl, rfl, rfl⟩

theorem AuditTrail.failExperiment (h : AuditTrail db) (now : DateTime) : AuditTrail (db.failExperiment now) :=
  h.same ⟨rfl, rfl, rfl, rfl, rfl, rfl, rfl, rfl, rfl⟩

theorem AuditTrail.setStatus (h : AuditTrail db) (status : ExperimentStatus) (now : DateTime) :
    AuditTrail (db.setStatus status now) :=
  h.same ⟨rfl, rfl, rfl, rfl, rfl, rfl, rfl, rfl, rfl⟩

/-! ## Recorded failures -/

theorem AuditTrail.recordFailure (h : AuditTrail db) (step : Option ℕ) (f : FailureRecord) (now : DateTime) :
    AuditTrail (db.recordFailure step f now) := by
  have hexperiment {db : Db} (h : AuditTrail db) : AuditTrail (if f.failExperiment then db.failExperiment now else db) := by
    split
    · exact h.failExperiment now
    · exact h
  unfold Db.recordFailure
  cases step with
  | none =>
      dsimp only
      split
      · exact h
      · exact (hexperiment h).addSystemEvent _
  | some id =>
      have hfailed : AuditTrail (db.updateStep id (·.failedStep now f.message)) := h.failStep now f.message
      dsimp only
      split
      · exact hfailed
      · split
        · exact ((hexperiment hfailed).addSystemEvent _).addBrokerSyncLog _
        · exact (hexperiment hfailed).addSystemEvent _

theorem AuditTrail.recordHistoricalFailure (h : AuditTrail db) (message : String) (step : Option ℕ) (e : Raised)
    (now : DateTime) : AuditTrail (db.recordHistoricalFailure message step e now) := by
  have hfailed : AuditTrail (db.failStep step now message) := by
    cases step with
    | none    => exact h
    | some id => exact h.failStep now message
  unfold Db.recordHistoricalFailure
  dsimp only
  split
  · exact hfailed
  · exact (hfailed.setStatus _ _).addSystemEvent _

theorem AuditTrail.completeExperiment (h : AuditTrail db) (now : DateTime) : AuditTrail (db.completeExperiment now) :=
  (h.setStatus _ _).addSystemEvent _

end TradingAI
