import TradingAI.Execution.PaperStepRunner
import TradingAI.Lib.Outcome

/-!
# `Execution.StepPlan` — what a step will do, read off its inputs

A branch of the paper runner mixes three things: what it asks of the outside, what it computes, and the
rows it writes. Here the first two are kept and the third is dropped. `stepPlan` is the risk check a step
arrives at, or the first exception on the way; `artifactsSpec` ties every branch's transaction to it, and
says what the transaction leaves of the tables that trading depends on (`Db.core`).

## Contents
- `Core`: the tables trading depends on.
- `dailyPlan`, `orbPlan`, `agenticPlan`, `stepPlan`, `settleOutcome`.
- `Prepared`, `Concluded`: how a branch leaves the core.
- `dailyArtifacts_spec`, `orbArtifacts_spec`, `agenticArtifacts_spec`.
-/

namespace TradingAI

open Session Outcome

/-! ## The tables trading depends on -/

/-- The part of the database that decides what a step trades and what its trades do. -/
structure Core where
  experimentId   : ℕ
  experiment     : Option Experiment
  strategyConfig : Option StrategyConfig
  portfolio      : Option PortfolioRow
  steps          : List ExecutionStep
  marketData     : List MarketDataSnapshot
  orders         : List Order
  trades         : List Trade
  newsEvents     : List NewsEvent

def Db.core (db : Db) : Core where
  experimentId   := db.experimentId
  experiment     := db.experiment
  strategyConfig := db.strategyConfig
  portfolio      := db.portfolio
  steps          := db.steps
  marketData     := db.marketData
  orders         := db.orders
  trades         := db.trades
  newsEvents     := db.newsEvents

section
variable (db : Db)

@[simp] theorem Db.core_addDecision (row : TradingDecision) : (db.addDecision row).core = db.core := rfl

@[simp] theorem Db.core_addRiskCheck (row : RiskCheck) : (db.addRiskCheck row).core = db.core := rfl

@[simp] theorem Db.core_addAgentLogs (s d : ℕ) (m : AgentMode) (ps : List AgentDecisionLogPayload)
    (now : DateTime) : (db.addAgentLogs s d m ps now).core = db.core := rfl

@[simp] theorem Db.core_markEvent (e : Option ℕ) (s d : ℕ) (now : DateTime) :
    (db.markEvent e s d now).core = db.core := by
  unfold Db.markEvent Db.markEventDecision
  split
  · split <;> rfl
  · rfl

theorem Db.nextId_addMarketData (row : MarketDataSnapshot) :
    (db.addMarketData row).nextId = db.nextId + 1 := rfl

theorem Db.nextId_addDecision (row : TradingDecision) : (db.addDecision row).nextId = db.nextId + 1 := rfl

theorem Db.nextId_addAgentLogs (s d : ℕ) (m : AgentMode) (ps : List AgentDecisionLogPayload)
    (now : DateTime) : (db.addAgentLogs s d m ps now).nextId = db.nextId + ps.length := rfl

/-- How many rows marking the decision of an event adds: one, if there is none for it yet. -/
def Db.newEventRows (eventId : Option ℕ) : ℕ :=
  match eventId with
  | some eventId => if db.eventDecisions.any (·.eventId = eventId) then 0 else 1
  | none         => 0

theorem Db.nextId_markEvent (e : Option ℕ) (s d : ℕ) (now : DateTime) :
    (db.markEvent e s d now).nextId = db.nextId + db.newEventRows e := by
  cases e with
  | none => rfl
  | some eventId =>
      show (db.markEventDecision eventId s d now).nextId =
        db.nextId + if db.eventDecisions.any (·.eventId = eventId) then 0 else 1
      unfold Db.markEventDecision
      split <;> rfl

@[simp] theorem Db.core_addMarketData (row : MarketDataSnapshot) :
    (db.addMarketData row).core = { db.core with marketData := db.marketData ++ [row] } := rfl

/-- A step update touches the steps only. -/
theorem Db.core_updateStep (id : ℕ) (f : ExecutionStep → ExecutionStep) :
    (db.updateStep id f).core =
      { db.core with steps := db.steps.map fun s => if s.id = id then f s else s } := rfl

@[simp] theorem Db.core_addSystemEvent (event : SystemEventLog) :
    (db.addSystemEvent event).core = db.core := rfl

@[simp] theorem Db.core_addBrokerSyncLog (log : BrokerSyncLog) :
    (db.addBrokerSyncLog log).core = db.core := rfl

@[simp] theorem Db.core_addSnapshots (p : PortfolioSnapshot) (m : MetricSnapshot) :
    (db.addSnapshots p m).core = db.core := rfl

end

/-! ## Plans -/

/-- How an operation that may fail ends. -/
def outcomeOf (fault : Option Raised) : Except Raised Unit :=
  match fault with
  | none   => .ok ()
  | some e => .error e

theorem outcomeOf_none {fault : Option Raised} (h : fault = none) : outcomeOf fault = .ok () := by
  rw [h]; rfl

theorem outcomeOf_some {fault : Option Raised} {e : Raised} (h : fault = some e) :
    outcomeOf fault = .error e := by
  rw [h]; rfl

theorem ok_bind {α β : Type} (a : α) (f : α → Except Raised β) : (Except.ok a >>= f) = f a := rfl

/-- What `loadRows` finds, or the exception that it is missing. -/
def loadedRows {α : Type} (env : StepEnv) (db : Db) (o : DbOp) (rows : Db → Option α) :
    Except Raised α := do
  outcomeOf (env.fault o)
  match rows db with
  | some a => .ok a
  | none   => .error (missingState db.experimentId)

/-- The loaded state of a branch. -/
def loadedState (env : StepEnv) (db : Db) (executionStepId : ℕ) : Except Raised StepState :=
  loadedRows env db .loadState (·.stepState executionStepId)

/-- `_run_daily_step_artifacts` up to its risk check. -/
def dailyPlan (env : StepEnv) (db : Db) (executionStepId : ℕ) : Except Raised Submission := do
  let st ← loadedState env db executionStepId
  let bar ← env.latestBar st.experiment.assetSymbol
  let movingAverage ← movingAverageForStep env st.experiment st.config bar
  outcomeOf (env.fault .flushMarketData)
  outcomeOf (env.fault .flushDecision)
  let decision :=
    decideDaily st.experiment st.portfolio.load bar.adjustedClose movingAverage st.config.window
  outcomeOf (env.fault .flushRiskCheck)
  .ok { riskResult := dailyRiskResult st.experiment decision st.portfolio.load bar.adjustedClose
        riskCheckId := db.nextId + 2, price := bar.adjustedClose, symbol := st.experiment.assetSymbol }

/-- The last session of `_run_orb_step_artifacts` up to its risk check. -/
def orbTailPlan (env : StepEnv) (db : Db) (executionStepId : ℕ) (symbol : String) (bar : IntradayBar)
    (state : OpeningRangeBreakoutState) : Except Raised Submission := do
  let st ← loadedState env db executionStepId
  outcomeOf (env.fault .flushMarketData)
  outcomeOf (env.fault .flushDecision)
  let decision := OpeningRangeBreakoutStrategy.decide symbol bar.close
    st.portfolio.load.positionQuantity state
  outcomeOf (env.fault .flushRiskCheck)
  .ok { riskResult := evaluate decision st.portfolio.load bar.close
        riskCheckId := db.nextId + 2, price := bar.close, symbol }

/-- The context the agent of a step is given. -/
def agentContext (env : StepEnv) (db : Db) (executionStepId : ℕ) (eventId : Option ℕ) (st : StepState)
    (bar : DailyBar) : AgentContext where
  experimentId          := db.experimentId
  executionStepId       := executionStepId
  symbol                := st.experiment.assetSymbol
  bar                   := bar
  cash                  := st.portfolio.load.cash
  positionQuantity      := st.portfolio.load.positionQuantity
  currentPortfolioValue := st.portfolio.load.currentPortfolioValue
  confidenceThreshold   := st.config.confidenceThreshold.map (·.val)
  parametersJson        := st.config.parametersJson
  agentMode             := st.config.agentMode.getD .singleAgent
  modelName             := some (selectedModel env st.config)
  eventContext          := eventContext db eventId

/-- `_run_agentic_ai_step_artifacts` up to its risk check. -/
def agenticPlan (env : StepEnv) (db : Db) (executionStepId : ℕ) (eventId : Option ℕ) :
    Except Raised Submission := do
  let st ← loadedState env db executionStepId
  let bar ← agentMarketBar env st.experiment st.step
  env.createAgentStrategy (selectedModel env st.config) (st.config.agentMode.getD .singleAgent)
  outcomeOf (env.fault .flushMarketData)
  outcomeOf (env.faultIf eventId.isSome .loadEvent)
  let result ← env.agentDecide (agentContext env db executionStepId eventId st bar)
  outcomeOf (env.fault .flushDecision)
  outcomeOf (env.fault .flushAgentLogs)
  outcomeOf (env.faultIf eventId.isSome .loadEventDecision)
  outcomeOf (env.fault .flushRiskCheck)
  .ok { riskResult := evaluateTargetExposure result.decision st.portfolio.load bar.adjustedClose
        riskCheckId := db.nextId + 2 + result.payloads.length + db.newEventRows eventId
        price := bar.adjustedClose, symbol := st.experiment.assetSymbol }

/-- Whether taking the snapshots of a step with the portfolio value `value`, and committing it, raises. -/
def snapshotOutcome (env : StepEnv) (initialCapital value : ℚ) : Except Raised Unit := do
  outcomeOf (env.fault .listSnapshots)
  outcomeOf (env.fault .countTrades)
  if initialCapital = 0 then .error (BasicMetricCalculator.divisionError (quantize4 (value - initialCapital)))
  outcomeOf (env.fault .commitResult)

/-- Whether the end of a branch raises, by what it does: hand the risk check on, or take the snapshots. -/
def settleOutcome (env : StepEnv) (initialCapital value : ℚ) (riskResult : RiskResult) : Except Raised Unit :=
  if requiresBrokerSubmission riskResult then outcomeOf (env.fault .commitRiskCheck)
  else snapshotOutcome env initialCapital value

/-! ## How a branch leaves the core -/

/-- Nothing but one market data row for the step was added. -/
structure Prepared (executionStepId : ℕ) (price : ℚ) (db db' : Db) : Prop where
  core   : ∃ row : MarketDataSnapshot, row.executionStepId = executionStepId ∧
    row.price = some (numeric 8 price) ∧
    db'.core = { db.core with marketData := db.marketData ++ [row] }
  nextId : db.nextId ≤ db'.nextId

/-- As `Prepared`, and the step was completed with the portfolio marked to the price. -/
structure Concluded (executionStepId : ℕ) (price : ℚ) (db db' : Db) : Prop where
  core   : ∃ (row : MarketDataSnapshot) (st : StepState) (timestamp now : DateTime),
    db.stepState executionStepId = some st ∧ row.executionStepId = executionStepId ∧
    row.price = some (numeric 8 price) ∧
    db'.core = { db.core with
      marketData := db.marketData ++ [row]
      portfolio := some (st.portfolio.load.markedTo price timestamp).row
      steps := (db.updateStep executionStepId (·.completedStep now)).steps }
  nextId : db.nextId ≤ db'.nextId

/-- How a branch leaves the database that hands its plan `p` on; the key of its risk check is new. -/
structure Submitted (executionStepId : ℕ) (p : Submission) (db db' : Db) : Prop where
  requires : requiresBrokerSubmission p.riskResult = true
  fresh    : db.nextId ≤ p.riskCheckId
  drawn    : p.riskCheckId < db'.nextId
  prepared : Prepared executionStepId p.price db db'

/-- How a branch ends that reached the plan `p`: it hands `p` on, or concludes the step. -/
def Settled (executionStepId : ℕ) (p : Submission) (submission : Option Submission) (db db' : Db) : Prop :=
  match submission with
  | some s => s = p ∧ Submitted executionStepId p db db'
  | none   => requiresBrokerSubmission p.riskResult = false ∧ Concluded executionStepId p.price db db'

/-! ## The parts of a branch -/

variable {env : StepEnv} {executionStepId : ℕ} {db : Db} {book : BrokerBook}
variable {E : Raised → BrokerBook → Prop}

theorem wp_loadRows {α : Type} {o : DbOp} {rows : Db → Option α} {Q : α → Db → BrokerBook → Prop}
    (hok : ∀ a, loadedRows env db o rows = .ok a → rows db = some a → Q a db book)
    (herr : ∀ e, loadedRows env db o rows = .error e → E e book) :
    (loadRows env o rows).wp Q E db book := by
  unfold loadRows
  simp only [Tx.wp_bind, Tx.wp_get]
  refine Tx.wp_mayRaise (fun hf => ?_) fun e hf => herr e (by rw [loadedRows, outcomeOf_some hf]; rfl)
  refine Tx.wp_expect (fun a ha => hok a ?_ ha) fun hnone => herr _ ?_
  · rw [loadedRows, outcomeOf_none hf, ok_bind, ha]
  · rw [loadedRows, outcomeOf_none hf, ok_bind, hnone]

/-- Taking the snapshots, changing more rows by `f`, and committing. -/
theorem wp_persistSnapshotAndMetrics {experiment : Experiment} {portfolio : Portfolio} {price : ℚ}
    {timestamp : DateTime} {tradeId : Option ℕ} {f : Db → Db} {Q : Unit → Db → BrokerBook → Prop}
    (hok : snapshotOutcome env experiment.initialCapital.val (portfolioValueAt portfolio price) = .ok () →
      ∀ db', db'.core = (db.writePortfolio (portfolio.markedTo price timestamp) tradeId).core →
        db.nextId ≤ db'.nextId → Q () (f db') book)
    (herr : ∀ e, snapshotOutcome env experiment.initialCapital.val (portfolioValueAt portfolio price) = .error e →
      E e book) :
    (persistSnapshotAndMetrics env executionStepId experiment portfolio price timestamp tradeId).wp
      (fun _ db' book' => (env.op .commitResult).wp Q E (f db') book') E db book := by
  unfold persistSnapshotAndMetrics
  simp only [Tx.wp_bind, Tx.wp_get, Tx.wp_modify]
  refine Tx.wp_mayRaise (fun hl => ?_) fun e hl => herr e (by rw [snapshotOutcome, outcomeOf_some hl]; rfl)
  refine Tx.wp_mayRaise (fun hc => ?_) fun e hc =>
    herr e (by rw [snapshotOutcome, outcomeOf_none hl, ok_bind, outcomeOf_some hc]; rfl)
  have hrest : snapshotOutcome env experiment.initialCapital.val (portfolioValueAt portfolio price) =
      if experiment.initialCapital.val = 0 then
        .error (BasicMetricCalculator.divisionError
          (quantize4 (portfolioValueAt portfolio price - experiment.initialCapital.val)))
      else outcomeOf (env.fault .commitResult) := by
    rw [snapshotOutcome, outcomeOf_none hl, ok_bind, outcomeOf_none hc, ok_bind]
    split <;> rfl
  rw [hrest] at hok herr
  by_cases hcap : experiment.initialCapital.val = 0
  · rw [BasicMetricCalculator.calculate, if_pos hcap, Tx.wp_ofExcept_error]
    exact herr _ (if_pos hcap)
  · rw [BasicMetricCalculator.calculate, if_neg hcap, Tx.wp_ofExcept_ok]
    refine Tx.wp_mayRaise (fun hr => ?_) fun e hr => herr e (by rw [if_neg hcap, outcomeOf_some hr])
    exact hok (by rw [if_neg hcap, outcomeOf_none hr]) _ rfl (Nat.le_add_right _ 2)

/-- Writing a loaded portfolio back when the step made no trade touches no trade. -/
theorem core_writePortfolio_none (db : Db) (p : Portfolio) :
    (db.writePortfolio p none).core = { db.core with portfolio := some p.row } := by
  simp [Db.core, Db.writePortfolio]

theorem wp_settle {st : StepState} {decisionId : ℕ} {riskResult : RiskResult} {price : ℚ}
    {symbol : String} {timestamp : DateTime} {Q : Option Submission → Db → BrokerBook → Prop}
    (hsubmit : env.fault .flushRiskCheck = none → requiresBrokerSubmission riskResult = true →
      settleOutcome env st.experiment.initialCapital.val (portfolioValueAt st.portfolio.load price) riskResult = .ok () →
      ∀ db', db'.core = db.core → db'.nextId = db.nextId + 1 →
        Q (some ⟨riskResult, db.nextId, price, symbol⟩) db' book)
    (hdone : env.fault .flushRiskCheck = none → requiresBrokerSubmission riskResult = false →
      settleOutcome env st.experiment.initialCapital.val (portfolioValueAt st.portfolio.load price) riskResult = .ok () →
      ∀ db', db'.core = { db.core with
          portfolio := some (st.portfolio.load.markedTo price timestamp).row
          steps := (db.updateStep executionStepId (·.completedStep env.startedAt)).steps } →
        db.nextId ≤ db'.nextId → Q none db' book)
    (hflush : ∀ e, env.fault .flushRiskCheck = some e → E e book)
    (hsettle : ∀ e, env.fault .flushRiskCheck = none →
      settleOutcome env st.experiment.initialCapital.val (portfolioValueAt st.portfolio.load price) riskResult = .error e → E e book) :
    (settle env executionStepId st decisionId riskResult price symbol timestamp).wp Q E db book := by
  unfold settle addRiskCheck
  simp only [Tx.wp_bind, Tx.wp_get, Tx.wp_modify]
  refine Tx.wp_mayRaise (fun hf => ?_) hflush
  rw [Tx.wp_pure]
  by_cases hreq : requiresBrokerSubmission riskResult = true
  · rw [if_pos hreq, Tx.wp_bind]
    refine Tx.wp_mayRaise (fun hc => ?_) fun e hc => hsettle e hf ?_
    · refine hsubmit hf hreq ?_ _ rfl rfl
      rw [settleOutcome, if_pos hreq, hc]; rfl
    · rw [settleOutcome, if_pos hreq, hc]; rfl
  · -- no submission: snapshots, then the step is completed
    have hreq' : requiresBrokerSubmission riskResult = false := by simpa using hreq
    rw [if_neg hreq, Tx.wp_bind]
    simp only [Tx.wp_bind, Tx.wp_modify]
    refine wp_persistSnapshotAndMetrics (fun hok db' hcore hnext => ?_) fun e he => hsettle e hf ?_
    · refine hdone hf hreq' (by rw [settleOutcome, if_neg hreq, hok]) _ ?_ ((Nat.le_succ _).trans hnext)
      rw [core_writePortfolio_none, Db.core_addRiskCheck] at hcore
      have hsteps : db'.steps = db.steps := congrArg Core.steps hcore
      rw [Db.core_updateStep, hsteps, hcore]
      rfl
    · rw [settleOutcome, if_neg hreq, he]

/-! ## The branches follow their plans -/

theorem Db.stepState_eq_some {st : StepState} (h : db.stepState executionStepId = some st) :
    db.experiment = some st.experiment ∧ db.portfolio = some st.portfolio ∧
      db.strategyConfig = some st.config ∧ db.getStep executionStepId = some st.step := by
  unfold Db.stepState at h
  split at h
  · next he hp hc hs => cases h; exact ⟨he, hp, hc, hs⟩
  · cases h

/-- The initial capital of the experiment, if there is one. -/
def Db.initialCapital (db : Db) : ℚ := db.experiment.elim 0 fun e => e.initialCapital.val

/-- The stored portfolio at a price, if there is one. -/
def Db.valueAt (db : Db) (price : ℚ) : ℚ := db.portfolio.elim 0 fun row => portfolioValueAt row.load price

/-- What a branch raises, if anything: on the way to its risk check, or after it. -/
def branchOutcome (env : StepEnv) (db : Db) (plan : Except Raised Submission) : Except Raised Unit := do
  let p ← plan
  settleOutcome env db.initialCapital (db.valueAt p.price) p.riskResult

/-- **A branch follows its plan**: it returns with the plan settled, or raises what the plan says. -/
def FollowsPlan (env : StepEnv) (executionStepId : ℕ) (plan : Except Raised Submission) (db : Db)
    (book : BrokerBook) (tx : DbTx (Option Submission)) (db₁ : Db) : Prop :=
  tx.wp
    (fun submission db' book' => book' = book ∧ branchOutcome env db plan = .ok () ∧
      ∃ p, plan = .ok p ∧ Settled executionStepId p submission db db')
    (fun e book' => book' = book ∧ branchOutcome env db plan = .error e) db₁ book

/-- Once the market data row is in, `settle` follows the plan. -/
theorem settle_follows {st : StepState} {decisionId : ℕ} {riskResult : RiskResult} {price : ℚ}
    {symbol : String} {timestamp : DateTime} {row : MarketDataSnapshot} {db₁ : Db}
    {plan : Except Raised Submission} (hst : db.stepState executionStepId = some st)
    (hcore : db₁.core = { db.core with marketData := db.marketData ++ [row] })
    (hrow : row.executionStepId = executionStepId) (hprice : row.price = some (numeric 8 price))
    (hnext : db.nextId ≤ db₁.nextId)
    (hplan : plan = do
      outcomeOf (env.fault .flushRiskCheck)
      .ok { riskResult, riskCheckId := db₁.nextId, price, symbol }) :
    FollowsPlan env executionStepId plan db book
      (settle env executionStepId st decisionId riskResult price symbol timestamp) db₁ := by
  obtain ⟨hexp, hport, -, -⟩ := Db.stepState_eq_some hst
  have hcap : db.initialCapital = st.experiment.initialCapital.val := by
    rw [Db.initialCapital, hexp]; rfl
  have hvalue : db.valueAt price = portfolioValueAt st.portfolio.load price := by
    rw [Db.valueAt, hport]; rfl
  subst hplan
  have hsteps : db₁.steps = db.steps := congrArg Core.steps hcore
  refine wp_settle ?_ ?_ ?_ ?_
  · intro hf hreq hok db' hc hn
    refine ⟨rfl, ?_, ⟨riskResult, db₁.nextId, price, symbol⟩, ?_, rfl, hreq, hnext,
      by rw [hn]; exact Nat.lt_succ_self _, ⟨row, hrow, hprice, hc.trans hcore⟩, by omega⟩
    · simp only [branchOutcome, outcomeOf, hf, ok_bind, hcap, hvalue]; exact hok
    · simp only [outcomeOf, hf]; rfl
  · intro hf hreq hok db' hc hn
    refine ⟨rfl, ?_, ⟨riskResult, db₁.nextId, price, symbol⟩, ?_, hreq, ⟨row, st, timestamp, env.startedAt, hst, hrow, hprice, ?_⟩,
      hnext.trans hn⟩
    · simp only [branchOutcome, outcomeOf, hf, ok_bind, hcap, hvalue]; exact hok
    · simp only [outcomeOf, hf]; rfl
    · rw [hc, hcore, Db.updateStep, hsteps]; rfl
  · intro e hf
    refine ⟨rfl, ?_⟩
    simp only [branchOutcome, outcomeOf, hf]; rfl
  · intro e hf he
    refine ⟨rfl, ?_⟩
    simp only [branchOutcome, outcomeOf, hf, ok_bind, hcap, hvalue]; exact he

/-! Following a plan one operation at a time: `plan` is what is left of it. -/

section
variable {α : Type} {plan : Except Raised Submission} {db₁ : Db}

/-- A plan that raises before its risk check makes its branch raise. -/
theorem branchOutcome_error {e : Raised} (h : plan = .error e) :
    branchOutcome env db plan = .error e := by
  rw [h]; rfl

theorem follow_mayRaise {fault : Option Raised} {f : Unit → Except Raised Submission}
    {Q : Unit → Db → BrokerBook → Prop} (hplan : (outcomeOf fault >>= f) = plan)
    (hok : f () = plan → Q () db₁ book) :
    (Tx.mayRaise fault).wp Q (fun e book' => book' = book ∧ branchOutcome env db plan = .error e)
      db₁ book := by
  refine Tx.wp_mayRaise (fun hf => hok ?_) fun e hf => ⟨rfl, branchOutcome_error ?_⟩
  · rw [← hplan, outcomeOf_none hf, ok_bind]
  · rw [← hplan, outcomeOf_some hf]; rfl

theorem follow_ofExcept {x : Except Raised α} {f : α → Except Raised Submission}
    {Q : α → Db → BrokerBook → Prop} (hplan : (x >>= f) = plan)
    (hok : ∀ a, f a = plan → Q a db₁ book) :
    (Tx.ofExcept x).wp Q (fun e book' => book' = book ∧ branchOutcome env db plan = .error e)
      db₁ book := by
  refine Tx.wp_ofExcept (fun a ha => hok a ?_) fun e he => ⟨rfl, branchOutcome_error ?_⟩
  · rw [← hplan, ha, ok_bind]
  · rw [← hplan, he]; rfl

theorem follow_loadState {f : StepState → Except Raised Submission} {Q : StepState → Db → BrokerBook → Prop}
    (hplan : (loadedState env db executionStepId >>= f) = plan)
    (hok : ∀ st, db.stepState executionStepId = some st → f st = plan → Q st db book) :
    (loadState env executionStepId).wp Q
      (fun e book' => book' = book ∧ branchOutcome env db plan = .error e) db book := by
  refine wp_loadRows (fun st hload hst => hok st hst ?_) fun e he => ⟨rfl, branchOutcome_error ?_⟩
  · rw [← hplan, loadedState, hload, ok_bind]
  · rw [← hplan, loadedState, he]; rfl

end

theorem dailyArtifacts_follows :
    FollowsPlan env executionStepId (dailyPlan env db executionStepId) db book
      (dailyArtifacts env executionStepId) db := by
  unfold FollowsPlan dailyArtifacts addMarketData addDecision
  simp only [Tx.wp_bind, Tx.wp_get, Tx.wp_modify, Tx.wp_pure]
  refine follow_loadState rfl fun st hst hplan => ?_
  refine follow_ofExcept hplan fun bar hplan => ?_
  refine follow_ofExcept hplan fun average hplan => ?_
  refine follow_mayRaise hplan fun hplan => ?_
  refine follow_mayRaise hplan fun hplan => ?_
  exact settle_follows hst (by rw [Db.core_addDecision, Db.core_addMarketData]) rfl rfl
    (Nat.le_add_right _ 2) hplan.symm

theorem orbArtifacts_follows {symbol : String} {bar : IntradayBar} {state : OpeningRangeBreakoutState} :
    FollowsPlan env executionStepId (orbTailPlan env db executionStepId symbol bar state) db book
      (orbArtifacts env executionStepId symbol bar state) db := by
  unfold FollowsPlan orbArtifacts addMarketData addDecision
  simp only [Tx.wp_bind, Tx.wp_get, Tx.wp_modify, Tx.wp_pure]
  refine follow_loadState rfl fun st hst hplan => ?_
  refine follow_mayRaise hplan fun hplan => ?_
  refine follow_mayRaise hplan fun hplan => ?_
  exact settle_follows hst (by rw [Db.core_addDecision, Db.core_addMarketData]) rfl rfl
    (Nat.le_add_right _ 2) hplan.symm

theorem agenticArtifacts_follows {eventId : Option ℕ} :
    FollowsPlan env executionStepId (agenticPlan env db executionStepId eventId) db book
      (agenticArtifacts env executionStepId eventId) db := by
  unfold FollowsPlan agenticArtifacts addMarketData addDecision addAgentLogs markEventDecisionTriggered
  simp only [Tx.wp_bind, Tx.wp_get, Tx.wp_modify, Tx.wp_pure]
  refine follow_loadState rfl fun st hst hplan => ?_
  refine follow_ofExcept hplan fun bar hplan => ?_
  refine follow_ofExcept hplan fun _ hplan => ?_
  refine follow_mayRaise hplan fun hplan => ?_
  refine follow_mayRaise hplan fun hplan => ?_
  refine follow_ofExcept hplan fun result hplan => ?_
  refine follow_mayRaise hplan fun hplan => ?_
  refine follow_mayRaise hplan fun hplan => ?_
  refine follow_mayRaise hplan fun hplan => ?_
  refine settle_follows hst
    (by rw [Db.core_markEvent, Db.core_addAgentLogs, Db.core_addDecision, Db.core_addMarketData])
    (by rfl) (by rfl) ?_ ?_
  · rw [Db.nextId_markEvent, Db.nextId_addAgentLogs, Db.nextId_addDecision, Db.nextId_addMarketData]
    omega
  · rw [Db.nextId_markEvent, Db.nextId_addAgentLogs, Db.nextId_addDecision, Db.nextId_addMarketData]
    exact hplan.symm

/-! ## The whole step -/

/-- What the first session of the ORB branch finds: the slot and the symbol. -/
def orbSlotPlan (env : StepEnv) (db : Db) (executionStepId : ℕ) : Except Raised (DateTime × String) := do
  outcomeOf (env.fault .loadSlot)
  match (db.getStep executionStepId).bind ExecutionStep.scheduledFor, db.experiment with
  | some scheduledFor, some experiment => .ok (scheduledFor, experiment.assetSymbol)
  | none, _ => .error (runtimeError "Scheduled ORB paper step is missing its slot.")
  | _, none => .error (missingState db.experimentId)

/-- `_run_orb_step_artifacts` up to its risk check. -/
def orbPlan (env : StepEnv) (db : Db) (executionStepId : ℕ) : Except Raised Submission := do
  let (scheduledFor, symbol) ← orbSlotPlan env db executionStepId
  let bars ← env.loadSessionUntil scheduledFor.date scheduledFor symbol
  let bar ← lastBar bars
  outcomeOf (env.fault .listTrades)
  orbTailPlan env db executionStepId symbol bar (orbState env db bars bar)

/-- The strategy `_run_step_artifacts` dispatches on. -/
def strategyPlan (env : StepEnv) (db : Db) : Except Raised StrategyType :=
  loadedRows env db .loadStrategyType fun db => db.experiment.map Experiment.strategyType

/-- **The plan of a step**: the risk check it arrives at and the price it is sized with. -/
def stepPlan (env : StepEnv) (db : Db) (executionStepId : ℕ) (eventId : Option ℕ) : Except Raised Submission := do
  match ← strategyPlan env db with
  | .openingRangeBreakout => orbPlan env db executionStepId
  | .agenticAi            => agenticPlan env db executionStepId eventId
  | _                     => dailyPlan env db executionStepId

/-- A session that only reads ends as its pure reading `x` does. -/
def Reads {α : Type} (tx : DbTx α) (x : Except Raised α) (db : Db) (book : BrokerBook) : Prop :=
  tx.wp (fun a _ book' => book' = book ∧ x = .ok a) (fun e book' => book' = book ∧ x = .error e) db book

theorem wp_readSession_of_reads {α : Type} {tx : DbTx α} {x : Except Raised α} {st : Store Db BrokerBook}
    {Q : α → Store Db BrokerBook → Prop} {E : Raised → Store Db BrokerBook → Prop}
    (h : Reads tx x st.current st.world) (hok : ∀ a, x = .ok a → Q a st)
    (herr : ∀ e, x = .error e → E e st) : (Proc.readSession tx).wp Q E st := by
  rw [Proc.wp_readSession]
  refine Tx.wp_mono h ?_ ?_
  · rintro a _ _ ⟨rfl, hx⟩; exact hok a hx
  · rintro e _ ⟨rfl, hx⟩; exact herr e hx

theorem loadStrategyType_reads : Reads (loadStrategyType env) (strategyPlan env db) db book :=
  wp_loadRows (fun _ ha _ => ⟨rfl, ha⟩) fun _ he => ⟨rfl, he⟩

theorem orbSlot_reads : Reads (orbSlot env executionStepId) (orbSlotPlan env db executionStepId) db book := by
  unfold Reads orbSlot orbSlotPlan
  simp only [Tx.wp_bind, Tx.wp_get]
  refine Tx.wp_mayRaise (fun hf => ?_) fun e hf => ⟨rfl, by rw [outcomeOf_some hf]; rfl⟩
  rw [outcomeOf_none hf, ok_bind]
  refine Tx.wp_expect (fun slot hslot => ?_) fun hslot => ⟨rfl, by rw [hslot]⟩
  refine Tx.wp_expect (fun a ha => ?_) fun ha => ⟨rfl, by rw [hslot, ha]⟩
  rw [Tx.wp_pure, hslot, ha]
  exact ⟨rfl, rfl⟩

theorem orbStateTx_reads {bars : List IntradayBar} {bar : IntradayBar} :
    Reads (orbStateTx env bars bar)
      (do outcomeOf (env.fault .listTrades); .ok (orbState env db bars bar)) db book := by
  unfold Reads orbStateTx
  simp only [Tx.wp_bind, Tx.wp_get]
  refine Tx.wp_mayRaise (fun hf => ?_) fun e hf => ⟨rfl, by rw [outcomeOf_some hf]; rfl⟩
  exact ⟨rfl, by rw [outcomeOf_none hf]; rfl⟩

/-- What a branch's transaction leaves, in terms of its plan. -/
theorem wp_branch {plan : Except Raised Submission} {tx : DbTx (Option Submission)} {st : Store Db BrokerBook}
    {Q : Option Submission → Store Db BrokerBook → Prop} {E : Raised → Store Db BrokerBook → Prop}
    (h : FollowsPlan env executionStepId plan st.current st.world tx st.current)
    (hok : ∀ p submission db', plan = .ok p → branchOutcome env st.current plan = .ok () →
      Settled executionStepId p submission st.current db' → Q submission (st.commit db' st.world))
    (herr : ∀ e, branchOutcome env st.current plan = .error e → E e st) :
    (Proc.withSession tx).wp Q E st := by
  rw [Proc.wp_withSession]
  refine Tx.wp_mono h ?_ ?_
  · rintro submission db' _ ⟨rfl, hout, p, hp, hs⟩; exact hok p submission db' hp hout hs
  · rintro e _ ⟨rfl, he⟩; exact herr e he

/-- What a step raises before it asks the broker, if anything. -/
def artifactsOutcome (env : StepEnv) (db : Db) (executionStepId : ℕ) (eventId : Option ℕ) :
    Except Raised Unit :=
  branchOutcome env db (stepPlan env db executionStepId eventId)

section
variable {eventId : Option ℕ} {st : Store Db BrokerBook}
variable {Q : Option PaperStepFailure → Store Db BrokerBook → Prop} {E : Raised → Store Db BrokerBook → Prop}

/-- The opening-range branch reads twice before its transaction; its plan is followed throughout. -/
theorem wp_runOrbStepArtifacts {plan : Except Raised Submission}
    (hplan : orbPlan env st.current executionStepId = plan)
    (hraise : ∀ e, branchOutcome env st.current plan = .error e → E e st)
    (hsettled : ∀ p submission db', plan = .ok p → branchOutcome env st.current plan = .ok () →
      Settled executionStepId p submission st.current db' →
      (continueWith env executionStepId submission).wp Q E (st.commit db' st.world)) :
    (runOrbStepArtifacts env executionStepId).wp Q E st := by
  unfold runOrbStepArtifacts
  rw [orbPlan] at hplan
  simp only [Proc.wp_bind]
  refine wp_readSession_of_reads orbSlot_reads (fun slot hslot => ?_) fun e he =>
    hraise e (branchOutcome_error (by rw [← hplan, he]; rfl))
  obtain ⟨scheduledFor, symbol⟩ := slot
  rw [hslot, ok_bind] at hplan
  dsimp only at hplan
  refine Proc.wp_ofExcept (fun bars hbars => ?_) fun e he =>
    hraise e (branchOutcome_error (by rw [← hplan, he]; rfl))
  rw [hbars, ok_bind] at hplan
  refine Proc.wp_ofExcept (fun bar hbar => ?_) fun e he =>
    hraise e (branchOutcome_error (by rw [← hplan, he]; rfl))
  rw [hbar, ok_bind] at hplan
  refine wp_readSession_of_reads orbStateTx_reads (fun state hstate => ?_) fun e he =>
    hraise e (branchOutcome_error ?_)
  · cases hf : outcomeOf (env.fault .listTrades) with
    | error e => rw [hf] at hstate; cases hstate
    | ok u =>
        rw [hf, ok_bind] at hstate hplan
        cases hstate
        subst hplan
        exact wp_branch orbArtifacts_follows (fun p sub db' hp => hsettled p sub db' hp) hraise
  · cases hf : outcomeOf (env.fault .listTrades) with
    | error e' => rw [hf] at he hplan; cases he; exact hplan.symm
    | ok u => rw [hf] at he; cases he

/-- **A step follows its plan**: it raises what the plan says and leaves nothing, or its plan is settled
    and whatever `continueWith` does comes next. -/
theorem wp_runStepArtifacts
    (hraise : ∀ e, artifactsOutcome env st.current executionStepId eventId = .error e → E e st)
    (hsettled : ∀ p submission db', stepPlan env st.current executionStepId eventId = .ok p →
      artifactsOutcome env st.current executionStepId eventId = .ok () →
      Settled executionStepId p submission st.current db' →
      (continueWith env executionStepId submission).wp Q E (st.commit db' st.world)) :
    (runStepArtifacts env executionStepId eventId).wp Q E st := by
  rw [artifactsOutcome] at hraise hsettled
  generalize hplan : stepPlan env st.current executionStepId eventId = plan at hraise hsettled
  rw [stepPlan] at hplan
  unfold runStepArtifacts
  rw [Proc.wp_bind]
  refine wp_readSession_of_reads loadStrategyType_reads (fun strategyType hs => ?_) fun e he =>
    hraise e (branchOutcome_error (by rw [← hplan, he]; rfl))
  rw [hs, ok_bind] at hplan
  cases strategyType with
  | openingRangeBreakout => exact wp_runOrbStepArtifacts hplan hraise hsettled
  | agenticAi =>
      subst hplan
      dsimp only
      unfold runAgenticAiStepArtifacts
      rw [Proc.wp_bind]
      exact wp_branch agenticArtifacts_follows hsettled hraise
  | buyAndHold | movingAverage | paperTradingSmokeTest =>
      subst hplan
      dsimp only
      unfold runDailyStepArtifacts
      rw [Proc.wp_bind]
      exact wp_branch dailyArtifacts_follows hsettled hraise

end

/-! ## Every plan is sized against the portfolio it read -/

theorem loadedState_ok {st : StepState} (h : loadedState env db executionStepId = .ok st) :
    db.stepState executionStepId = some st := by
  obtain ⟨_, -, h⟩ := ok_of_bind h
  cases hs : db.stepState executionStepId with
  | none => simp [hs] at h
  | some st' => simp only [hs] at h; exact congrArg some (Except.ok.inj h)

/-- The plan's risk check fits the cash and the position of the loaded portfolio. -/
def Submission.SizedIn (p : Submission) (db : Db) (executionStepId : ℕ) : Prop :=
  ∃ st, db.stepState executionStepId = some st ∧ p.riskResult.Sized st.portfolio.load p.price

theorem dailyPlan_sized {p : Submission} (h : dailyPlan env db executionStepId = .ok p) :
    p.SizedIn db executionStepId := by
  obtain ⟨st, hst, h⟩ := ok_of_bind h
  obtain ⟨bar, -, h⟩ := ok_of_bind h
  obtain ⟨average, -, h⟩ := ok_of_bind h
  obtain ⟨_, -, h⟩ := ok_of_bind h
  obtain ⟨_, -, h⟩ := ok_of_bind h
  obtain ⟨_, -, h⟩ := ok_of_bind h
  cases h
  refine ⟨st, loadedState_ok hst, ?_⟩
  unfold dailyRiskResult
  dsimp only
  split
  · exact smokeTestRiskResult_sized _
  · exact evaluate_sized _

theorem orbPlan_sized {p : Submission} (h : orbPlan env db executionStepId = .ok p) :
    p.SizedIn db executionStepId := by
  obtain ⟨⟨slot, symbol⟩, -, h⟩ := ok_of_bind h
  obtain ⟨bars, -, h⟩ := ok_of_bind h
  obtain ⟨bar, -, h⟩ := ok_of_bind h
  obtain ⟨_, -, h⟩ := ok_of_bind h
  obtain ⟨st, hst, h⟩ := ok_of_bind h
  obtain ⟨_, -, h⟩ := ok_of_bind h
  obtain ⟨_, -, h⟩ := ok_of_bind h
  obtain ⟨_, -, h⟩ := ok_of_bind h
  cases h
  exact ⟨st, loadedState_ok hst, evaluate_sized _⟩

theorem agenticPlan_sized {p : Submission} {eventId : Option ℕ}
    (h : agenticPlan env db executionStepId eventId = .ok p) : p.SizedIn db executionStepId := by
  obtain ⟨st, hst, h⟩ := ok_of_bind h
  obtain ⟨bar, -, h⟩ := ok_of_bind h
  obtain ⟨_, -, h⟩ := ok_of_bind h
  obtain ⟨_, -, h⟩ := ok_of_bind h
  obtain ⟨_, -, h⟩ := ok_of_bind h
  obtain ⟨result, -, h⟩ := ok_of_bind h
  obtain ⟨_, -, h⟩ := ok_of_bind h
  obtain ⟨_, -, h⟩ := ok_of_bind h
  obtain ⟨_, -, h⟩ := ok_of_bind h
  obtain ⟨_, -, h⟩ := ok_of_bind h
  cases h
  exact ⟨st, loadedState_ok hst, evaluateTargetExposure_sized _ _⟩

/-- **Whatever the strategy, the plan is sized** against the portfolio as the step loads it. -/
theorem stepPlan_sized {p : Submission} {eventId : Option ℕ}
    (h : stepPlan env db executionStepId eventId = .ok p) : p.SizedIn db executionStepId := by
  obtain ⟨strategyType, -, h⟩ := ok_of_bind h
  cases strategyType with
  | openingRangeBreakout => exact orbPlan_sized h
  | agenticAi => exact agenticPlan_sized h
  | buyAndHold | movingAverage | paperTradingSmokeTest => exact dailyPlan_sized h

end TradingAI
