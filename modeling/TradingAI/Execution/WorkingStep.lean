import TradingAI.Execution.StepView
import TradingAI.Execution.Calls

/-!
# `Execution.WorkingStep` — the transactions of a paper step when every operation works

With no fault in the database, a transaction is a function of the database it meets. Here the functions are
read off for the two ends of a step, the one that holds and the one that trades with a broker which fills at
once. Every key below is named, as the rows are compared by their keys.

## Contents
- `StepEnv.Works`.
- `evaluate_cases`: a risk check holds or trades, as its order says.
- `wp_settle_holds`, `wp_settle_trades`, `wp_brokerExecution_fills`.
-/

namespace TradingAI

open Session Rounding

/-- No database operation fails. -/
def StepEnv.Works (env : StepEnv) : Prop := ∀ o, env.fault o = none

variable {env : StepEnv} {executionStepId : ℕ} {db : Db} {book : BrokerBook} {E : Raised → BrokerBook → Prop}

namespace StepEnv.Works

theorem wp_op (h : env.Works) {o : DbOp} {Q : Unit → Db → BrokerBook → Prop} :
    (env.op o).wp Q E db book ↔ Q () db book := by
  unfold StepEnv.op
  rw [h o]
  exact Iff.rfl

theorem wp_loadRows (h : env.Works) {α : Type} {o : DbOp} {rows : Db → Option α} {a : α} (ha : rows db = some a)
    {Q : α → Db → BrokerBook → Prop} : (loadRows env o rows).wp Q E db book ↔ Q a db book := by
  unfold loadRows
  rw [Tx.wp_bind, h.wp_op, Tx.wp_bind, Tx.wp_get, ha]
  exact Iff.rfl

/-- The portfolio is written, and two snapshots are added. -/
theorem wp_persist (h : env.Works) {experiment : Experiment} (hcapital : experiment.initialCapital.val ≠ 0)
    {portfolio : Portfolio} {price : ℚ} {timestamp : DateTime} {tradeId : Option ℕ}
    {Q : Unit → Db → BrokerBook → Prop}
    (hok : ∀ p m, Q () ((db.writePortfolio (portfolio.markedTo price timestamp) tradeId).addSnapshots p m) book) :
    (persistSnapshotAndMetrics env executionStepId experiment portfolio price timestamp tradeId).wp Q E db book := by
  unfold persistSnapshotAndMetrics
  simp only [Tx.wp_bind, Tx.wp_modify, Tx.wp_get, h.wp_op]
  rw [BasicMetricCalculator.calculate, if_neg hcapital, Tx.wp_ofExcept_ok]
  exact hok _ _

/-- Without a capital the snapshots divide by zero. -/
theorem wp_persist_raises (h : env.Works) {experiment : Experiment} (hcapital : experiment.initialCapital.val = 0)
    {portfolio : Portfolio} {price : ℚ} {timestamp : DateTime} {tradeId : Option ℕ}
    {Q : Unit → Db → BrokerBook → Prop}
    (herr : E (BasicMetricCalculator.divisionError (portfolioValueAt portfolio price)) book) :
    (persistSnapshotAndMetrics env executionStepId experiment portfolio price timestamp tradeId).wp Q E db book := by
  unfold persistSnapshotAndMetrics
  simp only [Tx.wp_bind, Tx.wp_modify, Tx.wp_get, h.wp_op]
  have hprofit : quantize4 (portfolioValueAt portfolio price - experiment.initialCapital.val) =
      portfolioValueAt portfolio price := by
    rw [hcapital, sub_zero]
    exact quantize4_of_onGrid (quantize4_onGrid _)
  rw [BasicMetricCalculator.calculate, if_pos hcapital, Tx.wp_ofExcept_error, hprofit]
  exact herr

end StepEnv.Works

/-! ## What a risk check asks for -/

/-- A risk check holds, or trades a positive quantity. -/
theorem evaluate_cases (d : StrategyDecision) (p : Portfolio) (price : ℚ) :
    (p.account.order d.action price = none ∧ ∃ why rules, evaluate d p price = .hold why rules) ∨
      ∃ side q rules, p.account.order d.action price = some (side, q) ∧ 0 < q ∧
        evaluate d p price = .trade (finalActionOf (some (side, q))) q price rules := by
  unfold evaluate Account.order
  by_cases hprice : price ≤ 0
  · rw [if_pos hprice, if_pos hprice]
    exact .inl ⟨rfl, _, _, rfl⟩
  · rw [if_neg hprice, if_neg hprice]
    cases d.action with
    | hold => exact .inl ⟨rfl, _, _, rfl⟩
    | sell =>
        dsimp only
        by_cases hheld : p.heldQuantity ≤ 0
        · have hposition : p.account.position ≤ 0 := hheld
          rw [if_pos hheld, if_pos hposition]
          exact .inl ⟨rfl, _, _, rfl⟩
        · have hposition : ¬ p.account.position ≤ 0 := hheld
          rw [if_neg hheld, if_neg hposition]
          exact .inr ⟨_, _, _, rfl, not_le.mp hheld, rfl⟩
    | buy =>
        dsimp only
        by_cases hshare : floorWholeShares (p.cash / price) < 1
        · have hcash : floorWholeShares (p.account.cash / price) < 1 := hshare
          rw [if_pos hshare, if_pos hcash]
          exact .inl ⟨rfl, _, _, rfl⟩
        · have hcash : ¬ floorWholeShares (p.account.cash / price) < 1 := hshare
          rw [if_neg hshare, if_neg hcash]
          exact .inr ⟨_, _, _, rfl, zero_lt_one.trans_le (not_lt.mp hshare), rfl⟩

/-- What trades is sent to the broker. -/
theorem requires_trade {side : OrderSide} {q price : ℚ} (hq : 0 < q) (rules : Details) :
    requiresBrokerSubmission (.trade (finalActionOf (some (side, q))) q price rules) = true := by
  apply requiresBrokerSubmission_iff.mpr
  refine ⟨rfl, ?_, q, rfl, hq⟩
  cases side <;> exact FinalAction.noConfusion

/-! ## The two ends -/

section
variable {st : StepState} {decisionId : ℕ} {r : RiskResult} {price : ℚ} {symbol : String} {timestamp : DateTime}
variable {Q : Option Submission → Db → BrokerBook → Prop}

theorem wp_settle_holds (h : env.Works) (hcapital : st.experiment.initialCapital.val ≠ 0)
    (hr : requiresBrokerSubmission r = false)
    (hok : ∀ p m, Q none (((((db.addRiskCheck (r.row db.nextId executionStepId decisionId env.startedAt)).writePortfolio
      (st.portfolio.load.markedTo price timestamp) none).addSnapshots p m).updateStep executionStepId
      (·.completedStep env.startedAt))) book) :
    (settle env executionStepId st decisionId r price symbol timestamp).wp Q E db book := by
  unfold settle addRiskCheck
  simp only [Tx.wp_bind, Tx.wp_get, Tx.wp_modify, Tx.wp_pure, h.wp_op]
  rw [if_neg (by rw [hr]; exact Bool.false_ne_true)]
  simp only [Tx.wp_bind, Tx.wp_modify, Tx.wp_pure, h.wp_op]
  apply h.wp_persist hcapital
  exact hok

theorem wp_settle_raises (h : env.Works) (hcapital : st.experiment.initialCapital.val = 0)
    (hr : requiresBrokerSubmission r = false)
    (herr : E (BasicMetricCalculator.divisionError (portfolioValueAt st.portfolio.load price)) book) :
    (settle env executionStepId st decisionId r price symbol timestamp).wp Q E db book := by
  unfold settle addRiskCheck
  simp only [Tx.wp_bind, Tx.wp_get, Tx.wp_modify, Tx.wp_pure, h.wp_op]
  rw [if_neg (by rw [hr]; exact Bool.false_ne_true)]
  simp only [Tx.wp_bind]
  apply h.wp_persist_raises hcapital
  exact herr

theorem wp_settle_trades (h : env.Works) (hr : requiresBrokerSubmission r = true)
    (hok : Q (some ⟨r, db.nextId, price, symbol⟩)
      (db.addRiskCheck (r.row db.nextId executionStepId decisionId env.startedAt)) book) :
    (settle env executionStepId st decisionId r price symbol timestamp).wp Q E db book := by
  unfold settle addRiskCheck
  simp only [Tx.wp_bind, Tx.wp_get, Tx.wp_modify, Tx.wp_pure, h.wp_op]
  rw [if_pos hr, Tx.wp_bind, h.wp_op]
  exact hok

end

/-! ## A broker that fills at once -/

/-- The report that fills the order of a request at a price, completely. -/
structure FillsAt (price : ℚ) (request : OrderRequest) (r : BrokerOrderResult) : Prop where
  status   : lower r.status = "filled"
  symbol   : r.symbol = request.symbol
  side     : r.side = request.side
  quantity : r.filledQuantity = request.quantity
  price    : r.averageFillPrice = some price

/-- The broker fills every order at once. -/
def StepEnv.FillsAtOnce (env : StepEnv) (price : ℚ) : Prop :=
  ∀ request, ∃ r, env.placeOrder request = .ok r ∧ FillsAt price request r

theorem FillsAt.no_failure {price : ℚ} {request : OrderRequest} {r : BrokerOrderResult}
    (h : FillsAt price request r) : controlledOrderFailure (some r) = none := by
  unfold controlledOrderFailure
  dsimp only
  rw [h.status]
  rfl

/-- **A fill at once** is booked as the simulation books it. -/
theorem FillsAt.immediateFill {price : ℚ} {request : OrderRequest} {r : BrokerOrderResult} {p : Portfolio}
    (h : FillsAt price request r) (hsymbol : request.symbol = spySymbol) (hq : 0 < request.quantity)
    (hsell : request.side = .sell → request.quantity = p.heldQuantity) (id : ℕ) (at_ now : DateTime) :
    PaperExecutionProvider.immediateFill r p id at_ now =
      (SimulationExecutionProvider.book p request.side request.quantity (fillValue request.quantity price),
        some (SimulationExecutionProvider.tradeOf request.side request.quantity price id at_ now)) := by
  unfold PaperExecutionProvider.immediateFill
  rw [h.price]
  dsimp only
  rw [if_pos (h.quantity ▸ hq)]
  unfold applyFillToPortfolio
  rw [h.symbol, h.side, h.quantity, hsymbol]
  refine Prod.ext ?_ rfl
  show p.bookFill request.side spySymbol request.quantity _ = _
  cases hside : request.side with
  | buy => rfl
  | sell =>
      have hnone : p.heldQuantity - request.quantity ≤ 0 := by
        rw [hsell hside, sub_self]
      unfold Portfolio.bookFill
      dsimp only
      rw [if_pos hnone]
      rfl

/-- The database after an order was filled at once. -/
def Db.filled (db : Db) (order : Order) (trade : Trade) (p : Portfolio) (price : ℚ) (now : DateTime) : Db :=
  ((db.addOrder order).addTrade trade db.nextId).writePortfolio (p.markedTo price now) (some (db.nextId + 1))

/-- The rows of an order that was filled at once. -/
theorem Db.filled_spec (db : Db) (order : Order) (trade : Trade) (p : Portfolio) (price : ℚ) (now : DateTime) :
    (db.filled order trade p price now).experiment = db.experiment ∧
      (db.filled order trade p price now).strategyConfig = db.strategyConfig ∧
      (db.filled order trade p price now).steps = db.steps ∧
      (db.filled order trade p price now).decisions = db.decisions ∧
      (db.filled order trade p price now).riskChecks = db.riskChecks ∧
      (db.filled order trade p price now).orders = db.orders ++ [{ order with id := db.nextId }] ∧
      (db.filled order trade p price now).bookedTrades =
        db.bookedTrades ++ [{ trade with id := db.nextId + 1, orderId := db.nextId }.unmarked] ∧
      (db.filled order trade p price now).portfolio = some (p.markedTo price now).row ∧
      (db.filled order trade p price now).nextId = db.nextId + 2 := by
  refine ⟨rfl, rfl, rfl, rfl, rfl, rfl, ?_, rfl, rfl⟩
  unfold filled
  rw [Db.bookedTrades_writePortfolio]
  exact List.map_append

/-- **The last transaction**, with a broker that fills at once. -/
theorem wp_brokerExecution_fills (h : env.Works) {price q : ℚ} (hfills : env.FillsAtOnce price) {s : Submission}
    {side : OrderSide} {rules : Details} {experiment : Experiment} {row : PortfolioRow}
    (hr : s.riskResult = .trade (finalActionOf (some (side, q))) q price rules) (hq : 0 < q)
    (hsymbol : s.symbol = spySymbol) (hprice : s.price = price)
    (hrows : db.brokerRows executionStepId = some (experiment, row))
    (hcapital : experiment.initialCapital.val ≠ 0) (hsell : side = .sell → q = row.load.heldQuantity)
    (hfresh : db.existingOrder executionStepId s.riskCheckId = none)
    {Q : Option PaperStepFailure → Db → BrokerBook → Prop}
    (hok : ∀ order p m book', order.executionStepId = executionStepId → order.riskCheckId = s.riskCheckId →
      Q none (((db.filled order
        (SimulationExecutionProvider.tradeOf side q price executionStepId env.executedAt env.executedAt)
        (SimulationExecutionProvider.book row.load side q (fillValue q price)) price env.executedAt).addSnapshots p
          m).updateStep executionStepId (·.completedStep env.executedAt)) book') :
    (brokerExecution env executionStepId s).wp Q E db book := by
  have hside : submittedSide (finalActionOf (some (side, q))) = side := by cases side <;> rfl
  have hrequires : requiresBrokerSubmission s.riskResult = true := by
    rw [hr]
    exact requires_trade hq rules
  have hrequest : requestOf db executionStepId s =
      ⟨spySymbol, side, q, .market, PaperExecutionProvider.clientOrderId db.experimentId executionStepId s.riskCheckId⟩ := by
    unfold requestOf
    rw [hr, hsymbol]
    show OrderRequest.mk _ (submittedSide (finalActionOf (some (side, q)))) _ _ _ = _
    rw [hside]
    rfl
  unfold brokerExecution loadBrokerState
  rw [Tx.wp_bind, h.wp_loadRows hrows]
  dsimp only
  rw [Tx.wp_bind]
  refine wp_executeIfApplicable hrequires hfresh (fun r _ hplaced => ?_)
    (fun e hf => ?_) fun e _ hplaced => ?_
  · -- the report is the one that fills the request
    obtain ⟨r', hr', hfilled⟩ := hfills (requestOf db executionStepId s)
    obtain rfl := Except.ok.inj (hplaced.symm.trans hr')
    rw [hrequest] at hfilled
    rw [hfilled.immediateFill rfl hq hsell]
    unfold flushExecution
    simp only [Tx.wp_bind, Tx.wp_get, Tx.wp_modify, Tx.wp_pure, h.wp_op, Option.isSome_some, if_true]
    rw [hprice]
    apply h.wp_persist hcapital
    intro p m
    rw [hfilled.no_failure]
    exact hok _ p m _ rfl rfl
  · rw [h] at hf
    cases hf
  · obtain ⟨r', hr', -⟩ := hfills (requestOf db executionStepId s)
    rw [hr'] at hplaced
    cases hplaced

end TradingAI
