import TradingAI.Execution.HistoricalLedger

/-!
# `Execution.StepView` — what a step shows once it is completed

The rows of a step without their keys and their clock: its decision, its risk check, its trade, and the
account it leaves. Two steps of different experiments, on different paths, show the same if their views are
equal.

## Contents
- `StepView`, `Db.view`.
- `KeysBelow`: no row belongs to a step still to come, so the rows of the next step are the ones it adds.
- `decisionView`, `riskView`: what a step of a strategy shows, by what it decides.
- `StepRows`: the rows of a step, on whichever path.
-/

namespace TradingAI

open Rounding

/-! ## Views -/

def TradingDecision.bare (d : TradingDecision) : TradingDecision :=
  { d with id := 0, executionStepId := 0, marketDataSnapshotId := 0, createdAt := 0 }

def RiskCheck.bare (r : RiskCheck) : RiskCheck :=
  { r with id := 0, executionStepId := 0, tradingDecisionId := 0, createdAt := 0 }

/-- The side and the quantity of a trade. -/
def Trade.shares (t : Trade) : OrderSide × Numeric 8 := (t.side, t.quantity)

@[ext] structure StepView where
  decisions  : List TradingDecision
  riskChecks : List RiskCheck
  trades     : List (OrderSide × Numeric 8)
  account    : Option Account

def Db.view (db : Db) (executionStepId : ℕ) : StepView where
  decisions  := (db.decisions.filter (·.executionStepId = executionStepId)).map TradingDecision.bare
  riskChecks := (db.riskChecks.filter (·.executionStepId = executionStepId)).map RiskCheck.bare
  trades     := (db.trades.filter (·.executionStepId = executionStepId)).map Trade.shares
  account    := db.portfolio.map PortfolioRow.account

/-- Every row is of a step with a key under `n`. -/
structure KeysBelow (n : ℕ) (db : Db) : Prop where
  decisions  : ∀ d ∈ db.decisions, d.executionStepId < n
  riskChecks : ∀ r ∈ db.riskChecks, r.executionStepId < n
  trades     : ∀ t ∈ db.trades, t.executionStepId < n

theorem KeysBelow.mono {m n : ℕ} {db : Db} (h : KeysBelow m db) (hmn : m ≤ n) : KeysBelow n db :=
  ⟨fun d hd => (h.decisions d hd).trans_le hmn, fun r hr => (h.riskChecks r hr).trans_le hmn,
    fun t ht => (h.trades t ht).trans_le hmn⟩

/-- A step without rows shows the account alone. -/
theorem KeysBelow.view_nothing {n : ℕ} {db : Db} (h : KeysBelow n db) :
    db.view n = ⟨[], [], [], db.portfolio.map PortfolioRow.account⟩ := by
  have hnone : ∀ {α : Type} {step : α → ℕ} {rows : List α}, (∀ x ∈ rows, step x < n) →
      rows.filter (step · = n) = [] := by
    intro α step rows hrows
    rw [List.filter_eq_nil_iff]
    intro x hx
    simpa using (hrows x hx).ne
  unfold Db.view
  rw [hnone h.decisions, hnone h.riskChecks, hnone h.trades]
  rfl

section
variable {α : Type} {step : α → ℕ} {rows new : List α} {id n : ℕ}

/-- The rows of a new step are those it adds. -/
theorem filter_new (hold : ∀ x ∈ rows, step x < id) (hnew : ∀ x ∈ new, step x = id) :
    (rows ++ new).filter (step · = id) = new := by
  rw [List.filter_append, List.filter_eq_nil_iff.mpr, List.nil_append, List.filter_eq_self.mpr]
  · intro x hx
    simp [hnew x hx]
  · intro x hx
    have := hold x hx
    simp only [decide_eq_true_eq]
    omega

theorem below_append (hold : ∀ x ∈ rows, step x < id) (hnew : ∀ x ∈ new, step x = id) (hn : id < n) :
    ∀ x ∈ rows ++ new, step x < n := by
  intro x hx
  rcases List.mem_append.mp hx with hx | hx
  · exact (hold x hx).trans hn
  · rw [hnew x hx]
    exact hn

end

/-- The trades with their times, sides and quantities. -/
def Db.bookings (db : Db) : List (DateTime × ShareOrder) :=
  db.trades.map fun t => (t.timestamp, t.side, t.quantity.val)

/-- What is looked at in a trade does not include the column written after it. -/
theorem Db.trades_view (db : Db) (executionStepId : ℕ) :
    (db.view executionStepId).trades =
      (db.bookedTrades.filter (·.executionStepId = executionStepId)).map Trade.shares := by
  unfold view bookedTrades
  rw [List.filter_map, List.map_map]
  rfl

theorem Db.bookings_booked (db : Db) :
    db.bookings = db.bookedTrades.map fun t => (t.timestamp, t.side, t.quantity.val) := by
  unfold bookings bookedTrades
  rw [List.map_map]
  rfl

theorem Db.trades_below (db : Db) (n : ℕ) :
    (∀ t ∈ db.trades, t.executionStepId < n) ↔ ∀ t ∈ db.bookedTrades, t.executionStepId < n := by
  unfold bookedTrades
  rw [List.forall_mem_map]
  rfl

/-! ## What a decision shows -/

/-- The decision of a strategy. -/
def decisionView (sourceName : String) (d : StrategyDecision) : TradingDecision where
  id                   := 0
  executionStepId      := 0
  marketDataSnapshotId := 0
  sourceType           := .strategy
  sourceName           := sourceName
  action               := d.action
  symbol               := d.symbol
  confidence           := numeric 4 1
  reason               := d.reason
  createdAt            := 0

/-- A portfolio with nothing but an account. -/
def Account.portfolio (a : Account) : Portfolio := ⟨a.cash, none, some a.position, none, none, none, 0⟩

/-- The risk check of a decision. -/
def riskView (a : Account) (d : StrategyDecision) (price : ℚ) : RiskCheck :=
  (evaluate d a.portfolio price).row 0 0 0 0

/-- The risk check looks at the account alone. -/
theorem evaluate_account {p p' : Portfolio} (h : p.account = p'.account) (d : StrategyDecision) (price : ℚ) :
    evaluate d p price = evaluate d p' price := by
  have hcash : p.cash = p'.cash := congrArg Account.cash h
  have hheld : p.heldQuantity = p'.heldQuantity := congrArg Account.position h
  unfold evaluate
  rw [hcash, hheld]

/-- An order as its trade has it. -/
def orderShares (o : ShareOrder) : OrderSide × Numeric 8 := (o.1, numeric 8 o.2)

/-- **What a step shows** that finds the account `a` and decides `d`. -/
def Account.view (a : Account) (sourceName : String) (d : StrategyDecision) (price : ℚ) : StepView where
  decisions  := [decisionView sourceName d]
  riskChecks := [riskView a d price]
  trades     := ((a.order d.action price).map orderShares).toList
  account    := some (a.trade d.action price)

/-! ## The rows of a step -/

variable {s : BarStep} {id : ℕ} {now at_ : DateTime} {row : PortfolioRow} {db db' : Db}

/-- **The rows of a step** that decides as `s` does from the portfolio `row`, and trades at the time `at_`. -/
structure StepRows (s : BarStep) (id : ℕ) (row : PortfolioRow) (at_ : DateTime) (db db' : Db) : Prop where
  decisions  : ∃ k m now, db'.decisions =
    db.decisions ++ [s.decisionRow k id m now (s.decide row.load.positionQuantity)]
  riskChecks : ∃ k m now, db'.riskChecks = db.riskChecks ++ [(s.riskResult row.load).row k id m now]
  trades     : ∃ k m now, db'.bookedTrades = db.bookedTrades ++ ((s.order row).map fun o =>
    { SimulationExecutionProvider.tradeOf o.1 o.2 s.price id at_ now with id := k, orderId := m }).toList
  account    : db'.portfolio.map PortfolioRow.account = some (row.account.book s.price (s.order row))

namespace StepRows

theorem view (h : StepRows s id row at_ db db') (hkeys : KeysBelow id db) :
    db'.view id = row.account.view s.sourceName (s.decide row.load.positionQuantity) s.price := by
  obtain ⟨_, _, _, hdecisions⟩ := h.decisions
  obtain ⟨_, _, _, hriskChecks⟩ := h.riskChecks
  obtain ⟨_, _, _, htrades⟩ := h.trades
  refine StepView.ext ?_ ?_ ?_ h.account
  · show (db'.decisions.filter _).map _ = [decisionView s.sourceName (s.decide row.load.positionQuantity)]
    rw [hdecisions, filter_new hkeys.decisions]
    · rfl
    · intro d hd
      rw [List.mem_singleton.mp hd]
      rfl
  · show (db'.riskChecks.filter _).map _ = [riskView row.account (s.decide row.load.positionQuantity) s.price]
    rw [hriskChecks, filter_new hkeys.riskChecks]
    · unfold riskView
      rw [evaluate_account (show row.account.portfolio.account = row.load.account from rfl)]
      rfl
    · intro r hr
      rw [List.mem_singleton.mp hr]
      rfl
  · show (db'.view id).trades = ((s.order row).map orderShares).toList
    rw [Db.trades_view, htrades, filter_new ((db.trades_below id).mp hkeys.trades)]
    · cases s.order row <;> rfl
    · intro t ht
      obtain ⟨o, -, rfl⟩ := Option.map_eq_some_iff.mp (Option.mem_toList.mp ht)
      rfl

/-- The next step's key is above all rows again. -/
theorem keysBelow (h : StepRows s id row at_ db db') (hkeys : KeysBelow id db) (hid : id < db'.nextId) :
    KeysBelow db'.nextId db' := by
  obtain ⟨_, _, _, hdecisions⟩ := h.decisions
  obtain ⟨_, _, _, hriskChecks⟩ := h.riskChecks
  obtain ⟨_, _, _, htrades⟩ := h.trades
  refine ⟨?_, ?_, ?_⟩
  · rw [hdecisions]
    apply below_append hkeys.decisions _ hid
    intro d hd
    rw [List.mem_singleton.mp hd]
    rfl
  · rw [hriskChecks]
    apply below_append hkeys.riskChecks _ hid
    intro r hr
    rw [List.mem_singleton.mp hr]
    rfl
  · rw [Db.trades_below, htrades]
    apply below_append ((db.trades_below id).mp hkeys.trades) _ hid
    intro t ht
    obtain ⟨o, -, rfl⟩ := Option.map_eq_some_iff.mp (Option.mem_toList.mp ht)
    rfl

/-- What is traded is a number of shares that the column can hold. -/
theorem order_onGrid (hsound : row.account.Sound) {o : ShareOrder} (h : s.order row = some o) : OnGrid 8 o.2 := by
  obtain ⟨side, q⟩ := o
  cases side with
  | buy =>
      rw [(Account.order_eq_buy h).2.2.2]
      exact onGrid_floorWholeShares 8 _
  | sell =>
      rw [(Account.order_eq_sell h).2.2.2]
      exact hsound.position_onGrid

/-- The trades with their times, after the step. -/
theorem bookings (h : StepRows s id row at_ db db') (hsound : row.account.Sound) :
    db'.bookings = db.bookings ++ ((s.order row).map fun o => (at_, o)).toList := by
  obtain ⟨_, _, _, htrades⟩ := h.trades
  rw [Db.bookings_booked, Db.bookings_booked, htrades, List.map_append]
  cases horder : s.order row with
  | none => rfl
  | some o =>
      have hq := order_onGrid hsound horder
      simp [SimulationExecutionProvider.tradeOf, numeric_val_of_onGrid hq]

end StepRows

/-! ## A historical step -/

/-- The trades of an execution are those of its order. -/
theorem BarStep.newTrade_eq (s : BarStep) (row : PortfolioRow) (id riskCheckId orderId : ℕ) (now : DateTime) :
    ((s.execution row.load id riskCheckId now).newTrade orderId).map Trade.unmarked =
      (s.order row).map fun o =>
        { SimulationExecutionProvider.tradeOf o.1 o.2 s.price id s.timestamp now with
          id := orderId + 1, orderId } := by
  rw [BarStep.execution_eq]
  cases s.order row with
  | none => rfl
  | some o =>
      obtain ⟨side, q⟩ := o
      rfl

theorem Stepped.rows (h : Stepped s id now row db db') (hsound : row.account.Sound) :
    StepRows s id row s.timestamp db db' := by
  have htrades := h.trades
  rw [BarStep.newTrade_eq] at htrades
  refine ⟨⟨_, _, _, h.decisions⟩, ⟨_, _, _, h.riskChecks⟩, ⟨_, _, _, htrades⟩, ?_⟩
  rw [h.portfolio, ← h.account hsound h.portfolio]
  rfl

end TradingAI
