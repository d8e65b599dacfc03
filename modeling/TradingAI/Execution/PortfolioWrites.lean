import TradingAI.Execution.Ledger
import TradingAI.Lib.Transactions

/-!
# `Execution.PortfolioWrites` — the two transactions that write the portfolio, side by side

The step jobs, the broker synchronisation and manual calls run in parallel on the one portfolio row of an
experiment. `_run_broker_execution` loads the row, waits for the broker's answer and commits;
`_persist_order_sync` loads the row, counts what is booked and commits. Neither locks the row, and it has
no version: a commit writes the columns that changed since the row was loaded, with the values computed
from what was loaded.

## Contents
- `Portfolio.flushOnto`, `Db.flushPortfolio`: what a commit writes.
- `recordPlacement`, `recordReport`: the rows of the two transactions.
- `PortfolioThread`, `portfolioWrites`.
- `recordPlacement_current`, `recordReport_current`: if the row did not change in between, these are the
  transactions of `OrderPlacement` and `OrderSync`.
-/

namespace TradingAI

open Rounding Transactions PaperExecutionProvider PaperBrokerSyncService

/-! ## What a commit writes -/

/-- The row after a flush of `p`, which was loaded as `loaded`: a column whose value is still the loaded
    one is not written. -/
def Portfolio.flushOnto (p : Portfolio) (loaded committed : PortfolioRow) : PortfolioRow where
  cash := if p.cash = loaded.load.cash then committed.cash else p.row.cash
  positionSymbol :=
    if p.positionSymbol = loaded.positionSymbol then committed.positionSymbol else p.positionSymbol
  positionQuantity :=
    if p.positionQuantity = loaded.load.positionQuantity then committed.positionQuantity
    else p.row.positionQuantity
  currentPrice :=
    if p.currentPrice = loaded.load.currentPrice then committed.currentPrice else p.row.currentPrice
  currentPositionValue :=
    if p.currentPositionValue = loaded.load.currentPositionValue then committed.currentPositionValue
    else p.row.currentPositionValue
  currentPortfolioValue :=
    if p.currentPortfolioValue = loaded.load.currentPortfolioValue then committed.currentPortfolioValue
    else p.row.currentPortfolioValue
  updatedAt := if p.updatedAt = loaded.updatedAt then committed.updatedAt else p.updatedAt

/-- A value that was loaded from a column is stored as it was. -/
theorem map_numeric_load {k : ℕ} {x : Option ℚ} {column : Option (Numeric k)}
    (h : x = column.map Numeric.val) : x.map (numeric k) = column := by
  subst h
  cases column <;> simp

/-- If the row is still the loaded one, the flush leaves the whole object. -/
theorem Portfolio.flushOnto_loaded (p : Portfolio) (loaded : PortfolioRow) :
    p.flushOnto loaded loaded = p.row := by
  have hcash : p.cash = loaded.load.cash → loaded.cash = p.row.cash := by
    intro h; rw [Portfolio.row, h]; exact (numeric_val loaded.cash).symm
  unfold Portfolio.flushOnto
  congr 1
  · exact ite_eq_right_iff.mpr hcash
  · exact ite_eq_right_iff.mpr Eq.symm
  · exact ite_eq_right_iff.mpr fun h => (map_numeric_load h).symm
  · exact ite_eq_right_iff.mpr fun h => (map_numeric_load h).symm
  · exact ite_eq_right_iff.mpr fun h => (map_numeric_load h).symm
  · exact ite_eq_right_iff.mpr fun h => (map_numeric_load h).symm
  · exact ite_eq_right_iff.mpr Eq.symm

/-- Flush a portfolio that was loaded as `loaded`. -/
def Db.flushPortfolio (db : Db) (loaded : PortfolioRow) (p : Portfolio) : Db :=
  { db with portfolio := db.portfolio.map (p.flushOnto loaded) }

/-! ## The rows of the two transactions -/

/-- The part of a report beyond what is booked, with its price. -/
def unbookedBeyond (filled : ℚ) (r : BrokerOrderResult) : Option (ℚ × ℚ) :=
  let fillDelta := r.filledQuantity - filled
  if 0 < fillDelta then r.averageFillPrice.map fun price => (fillDelta, price) else none

/-- Insert an order and, if something filled at once, its trade. -/
def Db.addOrderWithTrade (db : Db) (order : Order) (trade : Option Trade) : Db :=
  match trade with
  | some trade => (db.addOrder order).addTrade trade db.nextId
  | none       => db.addOrder order

@[simp] theorem Db.addOrderWithTrade_portfolio (db : Db) (order : Order) (trade : Option Trade) :
    (db.addOrderWithTrade order trade).portfolio = db.portfolio := by cases trade <;> rfl

@[simp] theorem Db.addOrderWithTrade_orders (db : Db) (order : Order) (trade : Option Trade) :
    (db.addOrderWithTrade order trade).orders = db.orders ++ [{ order with id := db.nextId }] := by
  cases trade <;> rfl

theorem Db.addOrderWithTrade_fills (db : Db) (order : Order) (trade : Option Trade) :
    (db.addOrderWithTrade order trade).fills =
      db.fills ++ (trade.map fun t => Trade.fill { t with orderId := db.nextId }).toList := by
  cases trade <;> simp [Db.addOrderWithTrade, Db.addOrder, Db.addTrade, Db.fills, Trade.fill]

/-- What `_run_broker_execution` writes to orders, trades and portfolio, for the broker's answer; `none`
    if the order was there already. -/
def recordPlacement (db : Db) (executionStepId : ℕ) (s : Submission) (loaded : PortfolioRow)
    (answer : Option BrokerOrderResult) (now : DateTime) : Db :=
  match answer with
  | none   => db.flushPortfolio loaded (loaded.load.markedTo s.price now)
  | some r =>
      let (portfolio, trade) := immediateFill r loaded.load executionStepId now now
      let marked := portfolio.markedTo s.price now
      let value := marked.currentPortfolioValue.map (numeric 4)
      let order := orderOf r executionStepId s.riskCheckId now now
      let trade := trade.map fun t => { t with portfolioValueAfterTrade := value }
      (db.addOrderWithTrade order trade).flushPortfolio loaded marked

/-- What `_persist_order_sync` writes, for a known status; `filled` is what it found booked. -/
def recordReport (db : Db) (order : Order) (loaded : PortfolioRow) (filled : ℚ) (status : OrderStatus)
    (r : BrokerOrderResult) (now : DateTime) : Db :=
  let synced := db.updateOrder order.id (syncedOrder r status)
  let log := fun p => syncLog order (some p) now .success (syncDetails order status r) none
  match unbookedBeyond filled r with
  | none => synced.addBrokerSyncLog (log loaded.load)
  | some (fillDelta, price) =>
      let (portfolio, trade) :=
        applyFillDeltaToPortfolio order loaded.load fillDelta price (r.filledAt.getD now) now
      (addSyncedTrade (synced.flushPortfolio loaded portfolio) trade).addBrokerSyncLog (log portfolio)

/-- What it writes for an unknown status. -/
def recordUnknownStatus (db : Db) (order : Order) (loaded : PortfolioRow) (r : BrokerOrderResult)
    (now : DateTime) : Db :=
  db.addBrokerSyncLog (syncLog order (some loaded.load) now .failed (unknownStatusDetails r)
    (some unknownStatusMessage))

/-! ## The threads -/

/-- Writes of a transaction that touch neither the portfolio nor the trades. -/
structure OtherTables where
  write     : Db → Db
  portfolio : ∀ db, (write db).portfolio = db.portfolio
  trades    : ∀ db, (write db).trades = db.trades

/-- Where a thread is: in `_run_broker_execution` while the broker is asked and after it answered, or in
    `_persist_order_sync` after each of its three reads. -/
inductive PortfolioThread
  | idle
  | placing (executionStepId : ℕ) (s : Submission) (loaded : PortfolioRow)
  | placed (executionStepId : ℕ) (s : Submission) (loaded : PortfolioRow) (answer : Option BrokerOrderResult)
  | polled (order : Order) (r : BrokerOrderResult)
  | loaded (order : Order) (row : PortfolioRow) (r : BrokerOrderResult)
  | counted (order : Order) (row : PortfolioRow) (status : OrderStatus) (r : BrokerOrderResult) (filled : ℚ)

inductive PortfolioChoice
  | execute (executionStepId : ℕ) (s : Submission)
  | answer (answer : Option BrokerOrderResult)
  | sync (orderId : ℕ) (r : BrokerOrderResult)
  | proceed
  | commit (rest : OtherTables) (now : DateTime)
  | raise

/-- The statements of a thread. A statement that finds a row missing raises. -/
def portfolioWrites : Program Db PortfolioThread PortfolioChoice
  | .execute id s, db, .idle =>
      match db.portfolio with
      | some row => .go (.placing id s row)
      | none     => .rollback .idle
  | .answer answer, _, .placing id s row => .go (.placed id s row answer)
  | .commit rest now, db, .placed id s row answer =>
      .commit (rest.write (recordPlacement db id s row answer now)) .idle
  | .sync orderId r, db, .idle =>
      match db.getOrder orderId with
      | some order => .go (.polled order r)
      | none       => .rollback .idle
  | .proceed, db, .polled order r =>
      match db.portfolio with
      | some row => .go (.loaded order row r)
      | none     => .rollback .idle
  | .proceed, db, .loaded order row r =>
      match PaperBrokerSyncService.mapOrderStatus r.status with
      | some status => .go (.counted order row status r (db.filledQuantityByOrder order.id))
      | none        => .go (.loaded order row r)
  | .commit rest now, db, .loaded order row r =>
      if PaperBrokerSyncService.mapOrderStatus r.status = none then
        .commit (rest.write (recordUnknownStatus db order row r now)) .idle
      else .go (.loaded order row r)
  | .commit rest now, db, .counted order row status r filled =>
      .commit (rest.write (recordReport db order row filled status r now)) .idle
  | .raise, _, _ => .rollback .idle
  | _, _, l => .go l

/-! ## The same without other threads -/

variable {db : Db}

/-- **Placing**: what `_run_broker_execution` leaves in the three tables, if the row is still the loaded
    one, is what its serial model leaves. -/
theorem recordPlacement_current {env : StepEnv} {id : ℕ} {s : Submission} {r : BrokerOrderResult}
    {row : PortfolioRow} {db' : Db} (hrow : db.portfolio = some row) (h : Executed env id s r db db') :
    (recordPlacement db id s row (some r) env.executedAt).portfolio = db'.portfolio ∧
      (recordPlacement db id s row (some r) env.executedAt).orders = db'.orders ∧
      (recordPlacement db id s row (some r) env.executedAt).fills = db'.fills := by
  obtain ⟨row', hrow', hportfolio⟩ := h.portfolio
  obtain rfl : row' = row := Option.some.inj (hrow'.symm.trans hrow)
  have hentry := immediateFill_entry r row'.load id db.nextId env.executedAt env.executedAt
  rw [hportfolio, h.orders, h.fills, ← hentry]
  refine ⟨?_, Db.addOrderWithTrade_orders .., (Db.addOrderWithTrade_fills ..).trans ?_⟩
  · simp [recordPlacement, Db.flushPortfolio, hrow, Portfolio.flushOnto_loaded]
  · rw [Option.map_map]; rfl

/-- **Polling**: what `_persist_order_sync` writes, if neither the row nor the booked quantity changed
    since they were read, is what its serial model writes. -/
theorem recordReport_current {order : Order} {row : PortfolioRow} {status : OrderStatus}
    {r : BrokerOrderResult} {now : DateTime} (hrow : db.portfolio = some row) :
    recordReport db order row (db.filledQuantityByOrder order.id) status r now =
      applyReport db order row status r now := by
  have hunbooked : unbookedBeyond (db.filledQuantityByOrder order.id) r = unbookedFill db order.id r := rfl
  have hsynced : (db.updateOrder order.id (syncedOrder r status)).portfolio = some row := hrow
  unfold recordReport applyReport
  rw [hunbooked]
  cases unbookedFill db order.id r with
  | none => rfl
  | some delta => simp only [Db.flushPortfolio, hsynced, Option.map_some, Portfolio.flushOnto_loaded]

end TradingAI
