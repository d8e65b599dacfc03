import TradingAI.Execution.Calls
import TradingAI.Execution.PortfolioWrites

/-!
# `Correctness.LostUpdates` — when the cash agrees with the trades

Step jobs and broker synchronisation commit the cash they computed from the row they loaded, next to a
trade row. If another transaction changed the cash in between, its change is overwritten, while its trade
stays. So the cash is what the trades say as long as each transaction that moves it still finds the cash it
loaded, and no longer.

## Contents
- `CashLedger`: the law.
- `bookedFlow`, `commit_books`: what one commit does to both sides of it.
- `FindsItsCash`, `cash_ledger_iff`, `overlapping_fills_lose_cash`.
-/

namespace TradingAI

open Rounding Transactions PaperExecutionProvider PaperBrokerSyncService

/-! ## The law -/

/-- **The cash ledger**: the cash is the initial cash, less what was paid for BUYs, plus what SELLs
    brought in. -/
def CashLedger (initial : ℚ) (db : Db) : Prop := db.cash = initial - db.tradedValue .buy + db.tradedValue .sell

/-- What the trades did to the cash. -/
def Db.netFlow (db : Db) : ℚ := (db.fills.map Fill.cashFlow).sum

variable {initial : ℚ} {db db' : Db}

theorem Db.tradedValue_eq_netFlow (db : Db) : db.tradedValue .sell - db.tradedValue .buy = db.netFlow := by
  unfold Db.tradedValue Db.netFlow Db.fills
  induction db.trades with
  | nil => simp
  | cons t ts ih =>
      simp only [List.map_cons, List.sum_cons, ← ih, List.filter_cons]
      cases hside : t.side <;> simp [Trade.fill, Fill.cashFlow, hside] <;> ring

theorem cashLedger_iff : CashLedger initial db ↔ db.cash = initial + db.netFlow := by
  rw [CashLedger, ← db.tradedValue_eq_netFlow]
  constructor <;> intro h <;> linarith

/-! ## What a commit books -/

/-- What the trade of a commit does to the cash. -/
def bookedFlow : PortfolioThread → ℚ
  | .placed _ _ _ answer => answer.elim 0 fun r => cashFlowOf (immediateEntry r 0)
  | .counted order _ _ r filled =>
      (unbookedBeyond filled r).elim 0 fun (q, price) =>
        Fill.cashFlow ⟨order.id, order.side, q, fillValue q price⟩
  | _ => 0

/-- The cash a thread has loaded. -/
def loadedCash : PortfolioThread → ℚ
  | .placed _ _ row _ | .counted _ row _ _ _ => row.cash.val
  | _ => 0

/-- A flush of a portfolio whose cash moved by `flow` since it was loaded. -/
theorem cash_flushPortfolio {loaded row : PortfolioRow} {p : Portfolio} {flow : ℚ}
    (hrow : db.portfolio = some row) (hp : p.cash = loaded.cash.val + flow) (hgrid : OnGrid 4 p.cash) :
    (db.flushPortfolio loaded p).cash = if flow = 0 then db.cash else loaded.cash.val + flow := by
  have hsame : p.cash = loaded.load.cash ↔ flow = 0 := by rw [hp]; exact add_eq_left
  simp only [Db.cash, Db.flushPortfolio, hrow, Option.map_some, Option.elim_some, Portfolio.flushOnto,
    hsame]
  split
  · rfl
  · rw [Portfolio.row_cash, numeric_val_of_onGrid hgrid, hp]

/-- Booking leaves a cash amount the column can hold. -/
theorem bookFill_cash_onGrid {p : Portfolio} (side : OrderSide) (symbol : String) (quantity value : ℚ) :
    OnGrid 4 (p.bookFill side symbol quantity value).cash := by
  cases side with
  | buy => exact quantize4_onGrid _
  | sell => simp only [Portfolio.bookFill]; split <;> exact quantize4_onGrid _

theorem immediateFill_cash_onGrid (r : BrokerOrderResult) (row : PortfolioRow) (id : ℕ)
    (at_ now : DateTime) : OnGrid 4 (immediateFill r row.load id at_ now).1.cash := by
  unfold immediateFill
  split
  · split
    · exact bookFill_cash_onGrid ..
    · exact row.cash.onGrid
  · exact row.cash.onGrid

/-- Trades that are appended add their flow. -/
theorem netFlow_append {entry : Option Fill} (h : db'.fills = db.fills ++ entry.toList) :
    db'.netFlow = db.netFlow + cashFlowOf entry := by
  unfold Db.netFlow cashFlowOf
  rw [h]
  cases entry <;> simp

variable {row loaded : PortfolioRow}

/-- What a commit leaves on the two sides of the law: the cash it computed, if it moved it at all, and one
    more trade. -/
structure Books (loadedCash flow : ℚ) (db db' : Db) : Prop where
  cash    : db'.cash = if flow = 0 then db.cash else loadedCash + flow
  netFlow : db'.netFlow = db.netFlow + flow

/-- The key of its order does not matter to the flow of a fill. -/
theorem cashFlowOf_immediateEntry (r : BrokerOrderResult) (id id' : ℕ) :
    cashFlowOf (immediateEntry r id) = cashFlowOf (immediateEntry r id') := by
  unfold immediateEntry
  cases r.averageFillPrice with
  | none => rfl
  | some price => dsimp only; split <;> rfl

theorem recordPlacement_books (id : ℕ) (s : Submission) (answer : Option BrokerOrderResult) (now : DateTime)
    (hrow : db.portfolio = some row) :
    Books loaded.cash.val (bookedFlow (.placed id s loaded answer)) db
      (recordPlacement db id s loaded answer now) := by
  cases answer with
  | none => exact ⟨cash_flushPortfolio hrow (add_zero _).symm loaded.cash.onGrid, (add_zero _).symm⟩
  | some r =>
      have hgrid := immediateFill_cash_onGrid r loaded id now now
      have hcash : (immediateFill r loaded.load id now now).1.cash =
          loaded.cash.val + cashFlowOf (immediateEntry r 0) := by
        rw [← immediateFill_cash r id 0 now now, numeric_val_of_onGrid hgrid]
      have hentry := immediateFill_entry r loaded.load id db.nextId now now
      have hplaced : ∀ order trade, (db.addOrderWithTrade order trade).portfolio = some row := fun _ _ =>
        (Db.addOrderWithTrade_portfolio ..).trans hrow
      have hsame : ∀ order trade, (db.addOrderWithTrade order trade).cash = db.cash := fun _ _ => by
        simp [Db.cash]
      have hmarked : ((immediateFill r loaded.load id now now).1.markedTo s.price now).cash =
        loaded.cash.val + cashFlowOf (immediateEntry r 0) := hcash
      refine ⟨?_, ?_⟩
      · refine Eq.trans (cash_flushPortfolio (hplaced _ _) hmarked hgrid) ?_
        rw [hsame]
        rfl
      · have hfills : (recordPlacement db id s loaded (some r) now).fills =
            db.fills ++ (immediateEntry r db.nextId).toList := by
          rw [← hentry]
          exact (Db.addOrderWithTrade_fills ..).trans (by rw [Option.map_map]; rfl)
        rw [netFlow_append hfills, cashFlowOf_immediateEntry r db.nextId 0]
        rfl

theorem recordReport_books (order : Order) (filled : ℚ) (status : OrderStatus) (r : BrokerOrderResult)
    (now : DateTime) (hrow : db.portfolio = some row) :
    Books loaded.cash.val (bookedFlow (.counted order loaded status r filled)) db
      (recordReport db order loaded filled status r now) := by
  simp only [recordReport, bookedFlow]
  cases hu : unbookedBeyond filled r with
  | none => exact ⟨rfl, (add_zero _).symm⟩
  | some delta =>
      obtain ⟨q, price⟩ := delta
      have hgrid : OnGrid 4 (bookDelta order loaded.load q price now).cash := bookFill_cash_onGrid ..
      have hcash : (bookDelta order loaded.load q price now).cash =
          loaded.cash.val + Fill.cashFlow ⟨order.id, order.side, q, fillValue q price⟩ := by
        rw [← bookFill_cash (fillValue_onGrid q price) order.id q, ← numeric_val_of_onGrid hgrid]
        rfl
      have hsynced : (db.updateOrder order.id (syncedOrder r status)).portfolio = some row := hrow
      refine ⟨cash_flushPortfolio hsynced hcash hgrid, ?_⟩
      have hfills : (recordReport db order loaded filled status r now).fills =
          db.fills ++ (some (Fill.mk order.id order.side (numeric 8 q).val (fillValue q price))).toList := by
        simp [recordReport, hu, Db.fills, Db.addBrokerSyncLog, addSyncedTrade, Db.flushPortfolio,
          Db.updateOrder, applyFillDeltaToPortfolio, Trade.fill]
      have hflow := netFlow_append hfills
      simp only [recordReport, hu] at hflow
      exact hflow

/-- Rows of other tables touch neither side. -/
theorem Books.rest {c flow : ℚ} (h : Books c flow db db') (rest : OtherTables) :
    Books c flow db (rest.write db') := by
  obtain ⟨hcash, hflow⟩ := h
  refine ⟨?_, ?_⟩
  · rw [← hcash, Db.cash, rest.portfolio]; rfl
  · rw [← hflow, Db.netFlow, Db.fills, rest.trades]; rfl

/-- **The law survives a commit exactly if it moved no cash, or found the cash it had loaded.** -/
theorem Books.cashLedger_iff {c flow : ℚ} (h : Books c flow db db') (hlaw : CashLedger initial db) :
    CashLedger initial db' ↔ (flow ≠ 0 → db.cash = c) := by
  rw [TradingAI.cashLedger_iff] at hlaw ⊢
  rw [h.cash, h.netFlow]
  by_cases hflow : flow = 0
  · simp [hflow, hlaw]
  · rw [if_neg hflow]
    constructor
    · intro heq _; linarith
    · intro heq; have := heq hflow; linarith

/-! ## Every interleaving -/

/-- The condition on an event: a commit that moves the cash finds the cash its transaction had loaded. -/
def FindsItsCash : PortfolioChoice → Db → PortfolioThread → Prop
  | .commit _ _, db, l => bookedFlow l ≠ 0 → db.cash = loadedCash l
  | _, _, _            => True

/-- A commit that books nothing. -/
theorem Books.nothing {c : ℚ} (hcash : db'.cash = db.cash) (hfills : db'.fills = db.fills) :
    Books c 0 db db' :=
  ⟨by rw [if_pos rfl, hcash], by rw [Db.netFlow, hfills]; exact (add_zero _).symm⟩

/-- Only commits publish anything. -/
theorem published_of_not_commit {c : PortfolioChoice} (h : ∀ rest now, c ≠ .commit rest now)
    (db : Db) (l : PortfolioThread) : (portfolioWrites c db l).published db = db := by
  cases c with
  | commit rest now => exact absurd rfl (h rest now)
  | answer | raise => cases l <;> rfl
  | execute | sync => cases l <;> first | rfl | (simp only [portfolioWrites]; split <;> rfl)
  | proceed => cases l <;> first | rfl | (simp only [portfolioWrites]; split <;> rfl)

/-- **What a commit publishes** books what its thread has computed. -/
theorem commit_books (rest : OtherTables) (now : DateTime) (l : PortfolioThread)
    (hrow : db.portfolio = some row) :
    Books (loadedCash l) (bookedFlow l) db ((portfolioWrites (.commit rest now) db l).published db) := by
  cases l with
  | placed id s loaded answer => exact (recordPlacement_books id s answer now hrow).rest rest
  | counted order loaded status r filled =>
      exact (recordReport_books order filled status r now hrow).rest rest
  | loaded order loaded r =>
      simp only [portfolioWrites]
      split
      · have hbooks : Books 0 0 db (recordUnknownStatus db order loaded r now) := .nothing rfl rfl
        exact hbooks.rest rest
      · exact .nothing rfl rfl
  | _ => exact .nothing rfl rfl

/-- The portfolio row is never deleted. -/
theorem published_portfolio (c : PortfolioChoice) (l : PortfolioThread) (h : db.portfolio.isSome) :
    ((portfolioWrites c db l).published db).portfolio.isSome := by
  by_cases hc : ∃ rest now, c = .commit rest now
  · obtain ⟨rest, now, rfl⟩ := hc
    cases l with
    | placed id s loaded answer =>
        show (rest.write (recordPlacement db id s loaded answer now)).portfolio.isSome
        rw [rest.portfolio]
        cases answer <;> simpa [recordPlacement, Db.flushPortfolio] using h
    | counted order loaded status r filled =>
        show (rest.write (recordReport db order loaded filled status r now)).portfolio.isSome
        rw [rest.portfolio]
        cases hu : unbookedBeyond filled r <;>
          simpa [recordReport, hu, Db.flushPortfolio, Db.addBrokerSyncLog, addSyncedTrade, Db.updateOrder]
            using h
    | loaded order loaded r =>
        simp only [portfolioWrites]
        split
        · show (rest.write (recordUnknownStatus db order loaded r now)).portfolio.isSome
          rw [rest.portfolio]
          exact h
        · exact h
    | _ => exact h
  · rw [published_of_not_commit (fun rest now heq => hc ⟨rest, now, heq⟩)]
    exact h

/-- **Step lemma**: an event keeps the law exactly if it meets the condition. -/
theorem exec_cashLedger {m : Machine Db PortfolioThread} (hrow : m.data.portfolio.isSome)
    (hlaw : CashLedger initial m.data) (e : Event PortfolioChoice) :
    CashLedger initial (exec portfolioWrites e m).data ↔
      FindsItsCash e.choice m.data (m.threads e.thread) := by
  rw [exec_data]
  obtain ⟨row, hrow⟩ := Option.isSome_iff_exists.mp hrow
  cases hc : e.choice with
  | commit rest now => exact (commit_books rest now _ hrow).cashLedger_iff hlaw
  | _ =>
      rw [published_of_not_commit (by intro _ _ h; cases h)]
      exact ⟨fun _ => trivial, fun _ => hlaw⟩

/-- **When no portfolio update is lost.** In an interleaving of any number of placements and polls on a new
    experiment, the cash agrees with the trades at every moment exactly if each commit that moves the cash
    finds the cash its transaction had loaded; so it does once all have committed. -/
theorem cash_ledger_iff (db : Db) (row : PortfolioRow) (hrow : db.portfolio = some row)
    (hnew : db.trades = []) (es : List (Event PortfolioChoice)) :
    (Runs.Always (exec portfolioWrites) (fun m => CashLedger row.cash.val m.data) es
        ⟨db, none, fun _ => .idle⟩ ↔
      Meets portfolioWrites FindsItsCash es ⟨db, none, fun _ => .idle⟩) ∧
    (Meets portfolioWrites FindsItsCash es ⟨db, none, fun _ => .idle⟩ →
      CashLedger row.cash.val (Runs.run (exec portfolioWrites) es ⟨db, none, fun _ => .idle⟩).data) := by
  have hstart : CashLedger row.cash.val db := by simp [CashLedger, Db.cash, Db.tradedValue, hrow, hnew]
  have hiff : Runs.Always (exec portfolioWrites) (fun m => CashLedger row.cash.val m.data) es
      ⟨db, none, fun _ => .idle⟩ ↔ Meets portfolioWrites FindsItsCash es ⟨db, none, fun _ => .idle⟩ := by
    refine Runs.always_iff_allMeet (J := fun m => m.data.portfolio.isSome) (fun e m hm => ?_)
      (fun e m hm hlaw => exec_cashLedger hm hlaw e) (by simp [hrow]) hstart
    rw [exec_data]
    exact published_portfolio _ _ hm
  exact ⟨hiff, fun hes => (hiff.mpr hes).last⟩

/-! ## Two fills that overlap, and two that do not -/

/-- An approved BUY of `quantity` shares at 100. -/
def smallBuy (quantity : ℚ) : Submission where
  riskResult  := ⟨true, .buy, some quantity, some (quantity * 100), none, []⟩
  riskCheckId := 3
  price       := 100
  symbol      := spySymbol

/-- A report that `quantity` shares of a BUY filled at 100. -/
def boughtReport (quantity : ℚ) : BrokerOrderResult where
  brokerOrderId    := "broker"
  status           := "filled"
  symbol           := spySymbol
  side             := .buy
  quantity         := quantity
  filledQuantity   := quantity
  averageFillPrice := some 100
  submittedAt      := none
  filledAt         := none

/-- The small experiment with an open BUY of five shares. -/
def smallDbWithOrder : Db :=
  (smallDb .buyAndHold .daily).addOrder (orderOf { boughtReport 5 with status := "accepted" } 2 3 0 0)

def noRows : OtherTables := ⟨id, fun _ => rfl, fun _ => rfl⟩

/-- A step buys two shares; while it waits for the broker, the open order is found filled. -/
def overlappingFills : List (Event PortfolioChoice) :=
  [⟨0, .execute 4 (smallBuy 2)⟩,
   ⟨1, .sync 1 (boughtReport 5)⟩, ⟨1, .proceed⟩, ⟨1, .proceed⟩, ⟨1, .commit noRows 0⟩,
   ⟨0, .answer (some (boughtReport 2))⟩, ⟨0, .commit noRows 0⟩]

/-- The same two, one after the other. -/
def separateFills : List (Event PortfolioChoice) :=
  [⟨1, .sync 1 (boughtReport 5)⟩, ⟨1, .proceed⟩, ⟨1, .proceed⟩, ⟨1, .commit noRows 0⟩,
   ⟨0, .execute 4 (smallBuy 2)⟩, ⟨0, .answer (some (boughtReport 2))⟩, ⟨0, .commit noRows 0⟩]

/-- **A lost update**: the step commits 800, computed from the 1000 it had loaded, over the 500 the sync
    left; the trades are worth 700. -/
theorem overlapping_fills_lose_cash :
    ¬ ∀ (db : Db) (row : PortfolioRow) (es : List (Event PortfolioChoice)), db.portfolio = some row →
      db.trades = [] →
      (∀ i, (Runs.run (exec portfolioWrites) es ⟨db, none, fun _ => .idle⟩).threads i = .idle) →
      CashLedger row.cash.val (Runs.run (exec portfolioWrites) es ⟨db, none, fun _ => .idle⟩).data := by
  intro h
  have hidle : ∀ i, (Runs.run (exec portfolioWrites) overlappingFills
      ⟨smallDbWithOrder, none, fun _ => .idle⟩).threads i = .idle := by
    intro i
    rcases i with _ | _ | i <;> rfl
  have hbroken : (Runs.run (exec portfolioWrites) overlappingFills
      ⟨smallDbWithOrder, none, fun _ => .idle⟩).data.cash = 800 ∧
        (Runs.run (exec portfolioWrites) overlappingFills
          ⟨smallDbWithOrder, none, fun _ => .idle⟩).data.tradedValue .buy = 700 ∧
        (Runs.run (exec portfolioWrites) overlappingFills
          ⟨smallDbWithOrder, none, fun _ => .idle⟩).data.tradedValue .sell = 0 := by
    decide +kernel
  have hlaw := h smallDbWithOrder _ overlappingFills rfl rfl hidle
  have hinitial : (numeric 4 1000).val = 1000 := by decide +kernel
  rw [CashLedger, hbroken.1, hbroken.2.1, hbroken.2.2, hinitial] at hlaw
  norm_num at hlaw

/-- One after the other, nothing is lost. -/
theorem separate_fills_keep_cash :
    Runs.Always (exec portfolioWrites) (fun m => CashLedger (numeric 4 1000).val m.data) separateFills
      ⟨smallDbWithOrder, none, fun _ => .idle⟩ :=
  (cash_ledger_iff smallDbWithOrder _ rfl rfl separateFills).1.mpr
    ⟨trivial, trivial, trivial, fun _ => by decide +kernel, trivial, trivial, fun _ => by decide +kernel,
      trivial⟩

end TradingAI
