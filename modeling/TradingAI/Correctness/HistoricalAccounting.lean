import TradingAI.Execution.HistoricalLedger
import TradingAI.Correctness.PositionLedger

/-!
# `Correctness.HistoricalAccounting` — the books of a historical run

After every completed step of a historical run the cash is the capital less what was bought plus what was
sold, the position is what was bought less what was sold, and the portfolio value is their sum at the bar's
price, as the step's snapshot says. The cash is never negative: the risk check rounds the quantity down to
whole shares, and then the value of an affordable quantity, rounded to four places, is still affordable.

The strategies do not matter: the books hold for whatever a bar's strategy decides.

## Contents
- `PortfolioBooked`, `StepAccounted`: the books.
- `barStep_keeps_books`: one step.
- `historical_accounting`.
-/

namespace TradingAI

open Rounding SimulationExecutionProvider

/-! ## The books -/

/-- **The books hold** for the portfolio `row`. -/
structure PortfolioBooked (capital : ℚ) (db : Db) (row : PortfolioRow) : Prop where
  stored      : db.portfolio = some row
  cash_nonneg : 0 ≤ row.cash.val
  whole       : ∃ n : ℕ, row.position = n
  symbol      : row.positionSymbol = none ↔ row.position = 0
  cash        : row.cash.val = capital - db.tradedValue .buy + db.tradedValue .sell
  position    : row.position = db.tradedQuantity .buy - db.tradedQuantity .sell

/-- **The books hold after a step**, and its one snapshot shows the portfolio at the price of its bar. -/
def StepAccounted (capital : ℚ) (r : StepRecord) : Prop :=
  ∃ row, PortfolioBooked capital r.db row ∧ row.currentPrice.map Numeric.val = some r.bar.price ∧
    row.currentPortfolioValue.map Numeric.val =
      some (row.cash.val + quantize4 (row.position * r.bar.price)) ∧
    ∃ snapshot, r.db.portfolioSnapshots.filter (·.executionStepId = r.executionStepId) = [snapshot] ∧
      snapshot.totalPortfolioValue = row.currentPortfolioValue

/-- An experiment before its first step: the portfolio is `capital` in cash. -/
structure StartsWith (capital : Numeric 4) (db : Db) : Prop where
  portfolio : ∃ row, db.portfolio = some row ∧ row.cash = capital ∧ row.positionSymbol = none ∧
    row.position = 0
  trades    : db.trades = []
  snapshots : db.portfolioSnapshots = []

/-- What holds between two steps: the books, and no snapshot is of a step still to come. -/
structure BooksHold (capital : ℚ) (db : Db) : Prop where
  accounted : ∃ row, PortfolioBooked capital db row
  snapshots : ∀ p ∈ db.portfolioSnapshots, p.executionStepId < db.nextId

/-! ## Totals of trades -/

/-- A total that does not look at the column written later is a total of the booked trades. -/
theorem total_bookedTrades {f : Trade → ℚ} (hf : ∀ t : Trade, f t.unmarked = f t) (db : Db) (side : OrderSide) :
    ((db.trades.filter (·.side = side)).map f).sum =
      ((db.bookedTrades.filter (·.side = side)).map f).sum := by
  unfold Db.bookedTrades
  rw [List.filter_map, List.map_map]
  have hcomp : f ∘ Trade.unmarked = f := funext hf
  rw [hcomp]
  rfl

/-- The total after one more trade. -/
theorem total_append {f : Trade → ℚ} (trades : List Trade) (t : Trade) (side : OrderSide) :
    (((trades ++ [t]).filter (·.side = side)).map f).sum =
      ((trades.filter (·.side = side)).map f).sum + if t.side = side then f t else 0 := by
  rw [List.filter_append, List.map_append, List.sum_append]
  by_cases h : t.side = side <;> simp [h]

theorem tradedValue_booked (db : Db) (side : OrderSide) :
    db.tradedValue side = ((db.bookedTrades.filter (·.side = side)).map fun t => t.orderValue.val).sum :=
  total_bookedTrades (fun _ => rfl) db side

theorem tradedQuantity_booked (db : Db) (side : OrderSide) :
    db.tradedQuantity side = ((db.bookedTrades.filter (·.side = side)).map fun t => t.quantity.val).sum :=
  total_bookedTrades (fun _ => rfl) db side

/-! ## One step -/

variable {capital : ℚ} {s : BarStep} {id : ℕ} {now : DateTime} {row row' : PortfolioRow} {db db' : Db}

/-- The account the books describe is sound. -/
theorem PortfolioBooked.sound (h : PortfolioBooked capital db row) : row.account.Sound :=
  ⟨h.cash_nonneg, row.cash.onGrid, h.whole⟩

/-- The totals after a step: an order adds its value and its quantity on its side. -/
theorem Stepped.totals (h : Stepped s id now row db db') (hsound : row.account.Sound) :
    db'.tradedValue .sell - db'.tradedValue .buy =
        db.tradedValue .sell - db.tradedValue .buy
          + ((row.account.book s.price (s.order row)).cash - row.account.cash) ∧
      db'.tradedQuantity .buy - db'.tradedQuantity .sell =
        db.tradedQuantity .buy - db.tradedQuantity .sell
          + ((row.account.book s.price (s.order row)).position - row.account.position) := by
  simp only [tradedValue_booked, tradedQuantity_booked, h.trades]
  rw [BarStep.execution_eq]
  cases horder : s.order row with
  | none => simp [SimulationResult.newTrade, Account.book]
  | some o =>
      obtain ⟨side, q⟩ := o
      have hq : OnGrid 8 q := by
        cases side with
        | buy => rw [(Account.order_eq_buy horder).2.2.2]; exact onGrid_floorWholeShares 8 _
        | sell => rw [(Account.order_eq_sell horder).2.2.2]; exact hsound.position_onGrid
      simp only [SimulationResult.newTrade, execute, Option.map_some, Option.toList_some, total_append]
      cases side with
      | buy =>
          simp [Trade.unmarked, tradeOf, Account.book, numeric_val_of_onGrid hq]
          constructor <;> ring
      | sell =>
          simp [Trade.unmarked, tradeOf, Account.book, numeric_val_of_onGrid hq]
          constructor <;> ring

/-- The symbol is there exactly with a position. -/
theorem Stepped.symbol (h : Stepped s id now row db db') (hrow : db'.portfolio = some row')
    (hsound : row.account.Sound) (hsymbol : row.positionSymbol = none ↔ row.position = 0) :
    row'.positionSymbol = none ↔ row'.position = 0 := by
  have hposition : row'.position = (row.account.book s.price (s.order row)).position :=
    congrArg Account.position (h.account hsound hrow)
  rw [hposition]
  obtain rfl := Option.some.inj (hrow.symm.trans h.portfolio)
  show (s.execution row.load id (db.nextId + 2) now).portfolio.positionSymbol = none ↔ _
  rw [BarStep.execution_eq]
  cases horder : s.order row with
  | none => exact hsymbol
  | some o =>
      obtain ⟨side, q⟩ := o
      cases side with
      | buy =>
          obtain ⟨-, -, hq, -⟩ := Account.order_eq_buy horder
          obtain ⟨n, hn⟩ := hsound.whole
          have hpos : 0 < row.account.position + q := by
            rw [hn]
            have : (0 : ℚ) ≤ n := Nat.cast_nonneg n
            linarith
          constructor
          · intro hnone
            cases hnone
          · intro hzero
            exact absurd hzero hpos.ne'
      | sell =>
          obtain ⟨-, -, -, rfl⟩ := Account.order_eq_sell horder
          constructor
          · intro _
            exact sub_self _
          · intro _
            rfl

/-- The stored value is the cash plus the rounded value of the position. -/
theorem Stepped.value (h : Stepped s id now row db db') (hrow : db'.portfolio = some row')
    (hsound : row.account.Sound) :
    row'.currentPortfolioValue.map Numeric.val =
      some (row'.cash.val + quantize4 (row'.position * s.price)) := by
  have hafter : (row.account.book s.price (s.order row)).Sound := hsound.trade _ _
  have haccount := s.execution_account hsound id (db.nextId + 2) now
  have hstored : row'.account = (s.execution row.load id (db.nextId + 2) now).portfolio.account :=
    (h.account hsound hrow).trans haccount.symm
  have hcash : row'.cash.val = (s.execution row.load id (db.nextId + 2) now).portfolio.cash :=
    congrArg Account.cash hstored
  have hposition : row'.position = (s.execution row.load id (db.nextId + 2) now).portfolio.heldQuantity :=
    congrArg Account.position hstored
  rw [hcash, hposition]
  obtain rfl := Option.some.inj (hrow.symm.trans h.portfolio)
  -- neither rounding to the column nor rounding the sum changes it
  have hgrid : OnGrid 4 ((s.execution row.load id (db.nextId + 2) now).portfolio.cash
      + positionValueAt (s.execution row.load id (db.nextId + 2) now).portfolio s.price) := by
    apply OnGrid.add
    · rw [← hcash]
      exact (numeric 4 _).onGrid
    · exact quantize4_onGrid _
  show some (numeric 4 (portfolioValueAt _ s.price)).val = _
  rw [portfolioValueAt, quantize4_of_onGrid hgrid, numeric_val_of_onGrid hgrid]
  rfl

/-- The books after a step. -/
theorem Stepped.accounted (h : Stepped s id now row db db') (hbooked : PortfolioBooked capital db row)
    (hrow : db'.portfolio = some row') : PortfolioBooked capital db' row' := by
  have haccount := h.account hbooked.sound hrow
  have hsound : row'.account.Sound := haccount ▸ hbooked.sound.trade _ _
  obtain ⟨hvalue, hquantity⟩ := h.totals hbooked.sound
  rw [← haccount] at hvalue hquantity
  refine ⟨hrow, hsound.cash, hsound.whole, h.symbol hrow hbooked.sound hbooked.symbol, ?_, ?_⟩
  · have hold : row.account.cash = capital - db.tradedValue .buy + db.tradedValue .sell := hbooked.cash
    show row'.account.cash = _
    linarith
  · have hold : row.account.position = db.tradedQuantity .buy - db.tradedQuantity .sell := hbooked.position
    show row'.account.position = _
    linarith

/-- **One step keeps the books**, at any price on the grid of its column. -/
theorem barStep_keeps_books (capital : ℚ) {s : BarStep} (hgrid : OnGrid 8 s.price) :
    s.Keeps (BooksHold capital) (StepAccounted capital) := by
  intro clock db db' completed hbooks hrun
  obtain ⟨row, hbooked⟩ := hbooks.accounted
  obtain ⟨-, loaded, -, -, hloaded, hstep, -⟩ := runStep_ok hrun
  -- creating the step touches neither the portfolio nor a trade
  have hopened : PortfolioBooked capital (db.addNextStep .historical s.timestamp clock.createdAt) row :=
    ⟨hbooked.stored, hbooked.cash_nonneg, hbooked.whole, hbooked.symbol, hbooked.cash, hbooked.position⟩
  obtain rfl := Option.some.inj (hopened.stored.symm.trans hloaded)
  have haccounted := hstep.accounted hopened hstep.portfolio
  obtain ⟨snapshotId, hsnapshots⟩ := hstep.snapshots
  refine ⟨⟨⟨_, haccounted⟩, fun p hp => ?_⟩, _, haccounted, ?_, hstep.value hstep.portfolio hbooked.sound,
    s.snapshotRow snapshotId db.nextId clock.startedAt _, ?_, rfl⟩
  · have hnext : db.nextId + 1 ≤ db'.nextId := hstep.nextId
    rw [hsnapshots] at hp
    rcases List.mem_append.mp hp with hp | hp
    · exact (hbooks.snapshots p hp).trans_le ((Nat.le_succ _).trans hnext)
    · rw [List.mem_singleton.mp hp]
      exact hnext
  · show some (numeric 8 s.price).val = some s.price
    rw [numeric_val_of_onGrid hgrid]
  · -- the earlier snapshots belong to earlier steps
    have hearlier : db.portfolioSnapshots.filter (·.executionStepId = db.nextId) = [] := by
      rw [List.filter_eq_nil_iff]
      intro p hp
      have := hbooks.snapshots p hp
      simp only [decide_eq_true_eq]
      omega
    rw [hsnapshots, List.filter_append]
    show db.portfolioSnapshots.filter (·.executionStepId = db.nextId) ++ _ = _
    rw [hearlier]
    simp [BarStep.snapshotRow]

/-! ## Every run -/

theorem StartsWith.booksHold {capital : Numeric 4} {db : Db} (h : StartsWith capital db)
    (hcapital : 0 ≤ capital.val) : BooksHold capital.val db := by
  obtain ⟨row, hrow, hcash, hsymbol, hposition⟩ := h.portfolio
  have hvalue : ∀ side, db.tradedValue side = 0 := by
    intro side
    simp [Db.tradedValue, h.trades]
  have hquantity : ∀ side, db.tradedQuantity side = 0 := by
    intro side
    simp [Db.tradedQuantity, h.trades]
  refine ⟨⟨row, hrow, ?_, ⟨0, ?_⟩, ?_, ?_, ?_⟩, ?_⟩
  · rw [hcash]; exact hcapital
  · rw [hposition]; rfl
  · simp [hsymbol, hposition]
  · rw [hcash, hvalue, hvalue]; ring
  · rw [hposition, hquantity, hquantity]; ring
  · rw [h.snapshots]
    intro p hp
    cases hp

/-- **Historical accounting.** Whatever the strategy, the window, the bars and the clock: if the run starts
    with a capital that is not negative, and every price is positive with at most eight decimal places, the
    books hold after every completed step. -/
theorem historical_accounting (o : HistoricalOrchestrator) (env : HistoricalEnv) (capital : Numeric 4) (db : Db)
    (hcapital : 0 ≤ capital.val) (hstart : StartsWith capital db)
    (hprices : env.PricesMeet fun price => 0 < price ∧ OnGrid 8 price) :
    ∀ r ∈ (o.run env db).history, StepAccounted capital.val r :=
  run_keeps (hstart.booksHold hcapital) hprices fun _ h => barStep_keeps_books capital.val h.2

/-- The bars of three days, at 100, 110 and 90. -/
def threeDays : HistoricalEnv where
  clock             := fun n => ⟨2 * n, 2 * n + 1⟩
  closedAt          := 6
  loadRange         := fun _ _ => .ok [barAt 100, barAt 110, barAt 90]
  loadIntradayRange := fun _ _ _ _ => .ok []

theorem threeDays_prices : threeDays.PricesMeet fun price => 0 < price ∧ OnGrid 8 price := by
  have hgrid : ∀ price ∈ [(100 : ℚ), 110, 90], 0 < price ∧ OnGrid 8 price := by decide +kernel
  refine ⟨fun _ _ bars hbars bar hbar => ?_, fun _ _ _ _ bars hbars bar hbar => ?_⟩
  · cases hbars
    rcases List.mem_cons.mp hbar with rfl | hbar
    · exact hgrid 100 (by simp)
    rcases List.mem_cons.mp hbar with rfl | hbar
    · exact hgrid 110 (by simp)
    rw [List.mem_singleton.mp hbar]
    exact hgrid 90 (by simp)
  · cases hbars
    cases hbar

/-- A two-day average over the three days buys on the second and sells on the third, and the books hold after each. -/
theorem threeDays_accounted :
    ((HistoricalOrchestrator.movingAverage.run threeDays ((smallDb .movingAverage .daily).withWindow 2)).history.map
        fun r => r.db.moved) = [[], [(.buy, 9, 990)], [(.buy, 9, 990), (.sell, 9, 810)]] ∧
      ∀ r ∈ (HistoricalOrchestrator.movingAverage.run threeDays ((smallDb .movingAverage .daily).withWindow 2)).history,
        StepAccounted 1000 r := by
  have hcapital : (numeric 4 1000).val = 1000 := by decide +kernel
  refine ⟨by decide +kernel, ?_⟩
  rw [← hcapital]
  apply historical_accounting
  · rw [hcapital]; norm_num
  · exact ⟨⟨_, rfl, rfl, rfl, rfl⟩, rfl, rfl⟩
  · exact threeDays_prices

/-- A small experiment with no capital at all. -/
def noCapital : Db :=
  { smallDb .buyAndHold .daily with
    experiment := some { smallExperiment .buyAndHold .daily with initialCapital := numeric 4 0 }
    portfolio  := some ⟨numeric 4 0, none, none, none, none, none, 0⟩ }

/-- **Without a capital there is a step without a snapshot**: the metrics of the first step divide by the capital, so
    the step fails and is rolled back. -/
theorem noCapital_step_unaccounted :
    ¬ ∀ (o : HistoricalOrchestrator) (env : HistoricalEnv) (capital : Numeric 4) (db : Db), 0 ≤ capital.val →
      StartsWith capital db → env.PricesMeet (fun price => 0 < price ∧ OnGrid 8 price) →
      ∀ step ∈ (o.run env db).db.steps,
        ∃ snapshot ∈ (o.run env db).db.portfolioSnapshots, snapshot.executionStepId = step.id := by
  intro h
  have hsnapshots := h .buyAndHold threeDays (numeric 4 0) noCapital (by decide +kernel)
    ⟨⟨_, rfl, rfl, rfl, rfl⟩, rfl, rfl⟩ threeDays_prices
  have hnone : (HistoricalOrchestrator.buyAndHold.run threeDays noCapital).db.portfolioSnapshots.map (·.id) = [] := by
    decide +kernel
  have hsteps : (HistoricalOrchestrator.buyAndHold.run threeDays noCapital).db.steps.map (·.status) = [.failed] := by
    decide +kernel
  obtain ⟨step, hstep, -⟩ := List.mem_map.mp (hsteps ▸ List.mem_singleton_self ExecutionStepStatus.failed)
  obtain ⟨snapshot, hsnapshot, -⟩ := hsnapshots step hstep
  rw [List.map_eq_nil_iff.mp hnone] at hsnapshot
  cases hsnapshot

end TradingAI
