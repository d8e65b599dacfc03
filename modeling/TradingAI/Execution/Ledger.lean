import TradingAI.Execution.OrderSync

/-!
# `Execution.Ledger` — cash, position and keys along a run

Both transactions that move money, placing and polling, add at most one fill. Here is what they do to the
two numbers of the portfolio, in terms of that fill alone, and the key discipline that keeps rows of
different steps and orders apart.

## Contents
- `Fill.cashFlow`, `Fill.shares`; `Db.cash`, `Db.position`.
- `Executed.cash`, `Executed.position`, `Reported.cash`, `Reported.position`.
- `Db.WellKeyed` and how every transaction keeps it.
-/

namespace TradingAI

open Rounding PaperExecutionProvider PaperBrokerSyncService

/-! ## Cash and shares -/

/-- What a fill does to the cash. -/
def Fill.cashFlow (f : Fill) : ℚ :=
  match f.side with
  | .buy  => -f.orderValue
  | .sell => f.orderValue

/-- What a fill does to the position. -/
def Fill.shares (f : Fill) : ℚ :=
  match f.side with
  | .buy  => f.quantity
  | .sell => -f.quantity

/-- The experiment's cash. -/
def Db.cash (db : Db) : ℚ := db.portfolio.elim 0 fun row => row.cash.val

/-- The experiment's position. -/
def Db.position (db : Db) : ℚ := db.portfolio.elim 0 PortfolioRow.position

/-- What the trades of one side are worth. -/
def Db.tradedValue (db : Db) (side : OrderSide) : ℚ :=
  ((db.trades.filter (·.side = side)).map fun t => t.orderValue.val).sum

/-- A position after `shares` more, or fewer; never below zero when it shrinks. -/
def settlePosition (position : ℚ) (f : Fill) : ℚ :=
  match f.side with
  | .buy  => position + f.quantity
  | .sell => max (position - f.quantity) 0

@[simp] theorem Portfolio.row_cash (p : Portfolio) : p.row.cash = numeric 4 p.cash := rfl

@[simp] theorem Portfolio.markedTo_cash (p : Portfolio) (price : ℚ) (t : DateTime) :
    (p.markedTo price t).cash = p.cash := rfl

@[simp] theorem Portfolio.markedTo_heldQuantity (p : Portfolio) (price : ℚ) (t : DateTime) :
    (p.markedTo price t).heldQuantity = p.heldQuantity := rfl

/-- The stored position is the held quantity, rounded to the column. -/
theorem Portfolio.row_position (p : Portfolio) : p.row.position = (numeric 8 p.heldQuantity).val := by
  unfold PortfolioRow.position Portfolio.heldQuantity Portfolio.row
  cases p.positionQuantity with
  | none => exact (numeric_val_of_onGrid OnGrid.zero).symm
  | some q => rfl

theorem PortfolioRow.position_onGrid (row : PortfolioRow) : OnGrid 8 row.position := by
  unfold PortfolioRow.position
  cases row.positionQuantity with
  | none => exact OnGrid.zero
  | some q => exact q.onGrid

variable {portfolio : PortfolioRow} {side : OrderSide} {symbol : String} {quantity value : ℚ}

/-- Booking a stored value moves the stored cash by exactly that value. -/
theorem bookFill_cash (hvalue : OnGrid 4 value) (id : ℕ) (q : ℚ) :
    (numeric 4 (portfolio.load.bookFill side symbol quantity value).cash).val =
      portfolio.cash.val + (Fill.mk id side q value).cashFlow := by
  cases side with
  | buy =>
      have hgrid : OnGrid 4 (portfolio.cash.val - value) := portfolio.cash.onGrid.sub hvalue
      show (numeric 4 (quantize4 (portfolio.cash.val - value))).val = portfolio.cash.val + -value
      rw [quantize4_of_onGrid hgrid, numeric_val_of_onGrid hgrid, sub_eq_add_neg]
  | sell =>
      have hgrid : OnGrid 4 (portfolio.cash.val + value) := portfolio.cash.onGrid.add hvalue
      have hcash : (portfolio.load.bookFill .sell symbol quantity value).cash =
          quantize4 (portfolio.cash.val + value) := by
        simp only [Portfolio.bookFill]; split <;> rfl
      rw [hcash, quantize4_of_onGrid hgrid, numeric_val_of_onGrid hgrid]
      rfl

/-- Booking moves the held quantity, down to zero. -/
theorem bookFill_heldQuantity (p : Portfolio) (id : ℕ) (v : ℚ) :
    (p.bookFill side symbol quantity value).heldQuantity =
      settlePosition p.heldQuantity (Fill.mk id side quantity v) := by
  cases side with
  | buy => rfl
  | sell =>
      simp only [Portfolio.bookFill, settlePosition]
      split
      · next h => rw [max_eq_right h]; rfl
      · next h => rw [max_eq_left (not_le.mp h).le]; rfl

theorem settlePosition_onGrid {position : ℚ} {f : Fill} (hp : OnGrid 8 position)
    (hq : OnGrid 8 f.quantity) : OnGrid 8 (settlePosition position f) := by
  unfold settlePosition
  split
  · exact hp.add hq
  · rcases max_choice (position - f.quantity) 0 with h | h <;> rw [h]
    · exact hp.sub hq
    · exact OnGrid.zero

/-- Booking a quantity the column can hold moves the stored position by it, down to zero. -/
theorem bookFill_position (hquantity : OnGrid 8 quantity) (id : ℕ) (v : ℚ) :
    (numeric 8 (portfolio.load.bookFill side symbol quantity value).heldQuantity).val =
      settlePosition portfolio.position (Fill.mk id side quantity v) := by
  rw [bookFill_heldQuantity _ id v, PortfolioRow.load_heldQuantity]
  exact numeric_val_of_onGrid (settlePosition_onGrid portfolio.position_onGrid hquantity)

/-! ## What a transaction does to them -/

/-- The cash flow of the fill a transaction adds, if it adds one. -/
def cashFlowOf (entry : Option Fill) : ℚ := entry.elim 0 Fill.cashFlow

/-- The position after the fill a transaction adds, if it adds one. -/
def positionAfter (position : ℚ) (entry : Option Fill) : ℚ := entry.elim position (settlePosition position)

/-- Booking takes no more shares than the fill has. -/
theorem le_positionAfter (position : ℚ) (entry : Option Fill) :
    position + entry.elim 0 Fill.shares ≤ positionAfter position entry := by
  cases entry with
  | none => exact (add_zero position).le
  | some f =>
      simp only [positionAfter, Option.elim_some, settlePosition, Fill.shares]
      cases f.side with
      | buy => exact le_rfl
      | sell => rw [← sub_eq_add_neg]; exact le_max_left _ _

/-- It takes exactly those if they are there. -/
theorem positionAfter_eq {position : ℚ} {entry : Option Fill}
    (h : ∀ f ∈ entry, f.side = .sell → f.quantity ≤ position) :
    positionAfter position entry = position + entry.elim 0 Fill.shares := by
  cases entry with
  | none => exact (add_zero position).symm
  | some f =>
      have hf := h f rfl
      simp only [positionAfter, Option.elim_some, settlePosition, Fill.shares]
      cases hside : f.side with
      | buy => rfl
      | sell =>
          rw [← sub_eq_add_neg]
          exact max_eq_left (sub_nonneg.mpr (hf hside))

theorem immediateFill_cash (r : BrokerOrderResult) (s id : ℕ) (at_ now : DateTime) :
    (numeric 4 (immediateFill r portfolio.load s at_ now).1.cash).val =
      portfolio.cash.val + cashFlowOf (immediateEntry r id) := by
  unfold immediateFill immediateEntry
  cases r.averageFillPrice with
  | none => simp [cashFlowOf]
  | some price =>
      dsimp only
      split
      · simp only [applyFillToPortfolio, numeric_fillValue]
        exact bookFill_cash (fillValue_onGrid _ _) id _
      · simp [cashFlowOf]

theorem immediateFill_position {r : BrokerOrderResult} (hr : OnGrid 8 r.filledQuantity) (s id : ℕ)
    (at_ now : DateTime) :
    (numeric 8 (immediateFill r portfolio.load s at_ now).1.heldQuantity).val =
      positionAfter portfolio.position (immediateEntry r id) := by
  unfold immediateFill immediateEntry
  have hsame : (numeric 8 portfolio.load.heldQuantity).val = portfolio.position :=
    numeric_val_of_onGrid portfolio.position_onGrid
  cases r.averageFillPrice with
  | none => exact hsame
  | some price =>
      dsimp only
      split
      · simp only [applyFillToPortfolio, numeric_val_of_onGrid hr]
        exact bookFill_position hr id _
      · exact hsame

variable {env : StepEnv} {executionStepId : ℕ} {s : Submission} {r : BrokerOrderResult} {db db' : Db}
variable {o : Order} {status : OrderStatus} {now : DateTime}

/-- **Placing an order moves the cash by its immediate fill.** -/
theorem Executed.cash (h : Executed env executionStepId s r db db') :
    db'.cash = db.cash + cashFlowOf (immediateEntry r db.nextId) := by
  obtain ⟨row, hrow, hrow'⟩ := h.portfolio
  simp only [Db.cash, hrow, hrow', Option.elim_some, Portfolio.row_cash, Portfolio.markedTo_cash]
  exact immediateFill_cash r _ _ _ _

theorem Executed.position (h : Executed env executionStepId s r db db')
    (hr : OnGrid 8 r.filledQuantity) :
    db'.position = positionAfter db.position (immediateEntry r db.nextId) := by
  obtain ⟨row, hrow, hrow'⟩ := h.portfolio
  simp only [Db.position, hrow, hrow', Option.elim_some, Portfolio.row_position,
    Portfolio.markedTo_heldQuantity]
  exact immediateFill_position hr _ _ _ _

/-- What is booked for an order is a number of shares a column can hold. -/
theorem filledOf_onGrid (db : Db) (id : ℕ) : OnGrid 8 (filledOf db.fills id) := by
  refine OnGrid.sum fun x hx => ?_
  obtain ⟨f, hf, rfl⟩ := List.mem_map.mp hx
  obtain ⟨t, -, rfl⟩ := List.mem_map.mp (List.mem_of_mem_filter hf)
  exact t.quantity.onGrid

/-- The unbooked part of a report is what it says beyond the booked quantity. -/
theorem unbookedFill_eq_some {q price : ℚ} (h : unbookedFill db o.id r = some (q, price)) :
    q = r.filledQuantity - filledOf db.fills o.id ∧ 0 < q ∧ r.averageFillPrice = some price := by
  unfold unbookedFill at h
  rw [Db.filledQuantityByOrder_eq] at h
  by_cases hpos : 0 < r.filledQuantity - filledOf db.fills o.id
  · simp only [if_pos hpos, Option.map_eq_some_iff] at h
    obtain ⟨_, hprice, heq⟩ := h
    obtain ⟨rfl, rfl⟩ := Prod.mk.inj heq
    exact ⟨rfl, hpos, hprice⟩
  · simp [hpos] at h

theorem reportedPortfolio_cash :
    (reportedPortfolio db o portfolio r now).cash.val = portfolio.cash.val + cashFlowOf (deltaEntry db o r) := by
  unfold reportedPortfolio deltaEntry
  cases unbookedFill db o.id r with
  | none => simp [cashFlowOf]
  | some delta =>
      simp only [Option.map_some, cashFlowOf, Option.elim_some, numeric_fillValue, Portfolio.row_cash]
      exact bookFill_cash (fillValue_onGrid _ _) o.id _

theorem reportedPortfolio_position (hr : OnGrid 8 r.filledQuantity) :
    (reportedPortfolio db o portfolio r now).position =
      positionAfter portfolio.position (deltaEntry db o r) := by
  unfold reportedPortfolio deltaEntry
  cases hu : unbookedFill db o.id r with
  | none => rfl
  | some delta =>
      obtain ⟨q, p⟩ := delta
      have hq : OnGrid 8 q := by
        rw [(unbookedFill_eq_some hu).1]; exact hr.sub (filledOf_onGrid db o.id)
      simp only [Option.map_some, positionAfter, Option.elim_some, numeric_val_of_onGrid hq,
        Portfolio.row_position]
      exact bookFill_position hq o.id _

/-- **A poll moves the cash by the fill it adds.** -/
theorem Reported.cash (h : Reported o status r now db db') :
    db'.cash = db.cash + cashFlowOf (deltaEntry db o r) := by
  obtain ⟨row, hrow, hrow'⟩ := h.portfolio
  simp only [Db.cash, hrow, hrow', Option.elim_some, reportedPortfolio_cash]

theorem Reported.position (h : Reported o status r now db db') (hr : OnGrid 8 r.filledQuantity) :
    db'.position = positionAfter db.position (deltaEntry db o r) := by
  obtain ⟨row, hrow, hrow'⟩ := h.portfolio
  simp only [Db.position, hrow, hrow', Option.elim_some, reportedPortfolio_position hr]

/-! ## Keys -/

/-- **Keys are old**: every key a row refers to was drawn before the next one, and no two orders share
    one. -/
structure Db.WellKeyed (db : Db) : Prop where
  steps      : ∀ st ∈ db.steps, st.id < db.nextId
  marketData : ∀ m ∈ db.marketData, m.executionStepId < db.nextId
  orders     : ∀ x ∈ db.orders, x.id < db.nextId ∧ x.executionStepId < db.nextId ∧
    x.riskCheckId < db.nextId
  distinct   : (db.orders.map Order.id).Nodup
  fills      : ∀ f ∈ db.fills, f.orderId < db.nextId

namespace Db.WellKeyed

/-- Rows that stay keep their keys old. -/
theorem of_core (h : db.WellKeyed) (hcore : db'.core = db.core) (hnext : db.nextId ≤ db'.nextId) :
    db'.WellKeyed where
  steps st hst := (h.steps st (by rwa [← show db'.steps = db.steps from congrArg Core.steps hcore])).trans_le hnext
  marketData m hm := (h.marketData m
    (by rwa [← show db'.marketData = db.marketData from congrArg Core.marketData hcore])).trans_le hnext
  orders x hx := by
    have := h.orders x (by rwa [← show db'.orders = db.orders from congrArg Core.orders hcore])
    omega
  distinct := by rw [show db'.orders = db.orders from congrArg Core.orders hcore]; exact h.distinct
  fills f hf := (h.fills f (by
    rwa [← show db'.fills = db.fills from congrArg (fun c : Core => c.trades.map Trade.fill) hcore])).trans_le
      hnext

theorem addNextStep (h : db.WellKeyed) (trigger : TriggerType) (slot t : DateTime) :
    (db.addNextStep trigger slot t).WellKeyed := by
  have hnext : (db.addNextStep trigger slot t).nextId = db.nextId + 1 := rfl
  refine ⟨fun st hst => ?_, fun m hm => (h.marketData m hm).trans (Nat.lt_succ_self _), fun x hx => ?_,
    h.distinct, fun f hf => (h.fills f hf).trans (Nat.lt_succ_self _)⟩
  · rw [hnext]
    rcases List.mem_append.mp hst with hst | hst
    · exact (h.steps st hst).trans (Nat.lt_succ_self _)
    · rw [List.mem_singleton.mp hst]; exact Nat.lt_succ_self _
  · have := h.orders x hx; omega

/-- Step updates keep the keys of the steps. -/
theorem steps_map {ids : List ExecutionStep} {n : ℕ} {f : ExecutionStep → ExecutionStep}
    (hf : ∀ st, (f st).id = st.id) (h : ∀ st ∈ ids, st.id < n) {id : ℕ} :
    ∀ st ∈ ids.map (fun st => if st.id = id then f st else st), st.id < n := by
  intro st hst
  obtain ⟨st₀, hst₀, rfl⟩ := List.mem_map.mp hst
  split
  · rw [hf]; exact h st₀ hst₀
  · exact h st₀ hst₀

/-- A market data row for an existing step is added. -/
theorem marketData_append {rows : List MarketDataSnapshot} {row : MarketDataSnapshot} {n m : ℕ}
    (h : ∀ x ∈ rows, x.executionStepId < n) (hrow : row.executionStepId < n) (hnm : n ≤ m) :
    ∀ x ∈ rows ++ [row], x.executionStepId < m := by
  intro x hx
  rcases List.mem_append.mp hx with hx | hx
  · exact (h x hx).trans_le hnm
  · rw [List.mem_singleton.mp hx]; exact hrow.trans_le hnm

theorem prepared {price : ℚ} (h : db.WellKeyed) (hp : Prepared executionStepId price db db')
    (hid : executionStepId < db.nextId) : db'.WellKeyed := by
  obtain ⟨⟨row, hrow, -, hcore⟩, hnext⟩ := hp
  have hsteps : db'.steps = db.steps := congrArg Core.steps hcore
  have hmarket : db'.marketData = db.marketData ++ [row] := congrArg Core.marketData hcore
  have horders : db'.orders = db.orders := congrArg Core.orders hcore
  have hfills : db'.fills = db.fills := congrArg (fun c : Core => c.trades.map Trade.fill) hcore
  refine ⟨?_, ?_, ?_, ?_, ?_⟩
  · rw [hsteps]; exact fun st hst => (h.steps st hst).trans_le hnext
  · rw [hmarket]; exact marketData_append h.marketData (hrow ▸ hid) hnext
  · rw [horders]; intro x hx; have := h.orders x hx; omega
  · rw [horders]; exact h.distinct
  · rw [hfills]; exact fun f hf => (h.fills f hf).trans_le hnext

theorem concluded {price : ℚ} (h : db.WellKeyed) (hc : Concluded executionStepId price db db')
    (hid : executionStepId < db.nextId) : db'.WellKeyed := by
  obtain ⟨⟨row, st, timestamp, t, -, hrow, -, hcore⟩, hnext⟩ := hc
  have hsteps : db'.steps = (db.updateStep executionStepId (·.completedStep t)).steps :=
    congrArg Core.steps hcore
  have hmarket : db'.marketData = db.marketData ++ [row] := congrArg Core.marketData hcore
  have horders : db'.orders = db.orders := congrArg Core.orders hcore
  have hfills : db'.fills = db.fills := congrArg (fun c : Core => c.trades.map Trade.fill) hcore
  refine ⟨?_, ?_, ?_, ?_, ?_⟩
  · rw [hsteps]
    exact steps_map (f := (·.completedStep t)) (fun _ => rfl) fun st hst => (h.steps st hst).trans_le hnext
  · rw [hmarket]; exact marketData_append h.marketData (hrow ▸ hid) hnext
  · rw [horders]; intro x hx; have := h.orders x hx; omega
  · rw [horders]; exact h.distinct
  · rw [hfills]; exact fun f hf => (h.fills f hf).trans_le hnext

theorem executed (h : db.WellKeyed) (he : Executed env executionStepId s r db db')
    (hid : executionStepId < db.nextId) (hrisk : s.riskCheckId < db.nextId) : db'.WellKeyed := by
  have hnext := he.nextId
  refine ⟨?_, ?_, ?_, ?_, ?_⟩
  · rw [he.steps]
    refine steps_map (fun st => ?_) fun st hst => (h.steps st hst).trans hnext
    unfold ExecutionStep.finished; split <;> rfl
  · rw [he.marketData]; exact fun m hm => (h.marketData m hm).trans hnext
  · rw [he.orders]
    intro x hx
    rcases List.mem_append.mp hx with hx | hx
    · have := h.orders x hx; omega
    · rw [List.mem_singleton.mp hx]
      exact ⟨hnext, hid.trans hnext, hrisk.trans hnext⟩
  · rw [he.orders, List.map_append, List.nodup_append]
    refine ⟨h.distinct, List.nodup_singleton _, ?_⟩
    rintro _ hx _ hy rfl
    obtain ⟨x, hx, hid⟩ := List.mem_map.mp hx
    have hnew : x.id = db.nextId := by simpa [hid] using hy
    have := (h.orders x hx).1
    omega
  · rw [he.fills]
    intro f hf
    rcases List.mem_append.mp hf with hf | hf
    · exact (h.fills f hf).trans hnext
    · have : f.orderId = db.nextId := by
        unfold immediateEntry at hf
        cases hp : r.averageFillPrice with
        | none => simp [hp] at hf
        | some price =>
            by_cases hq : 0 < r.filledQuantity <;> simp [hp, hq] at hf
            rw [hf]
      omega

theorem reported (h : db.WellKeyed) (hr : Reported o status r now db db') (ho : o ∈ db.orders) :
    db'.WellKeyed := by
  have hnext := hr.nextId
  refine ⟨?_, ?_, ?_, ?_, ?_⟩
  · rw [hr.steps]; exact fun st hst => (h.steps st hst).trans_le hnext
  · rw [hr.marketData]; exact fun m hm => (h.marketData m hm).trans_le hnext
  · rw [hr.orders]
    intro x hx
    obtain ⟨x₀, hx₀, rfl⟩ := List.mem_map.mp hx
    have := h.orders x₀ hx₀
    split
    · simp only [syncedOrder]; omega
    · omega
  · have hids : (db'.orders.map Order.id) = db.orders.map Order.id := by
      rw [hr.orders, List.map_map]
      refine List.map_congr_left fun x _ => ?_
      simp only [Function.comp_apply]
      split <;> rfl
    rw [hids]; exact h.distinct
  · rw [hr.fills]
    intro f hf
    rcases List.mem_append.mp hf with hf | hf
    · exact (h.fills f hf).trans_le hnext
    · have hid : f.orderId = o.id := by
        obtain ⟨d, -, rfl⟩ := Option.map_eq_some_iff.mp (Option.mem_toList.mp hf)
        rfl
      have := (h.orders o ho).1
      omega

end Db.WellKeyed

end TradingAI
