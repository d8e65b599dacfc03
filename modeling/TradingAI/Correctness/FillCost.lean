import TradingAI.Correctness.OrderReports

/-!
# `Correctness.FillCost` — what the trades of an order cost, against what the broker charged

A poll books the shares that are new, at the average price over all shares so far. When that average has
moved since the last report, the shares already booked keep their old price. Summed by parts, the trades
come to the last quantity at the last average, less `repricing`: every move of the average, times the
shares booked when it moved. Where the average never moves, only rounding is left.

## Contents
- `roundingOf`, `repricing`, `unrecorded`: the three deviations.
- `tally_value`: the summation by parts.
- `fill_cost_iff`, `split_changes_deviation_only`, `abs_deviation_le`, `moving_average_misprices`.
-/

namespace TradingAI

open Rounding Session

/-! ## The deviations -/

/-- What rounding adds to the value of the fill a report books. -/
def roundingAt (t : OrderTally) (r : BrokerOrderResult) : ℚ :=
  if BooksFill t.shares r then
    fillValue (r.filledQuantity - t.shares) (priceOf r)
      - (numeric 8 (r.filledQuantity - t.shares)).val * priceOf r
  else 0

/-- The rounding of all polls. -/
def roundingOf : OrderTally → List BrokerOrderResult → ℚ
  | _, [] => 0
  | t, r :: rs =>
      (if (knownOrderStatus r.status).isSome then roundingAt t r else 0) + roundingOf (t.poll r) rs

/-- **Repricing**: each move of the average price, times the shares booked before. -/
def repricing : OrderTally → ℚ → List BrokerOrderResult → ℚ
  | _, _, [] => 0
  | t, price, r :: rs => t.shares * (priceOf r - price) + repricing (t.poll r) (priceOf r) rs

/-- The last report of a life. -/
def lastReport (placed : BrokerOrderResult) (polls : List BrokerOrderResult) : BrokerOrderResult :=
  polls.getLastD placed

/-- The value of the shares the last report states and the trades do not. -/
def unrecorded (placed : BrokerOrderResult) (polls : List BrokerOrderResult) : ℚ :=
  ((lastReport placed polls).filledQuantity - (orderTally placed polls).shares)
    * priceOf (lastReport placed polls)

/-- **How far the trades are from the charge**: the rounding, less the repricing and what is unrecorded. -/
def deviation (placed : BrokerOrderResult) (polls : List BrokerOrderResult) : ℚ :=
  roundingAt .empty placed + roundingOf (OrderTally.empty.book placed) polls
    - repricing (OrderTally.empty.book placed) (priceOf placed) polls - unrecorded placed polls

/-! ## Summation by parts -/

variable {t : OrderTally} {r : BrokerOrderResult}

theorem book_value (t : OrderTally) (r : BrokerOrderResult) :
    (t.book r).value - (t.book r).shares * priceOf r = t.value - t.shares * priceOf r + roundingAt t r := by
  unfold OrderTally.book roundingAt
  split
  · dsimp only; ring
  · ring

theorem poll_value (t : OrderTally) (r : BrokerOrderResult) :
    (t.poll r).value - (t.poll r).shares * priceOf r = t.value - t.shares * priceOf r +
      if (knownOrderStatus r.status).isSome then roundingAt t r else 0 := by
  unfold OrderTally.poll
  split
  · exact book_value t r
  · rw [add_zero]

/-- The value of a tally after polls, against its shares at the last price. -/
theorem tally_value (price : ℚ) (polls : List BrokerOrderResult) :
    (polls.foldl OrderTally.poll t).value =
      t.value - t.shares * price + (polls.foldl OrderTally.poll t).shares * (polls.map priceOf).getLastD price
        + roundingOf t polls - repricing t price polls := by
  induction polls generalizing t price with
  | nil => simp [roundingOf, repricing]
  | cons r rs ih =>
      have hstep := poll_value t r
      rw [List.foldl_cons, ih (priceOf r), List.map_cons, List.getLastD_cons]
      simp only [roundingOf, repricing]
      linarith

theorem getLastD_map (f : BrokerOrderResult → ℚ) (a : BrokerOrderResult) (l : List BrokerOrderResult) :
    (l.map f).getLastD (f a) = f (l.getLastD a) := by
  induction l generalizing a with
  | nil => rfl
  | cons x xs ih => rw [List.map_cons, List.getLastD_cons, List.getLastD_cons, ih]

/-- **The trades of a life deviate from the charge by `deviation`.** -/
theorem orderTally_value (placed : BrokerOrderResult) (polls : List BrokerOrderResult) :
    (orderTally placed polls).value - (lastReport placed polls).filledQuantity * priceOf (lastReport placed polls)
      = deviation placed polls := by
  have hplaced := book_value .empty placed
  have hpolls := tally_value (t := OrderTally.empty.book placed) (priceOf placed) polls
  rw [getLastD_map] at hpolls
  unfold deviation unrecorded orderTally lastReport at *
  rw [hpolls]
  have hzero : OrderTally.empty.value - OrderTally.empty.shares * priceOf placed = 0 := by
    simp [OrderTally.empty]
  rw [hzero] at hplaced
  linarith

/-! ## The life of an order -/

/-- What the trades of an order are worth. -/
def Db.orderValue (db : Db) (orderId : ℕ) : ℚ := ((db.orderFills orderId).map Fill.orderValue).sum

/-- **The trades cost what the broker charged**: the last quantity at the last average, up to 0.0001 for
    each trade. -/
def CostsWhatCharged (orderId : ℕ) (placed : BrokerOrderResult) (polls : List BrokerOrderResult) (db : Db) :
    Prop :=
  |db.orderValue orderId - (lastReport placed polls).filledQuantity * priceOf (lastReport placed polls)|
    ≤ (db.orderFills orderId).length / 10000

instance (orderId : ℕ) (placed : BrokerOrderResult) (polls : List BrokerOrderResult) (db : Db) :
    Decidable (CostsWhatCharged orderId placed polls db) :=
  inferInstanceAs (Decidable (|_| ≤ (_ : ℚ)))

variable {env : StepEnv} {senv : SyncEnv} {id : ℕ} {s : Submission}
variable {polls : List BrokerOrderResult}

/-- **What the trades of an order cost**: they move the cash by their value, and cost what the broker
    charged exactly when the rounding, the repricing and what is unrecorded come to no more than 0.0001 for
    each trade. -/
theorem fill_cost_iff (st : Store Db BrokerBook) (h : LifeStart env id s r st.current) (hworks : ∀ o, senv.fault o = none) :
    ((orderLife env senv id s st.current.nextId polls).exec st).current.cash = st.current.cash +
        cashMoved r.side
          (((orderLife env senv id s st.current.nextId polls).exec st).current.orderValue st.current.nextId) ∧
      (CostsWhatCharged st.current.nextId r polls
          ((orderLife env senv id s st.current.nextId polls).exec st).current ↔
        |deviation r polls| ≤ (orderTally r polls).trades / 10000) := by
  have htracks := orderLife_exec polls h hworks
  refine ⟨?_, ?_⟩
  · rw [htracks.cash, Db.orderValue, htracks.value]
  · rw [CostsWhatCharged, Db.orderValue, htracks.value, htracks.trades, orderTally_value]

/-! ## Two ways of splitting a fill -/

/-- What the trades of a life are worth. -/
def lifeCost (env : StepEnv) (senv : SyncEnv) (id : ℕ) (s : Submission) (polls : List BrokerOrderResult)
    (st : Store Db BrokerBook) : ℚ :=
  ((orderLife env senv id s st.current.nextId polls).exec st).current.orderValue st.current.nextId

/-- They are worth the charge, but for their deviation. -/
theorem lifeCost_eq (st : Store Db BrokerBook) (h : LifeStart env id s r st.current) (hworks : ∀ o, senv.fault o = none) :
    lifeCost env senv id s polls st =
      (lastReport r polls).filledQuantity * priceOf (lastReport r polls) + deviation r polls := by
  rw [lifeCost, Db.orderValue, (orderLife_exec polls h hworks).value, ← orderTally_value]
  ring

/-- **How the fill was split does not matter**: two lives that end in the same report cost the same, but for
    their deviations. Where each costs what the broker charged, they differ by at most 0.0001 for each trade
    of either. -/
theorem split_changes_deviation_only {env' : StepEnv} {senv' : SyncEnv} {id' : ℕ} {s' : Submission}
    {r' : BrokerOrderResult} {polls' : List BrokerOrderResult} (st st' : Store Db BrokerBook)
    (h : LifeStart env id s r st.current) (h' : LifeStart env' id' s' r' st'.current)
    (hworks : ∀ o, senv.fault o = none) (hworks' : ∀ o, senv'.fault o = none)
    (hend : lastReport r polls = lastReport r' polls') :
    lifeCost env senv id s polls st - lifeCost env' senv' id' s' polls' st' =
        deviation r polls - deviation r' polls' ∧
      (|deviation r polls| ≤ (orderTally r polls).trades / 10000 →
        |deviation r' polls'| ≤ (orderTally r' polls').trades / 10000 →
          |lifeCost env senv id s polls st - lifeCost env' senv' id' s' polls' st'| ≤
            ((orderTally r polls).trades + (orderTally r' polls').trades) / 10000) := by
  have hdiff : lifeCost env senv id s polls st - lifeCost env' senv' id' s' polls' st' =
      deviation r polls - deviation r' polls' := by
    rw [lifeCost_eq st h hworks, lifeCost_eq st' h' hworks', hend]
    ring
  refine ⟨hdiff, fun hclose hclose' => ?_⟩
  rw [hdiff]
  calc |deviation r polls - deviation r' polls'|
      ≤ |deviation r polls| + |deviation r' polls'| := abs_sub _ _
    _ ≤ _ := by linarith

/-! ## A constant average -/

/-- A fill is rounded by at most half a unit of the column. -/
theorem abs_roundingAt_le (h : OnGrid 8 (r.filledQuantity - t.shares)) :
    |roundingAt t r| ≤ ((t.book r).trades - t.trades : ℚ) / 20000 := by
  unfold roundingAt OrderTally.book
  split
  · have hround := abs_quantize4_sub_le ((r.filledQuantity - t.shares) * priceOf r)
    rw [numeric_val_of_onGrid h]
    unfold fillValue
    push_cast
    linarith
  · simp

/-- **Cumulative reports** that start from a tally `t`: known status words, amounts a column holds, never
    fewer shares than before, and the price `a` as soon as there are any. -/
def Cumulative (a : ℚ) : OrderTally → List BrokerOrderResult → Prop
  | _, [] => True
  | t, r :: rs =>
      (knownOrderStatus r.status).isSome = true ∧ OnGrid 8 r.filledQuantity ∧ t.shares ≤ r.filledQuantity ∧
        (0 < r.filledQuantity → r.averageFillPrice = some a) ∧ Cumulative a (t.book r) rs

/-- Cumulative reports are booked to the share. -/
theorem book_shares (hnonneg : 0 ≤ t.shares) (hgrid : OnGrid 8 t.shares) (hr : OnGrid 8 r.filledQuantity)
    (hmono : t.shares ≤ r.filledQuantity) (hprice : 0 < r.filledQuantity → r.averageFillPrice.isSome = true) :
    (t.book r).shares = r.filledQuantity := by
  unfold OrderTally.book
  split
  · dsimp only
    rw [numeric_val_of_onGrid (hr.sub hgrid)]
    ring
  · next hnot =>
      rcases hmono.lt_or_eq with hlt | heq
      · exact absurd ⟨hlt, hprice (hnonneg.trans_lt hlt)⟩ hnot
      · exact heq

/-- Polls at a constant average reprice nothing, and are rounded by half a unit each. -/
theorem constant_polls {a price : ℚ} {polls : List BrokerOrderResult} (hnonneg : 0 ≤ t.shares)
    (hgrid : OnGrid 8 t.shares) (hprice : 0 < t.shares → price = a) (h : Cumulative a t polls) :
    repricing t price polls = 0 ∧
      |roundingOf t polls| ≤ ((polls.foldl OrderTally.poll t).trades - t.trades : ℚ) / 20000 ∧
      (polls.foldl OrderTally.poll t).shares = (polls.map OrderReport.filledQuantity).getLastD t.shares := by
  induction polls generalizing t price with
  | nil => simp [repricing, roundingOf]
  | cons r rs ih =>
      obtain ⟨hknown, hr, hmono, hat, hrest⟩ := h
      have hpoll : t.poll r = t.book r := by unfold OrderTally.poll; rw [if_pos hknown]
      have hshares := book_shares hnonneg hgrid hr hmono fun hpos => by rw [hat hpos]; rfl
      have hnext : 0 < (t.book r).shares → priceOf r = a := by
        rw [hshares]; intro hpos; rw [priceOf, hat hpos]; rfl
      obtain ⟨hre, hround, htotal⟩ := ih (hshares ▸ hnonneg.trans hmono) (hshares ▸ hr) hnext hrest
      have hthis : t.shares * (priceOf r - price) = 0 := by
        rcases hnonneg.lt_or_eq with hpos | hzero
        · rw [hprice hpos, hnext (hshares ▸ hpos.trans_le hmono), sub_self, mul_zero]
        · rw [← hzero, zero_mul]
      have hone := abs_roundingAt_le (t := t) (r := r) (hr.sub hgrid)
      simp only [repricing, roundingOf, List.foldl_cons, hpoll, if_pos hknown, hthis, hre, List.map_cons,
        List.getLastD_cons, zero_add, true_and]
      refine ⟨?_, by rw [htotal, hshares]⟩
      calc |roundingAt t r + roundingOf (t.book r) rs|
          ≤ |roundingAt t r| + |roundingOf (t.book r) rs| := abs_add_le _ _
        _ ≤ _ := by linarith

/-- **Where the average never moves, only rounding is left**, half a unit for each trade. -/
theorem abs_deviation_le {a : ℚ} {placed : BrokerOrderResult} {polls : List BrokerOrderResult}
    (hnonneg : 0 ≤ placed.filledQuantity) (hgrid : OnGrid 8 placed.filledQuantity)
    (hprice : 0 < placed.filledQuantity → placed.averageFillPrice = some a)
    (h : Cumulative a (OrderTally.empty.book placed) polls) :
    |deviation placed polls| ≤ (orderTally placed polls).trades / 20000 := by
  have hshares : (OrderTally.empty.book placed).shares = placed.filledQuantity :=
    book_shares le_rfl OnGrid.zero hgrid hnonneg fun hpos => by rw [hprice hpos]; rfl
  have hat : 0 < (OrderTally.empty.book placed).shares → priceOf placed = a := by
    rw [hshares]; intro hpos; rw [priceOf, hprice hpos]; rfl
  obtain ⟨hre, hround, htotal⟩ := constant_polls (hshares ▸ hnonneg) (hshares ▸ hgrid) hat h
  have hunrecorded : unrecorded placed polls = 0 := by
    rw [unrecorded, orderTally, htotal, hshares, getLastD_map, lastReport, sub_self, zero_mul]
  have hone := abs_roundingAt_le (t := .empty) (r := placed) (hgrid.sub OnGrid.zero)
  rw [deviation, hre, hunrecorded, sub_zero, sub_zero]
  have hempty : (OrderTally.empty.trades : ℚ) = 0 := by simp [OrderTally.empty]
  rw [hempty] at hone
  calc |roundingAt .empty placed + roundingOf (OrderTally.empty.book placed) polls|
      ≤ |roundingAt .empty placed| + |roundingOf (OrderTally.empty.book placed) polls| := abs_add_le _ _
    _ ≤ _ := by unfold orderTally; linarith

/-! ## A price that moves -/

/-- **A moving average misprices**: five shares at 100, then five more at 120; the broker charged 1100, and
    the trades come to 1050. -/
theorem moving_average_misprices :
    ¬ ∀ (env : StepEnv) (senv : SyncEnv) (id : ℕ) (s : Submission) (r : BrokerOrderResult)
        (st : Store Db BrokerBook) (polls : List BrokerOrderResult),
      LifeStart env id s r st.current → (∀ o, senv.fault o = none) →
      ((r :: polls).map OrderReport.filledQuantity).Pairwise (· ≤ ·) →
      (∀ x ∈ r :: polls, 0 < x.filledQuantity → x.averageFillPrice.isSome = true) →
        CostsWhatCharged st.current.nextId r polls
          ((orderLife env senv id s st.current.nextId polls).exec st).current := by
  intro h
  have hcosts := h (smallEnv 100 fun _ => .ok (fillReport "partially_filled" 5 100)) workingSync 1 tenShares
    (fillReport "partially_filled" 5 100) tenSharesStore [fillReport "filled" 10 110] (tenShares_start _)
    (fun _ => rfl) (by decide +kernel) (by decide +kernel)
  revert hcosts
  decide +kernel

/-- At a constant average the ten shares cost what the broker charged. -/
theorem constant_average_costs :
    CostsWhatCharged 2 (fillReport "partially_filled" 5 100) [fillReport "filled" 10 100]
      ((orderLife (smallEnv 100 fun _ => .ok (fillReport "partially_filled" 5 100)) workingSync 1 tenShares 2
        [fillReport "filled" 10 100]).exec tenSharesStore).current :=
  (fill_cost_iff tenSharesStore (tenShares_start _) fun _ => rfl).2.mpr (by decide +kernel)

end TradingAI
