import TradingAI.Correctness.Drawdown
import TradingAI.Correctness.HistoricalAccounting
import TradingAI.Correctness.NoLookAhead
import TradingAI.Correctness.SteppedRun
import TradingAI.Execution.StepSnapshots

/-!
# `Correctness.EquityCurve` — the metric rows of a historical run are the figures of its equity curve

A step values the portfolio at its bar and computes its metrics from the snapshots it lists, which are read back by
their time, and from the trades it counts. In a run over bars in the order of time the list is the one that was
written: so the metric row of a step is the profit, the return, the deepest fall and the number of trades of the run
up to this step, exactly, and no later step changes it (`metrics_chart_the_run`).

That the times grow is not kept by a step: it is a property of the bars. So what a step keeps is that the rows are
right if the times grow (`ChartedInOrder`), and the bars say that they do (`OnTime`).

## Contents
- `MetricSnapshot.Charts`, `Charted`: what the metric rows say.
- `NewFigures`, `runStep_figures`: the rows of one step; `barStep_charts`.
- `OnTime`: the times of a run.
-/

namespace TradingAI

open Rounding BasicMetricCalculator Outcome SimulationExecutionProvider

/-! ## What the rows say -/

/-- The trades of the steps up to this one. -/
def Db.tradesThrough (db : Db) (executionStepId : ℕ) : ℕ :=
  (db.trades.map Trade.executionStepId).countP (· ≤ executionStepId)

/-- **The figures of a curve**: the profit and the return at its end, and its deepest fall. -/
structure MetricSnapshot.Charts (m : MetricSnapshot) (capital : ℚ) (values : List ℚ) (trades : ℕ) : Prop where
  profit   : ∃ v ∈ values.getLast?, m.profitLoss.val = v - capital ∧
    m.totalReturn.val = quantize8 ((v - capital) / capital)
  drawdown : IsLeast (portfolioFalls values) m.maxDrawdown.val
  trades   : m.numberOfTrades = trades

/-- No snapshot is at or before the time of an earlier one. -/
def SnapshotsAscend (db : Db) : Prop := (db.portfolioSnapshots.map PortfolioSnapshot.timestamp).Pairwise (· < ·)

/-- **The metric rows chart the run**: there is one for each snapshot, of the same step and time, with the figures of
    the snapshots up to it; the drawdown never gets smaller, the last row counts all trades, and the last snapshot has
    the value of the portfolio. -/
structure Charted (capital : ℚ) (db : Db) : Prop where
  ascend  : SnapshotsAscend db
  valued  : ∀ p ∈ db.portfolioSnapshots, p.totalPortfolioValue.isSome
  settled : ∀ p ∈ db.portfolioSnapshots.getLast?,
    db.portfolio.bind PortfolioRow.currentPortfolioValue = p.totalPortfolioValue
  paired  : db.metricSnapshots.map MetricSnapshot.executionStepId =
    db.portfolioSnapshots.map PortfolioSnapshot.executionStepId
  stamped : db.metricSnapshots.map MetricSnapshot.timestamp =
    db.portfolioSnapshots.map PortfolioSnapshot.timestamp
  rows    : ∀ (k : ℕ) (m : MetricSnapshot), db.metricSnapshots[k]? = some m →
    m.Charts capital (portfolioValues (db.portfolioSnapshots.take (k + 1))) (db.tradesThrough m.executionStepId)
  deepens : db.metricSnapshots.Pairwise fun earlier later => later.maxDrawdown.val ≤ earlier.maxDrawdown.val
  counted : ∀ m ∈ db.metricSnapshots.getLast?, m.numberOfTrades = db.trades.length

/-! ## The rows of one step -/

variable {s : BarStep} {id : ℕ} {now : DateTime} {db db' : Db} {completed : Bool} {capital : ℚ}

/-- **The rows a step adds**: a snapshot with the value of the portfolio, and the metrics of that value. -/
structure NewFigures (s : BarStep) (id : ℕ) (initialCapital : ℚ) (db db' : Db) (p : PortfolioSnapshot)
    (m : MetricSnapshot) : Prop where
  snapshots : db'.portfolioSnapshots = db.portfolioSnapshots ++ [p]
  metrics   : db'.metricSnapshots = db.metricSnapshots ++ [m]
  steps     : p.executionStepId = id ∧ m.executionStepId = id
  times     : p.timestamp = s.timestamp ∧ m.timestamp = s.timestamp
  value     : p.totalPortfolioValue = db'.portfolio.bind PortfolioRow.currentPortfolioValue
  figures   : ∃ v, p.totalPortfolioValue = some v ∧
    m.profitLoss = numeric 4 (quantize4 (v.val - initialCapital)) ∧
    m.totalReturn = numeric 8 (quantize8 (quantize4 (v.val - initialCapital) / initialCapital)) ∧
    m.maxDrawdown = numeric 8 (maxDrawdown (portfolioValues db.listPortfolioSnapshots ++ [v.val]))
  trades    : m.numberOfTrades = db'.trades.length
  owned     : ∃ n, db'.trades.map Trade.executionStepId =
    db.trades.map Trade.executionStepId ++ List.replicate n id

/-- The steps of the trades, with the one that is added. -/
theorem steps_recordExecution {db : Db} {r : SimulationResult}
    (h : ∀ trade, r.trade = some trade → trade.executionStepId = id) :
    ∃ n, (db.recordExecution r).trades.map Trade.executionStepId =
      db.trades.map Trade.executionStepId ++ List.replicate n id := by
  obtain ⟨order, trade, portfolio⟩ := r
  cases order with
  | none => exact ⟨0, (List.append_nil _).symm⟩
  | some order =>
      cases trade with
      | none => exact ⟨0, (List.append_nil _).symm⟩
      | some trade =>
          refine ⟨1, ?_⟩
          show (db.trades ++ [_]).map Trade.executionStepId = _
          rw [List.map_append, ← h trade rfl]
          rfl

theorem steps_writePortfolio (db : Db) (p : Portfolio) (tradeId : Option ℕ) :
    (db.writePortfolio p tradeId).trades.map Trade.executionStepId = db.trades.map Trade.executionStepId := by
  unfold Db.writePortfolio
  rw [List.map_map]
  apply List.map_congr_left
  intro t _
  show (if _ then _ else _ : Trade).executionStepId = _
  split <;> rfl

/-- The trade of a bar belongs to its step. -/
theorem trade_of_execution {row : PortfolioRow} {riskCheckId : ℕ} {trade : Trade}
    (h : (s.execution row.load id riskCheckId now).trade = some trade) : trade.executionStepId = id := by
  rw [BarStep.execution_eq] at h
  cases horder : s.order row with
  | none =>
      rw [horder] at h
      cases h
  | some o =>
      rw [horder] at h
      obtain rfl := Option.some.inj h
      rfl

/-- The value of a portfolio is on the grid of its column. -/
theorem portfolioValueAt_val (p : Portfolio) (price : ℚ) :
    (numeric 4 (portfolioValueAt p price)).val = portfolioValueAt p price :=
  numeric_val_of_onGrid (quantize4_onGrid _)

/-- **What `_run_step` computes.** -/
theorem runStep_figures (h : runStep s id now db = .ok (db', completed)) :
    ∃ e p m, db.experiment = some e ∧ NewFigures s id e.initialCapital.val db db' p m := by
  unfold runStep at h
  split at h
  · next e row config he hrow hconfig =>
      split at h
      · cases h
      · obtain ⟨db'', hresult, heq⟩ := ok_of_bind h
        cases heq
        unfold Db.recordResult at hresult
        obtain ⟨metrics, hmetrics, hdb⟩ := ok_of_bind hresult
        cases hdb
        set result := s.execution row.load id (db.nextId + 2) now with hexecution
        set decided := db.recordDecision s id now (s.decide row.load.positionQuantity) (s.riskResult row.load)
          with hdecided
        have hlisted : ∀ (d : Db) (r : SimulationResult), (d.recordExecution r).portfolioSnapshots = d.portfolioSnapshots ∧
            (d.recordExecution r).metricSnapshots = d.metricSnapshots := by
          rintro d ⟨order, trade, portfolio⟩
          cases order with
          | none => exact ⟨rfl, rfl⟩
          | some order => cases trade <;> exact ⟨rfl, rfl⟩
        obtain ⟨hsnapshots, hrows⟩ := hlisted decided result
        obtain ⟨n, howned⟩ := @steps_recordExecution id decided result fun trade htrade =>
          trade_of_execution htrade
        have hcurve : portfolioValues ((decided.recordExecution result).writePortfolio (result.portfolio.markedTo s.price now)
            (decided.executionTradeId result)).listPortfolioSnapshots = portfolioValues db.listPortfolioSnapshots := by
          unfold Db.listPortfolioSnapshots
          show portfolioValues ((decided.recordExecution result).portfolioSnapshots.insertionSort _) = _
          rw [hsnapshots]
          rfl
        unfold calculate at hmetrics
        dsimp only at hmetrics
        split at hmetrics
        · cases hmetrics
        · cases hmetrics
          refine ⟨e, s.snapshotRow (decided.recordExecution result).nextId id now result.portfolio, ?m, he, ?_, ?metrics,
            ?_, ?_, ?_, ?_, ?_, n, ?_⟩
          case metrics =>
            show (decided.recordExecution result).metricSnapshots ++ [_] = _
            rw [hrows]
            rfl
          · show (decided.recordExecution result).portfolioSnapshots ++ [_] = _
            rw [hsnapshots]
            rfl
          · exact ⟨rfl, rfl⟩
          · exact ⟨rfl, rfl⟩
          · rfl
          · refine ⟨_, rfl, ?_, ?_, ?_⟩
            · rw [portfolioValueAt_val]
              rfl
            · rw [portfolioValueAt_val]
              rfl
            · rw [portfolioValueAt_val, ← hcurve]
              rfl
          · rfl
          · exact (steps_writePortfolio _ _ _).trans howned
  · cases h

/-! ## One step -/

/-- The deepest fall, of a curve that starts positive. -/
theorem isLeast_maxDrawdown {values : List ℚ} (hstart : ∃ v ∈ values.head?, 0 < v) (hvalues : ∀ v ∈ values, 0 ≤ v) :
    IsLeast (portfolioFalls values) (maxDrawdown values) := by
  obtain ⟨first, hfirst, hpos⟩ := hstart
  obtain ⟨rest, rfl⟩ := List.head?_eq_some_iff.mp hfirst
  rw [maxDrawdown_eq hpos]
  refine (RunningPeak.run_spec (fun u w hu hle => lt_of_lt_of_le hu hle) hpos ?_).2
  intro v hv u w hu hle
  exact roundedFall_antitone hu hle (hvalues v hv)

/-- A longer curve has the falls of a shorter one. -/
theorem portfolioFalls_mono {values values' : List ℚ} (h : values <+: values') :
    portfolioFalls values ⊆ portfolioFalls values' := by
  rintro d ⟨i, j, u, v, hij, hi, hj, hu, hd⟩
  obtain ⟨more, rfl⟩ := h
  refine ⟨i, j, u, v, hij, ?_, ?_, hu, hd⟩
  · rw [List.getElem?_append_left (List.getElem?_eq_some_iff.mp hi).1, hi]
  · rw [List.getElem?_append_left (List.getElem?_eq_some_iff.mp hj).1, hj]

theorem portfolioValues_take_prefix (snapshots : List PortfolioSnapshot) (k : ℕ) :
    portfolioValues (snapshots.take k) <+: portfolioValues snapshots := by
  unfold portfolioValues
  exact (List.take_prefix k snapshots).filterMap _

/-- Snapshots in the order of time are listed as they were written. -/
theorem SnapshotsAscend.listed (h : SnapshotsAscend db) : db.listPortfolioSnapshots = db.portfolioSnapshots := by
  refine List.Pairwise.insertionSort_eq ?_
  refine (List.pairwise_map.mp h).imp fun hlt => ?_
  exact .inl hlt

/-- **Trading at the price of a bar does not change the value at it.** -/
theorem value_of_trade {a : Account} (hnone : a.position = 0) (action : TradeAction) (price : ℚ) :
    (a.trade action price).cash + quantize4 ((a.trade action price).position * price) = a.cash := by
  unfold Account.trade
  cases horder : a.order action price with
  | none =>
      show a.cash + quantize4 (a.position * price) = a.cash
      rw [hnone, zero_mul, quantize4_of_onGrid OnGrid.zero, add_zero]
  | some o =>
      obtain ⟨side, q⟩ := o
      cases side with
      | buy =>
          show a.cash - quantize4 (q * price) + quantize4 ((a.position + q) * price) = a.cash
          rw [hnone, zero_add, sub_add_cancel]
      | sell =>
          -- there is nothing to sell
          obtain ⟨-, -, hq, rfl⟩ := Account.order_eq_sell horder
          exact absurd hnone hq.ne'

/-- **What a step keeps**: the books, the keys, the values of the curve; and the metric rows chart the run, if the
    snapshots are in the order of time. -/
structure ChartedInOrder (capital : ℚ) (db : Db) : Prop where
  books      : BooksHold capital db
  experiment : ∃ e, db.experiment = some e ∧ e.initialCapital.val = capital
  fresh      : portfolioValues db.portfolioSnapshots = [] →
    ∃ row, db.portfolio = some row ∧ row.account = ⟨capital, 0⟩
  trades     : ∀ t ∈ db.trades.map Trade.executionStepId, t < db.nextId
  start      : ∀ v ∈ (portfolioValues db.portfolioSnapshots).head?, v = capital
  values     : ∀ v ∈ portfolioValues db.portfolioSnapshots, 0 ≤ v
  charted    : SnapshotsAscend db → Charted capital db

/-- The value a step records: never negative, and the capital at the first step. -/
theorem new_value {row row' : PortfolioRow} {v : Numeric 4} (hbooked : PortfolioBooked capital db row)
    (hstep : Stepped s id now row db db') (hrow : db'.portfolio = some row')
    (hvalue : row'.currentPortfolioValue = some v) (hprice : 0 < s.price) :
    0 ≤ v.val ∧ (row.account = ⟨capital, 0⟩ → v.val = capital) := by
  have hstored := hstep.value hrow hbooked.sound
  rw [hvalue] at hstored
  have hv : v.val = row'.cash.val + quantize4 (row'.position * s.price) := Option.some.inj hstored
  have haccount := hstep.account hbooked.sound hrow
  have hsound : row'.account.Sound := haccount ▸ hbooked.sound.trade _ _
  constructor
  · obtain ⟨n, hn⟩ := hsound.whole
    have hposition : row'.position = n := hn
    have hworth : 0 ≤ row'.position * s.price := by
      rw [hposition]
      positivity
    rw [hv]
    exact add_nonneg hsound.cash (quantize4_nonneg hworth)
  · intro hstart
    have htrade : row'.account.cash + quantize4 (row'.account.position * s.price) = row.account.cash := by
      rw [haccount]
      exact value_of_trade (by rw [hstart]) _ _
    rw [hv]
    show row'.account.cash + quantize4 (row'.account.position * s.price) = capital
    rw [htrade, hstart]

/-- **One more row**, of a later step: the rows before it say what they said. -/
theorem Charted.append {p : PortfolioSnapshot} {m : MetricSnapshot} (h : Charted capital db)
    (hsnapshots : db'.portfolioSnapshots = db.portfolioSnapshots ++ [p])
    (hmetrics : db'.metricSnapshots = db.metricSnapshots ++ [m])
    (hsteps : p.executionStepId = id ∧ m.executionStepId = id) (htimes : m.timestamp = p.timestamp)
    (hascend : SnapshotsAscend db')
    (hsettled : db'.portfolio.bind PortfolioRow.currentPortfolioValue = p.totalPortfolioValue)
    (howned : ∃ n, db'.trades.map Trade.executionStepId =
      db.trades.map Trade.executionStepId ++ List.replicate n id)
    (hkeys : ∀ q ∈ db.portfolioSnapshots, q.executionStepId < id)
    (hvalued : p.totalPortfolioValue.isSome) (hcount : m.numberOfTrades = db'.trades.length)
    (hm : m.Charts capital (portfolioValues db'.portfolioSnapshots) (db'.tradesThrough id)) :
    Charted capital db' := by
  have hlength : db.metricSnapshots.length = db.portfolioSnapshots.length := by
    have := congrArg List.length h.paired
    rwa [List.length_map, List.length_map] at this
  -- the steps of the earlier rows are earlier, and the new trades are of the new step
  have hearlier : ∀ q ∈ db.metricSnapshots, q.executionStepId < id := by
    intro q hq
    have hmem : q.executionStepId ∈ db.portfolioSnapshots.map PortfolioSnapshot.executionStepId := by
      rw [← h.paired]
      exact List.mem_map_of_mem hq
    obtain ⟨r, hr, heq⟩ := List.mem_map.mp hmem
    rw [← heq]
    exact hkeys r hr
  have htrades : ∀ q ∈ db.metricSnapshots, db'.tradesThrough q.executionStepId = db.tradesThrough q.executionStepId := by
    intro q hq
    obtain ⟨n, hn⟩ := howned
    unfold Db.tradesThrough
    rw [hn, List.countP_append, List.countP_replicate, if_neg, Nat.add_zero]
    have := hearlier q hq
    simp only [decide_eq_true_eq]
    omega
  refine ⟨hascend, ?_, ?_, ?_, ?_, ?_, ?_, ?_⟩
  · intro q hq
    rw [hsnapshots] at hq
    rcases List.mem_append.mp hq with hq | hq
    · exact h.valued q hq
    · rw [List.mem_singleton.mp hq]
      exact hvalued
  · intro q hq
    rw [hsnapshots, List.getLast?_concat] at hq
    obtain rfl := Option.some.inj hq
    exact hsettled
  · rw [hsnapshots, hmetrics, List.map_append, List.map_append, h.paired, List.map_singleton, List.map_singleton,
      hsteps.1, hsteps.2]
  · rw [hsnapshots, hmetrics, List.map_append, List.map_append, h.stamped, List.map_singleton, List.map_singleton,
      htimes]
  · intro k q hq
    rw [hmetrics] at hq
    rcases Nat.lt_or_ge k db.metricSnapshots.length with hlt | hge
    · rw [List.getElem?_append_left hlt] at hq
      rw [hsnapshots, List.take_append_of_le_length (by omega), htrades q (List.mem_of_getElem? hq)]
      exact h.rows k q hq
    · have hlast : k = db.metricSnapshots.length := by
        have hbound := (List.getElem?_eq_some_iff.mp hq).1
        rw [List.length_append, List.length_singleton] at hbound
        omega
      rw [hlast, List.getElem?_concat_length] at hq
      obtain rfl := Option.some.inj hq
      have hall : db'.portfolioSnapshots.take (k + 1) = db'.portfolioSnapshots := by
        apply List.take_of_length_le
        rw [hsnapshots, List.length_append, List.length_singleton]
        omega
      rw [hall, hsteps.2]
      exact hm
  · rw [hmetrics, List.pairwise_append]
    refine ⟨h.deepens, List.pairwise_singleton _ _, ?_⟩
    intro earlier hmem later hlater
    rw [List.mem_singleton.mp hlater]
    -- the deepest fall before is a fall of the longer curve
    obtain ⟨k, hlt, hk⟩ := List.mem_iff_getElem.mp hmem
    have hfall := (h.rows k earlier (by rw [← hk]; exact List.getElem?_eq_getElem hlt)).drawdown.1
    have hbegins : portfolioValues (db.portfolioSnapshots.take (k + 1)) <+: portfolioValues db'.portfolioSnapshots := by
      have hle : k + 1 ≤ db.portfolioSnapshots.length := by omega
      have htake : (db.portfolioSnapshots ++ [p]).take (k + 1) = db.portfolioSnapshots.take (k + 1) :=
        List.take_append_of_le_length hle
      rw [hsnapshots, ← htake]
      exact portfolioValues_take_prefix _ _
    exact hm.drawdown.2 (portfolioFalls_mono hbegins hfall)
  · intro q hq
    rw [hmetrics, List.getLast?_concat] at hq
    obtain rfl := Option.some.inj hq
    exact hcount

/-- **One step of a run.** -/
theorem barStep_charts (hcapital : 0 < capital) (hprice : 0 < s.price ∧ OnGrid 8 s.price) :
    s.Keeps (ChartedInOrder capital) fun r => SnapshotsAscend r.db → Charted capital r.db := by
  intro clock db db' completed h hrun
  obtain ⟨hbooks, -⟩ := barStep_keeps_books capital hprice.2 clock db db' completed h.books hrun
  obtain ⟨-, row, -, -, hrow, hstep, -⟩ := runStep_ok hrun
  obtain ⟨e, p, m, he, hnew⟩ := runStep_figures hrun
  obtain ⟨e', he', hstored⟩ := h.experiment
  obtain rfl : e' = e := Option.some.inj (he'.symm.trans he)
  obtain ⟨row', hbooked⟩ := h.books.accounted
  obtain rfl : row' = row := Option.some.inj (hbooked.stored.symm.trans hrow)
  obtain ⟨v, hpv, hprofit, hreturn, hdrawdown⟩ := hnew.figures
  have hsnapshots : db'.portfolioSnapshots = db.portfolioSnapshots ++ [p] := hnew.snapshots
  have hmetrics : db'.metricSnapshots = db.metricSnapshots ++ [m] := hnew.metrics
  have howned : ∃ n, db'.trades.map Trade.executionStepId =
      db.trades.map Trade.executionStepId ++ List.replicate n db.nextId := hnew.owned
  have hnext : db.nextId + 1 ≤ db'.nextId := hstep.nextId
  have hvalues : portfolioValues db'.portfolioSnapshots = portfolioValues db.portfolioSnapshots ++ [v.val] := by
    rw [hsnapshots, portfolioValues, List.filterMap_append]
    simp [portfolioValues, hpv]
  have hvalue := hnew.value
  rw [hpv, hstep.portfolio] at hvalue
  have hopened : PortfolioBooked capital (db.addNextStep .historical s.timestamp clock.createdAt) row' :=
    ⟨hbooked.stored, hbooked.cash_nonneg, hbooked.whole, hbooked.symbol, hbooked.cash, hbooked.position⟩
  obtain ⟨hnonneg, hfirst⟩ := new_value hopened hstep hstep.portfolio hvalue.symm hprice.1
  have hstart : ∀ w ∈ (portfolioValues db'.portfolioSnapshots).head?, w = capital := by
    rw [hvalues]
    cases hcurve : portfolioValues db.portfolioSnapshots with
    | nil =>
        intro w hw
        obtain rfl := Option.some.inj hw
        obtain ⟨row, hrow', haccount⟩ := h.fresh hcurve
        obtain rfl : row = row' := Option.some.inj (hrow'.symm.trans hbooked.stored)
        exact hfirst haccount
    | cons w' rest =>
        intro w hw
        refine h.start w ?_
        rw [hcurve]
        exact hw
  have hpositive : ∀ w ∈ portfolioValues db'.portfolioSnapshots, 0 ≤ w := by
    intro w hw
    rw [hvalues] at hw
    rcases List.mem_append.mp hw with hw | hw
    · exact h.values w hw
    · rw [List.mem_singleton.mp hw]
      exact hnonneg
  have hcharted : SnapshotsAscend db' → Charted capital db' := by
    intro hascend
    have hbefore : SnapshotsAscend db := by
      unfold SnapshotsAscend at hascend ⊢
      rw [hsnapshots, List.map_append] at hascend
      exact (List.pairwise_append.mp hascend).1
    have hlisted : (db.addNextStep .historical s.timestamp clock.createdAt).listPortfolioSnapshots =
        db.portfolioSnapshots := hbefore.listed
    have hleast : IsLeast (portfolioFalls (portfolioValues db'.portfolioSnapshots))
        (maxDrawdown (portfolioValues db'.portfolioSnapshots)) := by
      refine isLeast_maxDrawdown ?_ hpositive
      obtain ⟨w, hw⟩ : ∃ w, (portfolioValues db'.portfolioSnapshots).head? = some w := by
        rw [hvalues]
        cases portfolioValues db.portfolioSnapshots <;> exact ⟨_, rfl⟩
      exact ⟨w, hw, (hstart w hw).symm ▸ hcapital⟩
    have hgrid : OnGrid 4 (v.val - capital) := by
      rw [← hstored]
      exact v.onGrid.sub e'.initialCapital.onGrid
    refine (h.charted hbefore).append hsnapshots hmetrics hnew.steps
      (hnew.times.2.trans hnew.times.1.symm) hascend hnew.value.symm howned h.books.snapshots (hpv ▸ rfl)
      hnew.trades ⟨⟨v.val, ?_, ?_, ?_⟩, ?_, ?_⟩
    · rw [hvalues, List.getLast?_concat]
      rfl
    · rw [hprofit, hstored, quantize4_of_onGrid hgrid, numeric_val_of_onGrid hgrid]
    · rw [hreturn, hstored, quantize4_of_onGrid hgrid]
      exact numeric_val_of_onGrid (halfEven.quantize_onGrid 8 _)
    · -- the deepest fall is a rounded one, and the column keeps it
      obtain ⟨i, j, u, w, -, -, -, -, hfall⟩ := hleast.1
      have hcolumn : OnGrid 8 (maxDrawdown (portfolioValues db'.portfolioSnapshots)) := by
        rw [hfall]
        exact halfEven.quantize_onGrid 8 _
      rw [hdrawdown, hlisted, ← hvalues, numeric_val_of_onGrid hcolumn]
      exact hleast
    · -- all trades are of this step or of an earlier one
      rw [hnew.trades]
      obtain ⟨n, hn⟩ := howned
      have hall : ∀ t ∈ db'.trades.map Trade.executionStepId, decide (t ≤ db.nextId) = true := by
        intro t ht
        rw [hn] at ht
        rw [decide_eq_true_eq]
        rcases List.mem_append.mp ht with ht | ht
        · exact (h.trades t ht).le
        · exact (List.eq_of_mem_replicate ht).le
      unfold Db.tradesThrough
      rw [List.countP_eq_length.mpr hall, List.length_map]
  refine ⟨⟨hbooks, ⟨e', hstep.experiment.trans he', hstored⟩, ?_, ?_, hstart, hpositive, hcharted⟩, hcharted⟩
  · intro hempty
    rw [hvalues] at hempty
    exact absurd hempty (List.append_ne_nil_of_right_ne_nil _ (List.cons_ne_nil _ _))
  · intro t ht
    obtain ⟨n, hn⟩ := howned
    rw [hn] at ht
    rcases List.mem_append.mp ht with ht | ht
    · exact (h.trades t ht).trans_le (by omega)
    · rw [List.eq_of_mem_replicate ht]
      omega

/-! ## A whole run -/

variable {rs : RunState} {clock : ℕ → StepClock} {later : List DateTime}

/-- **A charted run**: the rows chart it, in the end and after every step, and a step has added its own row to those
    of the steps before. -/
structure RunCharted (capital : ℚ) (rs : RunState) : Prop where
  listed  : rs.db.experiment.isSome
  charted : Charted capital rs.db
  count   : rs.db.metricSnapshots.length = rs.history.length
  records : ∀ r ∈ rs.history, Charted capital r.db ∧ r.db.metricSnapshots <+: rs.db.metricSnapshots ∧
    r.db.metricSnapshots.getLast?.map MetricSnapshot.executionStepId = some r.executionStepId

/-- The same on the way, with bars at the times `later` still to come. -/
structure OnCourse (capital : ℚ) (rs : RunState) (later : List DateTime) : Prop extends RunCharted capital rs where
  ahead : rs.raised = none → ChartedInOrder capital rs.db ∧
    (rs.db.portfolioSnapshots.map PortfolioSnapshot.timestamp ++ later).Pairwise (· < ·)

/-- Steps with prices of the column, at these times. -/
structure Timed (steps : List (Bool → BarStep)) (times : List DateTime) : Prop where
  times  : ∀ b, (steps.map fun step => (step b).timestamp) = times
  prices : ∀ step ∈ steps, ∀ b, 0 < (step b).price ∧ OnGrid 8 (step b).price

/-- After an exception nothing is still to come. -/
theorem OnCourse.stopped (h : OnCourse capital rs later) (hraised : rs.raised ≠ none) (later' : List DateTime) :
    OnCourse capital rs later' := ⟨h.toRunCharted, fun hnone => absurd hnone hraised⟩

theorem runBar_onCourse (hcapital : 0 < capital) (hprice : 0 < s.price ∧ OnGrid 8 s.price)
    (h : OnCourse capital rs (s.timestamp :: later)) (hraised : rs.raised = none) (clock : StepClock) :
    OnCourse capital (rs.runBar clock s).1 later := by
  obtain ⟨hdb, htimes⟩ := h.ahead hraised
  unfold RunState.runBar
  dsimp only
  split
  · next db' completed hrun =>
      obtain ⟨hnext, hchart⟩ := barStep_charts hcapital hprice clock rs.db db' completed hdb hrun
      obtain ⟨e, p, m, -, hnew⟩ := runStep_figures hrun
      have hsnapshots : db'.portfolioSnapshots = rs.db.portfolioSnapshots ++ [p] := hnew.snapshots
      have hmetrics : db'.metricSnapshots = rs.db.metricSnapshots ++ [m] := hnew.metrics
      have hahead : (db'.portfolioSnapshots.map PortfolioSnapshot.timestamp ++ later).Pairwise (· < ·) := by
        rw [hsnapshots, List.map_append, List.map_singleton, hnew.times.1, List.append_assoc]
        exact htimes
      have hcharted := hchart (List.pairwise_append.mp hahead).1
      obtain ⟨e', he', -⟩ := hnext.experiment
      refine ⟨⟨Option.isSome_iff_exists.mpr ⟨e', he'⟩, hcharted, ?_, ?_⟩, fun _ => ⟨hnext, hahead⟩⟩
      · dsimp only
        rw [hmetrics, List.length_append, List.length_append, h.count]
        rfl
      · intro r hr
        rcases List.mem_append.mp hr with hr | hr
        · obtain ⟨hrow, hbegins, hlast⟩ := h.records r hr
          exact ⟨hrow, hbegins.trans (hmetrics ▸ List.prefix_append _ _), hlast⟩
        · rw [List.mem_singleton.mp hr]
          refine ⟨hcharted, List.prefix_rfl, ?_⟩
          rw [hmetrics, List.getLast?_concat, Option.map_some, hnew.steps.2]
  · -- the step was created, and has no rows
    refine ⟨⟨h.listed, ?_, h.count, h.records⟩, fun hnone => (Option.some_ne_none _ hnone).elim⟩
    exact ⟨h.charted.ascend, h.charted.valued, h.charted.settled, h.charted.paired, h.charted.stamped, h.charted.rows,
      h.charted.deepens, h.charted.counted⟩

theorem runSteps_onCourse (hcapital : 0 < capital) {steps : List (Bool → BarStep)} {times : List DateTime} {b : Bool}
    (hsteps : Timed steps times) (h : OnCourse capital rs (times ++ later)) :
    OnCourse capital (runSteps clock steps b rs) later := by
  induction steps generalizing b rs times with
  | nil =>
      obtain rfl : [] = times := hsteps.times b
      exact h
  | cons step steps ih =>
      cases hraised : rs.raised with
      | some failure =>
          rw [runSteps_raised hraised]
          exact h.stopped (by rw [hraised]; exact Option.some_ne_none _) later
      | none =>
          obtain ⟨time, times, rfl⟩ : ∃ time rest, times = time :: rest := ⟨_, _, (hsteps.times b).symm⟩
          rw [runSteps, hraised]
          have hrest : Timed steps times :=
            ⟨fun b' => (List.cons.inj (hsteps.times b')).2,
              fun other hother => hsteps.prices other (List.mem_cons_of_mem _ hother)⟩
          have htime : (step b).timestamp = time := (List.cons.inj (hsteps.times b)).1
          refine ih hrest (runBar_onCourse hcapital (hsteps.prices step List.mem_cons_self b) ?_ hraised _)
          rw [htime]
          exact h

/-- The steps of a session are at the times of its bars. -/
theorem timed_sessionSteps {sessionBars : List IntradayBar} (high low : ℚ)
    (hprices : ∀ bar ∈ sessionBars, 0 < bar.close ∧ OnGrid 8 bar.close) :
    Timed (sessionSteps sessionBars high low) (sessionBars.map IntradayBar.timestamp) := by
  refine ⟨fun b => ?_, fun step hstep b => ?_⟩
  · unfold sessionSteps
    rw [List.map_map]
    rfl
  · obtain ⟨bar, hbar, rfl⟩ := List.mem_map.mp hstep
    exact hprices bar hbar

theorem runSessions_onCourse (hcapital : 0 < capital) {sessions : List (List IntradayBar)}
    (hprices : ∀ sessionBars ∈ sessions, ∀ bar ∈ sessionBars, 0 < bar.close ∧ OnGrid 8 bar.close)
    (h : OnCourse capital rs (sessions.flatten.map IntradayBar.timestamp)) :
    OnCourse capital (runSessions clock sessions rs) [] := by
  induction sessions generalizing rs with
  | nil => exact h
  | cons sessionBars sessions ih =>
      cases hraised : rs.raised with
      | some failure =>
          rw [runSessions_raised hraised]
          exact h.stopped (by rw [hraised]; exact Option.some_ne_none _) []
      | none =>
          rw [runSessions, hraised]
          dsimp only
          rw [List.flatten_cons, List.map_append] at h
          cases openingRange sessionBars with
          | error e =>
              exact ⟨⟨h.listed, h.charted, h.count, h.records⟩, fun hnone => (Option.some_ne_none _ hnone).elim⟩
          | ok range =>
              refine ih (fun other hother => hprices other (List.mem_cons_of_mem _ hother)) ?_
              exact runSteps_onCourse hcapital (timed_sessionSteps _ _ (hprices sessionBars List.mem_cons_self)) h

/-! ## Every run -/

/-- The bars of the experiment's range come in the order of time; those of the day, validated against the
    calendar. -/
structure HistoricalEnv.InOrder (env : HistoricalEnv) (e : Experiment) : Prop where
  daily    : ∀ bars, env.loadRange e.startDate e.endDate = .ok bars →
    (bars.map DailyBar.barTimestamp).Pairwise (· < ·)
  intraday : ∀ bars, env.loadIntradayRange e.startDate e.endDate e.assetSymbol e.tradingFrequency = .ok bars →
    ∃ sessions rows, Loaded e.startDate e.endDate sessions rows bars

theorem timed_buyAndHoldSteps {bars : List DailyBar}
    (hprices : ∀ bar ∈ bars, 0 < bar.adjustedClose ∧ OnGrid 8 bar.adjustedClose) :
    Timed (buyAndHoldSteps bars) (bars.map DailyBar.barTimestamp) := by
  refine ⟨fun b => ?_, fun step hstep b => ?_⟩
  · unfold buyAndHoldSteps
    rw [List.map_map]
    rfl
  · obtain ⟨bar, hbar, rfl⟩ := List.mem_map.mp hstep
    exact hprices bar hbar

theorem timed_movingAverageSteps {window : ℕ} {prices : List ℚ} {bars : List DailyBar}
    (hprices : ∀ bar ∈ bars, 0 < bar.adjustedClose ∧ OnGrid 8 bar.adjustedClose) :
    Timed (movingAverageSteps window prices bars) (bars.map DailyBar.barTimestamp) := by
  refine ⟨fun b => ?_, fun step hstep b => ?_⟩
  · induction bars generalizing prices with
    | nil => rfl
    | cons bar bars ih =>
        rw [movingAverageSteps, List.map_cons, List.map_cons,
          ih fun other hother => hprices other (List.mem_cons_of_mem _ hother)]
        rfl
  · obtain ⟨bar, hbar, hprice⟩ := price_movingAverageSteps step hstep
    rw [hprice]
    exact hprices bar hbar

/-- The end of a run writes none of these rows. -/
theorem close_charted (o : HistoricalOrchestrator) (env : HistoricalEnv) (h : RunCharted capital rs) :
    RunCharted capital (o.close env rs) := by
  have hrows : (o.close env rs).db.portfolioSnapshots = rs.db.portfolioSnapshots ∧
      (o.close env rs).db.metricSnapshots = rs.db.metricSnapshots ∧ (o.close env rs).db.trades = rs.db.trades ∧
      (o.close env rs).db.portfolio = rs.db.portfolio := by
    have hfailure : ∀ (message : String) (failed : Option ℕ) (e : Raised),
        (rs.db.recordHistoricalFailure message failed e env.closedAt).portfolioSnapshots = rs.db.portfolioSnapshots ∧
        (rs.db.recordHistoricalFailure message failed e env.closedAt).metricSnapshots = rs.db.metricSnapshots ∧
        (rs.db.recordHistoricalFailure message failed e env.closedAt).trades = rs.db.trades ∧
        (rs.db.recordHistoricalFailure message failed e env.closedAt).portfolio = rs.db.portfolio := by
      intro message failed e
      unfold Db.recordHistoricalFailure
      dsimp only
      cases failed <;> split <;> exact ⟨rfl, rfl, rfl, rfl⟩
    unfold HistoricalOrchestrator.close
    split
    · split
      · exact ⟨rfl, rfl, rfl, rfl⟩
      · exact hfailure _ _ _
    · split
      · exact ⟨rfl, rfl, rfl, rfl⟩
      · exact hfailure _ _ _
  obtain ⟨hsnapshots, hmetrics, htrades, hportfolio⟩ := hrows
  have hcharted : Charted capital (o.close env rs).db := by
    refine ⟨?_, ?_, ?_, ?_, ?_, ?_, ?_, ?_⟩
    · unfold SnapshotsAscend
      rw [hsnapshots]
      exact h.charted.ascend
    · rw [hsnapshots]
      exact h.charted.valued
    · rw [hsnapshots, hportfolio]
      exact h.charted.settled
    · rw [hsnapshots, hmetrics]
      exact h.charted.paired
    · rw [hsnapshots, hmetrics]
      exact h.charted.stamped
    · unfold Db.tradesThrough
      rw [hsnapshots, hmetrics, htrades]
      exact h.charted.rows
    · rw [hmetrics]
      exact h.charted.deepens
    · rw [hmetrics, htrades]
      exact h.charted.counted
  refine ⟨?_, hcharted, ?_, ?_⟩
  · -- the status of the experiment is written, the experiment stays
    have hfailure : ∀ (message : String) (failed : Option ℕ) (e : Raised),
        (rs.db.recordHistoricalFailure message failed e env.closedAt).experiment.isSome := by
      intro message failed e
      have hkept : (rs.db.failStep failed env.closedAt message).experiment = rs.db.experiment := by cases failed <;> rfl
      obtain ⟨experiment, he⟩ := Option.isSome_iff_exists.mp h.listed
      unfold Db.recordHistoricalFailure Db.setStatus
      dsimp only
      rw [hkept, he]
      rfl
    unfold HistoricalOrchestrator.close
    split
    · split
      · exact h.listed
      · exact hfailure _ _ _
    · split
      · next e he =>
          show ((rs.db.experiment).map _).isSome
          rw [he]
          rfl
      · exact hfailure _ _ _
  · rw [hmetrics, close_history]
    exact h.count
  · rw [close_history, hmetrics]
    exact h.records

/-- An experiment before its first step. -/
theorem StartsWith.onCourse {capital : Numeric 4} {e : Experiment} (h : StartsWith capital db)
    (he : db.experiment = some e) (hcapital : e.initialCapital = capital) (hpositive : 0 < capital.val)
    (hmetrics : db.metricSnapshots = []) {times : List DateTime} (htimes : times.Pairwise (· < ·)) :
    OnCourse capital.val { db } times := by
  obtain ⟨row, hrow, hcash, -, hposition⟩ := h.portfolio
  have hcharted : Charted capital.val db := by
    refine ⟨?_, ?_, ?_, ?_, ?_, ?_, ?_, ?_⟩
    · unfold SnapshotsAscend
      rw [h.snapshots]
      exact List.Pairwise.nil
    · rw [h.snapshots]; exact List.forall_mem_nil _
    · intro p hp
      rw [h.snapshots] at hp
      cases hp
    · rw [h.snapshots, hmetrics]; rfl
    · rw [h.snapshots, hmetrics]; rfl
    · intro k m hm
      rw [hmetrics] at hm
      cases hm
    · rw [hmetrics]; exact List.Pairwise.nil
    · intro m hm
      rw [hmetrics] at hm
      cases hm
  refine ⟨⟨Option.isSome_iff_exists.mpr ⟨e, he⟩, hcharted, congrArg List.length hmetrics, List.forall_mem_nil _⟩,
    fun _ => ⟨?_, ?_⟩⟩
  · refine ⟨h.booksHold hpositive.le, ⟨e, he, congrArg Numeric.val hcapital⟩, fun _ => ⟨row, hrow, ?_⟩, ?_, ?_, ?_,
      fun _ => hcharted⟩
    · unfold PortfolioRow.account
      rw [hcash, hposition]
    · rw [h.trades]; exact List.forall_mem_nil _
    · intro v hv
      rw [h.snapshots] at hv
      cases hv
    · rw [h.snapshots]; exact List.forall_mem_nil _
  · dsimp only
    rw [h.snapshots]
    exact htimes

/-- The loop of a run. -/
theorem loop_onCourse {o : HistoricalOrchestrator} {env : HistoricalEnv} {capital : Numeric 4} {e : Experiment}
    (he : db.experiment = some e) (hcapital : e.initialCapital = capital) (hpositive : 0 < capital.val)
    (hstart : StartsWith capital db) (hmetrics : db.metricSnapshots = [])
    (hprices : env.PricesMeet fun price => 0 < price ∧ OnGrid 8 price) (horder : env.InOrder e) {rs : RunState}
    (hloop : o.loop env e db = .ok rs) : OnCourse capital.val rs [] := by
  have hfrom {times : List DateTime} (htimes : times.Pairwise (· < ·)) : OnCourse capital.val { db } (times ++ []) := by
    rw [List.append_nil]
    exact hstart.onCourse he hcapital hpositive hmetrics htimes
  cases o with
  | buyAndHold =>
      obtain ⟨bars, hbars, hloop⟩ := ok_of_bind hloop
      cases hloop
      exact runSteps_onCourse hpositive (timed_buyAndHoldSteps (hprices.daily _ _ _ hbars))
        (hfrom (horder.daily bars hbars))
  | movingAverage =>
      obtain ⟨bars, hbars, hloop⟩ := ok_of_bind hloop
      obtain ⟨window, -, hloop⟩ := ok_of_bind hloop
      cases hloop
      exact runSteps_onCourse hpositive (timed_movingAverageSteps (hprices.daily _ _ _ hbars))
        (hfrom (horder.daily bars hbars))
  | openingRangeBreakout =>
      obtain ⟨bars, hbars, hloop⟩ := ok_of_bind hloop
      cases hloop
      obtain ⟨sessions, rows, hloaded⟩ := horder.intraday bars hbars
      have hflat : (sessions.map (dayBars bars)).flatten = bars := by
        rw [← List.flatMap_def]
        exact hloaded.flatMap_dayBars.symm
      rw [hloaded.groupBySession_eq]
      apply runSessions_onCourse hpositive
      · intro sessionBars hmem bar hbar
        obtain ⟨session, -, rfl⟩ := List.mem_map.mp hmem
        exact hprices.intraday _ _ _ _ _ hbars bar (List.mem_filter.mp hbar).1
      · rw [hflat]
        exact hstart.onCourse he hcapital hpositive hmetrics (List.pairwise_map.mpr hloaded.fills.ascending)

/-- Every run is charted. -/
theorem run_charted {o : HistoricalOrchestrator} {env : HistoricalEnv} {capital : Numeric 4} {e : Experiment}
    (he : db.experiment = some e) (hcapital : e.initialCapital = capital) (hpositive : 0 < capital.val)
    (hstart : StartsWith capital db) (hmetrics : db.metricSnapshots = [])
    (hprices : env.PricesMeet fun price => 0 < price ∧ OnGrid 8 price) (horder : env.InOrder e) :
    RunCharted capital.val (o.run env db) := by
  have hnone : OnCourse capital.val { db } [] :=
    hstart.onCourse he hcapital hpositive hmetrics List.Pairwise.nil
  unfold HistoricalOrchestrator.run
  rw [he]
  dsimp only
  cases hloop : o.loop env e db with
  | ok rs =>
      have hcourse := loop_onCourse he hcapital hpositive hstart hmetrics hprices horder hloop
      exact close_charted o env hcourse.toRunCharted
  | error failure =>
      exact close_charted o env ⟨hnone.listed, hnone.charted, hnone.count, hnone.records⟩

/-- **The metric rows are the figures of the equity curve.** A historical run over bars in the order of time, with
    positive prices of the column, leaves one metric row for each completed step, in their order. Row `k` says the
    profit, the return, the deepest fall and the number of trades of the first `k + 1` steps. It is there from its
    step on and never changed later, and the drawdown never gets smaller. -/
theorem metrics_chart_the_run (o : HistoricalOrchestrator) (env : HistoricalEnv) (capital : Numeric 4) (db : Db)
    (e : Experiment) (he : db.experiment = some e) (hcapital : e.initialCapital = capital) (hpositive : 0 < capital.val)
    (hstart : StartsWith capital db) (hmetrics : db.metricSnapshots = [])
    (hprices : env.PricesMeet fun price => 0 < price ∧ OnGrid 8 price) (horder : env.InOrder e) :
    let run := o.run env db
    run.db.metricSnapshots.length = run.history.length ∧
      (∀ (k : ℕ) (m : MetricSnapshot), run.db.metricSnapshots[k]? = some m →
        m.Charts capital.val (portfolioValues (run.db.portfolioSnapshots.take (k + 1)))
          (run.db.tradesThrough m.executionStepId)) ∧
      run.db.metricSnapshots.Pairwise (fun earlier later => later.maxDrawdown.val ≤ earlier.maxDrawdown.val) ∧
      ∀ r ∈ run.history, r.db.metricSnapshots <+: run.db.metricSnapshots ∧
        r.db.metricSnapshots.getLast?.map MetricSnapshot.executionStepId = some r.executionStepId := by
  have h : RunCharted capital.val (o.run env db) :=
    run_charted he hcapital hpositive hstart hmetrics hprices horder
  refine ⟨h.count, h.charted.rows, h.charted.deepens, fun r hr => ?_⟩
  obtain ⟨-, hbegins, hlast⟩ := h.records r hr
  exact ⟨hbegins, hlast⟩

/-! ## Up and down -/

/-- Four days, at 100, 120, 90 and 110. -/
def fourDays : HistoricalEnv where
  clock             := fun n => ⟨2 * n, 2 * n + 1⟩
  closedAt          := 8
  loadRange         := fun _ _ => .ok
    [⟨1, 100, 100, 100, 100, 100, 1, none⟩, ⟨2, 120, 120, 120, 120, 120, 1, none⟩,
     ⟨3, 90, 90, 90, 90, 90, 1, none⟩, ⟨4, 110, 110, 110, 110, 110, 1, none⟩]
  loadIntradayRange := fun _ _ _ _ => .error ⟨.marketDataUnavailable, "no data", []⟩

theorem fourDays_prices : fourDays.PricesMeet fun price => 0 < price ∧ OnGrid 8 price := by
  have hgrid : ∀ price ∈ [(100 : ℚ), 120, 90, 110], 0 < price ∧ OnGrid 8 price := by decide +kernel
  refine ⟨?_, ?_⟩
  · intro _ _ bars hbars bar hbar
    cases hbars
    apply hgrid
    have hclose := List.mem_map_of_mem (f := DailyBar.adjustedClose) hbar
    exact hclose
  · intro _ _ _ _ bars hbars
    cases hbars

theorem fourDays_inOrder (e : Experiment) : fourDays.InOrder e := by
  refine ⟨?_, ?_⟩
  · intro bars hbars
    cases hbars
    decide +kernel
  · intro bars hbars
    cases hbars

/-- The portfolio of the example is its capital. -/
theorem historicalDb_startsWith (strategyType : StrategyType) :
    StartsWith (numeric 4 1000) (historicalDb strategyType 1000) := ⟨⟨_, rfl, rfl, rfl, rfl⟩, rfl, rfl⟩

/-- A buy-and-hold over four days: it falls by a quarter, and the row of the fourth day still says so. -/
theorem fourDays_charted :
    ((HistoricalOrchestrator.buyAndHold.run fourDays (historicalDb .buyAndHold 1000)).db.metricSnapshots.map
        fun m => (m.profitLoss.val, m.maxDrawdown.val)) = [(0, 0), (200, 0), (-100, -1 / 4), (100, -1 / 4)] ∧
      (HistoricalOrchestrator.buyAndHold.run fourDays (historicalDb .buyAndHold 1000)).db.metricSnapshots.Pairwise
        fun earlier later => later.maxDrawdown.val ≤ earlier.maxDrawdown.val := by
  refine ⟨by decide +kernel, ?_⟩
  exact (metrics_chart_the_run .buyAndHold fourDays (numeric 4 1000) (historicalDb .buyAndHold 1000) _ rfl rfl
    (by decide +kernel) (historicalDb_startsWith _) rfl fourDays_prices (fourDays_inOrder _)).2.2.1

end TradingAI
