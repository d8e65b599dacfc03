import TradingAI.Api.Comparison
import TradingAI.Correctness.EquityCurve
import TradingAI.Lib.Chronology

/-!
# `Correctness.Comparisons` — the comparison shows the end of every run

A row of the comparison takes its value from the portfolio table and its figures from the metric row with the latest
time. After a historical run both are the last step's: the portfolio is the one that was valued, and the times grow
with the steps. So the row shows the profit, the return, the deepest fall and the trades of the whole run
(`comparison_shows_the_runs`).

## Contents
- `HistoricalRun`: a run over bars in the order of time, from an experiment that has not begun.
- `Charted.latest`: the latest metrics, and the value of the portfolio.
- `ComparisonRequest`: what the route accepts.
-/

namespace TradingAI

open Outcome BasicMetricCalculator Rounding

/-! ## Runs -/

/-- **A historical run**, over bars in the order of time at positive prices of the column, from an experiment that
    has not begun. -/
structure HistoricalRun where
  orchestrator : HistoricalOrchestrator
  env          : HistoricalEnv
  start        : Db
  experiment   : Experiment
  loaded       : start.experiment = some experiment
  positive     : 0 < experiment.initialCapital.val
  fresh        : StartsWith experiment.initialCapital start
  noMetrics    : start.metricSnapshots = []
  prices       : env.PricesMeet fun price => 0 < price ∧ OnGrid 8 price
  inOrder      : env.InOrder experiment

namespace HistoricalRun

/-- What it leaves. -/
def db (run : HistoricalRun) : Db := (run.orchestrator.run run.env run.start).db

/-- Its equity curve. -/
def curve (run : HistoricalRun) : List ℚ := portfolioValues run.db.portfolioSnapshots

/-- The capital it began with. -/
def capital (run : HistoricalRun) : ℚ := run.experiment.initialCapital.val

theorem isCharted (run : HistoricalRun) : RunCharted run.capital (run.orchestrator.run run.env run.start) :=
  run_charted run.loaded rfl run.positive run.fresh run.noMetrics run.prices run.inOrder

end HistoricalRun

/-! ## The latest rows -/

variable {capital : ℚ} {db : Db}

theorem Charted.length_eq (h : Charted capital db) : db.metricSnapshots.length = db.portfolioSnapshots.length := by
  have := congrArg List.length h.paired
  rwa [List.length_map, List.length_map] at this

/-- The latest metrics are those of the last step. -/
theorem Charted.latest (h : Charted capital db) : db.latestMetricSnapshot = db.metricSnapshots.getLast? := by
  have htimes : db.metricSnapshots.Pairwise fun a b => a.timestamp < b.timestamp := by
    rw [← List.pairwise_map (f := MetricSnapshot.timestamp) (R := (· < ·)), h.stamped]
    exact h.ascend
  unfold Db.latestMetricSnapshot
  exact Chronology.head?_newest_of_growing htimes

/-- **The end of a run**: the value of the portfolio is the last of the curve, and the latest metrics are its
    figures. -/
theorem Charted.ends (h : Charted capital db) {v : ℚ}
    (hv : v ∈ (portfolioValues db.portfolioSnapshots).getLast?) :
    (db.portfolio.bind PortfolioRow.currentPortfolioValue).map Numeric.val = some v ∧
      ∃ m, db.latestMetricSnapshot = some m ∧
        m.Charts capital (portfolioValues db.portfolioSnapshots) db.trades.length := by
  have hlength := h.length_eq
  obtain ⟨before, p, hsnapshots⟩ : ∃ before p, db.portfolioSnapshots = before ++ [p] := by
    have hsome : db.portfolioSnapshots ≠ [] := by
      intro hempty
      rw [hempty] at hv
      cases hv
    exact ⟨_, _, (List.dropLast_append_getLast hsome).symm⟩
  obtain ⟨earlier, m, hmetrics⟩ : ∃ earlier m, db.metricSnapshots = earlier ++ [m] := by
    have hsome : db.metricSnapshots ≠ [] := by
      intro hempty
      rw [hempty, hsnapshots, List.length_append] at hlength
      cases hlength
    exact ⟨_, _, (List.dropLast_append_getLast hsome).symm⟩
  have hp : p ∈ db.portfolioSnapshots.getLast? := by
    rw [hsnapshots, List.getLast?_concat]
    rfl
  have hm : m ∈ db.metricSnapshots.getLast? := by
    rw [hmetrics, List.getLast?_concat]
    rfl
  constructor
  · rw [h.settled p hp]
    obtain ⟨value, hvalue⟩ := Option.isSome_iff_exists.mp (h.valued p (List.mem_of_getLast? hp))
    rw [hsnapshots, portfolioValues, List.filterMap_append] at hv
    simp only [List.filterMap_cons, hvalue, Option.map_some, List.filterMap_nil, List.getLast?_concat] at hv
    rw [hvalue, Option.map_some]
    exact hv
  · refine ⟨m, h.latest.trans hm, ?_⟩
    have hrow := h.rows earlier.length m (by rw [hmetrics, List.getElem?_concat_length])
    have hall : db.portfolioSnapshots.take (earlier.length + 1) = db.portfolioSnapshots := by
      apply List.take_of_length_le
      rw [← hlength, hmetrics, List.length_append]
      exact le_rfl
    rw [hall] at hrow
    exact ⟨hrow.profit, hrow.drawdown, h.counted m hm⟩

/-! ## The page -/

/-- **What the route accepts**: at least two experiments, none of them twice, all of them there; and a benchmark
    among them, if any. -/
structure ComparisonRequest (request : CompareExperimentsRequest) (store : ExperimentStore) : Prop where
  several   : 2 ≤ request.experimentIds.length
  distinct  : request.experimentIds.Nodup
  benchmark : ∀ id ∈ request.benchmarkExperimentId, id ∈ request.experimentIds
  found     : ∀ id ∈ request.experimentIds, (store.getById id).isSome

variable {request : CompareExperimentsRequest} {store : ExperimentStore}

theorem validateCompareRequest_ok_iff : validateCompareRequest request = .ok () ↔
    2 ≤ request.experimentIds.length ∧ request.experimentIds.Nodup ∧
      ∀ id ∈ request.benchmarkExperimentId, id ∈ request.experimentIds := by
  have hdistinct : request.experimentIds.dedup.length = request.experimentIds.length ↔ request.experimentIds.Nodup := by
    rw [← List.dedup_eq_self]
    exact ⟨fun h => (List.dedup_sublist _).eq_of_length h, fun h => congrArg List.length h⟩
  have hbenchmark : request.benchmarkExperimentId.all (· ∈ request.experimentIds) = true ↔
      ∀ id ∈ request.benchmarkExperimentId, id ∈ request.experimentIds := by
    cases request.benchmarkExperimentId <;> simp
  unfold validateCompareRequest
  constructor
  · intro h
    obtain ⟨⟨⟩, hseveral, h⟩ := ok_of_bind h
    obtain ⟨⟨⟩, hlength, h⟩ := ok_of_bind h
    rw [refuseIf_eq_ok] at hseveral hlength h
    exact ⟨not_lt.mp hseveral, hdistinct.mp (not_not.mp hlength), hbenchmark.mp (Bool.eq_true_of_not_eq_false h)⟩
  · rintro ⟨hseveral, hnodup, hmem⟩
    have hfirst : refuseIf (request.experimentIds.length < 2) (validationAppError
        "experimentIds must contain at least 2 experiment IDs." "experimentIds" []) = .ok () :=
      refuseIf_eq_ok.mpr (not_lt.mpr hseveral)
    have hsecond : refuseIf (request.experimentIds.dedup.length ≠ request.experimentIds.length) (validationAppError
        "experimentIds must not contain duplicate IDs." "experimentIds" []) = .ok () :=
      refuseIf_eq_ok.mpr (not_not.mpr (hdistinct.mpr hnodup))
    rw [hfirst, hsecond]
    refine refuseIf_eq_ok.mpr ?_
    rw [hbenchmark.mpr hmem]
    decide

/-- The return of the benchmark. -/
def benchmarkReturn (request : CompareExperimentsRequest) (store : ExperimentStore) : Option ℚ :=
  request.benchmarkExperimentId.bind fun id => (store.rows id).latestMetricSnapshot.map fun m => m.totalReturn.val

/-- **The route** answers exactly what it accepts, with a row for each id, in the order asked for. -/
theorem compareExperiments_spec : ((compareExperiments request store).isOk = true ↔ ComparisonRequest request store) ∧
    ∀ response, compareExperiments request store = .ok response →
      response.items.map CompareExperimentRow.experimentId = request.experimentIds ∧
      ∀ row ∈ response.items, ∃ e, store.getById row.experimentId = some e ∧
        row = compareRow row.experimentId e (store.rows row.experimentId) (benchmarkReturn request store) := by
  have hmissing : request.experimentIds.filter (fun id => (store.getById id).isNone) = [] ↔
      ∀ id ∈ request.experimentIds, (store.getById id).isSome := by
    rw [List.filter_eq_nil_iff]
    simp only [Option.isNone_iff_eq_none, Option.isSome_iff_ne_none]
  unfold compareExperiments
  constructor
  · cases hvalid : validateCompareRequest request with
    | error e =>
        refine iff_of_false (by rintro ⟨⟩) fun h => ?_
        rw [validateCompareRequest_ok_iff.mpr ⟨h.several, h.distinct, h.benchmark⟩] at hvalid
        cases hvalid
    | ok _ =>
        obtain ⟨hseveral, hnodup, hbenchmark⟩ := validateCompareRequest_ok_iff.mp hvalid
        by_cases hnone : request.experimentIds.filter (fun id => (store.getById id).isNone) = []
        · exact iff_of_true (by simp [hnone, refuseIf, bind, Except.bind, pure, Except.pure, Except.isOk, Except.toBool])
            ⟨hseveral, hnodup, hbenchmark, hmissing.mp hnone⟩
        · refine iff_of_false ?_ fun h => hnone (hmissing.mpr h.found)
          simp [hnone, refuseIf, bind, Except.bind, Except.isOk, Except.toBool]
  · intro response h
    obtain ⟨⟨⟩, hvalid, h⟩ := ok_of_bind h
    obtain ⟨⟨⟩, hfound, h⟩ := ok_of_bind h
    rw [refuseIf_eq_ok, not_not, hmissing] at hfound
    cases h
    constructor
    · dsimp only
      rw [List.map_filterMap]
      have hkeep : ∀ id ∈ request.experimentIds, ((store.getById id).map fun e => compareRow id e (store.rows id)
          (benchmarkReturn request store)).map CompareExperimentRow.experimentId = some id := by
        intro id hid
        obtain ⟨e, he⟩ := Option.isSome_iff_exists.mp (hfound id hid)
        rw [he]
        rfl
      exact (List.filterMap_congr hkeep).trans List.filterMap_some
    · intro row hrow
      obtain ⟨id, -, hmap⟩ := List.mem_filterMap.mp hrow
      obtain ⟨e, he, rfl⟩ := Option.map_eq_some_iff.mp hmap
      exact ⟨e, he, rfl⟩

/-! ## What it shows -/

/-- **A row of the page** for a run that ends at `v`. -/
structure ShowsEnd (row : CompareExperimentRow) (run : HistoricalRun) (v : ℚ) : Prop where
  value    : row.latestPortfolioValue = some v
  profit   : row.profitLoss = some (v - run.capital)
  gain     : row.totalReturn = some (quantize8 ((v - run.capital) / run.capital))
  drawdown : ∃ d, row.maxDrawdown = some d ∧ IsLeast (portfolioFalls run.curve) d
  trades   : row.numberOfTrades = some run.db.trades.length

/-- The row of a run that has completed a step. -/
theorem HistoricalRun.showsEnd (run : HistoricalRun) {v : ℚ} (hv : v ∈ run.curve.getLast?) (id : ℕ) (e : Experiment)
    (benchmark : Option ℚ) : ShowsEnd (compareRow id e run.db benchmark) run v := by
  have hcharted : Charted run.capital run.db := run.isCharted.charted
  obtain ⟨hvalue, m, hlatest, hm⟩ := hcharted.ends hv
  obtain ⟨w, hw, hprofit, hreturn⟩ := hm.profit
  obtain rfl : v = w := Option.some.inj (hv.symm.trans hw)
  refine ⟨hvalue, ?_, ?_, ⟨m.maxDrawdown.val, ?_, hm.drawdown⟩, ?_⟩
  · simp only [compareRow, hlatest, Option.map_some, hprofit]
  · simp only [compareRow, hlatest, Option.map_some, hreturn]
  · simp only [compareRow, hlatest, Option.map_some]
  · simp only [compareRow, hlatest, Option.map_some, hm.trades]

/-- The return a run shows. -/
theorem HistoricalRun.latestReturn (run : HistoricalRun) {v : ℚ} (hv : v ∈ run.curve.getLast?) :
    (run.db.latestMetricSnapshot.map fun m => m.totalReturn.val) =
      some (quantize8 ((v - run.capital) / run.capital)) :=
  (run.showsEnd hv 0 run.experiment none).gain

/-- **The comparison shows the runs.** Of experiments that have run, the route answers exactly a request for at least
    two, none twice, with a benchmark among them or none. It has a row for each, in the order asked for, and a row
    shows the value at the end of its run, and the profit, the return, the deepest fall and the trades of the whole
    run; the difference to the benchmark is the difference of the two returns, so the benchmark differs from itself
    by nothing. -/
theorem comparison_shows_the_runs (request : CompareExperimentsRequest) (store : ExperimentStore)
    (runs : ℕ → HistoricalRun) (hstore : ∀ id ∈ request.experimentIds, id ∈ store.ids ∧ store.rows id = (runs id).db) :
    ((compareExperiments request store).isOk = true ↔
      2 ≤ request.experimentIds.length ∧ request.experimentIds.Nodup ∧
        ∀ id ∈ request.benchmarkExperimentId, id ∈ request.experimentIds) ∧
    ∀ response, compareExperiments request store = .ok response →
      response.items.map CompareExperimentRow.experimentId = request.experimentIds ∧
      ∀ row ∈ response.items, ∀ v ∈ (runs row.experimentId).curve.getLast?,
        ShowsEnd row (runs row.experimentId) v ∧
          ∀ benchmark ∈ request.benchmarkExperimentId, ∀ w ∈ (runs benchmark).curve.getLast?,
            row.differenceToBenchmark =
              some (quantize8 ((v - (runs row.experimentId).capital) / (runs row.experimentId).capital) -
                quantize8 ((w - (runs benchmark).capital) / (runs benchmark).capital)) ∧
            (row.experimentId = benchmark → row.differenceToBenchmark = some 0) := by
  obtain ⟨hok, hresponse⟩ := @compareExperiments_spec request store
  have hfound : ∀ id ∈ request.experimentIds, (store.getById id).isSome := by
    intro id hid
    obtain ⟨hmem, hrows⟩ := hstore id hid
    unfold ExperimentStore.getById
    rw [if_pos hmem, hrows]
    exact (runs id).isCharted.listed
  constructor
  · rw [hok]
    exact ⟨fun h => ⟨h.several, h.distinct, h.benchmark⟩, fun h => ⟨h.1, h.2.1, h.2.2, hfound⟩⟩
  · intro response h
    obtain ⟨hids, hrows⟩ := hresponse response h
    have hrequest : ComparisonRequest request store := hok.mp (by rw [h]; rfl)
    refine ⟨hids, fun row hrow v hv => ?_⟩
    have hid : row.experimentId ∈ request.experimentIds := by
      rw [← hids]
      exact List.mem_map_of_mem hrow
    obtain ⟨e, -, hcompare⟩ := hrows row hrow
    rw [(hstore _ hid).2] at hcompare
    have hshows := (runs row.experimentId).showsEnd hv row.experimentId e (benchmarkReturn request store)
    rw [← hcompare] at hshows
    refine ⟨hshows, fun benchmark hbenchmark w hw => ?_⟩
    have hreturn : benchmarkReturn request store =
        some (quantize8 ((w - (runs benchmark).capital) / (runs benchmark).capital)) := by
      unfold benchmarkReturn
      rw [Option.mem_def.mp hbenchmark, Option.bind_some, (hstore _ (hrequest.benchmark _ hbenchmark)).2]
      exact (runs benchmark).latestReturn hw
    have hdifference : row.differenceToBenchmark =
        some (quantize8 ((v - (runs row.experimentId).capital) / (runs row.experimentId).capital) -
          quantize8 ((w - (runs benchmark).capital) / (runs benchmark).capital)) := by
      have hgain := hshows.gain
      rw [hcompare] at hgain ⊢
      show differenceToBenchmark _ _ = _
      rw [show ((runs row.experimentId).db.latestMetricSnapshot.map fun m => m.totalReturn.val) = _ from hgain, hreturn]
      rfl
    refine ⟨hdifference, ?_⟩
    rintro rfl
    obtain rfl : v = w := Option.some.inj (hv.symm.trans hw)
    rw [hdifference, sub_self]

/-! ## Two runs -/

/-- A run over the four days. -/
def fourDaysRun (o : HistoricalOrchestrator) (strategyType : StrategyType) : HistoricalRun where
  orchestrator := o
  env          := fourDays
  start        := historicalDb strategyType 1000
  experiment   := { smallExperiment strategyType .daily with
    mode           := .historicalSimulation
    initialCapital := numeric 4 1000 }
  loaded       := rfl
  positive     := show 0 < (numeric 4 1000).val by decide +kernel
  fresh        := historicalDb_startsWith strategyType
  noMetrics    := rfl
  prices       := fourDays_prices
  inOrder      := fourDays_inOrder _

/-- A buy-and-hold under 1, and a moving average, which never buys so soon, under 2. -/
def twoRuns : ℕ → HistoricalRun
  | 1 => fourDaysRun .buyAndHold .buyAndHold
  | _ => fourDaysRun .movingAverage .movingAverage

def ranStore : ExperimentStore where
  ids       := [1, 2]
  uniqueIds := by decide
  rows      := fun id => (twoRuns id).db

/-- The page of the two, with the buy-and-hold as benchmark: it gained a tenth, and the other one nothing. -/
theorem twoRuns_compared :
    ((compareExperiments ⟨[1, 2], some 1⟩ ranStore).toOption.map fun response =>
        response.items.map fun row => (row.profitLoss, row.differenceToBenchmark)) =
      some [(some 100, some 0), (some 0, some (-1 / 10))] ∧
    ∀ response, compareExperiments ⟨[1, 2], some 1⟩ ranStore = .ok response →
      ∀ row ∈ response.items, ∀ v ∈ (twoRuns row.experimentId).curve.getLast?, ShowsEnd row (twoRuns row.experimentId) v := by
  refine ⟨by decide +kernel, fun response h row hrow v hv => ?_⟩
  have hpage := comparison_shows_the_runs ⟨[1, 2], some 1⟩ ranStore twoRuns fun id hid => ⟨hid, rfl⟩
  exact ((hpage.2 response h).2 row hrow v hv).1

end TradingAI
