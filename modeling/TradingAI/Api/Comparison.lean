import TradingAI.Experiments.Validators
import TradingAI.Persistence.Repositories
import TradingAI.Scheduler.HistoricalJobs

/-!
# `Api.Comparison` — experiments side by side

`POST /experiments/compare` puts the portfolio and the latest metrics of each experiment in a row, and the difference
of its return to that of a benchmark, which is one of them. The portfolio is read from its own table: nothing in the
route says that it is the portfolio the metrics were computed from.

## Contents
- `CompareExperimentsRequest`, `CompareExperimentRow`, `CompareExperimentsResponse`.
- `validateCompareRequest`, `compareExperiments`.
-/

namespace TradingAI

open Outcome

structure CompareExperimentsRequest where
  experimentIds         : List ℕ
  benchmarkExperimentId : Option ℕ := none

structure CompareExperimentRow where
  experimentId          : ℕ
  mode                  : ExperimentMode
  strategyType          : StrategyType
  status                : ExperimentStatus
  assetSymbol           : String
  latestPortfolioValue  : Option ℚ
  totalReturn           : Option ℚ
  profitLoss            : Option ℚ
  numberOfTrades        : Option ℕ
  maxDrawdown           : Option ℚ
  benchmarkReturn       : Option ℚ
  differenceToBenchmark : Option ℚ
  deriving DecidableEq

structure CompareExperimentsResponse where
  benchmarkExperimentId : Option ℕ
  items                 : List CompareExperimentRow
  deriving DecidableEq

/-- `_validate_compare_request`. -/
def validateCompareRequest (request : CompareExperimentsRequest) : Except Raised Unit := do
  refuseIf (request.experimentIds.length < 2)
    (validationAppError "experimentIds must contain at least 2 experiment IDs." "experimentIds" [])
  refuseIf (request.experimentIds.dedup.length ≠ request.experimentIds.length)
    (validationAppError "experimentIds must not contain duplicate IDs." "experimentIds" [])
  refuseIf (request.benchmarkExperimentId.all (· ∈ request.experimentIds) = false)
    (validationAppError "benchmarkExperimentId must be one of experimentIds." "benchmarkExperimentId" [])

/-- The row of an id in the answer of `list_by_ids`, by its id. -/
def ExperimentStore.getById (store : ExperimentStore) (experimentId : ℕ) : Option Experiment :=
  if experimentId ∈ store.ids then (store.rows experimentId).experiment else none

def missingExperiments (missingIds : List ℕ) : Raised :=
  notFoundAppError "Experiment was not found."
    [("experimentId", .num (missingIds.headD 0)), ("missingExperimentIds", .list (missingIds.map fun id => .num id))]

/-- The difference, if both returns are there. -/
def differenceToBenchmark (totalReturn benchmarkReturn : Option ℚ) : Option ℚ :=
  match totalReturn, benchmarkReturn with
  | some r, some b => some (r - b)
  | _, _           => none

/-- A row, from the experiment and its tables. -/
def compareRow (experimentId : ℕ) (e : Experiment) (db : Db) (benchmarkReturn : Option ℚ) : CompareExperimentRow :=
  let latestMetric := db.latestMetricSnapshot
  let totalReturn := latestMetric.map fun m => m.totalReturn.val
  { experimentId
    mode                  := e.mode
    strategyType          := e.strategyType
    status                := e.status
    assetSymbol           := e.assetSymbol
    latestPortfolioValue  := (db.portfolio.bind PortfolioRow.currentPortfolioValue).map Numeric.val
    totalReturn
    profitLoss            := latestMetric.map fun m => m.profitLoss.val
    numberOfTrades        := latestMetric.map MetricSnapshot.numberOfTrades
    maxDrawdown           := latestMetric.map fun m => m.maxDrawdown.val
    benchmarkReturn
    differenceToBenchmark := differenceToBenchmark totalReturn benchmarkReturn }

/-- `compare_experiments`. -/
def compareExperiments (request : CompareExperimentsRequest) (store : ExperimentStore) :
    Except Raised CompareExperimentsResponse := do
  validateCompareRequest request
  let missingIds := request.experimentIds.filter fun id => (store.getById id).isNone
  refuseIf (missingIds ≠ []) (missingExperiments missingIds)
  let benchmarkReturn := request.benchmarkExperimentId.bind fun id =>
    (store.rows id).latestMetricSnapshot.map fun m => m.totalReturn.val
  pure
    { benchmarkExperimentId := request.benchmarkExperimentId
      items := request.experimentIds.filterMap fun id =>
        (store.getById id).map fun e => compareRow id e (store.rows id) benchmarkReturn }

end TradingAI
