import TradingAI.Execution.Calls
import TradingAI.Experiments.Validators

/-!
# `Experiments.Creation` — how an experiment comes into being

`create_experiment` checks the request, writes the rows of the new experiment in one transaction and leaves
it `CREATED`. The capital is written twice: the experiment's row has the request's decimal, rounded by its
column, and the portfolio has it quantized by the program. The two roundings break ties differently.

## Contents
- `CreationEnv`, `createExperiment`.
- `created_opensFlat`: on four decimal places, the new experiment opens flat.
-/

namespace TradingAI

open Outcome Rounding

/-- Where `create_experiment` talks to the database: the experiment's row is flushed to draw its key, the
    others are flushed by the commit. -/
inductive CreationOp
  | flushExperiment | commit

/-- What a creation finds outside its request. -/
structure CreationEnv where
  now          : DateTime
  experimentId : ℕ
  nextId       : ℕ
  newsEvents   : List NewsEvent
  fault        : CreationOp → Option Raised

/-! ## The rows -/

namespace CreateExperimentRequest

variable (request : CreateExperimentRequest)

def experimentRow (id : ℕ) (now : DateTime) : Experiment where
  id               := id
  mode             := request.mode
  strategyType     := request.strategyType
  assetSymbol      := normalizeSymbol request.assetSymbol
  status           := .created
  initialCapital   := numeric 4 request.initialCapital
  startDate        := request.startDate
  endDate          := request.endDate
  tradingFrequency := request.tradingFrequency
  updatedAt        := now

/-- `_strategy_parameters_json`. -/
def strategyParametersJson : Option Details :=
  match request.strategyConfig.parametersJson.getD [] with
  | []      => none
  | entries => some entries

def strategyConfigRow : StrategyConfig where
  movingAverageWindow := request.strategyConfig.movingAverageWindow.map Int.toNat
  agentMode           := request.strategyConfig.agentMode
  modelName           := request.strategyConfig.modelName
  confidenceThreshold := request.strategyConfig.confidenceThreshold.map (numeric 4)
  parametersJson      := request.strategyParametersJson

/-- The portfolio object that is added to the session. -/
def portfolio (now : DateTime) : Portfolio where
  cash                  := quantize4 request.initialCapital
  positionSymbol        := none
  positionQuantity      := some 0
  currentPrice          := none
  currentPositionValue  := some 0
  currentPortfolioValue := some (quantize4 request.initialCapital)
  updatedAt             := now

end CreateExperimentRequest

/-- The event of a creation; its key is still 0. -/
def createdEvent (experimentId : ℕ) (now : DateTime) : SystemEventLog where
  id              := 0
  executionStepId := none
  timestamp       := now
  level           := .info
  eventType       := .experimentCreated
  message         := "Experiment created."
  details         := [("experimentId", .num experimentId)]
  createdAt       := now

/-- The rows a creation commits. -/
def createdRows (env : CreationEnv) (request : CreateExperimentRequest) : Db :=
  let db : Db := {
    experimentId   := env.experimentId
    experiment     := some (request.experimentRow env.experimentId env.now)
    strategyConfig := some request.strategyConfigRow
    portfolio      := some (request.portfolio env.now).row
    newsEvents     := env.newsEvents
    nextId         := env.nextId }
  db.addSystemEvent (createdEvent env.experimentId env.now)

/-- `create_experiment`: the database of the new experiment. -/
def createExperiment (settings : ValidatorSettings) (env : CreationEnv) (request : CreateExperimentRequest) :
    Except Raised Db := do
  validateCreateExperimentRequest settings request
  outcomeOf (env.fault .flushExperiment)
  outcomeOf (env.fault .commit)
  .ok (createdRows env request)

/-! ## What it leaves -/

variable {settings : ValidatorSettings} {env : CreationEnv} {request : CreateExperimentRequest} {db : Db}

/-- What a creation has checked and committed. -/
theorem createExperiment_ok (h : createExperiment settings env request = .ok db) :
    validateCreateExperimentRequest settings request = .ok () ∧ db = createdRows env request := by
  obtain ⟨_, hvalid, h⟩ := ok_of_bind h
  obtain ⟨_, -, h⟩ := ok_of_bind h
  obtain ⟨_, -, h⟩ := ok_of_bind h
  cases h
  exact ⟨hvalid, rfl⟩

theorem createExperiment_of_isOk (h : (createExperiment settings env request).isOk = true) :
    createExperiment settings env request = .ok (createdRows env request) := by
  obtain ⟨db, hcreate⟩ := ok_of_isOk h
  rw [hcreate, (createExperiment_ok hcreate).2]

/-- **A new experiment opens flat** if its capital has no more decimal places than the columns. -/
theorem created_opensFlat (h : createExperiment settings env request = .ok db)
    (hgrid : OnGrid 4 request.initialCapital) : OpensFlat db := by
  obtain ⟨hvalid, rfl⟩ := createExperiment_ok h
  have hzero : (numeric 8 0).val = 0 := numeric_val_of_onGrid OnGrid.zero
  refine ⟨⟨_, _, rfl, rfl, ?_, ?_, hzero⟩, rfl, rfl, rfl, rfl⟩
  · show numeric 4 (quantize4 request.initialCapital) = numeric 4 request.initialCapital
    rw [quantize4_of_onGrid hgrid]
  · show 0 < (numeric 4 request.initialCapital).val
    rw [numeric_val_of_onGrid hgrid]
    exact accepted_capital hvalid

end TradingAI
