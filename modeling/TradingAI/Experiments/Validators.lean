import TradingAI.Domain.Values
import TradingAI.Lib.Outcome

/-!
# `Experiments.Validators` — which requests for an experiment are accepted

`validate_create_experiment_request`, check by check in the source's order: the first one that fails is
the one that is reported. Every refusal names the field it is about.

The request carries what the checks read. Its decimals are finite, as the schema lets no other in.

## Contents
- `ValidatorSettings`, `CreateExperimentRequest`.
- `validateCreateExperimentRequest` and its parts.
- `refusal_names_field`, `accepted_capital`.
-/

namespace TradingAI

open Outcome

/-! ## Requests -/

/-- What the validator reads of the settings. -/
structure ValidatorSettings where
  paperTradingTestModeEnabled : Bool
  scadsaiDefaultModel         : String
  scadsaiAllowedModelList     : List String

structure StrategyConfigInput where
  movingAverageWindow : Option ℤ
  agentMode           : Option AgentMode
  modelName           : Option String
  confidenceThreshold : Option ℚ
  parametersJson      : Option Details

structure CreateExperimentRequest where
  mode             : ExperimentMode
  strategyType     : StrategyType
  assetSymbol      : String
  initialCapital   : ℚ
  startDate        : Date
  endDate          : Date
  tradingFrequency : TradingFrequency
  feeValue         : ℚ
  strategyConfig   : StrategyConfigInput

/-- `ValidationAppError`: the first entry of its details is the field. -/
def validationAppError (message field : String) (details : Details) : Raised :=
  ⟨.other, message, ("field", .text field) :: details⟩

/-! ## The checks -/

section
variable (settings : ValidatorSettings) (request : CreateExperimentRequest)

def validateAssetSymbol : Except Raised Unit := do
  let assetSymbol := normalizeSymbol request.assetSymbol
  refuseIf (isSupportedEquitySymbol assetSymbol = false)
    (validationAppError "assetSymbol is not supported." "assetSymbol" [("value", .text request.assetSymbol)])
  refuseIf (request.mode = .historicalSimulation ∧ assetSymbol ≠ spySymbol)
    (validationAppError "Historical simulation supports SPY only in this release." "assetSymbol"
      [("value", .text request.assetSymbol)])

def validateAmounts : Except Raised Unit := do
  refuseIf (request.initialCapital ≤ 0)
    (validationAppError "initialCapital must be positive." "initialCapital" [])
  refuseIf (request.endDate < request.startDate)
    (validationAppError "startDate must be less than or equal to endDate." "startDate" [])
  refuseIf (request.feeValue < 0)
    (validationAppError "feeValue must be greater than or equal to 0." "feeValue" [])

/-- The branch of the smoke test. -/
def validateSmokeTest : Except Raised Unit := do
  refuseIf (normalizeSymbol request.assetSymbol ≠ spySymbol)
    (validationAppError "Paper trading smoke-test supports SPY only." "assetSymbol"
      [("value", .text request.assetSymbol)])
  refuseIf (settings.paperTradingTestModeEnabled = false)
    (validationAppError "Paper trading smoke-test strategy is disabled." "strategyType"
      [("requiredConfig", .text "PAPER_TRADING_TEST_MODE_ENABLED=true")])
  refuseIf (request.mode ≠ .paperTrading)
    (validationAppError "Paper trading smoke-test supports PAPER_TRADING mode only." "mode"
      [("value", .text request.mode.value)])
  refuseIf (request.tradingFrequency ≠ .test1Min)
    (validationAppError "Paper trading smoke-test supports TEST_1_MIN frequency only." "tradingFrequency"
      [("value", .text request.tradingFrequency.value)])

/-- The branch of opening range breakout. -/
def validateOpeningRange : Except Raised Unit := do
  refuseIf (request.mode ≠ .historicalSimulation ∧ request.mode ≠ .paperTrading)
    (validationAppError "Opening Range Breakout supports HISTORICAL_SIMULATION or PAPER_TRADING mode only." "mode"
      [("value", .text request.mode.value)])
  refuseIf (request.tradingFrequency ≠ .intraday5Min)
    (validationAppError "Opening Range Breakout supports INTRADAY_5_MIN frequency only." "tradingFrequency"
      [("value", .text request.tradingFrequency.value)])

/-- The other strategies: a frequency that only one strategy has is refused. -/
def validateFrequency : Except Raised Unit := do
  refuseIf (request.tradingFrequency = .intraday5Min)
    (validationAppError "INTRADAY_5_MIN frequency is supported only for Opening Range Breakout." "tradingFrequency"
      [("strategyType", .text request.strategyType.value)])
  refuseIf (request.tradingFrequency = .test1Min)
    (validationAppError "TEST_1_MIN frequency is supported only for paper trading smoke-test." "tradingFrequency"
      [("strategyType", .text request.strategyType.value)])
  refuseIf (request.tradingFrequency = .hourly ∧ request.strategyType ≠ .agenticAi)
    (validationAppError "HOURLY frequency is supported only for Agentic AI paper trading." "tradingFrequency"
      [("strategyType", .text request.strategyType.value)])

def validateStrategy : Except Raised Unit := do
  refuseIf (request.mode = .historicalSimulation ∧ request.strategyType = .agenticAi)
    (validationAppError "Agentic AI is supported for PAPER_TRADING mode only." "strategyType"
      [("mode", .text request.mode.value), ("strategyType", .text request.strategyType.value)])
  match request.strategyType with
  | .paperTradingSmokeTest => validateSmokeTest settings request
  | .openingRangeBreakout  => validateOpeningRange request
  | _                      => validateFrequency request

def supportedPaperConfigs : List (StrategyType × TradingFrequency) :=
  [(.buyAndHold, .daily), (.movingAverage, .daily), (.openingRangeBreakout, .intraday5Min),
   (.agenticAi, .daily), (.agenticAi, .hourly)]

/-- `request.strategy_config.model_name or settings.scadsai_default_model`. -/
def requestedModel : String :=
  match request.strategyConfig.modelName with
  | some name => if name = "" then settings.scadsaiDefaultModel else name
  | none      => settings.scadsaiDefaultModel

def validateAgent : Except Raised Unit := do
  let agentMode := request.strategyConfig.agentMode.getD .singleAgent
  refuseIf (agentMode ≠ .singleAgent ∧ agentMode ≠ .pipeline)
    (validationAppError
      "Agentic AI paper trading supports SINGLE_AGENT or PIPELINE (Multi Agent) mode only."
      "strategyConfig.agentMode" [("value", .text agentMode.value)])
  let modelName := requestedModel settings request
  refuseIf (modelName ∉ settings.scadsaiAllowedModelList)
    (validationAppError "Selected ScaDS.AI model is not allowed." "strategyConfig.modelName"
      [("value", .text modelName), ("allowedModels", .list (settings.scadsaiAllowedModelList.map .text))])

def validatePaperTrading : Except Raised Unit :=
  if request.mode = .paperTrading then do
    refuseIf (request.strategyType ≠ .paperTradingSmokeTest
        ∧ (request.strategyType, request.tradingFrequency) ∉ supportedPaperConfigs)
      (validationAppError
        ("Paper trading supports configured equity assets with these combinations: "
          ++ "BUY_AND_HOLD DAILY, MOVING_AVERAGE DAILY, " ++ "AGENTIC_AI DAILY/HOURLY, or "
          ++ "OPENING_RANGE_BREAKOUT INTRADAY_5_MIN.")
        "strategyType"
        [("strategyType", .text request.strategyType.value),
         ("tradingFrequency", .text request.tradingFrequency.value)])
    if request.strategyType = .agenticAi then validateAgent settings request else .ok ()
  else .ok ()

/-- `_validate_risk_config`. -/
def validateRiskConfig (riskConfig : Details) : Except Raised Unit :=
  match riskConfig.find? (·.1 = "fallbackAction") with
  | none | some (_, .null) | some (_, .text "HOLD") => .ok ()
  | some _ =>
      .error (validationAppError "fallbackAction must be HOLD."
        "strategyConfig.parametersJson.riskConfig.fallbackAction" [])

def validateParameters : Except Raised Unit :=
  match (request.strategyConfig.parametersJson.getD []).find? (·.1 = "riskConfig") with
  | some (_, .dict riskConfig) => validateRiskConfig riskConfig
  | _ => .ok ()

def validateStrategyConfig : Except Raised Unit := do
  refuseIf (∃ window ∈ request.strategyConfig.movingAverageWindow, window ≤ 0)
    (validationAppError "movingAverageWindow must be positive when provided."
      "strategyConfig.movingAverageWindow" [])
  refuseIf (∃ threshold ∈ request.strategyConfig.confidenceThreshold, threshold < 0 ∨ 1 < threshold)
    (validationAppError "confidenceThreshold must be between 0 and 1 when provided."
      "strategyConfig.confidenceThreshold" [])
  validateParameters request

/-- `validate_create_experiment_request`. -/
def validateCreateExperimentRequest : Except Raised Unit := do
  validateAssetSymbol request
  validateAmounts request
  validateStrategy settings request
  validatePaperTrading settings request
  validateStrategyConfig request

end

/-! ## What it refuses and what it accepts -/

variable {settings : ValidatorSettings} {request : CreateExperimentRequest}

/-- The details of an error begin with the field it is about. -/
def Raised.NamesField (e : Raised) : Prop := ∃ field details, e.details = ("field", .text field) :: details

/-- A part whose errors all name a field. -/
structure Refuses (check : Except Raised Unit) : Prop where
  namesField : ∀ e, check = .error e → e.NamesField

theorem Refuses.ok : Refuses (.ok ()) := ⟨fun _ h => by cases h⟩

theorem Refuses.error (message field : String) (details : Details) :
    Refuses (.error (validationAppError message field details)) := by
  refine ⟨fun e h => ?_⟩
  cases h
  exact ⟨field, details, rfl⟩

theorem Refuses.refuseIf {c : Prop} [Decidable c] (message field : String) (details : Details) :
    Refuses (refuseIf c (validationAppError message field details)) := by
  unfold Outcome.refuseIf
  split
  · exact .error message field details
  · exact .ok

theorem Refuses.bind {check : Except Raised Unit} {next : Unit → Except Raised Unit} (hcheck : Refuses check)
    (hnext : ∀ u, Refuses (next u)) : Refuses (check >>= next) :=
  ⟨fun _ h => error_of_bind hcheck.namesField (fun u => (hnext u).namesField) h⟩

theorem Refuses.ite {c : Prop} [Decidable c] {check other : Except Raised Unit} (hcheck : Refuses check)
    (hother : Refuses other) : Refuses (if c then check else other) := by
  split
  · exact hcheck
  · exact hother

theorem validateStrategy_refuses : Refuses (validateStrategy settings request) := by
  unfold validateStrategy
  refine .bind (.refuseIf ..) fun _ => ?_
  split
  · exact .bind (.refuseIf ..) fun _ => .bind (.refuseIf ..) fun _ => .bind (.refuseIf ..) fun _ => .refuseIf ..
  · exact .bind (.refuseIf ..) fun _ => .refuseIf ..
  · exact .bind (.refuseIf ..) fun _ => .bind (.refuseIf ..) fun _ => .refuseIf ..

theorem validatePaperTrading_refuses : Refuses (validatePaperTrading settings request) := by
  unfold validatePaperTrading validateAgent
  refine .ite ?_ .ok
  refine .bind (.refuseIf ..) fun _ => .ite ?_ .ok
  exact .bind (.refuseIf ..) fun _ => .refuseIf ..

theorem validateStrategyConfig_refuses : Refuses (validateStrategyConfig request) := by
  unfold validateStrategyConfig validateParameters
  refine .bind (.refuseIf ..) fun _ => .bind (.refuseIf ..) fun _ => ?_
  split
  · unfold validateRiskConfig
    split
    · exact .ok
    · exact .ok
    · exact .ok
    · exact .error ..
  · exact .ok

/-- **Every refusal names the field it is about.** -/
theorem refusal_names_field : Refuses (validateCreateExperimentRequest settings request) := by
  unfold validateCreateExperimentRequest validateAssetSymbol validateAmounts
  refine .bind (.bind (.refuseIf ..) fun _ => .refuseIf ..) fun _ => ?_
  refine .bind (.bind (.refuseIf ..) fun _ => .bind (.refuseIf ..) fun _ => .refuseIf ..) fun _ => ?_
  refine .bind validateStrategy_refuses fun _ => ?_
  exact .bind validatePaperTrading_refuses fun _ => validateStrategyConfig_refuses

/-- An accepted request has a positive capital. -/
theorem accepted_capital (h : validateCreateExperimentRequest settings request = .ok ()) :
    0 < request.initialCapital := by
  obtain ⟨_, -, h⟩ := ok_of_bind h
  obtain ⟨_, hamounts, -⟩ := ok_of_bind h
  obtain ⟨_, hcapital, -⟩ := ok_of_bind hamounts
  exact not_le.mp (refuseIf_eq_ok.mp hcapital)

end TradingAI
