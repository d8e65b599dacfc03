import TradingAI.Agents.DecisionGate
import TradingAI.Agents.PipelineOutputParser

/-!
# `Agents.Pipeline` — the six stages of the multi-agent decision

A stage asks its provider, repairs the answer at most twice, and falls back on a value of its own if nothing
parses. The stages run one after another; the last one proposes a decision, and the gate, which hears the risk
level, has the last word.

Market and research data reach the stages through the prompts and the provider only; they are part of both
here. What is raised while they are gathered ends the run before its first stage.

## Contents
- `PipelineProvider`, `PipelinePrompts`, `PipelineInputs`.
- `StageRecord`, `StageSpec`; `repairLoop`, `parseWithRepair`, `providerExceptionStage`, `runStage`.
- The fallbacks, `runStages`, `selectFinalDecision`, `toLogPayload`, `run`.
-/

namespace TradingAI

open Json

namespace AgentDecisionPipeline

/-! ## Providers and prompts -/

/-- A `repair_…` method: prompt, context, the text to repair and its error. -/
abbrev Repair := String → AgentContext → String → String → ProviderAnswer (Option AgentProviderResponse)

structure PipelineProvider where
  completeTechnicalAnalyst :
    String → AgentContext → TechnicalAnalysisOutput → ProviderAnswer AgentProviderResponse
  repairTechnicalAnalyst : Repair
  completeFundamentalAnalyst : String → AgentContext → ProviderAnswer AgentProviderResponse
  repairFundamentalAnalyst : Repair
  completeSentimentAnalyst :
    String → AgentContext → TechnicalAnalysisOutput → ProviderAnswer AgentProviderResponse
  repairSentimentAnalyst : Repair
  completeRiskAssessment :
    String → AgentContext → TechnicalAnalysisOutput → FundamentalAnalysisOutput →
      SentimentAnalysisOutput → ProviderAnswer AgentProviderResponse
  repairRiskAssessment : Repair
  completePortfolioManager :
    String → AgentContext → TechnicalAnalysisOutput → FundamentalAnalysisOutput →
      SentimentAnalysisOutput → RiskAssessmentOutput → ProviderAnswer AgentProviderResponse
  repairPortfolioManager : Repair

/-- `PipelinePromptBuilder`: what the prompts say, and the `…_json` of the outputs. -/
structure PipelinePrompts where
  promptVersion : String
  technicalAnalyst : AgentContext → TechnicalAnalysisOutput → String
  fundamentalAnalyst : AgentContext → String
  sentimentAnalyst : AgentContext → TechnicalAnalysisOutput → String
  riskAssessment :
    AgentContext → TechnicalAnalysisOutput → FundamentalAnalysisOutput → SentimentAnalysisOutput → String
  portfolioManager :
    AgentContext → TechnicalAnalysisOutput → FundamentalAnalysisOutput → SentimentAnalysisOutput →
      RiskAssessmentOutput → String
  stageRepair : String → String → String → String
  technicalAnalysisJson : TechnicalAnalysisOutput → Details

/-- What is gathered before the first stage that asks a model. -/
structure PipelineInputs where
  fetchedDataJson   : Details
  fetchedDataText   : String
  technicalSnapshot : TechnicalAnalysisOutput

/-- `fundamental_analysis_json`. -/
def fundamentalAnalysisJson (o : FundamentalAnalysisOutput) : Details :=
  [("signal", .text o.signal.value), ("confidence", .num o.confidence), ("summary", .text o.summary)]

/-- `sentiment_analysis_json`. -/
def sentimentAnalysisJson (o : SentimentAnalysisOutput) : Details :=
  [("signal", .text o.signal.value), ("confidence", .num o.confidence), ("summary", .text o.summary)]

/-- `risk_assessment_json`. -/
def riskAssessmentJson (o : RiskAssessmentOutput) : Details :=
  [("riskLevel", .text o.riskLevel.value), ("confidence", .num o.confidence), ("summary", .text o.summary)]

/-- `trading_decision_json`. -/
def tradingDecisionJson (o : ParsedAgentOutput) : Details :=
  [("action", .text o.action.value), ("tradeIntent", .text o.tradeIntent.value),
   ("targetExposurePct", .num o.targetExposurePct), ("confidence", .num o.confidence),
   ("primaryDriver", .text o.primaryDriver.value), ("newInformation", .bool o.newInformation),
   ("rationale", .text o.rationale), ("eventId", textOrNull o.eventId)]

/-! ## One stage -/

/-- A `PipelineStageResult` without its output. -/
structure StageRecord where
  stepName            : AgentStepName
  promptText          : Option String
  rawOutputText       : Option String
  parsedOutputJson    : Details
  parsingFailed       : Bool
  parseError          : Option String
  fallbackReason      : Option String
  repairPromptText    : Option String
  repairRawOutputText : Option String

structure PipelineStageResult (α : Type) extends StageRecord where
  parsedOutput : α

/-- What tells one stage from another. -/
structure StageSpec (α : Type) where
  stepName   : AgentStepName
  stageLabel : String
  prompt     : String
  parser     : String → Parsed α
  fallback   : String → α
  serializer : α → Details

/-- The variables of `_parse_with_repair`. -/
structure RepairState (α : Type) where
  repairInput    : String
  parseError     : String
  repairPrompt   : Option String := none
  repairRaw      : Option String := none
  parsingFailed  : Bool := false
  fallbackReason : Option String := none
  parsed         : Option α := none

variable {α : Type} (prompts : PipelinePrompts) (context : AgentContext) (spec : StageSpec α)
variable (repair : Repair)

/-- `for _ in range(n)`, which each `break` ends. -/
def repairLoop : ℕ → RepairState α → Parsed (RepairState α)
  | 0, s => .ok s
  | n + 1, s =>
      let repairPrompt := prompts.stageRepair spec.stageLabel s.repairInput s.parseError
      match repair repairPrompt context s.repairInput s.parseError with
      | .error text =>
          .ok { s with repairPrompt := some repairPrompt, parseError := text, parsingFailed := true,
                       fallbackReason := some "PROVIDER_REPAIR_EXCEPTION" }
      | .ok none =>
          .ok { s with repairPrompt := some repairPrompt, parsingFailed := true,
                       fallbackReason := some "REPAIR_UNAVAILABLE" }
      | .ok (some response) =>
          match spec.parser response.rawOutputText with
          | .ok parsed =>
              .ok { s with repairPrompt := some repairPrompt, repairRaw := some response.rawOutputText,
                           parsed := some parsed, parsingFailed := false, fallbackReason := none }
          | .error (.agentOutputParseError text) =>
              repairLoop n
                { s with repairPrompt := some repairPrompt, repairRaw := some response.rawOutputText,
                         parseError := text, repairInput := response.rawOutputText,
                         parsingFailed := true, fallbackReason := some "REPAIR_PARSE_FAILED" }
          | .error e => .error e

/-- The `parsed_output_json` of a stage. -/
def stageJson (parsed : α) (fallbackUsed : Bool) (fallbackReason parseError : Option String)
    (response : AgentProviderResponse) : Details :=
  dictUpdate (spec.serializer parsed)
    [("stage", .text spec.stepName.value), ("fallbackUsed", .bool fallbackUsed),
     ("fallbackReason", textOrNull fallbackReason), ("parseError", textOrNull parseError),
     ("modelName", .text response.modelName), ("modelVersion", textOrNull response.modelVersion)]

/-- The end of `_parse_with_repair`. -/
def repairedStage (response : AgentProviderResponse) (s : RepairState α) : PipelineStageResult α :=
  let parsed := s.parsed.getD
    (spec.fallback (textOr (some s.parseError) "Pipeline output could not be repaired."))
  { stepName := spec.stepName, promptText := some spec.prompt,
    rawOutputText := some response.rawOutputText,
    parsedOutputJson :=
      stageJson spec parsed s.parsingFailed s.fallbackReason (some s.parseError) response
    parsingFailed := s.parsingFailed, parseError := some s.parseError,
    fallbackReason := s.fallbackReason, repairPromptText := s.repairPrompt,
    repairRawOutputText := s.repairRaw, parsedOutput := parsed }

/-- A stage whose first answer parses. -/
def cleanStage (response : AgentProviderResponse) (parsed : α) : PipelineStageResult α where
  stepName            := spec.stepName
  promptText          := some spec.prompt
  rawOutputText       := some response.rawOutputText
  parsedOutputJson    := stageJson spec parsed false none none response
  parsingFailed       := false
  parseError          := none
  fallbackReason      := none
  repairPromptText    := none
  repairRawOutputText := none
  parsedOutput        := parsed

/-- `_parse_with_repair`. -/
def parseWithRepair (response : AgentProviderResponse) : Parsed (PipelineStageResult α) :=
  match spec.parser response.rawOutputText with
  | .ok parsed => .ok (cleanStage spec response parsed)
  | .error (.agentOutputParseError message) =>
      (repairLoop prompts context spec repair 2
        { repairInput := response.rawOutputText, parseError := message }).map
          (repairedStage spec response)
  | .error e => .error e

/-- `_failed_provider_response`. -/
def failedProviderResponse : AgentProviderResponse where
  rawOutputText := ""
  modelName     := textOr context.modelName "deterministic-fake-multi-agent"

/-- `_provider_exception_stage`. -/
def providerExceptionStage (text : String) : PipelineStageResult α :=
  let response := failedProviderResponse context
  let parsed := spec.fallback text
  { stepName := spec.stepName, promptText := some spec.prompt,
    rawOutputText := some response.rawOutputText,
    parsedOutputJson :=
      stageJson spec parsed true (some "PROVIDER_COMPLETE_EXCEPTION") (some text) response
    parsingFailed := true, parseError := some text,
    fallbackReason := some "PROVIDER_COMPLETE_EXCEPTION", repairPromptText := none,
    repairRawOutputText := none, parsedOutput := parsed }

/-- The body of a `_run_…` method. -/
def runStage (complete : ProviderAnswer AgentProviderResponse) : Parsed (PipelineStageResult α) :=
  match complete with
  | .error text  => .ok (providerExceptionStage context spec text)
  | .ok response => parseWithRepair prompts context spec repair response

/-! ## The fallbacks -/

/-- `_fallback_technical_analysis`. -/
def fallbackTechnicalAnalysis (snapshot : TechnicalAnalysisOutput) (reason : String) :
    TechnicalAnalysisOutput :=
  { snapshot with
    confidence := 0
    rationale := "Technical analysis fallback used. " ++ reason
    riskNotes := some (snapshot.riskNotes.getD [] ++ ["Technical LLM stage fallback: " ++ reason]) }

/-- `_fallback_fundamental_analysis`. -/
def fallbackFundamentalAnalysis (reason : String) : FundamentalAnalysisOutput :=
  ⟨.neutral, 0, "Fundamental analysis fallback used. " ++ reason⟩

/-- `_fallback_sentiment_analysis`. -/
def fallbackSentimentAnalysis (reason : String) : SentimentAnalysisOutput :=
  ⟨.neutral, 0, "Sentiment analysis fallback used. " ++ reason⟩

/-- `_fallback_risk_assessment`. -/
def fallbackRiskAssessment (reason : String) : RiskAssessmentOutput :=
  ⟨.high, 0, "Risk assessment fallback used. " ++ reason⟩

/-- `_fallback_portfolio_decision`. -/
def fallbackPortfolioDecision (reason : String) : ParsedAgentOutput where
  action            := .hold
  tradeIntent       := .stayOut
  targetExposurePct := 0
  confidence        := 0
  primaryDriver     := .portfolio
  newInformation    := false
  rationale         := "Multi-agent fallback HOLD used. " ++ reason

/-! ## The stages -/

variable (I : Interpreter) (provider : PipelineProvider) (inputs : PipelineInputs)

/-- The results of the six stages. -/
structure PipelineStages where
  fetch       : StageRecord
  technical   : PipelineStageResult TechnicalAnalysisOutput
  fundamental : PipelineStageResult FundamentalAnalysisOutput
  sentiment   : PipelineStageResult SentimentAnalysisOutput
  risk        : PipelineStageResult RiskAssessmentOutput
  portfolio   : PipelineStageResult ParsedAgentOutput

/-- `_run_fetch_data`. -/
def fetchStage : StageRecord where
  stepName            := .fetchData
  promptText          := none
  rawOutputText       := some inputs.fetchedDataText
  parsedOutputJson    := dictUpdate inputs.fetchedDataJson
    [("stage", .text AgentStepName.fetchData.value), ("fallbackUsed", .bool false)]
  parsingFailed       := false
  parseError          := none
  fallbackReason      := none
  repairPromptText    := none
  repairRawOutputText := none

def technicalSpec : StageSpec TechnicalAnalysisOutput where
  stepName   := .technicalAnalyst
  stageLabel := "TechnicalAnalystAgent"
  prompt     := prompts.technicalAnalyst context inputs.technicalSnapshot
  parser     := PipelineOutputParser.parseTechnicalAnalysis I
  fallback   := fallbackTechnicalAnalysis inputs.technicalSnapshot
  serializer := prompts.technicalAnalysisJson

def fundamentalSpec : StageSpec FundamentalAnalysisOutput where
  stepName   := .fundamentalAnalyst
  stageLabel := "FundamentalAnalystAgent"
  prompt     := prompts.fundamentalAnalyst context
  parser     := PipelineOutputParser.parseFundamentalAnalysis I
  fallback   := fallbackFundamentalAnalysis
  serializer := fundamentalAnalysisJson

def sentimentSpec (technical : TechnicalAnalysisOutput) : StageSpec SentimentAnalysisOutput where
  stepName   := .sentimentAnalyst
  stageLabel := "SentimentAnalystAgent"
  prompt     := prompts.sentimentAnalyst context technical
  parser     := PipelineOutputParser.parseSentimentAnalysis I
  fallback   := fallbackSentimentAnalysis
  serializer := sentimentAnalysisJson

def riskSpec (technical : TechnicalAnalysisOutput) (fundamental : FundamentalAnalysisOutput)
    (sentiment : SentimentAnalysisOutput) : StageSpec RiskAssessmentOutput where
  stepName   := .riskManager
  stageLabel := "RiskManagerAgent"
  prompt     := prompts.riskAssessment context technical fundamental sentiment
  parser     := PipelineOutputParser.parseRiskAssessment I
  fallback   := fallbackRiskAssessment
  serializer := riskAssessmentJson

def portfolioSpec (technical : TechnicalAnalysisOutput) (fundamental : FundamentalAnalysisOutput)
    (sentiment : SentimentAnalysisOutput) (risk : RiskAssessmentOutput) : StageSpec ParsedAgentOutput where
  stepName   := .portfolioManager
  stageLabel := "PortfolioManagerAgent"
  prompt     := prompts.portfolioManager context technical fundamental sentiment risk
  parser     := PipelineOutputParser.parsePortfolioDecision I
  fallback   := fallbackPortfolioDecision
  serializer := tradingDecisionJson

/-- The stages, each with what the earlier ones found. -/
def runStages : Parsed PipelineStages := do
  let technicalStage := technicalSpec prompts context I inputs
  let technical ← runStage prompts context technicalStage provider.repairTechnicalAnalyst
    (provider.completeTechnicalAnalyst technicalStage.prompt context inputs.technicalSnapshot)
  let fundamentalStage := fundamentalSpec prompts context I
  let fundamental ← runStage prompts context fundamentalStage provider.repairFundamentalAnalyst
    (provider.completeFundamentalAnalyst fundamentalStage.prompt context)
  let sentimentStage := sentimentSpec prompts context I technical.parsedOutput
  let sentiment ← runStage prompts context sentimentStage provider.repairSentimentAnalyst
    (provider.completeSentimentAnalyst sentimentStage.prompt context technical.parsedOutput)
  let riskStage := riskSpec prompts context I technical.parsedOutput fundamental.parsedOutput
    sentiment.parsedOutput
  let risk ← runStage prompts context riskStage provider.repairRiskAssessment
    (provider.completeRiskAssessment riskStage.prompt context technical.parsedOutput
      fundamental.parsedOutput sentiment.parsedOutput)
  let portfolioStage := portfolioSpec prompts context I technical.parsedOutput fundamental.parsedOutput
    sentiment.parsedOutput risk.parsedOutput
  let portfolio ← runStage prompts context portfolioStage provider.repairPortfolioManager
    (provider.completePortfolioManager portfolioStage.prompt context technical.parsedOutput
      fundamental.parsedOutput sentiment.parsedOutput risk.parsedOutput)
  pure { fetch := fetchStage inputs, technical, fundamental, sentiment, risk, portfolio }

/-! ## The decision -/

def agentName : String := "MultiAgentDecisionGraph"

namespace PipelineStages

/-- `stage_results`. -/
def records (s : PipelineStages) : List StageRecord :=
  [s.fetch, s.technical.toStageRecord, s.fundamental.toStageRecord, s.sentiment.toStageRecord,
   s.risk.toStageRecord, s.portfolio.toStageRecord]

/-- What the gate is given: the proposal, or the fallback if the last stage failed. -/
def gateInput (s : PipelineStages) : ParsedAgentOutput :=
  if s.portfolio.parsingFailed then
    fallbackPortfolioDecision "Portfolio manager stage failed parse or repair."
  else s.portfolio.parsedOutput

end PipelineStages

/-- The status of `_to_log_payload` and of `_stage_summary`. -/
def StageRecord.parsingStatus (r : StageRecord) : ParsingStatus :=
  if r.parsingFailed then .failed
  else if r.repairPromptText.isSome then .repaired
  else .success

def parsingStatusText : ParsingStatus → String
  | .success  => "SUCCESS"
  | .failed   => "FAILED"
  | .repaired => "REPAIRED"

/-- `_stage_summary`. -/
def stageSummary (r : StageRecord) : Value :=
  .dict [("pipelineStage", .text r.stepName.value),
         ("parsingStatus", .text (parsingStatusText r.parsingStatus)),
         ("fallbackUsed", .bool r.parsingFailed), ("fallbackReason", textOrNull r.fallbackReason)]

/-- `_select_final_decision`, with the `final_json`. -/
def selectFinalDecision (s : PipelineStages) : ParsedAgentOutput × Details :=
  let gated := AgentDecisionGate.apply s.gateInput context (some s.risk.parsedOutput.riskLevel.value)
  let final := gated.decision
  let fallbackReason := gated.audit.fallbackReason.orElse fun _ =>
    if s.portfolio.parsingFailed then some "PORTFOLIO_MANAGER_STAGE_FAILED" else none
  let degraded := (s.records.filter StageRecord.parsingFailed).map fun r => Value.text r.stepName.value
  let json :=
    [("pipeline", .text agentName), ("graphVersion", .text prompts.promptVersion)] ++
      tradingDecisionJson final
  (final, dictUpdate (dictUpdate json gated.audit.json)
    [("fallbackUsed", .bool (fallbackReason.isSome || ¬ degraded.isEmpty)),
     ("fallbackReason", textOrNull fallbackReason), ("degradedStages", .list degraded),
     ("pipelineStages", .list (s.records.map fun r => .text r.stepName.value)),
     ("pipelineStageSummary", .list (s.records.map stageSummary)),
     ("technicalSignal", .text s.technical.parsedOutput.signal.value),
     ("fundamentalSignal", .text s.fundamental.parsedOutput.signal.value),
     ("sentimentSignal", .text s.sentiment.parsedOutput.signal.value),
     ("riskLevel", .text s.risk.parsedOutput.riskLevel.value)])

/-- `_to_log_payload`. -/
def toLogPayload (r : StageRecord) : AgentDecisionLogPayload where
  agentStepName       := r.stepName
  agentName           := agentName
  promptVersion       := prompts.promptVersion
  modelName           := textEntry r.parsedOutputJson "modelName"
  modelVersion        := textEntry r.parsedOutputJson "modelVersion"
  promptText          := r.promptText
  rawOutputText       := r.rawOutputText
  parsedOutputJson    := r.parsedOutputJson
  parsingStatus       := r.parsingStatus
  repairPromptText    := r.repairPromptText
  repairRawOutputText := r.repairRawOutputText

/-- What `run` makes of its stages. -/
def conclude (s : PipelineStages) : AgentRunResult :=
  let (final, json) := selectFinalDecision prompts context s
  { decision :=
      { action := final.action, symbol := context.symbol, reason := final.rationale,
        confidence := final.confidence, tradeIntent := some final.tradeIntent,
        targetExposurePct := some final.targetExposurePct, primaryDriver := some final.primaryDriver,
        newInformation := some final.newInformation,
        rawDecisionJson :=
          dictUpdate
            [("agent", .text agentName), ("agentVersion", .text "MULTI_AGENT_V2_TRADING"),
             ("promptVersion", .text prompts.promptVersion)]
            json }
    logPayload := toLogPayload prompts s.portfolio.toStageRecord
    logPayloads := s.records.map (toLogPayload prompts) }

/-- `AgentDecisionPipeline.run`. -/
def run : Parsed AgentRunResult :=
  (runStages prompts context I provider inputs).map (conclude prompts context)

end AgentDecisionPipeline

end TradingAI
