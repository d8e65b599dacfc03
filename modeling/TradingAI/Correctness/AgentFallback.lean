import TradingAI.Agents.SingleAgent
import TradingAI.Agents.PipelineOutputParser
import TradingAI.Execution.Calls

/-!
# `Correctness.AgentFallback` — invalid output and what becomes of it

Only one exception type leads an agent to its repair and its fallback, and the parsers raise others: comparing
a NaN, which JSON texts may contain, is an `InvalidOperation`; an integer literal of more than 4300 digits is a
`ValueError`; deep nesting is a `RecursionError`. A text that reaches none of these is *readable*. The parsers
keep to their contract on exactly the readable texts, and a run returns exactly if it receives no other.

## Contents
- `ParsesSafely`, `DegradesToHold`: the contract. `AllReadable`: when it is met.
- `degradesToHold_iff`.
- `nan_target_escapes`: an answer that no fallback catches.
-/

namespace TradingAI

/-- **Safe parsing**: a value with numbers between 0 and 1, or an `AgentOutputParseError`, and nothing else. -/
structure ParsesSafely {α : Type} (numbers : α → List ℚ) (x : Parsed α) : Prop where
  proper : Proper x
  bounds : ∀ r, x = .ok r → ∀ q ∈ numbers r, 0 ≤ q ∧ q ≤ 1

variable {I : Interpreter} {builder : PromptBuilder} {provider : AgentProvider} {context : AgentContext}
variable {text : String}

/-- **Invalid output degrades to HOLD**, for one provider and context, and for the parsers on one text. -/
structure DegradesToHold (I : Interpreter) (builder : PromptBuilder) (provider : AgentProvider)
    (context : AgentContext) (text : String) : Prop where
  returns : ∃ r, SingleAgent.run I builder provider context = .ok r
  agent : ParsesSafely (fun r => [r.confidence, r.targetExposurePct]) (AgentOutputParser.parse I text)
  marketAnalysis :
    ParsesSafely (fun r => [r.confidence]) (PipelineOutputParser.parseMarketAnalysis I text)
  tradingDecision :
    ParsesSafely (fun r => [r.confidence, r.targetExposurePct])
      (PipelineOutputParser.parseTradingDecision I text)
  riskManager : ParsesSafely (fun r => [r.confidence]) (PipelineOutputParser.parseRiskManager I text)
  fundamentalAnalysis :
    ParsesSafely (fun r => [r.confidence]) (PipelineOutputParser.parseFundamentalAnalysis I text)
  sentimentAnalysis :
    ParsesSafely (fun r => [r.confidence]) (PipelineOutputParser.parseSentimentAnalysis I text)
  riskAssessment :
    ParsesSafely (fun r => [r.confidence]) (PipelineOutputParser.parseRiskAssessment I text)
  technicalAnalysis :
    ParsesSafely (fun r => [r.confidence]) (PipelineOutputParser.parseTechnicalAnalysis I text)
  portfolioDecision :
    ParsesSafely (fun r => [r.confidence, r.targetExposurePct])
      (PipelineOutputParser.parsePortfolioDecision I text)
  holds : ∀ r, SingleAgent.run I builder provider context = .ok r →
    (∀ t ∈ SingleAgent.receivedTexts I builder provider context,
      ∀ parsed, AgentOutputParser.parse I t ≠ .ok parsed) → r.decision.action = .hold

open PipelineOutputParser in
/-- The texts the contract is about are readable: those the run receives, and the one the parsers are given,
    by the fields each of them looks at. -/
structure AllReadable (I : Interpreter) (builder : PromptBuilder) (provider : AgentProvider)
    (context : AgentContext) (text : String) : Prop where
  received : ∀ t ∈ SingleAgent.receivedTexts I builder provider context, AgentOutputParser.Readable I t
  agent : AgentOutputParser.Readable I text
  decision : Readable I (AgentOutputParser.NumbersReadable I) text
  marketBias : Readable I (ConfidenceReadable I MarketBias.all MarketBias.value "marketBias") text
  verdict : Readable I (ConfidenceReadable I RiskManagerVerdict.all RiskManagerVerdict.value "verdict") text
  signal : Readable I (ConfidenceReadable I MarketBias.all MarketBias.value "signal") text
  riskLevel : Readable I (ConfidenceReadable I RiskLevel.all RiskLevel.value "riskLevel") text
  technical : Readable I (TechnicalReadable I) text

/-! ## Each parser keeps to its contract on exactly the readable texts -/

theorem parsesSafely_iff {α : Type} {numbers : α → List ℚ} {x : Parsed α}
    (h : ∀ r, x = .ok r → ∀ q ∈ numbers r, 0 ≤ q ∧ q ≤ 1) : ParsesSafely numbers x ↔ Proper x :=
  ⟨fun hs => hs.proper, fun hp => ⟨hp, h⟩⟩

theorem agent_parsesSafely_iff :
    ParsesSafely (fun r => [r.confidence, r.targetExposurePct]) (AgentOutputParser.parse I text) ↔
      AgentOutputParser.Readable I text := by
  rw [parsesSafely_iff, AgentOutputParser.proper_parse_iff]
  intro r hr q hq
  obtain ⟨⟨ht0, ht1, -⟩, hc0, hc1, -⟩ := AgentOutputParser.parse_bounds hr
  simp only [List.mem_cons, List.not_mem_nil, or_false] at hq
  rcases hq with rfl | rfl
  · exact ⟨hc0, hc1⟩
  · exact ⟨ht0, ht1⟩

theorem decision_parsesSafely_iff :
    ParsesSafely (fun r => [r.confidence, r.targetExposurePct])
        (PipelineOutputParser.parseTradingDecision I text) ↔
      PipelineOutputParser.Readable I (AgentOutputParser.NumbersReadable I) text := by
  rw [parsesSafely_iff, PipelineOutputParser.proper_parseTradingDecision_iff]
  intro r hr q hq
  obtain ⟨⟨ht0, ht1, -⟩, hc0, hc1, -⟩ := PipelineOutputParser.parseTradingDecision_bounds hr
  simp only [List.mem_cons, List.not_mem_nil, or_false] at hq
  rcases hq with rfl | rfl
  · exact ⟨hc0, hc1⟩
  · exact ⟨ht0, ht1⟩

open PipelineOutputParser in
/-- The parsers of opinions, for any of them. -/
theorem opinion_parsesSafely_iff {α β : Type} {members : List α} {value : α → String}
    {field textField : String} {build : α → ℚ → String → β} {confidence : β → ℚ}
    (hbuild : ∀ a q s, confidence (build a q s) = q) :
    ParsesSafely (fun r => [confidence r]) (parseOpinion I members value field textField build text) ↔
      Readable I (ConfidenceReadable I members value field) text := by
  rw [parsesSafely_iff, proper_parseOpinion_iff]
  intro r hr q hq
  obtain ⟨a, c, s, rfl, h0, h1⟩ := parseOpinion_bounds hr
  rw [List.mem_singleton.mp hq, hbuild]
  exact ⟨h0, h1⟩

theorem technical_parsesSafely_iff :
    ParsesSafely (fun r => [r.confidence]) (PipelineOutputParser.parseTechnicalAnalysis I text) ↔
      PipelineOutputParser.Readable I (PipelineOutputParser.TechnicalReadable I) text := by
  rw [parsesSafely_iff, PipelineOutputParser.proper_parseTechnicalAnalysis_iff]
  intro r hr q hq
  rw [List.mem_singleton.mp hq]
  exact PipelineOutputParser.parseTechnicalAnalysis_bounds hr

/-! ## The contract -/

/-- **Invalid output degrades to HOLD exactly when it is readable.** -/
theorem degradesToHold_iff (I : Interpreter) (builder : PromptBuilder) (provider : AgentProvider)
    (context : AgentContext) (text : String) :
    DegradesToHold I builder provider context text ↔ AllReadable I builder provider context text := by
  constructor
  · intro h
    refine ⟨fun t ht => ?_, ?_, ?_, ?_, ?_, ?_, ?_, ?_⟩
    · exact AgentOutputParser.proper_parse_iff.mp (SingleAgent.run_ok_iff.mp h.returns t ht)
    · exact agent_parsesSafely_iff.mp h.agent
    · exact decision_parsesSafely_iff.mp h.tradingDecision
    · exact (opinion_parsesSafely_iff fun _ _ _ => rfl).mp h.marketAnalysis
    · exact (opinion_parsesSafely_iff fun _ _ _ => rfl).mp h.riskManager
    · exact (opinion_parsesSafely_iff fun _ _ _ => rfl).mp h.fundamentalAnalysis
    · exact (opinion_parsesSafely_iff fun _ _ _ => rfl).mp h.riskAssessment
    · exact technical_parsesSafely_iff.mp h.technicalAnalysis
  · intro h
    refine ⟨?_, ?_, ?_, ?_, ?_, ?_, ?_, ?_, ?_, ?_, ?_⟩
    · apply SingleAgent.run_ok_iff.mpr
      intro t ht
      exact AgentOutputParser.proper_parse_iff.mpr (h.received t ht)
    · exact agent_parsesSafely_iff.mpr h.agent
    · exact (opinion_parsesSafely_iff fun _ _ _ => rfl).mpr h.marketBias
    · exact decision_parsesSafely_iff.mpr h.decision
    · exact (opinion_parsesSafely_iff fun _ _ _ => rfl).mpr h.verdict
    · exact (opinion_parsesSafely_iff fun _ _ _ => rfl).mpr h.signal
    · exact (opinion_parsesSafely_iff fun _ _ _ => rfl).mpr h.signal
    · exact (opinion_parsesSafely_iff fun _ _ _ => rfl).mpr h.riskLevel
    · exact technical_parsesSafely_iff.mpr h.technical
    · exact decision_parsesSafely_iff.mpr h.decision
    · intro r hr hnone; exact SingleAgent.run_hold hr hnone

/-! ## An answer nobody catches -/

/-- Float literals are read exactly, and a thousand containers may nest. -/
def smallInterpreter : Interpreter where
  decoder   := { readFloat := fun cs => (DecimalText.read cs).getD (.nan false), recursionLimit := 1000 }
  reprLimit := 1000
  str       := fun _ => ""

def smallBuilder : PromptBuilder := ⟨"single-agent-v2-target-exposure", fun _ => "", fun _ _ => ""⟩

/-- A provider that gives this answer and has no repair for it. -/
def answering (text : String) : AgentProvider :=
  ⟨fun _ _ => .ok ⟨text, "model", none⟩, fun _ _ _ _ => .ok none⟩

def smallContext : AgentContext where
  experimentId          := 1
  executionStepId       := 1
  symbol                := spySymbol
  bar                   := barAt 100
  cash                  := 1000
  positionQuantity      := none
  currentPortfolioValue := none
  confidenceThreshold   := none
  parametersJson        := none
  agentMode             := .singleAgent
  modelName             := none
  eventContext          := none

/-- `{"action": "HOLD", "tradeIntent": "STAY_OUT", "targetExposurePct": NaN}`. -/
def nanAnswer : String :=
  "\x7b\"action\": \"HOLD\", \"tradeIntent\": \"STAY_OUT\", \"targetExposurePct\": NaN\x7d"

/-- **A NaN escapes**: the run raises an `InvalidOperation` where it should fall back to HOLD. -/
theorem nan_target_escapes :
    ¬ ∀ (I : Interpreter) (builder : PromptBuilder) (provider : AgentProvider) (context : AgentContext)
      (text : String), DegradesToHold I builder provider context text := by
  intro h
  obtain ⟨r, hr⟩ := (h smallInterpreter smallBuilder (answering nanAnswer) smallContext "").returns
  have hraised :
      (SingleAgent.run smallInterpreter smallBuilder (answering nanAnswer) smallContext).isOk = false := by
    decide +kernel
  rw [hr] at hraised
  cases hraised

/-- An answer that is not JSON at all is no trouble. -/
example : (SingleAgent.run smallInterpreter smallBuilder (answering "I would buy.") smallContext).toOption.map
    (fun r => (r.decision.action, r.logPayload.parsingStatus)) = some (.hold, .failed) := by decide +kernel

end TradingAI
