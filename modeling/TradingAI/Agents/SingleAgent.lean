import TradingAI.Agents.DecisionGate
import TradingAI.Agents.OutputParser

/-!
# `Agents.SingleAgent` — one answer, one repair, or HOLD

`SingleAgent.run` asks its provider once, and once more to repair an answer that does not parse. When there
is nothing to parse, the decision is a fallback HOLD. Whatever was decided passes the gate.

## Contents
- `AgentProvider`, `PromptBuilder`.
- `attempt`: from the provider to a parsed decision. `run`: the gate and the record of the run.
- `receivedTexts`: the texts a run has to parse.
- `run_ok_iff`: when a run returns. `run_hold`: that it holds when no text parses.
-/

namespace TradingAI

open Json

structure AgentProvider where
  complete : String → AgentContext → ProviderAnswer AgentProviderResponse
  repair   : String → AgentContext → String → String → ProviderAnswer (Option AgentProviderResponse)

/-- What the prompts say. -/
structure PromptBuilder where
  promptVersion     : String
  buildPrompt       : AgentContext → String
  buildRepairPrompt : String → String → String

namespace SingleAgent

def agentName : String := "SingleAgent"

/-- `_fallback_output`. -/
def fallbackOutput (reason : String) : ParsedAgentOutput where
  action            := .hold
  tradeIntent       := .stayOut
  targetExposurePct := 0
  confidence        := 0
  primaryDriver     := .portfolio
  newInformation    := false
  rationale := "Agent output could not be parsed or repaired; fallback HOLD used. " ++ reason

/-- `_failed_provider_response`. -/
def failedProviderResponse (context : AgentContext) : AgentProviderResponse where
  rawOutputText := ""
  modelName     := textOr context.modelName "deterministic-fake-agent"

/-- What `run` knows once its provider has had its say. -/
structure Attempt where
  parsed          : ParsedAgentOutput
  response        : AgentProviderResponse
  parsingStatus   : ParsingStatus := .success
  fallbackReason  : Option String := none
  parseError      : Option String := none
  repairPrompt    : Option String := none
  repairRawOutput : Option String := none

/-- An attempt that falls back. -/
def fellBack (response : AgentProviderResponse) (fallbackReason parseError : String)
    (repairPrompt repairRawOutput : Option String) : Attempt where
  parsed          := fallbackOutput parseError
  response        := response
  parsingStatus   := .failed
  fallbackReason  := some fallbackReason
  parseError      := some parseError
  repairPrompt    := repairPrompt
  repairRawOutput := repairRawOutput

variable (I : Interpreter) (builder : PromptBuilder) (provider : AgentProvider) (context : AgentContext)

/-- The repair of an answer that raised an `AgentOutputParseError` with this message. -/
def repairAttempt (response : AgentProviderResponse) (message : String) : Parsed Attempt :=
  let repairPrompt := builder.buildRepairPrompt response.rawOutputText message
  match provider.repair repairPrompt context response.rawOutputText message with
  | .error text => .ok (fellBack response "PROVIDER_REPAIR_EXCEPTION" text (some repairPrompt) none)
  | .ok none => .ok (fellBack response "REPAIR_UNAVAILABLE" message (some repairPrompt) none)
  | .ok (some repaired) =>
      match AgentOutputParser.parse I repaired.rawOutputText with
      | .ok parsed =>
          -- the record keeps the error that made the repair necessary
          .ok { parsed, response, parsingStatus := .repaired, parseError := some message,
                repairPrompt := some repairPrompt, repairRawOutput := some repaired.rawOutputText }
      | .error (.agentOutputParseError text) =>
          .ok (fellBack response "REPAIR_PARSE_FAILED" text (some repairPrompt)
            (some repaired.rawOutputText))
      | .error e => .error e

/-- The `try` of `run`. Only an `AgentOutputParseError` leads on to the repair. -/
def attempt : Parsed Attempt :=
  match provider.complete (builder.buildPrompt context) context with
  | .error text =>
      .ok (fellBack (failedProviderResponse context) "PROVIDER_COMPLETE_EXCEPTION" text none none)
  | .ok response =>
      match AgentOutputParser.parse I response.rawOutputText with
      | .ok parsed => .ok { parsed, response }
      | .error (.agentOutputParseError message) => repairAttempt I builder provider context response message
      | .error e => .error e

/-- The `decision_json`. The gate's reason for a fallback counts before the parser's. -/
def decisionJson (final : ParsedAgentOutput) (audit : GateAudit) (a : Attempt) : Details :=
  let fallbackReason := audit.fallbackReason.orElse fun _ => a.fallbackReason
  dictUpdate
    (dictUpdate
      [("action", .text final.action.value), ("tradeIntent", .text final.tradeIntent.value),
       ("targetExposurePct", .num final.targetExposurePct), ("confidence", .num final.confidence),
       ("primaryDriver", .text final.primaryDriver.value), ("newInformation", .bool final.newInformation),
       ("rationale", .text final.rationale), ("eventId", textOrNull final.eventId)]
      audit.json)
    [("parseError", textOrNull a.parseError), ("fallbackUsed", .bool fallbackReason.isSome),
     ("fallbackReason", textOrNull fallbackReason)]

/-- What `run` makes of an attempt. -/
def conclude (a : Attempt) : AgentRunResult :=
  let gated := AgentDecisionGate.apply a.parsed context
  let final := gated.decision
  let json := decisionJson final gated.audit a
  { decision :=
      { action := final.action, symbol := context.symbol, reason := final.rationale,
        confidence := final.confidence, tradeIntent := some final.tradeIntent,
        targetExposurePct := some final.targetExposurePct, primaryDriver := some final.primaryDriver,
        newInformation := some final.newInformation,
        rawDecisionJson :=
          dictUpdate
            [("agent", .text agentName), ("agentVersion", .text "SINGLE_AGENT_V2_TRADING"),
             ("provider", .text a.response.modelName), ("promptVersion", .text builder.promptVersion)]
            json }
    logPayload :=
      { agentStepName := .singleDecisionAgent, agentName, promptVersion := builder.promptVersion,
        modelName := some a.response.modelName, modelVersion := a.response.modelVersion,
        promptText := some (builder.buildPrompt context), rawOutputText := some a.response.rawOutputText,
        parsedOutputJson := json, parsingStatus := a.parsingStatus,
        repairPromptText := a.repairPrompt, repairRawOutputText := a.repairRawOutput } }

/-- `SingleAgent.run`. -/
def run : Parsed AgentRunResult := (attempt I builder provider context).map (conclude builder context)

/-! ## The texts of a run -/

/-- The repair a run asks for, if its answer calls for one. -/
def repairedText (response : AgentProviderResponse) : Option String :=
  match AgentOutputParser.parse I response.rawOutputText with
  | .error (.agentOutputParseError message) =>
      match provider.repair (builder.buildRepairPrompt response.rawOutputText message) context
          response.rawOutputText message with
      | .ok (some repaired) => some repaired.rawOutputText
      | _ => none
  | _ => none

/-- **The texts a run receives**: the answer, and the repaired answer. -/
def receivedTexts : List String :=
  match provider.complete (builder.buildPrompt context) context with
  | .error _     => []
  | .ok response =>
      response.rawOutputText :: (repairedText I builder provider context response).toList

variable {I builder provider context}

/-- The attempt succeeds or a text is improper: the repair. -/
theorem repairAttempt_ok_iff {response : AgentProviderResponse} {message : String}
    (hparse : AgentOutputParser.parse I response.rawOutputText = .error (.agentOutputParseError message)) :
    (∃ a, repairAttempt I builder provider context response message = .ok a) ↔
      ∀ text ∈ repairedText I builder provider context response,
        Proper (AgentOutputParser.parse I text) := by
  unfold repairAttempt repairedText
  rw [hparse]
  dsimp only
  cases provider.repair (builder.buildRepairPrompt response.rawOutputText message) context
      response.rawOutputText message with
  | error text => simp
  | ok answer =>
      cases answer with
      | none => simp
      | some repaired =>
          simp only [Option.mem_def, Option.some.injEq, forall_eq']
          cases hrepaired : AgentOutputParser.parse I repaired.rawOutputText with
          | ok parsed => exact iff_of_true ⟨_, rfl⟩ (proper_ok _)
          | error e =>
              cases e with
              | agentOutputParseError text => exact iff_of_true ⟨_, rfl⟩ (proper_parseError _)
              | _ =>
                  refine iff_of_false ?_ ?_
                  · rintro ⟨a, ha⟩; cases ha
                  · intro h; obtain ⟨m, hm⟩ := h _ rfl; cases hm

/-- The attempt succeeds exactly if no text it receives is improper. -/
theorem attempt_ok_iff :
    (∃ a, attempt I builder provider context = .ok a) ↔
      ∀ text ∈ receivedTexts I builder provider context, Proper (AgentOutputParser.parse I text) := by
  unfold attempt receivedTexts
  cases provider.complete (builder.buildPrompt context) context with
  | error text => simp
  | ok response =>
      simp only [List.mem_cons, Option.mem_toList, forall_eq_or_imp]
      cases hparse : AgentOutputParser.parse I response.rawOutputText with
      | ok parsed =>
          refine iff_of_true ⟨_, rfl⟩ ⟨proper_ok _, ?_⟩
          intro text htext
          simp [repairedText, hparse] at htext
      | error e =>
          cases e with
          | agentOutputParseError message =>
              have hproper : Proper (.error (.agentOutputParseError message) : Parsed ParsedAgentOutput) :=
                proper_parseError message
              rw [and_iff_right hproper]
              exact repairAttempt_ok_iff hparse
          | _ =>
              refine iff_of_false ?_ ?_
              · rintro ⟨a, ha⟩; cases ha
              · intro h; obtain ⟨m, hm⟩ := h.1 _ rfl; cases hm

/-- **When a run returns**: when every text it receives raises nothing but an `AgentOutputParseError`. -/
theorem run_ok_iff :
    (∃ r, run I builder provider context = .ok r) ↔
      ∀ text ∈ receivedTexts I builder provider context, Proper (AgentOutputParser.parse I text) := by
  rw [← attempt_ok_iff]
  unfold run
  cases attempt I builder provider context with
  | error e => exact iff_of_false (by rintro ⟨r, hr⟩; cases hr) (by rintro ⟨r, hr⟩; cases hr)
  | ok a    => exact iff_of_true ⟨_, rfl⟩ ⟨_, rfl⟩

/-- What a repair decided on is what the repaired text says, or the fallback. -/
theorem repairAttempt_parsed {response : AgentProviderResponse} {message : String} {a : Attempt}
    (hparse : AgentOutputParser.parse I response.rawOutputText = .error (.agentOutputParseError message))
    (h : repairAttempt I builder provider context response message = .ok a) :
    (∃ text, repairedText I builder provider context response = some text ∧
        AgentOutputParser.parse I text = .ok a.parsed) ∨
      ∃ reason, a.parsed = fallbackOutput reason := by
  unfold repairAttempt at h
  unfold repairedText
  rw [hparse]
  dsimp only at h ⊢
  cases hrepair : provider.repair (builder.buildRepairPrompt response.rawOutputText message) context
      response.rawOutputText message with
  | error text => rw [hrepair] at h; cases h; exact .inr ⟨text, rfl⟩
  | ok answer =>
      rw [hrepair] at h
      cases answer with
      | none => cases h; exact .inr ⟨message, rfl⟩
      | some repaired =>
          dsimp only at h ⊢
          cases hrepaired : AgentOutputParser.parse I repaired.rawOutputText with
          | ok parsed => rw [hrepaired] at h; cases h; exact .inl ⟨_, rfl, hrepaired⟩
          | error e =>
              rw [hrepaired] at h
              cases e with
              | agentOutputParseError text => cases h; exact .inr ⟨text, rfl⟩
              | _ => cases h

/-- What an attempt decided on is what a text it received says, or the fallback. -/
theorem attempt_parsed {a : Attempt} (h : attempt I builder provider context = .ok a) :
    (∃ text ∈ receivedTexts I builder provider context, AgentOutputParser.parse I text = .ok a.parsed) ∨
      ∃ reason, a.parsed = fallbackOutput reason := by
  unfold attempt at h
  unfold receivedTexts
  cases hcomplete : provider.complete (builder.buildPrompt context) context with
  | error text => rw [hcomplete] at h; cases h; exact .inr ⟨text, rfl⟩
  | ok response =>
      rw [hcomplete] at h
      dsimp only at h ⊢
      cases hparse : AgentOutputParser.parse I response.rawOutputText with
      | ok parsed =>
          rw [hparse] at h; cases h
          exact .inl ⟨_, List.mem_cons_self, hparse⟩
      | error e =>
          rw [hparse] at h
          cases e with
          | agentOutputParseError message =>
              rcases repairAttempt_parsed hparse h with ⟨text, htext, hrepaired⟩ | hfallback
              · exact .inl ⟨text, by simp [htext], hrepaired⟩
              · exact .inr hfallback
          | _ => cases h

/-- **No text, no trade**: when none of the texts parses, the decision is a HOLD. -/
theorem run_hold {r : AgentRunResult} (h : run I builder provider context = .ok r)
    (hnone : ∀ text ∈ receivedTexts I builder provider context,
      ∀ parsed, AgentOutputParser.parse I text ≠ .ok parsed) : r.decision.action = .hold := by
  unfold run at h
  cases hattempt : attempt I builder provider context with
  | error e => rw [hattempt] at h; cases h
  | ok a =>
      rw [hattempt] at h
      cases h
      rcases attempt_parsed hattempt with ⟨text, htext, hparse⟩ | ⟨reason, hfallback⟩
      · exact absurd hparse (hnone text htext _)
      · -- the gate makes no trade of a HOLD
        have haction : a.parsed.action = .hold := by rw [hfallback]; rfl
        rcases AgentDecisionGate.apply_action a.parsed context none 1 with hhold | ⟨-, hsame⟩
        · exact hhold
        · exact hsame.trans haction

end SingleAgent

end TradingAI
