import TradingAI.Agents.Types

/-!
# `Agents.DecisionGate` — what is left of an agent's decision before the risk check

`AgentDecisionGate.apply` turns a BUY or SELL that does not move the exposure its way, or is not confident,
new or safe enough, into a HOLD at the current exposure. `override` is its chain of conditions.

## Contents
- `currentExposurePct`, `override`, `apply`.
- `apply_hold`, `apply_buy`, `apply_sell`: what a gated action says about the parsed one.
-/

namespace TradingAI

/-- The `audit_json` of a gate; `fallbackUsed` is whether there is a reason. -/
structure GateAudit where
  originalAction             : TradeAction
  originalTradeIntent        : TradeIntent
  originalTargetExposurePct  : ℚ
  originalConfidence         : ℚ
  currentExposurePct         : ℚ
  finalAction                : TradeAction
  finalTradeIntent           : TradeIntent
  finalTargetExposurePct     : ℚ
  primaryDriver              : PrimaryDriver
  newInformation             : Bool
  fallbackReason             : Option String
  confidenceThresholdApplied : Bool
  targetExposureClamped      : Bool
  maxExposurePct             : ℚ
  riskLevel                  : Option String

/-- The `dict` itself. -/
def GateAudit.json (a : GateAudit) : Details :=
  [("originalAction", .text a.originalAction.value),
   ("originalTradeIntent", .text a.originalTradeIntent.value),
   ("originalTargetExposurePct", .num a.originalTargetExposurePct),
   ("originalConfidence", .num a.originalConfidence),
   ("currentExposurePct", .num a.currentExposurePct),
   ("finalAction", .text a.finalAction.value),
   ("finalTradeIntent", .text a.finalTradeIntent.value),
   ("finalTargetExposurePct", .num a.finalTargetExposurePct),
   ("primaryDriver", .text a.primaryDriver.value),
   ("newInformation", .bool a.newInformation),
   ("fallbackUsed", .bool a.fallbackReason.isSome),
   ("fallbackReason", textOrNull a.fallbackReason),
   ("confidenceThresholdApplied", .bool a.confidenceThresholdApplied),
   ("targetExposureClamped", .bool a.targetExposureClamped),
   ("maxExposurePct", .num a.maxExposurePct),
   ("riskLevel", textOrNull a.riskLevel)]

structure DecisionGateResult where
  decision : ParsedAgentOutput
  audit    : GateAudit

namespace AgentDecisionGate

/-- `_position_value`. -/
def positionValue (context : AgentContext) : ℚ :=
  context.positionQuantity.getD 0 * context.bar.adjustedClose

/-- `_has_position`. -/
def hasPosition (context : AgentContext) : Bool := 0 < context.positionQuantity.getD 0

/-- `_hold_intent`. -/
def holdIntent (context : AgentContext) : TradeIntent :=
  if hasPosition context then .holdPosition else .stayOut

/-- The `portfolio_value` of `_current_exposure_pct`. -/
def portfolioValue (context : AgentContext) : ℚ :=
  match context.currentPortfolioValue with
  | some value => if value ≤ 0 then context.cash + positionValue context else value
  | none       => context.cash + positionValue context

/-- `_current_exposure_pct`. -/
def currentExposurePct (context : AgentContext) : ℚ :=
  if portfolioValue context ≤ 0 then 0
  else quantize4 (positionValue context / portfolioValue context)

/-- Why a decision becomes HOLD, with the intent and the rationale it gets. -/
structure Override where
  tradeIntent    : TradeIntent
  fallbackReason : String
  rationale      : String

/-- `context.confidence_threshold is not None and parsed.confidence < context.confidence_threshold`. -/
def belowThreshold (parsed : ParsedAgentOutput) (context : AgentContext) : Bool :=
  context.confidenceThreshold.any (parsed.confidence < ·)

/-- The conditions of `apply`, in order. -/
def override (parsed : ParsedAgentOutput) (context : AgentContext) (riskLevel : Option String)
    (targetExposurePct : ℚ) : Option Override :=
  if belowThreshold parsed context then
    some ⟨holdIntent context, "CONFIDENCE_BELOW_THRESHOLD",
      "Agent confidence " ++ showDecimal4 parsed.confidence ++ " is below configured threshold "
        ++ showDecimal4 (context.confidenceThreshold.getD 0) ++ "; converted to HOLD before RiskCheck."⟩
  else if parsed.action = .buy ∧ targetExposurePct ≤ currentExposurePct context then
    some ⟨holdIntent context, "BUY_TARGET_NOT_ABOVE_CURRENT_EXPOSURE",
      "BUY was converted to HOLD because target exposure is not above current exposure."⟩
  else if parsed.action = .sell ∧ ¬ hasPosition context then
    some ⟨.stayOut, "SELL_WITHOUT_POSITION",
      "SELL was converted to HOLD because no long position exists."⟩
  else if parsed.action = .sell ∧ currentExposurePct context ≤ targetExposurePct then
    some ⟨holdIntent context, "SELL_TARGET_NOT_BELOW_CURRENT_EXPOSURE",
      "SELL was converted to HOLD because target exposure is not below current exposure."⟩
  else if parsed.action = .buy ∧ ¬ parsed.newInformation then
    some ⟨holdIntent context, "BUY_WITHOUT_NEW_INFORMATION",
      "BUY was converted to HOLD because the agent did not identify new information."⟩
  else if parsed.action = .buy ∧ riskLevel = some "HIGH" then
    some ⟨holdIntent context, "AGENT_RISK_MANAGER_BLOCKED_BUY",
      "BUY was converted to HOLD because the agent risk stage reported HIGH risk."⟩
  else none

/-- `AgentDecisionGate.apply`. -/
def apply (parsed : ParsedAgentOutput) (context : AgentContext) (riskLevel : Option String := none)
    (maxExposurePct : ℚ := 1) : DecisionGateResult :=
  let targetExposurePct := min parsed.targetExposurePct maxExposurePct
  let why := override parsed context riskLevel targetExposurePct
  let finalAction := if why.isSome then .hold else parsed.action
  let decision : ParsedAgentOutput :=
    { action := finalAction
      tradeIntent := why.elim parsed.tradeIntent Override.tradeIntent
      -- a HOLD of the agent's own also keeps the exposure it has, not the one it asked for
      targetExposurePct := if finalAction = .hold then currentExposurePct context else targetExposurePct
      confidence := parsed.confidence
      primaryDriver := parsed.primaryDriver
      newInformation := parsed.newInformation
      rationale := why.elim parsed.rationale Override.rationale
      eventId := parsed.eventId }
  { decision
    audit :=
      { originalAction := parsed.action, originalTradeIntent := parsed.tradeIntent,
        originalTargetExposurePct := parsed.targetExposurePct, originalConfidence := parsed.confidence,
        currentExposurePct := currentExposurePct context, finalAction := decision.action,
        finalTradeIntent := decision.tradeIntent, finalTargetExposurePct := decision.targetExposurePct,
        primaryDriver := decision.primaryDriver, newInformation := decision.newInformation,
        fallbackReason := why.map Override.fallbackReason,
        confidenceThresholdApplied := belowThreshold parsed context,
        targetExposureClamped := targetExposurePct ≠ parsed.targetExposurePct, maxExposurePct,
        riskLevel } }

/-! ## What a gated action says -/

variable {parsed : ParsedAgentOutput} {context : AgentContext} {riskLevel : Option String} {m : ℚ}

/-- A decision the gate lets pass keeps its action; any other is a HOLD. -/
theorem apply_action (parsed : ParsedAgentOutput) (context : AgentContext) (riskLevel : Option String) (m : ℚ) :
    (apply parsed context riskLevel m).decision.action = .hold ∨
      (override parsed context riskLevel (min parsed.targetExposurePct m) = none ∧
        (apply parsed context riskLevel m).decision.action = parsed.action) := by
  cases hwhy : override parsed context riskLevel (min parsed.targetExposurePct m) with
  | some why => left; simp [apply, hwhy]
  | none     => right; simp [apply, hwhy]

/-- **A gated BUY** is the agent's own: confident enough, above the current exposure, on new information and
    without a HIGH risk. -/
theorem apply_buy (h : (apply parsed context riskLevel m).decision.action = .buy) :
    parsed.action = .buy ∧ belowThreshold parsed context = false ∧
      currentExposurePct context < min parsed.targetExposurePct m ∧ parsed.newInformation = true ∧
      riskLevel ≠ some "HIGH" := by
  rcases apply_action parsed context riskLevel m with hhold | ⟨hnone, hsame⟩
  · rw [hhold] at h; cases h
  · have hbuy : parsed.action = .buy := by rw [← hsame]; exact h
    unfold override at hnone
    split_ifs at hnone with h1 h2 h3 h4 h5 h6
    refine ⟨hbuy, by simpa using h1, ?_, ?_, ?_⟩
    · exact not_le.mp fun hle => h2 ⟨hbuy, hle⟩
    · by_contra hnew; exact h5 ⟨hbuy, hnew⟩
    · intro hhigh; exact h6 ⟨hbuy, hhigh⟩

/-- **A gated SELL** is the agent's own, of a position, and below the current exposure. -/
theorem apply_sell (h : (apply parsed context riskLevel m).decision.action = .sell) :
    parsed.action = .sell ∧ hasPosition context = true ∧
      min parsed.targetExposurePct m < currentExposurePct context := by
  rcases apply_action parsed context riskLevel m with hhold | ⟨hnone, hsame⟩
  · rw [hhold] at h; cases h
  · have hsell : parsed.action = .sell := by rw [← hsame]; exact h
    unfold override at hnone
    split_ifs at hnone with h1 h2 h3 h4 h5 h6
    refine ⟨hsell, ?_, ?_⟩
    · by_contra hpos; exact h3 ⟨hsell, hpos⟩
    · exact not_le.mp fun hle => h4 ⟨hsell, hle⟩

/-- A decision that is not HOLD aims at the agent's target, capped. -/
theorem apply_target (h : (apply parsed context riskLevel m).decision.action ≠ .hold) :
    (apply parsed context riskLevel m).decision.targetExposurePct = min parsed.targetExposurePct m := by
  unfold apply at h ⊢
  exact if_neg h

end AgentDecisionGate

end TradingAI
