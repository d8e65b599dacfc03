import TradingAI.Agents.DecisionGate
import TradingAI.Execution.Calls

/-!
# `Correctness.GateAgreement` — the gate and the risk check pull the same way

The gate compares a target with the exposure rounded to four places. The risk check ignores which side was
proposed and takes the sign of an unrounded difference in money. They agree because a target with four
places that is above (below) the rounded exposure is not below (above) the exposure itself.

## Contents
- `SeesPortfolio`: the agent was shown the portfolio the risk check sizes against.
- `targetDelta`, `buy_of_evaluate`, `sell_of_evaluate`: which way a sized trade goes.
- `gate_agrees_with_riskCheck`.
-/

namespace TradingAI

open Rounding AgentDecisionGate

/-- The portfolio in an agent's context. -/
structure SeesPortfolio (context : AgentContext) (portfolio : Portfolio) : Prop where
  cash     : context.cash = portfolio.cash
  position : context.positionQuantity = portfolio.positionQuantity
  value    : context.currentPortfolioValue = portfolio.currentPortfolioValue

/-- What an agent hands to the risk check. -/
def ParsedAgentOutput.toDecision (p : ParsedAgentOutput) (symbol : String) : AgentDecision where
  action            := p.action
  symbol            := symbol
  reason            := p.rationale
  confidence        := p.confidence
  tradeIntent       := some p.tradeIntent
  targetExposurePct := some p.targetExposurePct
  primaryDriver     := some p.primaryDriver
  newInformation    := some p.newInformation

/-! ## Which way the risk check trades -/

/-- The money between the target and the position. -/
def targetDelta (portfolio : Portfolio) (price requested : ℚ) : ℚ :=
  sizingPortfolioValue portfolio (portfolio.heldQuantity * price) * min (max requested 0) 1
    - portfolio.heldQuantity * price

variable {portfolio : Portfolio} {price requested : ℚ} {d : AgentDecision}

/-- A proposed HOLD is a HOLD. -/
theorem evaluateTargetExposure_of_hold (hd : d.targetExposurePct = some requested) (h : d.action = .hold) :
    (evaluateTargetExposure d portfolio price 1).finalAction = .hold := by
  unfold evaluateTargetExposure
  rw [hd]
  by_cases hprice : price ≤ 0
  · rw [if_pos hprice]; rfl
  · rw [if_neg hprice]
    dsimp only
    by_cases hvalue : sizingPortfolioValue portfolio (portfolio.heldQuantity * price) ≤ 0
    · rw [if_pos hvalue]; rfl
    · rw [if_neg hvalue, if_pos (.inl h)]; rfl

/-- A portfolio without value is not traded. -/
theorem evaluateTargetExposure_of_worthless (hd : d.targetExposurePct = some requested) (hprice : 0 < price)
    (hvalue : sizingPortfolioValue portfolio (portfolio.heldQuantity * price) ≤ 0) :
    (evaluateTargetExposure d portfolio price 1).finalAction = .hold := by
  unfold evaluateTargetExposure
  rw [if_neg (not_le.mpr hprice), hd]
  dsimp only
  rw [if_pos hvalue]
  rfl

/-- A sized trade goes the way of the difference. -/
theorem evaluateTargetExposure_direction (portfolio : Portfolio) (hd : d.targetExposurePct = some requested) (hprice : 0 < price) :
    ((evaluateTargetExposure d portfolio price 1).finalAction = .buy →
        0 < targetDelta portfolio price requested) ∧
      ((evaluateTargetExposure d portfolio price 1).finalAction = .sell →
        targetDelta portfolio price requested < 0) := by
  have hold_only (why : Option String) (rules : Details) :
      ((RiskResult.hold why rules).finalAction = .buy → 0 < targetDelta portfolio price requested) ∧
        ((RiskResult.hold why rules).finalAction = .sell →
          targetDelta portfolio price requested < 0) := by
    constructor <;> · intro h; cases h
  unfold evaluateTargetExposure
  rw [if_neg (not_le.mpr hprice), hd]
  dsimp only
  by_cases hvalue : sizingPortfolioValue portfolio (portfolio.heldQuantity * price) ≤ 0
  · rw [if_pos hvalue]; exact hold_only _ _
  rw [if_neg hvalue]
  have hdelta : sizingPortfolioValue portfolio (portfolio.heldQuantity * price) * min (max requested 0) 1
      - portfolio.heldQuantity * price = targetDelta portfolio price requested := rfl
  rw [hdelta]
  by_cases hsmall : d.action = .hold ∨ |targetDelta portfolio price requested| < price
  · rw [if_pos hsmall]; exact hold_only _ _
  rw [if_neg hsmall]
  by_cases hpos : 0 < targetDelta portfolio price requested
  · -- only BUY and HOLD are left
    rw [if_pos hpos]
    split
    · exact hold_only _ _
    · constructor
      · intro _; exact hpos
      · intro h; cases h
  · -- a difference of at least one share that is not positive is negative
    have hneg : targetDelta portfolio price requested < 0 := by
      have hlarge : price ≤ |targetDelta portfolio price requested| := not_lt.mp fun h => hsmall (.inr h)
      rw [abs_of_nonpos (not_lt.mp hpos)] at hlarge
      linarith
    rw [if_neg hpos]
    split_ifs
    · exact hold_only _ _
    · exact hold_only _ _
    · constructor
      · intro h; cases h
      · intro _; exact hneg

/-! ## The exposure the gate compares with -/

variable {context : AgentContext} {target : ℚ}

/-- Both compute the portfolio's value in the same way. -/
theorem SeesPortfolio.portfolioValue_eq (h : SeesPortfolio context portfolio) :
    AgentDecisionGate.portfolioValue context =
      sizingPortfolioValue portfolio (portfolio.heldQuantity * context.bar.adjustedClose) := by
  unfold AgentDecisionGate.portfolioValue sizingPortfolioValue positionValue Portfolio.heldQuantity
  rewrite [h.value, h.position, h.cash]
  cases portfolio.currentPortfolioValue <;> rfl

theorem SeesPortfolio.positionValue_eq (h : SeesPortfolio context portfolio) :
    positionValue context = portfolio.heldQuantity * context.bar.adjustedClose := by
  unfold positionValue Portfolio.heldQuantity
  rw [h.position]

/-- A target in range is not clamped. -/
theorem targetDelta_of_unit (h0 : 0 ≤ target) (h1 : target ≤ 1) :
    targetDelta portfolio price target =
      sizingPortfolioValue portfolio (portfolio.heldQuantity * price) * target
        - portfolio.heldQuantity * price := by
  unfold targetDelta
  rw [max_eq_left h0, min_eq_left h1]

/-- A target above the rounded exposure is not below the exposure: buying is the only way to it. -/
theorem SeesPortfolio.delta_nonneg (h : SeesPortfolio context portfolio) (h0 : 0 ≤ target) (h1 : target ≤ 1)
    (hgrid : OnGrid 4 target) (hvalue : 0 < AgentDecisionGate.portfolioValue context)
    (habove : currentExposurePct context < target) :
    0 ≤ targetDelta portfolio context.bar.adjustedClose target := by
  have hexposure : positionValue context / AgentDecisionGate.portfolioValue context ≤ target := by
    by_contra hbelow
    apply absurd habove
    rw [currentExposurePct, if_neg (not_le.mpr hvalue), not_lt]
    exact halfEven.le_quantize_of_onGrid hgrid (not_le.mp hbelow).le
  rw [div_le_iff₀ hvalue, h.positionValue_eq, h.portfolioValue_eq] at hexposure
  rw [targetDelta_of_unit h0 h1]
  linarith

/-- A target below the rounded exposure is not above the exposure: selling is the only way to it. -/
theorem SeesPortfolio.delta_nonpos (h : SeesPortfolio context portfolio) (h0 : 0 ≤ target) (h1 : target ≤ 1)
    (hgrid : OnGrid 4 target) (hvalue : 0 < AgentDecisionGate.portfolioValue context)
    (hbelow : target < currentExposurePct context) :
    targetDelta portfolio context.bar.adjustedClose target ≤ 0 := by
  have hexposure : target ≤ positionValue context / AgentDecisionGate.portfolioValue context := by
    by_contra habove
    apply absurd hbelow
    rw [currentExposurePct, if_neg (not_le.mpr hvalue), not_lt]
    exact halfEven.quantize_le_of_onGrid hgrid (not_le.mp habove).le
  rw [le_div_iff₀ hvalue, h.positionValue_eq, h.portfolioValue_eq] at hexposure
  rw [targetDelta_of_unit h0 h1]
  linarith

/-! ## Agreement -/

/-- **The gate and the risk check agree**: a gated HOLD stays a HOLD, and what is left of a gated BUY or SELL
    is a trade on its side or a HOLD. Whatever value of the portfolio is stored, none, a stale or an exact
    one, both read the same. -/
theorem gate_agrees_with_riskCheck (parsed : ParsedAgentOutput) (context : AgentContext)
    (portfolio : Portfolio) (riskLevel : Option String) (symbol : String)
    (hseen : SeesPortfolio context portfolio) (hprice : 0 < context.bar.adjustedClose)
    (hgrid : OnGrid 4 parsed.targetExposurePct) (h0 : 0 ≤ parsed.targetExposurePct)
    (h1 : parsed.targetExposurePct ≤ 1) :
    let gated := (apply parsed context riskLevel).decision
    let finalAction :=
      (evaluateTargetExposure (gated.toDecision symbol) portfolio context.bar.adjustedClose).finalAction
    (gated.action = .hold → finalAction = .hold) ∧
      (gated.action = .buy → finalAction = .buy ∨ finalAction = .hold) ∧
      (gated.action = .sell → finalAction = .sell ∨ finalAction = .hold) := by
  intro gated finalAction
  have hcap : min parsed.targetExposurePct 1 = parsed.targetExposurePct := min_eq_left h1
  have haimed : gated.action ≠ .hold → gated.targetExposurePct = parsed.targetExposurePct := by
    intro hne; rw [← hcap]; exact apply_target hne
  -- what the risk check is handed
  have hd : (gated.toDecision symbol).targetExposurePct = some gated.targetExposurePct := rfl
  have hdir := evaluateTargetExposure_direction portfolio hd hprice
  refine ⟨fun hhold => evaluateTargetExposure_of_hold hd hhold, fun hbuy => ?_, fun hsell => ?_⟩
  · rcases le_or_gt (AgentDecisionGate.portfolioValue context) 0 with hvalue | hvalue
    · rw [hseen.portfolioValue_eq] at hvalue
      exact .inr (evaluateTargetExposure_of_worthless hd hprice hvalue)
    · have habove := (apply_buy hbuy).2.2.1
      rw [hcap] at habove
      have hdelta := hseen.delta_nonneg h0 h1 hgrid hvalue habove
      rw [haimed (by rw [hbuy]; decide)] at hdir
      cases hfinal : finalAction with
      | buy  => exact .inl rfl
      | hold => exact .inr rfl
      | sell => exact absurd (hdir.2 hfinal) (not_lt.mpr hdelta)
  · rcases le_or_gt (AgentDecisionGate.portfolioValue context) 0 with hvalue | hvalue
    · rw [hseen.portfolioValue_eq] at hvalue
      exact .inr (evaluateTargetExposure_of_worthless hd hprice hvalue)
    · have hbelow := (apply_sell hsell).2.2
      rw [hcap] at hbelow
      have hdelta := hseen.delta_nonpos h0 h1 hgrid hvalue hbelow
      rw [haimed (by rw [hsell]; decide)] at hdir
      cases hfinal : finalAction with
      | sell => exact .inl rfl
      | hold => exact .inr rfl
      | buy  => exact absurd (hdir.1 hfinal) (not_lt.mpr hdelta)

/-- A BUY up to one half of the portfolio, of which a tenth is invested at a stale value. -/
def confidentBuy : ParsedAgentOutput where
  action            := .buy
  tradeIntent       := .openLong
  targetExposurePct := 1 / 2
  confidence        := 9 / 10
  primaryDriver     := .technical
  newInformation    := true
  rationale         := "Trend is up."

def smallPortfolio : Portfolio := ⟨900, some spySymbol, some 1, some 90, some 90, some 1000, 0⟩

/-- What an agent is told about a portfolio at a price of 100. -/
def contextFor (p : Portfolio) : AgentContext where
  experimentId          := 1
  executionStepId       := 1
  symbol                := spySymbol
  bar                   := barAt 100
  cash                  := p.cash
  positionQuantity      := p.positionQuantity
  currentPortfolioValue := p.currentPortfolioValue
  confidenceThreshold   := none
  parametersJson        := none
  agentMode             := .singleAgent
  modelName             := none
  eventContext          := none

/-- The BUY passes the gate and is sized as a BUY of four shares. -/
theorem confidentBuy_agrees :
    let gated := (apply confidentBuy (contextFor smallPortfolio) none).decision
    let result := evaluateTargetExposure (gated.toDecision spySymbol) smallPortfolio
      (contextFor smallPortfolio).bar.adjustedClose
    gated.action = .buy ∧ (result.finalAction = .buy ∨ result.finalAction = .hold) ∧
      result.finalAction = .buy ∧ result.finalQuantity = some 4 := by
  intro gated result
  have hbuy : gated.action = .buy := by decide +kernel
  have hagrees := gate_agrees_with_riskCheck confidentBuy (contextFor smallPortfolio) smallPortfolio none spySymbol
    ⟨rfl, rfl, rfl⟩ (by decide +kernel) (by decide +kernel) (by decide +kernel) (by decide +kernel)
  exact ⟨hbuy, hagrees.2.1 hbuy, by decide +kernel, by decide +kernel⟩

end TradingAI
