import TradingAI.Strategies.Rules
import TradingAI.Persistence.Models
import Mathlib.Tactic.SplitIfs

/-!
# `Execution.Risk` — sizing a decision

The risk validator turns a proposed action into a sized one, from the local portfolio and the price the
step saw. Every validator keeps `RiskResult.Sized`: a BUY it sizes is covered by the cash it was shown, a
SELL by the position. What it is not shown, orders still open at the broker, it cannot cover.

## Contents
- `RiskResult`, `evaluate`, `evaluateTargetExposure`, `smokeTestRiskResult`.
- `RiskResult.Sized`, with one theorem per validator.
-/

namespace TradingAI

open Rounding

structure RiskResult where
  approved        : Bool
  finalAction     : FinalAction
  finalQuantity   : Option ℚ
  finalNotional   : Option ℚ
  rejectionReason : Option String
  rulesTriggered  : Details

namespace RiskResult

/-- Approved, with nothing to trade. -/
def hold (rejectionReason : Option String) (rulesTriggered : Details) : RiskResult :=
  ⟨true, .hold, none, none, rejectionReason, rulesTriggered⟩

/-- Approved, with a quantity to trade at `price`. -/
def trade (action : FinalAction) (quantity price : ℚ) (rulesTriggered : Details) : RiskResult :=
  ⟨true, action, some quantity, some (quantize4 (quantity * price)), none, rulesTriggered⟩

end RiskResult

/-- `{"reason": reason}`. -/
def ruleReason (reason : String) : Details := [("reason", .text reason)]

/-! ## The validators -/

/-- `value.to_integral_value(rounding=ROUND_FLOOR)`. -/
def floorWholeShares (value : ℚ) : ℚ := ⌊value⌋

/-- `HistoricalSimulationRiskValidator.evaluate`. -/
def evaluate (decision : StrategyDecision) (portfolio : Portfolio) (price : ℚ) : RiskResult :=
  if price ≤ 0 then
    .hold (some "Execution price must be positive.") (ruleReason "INVALID_EXECUTION_PRICE")
  else
    match decision.action with
    | .hold => .hold none (ruleReason "HOLD_ACTION")
    | .sell =>
        if portfolio.heldQuantity ≤ 0 then
          .hold (some ("No " ++ decision.symbol ++ " position exists to sell."))
            (ruleReason "NO_POSITION_TO_SELL")
        else
          .trade .sell portfolio.heldQuantity price (ruleReason "SELL_FULL_POSITION")
    | .buy =>
        let quantity := floorWholeShares (portfolio.cash / price)
        if quantity < 1 then
          .hold (some ("Insufficient cash to buy at least one whole " ++ decision.symbol ++ " share."))
            (ruleReason "INSUFFICIENT_CASH_FOR_ONE_SHARE")
        else
          .trade .buy quantity price (ruleReason "DEFAULT_WHOLE_SHARE_BUY")

/-- `portfolio.current_portfolio_value`, recomputed when it is missing or not positive. -/
def sizingPortfolioValue (portfolio : Portfolio) (currentPositionValue : ℚ) : ℚ :=
  match portfolio.currentPortfolioValue with
  | some value => if value ≤ 0 then portfolio.cash + currentPositionValue else value
  | none       => portfolio.cash + currentPositionValue

/-- The audit record of a target-exposure check; `extra` is what a sized trade adds to it. -/
def targetExposureAudit (reason : String) (clamped requested maxExposure position target delta : ℚ)
    (extra : Details) : Details :=
  [("reason", .text reason),
   ("targetExposure", .dict
      ([("targetExposurePct", .num clamped), ("requestedTargetExposurePct", .num requested),
        ("maxExposurePct", .num maxExposure), ("currentPositionValue", .num position),
        ("targetPositionValue", .num target), ("deltaValue", .num delta)] ++ extra))]

/-- `HistoricalSimulationRiskValidator.evaluate_target_exposure`. -/
def evaluateTargetExposure (decision : AgentDecision) (portfolio : Portfolio) (price : ℚ)
    (maxExposurePct : ℚ := 1) : RiskResult :=
  if price ≤ 0 then
    .hold (some "Execution price must be positive.") (ruleReason "INVALID_EXECUTION_PRICE")
  else
    match decision.targetExposurePct with
    | none => evaluate decision.toStrategyDecision portfolio price
    | some requested =>
        let positionQuantity := portfolio.heldQuantity
        let currentPositionValue := positionQuantity * price
        let portfolioValue := sizingPortfolioValue portfolio currentPositionValue
        if portfolioValue ≤ 0 then
          .hold (some "Portfolio value must be positive.") (ruleReason "INVALID_PORTFOLIO_VALUE")
        else
          let clampedTarget := min (max requested 0) maxExposurePct
          let targetPositionValue := portfolioValue * clampedTarget
          let deltaValue := targetPositionValue - currentPositionValue
          let audit := fun reason => targetExposureAudit reason clampedTarget requested maxExposurePct
            currentPositionValue targetPositionValue deltaValue
          if decision.action = .hold ∨ |deltaValue| < price then
            .hold none (audit "TARGET_EXPOSURE_BELOW_ONE_SHARE" [])
          else if 0 < deltaValue then
            let targetQuantity := floorWholeShares (deltaValue / price)
            let affordableQuantity := floorWholeShares (portfolio.cash / price)
            let quantity := min targetQuantity affordableQuantity
            if quantity < 1 then
              .hold (some "Insufficient cash for at least one share.")
                (audit "INSUFFICIENT_CASH_FOR_TARGET_EXPOSURE" [])
            else
              .trade .buy quantity price
                (audit "TARGET_EXPOSURE_RISK_CHECK" [("finalQuantity", .num quantity)])
          else if positionQuantity ≤ 0 then
            .hold (some ("No " ++ decision.symbol ++ " position exists to sell."))
              (audit "NO_POSITION_TO_SELL" [])
          else
            let quantity := min (floorWholeShares (|deltaValue| / price)) positionQuantity
            if quantity < 1 then
              .hold none (audit "TARGET_EXPOSURE_BELOW_ONE_SHARE" [])
            else
              .trade .sell quantity price
                (audit "TARGET_EXPOSURE_RISK_CHECK" [("finalQuantity", .num quantity)])

/-- `PaperTradingStepRunner._smoke_test_risk_result`. -/
def smokeTestRiskResult (action : TradeAction) (portfolio : Portfolio) (price : ℚ) : RiskResult :=
  if action = .sell then
    if portfolio.heldQuantity ≤ 0 then
      .hold (some "No SPY position exists to sell.") (ruleReason "NO_POSITION_TO_SELL")
    else
      .trade .sell portfolio.heldQuantity price (ruleReason "SELL_FULL_POSITION")
  else if action = .buy ∧ price ≤ portfolio.cash then
    .trade .buy 1 price (ruleReason "SMOKE_TEST_FIXED_ONE_SHARE")
  else
    .hold (some "Insufficient cash to buy one SPY share.")
      (ruleReason "INSUFFICIENT_CASH_FOR_ONE_SHARE")

/-! ## What every validator keeps -/

/-- **Sized against the portfolio**: a BUY fits the cash, a SELL fits the position, and the quantity has
    no more places than an order row keeps. -/
structure RiskResult.Sized (p : Portfolio) (price : ℚ) (r : RiskResult) : Prop where
  buy  : r.finalAction = .buy → ∀ q, r.finalQuantity = some q → q * price ≤ p.cash
  sell : r.finalAction = .sell → ∀ q, r.finalQuantity = some q → q ≤ p.heldQuantity
  grid : OnGrid 8 p.heldQuantity → ∀ q, r.finalQuantity = some q → OnGrid 8 q

namespace RiskResult.Sized

variable {p : Portfolio} {price q : ℚ} {why : Option String} {rules : Details}

theorem hold : Sized p price (.hold why rules) :=
  ⟨nofun, nofun, nofun⟩

theorem tradeBuy (h : q * price ≤ p.cash) (hq : OnGrid 8 q) :
    Sized p price (.trade .buy q price rules) :=
  ⟨by rintro - _ ⟨⟩; exact h, nofun, by rintro - _ ⟨⟩; exact hq⟩

theorem tradeSell (h : q ≤ p.heldQuantity) (hq : OnGrid 8 p.heldQuantity → OnGrid 8 q) :
    Sized p price (.trade .sell q price rules) :=
  ⟨nofun, by rintro - _ ⟨⟩; exact h, by rintro hp _ ⟨⟩; exact hq hp⟩

end RiskResult.Sized

/-- Whole shares need no decimal places. -/
theorem onGrid_floorWholeShares (k : ℕ) (x : ℚ) : OnGrid k (floorWholeShares x) :=
  ⟨⌊x⌋ * 10 ^ k, by unfold floorWholeShares; push_cast; rfl⟩

/-- The affordable number of whole shares is affordable. -/
theorem floorWholeShares_div_mul_le {cash price : ℚ} (h : 0 < price) :
    floorWholeShares (cash / price) * price ≤ cash := by
  have hfloor : floorWholeShares (cash / price) ≤ cash / price := Int.floor_le _
  calc floorWholeShares (cash / price) * price
      ≤ cash / price * price := mul_le_mul_of_nonneg_right hfloor h.le
    _ = cash := by field_simp

variable {p : Portfolio} {price : ℚ}

theorem evaluate_sized (d : StrategyDecision) : (evaluate d p price).Sized p price := by
  unfold evaluate
  by_cases hprice : price ≤ 0
  · rw [if_pos hprice]; exact .hold
  · rw [if_neg hprice]
    cases d.action with
    | hold => exact .hold
    | sell =>
        dsimp only
        split_ifs
        · exact .hold
        · exact .tradeSell le_rfl id
    | buy =>
        dsimp only
        split_ifs
        · exact .hold
        · exact .tradeBuy (floorWholeShares_div_mul_le (not_le.mp hprice)) (onGrid_floorWholeShares 8 _)

/-- The smaller of two quantities on the grid is on the grid. -/
theorem onGrid_min {k : ℕ} {x y : ℚ} (hx : OnGrid k x) (hy : OnGrid k y) : OnGrid k (min x y) := by
  rcases min_choice x y with h | h <;> rw [h] <;> assumption

theorem evaluateTargetExposure_sized (d : AgentDecision) (m : ℚ) :
    (evaluateTargetExposure d p price m).Sized p price := by
  unfold evaluateTargetExposure
  by_cases hprice : price ≤ 0
  · rw [if_pos hprice]; exact .hold
  · rw [if_neg hprice]
    have hpos := not_le.mp hprice
    cases d.targetExposurePct with
    | none => exact evaluate_sized _
    | some requested =>
        dsimp only
        split_ifs
        · exact .hold
        · exact .hold
        · exact .hold
        · -- the affordable quantity bounds the BUY, whatever the target asks for
          refine .tradeBuy ?_ (onGrid_min (onGrid_floorWholeShares 8 _) (onGrid_floorWholeShares 8 _))
          exact (mul_le_mul_of_nonneg_right (min_le_right _ _) hpos.le).trans
            (floorWholeShares_div_mul_le hpos)
        · exact .hold
        · exact .hold
        · exact .tradeSell (min_le_right _ _) fun h => onGrid_min (onGrid_floorWholeShares 8 _) h

theorem smokeTestRiskResult_sized (a : TradeAction) : (smokeTestRiskResult a p price).Sized p price := by
  unfold smokeTestRiskResult
  split_ifs with hsell hheld hbuy
  · exact .hold
  · exact .tradeSell le_rfl id
  · exact .tradeBuy (by rw [one_mul]; exact hbuy.2) ⟨10 ^ 8, by norm_num⟩
  · exact .hold

end TradingAI
