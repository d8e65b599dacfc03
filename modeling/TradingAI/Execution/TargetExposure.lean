import TradingAI.Execution.Account

/-!
# `Execution.TargetExposure` — the order of a target exposure

`evaluate_target_exposure` turns a share of the portfolio's value into an order on the account: what is
missing to the target is bought as far as the cash goes, what is beyond it is sold as far as the position
goes, in whole shares. The value is the stored one, where it is positive (`sizingPortfolioValue`).

## Contents
- `Account.targetOrder`, with what a BUY and a SELL of it are.
- `clampedTarget`, `clampedTargetDelta`: the target after clamping, and how far the position is from it.
- `evaluateTargetExposure_asks`: the validator asks for this order.
-/

namespace TradingAI

open Rounding

namespace Account

/-- The order that brings the position `delta` closer to its target. -/
def targetOrder (a : Account) (action : TradeAction) (delta price : ℚ) : Option ShareOrder :=
  if action = .hold ∨ |delta| < price then none
  else if 0 < delta then
    let quantity := min (floorWholeShares (delta / price)) (floorWholeShares (a.cash / price))
    if quantity < 1 then none else some (.buy, quantity)
  else if a.position ≤ 0 then none
  else
    let quantity := min (floorWholeShares (|delta| / price)) a.position
    if quantity < 1 then none else some (.sell, quantity)

variable {a : Account} {action : TradeAction} {delta price q : ℚ}

theorem targetOrder_eq_buy (h : a.targetOrder action delta price = some (.buy, q)) :
    price ≤ delta ∧ 1 ≤ q ∧ q = min (floorWholeShares (delta / price)) (floorWholeShares (a.cash / price)) := by
  unfold targetOrder at h
  split at h
  · cases h
  · next hsmall =>
      split at h
      · next hpos =>
          dsimp only at h
          split at h
          · cases h
          · next hq =>
              obtain ⟨-, rfl⟩ := Prod.mk.inj (Option.some.inj h)
              rw [not_or, not_lt, abs_of_pos hpos] at hsmall
              exact ⟨hsmall.2, not_lt.mp hq, rfl⟩
      · split at h
        · cases h
        · dsimp only at h
          split at h <;> cases h

theorem targetOrder_eq_sell (h : a.targetOrder action delta price = some (.sell, q)) :
    delta ≤ 0 ∧ action ≠ .hold ∧ price ≤ -delta ∧ 0 < a.position ∧ 1 ≤ q ∧
      q = min (floorWholeShares (-delta / price)) a.position := by
  unfold targetOrder at h
  split at h
  · cases h
  · next hsmall =>
      split at h
      · dsimp only at h
        split at h <;> cases h
      · next hpos =>
          split at h
          · cases h
          · next hposition =>
              dsimp only at h
              split at h
              · cases h
              · next hq =>
                  obtain ⟨-, rfl⟩ := Prod.mk.inj (Option.some.inj h)
                  have hneg := not_lt.mp hpos
                  rw [not_or, not_lt, abs_of_nonpos hneg] at hsmall
                  rw [abs_of_nonpos hneg] at hq ⊢
                  exact ⟨hneg, hsmall.1, hsmall.2, not_le.mp hposition, not_lt.mp hq, rfl⟩

end Account

/-! ## The validator -/

/-- `min(max(target_exposure_pct, 0), max_exposure_pct)`. -/
def clampedTarget (requested maxExposurePct : ℚ) : ℚ := min (max requested 0) maxExposurePct

/-- The value missing to the clamped target; negative if the position is beyond it. -/
def clampedTargetDelta (p : Portfolio) (price requested maxExposurePct : ℚ) : ℚ :=
  sizingPortfolioValue p (p.heldQuantity * price) * clampedTarget requested maxExposurePct -
    p.heldQuantity * price

variable {p : Portfolio} {d : AgentDecision} {price requested m : ℚ}

theorem evaluateTargetExposure_none (h : d.targetExposurePct = none) :
    evaluateTargetExposure d p price m = evaluate d.toStrategyDecision p price := by
  unfold evaluateTargetExposure
  by_cases hprice : price ≤ 0
  · unfold evaluate
    rw [if_pos hprice, if_pos hprice]
  · rw [if_neg hprice, h]

/-- **The validator asks for the order of the target**, at a positive price and value. -/
theorem evaluateTargetExposure_asks (hprice : 0 < price) (h : d.targetExposurePct = some requested)
    (hvalue : 0 < sizingPortfolioValue p (p.heldQuantity * price)) :
    (evaluateTargetExposure d p price m).Asks
      (p.account.targetOrder d.action (clampedTargetDelta p price requested m) price) := by
  change RiskResult.Asks _ (Account.targetOrder ⟨p.cash, p.heldQuantity⟩ d.action _ price)
  unfold evaluateTargetExposure Account.targetOrder clampedTargetDelta clampedTarget
  rw [if_neg (not_le.mpr hprice), h]
  dsimp only
  rw [if_neg (not_le.mpr hvalue)]
  -- from here on both sides test the same conditions
  split_ifs with hsmall hpos hbuy hposition hsell
  · exact RiskResult.hold_asks
  · exact RiskResult.hold_asks
  · exact RiskResult.trade_buy_asks
  · exact RiskResult.hold_asks
  · exact RiskResult.hold_asks
  · exact RiskResult.trade_sell_asks

/-- Without a positive value there is nothing to size. -/
theorem evaluateTargetExposure_worthless (hprice : 0 < price) (h : d.targetExposurePct = some requested)
    (hvalue : sizingPortfolioValue p (p.heldQuantity * price) ≤ 0) :
    (evaluateTargetExposure d p price m).Asks none := by
  unfold evaluateTargetExposure
  rw [if_neg (not_le.mpr hprice), h]
  dsimp only
  rw [if_pos hvalue]
  exact RiskResult.hold_asks

/-- No validator trades at a price that is not positive. -/
theorem evaluateTargetExposure_unpriced (hprice : price ≤ 0) :
    (evaluateTargetExposure d p price m).Asks none := by
  unfold evaluateTargetExposure
  rw [if_pos hprice]
  exact RiskResult.hold_asks

end TradingAI
