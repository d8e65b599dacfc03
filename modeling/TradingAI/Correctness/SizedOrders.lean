import TradingAI.Execution.TargetExposure

/-!
# `Correctness.SizedOrders` — what the risk check may ask for, and what a simulation makes of it

An order of `evaluate` or `evaluate_target_exposure` is a whole number of shares that the cash affords, or
that the position covers (`sized_within_limits`). The simulation provider books a BUY share for share, but
a SELL of any size as the whole position: it conserves the holdings unless a target exposure reduces the
position (`simulated_execution_conserves_iff`).
-/

namespace TradingAI

open Rounding

/-! ## Limits -/

/-- At least one share, and a whole number of them. -/
def WholeShares (q : ℚ) : Prop := ∃ n : ℕ, 1 ≤ n ∧ q = n

theorem wholeShares_floor {x : ℚ} (h : 1 ≤ floorWholeShares x) : WholeShares (floorWholeShares x) := by
  have hfloor : 1 ≤ ⌊x⌋ := by
    unfold floorWholeShares at h
    exact_mod_cast h
  refine ⟨⌊x⌋.toNat, by omega, ?_⟩
  have hcast : ((⌊x⌋.toNat : ℕ) : ℤ) = ⌊x⌋ := Int.toNat_of_nonneg (by omega)
  unfold floorWholeShares
  exact_mod_cast hcast.symm

theorem wholeShares_of_nat {x : ℚ} (hx : ∃ n : ℕ, x = n) (h : 0 < x) : WholeShares x := by
  obtain ⟨n, rfl⟩ := hx
  exact ⟨n, by exact_mod_cast h, rfl⟩

namespace Account

/-- **Covers** an order: whole shares, which the cash affords or the position holds. -/
def Covers (a : Account) (price : ℚ) : Option ShareOrder → Prop
  | none            => True
  | some (.buy, q)  => WholeShares q ∧ fillValue q price ≤ a.cash
  | some (.sell, q) => WholeShares q ∧ q ≤ a.position

variable {a : Account} {action : TradeAction} {delta price q : ℚ}

/-- An affordable number of shares is affordable at its rounded value. -/
theorem fillValue_le (hgrid : OnGrid 4 a.cash) (hprice : 0 < price)
    (hq : q ≤ floorWholeShares (a.cash / price)) : fillValue q price ≤ a.cash := by
  apply halfEven.quantize_le_of_onGrid hgrid
  calc q * price ≤ floorWholeShares (a.cash / price) * price := mul_le_mul_of_nonneg_right hq hprice.le
    _ ≤ a.cash := floorWholeShares_div_mul_le hprice

theorem covers_order (h : a.Sound) : a.Covers price (a.order action price) := by
  cases horder : a.order action price with
  | none => trivial
  | some o =>
      obtain ⟨side, q⟩ := o
      cases side with
      | buy =>
          obtain ⟨-, hprice, hq, rfl⟩ := order_eq_buy horder
          exact ⟨wholeShares_floor hq, fillValue_le h.grid hprice le_rfl⟩
      | sell =>
          obtain ⟨-, -, hq, rfl⟩ := order_eq_sell horder
          exact ⟨wholeShares_of_nat h.whole hq, le_rfl⟩

theorem covers_targetOrder (h : a.Sound) (hprice : 0 < price) :
    a.Covers price (a.targetOrder action delta price) := by
  cases horder : a.targetOrder action delta price with
  | none => trivial
  | some o =>
      obtain ⟨side, q⟩ := o
      cases side with
      | buy =>
          obtain ⟨-, hq, hmin⟩ := targetOrder_eq_buy horder
          refine ⟨?_, fillValue_le h.grid hprice (hmin.trans_le (min_le_right _ _))⟩
          -- the smaller of two whole numbers is one of them
          rcases min_choice (floorWholeShares (delta / price)) (floorWholeShares (a.cash / price)) with hc | hc
          · rw [hc] at hmin
            exact hmin ▸ wholeShares_floor (hmin ▸ hq)
          · rw [hc] at hmin
            exact hmin ▸ wholeShares_floor (hmin ▸ hq)
      | sell =>
          obtain ⟨-, -, -, hposition, hq, hmin⟩ := targetOrder_eq_sell horder
          refine ⟨?_, hmin.trans_le (min_le_right _ _)⟩
          rcases min_choice (floorWholeShares (-delta / price)) a.position with hc | hc
          · rw [hc] at hmin
            exact hmin ▸ wholeShares_floor (hmin ▸ hq)
          · rw [hc] at hmin
            exact hmin ▸ wholeShares_of_nat h.whole hposition

/-- A BUY of a proposed action takes as many shares as the cash affords. -/
theorem order_buy_maximal (h : a.order action price = some (.buy, q)) : a.cash < (q + 1) * price := by
  obtain ⟨-, hprice, -, rfl⟩ := order_eq_buy h
  have hfloor : a.cash / price < floorWholeShares (a.cash / price) + 1 := Int.lt_floor_add_one _
  exact (div_lt_iff₀ hprice).mp hfloor

end Account

/-- **Within its limits**: HOLD without a quantity, a BUY of whole shares whose rounded value the cash
    affords, or a SELL of whole shares of the position. -/
def RiskResult.WithinLimits (r : RiskResult) (p : Portfolio) (price : ℚ) : Prop :=
  (r.finalAction = .hold ∧ r.finalQuantity = none) ∨
  (∃ n : ℕ, 1 ≤ n ∧ r.finalAction = .buy ∧ r.finalQuantity = some (n : ℚ) ∧ quantize4 (n * price) ≤ p.cash) ∨
  (∃ n : ℕ, 1 ≤ n ∧ r.finalAction = .sell ∧ r.finalQuantity = some (n : ℚ) ∧ (n : ℚ) ≤ p.heldQuantity)

variable {r : RiskResult} {p : Portfolio} {o : Option ShareOrder} {price q : ℚ}

theorem RiskResult.Asks.withinLimits (h : r.Asks o) (hcovers : p.account.Covers price o) :
    r.WithinLimits p price := by
  have haction := h.action
  have hquantity := h.quantity
  cases o with
  | none => exact .inl ⟨haction, hquantity⟩
  | some o =>
      obtain ⟨side, q⟩ := o
      cases side with
      | buy =>
          obtain ⟨⟨n, hn, rfl⟩, hvalue⟩ := hcovers
          exact .inr (.inl ⟨n, hn, haction, hquantity, hvalue⟩)
      | sell =>
          obtain ⟨⟨n, hn, rfl⟩, hheld⟩ := hcovers
          exact .inr (.inr ⟨n, hn, haction, hquantity, hheld⟩)

/-- A BUY is asked for as an order. -/
theorem RiskResult.Asks.eq_buy (h : r.Asks o) (haction : r.finalAction = .buy)
    (hquantity : r.finalQuantity = some q) : o = some (.buy, q) := by
  have horder := h.order_eq
  unfold RiskResult.order at horder
  rw [haction, hquantity] at horder
  exact horder.symm

theorem RiskResult.Asks.eq_sell (h : r.Asks o) (haction : r.finalAction = .sell)
    (hquantity : r.finalQuantity = some q) : o = some (.sell, q) := by
  have horder := h.order_eq
  unfold RiskResult.order at horder
  rw [haction, hquantity] at horder
  exact horder.symm

/-- Whatever the target, the validator asks for an order that the account covers. -/
theorem evaluateTargetExposure_covered (h : p.account.Sound) (d : AgentDecision) (price m : ℚ) :
    ∃ o, (evaluateTargetExposure d p price m).Asks o ∧ p.account.Covers price o := by
  by_cases hprice : 0 < price
  · cases htarget : d.targetExposurePct with
    | none =>
        rw [evaluateTargetExposure_none htarget]
        exact ⟨_, evaluate_asks _ p price, Account.covers_order h⟩
    | some requested =>
        by_cases hvalue : 0 < sizingPortfolioValue p (p.heldQuantity * price)
        · exact ⟨_, evaluateTargetExposure_asks hprice htarget hvalue, Account.covers_targetOrder h hprice⟩
        · exact ⟨none, evaluateTargetExposure_worthless hprice htarget (not_lt.mp hvalue), trivial⟩
  · exact ⟨none, evaluateTargetExposure_unpriced (not_lt.mp hprice), trivial⟩

/-- **The limits of the risk check.** From an account without debt and with whole shares, no proposal, target
    exposure, stored value or price makes it ask for more than the account covers; and a BUY of `evaluate`
    leaves less than the price of another share. -/
theorem sized_within_limits (h : p.account.Sound) (price : ℚ) :
    (∀ d : StrategyDecision, (evaluate d p price).WithinLimits p price ∧
      ∀ q, (evaluate d p price).finalAction = .buy → (evaluate d p price).finalQuantity = some q →
        p.cash < (q + 1) * price) ∧
    ∀ (d : AgentDecision) (maxExposurePct : ℚ),
      (evaluateTargetExposure d p price maxExposurePct).WithinLimits p price := by
  constructor
  · intro d
    have hasks := evaluate_asks d p price
    refine ⟨hasks.withinLimits (Account.covers_order h), ?_⟩
    intro q haction hquantity
    exact Account.order_buy_maximal (hasks.eq_buy haction hquantity)
  · intro d m
    obtain ⟨o, hasks, hcovers⟩ := evaluateTargetExposure_covered h d price m
    exact hasks.withinLimits hcovers

/-- 1000.50 in cash, three shares, and no stored value. -/
def threeShares : Portfolio := ⟨2001 / 2, some "SPY", some 3, none, none, none, 0⟩

/-- At 250, a share more than the cash affords. -/
theorem threeShares_within_limits :
    (∀ d : StrategyDecision, (evaluate d threeShares 250).WithinLimits threeShares 250 ∧
      ∀ q, (evaluate d threeShares 250).finalAction = .buy → (evaluate d threeShares 250).finalQuantity = some q →
        threeShares.cash < (q + 1) * 250) ∧
    ∀ (d : AgentDecision) (maxExposurePct : ℚ),
      (evaluateTargetExposure d threeShares 250 maxExposurePct).WithinLimits threeShares 250 := by
  apply sized_within_limits
  exact ⟨by decide +kernel, by decide +kernel, 3, rfl⟩

/-! ## Conservation -/

/-- **Conserves the holdings**: the position moves by the final quantity, the cash by the value of the trade,
    neither on HOLD; at the price, what is held is worth the same up to the rounding of that value. -/
structure Conserves (r : RiskResult) (p : Portfolio) (price : ℚ) (result : SimulationResult) : Prop where
  buy   : ∀ q, r.finalAction = .buy → r.finalQuantity = some q →
    result.portfolio.heldQuantity = p.heldQuantity + q ∧
      ∃ trade, result.trade = some trade ∧ result.portfolio.cash = p.cash - trade.orderValue.val
  sell  : ∀ q, r.finalAction = .sell → r.finalQuantity = some q →
    result.portfolio.heldQuantity = p.heldQuantity - q ∧
      ∃ trade, result.trade = some trade ∧ result.portfolio.cash = p.cash + trade.orderValue.val
  hold  : r.finalAction = .hold → result.portfolio = p
  value : |result.portfolio.cash + result.portfolio.heldQuantity * price -
    (p.cash + p.heldQuantity * price)| ≤ 1 / 20000

namespace SimulationExecutionProvider

variable {step riskCheck : ℕ} {timestamp now : DateTime}

theorem conserves_none (h : r.Asks none) :
    Conserves r p price (executeIfApplicable r p step riskCheck timestamp price now) := by
  have horder := h.order_eq
  rw [executeIfApplicable_eq, horder]
  refine ⟨?_, ?_, fun _ => rfl, ?_⟩
  · intro q haction hquantity
    cases h.eq_buy haction hquantity
  · intro q haction hquantity
    cases h.eq_sell haction hquantity
  · rw [sub_self, abs_zero]
    norm_num

theorem conserves_buy (h : r.Asks (some (.buy, q))) (hcash : OnGrid 4 p.cash) :
    Conserves r p price (executeIfApplicable r p step riskCheck timestamp price now) := by
  have hbooked : quantize4 (p.cash - fillValue q price) = p.cash - fillValue q price :=
    quantize4_of_onGrid (hcash.sub (fillValue_onGrid q price))
  rw [executeIfApplicable_eq, h.order_eq]
  refine ⟨?_, ?_, ?_, ?_⟩
  · intro q' haction hquantity
    cases h.eq_buy haction hquantity
    refine ⟨rfl, _, rfl, ?_⟩
    exact hbooked.trans (by rw [← numeric_fillValue]; rfl)
  · intro q' haction hquantity
    cases h.eq_sell haction hquantity
  · intro haction
    cases h.action.symm.trans haction
  · have hround := abs_quantize4_sub_le (q * price)
    rw [abs_sub_comm] at hround
    have hsplit : quantize4 (p.cash - fillValue q price) + (p.heldQuantity + q) * price -
        (p.cash + p.heldQuantity * price) = q * price - quantize4 (q * price) := by
      rw [hbooked, fillValue]
      ring
    exact (congrArg abs hsplit).trans_le hround

theorem conserves_sell_iff (h : r.Asks (some (.sell, q))) (hcash : OnGrid 4 p.cash) :
    Conserves r p price (executeIfApplicable r p step riskCheck timestamp price now) ↔ q = p.heldQuantity := by
  have hbooked : quantize4 (p.cash + fillValue q price) = p.cash + fillValue q price :=
    quantize4_of_onGrid (hcash.add (fillValue_onGrid q price))
  rw [executeIfApplicable_eq, h.order_eq]
  constructor
  · intro hconserves
    -- the position is closed, so all of it must have been sold
    have hheld : (0 : ℚ) = p.heldQuantity - q := (hconserves.sell q h.action h.quantity).1
    linarith
  · intro hall
    refine ⟨?_, ?_, ?_, ?_⟩
    · intro q' haction hquantity
      cases h.eq_buy haction hquantity
    · intro q' haction hquantity
      cases h.eq_sell haction hquantity
      refine ⟨?_, _, rfl, ?_⟩
      · show (0 : ℚ) = p.heldQuantity - q
        rw [hall, sub_self]
      · exact hbooked.trans (by rw [← numeric_fillValue]; rfl)
    · intro haction
      cases h.action.symm.trans haction
    · have hround := abs_quantize4_sub_le (q * price)
      have hsplit : quantize4 (p.cash + fillValue q price) + 0 * price -
          (p.cash + p.heldQuantity * price) = quantize4 (q * price) - q * price := by
        rw [hbooked, fillValue, hall]
        ring
      exact (congrArg abs hsplit).trans_le hround

/-- **What the simulation does to the holdings** is right unless it sells less than all of the position. -/
theorem conserves_iff (h : r.Asks o) (hcash : OnGrid 4 p.cash) :
    Conserves r p price (executeIfApplicable r p step riskCheck timestamp price now) ↔
      ∀ q, o = some (.sell, q) → q = p.heldQuantity := by
  cases o with
  | none => exact iff_of_true (conserves_none h) (by intro q horder; cases horder)
  | some o =>
      obtain ⟨side, q⟩ := o
      cases side with
      | buy => exact iff_of_true (conserves_buy h hcash) (by intro q horder; cases horder)
      | sell =>
          rw [conserves_sell_iff h hcash]
          constructor
          · intro hall q' horder
            cases horder
            exact hall
          · intro hall
            exact hall q rfl

end SimulationExecutionProvider

/-- The target exposure reduces the position without closing it: the value beyond the target is worth at
    least one share, and fewer whole shares than are held. -/
def PartialReduction (d : AgentDecision) (p : Portfolio) (price maxExposurePct : ℚ) : Prop :=
  ∃ requested, d.targetExposurePct = some requested ∧ d.action ≠ .hold ∧ 0 < price ∧
    0 < sizingPortfolioValue p (p.heldQuantity * price) ∧
    price ≤ -clampedTargetDelta p price requested maxExposurePct ∧
    floorWholeShares (-clampedTargetDelta p price requested maxExposurePct / price) < p.heldQuantity

/-- A reduction of less than the position is sold as such. -/
theorem Account.targetOrder_reduction {a : Account} {action : TradeAction} {delta : ℚ} (hprice : 0 < price)
    (haction : action ≠ .hold) (hdelta : price ≤ -delta)
    (hpart : floorWholeShares (-delta / price) < a.position) :
    a.targetOrder action delta price = some (.sell, floorWholeShares (-delta / price)) := by
  have hone : 1 ≤ floorWholeShares (-delta / price) := by
    have hratio : ((1 : ℤ) : ℚ) ≤ -delta / price := by
      rw [Int.cast_one]
      exact (one_le_div hprice).mpr hdelta
    unfold floorWholeShares
    exact_mod_cast Int.le_floor.mpr hratio
  have hneg : delta < 0 := by linarith
  have hmin : min (floorWholeShares (-delta / price)) a.position = floorWholeShares (-delta / price) :=
    min_eq_left hpart.le
  unfold Account.targetOrder
  rw [if_neg, if_neg (not_lt.mpr hneg.le), if_neg (by linarith), abs_of_neg hneg, hmin, if_neg (not_lt.mpr hone)]
  rw [not_or, not_lt, abs_of_neg hneg]
  exact ⟨haction, hdelta⟩

/-- A SELL towards a target is of the whole position, unless it is a partial reduction. -/
theorem evaluateTargetExposure_sells_all_iff (d : AgentDecision) (p : Portfolio) (price m : ℚ) :
    ∃ o, (evaluateTargetExposure d p price m).Asks o ∧
      ((∀ q, o = some (.sell, q) → q = p.heldQuantity) ↔ ¬ PartialReduction d p price m) := by
  -- an exit before the sizing is no reduction, and asks for nothing or for all
  by_cases hprice : 0 < price
  · cases htarget : d.targetExposurePct with
    | none =>
        rw [evaluateTargetExposure_none htarget]
        refine ⟨_, evaluate_asks _ p price, iff_of_true ?_ ?_⟩
        · intro q horder
          exact (Account.order_eq_sell horder).2.2.2
        · rintro ⟨requested, hrequested, -⟩
          cases htarget.symm.trans hrequested
    | some requested =>
        by_cases hvalue : 0 < sizingPortfolioValue p (p.heldQuantity * price)
        · refine ⟨_, evaluateTargetExposure_asks hprice htarget hvalue, ?_⟩
          constructor
          · rintro hall ⟨requested', hrequested, haction, -, -, hdelta, hpart⟩
            cases htarget.symm.trans hrequested
            exact hpart.ne (hall _ (Account.targetOrder_reduction hprice haction hdelta hpart))
          · intro hwhole q horder
            obtain ⟨-, haction, hdelta, -, -, hmin⟩ := Account.targetOrder_eq_sell horder
            have hcover : p.heldQuantity ≤ floorWholeShares (-clampedTargetDelta p price requested m / price) := by
              by_contra hless
              exact hwhole ⟨requested, htarget, haction, hprice, hvalue, hdelta, not_le.mp hless⟩
            exact hmin.trans (min_eq_right hcover)
        · refine ⟨none, evaluateTargetExposure_worthless hprice htarget (not_lt.mp hvalue), iff_of_true ?_ ?_⟩
          · intro q horder
            cases horder
          · rintro ⟨requested', -, -, -, hpositive, -⟩
            exact hvalue hpositive
  · refine ⟨none, evaluateTargetExposure_unpriced (not_lt.mp hprice), iff_of_true ?_ ?_⟩
    · intro q horder
      cases horder
    · rintro ⟨requested, -, -, hpositive, -⟩
      exact hprice hpositive

/-- What the simulation books for the result of a risk check. -/
abbrev simulated (r : RiskResult) (p : Portfolio) (price : ℚ) (executionStepId riskCheckId : ℕ)
    (timestamp now : DateTime) : SimulationResult :=
  SimulationExecutionProvider.executeIfApplicable r p executionStepId riskCheckId timestamp price now

/-- **A simulated execution conserves the holdings of a stored portfolio**, whatever `evaluate` asks for; and
    for a target exposure if and only if it does not reduce the position in part. -/
theorem simulated_execution_conserves_iff (row : PortfolioRow) (price : ℚ) (executionStepId riskCheckId : ℕ)
    (timestamp now : DateTime) :
    (∀ d : StrategyDecision, Conserves (evaluate d row.load price) row.load price
      (simulated (evaluate d row.load price) row.load price executionStepId riskCheckId timestamp now)) ∧
    ∀ (d : AgentDecision) (maxExposurePct : ℚ),
      Conserves (evaluateTargetExposure d row.load price maxExposurePct) row.load price
        (simulated (evaluateTargetExposure d row.load price maxExposurePct) row.load price executionStepId
          riskCheckId timestamp now) ↔
      ¬ PartialReduction d row.load price maxExposurePct := by
  have hcash : OnGrid 4 row.load.cash := row.cash.onGrid
  constructor
  · intro d
    apply (SimulationExecutionProvider.conserves_iff (evaluate_asks d row.load price) hcash).mpr
    intro q horder
    exact (Account.order_eq_sell horder).2.2.2
  · intro d m
    obtain ⟨o, hasks, hall⟩ := evaluateTargetExposure_sells_all_iff d row.load price m
    exact (SimulationExecutionProvider.conserves_iff hasks hcash).trans hall

/-- 50 shares and 5000 in cash, valued at 10000. -/
def fiftyShares : PortfolioRow :=
  ⟨⟨5000, 50000000, by norm_num⟩, some "SPY", some ⟨50, 5000000000, by norm_num⟩, none, none,
    some ⟨10000, 100000000, by norm_num⟩, 0⟩

/-- A proposal to hold a tenth of the value in shares. -/
def reduceToATenth : AgentDecision :=
  { action := .sell, symbol := "SPY", reason := "target exposure", confidence := 1,
    targetExposurePct := some (1 / 10) }

/-- The risk check sells 40 of the 50 shares, the simulation pays for 40 and takes all 50. -/
theorem partial_reduction_loses_shares :
    (evaluateTargetExposure reduceToATenth fiftyShares.load 100).finalQuantity = some 40 ∧
      (simulated (evaluateTargetExposure reduceToATenth fiftyShares.load 100) fiftyShares.load 100 1 1 0 0).portfolio.positionQuantity
        = some 0 ∧
      ¬ Conserves (evaluateTargetExposure reduceToATenth fiftyShares.load 100) fiftyShares.load 100
        (simulated (evaluateTargetExposure reduceToATenth fiftyShares.load 100) fiftyShares.load 100 1 1 0 0) := by
  refine ⟨by decide +kernel, by decide +kernel, ?_⟩
  intro hconserves
  have hheld := (hconserves.sell 40 (by decide +kernel) (by decide +kernel)).1
  exact absurd hheld (by decide +kernel)

end TradingAI
