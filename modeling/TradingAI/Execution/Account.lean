import TradingAI.Execution.SimulationProvider

/-!
# `Execution.Account` — cash and a position, traded in whole shares

What is left of a portfolio, a risk check and an execution if only cash and shares count. An action
becomes an order: a BUY of as many whole shares as the cash affords, a SELL of the whole position, or
nothing. The order is booked at its rounded value. Both execution providers do this to the stored
portfolio, which the modules of the single strategies use.

A booked BUY never overdraws: the rounded value of an affordable quantity is affordable, because the cash
has no more places than the value is rounded to (`Account.Sound.book`).
-/

namespace TradingAI

open Rounding

structure Account where
  cash     : ℚ
  position : ℚ
  deriving DecidableEq

/-- The account of a loaded portfolio. -/
def Portfolio.account (p : Portfolio) : Account := ⟨p.cash, p.heldQuantity⟩

@[simp] theorem Portfolio.account_cash (p : Portfolio) : p.account.cash = p.cash := rfl

@[simp] theorem Portfolio.account_position (p : Portfolio) : p.account.position = p.heldQuantity := rfl

/-- A side and a number of shares. -/
abbrev ShareOrder := OrderSide × ℚ

namespace Account

/-- What becomes of an action at a price. -/
def order (a : Account) (action : TradeAction) (price : ℚ) : Option ShareOrder :=
  if price ≤ 0 then none
  else
    match action with
    | .hold => none
    | .sell => if a.position ≤ 0 then none else some (.sell, a.position)
    | .buy  =>
        if floorWholeShares (a.cash / price) < 1 then none
        else some (.buy, floorWholeShares (a.cash / price))

/-- Cash and position after an order at a price. -/
def book (a : Account) (price : ℚ) : Option ShareOrder → Account
  | none            => a
  | some (.buy, q)  => ⟨a.cash - fillValue q price, a.position + q⟩
  | some (.sell, q) => ⟨a.cash + fillValue q price, a.position - q⟩

/-- The account after an action. -/
def trade (a : Account) (action : TradeAction) (price : ℚ) : Account := a.book price (a.order action price)

variable {a : Account} {action : TradeAction} {price q : ℚ}

theorem order_eq_buy (h : a.order action price = some (.buy, q)) :
    action = .buy ∧ 0 < price ∧ 1 ≤ q ∧ q = floorWholeShares (a.cash / price) := by
  unfold order at h
  split at h
  · cases h
  · next hprice =>
      cases action with
      | hold => cases h
      | sell =>
          dsimp only at h
          split at h <;> cases h
      | buy =>
          dsimp only at h
          split at h
          · cases h
          · next hq =>
              obtain ⟨-, rfl⟩ := Prod.mk.inj (Option.some.inj h)
              exact ⟨rfl, not_le.mp hprice, not_lt.mp hq, rfl⟩

theorem order_eq_sell (h : a.order action price = some (.sell, q)) :
    action = .sell ∧ 0 < price ∧ 0 < q ∧ q = a.position := by
  unfold order at h
  split at h
  · cases h
  · next hprice =>
      cases action with
      | hold => cases h
      | buy =>
          dsimp only at h
          split at h <;> cases h
      | sell =>
          dsimp only at h
          split at h
          · cases h
          · next hq =>
              obtain ⟨-, rfl⟩ := Prod.mk.inj (Option.some.inj h)
              exact ⟨rfl, not_le.mp hprice, not_le.mp hq, rfl⟩

/-- **Sound**: no debt, at most four decimal places of cash, and a whole number of shares. -/
structure Sound (a : Account) : Prop where
  cash  : 0 ≤ a.cash
  grid  : OnGrid 4 a.cash
  whole : ∃ n : ℕ, a.position = n

/-- Shares on a whole number are on the grid of the column. -/
theorem Sound.position_onGrid (h : a.Sound) : OnGrid 8 a.position := by
  obtain ⟨n, hn⟩ := h.whole
  exact ⟨n * 10 ^ 8, by rw [hn]; push_cast; rfl⟩

/-- **Trading keeps an account sound.** -/
theorem Sound.trade (h : a.Sound) (action : TradeAction) (price : ℚ) : (a.trade action price).Sound := by
  unfold Account.trade
  cases horder : a.order action price with
  | none => exact h
  | some o =>
      obtain ⟨side, q⟩ := o
      cases side with
      | buy =>
          obtain ⟨-, hprice, hq, rfl⟩ := order_eq_buy horder
          -- the affordable value stays affordable when it is rounded to the places of the cash
          have hvalue : fillValue (floorWholeShares (a.cash / price)) price ≤ a.cash :=
            halfEven.quantize_le_of_onGrid h.grid (floorWholeShares_div_mul_le hprice)
          refine ⟨sub_nonneg.mpr hvalue, h.grid.sub (fillValue_onGrid _ _), ?_⟩
          obtain ⟨n, hn⟩ := h.whole
          have hfloor : 0 ≤ ⌊a.cash / price⌋ := by
            apply Int.floor_nonneg.mpr
            exact div_nonneg h.cash hprice.le
          refine ⟨n + ⌊a.cash / price⌋.toNat, ?_⟩
          show a.position + floorWholeShares (a.cash / price) = _
          rw [hn, floorWholeShares]
          push_cast
          rw [← Int.cast_natCast (⌊a.cash / price⌋.toNat), Int.toNat_of_nonneg hfloor]
      | sell =>
          obtain ⟨-, hprice, hq, rfl⟩ := order_eq_sell horder
          have hvalue : 0 ≤ fillValue a.position price :=
            quantize4_nonneg (mul_nonneg hq.le hprice.le)
          refine ⟨add_nonneg h.cash hvalue, h.grid.add (fillValue_onGrid _ _), 0, ?_⟩
          exact (sub_self a.position).trans Nat.cast_zero.symm

end Account

/-! ## The risk check and the simulation provider -/

/-- The order a risk check asks for. -/
def RiskResult.order (r : RiskResult) : Option ShareOrder :=
  match r.finalAction, r.finalQuantity with
  | .buy, some q  => some (.buy, q)
  | .sell, some q => some (.sell, q)
  | _, _          => none

/-- The final action of a risk check that asks for this order. -/
def finalActionOf : Option ShareOrder → FinalAction
  | none            => .hold
  | some (.buy, _)  => .buy
  | some (.sell, _) => .sell

/-- **Asks for** an order, in all its fields. -/
structure RiskResult.Asks (r : RiskResult) (o : Option ShareOrder) : Prop where
  action   : r.finalAction = finalActionOf o
  quantity : r.finalQuantity = o.map Prod.snd

namespace RiskResult

variable {q price : ℚ} {why : Option String} {rules : Details}

theorem hold_asks : (hold why rules).Asks none := ⟨rfl, rfl⟩

theorem trade_buy_asks : (trade .buy q price rules).Asks (some (.buy, q)) := ⟨rfl, rfl⟩

theorem trade_sell_asks : (trade .sell q price rules).Asks (some (.sell, q)) := ⟨rfl, rfl⟩

theorem Asks.order_eq {r : RiskResult} {o : Option ShareOrder} (h : r.Asks o) : r.order = o := by
  unfold RiskResult.order
  rw [h.action, h.quantity]
  cases o with
  | none => rfl
  | some o =>
      obtain ⟨side, q⟩ := o
      cases side <;> rfl

end RiskResult

/-- `evaluate` sizes against the account alone. -/
theorem evaluate_asks (d : StrategyDecision) (p : Portfolio) (price : ℚ) :
    (evaluate d p price).Asks (p.account.order d.action price) := by
  unfold evaluate Account.order
  by_cases hprice : price ≤ 0
  · rw [if_pos hprice, if_pos hprice]
    exact RiskResult.hold_asks
  · rw [if_neg hprice, if_neg hprice]
    cases d.action with
    | hold => exact RiskResult.hold_asks
    | sell =>
        dsimp only
        by_cases hheld : p.heldQuantity ≤ 0
        · have hposition : p.account.position ≤ 0 := hheld
          rw [if_pos hheld, if_pos hposition]
          exact RiskResult.hold_asks
        · have hposition : ¬ p.account.position ≤ 0 := hheld
          rw [if_neg hheld, if_neg hposition]
          exact RiskResult.trade_sell_asks
    | buy =>
        dsimp only
        by_cases hshare : floorWholeShares (p.cash / price) < 1
        · have hcash : floorWholeShares (p.account.cash / price) < 1 := hshare
          rw [if_pos hshare, if_pos hcash]
          exact RiskResult.hold_asks
        · have hcash : ¬ floorWholeShares (p.account.cash / price) < 1 := hshare
          rw [if_neg hshare, if_neg hcash]
          exact RiskResult.trade_buy_asks

/-- `evaluate` names a side exactly if there is an order. -/
theorem evaluate_order (d : StrategyDecision) (p : Portfolio) (price : ℚ) :
    (evaluate d p price).order = p.account.order d.action price ∧
      (evaluate d p price).finalAction = finalActionOf (p.account.order d.action price) :=
  ⟨(evaluate_asks d p price).order_eq, (evaluate_asks d p price).action⟩

namespace SimulationExecutionProvider

variable {r : RiskResult} {p : Portfolio} {step riskCheck : ℕ} {timestamp now : DateTime} {price : ℚ}

/-- What is executed is the order of the risk check. -/
theorem executeIfApplicable_eq :
    executeIfApplicable r p step riskCheck timestamp price now =
      match r.order with
      | none           => { order := none, trade := none, portfolio := p }
      | some (side, q) => execute side q price p step riskCheck timestamp now := by
  unfold executeIfApplicable RiskResult.order
  cases r.finalAction <;> cases r.finalQuantity <;> rfl

/-- **The provider books the order on the account**, if a SELL is of the whole position. -/
theorem execute_account {side : OrderSide} {q : ℚ} (hgrid : OnGrid 4 p.cash)
    (hsell : side = .sell → q = p.heldQuantity) :
    (execute side q price p step riskCheck timestamp now).portfolio.account =
      p.account.book price (some (side, q)) := by
  cases side with
  | buy =>
      show Account.mk (quantize4 (p.cash - fillValue q price)) (p.heldQuantity + q) = ⟨_, _⟩
      rw [quantize4_of_onGrid (hgrid.sub (fillValue_onGrid q price))]
      rfl
  | sell =>
      show Account.mk (quantize4 (p.cash + fillValue q price)) 0 =
        ⟨p.cash + fillValue q price, p.heldQuantity - q⟩
      rw [quantize4_of_onGrid (hgrid.add (fillValue_onGrid q price)), hsell rfl, sub_self]

end SimulationExecutionProvider

end TradingAI
