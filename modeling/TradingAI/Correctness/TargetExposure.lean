import TradingAI.Execution.TargetExposure

/-!
# `Correctness.TargetExposure` — how close a target exposure comes to its target

The order of a target exposure is a signed number of whole shares: as many as fit between the position and
the target, as far as the cash goes (`targetOrder_eq_orderOfShares`). The target is a share of the value the
check sizes with, which is the stored one. Executed at the price of the check, the order hits the target of
the true value exactly if both values call for the same number of shares (`target_exposure_hits_iff`).
-/

namespace TradingAI

open Rounding

/-! ## Orders as signed numbers of shares -/

/-- A BUY of `k` shares, or a SELL of `-k`. -/
def orderOfShares (k : ℤ) : Option ShareOrder :=
  if 0 < k then some (.buy, (k : ℚ)) else if k < 0 then some (.sell, ((-k : ℤ) : ℚ)) else none

theorem orderOfShares_of_pos {k : ℤ} (h : 0 < k) : orderOfShares k = some (.buy, (k : ℚ)) := if_pos h

theorem orderOfShares_of_neg {k : ℤ} (h : k < 0) : orderOfShares k = some (.sell, ((-k : ℤ) : ℚ)) := by
  rw [orderOfShares, if_neg (by omega), if_pos h]

/-- The side of an order is the sign of its shares. -/
theorem finalActionOf_orderOfShares (k : ℤ) :
    (finalActionOf (orderOfShares k) = .buy ↔ 0 < k) ∧ (finalActionOf (orderOfShares k) = .sell ↔ k < 0) ∧
      (finalActionOf (orderOfShares k) = .hold ↔ k = 0) := by
  rcases lt_trichotomy k 0 with h | rfl | h
  · rw [orderOfShares_of_neg h]
    simp only [finalActionOf, reduceCtorEq, false_iff, true_iff]
    omega
  · decide
  · rw [orderOfShares_of_pos h]
    simp only [finalActionOf, reduceCtorEq, false_iff, true_iff]
    omega

/-- **A target order, counted in shares**: the whole shares missing to the target, as far as the cash goes. No
    more shares are sold than there are, because a target is not below zero. -/
theorem Account.targetOrder_eq_orderOfShares {a : Account} {action : TradeAction} {delta price : ℚ}
    (hprice : 0 < price) (hcash : 0 ≤ a.cash) (haction : action ≠ .hold)
    (hdelta : -(a.position * price) ≤ delta) :
    a.targetOrder action delta price =
      orderOfShares (min (truncate (delta / price)) ⌊a.cash / price⌋) := by
  have hafford : 0 ≤ ⌊a.cash / price⌋ := Int.floor_nonneg.mpr (div_nonneg hcash hprice.le)
  unfold targetOrder
  rcases lt_or_ge |delta| price with hsmall | hsmall
  · -- less than a share is missing
    have hzero : 0 = truncate (delta / price) := by
      refine eq_truncate_iff.mpr ⟨fun h => absurd h (lt_irrefl 0), fun h => absurd h (lt_irrefl 0), ?_⟩
      rw [Int.cast_zero, sub_zero, abs_div, abs_of_pos hprice]
      exact (div_lt_one hprice).mpr hsmall
    rw [if_pos (.inr hsmall), ← hzero, min_eq_left hafford]
    rfl
  · rw [if_neg (not_or.mpr ⟨haction, not_lt.mpr hsmall⟩)]
    rcases lt_or_ge 0 delta with hpos | hneg
    · rw [abs_of_pos hpos] at hsmall
      rw [if_pos hpos, truncate_of_nonneg (div_nonneg hpos.le hprice.le)]
      have hmin : min (floorWholeShares (delta / price)) (floorWholeShares (a.cash / price)) =
          ((min ⌊delta / price⌋ ⌊a.cash / price⌋ : ℤ) : ℚ) := by
        rw [Int.cast_min]
        rfl
      have hnonneg : 0 ≤ min ⌊delta / price⌋ ⌊a.cash / price⌋ :=
        le_min (Int.floor_nonneg.mpr (div_nonneg hpos.le hprice.le)) hafford
      dsimp only
      rw [hmin]
      generalize min ⌊delta / price⌋ ⌊a.cash / price⌋ = k at hnonneg ⊢
      rcases hnonneg.eq_or_lt with rfl | hk
      · rfl
      · have hone : ¬ ((k : ℚ) < 1) := by
          rw [not_lt]
          exact_mod_cast hk
        rw [if_neg hone, orderOfShares_of_pos hk]
    · -- as the target is not below zero, the smaller of the two minima is never the position
      rw [abs_of_nonpos hneg] at hsmall ⊢
      have hlt : delta < 0 := by linarith
      have hposition : 1 ≤ a.position := by
        apply le_of_mul_le_mul_right _ hprice
        linarith
      -- the whole shares beyond the target, no more than there are
      have hratio : (1 : ℚ) ≤ -delta / price := (one_le_div hprice).mpr hsmall
      have hcover : -delta / price ≤ a.position := (div_le_iff₀ hprice).mpr (by linarith)
      have hone : 1 ≤ ⌊-delta / price⌋ := Int.le_floor.mpr (by exact_mod_cast hratio)
      have hmin : min (floorWholeShares (-delta / price)) a.position = (⌊-delta / price⌋ : ℚ) :=
        min_eq_left ((Int.floor_le _).trans hcover)
      have htruncate : truncate (delta / price) = -⌊-delta / price⌋ := by
        rw [truncate_of_neg (div_neg_of_neg_of_pos hlt hprice), neg_div]
      have hcast : ¬ ((⌊-delta / price⌋ : ℚ) < 1) := by
        rw [not_lt]
        exact_mod_cast hone
      dsimp only
      rw [if_neg (not_lt.mpr hneg), if_neg (by linarith), hmin, if_neg hcast, htruncate,
        min_eq_left (by omega), orderOfShares_of_neg (by omega), neg_neg]

/-! ## Executing an order -/

/-- The portfolio after an order has been filled in full at `price`. -/
def Portfolio.executed (p : Portfolio) (symbol : String) (price : ℚ) : Option ShareOrder → Portfolio
  | none           => p
  | some (side, q) => p.bookFill side symbol q (fillValue q price)

variable {p : Portfolio} {symbol : String} {price : ℚ}

/-- A filled order moves the position by its signed number of shares. -/
theorem executed_heldQuantity {k : ℤ} (h : 0 ≤ p.heldQuantity + k) :
    (p.executed symbol price (orderOfShares k)).heldQuantity = p.heldQuantity + k := by
  rcases lt_trichotomy k 0 with hk | rfl | hk
  · rw [orderOfShares_of_neg hk]
    have hsum : p.heldQuantity - ((-k : ℤ) : ℚ) = p.heldQuantity + k := by
      push_cast
      ring
    show (p.bookFill .sell symbol _ _).heldQuantity = _
    unfold Portfolio.bookFill
    dsimp only
    split_ifs with hclosed
    · show (0 : ℚ) = _
      rw [hsum] at hclosed
      exact le_antisymm h hclosed
    · exact hsum
  · rw [Int.cast_zero, add_zero]
    rfl
  · rw [orderOfShares_of_pos hk]
    rfl

/-! ## The target -/

/-- **Hits the target**: the position moves towards the target value without crossing it, and stays less than
    one share away from it, unless a BUY took all that the cash affords. -/
structure HitsTarget (p : Portfolio) (price target : ℚ) (r : RiskResult) (after : Portfolio) : Prop where
  buy  : r.finalAction = .buy →
    p.heldQuantity * price ≤ after.heldQuantity * price ∧ after.heldQuantity * price ≤ target
  sell : r.finalAction = .sell →
    target ≤ after.heldQuantity * price ∧ after.heldQuantity * price ≤ p.heldQuantity * price
  hold : r.finalAction = .hold → after.heldQuantity = p.heldQuantity
  gap  : |target - after.heldQuantity * price| < price ∨
    r.finalAction = .buy ∧ p.cash < (after.heldQuantity - p.heldQuantity + 1) * price

/-- The whole shares between the position and a target value, negative if they are to be sold. -/
def sharesTowards (p : Portfolio) (price target : ℚ) : ℤ := truncate ((target - p.heldQuantity * price) / price)

/-- An order of `k` shares hits a target exactly if `k` is the number of whole shares missing to it. -/
theorem hitsTarget_iff {r : RiskResult} {after : Portfolio} {k : ℤ} {target : ℚ} (hprice : 0 < price)
    (hasks : r.Asks (orderOfShares k)) (hafter : after.heldQuantity = p.heldQuantity + k)
    (hcash : target ≤ p.cash + p.heldQuantity * price) :
    HitsTarget p price target r after ↔ k = sharesTowards p price target := by
  have hmul : ∀ x : ℚ, x * price ≤ target - p.heldQuantity * price ↔
      x ≤ (target - p.heldQuantity * price) / price := fun x => (le_div_iff₀ hprice).symm
  have hmul' : ∀ x : ℚ, target - p.heldQuantity * price ≤ x * price ↔
      (target - p.heldQuantity * price) / price ≤ x := fun x => (div_le_iff₀ hprice).symm
  have hgap : |target - after.heldQuantity * price| < price ↔
      |(target - p.heldQuantity * price) / price - k| < 1 := by
    have hsplit : target - after.heldQuantity * price =
        ((target - p.heldQuantity * price) / price - k) * price := by
      rw [hafter]
      field_simp
      ring
    rw [hsplit, abs_mul, abs_of_pos hprice]
    exact mul_lt_iff_lt_one_left hprice
  -- the three clauses of the target are those of a truncation, one for each sign of `k`
  obtain ⟨hisBuy, hisSell, hisHold⟩ := finalActionOf_orderOfShares k
  rw [← hasks.action] at hisBuy hisSell hisHold
  unfold sharesTowards
  rw [eq_truncate_iff]
  constructor
  · intro hits
    refine ⟨?_, ?_, ?_⟩
    · intro hk
      have htarget := (hits.buy (hisBuy.mpr hk)).2
      apply (hmul k).mp
      rw [hafter] at htarget
      linarith
    · intro hk
      have htarget := (hits.sell (hisSell.mpr hk)).1
      apply (hmul' k).mp
      rw [hafter] at htarget
      linarith
    · rcases hits.gap with h | ⟨hbuy, hless⟩
      · exact hgap.mp h
      · -- a BUY that took all the cash is short of the target by less than what the cash leaves
        have htarget := (hits.buy hbuy).2
        apply hgap.mp
        rw [abs_of_nonneg (sub_nonneg.mpr htarget)]
        rw [hafter] at hless ⊢
        linarith
  · rintro ⟨hpos, hneg, hnear⟩
    refine ⟨?_, ?_, ?_, .inl (hgap.mpr hnear)⟩
    · intro hbuy
      have hk := hisBuy.mp hbuy
      have hcast : (0 : ℚ) < k := by exact_mod_cast hk
      have hle := (hmul k).mpr (hpos hk)
      have := mul_pos hcast hprice
      rw [hafter, add_mul]
      constructor <;> linarith
    · intro hsell
      have hk := hisSell.mp hsell
      have hcast : (k : ℚ) < 0 := by exact_mod_cast hk
      have hle := (hmul' k).mpr (hneg hk)
      have := mul_neg_of_neg_of_pos hcast hprice
      rw [hafter, add_mul]
      constructor <;> linarith
    · intro hhold
      rw [hafter, hisHold.mp hhold, Int.cast_zero, add_zero]

variable {d : AgentDecision} {target : ℚ}

/-- The value of the portfolio at a price: `cash + position_quantity * current_price`. -/
def Portfolio.valueAt (p : Portfolio) (price : ℚ) : ℚ := p.cash + p.heldQuantity * price

/-- The value the check sizes with at a price: the stored one, where it is positive. -/
def Portfolio.sizedValueAt (p : Portfolio) (price : ℚ) : ℚ := sizingPortfolioValue p (p.heldQuantity * price)

theorem sizedValueAt_pos (h : 0 < p.valueAt price) : 0 < p.sizedValueAt price := by
  unfold Portfolio.sizedValueAt sizingPortfolioValue
  cases p.currentPortfolioValue with
  | none => exact h
  | some value =>
      dsimp only
      split_ifs with hvalue
      · exact h
      · exact not_le.mp hvalue

/-- **When a target exposure hits its target.** Whatever value is stored, executing the order at the price of
    the check hits the target share of the true value if and only if the value it was sized with calls for as
    many shares, as far as the cash goes, as the true value does. -/
theorem target_exposure_hits_iff (hcash : 0 ≤ p.cash) (hposition : 0 ≤ p.heldQuantity)
    (hprice : 0 < price) (hvalue : 0 < p.valueAt price) (haction : d.action ≠ .hold)
    (htarget : d.targetExposurePct = some target) (hlow : 0 ≤ target) (hhigh : target ≤ 1) (symbol : String) :
    HitsTarget p price (target * p.valueAt price) (evaluateTargetExposure d p price)
        (p.executed symbol price (evaluateTargetExposure d p price).order) ↔
      min (sharesTowards p price (target * p.sizedValueAt price)) ⌊p.cash / price⌋ =
        sharesTowards p price (target * p.valueAt price) := by
  have hsized := sizedValueAt_pos hvalue
  have hclamp : clampedTarget target 1 = target := by
    rw [clampedTarget, max_eq_left hlow, min_eq_left hhigh]
  have hdelta : clampedTargetDelta p price target 1 = target * p.sizedValueAt price - p.heldQuantity * price := by
    rw [clampedTargetDelta, hclamp, mul_comm]
    rfl
  have hbelow : -(p.heldQuantity * price) ≤ clampedTargetDelta p price target 1 := by
    have := mul_nonneg hlow hsized.le
    rw [hdelta]
    linarith
  have hasks := evaluateTargetExposure_asks (m := 1) hprice htarget hsized
  rw [Account.targetOrder_eq_orderOfShares (a := p.account) hprice hcash haction hbelow, hdelta] at hasks
  change RiskResult.Asks _ (orderOfShares (min (sharesTowards p price (target * p.sizedValueAt price))
    ⌊p.cash / price⌋)) at hasks
  -- no more shares are sold than there are
  have hheld : 0 ≤ p.heldQuantity + (min (sharesTowards p price (target * p.sizedValueAt price))
      ⌊p.cash / price⌋ : ℤ) := by
    have hafford : (0 : ℚ) ≤ ⌊p.cash / price⌋ := by
      exact_mod_cast Int.floor_nonneg.mpr (div_nonneg hcash hprice.le)
    have htowards : -p.heldQuantity ≤ sharesTowards p price (target * p.sizedValueAt price) := by
      apply le_truncate (neg_nonpos.mpr hposition)
      rw [le_div_iff₀ hprice, ← hdelta]
      linarith
    rw [Int.cast_min]
    have := le_min htowards ((neg_nonpos.mpr hposition).trans hafford)
    linarith
  rw [hasks.order_eq]
  apply hitsTarget_iff hprice hasks (executed_heldQuantity hheld)
  exact mul_le_of_le_one_left hvalue.le hhigh

/-- Ten shares of 100 and no cash, as the last step left them. -/
def tenHeld : Portfolio := ⟨0, some "AAPL", some 10, some 100, some 1000, some 1000, 0⟩

/-- A proposal to stay fully invested. -/
def fullyInvested : AgentDecision :=
  { action := .buy, symbol := "AAPL", reason := "target exposure", confidence := 1,
    targetExposurePct := some 1 }

/-- At the price of the stored value, nothing is missing to the target. -/
theorem tenShares_hit_at_100 :
    HitsTarget tenHeld 100 (1 * tenHeld.valueAt 100) (evaluateTargetExposure fullyInvested tenHeld 100)
      (tenHeld.executed "AAPL" 100 (evaluateTargetExposure fullyInvested tenHeld 100).order) := by
  apply (target_exposure_hits_iff (by decide +kernel) (by decide +kernel) (by norm_num) (by decide +kernel)
    (by decide) rfl (by norm_num) le_rfl "AAPL").mpr
  decide +kernel

/-- The price has doubled, and half of the shares that are fully invested are sold. -/
theorem tenShares_miss_at_200 :
    ¬ HitsTarget tenHeld 200 (1 * tenHeld.valueAt 200) (evaluateTargetExposure fullyInvested tenHeld 200)
      (tenHeld.executed "AAPL" 200 (evaluateTargetExposure fullyInvested tenHeld 200).order) := by
  intro hits
  have hbound := (hits.sell (by decide +kernel)).1
  exact absurd hbound (by decide +kernel)

end TradingAI
