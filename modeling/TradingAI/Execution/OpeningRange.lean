import TradingAI.Execution.StepView

/-!
# `Execution.OpeningRange` — a session of the opening range breakout, on the account

What the strategy is shown at a bar depends on the session's bars and on one bit, whether a round trip is
completed; what it decides depends besides on whether there is a position. So a session is a machine on the
account and the bit (`SessionPlace`), and its bars are its input (`SessionBar`).

From a flat account the machine goes through three phases: it waits for a breakout it can afford, it holds
what it bought, and it rests. It leaves the first with a BUY and the second with a SELL, at the last bar at
the latest. So a session buys and sells once, or does nothing, unless it buys at its last bar
(`trades_intraday_iff`).

## Contents
- `SessionBar`, `SessionPlace`, and one bar: `decision`, `order`, `next`.
- `trades`, `after`: a session.
- `rests`, `exits`, `waits`: the three phases.
-/

namespace TradingAI

open OpeningRangeBreakoutStrategy

/-! ## One bar -/

/-- A bar with what the strategy is shown at it. -/
structure SessionBar where
  timestamp : DateTime
  close     : ℚ
  shown     : OpeningRangeBreakoutState

/-- What a session carries from bar to bar. -/
structure SessionPlace where
  account            : Account
  roundTripCompleted : Bool

namespace SessionBar

variable (t : SessionBar) (p : SessionPlace)

/-- The state, with the round trip of the place. -/
def state (roundTripCompleted : Bool) : OpeningRangeBreakoutState := { t.shown with roundTripCompleted }

def decision : StrategyDecision :=
  OpeningRangeBreakoutStrategy.decide spySymbol t.close (some p.account.position) (t.state p.roundTripCompleted)

def order : Option ShareOrder := p.account.order (t.decision p).action t.close

/-- What its step shows. -/
def view : StepView := p.account.view OpeningRangeBreakoutStrategy.sourceName (t.decision p) t.close

def next : SessionPlace :=
  ⟨p.account.book t.close (t.order p), p.roundTripCompleted || finalActionOf (t.order p) = .sell⟩

/-- A breakout that the cash affords a share of. -/
def Opens (cash : ℚ) : Prop :=
  t.shown.openingRangeComplete = true ∧ brokeAbove t.close t.shown = true ∧ t.close ≤ cash

instance (cash : ℚ) : Decidable (t.Opens cash) := inferInstanceAs (Decidable (_ ∧ _ ∧ _))

variable {t p}

/-- The decision, in terms of what is held. -/
theorem decision_action :
    (t.decision p).action =
      if ¬ t.shown.openingRangeComplete then .hold
      else if t.shown.finalBar ∧ 0 < p.account.position then .sell
      else if p.roundTripCompleted then .hold
      else if brokeAbove t.close t.shown then (if 0 < p.account.position then .hold else .buy)
      else if brokeBelow t.close t.shown then (if 0 < p.account.position then .sell else .hold)
      else .hold := by
  have habove : brokeAbove t.close (t.state p.roundTripCompleted) = brokeAbove t.close t.shown := rfl
  have hbelow : brokeBelow t.close (t.state p.roundTripCompleted) = brokeBelow t.close t.shown := rfl
  have hheld : hasPosition (some p.account.position) = decide (0 < p.account.position) := rfl
  unfold decision OpeningRangeBreakoutStrategy.decide
  rw [habove, hbelow, hheld]
  simp only [state, decide_eq_true_eq]
  split_ifs <;> rfl

/-- A share is affordable at no more than the cash. -/
theorem floorWholeShares_lt_one_iff {cash price : ℚ} (hprice : 0 < price) :
    floorWholeShares (cash / price) < 1 ↔ ¬ price ≤ cash := by
  have hint : floorWholeShares (cash / price) < 1 ↔ ⌊cash / price⌋ < 1 := by
    unfold floorWholeShares
    exact_mod_cast Iff.rfl
  rw [hint, Int.floor_lt, Int.cast_one, div_lt_one hprice, not_le]

/-- **Waiting**: the first affordable breakout is bought. -/
theorem order_waiting (hprice : 0 < t.close) (hflat : p.account.position = 0)
    (htrip : p.roundTripCompleted = false) :
    t.order p = if t.Opens p.account.cash then some (.buy, floorWholeShares (p.account.cash / t.close))
      else none := by
  unfold order Account.order
  rw [if_neg hprice.not_ge, decision_action]
  by_cases hopens : t.Opens p.account.cash
  · rw [if_pos hopens]
    obtain ⟨hcomplete, habove, hcash⟩ := hopens
    have hshare : ¬ floorWholeShares (p.account.cash / t.close) < 1 := by
      rw [floorWholeShares_lt_one_iff hprice]
      exact not_not.mpr hcash
    simp [hcomplete, habove, hflat, htrip, hshare]
  · rw [if_neg hopens]
    by_cases hcomplete : t.shown.openingRangeComplete = true
    · by_cases habove : brokeAbove t.close t.shown = true
      · have hshare : floorWholeShares (p.account.cash / t.close) < 1 := by
          rw [floorWholeShares_lt_one_iff hprice]
          intro hcash
          exact hopens ⟨hcomplete, habove, hcash⟩
        simp [hcomplete, habove, hflat, htrip, hshare]
      · simp [hcomplete, habove, hflat, htrip]
    · simp [hcomplete]

/-- **Resting**: after the round trip nothing is done. -/
theorem order_resting (hflat : p.account.position = 0) (htrip : p.roundTripCompleted = true) :
    t.order p = none := by
  unfold order Account.order
  rw [decision_action]
  simp [hflat, htrip]

/-- **Holding**: if anything is done, the whole position is sold. -/
theorem order_holding (hprice : 0 < t.close) (hheld : 0 < p.account.position) :
    t.order p = none ∨ t.order p = some (.sell, p.account.position) := by
  unfold order Account.order
  rw [if_neg hprice.not_ge, decision_action]
  simp only [hheld, hheld.not_ge]
  split_ifs <;> simp_all

/-- At the last bar it is sold. -/
theorem order_holding_final (hprice : 0 < t.close) (hheld : 0 < p.account.position)
    (hcomplete : t.shown.openingRangeComplete = true) (hfinal : t.shown.finalBar = true) :
    t.order p = some (.sell, p.account.position) := by
  unfold order Account.order
  rw [if_neg hprice.not_ge, decision_action]
  simp [hcomplete, hfinal, hheld, hheld.not_ge]

/-- Nothing is bought before the range is complete. -/
theorem complete_of_order_buy {q : ℚ} (h : t.order p = some (.buy, q)) : t.shown.openingRangeComplete = true := by
  have haction := (Account.order_eq_buy h).1
  rw [decision_action] at haction
  by_contra hcomplete
  rw [if_pos hcomplete] at haction
  cases haction

theorem next_of_order_none (h : t.order p = none) : t.next p = p := by
  unfold next
  rw [h]
  simp [Account.book, finalActionOf]

end SessionBar

/-! ## A session -/

namespace SessionPlace

/-- The trades of a session from here on, with their times. -/
def trades : List SessionBar → SessionPlace → List (DateTime × ShareOrder)
  | [], _      => []
  | t :: ts, p => ((t.order p).map fun o => (t.timestamp, o)).toList ++ trades ts (t.next p)

/-- Where the session leads from here. -/
def after : List SessionBar → SessionPlace → SessionPlace
  | [], p      => p
  | t :: ts, p => after ts (t.next p)

/-- What its steps show, with their times. -/
def views : List SessionBar → SessionPlace → List (DateTime × StepView)
  | [], _      => []
  | t :: ts, p => (t.timestamp, t.view p) :: views ts (t.next p)

variable {ts : List SessionBar} {t : SessionBar} {p : SessionPlace}

/-- Trading keeps the account sound. -/
theorem after_sound (h : p.account.Sound) : (after ts p).account.Sound := by
  induction ts generalizing p with
  | nil => exact h
  | cons t ts ih => exact ih (h.trade _ _)

/-- A bar at which nothing is done. -/
theorem trades_cons_none (ts : List SessionBar) (h : t.order p = none) :
    trades (t :: ts) p = trades ts p ∧ after (t :: ts) p = after ts p := by
  rw [trades, after, SessionBar.next_of_order_none h, h]
  exact ⟨rfl, rfl⟩

/-- **Resting** lasts to the end. -/
theorem rests (ts : List SessionBar) (hflat : p.account.position = 0) (htrip : p.roundTripCompleted = true) :
    trades ts p = [] ∧ after ts p = p := by
  induction ts with
  | nil => exact ⟨rfl, rfl⟩
  | cons t ts ih =>
      obtain ⟨htrades, hafter⟩ := trades_cons_none ts (SessionBar.order_resting (t := t) hflat htrip)
      rw [htrades, hafter]
      exact ih

/-- The bar of the exit. -/
theorem exits_cons (ts : List SessionBar) (h : t.order p = some (.sell, p.account.position)) :
    trades (t :: ts) p = [(t.timestamp, .sell, p.account.position)] ∧ (after (t :: ts) p).account.position = 0 := by
  have hflat : (t.next p).account.position = 0 := by
    unfold SessionBar.next
    rw [h]
    exact sub_self _
  have htrip : (t.next p).roundTripCompleted = true := by
    unfold SessionBar.next
    rw [h]
    simp [finalActionOf]
  obtain ⟨htrades, hafter⟩ := rests ts hflat htrip
  rw [trades, after, htrades, hafter, h]
  exact ⟨rfl, hflat⟩

/-- **Holding** ends with one SELL of the whole position, at the last bar at the latest. -/
theorem exits (hprices : ∀ u ∈ ts ++ [t], 0 < u.close) (hcomplete : t.shown.openingRangeComplete = true)
    (hfinal : t.shown.finalBar = true) (hheld : 0 < p.account.position) :
    (∃ at_, trades (ts ++ [t]) p = [(at_, .sell, p.account.position)]) ∧
      (after (ts ++ [t]) p).account.position = 0 := by
  -- by induction on the bars that may still hold; the last one sells what is left
  induction ts with
  | nil =>
      obtain ⟨htrades, hafter⟩ := exits_cons []
        (SessionBar.order_holding_final (hprices t List.mem_cons_self) hheld hcomplete hfinal)
      exact ⟨⟨_, htrades⟩, hafter⟩
  | cons u ts ih =>
      rcases SessionBar.order_holding (hprices u List.mem_cons_self) hheld with hnone | hsell
      · obtain ⟨htrades, hafter⟩ := trades_cons_none (ts ++ [t]) hnone
        rw [List.cons_append, htrades, hafter]
        exact ih fun v hv => hprices v (List.mem_cons_of_mem u hv)
      · obtain ⟨htrades, hafter⟩ := exits_cons (ts ++ [t]) hsell
        exact ⟨⟨_, htrades⟩, hafter⟩

/-- The bar of the entry. -/
theorem next_of_opens (hprice : 0 < t.close) (hflat : p.account.position = 0)
    (htrip : p.roundTripCompleted = false) (hopens : t.Opens p.account.cash) :
    ∃ q, t.order p = some (.buy, q) ∧ (t.next p).account.position = q ∧ 0 < q := by
  have horder := SessionBar.order_waiting hprice hflat htrip
  rw [if_pos hopens] at horder
  have hshare : 1 ≤ floorWholeShares (p.account.cash / t.close) := (Account.order_eq_buy horder).2.2.1
  refine ⟨_, horder, ?_, zero_lt_one.trans_le hshare⟩
  unfold SessionBar.next
  rw [horder]
  simp [Account.book, hflat]

/-- **Waiting** ends with the first affordable breakout, if one comes before the last bar: it is bought, and
    what is bought is sold. -/
theorem waits (hprices : ∀ u ∈ ts ++ [t], 0 < u.close) (hcomplete : t.shown.openingRangeComplete = true)
    (hfinal : t.shown.finalBar = true) (hflat : p.account.position = 0) (htrip : p.roundTripCompleted = false)
    (hopens : ∃ u ∈ ts, u.Opens p.account.cash) :
    (∃ t₁ t₂ q, trades (ts ++ [t]) p = [(t₁, .buy, q), (t₂, .sell, q)]) ∧
      (after (ts ++ [t]) p).account.position = 0 := by
  induction ts with
  | nil =>
      obtain ⟨u, hu, -⟩ := hopens
      cases hu
  | cons u ts ih =>
      have hprice := hprices u List.mem_cons_self
      have hlater : ∀ v ∈ ts ++ [t], 0 < v.close := fun v hv => hprices v (List.mem_cons_of_mem u hv)
      by_cases hu : u.Opens p.account.cash
      · obtain ⟨q, horder, hposition, hq⟩ := next_of_opens hprice hflat htrip hu
        obtain ⟨⟨at_, htrades⟩, hafter⟩ := exits hlater hcomplete hfinal (hposition ▸ hq)
        rw [List.cons_append, trades, after, horder, htrades, hposition]
        exact ⟨⟨_, _, q, rfl⟩, hafter⟩
      · have hnone := SessionBar.order_waiting hprice hflat htrip
        rw [if_neg hu] at hnone
        obtain ⟨htrades, hafter⟩ := trades_cons_none (ts ++ [t]) hnone
        rw [List.cons_append, htrades, hafter]
        apply ih hlater
        obtain ⟨v, hv, hvopens⟩ := hopens
        rcases List.mem_cons.mp hv with rfl | hv
        · exact absurd hvopens hu
        · exact ⟨v, hv, hvopens⟩

/-- **Waiting in vain**: bars without an affordable breakout change nothing. -/
theorem waits_in_vain (hprices : ∀ u ∈ ts, 0 < u.close) (hflat : p.account.position = 0)
    (htrip : p.roundTripCompleted = false) (hopens : ∀ u ∈ ts, ¬ u.Opens p.account.cash) (rest : List SessionBar) :
    trades (ts ++ rest) p = trades rest p ∧ after (ts ++ rest) p = after rest p := by
  -- by induction on the bars: none of them moves the machine
  induction ts with
  | nil => exact ⟨rfl, rfl⟩
  | cons u ts ih =>
      have hnone := SessionBar.order_waiting (hprices u List.mem_cons_self) hflat htrip
      rw [if_neg (hopens u List.mem_cons_self)] at hnone
      obtain ⟨htrades, hafter⟩ := trades_cons_none (ts ++ rest) hnone
      rw [List.cons_append, htrades, hafter]
      apply ih
      · exact fun v hv => hprices v (List.mem_cons_of_mem u hv)
      · exact fun v hv => hopens v (List.mem_cons_of_mem u hv)

/-- Nothing, or one BUY and then one SELL of as many shares. -/
def Intraday (trades : List (DateTime × ShareOrder)) : Prop :=
  trades = [] ∨ ∃ t₁ t₂ q, trades = [(t₁, .buy, q), (t₂, .sell, q)]

/-- **A session from a flat account** trades intraday and ends flat, unless its first affordable breakout is
    its last bar. -/
theorem trades_intraday_iff (hprices : ∀ u ∈ ts ++ [t], 0 < u.close)
    (hcomplete : t.shown.openingRangeComplete = true) (hfinal : t.shown.finalBar = true)
    (hflat : p.account.position = 0) (htrip : p.roundTripCompleted = false) :
    (Intraday (trades (ts ++ [t]) p) ∧ (after (ts ++ [t]) p).account.position = 0) ↔
      (t.Opens p.account.cash → ∃ u ∈ ts, u.Opens p.account.cash) := by
  by_cases hopens : ∃ u ∈ ts, u.Opens p.account.cash
  · obtain ⟨htrades, hafter⟩ := waits hprices hcomplete hfinal hflat htrip hopens
    exact iff_of_true ⟨.inr htrades, hafter⟩ fun _ => hopens
  · have hvain : ∀ u ∈ ts, ¬ u.Opens p.account.cash := fun u hu h => hopens ⟨u, hu, h⟩
    have hprice := hprices t (List.mem_append_right ts List.mem_cons_self)
    obtain ⟨htrades, hafter⟩ := waits_in_vain (fun u hu => hprices u (List.mem_append_left _ hu)) hflat htrip
      hvain [t]
    rw [htrades, hafter]
    by_cases hlast : t.Opens p.account.cash
    · -- the last bar buys, and nobody is left to sell
      obtain ⟨q, horder, hposition, hq⟩ := next_of_opens hprice hflat htrip hlast
      refine iff_of_false ?_ fun h => hopens (h hlast)
      rintro ⟨-, hzero⟩
      rw [after, after, hposition] at hzero
      exact hq.ne' hzero
    · have hnone := SessionBar.order_waiting hprice hflat htrip
      rw [if_neg hlast] at hnone
      obtain ⟨htrades', hafter'⟩ := trades_cons_none [] hnone
      rw [htrades', hafter']
      exact iff_of_true ⟨.inl rfl, hflat⟩ fun h => absurd h hlast

/-- The step of the last bar shows the account the session leaves. -/
theorem views_append_singleton (ts : List SessionBar) (t : SessionBar) (p : SessionPlace) :
    ∃ v, views (ts ++ [t]) p = views ts p ++ [(t.timestamp, v)] ∧ v.account = some (after (ts ++ [t]) p).account := by
  induction ts generalizing p with
  | nil => exact ⟨t.view p, rfl, rfl⟩
  | cons u ts ih =>
      obtain ⟨v, hviews, haccount⟩ := ih (u.next p)
      exact ⟨v, congrArg (_ :: ·) hviews, haccount⟩

/-- What a session shows and trades is at its bars. -/
theorem mem_views {ts : List SessionBar} {p : SessionPlace} {x : DateTime × StepView} (h : x ∈ views ts p) :
    ∃ t ∈ ts, t.timestamp = x.1 := by
  induction ts generalizing p with
  | nil => cases h
  | cons t ts ih =>
      rcases List.mem_cons.mp h with rfl | h
      · exact ⟨t, List.mem_cons_self, rfl⟩
      · obtain ⟨u, hu, hat⟩ := ih h
        exact ⟨u, List.mem_cons_of_mem t hu, hat⟩

theorem mem_trades {ts : List SessionBar} {p : SessionPlace} {x : DateTime × ShareOrder} (h : x ∈ trades ts p) :
    ∃ t ∈ ts, t.timestamp = x.1 ∧ (x.2.1 = .buy → t.shown.openingRangeComplete = true) := by
  induction ts generalizing p with
  | nil => cases h
  | cons t ts ih =>
      rw [trades] at h
      rcases List.mem_append.mp h with h | h
      · rw [Option.mem_toList, Option.map_eq_some_iff] at h
        obtain ⟨⟨side, q⟩, horder, rfl⟩ := h
        refine ⟨t, List.mem_cons_self, rfl, ?_⟩
        rintro rfl
        exact SessionBar.complete_of_order_buy horder
      · obtain ⟨u, hu, hat⟩ := ih h
        exact ⟨u, List.mem_cons_of_mem t hu, hat⟩

end SessionPlace

end TradingAI
