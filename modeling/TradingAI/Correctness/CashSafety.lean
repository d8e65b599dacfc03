import TradingAI.Correctness.Cover

/-!
# `Correctness.CashSafety` — when paper trading keeps its cash non-negative

The cash is a `Resource`: a BUY may draw, for its unbooked shares, what they cost at the price its risk
check was sized with, rounded up to what the column holds. A risk check sees the cash but not the BUYs
still open. So the cash stays non-negative in every run in which no step buys on cash that open BUYs may
still draw, and it can go negative in a run in which one does.

## Contents
- `cashResource`.
- `HonestStep`, `HonestPoll`: a broker that fills no more than was ordered and no BUY above its price.
- `SolventStep`, `SolventPoll`: the condition on a run.
- `cash_nonneg_of_solvent`, `pending_buys_overdraw`.
-/

namespace TradingAI

open Rounding Session

/-! ## Cash as a resource -/

/-- What a number of shares may cost a step sized at `sized`. -/
def buyingPower (sized : ℕ → ℚ) (executionStepId : ℕ) (shares : ℚ) : ℚ :=
  ceilTo 4 (shares * max (sized executionStepId) 0)

theorem buyingPower_mono (sized : ℕ → ℚ) (id : ℕ) : Monotone (buyingPower sized id) := fun _ _ h =>
  ceilTo_mono (mul_le_mul_of_nonneg_right h (le_max_right _ _))

/-- **Cash**, drawn on by BUYs. -/
def cashResource (sized : ℕ → ℚ) : Resource where
  side       := .buy
  claim      := buyingPower sized
  stock row  := row.cash.val
  flow       := Fill.cashFlow
  claim_zero _ := by simp [buyingPower]
  claim_mono := buyingPower_mono sized
  marked row price t := by simp
  placed row r step id price t _ := by
    rw [Portfolio.row_cash, Portfolio.markedTo_cash, immediateFill_cash r step id]
    exact le_rfl
  reported db o row r t _ := by rw [reportedPortfolio_cash]; exact le_rfl

variable {sized : ℕ → ℚ} {db : Db}

theorem cashResource_stockOf (sized : ℕ → ℚ) (db : Db) : (cashResource sized).stockOf db = db.cash := rfl

/-! ## The broker -/

/-- The broker's answer to a step's order: not more than was ordered, and no BUY above the price the step
    was sized with. -/
structure HonestStep (sized : ℕ → ℚ) (env : StepEnv) (eventId : Option ℕ) (executionStepId : ℕ) (db : Db) :
    Prop where
  plan   : ∀ p, stepPlan env db executionStepId eventId = .ok p → sized executionStepId = p.price
  filled : ∀ request r, env.placeOrder request = .ok r → r.filledQuantity ≤ request.quantity
  price  : ∀ request r a, env.placeOrder request = .ok r → request.side = .buy →
    r.averageFillPrice = some a → a ≤ sized executionStepId

/-- The same for a later report. -/
structure HonestPoll (sized : ℕ → ℚ) (o : Order) (r : BrokerOrderResult) (db : Db) : Prop where
  filled : r.filledQuantity ≤ o.quantity.val
  price  : ∀ a, o.side = .buy → r.averageFillPrice = some a → a ≤ sized o.executionStepId

/-- A broker that fills no more than was ordered and no BUY above its price. -/
def HonestBroker (sized : ℕ → ℚ) : PaperCall → Store Db BrokerBook → Prop :=
  CallMeets (HonestStep sized) (HonestPoll sized)

/-! ## The condition -/

/-- A fill of `quantity` shares at `price` keeps the cash its order claims: a SELL brings cash in, and what
    a partial BUY costs, rounded, is set free of the claim. -/
def KeepsClaim (sized : ℕ → ℚ) (executionStepId : ℕ) (side : OrderSide) (rest quantity price : ℚ) : Prop :=
  match side with
  | .sell => 0 ≤ price
  | .buy  => quantity < rest →
      buyingPower sized executionStepId (rest - quantity) + fillValue quantity price ≤
        buyingPower sized executionStepId rest

/-- **A solvent step**: it buys on no cash that open BUYs may still draw, the broker answers in kind, and
    a fill keeps what its order claims. -/
structure SolventStep (sized : ℕ → ℚ) (env : StepEnv) (eventId : Option ℕ) (executionStepId : ℕ) (db : Db) :
    Prop extends InKind env where
  free  : Uncommitted (cashResource sized) env eventId executionStepId db
  claim : ∀ request r a, env.placeOrder request = .ok r → r.averageFillPrice = some a →
    KeepsClaim sized executionStepId request.side request.quantity r.filledQuantity a

/-- **A solvent poll**: its amounts are such that a column holds them, too. -/
structure SolventPoll (sized : ℕ → ℚ) (o : Order) (r : BrokerOrderResult) (db : Db) : Prop where
  grid  : OnGrid 8 r.filledQuantity
  claim : ∀ a, r.averageFillPrice = some a → KeepsClaim sized o.executionStepId o.side
    (o.quantity.val - filledOf db.fills o.id) (r.filledQuantity - filledOf db.fills o.id) a

/-- The condition on a call. -/
def SolventCall (sized : ℕ → ℚ) : PaperCall → Store Db BrokerBook → Prop :=
  CallMeets (SolventStep sized) (SolventPoll sized)

/-! ## Fills -/

/-- A fill at no more than the sizing price that keeps its order's claim is fair. -/
theorem fillFair_cash {id orderId : ℕ} {side : OrderSide} {rest q a : ℚ} (hq : 0 < q) (hrest : q ≤ rest)
    (hprice : side = .buy → a ≤ sized id) (hkeeps : KeepsClaim sized id side rest q a) :
    FillFair (cashResource sized) id rest ⟨orderId, side, q, fillValue q a⟩ := by
  cases side with
  | sell =>
      show 0 ≤ fillValue q a
      exact quantize4_nonneg (mul_nonneg hq.le hkeeps)
  | buy =>
      show buyingPower sized id (rest - q) - -fillValue q a ≤ buyingPower sized id rest
      rcases hrest.lt_or_eq with hlt | rfl
      · have : buyingPower sized id (rest - q) + fillValue q a ≤ buyingPower sized id rest := hkeeps hlt
        linarith
      · -- a fill of all that is left costs no more than what was claimed for it
        have hcost : fillValue q a ≤ buyingPower sized id q :=
          calc fillValue q a ≤ ceilTo 4 (q * a) := halfEven.quantize_le_ceilTo 4 _
            _ ≤ buyingPower sized id q :=
              ceilTo_mono (mul_le_mul_of_nonneg_left ((hprice rfl).trans (le_max_left _ _)) hq.le)
        have hzero : buyingPower sized id (q - q) = 0 := by simp [buyingPower]
        linarith

/-- A BUY is sized within the cash its step was shown. -/
theorem buyingPower_le_cash {env : StepEnv} {eventId : Option ℕ} {id : ℕ} {p : Submission} {q : ℚ}
    (hcash : 0 ≤ db.cash) (hplan : stepPlan env db id eventId = .ok p)
    (hbuy : p.riskResult.finalAction = .buy) (hq : p.riskResult.finalQuantity = some q)
    (hsized : sized id = p.price) : buyingPower sized id q ≤ db.cash := by
  obtain ⟨st, hst, hfits⟩ := stepPlan_sized hplan
  have hdb : db.cash = st.portfolio.cash.val := by
    rw [Db.cash, (Db.stepState_eq_some hst).2.1]; rfl
  rw [hdb] at hcash ⊢
  have hcost : q * max p.price 0 ≤ st.portfolio.cash.val := by
    rcases le_total p.price 0 with hneg | hpos
    · rw [max_eq_right hneg, mul_zero]; exact hcash
    · rw [max_eq_left hpos]; exact hfits.buy hbuy q hq
  rw [buyingPower, hsized]
  exact ceilTo_le_of_onGrid st.portfolio.cash.onGrid hcost

/-- An immediate fill at no more than the sizing price that keeps its order's claim is fair. -/
theorem immediateEntry_fair {id orderId : ℕ} {side : OrderSide} {rest : ℚ} {r : BrokerOrderResult}
    (hside : r.side = side) (hgrid : OnGrid 8 r.filledQuantity) (hfilled : r.filledQuantity ≤ rest)
    (hprice : ∀ a, side = .buy → r.averageFillPrice = some a → a ≤ sized id)
    (hkeeps : ∀ a, r.averageFillPrice = some a → KeepsClaim sized id side rest r.filledQuantity a) :
    ∀ f ∈ immediateEntry r orderId, FillFair (cashResource sized) id rest f := by
  intro f hf
  unfold immediateEntry at hf
  cases ha : r.averageFillPrice with
  | none => simp [ha] at hf
  | some a =>
      by_cases hpos : 0 < r.filledQuantity
      · simp only [ha, if_pos hpos, Option.mem_def, Option.some.injEq, numeric_fillValue,
          numeric_val_of_onGrid hgrid, hside] at hf
        subst hf
        exact fillFair_cash hpos hfilled (fun hbuy => hprice a hbuy ha) (hkeeps a ha)
      · simp [ha, hpos] at hf

/-- The same for the fill of a poll. -/
theorem deltaEntry_fair {o : Order} {r : BrokerOrderResult} (hhonest : HonestPoll sized o r db)
    (hsolvent : SolventPoll sized o r db) : ∀ f ∈ deltaEntry db o r,
      FillFair (cashResource sized) o.executionStepId (o.quantity.val - filledOf db.fills o.id) f := by
  intro f hf
  obtain ⟨⟨q, a⟩, hu, rfl⟩ := Option.map_eq_some_iff.mp hf
  obtain ⟨rfl, hpos, ha⟩ := unbookedFill_eq_some hu
  simp only [numeric_fillValue, numeric_val_of_onGrid (hsolvent.grid.sub (filledOf_onGrid db o.id))]
  exact fillFair_cash hpos (sub_le_sub_right hhonest.filled _) (fun hbuy => hhonest.price a hbuy ha)
    (hsolvent.claim a ha)

/-! ## Runs -/

/-- The cash covers the open BUYs in every state of a solvent run with an honest broker. -/
theorem cashCover_call {c : PaperCall} {st : Store Db BrokerBook}
    (hst : st.Keeps (Keyed (cashResource sized).Covers)) (hhonest : HonestBroker sized c st)
    (hsolvent : SolventCall sized c st) : (c.exec st).Keeps (Keyed (cashResource sized).Covers) := by
  refine call_keeps hst (fun _ step f now h => h.recordFailure step f now)
    (fun db env eventId t slot _ h hok => ?_) (fun _ _ h hcore => h.of_core hcore)
    (fun db db' o status r now hkeys h ho hopen hok hrep => ?_) (hhonest.and hsolvent)
  · obtain ⟨hstep, hsol⟩ := hok
    have hcreated := h.created t slot env.createdAt
    have hfunded := funded_of_uncommitted hcreated hsol.free fun p hplan hreq hside q hq =>
      buyingPower_le_cash hcreated.available_nonneg hplan ((finalAction_of_side hreq).1 hside) hq
        (hstep.plan p hplan)
    refine ⟨hcreated, coverStep hcreated ⟨hfunded, ⟨hsol.toInKind, hstep.filled, ?_⟩⟩⟩
    · intro request r hr orderId
      exact immediateEntry_fair (hsol.echo request r hr).1 (hsol.grid request r hr)
        (hstep.filled request r hr) (fun a hbuy ha => hstep.price request r a hr hbuy ha)
        fun a ha => hsol.claim request r a hr ha
  · obtain ⟨hpoll, hsol⟩ := hok
    exact h.reported hkeys hrep ho hopen ⟨hpoll.filled, hsol.grid, deltaEntry_fair hpoll hsol⟩

/-- **Cash stays non-negative** in every state of a solvent run with an honest broker, whatever the
    strategy, the order of the calls and their outcomes. -/
theorem cash_nonneg_of_solvent (sized : ℕ → ℚ) {calls : List PaperCall} {db : Db} (hflat : OpensFlat db)
    (hhonest : Runs.AllMeet PaperCall.exec (HonestBroker sized) calls (Store.opened db {}))
    (hsolvent : Runs.AllMeet PaperCall.exec (SolventCall sized) calls (Store.opened db {})) :
    (runCalls calls db).Keeps fun db => 0 ≤ db.cash := by
  have hcash : 0 ≤ (cashResource sized).stockOf db := by
    obtain ⟨e, row, -, hrow, hcash, hpos, -⟩ := hflat.portfolio
    rw [cashResource_stockOf, Db.cash, hrow, Option.elim_some, hcash]
    exact hpos.le
  have hmeet : Runs.AllMeet PaperCall.exec (fun c st => HonestBroker sized c st ∧ SolventCall sized c st)
      calls (Store.opened db {}) := hhonest.combine (fun _ _ h₁ h₂ => ⟨h₁, h₂⟩) hsolvent
  have hrun : (runCalls calls db).Keeps (Keyed (cashResource sized).Covers) :=
    Runs.run_keeps (I := fun st => st.Keeps (Keyed (cashResource sized).Covers))
      (fun _ _ hst hc => cashCover_call hst hc.1 hc.2) hmeet
      (Store.Keeps.opened ⟨hflat.wellKeyed, hflat.covers hcash⟩)
  exact hrun.mono fun db h => h.2.available_nonneg

/-! ## A run that overdraws, and one that does not -/

/-- A sync that finds ten shares of every open BUY filled at 100. -/
def boughtSync : PaperCall := .sync (fillingSync .buy 10 100)

theorem acceptedStep_honest (slot : DateTime) (st : Store Db BrokerBook) :
    HonestBroker (fun _ => 100) (acceptedStep slot) st := fun _ =>
  { plan   := fun p hplan => (smallEnv_price hplan).symm
    filled := fun request r hr => by
      obtain ⟨hpos, -, -, hfilled, -⟩ := acceptOrder_eq_ok hr
      rw [hfilled]; exact hpos.1.le
    price  := fun request r a hr _ ha => by
      obtain ⟨-, -, -, -, hnone⟩ := acceptOrder_eq_ok hr
      rw [hnone] at ha; cases ha }

theorem boughtSync_honest {st : Store Db BrokerBook}
    (hten : ∀ o ∈ st.current.listOpenPaperOrders, o.quantity.val = 10) :
    HonestBroker (fun _ => 100) boughtSync st := by
  refine PollsMeet.of_forall fun o ho r db hr => ?_
  cases hr
  exact ⟨(hten o ho).ge, fun a _ ha => by cases ha; exact le_rfl⟩

/-- **Two BUYs on the same cash**: the second step sizes its BUY against the full cash while the first is
    accepted and unfilled; once both fill at their sizing price, the cash is negative. -/
theorem pending_buys_overdraw :
    ¬ ∀ (sized : ℕ → ℚ) (calls : List PaperCall) (db : Db), OpensFlat db →
      Runs.AllMeet PaperCall.exec (HonestBroker sized) calls (Store.opened db {}) →
        (runCalls calls db).Keeps fun db => 0 ≤ db.cash := by
  intro h
  have hkeeps := h (fun _ => 100) [acceptedStep 0, acceptedStep 1, boughtSync] _
    (smallDb_flat .buyAndHold .daily)
    ⟨acceptedStep_honest 0 _, acceptedStep_honest 1 _, boughtSync_honest (by decide +kernel), trivial⟩
  have hnegative : ¬ 0 ≤ (runCalls [acceptedStep 0, acceptedStep 1, boughtSync]
      (smallDb .buyAndHold .daily)).current.cash := by decide +kernel
  exact hnegative hkeeps.1

theorem acceptedStep_solvent {slot : DateTime} {st : Store Db BrokerBook}
    (hfree : (cashResource fun _ => 100).reservedOf st.current ≤ 0) :
    SolventCall (fun _ => 100) (acceptedStep slot) st := fun _ =>
  { free  := fun hpos => absurd hpos hfree.not_gt
    toInKind := acceptOrder_inKind 100
    claim := fun request r a hr ha => by
      obtain ⟨-, -, -, -, hnone⟩ := acceptOrder_eq_ok hr
      rw [hnone] at ha; cases ha }

theorem boughtSync_solvent {st : Store Db BrokerBook}
    (hten : ∀ o ∈ st.current.listOpenPaperOrders, o.side = .buy ∧ o.quantity.val = 10) :
    SolventCall (fun _ => 100) boughtSync st := by
  refine PollsMeet.of_forall fun o ho r db hr => ?_
  obtain ⟨hside, hquantity⟩ := hten o ho
  cases hr
  refine ⟨⟨10 * 10 ^ 8, by norm_num⟩, fun a _ => ?_⟩
  rw [hside, hquantity]
  exact fun hpartial => absurd hpartial (lt_irrefl _)

/-- The BUY that fills before the next step runs keeps the cash non-negative. -/
theorem cash_nonneg_of_settled_buy :
    (runCalls [acceptedStep 0, boughtSync, acceptedStep 1] (smallDb .buyAndHold .daily)).Keeps
      fun db => 0 ≤ db.cash :=
  cash_nonneg_of_solvent (fun _ => 100)
    (smallDb_flat .buyAndHold .daily)
    ⟨acceptedStep_honest 0 _, boughtSync_honest (by decide +kernel), acceptedStep_honest 1 _, trivial⟩
    ⟨acceptedStep_solvent (by decide +kernel), boughtSync_solvent (by decide +kernel),
      acceptedStep_solvent (by decide +kernel), trivial⟩

end TradingAI
