import TradingAI.Execution.Calls
import TradingAI.Lib.Reserve

/-!
# `Correctness.Cover` — open orders against what the portfolio holds

A BUY draws on the cash, a SELL on the position. Both are a `Resource`: a column of the portfolio, the
side whose orders draw on it, and what a number of shares of a step's order may draw. An order that is still open
may draw for the shares not booked yet. This module runs the reserve of `Lib.Reserve` on the open orders:
the portfolio covers them in every state of a run, provided each new order was sized against what is not
reserved, and each report stays within its order.

## Contents
- `Resource`, `Resource.hold`, `Resource.Covers`.
- `Funded`, `PlacementFair`, `PollFair`: the conditions on a call.
- `Covers.executed`, `Covers.reported`: the two transactions that move stock.
- `coverStep`: a fair step keeps the cover.
- `Uncommitted`, `funded_of_uncommitted`: when a step is funded.
-/

namespace TradingAI

open Rounding Reserve PaperExecutionProvider Outcome

/-! ## Resources -/

/-- **A resource orders draw on**: a stock in the portfolio, the side that draws, and what a number of
    shares of the order of a step may draw. Booking a fill lowers the stock by no more than the fill's
    flow. -/
structure Resource where
  side        : OrderSide
  claim       : ℕ → ℚ → ℚ
  stock       : PortfolioRow → ℚ
  flow        : Fill → ℚ
  claim_zero  : ∀ executionStepId, claim executionStepId 0 = 0
  claim_mono  : ∀ executionStepId, Monotone (claim executionStepId)
  marked      : ∀ (row : PortfolioRow) price t, stock (row.load.markedTo price t).row = stock row
  placed      : ∀ (row : PortfolioRow) (r : BrokerOrderResult) step id price t,
    OnGrid 8 r.filledQuantity → stock row + (immediateEntry r id).elim 0 flow ≤
      stock ((immediateFill r row.load step t t).1.markedTo price t).row
  reported    : ∀ (db : Db) o (row : PortfolioRow) (r : BrokerOrderResult) t, OnGrid 8 r.filledQuantity →
    stock row + (deltaEntry db o r).elim 0 flow ≤ stock (reportedPortfolio db o row r t)

namespace Resource

variable (R : Resource)

/-- The stock of the experiment. -/
def stockOf (db : Db) : ℚ := db.portfolio.elim 0 R.stock

/-- What the unbooked shares of an order may draw. -/
def rest (db : Db) (o : Order) : ℚ := R.claim o.executionStepId (o.quantity.val - filledOf db.fills o.id)

/-- What an order may still draw: what its unbooked shares may, while it is open on the drawing side. -/
def hold (db : Db) (o : Order) : ℚ :=
  if o.side = R.side ∧ Db.isOpenPaperOrder o = true then R.rest db o else 0

/-- What the open orders may still draw in all. -/
def reservedOf (db : Db) : ℚ := reserved (R.hold db) db.orders

/-- The portfolio covers its open orders. -/
def Covers (db : Db) : Prop := Covered (R.stockOf db) (R.hold db) db.orders

theorem claim_nonneg (id : ℕ) {x : ℚ} (hx : 0 ≤ x) : 0 ≤ R.claim id x := by
  rw [← R.claim_zero id]; exact R.claim_mono id hx

end Resource

/-! ## Conditions on calls -/

/-- **Funded**: a trade on the drawing side is sized against what the open orders leave. -/
def Funded (R : Resource) (env : StepEnv) (eventId : Option ℕ) (executionStepId : ℕ) (db : Db) : Prop :=
  ∀ p, stepPlan env db executionStepId eventId = .ok p → requiresBrokerSubmission p.riskResult = true →
    submittedSide p.riskResult.finalAction = R.side → ∀ q, p.riskResult.finalQuantity = some q →
    R.reservedOf db + R.claim executionStepId q ≤ R.stockOf db

/-- A fill of an order with `rest` shares left leaves enough for the others, or replenishes the stock. -/
def FillFair (R : Resource) (executionStepId : ℕ) (rest : ℚ) (f : Fill) : Prop :=
  if f.side = R.side then
    R.claim executionStepId (rest - f.quantity) - R.flow f ≤ R.claim executionStepId rest
  else 0 ≤ R.flow f

/-- **In kind**: the broker answers in the order's own side and quantity, with amounts a column holds. -/
structure InKind (env : StepEnv) : Prop where
  echo : ∀ request r, env.placeOrder request = .ok r → r.side = request.side ∧ r.quantity = request.quantity
  grid : ∀ request r, env.placeOrder request = .ok r → OnGrid 8 r.filledQuantity

theorem acceptOrder_inKind (price : ℚ) : InKind (smallEnv price acceptOrder) where
  echo request r hr := by
    obtain ⟨-, hside, hquantity, -, -⟩ := acceptOrder_eq_ok hr
    exact ⟨hside, hquantity⟩
  grid request r hr := by
    obtain ⟨-, -, -, hfilled, -⟩ := acceptOrder_eq_ok hr
    rw [hfilled]; exact OnGrid.zero

theorem fillOrder_inKind (price at_ : ℚ) : InKind (smallEnv price (fillOrder at_)) where
  echo request r hr := by
    obtain ⟨-, hside, hquantity, -, -⟩ := fillOrder_eq_ok hr
    exact ⟨hside, hquantity⟩
  grid request r hr := by
    obtain ⟨hgrid, -, -, hfilled, -⟩ := fillOrder_eq_ok hr
    rw [hfilled]; exact hgrid.2

/-- **Placement**: the broker answers in kind, fills no more than the order, and fills it fairly. -/
structure PlacementFair (R : Resource) (env : StepEnv) (executionStepId : ℕ) : Prop extends InKind env where
  fill  : ∀ request r, env.placeOrder request = .ok r → r.filledQuantity ≤ request.quantity
  value : ∀ request r, env.placeOrder request = .ok r → ∀ id, ∀ f ∈ immediateEntry r id,
    FillFair R executionStepId request.quantity f

/-- **Poll**: the same for a later report on an open order. -/
structure PollFair (R : Resource) (o : Order) (r : BrokerOrderResult) (db : Db) : Prop where
  fill  : r.filledQuantity ≤ o.quantity.val
  grid  : OnGrid 8 r.filledQuantity
  value : ∀ f ∈ deltaEntry db o r, FillFair R o.executionStepId (o.quantity.val - filledOf db.fills o.id) f

/-! ## Holds -/

variable {R : Resource} {db db' : Db}

/-- An order whose fills are as before may draw as much as before. -/
theorem Resource.hold_congr {o : Order} (hfills : filledOf db'.fills o.id = filledOf db.fills o.id) :
    R.hold db' o = R.hold db o := by
  simp only [Resource.hold, Resource.rest, hfills]

/-- Nothing the resource depends on changed. -/
theorem Resource.Covers.frame (h : R.Covers db) (hstock : R.stockOf db' = R.stockOf db)
    (horders : db'.orders = db.orders) (hfills : db'.fills = db.fills) : R.Covers db' := by
  unfold Resource.Covers
  rw [hstock, horders]
  exact Covered.congr h fun o _ => Resource.hold_congr (by rw [hfills])

theorem Resource.Covers.of_core (h : R.Covers db) (hcore : db'.core = db.core) : R.Covers db' := by
  have hport : db'.portfolio = db.portfolio := congrArg Core.portfolio hcore
  exact h.frame (by simp only [Resource.stockOf, hport]) (congrArg Core.orders hcore)
    (congrArg (fun c : Core => c.trades.map Trade.fill) hcore)

variable {id : ℕ} {price : ℚ}

theorem Prepared.fills (hp : Prepared id price db db') : db'.fills = db.fills := by
  obtain ⟨row, -, -, hcore⟩ := hp.core
  exact congrArg (fun c : Core => c.trades.map Trade.fill) hcore

theorem Prepared.orders (hp : Prepared id price db db') : db'.orders = db.orders := by
  obtain ⟨row, -, -, hcore⟩ := hp.core
  exact congrArg Core.orders hcore

theorem Prepared.stockOf (hp : Prepared id price db db') : R.stockOf db' = R.stockOf db := by
  obtain ⟨row, -, -, hcore⟩ := hp.core
  simp only [Resource.stockOf, show db'.portfolio = db.portfolio from congrArg Core.portfolio hcore]

theorem Concluded.fills (hc : Concluded id price db db') : db'.fills = db.fills := by
  obtain ⟨row, st, timestamp, now, -, -, -, hcore⟩ := hc.core
  exact congrArg (fun c : Core => c.trades.map Trade.fill) hcore

/-- Marking the portfolio moves no stock. -/
theorem Concluded.stockOf (hc : Concluded id price db db') : R.stockOf db' = R.stockOf db := by
  obtain ⟨row, st, timestamp, now, hst, -, -, hcore⟩ := hc.core
  have hport : db'.portfolio = some (st.portfolio.load.markedTo price timestamp).row :=
    congrArg Core.portfolio hcore
  simp only [Resource.stockOf, hport, (Db.stepState_eq_some hst).2.1, Option.elim_some, R.marked]

/-- Preparing a submission writes rows no stock depends on. -/
theorem Resource.Covers.prepared (h : R.Covers db) (hp : Prepared id price db db') : R.Covers db' :=
  h.frame hp.stockOf hp.orders hp.fills

/-- Concluding a step trades nothing. -/
theorem Resource.Covers.concluded (h : R.Covers db) (hc : Concluded id price db db') : R.Covers db' := by
  obtain ⟨row, st, timestamp, now, -, -, -, hcore⟩ := hc.core
  exact h.frame hc.stockOf (congrArg Core.orders hcore) hc.fills

/-- The entry of a report is for its order, in the reported amount. -/
theorem immediateEntry_spec {r : BrokerOrderResult} {id : ℕ} {f : Fill} (hf : f ∈ immediateEntry r id)
    (hgrid : OnGrid 8 r.filledQuantity) :
    f.orderId = id ∧ f.side = r.side ∧ f.quantity = r.filledQuantity ∧ 0 < f.quantity := by
  unfold immediateEntry at hf
  cases hp : r.averageFillPrice with
  | none => simp [hp] at hf
  | some price =>
      by_cases hq : 0 < r.filledQuantity
      · simp only [hp, if_pos hq, Option.mem_def, Option.some.injEq] at hf
        subst hf
        refine ⟨rfl, rfl, numeric_val_of_onGrid hgrid, ?_⟩
        show 0 < (numeric 8 r.filledQuantity).val
        rwa [numeric_val_of_onGrid hgrid]
      · simp [hp, hq] at hf

/-- Fair fills on the drawing side draw what they give up of the claim, at most. -/
theorem draws {entry : Option Fill} {id : ℕ} {rest : ℚ} (hfair : ∀ f ∈ entry, FillFair R id rest f)
    (hside : ∀ f ∈ entry, f.side = R.side) :
    R.claim id (rest - entry.elim 0 Fill.quantity) - entry.elim 0 R.flow ≤ R.claim id rest := by
  cases entry with
  | none => simp
  | some f =>
      have hf := hfair f rfl
      rwa [FillFair, if_pos (hside f rfl)] at hf

/-- Fair fills on the other side do not lower the stock. -/
theorem replenishes {entry : Option Fill} {id : ℕ} {rest : ℚ} (hfair : ∀ f ∈ entry, FillFair R id rest f)
    (hside : ∀ f ∈ entry, f.side ≠ R.side) : 0 ≤ entry.elim 0 R.flow := by
  cases entry with
  | none => exact le_rfl
  | some f =>
      have hf := hfair f rfl
      rwa [FillFair, if_neg (hside f rfl)] at hf

variable {env : StepEnv} {s : Submission} {r : BrokerOrderResult} {q : ℚ}

/-- The order a submission adds. -/
def placedOrder (env : StepEnv) (id : ℕ) (s : Submission) (r : BrokerOrderResult) (orderId : ℕ) : Order :=
  { orderOf r id s.riskCheckId env.executedAt env.executedAt with id := orderId }

/-- What the new order's unbooked shares may draw. -/
theorem Executed.rest (hkeys : db.WellKeyed) (he : Executed env id s r db db')
    (hgrid : OnGrid 8 r.filledQuantity) (hq : OnGrid 8 q) (hquantity : r.quantity = q) :
    R.rest db' (placedOrder env id s r db.nextId) =
      R.claim id (q - (immediateEntry r db.nextId).elim 0 Fill.quantity) := by
  have hbooked : filledOf db'.fills db.nextId = (immediateEntry r db.nextId).elim 0 Fill.quantity := by
    rw [he.fills, filledOf_entry fun f hf => (immediateEntry_spec hf hgrid).1,
      filledOf_eq_zero fun f hf => (hkeys.fills f hf).ne, zero_add]
  rw [Resource.rest, show (placedOrder env id s r db.nextId).id = db.nextId from rfl, hbooked,
    show (placedOrder env id s r db.nextId).quantity = numeric 8 r.quantity from rfl, hquantity,
    numeric_val_of_onGrid hq]
  rfl

/-- **Placing a funded order keeps the cover**: the new order holds what its immediate fill left of it. -/
theorem Resource.Covers.executed (h : R.Covers db) (hkeys : db.WellKeyed)
    (he : Executed env id s r db db') (hq : OnGrid 8 q) (hquantity : r.quantity = q)
    (hfill : r.filledQuantity ≤ r.quantity) (hpos : 0 < q) (hgrid : OnGrid 8 r.filledQuantity)
    (hvalue : ∀ f ∈ immediateEntry r db.nextId, FillFair R id q f)
    (hfunded : r.side = R.side → R.reservedOf db + R.claim id q ≤ R.stockOf db) :
    R.Covers db' := by
  have hspec := fun f (hf : f ∈ immediateEntry r db.nextId) => immediateEntry_spec hf hgrid
  -- the orders that were there may draw as much as before
  have hold : ∀ o ∈ db.orders, R.hold db' o = R.hold db o := fun o ho => by
    refine Resource.hold_congr ?_
    rw [he.fills]
    refine filledOf_append fun f hf => ?_
    rw [(hspec f (Option.mem_toList.mp hf)).1]
    exact (hkeys.orders o ho).1.ne'
  have hreserved : reserved (R.hold db') db.orders = R.reservedOf db := reserved_congr hold
  -- the stock falls by the flow of the immediate fill at most
  have hstock : R.stockOf db + (immediateEntry r db.nextId).elim 0 R.flow ≤ R.stockOf db' := by
    obtain ⟨row, hrow, hrow'⟩ := he.portfolio
    simp only [Resource.stockOf, hrow, hrow', Option.elim_some]
    exact R.placed row r id db.nextId s.price env.executedAt hgrid
  have hbooked_le : (immediateEntry r db.nextId).elim 0 Fill.quantity ≤ q := by
    cases hentry : immediateEntry r db.nextId with
    | none => exact hpos.le
    | some f => rw [Option.elim_some, (hspec f hentry).2.2.1, ← hquantity]; exact hfill
  -- the new order holds what is left of it
  set new : Order := placedOrder env id s r db.nextId with hnew
  have hrest : R.rest db' new = R.claim id (q - (immediateEntry r db.nextId).elim 0 Fill.quantity) :=
    he.rest hkeys hgrid hq hquantity
  have hrest_nonneg : 0 ≤ R.rest db' new := by
    rw [hrest]; exact R.claim_nonneg id (sub_nonneg.mpr hbooked_le)
  have hhold : 0 ≤ R.hold db' new ∧ R.hold db' new ≤ R.rest db' new := by
    unfold Resource.hold; split
    · exact ⟨hrest_nonneg, le_rfl⟩
    · exact ⟨le_rfl, hrest_nonneg⟩
  unfold Resource.Covers
  rw [show db'.orders = db.orders ++ [new] from he.orders]
  refine Covered.open (Covered.congr h hold) hhold.1 ?_
  rw [hreserved]
  by_cases hside : r.side = R.side
  · have hdraws := draws hvalue fun f hf => (hspec f hf).2.1.trans hside
    have := hfunded hside
    linarith [hhold.2]
  · have hzero : R.hold db' new = 0 := if_neg fun hc => hside hc.1
    have hflow := replenishes hvalue fun f hf hs => hside ((hspec f hf).2.1.symm.trans hs)
    have := h.fits
    unfold Resource.reservedOf
    linarith

/-! ## Polls -/

/-- The entry of a poll is for its order, and brings the booked quantity up to the report. -/
theorem deltaEntry_spec {o : Order} {f : Fill} (hf : f ∈ deltaEntry db o r)
    (hgrid : OnGrid 8 r.filledQuantity) :
    f.orderId = o.id ∧ f.side = o.side ∧ f.quantity = r.filledQuantity - filledOf db.fills o.id ∧
      0 < f.quantity := by
  obtain ⟨⟨q, price⟩, hu, rfl⟩ := Option.map_eq_some_iff.mp hf
  obtain ⟨rfl, hpos, -⟩ := unbookedFill_eq_some hu
  have hq : (numeric 8 (r.filledQuantity - filledOf db.fills o.id)).val = _ :=
    numeric_val_of_onGrid (hgrid.sub (filledOf_onGrid db o.id))
  exact ⟨rfl, rfl, hq, by show 0 < (numeric 8 _).val; rwa [hq]⟩

theorem eq_of_id_eq {orders : List Order} (h : (orders.map Order.id).Nodup) {x y : Order}
    (hx : x ∈ orders) (hy : y ∈ orders) (hid : x.id = y.id) : x = y :=
  List.inj_on_of_nodup_map h hx hy hid

variable {o : Order} {status : OrderStatus} {now : DateTime}

/-- What the unbooked shares of the polled order may draw after the poll. -/
theorem Reported.rest (hr : Reported o status r now db db') (hgrid : OnGrid 8 r.filledQuantity) :
    R.rest db' (PaperBrokerSyncService.syncedOrder r status o) = R.claim o.executionStepId
      (o.quantity.val - filledOf db.fills o.id - (deltaEntry db o r).elim 0 Fill.quantity) := by
  have hbooked : filledOf db'.fills o.id =
      filledOf db.fills o.id + (deltaEntry db o r).elim 0 Fill.quantity := by
    rw [hr.fills, filledOf_entry fun f hf => (deltaEntry_spec hf hgrid).1]
  rw [Resource.rest, show (PaperBrokerSyncService.syncedOrder r status o).id = o.id from rfl, hbooked,
    ← sub_sub]
  rfl

/-- After a poll the polled order may draw for what the report leaves, if it is still open. -/
theorem hold_synced (hr : Reported o status r now db db') (hopen : Db.isOpenPaperOrder o = true)
    (hfair : PollFair R o r db) (hnonneg : 0 ≤ R.hold db o) :
    0 ≤ R.hold db' (PaperBrokerSyncService.syncedOrder r status o) ∧
      R.hold db' (PaperBrokerSyncService.syncedOrder r status o) ≤ R.hold db o ∧
      R.hold db' (PaperBrokerSyncService.syncedOrder r status o) + -((deltaEntry db o r).elim 0 R.flow) ≤
        R.hold db o := by
  have hspec := fun f (hf : f ∈ deltaEntry db o r) => deltaEntry_spec hf hfair.grid
  have hrest := hr.rest (R := R) hfair.grid
  by_cases hside : o.side = R.side
  · have hhold : R.hold db o = R.rest db o := if_pos ⟨hside, hopen⟩
    rw [hhold] at hnonneg ⊢
    have hdraws := draws hfair.value fun f hf => (hspec f hf).2.1.trans hside
    rw [← hrest] at hdraws
    -- the report books shares that were left, and no more than those
    have hfewer : R.rest db' (PaperBrokerSyncService.syncedOrder r status o) ≤ R.rest db o := by
      rw [hrest]
      refine R.claim_mono _ (sub_le_self _ ?_)
      cases hentry : deltaEntry db o r with
      | none => exact le_rfl
      | some f => exact (hspec f hentry).2.2.2.le
    have hleft : 0 ≤ R.rest db' (PaperBrokerSyncService.syncedOrder r status o) := by
      rw [hrest]
      cases hentry : deltaEntry db o r with
      | none => simpa [Resource.rest] using hnonneg
      | some f =>
          rw [Option.elim_some, (hspec f hentry).2.2.1]
          exact R.claim_nonneg _ (by have := hfair.fill; linarith)
    change _ ≤ R.rest db o at hdraws
    unfold Resource.hold
    split
    · exact ⟨hleft, hfewer, by linarith⟩
    · exact ⟨le_rfl, hnonneg, by linarith⟩
  · have hzero : R.hold db o = 0 := if_neg fun hc => hside hc.1
    have hzero' : R.hold db' (PaperBrokerSyncService.syncedOrder r status o) = 0 := if_neg fun hc => hside hc.1
    have hflow := replenishes hfair.value fun f hf hs => hside ((hspec f hf).2.1.symm.trans hs)
    rw [hzero, hzero']
    exact ⟨le_rfl, le_rfl, by linarith⟩

/-- **Booking a fair report keeps the cover.** -/
theorem Resource.Covers.reported (h : R.Covers db) (hkeys : db.WellKeyed)
    (hr : Reported o status r now db db') (ho : o ∈ db.orders) (hopen : Db.isOpenPaperOrder o = true)
    (hfair : PollFair R o r db) : R.Covers db' := by
  have hspec := fun f (hf : f ∈ deltaEntry db o r) => deltaEntry_spec hf hfair.grid
  obtain ⟨hsynced_nonneg, hsynced_le, hspent⟩ := hold_synced hr hopen hfair (h.nonneg o ho)
  -- the other orders may draw as much as before
  have hothers : ∀ x ∈ db.orders, x.id ≠ o.id → R.hold db' x = R.hold db x := fun x _ hne => by
    refine Resource.hold_congr ?_
    rw [hr.fills]
    refine filledOf_append fun f hf => ?_
    rw [(hspec f (Option.mem_toList.mp hf)).1]
    exact hne.symm
  have hstock : R.stockOf db + (deltaEntry db o r).elim 0 R.flow ≤ R.stockOf db' := by
    obtain ⟨row, hrow, hrow'⟩ := hr.portfolio
    simp only [Resource.stockOf, hrow, hrow', Option.elim_some]
    exact R.reported db o row r now hfair.grid
  unfold Resource.Covers
  rw [hr.orders]
  refine Covered.draw h (fun x hx => ?_) (fun x hx => ?_) ho ?_ (by rw [sub_neg_eq_add]; exact hstock)
  · by_cases hid : x.id = o.id
    · rw [if_pos hid, eq_of_id_eq hkeys.distinct hx ho hid]; exact hsynced_nonneg
    · rw [if_neg hid, hothers x hx hid]; exact h.nonneg x hx
  · by_cases hid : x.id = o.id
    · rw [if_pos hid, eq_of_id_eq hkeys.distinct hx ho hid]; exact hsynced_le
    · rw [if_neg hid, hothers x hx hid]
  · rw [if_pos rfl]; exact hspent

/-! ## Runs -/

/-- **A fair step**: its plan is funded, and the broker's answer to it is fair. -/
def StepFair (R : Resource) (env : StepEnv) (eventId : Option ℕ) (executionStepId : ℕ) (db : Db) : Prop :=
  Funded R env eventId executionStepId db ∧ PlacementFair R env executionStepId

/-- Creating a step touches nothing the cover depends on. -/
theorem Resource.Covers.created (h : R.Covers db) (t : TriggerType) (slot at_ : DateTime) :
    R.Covers (db.addNextStep t slot at_) :=
  h.frame rfl rfl rfl

/-- Recording a failure touches nothing the cover depends on. -/
theorem Resource.Covers.recordFailure (h : R.Covers db) (step : Option ℕ) (f : FailureRecord)
    (now : DateTime) : R.Covers (db.recordFailure step f now) := by
  obtain ⟨⟨hport, horders, htrades, -⟩, -⟩ := db.recordFailure_frame step f now
  exact h.frame (by simp only [Resource.stockOf, hport]) horders (by simp only [Db.fills, htrades])

variable {eventId : Option ℕ}

/-- Nothing is reserved or freed between the plan and the submission. -/
theorem Prepared.reservedOf (hp : Prepared id price db db') : R.reservedOf db' = R.reservedOf db := by
  unfold Resource.reservedOf
  rw [hp.orders]
  exact reserved_congr fun o _ => Resource.hold_congr (by rw [hp.fills])

/-- **What is placed is what was planned**: the broker answered the request of the plan, in kind. -/
structure PlacedAs (env : StepEnv) (p : Submission) (r : BrokerOrderResult) (q : ℚ) : Prop where
  request  : ∃ request, env.placeOrder request = .ok r ∧ request.quantity = q
  planned  : p.riskResult.finalQuantity = some q
  pos      : 0 < q
  grid     : OnGrid 8 q
  quantity : r.quantity = q
  side     : r.side = submittedSide p.riskResult.finalAction

theorem placedAs_of_plan {p : Submission} (hkind : InKind env) (hplan : stepPlan env db id eventId = .ok p)
    (hreq : requiresBrokerSubmission p.riskResult = true) (hplace : placeOutcome env db id p = .ok r) :
    ∃ q, PlacedAs env p r q := by
  obtain ⟨-, -, q, hq, hpos⟩ := requiresBrokerSubmission_iff.mp hreq
  obtain ⟨st, -, hsized⟩ := stepPlan_sized hplan
  obtain ⟨_, -, hplace⟩ := ok_of_bind hplace
  obtain ⟨_, -, hplace⟩ := ok_of_bind hplace
  have hrequest : (requestOf db id p).quantity = q := by
    show p.riskResult.finalQuantity.getD 0 = q
    rw [hq]; rfl
  obtain ⟨hside, hquantity⟩ := hkind.echo _ r hplace
  exact ⟨q, ⟨_, hplace, hrequest⟩, hq, hpos, hsized.grid st.portfolio.position_onGrid q hq,
    hquantity.trans hrequest, hside⟩

/-- A fair step, from its creation on, keeps the cover. -/
theorem coverStep (h : R.Covers db) (hfair : StepFair R env eventId id db) :
    StepRule R.Covers env eventId id db := by
  refine ⟨fun p db' _ hc => h.concluded hc, fun p db' _ hsub => h.prepared hsub.prepared, ?_⟩
  intro p db' r db'' hplan hsub hplace hkeys' hexec
  obtain ⟨hfunded, hfair⟩ := hfair
  obtain ⟨q, hplaced⟩ := placedAs_of_plan hfair.toInKind hplan hsub.requires hplace
  obtain ⟨request, hr, hrequest⟩ := hplaced.request
  have hprep := hsub.prepared
  refine (h.prepared hprep).executed hkeys' hexec hplaced.grid hplaced.quantity ?_ hplaced.pos
    (hfair.grid request r hr) (fun f hf => ?_) fun hdraws => ?_
  · rw [hplaced.quantity, ← hrequest]; exact hfair.fill request r hr
  · rw [← hrequest]; exact hfair.value request r hr _ f hf
  · rw [hprep.reservedOf, hprep.stockOf]
    exact hfunded p hplan hsub.requires (hplaced.side ▸ hdraws) q hplaced.planned

/-! ## Sizing -/

/-- Nothing is open yet, so any stock covers it. -/
theorem OpensFlat.covers (h : OpensFlat db) (hstock : 0 ≤ R.stockOf db) : R.Covers db := by
  unfold Resource.Covers
  rw [h.orders]
  exact Covered.nil hstock

/-- **Uncommitted**: while open orders may still draw on the resource, a step draws on no more than they
    leave. -/
def Uncommitted (R : Resource) (env : StepEnv) (eventId : Option ℕ) (executionStepId : ℕ) (db : Db) : Prop :=
  0 < R.reservedOf db → Funded R env eventId executionStepId db

/-- A step is funded if it is sized within the stock while nothing is reserved, and uncommitted. -/
theorem funded_of_uncommitted (hcover : R.Covers db) (hfree : Uncommitted R env eventId id db)
    (hsized : ∀ p, stepPlan env db id eventId = .ok p → requiresBrokerSubmission p.riskResult = true →
      submittedSide p.riskResult.finalAction = R.side → ∀ q, p.riskResult.finalQuantity = some q →
      R.claim id q ≤ R.stockOf db) : Funded R env eventId id db := by
  rcases (reserved_nonneg hcover.nonneg).lt_or_eq with hpos | hzero
  · exact hfree hpos
  · intro p hplan hreq hside q hq
    rw [show R.reservedOf db = 0 from hzero.symm, zero_add]
    exact hsized p hplan hreq hside q hq

/-- What is submitted was approved as what it is sent as. -/
theorem finalAction_of_side {r : RiskResult} (hreq : requiresBrokerSubmission r = true) :
    (submittedSide r.finalAction = .buy → r.finalAction = .buy) ∧
      (submittedSide r.finalAction = .sell → r.finalAction = .sell) := by
  have hhold := (requiresBrokerSubmission_iff.mp hreq).2.1
  cases h : r.finalAction with
  | buy => exact ⟨fun _ => rfl, nofun⟩
  | sell => exact ⟨nofun, fun _ => rfl⟩
  | hold => exact absurd h hhold

end TradingAI
