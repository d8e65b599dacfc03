import TradingAI.Correctness.Cover

/-!
# `Correctness.PositionLedger` — the position and the trades behind it

The position should be what was bought less what was sold. Booking a SELL clamps a negative remainder to
zero, which breaks that law for good. While the position covers the open SELLs, no fill exceeds it and
nothing is ever clamped, so the law is carried along with the cover of `Correctness.Cover`. A risk check
sees the position but not the SELLs still open: two of them on the same shares are both filled.

## Contents
- `PositionLedger`: the law; `positionResource`, `LedgerHolds`: the invariant that carries it.
- `FillsWithinOrders`, `BackedCall`: the broker, and the condition on a run.
- `position_eq_of_backed`, `pending_sells_oversell`.
-/

namespace TradingAI

open Rounding Session

/-! ## What was bought and sold -/

/-- The total quantity of the trades on one side. -/
def Db.tradedQuantity (db : Db) (side : OrderSide) : ℚ :=
  ((db.trades.filter (·.side = side)).map fun t => t.quantity.val).sum

/-- **The position ledger**: the position is what was bought less what was sold, and no more is sold than
    bought. -/
structure PositionLedger (db : Db) : Prop where
  balance : db.position = db.tradedQuantity .buy - db.tradedQuantity .sell
  noShort : db.tradedQuantity .sell ≤ db.tradedQuantity .buy

/-- Bought less sold, as the trades record it. -/
def Db.netShares (db : Db) : ℚ := (db.fills.map Fill.shares).sum

theorem Db.netShares_eq (db : Db) : db.netShares = db.tradedQuantity .buy - db.tradedQuantity .sell := by
  unfold netShares tradedQuantity Db.fills
  induction db.trades with
  | nil => simp
  | cons t ts ih =>
      simp only [List.map_cons, List.sum_cons, ih]
      cases hside : t.side with
      | buy => simp [Trade.fill, Fill.shares, hside]; ring
      | sell => simp [Trade.fill, Fill.shares, hside]; ring

/-! ## The position as a resource -/

/-- **The position**, drawn on by SELLs, share for share. -/
def positionResource : Resource where
  side       := .sell
  claim _ x  := x
  stock      := PortfolioRow.position
  flow       := Fill.shares
  claim_zero _ := rfl
  claim_mono _ := monotone_id
  marked row price t := by
    rw [Portfolio.row_position, Portfolio.markedTo_heldQuantity, PortfolioRow.load_heldQuantity,
      numeric_val_of_onGrid row.position_onGrid]
  placed row r step id price t hgrid := by
    rw [Portfolio.row_position, Portfolio.markedTo_heldQuantity, immediateFill_position hgrid step id]
    exact le_positionAfter _ _
  reported db o row r t hgrid := by
    rw [reportedPortfolio_position hgrid]
    exact le_positionAfter _ _

variable {db db' : Db}

/-- **The ledger holds**: the position covers the open SELLs and is what was bought less what was sold. -/
structure LedgerHolds (db : Db) : Prop where
  covers : positionResource.Covers db
  law    : db.position = db.netShares

theorem netShares_append {entry : Option Fill} (h : db'.fills = db.fills ++ entry.toList) :
    db'.netShares = db.netShares + entry.elim 0 Fill.shares := by
  unfold Db.netShares
  rw [h]
  cases entry <;> simp

theorem netShares_congr (h : db'.fills = db.fills) : db'.netShares = db.netShares := by
  unfold Db.netShares; rw [h]

/-! ## The condition -/

/-- No order is filled beyond its quantity. -/
def FillsWithinOrders : PaperCall → Store Db BrokerBook → Prop :=
  CallMeets (fun env _ _ _ => ∀ request r, env.placeOrder request = .ok r → r.filledQuantity ≤ request.quantity)
    (fun o r _ => r.filledQuantity ≤ o.quantity.val)

/-- **A backed step**: it sells no shares that open SELLs may still draw, and the broker answers in kind. -/
structure BackedStep (env : StepEnv) (eventId : Option ℕ) (executionStepId : ℕ) (db : Db) : Prop
    extends InKind env where
  free : Uncommitted positionResource env eventId executionStepId db

/-- The condition on a call. -/
def BackedCall : PaperCall → Store Db BrokerBook → Prop :=
  CallMeets BackedStep fun _ r _ => OnGrid 8 r.filledQuantity

/-! ## Steps -/

variable {env : StepEnv} {eventId : Option ℕ} {id : ℕ} {r : BrokerOrderResult} {o : Order}
variable {status : OrderStatus} {now : DateTime}

/-- Every fill is fair to the position: a SELL takes the shares it gives up of its claim. -/
theorem fillFair_position {rest : ℚ} {f : Fill} (hf : 0 < f.quantity) : FillFair positionResource id rest f := by
  obtain ⟨orderId, side, q, value⟩ := f
  cases side with
  | buy => exact hf.le
  | sell =>
      show rest - q - -q ≤ rest
      linarith

/-- A SELL is sized within the position its step was shown. -/
theorem quantity_le_position {p : Submission} {q : ℚ} (hplan : stepPlan env db id eventId = .ok p)
    (hsell : p.riskResult.finalAction = .sell) (hq : p.riskResult.finalQuantity = some q) :
    q ≤ db.position := by
  obtain ⟨st, hst, hfits⟩ := stepPlan_sized hplan
  rw [Db.position, (Db.stepState_eq_some hst).2.1]
  exact hfits.sell hsell q hq

theorem funded_of_backed (h : positionResource.Covers db) (hbacked : BackedStep env eventId id db) :
    Funded positionResource env eventId id db :=
  funded_of_uncommitted h hbacked.free fun _ hplan hreq hside _ hq =>
    quantity_le_position hplan ((finalAction_of_side hreq).2 hside) hq

/-- A SELL finds the shares its immediate fill takes. -/
theorem executed_law {db₁ : Db} {p : Submission} {q : ℚ} (h : LedgerHolds db)
    (hprep : Prepared id p.price db db') (hexec : Executed env id p r db' db₁) (hgrid : OnGrid 8 r.filledQuantity) (hfilled : r.filledQuantity ≤ q)
    (hfunded : r.side = .sell → positionResource.reservedOf db + q ≤ db.position) :
    db₁.position = db₁.netShares := by
  have hposition : db'.position = db.position := hprep.stockOf (R := positionResource)
  have hfound : ∀ f ∈ immediateEntry r db'.nextId, f.side = .sell → f.quantity ≤ db'.position := by
    intro f hf hside
    obtain ⟨-, hfside, hquantity, -⟩ := immediateEntry_spec hf hgrid
    have hreserved : 0 ≤ positionResource.reservedOf db := Reserve.reserved_nonneg h.covers.nonneg
    have := hfunded (hfside ▸ hside)
    rw [hposition, hquantity]
    linarith
  rw [hexec.position hgrid, positionAfter_eq hfound, netShares_append hexec.fills,
    netShares_congr hprep.fills, hposition, h.law]

/-- **A backed step keeps the ledger.** -/
theorem ledgerStep (h : LedgerHolds db) (hbacked : BackedStep env eventId id db)
    (hfilled : ∀ request r, env.placeOrder request = .ok r → r.filledQuantity ≤ request.quantity) :
    StepRule LedgerHolds env eventId id db := by
  have hfunded := funded_of_backed h.covers hbacked
  have hcover : StepRule positionResource.Covers env eventId id db :=
    coverStep h.covers ⟨hfunded, hbacked.toInKind, hfilled, fun request r hr orderId f hf =>
      fillFair_position (immediateEntry_spec hf (hbacked.grid request r hr)).2.2.2⟩
  refine ⟨fun p db' hplan hc => ⟨hcover.concluded p db' hplan hc, ?_⟩,
    fun p db' hplan hsub => ⟨hcover.submitted p db' hplan hsub, ?_⟩,
    fun p db' r db₁ hplan hsub hplace hkeys hexec =>
      ⟨hcover.executed p db' r db₁ hplan hsub hplace hkeys hexec, ?_⟩⟩
  · rw [netShares_congr hc.fills, ← h.law]
    exact hc.stockOf (R := positionResource)
  · have hprep := hsub.prepared
    rw [netShares_congr hprep.fills, ← h.law]
    exact hprep.stockOf (R := positionResource)
  · obtain ⟨q, hplaced⟩ := placedAs_of_plan hbacked.toInKind hplan hsub.requires hplace
    obtain ⟨request, hr, hrequest⟩ := hplaced.request
    exact executed_law h hsub.prepared hexec (hbacked.grid request r hr)
      (hrequest ▸ hfilled request r hr) fun hsell =>
        hfunded p hplan hsub.requires (hplaced.side ▸ hsell) q hplaced.planned

/-! ## Polls -/

/-- **Booking a report keeps the ledger**: an open SELL finds the shares it reserved. -/
theorem ledgerPoll (h : LedgerHolds db) (hkeys : db.WellKeyed) (hr : Reported o status r now db db')
    (ho : o ∈ db.orders) (hopen : Db.isOpenPaperOrder o = true) (hfilled : r.filledQuantity ≤ o.quantity.val)
    (hgrid : OnGrid 8 r.filledQuantity) : LedgerHolds db' := by
  have hfair : PollFair positionResource o r db :=
    ⟨hfilled, hgrid, fun f hf => fillFair_position (deltaEntry_spec hf hgrid).2.2.2⟩
  refine ⟨h.covers.reported hkeys hr ho hopen hfair, ?_⟩
  have hfound : ∀ f ∈ deltaEntry db o r, f.side = .sell → f.quantity ≤ db.position := by
    intro f hf hside
    obtain ⟨-, hfside, hquantity, -⟩ := deltaEntry_spec hf hgrid
    have hhold : positionResource.hold db o = o.quantity.val - filledOf db.fills o.id :=
      if_pos ⟨hfside ▸ hside, hopen⟩
    have hle : positionResource.hold db o ≤ db.position := h.covers.hold_le ho
    rw [hquantity]
    linarith
  rw [hr.position hgrid, positionAfter_eq hfound, netShares_append hr.fills, h.law]

/-! ## Runs -/

theorem LedgerHolds.frame (h : LedgerHolds db) (hcovers : positionResource.Covers db')
    (hposition : db'.position = db.position) (hfills : db'.fills = db.fills) : LedgerHolds db' :=
  ⟨hcovers, by rw [hposition, h.law, netShares_congr hfills]⟩

/-- **A backed call keeps the ledger.** -/
theorem ledger_call {c : PaperCall} {st : Store Db BrokerBook} (hst : st.Keeps (Keyed LedgerHolds))
    (hfilled : FillsWithinOrders c st) (hbacked : BackedCall c st) :
    (c.exec st).Keeps (Keyed LedgerHolds) := by
  refine call_keeps hst (fun db step f now h => ?_) (fun db env eventId t slot _ h hok => ?_)
    (fun db db' h hcore => ?_) (fun db db' o status r now hkeys h ho hopen hok hrep => ?_)
    (hfilled.and hbacked)
  · obtain ⟨⟨hport, -, htrades, -⟩, -⟩ := db.recordFailure_frame step f now
    exact h.frame (h.covers.recordFailure step f now) (by rw [Db.position, hport]; rfl)
      (by rw [Db.fills, htrades]; rfl)
  · have hcreated := h.frame (h.covers.created t slot env.createdAt) rfl rfl
    exact ⟨hcreated, ledgerStep hcreated hok.2 hok.1⟩
  · exact h.frame (h.covers.of_core hcore)
      (by rw [Db.position, show db'.portfolio = db.portfolio from congrArg Core.portfolio hcore]; rfl)
      (congrArg (fun c : Core => c.trades.map Trade.fill) hcore)
  · exact ledgerPoll h hkeys hrep ho hopen hok.1 hok.2

/-- **The position is what was bought less what was sold**, and no more is sold than bought, in every state
    of a backed run whose broker fills no order beyond its quantity. -/
theorem position_eq_of_backed {calls : List PaperCall} {db : Db} (hflat : OpensFlat db)
    (hfilled : Runs.AllMeet PaperCall.exec FillsWithinOrders calls (Store.opened db {}))
    (hbacked : Runs.AllMeet PaperCall.exec BackedCall calls (Store.opened db {})) :
    (runCalls calls db).Keeps PositionLedger := by
  have hposition : db.position = 0 := by
    obtain ⟨e, row, -, hrow, -, -, hzero⟩ := hflat.portfolio
    rw [Db.position, hrow]; exact hzero
  have hledger : LedgerHolds db :=
    ⟨hflat.covers hposition.ge, by rw [hposition, Db.netShares, Db.fills, hflat.trades]; rfl⟩
  have hmeet : Runs.AllMeet PaperCall.exec (fun c st => FillsWithinOrders c st ∧ BackedCall c st) calls
      (Store.opened db {}) := hfilled.combine (fun _ _ h₁ h₂ => ⟨h₁, h₂⟩) hbacked
  have hrun : (runCalls calls db).Keeps (Keyed LedgerHolds) :=
    Runs.run_keeps (I := fun st => st.Keeps (Keyed LedgerHolds))
      (fun _ _ hst hc => ledger_call hst hc.1 hc.2) hmeet (Store.Keeps.opened ⟨hflat.wellKeyed, hledger⟩)
  refine hrun.mono fun db h => ?_
  have hnonneg : 0 ≤ db.position := h.2.covers.available_nonneg
  have hlaw := h.2.law
  rw [Db.netShares_eq] at hlaw
  exact ⟨hlaw, by linarith⟩

/-! ## A run that sells twice, and one that does not -/

/-- A sync that finds one share of every open SELL sold at 100. -/
def soldSync : PaperCall := .sync (fillingSync .sell 1 100)

theorem acceptedStep_fillsWithin (slot : DateTime) (st : Store Db BrokerBook) :
    FillsWithinOrders (acceptedStep slot) st := fun _ request r hr => by
  obtain ⟨hpos, -, -, hfilled, -⟩ := acceptOrder_eq_ok hr
  rw [hfilled]; exact hpos.1.le

theorem filledStep_fillsWithin (slot : DateTime) (st : Store Db BrokerBook) :
    FillsWithinOrders (filledStep slot) st := fun _ request r hr => by
  obtain ⟨-, -, -, hfilled, -⟩ := fillOrder_eq_ok hr
  exact hfilled.le

theorem soldSync_fillsWithin {st : Store Db BrokerBook}
    (hone : ∀ o ∈ st.current.listOpenPaperOrders, o.quantity.val = 1) : FillsWithinOrders soldSync st := by
  refine PollsMeet.of_forall fun o ho r db hr => ?_
  cases hr
  exact (hone o ho).ge

/-- **Two SELLs of the same share**: the second step sells the share the first has already offered; once
    both fill, the position is clamped at zero and two are sold for one bought. -/
theorem pending_sells_oversell :
    ¬ ∀ (calls : List PaperCall) (db : Db), OpensFlat db →
      Runs.AllMeet PaperCall.exec FillsWithinOrders calls (Store.opened db {}) →
        (runCalls calls db).Keeps PositionLedger := by
  intro h
  have hkeeps := h [filledStep 0, acceptedStep 1, acceptedStep 2, soldSync]
    (smallDb .paperTradingSmokeTest .test1Min) (smallDb_flat .paperTradingSmokeTest .test1Min)
    ⟨filledStep_fillsWithin 0 _, acceptedStep_fillsWithin 1 _, acceptedStep_fillsWithin 2 _,
      soldSync_fillsWithin (by decide +kernel), trivial⟩
  have hbroken : ¬ (runCalls [filledStep 0, acceptedStep 1, acceptedStep 2, soldSync]
      (smallDb .paperTradingSmokeTest .test1Min)).current.position =
        (runCalls [filledStep 0, acceptedStep 1, acceptedStep 2, soldSync]
          (smallDb .paperTradingSmokeTest .test1Min)).current.tradedQuantity .buy -
        (runCalls [filledStep 0, acceptedStep 1, acceptedStep 2, soldSync]
          (smallDb .paperTradingSmokeTest .test1Min)).current.tradedQuantity .sell := by decide +kernel
  exact hbroken hkeeps.1.balance

/-- Selling once, and waiting for the fill, keeps the law. -/
theorem position_eq_of_settled_sell :
    (runCalls [filledStep 0, acceptedStep 1, soldSync] (smallDb .paperTradingSmokeTest .test1Min)).Keeps
      PositionLedger :=
  position_eq_of_backed
    (smallDb_flat .paperTradingSmokeTest .test1Min)
    ⟨filledStep_fillsWithin 0 _, acceptedStep_fillsWithin 1 _, soldSync_fillsWithin (by decide +kernel), trivial⟩
    ⟨fun _ => ⟨fillOrder_inKind 100 100, fun hpos => absurd hpos (by decide +kernel)⟩,
      fun _ => ⟨acceptOrder_inKind 100, fun hpos => absurd hpos (by decide +kernel)⟩,
      PollsMeet.of_forall fun _ _ _ _ hr => by cases hr; exact ⟨10 ^ 8, by norm_num⟩, trivial⟩

end TradingAI
