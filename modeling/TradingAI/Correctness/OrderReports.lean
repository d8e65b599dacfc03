import TradingAI.Execution.Calls

/-!
# `Correctness.OrderReports` — the trades of one order, report by report

An order is placed, and then polled any number of times. What its trades come to depends on the sequence of
the broker's reports alone: `bookedAfter`, `valueAfter` and `tradesAfter` compute it from the reports, and
`orderLife_tracks` says that the placing transaction followed by one `_persist_order_sync` per report books
exactly that.

## Contents
- `newShares`, `newValue`: what one report adds.
- `OrderTally`, `pollTally`: what a sequence of reports adds up to.
- `pollReports`, `orderLife`, `Tracks`, `orderLife_tracks`.
-/

namespace TradingAI

open Rounding Session PaperExecutionProvider PaperBrokerSyncService

/-! ## What reports add up to -/

/-- The ledger of one order: the shares booked for it, what its trades are worth, and how many they are. -/
structure OrderTally where
  shares : ℚ
  value  : ℚ
  trades : ℕ

/-- The average price a report states, if it states one. -/
def priceOf (r : BrokerOrderResult) : ℚ := r.averageFillPrice.getD 0

/-- A report books a fill if it states more shares than are booked, and a price. -/
abbrev BooksFill (shares : ℚ) (r : BrokerOrderResult) : Prop :=
  shares < r.filledQuantity ∧ r.averageFillPrice.isSome = true

/-- The tally after a report is booked. -/
def OrderTally.book (t : OrderTally) (r : BrokerOrderResult) : OrderTally :=
  if BooksFill t.shares r then
    { shares := t.shares + (numeric 8 (r.filledQuantity - t.shares)).val
      value  := t.value + fillValue (r.filledQuantity - t.shares) (priceOf r)
      trades := t.trades + 1 }
  else t

/-- The tally after a poll: a report with an unknown status word is not booked. -/
def OrderTally.poll (t : OrderTally) (r : BrokerOrderResult) : OrderTally :=
  if (knownOrderStatus r.status).isSome then t.book r else t

/-- The tally of an order nothing was reported on. -/
def OrderTally.empty : OrderTally := ⟨0, 0, 0⟩

/-- **The tally of an order** that was placed with the report `placed` and polled with `polls`. -/
def orderTally (placed : BrokerOrderResult) (polls : List BrokerOrderResult) : OrderTally :=
  polls.foldl OrderTally.poll (OrderTally.empty.book placed)

/-! ## The tally in the database -/

/-- The trades of an order. -/
def Db.orderFills (db : Db) (orderId : ℕ) : List Fill := db.fills.filter (·.orderId = orderId)

/-- The trades of the order come to the tally `t`. -/
structure Tallied (orderId : ℕ) (t : OrderTally) (db : Db) : Prop where
  shares : filledOf db.fills orderId = t.shares
  value  : ((db.orderFills orderId).map Fill.orderValue).sum = t.value
  trades : (db.orderFills orderId).length = t.trades

/-- An order row that broker synchronisation would poll while its status is `SUBMITTED`. -/
structure PaperOrder (side : OrderSide) (status : OrderStatus) (o : Order) : Prop where
  side   : o.side = side
  status : o.status = status
  mode   : o.mode = .paperBroker
  broker : o.brokerName = some .alpaca
  placed : o.brokerOrderId.isSome = true

/-- What trades worth `value` do to the cash. -/
def cashMoved (side : OrderSide) (value : ℚ) : ℚ :=
  match side with
  | .buy  => -value
  | .sell => value

/-- The order is there, with that side and status, its trades come to the tally `t`, and they have moved
    the cash from `cash`. -/
structure Tracks (orderId : ℕ) (side : OrderSide) (status : OrderStatus) (t : OrderTally) (cash : ℚ) (db : Db) :
    Prop extends Tallied orderId t db where
  keyed     : db.WellKeyed
  order     : ∃ o, db.getOrder orderId = some o ∧ PaperOrder side status o
  portfolio : db.portfolio.isSome = true
  cash      : db.cash = cash + cashMoved side t.value

variable {db db' : Db} {orderId : ℕ} {side : OrderSide} {t : OrderTally} {r : BrokerOrderResult}
variable {o : Order} {status : OrderStatus} {now : DateTime} {cash : ℚ}

theorem orderFills_append (entry : Option Fill) (h : db'.fills = db.fills ++ entry.toList)
    (hentry : ∀ f ∈ entry, f.orderId = orderId) :
    db'.orderFills orderId = db.orderFills orderId ++ entry.toList := by
  unfold Db.orderFills
  rw [h, List.filter_append]
  cases entry with
  | none => simp
  | some f => simp [hentry f rfl]

/-- The fill a report adds to a tally. -/
theorem deltaEntry_eq (h : filledOf db.fills o.id = t.shares) : deltaEntry db o r =
    if BooksFill t.shares r then some ⟨o.id, o.side, (numeric 8 (r.filledQuantity - t.shares)).val,
      fillValue (r.filledQuantity - t.shares) (priceOf r)⟩ else none := by
  unfold deltaEntry unbookedFill BooksFill priceOf
  rw [Db.filledQuantityByOrder_eq, h]
  cases ha : r.averageFillPrice with
  | none => simp
  | some a => by_cases hpos : t.shares < r.filledQuantity <;> simp [hpos]

theorem immediateEntry_eq (r : BrokerOrderResult) (orderId : ℕ) : immediateEntry r orderId =
    if BooksFill 0 r then some ⟨orderId, r.side, (numeric 8 (r.filledQuantity - 0)).val,
      fillValue (r.filledQuantity - 0) (priceOf r)⟩ else none := by
  unfold immediateEntry BooksFill priceOf
  cases ha : r.averageFillPrice with
  | none => simp
  | some a => by_cases hpos : 0 < r.filledQuantity <;> simp [hpos]

/-- Adding the fill a report brings to a tallied order brings its tally up to the report. -/
theorem Tallied.book {entry : Option Fill} (ht : Tallied orderId t db)
    (hfills : db'.fills = db.fills ++ entry.toList)
    (hentry : entry = if BooksFill t.shares r then some ⟨orderId, side,
      (numeric 8 (r.filledQuantity - t.shares)).val, fillValue (r.filledQuantity - t.shares) (priceOf r)⟩
      else none) : Tallied orderId (t.book r) db' := by
  have hid : ∀ f ∈ entry, f.orderId = orderId := by
    intro f hf
    rw [hentry] at hf
    split at hf
    · cases hf; rfl
    · cases hf
  have hfilled : filledOf db'.fills orderId = filledOf db.fills orderId + entry.elim 0 Fill.quantity := by
    rw [hfills, filledOf_entry hid]
  have horder := orderFills_append entry hfills hid
  refine ⟨?_, ?_, ?_⟩
  · rw [hfilled, ht.shares, hentry]
    unfold OrderTally.book
    split <;> simp
  · rw [horder, List.map_append, List.sum_append, ht.value, hentry]
    unfold OrderTally.book
    split <;> simp
  · rw [horder, List.length_append, ht.trades, hentry]
    unfold OrderTally.book
    split <;> simp

/-- The cash moves with the value of the trades. -/
theorem cash_book {entry : Option Fill} {cash : ℚ} (hcash : db.cash = cash + cashMoved side t.value)
    (hmoved : db'.cash = db.cash + cashFlowOf entry)
    (hentry : entry = if BooksFill t.shares r then some ⟨orderId, side,
      (numeric 8 (r.filledQuantity - t.shares)).val, fillValue (r.filledQuantity - t.shares) (priceOf r)⟩
      else none) : db'.cash = cash + cashMoved side (t.book r).value := by
  rw [hmoved, hcash, hentry]
  unfold OrderTally.book
  split
  · cases side <;> simp [cashFlowOf, Fill.cashFlow, cashMoved] <;> ring
  · simp [cashFlowOf]

/-- An order nothing was booked for yet. -/
theorem Tallied.empty (h : ∀ f ∈ db.fills, f.orderId ≠ orderId) : Tallied orderId .empty db := by
  have hnone : db.orderFills orderId = [] := by
    unfold Db.orderFills
    rw [List.filter_eq_nil_iff]; intro f hf; simpa using h f hf
  exact ⟨filledOf_eq_zero h, by rw [hnone]; rfl, by rw [hnone]; rfl⟩

/-! ## Polls -/

/-- The status of an order after a poll. -/
def pollStatus (status : OrderStatus) (r : BrokerOrderResult) : OrderStatus :=
  (knownOrderStatus r.status).getD status

theorem getOrder_reported (hr : Reported o status r now db db') (ho : db.getOrder orderId = some o) :
    db'.getOrder orderId = some (syncedOrder r status o) := by
  obtain ⟨-, hid⟩ := Db.getOrder_eq_some ho
  unfold Db.getOrder at ho ⊢
  rw [hr.orders, List.find?_map]
  have hsame : ((fun x : Order => decide (x.id = orderId)) ∘ fun x => if x.id = o.id then syncedOrder r status x else x)
      = fun x => decide (x.id = orderId) := by
    funext x
    simp only [Function.comp_apply]
    split <;> rfl
  rw [hsame, ho, Option.map_some, if_pos rfl]

/-- The ways a tracked order survives a transaction that leaves the core alone. -/
theorem Tracks.of_core (h : Tracks orderId side status t cash db) (hcore : db'.core = db.core)
    (hnext : db.nextId ≤ db'.nextId) : Tracks orderId side status t cash db' := by
  have hfills : db'.fills = db.fills := congrArg (fun c : Core => c.trades.map Trade.fill) hcore
  have horders : db'.orders = db.orders := congrArg Core.orders hcore
  refine ⟨⟨by rw [hfills]; exact h.shares, ?_, ?_⟩, h.keyed.of_core hcore hnext, ?_, ?_, ?_⟩
  · unfold Db.orderFills; rw [hfills]; exact h.value
  · unfold Db.orderFills; rw [hfills]; exact h.trades
  · unfold Db.getOrder; rw [horders]; exact h.order
  · rw [show db'.portfolio = db.portfolio from congrArg Core.portfolio hcore]; exact h.portfolio
  · unfold Db.cash
    rw [show db'.portfolio = db.portfolio from congrArg Core.portfolio hcore]; exact h.cash

/-- **A poll books its report**, if it knows the status word, and leaves the order alone otherwise. -/
theorem pollReport_tracks {senv : SyncEnv} {st : Store Db BrokerBook}
    (h : Tracks orderId side status t cash st.current) (hworks : ∀ o, senv.fault o = none) :
    (Proc.withSession (persistOrderSync senv orderId r)).wp
      (fun _ st' => Tracks orderId side (pollStatus status r) (t.poll r) cash st'.current)
      (fun _ _ => False) st := by
  rw [Proc.wp_withSession]
  refine wp_persistOrderSync (fun _ db' hunknown hcore hnext => ?_)
    (fun _ o status' db' ho hknown hrep => ?_) fun e he => ?_
  · have hstatus : pollStatus status r = status := by
      unfold pollStatus; rw [show knownOrderStatus r.status = none from hunknown]; rfl
    have htally : t.poll r = t := by
      unfold OrderTally.poll; rw [show knownOrderStatus r.status = none from hunknown]; rfl
    rw [hstatus, htally]
    exact h.of_core hcore hnext
  · obtain ⟨o₀, ho₀, hpaper⟩ := h.order
    rw [ho] at ho₀
    cases ho₀
    obtain ⟨hmem, hid⟩ := Db.getOrder_eq_some ho
    have hstatus : pollStatus status r = status' := by
      unfold pollStatus; rw [show knownOrderStatus r.status = some status' from hknown]; rfl
    have htally : t.poll r = t.book r := by
      unfold OrderTally.poll; rw [show knownOrderStatus r.status = some status' from hknown]; rfl
    rw [hstatus, htally]
    have hentry := deltaEntry_eq (r := r) (hid.symm ▸ h.shares : filledOf st.current.fills o.id = t.shares)
    rw [hid] at hentry
    refine ⟨h.toTallied.book hrep.fills hentry, h.keyed.reported hrep hmem, ?_, ?_, ?_⟩
    · exact ⟨_, getOrder_reported hrep ho, hpaper.side, rfl, hpaper.mode, hpaper.broker, hpaper.placed⟩
    · obtain ⟨row, -, hrow⟩ := hrep.portfolio
      rw [Store.commit_current, hrow]; rfl
    · rw [hpaper.side] at hentry
      exact cash_book h.cash hrep.cash hentry
  · obtain ⟨o, ho, -⟩ := h.order
    rcases he with hf | hnone | hnone
    · rw [hworks] at hf; cases hf
    · rw [ho] at hnone; cases hnone
    · have hport := h.portfolio
      rw [hnone] at hport; cases hport

/-- One `_persist_order_sync` after another. -/
def pollReports (senv : SyncEnv) (orderId : ℕ) : List BrokerOrderResult → DbProc Unit
  | [] => pure ()
  | r :: rs => do
      let _ ← Proc.withSession (persistOrderSync senv orderId r)
      pollReports senv orderId rs

theorem pollReports_tracks {senv : SyncEnv} (hworks : ∀ o, senv.fault o = none) {polls : List BrokerOrderResult}
    {st : Store Db BrokerBook} (h : Tracks orderId side status t cash st.current) :
    (pollReports senv orderId polls).wp
      (fun _ st' => Tracks orderId side (polls.foldl pollStatus status) (polls.foldl OrderTally.poll t) cash
        st'.current)
      (fun _ _ => False) st := by
  induction polls generalizing st status t with
  | nil => exact h
  | cons r rs ih =>
      unfold pollReports
      rw [Proc.wp_bind]
      exact Proc.wp_mono (pollReport_tracks h hworks) (fun _ _ h' => ih h') fun _ _ hfalse => hfalse

/-! ## The life of an order -/

/-- The transaction that places the order of `s` runs to its end, with the broker's report `r`. -/
structure LifeStart (env : StepEnv) (executionStepId : ℕ) (s : Submission) (r : BrokerOrderResult) (db : Db) :
    Prop where
  keyed    : db.WellKeyed
  step     : executionStepId < db.nextId
  risk     : s.riskCheckId < db.nextId
  requires : requiresBrokerSubmission s.riskResult = true
  fresh    : db.existingOrder executionStepId s.riskCheckId = none
  placed   : placeOutcome env db executionStepId s = .ok r
  recorded : recordOutcome env db s.price r = .ok ()

/-- The placing transaction, then one `_persist_order_sync` for each report. -/
def orderLife (env : StepEnv) (senv : SyncEnv) (executionStepId : ℕ) (s : Submission) (orderId : ℕ)
    (polls : List BrokerOrderResult) : DbProc Unit := do
  let _ ← Proc.withSession (brokerExecution env executionStepId s)
  pollReports senv orderId polls

variable {env : StepEnv} {senv : SyncEnv} {id : ℕ} {s : Submission} {st : Store Db BrokerBook}
variable {polls : List BrokerOrderResult}

theorem Executed.tracks (hkeys : db.WellKeyed) (he : Executed env id s r db db') (hid : id < db.nextId)
    (hrisk : s.riskCheckId < db.nextId) : Tracks db.nextId r.side (PaperExecutionProvider.mapOrderStatus r.status)
      (OrderTally.empty.book r) db.cash db' := by
  have hentry := immediateEntry_eq r db.nextId
  have hempty : Tallied db.nextId .empty db := .empty fun f hf => (hkeys.fills f hf).ne
  refine ⟨hempty.book he.fills hentry, hkeys.executed he hid hrisk, ?_, ?_, ?_⟩
  · refine ⟨{ orderOf r id s.riskCheckId env.executedAt env.executedAt with id := db.nextId }, ?_,
      ⟨rfl, rfl, rfl, rfl, rfl⟩⟩
    unfold Db.getOrder
    have hnone : db.orders.find? (fun x => decide (x.id = db.nextId)) = none := by
      rw [List.find?_eq_none]; intro x hx; simpa using (hkeys.orders x hx).1.ne
    rw [he.orders, List.find?_append, hnone]
    simp
  · obtain ⟨row, -, hrow⟩ := he.portfolio
    rw [hrow]; rfl
  · have hstart : db.cash = db.cash + cashMoved r.side OrderTally.empty.value := by
      cases r.side <;> simp [cashMoved, OrderTally.empty]
    exact cash_book hstart he.cash hentry

theorem placement_tracks (h : LifeStart env id s r st.current) :
    (Proc.withSession (brokerExecution env id s)).wp
      (fun _ st' => Tracks st.current.nextId r.side (PaperExecutionProvider.mapOrderStatus r.status)
        (OrderTally.empty.book r) st.current.cash st'.current)
      (fun _ _ => False) st := by
  rw [Proc.wp_withSession]
  refine wp_brokerExecution h.requires h.fresh (fun r' db' hplace _ hexec => ?_) (fun r' e hplace he => ?_)
    fun e he => ?_
  · rw [h.placed] at hplace
    cases hplace
    exact hexec.tracks h.keyed h.step h.risk
  · rw [h.placed] at hplace
    cases hplace
    rw [h.recorded] at he
    cases he
  · rw [h.placed] at he
    cases he

/-- **The life of an order**: it runs to its end, and its trades come to the tally of the reports. -/
theorem orderLife_tracks (h : LifeStart env id s r st.current) (hworks : ∀ o, senv.fault o = none) :
    (orderLife env senv id s st.current.nextId polls).wp
      (fun _ st' => Tracks st.current.nextId r.side
        (polls.foldl pollStatus (PaperExecutionProvider.mapOrderStatus r.status)) (orderTally r polls)
        st.current.cash st'.current)
      (fun _ _ => False) st := by
  unfold orderLife
  rw [Proc.wp_bind]
  exact Proc.wp_mono (placement_tracks h) (fun _ _ h' => pollReports_tracks hworks h') fun _ _ hfalse => hfalse

/-- The state after the life of an order. -/
theorem orderLife_exec (polls : List BrokerOrderResult) (h : LifeStart env id s r st.current) (hworks : ∀ o, senv.fault o = none) :
    Tracks st.current.nextId r.side
      (polls.foldl pollStatus (PaperExecutionProvider.mapOrderStatus r.status)) (orderTally r polls)
      st.current.cash ((orderLife env senv id s st.current.nextId polls).exec st).current :=
  Proc.exec_of_wp (Proc.wp_mono (orderLife_tracks h hworks) (fun _ _ h' => h') fun _ _ hfalse => hfalse.elim)

/-! ## An order of ten shares -/

/-- A report that `quantity` shares of a ten-share BUY have filled, on average at `price`. -/
def fillReport (status : String) (quantity price : ℚ) : BrokerOrderResult where
  brokerOrderId    := "broker-1"
  status           := status
  symbol           := spySymbol
  side             := .buy
  quantity         := 10
  filledQuantity   := quantity
  averageFillPrice := some price
  submittedAt      := none
  filledAt         := none

/-- A submission of ten shares, for the first step of the small experiment. -/
def tenShares : Submission := ⟨.trade .buy 10 100 [], 1, 100, spySymbol⟩

/-- The small experiment with its first step created. -/
def tenSharesStore : Store Db BrokerBook :=
  Store.opened ((smallDb .buyAndHold .daily).addNextStep .scheduled 0 0) {}

/-- A sync whose database works; the reports come from outside. -/
def workingSync : SyncEnv := fillingSync .buy 10 100

theorem tenShares_start (placed : BrokerOrderResult) :
    LifeStart (smallEnv 100 fun _ => .ok placed) 1 tenShares placed tenSharesStore.current where
  keyed    := (smallDb_flat .buyAndHold .daily).wellKeyed.addNextStep _ _ _
  step     := by decide
  risk     := by decide
  requires := by decide +kernel
  fresh    := rfl
  placed   := rfl
  recorded := smallEnv_recordOutcome (by decide +kernel) 100

end TradingAI
