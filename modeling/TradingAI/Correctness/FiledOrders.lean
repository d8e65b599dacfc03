import TradingAI.Broker.AlpacaAdapter
import TradingAI.Correctness.DefinedMetrics
import TradingAI.Correctness.RepeatedSyncs
import TradingAI.Experiments.Start

/-!
# `Correctness.FiledOrders` — a sync answers for every open order

One order the broker says nothing sensible about must not keep the others from being booked. Whatever the trading
endpoint answers, as long as the amounts of its reports are finite, a sync through the Alpaca adapter returns; it
files every open order exactly once, in the order of the listing, as synced or as failed; it writes one log for each;
and what becomes of an order's row depends on the answer about this order alone (`alpaca_sync_files_every_order`).
An infinity or a NaN passes the adapter and raises where the amounts are first computed with.

## Contents
- `reportOf`, the report of an answer; `filedOrder`, `filedStatus`.
- `Polled`, `syncOrder_files`: one poll; `FiledAll`, `syncOrders_files`: the loop.
- `refused_order_is_recorded`: what the adapter raises when it places an order.
- `alpaca_sync_files_every_order`.
-/

namespace TradingAI

open Session PaperBrokerSyncService Rounding

/-! ## What an answer comes to -/

section Answers

variable (answers : BrokerAnswers) (x : Order)

/-- The report about an order, if its status is one the program knows. -/
def reportOf : Option (BrokerOrderResult × OrderStatus) :=
  match answers x.id (x.brokerOrderId.getD "") with
  | .ok r    => (mapOrderStatus r.status).map fun status => (r, status)
  | .error _ => none

/-- The row of a polled order. -/
def filedOrder : Order :=
  match reportOf answers x with
  | some (r, status) => syncedOrder r status x
  | none             => x

def filedStatus : BrokerSyncStatus := if (reportOf answers x).isSome then .success else .failed

@[simp] theorem filedOrder_id : (filedOrder answers x).id = x.id := by
  unfold filedOrder
  split <;> rfl

end Answers

/-- What a log says of the outcome, and about which step. -/
def BrokerSyncLog.outcome (l : BrokerSyncLog) : ℕ × BrokerSyncStatus := (l.executionStepId, l.syncStatus)

variable {answers : BrokerAnswers} {db db' : Db} {x : Order} {orders : List Order} {env : SyncEnv}
  {st : Store Db BrokerBook} {book : BrokerBook} {r : BrokerOrderResult} {status : OrderStatus} {now : DateTime}

/-! ## One poll -/

/-- **What a poll of `x` leaves**: the row of `x` as its answer has it, one log, and the result that is filed. -/
structure Polled (answers : BrokerAnswers) (x : Order) (db : Db) (result : BrokerOrderSyncResult) (db' : Db) : Prop where
  orders    : db'.orders = db.orders.map fun y => if y.id = x.id then filedOrder answers y else y
  logs      : db'.brokerSyncLogs.map BrokerSyncLog.outcome =
    db.brokerSyncLogs.map BrokerSyncLog.outcome ++ [(x.executionStepId, filedStatus answers x)]
  portfolio : db'.portfolio.isSome = true
  orderId   : result.orderId = x.id
  status    : result.syncStatus = filedStatus answers x

/-- Where there is no report, the rows stay as they are, and a log says so. -/
theorem polled_failed {result : BrokerOrderSyncResult} {portfolio : Option Portfolio} {details : Details}
    {message : Option String} (hdistinct : (db.orders.map Order.id).Nodup) (hx : x ∈ db.orders)
    (hportfolio : db.portfolio.isSome = true) (hnone : reportOf answers x = none) (hid : result.orderId = x.id)
    (hfailed : result.syncStatus = .failed) :
    Polled answers x db result (db.addBrokerSyncLog (syncLog x portfolio now .failed details message)) := by
  have hstatus : filedStatus answers x = .failed := by rw [filedStatus, hnone]; rfl
  refine ⟨?_, ?_, hportfolio, hid, hfailed.trans hstatus.symm⟩
  · symm
    refine (List.map_congr_left fun y hy => ?_).trans (List.map_id _)
    by_cases hy_id : y.id = x.id
    · obtain rfl := List.inj_on_of_nodup_map hdistinct hy hx hy_id
      rw [if_pos rfl, filedOrder, hnone, id]
    · rw [if_neg hy_id, id]
  · rw [hstatus, Db.addBrokerSyncLog, List.map_append]
    rfl

/-- Where there is one, it is booked. -/
theorem polled_reported {result : BrokerOrderSyncResult} {portfolio : PortfolioRow}
    (hdistinct : (db.orders.map Order.id).Nodup) (hx : x ∈ db.orders) (hportfolio : db.portfolio = some portfolio)
    (hreport : reportOf answers x = some (r, status)) (hid : result.orderId = x.id)
    (hsuccess : result.syncStatus = .success) :
    Polled answers x db result (applyReport db x portfolio status r now) := by
  have hstatus : filedStatus answers x = .success := by rw [filedStatus, hreport]; rfl
  have hreported : Reported x status r now db (applyReport db x portfolio status r now) := applyReport_reported hportfolio
  obtain ⟨row, -, hrow⟩ := hreported.portfolio
  refine ⟨?_, ?_, by rw [hrow]; rfl, hid, hsuccess.trans hstatus.symm⟩
  · rw [hreported.orders]
    refine List.map_congr_left fun y hy => ?_
    by_cases hy_id : y.id = x.id
    · obtain rfl := List.inj_on_of_nodup_map hdistinct hy hx hy_id
      rw [if_pos rfl, if_pos rfl, filedOrder, hreport]
    · rw [if_neg hy_id, if_neg hy_id]
  · rw [hstatus]
    cases hfill : unbookedFill db x.id r with
    | none =>
        simp [applyReport, hfill, Db.addBrokerSyncLog, Db.updateOrder, BrokerSyncLog.outcome, syncLog]
    | some fill =>
        obtain ⟨q, price⟩ := fill
        simp [applyReport, hfill, Db.addBrokerSyncLog, Db.updateOrder, BrokerSyncLog.outcome, syncLog, addSyncedTrade,
          applyFillDeltaToPortfolio]

/-- **A sync whose only troubles are the broker's**: the database works, and what the broker raises is a provider
    error. -/
structure SyncEnv.OnlyBrokerFails (env : SyncEnv) : Prop where
  adapter : env.brokerAdapter = .ok ()
  faults  : ∀ o, env.fault o = none
  broker  : ∀ id brokerOrderId e, env.getOrderStatus id brokerOrderId = .error e → e.kind = .brokerProvider

/-- **One poll**, which always returns. -/
theorem syncOrder_files (henv : env.OnlyBrokerFails) (hdistinct : (st.current.orders.map Order.id).Nodup)
    (hportfolio : st.current.portfolio.isSome = true) (hx : x ∈ st.current.orders) :
    (syncOrder env x).wp (fun result st' => Polled env.getOrderStatus x st.current result st'.current)
      (fun _ _ => False) st := by
  obtain ⟨row, hrow⟩ := Option.isSome_iff_exists.mp hportfolio
  have hworks : ∀ {o e}, env.fault o = some e → False := fun {o e} he => by rw [henv.faults o] at he; cases he
  unfold syncOrder
  simp only [Proc.wp_tryCatch, Proc.wp_bind]
  refine Proc.wp_ofExcept (fun r hr => ?_) fun e he => ?_
  · rw [Proc.wp_withSession]
    unfold persistOrderSync
    simp only [Tx.wp_bind, Tx.wp_get]
    refine Tx.wp_mayRaise (fun _ => ?_) fun e he => (hworks he).elim
    rw [getOrder_of_mem hdistinct hx, hrow]
    refine Tx.wp_expect (fun o ho => ?_) fun hnone => by cases hnone
    obtain rfl := Option.some.inj ho
    refine Tx.wp_expect (fun portfolio hportfolio' => ?_) fun hnone => by cases hnone
    obtain rfl := Option.some.inj hportfolio'
    cases hstatus : mapOrderStatus r.status with
    | none =>
        have hnone : reportOf env.getOrderStatus x = none := by rw [reportOf, hr]; simp [hstatus]
        exact polled_failed hdistinct hx hportfolio hnone rfl rfl
    | some status =>
        have hreport : reportOf env.getOrderStatus x = some (r, status) := by rw [reportOf, hr]; simp [hstatus]
        exact polled_reported hdistinct hx hrow hreport rfl rfl
  · have hnone : reportOf env.getOrderStatus x = none := by rw [reportOf, he]
    rw [if_pos (henv.broker _ _ e he), Proc.wp_withSession]
    unfold persistSyncFailure
    simp only [Tx.wp_bind, Tx.wp_get]
    refine Tx.wp_mayRaise (fun _ => ?_) fun e he => (hworks he).elim
    rw [getOrder_of_mem hdistinct hx]
    refine Tx.wp_expect (fun o ho => ?_) fun hnone => by cases hnone
    obtain rfl := Option.some.inj ho
    exact polled_failed hdistinct hx hportfolio hnone rfl rfl

/-! ## The loop -/

/-- The rows after a sync of these orders. -/
def filedRows (answers : BrokerAnswers) (orders rows : List Order) : List Order :=
  rows.map fun y => if y.id ∈ orders.map Order.id then filedOrder answers y else y

/-- **What a sync of `orders` leaves**, and how it files them. -/
structure FiledAll (answers : BrokerAnswers) (orders : List Order) (db : Db) (result : BrokerSyncRunResult) (db' : Db) :
    Prop where
  rows   : db'.orders = filedRows answers orders db.orders
  logs   : db'.brokerSyncLogs.map BrokerSyncLog.outcome = db.brokerSyncLogs.map BrokerSyncLog.outcome ++
    orders.map fun x => (x.executionStepId, filedStatus answers x)
  synced : result.synced.map BrokerOrderSyncResult.orderId =
    (orders.filter fun x => (reportOf answers x).isSome).map Order.id
  failed : result.failed.map BrokerOrderSyncResult.orderId =
    (orders.filter fun x => (reportOf answers x).isNone).map Order.id

theorem Polled.ids {result : BrokerOrderSyncResult} (h : Polled answers x db result db') :
    db'.orders.map Order.id = db.orders.map Order.id := by
  rw [h.orders, List.map_map]
  refine List.map_congr_left fun y _ => ?_
  rw [Function.comp_apply]
  split
  · exact filedOrder_id answers y
  · rfl

/-- A poll, and then a sync of the others. -/
theorem Polled.then {result : BrokerOrderSyncResult} {rest : BrokerSyncRunResult} {db'' : Db}
    (h : Polled answers x db result db') (hothers : x.id ∉ orders.map Order.id)
    (hrest : FiledAll answers orders db' rest db'') :
    FiledAll answers (x :: orders) db (BrokerSyncRunResult.file result rest) db'' where
  rows := by
    rw [hrest.rows, h.orders, filedRows, filedRows, List.map_map]
    refine List.map_congr_left fun y _ => ?_
    by_cases hid : y.id = x.id
    · have hnot : (filedOrder answers y).id ∉ orders.map Order.id := by rwa [filedOrder_id, hid]
      rw [Function.comp_apply, if_pos hid, if_neg hnot, if_pos (by rw [hid]; exact List.mem_cons_self)]
    · rw [Function.comp_apply, if_neg hid, List.map_cons]
      simp only [List.mem_cons, hid, false_or]
  logs := by rw [hrest.logs, h.logs, List.map_cons, List.append_assoc, List.singleton_append]
  synced := by
    unfold BrokerSyncRunResult.file
    rw [h.status, filedStatus]
    cases hreport : reportOf answers x <;> simp [hreport, hrest.synced, h.orderId]
  failed := by
    unfold BrokerSyncRunResult.file
    rw [h.status, filedStatus]
    cases hreport : reportOf answers x <;> simp [hreport, hrest.failed, h.orderId]

/-- **The loop of a sync**, which always returns. -/
theorem syncOrders_files (henv : env.OnlyBrokerFails) (hdistinct : (st.current.orders.map Order.id).Nodup)
    (hportfolio : st.current.portfolio.isSome = true) (horders : (orders.map Order.id).Nodup)
    (hpending : Pending orders st.current) :
    (syncOrders env orders).wp (fun result st' => FiledAll env.getOrderStatus orders st.current result st'.current)
      (fun _ _ => False) st := by
  induction orders generalizing st with
  | nil =>
      refine ⟨?_, (List.append_nil _).symm, rfl, rfl⟩
      simp [filedRows]
  | cons x orders ih =>
      rw [List.map_cons, List.nodup_cons] at horders
      obtain ⟨hothers, horders⟩ := horders
      unfold syncOrders
      simp only [Proc.wp_bind, Proc.wp_pure]
      refine Proc.wp_mono (syncOrder_files henv hdistinct hportfolio (hpending x List.mem_cons_self))
        (fun result st₁ hpolled => ?_) fun _ _ h => h
      have hpending₁ : Pending orders st₁.current := fun y hy => by
        have hne : y.id ≠ x.id := fun hid => hothers (hid ▸ List.mem_map_of_mem hy)
        rw [hpolled.orders]
        exact List.mem_map.mpr ⟨y, hpending y (List.mem_cons_of_mem _ hy), if_neg hne⟩
      exact Proc.wp_mono (ih (hpolled.ids ▸ hdistinct) hpolled.portfolio horders hpending₁)
        (fun _ _ hrest => hpolled.then hothers hrest) fun _ _ h => h

/-! ## The adapter -/

/-- **An order that is refused** is recorded with its step, as the broker's failure, and does not stop the
    experiment. -/
theorem refused_order_is_recorded {reader : ResponseReader} {api : TradingApi} {request : OrderRequest} {e : Raised}
    (hanswers : AlpacaPaperTradingAdapter.Answers reader api)
    (he : AlpacaPaperTradingAdapter.placeOrder reader api request = .error e) :
    ∃ record, failureRecord e = some (record, e) ∧ record.eventType = .orderFailed ∧ record.failExperiment = false := by
  have hkind : e.kind = .brokerProvider := AlpacaPaperTradingAdapter.placeOrder_kind hanswers he
  unfold failureRecord
  rw [hkind]
  exact ⟨_, rfl, rfl, rfl⟩

/-- **A sync through the adapter**, in a database that works: what the adapter answers about an order is what it
    reports, with finite amounts, or what it raises. -/
structure SyncEnv.AsksAlpaca (env : SyncEnv) (reader : ResponseReader) (api : TradingApi) : Prop where
  adapter : env.brokerAdapter = .ok ()
  faults  : ∀ o, env.fault o = none
  answers : ∀ id brokerOrderId, AlpacaPaperTradingAdapter.getOrderStatus reader api brokerOrderId =
    OrderReport.map .finite <$> env.getOrderStatus id brokerOrderId

/-- What such a sync meets are provider errors. -/
theorem SyncEnv.AsksAlpaca.onlyBrokerFails {reader : ResponseReader} {api : TradingApi} (h : env.AsksAlpaca reader api)
    (hanswers : AlpacaPaperTradingAdapter.Answers reader api) : env.OnlyBrokerFails := by
  refine ⟨h.adapter, h.faults, fun id brokerOrderId e he => ?_⟩
  have hanswer := h.answers id brokerOrderId
  rw [he] at hanswer
  exact AlpacaPaperTradingAdapter.getOrderStatus_kind hanswers hanswer

/-! ## Any reachable state -/

/-- **A sync answers for every open order.** After any run of an experiment, whatever the endpoint of the adapter
    answers, as long as the amounts of its reports are finite, a sync returns. It files every open order as synced or
    as failed, in the order of the listing, and logs it as what it is; the row of an open order is what the answer
    about this order makes of it, and the others are as they were. -/
theorem alpaca_sync_files_every_order (reader : ResponseReader) (api : TradingApi) (env : SyncEnv)
    (calls : List PaperCall) (db : Db) (hflat : OpensFlat db) (hanswers : AlpacaPaperTradingAdapter.Answers reader api)
    (hasks : env.AsksAlpaca reader api) :
    ∃ result, (syncOpenOrders env (runCalls calls db)).1 = .ok result ∧
      FiledAll env.getOrderStatus (runCalls calls db).current.listOpenPaperOrders (runCalls calls db).current result
        (runCalls (calls ++ [.sync env]) db).current := by
  obtain ⟨hkeyed, hportfolio⟩ := runCalls_hasPortfolio calls hflat
  have henv : env.OnlyBrokerFails := hasks.onlyBrokerFails hanswers
  have hwp : (syncOpenOrders env).wp
      (fun result st' => FiledAll env.getOrderStatus
        (runCalls calls db).current.listOpenPaperOrders (runCalls calls db).current result st'.current)
      (fun _ _ => False) (runCalls calls db) := by
    have hadapter : PaperBrokerSyncService.createBrokerAdapter env = .ok () := by
      unfold PaperBrokerSyncService.createBrokerAdapter
      rw [henv.adapter]
    unfold syncOpenOrders
    simp only [Proc.wp_bind]
    refine Proc.wp_ofExcept (fun _ _ => ?_) fun e he => by rw [hadapter] at he; cases he
    rw [Proc.wp_readSession]
    simp only [Tx.wp_bind, Tx.wp_get, Tx.wp_pure]
    refine Tx.wp_mayRaise (fun _ => ?_) fun _ he => by rw [henv.faults] at he; cases he
    exact syncOrders_files henv hkeyed.distinct hportfolio (listed_distinct hkeyed.distinct)
      fun x hx => (Db.mem_listOpenPaperOrders.mp hx).1
  have hlast : runCalls (calls ++ [.sync env]) db = (syncOpenOrders env (runCalls calls db)).2 :=
    Runs.run_append calls [.sync _] _
  rw [hlast]
  unfold Proc.wp at hwp
  rcases hrun : syncOpenOrders env (runCalls calls db) with ⟨_ | result, st'⟩ <;> rw [hrun] at hwp
  · exact absurd hwp id
  · exact ⟨result, rfl, hwp⟩

/-- The text of a text; there are no timestamps. -/
def smallResponseReader : ResponseReader where
  decoder   := { readFloat := fun _ => .nan false, recursionLimit := 1000 }
  reprLimit := 1000
  str       := fun v => match v with
    | .str cs => String.ofList cs
    | _       => ""
  wallClock := fun _ => none

/-- An endpoint that fails for one order and reports every other as filled. -/
def failingApi (path : String) : TradingApi := fun request => match request with
  | .post _ _  => .httpStatusError 403 "forbidden"
  | .get asked =>
      if asked = path then .httpStatusError 500 "unavailable"
      else
        .json (.dict [("id".toList, .str ['b']), ("status".toList, .str "filled".toList),
          ("symbol".toList, .str "SPY".toList), ("side".toList, .str "buy".toList), ("qty".toList, .str ['1', '0']),
          ("filled_qty".toList, .str ['1', '0']), ("filled_avg_price".toList, .str "100".toList)])

theorem failingApi_answers (path : String) : AlpacaPaperTradingAdapter.Answers smallResponseReader (failingApi path) := by
  constructor
  · intro request e h
    cases request with
    | post => cases h
    | get asked =>
        unfold failingApi at h
        dsimp only at h
        split at h <;> cases h
  · intro request payload h
    cases request with
    | post => cases h
    | get asked =>
        unfold failingApi at h
        dsimp only at h
        split at h <;> cases h
        decide

/-- What it answers about the order of step 3. -/
def firstFailsApi : TradingApi := failingApi "/v2/orders/broker-experiment-1-step-3-risk-6"

/-- Its report on any other order. -/
def tenFilled : BrokerOrderResult where
  brokerOrderId    := String.ofList ['b']
  status           := String.ofList "filled".toList
  symbol           := String.ofList "SPY".toList
  side             := .buy
  quantity         := 10
  filledQuantity   := 10
  averageFillPrice := some 100
  submittedAt      := none
  filledAt         := none
  raw              := detailOf.detailsOfDict
    [("id".toList, .str ['b']), ("status".toList, .str "filled".toList), ("symbol".toList, .str "SPY".toList),
      ("side".toList, .str "buy".toList), ("qty".toList, .str ['1', '0']), ("filled_qty".toList, .str ['1', '0']),
      ("filled_avg_price".toList, .str "100".toList)]
  errorMessage     := none

/-- A sync in which the endpoint fails for the order of step 3. -/
def firstFails : SyncEnv where
  now            := 2
  getOrderStatus := fun _ brokerOrderId =>
    if "/v2/orders/" ++ brokerOrderId = "/v2/orders/broker-experiment-1-step-3-risk-6" then
      .error (brokerProviderError "Alpaca paper trading request failed."
        [("statusCode", .num 500), ("responseText", .text "unavailable")])
    else .ok tenFilled

theorem firstFails_asks : firstFails.AsksAlpaca smallResponseReader firstFailsApi := by
  refine ⟨rfl, fun _ => rfl, fun id brokerOrderId => ?_⟩
  unfold firstFails firstFailsApi failingApi AlpacaPaperTradingAdapter.getOrderStatus
  dsimp only
  by_cases h : "/v2/orders/" ++ brokerOrderId = "/v2/orders/broker-experiment-1-step-3-risk-6"
  · rw [if_pos h, if_pos h]
    rfl
  · rw [if_neg h, if_neg h]
    with_unfolding_all rfl

/-- A daily experiment on SPY, created and started. -/
def startedSpy : Db := (createdRows smallCreation (smallRequest 1000)).applyLifecycleAction .start .running 1

theorem startedSpy_flat : OpensFlat startedSpy :=
  started_opensFlat (smallRequest_created (by norm_num)) ⟨1000 * 10 ^ 4, by norm_num [smallRequest]⟩
    (rfl : startExperiment 1 (createdRows smallCreation (smallRequest 1000)) = .ok (startedSpy, none))

/-- Two orders are open. -/
def twoOrders : List PaperCall := [acceptedStep 0, acceptedStep 1]

/-- The endpoint fails for the first, and the second is booked. -/
theorem second_order_is_booked :
    (∃ result, (syncOpenOrders firstFails (runCalls twoOrders startedSpy)).1 = .ok result ∧
      FiledAll firstFails.getOrderStatus (runCalls twoOrders startedSpy).current.listOpenPaperOrders
        (runCalls twoOrders startedSpy).current result
        (runCalls (twoOrders ++ [.sync firstFails]) startedSpy).current) ∧
    (runCalls (twoOrders ++ [.sync firstFails]) startedSpy).current.orders.map Order.status = [.submitted, .filled] := by
  refine ⟨alpaca_sync_files_every_order smallResponseReader firstFailsApi firstFails twoOrders _ startedSpy_flat
    (failingApi_answers _) firstFails_asks, ?_⟩
  decide +kernel

end TradingAI
