import TradingAI.Execution.Calls

/-!
# `Correctness.RepeatedSyncs` — asking again changes nothing

A broker synchronisation asks about every open order and books what has filled since the last report. It keeps
no note of what it has seen: what is new is read off the trades that are booked. So a sync after a sync finds
nothing new in the same answers, and writes its log and no other row (`repeated_syncs_only_log`), as long as
the column of a trade can hold what the broker reports; a part of a share beyond its eight places would be
booked once more with every sync.

## Contents
- `Db.unlogged`: the rows without the log.
- `Db.OrderBooked`, `Db.AllBooked`: the answers about orders are booked.
- `syncOrders_unlogged`, `sync_unlogged`: a sync of booked orders.
- `Db.BookedBut`, the invariant of a first sync; `syncOrder_books`, `syncOpenOrders_books`.
- `repeated_syncs_only_log`.
-/

namespace TradingAI

open Session Rounding PaperBrokerSyncService

/-! ## Reports that are booked -/

/-- The database without the log of its syncs, and without the counter that also numbers the log. -/
def Db.unlogged (db : Db) : Db := { db with brokerSyncLogs := [], nextId := 0 }

@[simp] theorem Db.unlogged_addBrokerSyncLog (db : Db) (log : BrokerSyncLog) :
    (db.addBrokerSyncLog log).unlogged = db.unlogged := rfl

/-- What a broker answers, by the key of an order and its broker order id. -/
abbrev BrokerAnswers := ℕ → String → Except Raised BrokerOrderResult

/-- **The answer about `x` is booked**: it is no report with a status the program knows, or the row shows it
    and nothing of it is missing in the trades. -/
def Db.OrderBooked (db : Db) (answers : BrokerAnswers) (x : Order) : Prop :=
  ∀ r status, answers x.id (x.brokerOrderId.getD "") = .ok r → mapOrderStatus r.status = some status →
    syncedOrder r status x = x ∧ unbookedFill db x.id r = none

/-- The answer about every open order is booked. -/
structure Db.AllBooked (db : Db) (answers : BrokerAnswers) : Prop where
  distinct : (db.orders.map Order.id).Nodup
  booked   : ∀ x ∈ db.orders, Db.isOpenPaperOrder x = true → db.OrderBooked answers x

variable {db db' : Db} {x y : Order} {r r' : BrokerOrderResult} {env : SyncEnv} {status : OrderStatus}
  {answers : BrokerAnswers} {st : Store Db BrokerBook} {now : DateTime}

theorem unbookedFill_congr (h : db'.fills = db.fills) (id : ℕ) : unbookedFill db' id r = unbookedFill db id r := by
  unfold unbookedFill
  rw [Db.filledQuantityByOrder_eq, Db.filledQuantityByOrder_eq, h]

theorem Db.OrderBooked.of_fills (h : db.OrderBooked answers x) (hsame : db'.fills = db.fills) :
    db'.OrderBooked answers x := by
  intro r status hanswer hstatus
  obtain ⟨hrow, hfill⟩ := h r status hanswer hstatus
  exact ⟨hrow, (unbookedFill_congr hsame x.id).trans hfill⟩

theorem Db.AllBooked.of_unlogged (h : db.AllBooked answers) (hsame : db'.unlogged = db.unlogged) :
    db'.AllBooked answers := by
  have horders : db'.orders = db.orders := by
    change db'.unlogged.orders = db.unlogged.orders
    rw [hsame]
  have hfills : db'.fills = db.fills := by
    change db'.unlogged.fills = db.unlogged.fills
    rw [hsame]
  refine ⟨horders ▸ h.distinct, ?_⟩
  intro x hx hopen
  exact (h.booked x (horders ▸ hx) hopen).of_fills hfills

/-! ## A sync of booked orders -/

/-- A booked report writes what is there. -/
theorem applyReport_unlogged {portfolio : PortfolioRow} (hdistinct : (db.orders.map Order.id).Nodup)
    (hx : x ∈ db.orders) (hrow : syncedOrder r status x = x) (hfill : unbookedFill db x.id r = none) :
    (applyReport db x portfolio status r now).unlogged = db.unlogged := by
  have hsame : db.updateOrder x.id (syncedOrder r status) = db := by
    have hmap : db.orders.map (fun o => if o.id = x.id then syncedOrder r status o else o) = db.orders := by
      refine (List.map_congr_left fun y hy => ?_).trans (List.map_id _)
      by_cases hid : y.id = x.id
      · obtain rfl := List.inj_on_of_nodup_map hdistinct hy hx hid
        rw [if_pos hid, hrow, id]
      · rw [if_neg hid, id]
    unfold Db.updateOrder
    rw [hmap]
  unfold applyReport
  dsimp only
  rw [hfill, hsame]
  rfl

/-- A provider error is logged. -/
theorem persistSyncFailure_unlogged {book : BrokerBook} {orderId : ℕ} {message : String} {details : Details}
    (E : Raised → BrokerBook → Prop) (herr : ∀ e, E e book) :
    (persistSyncFailure env orderId message details).wp (fun _ db' _ => db'.unlogged = db.unlogged) E db book := by
  unfold persistSyncFailure
  simp only [Tx.wp_bind, Tx.wp_get]
  refine Tx.wp_mayRaise (fun _ => ?_) fun e _ => herr e
  refine Tx.wp_expect (fun o _ => ?_) fun _ => herr _
  rfl

/-- **A poll of a booked order** writes its log, whether it returns or raises. -/
theorem syncOrder_unlogged (h : st.current.AllBooked env.getOrderStatus) (hx : x ∈ st.current.orders)
    (hopen : Db.isOpenPaperOrder x = true) :
    (syncOrder env x).wp (fun _ st' => st'.current.unlogged = st.current.unlogged)
      (fun _ st' => st'.current.unlogged = st.current.unlogged) st := by
  unfold syncOrder
  simp only [Proc.wp_tryCatch, Proc.wp_bind]
  have hcatch : ∀ e : Raised, (if e.kind = .brokerProvider then
        Proc.withSession (persistSyncFailure env x.id e.message e.details)
      else Proc.raise e : DbProc BrokerOrderSyncResult).wp
      (fun _ st' => st'.current.unlogged = st.current.unlogged)
      (fun _ st' => st'.current.unlogged = st.current.unlogged) st := by
    intro e
    split
    · rw [Proc.wp_withSession]
      exact persistSyncFailure_unlogged _ fun _ => rfl
    · rfl
  refine Proc.wp_ofExcept (fun r hr => ?_) fun e _ => hcatch e
  rw [Proc.wp_withSession]
  unfold persistOrderSync
  simp only [Tx.wp_bind, Tx.wp_get]
  refine Tx.wp_mayRaise (fun _ => ?_) fun e _ => hcatch e
  rw [getOrder_of_mem h.distinct hx]
  refine Tx.wp_expect (fun o ho => ?_) fun _ => hcatch _
  obtain rfl := Option.some.inj ho
  refine Tx.wp_expect (fun portfolio _ => ?_) fun _ => hcatch _
  cases hstatus : mapOrderStatus r.status with
  | none => rfl
  | some status =>
      obtain ⟨hrow, hfill⟩ := h.booked x hx hopen r status hr hstatus
      exact applyReport_unlogged h.distinct hx hrow hfill

theorem syncOrders_unlogged {orders : List Order} (h : st.current.AllBooked env.getOrderStatus)
    (horders : ∀ x ∈ orders, x ∈ st.current.orders ∧ Db.isOpenPaperOrder x = true) :
    (syncOrders env orders).wp (fun _ st' => st'.current.unlogged = st.current.unlogged)
      (fun _ st' => st'.current.unlogged = st.current.unlogged) st := by
  induction orders generalizing st with
  | nil => rfl
  | cons x orders ih =>
      obtain ⟨hx, hopen⟩ := horders x (List.mem_cons_self ..)
      unfold syncOrders
      simp only [Proc.wp_bind, Proc.wp_pure]
      refine Proc.wp_mono (syncOrder_unlogged h hx hopen) (fun _ st₁ hsame => ?_) fun _ _ hsame => hsame
      have hrows : st₁.current.orders = st.current.orders := by
        change st₁.current.unlogged.orders = st.current.unlogged.orders
        rw [hsame]
      have hrest := ih (h.of_unlogged hsame) fun y hy => by
        rw [hrows]
        exact horders y (List.mem_cons_of_mem _ hy)
      exact Proc.wp_mono hrest (fun _ _ hlast => hlast.trans hsame) fun _ _ hlast => hlast.trans hsame

/-- **A sync of booked orders** writes its log. -/
theorem sync_unlogged (h : st.current.AllBooked env.getOrderStatus) :
    (PaperCall.exec (.sync env) st).current.unlogged = st.current.unlogged := by
  refine Proc.exec_of_wp (P := fun st' : Store Db BrokerBook => st'.current.unlogged = st.current.unlogged) ?_
  unfold syncOpenOrders
  simp only [Proc.wp_bind]
  refine Proc.wp_ofExcept (fun _ _ => ?_) fun _ _ => rfl
  rw [Proc.wp_readSession]
  simp only [Tx.wp_bind, Tx.wp_get, Tx.wp_pure]
  refine Tx.wp_mayRaise (fun _ => ?_) fun _ _ => rfl
  exact syncOrders_unlogged h fun x hx => Db.mem_listOpenPaperOrders.mp hx

/-! ## What a poll books -/

/-- **What is booked is not booked again**, on the places of the column. -/
theorem Reported.unbookedFill_eq_none (h : Reported x status r now db db') (hgrid : OnGrid 8 r.filledQuantity) :
    unbookedFill db' x.id r = none := by
  unfold unbookedFill
  rw [Db.filledQuantityByOrder_eq, h.fills]
  cases hfill : unbookedFill db x.id r with
  | none =>
      have hnone : deltaEntry db x r = none := by rw [deltaEntry, hfill, Option.map_none]
      rw [hnone, Option.toList_none, List.append_nil]
      unfold unbookedFill at hfill
      rwa [Db.filledQuantityByOrder_eq] at hfill
  | some fill =>
      obtain ⟨q, price⟩ := fill
      obtain ⟨hq, -, -⟩ := unbookedFill_eq_some hfill
      have hqgrid : OnGrid 8 q := hq ▸ hgrid.sub (filledOf_onGrid db x.id)
      have hentry : ∀ f ∈ deltaEntry db x r, f.orderId = x.id := by
        intro f hf
        obtain ⟨_, -, rfl⟩ := Option.map_eq_some_iff.mp hf
        rfl
      have hfilled : filledOf (db.fills ++ (deltaEntry db x r).toList) x.id = r.filledQuantity := by
        rw [filledOf_entry hentry]
        simp only [deltaEntry, hfill, Option.map_some, Option.elim_some, numeric_val_of_onGrid hqgrid]
        linarith
      rw [hfilled, sub_self]
      rfl

/-- The trades of a report leave the other orders' as they are. -/
theorem Reported.unbookedFill_other (h : Reported x status r now db db') (hid : y.id ≠ x.id) :
    unbookedFill db' y.id r' = unbookedFill db y.id r' := by
  have hother : ∀ f ∈ (deltaEntry db x r).toList, f.orderId ≠ y.id := by
    intro f hf
    obtain ⟨_, -, rfl⟩ := Option.map_eq_some_iff.mp (Option.mem_toList.mp hf)
    exact hid.symm
  unfold unbookedFill
  rw [Db.filledQuantityByOrder_eq, Db.filledQuantityByOrder_eq, h.fills, filledOf_append hother]

/-- The answer about a polled order is booked. -/
theorem Reported.booked (h : Reported x status r now db db') (hanswer : answers x.id (x.brokerOrderId.getD "") = .ok r)
    (hstatus : mapOrderStatus r.status = some status) (hgrid : OnGrid 8 r.filledQuantity) :
    db'.OrderBooked answers (syncedOrder r status x) := by
  intro r' status' hanswer' hstatus'
  obtain rfl := Except.ok.inj (hanswer.symm.trans hanswer')
  obtain rfl := Option.some.inj (hstatus.symm.trans hstatus')
  exact ⟨rfl, h.unbookedFill_eq_none hgrid⟩

/-! ## The first sync -/

/-- **The invariant of a sync**: the answer about every open order is booked, but for the orders still to be
    polled, which are as they were listed. -/
structure Db.BookedBut (db : Db) (answers : BrokerAnswers) (orders : List Order) : Prop where
  distinct : (db.orders.map Order.id).Nodup
  booked   : ∀ x ∈ db.orders, Db.isOpenPaperOrder x = true → x ∈ orders ∨ db.OrderBooked answers x
  pending  : Pending orders db

/-- A poll that books nothing, since the broker has no answer to book. -/
theorem Db.BookedBut.skip {orders : List Order} (h : db.BookedBut answers (x :: orders)) (hcore : db'.core = db.core)
    (hbooked : db.OrderBooked answers x) : db'.BookedBut answers orders := by
  have horders : db'.orders = db.orders := congrArg Core.orders hcore
  have hfills : db'.fills = db.fills := congrArg (fun c : Core => c.trades.map Trade.fill) hcore
  refine ⟨horders ▸ h.distinct, ?_, ?_⟩
  · intro y hy hopen
    rcases h.booked y (horders ▸ hy) hopen with hmem | hy
    · rcases List.mem_cons.mp hmem with rfl | hmem
      · exact .inr (hbooked.of_fills hfills)
      · exact .inl hmem
    · exact .inr (hy.of_fills hfills)
  · intro y hy
    rw [horders]
    exact h.pending y (List.mem_cons_of_mem _ hy)

/-- A poll that books a report. -/
theorem Db.BookedBut.report {orders : List Order} (h : db.BookedBut answers (x :: orders))
    (hothers : ∀ y ∈ orders, y.id ≠ x.id) (hreported : Reported x status r now db db')
    (hanswer : answers x.id (x.brokerOrderId.getD "") = .ok r) (hstatus : mapOrderStatus r.status = some status)
    (hgrid : OnGrid 8 r.filledQuantity) : db'.BookedBut answers orders := by
  have hx : x ∈ db.orders := h.pending x (List.mem_cons_self ..)
  have hids : db'.orders.map Order.id = db.orders.map Order.id := by
    rw [hreported.orders, List.map_map]
    refine List.map_congr_left fun y _ => ?_
    rw [Function.comp_apply]
    split <;> rfl
  refine ⟨hids ▸ h.distinct, ?_, ?_⟩
  · intro y' hy' hopen
    rw [hreported.orders] at hy'
    obtain ⟨y, hy, rfl⟩ := List.mem_map.mp hy'
    by_cases hid : y.id = x.id
    · obtain rfl := List.inj_on_of_nodup_map h.distinct hy hx hid
      rw [if_pos rfl]
      exact .inr (hreported.booked hanswer hstatus hgrid)
    · rw [if_neg hid] at hopen ⊢
      rcases h.booked y hy hopen with hmem | hbooked
      · rcases List.mem_cons.mp hmem with rfl | hmem
        · exact absurd rfl hid
        · exact .inl hmem
      · refine .inr fun r' status' hanswer' hstatus' => ?_
        obtain ⟨hrow, hfill⟩ := hbooked r' status' hanswer' hstatus'
        exact ⟨hrow, (hreported.unbookedFill_other hid).trans hfill⟩
  · intro y hy
    rw [hreported.orders]
    exact List.mem_map.mpr ⟨y, h.pending y (List.mem_cons_of_mem _ hy), if_neg (hothers y hy)⟩

/-- **What a sync needs to book for good**: the database does not raise the provider's own error, and a
    trade's column holds what the broker reports as filled. -/
structure SyncEnv.Books (env : SyncEnv) (orders : List Order) : Prop where
  faults : ∀ o e, env.fault o = some e → e.kind ≠ .brokerProvider
  grid   : ∀ x ∈ orders, ∀ r, env.getOrderStatus x.id (x.brokerOrderId.getD "") = .ok r → OnGrid 8 r.filledQuantity

/-- **One poll of a first sync**, where it returns. -/
theorem syncOrder_books {orders : List Order} (henv : env.Books (x :: orders)) (hothers : ∀ y ∈ orders, y.id ≠ x.id)
    (h : st.current.BookedBut env.getOrderStatus (x :: orders)) :
    (syncOrder env x).wp (fun _ st' => st'.current.BookedBut env.getOrderStatus orders) (fun _ _ => True) st := by
  unfold syncOrder
  simp only [Proc.wp_tryCatch, Proc.wp_bind]
  have hx := h.pending x (List.mem_cons_self ..)
  refine Proc.wp_ofExcept (fun r hr => ?_) fun e he => ?_
  · have hcatch : ∀ e : Raised, e.kind ≠ .brokerProvider → (if e.kind = .brokerProvider then
          Proc.withSession (persistSyncFailure env x.id e.message e.details)
        else Proc.raise e : DbProc BrokerOrderSyncResult).wp
        (fun _ st' => st'.current.BookedBut env.getOrderStatus orders) (fun _ _ => True) st := by
      intro e hkind
      rw [if_neg hkind]
      trivial
    rw [Proc.wp_withSession]
    unfold persistOrderSync
    simp only [Tx.wp_bind, Tx.wp_get]
    refine Tx.wp_mayRaise (fun _ => ?_) fun e he => hcatch e (henv.faults _ e he)
    rw [getOrder_of_mem h.distinct hx]
    refine Tx.wp_expect (fun o ho => ?_) fun _ => hcatch _ (by simp [runtimeError])
    obtain rfl := Option.some.inj ho
    refine Tx.wp_expect (fun portfolio hportfolio => ?_) fun _ => hcatch _ (by simp [runtimeError])
    cases hstatus : mapOrderStatus r.status with
    | none =>
        refine h.skip (Db.core_addBrokerSyncLog _ _) fun r' status hanswer hknown => ?_
        obtain rfl := Except.ok.inj (hr.symm.trans hanswer)
        rw [hstatus] at hknown
        cases hknown
    | some status =>
        exact h.report hothers (applyReport_reported hportfolio) hr hstatus (henv.grid x (List.mem_cons_self ..) r hr)
  · split
    · rw [Proc.wp_withSession]
      refine wp_persistSyncFailure (fun _ db' hcore _ => ?_) fun _ => trivial
      refine h.skip hcore fun r status hanswer _ => ?_
      rw [he] at hanswer
      cases hanswer
    · trivial

theorem syncOrders_books {orders : List Order} (henv : env.Books orders) (hdistinct : (orders.map Order.id).Nodup)
    (h : st.current.BookedBut env.getOrderStatus orders) :
    (syncOrders env orders).wp (fun _ st' => st'.current.BookedBut env.getOrderStatus []) (fun _ _ => True) st := by
  induction orders generalizing st with
  | nil => exact h
  | cons x orders ih =>
      rw [List.map_cons, List.nodup_cons] at hdistinct
      have hothers : ∀ y ∈ orders, y.id ≠ x.id := fun y hy hid => hdistinct.1 (hid ▸ List.mem_map_of_mem hy)
      have hrest : env.Books orders := ⟨henv.faults, fun y hy => henv.grid y (List.mem_cons_of_mem _ hy)⟩
      unfold syncOrders
      simp only [Proc.wp_bind, Proc.wp_pure]
      exact Proc.wp_mono (syncOrder_books henv hothers h) (fun _ _ h₁ => ih hrest hdistinct.2 h₁) fun _ _ _ => trivial

/-- The orders a sync goes through are distinct. -/
theorem listed_distinct (h : (db.orders.map Order.id).Nodup) : (db.listOpenPaperOrders.map Order.id).Nodup := by
  have hperm : (db.listOpenPaperOrders.map Order.id).Perm ((db.orders.filter Db.isOpenPaperOrder).map Order.id) :=
    (List.perm_insertionSort _ _).map _
  exact hperm.nodup_iff.mpr (h.sublist (List.filter_sublist.map _))

/-- **A sync books its answers**, where it returns. -/
theorem syncOpenOrders_books (hdistinct : (st.current.orders.map Order.id).Nodup)
    (henv : env.Books st.current.listOpenPaperOrders) :
    (syncOpenOrders env).wp (fun _ st' => st'.current.AllBooked env.getOrderStatus) (fun _ _ => True) st := by
  unfold syncOpenOrders
  simp only [Proc.wp_bind]
  refine Proc.wp_ofExcept (fun _ _ => ?_) fun _ _ => trivial
  rw [Proc.wp_readSession]
  simp only [Tx.wp_bind, Tx.wp_get, Tx.wp_pure]
  refine Tx.wp_mayRaise (fun _ => ?_) fun _ _ => trivial
  have hstart : st.current.BookedBut env.getOrderStatus st.current.listOpenPaperOrders :=
    ⟨hdistinct, fun x hx hopen => .inl (Db.mem_listOpenPaperOrders.mpr ⟨hx, hopen⟩),
      fun x hx => (Db.mem_listOpenPaperOrders.mp hx).1⟩
  refine Proc.wp_mono (syncOrders_books henv (listed_distinct hdistinct) hstart) (fun _ st' h => ?_) fun _ _ _ => trivial
  exact ⟨h.distinct, fun x hx hopen => (h.booked x hx hopen).resolve_left (List.not_mem_nil)⟩

/-! ## Sync after sync -/

/-- Every state of a run has distinct keys, and the portfolio it began with. -/
theorem runCalls_hasPortfolio (calls : List PaperCall) (h : OpensFlat db) :
    (runCalls calls db).current.WellKeyed ∧ (runCalls calls db).current.portfolio.isSome = true := by
  have hcoreOf : ∀ db db' : Db, db.portfolio.isSome = true → db'.core = db.core → db'.portfolio.isSome = true := by
    intro db db' hsome hcore
    rw [show db'.portfolio = db.portfolio from congrArg Core.portfolio hcore]
    exact hsome
  have hstep : ∀ c (st : Store Db BrokerBook), st.Keeps (Keyed fun db => db.portfolio.isSome = true) → True →
      (PaperCall.exec c st).Keeps (Keyed fun db => db.portfolio.isSome = true) := by
    intro c st hst _
    have hmeets : CallMeets (fun _ _ _ _ => True) (fun _ _ _ => True) c st := by
      cases c with
      | nextStep => exact fun _ => trivial
      | eventStep => exact fun _ => trivial
      | sync => exact PollsMeet.of_forall fun _ _ _ _ _ => trivial
    refine call_keeps hst (fun db step f now hsome => ?_) (fun db env eventId t slot _ hsome _ => ⟨hsome, ?_⟩) hcoreOf
      (fun db db' x status r now _ _ _ _ _ hrep => ?_) hmeets
    · rw [(db.recordFailure_frame step f now).1.1]
      exact hsome
    · refine ⟨fun p db' _ hconcluded => ?_, fun p db' _ hsubmitted => ?_, fun p db' r db'' _ _ _ _ hexecuted => ?_⟩
      · obtain ⟨_, _, _, _, _, _, _, hcore⟩ := hconcluded.core
        rw [show db'.portfolio = some _ from congrArg Core.portfolio hcore]
        rfl
      · obtain ⟨_, _, _, hcore⟩ := hsubmitted.prepared.core
        rw [show db'.portfolio = _ from congrArg Core.portfolio hcore]
        exact hsome
      · obtain ⟨_, -, hrow⟩ := hexecuted.portfolio
        rw [hrow]
        rfl
    · obtain ⟨_, -, hrow⟩ := hrep.portfolio
      rw [hrow]
      rfl
  have hmeet : Runs.AllMeet PaperCall.exec (fun _ _ => True) calls (Store.opened db {}) :=
    Runs.allMeet_iff_forall.mpr fun _ _ => trivial
  obtain ⟨_, row, -, hrow, -⟩ := h.portfolio
  have hsome : db.portfolio.isSome = true := by rw [hrow]; rfl
  exact (Runs.run_keeps hstep hmeet (.opened ⟨h.wellKeyed, hsome⟩)).1

/-- **Asking again changes nothing.** After any run of an experiment, let a sync return and book what a broker
    reports. Then every later sync that gets the same answers, at whatever time and whether or not the database
    fails it, leaves every row but its log as the first one left it. -/
theorem repeated_syncs_only_log (calls : List PaperCall) (later : List SyncEnv) (hflat : OpensFlat db)
    (hreturns : (syncOpenOrders env (runCalls calls db)).1.isOk = true)
    (henv : env.Books (runCalls calls db).current.listOpenPaperOrders)
    (hsame : ∀ e ∈ later, e.getOrderStatus = env.getOrderStatus) :
    (runCalls (calls ++ .sync env :: later.map .sync) db).current.unlogged =
      (runCalls (calls ++ [.sync env]) db).current.unlogged := by
  have hsync : runCalls (calls ++ [.sync env]) db = PaperCall.exec (.sync env) (runCalls calls db) :=
    Runs.run_append calls [.sync env] _
  have hlater : runCalls (calls ++ .sync env :: later.map .sync) db =
      Runs.run PaperCall.exec (later.map .sync) (runCalls (calls ++ [.sync env]) db) := by
    unfold runCalls
    rw [← Runs.run_append, List.append_assoc, List.singleton_append]
  have hbooked : (runCalls (calls ++ [.sync env]) db).current.AllBooked env.getOrderStatus := by
    have hfirst := syncOpenOrders_books (runCalls_hasPortfolio calls hflat).1.distinct henv
    rw [hsync]
    change ((syncOpenOrders env).exec (runCalls calls db)).current.AllBooked env.getOrderStatus
    unfold Proc.wp at hfirst
    unfold Proc.exec
    rcases hrun : syncOpenOrders env (runCalls calls db) with ⟨_ | _, st'⟩ <;> rw [hrun] at hfirst hreturns
    · cases hreturns
    · exact hfirst
  rw [hlater]
  have hmeet : Runs.AllMeet PaperCall.exec (fun c _ => ∃ e ∈ later, PaperCall.sync e = c) (later.map .sync)
      (runCalls (calls ++ [.sync env]) db) :=
    Runs.allMeet_iff_forall.mpr fun x hx => List.mem_map.mp (Runs.fst_mem_of_mem_meetings hx)
  refine Runs.run_keeps (I := fun st : Store Db BrokerBook =>
    st.current.unlogged = (runCalls (calls ++ [.sync env]) db).current.unlogged) ?_ hmeet rfl
  rintro c st hst ⟨e, he, rfl⟩
  exact (sync_unlogged (hsame e he ▸ hbooked.of_unlogged hst)).trans hst

/-- A sync in which every order is found filled in part, `quantity` shares at 100. -/
def partialSync (quantity : ℚ) (now : DateTime) : SyncEnv where
  now            := now
  getOrderStatus := fun _ brokerOrderId => .ok
    { brokerOrderId, status := "partially_filled", symbol := spySymbol, side := .buy, quantity := 10,
      filledQuantity := quantity, averageFillPrice := some 100, submittedAt := none, filledAt := none }

/-- Four of the ten shares fill; the two syncs that follow find the same, and write nothing but that. -/
theorem four_shares_once :
    (runCalls (acceptedStep 0 :: .sync (partialSync 4 1) :: [.sync (partialSync 4 2), .sync (partialSync 4 3)])
        (smallDb .buyAndHold .daily)).current.unlogged =
      (runCalls [acceptedStep 0, .sync (partialSync 4 1)] (smallDb .buyAndHold .daily)).current.unlogged ∧
    (runCalls [acceptedStep 0, .sync (partialSync 4 1)] (smallDb .buyAndHold .daily)).current.trades.length = 1 ∧
    (runCalls [acceptedStep 0, .sync (partialSync 4 1)]
        (smallDb .buyAndHold .daily)).current.listOpenPaperOrders.length = 1 := by
  refine ⟨repeated_syncs_only_log [acceptedStep 0] [partialSync 4 2, partialSync 4 3]
    (smallDb_flat .buyAndHold .daily) (by decide +kernel) ⟨fun _ _ h => ?_, fun x _ r h => ?_⟩ ?_, ?_, ?_⟩
  · cases h
  · cases h
    exact ⟨4 * 10 ^ 8, by norm_num [partialSync]⟩
  · intro e he
    rcases List.mem_pair.mp he with rfl | rfl <;> rfl
  · decide +kernel
  · decide +kernel

/-- Where the report has a part of a share the column cannot hold, each sync books a trade for it. -/
example : (runCalls [acceptedStep 0, .sync (partialSync (1 / 3) 1), .sync (partialSync (1 / 3) 2)]
    (smallDb .buyAndHold .daily)).current.trades.map (fun t => t.quantity.val) = [33333333 / 10 ^ 8, 0] := by
  decide +kernel

end TradingAI
