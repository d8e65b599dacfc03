import TradingAI.Execution.BrokerSync
import TradingAI.Execution.OrderPlacement

/-!
# `Execution.OrderSync` — what one poll of an open order does

`persistOrderSync` in the same terms as `OrderPlacement`: a report with a known status leaves `Reported`,
one with an unknown status, a provider error, or a failing database leaves the core as it is.
-/

namespace TradingAI

open Session PaperBrokerSyncService

/-- The fill a report adds to what is already booked for its order. -/
def deltaEntry (db : Db) (o : Order) (r : BrokerOrderResult) : Option Fill :=
  (unbookedFill db o.id r).map fun (fillDelta, price) =>
    ⟨o.id, o.side, (numeric 8 fillDelta).val, (numeric 4 (fillValue fillDelta price)).val⟩

/-- The portfolio after the unbooked part of a report is booked. -/
def reportedPortfolio (db : Db) (o : Order) (portfolio : PortfolioRow) (r : BrokerOrderResult)
    (now : DateTime) : PortfolioRow :=
  match unbookedFill db o.id r with
  | none => portfolio
  | some (fillDelta, price) => (bookDelta o portfolio.load fillDelta price now).row

/-- The database after a report with the known status `status` was booked. -/
structure Reported (o : Order) (status : OrderStatus) (r : BrokerOrderResult) (now : DateTime)
    (db db' : Db) : Prop where
  portfolio  : ∃ row, db.portfolio = some row ∧ db'.portfolio = some (reportedPortfolio db o row r now)
  orders     : db'.orders = db.orders.map fun x => if x.id = o.id then syncedOrder r status x else x
  fills      : db'.fills = db.fills ++ (deltaEntry db o r).toList
  steps      : db'.steps = db.steps
  experiment : db'.experiment = db.experiment
  marketData : db'.marketData = db.marketData
  nextId     : db.nextId ≤ db'.nextId

variable {env : SyncEnv} {db : Db} {book : BrokerBook}

theorem applyReport_reported {o : Order} {portfolio : PortfolioRow} {status : OrderStatus}
    {r : BrokerOrderResult} {now : DateTime} (hport : db.portfolio = some portfolio) :
    Reported o status r now db (applyReport db o portfolio status r now) := by
  cases hdelta : unbookedFill db o.id r with
  | none =>
      refine ⟨⟨portfolio, hport, ?_⟩, ?_, ?_, ?_, ?_, ?_, ?_⟩
      all_goals
        simp [applyReport, hdelta, Db.addBrokerSyncLog, Db.updateOrder, reportedPortfolio, deltaEntry,
          Db.fills, hport]
  | some delta =>
      obtain ⟨fillDelta, price⟩ := delta
      refine ⟨⟨portfolio, hport, ?_⟩, ?_, ?_, ?_, ?_, ?_, ?_⟩
      all_goals
        simp [applyReport, hdelta, Db.addBrokerSyncLog, Db.updateOrder, reportedPortfolio, deltaEntry,
          Db.fills, addSyncedTrade, applyFillDeltaToPortfolio, Trade.fill, Nat.add_assoc]

theorem Db.getOrder_eq_some {orderId : ℕ} {o : Order} (h : db.getOrder orderId = some o) :
    o ∈ db.orders ∧ o.id = orderId := by
  refine ⟨List.mem_of_find?_eq_some h, ?_⟩
  simpa using List.find?_some h

/-- **One poll**: the core stays, or the report is booked; it raises only if the database does, or has no
    such order, or no portfolio. -/
theorem wp_persistOrderSync {orderId : ℕ} {r : BrokerOrderResult} {E : Raised → BrokerBook → Prop}
    {Q : BrokerOrderSyncResult → Db → BrokerBook → Prop}
    (hunknown : ∀ res db', mapOrderStatus r.status = none → db'.core = db.core →
      db.nextId ≤ db'.nextId → Q res db' book)
    (hknown : ∀ res o status db', db.getOrder orderId = some o → mapOrderStatus r.status = some status →
      Reported o status r env.now db db' → Q res db' book)
    (herr : ∀ e, (env.fault (.persistReport orderId) = some e ∨ db.getOrder orderId = none ∨
      db.portfolio = none) → E e book) :
    (persistOrderSync env orderId r).wp Q E db book := by
  unfold persistOrderSync
  simp only [Tx.wp_bind, Tx.wp_get]
  refine Tx.wp_mayRaise (fun _ => ?_) fun e he => herr e (.inl he)
  refine Tx.wp_expect (fun o ho => ?_) fun ho => herr _ (.inr (.inl ho))
  refine Tx.wp_expect (fun portfolio hport => ?_) fun hport => herr _ (.inr (.inr hport))
  cases hs : mapOrderStatus r.status with
  | none => exact hunknown _ _ hs (Db.core_addBrokerSyncLog _ _) (Nat.le_succ _)
  | some status => exact hknown _ o status _ ho hs (applyReport_reported hport)

theorem wp_persistSyncFailure {orderId : ℕ} {message : String} {details : Details}
    {E : Raised → BrokerBook → Prop} {Q : BrokerOrderSyncResult → Db → BrokerBook → Prop}
    (hok : ∀ res db', db'.core = db.core → db.nextId ≤ db'.nextId → Q res db' book)
    (herr : ∀ e, E e book) :
    (persistSyncFailure env orderId message details).wp Q E db book := by
  unfold persistSyncFailure
  simp only [Tx.wp_bind, Tx.wp_get]
  refine Tx.wp_mayRaise (fun _ => ?_) fun e _ => herr e
  refine Tx.wp_expect (fun o _ => ?_) fun _ => herr _
  exact hok _ _ (Db.core_addBrokerSyncLog _ _) (Nat.le_succ _)

end TradingAI
