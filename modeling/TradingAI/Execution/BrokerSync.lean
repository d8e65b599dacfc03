import TradingAI.Execution.PaperStepRunner

/-!
# `Execution.BrokerSync` — polling the orders that are still open

`syncOpenOrders` is `PaperBrokerSyncService.sync_open_orders`: it lists the submitted paper orders, asks
the broker about each, and books whatever filled since the last report. An answer with an unknown status
word is logged and changes nothing else.
-/

namespace TradingAI

open Session

/-- The database operations of a sync: listing, and one write for each order polled. -/
inductive SyncOp
  | list
  | persistReport (orderId : ℕ)
  | persistFailure (orderId : ℕ)
  deriving DecidableEq, Repr

/-- One sync's view of the outside. A report is asked for by order key and broker order id. -/
structure SyncEnv where
  now            : DateTime
  brokerAdapter  : Except Raised Unit := .ok ()
  getOrderStatus : ℕ → String → Except Raised BrokerOrderResult
  fault          : SyncOp → Option Raised := fun _ => none

/-- A database operation, as far as it can fail. -/
def SyncEnv.op (env : SyncEnv) (o : SyncOp) : DbTx Unit := Tx.mayRaise (env.fault o)

structure BrokerOrderSyncResult where
  orderId       : ℕ
  brokerOrderId : String
  syncStatus    : BrokerSyncStatus
  brokerStatus  : Option String
  message       : String
  deriving DecidableEq

structure BrokerSyncRunResult where
  synced : List BrokerOrderSyncResult
  failed : List BrokerOrderSyncResult

namespace PaperBrokerSyncService

/-- `_map_order_status`: an unknown word maps to nothing. -/
def mapOrderStatus (status : String) : Option OrderStatus := knownOrderStatus status

/-! ## Booking a fill delta -/

/-- The portfolio after `fillQuantity` more shares of `order` filled at `fillPrice`. -/
def bookDelta (order : Order) (portfolio : Portfolio) (fillQuantity fillPrice : ℚ) (now : DateTime) :
    Portfolio :=
  (portfolio.bookFill order.side order.symbol fillQuantity (fillValue fillQuantity fillPrice)).markedTo
    fillPrice now

/-- `_apply_fill_delta_to_portfolio`; the trade's key is still 0. -/
def applyFillDeltaToPortfolio (order : Order) (portfolio : Portfolio) (fillQuantity fillPrice : ℚ)
    (timestamp now : DateTime) : Portfolio × Trade :=
  let portfolio' := bookDelta order portfolio fillQuantity fillPrice now
  (portfolio',
   { id := 0, executionStepId := order.executionStepId, orderId := order.id, timestamp,
     symbol := order.symbol, side := order.side, quantity := numeric 8 fillQuantity,
     price := numeric 8 fillPrice, orderValue := numeric 4 (fillValue fillQuantity fillPrice),
     fee := numeric 8 0,
     portfolioValueAfterTrade := portfolio'.currentPortfolioValue.map (numeric 4), createdAt := now })

/-- The part of a report that is not booked yet, with its price: a positive delta and a known average. -/
def unbookedFill (db : Db) (orderId : ℕ) (r : BrokerOrderResult) : Option (ℚ × ℚ) :=
  let fillDelta := r.filledQuantity - db.filledQuantityByOrder orderId
  if 0 < fillDelta then r.averageFillPrice.map fun price => (fillDelta, price) else none

/-! ## Logs -/

/-- The local side of a `_sync_log`. -/
def localPositions (p : Portfolio) : Details :=
  [("symbol", p.positionSymbol.elim .null .text), ("quantity", p.positionQuantity.elim .null .num),
   ("currentPositionValue", p.currentPositionValue.elim .null .num)]

/-- `_sync_log`; its key is still 0. -/
def syncLog (order : Order) (portfolio : Option Portfolio) (now : DateTime) (syncStatus : BrokerSyncStatus)
    (details : Details) (errorMessage : Option String) : BrokerSyncLog where
  id              := 0
  executionStepId := order.executionStepId
  timestamp       := now
  brokerName      := .alpaca
  syncStatus      := syncStatus
  localCash       := portfolio.map fun p => numeric 4 p.cash
  localPositions  := portfolio.map localPositions
  mismatchDetails := details
  errorMessage    := errorMessage
  createdAt       := now

def unknownStatusMessage : String := "Broker returned an unknown order status."

def unknownStatusDetails (r : BrokerOrderResult) : Details :=
  [("syncType", .text "ORDER_STATUS_SYNC"), ("brokerStatus", .text r.status),
   ("brokerPayload", .dict r.raw), ("message", .text unknownStatusMessage)]

def syncDetails (order : Order) (mappedStatus : OrderStatus) (r : BrokerOrderResult) : Details :=
  [("syncType", .text "ORDER_STATUS_SYNC"), ("orderId", .num order.id),
   ("brokerOrderId", order.brokerOrderId.elim .null .text), ("previousStatus", .text order.status.value),
   ("brokerStatus", .text r.status), ("mappedStatus", .text mappedStatus.value),
   ("filledQuantity", .num r.filledQuantity), ("brokerPayload", .dict r.raw)]

/-! ## One order -/

/-- The order row after a report with a known status. -/
def syncedOrder (r : BrokerOrderResult) (status : OrderStatus) (o : Order) : Order :=
  { o with
    status
    averageFillPrice := r.averageFillPrice.map (numeric 8)
    filledAt := r.filledAt
    errorMessage := r.errorMessage }

/-- Insert a trade whose `order_id` is already set. -/
def addSyncedTrade (db : Db) (trade : Trade) : Db :=
  { db with trades := db.trades ++ [{ trade with id := db.nextId }], nextId := db.nextId + 1 }

/-- The rows a report with a known status writes. -/
def applyReport (db : Db) (order : Order) (portfolio : PortfolioRow) (status : OrderStatus)
    (r : BrokerOrderResult) (now : DateTime) : Db :=
  let synced := db.updateOrder order.id (syncedOrder r status)
  let log := fun p => syncLog order (some p) now .success (syncDetails order status r) none
  match unbookedFill db order.id r with
  | none => synced.addBrokerSyncLog (log portfolio.load)
  | some (fillDelta, price) =>
      let (portfolio', trade) :=
        applyFillDeltaToPortfolio order portfolio.load fillDelta price (r.filledAt.getD now) now
      (addSyncedTrade { synced with portfolio := some portfolio'.row } trade).addBrokerSyncLog
        (log portfolio')

/-- `_persist_order_sync`. -/
def persistOrderSync (env : SyncEnv) (orderId : ℕ) (r : BrokerOrderResult) :
    DbTx BrokerOrderSyncResult := do
  env.op (.persistReport orderId)
  let db ← Tx.get
  let order ← Tx.expect (db.getOrder orderId)
    (runtimeError ("Order " ++ toString orderId ++ " was not found."))
  let portfolio ← Tx.expect db.portfolio
    (runtimeError ("Portfolio for experiment " ++ toString db.experimentId ++ " was not found."))
  let brokerOrderId := order.brokerOrderId.getD ""
  match mapOrderStatus r.status with
  | none =>
      Tx.modify (·.addBrokerSyncLog (syncLog order (some portfolio.load) env.now .failed
        (unknownStatusDetails r) (some unknownStatusMessage)))
      pure ⟨order.id, brokerOrderId, .failed, some r.status, unknownStatusMessage⟩
  | some status =>
      Tx.modify (applyReport · order portfolio status r env.now)
      pure ⟨order.id, brokerOrderId, .success, some r.status, "Broker order status synced."⟩

/-- `_persist_sync_failure`. -/
def persistSyncFailure (env : SyncEnv) (orderId : ℕ) (errorMessage : String) (details : Details) :
    DbTx BrokerOrderSyncResult := do
  env.op (.persistFailure orderId)
  let db ← Tx.get
  let order ← Tx.expect (db.getOrder orderId)
    (runtimeError ("Order " ++ toString orderId ++ " was not found."))
  let failureDetails : Details :=
    [("syncType", .text "ORDER_STATUS_SYNC"), ("orderId", .num order.id),
     ("brokerOrderId", order.brokerOrderId.elim .null .text), ("errorDetails", .dict details)]
  Tx.modify (·.addBrokerSyncLog (syncLog order (db.portfolio.map PortfolioRow.load) env.now .failed
    failureDetails (some errorMessage)))
  pure ⟨order.id, order.brokerOrderId.getD "", .failed, none, errorMessage⟩

/-! ## All open orders -/

/-- One turn of the loop: ask, persist, and turn a provider error into a failed result. -/
def syncOrder (env : SyncEnv) (order : Order) : DbProc BrokerOrderSyncResult :=
  Proc.tryCatch
    (do let r ← Proc.ofExcept (env.getOrderStatus order.id (order.brokerOrderId.getD ""))
        Proc.withSession (persistOrderSync env order.id r))
    fun e =>
      if e.kind = .brokerProvider then
        Proc.withSession (persistSyncFailure env order.id e.message e.details)
      else Proc.raise e

/-- File a result under what it says of itself. -/
def BrokerSyncRunResult.file (r : BrokerOrderSyncResult) (rest : BrokerSyncRunResult) :
    BrokerSyncRunResult :=
  if r.syncStatus = .failed then { rest with failed := r :: rest.failed }
  else { rest with synced := r :: rest.synced }

/-- The loop of `sync_open_orders`. -/
def syncOrders (env : SyncEnv) : List Order → DbProc BrokerSyncRunResult
  | [] => pure ⟨[], []⟩
  | order :: orders => do
      let r ← syncOrder env order
      let rest ← syncOrders env orders
      pure (BrokerSyncRunResult.file r rest)

/-- `_create_broker_adapter`: a configuration error becomes a provider error. -/
def createBrokerAdapter (env : SyncEnv) : Except Raised Unit :=
  match env.brokerAdapter with
  | .ok ()   => .ok ()
  | .error e => .error (if e.kind = .brokerConfiguration then { e with kind := .brokerProvider } else e)

/-- `sync_open_orders`. -/
def syncOpenOrders (env : SyncEnv) : DbProc BrokerSyncRunResult := do
  Proc.ofExcept (createBrokerAdapter env)
  let orders ← Proc.readSession do
    env.op .list
    let db ← Tx.get
    pure db.listOpenPaperOrders
  syncOrders env orders

end PaperBrokerSyncService

end TradingAI
