import TradingAI.Domain.Values

/-!
# `Broker.Adapter` — what is asked of the broker and what it reports

A run is given the broker's answers, and they are arbitrary. What the adapter makes of an HTTP answer is in
`Broker.AlpacaAdapter`.
-/

namespace TradingAI

/-- The arguments of `place_order`. -/
structure OrderRequest where
  symbol        : String
  side          : OrderSide
  quantity      : ℚ
  orderType     : OrderType
  clientOrderId : String
  deriving DecidableEq

/-- A broker report on one order: the answer of `place_order` and of `get_order_status`. Its amounts are whatever
    numbers the adapter reads. -/
structure OrderReport (N : Type) where
  brokerOrderId    : String
  status           : String
  symbol           : String
  side             : OrderSide
  quantity         : N
  filledQuantity   : N
  averageFillPrice : Option N
  submittedAt      : Option DateTime
  filledAt         : Option DateTime
  raw              : Details := []
  errorMessage     : Option String := none

def OrderReport.map {N M : Type} (f : N → M) (r : OrderReport N) : OrderReport M :=
  { r with
    quantity         := f r.quantity
    filledQuantity   := f r.filledQuantity
    averageFillPrice := r.averageFillPrice.map f }

/-- A report that can be booked: its amounts are finite. -/
abbrev BrokerOrderResult := OrderReport ℚ

/-- What the broker knows that the database may not: the reports of the orders it took, newest first. -/
structure BrokerBook where
  placed : List BrokerOrderResult := []

/-- Enter a report into the book. -/
def BrokerBook.enter (b : BrokerBook) (r : BrokerOrderResult) : BrokerBook := ⟨r :: b.placed⟩

/-! ## Order statuses in the broker's words -/

/-- The words of an order that is still working. -/
def workingStatuses : List String := ["accepted", "new", "pending_new", "partially_filled"]

/-- The words of an order that ended without filling completely. -/
def cancelledStatuses : List String := ["canceled", "cancelled", "expired"]

/-- The status a report asks for, where the program knows the word (in any case). -/
def knownOrderStatus (status : String) : Option OrderStatus :=
  if lower status = "filled" then some .filled
  else if workingStatuses.contains (lower status) then some .submitted
  else if lower status = "rejected" then some .rejected
  else if cancelledStatuses.contains (lower status) then some .cancelled
  else none

end TradingAI
