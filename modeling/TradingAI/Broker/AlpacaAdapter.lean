import TradingAI.Agents.PipelineOutputParser
import TradingAI.Broker.Adapter
import TradingAI.MarketData.AlpacaProvider

/-!
# `Broker.AlpacaAdapter` — the paper trading endpoint of Alpaca

`AlpacaPaperTradingAdapter` sends an order or asks for its status and maps the answer to a report. Its amounts are
kept as they are read, also an infinity and a NaN. Whatever the endpoint answers, what is no report is a
`BrokerProviderError` (`getOrderStatus_kind`, `placeOrder_kind`), unless a value of it is nested too deep to be shown.

## Contents
- `TradingRequest`, `TradingApi`; `brokerJsonOf`, what `_request` and `_json` make of an answer.
- `mapOrderResponse`, `validateOrder`, `placeOrder`, `getOrderStatus`.
- `Answers`; `mapOrderResponse_kind`, `getOrderStatus_kind`, `placeOrder_kind`.
-/

namespace TradingAI

open DecimalText Outcome PipelineOutputParser

/-! ## The endpoint -/

/-- The body of `POST /v2/orders`; `qty` is sent as a text. -/
structure OrderBody where
  symbol        : String
  qty           : ℚ
  side          : String
  type          : String := "market"
  timeInForce   : String := "day"
  clientOrderId : String

/-- A request of the adapter, by its path. -/
inductive TradingRequest
  | post (path : String) (body : OrderBody)
  | get (path : String)

abbrev TradingApi := TradingRequest → HttpAnswer

def brokerProviderError (message : String) (details : Details) : Raised := ⟨.brokerProvider, message, details⟩

namespace AlpacaPaperTradingAdapter

/-- `_request` and `_json`. -/
def brokerJsonOf : HttpAnswer → Except Raised Json.Value
  | .httpStatusError statusCode responseText =>
      .error (brokerProviderError "Alpaca paper trading request failed."
        [("statusCode", .num statusCode), ("responseText", .text responseText)])
  | .httpError error => .error (brokerProviderError "Alpaca paper trading request failed." [("error", .text error)])
  | .notJson responseText =>
      .error (brokerProviderError "Alpaca paper trading response was not valid JSON." [("responseText", .text responseText)])
  | .json (.dict payload) => .ok (.dict payload)
  | .json (.list payload) => .ok (.list payload)
  | .json payload =>
      .error (brokerProviderError "Alpaca paper trading response is malformed." [("payload", detailOf payload)])
  | .raises e => .error e

/-! ## Reports -/

/-- The text of the exception is left out of the details. -/
def malformedOrder (payload : Json.Value) : Raised :=
  brokerProviderError "Alpaca order response is malformed." [("payload", detailOf payload)]

/-- `payload[key]`; a missing key is a `KeyError`, which is caught. -/
def entryOf (payload : JsonObject) (key : String) : Except Raised Json.Value :=
  match payload.find? (·.1 = key.toList) with
  | some (_, v) => .ok v
  | none        => .error (malformedOrder (.dict payload))

/-- `str(payload[key])`. -/
def textEntry (reader : ResponseReader) (payload : JsonObject) (key : String) : Except Raised (List Char) := do
  shown reader (← entryOf payload key)

/-- `Decimal(str(value))`; an `InvalidOperation` is caught. -/
def decimalField (reader : ResponseReader) (payload : JsonObject) (v : Json.Value) : Except Raised Number :=
  match decimalOf reader.toInterpreter v with
  | .ok (some n) => .ok n
  | .ok none     => .error (malformedOrder (.dict payload))
  | .error _     => .error (runtimeError "maximum recursion depth exceeded")

/-- `_optional_decimal`. -/
def optionalDecimal (reader : ResponseReader) (payload : JsonObject) : Json.Value → Except Raised (Option Number)
  | .null => .ok none
  | v     => (decimalField reader payload v).map some

/-- `_parse_datetime`; a `ValueError` is caught. -/
def parseDatetime (reader : ResponseReader) (payload : JsonObject) : Json.Value → Except Raised (Option DateTime)
  | .null => .ok none
  | v     => do
      match reader.wallClock (normalizedTimestamp (← shown reader v)) with
      | some t => .ok (some t)
      | none   => .error (malformedOrder (.dict payload))

/-- `OrderSide(str(payload["side"]).upper())`. -/
def sideOf (payload : JsonObject) (text : List Char) : Except Raised OrderSide :=
  if upper text = "BUY".toList then .ok .buy
  else if upper text = "SELL".toList then .ok .sell
  else .error (malformedOrder (.dict payload))

/-- `payload.get("filled_qty") or "0"`. -/
def filledQty (payload : JsonObject) : Json.Value :=
  if truthy (Json.get payload "filled_qty") then Json.get payload "filled_qty" else .str ['0']

/-- `_map_order_response`. -/
def mapOrderResponse (reader : ResponseReader) : Json.Value → Except Raised (OrderReport Number)
  | .dict payload => do
      let brokerOrderId ← textEntry reader payload "id"
      let status ← textEntry reader payload "status"
      let symbol ← textEntry reader payload "symbol"
      let side ← sideOf payload (← textEntry reader payload "side")
      let quantity ← decimalField reader payload (← entryOf payload "qty")
      let filledQuantity ← decimalField reader payload (filledQty payload)
      let averageFillPrice ← optionalDecimal reader payload (Json.get payload "filled_avg_price")
      let submittedAt ← parseDatetime reader payload (Json.get payload "submitted_at")
      let filledAt ← parseDatetime reader payload (Json.get payload "filled_at")
      pure
        { brokerOrderId := String.ofList brokerOrderId
          status        := String.ofList status
          symbol        := String.ofList symbol
          side, quantity, filledQuantity, averageFillPrice, submittedAt, filledAt
          raw           := detailOf.detailsOfDict payload
          errorMessage  := textField reader (Json.get payload "reject_reason") }
  | payload => .error (malformedOrder payload)

/-! ## Requests -/

/-- There is one member, so the second check of `_validate_order` never fails. -/
def orderTypeValue : OrderType → String
  | .market => "MARKET"

/-- `_validate_order`. -/
def validateOrder (symbol : String) (orderType : OrderType) : Except Raised Unit :=
  if ¬ isSupportedEquitySymbol symbol then
    .error (brokerProviderError "Alpaca paper trading adapter supports configured equity symbols only."
      [("symbol", .text symbol)])
  else if orderType ≠ .market then
    .error (brokerProviderError "Alpaca paper trading adapter supports market orders only."
      [("orderType", .text (orderTypeValue orderType))])
  else .ok ()

/-- `side.value.lower()`. -/
def sideWord : OrderSide → String
  | .buy  => "buy"
  | .sell => "sell"

/-- `place_order`. -/
def placeOrder (reader : ResponseReader) (api : TradingApi) (request : OrderRequest) :
    Except Raised (OrderReport Number) := do
  let symbol := normalizeSymbol request.symbol
  validateOrder symbol request.orderType
  let payload ← brokerJsonOf (api (.post "/v2/orders"
    { symbol, qty := request.quantity, side := sideWord request.side, clientOrderId := request.clientOrderId }))
  mapOrderResponse reader payload

/-- `get_order_status`. -/
def getOrderStatus (reader : ResponseReader) (api : TradingApi) (brokerOrderId : String) :
    Except Raised (OrderReport Number) := do
  mapOrderResponse reader (← brokerJsonOf (api (.get ("/v2/orders/" ++ brokerOrderId))))

/-! ## What can go wrong -/

/-- **The answers of an endpoint**: nothing but what `_request` and `_json` catch goes wrong, and no body is nested
    deeper than `str` can show. -/
structure Answers (reader : ResponseReader) (api : TradingApi) : Prop where
  caught  : ∀ request e, api request ≠ .raises e
  shallow : ∀ request payload, api request = .json payload → payload.depth ≤ reader.reprLimit

variable {reader : ResponseReader} {api : TradingApi} {payload : JsonObject} {v : Json.Value} {key : String} {e : Raised}

/-- An entry is not nested deeper than its object. -/
theorem depth_entry {k : List Char} (h : (k, v) ∈ payload) : v.depth ≤ Json.Value.depth.depthOfDict payload := by
  induction payload with
  | nil => cases h
  | cons entry payload ih =>
      obtain ⟨k', v'⟩ := entry
      unfold Json.Value.depth.depthOfDict
      rcases List.mem_cons.mp h with heq | h
      · obtain ⟨-, rfl⟩ := Prod.mk.inj heq
        exact le_max_left _ _
      · exact (ih h).trans (le_max_right _ _)

/-- The exceptions `sync_open_orders` turns into failed results. -/
def IsProviderError (e : Raised) : Prop := e.kind = .brokerProvider

/-- No value of the object is nested too deep to be shown. -/
def Showable (reader : ResponseReader) (payload : JsonObject) : Prop :=
  Json.Value.depth.depthOfDict payload ≤ reader.reprLimit

theorem Showable.get (h : Showable reader payload) (key : String) : (Json.get payload key).depth ≤ reader.reprLimit := by
  unfold Json.get
  cases hfound : payload.find? (·.1 = key.toList) with
  | none => exact Nat.zero_le _
  | some entry => exact (depth_entry (List.mem_of_find?_eq_some hfound)).trans h

theorem shown_ne_error (h : v.depth ≤ reader.reprLimit) : shown reader v ≠ .error e := by
  unfold shown
  rw [if_neg (Nat.not_lt.mpr h)]
  rintro ⟨⟩

/-- An entry is there and can be shown, or its absence is a provider error. -/
theorem entryOf_bind {α : Type} {f : Json.Value → Except Raised α} (h : Showable reader payload)
    (hf : ∀ v e, v.depth ≤ reader.reprLimit → f v = .error e → IsProviderError e)
    (he : (entryOf payload key >>= f) = .error e) : IsProviderError e := by
  unfold entryOf at he
  cases hfound : payload.find? (·.1 = key.toList) with
  | none =>
      rw [hfound] at he
      cases he
      rfl
  | some entry =>
      rw [hfound] at he
      exact hf _ _ ((depth_entry (List.mem_of_find?_eq_some hfound)).trans h) he

theorem textEntry_kind (h : Showable reader payload) (he : textEntry reader payload key = .error e) :
    IsProviderError e :=
  entryOf_bind h (fun _ _ hv he => absurd he (shown_ne_error hv)) he

theorem decimalField_kind (h : v.depth ≤ reader.reprLimit) (he : decimalField reader payload v = .error e) :
    IsProviderError e := by
  unfold decimalField at he
  split at he
  · cases he
  · cases he
    rfl
  · next hdecimal =>
      -- only a list and an object can be too deep
      unfold decimalOf at hdecimal
      split at hdecimal
      all_goals first
        | cases hdecimal
        | rw [if_neg (Nat.not_lt.mpr h)] at hdecimal; cases hdecimal

theorem optionalDecimal_kind (h : v.depth ≤ reader.reprLimit) (he : optionalDecimal reader payload v = .error e) :
    IsProviderError e := by
  unfold optionalDecimal at he
  split at he
  · cases he
  · cases hdecimal : decimalField reader payload v with
    | ok q => rw [hdecimal] at he; cases he
    | error e' =>
        rw [hdecimal] at he
        cases he
        exact decimalField_kind h hdecimal

theorem parseDatetime_kind (h : v.depth ≤ reader.reprLimit) (he : parseDatetime reader payload v = .error e) :
    IsProviderError e := by
  unfold parseDatetime at he
  split at he
  · cases he
  · refine error_of_bind (fun e he => absurd he (shown_ne_error h)) (fun text e he => ?_) he
    split at he
    · cases he
    · cases he
      rfl

theorem sideOf_kind {text : List Char} (he : sideOf payload text = .error e) : IsProviderError e := by
  unfold sideOf at he
  split at he
  · cases he
  · split at he
    · cases he
    · cases he
      rfl

theorem filledQty_depth (h : Showable reader payload) : (filledQty payload).depth ≤ reader.reprLimit := by
  unfold filledQty
  split
  · exact h.get _
  · exact Nat.zero_le _

/-- **What is no report is a provider error.** -/
theorem mapOrderResponse_kind {payload : Json.Value} (h : payload.depth ≤ reader.reprLimit)
    (he : mapOrderResponse reader payload = .error e) : IsProviderError e := by
  unfold mapOrderResponse at he
  split at he
  · next payload =>
      have hshow : Showable reader payload := by
        unfold Json.Value.depth at h
        exact (Nat.le_succ _).trans h
      have htext : ∀ key e, textEntry reader payload key = .error e → IsProviderError e :=
        fun _ _ => textEntry_kind hshow
      refine error_of_bind (htext _) (fun _ _ he => ?_) he
      refine error_of_bind (htext _) (fun _ _ he => ?_) he
      refine error_of_bind (htext _) (fun _ _ he => ?_) he
      refine error_of_bind (htext _) (fun _ _ he => ?_) he
      refine error_of_bind (fun _ he => sideOf_kind he) (fun _ _ he => ?_) he
      refine entryOf_bind hshow (fun _ _ hv he => ?_) he
      refine error_of_bind (fun _ he => decimalField_kind hv he) (fun _ _ he => ?_) he
      refine error_of_bind (fun _ he => decimalField_kind (filledQty_depth hshow) he) (fun _ _ he => ?_) he
      refine error_of_bind (fun _ he => optionalDecimal_kind (hshow.get _) he) (fun _ _ he => ?_) he
      refine error_of_bind (fun _ he => parseDatetime_kind (hshow.get _) he) (fun _ _ he => ?_) he
      refine error_of_bind (fun _ he => parseDatetime_kind (hshow.get _) he) (fun _ _ he => ?_) he
      cases he
  · cases he
    rfl

/-- An answer is a body that can be shown, or it is a provider error. -/
theorem brokerJsonOf_bind {α : Type} {f : Json.Value → Except Raised α} (h : Answers reader api) {request : TradingRequest}
    (hf : ∀ payload e, payload.depth ≤ reader.reprLimit → f payload = .error e → IsProviderError e)
    (he : (brokerJsonOf (api request) >>= f) = .error e) : IsProviderError e := by
  cases hanswer : api request with
  | httpStatusError | httpError | notJson =>
      rw [hanswer] at he
      cases he
      rfl
  | raises e' => exact absurd hanswer (h.caught request e')
  | json payload =>
      rw [hanswer] at he
      cases payload with
      | dict | list => exact hf _ e (h.shallow request _ hanswer) he
      | null | bool | int | float | str =>
          cases he
          rfl

/-- **Asking for a status** raises nothing but a provider error. -/
theorem getOrderStatus_kind (h : Answers reader api) {brokerOrderId : String}
    (he : getOrderStatus reader api brokerOrderId = .error e) : IsProviderError e :=
  brokerJsonOf_bind h (fun _ _ hdepth he => mapOrderResponse_kind hdepth he) he

/-- **So does placing an order.** -/
theorem placeOrder_kind (h : Answers reader api) {request : OrderRequest}
    (he : placeOrder reader api request = .error e) : IsProviderError e := by
  refine error_of_bind (fun e he => ?_) (fun _ e he => brokerJsonOf_bind h (fun _ _ hdepth he => mapOrderResponse_kind hdepth he) he) he
  unfold validateOrder at he
  split at he
  · cases he
    rfl
  · split at he
    · cases he
      rfl
    · cases he

end AlpacaPaperTradingAdapter

end TradingAI
