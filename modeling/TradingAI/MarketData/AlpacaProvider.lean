import TradingAI.Lib.Pagination
import TradingAI.MarketData.BarTexts
import Mathlib.Data.List.Sort

/-!
# `MarketData.AlpacaProvider` — bars over HTTP

Both Alpaca providers ask one endpoint for bars, which answers in pages. The intraday provider follows the
page tokens (`loadAllPages`); the daily provider makes one request (`AlpacaMarketDataProvider.loadRange`).

## Contents
- `HttpAnswer`, `BarsQuery`, `AlpacaApi`; `jsonOf`, what `_get` and `_json` make of an answer.
- `ResponseReader`, `shown`, `textField`: texts of an answer.
- `alpacaBarToDailyBar`, `validateBars`, `AlpacaMarketDataProvider.loadRange`.
- `intradayPage`, `AlpacaIntradayMarketDataProvider.loadAllPages`.
-/

namespace TradingAI

open Pagination

/-! ## The endpoint -/

/-- What a request comes to: an error status, another error of the client, a body that is not JSON, a value, or
    an exception nobody catches. -/
inductive HttpAnswer
  | httpStatusError (statusCode : ℕ) (responseText : String)
  | httpError (error : String)
  | notJson (responseText : String)
  | json (payload : Json.Value)
  | raises (e : Raised)

/-- A request to `/v2/stocks/{symbol}/bars`, with its parameters. -/
structure BarsQuery where
  symbol     : String
  timeframe  : String
  start      : String
  end_       : String
  adjustment : String
  feed       : String
  pageToken  : Option String := none

abbrev AlpacaApi := BarsQuery → HttpAnswer

/-- A JSON value in the details of an error. -/
def detailOf : Json.Value → Value
  | .null                       => .null
  | .bool b                     => .bool b
  | .int n                      => .num n
  | .float (.finite q)          => .num q
  | .float (.infinity negative) => .text (if negative then "-Infinity" else "Infinity")
  | .float (.nan _)             => .text "NaN"
  | .str cs                     => .text (String.ofList cs)
  | .list values                => .list (detailsOfList values)
  | .dict entries               => .dict (detailsOfDict entries)
where
  detailsOfList : List Json.Value → List Value
    | []      => []
    | v :: vs => detailOf v :: detailsOfList vs
  detailsOfDict : List (List Char × Json.Value) → Details
    | []           => []
    | (k, v) :: es => (String.ofList k, detailOf v) :: detailsOfDict es

/-- `_get` and `_json` of a provider, from its name in their messages. -/
def jsonOf (name : String) : HttpAnswer → Except Raised JsonObject
  | .httpStatusError statusCode responseText =>
      .error (marketDataProviderError (name ++ " request failed.")
        [("statusCode", .num statusCode), ("responseText", .text responseText)])
  | .httpError error => .error (marketDataProviderError (name ++ " request failed.") [("error", .text error)])
  | .notJson responseText =>
      .error (marketDataProviderError (name ++ " response was not valid JSON.") [("responseText", .text responseText)])
  | .json (.dict payload) => .ok payload
  | .json payload =>
      .error (marketDataProviderError (name ++ " response is malformed.") [("payload", detailOf payload)])
  | .raises e => .error e

/-- What reading the other answers depends on: what `str` shows, and `datetime.fromisoformat` without its offset,
    where `none` is a `ValueError`. -/
structure ResponseReader extends Interpreter where
  wallClock : List Char → Option DateTime

/-- `str(value)`. -/
def shown (reader : ResponseReader) (v : Json.Value) : Except Raised (List Char) :=
  if reader.reprLimit < v.depth then .error (runtimeError "maximum recursion depth exceeded")
  else .ok (reader.str v).toList

/-- A field that is a text or `None`. What is neither, which the source keeps as it is, is kept by its text. -/
def textField (reader : ResponseReader) : Json.Value → Option String
  | .null   => none
  | .str cs => some (String.ofList cs)
  | v       => some (reader.str v)

/-- The `feed` and the `adjustment` a provider is created with. -/
structure AlpacaSettings where
  feed       : String := "iex"
  adjustment : String := "all"

/-! ## Daily bars -/

def couldNotBeMapped (payload : Json.Value) : Raised :=
  marketDataProviderError "Alpaca market data response could not be mapped." [("payload", detailOf payload)]

/-- `payload[key]`; a missing key is a `KeyError`, which is caught. -/
def itemOf (payload : Json.Value) (entries : JsonObject) (key : String) : Except Raised Json.Value :=
  match entries.find? (·.1 = key.toList) with
  | some (_, v) => .ok v
  | none        => .error (couldNotBeMapped payload)

/-- `Decimal(str(payload[key]))`. The bars of the model hold numbers: an infinity and a NaN, which the source
    keeps, are not mapped here. -/
def decimalEntry (reader : BarReader) (payload : Json.Value) (entries : JsonObject) (key : String) : Except Raised ℚ := do
  match decimalOf reader.toInterpreter (← itemOf payload entries key) with
  | .ok (some (.finite q)) => .ok q
  | .ok _                  => .error (couldNotBeMapped payload)
  | .error _               => .error (runtimeError "maximum recursion depth exceeded")

/-- `value.replace("Z", "+00:00")`. -/
def normalizedTimestamp (cs : List Char) : List Char :=
  cs.flatMap fun c => if c = 'Z' then "+00:00".toList else [c]

/-- `alpaca_bar_to_daily_bar`. The details of its error also hold the text of the exception, which is left out. -/
def alpacaBarToDailyBar (reader : BarReader) (payload : Json.Value) : Except Raised DailyBar :=
  match payload with
  | .dict entries => do
      match ← itemOf payload entries "t" with
      | .str timestamp =>
          match reader.fromIsoFormat (normalizedTimestamp timestamp) with
          | none => .error (couldNotBeMapped payload)
          | some parsed => do
              let close ← decimalEntry reader payload entries "c"
              let open_ ← decimalEntry reader payload entries "o"
              let high ← decimalEntry reader payload entries "h"
              let low ← decimalEntry reader payload entries "l"
              let volume ← decimalEntry reader payload entries "v"
              pure ⟨parsed.date, open_, high, low, close, close, volume, some parsed.utc⟩
      -- only a text has a method `replace`: an `AttributeError`
      | _ => .error (runtimeError "object has no attribute 'replace'")
  -- a `TypeError`
  | _ => .error (couldNotBeMapped payload)

/-- `_validate_bars`, with the dates seen so far. -/
def validateBars (startDate endDate : Date) (symbol : String) : List Date → List DailyBar → Except Raised Unit
  | _, [] => .ok ()
  | seen, bar :: bars =>
      if bar.date ∈ seen then
        .error (marketDataProviderError "Alpaca returned duplicate bars."
          [("symbol", .text symbol), ("date", .text (isoDate bar.date))])
      else if ¬ (startDate ≤ bar.date ∧ bar.date ≤ endDate) then
        .error (marketDataProviderError "Alpaca returned an out-of-range bar."
          [("symbol", .text symbol), ("date", .text (isoDate bar.date)),
           ("startDate", .text (isoDate startDate)), ("endDate", .text (isoDate endDate))])
      else validateBars startDate endDate symbol (bar.date :: seen) bars

/-- `sorted(bars, key=lambda bar: bar.date)`. -/
def sortedByDate (bars : List DailyBar) : List DailyBar := bars.insertionSort fun a b => a.date ≤ b.date

namespace AlpacaMarketDataProvider

/-- `_validate_request`. -/
def validateRequest (symbol : String) (frequency : TradingFrequency) : Except Raised Unit :=
  if ¬ isSupportedEquitySymbol symbol then
    .error (marketDataProviderError "Alpaca market data provider supports configured equity symbols only."
      [("symbol", .text symbol)])
  else if frequency ≠ .daily then
    .error (marketDataProviderError "Alpaca market data provider supports daily bars only."
      [("frequency", .text frequency.value)])
  else .ok ()

/-- The request for a range of dates. -/
def rangeQuery (settings : AlpacaSettings) (startDate endDate : Date) (symbol : String) : BarsQuery where
  symbol     := symbol
  timeframe  := "1Day"
  start      := isoDate startDate ++ "T00:00:00Z"
  end_       := isoDate endDate ++ "T23:59:59Z"
  adjustment := settings.adjustment
  feed       := settings.feed

/-- `load_range`. -/
def loadRange (settings : AlpacaSettings) (reader : BarReader) (api : AlpacaApi) (startDate endDate : Date)
    (symbol : String) (frequency : TradingFrequency) : Except Raised (List DailyBar) := do
  let symbol := normalizeSymbol symbol
  validateRequest symbol frequency
  let payload ← jsonOf "Alpaca market data" (api (rangeQuery settings startDate endDate symbol))
  match Json.get payload "bars" with
  | .list [] =>
      .error (marketDataUnavailableError "Alpaca returned no historical bars."
        [("symbol", .text symbol), ("startDate", .text (isoDate startDate)), ("endDate", .text (isoDate endDate))])
  | .list barsPayload => do
      let bars ← barsPayload.mapM (alpacaBarToDailyBar reader)
      validateBars startDate endDate symbol [] bars
      pure (sortedByDate bars)
  | _ =>
      .error (marketDataProviderError "Alpaca historical bars response is malformed."
        [("payload", .dict (detailOf.detailsOfDict payload))])

end AlpacaMarketDataProvider

/-! ## Pages of intraday bars -/

/-- One round of the loop of `_load_all_pages`: the bars of an answer and the token of the next page. -/
def intradayPage (answer : HttpAnswer) : Except Raised (Page Json.Value String) := do
  let payload ← jsonOf "Alpaca intraday market data" answer
  match Json.get payload "bars" with
  | .list barsPayload =>
      match Json.get payload "next_page_token" with
      | .null => .ok ⟨barsPayload, none⟩
      | .str (c :: cs) => .ok ⟨barsPayload, some (String.ofList (c :: cs))⟩
      | _ =>
          .error (marketDataProviderError "Alpaca intraday pagination token is malformed."
            [("payload", .dict (detailOf.detailsOfDict payload))])
  | _ =>
      .error (marketDataProviderError "Alpaca intraday bars response is malformed."
        [("payload", .dict (detailOf.detailsOfDict payload))])

/-- `datetime.isoformat` of a whole second. -/
def isoSecond (t : DateTime) : String :=
  let padded (n : ℕ) : String := if n < 10 then "0" ++ toString n else toString n
  let seconds := t.time / 1000000
  isoDate t.date ++ "T" ++ padded (seconds / 3600) ++ ":" ++ padded (seconds / 60 % 60) ++ ":" ++ padded (seconds % 60)

namespace AlpacaIntradayMarketDataProvider

/-- The first request for a range of dates; the others add the token of their page. -/
def rangeQuery (settings : AlpacaSettings) (zone : Zone) (startDate endDate : Date) (symbol : String) : BarsQuery where
  symbol     := symbol
  timeframe  := "5Min"
  start      := isoSecond (zone.toUtc (DateTime.midnight startDate + regularOpenTime)) ++ "Z"
  end_       := isoSecond (zone.toUtc (DateTime.midnight endDate + regularCloseTime)) ++ "Z"
  adjustment := settings.adjustment
  feed       := settings.feed

/-- `_load_all_pages`, for as many requests as `fuel` says. -/
def loadAllPages (settings : AlpacaSettings) (zone : Zone) (api : AlpacaApi) (fuel : ℕ) (symbol : String)
    (startDate endDate : Date) : Option (Except Raised (List Json.Value)) :=
  collect (fun token => intradayPage (api { rangeQuery settings zone startDate endDate symbol with pageToken := token }))
    fuel [] none

end AlpacaIntradayMarketDataProvider

end TradingAI
