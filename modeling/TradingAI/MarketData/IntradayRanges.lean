import TradingAI.MarketData.AlpacaProvider
import TradingAI.MarketData.IntradayProviders

/-!
# `MarketData.IntradayRanges` — the sessions of a range of dates

`load_range` of both intraday providers, which the historical runs ask, beside the `load_session_until` of the
paper steps. Each provider keeps the bars of the dates asked for and validates them against the calendar.

## Contents
- `IntradayMarketDataProvider`, the protocol.
- `SpyIntradayCsvLoader.loadRange`, `AlpacaIntradayMarketDataProvider.loadRange`.
- `AlpacaIntradayMarketDataProvider.mapBar`, `loadPages`.
-/

namespace TradingAI

open UsEquitiesTradingCalendar Outcome

/-- `load_range`, as a provider answers it. -/
abbrev LoadIntradayRange := Date → Date → String → TradingFrequency → Except Raised (List IntradayBar)

structure IntradayMarketDataProvider where
  loadRange        : LoadIntradayRange
  loadSessionUntil : LoadSessionUntil

def startAfterEnd : Raised := marketDataProviderError "start_date must be before or equal to end_date." []

/-- The bars whose session is in the range. -/
def barsBetween (startDate endDate : Date) (rows : List IntradayBar) : List IntradayBar :=
  rows.filter fun bar => startDate ≤ bar.sessionDate ∧ bar.sessionDate ≤ endDate

/-! ## From the CSV file -/

namespace SpyIntradayCsvLoader

/-- `load_range`; `readRows` is what `_read_rows` returns or raises. -/
def loadRange (readRows : Except Raised (List IntradayBar)) : LoadIntradayRange :=
  fun startDate endDate symbol frequency => do
    refuseIf (symbol ≠ spySymbol) (marketDataProviderError "Only SPY intraday CSV data is supported." [])
    refuseIf (frequency ≠ .intraday5Min) (marketDataProviderError "Only INTRADAY_5_MIN CSV data is supported." [])
    refuseIf (endDate < startDate) startAfterEnd
    let sessions ← sessionsBetween startDate endDate
    let rows ← readRows
    let candidateBars := barsBetween startDate endDate rows
    refuseIf (candidateBars = [] ∧ sessions ≠ [])
      (marketDataUnavailableError "No intraday SPY fixture bars are available for the requested range." [])
    validateIntradayBars candidateBars sessions symbol "csv_intraday"

/-- The loader of a file. -/
def provider (reader : BarReader) (zone : Zone) (csvPath : String) (file : Option CsvFixture) :
    IntradayMarketDataProvider where
  loadRange        := loadRange (readRows reader zone csvPath file)
  loadSessionUntil := loadSessionUntil (readRows reader zone csvPath file)

end SpyIntradayCsvLoader

/-! ## Over HTTP -/

namespace AlpacaIntradayMarketDataProvider

/-- `_validate_request`. -/
def validateRequest (symbol : String) (frequency : TradingFrequency) : Except Raised Unit := do
  refuseIf (¬ isSupportedEquitySymbol symbol)
    (marketDataProviderError "Alpaca intraday market data provider supports configured equity symbols only."
      [("symbol", .text symbol)])
  refuseIf (frequency ≠ .intraday5Min)
    (marketDataProviderError "Alpaca intraday market data provider supports INTRADAY_5_MIN only."
      [("frequency", .text frequency.value)])

/-- The details of both errors of a range without bars. -/
def rangeDetails (symbol : String) (startDate endDate : Date) : Details :=
  [("symbol", .text symbol), ("startDate", .text (isoDate startDate)), ("endDate", .text (isoDate endDate))]

def intradayNotMapped (payload : Json.Value) : Raised :=
  marketDataProviderError "Alpaca intraday market data response could not be mapped." [("payload", detailOf payload)]

/-- `payload[key]`. -/
def entryOf (payload : Json.Value) (entries : JsonObject) (key : String) : Except Raised Json.Value :=
  match entries.find? (·.1 = key.toList) with
  | some (_, v) => .ok v
  | none        => .error (intradayNotMapped payload)

/-- `Decimal(str(payload[key]))`; an infinity and a NaN are not mapped, as in daily bars. -/
def numberEntry (reader : BarReader) (payload : Json.Value) (entries : JsonObject) (key : String) : Except Raised ℚ := do
  match decimalOf reader.toInterpreter (← entryOf payload entries key) with
  | .ok (some (.finite q)) => .ok q
  | .ok _                  => .error (intradayNotMapped payload)
  | .error _               => .error (runtimeError "maximum recursion depth exceeded")

/-- `_parse_timestamp`. -/
def parseTimestamp (reader : BarReader) (zone : Zone) (payload : Json.Value) : Json.Value → Except Raised DateTime
  | .str timestamp =>
      match reader.fromIsoFormat (normalizedTimestamp timestamp) with
      | none        => .error (intradayNotMapped payload)
      | some parsed => if parsed.aware then .ok (zone.ofUtc parsed.utc) else .error (intradayNotMapped payload)
  -- only a text has a method `replace`: an `AttributeError`
  | _ => .error (runtimeError "object has no attribute 'replace'")

/-- `_map_bar`. The text of the exception is left out of the details. -/
def mapBar (reader : BarReader) (zone : Zone) (payload : Json.Value) : Except Raised IntradayBar :=
  match payload with
  | .dict entries => do
      let timestamp ← parseTimestamp reader zone payload (← entryOf payload entries "t")
      let open_ ← numberEntry reader payload entries "o"
      let high ← numberEntry reader payload entries "h"
      let low ← numberEntry reader payload entries "l"
      let close ← numberEntry reader payload entries "c"
      let volume ← numberEntry reader payload entries "v"
      pure ⟨timestamp, timestamp.date, open_, high, low, close, volume⟩
  -- a `TypeError`
  | _ => .error (intradayNotMapped payload)

/-- The mapped bars of all pages. Running out of `fuel` is an error that only the model has. -/
def loadPages (settings : AlpacaSettings) (reader : BarReader) (zone : Zone) (api : AlpacaApi) (fuel : ℕ)
    (symbol : String) (startDate endDate : Date) : Except Raised (List IntradayBar) := do
  let payload ← (loadAllPages settings zone api fuel symbol startDate endDate).getD (.error (runtimeError "out of fuel"))
  payload.mapM (mapBar reader zone)

/-- `load_range`; `pages` are the mapped bars of all pages. The source maps them after the first of the checks,
    which only looks whether there are any. -/
def loadRange (pages : String → Date → Date → Except Raised (List IntradayBar)) : LoadIntradayRange :=
  fun startDate endDate symbol frequency => do
    let symbol := normalizeSymbol symbol
    validateRequest symbol frequency
    refuseIf (endDate < startDate) startAfterEnd
    let sessions ← sessionsBetween startDate endDate
    let rows ← pages symbol startDate endDate
    refuseIf (rows = [] ∧ sessions ≠ [])
      (marketDataUnavailableError "Alpaca returned no intraday bars." (rangeDetails symbol startDate endDate))
    let validatedBars ←
      validateIntradayBars (barsBetween startDate endDate rows) sessions symbol "alpaca_intraday"
    refuseIf (validatedBars = [] ∧ sessions ≠ [])
      (marketDataUnavailableError "Alpaca returned no regular-session intraday bars."
        (rangeDetails symbol startDate endDate))
    pure validatedBars

/-- The provider of an endpoint. -/
def provider (settings : AlpacaSettings) (reader : BarReader) (zone : Zone) (api : AlpacaApi) (fuel : ℕ) :
    IntradayMarketDataProvider where
  loadRange        := loadRange (loadPages settings reader zone api fuel)
  loadSessionUntil := loadSessionUntil (loadPages settings reader zone api fuel)

end AlpacaIntradayMarketDataProvider

end TradingAI
