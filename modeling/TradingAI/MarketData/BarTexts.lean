import TradingAI.Agents.OutputParser
import TradingAI.MarketData.Bars
import TradingAI.MarketData.TradingCalendar

/-!
# `MarketData.BarTexts` — numbers and timestamps of bars, from their texts

Bars arrive as texts, from a CSV file or from a JSON body. A text that cannot be read is a
`MarketDataProviderError`. A value that is no text at all is an exception nobody turns into one: a row of a CSV
file that is too short has none in its last columns.
-/

namespace TradingAI

/-- What `datetime.fromisoformat` reads from a text: the date as it is written, the instant in UTC, and whether
    the text says how far it is from UTC. -/
structure IsoTimestamp where
  date  : Date
  utc   : DateTime
  aware : Bool

/-- What reading a bar depends on: the number a JSON value is, and `datetime.fromisoformat`, where `none` is a
    `ValueError`. -/
structure BarReader extends Interpreter where
  fromIsoFormat : List Char → Option IsoTimestamp

/-! ## Rows of the intraday CSV file -/

/-- A row, by its columns; `none` where the row is too short to have one. -/
structure CsvRow where
  timestamp : Option (List Char)
  open_     : Option (List Char)
  high      : Option (List Char)
  low       : Option (List Char)
  close     : Option (List Char)
  volume    : Option (List Char)

/-- The file, if it exists. -/
structure CsvFixture where
  fieldnames : List String
  rows       : List CsvRow

namespace SpyIntradayCsvLoader

def requiredColumns : List String := ["timestamp", "open", "high", "low", "close", "volume"]

/-- `Decimal(row[column])`. The bars of the model hold numbers: an infinity and a NaN, which the source keeps, are
    malformed here. -/
def numberOf (rowNumber : ℕ) : Option (List Char) → Except Raised ℚ
  | none    => .error (runtimeError "conversion from NoneType to Decimal is not supported")
  | some cs =>
      match DecimalText.read cs with
      | some (.finite q) => .ok q
      | _                =>
          .error (marketDataProviderError ("Malformed numeric intraday value at row " ++ toString rowNumber ++ ".") [])

/-- `_parse_row`. -/
def parseRow (reader : BarReader) (zone : Zone) (row : CsvRow) (rowNumber : ℕ) : Except Raised IntradayBar :=
  match row.timestamp with
  | none => .error (runtimeError "fromisoformat: argument must be str")
  | some text =>
      match reader.fromIsoFormat text with
      | none =>
          .error (marketDataProviderError ("Malformed intraday timestamp at row " ++ toString rowNumber ++ ".") [])
      | some parsed =>
          if ¬ parsed.aware then
            .error (marketDataProviderError
              ("Intraday timestamp at row " ++ toString rowNumber ++ " must include a timezone.") [])
          else do
            let localTimestamp := zone.ofUtc parsed.utc
            let open_ ← numberOf rowNumber row.open_
            let high ← numberOf rowNumber row.high
            let low ← numberOf rowNumber row.low
            let close ← numberOf rowNumber row.close
            let volume ← numberOf rowNumber row.volume
            pure ⟨localTimestamp, localTimestamp.date, open_, high, low, close, volume⟩

/-- `_read_rows`; the rows are counted from 2, after the header. -/
def readRows (reader : BarReader) (zone : Zone) (csvPath : String) (file : Option CsvFixture) :
    Except Raised (List IntradayBar) :=
  match file with
  | none => .error (marketDataUnavailableError ("Intraday CSV fixture was not found: " ++ csvPath) [])
  | some file =>
      if ¬ (file.fieldnames ⊆ requiredColumns ∧ requiredColumns ⊆ file.fieldnames) then
        .error (marketDataProviderError
          "Intraday CSV fixture must contain timestamp,open,high,low,close,volume." [])
      else file.rows.zipIdx.mapM fun (row, index) => parseRow reader zone row (index + 2)

end SpyIntradayCsvLoader

end TradingAI
