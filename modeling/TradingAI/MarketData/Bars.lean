import TradingAI.Domain.Values

/-!
# `MarketData.Bars` — what a market data provider returns

A provider answers with bars or raises. An empty or incomplete answer is the special case of a provider's
error that callers tell apart.
-/

namespace TradingAI

structure DailyBar where
  date          : Date
  open_         : ℚ
  high          : ℚ
  low           : ℚ
  close         : ℚ
  adjustedClose : ℚ
  volume        : ℚ
  timestamp     : Option DateTime := none

/-- `_bar_timestamp`: a bar without a timestamp counts as midnight of its day. -/
def DailyBar.barTimestamp (bar : DailyBar) : DateTime := bar.timestamp.getD (DateTime.midnight bar.date)

structure IntradayBar where
  timestamp   : DateTime
  sessionDate : Date
  open_       : ℚ
  high        : ℚ
  low         : ℚ
  close       : ℚ
  volume      : ℚ

def marketDataProviderError (message : String) (details : Details) : Raised :=
  ⟨.marketDataProvider, message, details⟩

def marketDataUnavailableError (message : String) (details : Details) : Raised :=
  ⟨.marketDataUnavailable, message, details⟩

end TradingAI
