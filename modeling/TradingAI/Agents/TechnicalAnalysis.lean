import TradingAI.Agents.Types
import TradingAI.Lib.SignificantDigits
import TradingAI.MarketData.Bars
import Mathlib.Data.List.DropRight

/-!
# `Agents.TechnicalAnalysis` — the indicators of a price history

`TechnicalAnalysisService` computes its indicators from adjusted closes, oldest first, and adds up a score of four
of them. The pipeline has a copy of one indicator. That one, the relative strength index, is modelled with the
rounding of every operation to the 28 digits of the decimal context; the others are computed exactly.

## Contents
- `sma`, `ema`, `rsi`, `macd`, and the indicators of bars.
- `signalScore`, `analyze`.
- The copy of `_rsi` in `AgentDecisionPipeline`.
-/

namespace TradingAI

open Rounding

/-- The result of an operation in the decimal context, which keeps 28 digits. -/
abbrev inContext (x : ℚ) : ℚ := toDigits 28 x

/-- `sum(values, Decimal("0"))`. -/
def contextSum (values : List ℚ) : ℚ := values.foldl (fun total x => inContext (total + x)) 0

/-- `closes[-window:]`, for a window of at least one. -/
abbrev lastOf {α : Type} (window : ℕ) (values : List α) : List α := values.rtake window

/-- The differences of consecutive values. -/
def changes (closes : List ℚ) : List ℚ :=
  List.zipWith (fun previous current => inContext (current - previous)) closes closes.tail

def gainsOf (changes : List ℚ) : List ℚ := changes.filter (0 < ·)

/-- The negative changes, negated; a change has no more digits than the context keeps. -/
def lossesOf (changes : List ℚ) : List ℚ := (changes.filter (· < 0)).map (- ·)

namespace TechnicalAnalysisService

/-! ## Indicators of closes -/

/-- `_sma`. -/
def sma (closes : List ℚ) (window : ℕ) : Option ℚ :=
  if closes.length < window then none
  else some (quantize4 ((lastOf window closes).sum / window))

/-- The average of `_ema`, before it is quantized: seeded by the mean of the first closes. -/
def emaOf (closes : List ℚ) (window : ℕ) : ℚ :=
  let multiplier : ℚ := 2 / (window + 1)
  (closes.drop window).foldl (fun ema close => (close - ema) * multiplier + ema)
    ((closes.take window).sum / window)

/-- `_ema`. -/
def ema (closes : List ℚ) (window : ℕ) : Option ℚ :=
  if closes.length < window then none else some (quantize4 (emaOf closes window))

/-- `_rsi`. -/
def rsi (closes : List ℚ) (window : ℕ) : Option ℚ :=
  if closes.length ≤ window then none
  else
    let gains := gainsOf (changes closes)
    let losses := lossesOf (changes closes)
    if gains = [] ∧ losses = [] then some 50
    else
      let avgGain := if gains ≠ [] then inContext (contextSum (lastOf window gains) / window) else 0
      let avgLoss := if losses ≠ [] then inContext (contextSum (lastOf window losses) / window) else 0
      if avgLoss = 0 then some 100
      else
        let rs := inContext (avgGain / avgLoss)
        some (quantize4 (inContext (100 - inContext (100 / inContext (1 + rs)))))

structure Macd where
  macd      : Option ℚ
  signal    : Option ℚ
  histogram : Option ℚ
  deriving DecidableEq

/-- `_macd`: the signal is an average of nine times the line, and a signal of zero counts as none. -/
def macd (closes : List ℚ) : Macd :=
  match ema closes 12, ema closes 26 with
  | some ema12, some ema26 =>
      let macdLine := quantize4 (ema12 - ema26)
      let signal := ema (List.replicate 9 macdLine) 9
      { macd := some macdLine
        signal
        histogram := (signal.filter (· ≠ 0)).map fun signal => quantize4 (macdLine - signal) }
  | _, _ => ⟨none, none, none⟩

/-- `_return_signal`. -/
def returnSignal (closes : List ℚ) (window : ℕ) : String :=
  if closes.length ≤ window then "INSUFFICIENT_HISTORY"
  else
    let change := closes.getLastD 0 - closes.getD (closes.length - window - 1) 0
    if 0 < change then "BULLISH" else if change < 0 then "BEARISH" else "NEUTRAL"

/-! ## Indicators of bars -/

/-- `_atr`. -/
def atr (bars : List DailyBar) (window : ℕ) : Option ℚ :=
  if bars.length ≤ window then none
  else
    let ranges := List.zipWith (fun previous current : DailyBar =>
      max (current.high - current.low)
        (max |current.high - previous.adjustedClose| |current.low - previous.adjustedClose|)) bars bars.tail
    some (quantize4 ((lastOf window ranges).sum / window))

structure VolumeAnalysis where
  volumeRatio : Option ℚ
  signal      : String

/-- `_volume_analysis`. -/
def volumeAnalysis (bars : List DailyBar) : VolumeAnalysis :=
  if bars.length < 20 then ⟨none, "INSUFFICIENT_HISTORY"⟩
  else
    let avgVolume := ((lastOf 20 bars).map DailyBar.volume).sum / 20
    let currentVolume := (bars.getLast?.map DailyBar.volume).getD 0
    let ratio := if avgVolume = 0 then 0 else currentVolume / avgVolume
    { volumeRatio := some (quantize4 ratio)
      signal :=
        if 3 / 2 ≤ ratio then "HIGH_VOLUME" else if ratio ≤ 1 / 2 then "LOW_VOLUME" else "NORMAL" }

structure SupportResistance where
  support    : Option ℚ
  resistance : Option ℚ

/-- `_support_resistance`. -/
def supportResistance (bars : List DailyBar) : SupportResistance :=
  if bars.length < 5 then ⟨none, none⟩
  else
    { support    := ((lastOf 20 bars).map DailyBar.low).min?.map quantize4
      resistance := ((lastOf 20 bars).map DailyBar.high).max?.map quantize4 }

/-- `_candlestick`. -/
def candlestick (bars : List DailyBar) : List String :=
  match bars.getLast? with
  | none     => []
  | some bar =>
      let body := |bar.close - bar.open_|
      let fullRange := bar.high - bar.low
      (if 0 < fullRange ∧ body / fullRange < 1 / 10 then ["DOJI"] else []) ++
        (if bar.open_ < bar.close ∧ fullRange * (3 / 5) < body then ["BULLISH_WIDE_BODY"] else []) ++
        (if bar.close < bar.open_ ∧ fullRange * (3 / 5) < body then ["BEARISH_WIDE_BODY"] else [])

structure TimeHorizonSignals where
  shortTerm  : String
  mediumTerm : String
  longTerm   : String

/-- `_time_horizon_signals`. -/
def timeHorizonSignals (bars : List DailyBar) : TimeHorizonSignals :=
  let closes := bars.map DailyBar.adjustedClose
  ⟨returnSignal closes 5, returnSignal closes 20, returnSignal closes 60⟩

structure IntradaySignal where
  signal            : String
  intradayReturnPct : Option ℚ

/-- `_intraday_signal`. -/
def intradaySignal (bars : List IntradayBar) : IntradaySignal :=
  match bars.head?, bars.getLast? with
  | some first, some latest =>
      if bars.length < 2 then ⟨"UNAVAILABLE", none⟩
      else
        let intradayReturn := if first.close = 0 then 0 else (latest.close - first.close) / first.close * 100
        { signal :=
            if 0 < intradayReturn then "BULLISH" else if intradayReturn < 0 then "BEARISH" else "NEUTRAL"
          intradayReturnPct := some (quantize4 intradayReturn) }
  | _, _ => ⟨"UNAVAILABLE", none⟩

/-- `_return_pct`. -/
def returnPct (first latest : ℚ) : ℚ := if first = 0 then 0 else quantize4 ((latest - first) / first * 100)

structure RelativeStrength where
  assetReturnPct     : Option ℚ
  benchmarkReturnPct : Option ℚ
  relativeReturnPct  : Option ℚ

/-- `_relative_strength`, of the adjusted closes of both. -/
def relativeStrength (closes benchmarkCloses : List ℚ) : RelativeStrength :=
  if closes.length < 2 ∨ benchmarkCloses.length < 2 then ⟨none, none, none⟩
  else
    let assetReturn := returnPct (closes.headD 0) (closes.getLastD 0)
    let benchmarkReturn := returnPct (benchmarkCloses.headD 0) (benchmarkCloses.getLastD 0)
    ⟨some assetReturn, some benchmarkReturn, some (quantize4 (assetReturn - benchmarkReturn))⟩

/-- `_risk_notes`. -/
def riskNotes (atr : Option ℚ) (currentPrice : ℚ) (volume : VolumeAnalysis) (candlestick : List String) :
    List String :=
  (if currentPrice ≠ 0 ∧ atr.any fun a => 3 / 100 < a / currentPrice then
      ["ATR is elevated relative to price."] else []) ++
    (if volume.signal = "HIGH_VOLUME" then ["Current volume is materially above the 20-day average."] else []) ++
    (if "BEARISH_WIDE_BODY" ∈ candlestick then ["Latest candle shows bearish wide-body pressure."] else [])

/-! ## The signal -/

/-- One for more than `bound`, minus one for anything else; nothing for an indicator that is missing. -/
def scoreOver (bound : ℚ) : Option ℚ → ℚ
  | none       => 0
  | some value => if bound < value then 1 else -1

/-- What the index adds to the score. -/
def rsiScore : Option ℚ → ℚ
  | none     => 0
  | some rsi => if rsi < 30 then 1 else if 70 < rsi then -1 else 0

/-- What the average adds to the score. -/
def smaScore (currentPrice : ℚ) : Option ℚ → ℚ
  | none     => 0
  | some sma => if sma < currentPrice then 1 else -1

/-- `signal_score` of `analyze`. -/
def signalScore (rsi sma20 : Option ℚ) (currentPrice : ℚ) (histogram relativeReturnPct : Option ℚ) : ℚ :=
  rsiScore rsi + smaScore currentPrice sma20 + scoreOver 0 histogram + scoreOver 0 relativeReturnPct

/-- `signal` and `confidence`. -/
def signalOf (score : ℚ) : MarketBias × ℚ :=
  if 2 ≤ score then (.bullish, 7 / 10) else if score ≤ -2 then (.bearish, 7 / 10) else (.neutral, 1 / 2)

/-- `trend`. -/
def trendOf (currentPrice : ℚ) : Option ℚ → String
  | none     => "FLAT"
  | some sma => if sma < currentPrice then "UPWARD" else if currentPrice < sma then "DOWNWARD" else "FLAT"

/-- What `analyze` computes, with its indicators as numbers. -/
structure Analysis where
  signal                    : MarketBias
  confidence                : ℚ
  rsi                       : Option ℚ
  sma20                     : Option ℚ
  trend                     : String
  volatilityPct             : Option ℚ
  macd                      : Macd
  atr                       : Option ℚ
  volumeAnalysis            : VolumeAnalysis
  supportResistance         : SupportResistance
  candlestickPatterns       : List String
  intradaySignal            : IntradaySignal
  benchmarkRelativeStrength : RelativeStrength
  timeHorizonSignals        : TimeHorizonSignals
  riskNotes                 : List String

/-- `analyze`. -/
def analyze (priceHistory benchmarkHistory : List DailyBar) (intradayHistory : List IntradayBar)
    (volatilityPct : Option ℚ) : Analysis :=
  let closes := priceHistory.map DailyBar.adjustedClose
  let currentPrice := closes.getLastD 0
  let relative := relativeStrength closes (benchmarkHistory.map DailyBar.adjustedClose)
  let score := signalScore (rsi closes 14) (sma closes 20) currentPrice (macd closes).histogram
    relative.relativeReturnPct
  { signal                    := (signalOf score).1
    confidence                := (signalOf score).2
    rsi                       := rsi closes 14
    sma20                     := sma closes 20
    trend                     := trendOf currentPrice (sma closes 20)
    volatilityPct
    macd                      := macd closes
    atr                       := atr priceHistory 14
    volumeAnalysis            := volumeAnalysis priceHistory
    supportResistance         := supportResistance priceHistory
    candlestickPatterns       := candlestick priceHistory
    intradaySignal            := intradaySignal intradayHistory
    benchmarkRelativeStrength := relative
    timeHorizonSignals        := timeHorizonSignals priceHistory
    riskNotes                 := riskNotes (atr priceHistory 14) currentPrice (volumeAnalysis priceHistory)
      (candlestick priceHistory) }

end TechnicalAnalysisService

/-! ## The copy of the pipeline -/

namespace AgentDecisionPipeline

/-- `_rsi`. -/
def rsi (closes : List ℚ) (window : ℕ) : Option ℚ :=
  if closes.length ≤ window then none
  else
    let gains := gainsOf (changes closes)
    let losses := lossesOf (changes closes)
    if gains = [] ∧ losses = [] then some 50
    else
      let avgGain := if gains ≠ [] then inContext (contextSum (lastOf window gains) / window) else 0
      let avgLoss := if losses ≠ [] then inContext (contextSum (lastOf window losses) / window) else 0
      if avgLoss = 0 then some 100
      else
        let rs := inContext (avgGain / avgLoss)
        let rsi := inContext (100 - inContext (100 / inContext (1 + rs)))
        some (quantize4 rsi)

end AgentDecisionPipeline

end TradingAI
