import TradingAI.Execution.Environment
import TradingAI.Lib.Json

/-!
# `Agents.Types` — what agents read, answer and log

`ParsedAgentOutput` is one trading decision of a language model after parsing; the other outputs are those
of the stages of the pipeline. A provider answers a prompt with a text, or raises an `Exception`, of which
the agents only read the text.
-/

namespace TradingAI

structure AgentProviderResponse where
  rawOutputText : String
  modelName     : String
  modelVersion  : Option String := none

/-- A call of a provider: the exception, by its text, or the answer. -/
abbrev ProviderAnswer (α : Type) := Except String α

structure ParsedAgentOutput where
  action            : TradeAction
  tradeIntent       : TradeIntent
  targetExposurePct : ℚ
  confidence        : ℚ
  primaryDriver     : PrimaryDriver
  newInformation    : Bool
  rationale         : String
  eventId           : Option String := none

/-! ## Outputs of the pipeline's stages -/

inductive MarketBias
  | bullish | bearish | neutral
  deriving DecidableEq, Repr

inductive RiskManagerVerdict
  | approve | reject
  deriving DecidableEq, Repr

inductive RiskLevel
  | low | medium | high
  deriving DecidableEq, Repr

def MarketBias.value : MarketBias → String
  | .bullish => "BULLISH"
  | .bearish => "BEARISH"
  | .neutral => "NEUTRAL"

def RiskManagerVerdict.value : RiskManagerVerdict → String
  | .approve => "APPROVE"
  | .reject  => "REJECT"

def RiskLevel.value : RiskLevel → String
  | .low    => "LOW"
  | .medium => "MEDIUM"
  | .high   => "HIGH"

structure MarketAnalysisOutput where
  marketBias : MarketBias
  confidence : ℚ
  rationale  : String

structure RiskManagerOutput where
  verdict    : RiskManagerVerdict
  confidence : ℚ
  rationale  : String

/-- An object of a JSON text, as it was read. -/
abbrev JsonObject := List (List Char × Json.Value)

/-- The optional figures may be NaN: nothing compares them. -/
structure TechnicalAnalysisOutput where
  signal             : MarketBias
  confidence         : ℚ
  rationale          : String
  rsi                : Option DecimalText.Number
  sma20              : Option DecimalText.Number
  trend              : String
  volatilityPct      : Option DecimalText.Number
  indicators         : Option JsonObject := none
  timeHorizonSignals : Option JsonObject := none
  riskNotes          : Option (List String) := none

structure FundamentalAnalysisOutput where
  signal     : MarketBias
  confidence : ℚ
  summary    : String

structure SentimentAnalysisOutput where
  signal     : MarketBias
  confidence : ℚ
  summary    : String

structure RiskAssessmentOutput where
  riskLevel  : RiskLevel
  confidence : ℚ
  summary    : String
  deriving DecidableEq

/-- `value or default`, of a text that may be missing or empty. -/
def textOr (value : Option String) (default : String) : String :=
  match value with
  | some text => if text = "" then default else text
  | none      => default

/-! ## Texts of decimals -/

/-- `str` of a `Decimal` with four places. -/
def showDecimal4 (x : ℚ) : String :=
  let n := ⌊|x| * 10000⌋.toNat
  let places := (toString (n % 10000)).toList
  String.ofList ((if x < 0 then ['-'] else []) ++ (toString (n / 10000)).toList ++ ['.']
    ++ List.replicate (4 - places.length) '0' ++ places)

example : showDecimal4 (13 / 20) = "0.6500" := by decide +kernel

end TradingAI
