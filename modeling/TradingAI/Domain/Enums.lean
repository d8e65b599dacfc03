import Mathlib.Init

/-!
# `Domain.Enums` — the enumerations of the trading domain

One inductive type per `str` enumeration of `app/domain/enums.py`, with its members in the source's
order. `value` is the stored text; it is defined for the enumerations whose text reaches an error or a
log entry.
-/

namespace TradingAI

inductive ExperimentMode
  | historicalSimulation | paperTrading
  deriving DecidableEq, Repr

inductive StrategyType
  | buyAndHold | movingAverage | agenticAi | openingRangeBreakout | paperTradingSmokeTest
  deriving DecidableEq, Repr

inductive ExperimentStatus
  | created | running | paused | stopped | completed | failed
  deriving DecidableEq, Repr

inductive TradingFrequency
  | daily | hourly | weekly | monthly | intraday5Min | test1Min
  deriving DecidableEq, Repr

inductive ExecutionStepStatus
  | running | completed | skipped | failed
  deriving DecidableEq, Repr

inductive TriggerType
  | historical | scheduled | manual | event
  deriving DecidableEq, Repr

inductive DecisionSourceType
  | strategy | agent
  deriving DecidableEq, Repr

inductive TradeAction
  | buy | sell | hold
  deriving DecidableEq, Repr

inductive TradeIntent
  | openLong | addToLong | holdPosition | reduceLong | closeLong | stayOut
  deriving DecidableEq, Repr

inductive PrimaryDriver
  | technical | fundamental | sentiment | risk | portfolio | eventRisk
  deriving DecidableEq, Repr

inductive FinalAction
  | buy | sell | hold
  deriving DecidableEq, Repr

inductive OrderMode
  | simulated | paperBroker
  deriving DecidableEq, Repr

inductive BrokerName
  | alpaca | none
  deriving DecidableEq, Repr

inductive OrderSide
  | buy | sell
  deriving DecidableEq, Repr

inductive OrderType
  | market
  deriving DecidableEq, Repr

inductive OrderStatus
  | created | submitted | filled | rejected | failed | cancelled
  deriving DecidableEq, Repr

inductive AgentMode
  | singleAgent | pipeline
  deriving DecidableEq, Repr

inductive AgentStepName
  | singleDecisionAgent | fetchData | technicalAnalyst | fundamentalAnalyst | sentimentAnalyst
  | marketAnalyst | tradingDecision | riskManager | portfolioManager
  deriving DecidableEq, Repr

inductive ParsingStatus
  | success | failed | repaired
  deriving DecidableEq, Repr

inductive BrokerSyncStatus
  | success | failed | mismatch
  deriving DecidableEq, Repr

inductive NewsEventType
  | geopoliticalRisk | fedRateDecision | inflationCpi | earningsBeat | earningsMiss | guidanceCut
  | analystUpgrade | analystDowngrade | legalRegulatoryRisk | mAndA | productLaunch | supplyChainShock
  | cybersecurityIncident | ceoChange | generalMarketNews
  deriving DecidableEq, Repr

inductive NewsEventSeverity
  | low | medium | high
  deriving DecidableEq, Repr

inductive ImpactDirection
  | positive | negative | neutral
  deriving DecidableEq, Repr

inductive EventDecisionStatus
  | triggered | skipped | failed
  deriving DecidableEq, Repr

inductive EventLevel
  | info | warning | error
  deriving DecidableEq, Repr

inductive SystemEventType
  | experimentCreated | experimentStarted | experimentPaused | experimentResumed | experimentStopped
  | experimentCompleted | experimentFailed | marketDataMissing | strategyDecisionCreated
  | riskLimitTriggered | orderSubmitted | orderFilled | orderFailed | brokerSyncFailed
  | brokerStateMismatch | llmOutputInvalid | llmRepairAttempted | fallbackHoldUsed
  deriving DecidableEq, Repr

/-! ## Stored texts -/

def ExperimentMode.value : ExperimentMode → String
  | .historicalSimulation => "HISTORICAL_SIMULATION"
  | .paperTrading         => "PAPER_TRADING"

def StrategyType.value : StrategyType → String
  | .buyAndHold            => "BUY_AND_HOLD"
  | .movingAverage         => "MOVING_AVERAGE"
  | .agenticAi             => "AGENTIC_AI"
  | .openingRangeBreakout  => "OPENING_RANGE_BREAKOUT"
  | .paperTradingSmokeTest => "PAPER_TRADING_SMOKE_TEST"

def ExperimentStatus.value : ExperimentStatus → String
  | .created   => "CREATED"
  | .running   => "RUNNING"
  | .paused    => "PAUSED"
  | .stopped   => "STOPPED"
  | .completed => "COMPLETED"
  | .failed    => "FAILED"

def TradingFrequency.value : TradingFrequency → String
  | .daily        => "DAILY"
  | .hourly       => "HOURLY"
  | .weekly       => "WEEKLY"
  | .monthly      => "MONTHLY"
  | .intraday5Min => "INTRADAY_5_MIN"
  | .test1Min     => "TEST_1_MIN"

def TriggerType.value : TriggerType → String
  | .historical => "HISTORICAL"
  | .scheduled  => "SCHEDULED"
  | .manual     => "MANUAL"
  | .event      => "EVENT"

def TradeAction.value : TradeAction → String
  | .buy  => "BUY"
  | .sell => "SELL"
  | .hold => "HOLD"

def TradeIntent.value : TradeIntent → String
  | .openLong     => "OPEN_LONG"
  | .addToLong    => "ADD_TO_LONG"
  | .holdPosition => "HOLD_POSITION"
  | .reduceLong   => "REDUCE_LONG"
  | .closeLong    => "CLOSE_LONG"
  | .stayOut      => "STAY_OUT"

def PrimaryDriver.value : PrimaryDriver → String
  | .technical   => "TECHNICAL"
  | .fundamental => "FUNDAMENTAL"
  | .sentiment   => "SENTIMENT"
  | .risk        => "RISK"
  | .portfolio   => "PORTFOLIO"
  | .eventRisk   => "EVENT_RISK"

def AgentMode.value : AgentMode → String
  | .singleAgent => "SINGLE_AGENT"
  | .pipeline    => "PIPELINE"

def AgentStepName.value : AgentStepName → String
  | .singleDecisionAgent => "SINGLE_DECISION_AGENT"
  | .fetchData           => "FETCH_DATA"
  | .technicalAnalyst    => "TECHNICAL_ANALYST"
  | .fundamentalAnalyst  => "FUNDAMENTAL_ANALYST"
  | .sentimentAnalyst    => "SENTIMENT_ANALYST"
  | .marketAnalyst       => "MARKET_ANALYST"
  | .tradingDecision     => "TRADING_DECISION"
  | .riskManager         => "RISK_MANAGER"
  | .portfolioManager    => "PORTFOLIO_MANAGER"

def NewsEventType.value : NewsEventType → String
  | .geopoliticalRisk      => "GEOPOLITICAL_RISK"
  | .fedRateDecision       => "FED_RATE_DECISION"
  | .inflationCpi          => "INFLATION_CPI"
  | .earningsBeat          => "EARNINGS_BEAT"
  | .earningsMiss          => "EARNINGS_MISS"
  | .guidanceCut           => "GUIDANCE_CUT"
  | .analystUpgrade        => "ANALYST_UPGRADE"
  | .analystDowngrade      => "ANALYST_DOWNGRADE"
  | .legalRegulatoryRisk   => "LEGAL_REGULATORY_RISK"
  | .mAndA                 => "M_AND_A"
  | .productLaunch         => "PRODUCT_LAUNCH"
  | .supplyChainShock      => "SUPPLY_CHAIN_SHOCK"
  | .cybersecurityIncident => "CYBERSECURITY_INCIDENT"
  | .ceoChange             => "CEO_CHANGE"
  | .generalMarketNews     => "GENERAL_MARKET_NEWS"

def NewsEventSeverity.value : NewsEventSeverity → String
  | .low    => "LOW"
  | .medium => "MEDIUM"
  | .high   => "HIGH"

def OrderStatus.value : OrderStatus → String
  | .created   => "CREATED"
  | .submitted => "SUBMITTED"
  | .filled    => "FILLED"
  | .rejected  => "REJECTED"
  | .failed    => "FAILED"
  | .cancelled => "CANCELLED"

end TradingAI
