import TradingAI.Persistence.Repositories
import TradingAI.Scheduler.DueSlots

/-!
# `Api.PaperStatus` — what the status page of a paper experiment says

`GET /experiments/{id}/paper-status` tells whether the scheduler will run the experiment, and if not, why. It
asks the due-slot functions of the scheduler, and has its own list of what the scheduler supports, its own order
of reasons, and its own search for the next evaluation.

## Contents
- `PaperStatusSettings`, the queries of the page.
- `supportedByPaperScheduler`, `statusReason`.
- `announce`, `nextEvaluationTime`: the search through the next fifteen days.
- `getExperimentPaperStatus`.
-/

namespace TradingAI

open UsEquitiesTradingCalendar

/-! ## What the page reads -/

/-- The settings the page asks for. -/
structure PaperStatusSettings where
  paperTradingSchedulerEnabled    : Bool
  alpacaPaperTradingEnabled       : Bool
  paperTradingTestModeEnabled     : Bool
  paperTradingDailyEvaluationTime : EvaluationTime

namespace Db

/-- `OrderRepository.count_open_submitted_by_experiment`. -/
def countOpenSubmitted (db : Db) : ℕ :=
  db.orders.countP fun o => o.mode = .paperBroker ∧ o.status = .submitted ∧ o.brokerOrderId.isSome

/-- `BrokerSyncLogRepository.latest_by_experiment`, the first by descending `timestamp, id`. -/
def latestBrokerSyncLog (db : Db) : Option BrokerSyncLog :=
  (db.brokerSyncLogs.insertionSort fun a b =>
    b.timestamp < a.timestamp ∨ b.timestamp = a.timestamp ∧ b.id ≤ a.id).head?

/-- `ExecutionStepRepository.latest_by_experiment`, the first by descending `created_at, id`. -/
def latestStep (db : Db) : Option ExecutionStep :=
  (db.steps.insertionSort fun a b => b.createdAt < a.createdAt ∨ b.createdAt = a.createdAt ∧ b.id ≤ a.id).head?

end Db

/-! ## The reason -/

/-- `_supported_by_paper_scheduler`. -/
def supportedByPaperScheduler (experiment : Experiment) (strategyConfig : Option StrategyConfig) : Bool :=
  if experiment.mode = .paperTrading ∧ experiment.strategyType ∈ [.buyAndHold, .movingAverage] ∧
      experiment.tradingFrequency = .daily ∧ isSupportedEquitySymbol experiment.assetSymbol then true
  else if experiment.mode = .paperTrading ∧ experiment.strategyType = .agenticAi ∧
      experiment.tradingFrequency ∈ [.daily, .hourly] ∧ isSupportedEquitySymbol experiment.assetSymbol then
    match strategyConfig with
    | none        => false
    | some config => config.agentMode.getD .singleAgent ∈ [AgentMode.singleAgent, .pipeline]
  else if experiment.mode = .paperTrading ∧ experiment.strategyType = .openingRangeBreakout ∧
      experiment.tradingFrequency = .intraday5Min ∧ isSupportedEquitySymbol experiment.assetSymbol then true
  else
    experiment.mode = .paperTrading ∧ experiment.strategyType = .paperTradingSmokeTest ∧
      experiment.tradingFrequency = .test1Min ∧ experiment.assetSymbol = spySymbol

/-- `_is_trading_day`. -/
def isTradingDay (d : Date) : Except Raised Bool :=
  (sessionsBetween d d).map fun sessions => sessions ≠ []

/-- An hourly experiment of the agents. -/
def Experiment.isHourlyAi (experiment : Experiment) : Bool :=
  experiment.strategyType = .agenticAi ∧ experiment.tradingFrequency = .hourly

/-- The reason while no slot is due. -/
def waitingReason (experiment : Experiment) (localDate : Date) : Except Raised (String × String) :=
  (isTradingDay localDate).map fun open_ =>
    if experiment.strategyType = .paperTradingSmokeTest then
      if open_ then
        ("WAITING_FOR_REGULAR_MARKET_HOURS", "The smoke-test strategy runs only during US regular market hours.")
      else ("NON_TRADING_DAY", "Today is not a US equities trading day, so no smoke-test step is due.")
    else if experiment.strategyType = .openingRangeBreakout then
      if open_ then
        ("WAITING_FOR_COMPLETED_INTRADAY_BAR",
          "The Opening Range Breakout paper strategy is waiting for a completed 5-minute regular-session bar.")
      else ("NON_TRADING_DAY", "Today is not a US equities trading day, so no ORB paper step is due.")
    else if experiment.isHourlyAi then
      if open_ then
        ("WAITING_FOR_COMPLETED_HOURLY_BAR",
          "The AI paper strategy is waiting for a completed regular-session hourly bar.")
      else ("NON_TRADING_DAY", "Today is not a US equities trading day, so no hourly AI paper step is due.")
    else if open_ then
      ("WAITING_FOR_DAILY_EVALUATION_TIME",
        "The experiment is waiting for the configured daily paper evaluation time.")
    else ("NON_TRADING_DAY", "Today is not a US equities trading day, so no paper step is due.")

/-- The reason once the slot that is due has its step. -/
def executedReason (experiment : Experiment) : String × String :=
  if experiment.strategyType = .paperTradingSmokeTest then
    ("CURRENT_TEST_SLOT_ALREADY_EXECUTED", "The current smoke-test minute slot has already been executed.")
  else if experiment.strategyType = .openingRangeBreakout then
    ("CURRENT_INTRADAY_SLOT_ALREADY_EXECUTED", "The current ORB 5-minute bar slot has already been executed.")
  else if experiment.isHourlyAi then
    ("CURRENT_HOURLY_SLOT_ALREADY_EXECUTED", "The current hourly AI bar slot has already been executed.")
  else ("CURRENT_DUE_SLOT_ALREADY_EXECUTED", "The current daily paper evaluation slot has already been executed.")

/-- `_status_reason`: the first of its conditions that holds. -/
def statusReason (experiment : Experiment) (supported : Bool) (settings : PaperStatusSettings)
    (currentDueSlot : Option DateTime) (alreadyExecuted : Bool) (openOrderCount : ℕ) (localDate : Date) :
    Except Raised (String × String) :=
  if experiment.mode ≠ .paperTrading then
    .ok ("NOT_PAPER_TRADING", "This experiment is not a paper trading experiment.")
  else if experiment.strategyType = .paperTradingSmokeTest ∧ ¬ settings.paperTradingTestModeEnabled then
    .ok ("PAPER_TRADING_TEST_MODE_DISABLED",
      "Paper trading smoke-test mode is disabled, so no smoke-test steps will be scheduled.")
  else if ¬ supported then
    .ok ("UNSUPPORTED_PAPER_CONFIGURATION",
      "The paper scheduler supports BUY_AND_HOLD DAILY, MOVING_AVERAGE DAILY, "
        ++ "AGENTIC_AI SINGLE_AGENT or PIPELINE (Multi Agent) with DAILY or HOURLY, "
        ++ "OPENING_RANGE_BREAKOUT INTRADAY_5_MIN for supported equity assets, "
        ++ "and gated smoke-test SPY paper-trading experiments.")
  else if ¬ settings.paperTradingSchedulerEnabled then
    .ok ("PAPER_TRADING_SCHEDULER_DISABLED",
      "Paper trading scheduler is disabled. Start changes lifecycle only and will not submit an order until "
        ++ "scheduled execution is enabled.")
  else if ¬ settings.alpacaPaperTradingEnabled then
    .ok ("ALPACA_PAPER_TRADING_DISABLED",
      "Alpaca paper trading is disabled, so scheduled paper execution cannot submit orders.")
  else if experiment.status ≠ .running then
    .ok ("EXPERIMENT_NOT_RUNNING", "The experiment is not RUNNING, so no new scheduled paper steps will be created.")
  else if 0 < openOrderCount then
    .ok ("OPEN_ORDER_PENDING_SYNC", "There is at least one submitted paper order waiting for broker sync.")
  else if currentDueSlot = none then waitingReason experiment localDate
  else if alreadyExecuted then .ok (executedReason experiment)
  else
    .ok ("READY_FOR_NEXT_SCHEDULED_EVALUATION", "The experiment is eligible for the next scheduled paper evaluation.")

/-! ## The next evaluation -/

/-- An instant of a session at which a slot falls due, and the slot. -/
structure Candidate where
  dueAt : DateTime
  slot  : DateTime

/-- The rounds of the loop over the days: the first candidate that is not before `localNow`. -/
def announce (localNow : DateTime) (candidates : Date → TradingSession → List Candidate) :
    ℕ → Date → Except Raised (Option DateTime)
  | 0, _ => .ok none
  | rounds + 1, candidateDate =>
      match sessionsBetween candidateDate candidateDate with
      | .error e           => .error e
      | .ok []             => announce localNow candidates rounds (candidateDate + 1)
      | .ok (session :: _) =>
          match (candidates candidateDate session).find? fun c => localNow ≤ c.dueAt with
          | some c => .ok (some c.slot)
          | none   => announce localNow candidates rounds (candidateDate + 1)

/-- A bar of the opening range is due five minutes after its start. -/
def orbCandidates (candidateDate : Date) (session : TradingSession) : List Candidate :=
  session.expectedBarStartTimes.map fun barStart =>
    ⟨DateTime.midnight candidateDate + barStart.time + barInterval, barStart⟩

def smokeTestCandidates (zone : Zone) (candidateDate : Date) (session : TradingSession) : List Candidate :=
  let candidate := DateTime.midnight candidateDate + session.openTime
  [⟨candidate, zone.toUtc candidate⟩]

/-- An hour is due an hour after its start. -/
def hourlyCandidates (zone : Zone) (candidateDate : Date) (session : TradingSession) : List Candidate :=
  (hourlyWindowsForSession session).map fun window =>
    let start := DateTime.midnight candidateDate + window.start.time
    ⟨start + timeOfDay 1 0, zone.toUtc start⟩

def dailyCandidates (zone : Zone) (dailyEvaluationTime : EvaluationTime) (candidateDate : Date) (_ : TradingSession) :
    List Candidate :=
  let candidate := DateTime.midnight candidateDate + dailyEvaluationTime.time
  [⟨candidate, zone.toUtc candidate⟩]

/-- The slot that is due, and if there is none, what the loop over the next fifteen days finds. -/
def dueOrAnnounced (currentSlot : Except Raised (Option DateTime)) (announced : Except Raised (Option DateTime)) :
    Except Raised (Option DateTime) :=
  match currentSlot with
  | .error e     => .error e
  | .ok (some s) => .ok (some s)
  | .ok none     => announced

/-- `_next_evaluation_time`. The daily branch does not ask what is due. -/
def nextEvaluationTime (zone : Zone) (localNow : DateTime) (dailyEvaluationTime : EvaluationTime)
    (smokeTest orb hourly : Bool) : Except Raised (Option DateTime) :=
  if orb then dueOrAnnounced (paperOrbDueSlot localNow) (announce localNow orbCandidates 15 localNow.date)
  else if smokeTest then
    dueOrAnnounced (paperSmokeTestDueSlot zone localNow)
      (announce localNow (smokeTestCandidates zone) 15 localNow.date)
  else if hourly then
    dueOrAnnounced (paperHourlyDueSlot zone localNow) (announce localNow (hourlyCandidates zone) 15 localNow.date)
  else announce localNow (dailyCandidates zone dailyEvaluationTime) 15 localNow.date

/-! ## The page -/

/-- `_operational_metadata`. -/
def operationalMetadata (experiment : Experiment) (currentDueSlot nextEvaluationTime : Option DateTime) :
    Option Details :=
  let slots : Details :=
    [("currentDueBarTimestamp", currentDueSlot.elim .null .datetime),
     ("nextDueBarTimestamp", nextEvaluationTime.elim .null .datetime),
     ("timezone", .text "America/New_York")]
  match experiment.strategyType with
  | .openingRangeBreakout =>
      some ([("strategy", .text "OPENING_RANGE_BREAKOUT"), ("barInterval", .text "5Min")] ++ slots)
  | .agenticAi =>
      some ([("strategy", .text "AGENTIC_AI"), ("agentMode", .text "SINGLE_AGENT_OR_PIPELINE"),
        ("barInterval", .text (if experiment.tradingFrequency = .hourly then "1Hour" else "1Day"))] ++ slots)
  | _ => none

/-- `PaperStatusResponse`. -/
structure PaperStatusResponse where
  experiment                     : Experiment
  supportedByPaperScheduler      : Bool
  settings                       : PaperStatusSettings
  timezone                       : String := "America/New_York"
  currentDueSlot                 : Option DateTime
  nextEligibleEvaluationTime     : Option DateTime
  alreadyExecutedCurrentDueSlot  : Bool
  openSubmittedOrdersCount       : ℕ
  lastBrokerSyncTimestamp        : Option DateTime
  lastPaperExecutionStep         : Option ExecutionStep
  reasonCode                     : String
  message                        : String
  operationalMetadata            : Option Details

/-- `current_due_slot`: the due-slot function of the experiment's strategy. -/
def currentDueSlotOf (zone : Zone) (settings : PaperStatusSettings) (now : DateTime) (experiment : Experiment) :
    Except Raised (Option DateTime) :=
  if experiment.strategyType = .paperTradingSmokeTest ∧ settings.paperTradingTestModeEnabled then
    paperSmokeTestDueSlot zone now
  else if experiment.strategyType = .openingRangeBreakout then paperOrbDueSlot now
  else if experiment.isHourlyAi then paperHourlyDueSlot zone now
  else paperDailyDueSlot zone now settings.paperTradingDailyEvaluationTime

/-- `next_evaluation_time`. -/
def nextEvaluationTimeOf (zone : Zone) (settings : PaperStatusSettings) (now : DateTime) (experiment : Experiment) :
    Except Raised (Option DateTime) :=
  nextEvaluationTime zone now settings.paperTradingDailyEvaluationTime
    (experiment.strategyType = .paperTradingSmokeTest ∧ settings.paperTradingTestModeEnabled)
    (experiment.strategyType = .openingRangeBreakout) experiment.isHourlyAi

/-- The page has no experiment. -/
def statusNotFound (experimentId : ℕ) : Raised :=
  notFoundAppError "Experiment was not found." [("experimentId", .num experimentId)]

/-- `get_experiment_paper_status`. -/
def getExperimentPaperStatus (zone : Zone) (settings : PaperStatusSettings) (now : DateTime) (db : Db) :
    Except Raised PaperStatusResponse :=
  match db.experiment with
  | none => .error (statusNotFound db.experimentId)
  | some experiment => do
      let currentDueSlot ← currentDueSlotOf zone settings now experiment
      let nextTime ← nextEvaluationTimeOf zone settings now experiment
      let alreadyExecuted := currentDueSlot.any db.hasStepForScheduledSlot
      let supported := supportedByPaperScheduler experiment db.strategyConfig
      let (reasonCode, message) ← statusReason experiment supported settings currentDueSlot alreadyExecuted
        db.countOpenSubmitted now.date
      pure
        { experiment                    := experiment
          supportedByPaperScheduler     := supported
          settings                      := settings
          currentDueSlot                := currentDueSlot
          nextEligibleEvaluationTime    := nextTime
          alreadyExecutedCurrentDueSlot := alreadyExecuted
          openSubmittedOrdersCount      := db.countOpenSubmitted
          lastBrokerSyncTimestamp       := db.latestBrokerSyncLog.map BrokerSyncLog.timestamp
          lastPaperExecutionStep        := db.latestStep
          reasonCode                    := reasonCode
          message                       := message
          operationalMetadata           := operationalMetadata experiment currentDueSlot nextTime }

end TradingAI
