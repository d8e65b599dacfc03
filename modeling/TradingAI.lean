import TradingAI.Lib.Base64
import TradingAI.Lib.Budget
import TradingAI.Lib.Chronology
import TradingAI.Lib.CivilDate
import TradingAI.Lib.Claims
import TradingAI.Lib.DecimalText
import TradingAI.Lib.Family
import TradingAI.Lib.Json
import TradingAI.Lib.JsonLocality
import TradingAI.Lib.JsonText
import TradingAI.Lib.KeyedTable
import TradingAI.Lib.Outcome
import TradingAI.Lib.Pagination
import TradingAI.Lib.Paging
import TradingAI.Lib.RelativeError
import TradingAI.Lib.Reserve
import TradingAI.Lib.Rounding
import TradingAI.Lib.RunningPeak
import TradingAI.Lib.Runs
import TradingAI.Lib.Session
import TradingAI.Lib.SessionHistory
import TradingAI.Lib.SessionKeeps
import TradingAI.Lib.SignificantDigits
import TradingAI.Lib.Transactions
import TradingAI.Domain.Enums
import TradingAI.Domain.Values
import TradingAI.Broker.Adapter
import TradingAI.Broker.AlpacaAdapter
import TradingAI.Persistence.Models
import TradingAI.Persistence.Repositories
import TradingAI.Strategies.Rules
import TradingAI.Agents.DecisionGate
import TradingAI.Agents.OutputParser
import TradingAI.Agents.Pipeline
import TradingAI.Agents.PipelineOutputParser
import TradingAI.Agents.ResearchCache
import TradingAI.Agents.SingleAgent
import TradingAI.Agents.TechnicalAnalysis
import TradingAI.Agents.Types
import TradingAI.Auth.Login
import TradingAI.Auth.Middleware
import TradingAI.Auth.Security
import TradingAI.Events.AlpacaNewsProvider
import TradingAI.Events.Classifier
import TradingAI.Events.Scanner
import TradingAI.MarketData.AlpacaProvider
import TradingAI.MarketData.BarTexts
import TradingAI.MarketData.Bars
import TradingAI.MarketData.HolidaySpacing
import TradingAI.MarketData.HourlyBars
import TradingAI.MarketData.IntradayProviders
import TradingAI.MarketData.IntradayRanges
import TradingAI.MarketData.IntradayValidation
import TradingAI.MarketData.TradingCalendar
import TradingAI.Execution.Account
import TradingAI.Execution.AuditTrail
import TradingAI.Execution.BrokerSync
import TradingAI.Execution.Calls
import TradingAI.Execution.Environment
import TradingAI.Execution.Growth
import TradingAI.Execution.HistoricalDrivers
import TradingAI.Execution.HistoricalLedger
import TradingAI.Execution.HistoricalStepRunner
import TradingAI.Execution.HistoricalSteps
import TradingAI.Execution.HourlyAgentBar
import TradingAI.Execution.Ledger
import TradingAI.Execution.Metrics
import TradingAI.Execution.OpeningRange
import TradingAI.Execution.OpeningRangeRun
import TradingAI.Execution.OpeningRangeStep
import TradingAI.Execution.OrderPlacement
import TradingAI.Execution.OrderSync
import TradingAI.Execution.PaperProvider
import TradingAI.Execution.PaperStepRunner
import TradingAI.Execution.PortfolioWrites
import TradingAI.Execution.Risk
import TradingAI.Execution.SimulationProvider
import TradingAI.Execution.StepArtifacts
import TradingAI.Execution.StepCreation
import TradingAI.Execution.StepPlan
import TradingAI.Execution.StepSnapshots
import TradingAI.Execution.StepTable
import TradingAI.Execution.StepTransactions
import TradingAI.Execution.StepView
import TradingAI.Execution.TargetExposure
import TradingAI.Execution.Timeless
import TradingAI.Execution.WorkingStep
import TradingAI.Scheduler.DueSlots
import TradingAI.Scheduler.Eligibility
import TradingAI.Scheduler.HistoricalJobs
import TradingAI.Scheduler.Jobs
import TradingAI.Experiments.Creation
import TradingAI.Experiments.Lifecycle
import TradingAI.Experiments.Start
import TradingAI.Experiments.StatusMachine
import TradingAI.Experiments.Validators
import TradingAI.Api.Comparison
import TradingAI.Api.Listings
import TradingAI.Api.PaperStatus
import TradingAI.Correctness.AcceptedRuns
import TradingAI.Correctness.AccessTokens
import TradingAI.Correctness.AgentFallback
import TradingAI.Correctness.AuditTrails
import TradingAI.Correctness.CachedResearch
import TradingAI.Correctness.CalendarRanges
import TradingAI.Correctness.CashSafety
import TradingAI.Correctness.Comparisons
import TradingAI.Correctness.CompleteRanges
import TradingAI.Correctness.CompleteSessions
import TradingAI.Correctness.Cover
import TradingAI.Correctness.DailySlots
import TradingAI.Correctness.DefinedMetrics
import TradingAI.Correctness.Drawdown
import TradingAI.Correctness.DueSlots
import TradingAI.Correctness.EquityCurve
import TradingAI.Correctness.EventTriggers
import TradingAI.Correctness.FiledOrders
import TradingAI.Correctness.FillCost
import TradingAI.Correctness.GateAgreement
import TradingAI.Correctness.HistoricalAccounting
import TradingAI.Correctness.HistoricalBars
import TradingAI.Correctness.HourlySteps
import TradingAI.Correctness.IntradayTrips
import TradingAI.Correctness.Listings
import TradingAI.Correctness.LoadedSessions
import TradingAI.Correctness.LoginSessions
import TradingAI.Correctness.LostUpdates
import TradingAI.Correctness.MacdHistogram
import TradingAI.Correctness.MovingAveragePaths
import TradingAI.Correctness.NewsCoverage
import TradingAI.Correctness.NextEvaluation
import TradingAI.Correctness.NoLookAhead
import TradingAI.Correctness.OpeningRangePaths
import TradingAI.Correctness.OrderReports
import TradingAI.Correctness.OrphanedOrders
import TradingAI.Correctness.PipelineFailSafe
import TradingAI.Correctness.PolledOrders
import TradingAI.Correctness.PositionLedger
import TradingAI.Correctness.RelativeStrengthIndex
import TradingAI.Correctness.RepeatedSyncs
import TradingAI.Correctness.ScheduledRuns
import TradingAI.Correctness.SchedulerIsolation
import TradingAI.Correctness.SizedOrders
import TradingAI.Correctness.SnapshotOrder
import TradingAI.Correctness.StatusChanges
import TradingAI.Correctness.StatusPage
import TradingAI.Correctness.StepClosure
import TradingAI.Correctness.StepSerialisation
import TradingAI.Correctness.SteppedRun
import TradingAI.Correctness.SupportedConfigurations
import TradingAI.Correctness.SurroundingText
import TradingAI.Correctness.TargetExposure
import TradingAI.Correctness.TradingDays
import TradingAI.Correctness.WindingDown
