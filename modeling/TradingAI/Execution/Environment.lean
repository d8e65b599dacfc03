import TradingAI.MarketData.Bars
import TradingAI.Strategies.Rules
import TradingAI.Persistence.Repositories

/-!
# `Execution.Environment` — everything one paper step is told from outside

A `StepEnv` fixes, for one call of the paper step runner, the clock, the settings and every answer of the
market data, the agent, the broker and the database. A provider answers with a value or an exception. A
database operation either works or raises: `fault` says which do not. A statement for every environment
is a statement for every outcome of all of them.

Between two operations the source computes with the amounts of a broker report, and that can raise too: on a NaN,
or where a result has more than 28 digits. Such an exception is counted as a fault of the next operation, which
finds the same rows and leaves the same rows. `finalBarStart` is the calendar's answer; `calendarFinalBarStart`, in
`Execution.OpeningRangeStep`, is that of the program's calendar.
-/

namespace TradingAI

open Session

/-! ## Agents -/

structure AgentContext where
  experimentId          : ℕ
  executionStepId       : ℕ
  symbol                : String
  bar                   : DailyBar
  cash                  : ℚ
  positionQuantity      : Option ℚ
  currentPortfolioValue : Option ℚ
  confidenceThreshold   : Option ℚ
  parametersJson        : Option Details
  agentMode             : AgentMode
  modelName             : Option String
  eventContext          : Option Details

structure AgentRunResult where
  decision    : AgentDecision
  logPayload  : AgentDecisionLogPayload
  logPayloads : List AgentDecisionLogPayload := []

/-! ## Database operations -/

/-- The database operations of one paper step, in the order of the source. -/
inductive DbOp
  -- creating the step
  | loadExperiment | loadStrategyConfig | tryLock | hasRunningStep | hasStepForSlot | flushStep | commitStep
  -- deciding
  | loadStrategyType | loadSlot | listTrades | loadState | flushMarketData | loadEvent | flushDecision
  | flushAgentLogs | loadEventDecision | flushRiskCheck | commitRiskCheck
  -- trading and recording
  | loadBrokerState | findExistingOrder | flushOrder | flushTrade | listSnapshots | countTrades | commitResult
  -- recording a failure
  | recordFailure
  deriving DecidableEq, Repr

/-- One call's view of the outside. -/
structure StepEnv where
  createdAt           : DateTime
  startedAt           : DateTime
  executedAt          : DateTime
  failedAt            : DateTime
  testModeEnabled     : Bool := false
  defaultModel        : String := ""
  brokerAdapter       : Except Raised Unit := .ok ()
  lockAcquired        : Bool := true
  latestBar           : String → Except Raised DailyBar
  loadRange           : Date → Date → String → Except Raised (List DailyBar)
  loadSessionUntil    : Date → DateTime → String → Except Raised (List IntradayBar)
  finalBarStart       : Date → Option DateTime
  hourlyBar           : String → DateTime → Except Raised DailyBar
  createAgentStrategy : String → AgentMode → Except Raised Unit
  agentDecide         : AgentContext → Except Raised AgentRunResult
  placeOrder          : OrderRequest → Except Raised BrokerOrderResult
  fault               : DbOp → Option Raised := fun _ => none

/-- A database operation, as far as it can fail. -/
def StepEnv.op (env : StepEnv) (o : DbOp) : DbTx Unit := Tx.mayRaise (env.fault o)

/-- The fault of an operation that is only reached under `c`. -/
def StepEnv.faultIf (env : StepEnv) (c : Bool) (o : DbOp) : Option Raised :=
  if c then env.fault o else none

/-- A database operation that is only reached under `c`. -/
def StepEnv.opIf (env : StepEnv) (c : Bool) (o : DbOp) : DbTx Unit := Tx.mayRaise (env.faultIf c o)

/-- The broker takes an order: if it answers, the order stands, whatever becomes of the transaction. -/
def StepEnv.submit (env : StepEnv) (request : OrderRequest) : DbTx BrokerOrderResult :=
  match env.placeOrder request with
  | .ok r    => do Tx.act (·.enter r); pure r
  | .error e => Tx.raise e

/-- What a submission leads to: the report, entered in the broker's book, or the exception. -/
theorem StepEnv.wp_submit {env : StepEnv} {request : OrderRequest} {E : Raised → BrokerBook → Prop}
    {Q : BrokerOrderResult → Db → BrokerBook → Prop} {db : Db} {book : BrokerBook}
    (hok : ∀ r, env.placeOrder request = .ok r → Q r db (book.enter r))
    (herr : ∀ e, env.placeOrder request = .error e → E e book) :
    Tx.wp (env.submit request) Q E db book := by
  unfold StepEnv.submit
  cases hr : env.placeOrder request with
  | ok r    => exact hok r hr
  | error e => exact herr e hr

end TradingAI
