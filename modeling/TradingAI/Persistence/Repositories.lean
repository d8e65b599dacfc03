import TradingAI.Persistence.Models
import TradingAI.Broker.Adapter
import TradingAI.Lib.Session
import Mathlib.Data.List.Sort

/-!
# `Persistence.Repositories` — the database of one experiment and its queries

`Db` holds the rows of one experiment in the order they were inserted. The queries are the repository
methods of the source that the execution package calls, on those rows. All tables draw their keys from
one counter, which is all that is used of the keys: a new row's key is new.
-/

namespace TradingAI

open Session

/-- The rows of one experiment. -/
structure Db where
  experimentId       : ℕ
  experiment         : Option Experiment
  strategyConfig     : Option StrategyConfig
  portfolio          : Option PortfolioRow
  steps              : List ExecutionStep := []
  marketData         : List MarketDataSnapshot := []
  decisions          : List TradingDecision := []
  agentLogs          : List AgentDecisionLog := []
  newsEvents         : List NewsEvent := []
  eventDecisions     : List EventDecision := []
  riskChecks         : List RiskCheck := []
  orders             : List Order := []
  trades             : List Trade := []
  portfolioSnapshots : List PortfolioSnapshot := []
  metricSnapshots    : List MetricSnapshot := []
  systemEvents       : List SystemEventLog := []
  brokerSyncLogs     : List BrokerSyncLog := []
  nextId             : ℕ := 1

/-- The body of a transaction on the experiment's rows, next to the broker. -/
abbrev DbTx (α : Type) := Tx Db BrokerBook Raised α

/-- A procedure that opens transactions on the experiment's rows, next to the broker. -/
abbrev DbProc (α : Type) := Proc Db BrokerBook Raised α

namespace Db

/-! ## Execution steps -/

def getStep (db : Db) (id : ℕ) : Option ExecutionStep := db.steps.find? (·.id = id)

/-- `ExecutionStepRepository.max_sequence_number`. -/
def maxSequenceNumber (db : Db) : ℕ := (db.steps.map ExecutionStep.sequenceNumber).foldr max 0

/-- `ExecutionStepRepository.has_running_step`. -/
def hasRunningStep (db : Db) : Bool := db.steps.any (·.status = .running)

/-- `ExecutionStepRepository.has_step_for_scheduled_slot`. -/
def hasStepForScheduledSlot (db : Db) (scheduledFor : DateTime) : Bool :=
  db.steps.any fun s => s.triggerType = .scheduled ∧ s.scheduledFor = some scheduledFor

/-- `ExecutionStepRepository.list_by_experiment`. -/
def listSteps (db : Db) : List ExecutionStep :=
  db.steps.insertionSort fun a b => a.sequenceNumber ≤ b.sequenceNumber

/-- The unique constraint on `(experiment_id, sequence_number)` rejects one more row with this number. -/
def hasSequenceNumber (db : Db) (sequenceNumber : ℕ) : Bool :=
  db.steps.any (·.sequenceNumber = sequenceNumber)

def updateStep (db : Db) (id : ℕ) (f : ExecutionStep → ExecutionStep) : Db :=
  { db with steps := db.steps.map fun s => if s.id = id then f s else s }

/-! ## Orders and trades -/

def getOrder (db : Db) (id : ℕ) : Option Order := db.orders.find? (·.id = id)

/-- The order of a step or of a risk check, if there is one already. -/
def existingOrder (db : Db) (executionStepId riskCheckId : ℕ) : Option Order :=
  db.orders.find? fun o => o.executionStepId = executionStepId ∨ o.riskCheckId = riskCheckId

/-- An order broker synchronisation still asks about. -/
def isOpenPaperOrder (o : Order) : Bool :=
  o.mode = .paperBroker ∧ o.brokerName = some .alpaca ∧ o.status = .submitted ∧ o.brokerOrderId.isSome

/-- `ORDER BY submitted_at ASC, id ASC`; a missing `submitted_at` sorts last. -/
def submittedBefore (a b : Order) : Bool :=
  match a.submittedAt, b.submittedAt with
  | some s, some t => s < t ∨ s = t ∧ a.id ≤ b.id
  | some _, none   => true
  | none, some _   => false
  | none, none     => a.id ≤ b.id

/-- `OrderRepository.list_open_paper_orders`. -/
def listOpenPaperOrders (db : Db) : List Order :=
  (db.orders.filter isOpenPaperOrder).insertionSort (submittedBefore · ·)

def updateOrder (db : Db) (id : ℕ) (f : Order → Order) : Db :=
  { db with orders := db.orders.map fun o => if o.id = id then f o else o }

/-- `TradeRepository.filled_quantity_by_order`. -/
def filledQuantityByOrder (db : Db) (orderId : ℕ) : ℚ :=
  ((db.trades.filter (·.orderId = orderId)).map fun t => t.quantity.val).sum

/-- `TradeRepository.count_by_experiment`. -/
def countTrades (db : Db) : ℕ := db.trades.length

/-! ## Snapshots -/

/-- `PortfolioSnapshotRepository.list_by_experiment`, ordered by `timestamp, id`. -/
def listPortfolioSnapshots (db : Db) : List PortfolioSnapshot :=
  db.portfolioSnapshots.insertionSort fun a b =>
    a.timestamp < b.timestamp ∨ a.timestamp = b.timestamp ∧ a.id ≤ b.id

/-- `MetricSnapshotRepository.latest_by_experiment`, the first by descending `timestamp, id`. -/
def latestMetricSnapshot (db : Db) : Option MetricSnapshot :=
  (db.metricSnapshots.insertionSort fun a b =>
    b.timestamp < a.timestamp ∨ b.timestamp = a.timestamp ∧ b.id ≤ a.id).head?

/-! ## Facts about the queries -/

variable {db : Db}

theorem mem_listOpenPaperOrders {o : Order} :
    o ∈ db.listOpenPaperOrders ↔ o ∈ db.orders ∧ isOpenPaperOrder o = true := by
  unfold listOpenPaperOrders
  rw [(List.perm_insertionSort _ _).mem_iff, List.mem_filter]

theorem sequenceNumber_le_max {s : ExecutionStep} (hs : s ∈ db.steps) :
    s.sequenceNumber ≤ db.maxSequenceNumber := by
  unfold maxSequenceNumber
  generalize db.steps = l at hs
  induction l with
  | nil => simp at hs
  | cons a l ih =>
      rcases List.mem_cons.mp hs with rfl | hs
      · exact Nat.le_max_left _ _
      · exact (ih hs).trans (Nat.le_max_right _ _)

/-- The number after the largest is free. -/
theorem hasSequenceNumber_succ_max : db.hasSequenceNumber (db.maxSequenceNumber + 1) = false := by
  rw [hasSequenceNumber, List.any_eq_false]
  intro s hs
  have := sequenceNumber_le_max hs
  simp only [decide_eq_true_eq]
  omega

theorem hasRunningStep_eq_false :
    db.hasRunningStep = false ↔ ∀ s ∈ db.steps, s.status ≠ .running := by
  simp [hasRunningStep]

theorem hasStepForScheduledSlot_eq_false {t : DateTime} :
    db.hasStepForScheduledSlot t = false ↔
      ∀ s ∈ db.steps, s.triggerType = .scheduled → s.scheduledFor ≠ some t := by
  simp [hasStepForScheduledSlot]

end Db

end TradingAI
