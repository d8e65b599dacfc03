import TradingAI.Execution.StepCreation
import TradingAI.Lib.Chronology
import TradingAI.Lib.Paging

/-!
# `Api.Listings` — the rows of an experiment, page by page

Seven routes list the rows of an experiment: its orders, trades, broker sync logs, agent decision logs and
events with the newest first, its portfolio and metric snapshots with the oldest first. Each answers one page
and the number of all rows. It checks the experiment, reads the page and counts the rows in separate
statements, and what is committed may change from one to the next: `Found` is what each of them sees.

## Contents
- `newestFirst`, `oldestFirst`; the listings and their pages, one pair for each repository.
- `PaginatedResponse`, `Found`, `paginated`; the routes.
- `readAll`: a client that reads to the end.
- `newestFirst_sublist`, `oldestFirst_sublist`: a listing grows with its rows.
-/

namespace TradingAI

open Chronology Paging

/-- `ORDER BY stamp DESC, id DESC`. -/
def newestFirst {α : Type} (stamp : α → DateTime) (id : α → ℕ) (rows : List α) : List α :=
  rows.insertionSort fun a b => stamp b < stamp a ∨ stamp b = stamp a ∧ id b ≤ id a

/-- `ORDER BY stamp, id`. -/
def oldestFirst {α : Type} (stamp : α → DateTime) (id : α → ℕ) (rows : List α) : List α :=
  rows.insertionSort fun a b => stamp a < stamp b ∨ stamp a = stamp b ∧ id a ≤ id b

/-! ## The repositories -/

namespace Db

/-- The rows `OrderRepository.list_by_experiment_paginated` takes its page of, and so on. -/
def orderListing (db : Db) : List Order := newestFirst Order.createdAt Order.id db.orders

def tradeListing (db : Db) : List Trade := newestFirst Trade.timestamp Trade.id db.trades

def brokerSyncLogListing (db : Db) : List BrokerSyncLog :=
  newestFirst BrokerSyncLog.timestamp BrokerSyncLog.id db.brokerSyncLogs

def agentDecisionLogListing (db : Db) : List AgentDecisionLog :=
  newestFirst AgentDecisionLog.createdAt AgentDecisionLog.id db.agentLogs

def metricSnapshotListing (db : Db) : List MetricSnapshot :=
  oldestFirst MetricSnapshot.timestamp MetricSnapshot.id db.metricSnapshots

def portfolioSnapshotListing (db : Db) : List PortfolioSnapshot :=
  oldestFirst PortfolioSnapshot.timestamp PortfolioSnapshot.id db.portfolioSnapshots

/-- The `WHERE` of `SystemEventLogRepository._filtered_statement`. -/
def filteredEvents (db : Db) (level : Option EventLevel) (eventType : Option SystemEventType) :
    List SystemEventLog :=
  db.systemEvents.filter fun e => (∀ l ∈ level, e.level = l) ∧ ∀ t ∈ eventType, e.eventType = t

def systemEventListing (db : Db) (level : Option EventLevel) (eventType : Option SystemEventType) :
    List SystemEventLog :=
  newestFirst SystemEventLog.timestamp SystemEventLog.id (db.filteredEvents level eventType)

end Db

/-! ## The routes -/

/-- A page size that passes `Query(default=50, ge=1, le=maxLimit)`. -/
structure Limit (maxLimit : ℕ) where
  size : ℕ
  pos  : 1 ≤ size
  le   : size ≤ maxLimit

def queryMaxLimit : ℕ := 500

def timeSeriesMaxLimit : ℕ := 10000

structure PaginatedResponse (α : Type) where
  items  : List α
  limit  : ℕ
  offset : ℕ
  total  : ℕ

/-- What the statements of a request find: the check of the experiment, the page, the steps of the rows on it
    (which only the route of the decision logs asks for), the count. -/
structure Found where
  checked : Db
  listed  : Db
  joined  : Db
  counted : Db

/-- The databases a request sees, one after another. -/
def Found.states (found : Found) : List Db := [found.checked, found.listed, found.joined, found.counted]

/-- A route, for what it finds and the two parameters of a page. -/
abbrev ListingRoute (maxLimit : ℕ) (α : Type) := Found → Limit maxLimit → ℕ → Except Raised (PaginatedResponse α)

/-- `_ensure_experiment_exists`, then a page of the listing, with what the response shows of each row, and the
    number of rows. -/
def paginated {maxLimit : ℕ} {α β : Type} (listing : Db → List α) (count : Db → ℕ) (response : Db → α → β) :
    ListingRoute maxLimit β := fun found limit offset =>
  if found.checked.experiment.isNone then .error (experimentNotFound found.checked.experimentId)
  else .ok {
    items := (page limit.size offset (listing found.listed)).map (response found.joined)
    limit := limit.size
    offset
    total := count found.counted }

def listExperimentOrders : ListingRoute queryMaxLimit Order :=
  paginated Db.orderListing (fun db => db.orders.length) fun _ => id

def listExperimentTrades : ListingRoute queryMaxLimit Trade :=
  paginated Db.tradeListing Db.countTrades fun _ => id

def listExperimentBrokerSyncLogs : ListingRoute queryMaxLimit BrokerSyncLog :=
  paginated Db.brokerSyncLogListing (fun db => db.brokerSyncLogs.length) fun _ => id

def listMetricSnapshots : ListingRoute timeSeriesMaxLimit MetricSnapshot :=
  paginated Db.metricSnapshotListing (fun db => db.metricSnapshots.length) fun _ => id

def listPortfolioSnapshots : ListingRoute timeSeriesMaxLimit PortfolioSnapshot :=
  paginated Db.portfolioSnapshotListing (fun db => db.portfolioSnapshots.length) fun _ => id

def listExperimentEvents (level : Option EventLevel) (eventType : Option SystemEventType) :
    ListingRoute queryMaxLimit SystemEventLog :=
  paginated (·.systemEventListing level eventType) (fun db => (db.filteredEvents level eventType).length) fun _ => id

/-- A log and what is known of the step it was written in. -/
structure AgentDecisionLogResponse where
  log                         : AgentDecisionLog
  triggerType                 : Option TriggerType
  executionStepSequenceNumber : Option ℕ
  executionStepStatus         : Option ExecutionStepStatus
  scheduledFor                : Option DateTime
  startedAt                   : Option DateTime
  completedAt                 : Option DateTime
  errorMessage                : Option String

def agentDecisionLogResponse (db : Db) (log : AgentDecisionLog) : AgentDecisionLogResponse :=
  let step := db.getStep log.executionStepId
  { log
    triggerType                 := step.map ExecutionStep.triggerType
    executionStepSequenceNumber := step.map ExecutionStep.sequenceNumber
    executionStepStatus         := step.map ExecutionStep.status
    scheduledFor                := step.bind ExecutionStep.scheduledFor
    startedAt                   := step.bind ExecutionStep.startedAt
    completedAt                 := step.bind ExecutionStep.completedAt
    errorMessage                := step.bind ExecutionStep.errorMessage }

def listExperimentAgentDecisionLogs : ListingRoute queryMaxLimit AgentDecisionLogResponse :=
  paginated Db.agentDecisionLogListing (fun db => db.agentLogs.length) agentDecisionLogResponse

/-! ## A client -/

/-- Ask for page after page until `offset + limit` has reached the total, as the page of the events lets its
    reader do. Nothing, if these requests do not get there. -/
def readAll {maxLimit : ℕ} {α : Type} (route : ListingRoute maxLimit α) (limit : Limit maxLimit) :
    ℕ → List Found → Except Raised (Option (List α))
  | _, [] => .ok none
  | offset, found :: requests => do
      let response ← route found limit offset
      if offset + limit.size < response.total then
        let rest ← readAll route limit (offset + limit.size) requests
        return rest.map (response.items ++ ·)
      return some response.items

/-! ## Listings grow with their rows -/

section
variable {α κ : Type} {stamp : α → DateTime} {id : α → ℕ} {stampOf : κ → DateTime} {idOf : κ → ℕ}

/-- A listing by what identifies its rows is the listing of these. -/
theorem map_newestFirst (key : α → κ) (hstamp : ∀ a, stampOf (key a) = stamp a) (hid : ∀ a, idOf (key a) = id a)
    (rows : List α) : (newestFirst stamp id rows).map key = newestFirst stampOf idOf (rows.map key) := by
  unfold newestFirst
  apply List.map_insertionSort
  intro a _ b _
  rw [hstamp, hstamp, hid, hid]

theorem newestFirst_sublist {rows rows' : List α} (h : rows.Sublist rows') :
    (newestFirst stamp id rows).Sublist (newestFirst stamp id rows') := by
  have htotal : Std.Total fun a b : α => stamp b < stamp a ∨ stamp b = stamp a ∧ id b ≤ id a :=
    ⟨fun a b => total_of (ByStamp stamp id) b a⟩
  have htrans : IsTrans α fun a b => stamp b < stamp a ∨ stamp b = stamp a ∧ id b ≤ id a :=
    ⟨fun _ _ _ hab hbc => trans_of (ByStamp stamp id) hbc hab⟩
  exact insertionSort_sublist h

theorem oldestFirst_sublist {rows rows' : List α} (h : rows.Sublist rows') :
    (oldestFirst stamp id rows).Sublist (oldestFirst stamp id rows') := by
  have htotal : Std.Total fun a b : α => stamp a < stamp b ∨ stamp a = stamp b ∧ id a ≤ id b :=
    ⟨total_of (ByStamp stamp id)⟩
  have htrans : IsTrans α fun a b => stamp a < stamp b ∨ stamp a = stamp b ∧ id a ≤ id b :=
    ⟨fun _ _ _ => trans_of (ByStamp stamp id)⟩
  exact insertionSort_sublist h

theorem length_newestFirst (rows : List α) : (newestFirst stamp id rows).length = rows.length :=
  List.length_insertionSort ..

theorem length_oldestFirst (rows : List α) : (oldestFirst stamp id rows).length = rows.length :=
  List.length_insertionSort ..

end

end TradingAI
