import TradingAI.Events.Classifier
import TradingAI.Persistence.Models
import TradingAI.Lib.Transactions
import Mathlib.Data.Finset.Sort
import Mathlib.Data.String.Basic

/-!
# `Events.Scanner` — `EventScannerService`, one statement at a time

A scan lists the agent experiments, fetches the articles about their symbols, and goes through the pairs of
an article and a symbol it names. For each it stores the event and its impact in one transaction. If the
impact is relevant it triggers every experiment of the symbol: it looks for the decision of event and
experiment, inserts one in the same transaction if there is none, and after that commit calls
`run_event_step`. An exception of the call is written into the decision.

Scans overlap: `scanner` is the program of a thread that runs one scan after another. Every select, commit
and call is a statement of its own, and between two of them any other thread may run. An exception, or the
end of the process, can come at every statement.

## Contents
- `EventTables`: the three tables with their constraints; a violated one is `none`.
- `ScannerData`: the tables, and the calls of `run_event_step` so far.
- `ScanThread`, `ScanChoice`, `scanner`.
-/

namespace TradingAI

open Transactions

/-! ## Tables -/

/-- A row of `news_events`. -/
structure NewsEventRow extends NewsEvent where
  updatedAt   : Option DateTime
  url         : Option String
  rawPayload  : Details
  firstSeenAt : DateTime
  lastSeenAt  : DateTime
  createdAt   : DateTime

/-- `uq_news_events_provider_external_event_id`. -/
def NewsEventRow.key (e : NewsEventRow) : String × String := (e.provider, e.externalEventId)

/-- A row of `event_asset_impacts`. -/
structure EventAssetImpact where
  id              : ℕ
  eventId         : ℕ
  symbol          : String
  impactDirection : ImpactDirection
  relevanceScore  : Numeric 4
  rationale       : String
  rawImpact       : Details
  createdAt       : DateTime

/-- `uq_event_asset_impacts_event_symbol`. -/
def EventAssetImpact.key (i : EventAssetImpact) : ℕ × String := (i.eventId, i.symbol)

/-- A row of `event_decisions`, of any experiment. -/
structure EventDecisionRow extends EventDecision where
  experimentId : ℕ

/-- `uq_event_decisions_event_experiment`. -/
def EventDecisionRow.key (d : EventDecisionRow) : ℕ × ℕ := (d.eventId, d.experimentId)

/-- The tables, which keep their constraints: the unique ones, the key of an event, which the database draws, and
    the events that impacts and decisions refer to. -/
structure EventTables where
  newsEvents      : List NewsEventRow
  impacts         : List EventAssetImpact
  decisions       : List EventDecisionRow
  nextId          : ℕ
  uniqueEvents    : (newsEvents.map NewsEventRow.key).Nodup
  uniqueImpacts   : (impacts.map EventAssetImpact.key).Nodup
  uniqueDecisions : (decisions.map EventDecisionRow.key).Nodup
  primaryKey      : (newsEvents.map (·.id)).Nodup
  drawnKeys       : ∀ e ∈ newsEvents, e.id < nextId
  impactEvents    : ∀ i ∈ impacts, i.eventId ∈ newsEvents.map (·.id)
  decisionEvents  : ∀ d ∈ decisions, d.eventId ∈ newsEvents.map (·.id)

/-- Changes in place keep a unique constraint if they keep its columns. -/
theorem nodup_map_of_key {α β : Type} {key : α → β} {f : α → α} (h : ∀ a, key (f a) = key a) {rows : List α}
    (hrows : (rows.map key).Nodup) : ((rows.map f).map key).Nodup := by
  have : key ∘ f = key := funext h
  rw [List.map_map, this]
  exact hrows

/-- A row whose key is new keeps the unique constraint. -/
theorem nodup_map_concat {α β : Type} {key : α → β} {rows : List α} {row : α} (hrows : (rows.map key).Nodup)
    (hnew : key row ∉ rows.map key) : ((rows ++ [row]).map key).Nodup := by
  rw [List.map_append, List.map_singleton]
  exact List.nodup_append.mpr ⟨hrows, List.nodup_singleton _, by
    intro a ha b hb
    rw [List.mem_singleton] at hb
    rintro rfl
    exact hnew (hb ▸ ha)⟩

/-- What refers to a row still does when rows come in, or change in place. -/
theorem mem_map_concat {α β : Type} {key : α → β} {rows : List α} {row : α} {b : β} (h : b ∈ rows.map key) :
    b ∈ (rows ++ [row]).map key := by
  rw [List.map_append]
  exact List.mem_append_left _ h

theorem mem_map_of_key {α β : Type} {key : α → β} {f : α → α} (hf : ∀ a, key (f a) = key a) {rows : List α} {b : β}
    (h : b ∈ rows.map key) : b ∈ (rows.map f).map key := by
  have : key ∘ f = key := funext hf
  rw [List.map_map, this]
  exact h

namespace NewsEventRow

/-- `event.last_seen_at = now`, in the row of the event. -/
def seen (eventId : ℕ) (now : DateTime) (e : NewsEventRow) : NewsEventRow :=
  if e.id = eventId then { e with lastSeenAt := now } else e

theorem seen_id (e : NewsEventRow) (eventId : ℕ) (now : DateTime) : (e.seen eventId now).id = e.id := by
  unfold seen
  split <;> rfl

theorem seen_key (e : NewsEventRow) (eventId : ℕ) (now : DateTime) : (e.seen eventId now).key = e.key := by
  unfold seen
  split <;> rfl

end NewsEventRow

namespace EventTables

/-- `get_by_provider_external_id`. -/
def getByProviderExternalId (t : EventTables) (provider externalEventId : String) : Option NewsEventRow :=
  t.newsEvents.find? fun e => e.provider = provider ∧ e.externalEventId = externalEventId

/-- `get_by_event_symbol`. -/
def getByEventSymbol (t : EventTables) (eventId : ℕ) (symbol : String) : Option EventAssetImpact :=
  t.impacts.find? fun i => i.eventId = eventId ∧ i.symbol = upperSymbol symbol

/-- `get_by_event_experiment`. -/
def getByEventExperiment (t : EventTables) (eventId experimentId : ℕ) : Option EventDecisionRow :=
  t.decisions.find? fun d => d.eventId = eventId ∧ d.experimentId = experimentId

/-- The pair has an `EventDecision`. -/
def HasDecision (t : EventTables) (pair : ℕ × ℕ) : Prop := pair ∈ t.decisions.map EventDecisionRow.key

/-- The keys of the stored events. -/
def eventIds (t : EventTables) : List ℕ := t.newsEvents.map (·.id)

def addEvent (t : EventTables) (e : NewsEventRow) : Option EventTables :=
  if h : e.key ∈ t.newsEvents.map NewsEventRow.key then none
  else some { t with
    newsEvents     := t.newsEvents ++ [{ e with id := t.nextId }]
    nextId         := t.nextId + 1
    uniqueEvents   := nodup_map_concat t.uniqueEvents h
    primaryKey     := nodup_map_concat t.primaryKey fun hmem => by
      obtain ⟨other, hother, hid⟩ := List.mem_map.mp hmem
      exact (t.drawnKeys other hother).ne hid
    drawnKeys      := fun e he => by
      rcases List.mem_append.mp he with he | he
      · exact (t.drawnKeys e he).trans (Nat.lt_succ_self _)
      · rw [List.mem_singleton.mp he]
        exact Nat.lt_succ_self _
    impactEvents   := fun i hi => mem_map_concat (t.impactEvents i hi)
    decisionEvents := fun d hd => mem_map_concat (t.decisionEvents d hd) }

/-- `event.last_seen_at = now`. -/
def seeEvent (t : EventTables) (eventId : ℕ) (now : DateTime) : EventTables :=
  { t with
    newsEvents     := t.newsEvents.map (·.seen eventId now)
    uniqueEvents   := nodup_map_of_key (·.seen_key eventId now) t.uniqueEvents
    primaryKey     := nodup_map_of_key (·.seen_id eventId now) t.primaryKey
    drawnKeys      := fun e he => by
      obtain ⟨old, hold, rfl⟩ := List.mem_map.mp he
      rw [old.seen_id]
      exact t.drawnKeys old hold
    impactEvents   := fun i hi => mem_map_of_key (·.seen_id eventId now) (t.impactEvents i hi)
    decisionEvents := fun d hd => mem_map_of_key (·.seen_id eventId now) (t.decisionEvents d hd) }

def addImpact (t : EventTables) (i : EventAssetImpact) : Option EventTables :=
  if h : i.key ∉ t.impacts.map EventAssetImpact.key ∧ i.eventId ∈ t.eventIds then
    some { t with
      impacts       := t.impacts ++ [i]
      nextId        := t.nextId + 1
      uniqueImpacts := nodup_map_concat t.uniqueImpacts h.1
      drawnKeys     := fun e he => (t.drawnKeys e he).trans (Nat.lt_succ_self _)
      impactEvents  := List.forall_mem_append.mpr ⟨t.impactEvents, List.forall_mem_singleton.mpr h.2⟩ }
  else none

def addDecision (t : EventTables) (d : EventDecisionRow) : Option EventTables :=
  if h : d.key ∉ t.decisions.map EventDecisionRow.key ∧ d.eventId ∈ t.eventIds then
    some { t with
      decisions       := t.decisions ++ [d]
      nextId          := t.nextId + 1
      uniqueDecisions := nodup_map_concat t.uniqueDecisions h.1
      drawnKeys       := fun e he => (t.drawnKeys e he).trans (Nat.lt_succ_self _)
      decisionEvents  := List.forall_mem_append.mpr ⟨t.decisionEvents, List.forall_mem_singleton.mpr h.2⟩ }
  else none

/-- The decision of the pair with a new status, reason and instant of update. -/
def setDecision (t : EventTables) (pair : ℕ × ℕ) (f : EventDecision → EventDecision)
    (hf : ∀ d, (f d).eventId = d.eventId) : EventTables :=
  { t with
    decisions       := t.decisions.map fun d =>
      if d.key = pair then { d with toEventDecision := f d.toEventDecision } else d
    uniqueDecisions := nodup_map_of_key (fun d => by
      split
      · exact Prod.ext (hf d.toEventDecision) rfl
      · rfl) t.uniqueDecisions
    decisionEvents  := fun d hd => by
      obtain ⟨old, hold, rfl⟩ := List.mem_map.mp hd
      split
      · exact (hf old.toEventDecision).symm ▸ t.decisionEvents old hold
      · exact t.decisionEvents old hold }

end EventTables

/-- What the threads of the scanner share. `calls` is no table: it lists the pairs `run_event_step` was
    called for, in the order of the calls. -/
structure ScannerData where
  tables : EventTables
  calls  : List (ℕ × ℕ) := []

/-! ## A thread -/

structure EventSettings where
  eventScannerEnabled     : Bool
  eventLookbackMinutes    : ℕ
  eventRelevanceThreshold : ℚ
  eventNewsLimit          : ℕ

/-- A row of `list_event_agent_paper_experiments`: the query asks for the supported symbols. -/
structure EventExperiment where
  id          : ℕ
  assetSymbol : String
  supported   : assetSymbol ∈ supportedEquitySymbols

/-- What `fetch_news` is asked for. -/
structure NewsRequest where
  symbols : List String
  start   : DateTime
  stop    : DateTime
  limit   : ℕ

/-- What `scan_once` returns. -/
structure ScanResult where
  enabled       : Bool
  eventsStored  : ℕ
  runsTriggered : ℕ

/-- The variables of `scan_once`: `work` are the pairs of its two outer loops that are still to come. -/
structure Scan where
  now       : DateTime
  work      : List (NewsArticle × String)
  stored    : ℕ := 0
  triggered : ℕ := 0

/-- The variables of the loop over `experiment_ids`. -/
structure Triggering where
  article       : NewsArticle
  symbol        : String
  eventId       : ℕ
  experimentIds : List ℕ

/-- Where a thread is: before a statement of `scan_once`, of `_store_event_and_impact`, of
    `_trigger_once`, or inside `run_event_step`. -/
inductive ScanThread
  | idle
  | fetching (request : NewsRequest) (now : DateTime)
  | scanning (s : Scan)
  | eventRead (s : Scan) (article : NewsArticle) (symbol : String) (event : Option NewsEventRow)
  | impactRead (s : Scan) (article : NewsArticle) (symbol : String) (event : Option NewsEventRow)
      (impact : Option EventAssetImpact)
  | triggering (s : Scan) (t : Triggering)
  | undecided (s : Scan) (t : Triggering) (experimentId : ℕ)
  | queued (s : Scan) (t : Triggering) (experimentId : ℕ)
  | running (s : Scan) (t : Triggering) (experimentId : ℕ)
  | failing (s : Scan) (t : Triggering) (experimentId : ℕ) (exc : Raised)
  | rewriting (s : Scan) (t : Triggering) (experimentId : ℕ) (exc : Raised)
      (decision : Option EventDecisionRow)
  | returned (result : ScanResult)
  | raised (exc : Raised)

/-- What the surroundings decide: the rows of other tables, the articles, the clock, what
    `run_event_step` does, and when an exception comes. -/
inductive ScanChoice
  | scan (experiments : List EventExperiment) (now : DateTime)
  | receive (articles : List NewsArticle)
  | proceed
  | store (experiments : List EventExperiment)
  | mark (executionStepId tradingDecisionId : ℕ) (now : DateTime)
  | finish
  | fail (exc : Raised)
  | record (now : DateTime)
  | raise (exc : Raised)

/-! ## Its program -/

/-- `sorted({experiment.asset_symbol for experiment in experiments})`. -/
def scannedSymbols (experiments : List EventExperiment) : List String :=
  (experiments.map EventExperiment.assetSymbol).toFinset.sort (· ≤ ·)

/-- The pairs of the two outer loops that are not skipped, in their order. -/
def scanWork (articles : List NewsArticle) (symbols : List String) : List (NewsArticle × String) :=
  articles.flatMap fun article =>
    (symbols.filter fun symbol => symbol ∈ article.symbols).map fun symbol => (article, symbol)

/-- `datetime - timedelta(minutes=…)`. -/
def minutesBefore (now : DateTime) (minutes : ℕ) : DateTime := now - minutes * 60000000

def newNewsEvent (article : NewsArticle) (classified : ClassifiedEvent) (now : DateTime) (id : ℕ) :
    NewsEventRow :=
  { id              := id
    provider        := article.provider
    externalEventId := article.externalEventId
    timestamp       := article.timestamp
    updatedAt       := article.updatedAt
    headline        := article.headline
    source          := article.source
    url             := article.url
    summary         := article.summary
    eventType       := classified.eventType.value
    severity        := classified.severity.value
    affectedSymbols := .list (article.symbols.map .text)
    rawPayload      := article.rawPayload
    firstSeenAt     := now
    lastSeenAt      := now
    createdAt       := now }

def newImpact (article : NewsArticle) (symbol : String) (classified : ClassifiedEvent) (eventId : ℕ)
    (now : DateTime) (id : ℕ) : EventAssetImpact :=
  { id              := id
    eventId         := eventId
    symbol          := symbol
    impactDirection := classified.impactDirection
    relevanceScore  := numeric 4 classified.relevanceScore
    rationale       := classified.rationale
    rawImpact       := [("classifier", .text "deterministic-v1"),
                        ("articleSymbols", .list (article.symbols.map .text))]
    createdAt       := now }

/-- The event of the article: a new row, or the one that was read, seen again. -/
def storeEvent (t : EventTables) (article : NewsArticle) (classified : ClassifiedEvent) (now : DateTime) :
    Option NewsEventRow → Option (ℕ × EventTables)
  | none   => (t.addEvent (newNewsEvent article classified now t.nextId)).map fun t' => (t.nextId, t')
  | some e => some (e.id, t.seeEvent e.id now)

/-- Its impact on the symbol, unless one was read. -/
def storeImpact (t : EventTables) (article : NewsArticle) (symbol : String) (classified : ClassifiedEvent)
    (eventId : ℕ) (now : DateTime) : Option EventAssetImpact → Option EventTables
  | none   => t.addImpact (newImpact article symbol classified eventId now t.nextId)
  | some _ => some t

/-- What `_store_event_and_impact` writes after it has read `event` and `impact`: the id of the event and
    the new tables, or a violated constraint. -/
def storeEventAndImpact (t : EventTables) (article : NewsArticle) (symbol : String) (now : DateTime)
    (event : Option NewsEventRow) (impact : Option EventAssetImpact) : Option (ℕ × EventTables) :=
  let classified := DeterministicEventClassifier.classify article symbol
  (storeEvent t article classified now event).bind fun (eventId, t') =>
    (storeImpact t' article symbol classified eventId now impact).map fun t'' => (eventId, t'')

/-- The decision `_trigger_once` inserts. -/
def queuedDecision (eventId experimentId : ℕ) (now : DateTime) (id : ℕ) : EventDecisionRow :=
  { id                := id
    eventId           := eventId
    experimentId      := experimentId
    executionStepId   := none
    tradingDecisionId := none
    status            := .triggered
    reason            := "Relevant event queued for agent execution."
    createdAt         := now
    updatedAt         := now }

/-- `_mark_event_decision_triggered`. -/
def EventTables.markTriggered (t : EventTables) (eventId experimentId executionStepId tradingDecisionId : ℕ)
    (now : DateTime) : Option EventTables :=
  match t.getByEventExperiment eventId experimentId with
  | none =>
      t.addDecision
        { id                := t.nextId
          eventId           := eventId
          experimentId      := experimentId
          executionStepId   := some executionStepId
          tradingDecisionId := some tradingDecisionId
          status            := .triggered
          reason            := "Event-triggered agent run executed."
          createdAt         := now
          updatedAt         := now }
  | some _ =>
      some (t.setDecision (eventId, experimentId) (fun d =>
        { d with
          executionStepId   := some executionStepId
          tradingDecisionId := some tradingDecisionId
          status            := .triggered
          reason            := "Event-triggered agent run executed."
          updatedAt         := now }) fun _ => rfl)

/-- The handler of `_trigger_once`: `FAILED`, with the text of the exception. -/
def EventTables.markFailed (t : EventTables) (eventId experimentId : ℕ) (reason : String) (now : DateTime) :
    EventTables :=
  t.setDecision (eventId, experimentId)
    (fun d => { d with status := .failed, reason := reason, updatedAt := now }) fun _ => rfl

/-- A violated unique constraint. -/
def integrityError : Raised := runtimeError "duplicate key value violates unique constraint"

/-- The impact is there and relevant enough. -/
def isRelevant (settings : EventSettings) : Option EventAssetImpact → Bool
  | none   => false
  | some i => settings.eventRelevanceThreshold ≤ i.relevanceScore.val

open ScanThread in
/-- The statements of a thread. `mark` is the transaction in which `run_event_step` updates the decision;
    `raise` is an exception that no handler of the scanner catches, or the end of the process. -/
def scanner (settings : EventSettings) : Program ScannerData ScanThread ScanChoice
  | .scan experiments now, _, .idle | .scan experiments now, _, .returned _
  | .scan experiments now, _, .raised _ =>
      if settings.eventScannerEnabled then
        let symbols := scannedSymbols experiments
        if symbols = [] then .go (.returned ⟨true, 0, 0⟩)
        else
          .go (.fetching
            ⟨symbols, minutesBefore now settings.eventLookbackMinutes, now, settings.eventNewsLimit⟩ now)
      else .go (.returned ⟨false, 0, 0⟩)
  | .receive articles, _, .fetching request now =>
      .go (.scanning { now := now, work := scanWork articles request.symbols })
  | .proceed, d, .scanning s =>
      match s.work with
      | []                        => .go (.returned ⟨true, s.stored, s.triggered⟩)
      | (article, symbol) :: rest =>
          .go (.eventRead { s with work := rest } article symbol
            (d.tables.getByProviderExternalId article.provider article.externalEventId))
  | .proceed, d, .eventRead s article symbol event =>
      .go (.impactRead s article symbol event (event.bind fun e => d.tables.getByEventSymbol e.id symbol))
  | .store experiments, d, .impactRead s article symbol event impact =>
      match storeEventAndImpact d.tables article symbol s.now event impact with
      | none              => .rollback (.raised integrityError)
      | some (eventId, t) =>
          let s := { s with stored := s.stored + 1 }
          if isRelevant settings (t.getByEventSymbol eventId symbol) then
            .commit { d with tables := t } (.triggering s
              ⟨article, symbol, eventId,
                (experiments.filter (·.assetSymbol = symbol)).map EventExperiment.id⟩)
          else .commit { d with tables := t } (.scanning s)
  | .proceed, d, .triggering s t =>
      match t.experimentIds with
      | []              => .go (.scanning s)
      | experimentId :: rest =>
          let t := { t with experimentIds := rest }
          match d.tables.getByEventExperiment t.eventId experimentId with
          | some _ => .go (.triggering s t)
          | none   => .go (.undecided s t experimentId)
  | .proceed, d, .undecided s t experimentId =>
      match d.tables.addDecision (queuedDecision t.eventId experimentId s.now d.tables.nextId) with
      | none        => .rollback (.raised integrityError)
      | some tables => .commit { d with tables := tables } (.queued s t experimentId)
  | .proceed, d, .queued s t experimentId =>
      .commit { d with calls := d.calls ++ [(t.eventId, experimentId)] } (.running s t experimentId)
  | .mark executionStepId tradingDecisionId now, d, .running s t experimentId =>
      match d.tables.markTriggered t.eventId experimentId executionStepId tradingDecisionId now with
      | none        => .rollback (.failing s t experimentId integrityError)
      | some tables => .commit { d with tables := tables } (.running s t experimentId)
  | .finish, _, .running s t _ => .go (.triggering { s with triggered := s.triggered + 1 } t)
  | .fail exc, _, .running s t experimentId =>
      if exc.kind = .base then .rollback (.raised exc) else .rollback (.failing s t experimentId exc)
  | .proceed, d, .failing s t experimentId exc =>
      .go (.rewriting s t experimentId exc (d.tables.getByEventExperiment t.eventId experimentId))
  | .record _, _, .rewriting s t _ _ none => .go (.triggering s t)
  | .record now, d, .rewriting s t experimentId exc (some _) =>
      .commit { d with tables := d.tables.markFailed t.eventId experimentId exc.message now }
        (.triggering s t)
  | .raise exc, _, _ => .rollback (.raised exc)
  | _, _, l => .go l

end TradingAI
