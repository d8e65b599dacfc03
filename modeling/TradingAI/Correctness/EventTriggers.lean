import TradingAI.Events.Scanner
import TradingAI.Lib.Claims

/-!
# `Correctness.EventTriggers` — a news event triggers an experiment at most once

Overlapping scans look for a decision and then insert one, in separate statements, so two of them can both
find none. The unique constraint lets only one commit. The decision is the claim of `Lib.Claims`: the thread
whose insert commits is the only one that goes on to `run_event_step`, and it does so once. Neither the call
nor the handler of its exception ever removes a decision.

## Contents
- what each table operation does to the decisions and events that are there;
- `ScanEffect`, `scanner_effect`: what a statement can do;
- `scanner_proper`, `scanner_sound`: the claims and the stored events;
- `scans_trigger_once`.
-/

namespace TradingAI

open Transactions

/-! ## What the tables hold -/

/-- The event with this id and key is stored. -/
def EventTables.HasEvent (t : EventTables) (event : ℕ × String × String) : Prop :=
  event ∈ t.newsEvents.map fun e => (e.id, e.key)

namespace EventTables

variable {t t' : EventTables}

theorem addEvent_spec {e : NewsEventRow} (h : t.addEvent e = some t') :
    t'.newsEvents = t.newsEvents ++ [{ e with id := t.nextId }] ∧ t'.decisions = t.decisions := by
  unfold addEvent at h
  split at h
  · cases h
  · obtain rfl := Option.some.inj h
    exact ⟨rfl, rfl⟩

theorem addImpact_spec {i : EventAssetImpact} (h : t.addImpact i = some t') :
    t'.newsEvents = t.newsEvents ∧ t'.decisions = t.decisions := by
  unfold addImpact at h
  split at h
  · obtain rfl := Option.some.inj h
    exact ⟨rfl, rfl⟩
  · cases h

/-- An insert commits only if the pair had no decision; then it has one. -/
theorem addDecision_spec {d : EventDecisionRow} (h : t.addDecision d = some t') :
    ¬ t.HasDecision d.key ∧ (∀ pair, t'.HasDecision pair ↔ t.HasDecision pair ∨ pair = d.key) ∧
      t'.newsEvents = t.newsEvents := by
  unfold addDecision at h
  split at h
  · next hnew =>
      obtain rfl := Option.some.inj h
      refine ⟨hnew.1, fun pair => ?_, rfl⟩
      simp [HasDecision]
  · cases h

@[simp] theorem setDecision_hasDecision {pair other : ℕ × ℕ} {f : EventDecision → EventDecision}
    {hf : ∀ d, (f d).eventId = d.eventId} : (t.setDecision pair f hf).HasDecision other ↔ t.HasDecision other := by
  have hkey : ∀ d : EventDecisionRow,
      EventDecisionRow.key (if d.key = pair then { d with toEventDecision := f d.toEventDecision } else d) =
        d.key := by
    intro d
    split
    · exact Prod.ext (hf d.toEventDecision) rfl
    · rfl
  unfold HasDecision setDecision
  rw [List.map_map, show EventDecisionRow.key ∘ _ = EventDecisionRow.key from funext hkey]

@[simp] theorem seeEvent_hasEvent {id : ℕ} {now : DateTime} {event : ℕ × String × String} :
    (t.seeEvent id now).HasEvent event ↔ t.HasEvent event := by
  unfold HasEvent seeEvent
  rw [List.map_map]
  have : (fun e : NewsEventRow => (e.id, e.key)) ∘ (fun e : NewsEventRow => e.seen id now) = fun e => (e.id, e.key) := by
    funext e
    exact Prod.ext (e.seen_id id now) (e.seen_key id now)
  rw [this]

theorem hasEvent_congr (h : t'.newsEvents = t.newsEvents) (event : ℕ × String × String)
    (he : t.HasEvent event) : t'.HasEvent event := by
  unfold HasEvent
  rw [h]
  exact he

/-- `id` is the key of one row, and that row is the only one of the article with this provider and external id. -/
def IsEventOf (t : EventTables) (id : ℕ) (key : String × String) : Prop :=
  ∃ row ∈ t.newsEvents, row.id = id ∧ row.key = key ∧ ∀ other ∈ t.newsEvents, other.id = id ∨ other.key = key → other = row

/-- A stored event is the only one with its id, and the only one with its key. -/
theorem HasEvent.unique {event : ℕ × String × String} (h : t.HasEvent event) : t.IsEventOf event.1 event.2 := by
  obtain ⟨row, hrow, rfl⟩ := List.mem_map.mp h
  refine ⟨row, hrow, rfl, rfl, fun other hother => ?_⟩
  rintro (hid | hkey)
  · exact List.inj_on_of_nodup_map t.primaryKey hother hrow hid
  · exact List.inj_on_of_nodup_map t.uniqueEvents hother hrow hkey

/-- A decision names a stored event. -/
theorem HasDecision.stored {pair : ℕ × ℕ} (h : t.HasDecision pair) : ∃! row, row ∈ t.newsEvents ∧ row.id = pair.1 := by
  obtain ⟨d, hd, rfl⟩ := List.mem_map.mp h
  obtain ⟨row, hrow, hid⟩ := List.mem_map.mp (t.decisionEvents d hd)
  refine ⟨row, ⟨hrow, hid⟩, fun other hother => ?_⟩
  exact List.inj_on_of_nodup_map t.primaryKey hother.1 hrow (hother.2.trans hid.symm)

end EventTables

/-- What a lookup finds is stored. -/
theorem hasEvent_of_get {t : EventTables} {provider externalEventId : String} {e : NewsEventRow}
    (h : t.getByProviderExternalId provider externalEventId = some e) :
    t.HasEvent (e.id, provider, externalEventId) := by
  have hkey := List.find?_some h
  have hmem := List.mem_of_find?_eq_some h
  simp only [decide_eq_true_eq] at hkey
  refine List.mem_map.mpr ⟨e, hmem, ?_⟩
  rw [NewsEventRow.key, hkey.1, hkey.2]

/-- Storing an event keeps the others, and the article's event is stored. -/
theorem storeEvent_spec {t t' : EventTables} {article : NewsArticle} {classified : ClassifiedEvent}
    {now : DateTime} {event : Option NewsEventRow} {eventId : ℕ}
    (h : storeEvent t article classified now event = some (eventId, t')) :
    t'.decisions = t.decisions ∧ (∀ e, t.HasEvent e → t'.HasEvent e) ∧
      ((∀ e, event = some e → t.HasEvent (e.id, article.provider, article.externalEventId)) →
        t'.HasEvent (eventId, article.provider, article.externalEventId)) := by
  cases event with
  | none =>
      obtain ⟨t'', hadd, heq⟩ := Option.map_eq_some_iff.mp h
      obtain ⟨rfl, rfl⟩ := Prod.mk.inj heq
      obtain ⟨hevents, hdecisions⟩ := EventTables.addEvent_spec hadd
      refine ⟨hdecisions, fun e he => ?_, fun _ => ?_⟩ <;> unfold EventTables.HasEvent <;>
        rw [hevents, List.map_append]
      · exact List.mem_append_left _ he
      · exact List.mem_append_right _ (List.mem_singleton.mpr rfl)
  | some e =>
      obtain ⟨rfl, rfl⟩ := Prod.mk.inj (Option.some.inj h)
      refine ⟨rfl, fun e' he' => ?_, fun hevent => ?_⟩ <;> rw [EventTables.seeEvent_hasEvent]
      · exact he'
      · exact hevent e rfl

/-- The same for event and impact together. -/
theorem storeEventAndImpact_spec {t t' : EventTables} {article : NewsArticle} {symbol : String}
    {now : DateTime} {event : Option NewsEventRow} {impact : Option EventAssetImpact} {eventId : ℕ}
    (h : storeEventAndImpact t article symbol now event impact = some (eventId, t')) :
    t'.decisions = t.decisions ∧ (∀ e, t.HasEvent e → t'.HasEvent e) ∧
      ((∀ e, event = some e → t.HasEvent (e.id, article.provider, article.externalEventId)) →
        t'.HasEvent (eventId, article.provider, article.externalEventId)) := by
  obtain ⟨⟨id, t₁⟩, hstored, hrest⟩ := Option.bind_eq_some_iff.mp h
  obtain ⟨t₂, himpact, heq⟩ := Option.map_eq_some_iff.mp hrest
  obtain ⟨rfl, rfl⟩ := Prod.mk.inj heq
  have h₁ := storeEvent_spec hstored
  have h₂ : t₂.newsEvents = t₁.newsEvents ∧ t₂.decisions = t₁.decisions := by
    cases impact with
    | none   => exact EventTables.addImpact_spec himpact
    | some _ =>
        obtain rfl := Option.some.inj himpact
        exact ⟨rfl, rfl⟩
  refine ⟨h₂.2.trans h₁.1, fun e he => ?_, fun hevent => ?_⟩ <;> unfold EventTables.HasEvent <;>
    rw [h₂.1]
  · exact h₁.2.1 e he
  · exact h₁.2.2 hevent

/-- Marking keeps every decision and touches no event. -/
theorem markTriggered_spec {t t' : EventTables} {eventId experimentId step decision : ℕ} {now : DateTime}
    (h : t.markTriggered eventId experimentId step decision now = some t') :
    (∀ pair, t.HasDecision pair → t'.HasDecision pair) ∧ t'.newsEvents = t.newsEvents := by
  unfold EventTables.markTriggered at h
  split at h
  · obtain ⟨-, hkept, hevents⟩ := EventTables.addDecision_spec h
    exact ⟨fun pair hpair => (hkept pair).mpr (.inl hpair), hevents⟩
  · obtain rfl := Option.some.inj h
    exact ⟨fun pair hpair => EventTables.setDecision_hasDecision.mpr hpair, rfl⟩

/-! ## What a statement can do -/

namespace ScanThread

/-- The pair whose decision the thread has committed, and for which it is about to call
    `run_event_step`. -/
def pending : ScanThread → Option (ℕ × ℕ)
  | .queued _ t experimentId => some (t.eventId, experimentId)
  | _ => none

/-- The event the thread has read or stored for the article it is at: its id and its key. -/
def event : ScanThread → Option (ℕ × String × String)
  | .eventRead _ article _ e | .impactRead _ article _ e _ =>
      e.map fun e => (e.id, article.provider, article.externalEventId)
  | .triggering _ t | .undecided _ t _ | .queued _ t _ | .running _ t _ | .failing _ t _ _
  | .rewriting _ t _ _ _ => some (t.eventId, t.article.provider, t.article.externalEventId)
  | _ => none

end ScanThread

/-- What the thread has read or stored is stored. -/
def Known (d : ScannerData) (l : ScanThread) : Prop := ∀ e, l.event = some e → d.tables.HasEvent e

/-- What a statement of the scanner does to the data and to its thread. -/
inductive ScanEffect (d : ScannerData) (l : ScanThread) : ScannerData → ScanThread → Prop
  /-- It reads, or it ends a transaction without writing. -/
  | quiet (l' : ScanThread) (hpending : l'.pending = none ∨ l' = l) (hknown : Known d l → Known d l') :
      ScanEffect d l d l'
  /-- It writes rows, and every decision and event stays. -/
  | wrote (t : EventTables) (l' : ScanThread) (hpending : l'.pending = none)
      (hdecisions : ∀ pair, d.tables.HasDecision pair → t.HasDecision pair)
      (hevents : ∀ e, d.tables.HasEvent e → t.HasEvent e)
      (hknown : Known d l → Known { d with tables := t } l') : ScanEffect d l { d with tables := t } l'
  /-- It commits the decision of a pair that had none. -/
  | queued (s : Scan) (g : Triggering) (experimentId : ℕ) (t : EventTables)
      (hl : l = .undecided s g experimentId) (hnew : ¬ d.tables.HasDecision (g.eventId, experimentId))
      (hdecisions : ∀ pair, t.HasDecision pair ↔ d.tables.HasDecision pair ∨ pair = (g.eventId, experimentId))
      (hevents : t.newsEvents = d.tables.newsEvents) :
      ScanEffect d l { d with tables := t } (.queued s g experimentId)
  /-- It calls `run_event_step`. -/
  | called (s : Scan) (g : Triggering) (experimentId : ℕ) (hl : l = .queued s g experimentId) :
      ScanEffect d l { d with calls := d.calls ++ [(g.eventId, experimentId)] } (.running s g experimentId)

/-- It moves on without an event. -/
theorem ScanEffect.idling {d : ScannerData} {l l' : ScanThread} (hpending : l'.pending = none)
    (hevent : l'.event = none) : ScanEffect d l d l' :=
  .quiet l' (.inl hpending) fun _ e he => by simp [hevent] at he

/-- It moves on with the event it has. -/
theorem ScanEffect.carrying {d : ScannerData} {l l' : ScanThread} (hpending : l'.pending = none)
    (hevent : l'.event = l.event) : ScanEffect d l d l' :=
  .quiet l' (.inl hpending) fun h e he => h e (hevent ▸ he)

/-- Every statement of the scanner has one of these effects. -/
theorem scanner_effect (settings : EventSettings) (c : ScanChoice) (d : ScannerData) (l l' : ScanThread)
    (h : (scanner settings c d l).leadsTo l') :
    ScanEffect d l ((scanner settings c d l).published d) l' := by
  generalize ha : scanner settings c d l = a at h ⊢
  unfold scanner at ha
  split at ha
  -- a scan begins, from one of three places
  iterate 3
    · split at ha
      · simp only [] at ha
        split at ha <;> subst ha <;> cases h <;> exact .idling rfl rfl
      · subst ha; cases h
        exact .idling rfl rfl
  · subst ha; cases h
    exact .idling rfl rfl
  · next s =>
      split at ha <;> subst ha <;> cases h
      · exact .idling rfl rfl
      · next article symbol rest _ =>
          -- the event it reads is stored
          refine .quiet _ (.inl rfl) fun _ e he => ?_
          obtain ⟨row, hrow, rfl⟩ := Option.map_eq_some_iff.mp he
          exact hasEvent_of_get hrow
  · subst ha; cases h
    exact .carrying rfl rfl
  · -- event and impact are stored
    next s article symbol event impact =>
      split at ha
      · subst ha; cases h
        exact .idling rfl rfl
      · next eventId t hstore =>
          obtain ⟨hdecisions, hevents, hstored⟩ := storeEventAndImpact_spec hstore
          have hkept : ∀ pair, d.tables.HasDecision pair → t.HasDecision pair := by
            intro pair hpair
            unfold EventTables.HasDecision
            rw [hdecisions]
            exact hpair
          simp only [] at ha
          split at ha <;> subst ha <;> cases h
          · refine .wrote t _ rfl hkept hevents fun hknown e he => ?_
            obtain rfl := Option.some.inj he
            exact hstored fun e he => hknown _ (by rw [he]; rfl)
          · exact .wrote t _ rfl hkept hevents fun _ e he => by cases he
  · next s t =>
      split at ha
      · subst ha; cases h
        exact .idling rfl rfl
      · simp only [] at ha
        split at ha <;> subst ha <;> cases h
        · exact .carrying rfl rfl
        · exact .carrying rfl rfl
  · next s t experimentId =>
      split at ha
      · subst ha; cases h
        exact .idling rfl rfl
      · next tables hadd =>
          subst ha; cases h
          obtain ⟨hnew, hdecisions, hevents⟩ := EventTables.addDecision_spec hadd
          exact .queued s t experimentId tables rfl hnew hdecisions hevents
  · next s t experimentId =>
      subst ha; cases h
      exact .called s t experimentId rfl
  · next s t experimentId =>
      split at ha
      · subst ha; cases h
        exact .carrying rfl rfl
      · next tables hmark =>
          subst ha; cases h
          obtain ⟨hdecisions, hevents⟩ := markTriggered_spec hmark
          have hkept : ∀ e, d.tables.HasEvent e → tables.HasEvent e := EventTables.hasEvent_congr hevents
          exact .wrote tables _ rfl hdecisions hkept fun hknown e he => hkept e (hknown e he)
  · subst ha; cases h
    exact .carrying rfl rfl
  · split at ha <;> subst ha <;> cases h
    · exact .idling rfl rfl
    · exact .carrying rfl rfl
  · subst ha; cases h
    exact .carrying rfl rfl
  · subst ha; cases h
    exact .carrying rfl rfl
  · subst ha; cases h
    refine .wrote _ _ rfl (fun pair hpair => ?_) (fun e he => he) fun hknown e he => hknown e he
    exact EventTables.setDecision_hasDecision.mpr hpair
  · subst ha; cases h
    exact .idling rfl rfl
  · subst ha; cases h
    exact .quiet _ (.inr rfl) id

/-! ## The decision is the claim -/

/-- A pair is claimed by its decision, and held from the commit of the decision to the call. -/
def scannerClaims : Claims ScannerData ScanThread (ℕ × ℕ) where
  claimed d pair := d.tables.HasDecision pair
  acted d        := d.calls
  holding        := ScanThread.pending

/-- Only the commit of a decision makes a pair pending, and only the call takes it. -/
theorem ScanEffect.proper {d d' : ScannerData} {l l' : ScanThread} (h : ScanEffect d l d' l') :
    scannerClaims.ProperStep d l d' l' := by
  cases h with
  | quiet _ hpending _ =>
      refine .quiet (fun _ hk => hk) (fun k hk => ?_) rfl
      rcases hpending with hnone | rfl
      · rw [show scannerClaims.holding l' = none from hnone] at hk
        cases hk
      · exact hk
  | wrote t _ hpending hdecisions _ _ =>
      refine .quiet hdecisions (fun k hk => ?_) rfl
      rw [show scannerClaims.holding l' = none from hpending] at hk
      cases hk
  | queued s g experimentId t _ hnew hdecisions _ =>
      refine ⟨fun k hk => (hdecisions k).mpr (.inl hk), fun k hk => .inr ?_, .inl rfl⟩
      obtain rfl := Option.some.inj hk
      exact ⟨hnew, (hdecisions _).mpr (.inr rfl)⟩
  | called s g experimentId hl =>
      subst hl
      refine ⟨fun k hk => hk, fun k hk => ?_, .inr ⟨(g.eventId, experimentId), rfl, ?_, rfl⟩⟩
      · cases hk
      · intro hk
        cases hk

/-- Every statement of a scan is proper. -/
theorem scanner_proper (settings : EventSettings) (c : ScanChoice) (d : ScannerData) (l : ScanThread) :
    scannerClaims.Proper d l (scanner settings c d l) :=
  fun l' hl' => (scanner_effect settings c d l l' hl').proper

/-! ## Stored events -/

/-- Events stay, so whoever has read or stored one still finds it. -/
theorem ScanEffect.keeps {d d' : ScannerData} {l l' : ScanThread} (h : ScanEffect d l d' l') :
    (Known d l → Known d' l') ∧ ∀ other, Known d other → Known d' other := by
  cases h with
  | quiet _ _ hknown => exact ⟨hknown, fun _ ho => ho⟩
  | wrote t _ _ _ hevents hknown => exact ⟨hknown, fun _ ho e he => hevents e (ho e he)⟩
  | queued s g experimentId t hl _ _ hevents =>
      subst hl
      have hkept : ∀ e, d.tables.HasEvent e → t.HasEvent e := EventTables.hasEvent_congr hevents
      exact ⟨fun h e he => hkept e (h e he), fun _ ho e he => hkept e (ho e he)⟩
  | called s g experimentId hl =>
      subst hl
      exact ⟨id, fun _ ho => ho⟩

/-- One statement keeps what every thread knows. -/
theorem known_exec {settings : EventSettings} {m : Machine ScannerData ScanThread}
    (h : ∀ i, Known m.data (m.threads i)) (e : Event ScanChoice) (i : ℕ) :
    Known (exec (scanner settings) e m).data ((exec (scanner settings) e m).threads i) := by
  obtain ⟨l, hl, hthreads⟩ := exec_threads (scanner settings) e m
  have hkeeps := (scanner_effect settings e.choice m.data (m.threads e.thread) l hl).keeps
  rw [exec_data, hthreads]
  by_cases hi : i = e.thread
  · subst hi
    rw [Machine.goTo_self]
    exact hkeeps.1 (h _)
  · rw [Machine.goTo_other hi]
    exact hkeeps.2 _ (h i)

/-- And so does a run. -/
theorem known_run {settings : EventSettings} (es : List (Event ScanChoice))
    {m : Machine ScannerData ScanThread} (h : ∀ i, Known m.data (m.threads i)) (i : ℕ) :
    Known (Runs.run (exec (scanner settings)) es m).data
      ((Runs.run (exec (scanner settings)) es m).threads i) := by
  -- by induction on the events: only the thread that runs learns something, and nobody forgets
  induction es generalizing m with
  | nil => exact h i
  | cons e es ih => exact ih (known_exec h e)

/-! ## Every run -/

/-- Nobody scans yet, and nothing was triggered. -/
def scannerStart (tables : EventTables) : Machine ScannerData ScanThread :=
  ⟨⟨tables, []⟩, none, fun _ => .idle⟩

/-- Whoever is about to call works on the event of the pair. -/
theorem ScanThread.event_of_pending {l : ScanThread} {pair : ℕ × ℕ} (h : l.pending = some pair) :
    ∃ key, l.event = some (pair.1, key) := by
  cases l with
  | queued s t experimentId =>
      obtain rfl := Option.some.inj h
      exact ⟨_, rfl⟩
  | _ => cases h

/-- **News events trigger at most once.** After any scans, whatever the interleaving of their statements and
    whatever was stored before: `run_event_step` was called at most once for a pair of event and experiment,
    and then the pair has its decision; a pair with a decision, and so every pair it was called for, names one
    stored event; the event that a scan works on, and is about to call for, is the one row of its article; and a
    pair with a decision is never triggered again, unless its decision was only just committed and the call it
    was committed for is still to come. -/
theorem scans_trigger_once (settings : EventSettings) (tables : EventTables) (es : List (Event ScanChoice)) :
    let m := Runs.run (exec (scanner settings)) es (scannerStart tables)
    m.data.calls.Nodup ∧
    (∀ pair ∈ m.data.calls, m.data.tables.HasDecision pair ∧ ∀ i, (m.threads i).pending ≠ some pair) ∧
    (∀ pair, m.data.tables.HasDecision pair → ∃! row, row ∈ m.data.tables.newsEvents ∧ row.id = pair.1) ∧
    (∀ i id key, (m.threads i).event = some (id, key) → m.data.tables.IsEventOf id key) ∧
    (∀ i pair, (m.threads i).pending = some pair →
      ∃ key, (m.threads i).event = some (pair.1, key) ∧ m.data.tables.IsEventOf pair.1 key) ∧
    ∀ pair, m.data.tables.HasDecision pair → (∀ i, (m.threads i).pending ≠ some pair) →
      ∀ later, (Runs.run (exec (scanner settings)) later m).data.calls.count pair =
        m.data.calls.count pair := by
  intro m
  have hclaims : scannerClaims.Holds m := .run (scanner_proper settings) (.start rfl rfl)
  have hknown : ∀ i, Known m.data (m.threads i) := fun i =>
    known_run es (fun _ e he => by cases he) i
  refine ⟨hclaims.nodup, fun pair hpair => ⟨hclaims.acted pair hpair, fun i hi => ?_⟩,
    fun pair hdecision => hdecision.stored, fun i id key hevent => (hknown i _ hevent).unique,
    fun i pair hpending => ?_, fun pair hdecision hpending later => ?_⟩
  · exact (hclaims.holding i pair hi).2 hpair
  · obtain ⟨key, hevent⟩ := ScanThread.event_of_pending hpending
    exact ⟨key, hevent, (hknown i _ hevent).unique⟩
  · have hsettled : scannerClaims.Settled m pair := ⟨hdecision, hpending⟩
    exact hsettled.run (scanner_proper settings)

/-! ## Two scans of one article -/

/-- An article about an upgrade of SPY. -/
def spyUpgrade (rawPayload : Details) : NewsArticle where
  provider        := "alpaca"
  externalEventId := String.ofList ['4', '2']
  timestamp       := 3
  updatedAt       := none
  headline        := String.ofList "SPY upgrade".toList
  source          := none
  url             := none
  summary         := none
  symbols         := [String.ofList ['S', 'P', 'Y']]
  rawPayload      := rawPayload

def smallEventSettings : EventSettings := ⟨true, 60, 1 / 2, 50⟩

def spyExperiment : EventExperiment := ⟨7, spySymbol, by decide⟩

def noTables : EventTables where
  newsEvents      := []
  impacts         := []
  decisions       := []
  nextId          := 0
  uniqueEvents    := List.nodup_nil
  uniqueImpacts   := List.nodup_nil
  uniqueDecisions := List.nodup_nil
  primaryKey      := List.nodup_nil
  drawnKeys       := fun _ he => absurd he List.not_mem_nil
  impactEvents    := fun _ hi => absurd hi List.not_mem_nil
  decisionEvents  := fun _ hd => absurd hd List.not_mem_nil

/-- A scan up to the point where it has found no decision. -/
def scanToUndecided (thread : ℕ) : List (Event ScanChoice) :=
  [⟨thread, .scan [spyExperiment] 5000000000⟩, ⟨thread, .receive [spyUpgrade []]⟩, ⟨thread, .proceed⟩,
    ⟨thread, .proceed⟩, ⟨thread, .store [spyExperiment]⟩, ⟨thread, .proceed⟩]

/-- Two scans find no decision. The first commits one and calls; the insert of the second is refused; and the call
    fails. -/
def failedCall : List (Event ScanChoice) :=
  scanToUndecided 0 ++ scanToUndecided 1 ++
    [⟨0, .proceed⟩, ⟨1, .proceed⟩, ⟨0, .proceed⟩, ⟨0, .fail (runtimeError "agent")⟩, ⟨0, .proceed⟩,
      ⟨0, .record 5000000001⟩]

/-- **A call that failed is not repeated**: it was the only one, and whatever scans follow, it stays the only one. -/
theorem failedCall_not_repeated :
    let m := Runs.run (exec (scanner smallEventSettings)) failedCall (scannerStart noTables)
    m.data.calls = [(0, 7)] ∧ m.data.tables.decisions.map (·.status) = [.failed] ∧
      ∀ later, (Runs.run (exec (scanner smallEventSettings)) later m).data.calls.count (0, 7) = 1 := by
  intro m
  have hcalls : m.data.calls = [(0, 7)] := by decide +kernel
  obtain ⟨-, hcalled, -, -, -, hsettled⟩ := scans_trigger_once smallEventSettings noTables failedCall
  obtain ⟨hdecision, hpending⟩ := hcalled (0, 7) (by
    show (0, 7) ∈ m.data.calls
    rw [hcalls]
    exact List.mem_singleton_self _)
  refine ⟨hcalls, by decide +kernel, fun later => ?_⟩
  refine (hsettled (0, 7) hdecision hpending later).trans ?_
  show m.data.calls.count (0, 7) = 1
  rw [hcalls]
  rfl

end TradingAI
