import TradingAI.Correctness.AgentFallback
import TradingAI.Correctness.EventTriggers
import TradingAI.Events.AlpacaNewsProvider

/-!
# `Correctness.NewsCoverage` — a scan that returns has missed nothing

`EventTriggers` says that a news event triggers an experiment at most once. This file says that it is not
overlooked: when a scan returns, every article of every page that names a watched symbol is stored with its
impact, and if the impact is relevant every experiment that the scan listed throughout has its decision. Other
scans may run at the same time, and take the decision first.

What makes the proof short is that rows stay: no statement of any scan deletes an event, an impact or a decision.
So whatever a thread has made sure of is still so at its end.

## Contents
- `scanner_keeps`: rows stay.
- `ArticleHandled`, what a scan makes sure of for an article and a symbol.
- `Scanning`, the invariant of a scan; `scanning_step`, `scanning_run`.
- `scan_misses_nothing`.
-/

namespace TradingAI

open Transactions Pagination

variable {settings : EventSettings} {d d' : ScannerData} {l l' : ScanThread} {t t' : EventTables}

/-! ## Rows stay -/

/-- The rows of `t` are in `t'`, as far as a scan asks about them. -/
structure RowsStay (t t' : EventTables) : Prop where
  events    : ∀ e, t.HasEvent e → t'.HasEvent e
  impacts   : ∀ i ∈ t.impacts, i ∈ t'.impacts
  decisions : ∀ pair, t.HasDecision pair → t'.HasDecision pair

theorem RowsStay.refl (t : EventTables) : RowsStay t t := ⟨fun _ h => h, fun _ h => h, fun _ h => h⟩

theorem addImpact_impacts {i : EventAssetImpact} (h : t.addImpact i = some t') : t'.impacts = t.impacts ++ [i] := by
  unfold EventTables.addImpact at h
  split at h
  · obtain rfl := Option.some.inj h
    rfl
  · cases h

theorem addDecision_impacts {r : EventDecisionRow} (h : t.addDecision r = some t') : t'.impacts = t.impacts := by
  unfold EventTables.addDecision at h
  split at h
  · obtain rfl := Option.some.inj h
    rfl
  · cases h

theorem storeEvent_impacts {article : NewsArticle} {classified : ClassifiedEvent} {now : DateTime}
    {event : Option NewsEventRow} {eventId : ℕ} (h : storeEvent t article classified now event = some (eventId, t')) :
    t'.impacts = t.impacts := by
  cases event with
  | none =>
      obtain ⟨t'', hadd, heq⟩ := Option.map_eq_some_iff.mp h
      obtain ⟨-, rfl⟩ := Prod.mk.inj heq
      unfold EventTables.addEvent at hadd
      split at hadd
      · cases hadd
      · obtain rfl := Option.some.inj hadd
        rfl
  | some e =>
      obtain ⟨-, rfl⟩ := Prod.mk.inj (Option.some.inj h)
      rfl

/-- Storing keeps the impacts, and leaves one for the event and the symbol if the one that was read is one. -/
theorem storeEventAndImpact_impacts {article : NewsArticle} {symbol : String} {now : DateTime}
    {event : Option NewsEventRow} {impact : Option EventAssetImpact} {eventId : ℕ}
    (h : storeEventAndImpact t article symbol now event impact = some (eventId, t')) :
    (∀ i ∈ t.impacts, i ∈ t'.impacts) ∧
      ((∀ i, impact = some i → i ∈ t.impacts ∧ ∃ e, event = some e ∧ i.key = (e.id, symbol)) →
        ∃ i ∈ t'.impacts, i.key = (eventId, symbol)) := by
  obtain ⟨⟨id, t₁⟩, hstored, hrest⟩ := Option.bind_eq_some_iff.mp h
  obtain ⟨t₂, himpact, heq⟩ := Option.map_eq_some_iff.mp hrest
  obtain ⟨rfl, rfl⟩ := Prod.mk.inj heq
  have hsame := storeEvent_impacts hstored
  cases impact with
  | none =>
      have hadded := addImpact_impacts himpact
      rw [hsame] at hadded
      rw [hadded]
      exact ⟨fun i hi => List.mem_append_left _ hi, fun _ =>
        ⟨_, List.mem_append_right _ (List.mem_singleton_self _), rfl⟩⟩
  | some i =>
      obtain rfl := Option.some.inj himpact
      rw [hsame]
      refine ⟨fun i hi => hi, fun hread => ?_⟩
      obtain ⟨hi, e, rfl, hkey⟩ := hread i rfl
      obtain ⟨rfl, -⟩ := Prod.mk.inj (Option.some.inj hstored)
      exact ⟨i, hi, hkey⟩

theorem markTriggered_impacts {eventId experimentId step decision : ℕ} {now : DateTime}
    (h : t.markTriggered eventId experimentId step decision now = some t') : t'.impacts = t.impacts := by
  unfold EventTables.markTriggered at h
  split at h
  · exact addDecision_impacts h
  · obtain rfl := Option.some.inj h
    rfl

/-- No statement of a scan deletes an impact. -/
theorem scanner_impacts (settings : EventSettings) (c : ScanChoice) (d : ScannerData) (l : ScanThread) :
    ∀ i ∈ d.tables.impacts, i ∈ ((scanner settings c d l).published d).tables.impacts := by
  intro i hi
  generalize ha : scanner settings c d l = a
  unfold scanner at ha
  split at ha
  iterate 3
    · split at ha
      · simp only [] at ha
        split at ha <;> subst ha <;> exact hi
      · subst ha; exact hi
  · subst ha; exact hi
  · split at ha <;> subst ha <;> exact hi
  · subst ha; exact hi
  · -- event and impact are stored
    split at ha
    · subst ha; exact hi
    · next hstore =>
        simp only [] at ha
        split at ha <;> subst ha <;> exact (storeEventAndImpact_impacts hstore).1 i hi
  · split at ha
    · subst ha; exact hi
    · simp only [] at ha
      split at ha <;> subst ha <;> exact hi
  · split at ha
    · subst ha; exact hi
    · next hadd =>
        subst ha
        exact addDecision_impacts hadd ▸ hi
  · subst ha; exact hi
  · split at ha
    · subst ha; exact hi
    · next hmark =>
        subst ha
        exact markTriggered_impacts hmark ▸ hi
  · subst ha; exact hi
  · split at ha <;> subst ha <;> exact hi
  iterate 5
    · subst ha; exact hi

/-- **Rows stay**: no statement of any scan deletes an event, an impact or a decision. -/
theorem scanner_keeps (settings : EventSettings) (c : ScanChoice) (d : ScannerData) (l : ScanThread) :
    RowsStay d.tables ((scanner settings c d l).published d).tables := by
  obtain ⟨l', hl'⟩ : ∃ l', (scanner settings c d l).leadsTo l' := by
    cases scanner settings c d l with
    | tryLock granted _ => exact ⟨granted, .inl rfl⟩
    | go l' | commit _ l' | rollback l' => exact ⟨l', rfl⟩
  have heffect := scanner_effect settings c d l l' hl'
  refine ⟨fun e he => ?_, scanner_impacts settings c d l, heffect.proper.claimed⟩
  -- the events, as a thread that has read this one still finds it
  generalize (scanner settings c d l).published d = d' at heffect
  cases heffect with
  | quiet => exact he
  | wrote _ _ _ _ hevents => exact hevents e he
  | queued _ _ _ _ _ _ _ hevents => exact EventTables.hasEvent_congr hevents e he
  | called => exact he

/-! ## What a scan makes sure of -/

section Scan

variable (settings : EventSettings) (listed : ℕ → String → Prop) (work : List (NewsArticle × String))

/-- **The article is handled for the symbol**: it is stored with its impact, and if the impact is relevant
    every listed experiment of the symbol has its decision. -/
def ArticleHandled (t : EventTables) (article : NewsArticle) (symbol : String) : Prop :=
  ∃ eventId, t.HasEvent (eventId, article.provider, article.externalEventId) ∧
    ∃ i ∈ t.impacts, i.key = (eventId, symbol) ∧
      (settings.eventRelevanceThreshold ≤ i.relevanceScore.val →
        ∀ experimentId, listed experimentId symbol → t.HasDecision (eventId, experimentId))

/-- All pairs of the scan are handled but those that are left. -/
def HandledBut (t : EventTables) (left : List (NewsArticle × String)) (stored : ℕ) : Prop :=
  ∃ done, work = done ++ left ∧ stored = done.length ∧ ∀ p ∈ done, ArticleHandled settings listed t p.1 p.2

/-- The scan is at the experiments of a relevant impact: all pairs before are handled, and the listed experiments
    that are not to come have their decision. -/
structure Deciding (t : EventTables) (s : Scan) (g : Triggering) (experimentIds : List ℕ) : Prop where
  handled : ∃ stored, s.stored = stored + 1 ∧ HandledBut settings listed work t ((g.article, g.symbol) :: s.work) stored
  impact  : ∃ i ∈ t.impacts, i.key = (g.eventId, g.symbol)
  decided : ∀ x, listed x g.symbol → x ∈ experimentIds ∨ t.HasDecision (g.eventId, x)

/-- **The invariant of a scan** of these pairs, from the first one on. -/
def Scanning (t : EventTables) : ScanThread → Prop
  | .idle | .fetching _ _ => False
  | .scanning s => HandledBut settings listed work t s.work s.stored
  | .eventRead s article symbol _ => HandledBut settings listed work t ((article, symbol) :: s.work) s.stored
  | .impactRead s article symbol event impact =>
      HandledBut settings listed work t ((article, symbol) :: s.work) s.stored ∧
        ∀ i, impact = some i → i ∈ t.impacts ∧ ∃ e, event = some e ∧ i.key = (e.id, symbol)
  | .triggering s g | .queued s g _ | .running s g _ | .failing s g _ _ | .rewriting s g _ _ _ =>
      Deciding settings listed work t s g g.experimentIds
  | .undecided s g experimentId => Deciding settings listed work t s g (experimentId :: g.experimentIds)
  | .returned result =>
      result.enabled = true ∧ result.eventsStored = work.length ∧ ∀ p ∈ work, ArticleHandled settings listed t p.1 p.2
  | .raised _ => True

end Scan

variable {listed : ℕ → String → Prop} {work left : List (NewsArticle × String)} {article : NewsArticle}
  {symbol : String} {stored : ℕ} {s : Scan} {g : Triggering} {experimentIds : List ℕ}

theorem ArticleHandled.stay (h : ArticleHandled settings listed t article symbol) (hstay : RowsStay t t') :
    ArticleHandled settings listed t' article symbol := by
  obtain ⟨eventId, hevent, i, hi, hkey, hdecided⟩ := h
  exact ⟨eventId, hstay.events _ hevent, i, hstay.impacts i hi, hkey,
    fun hrelevant x hx => hstay.decisions _ (hdecided hrelevant x hx)⟩

theorem HandledBut.stay (h : HandledBut settings listed work t left stored) (hstay : RowsStay t t') :
    HandledBut settings listed work t' left stored := by
  obtain ⟨done, hwork, hstored, hdone⟩ := h
  exact ⟨done, hwork, hstored, fun p hp => (hdone p hp).stay hstay⟩

theorem Deciding.stay (h : Deciding settings listed work t s g experimentIds) (hstay : RowsStay t t') :
    Deciding settings listed work t' s g experimentIds := by
  obtain ⟨⟨stored, hstored, hbut⟩, ⟨i, hi, hkey⟩, hdecided⟩ := h
  exact ⟨⟨stored, hstored, hbut.stay hstay⟩, ⟨i, hstay.impacts i hi, hkey⟩,
    fun x hx => (hdecided x hx).imp_right (hstay.decisions _)⟩

/-- What a thread has made sure of is not undone by the others. -/
theorem Scanning.stay (h : Scanning settings listed work t l) (hstay : RowsStay t t') :
    Scanning settings listed work t' l := by
  cases l with
  | idle | fetching => exact h
  | scanning | eventRead => exact HandledBut.stay h hstay
  | impactRead =>
      obtain ⟨hbut, hread⟩ := h
      exact ⟨hbut.stay hstay, fun i hi => ⟨hstay.impacts i (hread i hi).1, (hread i hi).2⟩⟩
  | triggering | undecided | queued | running | failing | rewriting => exact Deciding.stay h hstay
  | returned => exact ⟨h.1, h.2.1, fun p hp => (h.2.2 p hp).stay hstay⟩
  | raised => trivial

/-- The next pair is handled. -/
theorem HandledBut.next (h : HandledBut settings listed work t ((article, symbol) :: left) stored)
    (hhandled : ArticleHandled settings listed t article symbol) : HandledBut settings listed work t left (stored + 1) := by
  obtain ⟨done, hwork, hstored, hdone⟩ := h
  refine ⟨done ++ [(article, symbol)], by rw [hwork, List.append_assoc, List.singleton_append], ?_, ?_⟩
  · rw [hstored, List.length_append, List.length_singleton]
  · intro p hp
    rcases List.mem_append.mp hp with hp | hp
    · exact hdone p hp
    · obtain rfl := List.mem_singleton.mp hp
      exact hhandled

/-- All experiments are decided: so the pair is handled. -/
theorem Deciding.next (h : Deciding settings listed work t s g [])
    (hevent : t.HasEvent (g.eventId, g.article.provider, g.article.externalEventId)) :
    HandledBut settings listed work t s.work s.stored := by
  obtain ⟨⟨stored, hstored, hbut⟩, ⟨i, hi, hkey⟩, hdecided⟩ := h
  rw [hstored]
  exact hbut.next ⟨g.eventId, hevent, i, hi, hkey, fun _ x hx => (hdecided x hx).resolve_left List.not_mem_nil⟩

/-! ## Lookups -/

/-- An impact that was looked up is one of the event and the symbol, whose name is in capitals. -/
theorem getByEventSymbol_spec {i : EventAssetImpact} {eventId : ℕ} (hupper : upperSymbol symbol = symbol)
    (h : t.getByEventSymbol eventId symbol = some i) : i ∈ t.impacts ∧ i.key = (eventId, symbol) := by
  have hkey := List.find?_some h
  rw [decide_eq_true_eq, hupper] at hkey
  exact ⟨List.mem_of_find?_eq_some h, Prod.ext hkey.1 hkey.2⟩

/-- The impact of the event and the symbol decides whether the event is relevant. -/
theorem isRelevant_of_impact {i : EventAssetImpact} {eventId : ℕ} (hupper : upperSymbol symbol = symbol)
    (hi : i ∈ t.impacts) (hkey : i.key = (eventId, symbol))
    (hrelevant : settings.eventRelevanceThreshold ≤ i.relevanceScore.val) :
    isRelevant settings (t.getByEventSymbol eventId symbol) = true := by
  cases hfound : t.getByEventSymbol eventId symbol with
  | none =>
      have hnone := List.find?_eq_none.mp hfound i hi
      obtain ⟨hid, hsymbol⟩ := Prod.mk.inj hkey
      rw [decide_eq_true_eq, hupper] at hnone
      exact absurd ⟨hid, hsymbol⟩ hnone
  | some j =>
      obtain ⟨hj, hjkey⟩ := getByEventSymbol_spec hupper hfound
      obtain rfl := List.inj_on_of_nodup_map t.uniqueImpacts hi hj (hkey.trans hjkey.symm)
      exact decide_eq_true hrelevant

theorem hasDecision_of_get {eventId experimentId : ℕ} {r : EventDecisionRow}
    (h : t.getByEventExperiment eventId experimentId = some r) : t.HasDecision (eventId, experimentId) := by
  have hkey := List.find?_some h
  rw [decide_eq_true_eq] at hkey
  exact List.mem_map.mpr ⟨r, List.mem_of_find?_eq_some h, Prod.ext hkey.1 hkey.2⟩

/-! ## The steps of a scan -/

/-- **How the surroundings of a scan go**: it is not begun anew, and every time it asks for the experiments it is
    answered with the listed ones, and maybe others. -/
def Attends (listed : ℕ → String → Prop) : ScanChoice → Prop
  | .scan _ _ => False
  | .store experiments => ∀ x symbol, listed x symbol → ∃ e ∈ experiments, e.id = x ∧ e.assetSymbol = symbol
  | _ => True

/-- **One statement of the scan.** -/
theorem scanning_step {c : ScanChoice} (hupper : ∀ p ∈ work, upperSymbol p.2 = p.2) (hc : Attends listed c)
    (h : Scanning settings listed work d.tables l) (hknown : Known d l) (hl : (scanner settings c d l).leadsTo l') :
    Scanning settings listed work ((scanner settings c d l).published d).tables l' := by
  have hstay := scanner_keeps settings c d l
  generalize ha : scanner settings c d l = a at hl hstay ⊢
  unfold scanner at ha
  split at ha
  -- a scan does not begin, and it has its articles
  iterate 3 exact absurd hc id
  · exact absurd h id
  · next s =>
      -- the next pair, or the end
      split at ha <;> subst ha <;> cases hl
      · next hnone =>
          obtain ⟨done, hwork, hstored, hdone⟩ := h
          rw [hnone, List.append_nil] at hwork
          subst hwork
          exact ⟨rfl, hstored, hdone⟩
      · next article symbol rest hnext =>
          have hbut : HandledBut settings listed work d.tables s.work s.stored := h
          rw [hnext] at hbut
          exact hbut
  · next s article symbol event =>
      subst ha; cases hl
      refine ⟨h, fun i hi => ?_⟩
      have hmem : (article, symbol) ∈ work := by
        obtain ⟨done, hwork, -, -⟩ := h
        exact hwork ▸ List.mem_append_right _ List.mem_cons_self
      obtain ⟨e, rfl, hi⟩ := Option.bind_eq_some_iff.mp hi
      obtain ⟨himpact, hkey⟩ := getByEventSymbol_spec (hupper _ hmem) hi
      exact ⟨himpact, e, rfl, hkey⟩
  · -- event and impact are stored
    next experiments s article symbol event impact =>
      obtain ⟨hbut, hread⟩ := h
      have hsymbol : upperSymbol symbol = symbol := by
        obtain ⟨done, hwork, -, -⟩ := hbut
        exact hupper (article, symbol) (hwork ▸ List.mem_append_right _ List.mem_cons_self)
      split at ha
      · subst ha; cases hl
        trivial
      · next eventId t hstore =>
          obtain ⟨i, hi, hkey⟩ := (storeEventAndImpact_impacts hstore).2 hread
          have hevent : t.HasEvent (eventId, article.provider, article.externalEventId) :=
            (storeEventAndImpact_spec hstore).2.2 fun e he => hknown _ (by rw [he]; rfl)
          simp only [] at ha
          split at ha <;> subst ha <;> cases hl
          · -- the experiments of the symbol are to be decided, the listed ones among them
            refine ⟨⟨s.stored, rfl, hbut.stay hstay⟩, ⟨i, hi, hkey⟩, fun x hx => .inl ?_⟩
            obtain ⟨e, he, rfl, hasset⟩ := hc x symbol hx
            exact List.mem_map_of_mem (List.mem_filter.mpr ⟨he, decide_eq_true hasset⟩)
          · next hirrelevant =>
              refine (hbut.stay hstay).next ⟨eventId, hevent, i, hi, hkey, fun hrelevant => ?_⟩
              exact absurd (isRelevant_of_impact hsymbol hi hkey hrelevant) hirrelevant
  · next s g =>
      -- the next experiment, or the end
      have hdeciding : Deciding settings listed work d.tables s g g.experimentIds := h
      split at ha
      · next hnone =>
          subst ha; cases hl
          rw [hnone] at hdeciding
          exact hdeciding.next (hknown _ rfl)
      · next x rest hnext =>
          rw [hnext] at hdeciding
          simp only [] at ha
          split at ha <;> subst ha <;> cases hl
          · next r hr =>
              refine ⟨hdeciding.handled, hdeciding.impact, fun y hy => ?_⟩
              rcases hdeciding.decided y hy with hmem | hdecided
              · rcases List.mem_cons.mp hmem with rfl | hmem
                · exact .inr (hasDecision_of_get hr)
                · exact .inl hmem
              · exact .inr hdecided
          · exact ⟨hdeciding.handled, hdeciding.impact, hdeciding.decided⟩
  · next s g x =>
      have hdeciding : Deciding settings listed work d.tables s g (x :: g.experimentIds) := h
      split at ha
      · subst ha; cases hl
        trivial
      · next tables hadd =>
          subst ha; cases hl
          have hkept := hdeciding.stay hstay
          refine ⟨hkept.handled, hkept.impact, fun y hy => ?_⟩
          rcases hkept.decided y hy with hmem | hdecided
          · rcases List.mem_cons.mp hmem with rfl | hmem
            · exact .inr (((EventTables.addDecision_spec hadd).2.1 _).mpr (.inr rfl))
            · exact .inl hmem
          · exact .inr hdecided
  · subst ha; cases hl
    exact h
  · -- the call marks its decision
    split at ha
    · subst ha; cases hl
      exact h
    · subst ha; cases hl
      exact Deciding.stay h hstay
  · subst ha; cases hl
    exact ⟨h.handled, h.impact, h.decided⟩
  · split at ha <;> subst ha <;> cases hl
    · trivial
    · exact h
  · subst ha; cases hl
    exact h
  · subst ha; cases hl
    exact h
  · subst ha; cases hl
    exact Deciding.stay h hstay
  · subst ha; cases hl
    trivial
  · subst ha; cases hl
    exact h

/-! ## A scan among others -/

variable {m : Machine ScannerData ScanThread} {i : ℕ} {request : NewsRequest} {pages : List (List NewsArticle)}
  {articles : List NewsArticle} {result : ScanResult}

/-- One statement of any thread. -/
theorem scanning_exec {e : Event ScanChoice} (hupper : ∀ p ∈ work, upperSymbol p.2 = p.2)
    (hc : e.thread = i → Attends listed e.choice) (hknown : ∀ j, Known m.data (m.threads j))
    (h : Scanning settings listed work m.data.tables (m.threads i)) :
    Scanning settings listed work (exec (scanner settings) e m).data.tables
      ((exec (scanner settings) e m).threads i) := by
  obtain ⟨l, hl, hthreads⟩ := exec_threads (scanner settings) e m
  rw [exec_data, hthreads]
  by_cases hi : e.thread = i
  · subst hi
    rw [Machine.goTo_self]
    exact scanning_step hupper (hc rfl) h (hknown _) hl
  · rw [Machine.goTo_other (Ne.symm hi)]
    exact h.stay (scanner_keeps settings _ _ _)

/-- **Any statements of any threads**, as long as the scan is not begun anew. -/
theorem scanning_run (hupper : ∀ p ∈ work, upperSymbol p.2 = p.2) {es : List (Event ScanChoice)}
    (hes : ∀ e ∈ es, e.thread = i → Attends listed e.choice) (hknown : ∀ j, Known m.data (m.threads j))
    (h : Scanning settings listed work m.data.tables (m.threads i)) :
    Scanning settings listed work (Runs.run (exec (scanner settings)) es m).data.tables
      ((Runs.run (exec (scanner settings)) es m).threads i) := by
  have hmeet : Runs.AllMeet (exec (scanner settings)) (fun e _ => e.thread = i → Attends listed e.choice) es m :=
    Runs.allMeet_iff_forall.mpr fun x hx => hes x.1 (Runs.fst_mem_of_mem_meetings hx)
  exact (Runs.run_keeps (I := fun m : Machine ScannerData ScanThread =>
      Scanning settings listed work m.data.tables (m.threads i) ∧ ∀ j, Known m.data (m.threads j))
    (fun e m hm hc => ⟨scanning_exec hupper hc hm.2 hm.1, known_exec hm.2 e⟩) hmeet ⟨h, hknown⟩).1

deriving instance DecidableEq for NewsRequest, ScanResult

/-- What a thread asks the provider for, while it does. -/
def ScanThread.asks : ScanThread → Option NewsRequest
  | .fetching request _ => some request
  | _ => none

/-- What a scan has returned. -/
def ScanThread.answer : ScanThread → Option ScanResult
  | .returned result => some result
  | _ => none

/-- The symbols a thread asks for are supported ones. -/
def AsksSupported (l : ScanThread) : Prop :=
  ∀ request, l.asks = some request → ∀ s ∈ request.symbols, s ∈ supportedEquitySymbols

theorem scannedSymbols_supported (experiments : List EventExperiment) :
    ∀ s ∈ scannedSymbols experiments, s ∈ supportedEquitySymbols := by
  intro s hs
  obtain ⟨e, -, rfl⟩ := List.mem_map.mp (List.mem_toFinset.mp ((Finset.mem_sort _).mp hs))
  exact e.supported

/-- A thread asks for what the scan begins with, or for what it has asked before. -/
theorem asksSupported_step {c : ScanChoice} (h : AsksSupported l) (hl : (scanner settings c d l).leadsTo l') :
    AsksSupported l' := by
  have hquiet : ∀ l' : ScanThread, l'.asks = none → AsksSupported l' := fun l' hnone request hasks => by
    rw [hnone] at hasks
    cases hasks
  generalize ha : scanner settings c d l = a at hl
  unfold scanner at ha
  split at ha
  iterate 3
    · split at ha
      · simp only [] at ha
        split at ha <;> subst ha <;> cases hl
        · exact hquiet _ rfl
        · intro request hasks
          obtain rfl := Option.some.inj hasks
          exact scannedSymbols_supported _
      · subst ha; cases hl
        exact hquiet _ rfl
  · subst ha; cases hl
    exact hquiet _ rfl
  · split at ha <;> subst ha <;> cases hl <;> exact hquiet _ rfl
  · subst ha; cases hl
    exact hquiet _ rfl
  · split at ha
    · subst ha; cases hl
      exact hquiet _ rfl
    · simp only [] at ha
      split at ha <;> subst ha <;> cases hl <;> exact hquiet _ rfl
  · split at ha
    · subst ha; cases hl
      exact hquiet _ rfl
    · simp only [] at ha
      split at ha <;> subst ha <;> cases hl <;> exact hquiet _ rfl
  · split at ha <;> subst ha <;> cases hl <;> exact hquiet _ rfl
  · subst ha; cases hl
    exact hquiet _ rfl
  · split at ha <;> subst ha <;> cases hl <;> exact hquiet _ rfl
  · subst ha; cases hl
    exact hquiet _ rfl
  · split at ha <;> subst ha <;> cases hl <;> exact hquiet _ rfl
  iterate 4
    · subst ha; cases hl
      exact hquiet _ rfl
  · subst ha; cases hl
    exact h

/-- In every run, whatever a thread asks for is supported. -/
theorem asksSupported_run {es : List (Event ScanChoice)} {tables : EventTables} (i : ℕ) :
    AsksSupported ((Runs.run (exec (scanner settings)) es (scannerStart tables)).threads i) := by
  refine (Runs.run_keeps (I := fun m : Machine ScannerData ScanThread => ∀ i, AsksSupported (m.threads i))
    (fun e m hm _ i => ?_) (Meets.always es _) fun _ _ hasks => by cases hasks) i
  obtain ⟨l, hl, hthreads⟩ := exec_threads (scanner settings) e m
  rw [hthreads]
  by_cases hi : i = e.thread
  · subst hi
    rw [Machine.goTo_self]
    exact asksSupported_step (hm _) hl
  · rw [Machine.goTo_other hi]
    exact hm i

theorem upperSymbol_of_supported {s : String} (h : s ∈ supportedEquitySymbols) : upperSymbol s = s := by
  have hall : ∀ s ∈ supportedEquitySymbols, upperSymbol s = s := by decide +kernel
  exact hall s h

theorem mem_scanWork {symbols : List String} :
    (article, symbol) ∈ scanWork articles symbols ↔ article ∈ articles ∧ symbol ∈ symbols ∧ symbol ∈ article.symbols := by
  unfold scanWork
  rw [List.mem_flatMap]
  constructor
  · rintro ⟨a, ha, h⟩
    obtain ⟨s, hs, heq⟩ := List.mem_map.mp h
    obtain ⟨rfl, rfl⟩ := Prod.mk.inj heq
    obtain ⟨hmem, hnames⟩ := List.mem_filter.mp hs
    exact ⟨ha, hmem, of_decide_eq_true hnames⟩
  · rintro ⟨ha, hmem, hnames⟩
    exact ⟨article, ha, List.mem_map.mpr ⟨symbol, List.mem_filter.mpr ⟨hmem, decide_eq_true hnames⟩, rfl⟩⟩

/-- Every page is fetched. -/
theorem AlpacaNewsProvider.fetchNews_complete {reader : ResponseReader} {api : NewsApi} {fuel : ℕ}
    (hsymbols : request.symbols ≠ [])
    (hserves : Pages (fun token => newsPage reader (api { queryOf request with pageToken := token })) none pages)
    (hfuel : pages.length ≤ fuel) : fetchNews reader api request fuel = some (.ok pages.flatten) := by
  unfold fetchNews
  rw [if_neg hsymbols, hserves.collect [] hfuel, List.nil_append]

/-- **A scan that returns has missed nothing.** While any other scans run, let a scan get the articles of every
    page of a news server, ask for the experiments of a symbol and find the listed ones every time, and return.
    Then it has stored one event for each pair it counts, and every article of every page that names a symbol it
    watches is handled for it: stored with its impact, and if that is relevant, with a decision for every listed
    experiment of the symbol. -/
theorem scan_misses_nothing (settings : EventSettings) (tables : EventTables) (before after : List (Event ScanChoice))
    (i : ℕ) (reader : ResponseReader) (api : NewsApi) (fuel : ℕ) (request : NewsRequest) (pages : List (List NewsArticle))
    (articles : List NewsArticle) (listed : ℕ → String → Prop) (result : ScanResult)
    (hasks : ((Runs.run (exec (scanner settings)) before (scannerStart tables)).threads i).asks = some request)
    (hserves : Pages (fun token => AlpacaNewsProvider.newsPage reader
      (api { AlpacaNewsProvider.queryOf request with pageToken := token })) none pages)
    (hfuel : pages.length ≤ fuel) (hfetch : AlpacaNewsProvider.fetchNews reader api request fuel = some (.ok articles))
    (hafter : ∀ e ∈ after, e.thread = i → Attends listed e.choice)
    (hanswer : ((Runs.run (exec (scanner settings)) (before ++ ⟨i, .receive articles⟩ :: after)
      (scannerStart tables)).threads i).answer = some result) :
    result.enabled = true ∧ result.eventsStored = (scanWork articles request.symbols).length ∧
      ∀ page ∈ pages, ∀ article ∈ page, ∀ symbol ∈ article.symbols, symbol ∈ request.symbols →
        ArticleHandled settings listed (Runs.run (exec (scanner settings)) (before ++ ⟨i, .receive articles⟩ :: after)
          (scannerStart tables)).data.tables article symbol := by
  have hsupported := asksSupported_run i request hasks
  have hupper : ∀ p ∈ scanWork articles request.symbols, upperSymbol p.2 = p.2 := fun p hp =>
    upperSymbol_of_supported (hsupported _ (mem_scanWork.mp hp).2.1)
  have hknown : ∀ j, Known (Runs.run (exec (scanner settings)) before (scannerStart tables)).data
      ((Runs.run (exec (scanner settings)) before (scannerStart tables)).threads j) :=
    known_run before fun _ e he => by cases he
  generalize hm : Runs.run (exec (scanner settings)) before (scannerStart tables) = m at hasks hknown
  rw [Runs.run_append, hm, Runs.run] at hanswer ⊢
  have hbegun : Scanning settings listed (scanWork articles request.symbols)
      (exec (scanner settings) ⟨i, .receive articles⟩ m).data.tables
      ((exec (scanner settings) ⟨i, .receive articles⟩ m).threads i) := by
    cases hl : m.threads i with
    | fetching asked now =>
        rw [hl] at hasks
        obtain rfl := Option.some.inj hasks
        have hstep : exec (scanner settings) ⟨i, .receive articles⟩ m =
            m.goTo i (.scanning { now, work := scanWork articles asked.symbols }) := by
          unfold exec
          rw [hl]
          rfl
        rw [hstep, Machine.goTo_self]
        exact ⟨[], rfl, rfl, fun p hp => absurd hp List.not_mem_nil⟩
    | _ => rw [hl] at hasks; cases hasks
  have hscanned := scanning_run hupper hafter (known_exec hknown _) hbegun
  generalize Runs.run (exec (scanner settings)) after _ = last at hanswer hscanned ⊢
  cases hl : last.threads i with
  | returned returned =>
      rw [hl] at hanswer hscanned
      obtain rfl := Option.some.inj hanswer
      obtain ⟨henabled, hstored, hhandled⟩ := hscanned
      refine ⟨henabled, hstored, fun page hpage article harticle symbol hnames hwatched => ?_⟩
      rw [AlpacaNewsProvider.fetchNews_complete (List.ne_nil_of_mem hwatched) hserves hfuel] at hfetch
      obtain rfl := Except.ok.inj (Option.some.inj hfetch)
      exact hhandled (article, symbol)
        (mem_scanWork.mpr ⟨List.mem_flatten.mpr ⟨page, hpage, harticle⟩, hwatched, hnames⟩)
  | _ => rw [hl] at hanswer; cases hanswer

/-! ## Two scans at once -/

/-- The text of a text; every timestamp is read as the same instant. -/
def smallNewsReader : ResponseReader :=
  { smallInterpreter with
    str := fun v => match v with
      | .str cs => String.ofList cs
      | _       => ""
    wallClock := fun _ => some 3 }

/-- An item about an upgrade of SPY. -/
def upgradeItem : Json.Value :=
  .dict [("id".toList, .str ['4', '2']), ("headline".toList, .str "SPY upgrade".toList),
    ("created_at".toList, .str "2024-07-03T10:00:00Z".toList), ("symbols".toList, .list [.str ['s', 'p', 'y']])]

/-- The article of the item. -/
def upgradeArticle : NewsArticle :=
  spyUpgrade (detailOf.detailsOfDict
    [("id".toList, .str ['4', '2']), ("headline".toList, .str "SPY upgrade".toList),
      ("created_at".toList, .str "2024-07-03T10:00:00Z".toList), ("symbols".toList, .list [.str ['s', 'p', 'y']])])

/-- A server with this item on its second page. -/
def upgradeApi : NewsApi := fun query =>
  match query.pageToken with
  | none   => .json (.dict [("news".toList, .list []), ("next_page_token".toList, .str ['p'])])
  | some _ => .json (.dict [("news".toList, .list [upgradeItem]), ("next_page_token".toList, .null)])

def spyRequest : NewsRequest := ⟨[spySymbol], minutesBefore 5000000000 60, 5000000000, 50⟩

/-- Two threads scan; the first has asked its provider, the second has its articles. -/
def twoScans : List (Event ScanChoice) :=
  [⟨0, .scan [spyExperiment] 5000000000⟩, ⟨1, .scan [spyExperiment] 5000000000⟩, ⟨1, .receive [upgradeArticle]⟩]

/-- The first stores the event, the second decides, and the first finds it decided. -/
def secondDecides : List (Event ScanChoice) :=
  [⟨0, .proceed⟩, ⟨0, .proceed⟩, ⟨0, .store [spyExperiment]⟩, ⟨1, .proceed⟩, ⟨1, .proceed⟩, ⟨1, .store [spyExperiment]⟩,
    ⟨1, .proceed⟩, ⟨1, .proceed⟩, ⟨0, .proceed⟩, ⟨0, .proceed⟩, ⟨0, .proceed⟩]

/-- The first scan returns, and the pair has its decision, though not from this scan. -/
theorem upgrade_is_decided :
    ArticleHandled smallEventSettings (fun x s => x = 7 ∧ s = spySymbol)
      (Runs.run (exec (scanner smallEventSettings)) (twoScans ++ ⟨0, .receive [upgradeArticle]⟩ :: secondDecides)
        (scannerStart noTables)).data.tables upgradeArticle spySymbol := by
  have hpages : Pages (fun token => AlpacaNewsProvider.newsPage smallNewsReader
      (upgradeApi { AlpacaNewsProvider.queryOf spyRequest with pageToken := token })) none [[], [upgradeArticle]] :=
    .more rfl (.last rfl)
  have hlisted : ∀ e ∈ secondDecides, Attends (fun x s => x = 7 ∧ s = spySymbol) e.choice := by
    simp [secondDecides, Attends, spyExperiment]
  exact (scan_misses_nothing smallEventSettings noTables twoScans secondDecides 0 smallNewsReader upgradeApi 2 spyRequest
    [[], [upgradeArticle]] [upgradeArticle] (fun x s => x = 7 ∧ s = spySymbol) ⟨true, 1, 0⟩ (by decide +kernel) hpages
    le_rfl (AlpacaNewsProvider.fetchNews_complete (by decide) hpages le_rfl) (fun e he _ => hlisted e he)
    (by decide +kernel)).2.2 [upgradeArticle] (by simp) upgradeArticle (by simp) spySymbol (by decide +kernel) (by decide)

end TradingAI
