import TradingAI.Correctness.CompleteRanges
import TradingAI.Correctness.TradingDays
import TradingAI.Execution.OpeningRangeRun
import TradingAI.Lib.Chronology
import TradingAI.MarketData.HourlyBars
import TradingAI.MarketData.IntradayRanges

/-!
# `Correctness.LoadedSessions` — one provider, both paths

The historical run of an intraday experiment loads its whole range at once; the paper path asks, bar after bar,
for the session so far. A range that a provider loads is the complete sessions of the calendar, and the session
so far is the part of them that has happened (`loaded_ranges_feed_both_paths`).

## Contents
- The sessions of a range, one by one (`session_alone`, `mem_grid_iff`).
- `dayBars`: the bars of a range, cut into sessions (`dayBars_times`, `flatMap_dayBars`).
- `sessionUntil_dayBars`: the session so far, from other rows.
- `FeedsBothPaths`; the CSV loader and the Alpaca provider have it.
-/

namespace TradingAI

open UsEquitiesTradingCalendar Outcome Civil Pagination

variable {first last : ℤ} {sessions : List TradingSession} {session : TradingSession} {rows rows' bars : List IntradayBar}
  {symbol : String}

/-! ## The sessions of a range -/

/-- The calendar answers for the years 2 to 9998. -/
theorem years_of_range (hrange : first ≤ last) (h : sessionsBetween first last = .ok sessions) :
    2 ≤ yearOf first ∧ yearOf last ≤ 9998 := by
  unfold sessionsBetween at h
  rw [if_neg (not_lt.mpr hrange)] at h
  split_ifs at h with hlow hhigh
  constructor <;> omega

/-- A session of a range is the one its date has alone. -/
theorem session_alone (hrange : first ≤ last) (h : sessionsBetween first last = .ok sessions) (hmem : session ∈ sessions) :
    sessionsBetween session.sessionDate session.sessionDate = .ok [session] := by
  obtain ⟨hlow, hhigh⟩ := years_of_range hrange h
  rw [sessionsBetween_ok hrange h] at hmem
  obtain ⟨hfirst, hlast⟩ := sessionDate_of_mem hmem
  obtain ⟨d, -, hsession⟩ := List.mem_filterMap.mp hmem
  rw [sessionsBetween_self (hlow.trans (yearOf_mono hfirst)) ((yearOf_mono hlast).trans hhigh),
    (sessionOf_spec hsession).1, hsession]
  rfl

/-- Sessions come in the order of their dates. -/
theorem sessions_ascending (hrange : first ≤ last) (h : sessionsBetween first last = .ok sessions) :
    (sessions.map TradingSession.sessionDate).Pairwise (· < ·) := by
  have hsorted : (Int.range first (last + 1)).Pairwise (· < ·) := by
    unfold Int.range
    rw [List.pairwise_map]
    refine List.pairwise_lt_range.imp ?_
    intro i j hij
    omega
  rw [sessionsBetween_ok hrange h, sessionsIn, List.pairwise_map, List.pairwise_filterMap]
  refine hsorted.imp ?_
  intro d d' hlt s hs s' hs'
  rwa [(sessionOf_spec hs).1, (sessionOf_spec hs').1]

/-- The starts of a range on the date of a session are the starts of the session. -/
theorem mem_grid_iff (hrange : first ≤ last) (h : sessionsBetween first last = .ok sessions) (hmem : session ∈ sessions)
    {t : DateTime} :
    t ∈ expectedStarts sessions ∧ t.date = session.sessionDate ↔ t ∈ session.expectedBarStartTimes := by
  constructor
  · rintro ⟨hstart, hdate⟩
    obtain ⟨session', hmem', ht⟩ := List.mem_flatMap.mp hstart
    have halone := session_alone hrange h hmem'
    rw [← ((ofCalendar halone).start_parts ht).1, hdate] at halone
    have heq := halone.symm.trans (session_alone hrange h hmem)
    rw [Except.ok.injEq, List.cons.injEq] at heq
    exact heq.1 ▸ ht
  · intro ht
    exact ⟨List.mem_flatMap.mpr ⟨session, hmem, ht⟩, ((ofCalendar (session_alone hrange h hmem)).start_parts ht).1⟩

/-! ## A range, cut into sessions -/

/-- Bars that fill a grid have each of its starts once. -/
theorem FillsGrid.onceEach {expected : List DateTime} {result : List IntradayBar} (h : FillsGrid expected bars result) :
    OnceEach bars expected := by
  have hnodup : (result.map IntradayBar.timestamp).Nodup := List.pairwise_map.mpr (h.ascending.imp ne_of_lt)
  rw [onceEach_iff_count]
  intro t ht
  rw [← (h.perm.map IntradayBar.timestamp).count_eq]
  exact List.count_eq_one_of_mem hnodup ((h.starts t).mpr ht)

/-- The bars of a session, among those of a range. -/
def dayBars (bars : List IntradayBar) (session : TradingSession) : List IntradayBar :=
  bars.filter (·.sessionDate = session.sessionDate)

/-- Every bar is dated by its start, as both providers date it. -/
def DatedByStart (rows : List IntradayBar) : Prop := ∀ bar ∈ rows, bar.sessionDate = bar.timestamp.date

/-- A range that passed the validation. -/
structure Loaded (first last : Date) (sessions : List TradingSession) (rows bars : List IntradayBar) : Prop where
  range    : first ≤ last
  calendar : sessionsBetween first last = .ok sessions
  dated    : DatedByStart rows
  fills    : FillsGrid (expectedStarts sessions) (barsBetween first last rows) bars

namespace Loaded

variable (h : Loaded first last sessions rows bars)
include h

theorem mem_rows {bar : IntradayBar} (hbar : bar ∈ bars) : bar ∈ rows :=
  (List.mem_filter.mp (List.mem_filter.mp (h.fills.perm.mem_iff.mp hbar)).1).1

theorem start_mem {bar : IntradayBar} (hbar : bar ∈ bars) : bar.timestamp ∈ expectedStarts sessions :=
  (h.fills.starts _).mp (List.mem_map_of_mem hbar)

/-- **The starts of a session** are all there, in order. -/
theorem dayBars_times (hmem : session ∈ sessions) :
    (dayBars bars session).map IntradayBar.timestamp = session.expectedBarStartTimes := by
  have halone := ofCalendar (session_alone h.range h.calendar hmem)
  have hbars : ((dayBars bars session).map IntradayBar.timestamp).Pairwise fun t u => id t < id u := by
    rw [List.pairwise_map]
    exact h.fills.ascending.filter _
  have hgrid : session.expectedBarStartTimes.Pairwise fun t u => id t < id u :=
    halone.expected ▸ barGrid_ascending _ _
  refine Chronology.eq_of_mem_iff hbars hgrid fun t => ?_
  rw [← mem_grid_iff h.range h.calendar hmem, ← h.fills.starts]
  simp only [dayBars, List.mem_map, List.mem_filter, decide_eq_true_eq]
  constructor
  · rintro ⟨bar, ⟨hbar, hdate⟩, rfl⟩
    exact ⟨⟨bar, hbar, rfl⟩, (h.dated bar (h.mem_rows hbar)).symm.trans hdate⟩
  · rintro ⟨⟨bar, hbar, rfl⟩, hdate⟩
    exact ⟨bar, ⟨hbar, (h.dated bar (h.mem_rows hbar)).trans hdate⟩, rfl⟩

/-- **The sessions are the range**, one after another. -/
theorem flatMap_dayBars : bars = sessions.flatMap (dayBars bars) := by
  have hdates : ∀ bar ∈ bars, bar.sessionDate ∈ sessions.map TradingSession.sessionDate := by
    intro bar hbar
    obtain ⟨session, hmem, ht⟩ := List.mem_flatMap.mp (h.start_mem hbar)
    rw [h.dated bar (h.mem_rows hbar), ((mem_grid_iff h.range h.calendar hmem).mpr ht).2]
    exact List.mem_map_of_mem hmem
  have hmono : ∀ bar ∈ bars, ∀ bar' ∈ bars, bar.sessionDate < bar'.sessionDate → bar.timestamp < bar'.timestamp := by
    intro bar hbar bar' hbar' hlt
    rw [h.dated bar (h.mem_rows hbar), h.dated bar' (h.mem_rows hbar')] at hlt
    exact lt_of_date_lt hlt
  have hcut := Chronology.eq_flatMap_filter h.fills.ascending (sessions_ascending h.range h.calendar) hdates hmono
  rwa [List.flatMap_map] at hcut

/-- A session of the range with positive closes is a complete one. -/
theorem exists_day (hprices : ∀ bar ∈ bars, 0 < bar.close) (hmem : session ∈ sessions) :
    ∃ day : TradingDay, day.sessionDate = session.sessionDate ∧ day.bars = dayBars bars session := by
  have halone := session_alone h.range h.calendar hmem
  obtain ⟨hdate, hopens, hcloses, hexpected⟩ := sessionOf_spec (sessionOf_of_sessionsBetween halone).1
  exact ⟨{
    sessionDate := session.sessionDate
    closeTime   := session.closeTime
    bars        := dayBars bars session
    date_nonneg := (ofCalendar halone).nonneg
    closes      := hcloses
    times       := (h.dayBars_times hmem).trans hexpected
    dates       := fun bar hbar => of_decide_eq_true (List.mem_filter.mp hbar).2
    prices      := fun bar hbar => hprices bar (List.mem_filter.mp hbar).1 }, rfl, rfl⟩

/-- The bars of a session are the rows on its grid. -/
theorem onGrid_rows (hmem : session ∈ sessions) :
    (dayBars bars session).Perm (onGrid rows session.expectedBarStartTimes) := by
  have hin := sessionDate_of_mem (sessionsBetween_ok h.range h.calendar ▸ hmem)
  have hday : dayBars (onGrid (barsBetween first last rows) (expectedStarts sessions)) session =
      onGrid rows session.expectedBarStartTimes := by
    unfold dayBars onGrid barsBetween
    rw [List.filter_filter, List.filter_filter]
    apply List.filter_congr
    intro bar hbar
    rw [Bool.eq_iff_iff]
    simp only [Bool.and_eq_true, decide_eq_true_eq]
    rw [← mem_grid_iff h.range h.calendar hmem, ← h.dated bar hbar]
    constructor
    · rintro ⟨⟨hdate, hstart⟩, -, -⟩
      exact ⟨hstart, hdate⟩
    · rintro ⟨hstart, hdate⟩
      exact ⟨⟨hdate, hstart⟩, hdate ▸ hin.1, hdate ▸ hin.2⟩
  exact hday ▸ h.fills.perm.filter _

/-- **The session so far**, from rows that have the same bars on its grid: what the range has up to there. -/
theorem sessionUntil_dayBars (hmem : session ∈ sessions) (hdated : DatedByStart rows')
    (hsame : (onGrid rows' session.expectedBarStartTimes).Perm (onGrid rows session.expectedBarStartTimes))
    {through : DateTime} (hthrough : through ∈ session.expectedBarStartTimes) (provider unavailable : String) :
    sessionUntil rows' session session.sessionDate through symbol provider unavailable =
      .ok ((dayBars bars session).filter (·.timestamp ≤ through)) := by
  have halone := ofCalendar (session_alone h.range h.calendar hmem)
  -- on the grid of the session, the date and the range ask for nothing
  have hcandidates : onGrid (rows'.filter fun bar => bar.sessionDate = session.sessionDate ∧ bar.timestamp ≤ through)
      (session.expectedBarStartTimes.filter (· ≤ through)) =
        (onGrid rows' session.expectedBarStartTimes).filter (·.timestamp ≤ through) := by
    unfold onGrid
    rw [List.filter_filter, List.filter_filter]
    apply List.filter_congr
    intro bar hbar
    rw [Bool.eq_iff_iff]
    simp only [Bool.and_eq_true, decide_eq_true_eq, List.mem_filter]
    constructor
    · rintro ⟨⟨hgrid, hle⟩, -, -⟩
      exact ⟨hle, hgrid⟩
    · rintro ⟨hle, hgrid⟩
      exact ⟨⟨hgrid, hle⟩, (hdated bar hbar).trans (halone.start_parts hgrid).1, hle⟩
  have hbars := (h.onGrid_rows hmem).trans hsame.symm
  have hfills : FillsGrid (session.expectedBarStartTimes.filter (· ≤ through))
      (rows'.filter fun bar => bar.sessionDate = session.sessionDate ∧ bar.timestamp ≤ through)
      ((dayBars bars session).filter (·.timestamp ≤ through)) := by
    refine ⟨(h.fills.ascending.filter _).filter _, fun t => ?_, hcandidates ▸ hbars.filter _⟩
    rw [← h.dayBars_times hmem, List.filter_map]
    rfl
  -- the bar asked for is there
  have hsome : rows'.filter (fun bar => bar.sessionDate = session.sessionDate ∧ bar.timestamp ≤ through) ≠ [] := by
    intro hnone
    have hstart := (hfills.starts through).mpr (List.mem_filter.mpr ⟨hthrough, decide_eq_true le_rfl⟩)
    obtain ⟨bar, hbar, -⟩ := List.mem_map.mp hstart
    have hmem := hfills.perm.mem_iff.mp hbar
    rw [hnone] at hmem
    cases hmem
  unfold sessionUntil
  dsimp only
  rw [if_neg hsome]
  exact validateIntradayBarsUntil_ok_iff.mpr ⟨hfills.onceEach, hfills⟩

end Loaded

/-! ## The providers -/

theorem days_of_sessions {P : Date → List IntradayBar → Prop}
    (hall : ∀ session ∈ sessions, P session.sessionDate (dayBars bars session))
    (hday : ∀ session ∈ sessions, ∃ day : TradingDay,
      day.sessionDate = session.sessionDate ∧ day.bars = dayBars bars session) :
    ∃ days : List TradingDay, days.map TradingDay.sessionDate = sessions.map TradingSession.sessionDate ∧
      days.map TradingDay.bars = sessions.map (dayBars bars) ∧ ∀ day ∈ days, P day.sessionDate day.bars := by
  induction sessions with
  | nil => exact ⟨[], rfl, rfl, fun _ hmem => absurd hmem List.not_mem_nil⟩
  | cons session sessions ih =>
      rw [List.forall_mem_cons] at hall hday
      obtain ⟨day, hdate, hbars⟩ := hday.1
      obtain ⟨days, hdates, hlists, hdays⟩ := ih hall.2 hday.2
      refine ⟨day :: days, by rw [List.map_cons, List.map_cons, hdate, hdates],
        by rw [List.map_cons, List.map_cons, hbars, hlists], ?_⟩
      rw [List.forall_mem_cons, hdate, hbars]
      exact ⟨hall.1, hdays⟩

/-- **A provider feeds both paths.** A range that it loads, with positive closes, is the complete sessions of the
    calendar, in order; and asked for one of them up to any of its bars, it answers with the first bars of it. -/
def FeedsBothPaths (provider : IntradayMarketDataProvider) (first last : Date) (symbol : String) : Prop :=
  ∀ bars, provider.loadRange first last symbol .intraday5Min = .ok bars → (∀ bar ∈ bars, 0 < bar.close) →
    ∃ days : List TradingDay, InOrder days ∧ bars = days.flatMap TradingDay.bars ∧
      days.map TradingDay.sessionDate = (sessionsIn first last).map TradingSession.sessionDate ∧
      ∀ day ∈ days, ∀ bar ∈ day.bars, provider.loadSessionUntil day.sessionDate bar.timestamp symbol =
        .ok (day.bars.filter (·.timestamp ≤ bar.timestamp))

/-- What holds of the bars of each session, holds of the days of a range. -/
theorem Loaded.days (h : Loaded first last sessions rows bars) (hprices : ∀ bar ∈ bars, 0 < bar.close)
    {P : Date → List IntradayBar → Prop} (hall : ∀ session ∈ sessions, P session.sessionDate (dayBars bars session)) :
    ∃ days : List TradingDay, InOrder days ∧ bars = days.flatMap TradingDay.bars ∧
      days.map TradingDay.sessionDate = (sessionsIn first last).map TradingSession.sessionDate ∧
      ∀ day ∈ days, P day.sessionDate day.bars := by
  obtain ⟨days, hdates, hlists, hdays⟩ := days_of_sessions hall fun session hmem => h.exists_day hprices hmem
  refine ⟨days, ?_, ?_, ?_, hdays⟩
  · rw [InOrder, ← List.pairwise_map, hdates]
    exact sessions_ascending h.range h.calendar
  · rw [List.flatMap_def, hlists, ← List.flatMap_def]
    exact h.flatMap_dayBars
  · rw [hdates, sessionsBetween_ok h.range h.calendar]

namespace SpyIntradayCsvLoader

variable {reader : BarReader} {zone : Zone} {csvPath : String} {file : Option CsvFixture}

theorem parseRow_dated {row : CsvRow} {rowNumber : ℕ} {bar : IntradayBar}
    (h : parseRow reader zone row rowNumber = .ok bar) : bar.sessionDate = bar.timestamp.date := by
  unfold parseRow at h
  split at h
  · cases h
  · split at h
    · cases h
    · split at h
      · cases h
      · obtain ⟨open_, -, h⟩ := ok_of_bind h
        obtain ⟨high, -, h⟩ := ok_of_bind h
        obtain ⟨low, -, h⟩ := ok_of_bind h
        obtain ⟨close, -, h⟩ := ok_of_bind h
        obtain ⟨volume, -, h⟩ := ok_of_bind h
        cases h
        rfl

theorem readRows_dated (h : readRows reader zone csvPath file = .ok rows) : DatedByStart rows := by
  unfold readRows at h
  split at h
  · cases h
  · split at h
    · cases h
    · intro bar hbar
      obtain ⟨x, -, hx⟩ := mem_of_mapM h hbar
      exact parseRow_dated hx

/-- What the loader loads, and from which rows. -/
theorem loaded_of_loadRange (h : (provider reader zone csvPath file).loadRange first last symbol .intraday5Min = .ok bars) :
    symbol = spySymbol ∧ ∃ sessions rows, readRows reader zone csvPath file = .ok rows ∧
      Loaded first last sessions rows bars := by
  unfold provider loadRange at h
  obtain ⟨⟨⟩, hsymbol, h⟩ := ok_of_bind h
  obtain ⟨⟨⟩, -, h⟩ := ok_of_bind h
  obtain ⟨⟨⟩, hrange, h⟩ := ok_of_bind h
  obtain ⟨sessions, hsessions, h⟩ := ok_of_bind h
  obtain ⟨rows, hrows, h⟩ := ok_of_bind h
  obtain ⟨⟨⟩, -, h⟩ := ok_of_bind h
  exact ⟨not_not.mp (refuseIf_eq_ok.mp hsymbol), sessions, rows, hrows, not_lt.mp (refuseIf_eq_ok.mp hrange), hsessions,
    readRows_dated hrows, (validateIntradayBars_ok_iff.mp h).2⟩

/-- The loader reads the same file for both paths. -/
theorem feedsBothPaths : FeedsBothPaths (provider reader zone csvPath file) first last symbol := by
  intro bars hload hprices
  obtain ⟨rfl, sessions, rows, hrows, h⟩ := loaded_of_loadRange hload
  obtain ⟨days, hsorted, hbars, hdates, hdays⟩ := h.days hprices
    (P := fun d dayBars => ∀ bar ∈ dayBars, (provider reader zone csvPath file).loadSessionUntil d bar.timestamp spySymbol =
      .ok (dayBars.filter (·.timestamp ≤ bar.timestamp))) fun session hmem bar hbar => by
    unfold provider loadSessionUntil
    dsimp only
    rw [if_neg (not_not.mpr rfl), session_alone h.range h.calendar hmem, hrows]
    exact h.sessionUntil_dayBars hmem h.dated (List.Perm.refl _)
      (h.dayBars_times hmem ▸ List.mem_map_of_mem hbar) _ _
  exact ⟨days, hsorted, hbars, hdates, hdays⟩

end SpyIntradayCsvLoader

namespace AlpacaIntradayMarketDataProvider

variable {settings : AlpacaSettings} {reader : BarReader} {zone : Zone} {api : AlpacaApi} {fuel : ℕ}

theorem mapBar_dated {payload : Json.Value} {bar : IntradayBar} (h : mapBar reader zone payload = .ok bar) :
    bar.sessionDate = bar.timestamp.date := by
  unfold mapBar at h
  split at h
  · obtain ⟨start, -, h⟩ := ok_of_bind h
    obtain ⟨timestamp, -, h⟩ := ok_of_bind h
    obtain ⟨open_, -, h⟩ := ok_of_bind h
    obtain ⟨high, -, h⟩ := ok_of_bind h
    obtain ⟨low, -, h⟩ := ok_of_bind h
    obtain ⟨close, -, h⟩ := ok_of_bind h
    obtain ⟨volume, -, h⟩ := ok_of_bind h
    cases h
    rfl
  · cases h

theorem loadPages_dated {startDate endDate : Date}
    (h : loadPages settings reader zone api fuel symbol startDate endDate = .ok rows) : DatedByStart rows := by
  obtain ⟨payload, -, h⟩ := ok_of_bind h
  intro bar hbar
  obtain ⟨x, -, hx⟩ := mem_of_mapM h hbar
  exact mapBar_dated hx

/-- What a request asks for: from the open of the first date to the close of the last. -/
def Requested (startDate endDate : Date) (bar : IntradayBar) : Prop :=
  DateTime.midnight startDate + regularOpenTime ≤ bar.timestamp ∧
    bar.timestamp ≤ DateTime.midnight endDate + regularCloseTime

instance (startDate endDate : Date) (bar : IntradayBar) : Decidable (Requested startDate endDate bar) :=
  inferInstanceAs (Decidable (_ ∧ _))

/-- **A server with a stock of bars**, all of which can be mapped. A request inside the range is answered in
    pages, with the bars of the stock that it asks for, and `fuel` requests are enough to read them. -/
structure ServesStock (settings : AlpacaSettings) (reader : BarReader) (zone : Zone) (api : AlpacaApi) (fuel : ℕ)
    (symbol : String) (first last : Date) (stock : List (Json.Value × IntradayBar)) : Prop where
  maps   : ∀ x ∈ stock, mapBar reader zone x.1 = .ok x.2
  serves : ∀ startDate endDate, first ≤ startDate → startDate ≤ endDate → endDate ≤ last →
    ∃ pages, ServesPages api (rangeQuery settings zone startDate endDate symbol) pages ∧ pages.length ≤ fuel ∧
      pages.flatten = (stock.filter fun x => Requested startDate endDate x.2).map Prod.fst

/-- The bars of the stock that a request asks for. -/
def requestedOf (stock : List (Json.Value × IntradayBar)) (startDate endDate : Date) : List IntradayBar :=
  (stock.filter fun x => Requested startDate endDate x.2).map Prod.snd

theorem mapM_stock {stock : List (Json.Value × IntradayBar)} (h : ∀ x ∈ stock, mapBar reader zone x.1 = .ok x.2) :
    (stock.map Prod.fst).mapM (mapBar reader zone) = .ok (stock.map Prod.snd) := by
  induction stock with
  | nil => rfl
  | cons x stock ih =>
      rw [List.forall_mem_cons] at h
      rw [List.map_cons, List.mapM_cons, h.1, ih h.2]
      rfl

/-- A request is answered with what it asks for. -/
theorem ServesStock.loadPages_eq {stock : List (Json.Value × IntradayBar)}
    (h : ServesStock settings reader zone api fuel symbol first last stock) {startDate endDate : ℤ}
    (hfirst : first ≤ startDate) (hrange : startDate ≤ endDate) (hlast : endDate ≤ last) :
    loadPages settings reader zone api fuel symbol startDate endDate = .ok (requestedOf stock startDate endDate) := by
  obtain ⟨pages, hpages, hfuel, hitems⟩ := h.serves startDate endDate hfirst hrange hlast
  unfold loadPages
  rw [loadAllPages_complete hpages hfuel, hitems]
  exact mapM_stock fun x hx => h.maps x (List.mem_filter.mp hx).1

/-- On the grid of a session, asking for its date is asking for any range around it. -/
theorem requested_iff (halone : OfCalendar session.sessionDate session) {bar : IntradayBar}
    (hgrid : bar.timestamp ∈ session.expectedBarStartTimes) (hfirst : first ≤ session.sessionDate)
    (hlast : session.sessionDate ≤ last) : Requested first last bar := by
  have hmono {d d' : ℤ} (h : d ≤ d') : DateTime.midnight d ≤ DateTime.midnight d' :=
    Nat.mul_le_mul_right _ (Int.toNat_le_toNat h)
  rw [halone.expected] at hgrid
  obtain ⟨i, hi, hstart⟩ := mem_barGrid.mp hgrid
  have hcount := halone.barCount_eq
  have hend : regularOpenTime + i * barInterval ≤ regularCloseTime := by
    show (34200000000 + i * 300000000 : ℕ) ≤ 57600000000
    omega
  have hbase : bar.timestamp = DateTime.midnight session.sessionDate + (regularOpenTime + i * barInterval) := by
    rw [hstart, TradingSession.base, Nat.add_assoc]
  have hstarts := hmono hfirst
  have hends := hmono hlast
  unfold Requested
  rw [hbase]
  generalize regularOpenTime = opens at *
  generalize regularCloseTime = closes at *
  exact ⟨Nat.add_le_add hstarts (Nat.le_add_right _ _), Nat.add_le_add hends hend⟩

theorem onGrid_requestedOf {stock : List (Json.Value × IntradayBar)} (halone : OfCalendar session.sessionDate session)
    (hfirst : first ≤ session.sessionDate) (hlast : session.sessionDate ≤ last) :
    onGrid (requestedOf stock session.sessionDate session.sessionDate) session.expectedBarStartTimes =
      onGrid (requestedOf stock first last) session.expectedBarStartTimes := by
  unfold onGrid requestedOf
  rw [List.filter_map, List.filter_map, List.filter_filter, List.filter_filter]
  refine congrArg (List.map Prod.snd) (List.filter_congr fun x _ => ?_)
  rw [Bool.eq_iff_iff]
  simp only [Function.comp_apply, Bool.and_eq_true, decide_eq_true_eq]
  constructor
  · rintro ⟨hgrid, -⟩
    exact ⟨hgrid, requested_iff halone hgrid hfirst hlast⟩
  · rintro ⟨hgrid, -⟩
    exact ⟨hgrid, requested_iff halone hgrid le_rfl le_rfl⟩

/-- What the provider loads, and from which rows. -/
theorem loaded_of_loadRange
    (h : (provider settings reader zone api fuel).loadRange first last symbol .intraday5Min = .ok bars) :
    isSupportedEquitySymbol (normalizeSymbol symbol) ∧ ∃ sessions rows,
      loadPages settings reader zone api fuel (normalizeSymbol symbol) first last = .ok rows ∧
        Loaded first last sessions rows bars := by
  unfold provider loadRange at h
  obtain ⟨⟨⟩, hrequest, h⟩ := ok_of_bind h
  obtain ⟨⟨⟩, hsymbol, -⟩ := ok_of_bind hrequest
  obtain ⟨⟨⟩, hrange, h⟩ := ok_of_bind h
  obtain ⟨sessions, hsessions, h⟩ := ok_of_bind h
  obtain ⟨rows, hrows, h⟩ := ok_of_bind h
  obtain ⟨⟨⟩, -, h⟩ := ok_of_bind h
  obtain ⟨validated, hvalid, h⟩ := ok_of_bind h
  obtain ⟨⟨⟩, -, h⟩ := ok_of_bind h
  cases h
  exact ⟨not_not.mp (refuseIf_eq_ok.mp hsymbol), sessions, rows, hrows, not_lt.mp (refuseIf_eq_ok.mp hrange), hsessions,
    loadPages_dated hrows, (validateIntradayBars_ok_iff.mp hvalid).2⟩

/-- The provider reads one stock for both paths, though each asks for bars that the other does not. -/
theorem feedsBothPaths {stock : List (Json.Value × IntradayBar)}
    (hserves : ServesStock settings reader zone api fuel (normalizeSymbol symbol) first last stock) :
    FeedsBothPaths (provider settings reader zone api fuel) first last symbol := by
  intro bars hload hprices
  obtain ⟨hsymbol, sessions, rows, hrows, h⟩ := loaded_of_loadRange hload
  obtain rfl := Except.ok.inj (hrows.symm.trans (hserves.loadPages_eq le_rfl h.range le_rfl))
  obtain ⟨days, hsorted, hbars, hdates, hdays⟩ := h.days hprices
    (P := fun d dayBars => ∀ bar ∈ dayBars, (provider settings reader zone api fuel).loadSessionUntil d bar.timestamp symbol =
      .ok (dayBars.filter (·.timestamp ≤ bar.timestamp))) fun session hmem bar hbar => by
    obtain ⟨hfirst, hlast⟩ := sessionDate_of_mem (sessionsBetween_ok h.range h.calendar ▸ hmem)
    have halone := session_alone h.range h.calendar hmem
    have hthrough : bar.timestamp ∈ session.expectedBarStartTimes := h.dayBars_times hmem ▸ List.mem_map_of_mem hbar
    have hpages := hserves.loadPages_eq hfirst le_rfl hlast
    have hgrid : onGrid (requestedOf stock session.sessionDate session.sessionDate) session.expectedBarStartTimes =
        onGrid (requestedOf stock first last) session.expectedBarStartTimes :=
      onGrid_requestedOf (ofCalendar halone) hfirst hlast
    have hsome : requestedOf stock session.sessionDate session.sessionDate ≠ [] := by
      intro hnone
      have hbar' := hgrid.symm ▸ (h.onGrid_rows hmem).mem_iff.mp hbar
      rw [hnone] at hbar'
      cases hbar'
    unfold provider loadSessionUntil
    dsimp only
    rw [if_neg (not_not.mpr hsymbol), halone, hpages]
    show (if requestedOf stock session.sessionDate session.sessionDate = [] then _ else _) = _
    rw [if_neg hsome]
    exact h.sessionUntil_dayBars hmem (loadPages_dated hpages) (List.Perm.of_eq hgrid) hthrough _ _
  exact ⟨days, hsorted, hbars, hdates, hdays⟩

end AlpacaIntradayMarketDataProvider

/-- **What is loaded feeds both paths**, from the CSV file and from a server with a stock of bars: the historical run
    gets the complete sessions of its range, and the paper path gets the same bars, each at its time. -/
theorem loaded_ranges_feed_both_paths (reader : BarReader) (zone : Zone) (first last : Date) (symbol : String) :
    (∀ csvPath file,
      FeedsBothPaths (SpyIntradayCsvLoader.provider reader zone csvPath file) first last symbol) ∧
    ∀ settings api fuel stock,
      AlpacaIntradayMarketDataProvider.ServesStock settings reader zone api fuel (normalizeSymbol symbol) first last stock →
      FeedsBothPaths (AlpacaIntradayMarketDataProvider.provider settings reader zone api fuel) first last symbol :=
  ⟨fun _ _ => SpyIntradayCsvLoader.feedsBothPaths, fun _ _ _ _ => AlpacaIntradayMarketDataProvider.feedsBothPaths⟩

/-! ## An early close -/

def twoDigits (n : ℕ) : List Char := [Char.ofNat (48 + n / 10), Char.ofNat (48 + n % 10)]

/-- The start of the bar with this number on 3 July 2024, when the market closes at one. -/
def startText (i : ℕ) : List Char :=
  "2024-07-03T".toList ++ twoDigits (13 + (30 + 5 * i) / 60) ++ ":".toList ++ twoDigits ((30 + 5 * i) % 60) ++
    ":00+00:00".toList

def julyThird : Date := Civil.ordinal 2024 7 3

/-- The session in a CSV file, newest bar first. -/
def earlyCloseFile : CsvFixture where
  fieldnames := SpyIntradayCsvLoader.requiredColumns
  rows       := (List.range 42).reverse.map fun i =>
    ⟨some (startText i), some "100".toList, some "101".toList, some "99".toList, some "100".toList, some "1".toList⟩

def earlyCloseItem (i : ℕ) : Json.Value :=
  .dict [("t".toList, .str (startText i)), ("o".toList, .int 100), ("h".toList, .int 101), ("l".toList, .int 99),
    ("c".toList, .int 100), ("v".toList, .int 1)]

/-- The session on a server. -/
def earlyCloseStock : List (Json.Value × IntradayBar) :=
  ((List.range 42).map earlyCloseItem).filterMap fun item =>
    (AlpacaIntradayMarketDataProvider.mapBar smallReader easternDaylightTime item).toOption.map (item, ·)

/-- It answers in two pages. -/
def earlyClosePages : List (List Json.Value) :=
  [(earlyCloseStock.take 30).map Prod.fst, (earlyCloseStock.drop 30).map Prod.fst]

theorem earlyCloseStock_served : AlpacaIntradayMarketDataProvider.ServesStock {} smallReader easternDaylightTime
    (pagedApi earlyClosePages) 2 (normalizeSymbol "SPY") julyThird julyThird earlyCloseStock where
  maps x hx := by
    obtain ⟨item, -, hitem⟩ := List.mem_filterMap.mp hx
    obtain ⟨bar, hbar, rfl⟩ := Option.map_eq_some_iff.mp hitem
    show AlpacaIntradayMarketDataProvider.mapBar smallReader easternDaylightTime item = .ok bar
    cases hmap : AlpacaIntradayMarketDataProvider.mapBar smallReader easternDaylightTime item with
    | error e => rw [hmap] at hbar; cases hbar
    | ok bar' => rw [hmap] at hbar; cases hbar; rfl
  serves startDate endDate hfirst hrange hlast := by
    obtain rfl : startDate = julyThird := le_antisymm (hrange.trans hlast) hfirst
    obtain rfl : endDate = julyThird := le_antisymm hlast hrange
    refine ⟨earlyClosePages, pagedApi_serves _ (List.cons_ne_nil _ _), le_rfl, ?_⟩
    have hall : earlyCloseStock.all fun x =>
        decide (AlpacaIntradayMarketDataProvider.Requested julyThird julyThird x.2) := by decide +kernel
    rw [List.filter_eq_self.mpr fun x hx => List.all_eq_true.mp hall x hx]
    show List.map Prod.fst (earlyCloseStock.take 30) ++ (List.map Prod.fst (earlyCloseStock.drop 30) ++ []) = _
    rw [List.append_nil, ← List.map_append, List.take_append_drop]

/-- Both providers load the session of 3 July 2024, and both feed both paths with it. -/
theorem earlyClose_feeds_both_paths :
    (((SpyIntradayCsvLoader.provider smallReader easternDaylightTime "spy_5min.csv" (some earlyCloseFile)).loadRange
      julyThird julyThird "SPY" .intraday5Min).toOption.map List.length = some 42 ∧
      FeedsBothPaths (SpyIntradayCsvLoader.provider smallReader easternDaylightTime "spy_5min.csv" (some earlyCloseFile))
        julyThird julyThird "SPY") ∧
    ((AlpacaIntradayMarketDataProvider.provider {} smallReader easternDaylightTime (pagedApi earlyClosePages) 2).loadRange
      julyThird julyThird "SPY" .intraday5Min).toOption.map List.length = some 42 ∧
      FeedsBothPaths (AlpacaIntradayMarketDataProvider.provider {} smallReader easternDaylightTime
        (pagedApi earlyClosePages) 2) julyThird julyThird "SPY" :=
  ⟨⟨by decide +kernel, (loaded_ranges_feed_both_paths smallReader easternDaylightTime julyThird julyThird "SPY").1 _ _⟩,
    by decide +kernel, (loaded_ranges_feed_both_paths smallReader easternDaylightTime julyThird julyThird "SPY").2 _ _ _ _
      earlyCloseStock_served⟩

end TradingAI
