import TradingAI.MarketData.HourlyBars
import TradingAI.MarketData.IntradayValidation

/-!
# `MarketData.IntradayProviders` — a session up to a bar

`load_session_until` of both intraday providers, from the bars their files or pages hold. Each keeps the bars
of the date up to the requested one, refuses to answer with none, and validates the rest against the
calendar.
-/

namespace TradingAI

open UsEquitiesTradingCalendar

/-- `load_session_until`, as a provider answers it. -/
abbrev LoadSessionUntil := Date → DateTime → String → Except Raised (List IntradayBar)

/-- The common end of both: the bars of the date up to the requested one, validated. -/
def sessionUntil (rows : List IntradayBar) (session : TradingSession) (sessionDate : Date)
    (throughTimestamp : DateTime) (symbol provider unavailable : String) : Except Raised (List IntradayBar) :=
  let candidates := rows.filter fun bar => bar.sessionDate = sessionDate ∧ bar.timestamp ≤ throughTimestamp
  if candidates = [] then
    .error (marketDataUnavailableError unavailable
      [("symbol", .text symbol), ("sessionDate", .text (isoDate sessionDate)),
       ("throughTimestamp", .datetime throughTimestamp)])
  else validateIntradayBarsUntil candidates session throughTimestamp symbol provider

/-- `SpyIntradayCsvLoader.load_session_until`; `readRows` is what `_read_rows` returns or raises. -/
def SpyIntradayCsvLoader.loadSessionUntil (readRows : Except Raised (List IntradayBar)) : LoadSessionUntil :=
  fun sessionDate throughTimestamp symbol =>
    if symbol ≠ spySymbol then
      .error (marketDataProviderError "Only SPY intraday CSV data is supported." [])
    else do
      match ← sessionsBetween sessionDate sessionDate with
      | []           => pure []
      | session :: _ =>
          let rows ← readRows
          sessionUntil rows session sessionDate throughTimestamp symbol "csv_intraday"
            "No intraday SPY fixture bars are available through requested bar."

/-- `AlpacaIntradayMarketDataProvider.load_session_until`; `loadPages` are the mapped bars of all pages. -/
def AlpacaIntradayMarketDataProvider.loadSessionUntil
    (loadPages : String → Date → Date → Except Raised (List IntradayBar)) : LoadSessionUntil :=
  fun sessionDate throughTimestamp symbol =>
    let symbol := normalizeSymbol symbol
    if ¬ isSupportedEquitySymbol symbol then
      .error (marketDataProviderError
        "Alpaca intraday market data provider supports configured equity symbols only."
        [("symbol", .text symbol)])
    else do
      match ← sessionsBetween sessionDate sessionDate with
      | []           => pure []
      | session :: _ =>
          let rows ← loadPages symbol sessionDate sessionDate
          if rows = [] then
            .error (marketDataUnavailableError "Alpaca returned no intraday bars through requested bar."
              [("symbol", .text symbol), ("sessionDate", .text (isoDate sessionDate)),
               ("throughTimestamp", .datetime throughTimestamp)])
          else
            sessionUntil rows session sessionDate throughTimestamp symbol "alpaca_intraday"
              "Alpaca returned no regular-session intraday bars through requested bar."

/-! ## Providers that are up to date -/

/-- **Up to date** at a wall-clock time: asked for the session up to any completed bar, the provider answers with
    bars that pass the validation. -/
def UpToDate (load : LoadSessionUntil) (session : TradingSession) (symbol : String) (now : DateTime) : Prop :=
  ∀ through ∈ session.expectedBarStartTimes, through + barInterval ≤ now →
    ∃ raw symbol' provider bars, load session.sessionDate through symbol = .ok bars ∧
      validateIntradayBarsUntil raw session through symbol' provider = .ok bars

/-- Rows with each completed bar of a session once, each dated by its start. -/
structure HoldsCompleted (rows : List IntradayBar) (session : TradingSession) (now : DateTime) : Prop where
  dates : ∀ bar ∈ rows, bar.sessionDate = bar.timestamp.date
  once  : ∀ t ∈ session.expectedBarStartTimes, t + barInterval ≤ now → rows.countP (·.timestamp = t) = 1

variable {d : Date} {session : TradingSession} {rows : List IntradayBar} {now through : DateTime}
  {symbol : String}

/-- Such rows are enough up to any completed bar. -/
theorem sessionUntil_ok (symbol provider unavailable : String) (h : OfCalendar d session) (hrows : HoldsCompleted rows session now)
    (hthrough : through ∈ session.expectedBarStartTimes) (hdone : through + barInterval ≤ now) :
    ∃ raw bars, sessionUntil rows session d through symbol provider unavailable = .ok bars ∧
      validateIntradayBarsUntil raw session through symbol provider = .ok bars := by
  have hcount : ∀ t ∈ session.expectedBarStartTimes, t ≤ through →
      (rows.filter fun bar => bar.sessionDate = d ∧ bar.timestamp ≤ through).countP (·.timestamp = t) = 1 := by
    intro t ht hle
    rw [List.countP_filter, ← hrows.once t ht ((Nat.add_le_add_right hle _).trans hdone)]
    apply List.countP_congr
    intro bar hbar
    simp only [Bool.and_eq_true, decide_eq_true_eq]
    constructor
    · exact fun hall => hall.1
    · intro hstart
      refine ⟨hstart, ?_, hstart.trans_le hle⟩
      rw [hrows.dates bar hbar, hstart, (h.start_parts ht).1]
  have honce : OnceEach (rows.filter fun bar => bar.sessionDate = d ∧ bar.timestamp ≤ through)
      (session.expectedBarStartTimes.filter (· ≤ through)) := by
    intro t ht
    obtain ⟨hin, hle⟩ := List.mem_filter.mp ht
    exact hcount t hin (of_decide_eq_true hle)
  -- the requested bar itself is there
  have hsome : (rows.filter fun bar => bar.sessionDate = d ∧ bar.timestamp ≤ through) ≠ [] := by
    intro hnone
    have hone := hcount through hthrough le_rfl
    rw [hnone] at hone
    cases hone
  refine ⟨_, _, ?_, validateIntradayBarsUntil_ok_iff.mpr ⟨honce, fillsGrid_sorted honce⟩⟩
  unfold sessionUntil
  dsimp only
  rw [if_neg hsome]
  exact validateIntradayBarsUntil_ok_iff.mpr ⟨honce, fillsGrid_sorted honce⟩

/-- The CSV loader is up to date with its rows. -/
theorem SpyIntradayCsvLoader.upToDate (hsession : sessionsBetween d d = .ok [session])
    (hrows : HoldsCompleted rows session now) : UpToDate (loadSessionUntil (.ok rows)) session spySymbol now := by
  have h := ofCalendar hsession
  intro through hthrough hdone
  obtain ⟨raw, bars, hload, hvalid⟩ := sessionUntil_ok spySymbol "csv_intraday"
    "No intraday SPY fixture bars are available through requested bar." h hrows hthrough hdone
  refine ⟨raw, _, _, bars, ?_, hvalid⟩
  unfold loadSessionUntil
  rw [if_neg (not_not.mpr rfl), h.date, hsession]
  exact hload

/-- The Alpaca provider is up to date with its pages. -/
theorem AlpacaIntradayMarketDataProvider.upToDate {loadPages : String → Date → Date → Except Raised (List IntradayBar)}
    (hsession : sessionsBetween d d = .ok [session]) (hsymbol : isSupportedEquitySymbol (normalizeSymbol symbol))
    (hpages : loadPages (normalizeSymbol symbol) d d = .ok rows) (hrows : HoldsCompleted rows session now) :
    UpToDate (loadSessionUntil loadPages) session symbol now := by
  have h := ofCalendar hsession
  intro through hthrough hdone
  obtain ⟨raw, bars, hload, hvalid⟩ := sessionUntil_ok (normalizeSymbol symbol) "alpaca_intraday"
    "Alpaca returned no regular-session intraday bars through requested bar." h hrows hthrough hdone
  have hsome : rows ≠ [] := by
    intro hnone
    have hone := hrows.once through hthrough hdone
    rw [hnone] at hone
    cases hone
  refine ⟨raw, _, _, bars, ?_, hvalid⟩
  unfold loadSessionUntil
  dsimp only
  rw [if_neg (not_not.mpr hsymbol), h.date, hsession]
  show (loadPages (normalizeSymbol symbol) d d >>= _) = _
  rw [hpages]
  show (if rows = [] then _ else _) = _
  rw [if_neg hsome]
  exact hload

end TradingAI
