import TradingAI.MarketData.IntradayValidation
import TradingAI.Lib.Chronology

/-!
# `Correctness.CompleteSessions` — the intraday validators are exact

A list of bars passes exactly if it has each expected start once; what passes is the grid in order, whatever
the order of the bars and whatever lies off the grid. Up to a cut-off, the other validator returns the first
bars of the same list (`intraday_validation_exact`).
-/

namespace TradingAI

/-- **The intraday validators are exact.** Bars pass if and only if each expected start occurs once among them.
    What passes is the expected grid in ascending order, made of the bars given, and is the same for every
    list with the same bars on the grid. Up to a cut-off, a session that passes as a whole passes as the
    first bars of the result. -/
theorem intraday_validation_exact (bars : List IntradayBar) (sessions : List TradingSession)
    (symbol provider : String) :
    ((∃ result, validateIntradayBars bars sessions symbol provider = .ok result) ↔
      ∀ session ∈ sessions, ∀ timestamp ∈ session.expectedBarStartTimes,
        bars.countP (·.timestamp = timestamp) = 1) ∧
    ∀ result, validateIntradayBars bars sessions symbol provider = .ok result →
      result.Pairwise (·.timestamp < ·.timestamp) ∧
      (∀ timestamp, timestamp ∈ result.map IntradayBar.timestamp ↔
        ∃ session ∈ sessions, timestamp ∈ session.expectedBarStartTimes) ∧
      (∀ bar ∈ result, bar ∈ bars) ∧
      (∀ bars', (onGrid bars (expectedStarts sessions)).Perm (onGrid bars' (expectedStarts sessions)) →
        validateIntradayBars bars' sessions symbol provider = .ok result) ∧
      ∀ session, sessions = [session] → ∀ through,
        validateIntradayBarsUntil bars session through symbol provider =
          .ok (result.filter (·.timestamp ≤ through)) ∧
        result.filter (·.timestamp ≤ through) <+: result := by
  refine ⟨?_, ?_⟩
  · have honce : OnceEach bars (expectedStarts sessions) ↔ ∀ session ∈ sessions,
        ∀ timestamp ∈ session.expectedBarStartTimes, bars.countP (·.timestamp = timestamp) = 1 := by
      constructor
      · intro h session hsession timestamp hmem
        exact h timestamp (List.mem_flatMap.mpr ⟨session, hsession, hmem⟩)
      · intro h timestamp hmem
        obtain ⟨session, hsession, htimestamp⟩ := List.mem_flatMap.mp hmem
        exact h session hsession timestamp htimestamp
    rw [← honce]
    constructor
    · rintro ⟨result, hok⟩
      exact (validateIntradayBars_ok_iff.mp hok).1
    · intro h
      exact ⟨_, validateIntradayBars_ok_iff.mpr ⟨h, fillsGrid_sorted h⟩⟩
  · intro result hok
    obtain ⟨honce, hfills⟩ := validateIntradayBars_ok_iff.mp hok
    refine ⟨hfills.ascending, ?_, ?_, ?_, ?_⟩
    · intro timestamp
      rw [hfills.starts, List.mem_flatMap]
    · intro bar hbar
      exact (List.mem_filter.mp (hfills.perm.mem_iff.mp hbar)).1
    · intro bars' hperm
      exact validateIntradayBars_ok_iff.mpr ⟨onceEach_of_perm hperm honce, hfills.of_perm hperm⟩
    · rintro session rfl through
      have hone : expectedStarts [session] = session.expectedBarStartTimes := List.flatMap_singleton ..
      rw [hone] at honce hfills
      constructor
      · apply validateIntradayBarsUntil_ok_iff.mpr
        exact ⟨fun timestamp hmem => honce timestamp (List.mem_filter.mp hmem).1, hfills.until through⟩
      · exact Chronology.filter_le_prefix hfills.ascending through

end TradingAI
