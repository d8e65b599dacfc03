import TradingAI.MarketData.HolidaySpacing
import TradingAI.Correctness.MovingAveragePaths

/-!
# `Correctness.TradingDays` — Good Friday, and enough sessions for a moving average

Easter's computation yields a date of March or April of any year, and its Good Friday is a Friday. With the
other rules it spaces the holidays, so that `2 * window + 10` days back there are always `window` sessions
(`lookback_covers_window`): a provider that has a bar for each of them lets a paper step compute its average.
-/

namespace TradingAI

open Civil UsEquitiesTradingCalendar

/-- **Good Friday** is two days before a date of March or April, it is a Friday, and it falls between 20 March
    and 23 April, in every year. -/
theorem goodFriday_is_a_friday (year : ℤ) :
    goodFriday year = ordinal year (easterMonth year) (easterDay year) - 2 ∧
    (easterMonth year = 3 ∧ 1 ≤ easterDay year ∧ easterDay year ≤ 31 ∨
      easterMonth year = 4 ∧ 1 ≤ easterDay year ∧ easterDay year ≤ 30) ∧
    weekday (goodFriday year) = 4 ∧
    ordinal year 3 20 ≤ goodFriday year ∧ goodFriday year ≤ ordinal year 4 23 := by
  refine ⟨goodFriday_eq year, ?_, weekday_goodFriday year, goodFriday_range year⟩
  rcases (easterDate_spec year).1 with ⟨hmonth, hday⟩ | ⟨hmonth, hday⟩
  · exact .inl ⟨hmonth, by omega, by omega⟩
  · exact .inr ⟨hmonth, by omega, by omega⟩

/-! ## The lookback of a paper step -/

/-- The sessions from one date to another. -/
def sessionsIn (first last : Date) : List TradingSession := (Int.range first (last + 1)).filterMap sessionOf

/-- `latest_bar.date - timedelta(days=(window * 2 + 10))`. -/
def lookbackStart (window : ℕ) (d : Date) : Date := d - (window * 2 + 10 : ℕ)

theorem window_le_sessionsIn (window : ℕ) (d : ℤ) :
    window ≤ (sessionsIn (lookbackStart window d) d).length := by
  have hcount := card_openDays (lookbackStart window d) (window * 2 + 11)
  have hend : lookbackStart window d + (window * 2 + 11 : ℕ) = d + 1 := by
    unfold lookbackStart
    push_cast
    ring
  rw [hend] at hcount
  rw [sessionsIn, length_sessions]
  omega

/-- What the calendar lists, when it answers. -/
theorem sessionsBetween_ok {first last : ℤ} {sessions : List TradingSession} (hrange : first ≤ last)
    (h : sessionsBetween first last = .ok sessions) : sessions = sessionsIn first last := by
  by_cases hyears : 2 ≤ yearOf first ∧ yearOf last ≤ 9998
  · rw [sessionsBetween_eq hrange hyears.1 hyears.2] at h
    exact (Except.ok.inj h).symm
  · unfold sessionsBetween at h
    rw [if_neg (not_lt.mpr hrange)] at h
    split_ifs at h with hlow hhigh
    omega

/-- Every session is dated in its range. -/
theorem sessionDate_of_mem {first last : ℤ} {session : TradingSession} (h : session ∈ sessionsIn first last) :
    first ≤ session.sessionDate ∧ session.sessionDate ≤ last := by
  obtain ⟨d, hd, hsession⟩ := List.mem_filterMap.mp h
  rw [(sessionOf_spec hsession).1]
  rw [Int.mem_range_iff] at hd
  exact ⟨hd.1, Int.lt_add_one_iff.mp hd.2⟩

/-- Enough bars up to a date have an average. -/
theorem averageOfLast_isSome {window : ℕ} {latest : Date} {bars : List DailyBar}
    (hdates : ∀ bar ∈ bars, bar.date ≤ latest) (hlength : window ≤ bars.length) :
    ∃ average, averageOfLast window latest bars = some average := by
  have hall : bars.filter (fun bar => bar.date ≤ latest) = bars := by
    rw [List.filter_eq_self]
    intro bar hbar
    exact decide_eq_true (hdates bar hbar)
  unfold averageOfLast
  dsimp only
  rw [hall, List.length_insertionSort, if_neg (by omega)]
  exact ⟨_, rfl⟩

/-- **The lookback is long enough**: from `2 * window + 10` days before any date to the date there are `window`
    sessions, whether they are counted one by one or the calendar lists them. Where the provider has one
    bar for each, the paper step has an average. -/
theorem lookback_covers_window (window : ℕ) (d : Date) :
    window ≤ (sessionsIn (lookbackStart window d) d).length ∧
    (∀ sessions, sessionsBetween (lookbackStart window d) d = .ok sessions → window ≤ sessions.length) ∧
    ∀ (env : StepEnv) (experiment : Experiment) (config : StrategyConfig) (latestBar : DailyBar)
      (bars : List DailyBar),
      experiment.strategyType = .movingAverage → config.window = window → latestBar.date = d →
      env.loadRange (lookbackStart window d) d experiment.assetSymbol = .ok bars →
      (bars.map DailyBar.date).Perm
        ((sessionsIn (lookbackStart window d) d).map TradingSession.sessionDate) →
      ∃ average, movingAverageForStep env experiment config latestBar = .ok (some average) := by
  have henough := window_le_sessionsIn window d
  refine ⟨henough, ?_, ?_⟩
  · intro sessions hsessions
    rw [sessionsBetween_ok (Int.sub_le_self d (Int.natCast_nonneg _)) hsessions]
    exact henough
  · rintro env experiment config latestBar bars hstrategy rfl rfl hbars hperm
    have hlength : bars.length = (sessionsIn (lookbackStart config.window latestBar.date) latestBar.date).length := by
      simpa using hperm.length_eq
    have hdates : ∀ bar ∈ bars, bar.date ≤ latestBar.date := by
      intro bar hbar
      have hmem := hperm.mem_iff.mp (List.mem_map_of_mem hbar)
      obtain ⟨session, hsession, hdate⟩ := List.mem_map.mp hmem
      rw [← hdate]
      exact (sessionDate_of_mem hsession).2
    obtain ⟨average, haverage⟩ := averageOfLast_isSome hdates (hlength ▸ henough)
    refine ⟨average, ?_⟩
    unfold movingAverageForStep
    rw [if_neg (not_not.mpr hstrategy)]
    dsimp only
    unfold lookbackStart at hbars
    rw [hbars, ← haverage]
    rfl

/-! ## A window of one day -/

def oneDayWindow : StrategyConfig := ⟨some 1, none, none, none, none⟩

/-- A bar for each session of the twelve days before 2 July 2024, and of the day itself. -/
def sessionBars : List DailyBar :=
  (sessionsIn (lookbackStart 1 (ordinal 2024 7 2)) (ordinal 2024 7 2)).map fun session =>
    dayAt session.sessionDate 100

theorem oneDayWindow_covered :
    ∃ average, movingAverageForStep (envOver sessionBars) (smallExperiment .movingAverage .daily) oneDayWindow
      (dayAt (ordinal 2024 7 2) 100) = .ok (some average) := by
  refine (lookback_covers_window 1 (ordinal 2024 7 2)).2.2 (envOver sessionBars)
    (smallExperiment .movingAverage .daily) oneDayWindow (dayAt (ordinal 2024 7 2) 100) sessionBars rfl rfl rfl rfl ?_
  unfold sessionBars
  rw [List.map_map]
  exact List.Perm.refl _

end TradingAI
