import TradingAI.MarketData.Bars
import TradingAI.MarketData.TradingCalendar
import Mathlib.Tactic.Ring

/-!
# `MarketData.HourlyBars` — an hour of a session as one bar

The grid of a session is cut into windows of twelve bars; what is left at the end is no window. A window is
complete five minutes after the start of its last bar.

## Contents
- `hourlyWindowsForSession`, `latestCompletedHourlyWindow`, `aggregateHourlyBar`.
- `barGrid`, `windowsFrom_barGrid`: the windows of an even grid.
-/

namespace TradingAI

/-- `INTRADAY_BAR_COUNT_PER_HOUR`. -/
def intradayBarCountPerHour : ℕ := 12

/-- The starts of its first and its last bar. -/
@[ext] structure HourlyWindow where
  start : DateTime
  end_  : DateTime
  deriving DecidableEq

/-- The loop of `hourly_windows_for_session`, a chunk a round: a chunk without a twelfth start ends it. -/
def windowsFrom : ℕ → List DateTime → List HourlyWindow
  | 0, _               => []
  | rounds + 1, expected =>
      match expected[0]?, expected[intradayBarCountPerHour - 1]? with
      | some first, some last => ⟨first, last⟩ :: windowsFrom rounds (expected.drop intradayBarCountPerHour)
      | _, _                  => []

/-- `hourly_windows_for_session`. There are at most as many chunks as starts. -/
def hourlyWindowsForSession (session : TradingSession) : List HourlyWindow :=
  windowsFrom session.expectedBarStartTimes.length session.expectedBarStartTimes

/-- `latest_completed_hourly_window`. -/
def latestCompletedHourlyWindow (localNow : DateTime) (session : TradingSession) : Option HourlyWindow :=
  ((hourlyWindowsForSession session).filter fun window => window.end_ + barInterval ≤ localNow).getLast?

/-- The bars of a window. -/
def windowBars (window : HourlyWindow) (bars : List IntradayBar) : List IntradayBar :=
  bars.filter fun bar => window.start ≤ bar.timestamp ∧ bar.timestamp ≤ window.end_

/-- One bar for the bars of a window, from the first to the last of them. -/
def hourlyBar (window : HourlyWindow) (bars : List IntradayBar) (first last : IntradayBar) : DailyBar where
  date          := first.sessionDate
  open_         := first.open_
  high          := bars.foldl (fun high bar => max high bar.high) first.high
  low           := bars.foldl (fun low bar => min low bar.low) first.low
  close         := last.close
  adjustedClose := last.close
  volume        := (bars.map IntradayBar.volume).sum
  timestamp     := some window.start

/-- The error of an incomplete window. -/
def hourlyBarUnavailable (symbol : String) (session : TradingSession) (window : HourlyWindow) (actualBarCount : ℕ) :
    Raised :=
  marketDataUnavailableError "Expected completed hourly bar is not available yet."
    [("symbol", .text symbol), ("sessionDate", .text (isoDate session.sessionDate)),
     ("windowStart", .datetime window.start), ("windowEnd", .datetime window.end_),
     ("expectedBarCount", .num intradayBarCountPerHour), ("actualBarCount", .num actualBarCount)]

/-- The error of a slot that no window starts at. -/
def notAWindow (symbol : String) (session : TradingSession) (windowStart : DateTime) : Raised :=
  marketDataUnavailableError "Requested hourly paper-trading window is not part of the trading session."
    [("symbol", .text symbol), ("sessionDate", .text (isoDate session.sessionDate)),
     ("windowStart", .datetime windowStart)]

/-- `aggregate_hourly_bar`. -/
def aggregateHourlyBar (session : TradingSession) (bars : List IntradayBar) (windowStart : DateTime)
    (symbol : String) : Except Raised DailyBar :=
  match (hourlyWindowsForSession session).find? (·.start = windowStart) with
  | none => .error (notAWindow symbol session windowStart)
  | some window =>
      let inWindow := windowBars window bars
      if inWindow.length ≠ intradayBarCountPerHour then
        .error (hourlyBarUnavailable symbol session window inWindow.length)
      else
        match inWindow.head?, inWindow.getLast? with
        | some first, some last => .ok (hourlyBar window inWindow first last)
        | _, _ => .error (hourlyBarUnavailable symbol session window inWindow.length)

/-! ## The windows of a grid -/

/-- `count` starts from `base` on, five minutes apart. -/
def barGrid (base count : ℕ) : List DateTime := (List.range count).map fun i => base + i * barInterval

theorem length_barGrid (base count : ℕ) : (barGrid base count).length = count := by
  rw [barGrid, List.length_map, List.length_range]

theorem getElem?_barGrid (base count i : ℕ) :
    (barGrid base count)[i]? = if i < count then some (base + i * barInterval) else none := by
  split_ifs with h
  · rw [barGrid, List.getElem?_map, List.getElem?_range h]
    rfl
  · rw [List.getElem?_eq_none_iff, length_barGrid]
    exact not_lt.mp h

/-- The grid of a session. -/
theorem expectedBarStartTimes_eq (d : Date) (openTime closeTime : TimeOfDay) :
    expectedBarStartTimes d openTime closeTime =
      barGrid (DateTime.midnight d + openTime) ((closeTime - openTime + barInterval - 1) / barInterval) := rfl

theorem mem_barGrid {base count t : ℕ} : t ∈ barGrid base count ↔ ∃ i < count, t = base + i * barInterval := by
  simp only [barGrid, List.mem_map, List.mem_range]
  constructor
  · rintro ⟨i, hi, rfl⟩
    exact ⟨i, hi, rfl⟩
  · rintro ⟨i, hi, rfl⟩
    exact ⟨i, hi, rfl⟩

theorem barGrid_ascending (base count : ℕ) : (barGrid base count).Pairwise (· < ·) := by
  rw [barGrid, List.pairwise_map]
  refine List.pairwise_lt_range.imp ?_
  intro i j hij
  exact Nat.add_lt_add_left (Nat.mul_lt_mul_of_pos_right hij (by decide)) _

theorem drop_barGrid (base count n : ℕ) :
    (barGrid base count).drop n = barGrid (base + n * barInterval) (count - n) := by
  apply List.ext_getElem?
  intro i
  rw [List.getElem?_drop, getElem?_barGrid, getElem?_barGrid]
  by_cases h : n + i < count
  · rw [if_pos h, if_pos (by omega), Nat.add_mul, ← Nat.add_assoc]
  · rw [if_neg h, if_neg (by omega)]

/-- The window of an hour of the grid, counted from 0. -/
def hourWindow (base k : ℕ) : HourlyWindow :=
  ⟨base + intradayBarCountPerHour * k * barInterval,
    base + (intradayBarCountPerHour * k + (intradayBarCountPerHour - 1)) * barInterval⟩

/-- The hours of a grid that starts an hour later. -/
theorem hourWindow_next (base k : ℕ) :
    hourWindow (base + intradayBarCountPerHour * barInterval) k = hourWindow base (k + 1) := by
  unfold hourWindow
  rw [HourlyWindow.mk.injEq]
  constructor <;> ring

/-- **The windows of a grid** are its full hours. -/
theorem windowsFrom_barGrid {rounds count : ℕ} (h : count ≤ rounds) (base : ℕ) :
    windowsFrom rounds (barGrid base count) =
      (List.range (count / intradayBarCountPerHour)).map (hourWindow base) := by
  -- by induction on the rounds, for any grid: a round takes an hour off its front
  induction rounds generalizing base count with
  | zero =>
      rw [Nat.le_zero.mp h]
      rfl
  | succ rounds ih =>
      unfold windowsFrom
      rw [getElem?_barGrid, getElem?_barGrid, drop_barGrid]
      have hcount : intradayBarCountPerHour = 12 := rfl
      by_cases hfull : 12 ≤ count
      · have hhours : count / intradayBarCountPerHour = (count - 12) / intradayBarCountPerHour + 1 := by
          rw [hcount]
          omega
        rw [if_pos (by omega), if_pos (by omega), hhours, List.range_succ_eq_map, List.map_cons, List.map_map]
        dsimp only
        rw [ih (by omega)]
        have hfirst : HourlyWindow.mk (base + 0 * barInterval) (base + (intradayBarCountPerHour - 1) * barInterval) =
            hourWindow base 0 := by
          rw [hourWindow, Nat.mul_zero, Nat.zero_add]
        rw [hfirst, hcount]
        congr 1
        apply List.map_congr_left
        intro k _
        exact hourWindow_next base k
      · -- the last chunk has no twelfth start
        have hhours : count / intradayBarCountPerHour = 0 := by
          rw [hcount]
          omega
        rw [hhours, if_neg (show ¬ intradayBarCountPerHour - 1 < count by omega)]
        split
        · next hlast => cases hlast
        · rfl

/-! ## The grid of a session of the calendar -/

variable {d : Date} {session : TradingSession}

open UsEquitiesTradingCalendar

/-- The first start of a session. -/
def TradingSession.base (session : TradingSession) : DateTime :=
  DateTime.midnight session.sessionDate + regularOpenTime

/-- The number of bars of a session: 78, or 42 on an early close. -/
def TradingSession.barCount (session : TradingSession) : ℕ :=
  (session.closeTime - regularOpenTime) / barInterval

def hour : ℕ := timeOfDay 1 0

/-- From the start of an hour to the start of its last bar. -/
def toLastBar : ℕ := timeOfDay 0 55

/-- An hour is over when its last bar is. -/
theorem toLastBar_add_barInterval : toLastBar + barInterval = hour := rfl

/-- The starts of the full hours of a session. -/
def fullHours (session : TradingSession) : List DateTime :=
  (List.range ((session.closeTime - regularOpenTime) / hour)).map fun k => session.base + k * hour

/-- The window of a full hour. -/
theorem hourWindow_eq (base k : ℕ) : hourWindow base k = ⟨base + k * hour, base + k * hour + toLastBar⟩ := by
  unfold hourWindow
  rw [HourlyWindow.mk.injEq]
  constructor
  · show base + 12 * k * 300000000 = base + k * 3600000000
    ring
  · show base + (12 * k + 11) * 300000000 = base + k * 3600000000 + 3300000000
    ring

/-- A session of the calendar, on a day of the common era. -/
structure OfCalendar (d : Date) (session : TradingSession) : Prop where
  date     : session.sessionDate = d
  nonneg   : 0 ≤ d
  opens    : session.openTime = regularOpenTime
  closes   : session.closeTime = regularCloseTime ∨ session.closeTime = earlyCloseTime
  expected : session.expectedBarStartTimes = barGrid session.base session.barCount

theorem ofCalendar (h : sessionsBetween d d = .ok [session]) : OfCalendar d session := by
  obtain ⟨hdate, hopens, hcloses, hexpected⟩ := sessionOf_spec (sessionOf_of_sessionsBetween h).1
  have hnonneg : 0 ≤ d := by
    have hyear := Civil.daysBeforeYear_mono (years_of_sessionsBetween h).1
    have hday := (Civil.yearOf_spec d).1
    have htwo : Civil.daysBeforeYear 2 = 365 := rfl
    exact (by omega : (0 : ℤ) ≤ d)
  refine ⟨hdate, hnonneg, hopens, hcloses, ?_⟩
  rw [hexpected, expectedBarStartTimes_eq, TradingSession.base, TradingSession.barCount, hdate]
  rcases hcloses with hclose | hclose
  · rw [hclose]
    rfl
  · rw [hclose]
    rfl

namespace OfCalendar

variable (h : OfCalendar d session)
include h

theorem barCount_eq : session.barCount = 78 ∨ session.barCount = 42 := by
  unfold TradingSession.barCount
  rcases h.closes with hclose | hclose
  · left
    rw [hclose]
    rfl
  · right
    rw [hclose]
    rfl

/-- A start is on the date of the session, at its time of day. -/
theorem start_parts {t : DateTime} (ht : t ∈ session.expectedBarStartTimes) :
    t.date = d ∧ DateTime.midnight session.sessionDate + t.time = t := by
  rw [h.expected] at ht
  obtain ⟨i, hi, rfl⟩ := mem_barGrid.mp ht
  have hcount := h.barCount_eq
  have htime : regularOpenTime + i * barInterval < microsecondsPerDay := by
    show (34200000000 + i * 300000000 : ℕ) < 86400000000
    omega
  obtain ⟨hdate, hparts⟩ := date_time_midnight_add h.nonneg htime
  rw [TradingSession.base, Nat.add_assoc, h.date, hparts]
  exact ⟨hdate, rfl⟩

theorem hours_eq : (session.closeTime - regularOpenTime) / hour = session.barCount / intradayBarCountPerHour := by
  unfold TradingSession.barCount
  rcases h.closes with hclose | hclose
  · rw [hclose]
    rfl
  · rw [hclose]
    rfl

theorem windows_eq : hourlyWindowsForSession session =
    (List.range (session.barCount / intradayBarCountPerHour)).map (hourWindow session.base) := by
  unfold hourlyWindowsForSession
  rw [h.expected, length_barGrid]
  exact windowsFrom_barGrid le_rfl _

/-- The windows of a session, by their starts. -/
theorem mem_windows_iff {window : HourlyWindow} :
    window ∈ hourlyWindowsForSession session ↔
      window.start ∈ fullHours session ∧ window.end_ = window.start + toLastBar := by
  rw [h.windows_eq, fullHours, h.hours_eq, List.mem_map, List.mem_map]
  constructor
  · rintro ⟨k, hk, rfl⟩
    rw [hourWindow_eq]
    exact ⟨⟨k, hk, rfl⟩, rfl⟩
  · rintro ⟨⟨k, hk, hstart⟩, hend⟩
    refine ⟨k, hk, ?_⟩
    rw [hourWindow_eq, hstart, ← hend]

theorem map_start_windows : (hourlyWindowsForSession session).map HourlyWindow.start = fullHours session := by
  rw [h.windows_eq, fullHours, h.hours_eq, List.map_map]
  apply List.map_congr_left
  intro k _
  rw [Function.comp_apply, hourWindow_eq]

/-- A window is complete an hour after its start. -/
theorem end_add_barInterval {window : HourlyWindow} (hwindow : window ∈ hourlyWindowsForSession session) :
    window.end_ + barInterval = window.start + hour := by
  rw [(h.mem_windows_iff.mp hwindow).2, Nat.add_assoc, toLastBar_add_barInterval]

/-- The latest completed window, by its start. -/
theorem latestCompletedHourlyWindow_start (localNow : DateTime) :
    (latestCompletedHourlyWindow localNow session).map HourlyWindow.start =
      ((fullHours session).filter fun start => start + hour ≤ localNow).getLast? := by
  have hfilter : (hourlyWindowsForSession session).filter (fun window => window.end_ + barInterval ≤ localNow) =
      (hourlyWindowsForSession session).filter ((fun start => start + hour ≤ localNow) ∘ HourlyWindow.start) := by
    apply List.filter_congr
    intro window hwindow
    rw [h.end_add_barInterval hwindow, Function.comp_apply]
  rw [latestCompletedHourlyWindow, hfilter, ← h.map_start_windows, List.filter_map, List.getLast?_map]

end OfCalendar

end TradingAI
