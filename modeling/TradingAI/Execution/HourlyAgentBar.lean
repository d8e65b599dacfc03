import TradingAI.MarketData.IntradayProviders
import TradingAI.Execution.StepArtifacts
import TradingAI.Execution.StepCreation

/-!
# `Execution.HourlyAgentBar` — the bar of an hourly agent step

`_load_hourly_agent_bar` reads the slot of the step back as a wall-clock time of New York, loads the session
up to the last bar of the hour that starts there, and aggregates that hour.
-/

namespace TradingAI

open UsEquitiesTradingCalendar

/-- `_load_hourly_agent_bar`. -/
def loadHourlyAgentBar (zone : Zone) (loadSessionUntil : LoadSessionUntil) (symbol : String)
    (scheduledFor : DateTime) : Except Raised DailyBar := do
  let localSlot := zone.ofUtc scheduledFor
  match ← sessionsBetween localSlot.date localSlot.date with
  | [] =>
      .error (marketDataUnavailableError "No US equities trading session exists for the hourly AI slot."
        [("scheduledFor", .datetime scheduledFor)])
  | session :: _ =>
      let bars ← loadSessionUntil localSlot.date (localSlot + toLastBar) symbol
      aggregateHourlyBar session bars localSlot symbol

/-! ## Aggregating a full hour -/

variable {d : Date} {session : TradingSession} {start : DateTime} {raw bars : List IntradayBar} {symbol : String}

/-- Two ascending lists with the same members are the same. -/
theorem eq_of_ascending {l l' : List DateTime} (h : l.Pairwise (· < ·)) (h' : l'.Pairwise (· < ·))
    (hmem : ∀ t, t ∈ l ↔ t ∈ l') : l = l' := by
  have hperm : l.Perm l' := (List.perm_ext_iff_of_nodup (h.imp ne_of_lt) (h'.imp ne_of_lt)).mpr hmem
  apply hperm.eq_of_pairwise _ h h'
  intro a b _ _ hab hba
  exact absurd (hab.trans hba) (lt_irrefl _)

namespace OfCalendar

variable (h : OfCalendar d session)
include h

/-- A full hour starts on the grid, twelve starts before its end. -/
theorem start_of_fullHour (hstart : start ∈ fullHours session) :
    ∃ k : ℕ, start = session.base + k * hour ∧ 12 * k + 12 ≤ session.barCount := by
  unfold fullHours at hstart
  rw [h.hours_eq] at hstart
  obtain ⟨k, hk, rfl⟩ := List.mem_map.mp hstart
  have hcount : intradayBarCountPerHour = 12 := rfl
  rw [List.mem_range, hcount] at hk
  exact ⟨k, rfl, by omega⟩

/-- A full hour starts on the date of the session, between its open and its close. -/
theorem fullHour_time (hstart : start ∈ fullHours session) :
    start.date = d ∧ regularOpenTime ≤ start.time ∧ start.time ≤ regularCloseTime := by
  obtain ⟨k, rfl, hk⟩ := h.start_of_fullHour hstart
  have hcount := h.barCount_eq
  have hhours : k ≤ 5 := by omega
  have hlate : regularOpenTime + k * hour ≤ regularCloseTime := by
    show (34200000000 + k * 3600000000 : ℕ) ≤ 57600000000
    omega
  have hday : regularCloseTime < microsecondsPerDay := by decide
  obtain ⟨hdate, htime⟩ := date_time_midnight_add h.nonneg (hlate.trans_lt hday)
  rw [TradingSession.base, h.date, Nat.add_assoc, hdate, htime]
  exact ⟨rfl, Nat.le_add_right _ _, hlate⟩

/-- The expected starts of a full hour. -/
theorem mem_expected_of_fullHour (hstart : start ∈ fullHours session) (t : DateTime) :
    (t ∈ session.expectedBarStartTimes ∧ t ≤ start + toLastBar) ∧ start ≤ t ↔ t ∈ barGrid start 12 := by
  obtain ⟨k, rfl, hk⟩ := h.start_of_fullHour hstart
  rw [h.expected, mem_barGrid, mem_barGrid]
  generalize session.base = base
  have hhour : k * hour = 12 * k * barInterval := by
    show k * 3600000000 = 12 * k * 300000000
    ring
  have hlast : toLastBar = 11 * barInterval := rfl
  have hpos : 0 < barInterval := by decide
  rw [hhour, hlast]
  generalize barInterval = interval at hpos
  constructor
  · rintro ⟨⟨⟨j, hj, rfl⟩, hhigh⟩, hlow⟩
    have hle : 12 * k ≤ j := Nat.le_of_mul_le_mul_right (Nat.le_of_add_le_add_left hlow) hpos
    have hlt : j ≤ 12 * k + 11 := by
      apply Nat.le_of_mul_le_mul_right _ hpos
      rw [Nat.add_mul]
      exact Nat.le_of_add_le_add_left (by rwa [Nat.add_assoc] at hhigh)
    refine ⟨j - 12 * k, by omega, ?_⟩
    rw [Nat.add_assoc, ← Nat.add_mul]
    congr 2
    omega
  · rintro ⟨i, hi, rfl⟩
    refine ⟨⟨⟨12 * k + i, by omega, ?_⟩, ?_⟩, Nat.le_add_right _ _⟩
    · rw [Nat.add_mul, Nat.add_assoc]
    · exact Nat.add_le_add_left (Nat.mul_le_mul_right interval (by omega)) _

/-- Of bars that fill the grid up to the last bar of a full hour, those of the hour are its twelve. -/
theorem windowBars_fullHour (hstart : start ∈ fullHours session)
    (hfills : FillsGrid (session.expectedBarStartTimes.filter (· ≤ start + toLastBar)) raw bars) :
    (windowBars ⟨start, start + toLastBar⟩ bars).map IntradayBar.timestamp = barGrid start 12 := by
  apply eq_of_ascending
  · rw [List.pairwise_map]
    exact hfills.ascending.filter _
  · exact barGrid_ascending start 12
  · intro t
    rw [← h.mem_expected_of_fullHour hstart]
    have hgrid := hfills.starts t
    rw [List.mem_filter, decide_eq_true_eq] at hgrid
    constructor
    · intro hmem
      obtain ⟨bar, hbar, rfl⟩ := List.mem_map.mp hmem
      obtain ⟨hin, hwindow⟩ := List.mem_filter.mp hbar
      exact ⟨hgrid.mp (List.mem_map_of_mem hin), (of_decide_eq_true hwindow).1⟩
    · rintro ⟨hexpected, hlow⟩
      obtain ⟨bar, hin, rfl⟩ := List.mem_map.mp (hgrid.mpr hexpected)
      exact List.mem_map_of_mem (List.mem_filter.mpr ⟨hin, decide_eq_true ⟨hlow, hexpected.2⟩⟩)

/-- The window looked up by its start. -/
theorem find_window (hstart : start ∈ fullHours session) :
    (hourlyWindowsForSession session).find? (·.start = start) = some ⟨start, start + toLastBar⟩ := by
  have hwindow : (⟨start, start + toLastBar⟩ : HourlyWindow) ∈ hourlyWindowsForSession session :=
    h.mem_windows_iff.mpr ⟨hstart, rfl⟩
  cases hfind : (hourlyWindowsForSession session).find? (·.start = start) with
  | none => exact absurd (decide_eq_true rfl) (List.find?_eq_none.mp hfind _ hwindow)
  | some window =>
      have hsome := List.find?_some hfind
      have hof : window.start = start := of_decide_eq_true hsome
      have hend := (h.mem_windows_iff.mp (List.mem_of_find?_eq_some hfind)).2
      rw [hof] at hend
      exact congrArg some (HourlyWindow.ext hof hend)

/-- **A full hour is aggregated** from its twelve bars. -/
theorem aggregateHourlyBar_fullHour (symbol : String) (hstart : start ∈ fullHours session)
    (hfills : FillsGrid (session.expectedBarStartTimes.filter (· ≤ start + toLastBar)) raw bars) :
    ∃ first last, (windowBars ⟨start, start + toLastBar⟩ bars).head? = some first ∧
      (windowBars ⟨start, start + toLastBar⟩ bars).getLast? = some last ∧
      aggregateHourlyBar session bars start symbol =
        .ok (hourlyBar ⟨start, start + toLastBar⟩ (windowBars ⟨start, start + toLastBar⟩ bars) first last) := by
  have hlength : (windowBars ⟨start, start + toLastBar⟩ bars).length = intradayBarCountPerHour := by
    rw [← List.length_map, h.windowBars_fullHour hstart hfills, length_barGrid]
    rfl
  unfold aggregateHourlyBar
  rw [h.find_window hstart]
  dsimp only
  rw [if_neg (not_not.mpr hlength)]
  cases hbars : windowBars ⟨start, start + toLastBar⟩ bars with
  | nil =>
      rw [hbars] at hlength
      cases hlength
  | cons first rest =>
      exact ⟨first, (first :: rest).getLast (List.cons_ne_nil first rest), rfl,
        List.getLast?_eq_some_getLast _, by rw [List.getLast?_eq_some_getLast (List.cons_ne_nil first rest)]; rfl⟩

end OfCalendar

/-- The slot of a full hour, stored as UTC, is read back as its start. -/
theorem loadHourlyAgentBar_fullHour {zone : Zone} {load : LoadSessionUntil}
    (hsession : sessionsBetween d d = .ok [session]) (hstart : start ∈ fullHours session)
    (hload : load d (start + toLastBar) symbol = .ok bars) :
    loadHourlyAgentBar zone load symbol (zone.toUtc start) = aggregateHourlyBar session bars start symbol := by
  obtain ⟨hdate, hopen, hclose⟩ := (ofCalendar hsession).fullHour_time hstart
  unfold loadHourlyAgentBar
  rw [zone.ofUtc_toUtc start hopen hclose]
  dsimp only
  rw [hdate, hsession]
  show (load d (start + toLastBar) symbol >>= fun bars => aggregateHourlyBar session bars start symbol) = _
  rw [hload]
  rfl

end TradingAI
