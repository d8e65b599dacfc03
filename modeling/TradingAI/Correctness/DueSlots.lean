import TradingAI.Scheduler.DueSlots
import TradingAI.Execution.HourlyAgentBar
import TradingAI.Correctness.CompleteSessions

/-!
# `Correctness.DueSlots` — a slot is due once it is over, and until the next one is

The opening-range slot is the latest completed bar of the session, the hourly slot the latest completed full
hour: neither looks ahead, and both stay the same between two completions. The bar of an hourly step is made
of the twelve bars of its slot (`due_slots_complete_and_stable`).
-/

namespace TradingAI

open UsEquitiesTradingCalendar

/-- **The latest completed** of a list of starts, each taking `length`: no later one is complete, none before
    the first completion, never going back, and the same until the next completion. -/
structure LatestCompleted (starts : List DateTime) (length : ℕ) (slot : DateTime → Option DateTime) : Prop where
  latest : ∀ now s, slot now = some s ↔
    s ∈ starts ∧ s + length ≤ now ∧ ∀ t ∈ starts, t + length ≤ now → t ≤ s
  before : ∀ now, slot now = none ↔ ∀ t ∈ starts, now < t + length
  mono   : ∀ now now' s, now ≤ now' → slot now = some s → ∃ s', slot now' = some s' ∧ s ≤ s'
  stable : ∀ now now', now ≤ now' → (∀ t ∈ starts, t + length ≤ now' → t + length ≤ now) → slot now' = slot now

/-- The last of the completed starts is the latest completed one. -/
theorem latestCompleted_getLast {starts : List DateTime} (h : starts.Pairwise (· < ·)) (length : ℕ) :
    LatestCompleted starts length fun now => (starts.filter fun t => t + length ≤ now).getLast? := by
  have hstamps : starts.Pairwise fun a b => id a < id b := h
  refine ⟨?_, ?_, ?_, ?_⟩
  · intro now s
    rw [Chronology.getLast?_filter_eq_some_iff hstamps]
    simp only [decide_eq_true_eq, id_eq]
  · intro now
    rw [Chronology.getLast?_filter_eq_none_iff]
    simp only [decide_eq_true_eq, not_le]
  · intro now now' s hle hs
    apply Chronology.getLast?_filter_mono hstamps _ hs
    intro t ht
    exact decide_eq_true ((of_decide_eq_true ht).trans hle)
  · intro now now' hle hnone
    congr 1
    apply List.filter_congr
    intro t ht
    rw [decide_eq_decide]
    exact ⟨hnone t ht, fun hdone => hdone.trans hle⟩

theorem fullHours_ascending (session : TradingSession) : (fullHours session).Pairwise (· < ·) := by
  rw [fullHours, List.pairwise_map]
  refine List.pairwise_lt_range.imp ?_
  intro i j hij
  exact Nat.add_lt_add_left (Nat.mul_lt_mul_of_pos_right hij (by decide)) _

/-- **Due slots are complete and stable**, on every session of the calendar. The slots of both kinds are the
    latest completed starts. The hourly slot survives its way through UTC, and from any bars that pass the
    validation up to its last bar the step aggregates exactly the twelve bars of the hour, all of them over. -/
theorem due_slots_complete_and_stable {d : Date} {session : TradingSession}
    (hsession : sessionsBetween d d = .ok [session]) (zone : Zone) :
    (∃ orb : DateTime → Option DateTime,
      (∀ now : DateTime, now.date = d → paperOrbDueSlot now = .ok (orb now)) ∧
      LatestCompleted session.expectedBarStartTimes barInterval orb) ∧
    ∃ hourly : DateTime → Option DateTime,
      (∀ now : DateTime, now.date = d → paperHourlyDueSlot zone now = .ok ((hourly now).map zone.toUtc)) ∧
      LatestCompleted (fullHours session) hour hourly ∧
      (∀ now now' s s', now ≤ now' → hourly now = some s → hourly now' = some s' →
        zone.toUtc s ≤ zone.toUtc s') ∧
      ∀ now start, hourly now = some start →
        zone.ofUtc (zone.toUtc start) = start ∧
        ∀ (load : LoadSessionUntil) (symbol symbol' provider : String) (raw bars : List IntradayBar),
          load d (start + toLastBar) symbol = .ok bars →
          validateIntradayBarsUntil raw session (start + toLastBar) symbol' provider = .ok bars →
          ∃ first last used, used = windowBars ⟨start, start + toLastBar⟩ bars ∧
            used.head? = some first ∧ used.getLast? = some last ∧
            loadHourlyAgentBar zone load symbol (zone.toUtc start) =
              .ok (hourlyBar ⟨start, start + toLastBar⟩ used first last) ∧
            used.map IntradayBar.timestamp = barGrid start 12 ∧
            ∀ bar ∈ used, bar.timestamp + barInterval ≤ now := by
  have h := ofCalendar hsession
  constructor
  · -- the opening range looks at the grid of bars itself
    have hgrid : session.expectedBarStartTimes.Pairwise (· < ·) := h.expected ▸ barGrid_ascending _ _
    refine ⟨_, ?_, latestCompleted_getLast hgrid barInterval⟩
    intro now hnow
    rw [paperOrbDueSlot, dueSlotOn_session hsession hnow, h.latestCompletedBarStart_eq]
  · -- a last window of less than twelve bars is no start, so the hourly grid is `fullHours`
    have hlatest := latestCompleted_getLast (fullHours_ascending session) hour
    have hmem : ∀ now start, ((fullHours session).filter fun t => t + hour ≤ now).getLast? = some start →
        start ∈ fullHours session ∧ start + hour ≤ now := by
      intro now start hstart
      obtain ⟨hin, hdone, -⟩ := (hlatest.latest now start).mp hstart
      exact ⟨hin, hdone⟩
    refine ⟨_, ?_, hlatest, ?_, ?_⟩
    · intro now hnow
      rw [paperHourlyDueSlot, dueSlotOn_session hsession hnow, ← h.latestCompletedHourlyWindow_start, Option.map_map]
      rfl
    · intro now now' s s' hle hs hs'
      obtain ⟨t, ht, hst⟩ := hlatest.mono now now' s hle hs
      obtain rfl := Option.some.inj (ht.symm.trans hs')
      -- UTC keeps the order of two times of one date, within the hours of the session
      obtain ⟨hdate, hopen, -⟩ := h.fullHour_time (hmem now s hs).1
      obtain ⟨hdate', -, hclose⟩ := h.fullHour_time (hmem now' t hs').1
      exact zone.toUtc_mono s t (hdate.trans hdate'.symm) hopen hclose hst
    · intro now start hstart
      obtain ⟨hin, hdone⟩ := hmem now start hstart
      obtain ⟨hdate, hopen, hclose⟩ := h.fullHour_time hin
      refine ⟨zone.ofUtc_toUtc start hopen hclose, ?_⟩
      intro load symbol symbol' provider raw bars hload hvalid
      have hfills := (validateIntradayBarsUntil_ok_iff.mp hvalid).2
      have hused := h.windowBars_fullHour hin hfills
      obtain ⟨first, last, hfirst, hlast, hok⟩ := h.aggregateHourlyBar_fullHour symbol hin hfills
      refine ⟨first, last, _, rfl, hfirst, hlast, ?_, hused, ?_⟩
      · rw [loadHourlyAgentBar_fullHour hsession hin hload, hok]
      · intro bar hbar
        -- the last of the twelve is over when the hour is
        have hend : bar.timestamp ≤ start + toLastBar := (of_decide_eq_true (List.mem_filter.mp hbar).2).2
        calc bar.timestamp + barInterval ≤ start + toLastBar + barInterval := Nat.add_le_add_right hend _
          _ = start + hour := by rw [Nat.add_assoc, toLastBar_add_barInterval]
          _ ≤ now := hdone

/-- The early close on the eve of Independence Day 2024. -/
def independenceEve2024 : TradingSession where
  sessionDate           := Civil.ordinal 2024 7 3
  openTime              := regularOpenTime
  closeTime             := earlyCloseTime
  expectedBarStartTimes := expectedBarStartTimes (Civil.ordinal 2024 7 3) regularOpenTime earlyCloseTime
  isEarlyClose          := true

theorem sessionsBetween_independenceEve :
    sessionsBetween (Civil.ordinal 2024 7 3) (Civil.ordinal 2024 7 3) = .ok [independenceEve2024] := by
  have hsession : sessionOf (Civil.ordinal 2024 7 3) = some independenceEve2024 := by decide +kernel
  rw [sessionsBetween_self (by decide) (by decide), hsession]
  rfl

/-- The slots of the early close: each bar of the opening range, and the three full hours. -/
theorem independenceEve_slots :
    (∃ orb : DateTime → Option DateTime,
      (∀ now : DateTime, now.date = Civil.ordinal 2024 7 3 → paperOrbDueSlot now = .ok (orb now)) ∧
      LatestCompleted independenceEve2024.expectedBarStartTimes barInterval orb) ∧
    (∃ hourly : DateTime → Option DateTime,
      (∀ now : DateTime, now.date = Civil.ordinal 2024 7 3 →
        paperHourlyDueSlot easternDaylightTime now = .ok ((hourly now).map easternDaylightTime.toUtc)) ∧
      LatestCompleted (fullHours independenceEve2024) hour hourly) ∧
    (fullHours independenceEve2024).map DateTime.time = [timeOfDay 9 30, timeOfDay 10 30, timeOfDay 11 30] := by
  obtain ⟨horb, hourly, hslot, hlatest, -⟩ :=
    due_slots_complete_and_stable sessionsBetween_independenceEve easternDaylightTime
  exact ⟨horb, ⟨hourly, hslot, hlatest⟩, by decide +kernel⟩

end TradingAI
