import TradingAI.MarketData.HourlyBars
import TradingAI.Lib.Chronology

/-!
# `Scheduler.DueSlots` — what is due at a clock tick

A tick asks four times for the slot that is due at the wall clock of New York: once a day at a configured
time, every minute of a session, at the last completed bar and at the last completed hour. All four ask the
calendar for the session of the day first (`dueSlotOn`). The slot of the opening range is a wall-clock time,
the others are naive UTC.
-/

namespace TradingAI

open UsEquitiesTradingCalendar

/-- `_latest_completed_bar_start`. -/
def latestCompletedBarStart (localNow : DateTime) (session : TradingSession) : Option DateTime :=
  let expected := session.expectedBarStartTimes.map fun timestamp =>
    DateTime.midnight session.sessionDate + timestamp.time
  (expected.filter fun timestamp => timestamp + barInterval ≤ localNow).getLast?

/-- A slot of the session of the day, if it has one. -/
def dueSlotOn (localNow : DateTime) (slot : TradingSession → Option DateTime) : Except Raised (Option DateTime) :=
  match sessionsBetween localNow.date localNow.date with
  | .error e            => .error e
  | .ok []              => .ok none
  | .ok (session :: _)  => .ok (slot session)

/-- A configured time of day, `HH:MM`. -/
structure EvaluationTime where
  hour      : ℕ
  minute    : ℕ
  hour_lt   : hour < 24
  minute_lt : minute < 60

def EvaluationTime.time (t : EvaluationTime) : TimeOfDay := timeOfDay t.hour t.minute

/-- `_paper_daily_due_slot`. The session's hours are not asked for. -/
def paperDailyDueSlot (zone : Zone) (localNow : DateTime) (dailyEvaluationTime : EvaluationTime) :
    Except Raised (Option DateTime) :=
  dueSlotOn localNow fun _ =>
    let dueLocal := DateTime.midnight localNow.date + dailyEvaluationTime.time
    if localNow < dueLocal then none else some (zone.toUtc dueLocal)

/-- `_paper_smoke_test_due_slot`. -/
def paperSmokeTestDueSlot (zone : Zone) (localNow : DateTime) : Except Raised (Option DateTime) :=
  dueSlotOn localNow fun session =>
    let openTime  := DateTime.midnight localNow.date + session.openTime
    let closeTime := DateTime.midnight localNow.date + session.closeTime
    if localNow < openTime ∨ closeTime ≤ localNow then none
    else some (zone.toUtc (localNow - localNow % timeOfDay 0 1))

/-- `_paper_orb_due_slot`. -/
def paperOrbDueSlot (localNow : DateTime) : Except Raised (Option DateTime) :=
  dueSlotOn localNow (latestCompletedBarStart localNow)

/-- `_paper_hourly_due_slot`. -/
def paperHourlyDueSlot (zone : Zone) (localNow : DateTime) : Except Raised (Option DateTime) :=
  dueSlotOn localNow fun session =>
    (latestCompletedHourlyWindow localNow session).map fun window => zone.toUtc window.start

/-! ## The session of the day -/

variable {d : Date} {session : TradingSession} {localNow : DateTime} {slot : TradingSession → Option DateTime}

theorem dueSlotOn_session (h : sessionsBetween d d = .ok [session]) (hnow : localNow.date = d) :
    dueSlotOn localNow slot = .ok (slot session) := by
  unfold dueSlotOn
  rw [hnow, h]

theorem dueSlotOn_no_session (h : sessionsBetween d d = .ok []) (hnow : localNow.date = d) :
    dueSlotOn localNow slot = .ok none := by
  unfold dueSlotOn
  rw [hnow, h]

/-- A slot is due only on a day with a session. -/
theorem dueSlotOn_eq_some {s : DateTime} (h : dueSlotOn localNow slot = .ok (some s)) :
    ∃ session, sessionsBetween localNow.date localNow.date = .ok [session] ∧ slot session = some s := by
  unfold dueSlotOn at h
  cases hsessions : sessionsBetween localNow.date localNow.date with
  | error e =>
      rw [hsessions] at h
      cases h
  | ok sessions =>
      rw [hsessions] at h
      cases sessions with
      | nil => cases h
      | cons session rest =>
          obtain ⟨-, rfl⟩ := sessionOf_of_sessionsBetween hsessions
          exact ⟨session, rfl, Except.ok.inj h⟩

theorem OfCalendar.latestCompletedBarStart_eq (h : OfCalendar d session) :
    latestCompletedBarStart localNow session =
      (session.expectedBarStartTimes.filter fun timestamp => timestamp + barInterval ≤ localNow).getLast? := by
  have hself : (session.expectedBarStartTimes.map fun timestamp =>
      DateTime.midnight session.sessionDate + timestamp.time) = session.expectedBarStartTimes := by
    refine (List.map_congr_left ?_).trans (List.map_id _)
    intro t ht
    exact (h.start_parts ht).2
  unfold latestCompletedBarStart
  rw [hself]

end TradingAI
