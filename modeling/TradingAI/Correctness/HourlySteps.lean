import TradingAI.Correctness.DueSlots
import TradingAI.Execution.Calls
import TradingAI.Lib.Outcome

/-!
# `Correctness.HourlySteps` — which hourly steps find their bar

An hourly agent step takes the hour that starts exactly at its slot. The scheduler's slot is the start of a
completed hour. A manual step and a step for an event are scheduled for the moment they are asked for, which
is never the start of a completed hour (`hourly_step_finds_bar_iff`).
-/

namespace TradingAI

open UsEquitiesTradingCalendar

/-- What the callers of the step runner pass as `scheduled_for` at an instant: the scheduler its slot, a manual
    run nothing, the event scanner the instant itself. -/
def scheduledForOf (zone : Zone) (utcNow : DateTime) (trigger : TriggerType) : Option DateTime :=
  match trigger with
  | .scheduled =>
      match paperHourlyDueSlot zone (zone.ofUtc utcNow) with
      | .ok slot  => slot
      | .error _  => none
  | .event     => some utcNow
  | _          => none

/-- The step `_validate_and_create_step` creates for a trigger at an instant. -/
def createdStep (zone : Zone) (utcNow : DateTime) (trigger : TriggerType) (id sequenceNumber : ℕ) : ExecutionStep :=
  newStep id trigger ((scheduledForOf zone utcNow trigger).getD utcNow) utcNow sequenceNumber

/-- It is the row the transaction of `_validate_and_create_step` adds at that instant. -/
theorem addNextStep_createdStep (db : Db) (zone : Zone) (utcNow : DateTime) (trigger : TriggerType) :
    (db.addNextStep trigger ((scheduledForOf zone utcNow trigger).getD utcNow) utcNow).steps =
      db.steps ++ [createdStep zone utcNow trigger db.nextId (db.maxSequenceNumber + 1)] := rfl

/-- The result is the aggregate of the twelve bars of an hourly window that is completed by `now`. -/
def IsCompletedHour (session : TradingSession) (now : DateTime) (result : Except Raised DailyBar) : Prop :=
  ∃ window ∈ hourlyWindowsForSession session, window.end_ + barInterval ≤ now ∧
    ∃ used first last, used.map IntradayBar.timestamp = barGrid window.start 12 ∧
      used.head? = some first ∧ used.getLast? = some last ∧ result = .ok (hourlyBar window used first last)

variable {d : Date} {zone : Zone} {load : LoadSessionUntil} {session : TradingSession} {utcNow now : DateTime} {symbol : String}

/-- An aggregate starts where it was asked for. -/
theorem aggregateHourlyBar_timestamp {bars : List IntradayBar} {start : DateTime} {bar : DailyBar}
    (h : aggregateHourlyBar session bars start symbol = .ok bar) : bar.timestamp = some start := by
  unfold aggregateHourlyBar at h
  split at h
  · cases h
  · next window hfind =>
      dsimp only at h
      split at h
      · cases h
      · split at h
        · cases h
          have hstart := List.find?_some hfind
          exact congrArg some (of_decide_eq_true hstart)
        · cases h

/-- A step that is scheduled for the moment itself does not find a completed hour. -/
theorem not_isCompletedHour_now (h : OfCalendar d session) :
    ¬ IsCompletedHour session (zone.ofUtc utcNow) (loadHourlyAgentBar zone load symbol utcNow) := by
  rintro ⟨window, hwindow, hdone, used, first, last, -, -, -, hok⟩
  unfold loadHourlyAgentBar at hok
  dsimp only at hok
  obtain ⟨sessions, -, hsessions⟩ := Outcome.ok_of_bind hok
  cases sessions with
  | nil => cases hsessions
  | cons session' rest =>
      obtain ⟨bars, -, haggregate⟩ := Outcome.ok_of_bind hsessions
      -- the aggregate would start now, but its window is over
      have hstart := aggregateHourlyBar_timestamp haggregate
      have hnow : window.start = zone.ofUtc utcNow := Option.some.inj hstart
      rw [h.end_add_barInterval hwindow, hnow] at hdone
      exact absurd hdone (not_le.mpr (Nat.lt_add_of_pos_right (by decide)))

/-- The scheduler's slot finds the latest completed hour. -/
theorem isCompletedHour_scheduled (hsession : sessionsBetween d d = .ok [session])
    (hload : UpToDate load session symbol now) {window : HourlyWindow}
    (hwindow : latestCompletedHourlyWindow now session = some window) :
    IsCompletedHour session now (loadHourlyAgentBar zone load symbol (zone.toUtc window.start)) := by
  have h := ofCalendar hsession
  have hmem := List.mem_filter.mp (List.mem_of_getLast? hwindow)
  obtain ⟨hstart, hend⟩ := h.mem_windows_iff.mp hmem.1
  have hdone := of_decide_eq_true hmem.2
  have hgrid : window.start + toLastBar ∈ barGrid window.start 12 := mem_barGrid.mpr ⟨11, by decide, rfl⟩
  have hlast := ((h.mem_expected_of_fullHour hstart _).mpr hgrid).1.1
  obtain ⟨raw, symbol', provider, bars, hbars, hvalid⟩ := hload _ hlast (hend ▸ hdone)
  have hfills := (validateIntradayBarsUntil_ok_iff.mp hvalid).2
  obtain ⟨first, last, hfirst, hlast, hok⟩ := h.aggregateHourlyBar_fullHour symbol hstart hfills
  refine ⟨window, hmem.1, hdone, _, first, last, h.windowBars_fullHour hstart hfills, hfirst, hlast, ?_⟩
  rw [loadHourlyAgentBar_fullHour hsession hstart (h.date ▸ hbars), hok]
  congr 2
  exact HourlyWindow.ext rfl hend.symm

/-- **Which hourly steps find their bar.** At an instant of a session with a completed hour, and with a provider
    that is up to date, the step of an hourly experiment aggregates a completed hour if and only if the
    scheduler triggered it. -/
theorem hourly_step_finds_bar_iff (zone : Zone) (env : StepEnv) (experiment : Experiment)
    (hhourly : experiment.tradingFrequency = .hourly) (load : LoadSessionUntil) (utcNow : DateTime)
    (hsession : sessionsBetween (zone.ofUtc utcNow).date (zone.ofUtc utcNow).date = .ok [session])
    (hwindow : (latestCompletedHourlyWindow (zone.ofUtc utcNow) session).isSome)
    (hload : UpToDate load session experiment.assetSymbol (zone.ofUtc utcNow)) (trigger : TriggerType)
    (id sequenceNumber : ℕ) :
    IsCompletedHour session (zone.ofUtc utcNow)
        (agentMarketBar { env with hourlyBar := loadHourlyAgentBar zone load } experiment
          (createdStep zone utcNow trigger id sequenceNumber)) ↔
      trigger = .scheduled := by
  have h := ofCalendar hsession
  have hbar : agentMarketBar { env with hourlyBar := loadHourlyAgentBar zone load } experiment
      (createdStep zone utcNow trigger id sequenceNumber) =
      loadHourlyAgentBar zone load experiment.assetSymbol ((scheduledForOf zone utcNow trigger).getD utcNow) := by
    unfold agentMarketBar
    rw [if_pos hhourly]
    rfl
  rw [hbar]
  -- only the scheduler passes a slot, the others leave the instant itself
  cases trigger with
  | scheduled =>
      obtain ⟨window, hlatest⟩ := Option.isSome_iff_exists.mp hwindow
      have hslot : scheduledForOf zone utcNow .scheduled = some (zone.toUtc window.start) := by
        unfold scheduledForOf paperHourlyDueSlot
        dsimp only
        rw [dueSlotOn_session hsession rfl, hlatest]
        rfl
      rw [hslot]
      exact iff_of_true (isCompletedHour_scheduled hsession hload hlatest) rfl
  | manual => exact iff_of_false (not_isCompletedHour_now h) (by decide)
  | event => exact iff_of_false (not_isCompletedHour_now h) (by decide)
  | historical => exact iff_of_false (not_isCompletedHour_now h) (by decide)

/-- The bars of the first hour of a session. -/
def firstHour (session : TradingSession) : List IntradayBar :=
  (barGrid session.base 12).map fun t => ⟨t, session.sessionDate, 100, 101, 99, 100, 1⟩

/-- 10:31 in New York, on the eve of Independence Day 2024, as UTC. -/
def pastHalfPastTen : DateTime := DateTime.midnight (Civil.ordinal 2024 7 3) + timeOfDay 14 31

/-- At 10:31 the first hour is all there is. -/
theorem firstHour_holdsCompleted :
    HoldsCompleted (firstHour independenceEve2024) independenceEve2024 (easternDaylightTime.ofUtc pastHalfPastTen) :=
  ⟨by decide +kernel, by decide +kernel⟩

/-- The step that the scheduler's call adds at 10:31 aggregates the first hour. -/
theorem scheduled_step_finds_first_hour :
    ∃ step ∈ ((smallDb .agenticAi .hourly).addNextStep .scheduled
        ((scheduledForOf easternDaylightTime pastHalfPastTen .scheduled).getD pastHalfPastTen) pastHalfPastTen).steps,
      IsCompletedHour independenceEve2024 (easternDaylightTime.ofUtc pastHalfPastTen)
        (agentMarketBar
          { smallEnv 100 (fun _ => .error (runtimeError "no broker")) with
            hourlyBar := loadHourlyAgentBar easternDaylightTime
              (SpyIntradayCsvLoader.loadSessionUntil (.ok (firstHour independenceEve2024))) }
          (smallExperiment .agenticAi .hourly) step) := by
  have hdate : (easternDaylightTime.ofUtc pastHalfPastTen).date = Civil.ordinal 2024 7 3 := rfl
  have hsession := hdate.symm ▸ sessionsBetween_independenceEve
  rw [addNextStep_createdStep]
  refine ⟨_, List.mem_append_right _ (List.mem_singleton_self _), ?_⟩
  exact (hourly_step_finds_bar_iff _ _ _ rfl _ _ hsession (by decide +kernel)
    (SpyIntradayCsvLoader.upToDate sessionsBetween_independenceEve firstHour_holdsCompleted) _ _ _).mpr rfl

/-- A manual step at 10:31 asks for the hour that starts at 10:31, and raises. -/
theorem manual_step_finds_no_hour :
    (agentMarketBar
        { smallEnv 100 (fun _ => .error (runtimeError "no broker")) with
          hourlyBar := loadHourlyAgentBar easternDaylightTime
            (SpyIntradayCsvLoader.loadSessionUntil (.ok (firstHour independenceEve2024))) }
        (smallExperiment .agenticAi .hourly)
        (createdStep easternDaylightTime pastHalfPastTen .manual 1 1)).toOption.isNone ∧
      ¬ IsCompletedHour independenceEve2024 (easternDaylightTime.ofUtc pastHalfPastTen)
        (agentMarketBar
          { smallEnv 100 (fun _ => .error (runtimeError "no broker")) with
            hourlyBar := loadHourlyAgentBar easternDaylightTime
              (SpyIntradayCsvLoader.loadSessionUntil (.ok (firstHour independenceEve2024))) }
          (smallExperiment .agenticAi .hourly)
          (createdStep easternDaylightTime pastHalfPastTen .manual 1 1)) :=
  ⟨by decide +kernel, not_isCompletedHour_now (ofCalendar sessionsBetween_independenceEve)⟩

end TradingAI
