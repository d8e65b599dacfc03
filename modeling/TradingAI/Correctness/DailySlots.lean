import TradingAI.Correctness.DueSlots

/-!
# `Correctness.DailySlots` — the daily slot and the hours of the session

The daily slot is due at a configured time on every day with a session. The hours of that session are not
asked for, as the other three slots do: on an early close a time in the afternoon is after the close
(`daily_slot_in_hours_iff`).
-/

namespace TradingAI

open UsEquitiesTradingCalendar

/-- The slot lies in the session of the date: not before its open, and before its close. -/
def InHours (zone : Zone) (d : Date) (slot : DateTime) : Prop :=
  ∃ session, sessionsBetween d d = .ok [session] ∧
    DateTime.midnight d + session.openTime ≤ zone.ofUtc slot ∧
    zone.ofUtc slot < DateTime.midnight d + session.closeTime

/-- An instant is its time after midnight of its date. -/
theorem midnight_date_add_time (t : DateTime) : DateTime.midnight t.date + t.time = t := by
  show (((t / microsecondsPerDay : ℕ) : ℤ)).toNat * microsecondsPerDay + t % microsecondsPerDay = t
  rw [Int.toNat_natCast]
  exact Nat.div_add_mod' t microsecondsPerDay

variable {zone : Zone} {now slot : DateTime} {evaluationTime : EvaluationTime}

/-- What is due daily: the configured time, once it is reached. -/
theorem paperDailyDueSlot_eq_some :
    paperDailyDueSlot zone now evaluationTime = .ok (some slot) ↔
      (∃ session, sessionsBetween now.date now.date = .ok [session]) ∧ evaluationTime.time ≤ now.time ∧
        slot = zone.toUtc (DateTime.midnight now.date + evaluationTime.time) := by
  have hdue : now < DateTime.midnight now.date + evaluationTime.time ↔ now.time < evaluationTime.time := by
    calc now < DateTime.midnight now.date + evaluationTime.time
        ↔ DateTime.midnight now.date + now.time < DateTime.midnight now.date + evaluationTime.time := by
          rw [midnight_date_add_time]
      _ ↔ now.time < evaluationTime.time := Nat.add_lt_add_iff_left
  constructor
  · intro h
    obtain ⟨session, hsession, hslot⟩ := dueSlotOn_eq_some h
    dsimp only at hslot
    split at hslot
    · cases hslot
    · next hnot =>
        rw [hdue, not_lt] at hnot
        exact ⟨⟨session, hsession⟩, hnot, (Option.some.inj hslot).symm⟩
  · rintro ⟨⟨session, hsession⟩, hreached, rfl⟩
    rw [paperDailyDueSlot, dueSlotOn_session hsession rfl, if_neg]
    rw [hdue]
    exact not_lt.mpr hreached

/-- **When the daily slot is in market hours.** For a time between the regular open and the regular close, a slot
    that is due at `now` lies in the session of the day if and only if, where the day has a session and the
    time is reached, the time is before the close of that session. -/
theorem daily_slot_in_hours_iff (zone : Zone) (now : DateTime) (evaluationTime : EvaluationTime)
    (hopen : regularOpenTime ≤ evaluationTime.time) (hclose : evaluationTime.time ≤ regularCloseTime) :
    (∀ slot, paperDailyDueSlot zone now evaluationTime = .ok (some slot) → InHours zone now.date slot) ↔
      ∀ session, sessionsBetween now.date now.date = .ok [session] → evaluationTime.time ≤ now.time →
        evaluationTime.time < session.closeTime := by
  -- the slot has the date of `now`, and is still at the configured time when it comes back from UTC
  have hday : evaluationTime.time < microsecondsPerDay := hclose.trans_lt (by decide)
  have hnonneg : 0 ≤ now.date := Int.natCast_nonneg _
  obtain ⟨hdate, htime⟩ := date_time_midnight_add hnonneg hday
  have hlocal : zone.ofUtc (zone.toUtc (DateTime.midnight now.date + evaluationTime.time)) =
      DateTime.midnight now.date + evaluationTime.time := by
    apply zone.ofUtc_toUtc
    · rw [htime]
      exact hopen
    · rw [htime]
      exact hclose
  constructor
  · intro h session hsession hreached
    obtain ⟨session', hsession', -, hbefore⟩ :=
      h _ (paperDailyDueSlot_eq_some.mpr ⟨⟨session, hsession⟩, hreached, rfl⟩)
    rw [hsession] at hsession'
    cases hsession'
    rw [hlocal] at hbefore
    exact Nat.lt_of_add_lt_add_left hbefore
  · intro h slot hslot
    obtain ⟨⟨session, hsession⟩, hreached, rfl⟩ := paperDailyDueSlot_eq_some.mp hslot
    refine ⟨session, hsession, ?_, ?_⟩
    · rw [hlocal, (ofCalendar hsession).opens]
      exact Nat.add_le_add_left hopen _
    · rw [hlocal]
      exact Nat.add_lt_add_left (h session hsession hreached) _

/-- The default evaluation time, `15:55`. -/
def fiveToFour : EvaluationTime := ⟨15, 55, by decide, by decide⟩

/-- Noon on the eve of Independence Day 2024, before the evaluation time is reached. -/
theorem no_slot_at_noon :
    (paperDailyDueSlot easternDaylightTime (DateTime.midnight (Civil.ordinal 2024 7 3) + timeOfDay 12 0)
        fiveToFour).toOption = some none ∧
      ∀ slot, paperDailyDueSlot easternDaylightTime (DateTime.midnight (Civil.ordinal 2024 7 3) + timeOfDay 12 0)
          fiveToFour = .ok (some slot) →
        InHours easternDaylightTime
          (DateTime.date (DateTime.midnight (Civil.ordinal 2024 7 3) + timeOfDay 12 0)) slot := by
  refine ⟨by decide +kernel, ?_⟩
  apply (daily_slot_in_hours_iff _ _ _ (by decide) (by decide)).mpr
  intro session _ hreached
  exact absurd hreached (by decide)

/-- Five to four on that day is due, three hours after the close. -/
theorem slot_after_early_close :
    ∃ slot, paperDailyDueSlot easternDaylightTime (DateTime.midnight (Civil.ordinal 2024 7 3) + timeOfDay 15 55)
        fiveToFour = .ok (some slot) ∧
      ¬ InHours easternDaylightTime (Civil.ordinal 2024 7 3) slot := by
  have hdate : DateTime.date (DateTime.midnight (Civil.ordinal 2024 7 3) + timeOfDay 15 55) = Civil.ordinal 2024 7 3 :=
    rfl
  refine ⟨_, paperDailyDueSlot_eq_some.mpr ⟨⟨independenceEve2024, ?_⟩, by decide, rfl⟩, ?_⟩
  · rw [hdate]
    exact sessionsBetween_independenceEve
  · rintro ⟨session, hsession, -, hbefore⟩
    rw [sessionsBetween_independenceEve] at hsession
    cases hsession
    exact absurd hbefore (by decide)

end TradingAI
