import TradingAI.Domain.Values
import TradingAI.Lib.CivilDate
import Mathlib.Data.Int.Range

/-!
# `MarketData.TradingCalendar` — the sessions of the US equity market

`UsEquitiesTradingCalendar` computes holidays and early closes from the years of the range it is asked for.
A `Date` is the ordinal of `Lib.CivilDate`. Python's dates end with the years 1 and 9999, and a range whose
neighbouring years are beyond them raises.

## Contents
- `expectedBarStartTimes`, and the instants of a date.
- The rules of the holidays: `observedFixedHoliday`, `nthWeekday`, `lastWeekday`, `goodFriday`.
- `holidays`, `earlyCloses`, `sessionsBetween`.
- `sessionOf`, `sessionsBetween_eq`: the session of a date, whatever the range.
- `Zone`: the wall clock of New York.
-/

namespace TradingAI

open Civil

/-! ## The grid of a session -/

def regularOpenTime : TimeOfDay := timeOfDay 9 30

def regularCloseTime : TimeOfDay := timeOfDay 16 0

def earlyCloseTime : TimeOfDay := timeOfDay 13 0

/-- `BAR_INTERVAL`. -/
def barInterval : ℕ := timeOfDay 0 5

/-- `expected_bar_start_times`. -/
def expectedBarStartTimes (sessionDate : Date) (openTime closeTime : TimeOfDay) : List DateTime :=
  (List.range ((closeTime - openTime + barInterval - 1) / barInterval)).map fun i =>
    DateTime.midnight sessionDate + openTime + i * barInterval

/-- The parts of an instant on a date. -/
theorem date_time_midnight_add {d : Date} (hd : 0 ≤ d) {t : ℕ} (ht : t < microsecondsPerDay) :
    DateTime.date (DateTime.midnight d + t) = d ∧ DateTime.time (DateTime.midnight d + t) = t := by
  unfold DateTime.date DateTime.time DateTime.midnight
  constructor
  · rw [Nat.mul_comm, Nat.mul_add_div (by decide), Nat.div_eq_of_lt ht, Nat.add_zero]
    exact Int.toNat_of_nonneg hd
  · rw [Nat.mul_comm, Nat.mul_add_mod, Nat.mod_eq_of_lt ht]

/-- A day's instants are ordered as their times. -/
theorem le_iff_time_le {t u : ℕ} (h : DateTime.date t = DateTime.date u) :
    t ≤ u ↔ DateTime.time t ≤ DateTime.time u := by
  have hday : t / 86400000000 = u / 86400000000 := Int.natCast_inj.mp h
  show t ≤ u ↔ t % 86400000000 ≤ u % 86400000000
  omega

/-- The instants of an earlier date are earlier. -/
theorem lt_of_date_lt {t u : ℕ} (h : DateTime.date t < DateTime.date u) : t < u := by
  have hday : t / 86400000000 < u / 86400000000 := Int.ofNat_lt.mp h
  omega

/-- `date.isoformat`. -/
def isoDate (d : Date) : String :=
  let padded (width : ℕ) (n : ℤ) : String :=
    let digits := toString n.toNat
    String.ofList (List.replicate (width - digits.length) '0') ++ digits
  padded 4 (yearOf d) ++ "-" ++ padded 2 (monthOf d) ++ "-" ++ padded 2 (dayOf d)

/-! ## Holiday rules -/

/-- `_observed_fixed_holiday`: a holiday on a Saturday is observed the day before, on a Sunday the day after. -/
def observedFixedHoliday (year month day : ℤ) : ℤ :=
  let holiday := ordinal year month day
  if weekday holiday = 5 then holiday - 1
  else if weekday holiday = 6 then holiday + 1
  else holiday

/-- The loops of `_nth_weekday` and `_last_weekday`: a step at a time until the weekday is met, after six steps
    at the latest. -/
def seekWeekday (step target : ℤ) : ℕ → ℤ → ℤ
  | 0, current           => current
  | rounds + 1, current  =>
      if weekday current = target then current else seekWeekday step target rounds (current + step)

/-- `_nth_weekday`. -/
def nthWeekday (year month target occurrence : ℤ) : ℤ :=
  seekWeekday 1 target 6 (ordinal year month 1) + 7 * (occurrence - 1)

/-- `_last_weekday`. -/
def lastWeekday (year month target : ℤ) : ℤ :=
  seekWeekday (-1) target 6
    (if month = 12 then ordinal year 12 31 else ordinal year (month + 1) 1 - 1)

/-- `_good_friday`: the Gregorian algorithm for Easter Sunday, two days earlier. -/
def goodFriday (year : ℤ) : ℤ :=
  let a := year % 19
  let b := year / 100
  let c := year % 100
  let d := b / 4
  let e := b % 4
  let f := (b + 8) / 25
  let g := (b - f + 1) / 3
  let h := (19 * a + b - d - g + 15) % 30
  let i := c / 4
  let k := c % 4
  let correction := (32 + 2 * e + 2 * i - h - k) % 7
  let m := (a + 11 * h + 22 * correction) / 451
  let month := (h + correction - 7 * m + 114) / 31
  let day := (h + correction - 7 * m + 114) % 31 + 1
  ordinal year month day - 2

/-- The holidays that `_holidays` computes from one year. -/
def holidaysOf (year : ℤ) : List Date :=
  [observedFixedHoliday year 1 1, nthWeekday year 1 0 3, nthWeekday year 2 0 3, goodFriday year,
    lastWeekday year 5 0, observedFixedHoliday year 7 4, nthWeekday year 9 0 1, nthWeekday year 11 3 4,
    observedFixedHoliday year 12 25] ++
  if 2022 ≤ year then [observedFixedHoliday year 6 19] else []

/-- The days before or after a holiday that `_early_closes` considers, of one year. -/
def earlyCloseCandidates (year : ℤ) : List Date :=
  [ordinal year 7 3, ordinal year 12 24, nthWeekday year 11 3 4 + 1]

/-! ## The calendar -/

structure TradingSession where
  sessionDate           : Date
  openTime              : TimeOfDay
  closeTime             : TimeOfDay
  expectedBarStartTimes : List DateTime
  isEarlyClose          : Bool
  deriving DecidableEq

namespace UsEquitiesTradingCalendar

/-- `_holidays`, as the list of its members. -/
def holidays (startYear endYear : ℤ) : List Date := (Int.range (startYear - 1) (endYear + 2)).flatMap holidaysOf

/-- `_early_closes`. -/
def earlyCloses (startYear endYear : ℤ) : List Date :=
  ((Int.range (startYear - 1) (endYear + 2)).flatMap earlyCloseCandidates).filter fun candidate =>
    weekday candidate < 5 ∧ candidate ∉ holidays startYear endYear

/-- A round of the loop of `sessions_between`. -/
def sessionIn (startYear endYear : ℤ) (current : Date) : Option TradingSession :=
  if weekday current < 5 ∧ current ∉ holidays startYear endYear then
    let closeTime := if current ∈ earlyCloses startYear endYear then earlyCloseTime else regularCloseTime
    some
      { sessionDate           := current
        openTime              := regularOpenTime
        closeTime             := closeTime
        expectedBarStartTimes := expectedBarStartTimes current regularOpenTime closeTime
        isEarlyClose          := closeTime ≠ regularCloseTime }
  else none

/-- What `date(year, …)` raises. -/
def yearOutOfRange (year : ℤ) : Raised := runtimeError ("year " ++ toString year ++ " is out of range")

/-- `sessions_between`. -/
def sessionsBetween (startDate endDate : Date) : Except Raised (List TradingSession) :=
  if endDate < startDate then .ok []
  else if yearOf startDate - 1 < 1 then .error (yearOutOfRange (yearOf startDate - 1))
  else if 9999 < yearOf endDate + 1 then .error (yearOutOfRange (yearOf endDate + 1))
  else .ok ((Int.range startDate (endDate + 1)).filterMap (sessionIn (yearOf startDate) (yearOf endDate)))

end UsEquitiesTradingCalendar

/-! ## Every rule stays in its year -/

/-- A search moves by at most its rounds. -/
theorem seekWeekday_bounds (target : ℤ) (rounds : ℕ) (d : ℤ) :
    (d ≤ seekWeekday 1 target rounds d ∧ seekWeekday 1 target rounds d ≤ d + rounds) ∧
      (d - rounds ≤ seekWeekday (-1) target rounds d ∧ seekWeekday (-1) target rounds d ≤ d) := by
  -- by induction on the rounds that are left; each moves by one day
  induction rounds generalizing d with
  | zero =>
      simp only [seekWeekday]
      omega
  | succ n ih =>
      simp only [seekWeekday]
      have hup := (ih (d + 1)).1
      have hdown := (ih (d + -1)).2
      push_cast
      constructor
      · split_ifs <;> omega
      · split_ifs <;> omega

/-- An observed holiday is at most a day from the holiday. -/
theorem observedFixedHoliday_near (year month day : ℤ) :
    ordinal year month day - 1 ≤ observedFixedHoliday year month day ∧
      observedFixedHoliday year month day ≤ ordinal year month day + 1 := by
  unfold observedFixedHoliday
  dsimp only
  split_ifs <;> omega

/-- A day of a year: after the days of the years before, not after its own. -/
def InYear (year : ℤ) (d : ℤ) : Prop := daysBeforeYear year < d ∧ d ≤ daysBeforeYear (year + 1)

theorem inYear_iff {year : ℤ} {d : ℤ} : InYear year d ↔ yearOf d = year := yearOf_eq_iff.symm

theorem inYear_nthWeekday (year : ℤ) {month target occurrence : ℤ} (hmonth : 1 ≤ month ∧ month ≤ 12)
    (hoccurrence : 1 ≤ occurrence ∧ occurrence ≤ 4) : InYear year (nthWeekday year month target occurrence) := by
  have hfirst := (seekWeekday_bounds target 6 (ordinal year month 1)).1
  have hlow := ordinal_mem_year year hmonth (show 1 ≤ (1 : ℤ) ∧ (1 : ℤ) ≤ 31 by decide)
  have hhigh := ordinal_mem_year year hmonth (show 1 ≤ (28 : ℤ) ∧ (28 : ℤ) ≤ 31 by decide)
  unfold InYear nthWeekday
  unfold ordinal at hfirst hlow hhigh ⊢
  push_cast at hfirst
  omega

/-- The last weekday of May lies in the last week of May. -/
theorem inYear_lastWeekday_may (year target : ℤ) : InYear year (lastWeekday year 5 target) := by
  have hlast := (seekWeekday_bounds target 6 (ordinal year (5 + 1) 1 - 1)).2
  have hjune : ordinal year (5 + 1) 1 - 1 = ordinal year 5 31 := by
    have hdays : daysBeforeMonth year 6 = daysBeforeMonth year 5 + 31 := by
      unfold daysBeforeMonth
      cases isLeap year <;> decide
    show ordinal year 6 1 - 1 = _
    unfold ordinal
    omega
  have hlow := ordinal_mem_year year (show 1 ≤ (5 : ℤ) ∧ (5 : ℤ) ≤ 12 by decide)
    (show 1 ≤ (25 : ℤ) ∧ (25 : ℤ) ≤ 31 by decide)
  have hhigh := ordinal_mem_year year (show 1 ≤ (5 : ℤ) ∧ (5 : ℤ) ≤ 12 by decide)
    (show 1 ≤ (31 : ℤ) ∧ (31 : ℤ) ≤ 31 by decide)
  unfold InYear lastWeekday
  rw [if_neg (by decide)]
  rw [hjune] at hlast ⊢
  unfold ordinal at hlast hlow hhigh ⊢
  push_cast at hlast
  omega

/-- Easter falls in March or April. -/
theorem inYear_goodFriday (year : ℤ) : InYear year (goodFriday year) := by
  unfold goodFriday
  dsimp only
  generalize hh : (19 * (year % 19) + year / 100 - year / 100 / 4 - (year / 100 - (year / 100 + 8) / 25 + 1) / 3 + 15)
    % 30 = h
  generalize hc : (32 + 2 * (year / 100 % 4) + 2 * (year % 100 / 4) - h - year % 100 % 4) % 7 = correction
  generalize hm : (year % 19 + 11 * h + 22 * correction) / 451 = m
  have hrange : 93 ≤ h + correction - 7 * m + 114 ∧ h + correction - 7 * m + 114 ≤ 154 := by omega
  generalize h + correction - 7 * m + 114 = n at hrange
  have hmonth : n / 31 = 3 ∨ n / 31 = 4 := by omega
  have hdays : ∀ month : ℤ, month = 3 ∨ month = 4 →
      59 ≤ daysBeforeMonth year month ∧ daysBeforeMonth year month ≤ 91 := by
    rintro month (rfl | rfl)
    · unfold daysBeforeMonth
      cases isLeap year <;> decide
    · unfold daysBeforeMonth
      cases isLeap year <;> decide
  have hbounds := hdays _ hmonth
  unfold InYear ordinal
  rw [daysBeforeYear_succ]
  split_ifs <;> omega

/-- The observed day of a holiday lies in the holiday's year, or on the last day of the year before. -/
theorem yearOf_observedFixedHoliday (year : ℤ) {month day : ℤ} (hmonth : 1 ≤ month ∧ month ≤ 12)
    (hday : 1 ≤ day ∧ day ≤ 30) :
    yearOf (observedFixedHoliday year month day) = year ∨ yearOf (observedFixedHoliday year month day) + 1 = year := by
  have hnear := observedFixedHoliday_near year month day
  have hlow := ordinal_mem_year year hmonth (show 1 ≤ day ∧ day ≤ 31 by omega)
  have hhigh := ordinal_mem_year year hmonth (show 1 ≤ day + 1 ∧ day + 1 ≤ 31 by omega)
  unfold ordinal at hnear hlow hhigh
  by_cases hbefore : observedFixedHoliday year month day = daysBeforeYear year
  · right
    have hprevious : yearOf (observedFixedHoliday year month day) = year - 1 := by
      rw [yearOf_eq_iff, hbefore]
      have := daysBeforeYear_lt_succ (year - 1)
      rw [sub_add_cancel] at this ⊢
      exact ⟨this, le_rfl⟩
    omega
  · left
    rw [yearOf_eq_iff]
    omega

/-- **The holidays of a year** lie in it, or on the last day of the year before. -/
theorem yearOf_mem_holidaysOf {year d : ℤ} (h : d ∈ holidaysOf year) :
    yearOf d = year ∨ yearOf d + 1 = year := by
  unfold holidaysOf at h
  simp only [List.mem_append, List.mem_cons, List.not_mem_nil, or_false] at h
  rcases h with (rfl | rfl | rfl | rfl | rfl | rfl | rfl | rfl | rfl) | h
  · exact yearOf_observedFixedHoliday year (by decide) (by decide)
  · exact .inl (inYear_iff.mp (inYear_nthWeekday year (by decide) (by decide)))
  · exact .inl (inYear_iff.mp (inYear_nthWeekday year (by decide) (by decide)))
  · exact .inl (inYear_iff.mp (inYear_goodFriday year))
  · exact .inl (inYear_iff.mp (inYear_lastWeekday_may year 0))
  · exact yearOf_observedFixedHoliday year (by decide) (by decide)
  · exact .inl (inYear_iff.mp (inYear_nthWeekday year (by decide) (by decide)))
  · exact .inl (inYear_iff.mp (inYear_nthWeekday year (by decide) (by decide)))
  · exact yearOf_observedFixedHoliday year (by decide) (by decide)
  · split at h
    · rw [List.mem_singleton.mp h]
      exact yearOf_observedFixedHoliday year (by decide) (by decide)
    · cases h

/-- The candidates for early closes lie in their year. -/
theorem yearOf_mem_earlyCloseCandidates {year d : ℤ} (h : d ∈ earlyCloseCandidates year) : yearOf d = year := by
  unfold earlyCloseCandidates at h
  simp only [List.mem_cons, List.not_mem_nil, or_false] at h
  rcases h with rfl | rfl | rfl
  · exact yearOf_ordinal (by decide) (by decide)
  · exact yearOf_ordinal (by decide) (by decide)
  · -- the day after Thanksgiving: the fourth Thursday is not the end of November
    have hfirst := (seekWeekday_bounds 3 6 (ordinal year 11 1)).1
    have hlow := ordinal_mem_year year (show 1 ≤ (11 : ℤ) ∧ (11 : ℤ) ≤ 12 by decide)
      (show 1 ≤ (1 : ℤ) ∧ (1 : ℤ) ≤ 31 by decide)
    have hhigh := ordinal_mem_year year (show 1 ≤ (11 : ℤ) ∧ (11 : ℤ) ≤ 12 by decide)
      (show 1 ≤ (29 : ℤ) ∧ (29 : ℤ) ≤ 31 by decide)
    rw [yearOf_eq_iff]
    unfold nthWeekday
    unfold ordinal at hfirst hlow hhigh ⊢
    push_cast at hfirst
    omega

/-! ## The session of a date -/

namespace UsEquitiesTradingCalendar

variable {startYear endYear year d : ℤ}

/-- Which years a range asks for does not matter to a date of one of them. -/
theorem mem_holidays_iff (h : startYear ≤ yearOf d ∧ yearOf d ≤ endYear) :
    d ∈ holidays startYear endYear ↔ d ∈ holidaysOf (yearOf d) ∨ d ∈ holidaysOf (yearOf d + 1) := by
  unfold holidays
  simp only [List.mem_flatMap, Int.mem_range_iff]
  constructor
  · rintro ⟨year, -, hmem⟩
    rcases yearOf_mem_holidaysOf hmem with rfl | rfl
    · exact .inl hmem
    · exact .inr hmem
  · rintro (hmem | hmem)
    · exact ⟨_, by omega, hmem⟩
    · exact ⟨_, by omega, hmem⟩

theorem mem_earlyCloses_iff (h : startYear ≤ yearOf d ∧ yearOf d ≤ endYear) :
    d ∈ earlyCloses startYear endYear ↔
      d ∈ earlyCloseCandidates (yearOf d) ∧ weekday d < 5 ∧ d ∉ holidays startYear endYear := by
  unfold earlyCloses
  simp only [List.mem_filter, List.mem_flatMap, Int.mem_range_iff, decide_eq_true_eq]
  constructor
  · rintro ⟨⟨year, -, hmem⟩, hopen⟩
    rw [yearOf_mem_earlyCloseCandidates hmem]
    exact ⟨hmem, hopen⟩
  · rintro ⟨hmem, hopen⟩
    exact ⟨⟨_, by omega, hmem⟩, hopen⟩

/-- The session of a date, from the years around it. -/
def sessionOf (d : Date) : Option TradingSession := sessionIn (yearOf d) (yearOf d) d

/-- What a session of the calendar is: the date, the regular open, one of two closes, and the grid between. -/
theorem sessionOf_spec {session : TradingSession} (h : sessionOf d = some session) :
    session.sessionDate = d ∧ session.openTime = regularOpenTime ∧
      (session.closeTime = regularCloseTime ∨ session.closeTime = earlyCloseTime) ∧
      session.expectedBarStartTimes = expectedBarStartTimes d regularOpenTime session.closeTime := by
  unfold sessionOf sessionIn at h
  split at h
  · cases h
    refine ⟨rfl, rfl, ?_, rfl⟩
    by_cases hearly : d ∈ earlyCloses (yearOf d) (yearOf d)
    · exact .inr (if_pos hearly)
    · exact .inl (if_neg hearly)
  · cases h

/-- **A date's session does not depend on the years of the range.** -/
theorem sessionIn_eq_sessionOf (h : startYear ≤ yearOf d ∧ yearOf d ≤ endYear) :
    sessionIn startYear endYear d = sessionOf d := by
  have hholidays : d ∈ holidays startYear endYear ↔ d ∈ holidays (yearOf d) (yearOf d) := by
    rw [mem_holidays_iff h, mem_holidays_iff ⟨le_rfl, le_rfl⟩]
  have hearly : d ∈ earlyCloses startYear endYear ↔ d ∈ earlyCloses (yearOf d) (yearOf d) := by
    rw [mem_earlyCloses_iff h, mem_earlyCloses_iff ⟨le_rfl, le_rfl⟩, hholidays]
  unfold sessionOf sessionIn
  simp only [hholidays, hearly]

/-- The dates of a range have a session each, or none. -/
theorem sessionsBetween_eq {startDate endDate : ℤ} (hrange : startDate ≤ endDate) (hlow : 2 ≤ yearOf startDate)
    (hhigh : yearOf endDate ≤ 9998) :
    sessionsBetween startDate endDate = .ok ((Int.range startDate (endDate + 1)).filterMap sessionOf) := by
  unfold sessionsBetween
  rw [if_neg (not_lt.mpr hrange), if_neg (by omega), if_neg (by omega)]
  congr 1
  apply List.filterMap_congr
  intro d hd
  rw [Int.mem_range_iff] at hd
  apply sessionIn_eq_sessionOf
  exact ⟨yearOf_mono hd.1, yearOf_mono (by omega)⟩

/-- What a date asked for alone has. -/
theorem sessionsBetween_self (hlow : 2 ≤ yearOf d) (hhigh : yearOf d ≤ 9998) :
    sessionsBetween d d = .ok (sessionOf d).toList := by
  rw [sessionsBetween_eq le_rfl hlow hhigh]
  have hsingle : Int.range d (d + 1) = [d] := by
    unfold Int.range
    rw [show d + 1 - d = 1 by ring]
    simp
  rw [hsingle]
  cases hsession : sessionOf d with
  | none => simp [hsession]
  | some session => simp [hsession]

/-- The calendar answers for a date of the years 2 to 9998. -/
theorem years_of_sessionsBetween {sessions : List TradingSession} (h : sessionsBetween d d = .ok sessions) :
    2 ≤ yearOf d ∧ yearOf d ≤ 9998 := by
  unfold sessionsBetween at h
  rw [if_neg (lt_irrefl _)] at h
  split at h
  · cases h
  · split at h
    · cases h
    · omega

/-- The one session that a date has when asked for alone. -/
theorem sessionOf_of_sessionsBetween {session : TradingSession} {rest : List TradingSession}
    (h : sessionsBetween d d = .ok (session :: rest)) : sessionOf d = some session ∧ rest = [] := by
  obtain ⟨hlow, hhigh⟩ := years_of_sessionsBetween h
  rw [sessionsBetween_self hlow hhigh] at h
  cases hsession : sessionOf d with
  | none =>
      rw [hsession] at h
      cases h
  | some s =>
      rw [hsession] at h
      cases h
      exact ⟨rfl, rfl⟩

end UsEquitiesTradingCalendar

/-! ## New York time -/

/-- `NEW_YORK_TZ`: naive UTC instants and wall-clock times of New York. Between the open and the close of a day
    no clock is changed, so there the two are converted into each other, in order. -/
structure Zone where
  ofUtc       : DateTime → DateTime
  toUtc       : DateTime → DateTime
  ofUtc_toUtc : ∀ t : DateTime, regularOpenTime ≤ t.time → t.time ≤ regularCloseTime → ofUtc (toUtc t) = t
  toUtc_mono  : ∀ t u : DateTime, t.date = u.date → regularOpenTime ≤ t.time → u.time ≤ regularCloseTime →
    t ≤ u → toUtc t ≤ toUtc u

/-- Daylight saving time, four hours behind UTC. -/
def easternDaylightTime : Zone where
  ofUtc t     := t - timeOfDay 4 0
  toUtc t     := t + timeOfDay 4 0
  ofUtc_toUtc := fun t _ _ => Nat.add_sub_cancel t _
  toUtc_mono  := fun _ _ _ _ _ h => Nat.add_le_add_right h _

end TradingAI
