import Mathlib.Data.Int.Order.Basic
import Mathlib.Tactic.IntervalCases
import Mathlib.Tactic.Ring

/-!
# `Lib.CivilDate` — the proleptic Gregorian calendar

A day is an **ordinal**: 1 January of year 1 is day 1. Years, months and days are integers, so that every
fact below is one of linear arithmetic with divisions by constants.

## Contents
- `isLeap`, `daysBeforeYear`, `daysBeforeMonth`, `ordinal`: from a civil date to its day.
- `weekday`, `yearOf`, `monthOf`, `dayOf`: what a day is.
- `yearOf_eq_iff`: the year of a day is the one it lies in.
- `ordinal_mem_year`: a civil date lies in its year.
-/

namespace Civil

/-! ## From a civil date to a day -/

def isLeap (year : ℤ) : Bool := year % 4 = 0 ∧ (year % 100 ≠ 0 ∨ year % 400 = 0)

/-- The days of the years before. -/
def daysBeforeYear (year : ℤ) : ℤ := (year - 1) * 365 + (year - 1) / 4 - (year - 1) / 100 + (year - 1) / 400

/-- The days of the months before, in one year. -/
def daysBeforeMonth (year month : ℤ) : ℤ :=
  [0, 31, 59, 90, 120, 151, 181, 212, 243, 273, 304, 334].getD (month - 1).toNat 0 +
    if 2 < month ∧ isLeap year then 1 else 0

def ordinal (year month day : ℤ) : ℤ := daysBeforeYear year + daysBeforeMonth year month + day

/-! ## What a day is -/

/-- The day of the week; Monday is 0. -/
def weekday (day : ℤ) : ℤ := (day + 6) % 7

/-- The year a day lies in, by cycles of 400, 100, 4 and 1 years. Only the last day of a cycle of 400 or of
    4 years counts as a fifth part of it. -/
def yearOf (day : ℤ) : ℤ :=
  let n := day - 1
  let n400 := n / 146097
  let n100 := n % 146097 / 36524
  let n4 := n % 146097 % 36524 / 1461
  let n1 := n % 146097 % 36524 % 1461 / 365
  let year := n400 * 400 + n100 * 100 + n4 * 4 + n1 + 1
  if n1 = 4 ∨ n100 = 4 then year - 1 else year

/-- The month a day lies in: the last one that starts before the day is over. -/
def monthOf (day : ℤ) : ℤ :=
  let year := yearOf day
  ([12, 11, 10, 9, 8, 7, 6, 5, 4, 3, 2].find? fun month =>
    daysBeforeYear year + daysBeforeMonth year month < day).getD 1

def dayOf (day : ℤ) : ℤ := day - daysBeforeYear (yearOf day) - daysBeforeMonth (yearOf day) (monthOf day)

/-! ## Years -/

/-- A year has 365 days, or 366. -/
theorem daysBeforeYear_succ (year : ℤ) :
    daysBeforeYear (year + 1) = daysBeforeYear year + 365 + if isLeap year then 1 else 0 := by
  unfold daysBeforeYear isLeap
  simp only [decide_eq_true_eq]
  split_ifs <;> omega

theorem daysBeforeYear_lt_succ (year : ℤ) : daysBeforeYear year < daysBeforeYear (year + 1) := by
  rw [daysBeforeYear_succ]
  split_ifs <;> omega

theorem daysBeforeYear_mono {y z : ℤ} (h : y ≤ z) : daysBeforeYear y ≤ daysBeforeYear z := by
  unfold daysBeforeYear
  omega

/-- The days before a year, by full cycles of 400, 100, 4 and 1 years. -/
theorem daysBeforeYear_cycles {a b c e : ℤ} (hb : 0 ≤ b ∧ b ≤ 3) (hc : 0 ≤ c ∧ c ≤ 24) (he : 0 ≤ e ∧ e ≤ 3) :
    daysBeforeYear (a * 400 + b * 100 + c * 4 + e + 1) = a * 146097 + b * 36524 + c * 1461 + e * 365 := by
  unfold daysBeforeYear
  have h4 : (a * 400 + b * 100 + c * 4 + e + 1 - 1) / 4 = a * 100 + b * 25 + c := by omega
  have h100 : (a * 400 + b * 100 + c * 4 + e + 1 - 1) / 100 = a * 4 + b := by omega
  have h400 : (a * 400 + b * 100 + c * 4 + e + 1 - 1) / 400 = a := by omega
  rw [h4, h100, h400]
  ring

/-- The cycles of a day, with what is left over of each. -/
theorem cycles_of_day (n : ℤ) : ∃ a b c e r, n = a * 146097 + b * 36524 + c * 1461 + e * 365 + r ∧
    n / 146097 = a ∧ n % 146097 / 36524 = b ∧ n % 146097 % 36524 / 1461 = c ∧
    n % 146097 % 36524 % 1461 / 365 = e ∧ (0 ≤ b ∧ b ≤ 4) ∧ (0 ≤ c ∧ c ≤ 24) ∧ (0 ≤ e ∧ e ≤ 4) ∧
    (0 ≤ r ∧ r < 365) ∧ (b = 4 → c = 0 ∧ e = 0 ∧ r = 0) ∧ (e = 4 → c ≤ 23 ∧ r = 0) := by
  refine ⟨n / 146097, n % 146097 / 36524, n % 146097 % 36524 / 1461, n % 146097 % 36524 % 1461 / 365,
    n % 146097 % 36524 % 1461 % 365, by omega, rfl, rfl, rfl, rfl, by omega, by omega, by omega, by omega, ?_, ?_⟩
  · omega
  · omega

/-- A day lies in its year. -/
theorem yearOf_spec (day : ℤ) :
    daysBeforeYear (yearOf day) < day ∧ day ≤ daysBeforeYear (yearOf day + 1) := by
  obtain ⟨a, b, c, e, r, hday, ha, hb, hc, he, hb4, hc24, he4, hr, hfour, hfifth⟩ := cycles_of_day (day - 1)
  unfold yearOf
  dsimp only
  rw [ha, hb, hc, he]
  split_ifs with hlast
  · rcases hlast with rfl | rfl
    · -- the last day of four years: the next year starts a cycle of four
      obtain ⟨hc23, rfl⟩ := hfifth rfl
      have hb3 : b ≠ 4 := by
        rintro rfl
        exact absurd (hfour rfl).2.1 (by decide)
      have hyear := daysBeforeYear_cycles (a := a) (b := b) (c := c) (e := 3) ⟨hb4.1, by omega⟩ hc24 (by decide)
      have hnext := daysBeforeYear_cycles (a := a) (b := b) (c := c + 1) (e := 0) ⟨hb4.1, by omega⟩
        (by omega) (by decide)
      rw [show a * 400 + b * 100 + c * 4 + 4 + 1 - 1 = a * 400 + b * 100 + c * 4 + 3 + 1 by ring, hyear,
        show a * 400 + b * 100 + c * 4 + 3 + 1 + 1 = a * 400 + b * 100 + (c + 1) * 4 + 0 + 1 by ring, hnext]
      omega
    · -- the last day of 400 years
      obtain ⟨rfl, rfl, rfl⟩ := hfour rfl
      have hyear := daysBeforeYear_cycles (a := a) (b := 3) (c := 24) (e := 3) (by decide) (by decide) (by decide)
      have hnext := daysBeforeYear_cycles (a := a + 1) (b := 0) (c := 0) (e := 0) (by decide) (by decide)
        (by decide)
      rw [show a * 400 + 4 * 100 + 0 * 4 + 0 + 1 - 1 = a * 400 + 3 * 100 + 24 * 4 + 3 + 1 by ring, hyear,
        show a * 400 + 3 * 100 + 24 * 4 + 3 + 1 + 1 = (a + 1) * 400 + 0 * 100 + 0 * 4 + 0 + 1 by ring, hnext]
      omega
  · rw [not_or] at hlast
    have hyear := daysBeforeYear_cycles (a := a) (b := b) (c := c) (e := e) ⟨hb4.1, by omega⟩ hc24
      ⟨he4.1, by omega⟩
    rw [daysBeforeYear_succ (a * 400 + b * 100 + c * 4 + e + 1), hyear]
    split_ifs <;> omega

/-- **The year of a day** is the one it lies in. -/
theorem yearOf_eq_iff {day year : ℤ} :
    yearOf day = year ↔ daysBeforeYear year < day ∧ day ≤ daysBeforeYear (year + 1) := by
  constructor
  · rintro rfl
    exact yearOf_spec day
  · rintro ⟨hlow, hhigh⟩
    obtain ⟨hlow', hhigh'⟩ := yearOf_spec day
    rcases lt_trichotomy (yearOf day) year with h | h | h
    · have := daysBeforeYear_mono (show yearOf day + 1 ≤ year from h)
      omega
    · exact h
    · have := daysBeforeYear_mono (show year + 1 ≤ yearOf day from h)
      omega

/-- Later days lie in later years. -/
theorem yearOf_mono {d e : ℤ} (h : d ≤ e) : yearOf d ≤ yearOf e := by
  by_contra hlt
  have hle := daysBeforeYear_mono (show yearOf e + 1 ≤ yearOf d by omega)
  have hd := yearOf_spec d
  have he := yearOf_spec e
  omega

/-! ## Months -/

theorem daysBeforeMonth_bounds (year : ℤ) {month : ℤ} (h : 1 ≤ month ∧ month ≤ 12) :
    0 ≤ daysBeforeMonth year month ∧
      daysBeforeMonth year month + 31 ≤ 365 + if isLeap year then 1 else 0 := by
  obtain ⟨hlow, hhigh⟩ := h
  unfold daysBeforeMonth
  interval_cases month <;> cases isLeap year <;> decide

/-- A civil date lies in its year. -/
theorem ordinal_mem_year (year : ℤ) {month day : ℤ} (hmonth : 1 ≤ month ∧ month ≤ 12) (hday : 1 ≤ day ∧ day ≤ 31) :
    daysBeforeYear year < ordinal year month day ∧ ordinal year month day ≤ daysBeforeYear (year + 1) := by
  have hbounds := daysBeforeMonth_bounds year hmonth
  rw [daysBeforeYear_succ]
  unfold ordinal
  omega

theorem yearOf_ordinal {year month day : ℤ} (hmonth : 1 ≤ month ∧ month ≤ 12) (hday : 1 ≤ day ∧ day ≤ 31) :
    yearOf (ordinal year month day) = year :=
  yearOf_eq_iff.mpr (ordinal_mem_year year hmonth hday)

end Civil
