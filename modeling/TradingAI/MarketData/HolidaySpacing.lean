import TradingAI.MarketData.TradingCalendar
import Mathlib.Data.Finset.Card
import Mathlib.Data.Int.Range

/-!
# `MarketData.HolidaySpacing` — how close the holidays are

Where each holiday of a year can fall, and what follows for a week: no two holidays are closer than seven
days, so that of any seven days at least four are sessions. Juneteenth counts in every year here; before 2022
the calendar has one holiday less.

## Contents
- `easterMonth`, `easterDay`: Easter Sunday, as `_good_friday` computes it.
- The bounds of each rule, in days since the year began.
- `yearHolidays`, `holidays_apart`: holidays in order, a week between any two.
- `dayInterval`, `openDays`, `card_openDays`: sessions of an interval, at least four in each full week.
-/

namespace TradingAI

open Civil

/-! ## Easter -/

/-- `h + correction - 7 * m` of `_good_friday`: the days from 22 March to Easter Sunday. -/
def easterOffset (year : ℤ) : ℤ :=
  let a := year % 19
  let b := year / 100
  let c := year % 100
  let d := b / 4
  let e := b % 4
  let f := (b + 8) / 25
  let g := (b - f + 1) / 3
  let h := (19 * a + b - d - g + 15) % 30
  let i := c / 4
  let k := c % 4
  let correction := (32 + 2 * e + 2 * i - h - k) % 7
  let m := (a + 11 * h + 22 * correction) / 451
  h + correction - 7 * m

/-- `month` of `_good_friday`. -/
def easterMonth (year : ℤ) : ℤ := (easterOffset year + 114) / 31

/-- `day` of `_good_friday`. -/
def easterDay (year : ℤ) : ℤ := (easterOffset year + 114) % 31 + 1

theorem goodFriday_eq (year : ℤ) : goodFriday year = ordinal year (easterMonth year) (easterDay year) - 2 := rfl

/-- Easter Sunday is 22 March at the earliest and 25 April at the latest. -/
theorem easterOffset_bounds (year : ℤ) : 0 ≤ easterOffset year ∧ easterOffset year ≤ 34 := by
  unfold easterOffset
  dsimp only
  generalize hh : (19 * (year % 19) + year / 100 - year / 100 / 4 - (year / 100 - (year / 100 + 8) / 25 + 1) / 3 + 15)
    % 30 = h
  generalize hc : (32 + 2 * (year / 100 % 4) + 2 * (year % 100 / 4) - h - year % 100 % 4) % 7 = correction
  generalize hm : (year % 19 + 11 * h + 22 * correction) / 451 = m
  -- `m` is 1 where the sum of the two is at least 34, and where it is 35
  omega

/-- The weekday of 22 March, and the days from there to a Sunday. -/
theorem easterOffset_mod (year : ℤ) :
    (daysBeforeYear (year + 1) - 365 + 81 + easterOffset year + 6) % 7 = 6 := by
  unfold easterOffset
  dsimp only
  generalize (19 * (year % 19) + year / 100 - year / 100 / 4 - (year / 100 - (year / 100 + 8) / 25 + 1) / 3 + 15)
    % 30 = h
  generalize hc : (32 + 2 * (year / 100 % 4) + 2 * (year % 100 / 4) - h - year % 100 % 4) % 7 = correction
  generalize (year % 19 + 11 * h + 22 * correction) / 451 = m
  -- `h` falls out: the correction takes it away again, up to weeks
  have hsum : (h + correction) % 7 = (32 + 2 * (year / 100 % 4) + 2 * (year % 100 / 4) - year % 100 % 4) % 7 := by
    omega
  have hdays : daysBeforeYear (year + 1) =
      365 * year + (25 * (year / 100) + year % 100 / 4) - year / 100 + year / 100 / 4 := by
    unfold daysBeforeYear
    omega
  have hyear : year = 400 * (year / 100 / 4) + 100 * (year / 100 % 4) + 4 * (year % 100 / 4) + year % 100 % 4 := by
    omega
  have hcentury : year / 100 = 4 * (year / 100 / 4) + year / 100 % 4 := by omega
  rw [hdays]
  generalize year / 100 % 4 = e at *
  generalize year % 100 / 4 = i at *
  generalize year % 100 % 4 = k at *
  generalize year / 100 / 4 = d at *
  rw [hcentury]
  omega

/-- The date is one of March or April, and the offset counts to it. -/
theorem easterDate_spec (year : ℤ) :
    (easterMonth year = 3 ∧ 22 ≤ easterDay year ∧ easterDay year ≤ 31 ∨
      easterMonth year = 4 ∧ 1 ≤ easterDay year ∧ easterDay year ≤ 25) ∧
    ordinal year (easterMonth year) (easterDay year) = ordinal year 3 22 + easterOffset year := by
  have hbounds := easterOffset_bounds year
  have hmarch : daysBeforeMonth year 4 = daysBeforeMonth year 3 + 31 := by
    unfold daysBeforeMonth
    cases isLeap year <;> decide
  unfold easterMonth easterDay ordinal
  by_cases h : easterOffset year < 10
  · have hmonth : (easterOffset year + 114) / 31 = 3 := by omega
    rw [hmonth]
    omega
  · have hmonth : (easterOffset year + 114) / 31 = 4 := by omega
    rw [hmonth, hmarch]
    omega

/-- Good Friday is two days before, from 20 March to 23 April. -/
theorem goodFriday_range (year : ℤ) :
    ordinal year 3 20 ≤ goodFriday year ∧ goodFriday year ≤ ordinal year 4 23 := by
  have hbounds := easterOffset_bounds year
  have hdate := (easterDate_spec year).2
  have hapril : daysBeforeMonth year 4 = daysBeforeMonth year 3 + 31 := by
    unfold daysBeforeMonth
    cases isLeap year <;> decide
  rw [goodFriday_eq, hdate]
  unfold ordinal
  omega

theorem weekday_goodFriday (year : ℤ) : weekday (goodFriday year) = 4 := by
  have hmod := easterOffset_mod year
  have hdate := (easterDate_spec year).2
  have hmarch : ordinal year 3 22 = daysBeforeYear (year + 1) - 365 + 81 := by
    rw [daysBeforeYear_succ]
    unfold ordinal daysBeforeMonth
    cases isLeap year <;> simp <;> ring
  rw [goodFriday_eq, hdate, hmarch]
  unfold weekday
  omega

/-! ## Where a holiday can fall -/

theorem nthWeekday_range (year month target occurrence : ℤ) :
    ordinal year month 1 + 7 * (occurrence - 1) ≤ nthWeekday year month target occurrence ∧
      nthWeekday year month target occurrence ≤ ordinal year month 1 + 7 * (occurrence - 1) + 6 := by
  have hfirst := (seekWeekday_bounds target 6 (ordinal year month 1)).1
  push_cast at hfirst
  unfold nthWeekday
  omega

/-- Memorial Day is in the last week of May. -/
theorem lastWeekday_may_range (year target : ℤ) :
    ordinal year 5 25 ≤ lastWeekday year 5 target ∧ lastWeekday year 5 target ≤ ordinal year 5 31 := by
  have hlast := (seekWeekday_bounds target 6 (ordinal year (5 + 1) 1 - 1)).2
  have hjune : ordinal year (5 + 1) 1 - 1 = ordinal year 5 31 := by
    unfold ordinal daysBeforeMonth
    cases isLeap year <;> simp <;> ring
  rw [hjune] at hlast
  push_cast at hlast
  have hmay : ordinal year 5 25 = ordinal year 5 31 - 6 := by
    unfold ordinal
    ring
  unfold lastWeekday
  rw [if_neg (by decide), hjune]
  omega

/-- Christmas and the New Year's Day after it are observed a week apart. -/
theorem observed_newYear (year : ℤ) :
    observedFixedHoliday (year + 1) 1 1 = observedFixedHoliday year 12 25 + 7 := by
  have hweek : ordinal (year + 1) 1 1 = ordinal year 12 25 + 7 := by
    unfold ordinal
    rw [daysBeforeYear_succ]
    unfold daysBeforeMonth
    cases isLeap year <;> simp <;> ring
  have hday : weekday (ordinal year 12 25 + 7) = weekday (ordinal year 12 25) := by
    unfold weekday
    omega
  unfold observedFixedHoliday
  rw [hweek]
  dsimp only
  rw [hday]
  split_ifs <;> ring

/-! ## Holidays in order -/

/-- The holidays of a year in the order of the calendar. -/
def yearHolidays (year : ℤ) : List ℤ :=
  [observedFixedHoliday year 1 1, nthWeekday year 1 0 3, nthWeekday year 2 0 3, goodFriday year,
    lastWeekday year 5 0, observedFixedHoliday year 6 19, observedFixedHoliday year 7 4, nthWeekday year 9 0 1,
    nthWeekday year 11 3 4, observedFixedHoliday year 12 25]

theorem mem_yearHolidays {year d : ℤ} (h : d ∈ holidaysOf year) : d ∈ yearHolidays year := by
  unfold holidaysOf at h
  unfold yearHolidays
  split at h <;> simp at h ⊢ <;> tauto

/-- A week lies between a holiday and the next one of the year. -/
theorem yearHolidays_pairwise (year : ℤ) : (yearHolidays year).Pairwise fun d e => d + 7 ≤ e := by
  have : IsTrans ℤ fun d e => d + 7 ≤ e := ⟨fun a b c hab hbc => by omega⟩
  rw [← List.isChain_iff_pairwise]
  have newYear := observedFixedHoliday_near year 1 1
  have martinLutherKing := nthWeekday_range year 1 0 3
  have presidents := nthWeekday_range year 2 0 3
  have friday := goodFriday_range year
  have memorial := lastWeekday_may_range year 0
  have juneteenth := observedFixedHoliday_near year 6 19
  have independence := observedFixedHoliday_near year 7 4
  have labor := nthWeekday_range year 9 0 1
  have thanksgiving := nthWeekday_range year 11 3 4
  have christmas := observedFixedHoliday_near year 12 25
  unfold ordinal daysBeforeMonth at *
  unfold yearHolidays
  cases isLeap year <;> simp at * <;> omega

/-- From the first holiday of a year to the last. -/
theorem yearHolidays_range {year d : ℤ} (h : d ∈ yearHolidays year) :
    observedFixedHoliday year 1 1 ≤ d ∧ d ≤ observedFixedHoliday year 12 25 := by
  have hpairwise := yearHolidays_pairwise year
  have hinit : yearHolidays year =
      (yearHolidays year).dropLast ++ [observedFixedHoliday year 12 25] := rfl
  constructor
  · unfold yearHolidays at h hpairwise
    rcases List.mem_cons.mp h with rfl | hmem
    · exact le_rfl
    · have := List.rel_of_pairwise_cons hpairwise hmem
      omega
  · rw [hinit] at h hpairwise
    rcases List.mem_append.mp h with hmem | hmem
    · have := (List.pairwise_append.mp hpairwise).2.2 d hmem _ (List.mem_singleton_self _)
      omega
    · rw [List.mem_singleton.mp hmem]

/-- The holidays of an earlier year are a week before those of a later one. -/
theorem yearHolidays_lt {year later d e : ℤ} (hyear : year < later) (hd : d ∈ yearHolidays year)
    (he : e ∈ yearHolidays later) : d + 7 ≤ e := by
  have hlast := (yearHolidays_range hd).2
  have hfirst := (yearHolidays_range he).1
  have hweek := observed_newYear year
  by_cases hnext : later = year + 1
  · rw [hnext] at hfirst
    omega
  · have hnear := observedFixedHoliday_near (year + 1) 1 1
    have hnear' := observedFixedHoliday_near later 1 1
    have hmono := daysBeforeYear_mono (show year + 1 + 1 ≤ later by omega)
    have hsucc := daysBeforeYear_succ (year + 1)
    unfold ordinal daysBeforeMonth at hnear hnear'
    simp at hnear hnear'
    split_ifs at hsucc <;> omega

/-- **Two holidays are a week apart**, whatever their years. -/
theorem holidays_apart {year other d e : ℤ} (hd : d ∈ holidaysOf year) (he : e ∈ holidaysOf other) (hlt : d < e) :
    d + 7 ≤ e := by
  have hd := mem_yearHolidays hd
  have he := mem_yearHolidays he
  rcases lt_trichotomy year other with hyear | rfl | hyear
  · exact yearHolidays_lt hyear hd he
  · have : Std.Symm fun d e : ℤ => d + 7 ≤ e ∨ e + 7 ≤ d := ⟨fun _ _ h => h.symm⟩
    have hapart : (yearHolidays year).Pairwise fun d e => d + 7 ≤ e ∨ e + 7 ≤ d :=
      (yearHolidays_pairwise year).imp .inl
    have := hapart.forall hd he hlt.ne
    omega
  · have := yearHolidays_lt hyear he hd
    omega

/-! ## Sessions of an interval -/

/-- The days of an interval, its end not included. -/
def dayInterval (a b : ℤ) : Finset ℤ := (Int.range a b).toFinset

theorem mem_dayInterval {a b d : ℤ} : d ∈ dayInterval a b ↔ a ≤ d ∧ d < b := by
  rw [dayInterval, List.mem_toFinset, Int.mem_range_iff]

theorem nodup_range (a b : ℤ) : (Int.range a b).Nodup := by
  unfold Int.range
  exact List.nodup_range.map fun i j h => by simpa using h

theorem card_dayInterval (a b : ℤ) : (dayInterval a b).card = (b - a).toNat := by
  rw [dayInterval, List.toFinset_card_of_nodup (nodup_range a b), Int.range, List.length_map, List.length_range]

/-- The property of a day that at least `k` of any `n` days in a row have is one of `k * m` of `n * m`. -/
theorem card_filter_windows {p : ℤ → Prop} [DecidablePred p] {k n : ℕ}
    (hwindow : ∀ a : ℤ, k ≤ ((dayInterval a (a + n)).filter p).card) (a : ℤ) (m : ℕ) :
    k * m ≤ ((dayInterval a (a + n * m)).filter p).card := by
  -- by induction on the windows; the last one comes after the others
  induction m with
  | zero => simp
  | succ m ih =>
      have hend : a + n * (m + 1 : ℕ) = a + n * m + n := by
        push_cast
        ring
      have hpositive : (0 : ℤ) ≤ n * m := by positivity
      have hsplit : dayInterval a (a + n * (m + 1 : ℕ)) =
          dayInterval a (a + n * m) ∪ dayInterval (a + n * m) (a + n * m + n) := by
        ext d
        rw [hend, Finset.mem_union, mem_dayInterval, mem_dayInterval, mem_dayInterval]
        omega
      have hdisjoint : Disjoint (dayInterval a (a + n * m)) (dayInterval (a + n * m) (a + n * m + n)) := by
        rw [Finset.disjoint_left]
        intro d hd hd'
        rw [mem_dayInterval] at hd hd'
        omega
      rw [hsplit, Finset.filter_union, Finset.card_union_of_disjoint (Finset.disjoint_filter_filter hdisjoint)]
      have := hwindow (a + n * m)
      rw [Nat.mul_succ]
      omega

namespace UsEquitiesTradingCalendar

/-- Those that have a session. -/
def openDays (a b : ℤ) : Finset ℤ := (dayInterval a b).filter fun d => (sessionOf d).isSome

/-- What closes a day: the weekend, or a holiday of some year. -/
theorem closed_of_sessionOf {d : ℤ} (h : ¬ (sessionOf d).isSome) :
    weekday d = 5 ∨ weekday d = 6 ∨ ∃ year, d ∈ holidaysOf year := by
  unfold sessionOf sessionIn at h
  by_cases hopen : weekday d < 5 ∧ d ∉ holidays (yearOf d) (yearOf d)
  · rw [if_pos hopen] at h
    exact absurd rfl h
  · rw [not_and_or, not_not, mem_holidays_iff ⟨le_rfl, le_rfl⟩] at hopen
    rcases hopen with hweekend | hholiday | hholiday
    · unfold weekday at hweekend ⊢
      omega
    · exact .inr (.inr ⟨_, hholiday⟩)
    · exact .inr (.inr ⟨_, hholiday⟩)

/-- Seven days have one Saturday, one Sunday and at most one holiday: **at least four sessions**. -/
theorem card_openDays_week (a : ℤ) : 4 ≤ (openDays a (a + 7)).card := by
  have hholiday : ∃ holiday : ℤ, ∀ d year : ℤ, d ∈ dayInterval a (a + 7) → d ∈ holidaysOf year → d = holiday := by
    by_cases hnone : ∃ holiday year, holiday ∈ dayInterval a (a + 7) ∧ holiday ∈ holidaysOf year
    · obtain ⟨holiday, year, hmem, hholiday⟩ := hnone
      refine ⟨holiday, fun d other hd hother => ?_⟩
      rw [mem_dayInterval] at hmem hd
      rcases lt_trichotomy d holiday with hlt | heq | hgt
      · have := holidays_apart hother hholiday hlt
        omega
      · exact heq
      · have := holidays_apart hholiday hother hgt
        omega
    · exact ⟨a, fun d year hd hholiday => absurd ⟨d, year, hd, hholiday⟩ hnone⟩
  obtain ⟨holiday, hholiday⟩ := hholiday
  have hclosed : dayInterval a (a + 7) \ openDays a (a + 7) ⊆
      ({a + (5 - weekday a) % 7, a + (6 - weekday a) % 7, holiday} : Finset ℤ) := by
    intro d hd
    rw [openDays, Finset.mem_sdiff, Finset.mem_filter] at hd
    obtain ⟨hmem, hnone⟩ := hd
    simp only [Finset.mem_insert, Finset.mem_singleton]
    rcases closed_of_sessionOf fun h => hnone ⟨hmem, h⟩ with h | h | ⟨year, h⟩
    · left
      rw [mem_dayInterval] at hmem
      unfold weekday at h ⊢
      omega
    · right
      left
      rw [mem_dayInterval] at hmem
      unfold weekday at h ⊢
      omega
    · exact .inr (.inr (hholiday d year hmem h))
  have hcount := Finset.card_sdiff_add_card_eq_card (show openDays a (a + 7) ⊆ dayInterval a (a + 7) from
    Finset.filter_subset _ _)
  have hthree := (Finset.card_le_card hclosed).trans Finset.card_le_three
  rw [card_dayInterval, add_sub_cancel_left] at hcount
  have hseven : (7 : ℤ).toNat = 7 := rfl
  omega

/-- Four sessions of each full week of an interval. -/
theorem card_openDays (a : ℤ) (n : ℕ) : 4 * (n / 7) ≤ (openDays a (a + n)).card := by
  have hweeks := card_filter_windows (n := 7) card_openDays_week a (n / 7)
  refine hweeks.trans (Finset.card_le_card ?_)
  apply Finset.filter_subset_filter
  intro d hd
  rw [mem_dayInterval] at hd ⊢
  omega

/-- The sessions of a range are as many as its open days. -/
theorem length_sessions (a b : ℤ) : ((Int.range a b).filterMap sessionOf).length = (openDays a b).card := by
  have hdays : openDays a b = ((Int.range a b).filter fun d => (sessionOf d).isSome).toFinset := by
    ext d
    simp [openDays, mem_dayInterval, Int.mem_range_iff]
  rw [hdays, List.toFinset_card_of_nodup ((nodup_range a b).filter _), List.length_filterMap_eq_countP,
    List.countP_eq_length_filter]

end UsEquitiesTradingCalendar

end TradingAI
