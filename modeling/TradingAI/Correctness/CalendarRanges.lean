import TradingAI.MarketData.TradingCalendar

/-!
# `Correctness.CalendarRanges` — the calendar's ranges compose

The calendar recomputes its holidays and early closes for every range. They are those of the dates' own
years, so a range is the concatenation of its parts (`sessions_between_compose`).
-/

namespace TradingAI

open Civil UsEquitiesTradingCalendar

/-- A range of days in two parts. -/
theorem range_append {a b c : ℤ} (hab : a ≤ b) (hbc : b ≤ c) : Int.range a c = Int.range a b ++ Int.range b c := by
  unfold Int.range
  obtain ⟨n, rfl⟩ := Int.le.dest hab
  obtain ⟨m, rfl⟩ := Int.le.dest hbc
  rw [show a + n - a = n by ring, show a + n + m - (a + n) = m by ring, show a + n + m - a = ((n + m : ℕ) : ℤ) by
    push_cast; ring]
  simp only [Int.toNat_natCast]
  rw [List.range_add, List.map_append, List.map_map]
  congr 1
  apply List.map_congr_left
  intro i _
  show a + ((n + i : ℕ) : ℤ) = a + n + i
  push_cast
  ring

/-- Dates other than `d` have no session on `d`. -/
theorem filter_sessionDate_nil {l : List ℤ} {d : ℤ} (h : d ∉ l) :
    (l.filterMap sessionOf).filter (·.sessionDate = d) = [] := by
  rw [List.filter_eq_nil_iff]
  intro session hsession
  obtain ⟨e, he, hof⟩ := List.mem_filterMap.mp hsession
  rw [decide_eq_true_eq, (sessionOf_spec hof).1]
  rintro rfl
  exact h he

/-- Of the sessions of a range, those of one of its dates are what the date has. -/
theorem filter_sessionDate {a b d : ℤ} (h : a ≤ d ∧ d < b) :
    ((Int.range a b).filterMap sessionOf).filter (·.sessionDate = d) = (sessionOf d).toList := by
  have hself : Int.range d (d + 1) = [d] := by
    unfold Int.range
    rw [show d + 1 - d = 1 by ring]
    simp
  have hbefore : d ∉ Int.range a d := by
    rw [Int.mem_range_iff]
    omega
  have hafter : d ∉ Int.range (d + 1) b := by
    rw [Int.mem_range_iff]
    omega
  -- the range is what is before `d`, `d`, and what is after it
  rw [range_append h.1 h.2.le, range_append (show d ≤ d + 1 by omega) (show d + 1 ≤ b by omega), hself,
    List.filterMap_append, List.filterMap_append, List.filter_append, List.filter_append,
    filter_sessionDate_nil hbefore, filter_sessionDate_nil hafter, List.nil_append, List.append_nil]
  cases hsession : sessionOf d with
  | none => simp [hsession]
  | some session => simp [hsession, (sessionOf_spec hsession).1]

/-- **Ranges compose**: the sessions up to a date, and those after it, are the sessions of both ranges together;
    and the session of a date is the one it has when asked for alone. -/
theorem sessions_between_compose {a b c : Date} (hab : a ≤ b) (hbc : b < c) (hlow : 2 ≤ yearOf a)
    (hhigh : yearOf c ≤ 9998) :
    ∃ before after, sessionsBetween a b = .ok before ∧ sessionsBetween (b + 1) c = .ok after ∧
      sessionsBetween a c = .ok (before ++ after) ∧
      ∀ d, a ≤ d → d ≤ c →
        sessionsBetween d d = .ok ((before ++ after).filter (·.sessionDate = d)) := by
  have hyears : ∀ d e : ℤ, d ≤ e → yearOf d ≤ yearOf e := fun _ _ => yearOf_mono
  have hwhole := sessionsBetween_eq (hab.trans hbc.le) hlow hhigh
  have hsplit : (Int.range a (c + 1)).filterMap sessionOf =
      (Int.range a (b + 1)).filterMap sessionOf ++ (Int.range (b + 1) (c + 1)).filterMap sessionOf := by
    rw [range_append (Int.le_add_one hab) (Int.add_le_add_right hbc.le 1), List.filterMap_append]
  refine ⟨_, _, sessionsBetween_eq hab hlow ((hyears b c hbc.le).trans hhigh),
    sessionsBetween_eq (Int.add_one_le_iff.mpr hbc) (hlow.trans (hyears a _ (Int.le_add_one hab))) hhigh, ?_, ?_⟩
  · rw [hwhole, hsplit]
  · intro d had hdc
    rw [← hsplit, filter_sessionDate ⟨had, Int.lt_add_one_iff.mpr hdc⟩]
    exact sessionsBetween_self (hlow.trans (hyears a d had)) ((hyears d c hdc).trans hhigh)

/-- The last days of 2021, of which the 31st is the observed New Year of 2022, and the first of 2022. -/
theorem new_year_2022_compose :
    ∃ before after, sessionsBetween (ordinal 2021 12 27) (ordinal 2021 12 31) = .ok before ∧
      sessionsBetween (ordinal 2021 12 31 + 1) (ordinal 2022 1 7) = .ok after ∧
      sessionsBetween (ordinal 2021 12 27) (ordinal 2022 1 7) = .ok (before ++ after) ∧
      ∀ d, ordinal 2021 12 27 ≤ d → d ≤ ordinal 2022 1 7 →
        sessionsBetween d d = .ok ((before ++ after).filter (·.sessionDate = d)) :=
  sessions_between_compose (by decide) (by decide) (by decide) (by decide)

end TradingAI
