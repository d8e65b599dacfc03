import TradingAI.Api.PaperStatus
import TradingAI.Correctness.SchedulerIsolation
import TradingAI.MarketData.HolidaySpacing

/-!
# `Correctness.NextEvaluation` — the evaluation a status page announces

The page announces a slot by a search of its own through the next sessions, which never asks the due-slot
functions of the scheduler about a time in the future. Still the slot is the next one to fall due: it is due at
a moment within the next four days, and until then nothing falls due that is not due already
(`announced_evaluation_is_next`).

## Contents
- `Announces`.
- `CandidatesFit`, `announce_spec`: the search, for any due-slot function and the candidates that fit it.
- `fits_daily`, `fits_smokeTest`, `fits_orb`, `fits_hourly`.
- `announced_evaluation_is_next`.
-/

namespace TradingAI

open UsEquitiesTradingCalendar Civil

/-! ## What is announced -/

/-- **The slot is the next to fall due**: at some moment from `now` on it is due, and before that moment nothing is
    due but what is due at `now`. -/
def Announces (due : DateTime → Except Raised (Option DateTime)) (now slot : DateTime) : Prop :=
  ∃ c : DateTime, now ≤ c ∧ c.date ≤ now.date + 4 ∧ due c = .ok (some slot) ∧
    ∀ t, now ≤ t → t < c → due t = .ok none ∨ due t = due now

/-- A slot that is due is announced. -/
theorem Announces.of_due {due : DateTime → Except Raised (Option DateTime)} {now slot : DateTime}
    (h : due now = .ok (some slot)) : Announces due now slot := by
  refine ⟨now, le_rfl, Int.le_add_of_nonneg_right (by decide), h, ?_⟩
  intro t hle hlt
  exact absurd (hle.trans_lt hlt) (lt_irrefl _)

/-! ## The search -/

/-- **Candidates that fit** a due-slot function: the first of a session is due when it says, on the date of the
    session, and nothing is due on that date before. -/
structure CandidatesFit (due : DateTime → Except Raised (Option DateTime)) (candidates : Date → TradingSession → List Candidate) :
    Prop where
  first  : ∀ {d : Date} {session : TradingSession}, sessionsBetween d d = .ok [session] →
    ∃ c rest, candidates d session = c :: rest ∧ DateTime.date c.dueAt = d ∧ due c.dueAt = .ok (some c.slot) ∧
      ∀ t : DateTime, t.date = d → t < c.dueAt → due t = .ok none
  closed : ∀ t : DateTime, sessionsBetween t.date t.date = .ok [] → due t = .ok none

/-- Once the first candidate of today has passed, the search finds nothing more today, and what is due stays as it
    is. -/
def SettledToday (due : DateTime → Except Raised (Option DateTime)) (candidates : Date → TradingSession → List Candidate)
    (now : DateTime) : Prop :=
  ∀ session c rest, sessionsBetween now.date now.date = .ok [session] → candidates now.date session = c :: rest →
    c.dueAt < now →
    (candidates now.date session).find? (fun c => now ≤ c.dueAt) = none ∧
      ∀ t, now ≤ t → DateTime.date t = now.date → due t = .ok none ∨ due t = due now

/-- Four days in a row have a session. -/
theorem exists_session (a : ℤ) : ∃ d, a ≤ d ∧ d < a + 4 ∧ (UsEquitiesTradingCalendar.sessionOf d).isSome := by
  have hsplit : openDays a (a + 7) ⊆ openDays a (a + 4) ∪ dayInterval (a + 4) (a + 7) := by
    intro d hd
    rw [openDays, Finset.mem_filter, mem_dayInterval] at hd
    rw [Finset.mem_union, openDays, Finset.mem_filter, mem_dayInterval, mem_dayInterval]
    by_cases hearly : d < a + 4
    · exact .inl ⟨⟨hd.1.1, hearly⟩, hd.2⟩
    · exact .inr ⟨not_lt.mp hearly, hd.1.2⟩
  have hcount := (card_openDays_week a).trans ((Finset.card_le_card hsplit).trans (Finset.card_union_le _ _))
  rw [card_dayInterval] at hcount
  have hthree : (a + 7 - (a + 4)).toNat = 3 := by omega
  have hpos : 0 < (openDays a (a + 4)).card := by omega
  obtain ⟨d, hd⟩ := Finset.card_pos.mp hpos
  rw [openDays, Finset.mem_filter, mem_dayInterval] at hd
  exact ⟨d, hd.1.1, hd.1.2, hd.2⟩

variable {due : DateTime → Except Raised (Option DateTime)} {candidates : Date → TradingSession → List Candidate}
  {now : DateTime}

/-- **The search** finds the next slot, if one of the days it looks at, after today, has a session. -/
theorem announce_spec (hfits : CandidatesFit due candidates) (hsettled : SettledToday due candidates now)
    (hyear : 2 ≤ yearOf now.date) (rounds : ℕ) (d : ℤ) (hd : now.date ≤ d) (hnear : d ≤ now.date + 4)
    (hopen : ∃ x : ℤ, now.date < x ∧ d ≤ x ∧ x < d + rounds ∧ x ≤ now.date + 4 ∧ yearOf x ≤ 9998 ∧
      (UsEquitiesTradingCalendar.sessionOf x).isSome)
    (hbefore : ∀ t : DateTime, now ≤ t → t.date < d → due t = .ok none ∨ due t = due now) :
    ∃ slot, announce now candidates rounds d = .ok (some slot) ∧ Announces due now slot := by
  -- by induction on the rounds; what was due before the day of the round is the invariant
  induction rounds generalizing d with
  | zero =>
      obtain ⟨x, -, hle, hlt, -⟩ := hopen
      omega
  | succ rounds ih =>
      obtain ⟨x, hafter, hle, hlt, hfar, hknown, hsession⟩ := hopen
      have hself := sessionsBetween_self (d := d) (hyear.trans (yearOf_mono hd)) ((yearOf_mono hle).trans hknown)
      -- going on to the next day, if nothing new falls due on this one
      have hgo : (∀ t : DateTime, now ≤ t → t.date = d → due t = .ok none ∨ due t = due now) → d < x →
          ∃ slot, announce now candidates rounds (d + 1) = .ok (some slot) ∧ Announces due now slot := by
        intro htoday hdx
        refine ih (d + 1) (Int.le_add_one hd) (by omega) ⟨x, hafter, by omega, ?_, hfar, hknown, hsession⟩ ?_
        · push_cast at hlt
          omega
        · intro t hnow ht
          rcases (Int.lt_add_one_iff.mp ht).lt_or_eq with hlt | heq
          · exact hbefore t hnow hlt
          · exact htoday t hnow heq
      unfold announce
      cases hday : UsEquitiesTradingCalendar.sessionOf d with
      | none =>
          rw [hday] at hself
          rw [hself]
          refine hgo (fun t _ ht => .inl (hfits.closed t ?_)) ?_
          · rw [ht]
            exact hself
          · refine lt_of_le_of_ne hle ?_
            rintro rfl
            rw [hday] at hsession
            cases hsession
      | some session =>
          rw [hday] at hself
          obtain ⟨c, rest, hcandidates, hdate, hdue, hearly⟩ := hfits.first hself
          rw [hself]
          dsimp only [Option.toList]
          by_cases hnow : now ≤ c.dueAt
          · -- the first candidate of the day is the one
            rw [hcandidates, List.find?_cons_of_pos (by simpa using hnow)]
            refine ⟨c.slot, rfl, c.dueAt, hnow, hdate ▸ hnear, hdue, ?_⟩
            intro t hle' hlt'
            have htd : DateTime.date t ≤ d := by
              by_contra hlater
              rw [not_le, ← hdate] at hlater
              exact absurd (lt_of_date_lt hlater) (not_lt.mpr hlt'.le)
            rcases htd.lt_or_eq with hlt | heq
            · exact hbefore t hle' hlt
            · exact .inl (hearly t heq hlt')
          · -- it has passed, so this is today
            rw [not_le] at hnow
            have htoday : d = now.date := by
              refine le_antisymm ?_ hd
              by_contra hlater
              rw [not_le, ← hdate] at hlater
              exact absurd (lt_of_date_lt hlater) (not_lt.mpr hnow.le)
            subst htoday
            obtain ⟨hfind, hstays⟩ := hsettled session c rest hself hcandidates hnow
            rw [hfind]
            exact hgo hstays hafter

/-- The whole search, from today. -/
theorem announce_today (hfits : CandidatesFit due candidates) (hsettled : SettledToday due candidates now)
    (hlow : 2 ≤ yearOf now.date) (hhigh : yearOf (now.date + 4) ≤ 9998) :
    ∃ slot, announce now candidates 15 now.date = .ok (some slot) ∧ Announces due now slot := by
  obtain ⟨x, hafter, hnear, hsession⟩ := exists_session (now.date + 1)
  refine announce_spec hfits hsettled hlow 15 now.date le_rfl (Int.le_add_of_nonneg_right (by decide)) ?_ ?_
  · exact ⟨x, Int.add_one_le_iff.mp hafter, by omega, by push_cast; omega, by omega, (yearOf_mono (by omega)).trans hhigh, hsession⟩
  · intro t hle hlt
    exact absurd (lt_of_date_lt hlt) (not_lt.mpr hle)

/-! ## A time of day -/

section

variable {zone : Zone} {d : Date} {session : TradingSession} {evaluationTime : EvaluationTime}

theorem EvaluationTime.time_lt (t : EvaluationTime) : t.time < microsecondsPerDay := by
  have hhour := t.hour_lt
  have hminute := t.minute_lt
  show (t.hour * 60 + t.minute) * 60000000 < 86400000000
  omega

theorem fits_daily (zone : Zone) (evaluationTime : EvaluationTime) :
    CandidatesFit (fun t => paperDailyDueSlot zone t evaluationTime) (dailyCandidates zone evaluationTime) where
  first {d session} hsession := by
    obtain ⟨hdate, htime⟩ := date_time_midnight_add (ofCalendar hsession).nonneg evaluationTime.time_lt
    refine ⟨_, [], rfl, hdate, ?_, ?_⟩
    · refine paperDailyDueSlot_eq_some.mpr ⟨⟨session, ?_⟩, htime.ge, ?_⟩
      · rw [hdate, hsession]
      · rw [hdate]
    · intro t ht hearly
      show paperDailyDueSlot zone t evaluationTime = .ok none
      rw [paperDailyDueSlot, dueSlotOn_session hsession ht, ht, if_pos hearly]
  closed t h := dueSlotOn_no_session h rfl

/-- What is due daily stays due for the rest of the day. -/
theorem settled_daily (zone : Zone) (evaluationTime : EvaluationTime) (now : DateTime) :
    SettledToday (fun t => paperDailyDueSlot zone t evaluationTime) (dailyCandidates zone evaluationTime) now := by
  intro session c rest hsession hcandidates hpassed
  cases hcandidates
  refine ⟨List.find?_eq_none.mpr ?_, ?_⟩
  · intro c hc
    rw [List.mem_singleton.mp hc]
    simpa using hpassed
  · intro t hle ht
    right
    show paperDailyDueSlot zone t evaluationTime = paperDailyDueSlot zone now evaluationTime
    rw [paperDailyDueSlot, paperDailyDueSlot, dueSlotOn_session hsession ht, dueSlotOn_session hsession rfl, ht,
      if_neg (not_lt.mpr (hpassed.le.trans hle)), if_neg (not_lt.mpr hpassed.le)]

theorem fits_smokeTest (zone : Zone) : CandidatesFit (paperSmokeTestDueSlot zone) (smokeTestCandidates zone) where
  first {d session} hsession := by
    have h := ofCalendar hsession
    have hday : session.openTime < microsecondsPerDay := by rw [h.opens]; decide
    obtain ⟨hdate, -⟩ := date_time_midnight_add h.nonneg hday
    refine ⟨_, [], rfl, hdate, ?_, ?_⟩
    · -- the open is a full minute, and before the close
      have hminute : (DateTime.midnight d + session.openTime) % timeOfDay 0 1 = 0 := by
        rw [h.opens]
        show (d.toNat * 86400000000 + 34200000000) % 60000000 = 0
        omega
      have hclose : session.openTime < session.closeTime := by
        rw [h.opens]
        rcases h.closes with hclose | hclose
        · rw [hclose]
          decide
        · rw [hclose]
          decide
      dsimp only
      rw [paperSmokeTestDueSlot, dueSlotOn_session hsession hdate, hdate, hminute, if_neg]
      · rfl
      · rw [not_or, not_lt, not_le]
        exact ⟨le_rfl, Nat.add_lt_add_left hclose _⟩
    · intro t ht hearly
      rw [paperSmokeTestDueSlot, dueSlotOn_session hsession ht, ht, if_pos (.inl hearly)]
  closed t h := dueSlotOn_no_session h rfl

/-- After the close nothing is due any more today. -/
theorem settled_smokeTest {now : DateTime} (hnone : paperSmokeTestDueSlot zone now = .ok none) :
    SettledToday (paperSmokeTestDueSlot zone) (smokeTestCandidates zone) now := by
  intro session c rest hsession hcandidates hpassed
  cases hcandidates
  have hclosed : DateTime.midnight now.date + session.closeTime ≤ now := by
    rw [paperSmokeTestDueSlot, dueSlotOn_session hsession rfl] at hnone
    by_contra hopen
    rw [if_neg] at hnone
    · cases hnone
    · rw [not_or]
      exact ⟨not_lt.mpr hpassed.le, hopen⟩
  refine ⟨List.find?_eq_none.mpr ?_, ?_⟩
  · intro c hc
    rw [List.mem_singleton.mp hc]
    simpa using hpassed
  · intro t hle ht
    left
    rw [paperSmokeTestDueSlot, dueSlotOn_session hsession ht, ht, if_pos (.inr (hclosed.trans hle))]

/-! ## The grid of a session -/

/-- The first of the starts is the first to complete. -/
theorem LatestCompleted.first {start : DateTime} {rest : List DateTime} {length : ℕ} {slot : DateTime → Option DateTime}
    (h : LatestCompleted (start :: rest) length slot) (hascending : (start :: rest).Pairwise (· < ·)) :
    slot (start + length) = some start ∧ ∀ t, t < start + length → slot t = none := by
  have hlater : ∀ t ∈ start :: rest, start ≤ t := by
    intro t ht
    rcases List.mem_cons.mp ht with rfl | hrest
    · exact le_rfl
    · exact (List.rel_of_pairwise_cons hascending hrest).le
  constructor
  · rw [h.latest]
    refine ⟨List.mem_cons_self, le_rfl, ?_⟩
    intro t _ hdone
    exact Nat.le_of_add_le_add_right hdone
  · intro t hlt
    rw [h.before]
    intro u hu
    exact hlt.trans_le (Nat.add_le_add_right (hlater u hu) _)

theorem barGrid_succ (base count : ℕ) : ∃ rest, barGrid base (count + 1) = base :: rest := by
  refine ⟨(List.range count).map fun i => base + (i + 1) * barInterval, ?_⟩
  rw [barGrid, List.range_succ_eq_map, List.map_cons, List.map_map, Nat.zero_mul, Nat.add_zero]
  rfl

namespace OfCalendar

variable (h : OfCalendar d session)
include h

/-- The first bar of a session starts at its open. -/
theorem expected_cons : ∃ rest, session.expectedBarStartTimes = session.base :: rest := by
  rw [h.expected]
  rcases h.barCount_eq with hcount | hcount
  · rw [hcount]
    exact barGrid_succ _ _
  · rw [hcount]
    exact barGrid_succ _ _

/-- And so does its first hour. -/
theorem windows_cons : ∃ rest, hourlyWindowsForSession session = hourWindow session.base 0 :: rest := by
  rw [h.windows_eq]
  rcases h.barCount_eq with hcount | hcount
  · rw [hcount]
    exact ⟨_, rfl⟩
  · rw [hcount]
    exact ⟨_, rfl⟩

/-- A moment after the open, on the date of the session. -/
theorem date_base_add {length : ℕ} (hlength : regularOpenTime + length < microsecondsPerDay) :
    DateTime.date (session.base + length) = d ∧ DateTime.midnight d + DateTime.time session.base = session.base := by
  have hopen : regularOpenTime < microsecondsPerDay := by decide
  rw [TradingSession.base, h.date, Nat.add_assoc]
  refine ⟨(date_time_midnight_add h.nonneg hlength).1, ?_⟩
  rw [(date_time_midnight_add h.nonneg hopen).2]

end OfCalendar

theorem fits_orb : CandidatesFit paperOrbDueSlot orbCandidates where
  first {d session} hsession := by
    have h := ofCalendar hsession
    have hgrid : session.expectedBarStartTimes.Pairwise (· < ·) := h.expected ▸ barGrid_ascending _ _
    have hlatest := latestCompleted_getLast hgrid barInterval
    obtain ⟨rest, hrest⟩ := h.expected_cons
    obtain ⟨hdate, hbase⟩ := h.date_base_add (by decide : regularOpenTime + barInterval < microsecondsPerDay)
    have hslot : ∀ t : DateTime, t.date = d → paperOrbDueSlot t =
        .ok (session.expectedBarStartTimes.filter fun start => start + barInterval ≤ t).getLast? := fun t ht => by
      rw [paperOrbDueSlot, dueSlotOn_session hsession ht, h.latestCompletedBarStart_eq]
    rw [hrest] at hgrid hlatest
    obtain ⟨hfirst, hearly⟩ := hlatest.first hgrid
    obtain ⟨others, hcandidates⟩ : ∃ others,
        orbCandidates d session = ⟨session.base + barInterval, session.base⟩ :: others := by
      rw [orbCandidates, hrest, List.map_cons, hbase]
      exact ⟨_, rfl⟩
    refine ⟨_, others, hcandidates, hdate, ?_, ?_⟩
    · rw [hslot _ hdate, hrest]
      exact congrArg Except.ok hfirst
    · intro t ht hlt
      rw [hslot t ht, hrest]
      exact congrArg Except.ok (hearly t hlt)
  closed t h := dueSlotOn_no_session h rfl

theorem fits_hourly (zone : Zone) : CandidatesFit (paperHourlyDueSlot zone) (hourlyCandidates zone) where
  first {d session} hsession := by
    have h := ofCalendar hsession
    have hgrid := fullHours_ascending session
    have hlatest := latestCompleted_getLast hgrid hour
    obtain ⟨rest, hrest⟩ := h.windows_cons
    obtain ⟨hdate, hbase⟩ := h.date_base_add (by decide : regularOpenTime + hour < microsecondsPerDay)
    have hslot : ∀ t : DateTime, t.date = d → paperHourlyDueSlot zone t =
        .ok (((fullHours session).filter fun start => start + hour ≤ t).getLast?.map zone.toUtc) := fun t ht => by
      rw [paperHourlyDueSlot, dueSlotOn_session hsession ht, ← h.latestCompletedHourlyWindow_start, Option.map_map]
      rfl
    have hstart : (hourWindow session.base 0).start = session.base := by
      rw [hourWindow_eq, Nat.zero_mul, Nat.add_zero]
    have hhours : fullHours session = session.base :: rest.map HourlyWindow.start := by
      rw [← h.map_start_windows, hrest, List.map_cons, hstart]
    rw [hhours] at hgrid hlatest
    obtain ⟨hfirst, hearly⟩ := hlatest.first hgrid
    obtain ⟨others, hcandidates⟩ : ∃ others,
        hourlyCandidates zone d session = ⟨session.base + hour, zone.toUtc session.base⟩ :: others := by
      rw [hourlyCandidates, hrest, List.map_cons, hstart, hbase]
      exact ⟨_, rfl⟩
    refine ⟨_, others, hcandidates, hdate, ?_, ?_⟩
    · rw [hslot _ hdate, hhours]
      exact congrArg (fun o => Except.ok (Option.map zone.toUtc o)) hfirst
    · intro t ht hlt
      rw [hslot t ht, hhours]
      exact congrArg (fun o => Except.ok (Option.map zone.toUtc o)) (hearly t hlt)
  closed t h := dueSlotOn_no_session h rfl

/-- If what is due stays due for the rest of the day, and nothing is due now, no candidate has passed. -/
theorem settled_of_stays (hfits : CandidatesFit due candidates)
    (hstays : ∀ (u t : DateTime) (s : DateTime), u ≤ t → t.date = u.date → due u = .ok (some s) → due t ≠ .ok none)
    (hnone : due now = .ok none) : SettledToday due candidates now := by
  intro session c rest hsession hcandidates hpassed
  obtain ⟨c', rest', hcandidates', hdate, hdue, -⟩ := hfits.first hsession
  obtain ⟨rfl, rfl⟩ := List.cons.inj (hcandidates.symm.trans hcandidates')
  exact absurd hnone (hstays c.dueAt now c.slot hpassed.le hdate.symm hdue)

theorem orb_stays (u t s : DateTime) (hle : u ≤ t) (hdate : t.date = u.date) (hu : paperOrbDueSlot u = .ok (some s)) :
    paperOrbDueSlot t ≠ .ok none := by
  obtain ⟨session, hsession, hslot⟩ := dueSlotOn_eq_some hu
  have h := ofCalendar hsession
  have hgrid : session.expectedBarStartTimes.Pairwise (· < ·) := h.expected ▸ barGrid_ascending _ _
  rw [h.latestCompletedBarStart_eq] at hslot
  obtain ⟨s', hs', -⟩ := (latestCompleted_getLast hgrid barInterval).mono u t s hle hslot
  rw [paperOrbDueSlot, dueSlotOn_session hsession hdate, h.latestCompletedBarStart_eq, hs']
  intro heq
  cases heq

theorem hourly_stays (u t s : DateTime) (hle : u ≤ t) (hdate : t.date = u.date)
    (hu : paperHourlyDueSlot zone u = .ok (some s)) : paperHourlyDueSlot zone t ≠ .ok none := by
  obtain ⟨session, hsession, hslot⟩ := dueSlotOn_eq_some hu
  have h := ofCalendar hsession
  obtain ⟨window, hwindow, -⟩ := Option.map_eq_some_iff.mp hslot
  have hstart := h.latestCompletedHourlyWindow_start u
  rw [hwindow] at hstart
  obtain ⟨s', hs', -⟩ := (latestCompleted_getLast (fullHours_ascending session) hour).mono u t _ hle hstart.symm
  rw [← h.latestCompletedHourlyWindow_start] at hs'
  obtain ⟨window', hwindow', -⟩ := Option.map_eq_some_iff.mp hs'
  rw [paperHourlyDueSlot, dueSlotOn_session hsession hdate, hwindow']
  intro heq
  cases heq

/-! ## The page -/

/-- What is due if it is, and what the search finds otherwise. -/
theorem dueOrAnnounced_spec {announced : Except Raised (Option DateTime)} (hok : ∃ s, due now = .ok s)
    (hannounced : due now = .ok none → ∃ slot, announced = .ok (some slot) ∧ Announces due now slot) :
    ∃ slot, dueOrAnnounced (due now) announced = .ok (some slot) ∧ Announces due now slot := by
  obtain ⟨s, hs⟩ := hok
  cases s with
  | none =>
      rw [hs]
      exact hannounced hs
  | some slot =>
      refine ⟨slot, ?_, Announces.of_due hs⟩
      rw [hs]
      rfl

/-- **The announced evaluation is the next one**, for every experiment and every clock. The page always announces
    one, and the due-slot function of the experiment returns it within four days, with nothing new due before. -/
theorem announced_evaluation_is_next (zone : Zone) (settings : PaperStatusSettings) (now : DateTime)
    (experiment : Experiment) (hlow : 2 ≤ yearOf now.date) (hhigh : yearOf (now.date + 4) ≤ 9998) :
    ∃ slot, nextEvaluationTimeOf zone settings now experiment = .ok (some slot) ∧
      Announces (fun t => currentDueSlotOf zone settings t experiment) now slot := by
  have htoday : yearOf now.date ≤ 9998 := (yearOf_mono (Int.le_add_of_nonneg_right (by decide))).trans hhigh
  -- the two functions make the same distinction, in different orders
  unfold nextEvaluationTimeOf nextEvaluationTime currentDueSlotOf
  by_cases horb : experiment.strategyType = .openingRangeBreakout
  · simp only [horb, if_true, false_and, decide_true, reduceCtorEq]
    refine dueOrAnnounced_spec (dueSlotOn_ok_iff.mpr ⟨hlow, htoday⟩) fun hnone => ?_
    exact announce_today fits_orb (settled_of_stays fits_orb orb_stays hnone) hlow hhigh
  · by_cases hsmoke : experiment.strategyType = .paperTradingSmokeTest ∧ settings.paperTradingTestModeEnabled
    · simp only [hsmoke, if_true, and_self, decide_true, decide_false, Bool.false_eq_true, reduceCtorEq]
      refine dueOrAnnounced_spec (dueSlotOn_ok_iff.mpr ⟨hlow, htoday⟩) fun hnone => ?_
      exact announce_today (fits_smokeTest zone) (settled_smokeTest hnone) hlow hhigh
    · by_cases hhourly : experiment.isHourlyAi
      · simp only [horb, hsmoke, hhourly, if_true, if_false, decide_false, Bool.false_eq_true]
        refine dueOrAnnounced_spec (dueSlotOn_ok_iff.mpr ⟨hlow, htoday⟩) fun hnone => ?_
        exact announce_today (fits_hourly zone) (settled_of_stays (fits_hourly zone) hourly_stays hnone) hlow hhigh
      · simp only [horb, hsmoke, hhourly, if_false, decide_false, Bool.false_eq_true]
        exact announce_today (fits_daily zone _) (settled_daily zone _ now) hlow hhigh

end

/-- Five to four on the Friday before Memorial Day 2024, a microsecond late. -/
def lateOnFriday : DateTime := DateTime.midnight (ordinal 2024 5 24) + timeOfDay 15 55 + 1

/-- The page of a daily experiment then announces the Tuesday after the weekend. -/
theorem lateOnFriday_announces_tuesday :
    (nextEvaluationTimeOf easternDaylightTime ⟨true, true, false, fiveToFour⟩ lateOnFriday
        (smallExperiment .buyAndHold .daily)).toOption =
      some (some (easternDaylightTime.toUtc (DateTime.midnight (ordinal 2024 5 28) + timeOfDay 15 55))) ∧
    ∃ slot, nextEvaluationTimeOf easternDaylightTime ⟨true, true, false, fiveToFour⟩ lateOnFriday
        (smallExperiment .buyAndHold .daily) = .ok (some slot) ∧
      Announces (fun t => currentDueSlotOf easternDaylightTime ⟨true, true, false, fiveToFour⟩ t
        (smallExperiment .buyAndHold .daily)) lateOnFriday slot :=
  ⟨by decide +kernel, announced_evaluation_is_next _ _ _ _ (by decide +kernel) (by decide +kernel)⟩

end TradingAI
