import TradingAI.Correctness.CompleteRanges
import TradingAI.Correctness.DailySlots
import TradingAI.Scheduler.Jobs

/-!
# `Correctness.SchedulerIsolation` — one experiment's failure and the others

A tick reports every eligible experiment once and calls its step once, whatever the steps raise, as long as
the tick itself returns. What can stop it before any step ran is an exception of the preflight that is no
`MarketDataProviderError`, and a year the calendar does not know (`starves_nobody_iff`).
-/

namespace TradingAI

open Civil UsEquitiesTradingCalendar

variable {table : ExperimentTable} {slots : DueSlots} {provider : ℕ → LoadSessionUntil} {runNextStep : RunNextStep}

/-! ## The tick -/

/-- The calendar knows the year of an instant: it can ask for the holidays of the years before and after. -/
def KnownYear (now : DateTime) : Prop := 2 ≤ yearOf now.date ∧ yearOf now.date ≤ 9998

theorem dueSlotOn_ok_iff {localNow : DateTime} {slotOf : TradingSession → Option DateTime} :
    (∃ due, dueSlotOn localNow slotOf = .ok due) ↔ KnownYear localNow := by
  constructor
  · rintro ⟨due, hdue⟩
    unfold dueSlotOn at hdue
    cases hsessions : sessionsBetween localNow.date localNow.date with
    | error e =>
        rw [hsessions] at hdue
        cases hdue
    | ok sessions => exact years_of_sessionsBetween hsessions
  · rintro ⟨hlow, hhigh⟩
    have hself := sessionsBetween_self hlow hhigh
    cases hday : UsEquitiesTradingCalendar.sessionOf localNow.date with
    | none =>
        rw [hday] at hself
        exact ⟨none, dueSlotOn_no_session hself rfl⟩
    | some session =>
        rw [hday] at hself
        exact ⟨slotOf session, dueSlotOn_session hself rfl⟩

/-- The slots are found exactly in the years the calendar knows. -/
theorem dueSlots_ok_iff (zone : Zone) (dailyNow localNow : DateTime) (evaluationTime : EvaluationTime) (testMode : Bool) :
    (∃ slots, dueSlots zone dailyNow localNow evaluationTime testMode = .ok slots) ↔
      KnownYear dailyNow ∧ KnownYear localNow := by
  constructor
  · rintro ⟨slots, h⟩
    obtain ⟨daily, hdaily, h⟩ := Outcome.ok_of_bind h
    obtain ⟨smokeTest, -, h⟩ := Outcome.ok_of_bind h
    obtain ⟨hourly, hhourly, -⟩ := Outcome.ok_of_bind h
    exact ⟨dueSlotOn_ok_iff.mp ⟨daily, hdaily⟩, dueSlotOn_ok_iff.mp ⟨hourly, hhourly⟩⟩
  · rintro ⟨hdailyNow, hlocalNow⟩
    obtain ⟨daily, hdaily⟩ : ∃ due, paperDailyDueSlot zone dailyNow evaluationTime = .ok due :=
      dueSlotOn_ok_iff.mpr hdailyNow
    obtain ⟨hourly, hhourly⟩ : ∃ due, paperHourlyDueSlot zone localNow = .ok due := dueSlotOn_ok_iff.mpr hlocalNow
    obtain ⟨orb, horb⟩ : ∃ due, paperOrbDueSlot localNow = .ok due := dueSlotOn_ok_iff.mpr hlocalNow
    obtain ⟨smokeTest, hsmokeTest⟩ : ∃ due, paperSmokeTestDueSlot zone localNow = .ok due :=
      dueSlotOn_ok_iff.mpr hlocalNow
    unfold dueSlots
    rw [hdaily, hhourly, horb, hsmokeTest]
    cases testMode with
    | true  => exact ⟨_, rfl⟩
    | false => exact ⟨_, rfl⟩

/-- The experiments a tick reports. -/
def PaperSchedulerTickResult.reported (result : PaperSchedulerTickResult) : List ℕ :=
  result.results.map Prod.fst ++ result.skipped.map ScheduledStepSkip.experimentId ++
    result.errors.map ScheduledStepError.experimentId

/-- **Nobody starves**: the tick returns, calls the step of every eligible experiment once unless its preflight
    fails, and reports every eligible experiment once. -/
structure StarvesNobody (slots : Except Raised DueSlots) (table : ExperimentTable) (provider : ℕ → LoadSessionUntil)
    (run : List (ℕ × DateTime) × Except Raised PaperSchedulerTickResult) : Prop where
  returns  : ∃ result, run.2 = .ok result
  called   : ∀ s, slots = .ok s → ∀ due ∈ s.eligible table, s.preflightFails table provider due.1 = false →
    (run.1.map Prod.fst).count due.1 = 1
  reported : ∀ s, slots = .ok s → ∀ result, run.2 = .ok result → ∀ due ∈ s.eligible table,
    result.reported.count due.1 = 1

/-- No step that is called raises something outside `Exception`. -/
def DueSlots.StepsCaught (slots : DueSlots) (table : ExperimentTable) (provider : ℕ → LoadSessionUntil)
    (runNextStep : RunNextStep) : Prop :=
  ∀ due ∈ slots.eligible table, slots.preflightFails table provider due.1 = false →
    ∀ e, runNextStep due.1 due.2 = .error e → e.kind ≠ .base

/-- The entries escape where the calls do. -/
theorem stepsCaught_iff {scheduled : List ScheduledExperiment} (hcalls : scheduled.flatMap ScheduledExperiment.call =
      (slots.eligible table).filter fun due => ¬ slots.preflightFails table provider due.1) :
    slots.StepsCaught table provider runNextStep ↔ ∀ entry ∈ scheduled, ¬ entry.Escapes runNextStep := by
  have hmem : ∀ due, (due ∈ slots.eligible table ∧ slots.preflightFails table provider due.1 = false) ↔
      ∃ entry ∈ scheduled, due ∈ entry.call := by
    intro due
    rw [← List.mem_flatMap, hcalls, List.mem_filter, decide_eq_true_eq, Bool.not_eq_true]
  constructor
  · rintro h entry hentry ⟨slot, e, hslot, hrun, hbase⟩
    have hcall : (entry.experimentId, slot) ∈ entry.call := by
      unfold ScheduledExperiment.call
      rw [hslot]
      exact List.mem_singleton_self _
    obtain ⟨hdue, hpreflight⟩ := (hmem _).mpr ⟨entry, hentry, hcall⟩
    exact h _ hdue hpreflight e hrun hbase
  · intro h due hdue hpreflight e hrun hbase
    obtain ⟨entry, hentry, hcall⟩ := (hmem due).mp ⟨hdue, hpreflight⟩
    obtain ⟨slot, hslot, rfl⟩ := List.mem_map.mp hcall
    exact h entry hentry ⟨slot, e, Option.mem_toList.mp hslot, hrun, hbase⟩

/-- Without a slot no experiment is eligible. -/
theorem eligible_of_nothing_due (h : slots.daily = none ∧ slots.smokeTest = none ∧ slots.hourly = none ∧ slots.orb = none) :
    slots.eligible table = [] := by
  obtain ⟨hdaily, hsmoke, hhourly, horb⟩ := h
  unfold DueSlots.eligible
  rw [hdaily, hsmoke, hhourly, horb]
  rfl

/-- A tick that can prepare its list and whose steps are caught. -/
theorem triggerDueSlots_starvesNobody (hpreflight : slots.PreflightHandled table provider)
    (hsteps : slots.StepsCaught table provider runNextStep) :
    StarvesNobody (.ok slots) table provider (triggerDueSlots table provider runNextStep slots) := by
  unfold triggerDueSlots
  by_cases hnone : slots.daily = none ∧ slots.smokeTest = none ∧ slots.hourly = none ∧ slots.orb = none
  · rw [if_pos hnone]
    refine ⟨⟨_, rfl⟩, ?_, ?_⟩
    · rintro s ⟨⟩ due hdue
      rw [eligible_of_nothing_due hnone] at hdue
      cases hdue
    · rintro s ⟨⟩ result - due hdue
      rw [eligible_of_nothing_due hnone] at hdue
      cases hdue
  · obtain ⟨scheduled, preErrors, hassemble, hids, hcalls⟩ := assemble_spec hpreflight
    obtain ⟨after, hrun, hhandled⟩ :=
      runScheduled_spec ((stepsCaught_iff hcalls).mp hsteps) { errors := preErrors }
    have hnodup := slots.nodup_eligible table
    rw [if_neg hnone, hassemble]
    dsimp only
    rw [hrun]
    -- both counts are of lists that hold the eligible experiments, no one twice
    refine ⟨⟨_, rfl⟩, ?_, ?_⟩
    · rintro s ⟨⟩ due hdue hgood
      have hafter : after.calls = (slots.eligible table).filter fun due => ¬ slots.preflightFails table provider due.1 :=
        hhandled.calls.trans hcalls
      show (after.calls.map Prod.fst).count due.1 = 1
      rw [hafter]
      apply List.count_eq_one_of_mem
      · exact hnodup.sublist (List.filter_sublist.map _)
      · apply List.mem_map_of_mem
        rw [List.mem_filter, decide_eq_true_eq, Bool.not_eq_true]
        exact ⟨hdue, hgood⟩
    · rintro s ⟨⟩ result hresult due hdue
      cases hresult
      have hreported : after.reported.Perm ((slots.eligible table).map Prod.fst) := hhandled.reported.trans hids
      show after.reported.count due.1 = 1
      rw [hreported.count_eq]
      exact List.count_eq_one_of_mem hnodup (List.mem_map_of_mem hdue)

/-- A tick that returns could prepare its list, and its steps were caught. -/
theorem of_triggerDueSlots_returns {result : PaperSchedulerTickResult}
    (h : (triggerDueSlots table provider runNextStep slots).2 = .ok result) :
    slots.PreflightHandled table provider ∧ slots.StepsCaught table provider runNextStep := by
  unfold triggerDueSlots at h
  by_cases hnone : slots.daily = none ∧ slots.smokeTest = none ∧ slots.hourly = none ∧ slots.orb = none
  · -- nothing is due, and there is no preflight and no step
    refine ⟨?_, ?_⟩
    · intro slot horb
      rw [hnone.2.2.2] at horb
      cases horb
    · intro due hdue
      rw [eligible_of_nothing_due hnone] at hdue
      cases hdue
  · rw [if_neg hnone] at h
    have hpreflight : slots.PreflightHandled table provider := by
      by_contra hbad
      obtain ⟨e, he⟩ := assemble_unhandled hbad
      rw [he] at h
      cases h
    obtain ⟨scheduled, preErrors, hassemble, -, hcalls⟩ := assemble_spec hpreflight
    refine ⟨hpreflight, (stepsCaught_iff hcalls).mpr ?_⟩
    rw [hassemble] at h
    dsimp only at h
    cases hrun : runScheduled runNextStep scheduled { errors := preErrors } with
    | mk after outcome =>
        rw [hrun] at h
        cases outcome with
        | error e => cases h
        | ok u => exact not_escapes_of_runScheduled hrun

/-- **Which ticks starve nobody.** A tick returns, runs every eligible experiment and reports it once if and only
    if the calendar knows the year, every preflight of the opening range ends with bars or with a
    `MarketDataProviderError`, and no step raises something outside `Exception`. -/
theorem starves_nobody_iff (zone : Zone) (table : ExperimentTable) (provider : ℕ → LoadSessionUntil)
    (runNextStep : RunNextStep) (dailyNow localNow : DateTime) (evaluationTime : EvaluationTime) (testMode : Bool) :
    StarvesNobody (dueSlots zone dailyNow localNow evaluationTime testMode) table provider
        (triggerDuePaperTradingExperiments zone table provider runNextStep dailyNow localNow evaluationTime testMode) ↔
      (KnownYear dailyNow ∧ KnownYear localNow) ∧
        ∀ slots, dueSlots zone dailyNow localNow evaluationTime testMode = .ok slots →
          slots.PreflightHandled table provider ∧ slots.StepsCaught table provider runNextStep := by
  have hyears := dueSlots_ok_iff zone dailyNow localNow evaluationTime testMode
  unfold triggerDuePaperTradingExperiments
  cases hslots : dueSlots zone dailyNow localNow evaluationTime testMode with
  | error e =>
      rw [hslots] at hyears
      apply iff_of_false
      · rintro ⟨⟨result, hresult⟩, -, -⟩
        cases hresult
      · rintro ⟨hknown, -⟩
        obtain ⟨slots, h⟩ := hyears.mpr hknown
        cases h
  | ok slots =>
      rw [hslots] at hyears
      constructor
      · rintro ⟨⟨result, hresult⟩, -, -⟩
        refine ⟨hyears.mp ⟨slots, rfl⟩, ?_⟩
        rintro s ⟨⟩
        exact of_triggerDueSlots_returns hresult
      · rintro ⟨-, h⟩
        obtain ⟨hpreflight, hsteps⟩ := h slots rfl
        exact triggerDueSlots_starvesNobody hpreflight hsteps

/-! ## A row that is too short -/

/-- A daily experiment, and one of the opening range. -/
def twoExperiments : ExperimentTable where
  rows :=
    [⟨smallExperiment .buyAndHold .daily, some ⟨none, none, none, none, none⟩⟩,
     ⟨{ smallExperiment .openingRangeBreakout .intraday5Min with id := 2 }, some ⟨none, none, none, none, none⟩⟩]
  uniqueIds := by decide

/-- The intraday file with one row, which ends after its `low`. -/
def shortFile : CsvFixture where
  fieldnames := SpyIntradayCsvLoader.requiredColumns
  rows       := [⟨some "2024-07-02T13:30:00+00:00".toList, some "100".toList, some "101".toList, some "99".toList, none, none⟩]

/-- The clock at 16:00 in New York on 2 July 2024. -/
def julySecondAtFour : DateTime := DateTime.midnight julySecond + timeOfDay 16 0

/-- The tick on these experiments, with the CSV provider and steps that all succeed. -/
def shortFileTick : List (ℕ × DateTime) × Except Raised PaperSchedulerTickResult :=
  triggerDuePaperTradingExperiments easternDaylightTime twoExperiments
    (fun _ => SpyIntradayCsvLoader.loadSessionUntil
      (SpyIntradayCsvLoader.readRows smallReader easternDaylightTime "spy_5min.csv" (some shortFile)))
    (fun _ _ => .ok ⟨1, .completed, ""⟩) julySecondAtFour julySecondAtFour fiveToFour false

/-- **A short row starves everybody**: the missing `close` raises a `TypeError` in the preflight, and the step of
    the daily experiment, which is due, is never called. -/
theorem short_row_starves_everybody :
    ((dueSlots easternDaylightTime julySecondAtFour julySecondAtFour fiveToFour false).toOption.map
        fun slots => (slots.eligible twoExperiments).map Prod.fst) = some [1, 2] ∧
      shortFileTick.1 = [] ∧ shortFileTick.2.toOption.isNone ∧
      ¬ StarvesNobody (dueSlots easternDaylightTime julySecondAtFour julySecondAtFour fiveToFour false)
        twoExperiments
        (fun _ => SpyIntradayCsvLoader.loadSessionUntil
          (SpyIntradayCsvLoader.readRows smallReader easternDaylightTime "spy_5min.csv" (some shortFile)))
        shortFileTick := by
  have hraises : shortFileTick.2.toOption.isNone := by decide +kernel
  refine ⟨by decide +kernel, by decide +kernel, hraises, ?_⟩
  rintro ⟨⟨result, hresult⟩, -, -⟩
  rw [hresult] at hraises
  cases hraises

end TradingAI
