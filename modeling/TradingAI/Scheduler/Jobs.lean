import TradingAI.Execution.PaperStepRunner
import TradingAI.MarketData.IntradayProviders
import TradingAI.Scheduler.Eligibility
import Mathlib.Data.List.Perm.Basic

/-!
# `Scheduler.Jobs` — one tick of the paper scheduler

A tick asks what is due, lists the experiments of each slot, and calls `run_next_step` for one after the
other. The experiments of the opening range are asked about first: the provider must have their bar. An
experiment ends in one of three lists: its result, a skip, or an error.

## Contents
- `preflight`, `scheduleOrb`, `assemble`: what a tick will run, and the errors before it.
- `runScheduled`, `triggerDueSlots`, `triggerDuePaperTradingExperiments`.
- `runEntry_spec`, `runScheduled_spec`: a step of the loop over the entries, the loop.
- `preflight_spec`, `scheduleOrb_spec`, `assemble_spec`: one answer of the preflight, its loop, the whole list.
-/

namespace TradingAI

/-! ## What a tick runs -/

/-- An entry of `scheduled_experiments`. -/
structure ScheduledExperiment where
  experimentId : ℕ
  dueSlot      : Option DateTime
  skipCode     : Option String := none
  skipMessage  : Option String := none

structure ScheduledStepSkip where
  experimentId : ℕ
  errorCode    : String
  message      : String

/-- The type of the exception, as far as the handlers tell types apart, and its message. -/
structure ScheduledStepError where
  experimentId : ℕ
  errorType    : ErrorKind
  message      : String

/-- The entries of the experiments of a slot. -/
def scheduleAll (slot : Option DateTime) (experimentIds : List ℕ) : List ScheduledExperiment :=
  match slot with
  | none      => []
  | some slot => experimentIds.map fun experimentId => { experimentId, dueSlot := some slot }

/-- What an answer of `load_session_until` makes of an experiment: an entry, or an error before any step. An
    exception that is no `MarketDataProviderError` is not handled. -/
def preflight (experimentId : ℕ) (slot : DateTime) :
    Except Raised (List IntradayBar) → Except Raised (ScheduledExperiment ⊕ ScheduledStepError)
  | .ok _    => .ok (.inl { experimentId, dueSlot := some slot })
  | .error e =>
      if e.kind = .marketDataUnavailable then
        .ok (.inl ⟨experimentId, none, some "PAPER_ORB_COMPLETED_BAR_UNAVAILABLE",
          some "Expected completed ORB bar is not available yet."⟩)
      else if e.kind = .marketDataProvider then .ok (.inr ⟨experimentId, e.kind, e.message⟩)
      else .error e

/-- The loop over the experiments of the opening range. The answer of the provider may be another one for each
    experiment. -/
def scheduleOrb (table : ExperimentTable) (provider : ℕ → LoadSessionUntil) (slot : DateTime) :
    List ℕ → List ScheduledExperiment → List ScheduledStepError →
      Except Raised (List ScheduledExperiment × List ScheduledStepError)
  | [], scheduled, preErrors => .ok (scheduled, preErrors)
  | experimentId :: experimentIds, scheduled, preErrors =>
      match table.getById experimentId with
      | none => scheduleOrb table provider slot experimentIds scheduled preErrors
      | some row =>
          match preflight experimentId slot (provider experimentId slot.date slot row.experiment.assetSymbol) with
          | .error e            => .error e
          | .ok (.inl entry)    => scheduleOrb table provider slot experimentIds (scheduled ++ [entry]) preErrors
          | .ok (.inr preError) => scheduleOrb table provider slot experimentIds scheduled (preErrors ++ [preError])

/-- `scheduled_experiments` and `pre_errors`: daily, hourly, smoke test, opening range. -/
def assemble (table : ExperimentTable) (provider : ℕ → LoadSessionUntil) (slots : DueSlots) :
    Except Raised (List ScheduledExperiment × List ScheduledStepError) :=
  let scheduled :=
    scheduleAll slots.daily table.listPaperDailySchedulerEligibleExperimentIds ++
      scheduleAll slots.hourly table.listPaperHourlyAiSchedulerEligibleExperimentIds ++
      scheduleAll slots.smokeTest table.listPaperSmokeTestSchedulerEligibleExperimentIds
  match slots.orb with
  | none      => .ok (scheduled, [])
  | some slot => scheduleOrb table provider slot table.listPaperOrbSchedulerEligibleExperimentIds scheduled []

/-- `reported_due_slot`: the first slot with an eligible experiment. -/
def reportedDueSlot (table : ExperimentTable) (slots : DueSlots) : Option DateTime :=
  let slotOf (slot : Option DateTime) (experimentIds : List ℕ) := if experimentIds = [] then none else slot
  slotOf slots.daily table.listPaperDailySchedulerEligibleExperimentIds
    <|> slotOf slots.hourly table.listPaperHourlyAiSchedulerEligibleExperimentIds
    <|> slotOf slots.smokeTest table.listPaperSmokeTestSchedulerEligibleExperimentIds
    <|> slotOf slots.orb table.listPaperOrbSchedulerEligibleExperimentIds

/-! ## The run -/

/-- The result of a tick. A `StepRunResult` of the source has the id of its experiment, which stands beside it
    here. -/
structure PaperSchedulerTickResult where
  results : List (ℕ × StepRunResult)
  skipped : List ScheduledStepSkip
  errors  : List ScheduledStepError
  dueSlot : Option DateTime

/-- A tick while it runs: the calls of `run_next_step`, and the three lists so far. -/
structure Tick where
  calls   : List (ℕ × DateTime)      := []
  results : List (ℕ × StepRunResult) := []
  skipped : List ScheduledStepSkip   := []
  errors  : List ScheduledStepError  := []

/-- `run_next_step` of an experiment for a slot. -/
abbrev RunNextStep := ℕ → DateTime → Except Raised StepRunResult

/-- One entry. A raised exception outside `Exception` is not caught. -/
def runEntry (runNextStep : RunNextStep) (entry : ScheduledExperiment) (tick : Tick) : Tick × Except Raised Unit :=
  match entry.dueSlot with
  | none =>
      ({ tick with skipped := tick.skipped ++ [⟨entry.experimentId, entry.skipCode.getD "PAPER_STEP_UNAVAILABLE",
        entry.skipMessage.getD "Expected paper trading slot is not available."⟩] }, .ok ())
  | some slot =>
      let tick := { tick with calls := tick.calls ++ [(entry.experimentId, slot)] }
      match runNextStep entry.experimentId slot with
      | .ok result => ({ tick with results := tick.results ++ [(entry.experimentId, result)] }, .ok ())
      | .error e   =>
          if e.kind = .experimentStepAlreadyRunning then
            ({ tick with skipped := tick.skipped ++ [⟨entry.experimentId, "EXPERIMENT_STEP_ALREADY_RUNNING", e.message⟩] },
              .ok ())
          else if e.kind = .base then (tick, .error e)
          else ({ tick with errors := tick.errors ++ [⟨entry.experimentId, e.kind, e.message⟩] }, .ok ())

/-- The loop over the entries. -/
def runScheduled (runNextStep : RunNextStep) : List ScheduledExperiment → Tick → Tick × Except Raised Unit
  | [], tick => (tick, .ok ())
  | entry :: entries, tick =>
      match runEntry runNextStep entry tick with
      | (tick, .ok ())   => runScheduled runNextStep entries tick
      | (tick, .error e) => (tick, .error e)

/-- The tick, once it is known what is due: the calls of `run_next_step` it makes, and what it returns or
    raises. -/
def triggerDueSlots (table : ExperimentTable) (provider : ℕ → LoadSessionUntil) (runNextStep : RunNextStep)
    (slots : DueSlots) : List (ℕ × DateTime) × Except Raised PaperSchedulerTickResult :=
  if slots.daily = none ∧ slots.smokeTest = none ∧ slots.hourly = none ∧ slots.orb = none then
    ([], .ok ⟨[], [], [], none⟩)
  else
    match assemble table provider slots with
    | .error e                   => ([], .error e)
    | .ok (scheduled, preErrors) =>
        let (tick, outcome) := runScheduled runNextStep scheduled { errors := preErrors }
        (tick.calls, outcome.map fun _ => ⟨tick.results, tick.skipped, tick.errors, reportedDueSlot table slots⟩)

/-- `trigger_due_paper_trading_experiments`. -/
def triggerDuePaperTradingExperiments (zone : Zone) (table : ExperimentTable) (provider : ℕ → LoadSessionUntil)
    (runNextStep : RunNextStep) (dailyNow localNow : DateTime) (dailyEvaluationTime : EvaluationTime)
    (paperTradingTestModeEnabled : Bool) : List (ℕ × DateTime) × Except Raised PaperSchedulerTickResult :=
  match dueSlots zone dailyNow localNow dailyEvaluationTime paperTradingTestModeEnabled with
  | .error e  => ([], .error e)
  | .ok slots => triggerDueSlots table provider runNextStep slots

variable {table : ExperimentTable} {slots : DueSlots}

/-! ## The loop over the entries -/

/-- The experiments of the three lists. -/
def Tick.reported (tick : Tick) : List ℕ :=
  tick.results.map Prod.fst ++ tick.skipped.map ScheduledStepSkip.experimentId ++
    tick.errors.map ScheduledStepError.experimentId

/-- The call an entry asks for. -/
def ScheduledExperiment.call (entry : ScheduledExperiment) : List (ℕ × DateTime) :=
  entry.dueSlot.toList.map fun slot => (entry.experimentId, slot)

/-- The step of an entry raises something outside `Exception`. -/
def ScheduledExperiment.Escapes (runNextStep : RunNextStep) (entry : ScheduledExperiment) : Prop :=
  ∃ slot e, entry.dueSlot = some slot ∧ runNextStep entry.experimentId slot = .error e ∧ e.kind = .base

/-- What has been done for these entries. -/
structure Handled (entries : List ScheduledExperiment) (before after : Tick) : Prop where
  calls    : after.calls = before.calls ++ entries.flatMap ScheduledExperiment.call
  reported : after.reported.Perm (entries.map ScheduledExperiment.experimentId ++ before.reported)

variable {runNextStep : RunNextStep} {entry : ScheduledExperiment} {entries : List ScheduledExperiment} {tick : Tick}

/-- One more id somewhere in the lists is one more id reported. -/
theorem perm_insert (before after : List ℕ) (id : ℕ) : (before ++ [id] ++ after).Perm (id :: (before ++ after)) := by
  rw [List.append_assoc, List.singleton_append]
  exact List.perm_middle

theorem Tick.reported_addResult (tick : Tick) (id : ℕ) (result : StepRunResult) :
    { tick with results := tick.results ++ [(id, result)] : Tick }.reported.Perm (id :: tick.reported) := by
  unfold reported
  rw [List.map_append, List.append_assoc, List.append_assoc (tick.results.map Prod.fst) (tick.skipped.map _)]
  exact perm_insert _ _ _

theorem Tick.reported_addSkip (tick : Tick) (skip : ScheduledStepSkip) :
    { tick with skipped := tick.skipped ++ [skip] : Tick }.reported.Perm (skip.experimentId :: tick.reported) := by
  unfold reported
  rw [List.map_append, ← List.append_assoc]
  exact perm_insert _ _ _

theorem Tick.reported_addError (tick : Tick) (error : ScheduledStepError) :
    { tick with errors := tick.errors ++ [error] : Tick }.reported.Perm (error.experimentId :: tick.reported) := by
  unfold reported
  rw [List.map_append, ← List.append_assoc]
  exact List.perm_append_singleton _ _

/-- **One entry** is called for if it has a slot, and reported once; the loop goes on unless it escapes. -/
theorem runEntry_spec (h : ¬ entry.Escapes runNextStep) (tick : Tick) :
    ∃ after, runEntry runNextStep entry tick = (after, .ok ()) ∧ Handled [entry] tick after := by
  unfold runEntry
  cases hslot : entry.dueSlot with
  | none =>
      -- a skip that the preflight has decided
      refine ⟨_, rfl, ?_, ?_⟩
      · rw [List.flatMap_singleton, ScheduledExperiment.call, hslot]
        exact (List.append_nil _).symm
      · exact tick.reported_addSkip _
  | some slot =>
      have hcall : tick.calls ++ [(entry.experimentId, slot)] =
          tick.calls ++ [entry].flatMap ScheduledExperiment.call := by
        rw [List.flatMap_singleton, ScheduledExperiment.call, hslot]
        rfl
      dsimp only
      cases hrun : runNextStep entry.experimentId slot with
      | ok result => exact ⟨_, rfl, hcall, Tick.reported_addResult _ _ _⟩
      | error e =>
          dsimp only
          by_cases hskip : e.kind = .experimentStepAlreadyRunning
          · rw [if_pos hskip]
            exact ⟨_, rfl, hcall, Tick.reported_addSkip _ _⟩
          · -- `except Exception`
            have hbase : e.kind ≠ .base := fun hbase => h ⟨slot, e, hslot, hrun, hbase⟩
            rw [if_neg hskip, if_neg hbase]
            exact ⟨_, rfl, hcall, Tick.reported_addError _ _⟩

/-- An entry that escapes ends the loop. -/
theorem runEntry_escapes (h : entry.Escapes runNextStep) (tick : Tick) :
    ∃ after e, runEntry runNextStep entry tick = (after, .error e) := by
  obtain ⟨slot, e, hslot, hrun, hbase⟩ := h
  unfold runEntry
  rw [hslot]
  dsimp only
  rw [hrun]
  dsimp only
  have hskip : e.kind ≠ .experimentStepAlreadyRunning := by
    rw [hbase]
    decide
  rw [if_neg hskip, if_pos hbase]
  exact ⟨_, e, rfl⟩

/-- **All entries**, if none escapes. -/
theorem runScheduled_spec (h : ∀ entry ∈ entries, ¬ entry.Escapes runNextStep) (tick : Tick) :
    ∃ after, runScheduled runNextStep entries tick = (after, .ok ()) ∧ Handled entries tick after := by
  -- by induction on the entries, from any tick
  induction entries generalizing tick with
  | nil => exact ⟨tick, rfl, (List.append_nil _).symm, List.Perm.refl _⟩
  | cons entry entries ih =>
      obtain ⟨middle, hentry, hfirst⟩ := runEntry_spec (h entry List.mem_cons_self) tick
      obtain ⟨after, hentries, hrest⟩ := ih (fun other hother => h other (List.mem_cons_of_mem _ hother)) middle
      unfold runScheduled
      rw [hentry]
      refine ⟨after, hentries, ?_, ?_⟩
      · rw [hrest.calls, hfirst.calls, List.flatMap_singleton, List.flatMap_cons, List.append_assoc]
      · have hmiddle : (entries.map ScheduledExperiment.experimentId ++ middle.reported).Perm
            (entries.map ScheduledExperiment.experimentId ++ entry.experimentId :: tick.reported) :=
          hfirst.reported.append_left _
        exact hrest.reported.trans (hmiddle.trans List.perm_middle)

/-- The loop ends well only if no entry escapes. -/
theorem not_escapes_of_runScheduled {after : Tick} (h : runScheduled runNextStep entries tick = (after, .ok ())) :
    ∀ entry ∈ entries, ¬ entry.Escapes runNextStep := by
  -- by induction on the entries; the first one that escapes ends the loop with an error
  induction entries generalizing tick with
  | nil => exact fun _ hmem => absurd hmem List.not_mem_nil
  | cons entry entries ih =>
      unfold runScheduled at h
      by_cases hescapes : entry.Escapes runNextStep
      · obtain ⟨middle, e, hentry⟩ := runEntry_escapes hescapes tick
        rw [hentry] at h
        cases h
      · obtain ⟨middle, hentry, -⟩ := runEntry_spec hescapes tick
        rw [hentry] at h
        intro other hother
        rcases List.mem_cons.mp hother with rfl | hrest
        · exact hescapes
        · exact ih h other hrest

/-! ## The preflight -/

/-- The provider's answer about an experiment of the opening range. -/
def orbAnswer (table : ExperimentTable) (provider : ℕ → LoadSessionUntil) (slot : DateTime) (experimentId : ℕ) :
    Except Raised (List IntradayBar) :=
  provider experimentId slot.date slot (table.symbolOf experimentId)

/-- An exception that is no `MarketDataProviderError`. -/
def Unhandled (answer : Except Raised (List IntradayBar)) : Prop :=
  ∃ e, answer = .error e ∧ e.kind ≠ .marketDataUnavailable ∧ e.kind ≠ .marketDataProvider

/-- What the preflight makes of some experiments: each has an entry or an error, and is called if the answer was
    good. -/
structure Preflighted (experimentIds : List ℕ) (slot : DateTime) (answer : ℕ → Except Raised (List IntradayBar))
    (entries : List ScheduledExperiment) (errors : List ScheduledStepError) : Prop where
  ids   : (entries.map ScheduledExperiment.experimentId ++ errors.map ScheduledStepError.experimentId).Perm experimentIds
  calls : entries.flatMap ScheduledExperiment.call =
    (experimentIds.filter fun id => (answer id).isOk).map fun id => (id, slot)

variable {provider : ℕ → LoadSessionUntil} {slot : DateTime} {answer : Except Raised (List IntradayBar)}
  {experimentIds : List ℕ}

/-- One answer that is handled. -/
theorem preflight_spec (id : ℕ) (slot : DateTime) (h : ¬ Unhandled answer) :
    (∃ entry, preflight id slot answer = .ok (.inl entry) ∧ entry.experimentId = id ∧
        entry.call = if answer.isOk then [(id, slot)] else []) ∨
      ∃ preError, preflight id slot answer = .ok (.inr preError) ∧ preError.experimentId = id ∧ answer.isOk = false := by
  unfold preflight
  cases answer with
  | ok bars => exact .inl ⟨_, rfl, rfl, rfl⟩
  | error e =>
      dsimp only
      by_cases hunavailable : e.kind = .marketDataUnavailable
      · rw [if_pos hunavailable]
        exact .inl ⟨_, rfl, rfl, rfl⟩
      · by_cases hprovider : e.kind = .marketDataProvider
        · rw [if_neg hunavailable, if_pos hprovider]
          exact .inr ⟨_, rfl, rfl, rfl⟩
        · exact absurd ⟨e, rfl, hunavailable, hprovider⟩ h

theorem preflight_unhandled (id : ℕ) (slot : DateTime) (h : Unhandled answer) :
    ∃ e, preflight id slot answer = .error e := by
  obtain ⟨e, rfl, hunavailable, hprovider⟩ := h
  unfold preflight
  dsimp only
  rw [if_neg hunavailable, if_neg hprovider]
  exact ⟨e, rfl⟩

/-! One round of the loop, by what the preflight makes of the answer. -/

section Round

variable {experimentId : ℕ} {row : ExperimentRow} {scheduled : List ScheduledExperiment}
  {preErrors : List ScheduledStepError}

theorem orbAnswer_eq (provider : ℕ → LoadSessionUntil) (slot : DateTime) (hrow : table.getById experimentId = some row) :
    provider experimentId slot.date slot row.experiment.assetSymbol = orbAnswer table provider slot experimentId := by
  unfold orbAnswer ExperimentTable.symbolOf
  rw [hrow]
  rfl

theorem scheduleOrb_entry (hrow : table.getById experimentId = some row)
    (h : preflight experimentId slot (orbAnswer table provider slot experimentId) = .ok (.inl entry)) :
    scheduleOrb table provider slot (experimentId :: experimentIds) scheduled preErrors =
      scheduleOrb table provider slot experimentIds (scheduled ++ [entry]) preErrors := by
  rw [scheduleOrb, hrow]
  dsimp only
  rw [orbAnswer_eq provider slot hrow, h]

theorem scheduleOrb_preError {preError : ScheduledStepError} (hrow : table.getById experimentId = some row)
    (h : preflight experimentId slot (orbAnswer table provider slot experimentId) = .ok (.inr preError)) :
    scheduleOrb table provider slot (experimentId :: experimentIds) scheduled preErrors =
      scheduleOrb table provider slot experimentIds scheduled (preErrors ++ [preError]) := by
  rw [scheduleOrb, hrow]
  dsimp only
  rw [orbAnswer_eq provider slot hrow, h]

theorem scheduleOrb_raises {e : Raised} (hrow : table.getById experimentId = some row)
    (h : preflight experimentId slot (orbAnswer table provider slot experimentId) = .error e) :
    scheduleOrb table provider slot (experimentId :: experimentIds) scheduled preErrors = .error e := by
  rw [scheduleOrb, hrow]
  dsimp only
  rw [orbAnswer_eq provider slot hrow, h]

end Round

/-- **The loop of the preflight**, if every answer is handled. -/
theorem scheduleOrb_spec (hknown : ∀ id ∈ experimentIds, (table.getById id).isSome)
    (h : ∀ id ∈ experimentIds, ¬ Unhandled (orbAnswer table provider slot id))
    (scheduled : List ScheduledExperiment) (preErrors : List ScheduledStepError) :
    ∃ entries errors, scheduleOrb table provider slot experimentIds scheduled preErrors =
        .ok (scheduled ++ entries, preErrors ++ errors) ∧
      Preflighted experimentIds slot (orbAnswer table provider slot) entries errors := by
  -- by induction on the experiments, for any lists collected before
  induction experimentIds generalizing scheduled preErrors with
  | nil =>
      refine ⟨[], [], ?_, List.Perm.refl _, rfl⟩
      rw [List.append_nil, List.append_nil]
      rfl
  | cons id ids ih =>
      obtain ⟨row, hrow⟩ := Option.isSome_iff_exists.mp (hknown id List.mem_cons_self)
      have hknown' : ∀ id ∈ ids, (table.getById id).isSome := fun id hid => hknown id (List.mem_cons_of_mem _ hid)
      have h' : ∀ id ∈ ids, ¬ Unhandled (orbAnswer table provider slot id) :=
        fun id hid => h id (List.mem_cons_of_mem _ hid)
      obtain ⟨entry, hentry, rfl, hcall⟩ | ⟨preError, herror, rfl, hbad⟩ :=
        preflight_spec id slot (h id List.mem_cons_self)
      · -- an entry, called if the answer was good
        obtain ⟨entries, errors, hloop, hpreflighted⟩ := ih hknown' h' (scheduled ++ [entry]) preErrors
        rw [scheduleOrb_entry hrow hentry]
        refine ⟨entry :: entries, errors, ?_, ?_, ?_⟩
        · rw [← List.singleton_append (l := entries), ← List.append_assoc]
          exact hloop
        · exact hpreflighted.ids.cons _
        · rw [List.flatMap_cons, hpreflighted.calls, hcall, List.filter_cons]
          split <;> rfl
      · -- an error before any step, and no call
        obtain ⟨entries, errors, hloop, hpreflighted⟩ := ih hknown' h' scheduled (preErrors ++ [preError])
        rw [scheduleOrb_preError hrow herror]
        refine ⟨entries, preError :: errors, ?_, ?_, ?_⟩
        · rw [← List.singleton_append (l := errors), ← List.append_assoc]
          exact hloop
        · rw [List.map_cons]
          exact List.perm_middle.trans (hpreflighted.ids.cons _)
        · rw [hpreflighted.calls, List.filter_cons, if_neg]
          rw [hbad]
          exact Bool.false_ne_true

/-- An answer that is not handled ends it. -/
theorem scheduleOrb_unhandled (hknown : ∀ id ∈ experimentIds, (table.getById id).isSome)
    (h : ∃ id ∈ experimentIds, Unhandled (orbAnswer table provider slot id))
    (scheduled : List ScheduledExperiment) (preErrors : List ScheduledStepError) :
    ∃ e, scheduleOrb table provider slot experimentIds scheduled preErrors = .error e := by
  induction experimentIds generalizing scheduled preErrors with
  | nil =>
      obtain ⟨id, hid, -⟩ := h
      exact absurd hid List.not_mem_nil
  | cons id ids ih =>
      obtain ⟨row, hrow⟩ := Option.isSome_iff_exists.mp (hknown id List.mem_cons_self)
      have hknown' : ∀ id ∈ ids, (table.getById id).isSome := fun id hid => hknown id (List.mem_cons_of_mem _ hid)
      by_cases hhere : Unhandled (orbAnswer table provider slot id)
      · obtain ⟨e, he⟩ := preflight_unhandled id slot hhere
        exact ⟨e, scheduleOrb_raises hrow he⟩
      · -- then it is a later one
        have hlater : ∃ id ∈ ids, Unhandled (orbAnswer table provider slot id) := by
          obtain ⟨other, hother, hbad⟩ := h
          rcases List.mem_cons.mp hother with rfl | hrest
          · exact absurd hbad hhere
          · exact ⟨other, hrest, hbad⟩
        obtain ⟨entry, hentry, -⟩ | ⟨preError, herror, -⟩ := preflight_spec id slot hhere
        · rw [scheduleOrb_entry hrow hentry]
          exact ih hknown' hlater _ _
        · rw [scheduleOrb_preError hrow herror]
          exact ih hknown' hlater _ _

/-! ## The list of a tick -/

/-- The experiment is one of the opening range, and its preflight fails. -/
def DueSlots.preflightFails (slots : DueSlots) (table : ExperimentTable) (provider : ℕ → LoadSessionUntil) (id : ℕ) :
    Bool :=
  match slots.orb with
  | none      => false
  | some slot =>
      id ∈ table.listPaperOrbSchedulerEligibleExperimentIds ∧ ¬ (orbAnswer table provider slot id).isOk

/-- Every answer of the preflight is handled: bars, or a `MarketDataProviderError`. -/
def DueSlots.PreflightHandled (slots : DueSlots) (table : ExperimentTable) (provider : ℕ → LoadSessionUntil) : Prop :=
  ∀ slot, slots.orb = some slot → ∀ id ∈ table.listPaperOrbSchedulerEligibleExperimentIds,
    ¬ Unhandled (orbAnswer table provider slot id)

theorem scheduleAll_ids (slot : Option DateTime) (experimentIds : List ℕ) :
    (scheduleAll slot experimentIds).map ScheduledExperiment.experimentId = (dueAt slot experimentIds).map Prod.fst := by
  cases slot with
  | none => rfl
  | some slot =>
      unfold scheduleAll dueAt
      rw [List.map_map, List.map_map]
      rfl

theorem scheduleAll_calls (slot : Option DateTime) (experimentIds : List ℕ) :
    (scheduleAll slot experimentIds).flatMap ScheduledExperiment.call = dueAt slot experimentIds := by
  cases slot with
  | none => rfl
  | some slot =>
      unfold scheduleAll dueAt
      rw [List.flatMap_map]
      exact List.map_eq_flatMap.symm

/-- Only experiments of the opening range can fail the preflight. -/
theorem preflightFails_of_mem_dueAt {p : ExperimentRow → Bool} {f : TradingFrequency}
    (provider : ℕ → LoadSessionUntil) (hp : ∀ row, p row → row.experiment.tradingFrequency = f)
    (hf : f ≠ .intraday5Min) {slot : Option DateTime} {due : ℕ × DateTime}
    (hdue : due ∈ dueAt slot (table.listPaperIds p)) : slots.preflightFails table provider due.1 = false := by
  have hid := mem_of_mem_dueAt (List.mem_map_of_mem hdue)
  have hfrequency : ∀ row, p row → ExperimentTable.isPaperOrb row → False := fun row hprow horb =>
    hf ((hp row hprow).symm.trans (ExperimentTable.isPaperOrb_frequency horb))
  have hnot : due.1 ∉ table.listPaperOrbSchedulerEligibleExperimentIds :=
    fun horb => ExperimentTable.disjoint_listPaperIds hfrequency hid horb
  unfold DueSlots.preflightFails
  cases slots.orb with
  | none => rfl
  | some slot => exact decide_eq_false fun hfails => hnot hfails.1

/-- The entries of the three slots without a preflight. -/
abbrev DueSlots.plainEntries (slots : DueSlots) (table : ExperimentTable) : List ScheduledExperiment :=
  scheduleAll slots.daily table.listPaperDailySchedulerEligibleExperimentIds ++
    scheduleAll slots.hourly table.listPaperHourlyAiSchedulerEligibleExperimentIds ++
    scheduleAll slots.smokeTest table.listPaperSmokeTestSchedulerEligibleExperimentIds

/-- Their experiments. -/
abbrev DueSlots.plainDue (slots : DueSlots) (table : ExperimentTable) : List (ℕ × DateTime) :=
  dueAt slots.daily table.listPaperDailySchedulerEligibleExperimentIds ++
    dueAt slots.hourly table.listPaperHourlyAiSchedulerEligibleExperimentIds ++
    dueAt slots.smokeTest table.listPaperSmokeTestSchedulerEligibleExperimentIds

theorem plainEntries_ids (slots : DueSlots) (table : ExperimentTable) :
    (slots.plainEntries table).map ScheduledExperiment.experimentId = (slots.plainDue table).map Prod.fst := by
  rw [List.map_append, List.map_append, List.map_append, List.map_append, scheduleAll_ids, scheduleAll_ids,
    scheduleAll_ids]

theorem plainEntries_calls (slots : DueSlots) (table : ExperimentTable) :
    (slots.plainEntries table).flatMap ScheduledExperiment.call = slots.plainDue table := by
  rw [List.flatMap_append, List.flatMap_append, scheduleAll_calls, scheduleAll_calls, scheduleAll_calls]

theorem filter_plainDue (slots : DueSlots) (table : ExperimentTable) (provider : ℕ → LoadSessionUntil) :
    (slots.plainDue table).filter (fun due => ¬ slots.preflightFails table provider due.1) = slots.plainDue table := by
  have hdaily := @ExperimentTable.isPaperDaily_frequency
  have hhourly := @ExperimentTable.isPaperHourlyAi_frequency
  have hsmoke := @ExperimentTable.isPaperSmokeTest_frequency
  rw [List.filter_eq_self]
  intro due hdue
  apply decide_eq_true
  rw [Bool.not_eq_true]
  rcases List.mem_append.mp hdue with hdue | hdue
  · rcases List.mem_append.mp hdue with hdue | hdue
    · exact preflightFails_of_mem_dueAt provider @hdaily (by decide) hdue
    · exact preflightFails_of_mem_dueAt provider @hhourly (by decide) hdue
  · exact preflightFails_of_mem_dueAt provider @hsmoke (by decide) hdue

theorem orb_known (table : ExperimentTable) :
    ∀ id ∈ table.listPaperOrbSchedulerEligibleExperimentIds, (table.getById id).isSome := by
  intro id hid
  obtain ⟨row, hrow, rfl, -⟩ := ExperimentTable.mem_listPaperIds.mp hid
  rw [ExperimentTable.getById_of_mem hrow]
  rfl

/-- **The list of a tick**: every eligible experiment has an entry or an error, and every one whose preflight
    does not fail is called for its slot. -/
theorem assemble_spec (h : slots.PreflightHandled table provider) :
    ∃ scheduled preErrors, assemble table provider slots = .ok (scheduled, preErrors) ∧
      (scheduled.map ScheduledExperiment.experimentId ++ preErrors.map ScheduledStepError.experimentId).Perm
        ((slots.eligible table).map Prod.fst) ∧
      scheduled.flatMap ScheduledExperiment.call =
        (slots.eligible table).filter fun due => ¬ slots.preflightFails table provider due.1 := by
  have heligible : slots.eligible table =
      slots.plainDue table ++ dueAt slots.orb table.listPaperOrbSchedulerEligibleExperimentIds := rfl
  rw [heligible, List.filter_append, filter_plainDue, List.map_append, ← plainEntries_ids, ← plainEntries_calls]
  cases horb : slots.orb with
  | none =>
      refine ⟨slots.plainEntries table, [], ?_, List.Perm.refl _, (List.append_nil _).symm⟩
      unfold assemble
      rw [horb]
  | some slot =>
      obtain ⟨entries, errors, hloop, hpreflighted⟩ :=
        scheduleOrb_spec (orb_known table) (h slot horb) (slots.plainEntries table) []
      refine ⟨slots.plainEntries table ++ entries, errors, ?_, ?_, ?_⟩
      · unfold assemble
        rw [horb]
        exact hloop
      · rw [List.map_append, List.append_assoc, dueAt_fst, if_neg (Option.some_ne_none slot)]
        exact hpreflighted.ids.append_left _
      · rw [List.flatMap_append, hpreflighted.calls]
        apply congrArg (_ ++ ·)
        -- the calls are those whose answer was good
        show _ = ((table.listPaperOrbSchedulerEligibleExperimentIds).map fun id => (id, slot)).filter _
        rw [List.filter_map]
        apply congrArg (List.map _)
        apply List.filter_congr
        intro id hid
        show _ = decide (¬ slots.preflightFails table provider id)
        unfold DueSlots.preflightFails
        rw [horb]
        simp only [hid, true_and, decide_not, Bool.decide_eq_true, Bool.not_not]

/-- An answer that is not handled ends the tick before any step. -/
theorem assemble_unhandled (h : ¬ slots.PreflightHandled table provider) :
    ∃ e, assemble table provider slots = .error e := by
  unfold DueSlots.PreflightHandled at h
  simp only [not_forall, not_not] at h
  obtain ⟨slot, horb, id, hid, hbad⟩ := h
  obtain ⟨e, he⟩ := scheduleOrb_unhandled (orb_known table) ⟨id, hid, hbad⟩ (slots.plainEntries table) []
  refine ⟨e, ?_⟩
  unfold assemble
  rw [horb]
  exact he

end TradingAI
