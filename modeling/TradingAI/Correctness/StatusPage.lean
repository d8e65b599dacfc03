import TradingAI.Correctness.SchedulerIsolation
import TradingAI.Correctness.SupportedConfigurations

/-!
# `Correctness.StatusPage` — the status page and the scheduler

The page says `READY` when a tick of the scheduler at the same clock would call `run_next_step` for the slot it
shows, and the call would create a step. There is one more case in which a tick does that: the page also waits
for the broker's sync of open orders, and the scheduler does not (`ready_iff_tick_steps`).

## Contents
- `mem_eligible_iff`: the eligible slot of a row is the slot of its page.
- `createsStep_iff`: what a call of the scheduler asks for before it creates a step.
- `due_reason_iff`: what the page asks for.
- `stepsOf`, `ready_iff_tick_steps`.
-/

namespace TradingAI

open Session Outcome

variable {zone : Zone} {settings : PaperStatusSettings} {now slot : DateTime} {table : ExperimentTable}
  {row : ExperimentRow} {slots : DueSlots} {vSettings : ValidatorSettings} {request : CreateExperimentRequest}

/-! ## The slot of a row -/

/-- The slots of a tick, each from its function. -/
theorem dueSlots_spec {testMode : Bool} {evaluationTime : EvaluationTime}
    (h : dueSlots zone now now evaluationTime testMode = .ok slots) :
    paperDailyDueSlot zone now evaluationTime = .ok slots.daily ∧
      paperHourlyDueSlot zone now = .ok slots.hourly ∧ paperOrbDueSlot now = .ok slots.orb ∧
      if testMode then paperSmokeTestDueSlot zone now = .ok slots.smokeTest else slots.smokeTest = none := by
  obtain ⟨daily, hdaily, h⟩ := Outcome.ok_of_bind h
  obtain ⟨smokeTest, hsmokeTest, h⟩ := Outcome.ok_of_bind h
  obtain ⟨hourly, hhourly, h⟩ := Outcome.ok_of_bind h
  obtain ⟨orb, horb, h⟩ := Outcome.ok_of_bind h
  cases h
  refine ⟨hdaily, hhourly, horb, ?_⟩
  cases testMode with
  | true  => exact hsmokeTest
  | false =>
      cases hsmokeTest
      rfl

theorem mem_dueAt {slot? : Option DateTime} {ids : List ℕ} {id : ℕ} :
    (id, slot) ∈ dueAt slot? ids ↔ slot? = some slot ∧ id ∈ ids := by
  cases slot? with
  | none   => simp [dueAt]
  | some s =>
      unfold dueAt
      rw [List.mem_map]
      constructor
      · rintro ⟨id', hid, heq⟩
        cases heq
        exact ⟨rfl, hid⟩
      · rintro ⟨heq, hid⟩
        cases heq
        exact ⟨id, hid, rfl⟩

/-- The slot the tick has for a row, by the frequency that its query asks for. -/
theorem slot_of_listed {testMode : Bool} {evaluationTime : EvaluationTime}
    (h : dueSlots zone now now evaluationTime testMode = .ok slots)
    (hsettings : settings.paperTradingTestModeEnabled = testMode ∧
      settings.paperTradingDailyEvaluationTime = evaluationTime)
    (htest : row.experiment.strategyType = .paperTradingSmokeTest → testMode = true) :
    (ExperimentTable.isPaperDaily row → currentDueSlotOf zone settings now row.experiment = .ok slots.daily) ∧
      (ExperimentTable.isPaperHourlyAi row → currentDueSlotOf zone settings now row.experiment = .ok slots.hourly) ∧
      (ExperimentTable.isPaperSmokeTest row → currentDueSlotOf zone settings now row.experiment = .ok slots.smokeTest) ∧
      (ExperimentTable.isPaperOrb row → currentDueSlotOf zone settings now row.experiment = .ok slots.orb) := by
  obtain ⟨hdaily, hhourly, horb, hsmoke⟩ := dueSlots_spec h
  obtain ⟨rfl, rfl⟩ := hsettings
  unfold currentDueSlotOf Experiment.isHourlyAi
  refine ⟨?_, ?_, ?_, ?_⟩
  · intro hlisted
    have hfrequency := ExperimentTable.isPaperDaily_frequency hlisted
    have hstrategy : row.experiment.strategyType ≠ .paperTradingSmokeTest ∧
        row.experiment.strategyType ≠ .openingRangeBreakout := by
      unfold ExperimentTable.isPaperDaily at hlisted
      split at hlisted
      · cases hlisted
      · obtain ⟨-, hstrategy, -⟩ := of_decide_eq_true hlisted
        constructor
        · intro heq
          simp [heq] at hstrategy
        · intro heq
          simp [heq] at hstrategy
    rw [if_neg (fun hboth => hstrategy.1 hboth.1), if_neg hstrategy.2, if_neg (by simp [hfrequency])]
    exact hdaily
  · intro hlisted
    have hfrequency := ExperimentTable.isPaperHourlyAi_frequency hlisted
    have hstrategy : row.experiment.strategyType = .agenticAi := by
      unfold ExperimentTable.isPaperHourlyAi at hlisted
      split at hlisted
      · cases hlisted
      · exact (of_decide_eq_true hlisted).2.1
    rw [hstrategy, hfrequency, if_neg (by simp), if_neg (by simp), if_pos (by simp)]
    exact hhourly
  · intro hlisted
    obtain ⟨-, hstrategy, -⟩ := of_decide_eq_true hlisted
    have hmode := htest hstrategy
    rw [hmode, if_pos rfl] at hsmoke
    rw [hstrategy, hmode, if_pos ⟨rfl, rfl⟩]
    exact hsmoke
  · intro hlisted
    obtain ⟨-, hstrategy, -⟩ := of_decide_eq_true hlisted
    rw [hstrategy, if_neg (by simp), if_pos rfl]
    exact horb

/-- A smoke test has no slot while smoke tests are off. -/
theorem slots_smokeTest_none {evaluationTime : EvaluationTime}
    (h : dueSlots zone now now evaluationTime false = .ok slots) : slots.smokeTest = none := by
  have hsmoke := (dueSlots_spec h).2.2.2
  rwa [if_neg Bool.false_ne_true] at hsmoke

/-- **What is eligible** is a running experiment that the page supports, for the slot that the page shows. -/
theorem mem_eligible_iff (hrow : row ∈ table.rows) (hcreated : CreatedFrom vSettings request row)
    (h : dueSlots zone now now settings.paperTradingDailyEvaluationTime settings.paperTradingTestModeEnabled =
      .ok slots) :
    (row.id, slot) ∈ slots.eligible table ↔
      row.experiment.status = .running ∧ row.experiment.mode = .paperTrading ∧
        supportedByPaperScheduler row.experiment row.strategyConfig = true ∧
        (row.experiment.strategyType = .paperTradingSmokeTest → settings.paperTradingTestModeEnabled = true) ∧
        currentDueSlotOf zone settings now row.experiment = .ok (some slot) := by
  have hlisted := supported_iff_listed hcreated
  unfold ExperimentRow.isListed at hlisted
  rw [decide_eq_true_iff] at hlisted
  unfold DueSlots.eligible
  simp only [List.mem_append, mem_dueAt, ExperimentTable.listPaperDailySchedulerEligibleExperimentIds,
    ExperimentTable.listPaperHourlyAiSchedulerEligibleExperimentIds,
    ExperimentTable.listPaperSmokeTestSchedulerEligibleExperimentIds,
    ExperimentTable.listPaperOrbSchedulerEligibleExperimentIds, ExperimentTable.mem_listPaperIds_row hrow]
  by_cases htest : row.experiment.strategyType = .paperTradingSmokeTest →
      settings.paperTradingTestModeEnabled = true
  · obtain ⟨hdaily, hhourly, hsmoke, horb⟩ := slot_of_listed h ⟨rfl, rfl⟩ htest
    constructor
    · rintro (((⟨hslot, hrunning, hmode, hp⟩ | ⟨hslot, hrunning, hmode, hp⟩) | ⟨hslot, hrunning, hmode, hp⟩) |
        ⟨hslot, hrunning, hmode, hp⟩)
      · exact ⟨hrunning, hmode, hlisted.mpr ⟨hmode, .inl hp⟩, htest, hslot ▸ hdaily hp⟩
      · exact ⟨hrunning, hmode, hlisted.mpr ⟨hmode, .inr (.inl hp)⟩, htest, hslot ▸ hhourly hp⟩
      · exact ⟨hrunning, hmode, hlisted.mpr ⟨hmode, .inr (.inr (.inl hp))⟩, htest, hslot ▸ hsmoke hp⟩
      · exact ⟨hrunning, hmode, hlisted.mpr ⟨hmode, .inr (.inr (.inr hp))⟩, htest, hslot ▸ horb hp⟩
    · rintro ⟨hrunning, hmode, hsupported, -, hslot⟩
      rcases (hlisted.mp hsupported).2 with hp | hp | hp | hp
      · exact .inl (.inl (.inl ⟨Except.ok.inj ((hdaily hp).symm.trans hslot), hrunning, hmode, hp⟩))
      · exact .inl (.inl (.inr ⟨Except.ok.inj ((hhourly hp).symm.trans hslot), hrunning, hmode, hp⟩))
      · exact .inl (.inr ⟨Except.ok.inj ((hsmoke hp).symm.trans hslot), hrunning, hmode, hp⟩)
      · exact .inr ⟨Except.ok.inj ((horb hp).symm.trans hslot), hrunning, hmode, hp⟩
  · -- a smoke test, and smoke tests are off
    rw [Classical.not_imp, Bool.not_eq_true] at htest
    obtain ⟨hstrategy, hoff⟩ := htest
    rw [hoff] at h
    have hnone := slots_smokeTest_none h
    constructor
    · rintro (((⟨-, -, -, hp⟩ | ⟨-, -, -, hp⟩) | ⟨hslot, -⟩) | ⟨-, -, -, hp⟩)
      · unfold ExperimentTable.isPaperDaily at hp
        rw [hstrategy] at hp
        split at hp
        · cases hp
        · simp at hp
      · unfold ExperimentTable.isPaperHourlyAi at hp
        rw [hstrategy] at hp
        split at hp
        · cases hp
        · simp at hp
      · rw [hnone] at hslot
        cases hslot
      · obtain ⟨-, horb, -⟩ := of_decide_eq_true hp
        rw [hstrategy] at horb
        cases horb
    · rintro ⟨-, -, -, hon, -⟩
      rw [hoff] at hon
      cases hon hstrategy

/-! ## The step of a call -/

/-- A call that nothing goes wrong around: the database answers, and nobody else steps the experiment. -/
structure QuietCall (env : StepEnv) (db : Db) : Prop where
  noFault : ∀ o, env.fault o = none
  lock    : env.lockAcquired = true
  alone   : db.hasRunningStep = false

/-- The scheduler's call for a slot creates a step for it. -/
def CreatesStep (env : StepEnv) (slot : DateTime) (st : Store Db BrokerBook) : Prop :=
  ∃ st', validateAndCreateStep env .scheduled (some slot) st = (.ok st.current.nextId, st') ∧
    st'.current = st.current.addNextStep .scheduled slot env.createdAt

/-- **What a call asks for** before it creates a step. -/
theorem createsStep_iff {env : StepEnv} {st : Store Db BrokerBook} {e : Experiment} (hquiet : QuietCall env st.current)
    (he : st.current.experiment = some e) (hconfig : st.current.strategyConfig.isSome) :
    CreatesStep env slot st ↔
      e.status = .running ∧ isSupportedExperiment env.testModeEnabled e .scheduled = true ∧
        st.current.hasStepForScheduledSlot slot = false := by
  have hop : ∀ o, env.op o = pure () := fun o => by rw [StepEnv.op, hquiet.noFault]; rfl
  have hopIf : ∀ c o, env.opIf c o = pure () := fun c o => by
    rw [StepEnv.opIf, StepEnv.faultIf, hquiet.noFault, ite_self]; rfl
  -- whatever the call ends with, it has asked for these three
  have hwp : Proc.wp (validateAndCreateStep env .scheduled (some slot))
      (fun id st' => (e.status = .running ∧ isSupportedExperiment env.testModeEnabled e .scheduled = true ∧
          st.current.hasStepForScheduledSlot slot = false) ∧
        id = st.current.nextId ∧ st'.current = st.current.addNextStep .scheduled slot env.createdAt)
      (fun _ _ => ¬ (e.status = .running ∧ isSupportedExperiment env.testModeEnabled e .scheduled = true ∧
          st.current.hasStepForScheduledSlot slot = false)) st := by
    unfold validateAndCreateStep
    rw [if_neg (by decide), Proc.wp_withSession]
    unfold createStep
    simp only [hop, hopIf, Tx.wp_bind, Tx.wp_pure, Tx.wp_get, he]
    refine Tx.wp_expect (fun e' he' => ?_) (fun hnone => by cases hnone)
    obtain rfl := Option.some.inj he'
    refine Tx.wp_require (fun hrunning => ?_) (fun hnot h => hnot h.1)
    refine Tx.wp_require (fun _ => ?_) (fun hnot _ => hnot hconfig)
    refine Tx.wp_require (fun hsupported => ?_) (fun hnot h => hnot h.2.1)
    refine Tx.wp_require (fun _ => ?_) (fun hnot _ => hnot hquiet.lock)
    refine Tx.wp_require (fun _ => ?_) (fun hnot _ => hnot hquiet.alone)
    refine Tx.wp_require (fun hfree => ?_) (fun hnot h => hnot fun _ => h.2.2)
    exact ⟨⟨hrunning, hsupported, hfree rfl⟩, trivial, rfl⟩
  unfold Proc.wp at hwp
  unfold CreatesStep
  rcases hcall : validateAndCreateStep env .scheduled (some slot) st with ⟨id | e', st'⟩
  · rw [hcall] at hwp
    apply iff_of_false
    · rintro ⟨st'', heq, -⟩
      cases heq
    · exact hwp
  · rw [hcall] at hwp
    obtain ⟨hall, rfl, hcurrent⟩ := hwp
    exact iff_of_true ⟨st', rfl, hcurrent⟩ hall

/-! ## The reason on the page -/

/-- The codes of a page whose experiment has a slot that is due and has no step yet: ready, or behind an order that
    is not synced. -/
def PaperStatusResponse.DueNow (page : PaperStatusResponse) : Prop :=
  page.currentDueSlot.isSome ∧ page.alreadyExecutedCurrentDueSlot = false ∧
    (page.reasonCode = "READY_FOR_NEXT_SCHEDULED_EVALUATION" ∨ page.reasonCode = "OPEN_ORDER_PENDING_SYNC")

/-- The parts of a page. -/
theorem page_spec {db : Db} {e : Experiment} {page : PaperStatusResponse} (he : db.experiment = some e)
    (h : getExperimentPaperStatus zone settings now db = .ok page) :
    currentDueSlotOf zone settings now e = .ok page.currentDueSlot ∧
      page.alreadyExecutedCurrentDueSlot = page.currentDueSlot.any db.hasStepForScheduledSlot ∧
      page.openSubmittedOrdersCount = db.countOpenSubmitted ∧
      statusReason e (supportedByPaperScheduler e db.strategyConfig) settings page.currentDueSlot
        page.alreadyExecutedCurrentDueSlot db.countOpenSubmitted now.date = .ok (page.reasonCode, page.message) := by
  unfold getExperimentPaperStatus at h
  rw [he] at h
  obtain ⟨currentDueSlot, hslot, h⟩ := Outcome.ok_of_bind h
  obtain ⟨nextTime, -, h⟩ := Outcome.ok_of_bind h
  obtain ⟨⟨code, message⟩, hreason, h⟩ := Outcome.ok_of_bind h
  cases h
  exact ⟨hslot, rfl, rfl, hreason⟩

/-- The codes of a reason that lets the slot that is due have its step. -/
def Permits (code : String) : Prop :=
  code = "READY_FOR_NEXT_SCHEDULED_EVALUATION" ∨ code = "OPEN_ORDER_PENDING_SYNC"

instance (code : String) : Decidable (Permits code) := inferInstanceAs (Decidable (_ ∨ _))

/-- **The reasons that permit a step**, by the conditions before them. -/
theorem statusReason_permits_iff {e : Experiment} {supported executed : Bool} {slot? : Option DateTime} {count : ℕ}
    {d : Date} {reason : String × String}
    (h : statusReason e supported settings slot? executed count d = .ok reason) :
    slot?.isSome ∧ executed = false ∧ Permits reason.1 ↔
      slot?.isSome ∧ executed = false ∧ e.mode = .paperTrading ∧ e.status = .running ∧ supported = true ∧
        (e.strategyType = .paperTradingSmokeTest → settings.paperTradingTestModeEnabled = true) ∧
        settings.paperTradingSchedulerEnabled = true ∧ settings.alpacaPaperTradingEnabled = true := by
  unfold statusReason at h
  -- the six conditions that come before the orders and the slot, one after the other
  by_cases hmode : e.mode ≠ .paperTrading
  · rw [if_pos hmode] at h
    cases h
    exact iff_of_false (fun hp => absurd hp.2.2 (by decide)) (fun hall => hmode hall.2.2.1)
  rw [if_neg hmode] at h
  by_cases htest : e.strategyType = .paperTradingSmokeTest ∧ ¬ settings.paperTradingTestModeEnabled
  · rw [if_pos htest] at h
    cases h
    exact iff_of_false (fun hp => absurd hp.2.2 (by decide)) (fun hall => htest.2 (hall.2.2.2.2.2.1 htest.1))
  rw [if_neg htest] at h
  by_cases hsupported : ¬ supported
  · rw [if_pos hsupported] at h
    cases h
    exact iff_of_false (fun hp => absurd hp.2.2 (by decide)) (fun hall => hsupported hall.2.2.2.2.1)
  rw [if_neg hsupported] at h
  by_cases hscheduler : ¬ settings.paperTradingSchedulerEnabled
  · rw [if_pos hscheduler] at h
    cases h
    exact iff_of_false (fun hp => absurd hp.2.2 (by decide)) (fun hall => hscheduler hall.2.2.2.2.2.2.1)
  rw [if_neg hscheduler] at h
  by_cases halpaca : ¬ settings.alpacaPaperTradingEnabled
  · rw [if_pos halpaca] at h
    cases h
    exact iff_of_false (fun hp => absurd hp.2.2 (by decide)) (fun hall => halpaca hall.2.2.2.2.2.2.2)
  rw [if_neg halpaca] at h
  by_cases hrunning : e.status ≠ .running
  · rw [if_pos hrunning] at h
    cases h
    exact iff_of_false (fun hp => absurd hp.2.2 (by decide)) (fun hall => hrunning hall.2.2.2.1)
  rw [if_neg hrunning] at h
  have hall : e.mode = .paperTrading ∧ e.status = .running ∧ supported = true ∧
      (e.strategyType = .paperTradingSmokeTest → settings.paperTradingTestModeEnabled = true) ∧
      settings.paperTradingSchedulerEnabled = true ∧ settings.alpacaPaperTradingEnabled = true := by
    refine ⟨not_not.mp hmode, not_not.mp hrunning, not_not.mp hsupported, fun hsmoke => ?_, not_not.mp hscheduler,
      not_not.mp halpaca⟩
    by_contra hoff
    exact htest ⟨hsmoke, hoff⟩
  -- then only the orders, the slot and its step are left
  constructor
  · rintro ⟨hslot, hexecuted, -⟩
    exact ⟨hslot, hexecuted, hall⟩
  · rintro ⟨hslot, hexecuted, -⟩
    refine ⟨hslot, hexecuted, ?_⟩
    rw [if_neg (show ¬ slot? = none from Option.isSome_iff_ne_none.mp hslot), hexecuted,
      if_neg Bool.false_ne_true] at h
    split at h
    · cases h
      exact .inr rfl
    · cases h
      exact .inl rfl

/-- **What the page asks for** before it says so. -/
theorem due_reason_iff {db : Db} {e : Experiment} {page : PaperStatusResponse} (he : db.experiment = some e)
    (h : getExperimentPaperStatus zone settings now db = .ok page) :
    page.DueNow ↔
      e.mode = .paperTrading ∧ e.status = .running ∧ supportedByPaperScheduler e db.strategyConfig = true ∧
        (e.strategyType = .paperTradingSmokeTest → settings.paperTradingTestModeEnabled = true) ∧
        settings.paperTradingSchedulerEnabled = true ∧ settings.alpacaPaperTradingEnabled = true ∧
        ∃ slot, currentDueSlotOf zone settings now e = .ok (some slot) ∧ db.hasStepForScheduledSlot slot = false := by
  obtain ⟨hslot, hexecuted, -, hreason⟩ := page_spec he h
  have hfree : page.currentDueSlot.isSome ∧ page.alreadyExecutedCurrentDueSlot = false ↔
      ∃ slot, currentDueSlotOf zone settings now e = .ok (some slot) ∧ db.hasStepForScheduledSlot slot = false := by
    rw [hslot, hexecuted]
    cases page.currentDueSlot with
    | none      => simp
    | some slot => simp
  rw [← hfree]
  have hpermits := statusReason_permits_iff hreason
  unfold PaperStatusResponse.DueNow Permits at *
  rw [hpermits]
  constructor
  · rintro ⟨hsome, hnot, hmode, hrunning, hsupported, htest, hscheduler, halpaca⟩
    exact ⟨hmode, hrunning, hsupported, htest, hscheduler, halpaca, hsome, hnot⟩
  · rintro ⟨hmode, hrunning, hsupported, htest, hscheduler, halpaca, hsome, hnot⟩
    exact ⟨hsome, hnot, hmode, hrunning, hsupported, htest, hscheduler, halpaca⟩

/-! ## The tick -/

/-- The calls of a tick that can prepare its list and whose steps are caught. -/
theorem triggerDueSlots_calls {provider : ℕ → LoadSessionUntil} {runNextStep : RunNextStep}
    (hpreflight : slots.PreflightHandled table provider) (hsteps : slots.StepsCaught table provider runNextStep) :
    (triggerDueSlots table provider runNextStep slots).1 =
      (slots.eligible table).filter fun due => ¬ slots.preflightFails table provider due.1 := by
  unfold triggerDueSlots
  by_cases hnone : slots.daily = none ∧ slots.smokeTest = none ∧ slots.hourly = none ∧ slots.orb = none
  · rw [if_pos hnone, eligible_of_nothing_due hnone]
    rfl
  · obtain ⟨scheduled, preErrors, hassemble, -, hcalls⟩ := assemble_spec hpreflight
    obtain ⟨after, hrun, hhandled⟩ :=
      runScheduled_spec ((stepsCaught_iff hcalls).mp hsteps) { errors := preErrors }
    rw [if_neg hnone, hassemble]
    dsimp only
    rw [hrun]
    exact hhandled.calls.trans hcalls

/-- The steps of a tick: `run_next_step` of each experiment, in its own circumstances and on its own store. -/
def stepsOf (envs : ℕ → StepEnv) (stores : ℕ → Store Db BrokerBook) : RunNextStep := fun id slot =>
  (runNextStep (envs id) .scheduled (some slot) (stores id)).1

variable {provider : ℕ → LoadSessionUntil} {env : StepEnv} {st : Store Db BrokerBook} {page : PaperStatusResponse}

/-- **Who is called, and for whom the call creates a step**, whatever else the steps of the tick do. -/
theorem called_and_creates_iff {runNextStep : RunNextStep}
    (hrow : row ∈ table.rows) (hcreated : CreatedFrom vSettings request row)
    (hexperiment : st.current.experiment = some row.experiment) (hconfig : st.current.strategyConfig = row.strategyConfig)
    (hon : settings.paperTradingSchedulerEnabled = true ∧ settings.alpacaPaperTradingEnabled = true)
    (hslots : dueSlots zone now now settings.paperTradingDailyEvaluationTime settings.paperTradingTestModeEnabled =
      .ok slots)
    (hpage : getExperimentPaperStatus zone settings now st.current = .ok page)
    (hpreflight : slots.PreflightHandled table provider) (hsteps : slots.StepsCaught table provider runNextStep)
    (hquiet : QuietCall env st.current) (hmode : env.testModeEnabled = settings.paperTradingTestModeEnabled) :
    (∃ slot, page.currentDueSlot = some slot ∧
        (row.id, slot) ∈ (triggerDueSlots table provider runNextStep slots).1 ∧ CreatesStep env slot st) ↔
      page.DueNow ∧ slots.preflightFails table provider row.id = false := by
  have hsome : st.current.strategyConfig.isSome := by
    rw [hconfig, hcreated.config]
    rfl
  have hshown := (page_spec hexperiment hpage).1
  rw [due_reason_iff hexperiment hpage, hconfig, triggerDueSlots_calls hpreflight hsteps]
  simp only [List.mem_filter, decide_eq_true_eq, Bool.not_eq_true, mem_eligible_iff hrow hcreated hslots,
    createsStep_iff hquiet hexperiment hsome, isSupportedExperiment_scheduled_iff _ hcreated, hmode]
  constructor
  · rintro ⟨slot, -, ⟨⟨hrunning, hpaper, hsupported, htest, hdue⟩, hready⟩, -, -, hfree⟩
    exact ⟨⟨hpaper, hrunning, hsupported, htest, hon.1, hon.2, slot, hdue, hfree⟩, hready⟩
  · rintro ⟨⟨hpaper, hrunning, hsupported, htest, -, -, slot, hdue, hfree⟩, hready⟩
    exact ⟨slot, Except.ok.inj (hshown.symm.trans hdue), ⟨⟨hrunning, hpaper, hsupported, htest, hdue⟩, hready⟩, hrunning,
      ⟨hsupported, htest⟩, hfree⟩

/-- **The page and the scheduler agree.** Of an experiment that was created through the validator, with the
    scheduler on and nothing wrong around its step: a tick at the clock of the page calls its step for the slot
    that the page shows, and the call creates the step, if and only if the page says that it is ready, or that it
    waits for an open order while its slot is due and has no step yet, and the opening range has its bar. -/
theorem ready_iff_tick_steps {envs : ℕ → StepEnv} {stores : ℕ → Store Db BrokerBook}
    (hrow : row ∈ table.rows) (hcreated : CreatedFrom vSettings request row)
    (hexperiment : (stores row.id).current.experiment = some row.experiment)
    (hconfig : (stores row.id).current.strategyConfig = row.strategyConfig)
    (hon : settings.paperTradingSchedulerEnabled = true ∧ settings.alpacaPaperTradingEnabled = true)
    (hslots : dueSlots zone now now settings.paperTradingDailyEvaluationTime settings.paperTradingTestModeEnabled =
      .ok slots)
    (hpage : getExperimentPaperStatus zone settings now (stores row.id).current = .ok page)
    (hpreflight : slots.PreflightHandled table provider)
    (hsteps : slots.StepsCaught table provider (stepsOf envs stores))
    (hquiet : QuietCall (envs row.id) (stores row.id).current)
    (hmode : (envs row.id).testModeEnabled = settings.paperTradingTestModeEnabled) :
    (∃ slot, page.currentDueSlot = some slot ∧
        (row.id, slot) ∈ (triggerDueSlots table provider (stepsOf envs stores) slots).1 ∧
        CreatesStep (envs row.id) slot (stores row.id)) ↔
      page.DueNow ∧ slots.preflightFails table provider row.id = false :=
  called_and_creates_iff hrow hcreated hexperiment hconfig hon hslots hpage hpreflight hsteps hquiet hmode

/-! ## A page at the close -/

/-- The scheduler is on, and so are smoke tests. -/
def onSettings : PaperStatusSettings := ⟨true, true, true, fiveToFour⟩

/-- The experiment of the typed request, running and without a step. -/
def typedStore : Store Db BrokerBook :=
  .opened ⟨1, some typedRow.experiment, typedRow.strategyConfig, none, [], [], [], [], [], [], [], [], [], [], [], [], [], 1⟩ {}

/-- Its step, from that store. -/
def typedSteps : RunNextStep := stepsOf (fun _ => smallEnv 100 acceptOrder) fun _ => typedStore

/-- Nothing that the tick does not catch. -/
def staysInTick : Except Raised StepRunResult → Bool
  | .ok _    => true
  | .error e => e.kind ≠ .base

/-- At four on 2 July 2024 its page is ready, and the tick steps it for the bar of 15:55. -/
theorem typedRow_ready :
    ∃ page slots slot,
      getExperimentPaperStatus easternDaylightTime onSettings julySecondAtFour typedStore.current = .ok page ∧
      dueSlots easternDaylightTime julySecondAtFour julySecondAtFour fiveToFour true = .ok slots ∧
      page.reasonCode = "READY_FOR_NEXT_SCHEDULED_EVALUATION" ∧ page.currentDueSlot = some slot ∧
      slot.time = timeOfDay 15 55 ∧
      (1, slot) ∈ (triggerDueSlots typedTable (fun _ _ _ _ => .ok []) typedSteps slots).1 ∧
      CreatesStep (smallEnv 100 acceptOrder) slot typedStore := by
  have hshown : (getExperimentPaperStatus easternDaylightTime onSettings julySecondAtFour typedStore.current).toOption.map
      (fun page => (page.reasonCode, page.currentDueSlot.map DateTime.time, page.alreadyExecutedCurrentDueSlot)) =
        some ("READY_FOR_NEXT_SCHEDULED_EVALUATION", some (timeOfDay 15 55), false) := by decide +kernel
  have hends : (dueSlots easternDaylightTime julySecondAtFour julySecondAtFour fiveToFour true).toOption.map
      (fun slots => ((slots.eligible typedTable).all fun due => staysInTick (typedSteps due.1 due.2),
        slots.preflightFails typedTable (fun _ _ _ _ => .ok []) 1)) = some (true, false) := by decide +kernel
  obtain ⟨page, hpage, hshown⟩ := ok_of_toOption_map hshown
  obtain ⟨slots, hslots, hends⟩ := ok_of_toOption_map hends
  obtain ⟨hready, hdue⟩ := Prod.mk.inj hshown
  obtain ⟨htime, hfree⟩ := Prod.mk.inj hdue
  obtain ⟨hruns, hpreflight⟩ := Prod.mk.inj hends
  have hcaught : slots.StepsCaught typedTable (fun _ _ _ _ => .ok []) typedSteps := by
    intro due hmem _ e he
    have hstays := List.all_eq_true.mp hruns due hmem
    rw [he] at hstays
    exact of_decide_eq_true hstays
  have hhandled : slots.PreflightHandled typedTable fun _ _ _ _ => .ok [] := by
    rintro slot - id - ⟨e, he, -⟩
    cases he
  have hrow : typedRow ∈ typedTable.rows := List.mem_singleton_self _
  have hon : onSettings.paperTradingSchedulerEnabled = true ∧ onSettings.alpacaPaperTradingEnabled = true := ⟨rfl, rfl⟩
  obtain ⟨slot, hslot, -⟩ := Option.map_eq_some_iff.mp htime
  have hnow : page.DueNow := ⟨by rw [hslot]; rfl, hfree, .inl hready⟩
  obtain ⟨slot', hslot', hcalled, hcreates⟩ := (ready_iff_tick_steps hrow typedRow_created rfl rfl hon hslots hpage
    hhandled hcaught ⟨fun _ => rfl, rfl, rfl⟩ rfl).mpr ⟨hnow, hpreflight⟩
  rw [hslot'] at htime
  exact ⟨page, slots, slot', hpage, hslots, hready, hslot', Option.some.inj htime, hcalled, hcreates⟩

end TradingAI
