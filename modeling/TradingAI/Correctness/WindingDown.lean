import TradingAI.Correctness.HistoricalBars
import TradingAI.Correctness.StatusChanges
import TradingAI.Lib.Budget

/-!
# `Correctness.WindingDown` — what still runs after an experiment has ended

A stop commits a status and tells nobody. The orchestrator never looks at the status again: it runs the bars
it has left. A paper step or a call of `run_next_step` looks at it once, at its beginning: a call that was
let through before the stop still creates its step. Only a new call is refused.

So an experiment that has ended goes on for a while, and how long is known when it ends: each thread has a
number of steps it can still create. An action that was checked before the experiment ended and commits
after it is the exception, since it sets the status it was checked for.

## Contents
- `Db.hasEnded`, `mayReopen`, `stepsToCome`.
- `hasEnded_published`, `statement_paid`: what one statement does.
- `ended_experiment_winds_down`.
-/

namespace TradingAI

open Transactions

/-! ## What is left -/

/-- The status is `STOPPED`, `COMPLETED` or `FAILED`. -/
def Db.hasEnded (db : Db) : Bool := db.status.any ExperimentStatus.isFinal

/-- The action of the thread has passed its check and commits a status that is not final. -/
def ExperimentThread.mayReopen : ExperimentThread → Bool
  | .lifecycle (.validated _ _ nextStatus) => !nextStatus.isFinal
  | _ => false

/-- The steps a driver can still create: a call that has been accepted one, an orchestrator those of the
    bars it has left. -/
def HistoricalThread.stepsToCome (bars : List DateTime) : HistoricalThread → ℕ
  | .accepted _ | .locked _ | .noneRunning _ | .numbered _ _ => 1
  | .launched _ => bars.length
  | .atBar _ i => bars.length - i
  | .barNumbered _ i _ _ => bars.length - (i + 1) + 1
  | .running (.orchestrator _ i) _ => bars.length - (i + 1)
  | _ => 0

/-- A paper step that has checked the status has one. -/
def StepThread.stepsToCome : StepThread → ℕ
  | .loaded _ _ | .supported _ | .locked _ | .noneRunning _ | .slotFree _ | .numbered _ _ => 1
  | _ => 0

/-- A start has those of its orchestrator. -/
def LifecycleThread.stepsToCome (bars : List DateTime) : LifecycleThread → ℕ
  | .launching _ => bars.length
  | .validated action e _ => if action = .start ∧ (orchestratorFor e).isSome then bars.length else 0
  | _ => 0

/-- **The steps a thread can still create**, once the experiment has ended. -/
def ExperimentThread.stepsToCome (bars : List DateTime) : ExperimentThread → ℕ
  | .lifecycle l  => l.stepsToCome bars
  | .historical l => l.stepsToCome bars
  | .paper l      => l.stepsToCome

/-- The steps there are, and those to come. -/
def stepBudget (bars : List DateTime) : Budget Db ExperimentThread where
  spent db := db.steps.length
  left     := ExperimentThread.stepsToCome bars

variable {db db' : Db} {testModeEnabled : Bool} {bars : List DateTime}

theorem Db.hasEnded_iff : db.hasEnded = true ↔ ∃ s, db.status = some s ∧ s.isFinal = true := by
  unfold Db.hasEnded
  rw [Option.any_eq_true_iff_get]
  constructor
  · rintro ⟨hs, hfinal⟩
    exact ⟨_, (Option.some_get hs).symm, hfinal⟩
  · rintro ⟨s, hs, hfinal⟩
    simp [hs, hfinal]

/-- A check of the status refuses. -/
theorem Db.hasEnded.not_running (h : db.hasEnded = true) {e : Experiment} (he : db.experiment = some e) :
    e.status ≠ .running := by
  obtain ⟨s, hs, hfinal⟩ := Db.hasEnded_iff.mp h
  intro hrunning
  rw [Db.status, he, Option.map_some, hrunning] at hs
  obtain rfl := Option.some.inj hs
  cases hfinal

/-- So does the check of every action. -/
theorem Db.hasEnded.not_checked (h : db.hasEnded = true) {e : Experiment} (he : db.experiment = some e)
    {id : ℕ} {action : LifecycleAction} {t : ExperimentStatus} :
    checkedTransition id action e ≠ .ok t := by
  obtain ⟨s, hs, hfinal⟩ := Db.hasEnded_iff.mp h
  rw [Db.status, he, Option.map_some] at hs
  obtain rfl := Option.some.inj hs
  have hrefused : validateTransition action e.status ≠ .ok t := by
    intro hok
    obtain ⟨hallowed, -⟩ := validateTransition_eq_ok.mp hok
    cases action <;> cases hstatus : e.status <;>
      simp_all [lifecycleTransitions, ExperimentStatus.isFinal]
  unfold checkedTransition
  split
  · intro hok; cases hok
  · exact hrefused

/-! ## The status -/

/-- A thread that does not reopen the experiment writes final statuses only. -/
theorem statusWrite_isFinal {c : ExperimentChoice} {l : ExperimentThread} (hl : l.mayReopen = false)
    {w : StatusWrite} (hw : statusWrite bars c l = some w) : w.target.isFinal = true := by
  cases c with
  | lifecycle c =>
      cases l with
      | lifecycle l =>
          simp only [statusWrite] at hw
          unfold lifecycleWrite at hw
          split at hw
          · obtain rfl := Option.some.inj hw
            simpa [ExperimentThread.mayReopen] using hl
          · cases hw
      | _ => cases hw
  | historical c =>
      cases l with
      | historical l =>
          simp only [statusWrite] at hw
          unfold historicalWrite at hw
          split at hw
          · split at hw
            · obtain rfl := Option.some.inj hw; rfl
            · cases hw
          · obtain rfl := Option.some.inj hw; rfl
          · obtain rfl := Option.some.inj hw; rfl
          · cases hw
      | _ => cases hw
  | paper c =>
      cases l with
      | paper l =>
          simp only [statusWrite] at hw
          unfold paperWrite at hw
          split at hw
          · obtain ⟨_, -, rfl⟩ := Option.map_eq_some_iff.mp hw; rfl
          · split at hw
            · obtain rfl := Option.some.inj hw; rfl
            · cases hw
          · cases hw
      | _ => cases hw

/-- **An ended experiment stays ended**, after every statement of a thread that does not reopen it. -/
theorem hasEnded_published (c : ExperimentChoice) {l : ExperimentThread} (hended : db.hasEnded = true)
    (hl : l.mayReopen = false) :
    ((experimentThreads testModeEnabled bars c db l).published db).hasEnded = true := by
  obtain ⟨s, hs, hfinal⟩ := Db.hasEnded_iff.mp hended
  refine Db.hasEnded_iff.mpr ?_
  rw [status_published]
  cases hw : statusWrite bars c l with
  | none => exact ⟨s, hs, hfinal⟩
  | some w =>
      refine ⟨w.over s, by rw [hs]; rfl, ?_⟩
      unfold StatusWrite.over
      split
      · exact hfinal
      · exact statusWrite_isFinal hl hw

/-! ## The steps -/

theorem Db.length_insertStep (db : Db) (t : TriggerType) (slot now : DateTime) (n : ℕ) :
    (db.insertStep t slot now n).steps.length = db.steps.length + 1 := List.length_append

/-- Nothing is to come where an exception leads. -/
@[simp] theorem stepsToCome_recover (d : Driver) (id : Option ℕ) (e : Raised) :
    (HistoricalThread.recover d id e).stepsToCome bars = 0 := by
  unfold HistoricalThread.recover; split <;> rfl

@[simp] theorem stepsToCome_raised (e : Raised) (l : HistoricalThread) : (l.raised e).stepsToCome bars = 0 := by
  cases l <;> first | exact stepsToCome_recover .. | rfl

@[simp] theorem StepThread.stepsToCome_recover (r : StepRequest) (id : Option ℕ) (e : Raised) :
    (StepThread.recover r id e).stepsToCome = 0 := by
  unfold StepThread.recover; split
  · rfl
  · split <;> rfl

@[simp] theorem StepThread.stepsToCome_raised (e : Raised) (l : StepThread) : (l.raised e).stepsToCome = 0 := by
  cases l <;> first | exact StepThread.stepsToCome_recover .. | rfl

/-- The budget of a driver alone. -/
def historicalBudget (bars : List DateTime) : Budget Db HistoricalThread where
  spent db := db.steps.length
  left     := HistoricalThread.stepsToCome bars

/-- The budget of a paper step alone. -/
def paperBudget : Budget Db StepThread where
  spent db := db.steps.length
  left     := StepThread.stepsToCome

/-- The budget of an action alone. -/
def lifecycleBudget (bars : List DateTime) : Budget Db LifecycleThread where
  spent db := db.steps.length
  left     := LifecycleThread.stepsToCome bars

/-- What a start has left it passes on. -/
theorem stepsToCome_applied (bars : List DateTime) (action : LifecycleAction) (e : Experiment)
    (t : ExperimentStatus) :
    (LifecycleThread.applied action e).stepsToCome bars =
      (LifecycleThread.validated action e t).stepsToCome bars := by
  cases action with
  | start => cases ho : orchestratorFor e <;> simp [LifecycleThread.applied, LifecycleThread.stepsToCome, ho]
  | _ => simp [LifecycleThread.applied, LifecycleThread.stepsToCome]

theorem lifecycle_paid (c : LifecycleChoice) {l : LifecycleThread} (hended : db.hasEnded = true) :
    (lifecycleBudget bars).Paid db l (lifecycleActions c db l) := by
  have hstay : (lifecycleBudget bars).Paid db l (.go l) := paid_go le_rfl
  cases c with
  | call action =>
      cases l with
      | idle => exact paid_go le_rfl
      | _ => exact hstay
  | raise e =>
      cases l with
      | requested | validated => exact paid_rollback (Nat.zero_le _)
      | _ => exact hstay
  | proceed now =>
      cases l with
      | idle | launching => exact hstay
      | requested action =>
          simp only [lifecycleActions]
          split
          · exact paid_rollback le_rfl
          · next e he =>
              split
              · next t hok => exact absurd hok (Db.hasEnded.not_checked hended he)
              · exact paid_rollback le_rfl
      | validated action e t =>
          refine paid_commit (congrArg List.length (db.flush_steps ..)) ?_
          exact (stepsToCome_applied bars action e t).le

theorem historical_paid (c : HistoricalChoice) {l : HistoricalThread} (hended : db.hasEnded = true) :
    (historicalBudget bars).Paid db l (historicalDrivers bars c db l) := by
  have hstay : (historicalBudget bars).Paid db l (.go l) := paid_go le_rfl
  have hends : ∀ {db' : Db} {l l' : HistoricalThread}, StepsEnd db db' →
      l'.stepsToCome bars ≤ l.stepsToCome bars → (historicalBudget bars).Paid db l (.commit db' l') :=
    fun h => paid_commit (B := historicalBudget bars) h.length_eq
  have hback : ∀ {l : HistoricalThread} (d : Driver) (id : Option ℕ) (e : Raised),
      (historicalBudget bars).Paid db l (.rollback (.recover d id e)) := fun d id e =>
    paid_rollback ((stepsToCome_recover d id e).le.trans (Nat.zero_le _))
  cases c with
  | call t =>
      cases l with
      | idle => simp only [historicalDrivers]; split <;> exact paid_go le_rfl
      | _ => exact hstay
  | raise e => exact paid_rollback ((stepsToCome_raised e l).le.trans (Nat.zero_le _))
  | finish rows now =>
      cases l with
      | running d id =>
          refine hends (.updateStep (ends_completedStep now) id (by rw [Db.updateStep, rows.steps]; rfl)) ?_
          cases d <;> exact le_rfl
      | _ => exact hstay
  | proceed now =>
      cases l with
      | idle | running => exact hstay
      | noneRunning t => exact paid_go le_rfl
      | accepted t => exact paid_tryLock le_rfl (Nat.zero_le _)
      | failing message id e => exact paid_go le_rfl
      | selecting t =>
          simp only [historicalDrivers]
          split
          · next e he =>
              rw [if_neg fun h => Db.hasEnded.not_running hended he h.1]
              exact paid_rollback le_rfl
          · exact paid_rollback le_rfl
      | locked t =>
          simp only [historicalDrivers]
          split
          · exact paid_rollback (Nat.zero_le _)
          · exact paid_go le_rfl
      | numbered t n =>
          simp only [historicalDrivers]
          split
          · exact hends (stepsEnd_flush (.of_eq rfl)) (Nat.zero_le _)
          · split
            · exact hback ..
            · exact paid_commit_succ (db.length_insertStep ..) le_rfl
      | launched o =>
          simp only [historicalDrivers]
          split
          · exact paid_go le_rfl
          · exact hback ..
      | atBar o i =>
          simp only [historicalDrivers]
          split
          · exact paid_go (Nat.zero_le _)
          · next bar hbar =>
              have hlt : i < bars.length := (List.getElem?_eq_some_iff.mp hbar).1
              refine paid_go ?_
              change bars.length - (i + 1) + 1 ≤ bars.length - i
              omega
      | barNumbered o i bar n =>
          simp only [historicalDrivers]
          split
          · exact hback ..
          · exact paid_commit_succ (db.length_insertStep ..) le_rfl
      | checkingFinal n => simp only [historicalDrivers]; split <;> exact paid_go le_rfl
      | completing d =>
          simp only [historicalDrivers]
          split
          · exact paid_go le_rfl
          · exact hback ..
      | closing d loaded =>
          refine hends ?_ le_rfl
          cases d with
          | orchestrator o i => exact stepsEnd_flush (.of_eq rfl)
          | stepRunner n =>
              simp only [Driver.close]
              split
              · exact .of_eq rfl
              · exact stepsEnd_flush (.of_eq rfl)
      | recording message id e loaded =>
          refine hends (stepsEnd_flush ?_) le_rfl
          have hsteps := db.recordHistoricalFailure_steps message id e now
          cases id with
          | none => exact .of_eq hsteps
          | some id => exact .updateStep (ends_failedStep now message) id hsteps

theorem paper_paid (c : StepChoice) {l : StepThread} (hended : db.hasEnded = true) :
    paperBudget.Paid db l (paperSteps testModeEnabled c db l) := by
  have hstay : paperBudget.Paid db l (.go l) := paid_go le_rfl
  have hends : ∀ {db' : Db} {l l' : StepThread}, StepsEnd db db' →
      l'.stepsToCome ≤ l.stepsToCome → paperBudget.Paid db l (.commit db' l') :=
    fun h => paid_commit (B := paperBudget) h.length_eq
  cases c with
  | call r =>
      cases l with
      | idle => simp only [paperSteps]; split <;> exact paid_go le_rfl
      | _ => exact hstay
  | save rows =>
      cases l with
      | idle | created => exact hends (.of_eq (rows.steps db)) le_rfl
      | _ => exact hstay
  | raise e => exact paid_rollback ((StepThread.stepsToCome_raised e l).le.trans (Nat.zero_le _))
  | finish rows failure now =>
      cases l with
      | executing r id loaded => exact hends (stepsEnd_flush (stepsEnd_finishStep rows id failure now)) le_rfl
      | _ => exact hstay
  | record now =>
      cases l with
      | recording id failure loaded => exact hends (stepsEnd_flush (stepsEnd_recordFailure id failure now)) le_rfl
      | _ => exact hstay
  | proceed =>
      cases l with
      | idle | executing | recording => exact hstay
      | created | slotFree | failing => exact paid_go le_rfl
      | supported r => exact paid_tryLock le_rfl (Nat.zero_le _)
      | opened r =>
          simp only [paperSteps]
          split
          · next e he =>
              rw [if_neg (Db.hasEnded.not_running hended he)]
              exact paid_rollback le_rfl
          · exact paid_rollback le_rfl
      | loaded r e =>
          simp only [paperSteps]
          split
          · exact paid_go le_rfl
          · exact paid_rollback (Nat.zero_le _)
      | locked r =>
          simp only [paperSteps]
          split
          · exact paid_rollback (Nat.zero_le _)
          · exact paid_go le_rfl
      | noneRunning r =>
          simp only [paperSteps]
          split
          · exact paid_rollback (Nat.zero_le _)
          · exact paid_go le_rfl
      | numbered r n =>
          simp only [paperSteps]
          split
          · exact paid_rollback ((StepThread.stepsToCome_recover ..).le.trans (Nat.zero_le _))
          · exact paid_commit_succ (db.length_insertStep ..) le_rfl

/-- A background task keeps its steps. -/
theorem stepsToCome_ofLifecycle (l : LifecycleThread) :
    (ExperimentThread.ofLifecycle l).stepsToCome bars = l.stepsToCome bars := by
  cases l <;> rfl

/-- **Every statement is paid for**, once the experiment has ended. -/
theorem statement_paid (c : ExperimentChoice) (l : ExperimentThread) (hended : db.hasEnded = true) :
    (stepBudget bars).Paid db l (experimentThreads testModeEnabled bars c db l) := by
  unfold experimentThreads
  split
  · exact (lifecycle_paid _ hended).map rfl rfl stepsToCome_ofLifecycle
  · exact (historical_paid _ hended).map rfl rfl fun _ => rfl
  · exact (paper_paid _ hended).map rfl rfl fun _ => rfl
  · exact paid_go le_rfl

/-! ## Every interleaving -/

/-- A thread that does not reopen an ended experiment does not begin to. -/
theorem mayReopen_leadsTo (c : ExperimentChoice) {l l' : ExperimentThread} (hended : db.hasEnded = true)
    (hl : l.mayReopen = false) (hnext : (experimentThreads testModeEnabled bars c db l).leadsTo l') :
    l'.mayReopen = false := by
  unfold experimentThreads at hnext
  split at hnext
  · obtain ⟨l₁, hl₁, rfl⟩ := leadsTo_map.mp hnext
    unfold lifecycleActions at hl₁
    split at hl₁
    · obtain rfl := hl₁; rfl
    · split at hl₁
      · obtain rfl := hl₁; rfl
      · next e he =>
          split at hl₁
          · next t hok => exact absurd hok (Db.hasEnded.not_checked hended he)
          · obtain rfl := hl₁; rfl
    · obtain rfl := hl₁
      unfold LifecycleThread.applied
      split <;> rfl
    · obtain rfl := hl₁; rfl
    · obtain rfl := hl₁; rfl
    · obtain rfl := hl₁
      cases l₁ <;> first | rfl | exact hl
  · obtain ⟨_, -, rfl⟩ := leadsTo_map.mp hnext; rfl
  · obtain ⟨_, -, rfl⟩ := leadsTo_map.mp hnext; rfl
  · obtain rfl := hnext; exact hl

/-- An idle thread neither creates a step nor reopens an experiment. -/
theorem ThreadKind.stepsToCome_idle (k : ThreadKind) (bars : List DateTime) : k.idle.stepsToCome bars = 0 := by
  cases k <;> rfl

theorem ThreadKind.mayReopen_idle (k : ThreadKind) : k.idle.mayReopen = false := by
  cases k <;> rfl

/-- **An ended experiment winds down.** Lifecycle actions, historical drivers and paper steps of an
    experiment, any number of each, in any interleaving: once the experiment has been stopped, is completed
    or has failed, and no action that was checked before is still to reopen it, it stays ended, and whoever
    moves from then on creates at most the steps that were to come when it ended. -/
theorem ended_experiment_winds_down (testModeEnabled : Bool) (bars : List DateTime) (db : Db)
    (kinds : ℕ → ThreadKind) (before after : List (Event ExperimentChoice))
    (hended : (Runs.run (exec (experimentThreads testModeEnabled bars)) before
      (idleMachine db kinds)).data.hasEnded = true)
    (hclosed : ∀ i ∈ moved before, ((Runs.run (exec (experimentThreads testModeEnabled bars)) before
      (idleMachine db kinds)).threads i).mayReopen = false) :
    (Runs.run (exec (experimentThreads testModeEnabled bars)) (before ++ after)
        (idleMachine db kinds)).data.hasEnded = true ∧
      (Runs.run (exec (experimentThreads testModeEnabled bars)) (before ++ after)
          (idleMachine db kinds)).data.steps.length ≤
        (Runs.run (exec (experimentThreads testModeEnabled bars)) before
            (idleMachine db kinds)).data.steps.length +
          ∑ i ∈ moved before, ((Runs.run (exec (experimentThreads testModeEnabled bars)) before
            (idleMachine db kinds)).threads i).stepsToCome bars := by
  rw [Runs.run_append]
  have hidle : ∀ i, i ∉ moved before → (Runs.run (exec (experimentThreads testModeEnabled bars)) before
      (idleMachine db kinds)).threads i = (kinds i).idle := fun i hi =>
    run_threads_of_not_moved hi _
  generalize Runs.run (exec (experimentThreads testModeEnabled bars)) before (idleMachine db kinds) = m at *
  have hbegin : (stepBudget bars).Within (fun db => db.hasEnded = true) (fun l => l.mayReopen = false)
      (moved before) (m.data.steps.length + ∑ i ∈ moved before, (m.threads i).stepsToCome bars) m := by
    refine ⟨hended, fun i => ?_, fun i hi => ?_, le_rfl⟩
    · by_cases hi : i ∈ moved before
      · exact hclosed i hi
      · rw [hidle i hi]; exact (kinds i).mayReopen_idle
    · rw [hidle i hi]; exact (kinds i).stepsToCome_idle bars
  have hend := hbegin.along (P := experimentThreads testModeEnabled bars)
    (fun c d l hd hl => ⟨hasEnded_published c hd hl, fun _ hnext => mayReopen_leadsTo c hd hl hnext⟩)
    (fun c d l hd _ => statement_paid c l hd) after
  exact ⟨hend.data, (Nat.le_add_right _ _).trans hend.total⟩

/-- Started, and stopped before the orchestrator has reached its first bar. -/
def stoppedAtOnce : List (Event ExperimentChoice) :=
  lifecycleCall 0 .start ++ orchestratorSteps 1 ++ lifecycleCall 1 .stop

/-- Two bars of the orchestrator, and its end. -/
def twoMoreBars : List (Event ExperimentChoice) :=
  orchestratorSteps 2 ++ [⟨0, .historical (.finish .none 0)⟩] ++ orchestratorSteps 2
    ++ [⟨0, .historical (.finish .none 0)⟩] ++ orchestratorSteps 3

/-- **The bound is reached**: no step when the experiment is stopped and two to come; the orchestrator runs both
    bars, and completes the experiment. -/
theorem ended_experiment_winds_down_stopped :
    let stopped := Runs.run (exec (experimentThreads false [5, 6])) stoppedAtOnce
      (idleMachine createdHistorical fun _ => .lifecycle)
    let wound := Runs.run (exec (experimentThreads false [5, 6])) (stoppedAtOnce ++ twoMoreBars)
      (idleMachine createdHistorical fun _ => .lifecycle)
    stopped.data.status = some .stopped ∧
      (wound.data.hasEnded = true ∧ wound.data.steps.length ≤ stopped.data.steps.length +
        ∑ i ∈ moved stoppedAtOnce, (stopped.threads i).stepsToCome [5, 6]) ∧
      stopped.data.steps.length + ∑ i ∈ moved stoppedAtOnce, (stopped.threads i).stepsToCome [5, 6] = 2 ∧
      wound.data.steps.length = 2 ∧ wound.data.status = some .completed := by
  intro stopped wound
  refine ⟨by decide +kernel, ?_, by decide +kernel, by decide +kernel, by decide +kernel⟩
  exact ended_experiment_winds_down false [5, 6] createdHistorical (fun _ => .lifecycle) stoppedAtOnce twoMoreBars
    (by decide +kernel) (by decide +kernel)

end TradingAI
