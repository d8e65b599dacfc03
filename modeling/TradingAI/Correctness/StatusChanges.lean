import TradingAI.Execution.Calls
import TradingAI.Experiments.Lifecycle

/-!
# `Correctness.StatusChanges` — when the status changes as it should

A lifecycle action checks the status it loaded. A completion and a failure check nothing: they write their
status over whatever is there. So a change is a valid one as long as each such write still finds, when it
commits, a status that may become the one it writes, or changes nothing.

## Contents
- `validTransitions`, `ChangeAllowed`: the law, and `finalStatus_kept`: final statuses stay.
- `StatusWrite`, `statusWrite`, `status_published`: what one statement does to the status.
- `WritesInTime`, `status_changes_iff`.
- `paused_experiment_completed`: a paused experiment is completed.
-/

namespace TradingAI

open Transactions

/-! ## The law -/

/-- The status transitions of the lifecycle rules. -/
def validTransitions : List (ExperimentStatus × ExperimentStatus) :=
  [(.created, .running), (.running, .paused), (.paused, .running), (.running, .stopped),
   (.paused, .stopped), (.running, .completed), (.running, .failed)]

/-- A commit leaves the status, or changes it along a valid transition. -/
def ChangeAllowed (db db' : Db) : Prop :=
  db'.status = db.status ∨
    ∃ s t, db.status = some s ∧ db'.status = some t ∧ (s, t) ∈ validTransitions

/-- `STOPPED`, `COMPLETED` and `FAILED`. -/
def ExperimentStatus.isFinal : ExperimentStatus → Bool
  | .stopped | .completed | .failed => true
  | _ => false

variable {db db' : Db} {testModeEnabled : Bool} {bars : List DateTime}

/-- Final statuses are not left. -/
theorem ChangeAllowed.final (h : ChangeAllowed db db') {s : ExperimentStatus} (hs : db.status = some s)
    (hfinal : s.isFinal = true) : db'.status = some s := by
  rcases h with hkept | ⟨s', t, hs', -, hvalid⟩
  · exact hkept.trans hs
  · obtain rfl : s' = s := Option.some.inj (hs'.symm.trans hs)
    -- no valid transition starts there
    cases s' <;> simp [validTransitions, ExperimentStatus.isFinal] at hvalid hfinal

/-- Only a running experiment is completed or fails. -/
theorem ChangeAllowed.running (h : ChangeAllowed db db') {t : ExperimentStatus} (ht : db'.status = some t)
    (hend : t = .completed ∨ t = .failed) (hchange : db'.status ≠ db.status) :
    db.status = some .running := by
  rcases h with hkept | ⟨s, t', hs, ht', hvalid⟩
  · exact absurd hkept hchange
  · obtain rfl : t' = t := Option.some.inj (ht'.symm.trans ht)
    rcases hend with rfl | rfl <;> cases s <;> simp [validTransitions] at hvalid <;> exact hs

/-! ## What a statement does to the status -/

/-- A status that a commit writes, and the one its transaction had loaded. -/
structure StatusWrite where
  loaded : Option ExperimentStatus
  target : ExperimentStatus

/-- The status after the write, for the committed status `c`: one that equals the loaded status is not
    written. -/
def StatusWrite.over (w : StatusWrite) (c : ExperimentStatus) : ExperimentStatus :=
  if w.loaded = some w.target then c else w.target

/-- The status a lifecycle action commits next. -/
def lifecycleWrite : LifecycleChoice → LifecycleThread → Option StatusWrite
  | .proceed _, .validated _ e nextStatus => some ⟨some e.status, nextStatus⟩
  | _, _ => none

/-- The status a driver commits next: `COMPLETED` or `FAILED`. -/
def historicalWrite (bars : List DateTime) : HistoricalChoice → HistoricalThread → Option StatusWrite
  | .proceed _, .numbered _ n => if bars.length ≤ n then some ⟨some .running, .completed⟩ else none
  | .proceed _, .closing _ loaded => some ⟨loaded, .completed⟩
  | .proceed _, .recording _ _ _ loaded => some ⟨loaded, .failed⟩
  | _, _ => none

/-- The status a paper step commits next: `FAILED`, after a rejection or a failure that fails the
    experiment. -/
def paperWrite : StepChoice → StepThread → Option StatusWrite
  | .finish _ failure _, .executing _ _ loaded => failure.map fun _ => ⟨loaded, .failed⟩
  | .record _, .recording _ failure loaded =>
      if failure.failExperiment then some ⟨loaded, .failed⟩ else none
  | _, _ => none

/-- The status the next statement of a thread writes, if it commits one. -/
def statusWrite (bars : List DateTime) : ExperimentChoice → ExperimentThread → Option StatusWrite
  | .lifecycle c, .lifecycle l   => lifecycleWrite c l
  | .historical c, .historical l => historicalWrite bars c l
  | .paper c, .paper l           => paperWrite c l
  | _, _                         => none

/-- The status after a statement that writes `w`, if anything. -/
def statusAfter (w : Option StatusWrite) (status : Option ExperimentStatus) : Option ExperimentStatus :=
  w.elim status fun w => status.map w.over

/-- A flush that leaves the status. -/
theorem Db.status_flush_kept {written : Db} {loaded : Option ExperimentStatus}
    (hwritten : written.status = db.status) : (db.flush loaded written).status = db.status := by
  unfold Db.flush
  split
  · cases hexp : written.experiment with
    | none => rw [← hwritten, Db.status, Db.status, hexp]; rfl
    | some e =>
        have : db.status = some e.status := by rw [← hwritten, Db.status, hexp]; rfl
        rw [this, Db.status]; simp
  · exact hwritten

@[simp] theorem OtherRows.status (rows : OtherRows) (db : Db) : (rows.write db).status = db.status :=
  congrArg (Option.map Experiment.status) (rows.experiment db)

theorem Db.status_finishStep (db : Db) (id : ℕ) (failure : Option PaperStepFailure) (now : DateTime) :
    (db.finishStep id failure now).status = failure.elim db.status fun _ => db.status.map fun _ => .failed := by
  cases failure with
  | none => rfl
  | some failure => exact (db.updateStep id _).status_setStatus .failed now

theorem Db.status_recordFailure (db : Db) (id : Option ℕ) (failure : FailureRecord) (now : DateTime) :
    (db.recordFailure id failure now).status =
      if failure.failExperiment then db.status.map fun _ => .failed else db.status := by
  rw [Db.status, Db.recordFailure_experiment]
  split
  · exact db.status_setStatus .failed now
  · rfl

/-! ## Each program -/

theorem lifecycle_status (c : LifecycleChoice) (l : LifecycleThread) :
    ((lifecycleActions c db l).published db).status =
      statusAfter (lifecycleWrite c l) db.status := by
  cases c with
  | call action => cases l <;> rfl
  | raise e => cases l <;> rfl
  | proceed now =>
      cases l with
      | idle | launching => rfl
      | requested action =>
          simp only [lifecycleActions]
          split
          · rfl
          · split <;> rfl
      | validated action e nextStatus =>
          exact Db.status_flush (db.status_applyLifecycleAction action nextStatus now)

theorem historical_status (c : HistoricalChoice) (l : HistoricalThread) :
    ((historicalDrivers bars c db l).published db).status =
      statusAfter (historicalWrite bars c l) db.status := by
  have hcomplete : ∀ loaded now, (db.flush loaded (db.completeExperiment now)).status =
      db.status.map (StatusWrite.over ⟨loaded, .completed⟩) := fun _ now =>
    Db.status_flush (db.status_completeExperiment now)
  cases c with
  | call t =>
      cases l with
      | idle => simp only [historicalDrivers]; split <;> rfl
      | _ => rfl
  | raise e => cases l <;> rfl
  | finish rows now =>
      cases l with
      | running d id => exact rows.status db
      | _ => rfl
  | proceed now =>
      cases l with
      | idle | accepted | noneRunning | running | failing => rfl
      | selecting t => simp only [historicalDrivers]; split <;> [split; skip] <;> rfl
      | locked t => simp only [historicalDrivers]; split <;> rfl
      | launched o => simp only [historicalDrivers]; split <;> rfl
      | atBar o i => simp only [historicalDrivers]; split <;> rfl
      | barNumbered o i bar n => simp only [historicalDrivers]; split <;> rfl
      | checkingFinal n => simp only [historicalDrivers]; split <;> rfl
      | completing d => simp only [historicalDrivers]; split <;> rfl
      | numbered t n =>
          simp only [historicalDrivers, historicalWrite]
          split
          · next hnone =>
              rw [if_pos (List.getElem?_eq_none_iff.mp hnone)]
              exact hcomplete (some .running) now
          · next bar hbar =>
              rw [if_neg (Nat.not_le.mpr (List.getElem?_eq_some_iff.mp hbar).1)]
              split <;> rfl
      | closing d loaded =>
          cases d with
          | orchestrator o i => exact hcomplete loaded now
          | stepRunner n =>
              simp only [historicalDrivers, Driver.close]
              split
              · next h =>
                  subst h
                  exact Option.map_id'.symm
              · exact hcomplete loaded now
      | recording message id e loaded => exact Db.status_flush (db.status_recordHistoricalFailure message id e now)

theorem paper_status (c : StepChoice) (l : StepThread) :
    ((paperSteps testModeEnabled c db l).published db).status =
      statusAfter (paperWrite c l) db.status := by
  cases c with
  | call r =>
      cases l with
      | idle => simp only [paperSteps]; split <;> rfl
      | _ => rfl
  | save rows =>
      cases l with
      | idle | created => exact rows.status db
      | _ => rfl
  | raise e => cases l <;> rfl
  | finish rows failure now =>
      cases l with
      | executing r id loaded =>
          have hwritten := (rows.write db).status_finishStep id failure now
          rw [rows.status] at hwritten
          cases failure with
          | none => exact Db.status_flush_kept hwritten
          | some failure => exact Db.status_flush hwritten
      | _ => rfl
  | record now =>
      cases l with
      | recording id failure loaded =>
          have hwritten := db.status_recordFailure id failure now
          simp only [paperSteps, paperWrite]
          by_cases hfail : failure.failExperiment
          · rw [if_pos hfail] at hwritten ⊢
            exact Db.status_flush hwritten
          · rw [if_neg hfail] at hwritten ⊢
            exact Db.status_flush_kept hwritten
      | _ => rfl
  | proceed =>
      cases l with
      | idle | supported | slotFree | created | executing | failing | recording => rfl
      | opened r => simp only [paperSteps]; split <;> [split; skip] <;> rfl
      | loaded r e => simp only [paperSteps]; split <;> rfl
      | locked r => simp only [paperSteps]; split <;> rfl
      | noneRunning r => simp only [paperSteps]; split <;> rfl
      | numbered r n => simp only [paperSteps]; split <;> rfl

/-- **What a statement does to the status**: nothing, except for the write it commits. -/
theorem status_published (c : ExperimentChoice) (l : ExperimentThread) :
    ((experimentThreads testModeEnabled bars c db l).published db).status =
      statusAfter (statusWrite bars c l) db.status := by
  cases c <;> cases l <;> try rfl
  · exact (congrArg Db.status (Action.published_map ..)).trans (lifecycle_status ..)
  · exact (congrArg Db.status (Action.published_map ..)).trans (historical_status ..)
  · exact (congrArg Db.status (Action.published_map ..)).trans (paper_status ..)

/-! ## The condition -/

/-- A running experiment may be completed or fail; any other change is that of an action that is allowed
    there. -/
def MayBecome (s t : ExperimentStatus) : Prop :=
  (s = .running ∧ (t = .completed ∨ t = .failed)) ∨
    ∃ action, s ∈ lifecycleTransitions action ∧ targetStatus action = t

/-- **Direct writes come in time**: where a commit writes a status, the committed one may become it, or is
    it already, or nothing is written because it was when the transaction loaded it. -/
def WritesInTime (bars : List DateTime) (c : ExperimentChoice) (db : Db) (l : ExperimentThread) : Prop :=
  ∀ w s, statusWrite bars c l = some w → db.status = some s →
    MayBecome s w.target ∨ s = w.target ∨ w.loaded = some w.target

/-- The actions, completion and failure are the valid transitions. -/
theorem mayBecome_iff {s t : ExperimentStatus} : MayBecome s t ↔ (s, t) ∈ validTransitions := by
  have hactions : (∃ action, s ∈ lifecycleTransitions action ∧ targetStatus action = t) ↔
      (s, t) ∈ validTransitions.take 5 := by
    constructor
    · rintro ⟨action, hs, rfl⟩
      cases action <;> simp [lifecycleTransitions] at hs <;> [skip; skip; skip; rcases hs with hs | hs] <;>
        subst hs <;> decide
    · intro h
      simp only [validTransitions, List.take, List.mem_cons, Prod.mk.injEq, List.not_mem_nil, or_false] at h
      rcases h with ⟨rfl, rfl⟩ | ⟨rfl, rfl⟩ | ⟨rfl, rfl⟩ | ⟨rfl, rfl⟩ | ⟨rfl, rfl⟩
      · exact ⟨.start, by decide⟩
      · exact ⟨.pause, by decide⟩
      · exact ⟨.resume, by decide⟩
      · exact ⟨.stop, by decide⟩
      · exact ⟨.stop, by decide⟩
  unfold MayBecome
  rw [hactions]
  cases s <;> cases t <;> decide

/-- An action that has been checked may change the status it was checked for. -/
theorem mayBecome_of_validated {action : LifecycleAction} {s t : ExperimentStatus}
    (h : validateTransition action s = .ok t) : MayBecome s t :=
  .inr ⟨action, validateTransition_eq_ok.mp h⟩

/-- A checked action comes in time if nobody has changed the status since it was loaded. -/
theorem validated_inTime {action : LifecycleAction} {e : Experiment} {t : ExperimentStatus} (now : DateTime)
    (hchecked : validateTransition action e.status = .ok t) (hstatus : db.status = some e.status) :
    WritesInTime bars (.lifecycle (.proceed now)) db (.lifecycle (.validated action e t)) := by
  rintro w s ⟨⟩ hs
  obtain rfl : e.status = s := Option.some.inj (hstatus.symm.trans hs)
  exact .inl (mayBecome_of_validated hchecked)

/-! ## Every interleaving -/

/-- **Step lemma**: a statement changes the status as allowed exactly if its write comes in time. -/
theorem changeAllowed_iff (c : ExperimentChoice) (db : Db) (l : ExperimentThread) :
    ChangeAllowed db ((experimentThreads testModeEnabled bars c db l).published db) ↔
      WritesInTime bars c db l := by
  unfold ChangeAllowed WritesInTime
  rw [status_published]
  cases hw : statusWrite bars c l with
  | none => simp [statusAfter]
  | some w =>
      cases hs : db.status with
      | none => simp [statusAfter]
      | some s =>
          have hintime : (∀ w' s', some w = some w' → some s = some s' →
              MayBecome s' w'.target ∨ s' = w'.target ∨ w'.loaded = some w'.target) ↔
                MayBecome s w.target ∨ s = w.target ∨ w.loaded = some w.target := by
            constructor
            · exact fun h => h w s rfl rfl
            · rintro h _ _ ⟨⟩ ⟨⟩; exact h
          rw [hintime, mayBecome_iff]
          simp only [statusAfter, Option.elim_some, Option.map_some, Option.some.injEq, StatusWrite.over]
          by_cases hloaded : w.loaded = some w.target
          · simp [hloaded]
          · simp only [hloaded, if_false, or_false]
            constructor
            · rintro (hkept | ⟨_, _, rfl, rfl, hvalid⟩)
              · exact .inr hkept.symm
              · exact .inl hvalid
            · rintro (hvalid | hkept)
              · exact .inr ⟨_, _, rfl, rfl, hvalid⟩
              · exact .inl hkept.symm

/-- **When the status changes as it should.** Lifecycle actions, historical drivers and paper steps of an
    experiment, any number of each, in any interleaving: every committed change of its status is a valid
    transition exactly if every write of a status comes in time. -/
theorem status_changes_iff (testModeEnabled : Bool) (bars : List DateTime) (db : Db) (kinds : ℕ → ThreadKind)
    (es : List (Event ExperimentChoice)) :
    Runs.AllMeet (exec (experimentThreads testModeEnabled bars))
        (fun e m => ChangeAllowed m.data (exec (experimentThreads testModeEnabled bars) e m).data) es
        (idleMachine db kinds) ↔
      Meets (experimentThreads testModeEnabled bars) (WritesInTime bars) es (idleMachine db kinds) := by
  unfold Meets
  refine Runs.allMeet_congr fun e m => ?_
  rw [exec_data]
  exact changeAllowed_iff ..

/-- **Final statuses stay**: in a run whose writes come in time, an experiment that has been stopped, is
    completed or has failed remains so. -/
theorem finalStatus_kept {m : Machine Db ExperimentThread} {s : ExperimentStatus}
    (hs : m.data.status = some s) (hfinal : s.isFinal = true) {es : List (Event ExperimentChoice)}
    (hes : Meets (experimentThreads testModeEnabled bars) (WritesInTime bars) es m) :
    (Runs.run (exec (experimentThreads testModeEnabled bars)) es m).data.status = some s := by
  refine Runs.run_keeps (I := fun m => m.data.status = some s) (fun e m hm hok => ?_) hes hs
  rw [exec_data]
  exact ((changeAllowed_iff ..).mpr hok).final hm hfinal

/-! ## A pause that comes too late -/

/-- A historical experiment that has not been started. -/
def createdHistorical : Db :=
  { smallDb .buyAndHold .daily with
    experiment := some { smallExperiment .buyAndHold .daily with
      mode := .historicalSimulation, status := .created } }

/-- A lifecycle action of the thread `i`. -/
def lifecycleCall (i : ℕ) (action : LifecycleAction) : List (Event ExperimentChoice) :=
  [⟨i, .lifecycle (.call action)⟩, ⟨i, .lifecycle (.proceed 0)⟩, ⟨i, .lifecycle (.proceed 0)⟩]

/-- The orchestrator goes on. -/
def orchestratorSteps (n : ℕ) : List (Event ExperimentChoice) :=
  List.replicate n ⟨0, .historical (.proceed 0)⟩

/-- Started, run to the end of its only bar, and paused; the orchestrator is about to complete it. -/
def pausedAtTheEnd : List (Event ExperimentChoice) :=
  lifecycleCall 0 .start ++ orchestratorSteps 3 ++ [⟨0, .historical (.finish .none 0)⟩]
    ++ lifecycleCall 1 .pause ++ orchestratorSteps 2

/-- **A paused experiment is completed**: the orchestrator does not look at the status. -/
theorem paused_experiment_completed :
    ¬ ∀ (testModeEnabled : Bool) (bars : List DateTime) (db : Db) (kinds : ℕ → ThreadKind)
      (es : List (Event ExperimentChoice)),
      Runs.AllMeet (exec (experimentThreads testModeEnabled bars))
        (fun e m => ChangeAllowed m.data (exec (experimentThreads testModeEnabled bars) e m).data) es
        (idleMachine db kinds) := by
  intro h
  have hlast := (h false [5] createdHistorical (fun _ => .lifecycle)
    (pausedAtTheEnd ++ orchestratorSteps 1)).last
  have hpaused : (Runs.run (exec (experimentThreads false [5])) pausedAtTheEnd
      (idleMachine createdHistorical fun _ => .lifecycle)).data.status = some .paused := by decide +kernel
  have hrunning := hlast.running (t := .completed) (by decide +kernel) (.inl rfl) (by decide +kernel)
  rw [hpaused] at hrunning
  cases hrunning

end TradingAI
