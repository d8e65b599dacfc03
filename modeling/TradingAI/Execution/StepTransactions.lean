import TradingAI.Execution.PaperStepRunner
import TradingAI.Lib.Transactions

/-!
# `Execution.StepTransactions` — paper steps, one statement at a time

Paper steps of one experiment run side by side: manual calls, the scheduler's jobs and the event scanner
each have their own thread. `paperSteps` is the program of such a thread. It opens the transaction of
`_validate_and_create_step`, asks its questions one after another of what is committed at that moment, and
commits the step; later transactions of the same call record what came of it. Between two statements any
other thread may run.

A flush writes only what changed since the row was loaded: `Db.flush` is that rule for the status of the
experiment, the one column several threads write.

## Contents
- `OtherRows`, `Db.flush`.
- `StepThread`, `StepChoice`, `paperSteps`.
- `create_alone`: without other threads this is `createStep`.
-/

namespace TradingAI

open Session Transactions

/-! ## What a transaction writes -/

/-- Writes of a transaction that touch neither the steps nor the experiment's own row. -/
structure OtherRows where
  write      : Db → Db
  steps      : ∀ db, (write db).steps = db.steps
  experiment : ∀ db, (write db).experiment = db.experiment

/-- No such writes. -/
def OtherRows.none : OtherRows := ⟨id, fun _ => rfl, fun _ => rfl⟩

/-- The experiment's status. -/
def Db.status (db : Db) : Option ExperimentStatus := db.experiment.map Experiment.status

/-- What becomes of the committed `db` when a transaction flushes `written` and had loaded the status
    `loaded`: an attribute that still has its loaded value is not written. -/
def Db.flush (db : Db) (loaded : Option ExperimentStatus) (written : Db) : Db :=
  if written.status = loaded then
    { written with
      experiment := written.experiment.map fun e => { e with status := db.status.getD e.status } }
  else written

@[simp] theorem Db.flush_steps (db : Db) (loaded : Option ExperimentStatus) (written : Db) :
    (db.flush loaded written).steps = written.steps := by
  unfold Db.flush; split <;> rfl

/-- If nobody changed the status since it was loaded, the flush writes what it should. -/
theorem Db.flush_current (db written : Db) : db.flush db.status written = written := by
  unfold Db.flush
  split
  · next h =>
      obtain ⟨_, experiment⟩ := written
      cases experiment with
      | none => rfl
      | some e =>
          have : db.status = some e.status := h.symm
          simp [this]
  · rfl

/-- The status after the flush of a transaction that set it to `t`: unless `t` is what it had loaded, the
    committed status is gone. -/
theorem Db.status_flush {db written : Db} {loaded : Option ExperimentStatus} {t : ExperimentStatus}
    (hwritten : written.status = db.status.map fun _ => t) :
    (db.flush loaded written).status = db.status.map fun c => if loaded = some t then c else t := by
  unfold Db.flush
  cases hc : db.status with
  | none =>
      rw [hc] at hwritten
      have hnone : written.experiment = none := Option.map_eq_none_iff.mp hwritten
      split
      · rw [Db.status, hnone]; rfl
      · exact hwritten
  | some c =>
      rw [hc] at hwritten
      obtain ⟨e, he, ht⟩ := Option.map_eq_some_iff.mp hwritten
      have hloaded : written.status = loaded ↔ loaded = some t := by
        rw [hwritten]; exact eq_comm
      by_cases h : loaded = some t
      · rw [if_pos (hloaded.mpr h), Db.status, he]; simp [h]
      · rw [if_neg (mt hloaded.mp h), hwritten]; simp [h]

/-- The violated constraint on sequence numbers. -/
def duplicateSequenceNumber : Raised :=
  runtimeError "duplicate key value violates unique constraint \"uq_execution_steps_experiment_sequence\""

/-! ## A thread of the paper step runner -/

/-- A call of `_validate_and_create_step`. -/
structure StepRequest where
  triggerType  : TriggerType
  scheduledFor : Option DateTime
  now          : DateTime

/-- `scheduled_for or now`. -/
def StepRequest.slot (r : StepRequest) : DateTime := r.scheduledFor.getD r.now

/-- Where a thread is. From `opened` to `numbered` it is inside `_validate_and_create_step`, from `created`
    on in the transactions of its step, and from `failing` on in `_persist_failure`. -/
inductive StepThread
  | idle
  | opened (r : StepRequest)
  | loaded (r : StepRequest) (experiment : Experiment)
  | supported (r : StepRequest)
  | locked (r : StepRequest)
  | noneRunning (r : StepRequest)
  | slotFree (r : StepRequest)
  | numbered (r : StepRequest) (maxSequenceNumber : ℕ)
  | created (r : StepRequest) (executionStepId : ℕ)
  | executing (r : StepRequest) (executionStepId : ℕ) (loaded : Option ExperimentStatus)
  | failing (executionStepId : Option ℕ) (failure : FailureRecord)
  | recording (executionStepId : Option ℕ) (failure : FailureRecord) (loaded : Option ExperimentStatus)

/-- What the surroundings decide: to call, to go on, what the step's transactions write, when an exception
    comes. -/
inductive StepChoice
  | call (r : StepRequest)
  | proceed
  | save (rows : OtherRows)
  | finish (rows : OtherRows) (failure : Option PaperStepFailure) (now : DateTime)
  | record (now : DateTime)
  | raise (e : Raised)

namespace StepThread

/-- Where an exception leads: `run_event_step` has no handler, `run_next_step` may record it. -/
def recover (r : StepRequest) (executionStepId : Option ℕ) (e : Raised) : StepThread :=
  if r.triggerType = .event then .idle
  else
    match failureRecord e with
    | some (failure, _) => .failing executionStepId failure
    | none              => .idle

/-- An exception at any point: the open transaction is rolled back. -/
def raised (e : Raised) : StepThread → StepThread
  | .opened r | .loaded r _ | .supported r | .locked r | .noneRunning r | .slotFree r | .numbered r _ =>
      recover r none e
  | .created r id | .executing r id _ => recover r (some id) e
  | .idle | .failing .. | .recording .. => .idle

/-- The thread has the experiment's advisory lock. -/
def holdsLock : StepThread → Bool
  | .locked _ | .noneRunning _ | .slotFree _ | .numbered _ _ => true
  | _ => false

@[simp] theorem holdsLock_recover (r : StepRequest) (id : Option ℕ) (e : Raised) :
    (recover r id e).holdsLock = false := by
  unfold recover; split
  · rfl
  · split <;> rfl

@[simp] theorem holdsLock_raised (e : Raised) (l : StepThread) : (l.raised e).holdsLock = false := by
  cases l <;> first | exact holdsLock_recover .. | rfl

end StepThread

/-! ## Its program -/

open StepThread in
/-- The statements of a thread. `save` is any transaction that writes only other rows: of the step, while
    it is running, or of something else. -/
def paperSteps (testModeEnabled : Bool) : Program Db StepThread StepChoice
  | .call r, _, .idle => if r.triggerType = .historical then .go .idle else .go (.opened r)
  | .proceed, db, .opened r =>
      match db.experiment with
      | some e => if e.status = .running then .go (.loaded r e) else .rollback .idle
      | none   => .rollback .idle
  | .proceed, db, .loaded r e =>
      if db.strategyConfig.isSome ∧ isSupportedExperiment testModeEnabled e r.triggerType then
        .go (.supported r)
      else .rollback .idle
  | .proceed, _, .supported r => .tryLock (.locked r) .idle
  | .proceed, db, .locked r => if db.hasRunningStep then .rollback .idle else .go (.noneRunning r)
  | .proceed, db, .noneRunning r =>
      if r.triggerType = .scheduled ∧ db.hasStepForScheduledSlot r.slot then .rollback .idle
      else .go (.slotFree r)
  | .proceed, db, .slotFree r => .go (.numbered r db.maxSequenceNumber)
  | .proceed, db, .numbered r n =>
      if db.hasSequenceNumber (n + 1) then .rollback (recover r none duplicateSequenceNumber)
      else .commit (db.insertStep r.triggerType r.slot r.now (n + 1)) (.created r db.nextId)
  | .save rows, db, .idle => .commit (rows.write db) .idle
  | .save rows, db, .created r id => .commit (rows.write db) (.created r id)
  | .proceed, db, .created r id => .go (.executing r id db.status)
  | .finish rows failure now, db, .executing _ id status =>
      .commit (db.flush status ((rows.write db).finishStep id failure now)) .idle
  | .proceed, db, .failing id failure => .go (.recording id failure db.status)
  | .record now, db, .recording id failure status =>
      .commit (db.flush status (db.recordFailure id failure now)) .idle
  | .raise e, _, l => .rollback (l.raised e)
  | _, _, l => .go l

/-! ## A creation alone -/

/-- The statements of one creation. -/
def creation (r : StepRequest) : List StepChoice := .call r :: List.replicate 7 .proceed

/-- **Without other threads this is `createStep`**: a thread that moves while nobody else does creates the
    same step, or none. -/
theorem create_alone {env : StepEnv} {triggerType : TriggerType} {scheduledFor : Option DateTime} {db : Db}
    {book : BrokerBook} (i : ℕ) (hfault : ∀ o, env.fault o = none) (hlock : env.lockAcquired = true) :
    (Runs.run (exec (paperSteps env.testModeEnabled))
        ((creation ⟨triggerType, scheduledFor, env.createdAt⟩).map (Event.mk i))
        ⟨db, none, fun _ => .idle⟩).data =
      ((validateAndCreateStep env triggerType scheduledFor).exec (Store.opened db book)).current := by
  rw [run_alone _ (.inl rfl)]
  have hop : ∀ c o, Tx.mayRaise (env.faultIf c o) = (pure () : DbTx Unit) := by
    intro c o; cases c <;> simp [StepEnv.faultIf, hfault, Tx.mayRaise]
  have hop' : ∀ o, Tx.mayRaise (env.fault o) = (pure () : DbTx Unit) := hop true
  have hslot : StepRequest.slot ⟨triggerType, scheduledFor, env.createdAt⟩ =
    scheduledFor.getD env.createdAt := rfl
  unfold creation validateAndCreateStep
  by_cases htrigger : triggerType = .historical
  · subst htrigger; simp [alone, paperSteps, List.replicate, Proc.exec, Proc.raise]
  rw [if_neg htrigger]
  refine Proc.exec_of_wp (P := fun st => _ = st.current) ?_
  rw [Proc.wp_withSession]
  unfold createStep StepEnv.op StepEnv.opIf
  simp only [hop, hop', Tx.wp_bind, Tx.wp_get, Tx.wp_pure, Tx.wp_modify, Store.opened_current,
    Store.opened_world, Store.commit_current, Store.rollback_current, List.replicate]
  -- the two sides ask the same questions in the same order
  refine Tx.wp_expect (fun e hexp => ?_) fun hexp => by simp [alone, paperSteps, htrigger, hexp]
  refine Tx.wp_require (fun hstatus => ?_) fun hstatus => by
    simp [alone, paperSteps, htrigger, hexp, hstatus]
  refine Tx.wp_require (fun hconfig => ?_) fun hconfig => by
    simp [alone, paperSteps, htrigger, hexp, hstatus, hconfig]
  refine Tx.wp_require (fun hsupported => ?_) fun hsupported => by
    simp [alone, paperSteps, htrigger, hexp, hstatus, hconfig, hsupported]
  refine Tx.wp_require (fun _ => ?_) fun h => absurd hlock h
  refine Tx.wp_require (fun hrunning => ?_) fun hrunning => by
    simp [alone, paperSteps, htrigger, hexp, hstatus, hconfig, hsupported, hrunning]
  refine Tx.wp_require (fun hfree => ?_) fun htaken => by
    rw [Classical.not_imp, Bool.not_eq_false] at htaken
    obtain ⟨rfl, htaken⟩ := htaken
    simp [alone, paperSteps, hexp, hstatus, hconfig, hsupported, hrunning, hslot, htaken]
  have hopen : ¬ (triggerType = .scheduled ∧
      db.hasStepForScheduledSlot (scheduledFor.getD env.createdAt) = true) := by simpa using hfree
  simp [alone, paperSteps, htrigger, hexp, hstatus, hconfig, hsupported, hrunning, hslot, hopen,
    Db.hasSequenceNumber_succ_max, Db.addNextStep_eq]

end TradingAI
