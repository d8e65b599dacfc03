import TradingAI.Execution.Calls

/-!
# `Correctness.StepClosure` — which steps are left running

A step is committed `RUNNING` before any of its work. It is closed by the transaction that records its
result, or by the handler that records its failure. `runNextStep` has such a handler, for most exceptions;
`runEventStep` has none. So whatever is raised after the creation of an event step leaves it running, and
with it `hasRunningStep`, which refuses every later step of the experiment.

## Contents
- `StepClosed`, `closed_of_update`, `runStepArtifacts_closes`.
- `nextStep_closes_iff`, `eventStep_closes_iff`, `step_closed_iff`.
- `event_step_left_running`.
-/

namespace TradingAI

open Session

/-- **Closed**: the step is completed or failed, if it is there. -/
def StepClosed (id : ℕ) (db : Db) : Prop :=
  ∀ s ∈ db.steps, s.id = id → s.status = .completed ∨ s.status = .failed

/-- The state right after a call created its step. -/
def createdDb (env : StepEnv) (triggerType : TriggerType) (scheduledFor : Option DateTime) (db : Db) : Db :=
  db.addNextStep triggerType (slotOf env scheduledFor) env.createdAt

variable {env : StepEnv} {triggerType : TriggerType} {scheduledFor : Option DateTime} {eventId : Option ℕ}
variable {db db' : Db} {id : ℕ} {st : Store Db BrokerBook}

/-! ## Closing a step -/

/-- An update that closes the step closes it for good. -/
theorem closed_of_update {f : ExecutionStep → ExecutionStep}
    (hf : ∀ s, (f s).status = .completed ∨ (f s).status = .failed)
    (hsteps : db'.steps = db.steps.map fun s => if s.id = id then f s else s) : StepClosed id db' := by
  intro s hs hid
  rw [hsteps] at hs
  obtain ⟨s₀, -, rfl⟩ := List.mem_map.mp hs
  split at hid
  · next heq => rw [if_pos heq]; exact hf s₀
  · next hne => exact absurd hid hne

theorem finished_closed (failure : Option PaperStepFailure) (now : DateTime) (s : ExecutionStep) :
    (s.finished failure now).status = .completed ∨ (s.finished failure now).status = .failed := by
  cases failure with
  | none => exact .inl rfl
  | some _ => exact .inr rfl

/-- A key nothing was created under closes no step. -/
theorem closed_of_fresh (h : db.WellKeyed) (hid : db.nextId ≤ id) : StepClosed id db := fun s hs heq =>
  absurd (h.steps s hs) (by omega)

/-- The created step is running. -/
theorem created_not_closed (hsteps : db'.steps = (createdDb env triggerType scheduledFor db).steps) :
    ¬ StepClosed db.nextId db' := by
  intro h
  have hmem : newStep db.nextId triggerType (slotOf env scheduledFor) env.createdAt (db.maxSequenceNumber + 1)
      ∈ db'.steps := by rw [hsteps]; exact List.mem_append_right _ (List.mem_singleton_self _)
  rcases h _ hmem rfl with hc | hf
  · cases hc
  · cases hf

/-- **A step that raises leaves its row alone; one that does not closes it.** -/
theorem runStepArtifacts_closes (hkeys : st.current.WellKeyed)
    (hnew : ∀ o ∈ st.current.orders, o.executionStepId ≠ id) :
    (runStepArtifacts env id eventId).wp
      (fun _ st' => stepOutcome env st.current id eventId = .ok () ∧ StepClosed id st'.current)
      (fun e st' => stepOutcome env st.current id eventId = .error e ∧
        st'.current.steps = st.current.steps) st := by
  have hprepared : ∀ p db', Submitted id p st.current db' → db'.steps = st.current.steps := by
    intro p db' hsub
    obtain ⟨row, -, -, hcore⟩ := hsub.prepared.core
    exact congrArg Core.steps hcore
  refine wp_runStepArtifacts_end hkeys hnew (fun hreport p db' _ hc => ?_)
    (fun r hreport hok p db' db'' _ hsub _ hexec => ?_) (fun r e hreport he p db' _ hsub => ?_)
    (fun e hreport p db' _ hsub => ?_) fun e hreport => ?_
  · obtain ⟨row, state, timestamp, now, -, -, -, hcore⟩ := hc.core
    refine ⟨by rw [stepOutcome, hreport]; rfl, ?_⟩
    exact closed_of_update (f := (·.completedStep now)) (fun _ => .inl rfl) (congrArg Core.steps hcore)
  · refine ⟨by rw [stepOutcome, hreport]; exact hok, closed_of_update (finished_closed _ _) hexec.steps⟩
  · exact ⟨by rw [stepOutcome, hreport]; exact he, hprepared p db' hsub⟩
  · exact ⟨by rw [stepOutcome, hreport]; rfl, hprepared p db' hsub⟩
  · exact ⟨by rw [stepOutcome, hreport]; rfl, rfl⟩

/-! ## The two entry points -/

/-- **`run_event_step` closes its step exactly when nothing is raised after the creation.** -/
theorem eventStep_closes_iff {event : ℕ} (hkeys : st.current.WellKeyed) :
    StepClosed st.current.nextId ((runEventStep env event scheduledFor).exec st).current ↔
      (CreationAllowed env .event (slotOf env scheduledFor) st.current →
        stepOutcome env (createdDb env .event scheduledFor st.current) st.current.nextId (some event) = .ok ()) := by
  refine Proc.exec_of_wp (P := fun st' => StepClosed st.current.nextId st'.current ↔ _) ?_
  unfold runEventStep
  rw [Proc.wp_bind]
  refine wp_openStep (fun hallowed => ?_) fun e hnot => ?_
  · obtain ⟨-, hnew⟩ := created_facts hkeys .event (slotOf env scheduledFor) env.createdAt
    rw [Proc.wp_bind]
    refine Proc.wp_mono (runStepArtifacts_closes (hkeys.addNextStep _ _ _) hnew) ?_ ?_
    · exact fun _ st' h => ⟨fun _ _ => h.1, fun _ => h.2⟩
    · intro e st' h
      have hopen : ¬ StepClosed st.current.nextId st'.current := created_not_closed h.2
      refine ⟨fun hclosed => absurd hclosed hopen, fun hok => ?_⟩
      have hout := h.1.symm.trans (hok hallowed)
      cases hout
  · exact ⟨fun _ hallowed => absurd hallowed hnot, fun _ => closed_of_fresh hkeys le_rfl⟩

/-- The handlers of `run_next_step` close the step, unless they let the exception pass. -/
theorem handleFailure_closes {α : Type} {e : Raised} (hrecord : env.fault .recordFailure = none)
    (hopen : ¬ StepClosed id st.current) :
    (handleFailure (α := α) env (some id) e).wp
      (fun _ st' => StepClosed id st'.current ↔ failureRecord e ≠ none)
      (fun _ st' => StepClosed id st'.current ↔ failureRecord e ≠ none) st := by
  unfold handleFailure
  cases hr : failureRecord e with
  | none => exact ⟨fun h => absurd h hopen, fun h => absurd rfl h⟩
  | some record =>
      unfold persistFailure
      simp only [Proc.wp_bind, Proc.wp_withSession, Tx.wp_bind]
      refine Tx.wp_mayRaise (fun _ => ?_) fun e he => by rw [hrecord] at he; cases he
      refine ⟨fun _ => Option.some_ne_none _, fun _ => ?_⟩
      exact closed_of_update (f := (·.failedStep env.failedAt record.1.message)) (fun _ => .inr rfl)
        (st.current.recordFailure_steps (some id) record.1 env.failedAt)

/-- Without a step, they touch none. -/
theorem handleFailure_steps {α : Type} {e : Raised} :
    (handleFailure (α := α) env none e).wp (fun _ st' => st'.current.steps = st.current.steps)
      (fun _ st' => st'.current.steps = st.current.steps) st := by
  unfold handleFailure
  split
  · exact rfl
  · next record raised _ =>
      unfold persistFailure
      simp only [Proc.wp_bind, Proc.wp_withSession, Tx.wp_bind]
      refine Tx.wp_mayRaise (fun _ => ?_) fun _ _ => rfl
      exact st.current.recordFailure_steps none record env.failedAt

/-- **`run_next_step` closes its step exactly when no exception passes its handlers.** -/
theorem nextStep_closes_iff (hkeys : st.current.WellKeyed) (hrecord : env.fault .recordFailure = none) :
    StepClosed st.current.nextId ((runNextStep env triggerType scheduledFor).exec st).current ↔
      (CreationAllowed env triggerType (slotOf env scheduledFor) st.current →
        ∀ e, stepOutcome env (createdDb env triggerType scheduledFor st.current) st.current.nextId none =
          .error e → failureRecord e ≠ none) := by
  refine Proc.exec_of_wp (P := fun st' => StepClosed st.current.nextId st'.current ↔ _) ?_
  unfold runNextStep
  simp only [Proc.wp_bind, Proc.wp_attempt]
  refine wp_openStep (fun hallowed => ?_) fun e hnot => ?_
  · obtain ⟨-, hnew⟩ := created_facts hkeys triggerType (slotOf env scheduledFor) env.createdAt
    refine Proc.wp_mono (runStepArtifacts_closes (hkeys.addNextStep _ _ _) hnew) ?_ ?_
    · intro _ st' h
      refine ⟨fun _ _ e he => ?_, fun _ => h.2⟩
      have hout := h.1.symm.trans he
      cases hout
    · intro e st' h
      refine Proc.wp_mono (handleFailure_closes hrecord (created_not_closed h.2)) ?_ ?_ <;>
      · intro _ _ hiff
        rw [hiff]
        refine ⟨fun hne _ e' he' => ?_, fun hall => hall hallowed e h.1⟩
        have hout := h.1.symm.trans he'
        cases hout
        exact hne
  · refine Proc.wp_mono (handleFailure_steps) ?_ ?_ <;>
    · intro _ st' hsteps
      refine ⟨fun _ hallowed => absurd hallowed hnot, fun _ s hs heq => ?_⟩
      rw [hsteps] at hs
      exact closed_of_fresh hkeys le_rfl s hs heq

/-- **A step is left running** by `run_next_step` exactly when something is raised after its creation that
    passes the handlers, and by `run_event_step` exactly when anything is. -/
theorem step_closed_iff (event : ℕ) (hkeys : st.current.WellKeyed)
    (hrecord : env.fault .recordFailure = none) :
    (StepClosed st.current.nextId ((runNextStep env triggerType scheduledFor).exec st).current ↔
      (CreationAllowed env triggerType (slotOf env scheduledFor) st.current →
        ∀ e, stepOutcome env (createdDb env triggerType scheduledFor st.current) st.current.nextId none =
          .error e → failureRecord e ≠ none)) ∧
    (StepClosed st.current.nextId ((runEventStep env event scheduledFor).exec st).current ↔
      (CreationAllowed env .event (slotOf env scheduledFor) st.current →
        stepOutcome env (createdDb env .event scheduledFor st.current) st.current.nextId (some event) =
          .ok ())) :=
  ⟨nextStep_closes_iff hkeys hrecord, eventStep_closes_iff hkeys⟩

instance : Decidable (StepClosed id db) :=
  inferInstanceAs (Decidable (∀ s ∈ db.steps, s.id = id → s.status = .completed ∨ s.status = .failed))

/-- The small experiment, as a store nobody has run anything on. -/
def smallStore (strategyType : StrategyType) : Store Db BrokerBook :=
  Store.opened (smallDb strategyType .daily) {}

theorem smallStore_wellKeyed (strategyType : StrategyType) : (smallStore strategyType).current.WellKeyed :=
  (smallDb_flat strategyType .daily).wellKeyed

/-- A step whose broker answers closes itself. -/
theorem small_step_closed :
    StepClosed 1 ((runNextStep (smallEnv 100 acceptOrder) .scheduled (some 0)).exec
      (smallStore .buyAndHold)).current := by
  have hok : (stepOutcome (smallEnv 100 acceptOrder) (createdDb (smallEnv 100 acceptOrder) .scheduled (some 0)
    (smallStore .buyAndHold).current) 1 none).isOk = true := by decide +kernel
  refine (step_closed_iff 1 (smallStore_wellKeyed .buyAndHold) rfl).1.mpr fun _ e he => ?_
  have he' : stepOutcome _ _ 1 none = .error e := he
  rw [he'] at hok
  cases hok

/-- **An event step that raises is left running**: its agent is unavailable, and nobody records it. -/
theorem event_step_left_running :
    ¬ ∀ (env : StepEnv) (triggerType : TriggerType) (scheduledFor : Option DateTime) (event : ℕ)
        (st : Store Db BrokerBook), st.current.WellKeyed → env.fault .recordFailure = none →
      StepClosed st.current.nextId ((runNextStep env triggerType scheduledFor).exec st).current ∧
      StepClosed st.current.nextId ((runEventStep env event scheduledFor).exec st).current := by
  intro h
  have hclosed := (h (smallEnv 100 acceptOrder) .scheduled (some 0) 1 (smallStore .agenticAi)
    (smallStore_wellKeyed .agenticAi) rfl).2
  have hopen : ¬ StepClosed (smallStore .agenticAi).current.nextId
      ((runEventStep (smallEnv 100 acceptOrder) 1 (some 0)).exec (smallStore .agenticAi)).current := by
    decide +kernel
  exact hopen hclosed

end TradingAI
