import TradingAI.Correctness.StepClosure

/-!
# `Correctness.OrphanedOrders` — broker orders the database does not know

The broker is asked in the middle of a transaction. Whatever the transaction does afterwards can raise, and
then its order row is rolled back while the order at the broker stands. The handlers close the step but
leave the experiment running, so the next slot may submit the same trade again.

## Contents
- `Accounted`: an order the database knows, or an experiment that has stopped.
- `runStepArtifacts_accounts`, `order_accounted_iff`.
- `rolled_back_order_orphaned`.
-/

namespace TradingAI

open Session PaperExecutionProvider

/-- An order row with the report's broker order id. -/
def Db.Knows (db : Db) (r : BrokerOrderResult) : Prop := ∃ o ∈ db.orders, o.brokerOrderId = some r.brokerOrderId

/-- The experiment is there, and running. -/
def Db.Running (db : Db) : Prop := ∃ e, db.experiment = some e ∧ e.status = .running

/-- **Accounted for**: the database knows the order, or the experiment is no longer running. -/
def Accounted (r : BrokerOrderResult) (db : Db) : Prop := db.Knows r ∨ ¬ db.Running

variable {env : StepEnv} {triggerType : TriggerType} {scheduledFor : Option DateTime} {eventId : Option ℕ}
variable {db db' : Db} {id : ℕ} {st : Store Db BrokerBook} {r : BrokerOrderResult}

theorem accounted_of_frame (hrunning : db.Running) (horders : db'.orders = db.orders)
    (hexp : db'.experiment = db.experiment) : Accounted r db' ↔ db.Knows r := by
  have hrunning' : db'.Running := by unfold Db.Running; rw [hexp]; exact hrunning
  unfold Accounted Db.Knows
  rw [horders]
  exact ⟨fun h => h.resolve_right fun hnot => hnot hrunning', .inl⟩

/-! ## The step -/

/-- **A step that recorded the report knows the order; one that raised leaves orders and experiment
    alone.** -/
theorem runStepArtifacts_accounts (hkeys : st.current.WellKeyed)
    (hnew : ∀ o ∈ st.current.orders, o.executionStepId ≠ id) (hbook : st.world.placed = []) :
    (runStepArtifacts env id eventId).wp
      (fun _ st' => ∀ r ∈ st'.world.placed,
        reportOutcome env st.current id eventId r = .ok () ∧ st'.current.Knows r)
      (fun e st' => (∀ r ∈ st'.world.placed, reportOutcome env st.current id eventId r = .error e) ∧
        st'.current.orders = st.current.orders ∧ st'.current.experiment = st.current.experiment) st := by
  have hnone : ∀ {P : BrokerOrderResult → Prop}, ∀ r ∈ st.world.placed, P r := by
    rw [hbook]; exact fun _ hr => absurd hr List.not_mem_nil
  have honly : ∀ {r r' : BrokerOrderResult}, r' ∈ (st.world.enter r).placed → r' = r := by
    intro r r' hr'
    have hmem : r' ∈ r :: st.world.placed := hr'
    rw [hbook] at hmem
    exact List.mem_singleton.mp hmem
  have hframe : ∀ p db', Submitted id p st.current db' →
      db'.orders = st.current.orders ∧ db'.experiment = st.current.experiment := by
    intro p db' hsub
    obtain ⟨row, -, -, hcore⟩ := hsub.prepared.core
    exact ⟨congrArg Core.orders hcore, congrArg Core.experiment hcore⟩
  refine wp_runStepArtifacts_end hkeys hnew (fun _ p db' _ _ => hnone)
    (fun r _ hok p db' db'' _ _ _ hexec => ?_) (fun r e _ he p db' _ hsub => ?_)
    (fun e _ p db' _ hsub => ⟨hnone, hframe p db' hsub⟩) fun e _ => ⟨hnone, rfl, rfl⟩
  · intro r' hr'
    rw [honly hr']
    refine ⟨hok, ?_⟩
    show ∃ o ∈ db''.orders, o.brokerOrderId = some r.brokerOrderId
    rw [hexec.orders]
    exact ⟨_, List.mem_append_right _ (List.mem_singleton_self _), rfl⟩
  · exact ⟨fun r' hr' => by rw [honly hr']; exact he, hframe p db' hsub⟩

/-! ## The handlers -/

/-- The handlers stop the experiment for one kind of exception only. -/
theorem failureRecord_failExperiment {e raised : Raised} {record : FailureRecord}
    (h : failureRecord e = some (record, raised)) :
    record.failExperiment = true ↔ e.kind = .agentProviderConfiguration := by
  unfold failureRecord at h
  cases hk : e.kind <;> rw [hk] at h <;> cases h <;> simp

/-- The one failure after which the handlers stop the experiment, and their transaction for it works. -/
def StopsExperiment (env : StepEnv) (e : Raised) : Prop :=
  e.kind = .agentProviderConfiguration ∧ env.fault .recordFailure = none

/-- **What the handlers make of a failure**: they add no order, and stop the experiment for that one kind of
    exception. -/
theorem handleFailure_accounts {α : Type} {e : Raised} {step : Option ℕ} (hrunning : st.current.Running) :
    (handleFailure (α := α) env step e).wp
      (fun _ st' => st'.world = st.world ∧
        ∀ r, Accounted r st'.current ↔ st.current.Knows r ∨ StopsExperiment env e)
      (fun _ st' => st'.world = st.world ∧
        ∀ r, Accounted r st'.current ↔ st.current.Knows r ∨ StopsExperiment env e) st := by
  have hunchanged : ¬ StopsExperiment env e →
      ∀ r, Accounted r st.current ↔ st.current.Knows r ∨ StopsExperiment env e := fun hnot r => by
    rw [accounted_of_frame hrunning rfl rfl, or_iff_left hnot]
  unfold handleFailure
  cases hr : failureRecord e with
  | none =>
      refine ⟨rfl, hunchanged fun hstops => ?_⟩
      rw [failureRecord, hstops.1] at hr
      cases hr
  | some recorded =>
      obtain ⟨record, raised⟩ := recorded
      unfold persistFailure
      simp only [Proc.wp_bind, Proc.wp_withSession, Tx.wp_bind]
      refine Tx.wp_mayRaise (fun hf => ?_) fun e' he => ⟨rfl, hunchanged fun hstops => ?_⟩
      · refine ⟨rfl, fun r => ?_⟩
        show Accounted r (st.current.recordFailure step record env.failedAt) ↔ _
        obtain ⟨⟨-, horders, -, -⟩, -⟩ := st.current.recordFailure_frame step record env.failedAt
        have hexp := st.current.recordFailure_experiment step record env.failedAt
        have hstops : record.failExperiment = true ↔ StopsExperiment env e :=
          (failureRecord_failExperiment hr).trans ⟨fun h => ⟨h, hf⟩, fun h => h.1⟩
        cases hfail : record.failExperiment with
        | false =>
            rw [hfail, if_neg Bool.false_ne_true] at hexp
            rw [accounted_of_frame hrunning horders hexp, or_iff_left fun h => by
              rw [hstops.mpr h] at hfail; cases hfail]
        | true =>
            rw [hfail, if_pos rfl] at hexp
            refine ⟨fun _ => .inr (hstops.mp hfail), fun _ => .inr ?_⟩
            rintro ⟨x, hx, hrun⟩
            rw [hexp] at hx
            obtain ⟨x₀, -, rfl⟩ := Option.map_eq_some_iff.mp hx
            cases hrun
      · rw [hstops.2] at he; cases he

/-- Whatever they make of it, they ask nothing of the broker. -/
theorem handleFailure_world {α : Type} {e : Raised} {step : Option ℕ} :
    (handleFailure (α := α) env step e).wp (fun _ st' => st'.world = st.world)
      (fun _ st' => st'.world = st.world) st := by
  unfold handleFailure
  split
  · exact rfl
  · unfold persistFailure
    simp only [Proc.wp_bind, Proc.wp_withSession, Tx.wp_bind]
    exact Tx.wp_mayRaise (fun _ => rfl) fun _ _ => rfl

/-! ## The entry points -/

theorem CreationAllowed.running {slot : DateTime} (h : CreationAllowed env triggerType slot db) : db.Running := by
  obtain ⟨e, he, hrunning, -⟩ := h.experiment
  exact ⟨e, he, hrunning⟩

/-- Every order the broker took in the meantime is accounted for. -/
def AllAccounted (st : Store Db BrokerBook) : Prop := ∀ r ∈ st.world.placed, Accounted r st.current

/-- Every order the broker took in the meantime is accounted for exactly under the condition `c`. -/
def AccountedWhen (c : BrokerOrderResult → Prop) (st : Store Db BrokerBook) : Prop :=
  ∀ r ∈ st.world.placed, Accounted r st.current ↔ c r

theorem AccountedWhen.nothing_placed {c : BrokerOrderResult → Prop} (h : st.world.placed = []) :
    AccountedWhen c st := by
  unfold AccountedWhen
  rw [h]
  exact fun _ hr => absurd hr List.not_mem_nil

/-- Recording the report of a step raises nothing, or the database knew such an order before. -/
def Recorded (env : StepEnv) (db : Db) (executionStepId : ℕ) (eventId : Option ℕ) (r : BrokerOrderResult) : Prop :=
  reportOutcome env db executionStepId eventId r = .ok () ∨ db.Knows r

/-- A step that recorded its report accounts for it. -/
theorem accounted_of_recorded {st' : Store Db BrokerBook} {c : BrokerOrderResult → Prop}
    (h : ∀ r ∈ st'.world.placed, reportOutcome env st.current id eventId r = .ok () ∧ st'.current.Knows r)
    (hc : ∀ r, reportOutcome env st.current id eventId r = .ok () → c r) : AccountedWhen c st' := fun r hr =>
  ⟨fun _ => hc r (h r hr).1, fun _ => .inl (h r hr).2⟩

/-- **`run_next_step` accounts for the order it placed** exactly when recording it raises nothing, or raises
    what stops the experiment, or the database knew such an order before. -/
theorem nextStep_accounts (hkeys : st.current.WellKeyed) (hbook : st.world.placed = []) :
    AccountedWhen (fun r =>
        Recorded env (createdDb env triggerType scheduledFor st.current) st.current.nextId none r ∨
        ∃ e, reportOutcome env (createdDb env triggerType scheduledFor st.current) st.current.nextId none r =
          .error e ∧ StopsExperiment env e)
      ((runNextStep env triggerType scheduledFor).exec st) := by
  refine Proc.exec_of_wp ?_
  unfold runNextStep
  simp only [Proc.wp_bind, Proc.wp_attempt]
  refine wp_openStep (fun hallowed => ?_) fun e hnot => ?_
  · obtain ⟨-, hnew⟩ := created_facts hkeys triggerType (slotOf env scheduledFor) env.createdAt
    refine Proc.wp_mono (runStepArtifacts_accounts (hkeys.addNextStep _ _ _) hnew hbook) ?_ ?_
    · exact fun _ st' h => accounted_of_recorded h fun r hok => .inl (.inl hok)
    · rintro e st' ⟨herr, horders, hexp⟩
      have hrunning : st'.current.Running := by unfold Db.Running; rw [hexp]; exact hallowed.running
      refine Proc.wp_mono (handleFailure_accounts hrunning) ?_ ?_ <;>
      · rintro _ st'' ⟨hworld, hiff⟩ r hr
        rw [hworld] at hr
        have he := herr r hr
        have hknows : st'.current.Knows r ↔ (createdDb env triggerType scheduledFor st.current).Knows r := by
          unfold Db.Knows; rw [horders]; rfl
        rw [hiff r, hknows]
        constructor
        · exact fun h => h.elim (fun hk => .inl (.inr hk)) fun hs => .inr ⟨e, he, hs⟩
        · rintro ((hok | hk) | ⟨e', he', hs⟩)
          · have hout := he.symm.trans hok
            cases hout
          · exact .inl hk
          · have hout := he.symm.trans he'
            cases hout
            exact .inr hs
  · refine Proc.wp_mono handleFailure_world ?_ ?_ <;>
    · intro _ st' hworld
      exact AccountedWhen.nothing_placed (hworld ▸ hbook)

/-- **`run_event_step` accounts for the order it placed** exactly when recording it raises nothing, or the
    database knew such an order before. -/
theorem eventStep_accounts {event : ℕ} (hkeys : st.current.WellKeyed) (hbook : st.world.placed = []) :
    AccountedWhen (Recorded env (createdDb env .event scheduledFor st.current) st.current.nextId (some event))
      ((runEventStep env event scheduledFor).exec st) := by
  refine Proc.exec_of_wp ?_
  unfold runEventStep
  rw [Proc.wp_bind]
  refine wp_openStep (fun hallowed => ?_) fun e hnot => AccountedWhen.nothing_placed hbook
  obtain ⟨-, hnew⟩ := created_facts hkeys .event (slotOf env scheduledFor) env.createdAt
  rw [Proc.wp_bind]
  refine Proc.wp_mono (runStepArtifacts_accounts (hkeys.addNextStep _ _ _) hnew hbook) ?_ ?_
  · exact fun _ st' h => accounted_of_recorded h fun r hok => .inl hok
  · rintro e st' ⟨herr, horders, hexp⟩ r hr
    have hrunning : (createdDb env .event scheduledFor st.current).Running := hallowed.running
    rw [accounted_of_frame hrunning horders hexp]
    refine ⟨.inr, fun h => h.resolve_left fun hok => ?_⟩
    have hout := (herr r hr).symm.trans hok
    cases hout

/-- **A broker order is accounted for**, in a step of either entry point, exactly when recording its report
    raises nothing, or the database knew such an order before, or, in `run_next_step`, what is raised stops
    the experiment. -/
theorem order_accounted_iff (event : ℕ) (hkeys : st.current.WellKeyed) (hbook : st.world.placed = []) :
    AccountedWhen (fun r =>
        Recorded env (createdDb env triggerType scheduledFor st.current) st.current.nextId none r ∨
        ∃ e, reportOutcome env (createdDb env triggerType scheduledFor st.current) st.current.nextId none r =
          .error e ∧ StopsExperiment env e)
      ((runNextStep env triggerType scheduledFor).exec st) ∧
    AccountedWhen (Recorded env (createdDb env .event scheduledFor st.current) st.current.nextId (some event))
      ((runEventStep env event scheduledFor).exec st) :=
  ⟨nextStep_accounts hkeys hbook, eventStep_accounts hkeys hbook⟩

/-! ## An order that is rolled back -/

/-- The small environment, with one database operation that fails. -/
def failingEnv (o : DbOp) : StepEnv :=
  { smallEnv 100 acceptOrder with fault := fun x => if x = o then some (runtimeError "database") else none }

instance (r : BrokerOrderResult) (db : Db) : Decidable (db.Knows r) :=
  inferInstanceAs (Decidable (∃ o ∈ db.orders, o.brokerOrderId = some r.brokerOrderId))

instance (db : Db) : Decidable db.Running :=
  decidable_of_iff (db.experiment.any (·.status = .running) = true) (by
    unfold Db.Running
    cases db.experiment <;> simp)

instance (r : BrokerOrderResult) (db : Db) : Decidable (Accounted r db) :=
  inferInstanceAs (Decidable (db.Knows r ∨ ¬ db.Running))

/-- **An orphan**: counting the trades fails after the broker took the order; no row of it remains, and the
    experiment goes on. -/
theorem rolled_back_order_orphaned :
    ¬ ∀ (env : StepEnv) (triggerType : TriggerType) (scheduledFor : Option DateTime) (event : ℕ)
        (st : Store Db BrokerBook), st.current.WellKeyed → st.world.placed = [] →
      AllAccounted ((runNextStep env triggerType scheduledFor).exec st) ∧
        AllAccounted ((runEventStep env event scheduledFor).exec st) := by
  intro h
  have haccounted := (h (failingEnv .countTrades) .scheduled (some 0) 1 (smallStore .buyAndHold)
    (smallStore_wellKeyed .buyAndHold) rfl).1
  have horphan : ∃ r ∈ ((runNextStep (failingEnv .countTrades) .scheduled (some 0)).exec
      (smallStore .buyAndHold)).world.placed, ¬ Accounted r
        ((runNextStep (failingEnv .countTrades) .scheduled (some 0)).exec (smallStore .buyAndHold)).current := by
    decide +kernel
  obtain ⟨r, hr, hnot⟩ := horphan
  exact hnot (haccounted r hr)

/-- A step whose database works accounts for its order. -/
theorem small_order_accounted :
    AllAccounted ((runNextStep (smallEnv 100 acceptOrder) .scheduled (some 0)).exec (smallStore .buyAndHold)) := by
  intro r hr
  refine ((order_accounted_iff 1 (smallStore_wellKeyed .buyAndHold) rfl).1 r hr).mpr ?_
  have hplan : ∃ p, stepPlan (smallEnv 100 acceptOrder) (createdDb (smallEnv 100 acceptOrder) .scheduled (some 0)
      (smallStore .buyAndHold).current) 1 none = .ok p := ⟨_, rfl⟩
  obtain ⟨p, hp⟩ := hplan
  refine .inl (.inl ?_)
  show reportOutcome _ _ 1 none r = .ok ()
  rw [reportOutcome, hp, ok_bind]
  exact smallEnv_recordOutcome (by decide +kernel) p.price

end TradingAI
