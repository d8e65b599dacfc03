import TradingAI.Execution.Ledger
import TradingAI.Lib.Runs

/-!
# `Execution.Calls` — calls of the paper runner and the broker sync, one after another

A run is a list of calls: steps of either entry point, and syncs. Each call reads the database as the one
before left it. A property of the database holds in every state a run commits if creating a step,
settling its plan, executing its submission, recording a failure and booking a report all keep it. That
rule is proved here once, together with the key discipline of `Ledger`.

## Contents
- `wp_openStep`: what the creation of a step checks and leaves.
- `StepRule`, `nextStep_keeps`, `eventStep_keeps`: the rule for the two entry points.
- `PollsMeet`, `syncOpenOrders_keeps`: the rule for a sync.
- `PaperCall`: the calls of a run.
-/

namespace TradingAI

open Session Rounding PaperBrokerSyncService Outcome

/-! ## Creating a step -/

/-- The database operations of `_validate_and_create_step`. -/
def creationOps (triggerType : TriggerType) : List DbOp :=
  [.loadExperiment, .loadStrategyConfig, .tryLock, .hasRunningStep] ++
    (if triggerType = .scheduled then [.hasStepForSlot] else []) ++ [.flushStep, .commitStep]

theorem mem_creationOps {triggerType : TriggerType} {o : DbOp} : o ∈ creationOps triggerType ↔
    o = .loadExperiment ∨ o = .loadStrategyConfig ∨ o = .tryLock ∨ o = .hasRunningStep ∨
      (triggerType = .scheduled ∧ o = .hasStepForSlot) ∨ o = .flushStep ∨ o = .commitStep := by
  by_cases h : triggerType = .scheduled <;> simp [creationOps, h]

/-- When a call creates its step: what `_validate_and_create_step` checks holds, and nothing raises. -/
structure CreationAllowed (env : StepEnv) (triggerType : TriggerType) (slot : DateTime) (db : Db) : Prop where
  adapter    : createBrokerAdapter env = .ok ()
  trigger    : triggerType ≠ .historical
  experiment : ∃ e, db.experiment = some e ∧ e.status = .running ∧
    isSupportedExperiment env.testModeEnabled e triggerType = true
  configured : db.strategyConfig.isSome = true
  locked     : env.lockAcquired = true
  idle       : db.hasRunningStep = false
  slotFree   : triggerType = .scheduled → db.hasStepForScheduledSlot slot = false
  working    : ∀ o ∈ creationOps triggerType, env.fault o = none

/-- The slot a step is created for. -/
def slotOf (env : StepEnv) (scheduledFor : Option DateTime) : DateTime := scheduledFor.getD env.createdAt

variable {env : StepEnv} {triggerType : TriggerType} {scheduledFor : Option DateTime}
variable {st : Store Db BrokerBook}

theorem CreationAllowed.no_fault {slot : DateTime} {db : Db} {o : DbOp} {e : Raised}
    (h : CreationAllowed env triggerType slot db) (ho : o ∈ creationOps triggerType) :
    env.fault o ≠ some e := by
  rw [h.working o ho]; nofun

/-- Creating a step commits it, if it is allowed, and raises otherwise. -/
theorem wp_openStep {Q : ℕ → Store Db BrokerBook → Prop} {E : Raised → Store Db BrokerBook → Prop}
    (hok : CreationAllowed env triggerType (slotOf env scheduledFor) st.current →
      Q st.current.nextId (st.commit
        (st.current.addNextStep triggerType (slotOf env scheduledFor) env.createdAt) st.world))
    (herr : ∀ e, ¬ CreationAllowed env triggerType (slotOf env scheduledFor) st.current → E e st) :
    (openStep env triggerType scheduledFor).wp Q E st := by
  unfold openStep validateAndCreateStep
  rw [Proc.wp_bind]
  refine Proc.wp_ofExcept (fun _ hadapter => ?_) fun e he => herr e fun hc => by rw [hc.adapter] at he; cases he
  split
  · next htrigger => exact herr _ fun hc => hc.trigger htrigger
  · next htrigger =>
      have hfault : ∀ {o e}, env.fault o = some e → o ∈ creationOps triggerType → E e st :=
        fun hf ho => herr _ fun hc => hc.no_fault ho hf
      rw [Proc.wp_withSession]
      unfold createStep
      simp only [Tx.wp_bind, Tx.wp_get, Tx.wp_modify, Tx.wp_pure]
      refine Tx.wp_mayRaise (fun h₁ => ?_) fun e he => hfault he (by simp [creationOps])
      refine Tx.wp_expect (fun experiment hexp => ?_) fun hnone => herr _ fun hc => by
        obtain ⟨e, he, -⟩ := hc.experiment; rw [hnone] at he; cases he
      refine Tx.wp_require (fun hrunning => ?_) fun hnot => herr _ fun hc => by
        obtain ⟨e, he, hrun, -⟩ := hc.experiment; rw [hexp] at he; cases he; exact hnot hrun
      refine Tx.wp_mayRaise (fun h₂ => ?_) fun e he => hfault he (by simp [creationOps])
      refine Tx.wp_require (fun hconfig => ?_) fun hnot => herr _ fun hc => hnot hc.configured
      refine Tx.wp_require (fun hsupported => ?_) fun hnot => herr _ fun hc => by
        obtain ⟨e, he, -, hsup⟩ := hc.experiment; rw [hexp] at he; cases he; exact hnot hsup
      refine Tx.wp_mayRaise (fun h₃ => ?_) fun e he => hfault he (by simp [creationOps])
      refine Tx.wp_require (fun hlock => ?_) fun hnot => herr _ fun hc => hnot hc.locked
      refine Tx.wp_mayRaise (fun h₄ => ?_) fun e he => hfault he (by simp [creationOps])
      refine Tx.wp_require (fun hidle => ?_) fun hnot => herr _ fun hc => hnot hc.idle
      refine Tx.wp_mayRaise (fun h₅ => ?_) fun e he => ?_
      · refine Tx.wp_require (fun hslot => ?_) fun hnot => herr _ fun hc => hnot hc.slotFree
        refine Tx.wp_mayRaise (fun h₆ => ?_) fun e he => hfault he (by simp [creationOps])
        refine Tx.wp_mayRaise (fun h₇ => ?_) fun e he => hfault he (by simp [creationOps])
        refine hok ⟨hadapter, htrigger, ⟨experiment, hexp, hrunning, hsupported⟩, hconfig, hlock, hidle, hslot, ?_⟩
        have hslotFault : triggerType = .scheduled → env.fault .hasStepForSlot = none := fun hs => by
          simpa [StepEnv.faultIf, hs] using h₅
        intro o ho
        rcases mem_creationOps.mp ho with rfl | rfl | rfl | rfl | ⟨hs, rfl⟩ | rfl | rfl
        · exact h₁
        · exact h₂
        · exact h₃
        · exact h₄
        · exact hslotFault hs
        · exact h₆
        · exact h₇
      · by_cases hs : triggerType = .scheduled
        · exact hfault (o := .hasStepForSlot) (by simpa [StepEnv.faultIf, hs] using he) (by simp [creationOps, hs])
        · simp [StepEnv.faultIf, hs] at he

/-! ## The rule for a step -/

/-- The key discipline, together with the property `I`. -/
def Keyed (I : Db → Prop) (db : Db) : Prop := db.WellKeyed ∧ I db

/-- **What `I` has to survive in a step** that was created in `db` under the key `executionStepId`. -/
structure StepRule (I : Db → Prop) (env : StepEnv) (eventId : Option ℕ) (executionStepId : ℕ) (db : Db) :
    Prop where
  concluded : ∀ p db', stepPlan env db executionStepId eventId = .ok p →
    Concluded executionStepId p.price db db' → I db'
  submitted : ∀ p db', stepPlan env db executionStepId eventId = .ok p →
    Submitted executionStepId p db db' → I db'
  executed  : ∀ p db' r db'', stepPlan env db executionStepId eventId = .ok p →
    Submitted executionStepId p db db' → placeOutcome env db executionStepId p = .ok r →
    db'.WellKeyed → Executed env executionStepId p r db' db'' → I db''

/-- A step nobody traded for yet has no order, and neither has its risk check. -/
theorem Submitted.existingOrder_eq_none {executionStepId : ℕ} {p : Submission} {db db' : Db}
    (h : Submitted executionStepId p db db') (hkeys : db.WellKeyed)
    (hnew : ∀ o ∈ db.orders, o.executionStepId ≠ executionStepId) :
    db'.existingOrder executionStepId p.riskCheckId = none := by
  obtain ⟨row, -, -, hcore⟩ := h.prepared.core
  unfold Db.existingOrder
  rw [List.find?_eq_none, show db'.orders = db.orders from congrArg Core.orders hcore]
  intro o ho
  have hrisk : o.riskCheckId ≠ p.riskCheckId := ((hkeys.orders o ho).2.2.trans_le h.fresh).ne
  simp [hnew o ho, hrisk]

variable {I : Db → Prop} {eventId : Option ℕ} {executionStepId : ℕ}

/-- **How a step ends**: it asks for no trade and is concluded; it records the broker's report; it fails to
    record it, which leaves the broker with an order; or it raises before there is a report. -/
theorem wp_runStepArtifacts_end {Q : Option PaperStepFailure → Store Db BrokerBook → Prop}
    {E : Raised → Store Db BrokerBook → Prop} (hkeys : st.current.WellKeyed)
    (hnew : ∀ o ∈ st.current.orders, o.executionStepId ≠ executionStepId)
    (hconcluded : brokerReport env st.current executionStepId eventId = .ok none →
      ∀ p db', stepPlan env st.current executionStepId eventId = .ok p →
        Concluded executionStepId p.price st.current db' → Q none (st.commit db' st.world))
    (hexecuted : ∀ r, brokerReport env st.current executionStepId eventId = .ok (some r) →
      reportOutcome env st.current executionStepId eventId r = .ok () →
      ∀ p db' db'', stepPlan env st.current executionStepId eventId = .ok p →
        Submitted executionStepId p st.current db' → placeOutcome env st.current executionStepId p = .ok r →
        Executed env executionStepId p r db' db'' →
        Q (controlledOrderFailure (some r)) ((st.commit db' st.world).commit db'' (st.world.enter r)))
    (hrecord : ∀ r e, brokerReport env st.current executionStepId eventId = .ok (some r) →
      reportOutcome env st.current executionStepId eventId r = .error e →
      ∀ p db', stepPlan env st.current executionStepId eventId = .ok p →
        Submitted executionStepId p st.current db' →
        E e ((st.commit db' st.world).rollback (st.world.enter r)))
    (hplace : ∀ e, brokerReport env st.current executionStepId eventId = .error e →
      ∀ p db', stepPlan env st.current executionStepId eventId = .ok p →
        Submitted executionStepId p st.current db' → E e (st.commit db' st.world))
    (hplan : ∀ e, brokerReport env st.current executionStepId eventId = .error e → E e st) :
    (runStepArtifacts env executionStepId eventId).wp Q E st := by
  have hbranch : brokerReport env st.current executionStepId eventId = (do
      artifactsOutcome env st.current executionStepId eventId
      let p ← stepPlan env st.current executionStepId eventId
      if requiresBrokerSubmission p.riskResult then
        (placeOutcome env st.current executionStepId p).map some
      else .ok none) := by
    unfold brokerReport artifactsOutcome branchOutcome
    cases stepPlan env st.current executionStepId eventId with
    | error e => rfl
    | ok p =>
        rw [ok_bind, ok_bind, ok_bind]
  have hreport : ∀ p r, stepPlan env st.current executionStepId eventId = .ok p →
      reportOutcome env st.current executionStepId eventId r = recordOutcome env st.current p.price r := by
    intro p r hp
    rw [reportOutcome, hp, ok_bind]
  refine wp_runStepArtifacts (fun e he => hplan e (by rw [hbranch, he]; rfl)) fun p submission db' hp hout hsettled => ?_
  rw [hbranch, hout, hp, ok_bind, ok_bind] at hconcluded hexecuted hrecord hplace
  cases submission with
  | none =>
      rw [if_neg (by rw [hsettled.1]; exact Bool.false_ne_true)] at hconcluded
      exact hconcluded rfl p db' rfl hsettled.2
  | some s =>
      obtain ⟨rfl, hsub⟩ := hsettled
      rw [if_pos hsub.requires] at hexecuted hrecord hplace
      show (Proc.withSession (brokerExecution env executionStepId s)).wp _ _ _
      rw [Proc.wp_withSession, Store.commit_current, Store.commit_world]
      refine wp_brokerExecution hsub.requires (hsub.existingOrder_eq_none hkeys hnew)
        (fun r db'' hr hok hexec => ?_) (fun r e hr he => ?_) fun e he => ?_
      · rw [hsub.placeOutcome_eq] at hr
        rw [hsub.recordOutcome_eq, ← hreport s r hp] at hok
        exact hexecuted r (by rw [hr]; rfl) hok s db' db'' rfl hsub hr hexec
      · rw [hsub.placeOutcome_eq] at hr
        rw [hsub.recordOutcome_eq, ← hreport s r hp] at he
        exact hrecord r e (by rw [hr]; rfl) he s db' rfl hsub
      · rw [hsub.placeOutcome_eq] at he
        exact hplace e (by rw [he]; rfl) s db' rfl hsub

theorem runStepArtifacts_keeps (hst : st.Keeps (Keyed I))
    (hid : executionStepId < st.current.nextId)
    (hnew : ∀ o ∈ st.current.orders, o.executionStepId ≠ executionStepId)
    (hrule : StepRule I env eventId executionStepId st.current) :
    (runStepArtifacts env executionStepId eventId).wp (fun _ st' => st'.Keeps (Keyed I))
      (fun _ st' => st'.Keeps (Keyed I)) st := by
  have hkeys := hst.1.1
  have hsubmitted : ∀ p db', stepPlan env st.current executionStepId eventId = .ok p →
      Submitted executionStepId p st.current db' → (st.commit db' st.world).Keeps (Keyed I) :=
    fun p db' hp hsub => hst.commit ⟨hkeys.prepared hsub.prepared hid, hrule.submitted p db' hp hsub⟩
  refine wp_runStepArtifacts_end hkeys hnew (fun _ p db' hp hc => ?_)
    (fun r _ _ p db' db'' hp hsub hr hexec => ?_)
    (fun r e _ _ p db' hp hsub => (hsubmitted p db' hp hsub).rollback)
    (fun e _ p db' hp hsub => hsubmitted p db' hp hsub) fun e _ => hst
  · exact hst.commit ⟨hkeys.concluded hc hid, hrule.concluded p db' hp hc⟩
  · have hkeys' := hkeys.prepared hsub.prepared hid
    exact (hsubmitted p db' hp hsub).commit
      ⟨hkeys'.executed hexec (hid.trans_le hsub.prepared.nextId) hsub.drawn,
        hrule.executed p db' r db'' hp hsub hr hkeys' hexec⟩

/-- Recording a failure leaves the tables of the ledger alone. -/
theorem Db.recordFailure_frame (db : Db) (step : Option ℕ) (f : FailureRecord) (now : DateTime) :
    ((db.recordFailure step f now).portfolio = db.portfolio ∧
      (db.recordFailure step f now).orders = db.orders ∧
      (db.recordFailure step f now).trades = db.trades ∧
      (db.recordFailure step f now).marketData = db.marketData) ∧
      db.nextId ≤ (db.recordFailure step f now).nextId := by
  unfold Db.recordFailure
  cases step <;> dsimp only <;> split_ifs <;>
    simp [Db.updateStep, Db.failExperiment, Db.addSystemEvent, Db.addBrokerSyncLog, Nat.add_assoc]

theorem Db.recordFailure_steps (db : Db) (step : Option ℕ) (f : FailureRecord) (now : DateTime) :
    (db.recordFailure step f now).steps = match step with
      | some id => db.steps.map fun s => if s.id = id then s.failedStep now f.message else s
      | none    => db.steps := by
  unfold Db.recordFailure
  cases step <;> dsimp only <;> split_ifs <;>
    simp [Db.updateStep, Db.failExperiment, Db.addSystemEvent, Db.addBrokerSyncLog]

/-- A recorded failure fails the experiment if it says so, and leaves it alone otherwise. -/
theorem Db.recordFailure_experiment (db : Db) (step : Option ℕ) (f : FailureRecord) (now : DateTime) :
    (db.recordFailure step f now).experiment =
      if f.failExperiment then db.experiment.map fun e => { e with status := .failed, updatedAt := now }
      else db.experiment := by
  unfold Db.recordFailure
  cases step <;> dsimp only <;> split_ifs <;>
    simp_all [Db.updateStep, Db.failExperiment, Db.addSystemEvent, Db.addBrokerSyncLog]

theorem Db.WellKeyed.recordFailure {db : Db} (h : db.WellKeyed) (step : Option ℕ) (f : FailureRecord)
    (now : DateTime) : (db.recordFailure step f now).WellKeyed := by
  obtain ⟨⟨-, horders, htrades, hmarket⟩, hnext⟩ := db.recordFailure_frame step f now
  have hfills : (db.recordFailure step f now).fills = db.fills := by rw [Db.fills, Db.fills, htrades]
  refine ⟨?_, ?_, ?_, ?_, ?_⟩
  · rw [db.recordFailure_steps]
    cases step with
    | none => exact fun s hs => (h.steps s hs).trans_le hnext
    | some id =>
        exact Db.WellKeyed.steps_map (f := (·.failedStep now _)) (fun _ => rfl)
          fun s hs => (h.steps s hs).trans_le hnext
  · rw [hmarket]; exact fun m hm => (h.marketData m hm).trans_le hnext
  · rw [horders]; intro x hx; have := h.orders x hx; omega
  · rw [horders]; exact h.distinct
  · rw [hfills]; exact fun x hx => (h.fills x hx).trans_le hnext

/-- The handlers of `run_next_step` keep what recording a failure keeps. -/
theorem handleFailure_keeps {α : Type} {step : Option ℕ} {e : Raised} (hst : st.Keeps (Keyed I))
    (hfail : ∀ db step f now, I db → I (db.recordFailure step f now)) :
    (handleFailure (α := α) env step e).wp (fun _ st' => st'.Keeps (Keyed I))
      (fun _ st' => st'.Keeps (Keyed I)) st := by
  unfold handleFailure
  split
  · exact hst
  · next record raised _ =>
      unfold persistFailure
      simp only [Proc.wp_bind, Proc.wp_withSession, Tx.wp_bind]
      refine Tx.wp_mayRaise (fun _ => ?_) fun _ _ => hst.rollback
      exact hst.commit ⟨hst.1.1.recordFailure _ _ _, hfail _ _ _ _ hst.1.2⟩

/-- What a created step starts from. -/
theorem created_facts {db : Db} (h : db.WellKeyed) (triggerType : TriggerType) (slot t : DateTime) :
    db.nextId < (db.addNextStep triggerType slot t).nextId ∧
      ∀ o ∈ (db.addNextStep triggerType slot t).orders, o.executionStepId ≠ db.nextId :=
  ⟨Nat.lt_succ_self _, fun o ho => (h.orders o ho).2.1.ne⟩

/-- **`run_next_step` keeps `I`** if its creation, its step and its failures do. -/
theorem nextStep_keeps (hst : st.Keeps (Keyed I))
    (hfail : ∀ db step f now, I db → I (db.recordFailure step f now))
    (hcreate : ∀ db₁, CreationAllowed env triggerType (slotOf env scheduledFor) st.current →
      db₁ = st.current.addNextStep triggerType (slotOf env scheduledFor) env.createdAt →
      I db₁ ∧ StepRule I env none st.current.nextId db₁) :
    ((runNextStep env triggerType scheduledFor).exec st).Keeps (Keyed I) := by
  refine Proc.exec_of_wp (P := fun st' => st'.Keeps (Keyed I)) ?_
  unfold runNextStep
  simp only [Proc.wp_bind, Proc.wp_attempt]
  refine wp_openStep (fun hallowed => ?_) fun e _ => handleFailure_keeps hst hfail
  obtain ⟨hI, hrule⟩ := hcreate _ hallowed rfl
  obtain ⟨hid, hnew⟩ := created_facts hst.1.1 _ (slotOf env scheduledFor) env.createdAt
  refine Proc.wp_mono (runStepArtifacts_keeps (hst.commit ⟨hst.1.1.addNextStep _ _ _, hI⟩) hid hnew hrule) ?_ ?_
  · exact fun _ _ h => h
  · exact fun _ _ h => handleFailure_keeps h hfail

/-- **`run_event_step` keeps `I`** if its creation and its step do. -/
theorem eventStep_keeps {event : ℕ} (hst : st.Keeps (Keyed I))
    (hcreate : ∀ db₁, CreationAllowed env .event (slotOf env scheduledFor) st.current →
      db₁ = st.current.addNextStep .event (slotOf env scheduledFor) env.createdAt →
      I db₁ ∧ StepRule I env (some event) st.current.nextId db₁) :
    ((runEventStep env event scheduledFor).exec st).Keeps (Keyed I) := by
  refine Proc.exec_of_wp (P := fun st' => st'.Keeps (Keyed I)) ?_
  unfold runEventStep
  rw [Proc.wp_bind]
  refine wp_openStep (fun hallowed => ?_) fun e _ => hst
  obtain ⟨hI, hrule⟩ := hcreate _ hallowed rfl
  obtain ⟨hid, hnew⟩ := created_facts hst.1.1 _ (slotOf env scheduledFor) env.createdAt
  rw [Proc.wp_bind]
  refine Proc.wp_mono (runStepArtifacts_keeps (hst.commit ⟨hst.1.1.addNextStep _ _ _, hI⟩) hid hnew hrule) ?_ ?_
  · exact fun _ _ h => h
  · exact fun _ _ h => h

/-! ## The rule for a sync -/

/-- Every answer of the broker meets `ok` in the state in which it is booked. -/
def PollsMeet (ok : Order → BrokerOrderResult → Db → Prop) (env : SyncEnv) :
    List Order → Store Db BrokerBook → Prop
  | [], _ => True
  | o :: os, st =>
      (∀ r, env.getOrderStatus o.id (o.brokerOrderId.getD "") = .ok r → ok o r st.current) ∧
        PollsMeet ok env os ((syncOrder env o).exec st)

/-- The orders still to be polled are in the database as they were listed. -/
def Pending (orders : List Order) (db : Db) : Prop := ∀ o ∈ orders, o ∈ db.orders

theorem getOrder_of_mem {db : Db} (h : (db.orders.map Order.id).Nodup) {o : Order} (ho : o ∈ db.orders) :
    db.getOrder o.id = some o := by
  unfold Db.getOrder
  generalize db.orders = l at h ho
  induction l with
  | nil => simp at ho
  | cons x l ih =>
      rw [List.map_cons, List.nodup_cons] at h
      rw [List.find?_cons]
      rcases List.mem_cons.mp ho with rfl | ho
      · simp
      · have hne : x.id ≠ o.id := fun heq => h.1 (heq ▸ List.mem_map_of_mem ho)
        simpa [hne] using ih h.2 ho

variable {senv : SyncEnv} {ok : Order → BrokerOrderResult → Db → Prop}

/-- The property `I` and the orders still pending survive one poll. -/
theorem syncOrder_keeps {o : Order} {os : List Order} (hst : st.Keeps (Keyed I))
    (hopen : Db.isOpenPaperOrder o = true) (ho : o ∈ st.current.orders) (hos : Pending os st.current)
    (hdistinct : ∀ x ∈ os, x.id ≠ o.id)
    (hok : ∀ r, senv.getOrderStatus o.id (o.brokerOrderId.getD "") = .ok r → ok o r st.current)
    (hcore : ∀ db db', I db → db'.core = db.core → I db')
    (hreport : ∀ db db' x status r, db.WellKeyed → I db → x ∈ db.orders → Db.isOpenPaperOrder x = true →
      ok x r db → Reported x status r senv.now db db' → I db') :
    (syncOrder senv o).wp (fun _ st' => st'.Keeps (Keyed I) ∧ Pending os st'.current)
      (fun _ st' => st'.Keeps (Keyed I) ∧ Pending os st'.current) st := by
  have hkeys := hst.1.1
  -- a transaction that leaves the core leaves the pending orders too
  have hsame : ∀ db' : Db, db'.core = st.current.core → st.current.nextId ≤ db'.nextId →
      (st.commit db' st.world).Keeps (Keyed I) ∧ Pending os db' := fun db' hc hn =>
    ⟨hst.commit ⟨hkeys.of_core hc hn, hcore _ _ hst.1.2 hc⟩, fun x hx => by
      rw [show db'.orders = st.current.orders from congrArg Core.orders hc]; exact hos x hx⟩
  unfold syncOrder
  simp only [Proc.wp_tryCatch, Proc.wp_bind]
  have hcatch : ∀ e : Raised, (if e.kind = .brokerProvider then
        Proc.withSession (persistSyncFailure senv o.id e.message e.details)
      else Proc.raise e : DbProc BrokerOrderSyncResult).wp
      (fun _ st' => st'.Keeps (Keyed I) ∧ Pending os st'.current)
      (fun _ st' => st'.Keeps (Keyed I) ∧ Pending os st'.current) st := by
    intro e
    split
    · rw [Proc.wp_withSession]
      exact wp_persistSyncFailure (fun _ db' hc hn => hsame db' hc hn) fun _ => ⟨hst, hos⟩
    · exact ⟨hst, hos⟩
  refine Proc.wp_ofExcept (fun r hr => ?_) fun e _ => hcatch e
  rw [Proc.wp_withSession]
  refine wp_persistOrderSync (fun _ db' _ hc hn => hsame db' hc hn)
    (fun _ x status db' hx _ hrep => ?_) fun e _ => hcatch e
  have hxo : x = o := by
    have := getOrder_of_mem hkeys.distinct ho
    rw [hx] at this; exact Option.some.inj this
  subst hxo
  refine ⟨hst.commit ⟨hkeys.reported hrep ho,
    hreport _ _ x status r hkeys hst.1.2 ho hopen (hok r hr) hrep⟩, fun y hy => ?_⟩
  show y ∈ db'.orders
  rw [hrep.orders]
  exact List.mem_map.mpr ⟨y, hos y hy, if_neg (hdistinct y hy)⟩

theorem syncOrders_keeps {orders : List Order} (hst : st.Keeps (Keyed I))
    (hopen : ∀ o ∈ orders, Db.isOpenPaperOrder o = true) (hpending : Pending orders st.current)
    (hdistinct : (orders.map Order.id).Nodup) (hmeet : PollsMeet ok senv orders st)
    (hcore : ∀ db db', I db → db'.core = db.core → I db')
    (hreport : ∀ db db' x status r, db.WellKeyed → I db → x ∈ db.orders → Db.isOpenPaperOrder x = true →
      ok x r db → Reported x status r senv.now db db' → I db') :
    (syncOrders senv orders).wp (fun _ st' => st'.Keeps (Keyed I)) (fun _ st' => st'.Keeps (Keyed I)) st := by
  induction orders generalizing st with
  | nil => exact hst
  | cons o os ih =>
      rw [List.map_cons, List.nodup_cons] at hdistinct
      have hothers : ∀ x ∈ os, x.id ≠ o.id := fun x hx heq =>
        hdistinct.1 (heq ▸ List.mem_map_of_mem hx)
      have hpoll := syncOrder_keeps hst (hopen o (List.mem_cons_self ..)) (hpending o (List.mem_cons_self ..))
        (fun x hx => hpending x (List.mem_cons_of_mem _ hx)) hothers hmeet.1 hcore hreport
      have hrest := hmeet.2
      unfold syncOrders
      simp only [Proc.wp_bind, Proc.wp_pure]
      unfold Proc.wp at hpoll ⊢
      unfold Proc.exec at hrest
      rcases hrun : syncOrder senv o st with ⟨_ | _, st₁⟩ <;> rw [hrun] at hpoll hrest
      · exact hpoll.1
      · exact ih hpoll.1 (fun x hx => hopen x (List.mem_cons_of_mem _ hx)) hpoll.2 hdistinct.2 hrest

/-- **A sync keeps `I`** if every report that meets `ok` does. -/
theorem syncOpenOrders_keeps (hst : st.Keeps (Keyed I))
    (hmeet : PollsMeet ok senv st.current.listOpenPaperOrders st)
    (hcore : ∀ db db', I db → db'.core = db.core → I db')
    (hreport : ∀ db db' x status r, db.WellKeyed → I db → x ∈ db.orders → Db.isOpenPaperOrder x = true →
      ok x r db → Reported x status r senv.now db db' → I db') :
    ((syncOpenOrders senv).exec st).Keeps (Keyed I) := by
  refine Proc.exec_of_wp (P := fun st' => st'.Keeps (Keyed I)) ?_
  unfold syncOpenOrders
  simp only [Proc.wp_bind]
  refine Proc.wp_ofExcept (fun _ _ => ?_) fun _ _ => hst
  rw [Proc.wp_readSession]
  simp only [Tx.wp_bind, Tx.wp_get, Tx.wp_pure]
  refine Tx.wp_mayRaise (fun _ => ?_) fun _ _ => hst
  refine syncOrders_keeps hst (fun o ho => (Db.mem_listOpenPaperOrders.mp ho).2)
    (fun o ho => (Db.mem_listOpenPaperOrders.mp ho).1) ?_ hmeet hcore hreport
  have hperm : (st.current.listOpenPaperOrders.map Order.id).Perm
      ((st.current.orders.filter Db.isOpenPaperOrder).map Order.id) :=
    (List.perm_insertionSort _ _).map _
  exact hperm.nodup_iff.mpr (hst.1.1.distinct.sublist (List.filter_sublist.map _))

/-! ## Runs -/

/-- One call on the experiment. -/
inductive PaperCall
  | nextStep (env : StepEnv) (triggerType : TriggerType) (scheduledFor : Option DateTime)
  | eventStep (env : StepEnv) (eventId : ℕ) (scheduledFor : Option DateTime)
  | sync (env : SyncEnv)

/-- The store a call leaves, however it ends. -/
def PaperCall.exec : PaperCall → Store Db BrokerBook → Store Db BrokerBook
  | .nextStep env triggerType scheduledFor => (runNextStep env triggerType scheduledFor).exec
  | .eventStep env eventId scheduledFor    => (runEventStep env eventId scheduledFor).exec
  | .sync env                              => (syncOpenOrders env).exec

/-- A condition on the step a call creates, if it creates one, or on each answer a sync gets; each in the
    state it meets. -/
def CallMeets (step : StepEnv → Option ℕ → ℕ → Db → Prop) (poll : Order → BrokerOrderResult → Db → Prop) :
    PaperCall → Store Db BrokerBook → Prop
  | .nextStep env triggerType scheduledFor, st =>
      CreationAllowed env triggerType (slotOf env scheduledFor) st.current →
        step env none st.current.nextId
          (st.current.addNextStep triggerType (slotOf env scheduledFor) env.createdAt)
  | .eventStep env eventId scheduledFor, st =>
      CreationAllowed env .event (slotOf env scheduledFor) st.current →
        step env (some eventId) st.current.nextId
          (st.current.addNextStep .event (slotOf env scheduledFor) env.createdAt)
  | .sync env, st => PollsMeet poll env st.current.listOpenPaperOrders st

variable {step : StepEnv → Option ℕ → ℕ → Db → Prop} {poll : Order → BrokerOrderResult → Db → Prop}

/-- **A call keeps `I`** if every step and every report that meets its condition does. -/
theorem call_keeps {c : PaperCall} (hst : st.Keeps (Keyed I))
    (hfail : ∀ db step f now, I db → I (db.recordFailure step f now))
    (hstep : ∀ db env eventId t slot, db.WellKeyed → I db →
      step env eventId db.nextId (db.addNextStep t slot env.createdAt) →
      I (db.addNextStep t slot env.createdAt) ∧
        StepRule I env eventId db.nextId (db.addNextStep t slot env.createdAt))
    (hcore : ∀ db db', I db → db'.core = db.core → I db')
    (hreport : ∀ db db' x status r now, db.WellKeyed → I db → x ∈ db.orders → Db.isOpenPaperOrder x = true →
      poll x r db → Reported x status r now db db' → I db')
    (hok : CallMeets step poll c st) : (c.exec st).Keeps (Keyed I) := by
  cases c with
  | nextStep env triggerType scheduledFor =>
      refine nextStep_keeps hst hfail fun db₁ hallowed hdb₁ => ?_
      subst hdb₁
      exact hstep _ env none _ _ hst.1.1 hst.1.2 (hok hallowed)
  | eventStep env eventId scheduledFor =>
      refine eventStep_keeps hst fun db₁ hallowed hdb₁ => ?_
      subst hdb₁
      exact hstep _ env (some eventId) _ _ hst.1.1 hst.1.2 (hok hallowed)
  | sync env =>
      exact syncOpenOrders_keeps hst hok hcore
        fun db db' x status r hkeys h hx hopen hpoll hrep =>
          hreport db db' x status r env.now hkeys h hx hopen hpoll hrep

theorem PollsMeet.and {ok ok' : Order → BrokerOrderResult → Db → Prop} {orders : List Order}
    {st : Store Db BrokerBook} (hmeet : PollsMeet ok senv orders st) (hmeet' : PollsMeet ok' senv orders st) :
    PollsMeet (fun o r db => ok o r db ∧ ok' o r db) senv orders st := by
  -- by induction on the orders, in the store each poll meets
  induction orders generalizing st with
  | nil => trivial
  | cons o os ih => exact ⟨fun r hr => ⟨hmeet.1 r hr, hmeet'.1 r hr⟩, ih hmeet.2 hmeet'.2⟩

/-- What every answer meets in whatever state, the answers of a sync meet. -/
theorem PollsMeet.of_forall {orders : List Order} {st : Store Db BrokerBook}
    (h : ∀ o ∈ orders, ∀ r db, senv.getOrderStatus o.id (o.brokerOrderId.getD "") = .ok r → ok o r db) :
    PollsMeet ok senv orders st := by
  induction orders generalizing st with
  | nil => trivial
  | cons o os ih =>
      exact ⟨fun r hr => h o (List.mem_cons_self ..) r _ hr, ih fun x hx => h x (List.mem_cons_of_mem _ hx)⟩

/-- Two conditions on a call make one. -/
theorem CallMeets.and {step' : StepEnv → Option ℕ → ℕ → Db → Prop}
    {poll' : Order → BrokerOrderResult → Db → Prop} {c : PaperCall} (h : CallMeets step poll c st)
    (h' : CallMeets step' poll' c st) :
    CallMeets (fun env e id db => step env e id db ∧ step' env e id db)
      (fun o r db => poll o r db ∧ poll' o r db) c st := by
  cases c with
  | nextStep env triggerType scheduledFor => exact fun hallowed => ⟨h hallowed, h' hallowed⟩
  | eventStep env eventId scheduledFor => exact fun hallowed => ⟨h hallowed, h' hallowed⟩
  | sync env => exact PollsMeet.and h h'

/-- The store after a run of calls on a freshly opened database. -/
def runCalls (calls : List PaperCall) (db : Db) : Store Db BrokerBook :=
  Runs.run PaperCall.exec calls (Store.opened db {})

/-! ## The start of a run -/

/-- **An experiment before its first step**: its cash is its capital, it holds nothing and has traded
    nothing. -/
structure OpensFlat (db : Db) : Prop where
  portfolio  : ∃ e row, db.experiment = some e ∧ db.portfolio = some row ∧ row.cash = e.initialCapital ∧
    0 < e.initialCapital.val ∧ row.position = 0
  steps      : db.steps = []
  marketData : db.marketData = []
  orders     : db.orders = []
  trades     : db.trades = []

theorem OpensFlat.wellKeyed {db : Db} (h : OpensFlat db) : db.WellKeyed := by
  have hfills : db.fills = [] := by rw [Db.fills, h.trades]; rfl
  refine ⟨?_, ?_, ?_, ?_, ?_⟩
  · simp [h.steps]
  · simp [h.marketData]
  · simp [h.orders]
  · simp [h.orders]
  · simp [hfills]

/-! ## A small experiment -/

/-- A daily buy-and-hold experiment on SPY, or another strategy at its frequency, with capital 1000. -/
def smallExperiment (strategyType : StrategyType) (tradingFrequency : TradingFrequency) : Experiment where
  id               := 1
  mode             := .paperTrading
  strategyType     := strategyType
  assetSymbol      := spySymbol
  status           := .running
  initialCapital   := numeric 4 1000
  startDate        := 0
  endDate          := 0
  tradingFrequency := tradingFrequency
  updatedAt        := 0

/-- Its rows before the first step. -/
def smallDb (strategyType : StrategyType) (tradingFrequency : TradingFrequency) : Db where
  experimentId   := 1
  experiment     := some (smallExperiment strategyType tradingFrequency)
  strategyConfig := some ⟨none, none, none, none, none⟩
  portfolio      := some ⟨numeric 4 1000, none, none, none, none, none, 0⟩

/-- The rows with a window for the moving average. -/
def Db.withWindow (db : Db) (window : ℕ) : Db := { db with strategyConfig := some ⟨some window, none, none, none, none⟩ }

/-- What the trades of a database moved: side, quantity and value. -/
def Db.moved (db : Db) : List (OrderSide × ℚ × ℚ) := db.trades.map fun t => (t.side, t.quantity.val, t.orderValue.val)

theorem smallDb_flat (strategyType : StrategyType) (tradingFrequency : TradingFrequency) :
    OpensFlat (smallDb strategyType tradingFrequency) := by
  have hcapital : 0 < (numeric 4 1000).val := by decide +kernel
  exact ⟨⟨_, _, rfl, rfl, rfl, hcapital, rfl⟩, rfl, rfl, rfl, rfl⟩

/-- A daily bar at `price`. -/
def barAt (price : ℚ) : DailyBar := ⟨0, price, price, price, price, price, 1, none⟩

/-- An environment in which every provider answers, the price is `price`, and the broker answers `place`. -/
def smallEnv (price : ℚ) (place : OrderRequest → Except Raised BrokerOrderResult) : StepEnv where
  createdAt           := 0
  startedAt           := 0
  executedAt          := 0
  failedAt            := 0
  testModeEnabled     := true
  latestBar           := fun _ => .ok (barAt price)
  loadRange           := fun _ _ _ => .ok []
  loadSessionUntil    := fun _ _ _ => .ok []
  finalBarStart       := fun _ => none
  hourlyBar           := fun _ _ => .ok (barAt price)
  createAgentStrategy := fun _ _ => .ok ()
  agentDecide         := fun _ => .error (runtimeError "no agent")
  placeOrder          := place

/-- What its steps plan, they plan at that price. -/
theorem smallEnv_price {price : ℚ} {place : OrderRequest → Except Raised BrokerOrderResult} {db : Db}
    {id : ℕ} {p : Submission} {e : Option ℕ} (h : stepPlan (smallEnv price place) db id e = .ok p) :
    p.price = price := by
  obtain ⟨strategyType, -, h⟩ := ok_of_bind h
  cases strategyType with
  | openingRangeBreakout =>
      obtain ⟨_, -, h⟩ := ok_of_bind h
      obtain ⟨_, hbars, h⟩ := ok_of_bind h
      obtain ⟨_, hbar, -⟩ := ok_of_bind h
      cases hbars
      cases hbar
  | agenticAi =>
      obtain ⟨st, -, h⟩ := ok_of_bind h
      obtain ⟨_, -, h⟩ := ok_of_bind h
      obtain ⟨_, -, h⟩ := ok_of_bind h
      obtain ⟨_, -, h⟩ := ok_of_bind h
      obtain ⟨_, -, h⟩ := ok_of_bind h
      obtain ⟨_, hdecide, -⟩ := ok_of_bind h
      cases hdecide
  | buyAndHold | movingAverage | paperTradingSmokeTest =>
      obtain ⟨st, -, h⟩ := ok_of_bind h
      obtain ⟨bar, hbar, h⟩ := ok_of_bind h
      obtain ⟨_, -, h⟩ := ok_of_bind h
      obtain ⟨_, -, h⟩ := ok_of_bind h
      obtain ⟨_, -, h⟩ := ok_of_bind h
      obtain ⟨_, -, h⟩ := ok_of_bind h
      cases hbar
      cases h
      rfl

/-- Where every database operation works, and there is a capital to measure against, a report is recorded. -/
theorem smallEnv_recordOutcome {price : ℚ} {place : OrderRequest → Except Raised BrokerOrderResult}
    {db : Db} {r : BrokerOrderResult} (hcapital : db.initialCapital ≠ 0) (stepPrice : ℚ) :
    recordOutcome (smallEnv price place) db stepPrice r = .ok () := by
  have hfault : ∀ o, (smallEnv price place).fault o = none := fun _ => rfl
  simp only [recordOutcome, snapshotOutcome, StepEnv.faultIf, hfault, ite_self, outcomeOf, ok_bind,
    if_neg hcapital]

/-- A broker that takes an order for a positive number of shares and fills nothing at once. -/
def acceptOrder (request : OrderRequest) : Except Raised BrokerOrderResult :=
  if 0 < request.quantity ∧ OnGrid 8 request.quantity then
    .ok { brokerOrderId := "broker-" ++ request.clientOrderId, status := "accepted", symbol := request.symbol,
          side := request.side, quantity := request.quantity, filledQuantity := 0, averageFillPrice := none,
          submittedAt := none, filledAt := none }
  else .error (runtimeError "quantity must be positive")

/-- A broker that fills such an order at once, at `price`. -/
def fillOrder (price : ℚ) (request : OrderRequest) : Except Raised BrokerOrderResult :=
  (acceptOrder request).map fun r =>
    { r with status := "filled", filledQuantity := request.quantity, averageFillPrice := some price }

/-- A sync in which every order is found filled with `quantity` shares at `price`. -/
def fillingSync (side : OrderSide) (quantity price : ℚ) : SyncEnv where
  now            := 0
  getOrderStatus := fun _ brokerOrderId => .ok
    { brokerOrderId, status := "filled", symbol := spySymbol, side, quantity, filledQuantity := quantity,
      averageFillPrice := some price, submittedAt := none, filledAt := none }

/-- A scheduled step at price 100, its order accepted and not filled. -/
def acceptedStep (slot : DateTime) : PaperCall := .nextStep (smallEnv 100 acceptOrder) .scheduled (some slot)

/-- The same, its order filled at once. -/
def filledStep (slot : DateTime) : PaperCall :=
  .nextStep (smallEnv 100 (fillOrder 100)) .scheduled (some slot)

theorem acceptOrder_eq_ok {request : OrderRequest} {r : BrokerOrderResult} (h : acceptOrder request = .ok r) :
    (0 < request.quantity ∧ OnGrid 8 request.quantity) ∧ r.side = request.side ∧
      r.quantity = request.quantity ∧ r.filledQuantity = 0 ∧ r.averageFillPrice = none := by
  unfold acceptOrder at h
  split at h
  · next hpos => cases h; exact ⟨hpos, rfl, rfl, rfl, rfl⟩
  · cases h

theorem fillOrder_eq_ok {price : ℚ} {request : OrderRequest} {r : BrokerOrderResult}
    (h : fillOrder price request = .ok r) : (0 < request.quantity ∧ OnGrid 8 request.quantity) ∧
      r.side = request.side ∧ r.quantity = request.quantity ∧ r.filledQuantity = request.quantity ∧
      r.averageFillPrice = some price := by
  unfold fillOrder at h
  cases ha : acceptOrder request with
  | error e => rw [ha] at h; cases h
  | ok r₀ =>
      obtain ⟨hpos, hside, hquantity, -, -⟩ := acceptOrder_eq_ok ha
      rw [ha] at h
      cases h
      exact ⟨hpos, hside, hquantity, rfl, rfl⟩

end TradingAI
