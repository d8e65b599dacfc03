import TradingAI.Execution.AuditTrail
import TradingAI.Execution.Calls
import TradingAI.Execution.HistoricalLedger
import TradingAI.Lib.SessionKeeps

/-!
# `Correctness.AuditTrails` — every trade and every completed step can be traced

Whatever the providers, the broker and the database do, every state that a run of an experiment commits has its
audit trail: in a paper run of steps and syncs, in a run of a historical orchestrator, and in a run of manual
historical steps (`runs_leave_audit_trails`).

## Contents
- `leaves_settle`, `leaves_dailyArtifacts`, …: a branch leaves the trail, and a risk check for its submission.
- `leaves_brokerExecution`: the execution files its rows under that risk check.
- `call_keepsTrail`: the calls of a paper run.
- `runStep_keepsTrail`: a historical step; `run_traced`, `stepNext_keepsTrail`: a run of them, a manual one.
-/

namespace TradingAI

open Session Outcome PaperBrokerSyncService

variable {env : StepEnv} {executionStepId : ℕ} {db : Db} {st : Store Db BrokerBook}

/-! ## The rows of a step -/

theorem leaves_op {o : DbOp} : (env.op o).Leaves (fun _ db' => db' = db) db := .mayRaise

theorem leaves_opIf {c : Bool} {o : DbOp} : (env.opIf c o).Leaves (fun _ db' => db' = db) db := .mayRaise

theorem leaves_loadRows {α : Type} {o : DbOp} {rows : Db → Option α} :
    (loadRows env o rows).Leaves (fun a db' => rows db = some a ∧ db' = db) db := by
  unfold loadRows
  refine .bind leaves_op ?_
  rintro _ _ rfl
  refine .bind .get ?_
  rintro _ _ ⟨rfl, rfl⟩
  exact .expect

theorem leaves_addMarketData (h : AuditTrail db) {timestamp : DateTime} {symbol : String} {price : ℚ}
    {movingAverage : Option ℚ} :
    (addMarketData env executionStepId timestamp symbol price movingAverage).Leaves
      (fun id db' => AuditTrail db' ∧ db'.Sees executionStepId id) db := by
  unfold addMarketData
  refine .bind .get ?_
  rintro _ _ ⟨rfl, rfl⟩
  refine .bind .modify ?_
  rintro _ _ rfl
  refine .bind leaves_op ?_
  rintro _ _ rfl
  exact .pure ⟨h.addMarketData _, _, List.mem_append_right _ (List.mem_singleton_self _), rfl, rfl⟩

theorem leaves_addDecision (h : AuditTrail db) {marketDataId : ℕ} (hsees : db.Sees executionStepId marketDataId)
    {sourceType : DecisionSourceType} {sourceName : String} {confidence : ℚ} {d : StrategyDecision} :
    (addDecision env executionStepId marketDataId sourceType sourceName confidence d).Leaves
      (fun id db' => AuditTrail db' ∧ db'.Decides executionStepId id) db := by
  unfold addDecision
  refine .bind .get ?_
  rintro _ _ ⟨rfl, rfl⟩
  refine .bind .modify ?_
  rintro _ _ rfl
  refine .bind leaves_op ?_
  rintro _ _ rfl
  exact .pure ⟨h.addDecision hsees, _, List.mem_append_right _ (List.mem_singleton_self _), rfl, rfl⟩

theorem leaves_addAgentLogs (h : AuditTrail db) {decisionId : ℕ} (hdecides : db.Decides executionStepId decisionId)
    {mode : AgentMode} {payloads : List AgentDecisionLogPayload} :
    (addAgentLogs env executionStepId decisionId mode payloads).Leaves
      (fun _ db' => AuditTrail db' ∧ db'.Decides executionStepId decisionId) db := by
  unfold addAgentLogs
  refine .bind .modify ?_
  rintro _ _ rfl
  refine .mono leaves_op ?_
  rintro _ _ rfl
  exact ⟨h.addAgentLogs hdecides _ _ _, hdecides⟩

theorem leaves_markEvent (h : AuditTrail db) {decisionId : ℕ} (hdecides : db.Decides executionStepId decisionId)
    {eventId : Option ℕ} : (markEventDecisionTriggered env eventId executionStepId decisionId).Leaves
      (fun _ db' => AuditTrail db' ∧ db'.Decides executionStepId decisionId) db := by
  unfold markEventDecisionTriggered
  refine .bind leaves_opIf ?_
  rintro _ db rfl
  refine .mono .modify ?_
  rintro _ _ rfl
  have hsame := SameTrail.markEvent db eventId executionStepId decisionId env.startedAt
  refine ⟨h.same hsame, ?_⟩
  unfold Db.Decides
  rw [hsame.decisions]
  exact hdecides

/-- A risk check that the broker is asked to execute permits an order. -/
theorem permits_of_requires {r : RiskResult} (h : requiresBrokerSubmission r = true) :
    r.approved = true ∧ (r.finalAction = .buy ∨ r.finalAction = .sell) := by
  unfold requiresBrokerSubmission at h
  rw [decide_eq_true_eq] at h
  exact ⟨h.1, h.2.1⟩

theorem leaves_addRiskCheck (h : AuditTrail db) {decisionId : ℕ} (hdecides : db.Decides executionStepId decisionId)
    {r : RiskResult} : (addRiskCheck env executionStepId decisionId r).Leaves
      (fun id db' => AuditTrail db' ∧ (∃ row ∈ db'.riskChecks, row.executionStepId = executionStepId) ∧
        (requiresBrokerSubmission r = true → db'.Clears executionStepId id)) db := by
  unfold addRiskCheck
  refine .bind .get ?_
  rintro _ db ⟨rfl, rfl⟩
  refine .bind .modify ?_
  rintro _ _ rfl
  refine .bind leaves_op ?_
  rintro _ _ rfl
  have hmem {row : RiskCheck} : row ∈ (db.addRiskCheck row).riskChecks :=
    List.mem_append_right _ (List.mem_singleton_self _)
  exact .pure ⟨h.addRiskCheck hdecides, ⟨_, hmem, rfl⟩, fun hrequires =>
    ⟨_, hmem, rfl, rfl, permits_of_requires hrequires⟩⟩

theorem leaves_persistSnapshotAndMetrics (h : AuditTrail db)
    (hcheck : ∃ row ∈ db.riskChecks, row.executionStepId = executionStepId) {experiment : Experiment}
    {portfolio : Portfolio} {price : ℚ} {timestamp : DateTime} {tradeId : Option ℕ} :
    (persistSnapshotAndMetrics env executionStepId experiment portfolio price timestamp tradeId).Leaves
      (fun _ db' => AuditTrail db' ∧ db'.Documents executionStepId) db := by
  unfold persistSnapshotAndMetrics
  refine .bind .modify ?_
  rintro _ _ rfl
  refine .bind leaves_op ?_
  rintro _ _ rfl
  refine .bind .get ?_
  rintro _ _ ⟨rfl, rfl⟩
  refine .bind leaves_op ?_
  rintro _ _ rfl
  refine .bind .ofExcept ?_
  rintro metrics _ ⟨-, rfl⟩
  refine .mono .modify ?_
  rintro _ _ rfl
  refine ⟨(h.writePortfolio _ _).addSnapshots _ _, hcheck, ?_, ?_⟩
  · exact ⟨_, List.mem_append_right _ (List.mem_singleton_self _), rfl⟩
  · exact ⟨_, List.mem_append_right _ (List.mem_singleton_self _), rfl⟩

/-! ## The branches -/

/-- What a branch leaves: the trail, and a risk check for what it submits. -/
def BranchLeaves (executionStepId : ℕ) (submission : Option Submission) (db : Db) : Prop :=
  AuditTrail db ∧ ∀ s, submission = some s → db.Clears executionStepId s.riskCheckId

theorem leaves_settle (h : AuditTrail db) {decisionId : ℕ} (hdecides : db.Decides executionStepId decisionId)
    {state : StepState} {r : RiskResult} {price : ℚ} {symbol : String} {timestamp : DateTime} :
    (settle env executionStepId state decisionId r price symbol timestamp).Leaves
      (BranchLeaves executionStepId) db := by
  unfold settle
  refine .bind (leaves_addRiskCheck h hdecides) ?_
  rintro riskCheckId checked ⟨htrail, hcheck, hclears⟩
  split
  · next hrequires =>
      refine .bind leaves_op ?_
      rintro _ _ rfl
      refine .pure ⟨htrail, ?_⟩
      rintro _ ⟨⟩
      exact hclears hrequires
  · refine .bind (leaves_persistSnapshotAndMetrics htrail hcheck) ?_
    rintro _ documented ⟨htrail, hdocuments⟩
    refine .bind .modify ?_
    rintro _ _ rfl
    refine .bind leaves_op ?_
    rintro _ _ rfl
    refine .pure ⟨htrail.completeStep hdocuments _, ?_⟩
    rintro _ ⟨⟩

theorem leaves_dailyArtifacts (h : AuditTrail db) :
    (dailyArtifacts env executionStepId).Leaves (BranchLeaves executionStepId) db := by
  unfold dailyArtifacts loadState
  refine .bind leaves_loadRows ?_
  rintro state _ ⟨-, rfl⟩
  refine .bind .ofExcept ?_
  rintro bar _ ⟨-, rfl⟩
  refine .bind .ofExcept ?_
  rintro movingAverage _ ⟨-, rfl⟩
  refine .bind (leaves_addMarketData h) ?_
  rintro marketDataId _ ⟨htrail, hsees⟩
  refine .bind (leaves_addDecision htrail hsees) ?_
  rintro decisionId _ ⟨htrail, hdecides⟩
  exact leaves_settle htrail hdecides

theorem leaves_orbArtifacts (h : AuditTrail db) {symbol : String} {bar : IntradayBar}
    {state : OpeningRangeBreakoutState} :
    (orbArtifacts env executionStepId symbol bar state).Leaves (BranchLeaves executionStepId) db := by
  unfold orbArtifacts loadState
  refine .bind leaves_loadRows ?_
  rintro state _ ⟨-, rfl⟩
  refine .bind (leaves_addMarketData h) ?_
  rintro marketDataId _ ⟨htrail, hsees⟩
  refine .bind (leaves_addDecision htrail hsees) ?_
  rintro decisionId _ ⟨htrail, hdecides⟩
  exact leaves_settle htrail hdecides

theorem leaves_agenticArtifacts (h : AuditTrail db) {eventId : Option ℕ} :
    (agenticArtifacts env executionStepId eventId).Leaves (BranchLeaves executionStepId) db := by
  unfold agenticArtifacts loadState
  refine .bind leaves_loadRows ?_
  rintro state _ ⟨-, rfl⟩
  refine .bind .ofExcept ?_
  rintro bar _ ⟨-, rfl⟩
  refine .bind .ofExcept ?_
  rintro _ _ ⟨-, rfl⟩
  refine .bind (leaves_addMarketData h) ?_
  rintro marketDataId _ ⟨htrail, hsees⟩
  refine .bind leaves_opIf ?_
  rintro _ _ rfl
  refine .bind .get ?_
  rintro _ _ ⟨rfl, rfl⟩
  refine .bind .ofExcept ?_
  rintro result _ ⟨-, rfl⟩
  refine .bind (leaves_addDecision htrail hsees) ?_
  rintro decisionId _ ⟨htrail, hdecides⟩
  refine .bind (leaves_addAgentLogs htrail hdecides) ?_
  rintro _ _ ⟨htrail, hdecides⟩
  refine .bind (leaves_markEvent htrail hdecides) ?_
  rintro _ _ ⟨htrail, hdecides⟩
  exact leaves_settle htrail hdecides

/-! ## Executing a submission -/

/-- What the provider hands over to be flushed: an order for the risk check, if the broker has answered, with
    a trade of it; otherwise no trade. -/
structure FlushesFor (executionStepId riskCheckId : ℕ) (result : PaperExecutionProvider.Result) : Prop where
  answered   : result.brokerResult.isSome = true → ∀ o, result.order = some o →
    o.executionStepId = executionStepId ∧ o.riskCheckId = riskCheckId ∧
      ∀ t, result.trade = some t → t.executionStepId = executionStepId ∧ t.symbol = o.symbol ∧ t.side = o.side
  unanswered : result.brokerResult.isSome = false → result.trade = none

theorem leaves_submit {request : OrderRequest} : (env.submit request).Leaves (fun _ db' => db' = db) db :=
  fun _ => StepEnv.wp_submit (fun _ _ => rfl) fun _ _ => trivial

/-- The trade of an answer is of its order. -/
theorem immediateFill_of_order {r : BrokerOrderResult} {p : Portfolio} {timestamp now : DateTime} {t : Trade}
    (h : (PaperExecutionProvider.immediateFill r p executionStepId timestamp now).2 = some t) :
    t.executionStepId = executionStepId ∧ t.symbol = r.symbol ∧ t.side = r.side := by
  unfold PaperExecutionProvider.immediateFill at h
  cases hprice : r.averageFillPrice with
  | none =>
      rw [hprice] at h
      cases h
  | some price =>
      rw [hprice] at h
      dsimp only at h
      split at h
      · cases h
        exact ⟨rfl, rfl, rfl⟩
      · cases h

theorem leaves_executeIfApplicable {r : RiskResult} {p : Portfolio} {riskCheckId : ℕ} {symbol : String}
    {timestamp now : DateTime} :
    (PaperExecutionProvider.executeIfApplicable env r p executionStepId riskCheckId symbol timestamp now).Leaves
      (fun result db' => FlushesFor executionStepId riskCheckId result ∧ db' = db) db := by
  unfold PaperExecutionProvider.executeIfApplicable
  cases PaperExecutionProvider.applicableQuantity r with
  | none =>
      refine .pure ⟨⟨?_, fun _ => rfl⟩, rfl⟩
      rintro ⟨⟩
  | some quantity =>
      dsimp only
      refine .bind leaves_op ?_
      rintro _ _ rfl
      refine .bind .get ?_
      rintro _ db ⟨rfl, rfl⟩
      cases db.existingOrder executionStepId riskCheckId with
      | some order =>
          refine .pure ⟨⟨?_, fun _ => rfl⟩, rfl⟩
          rintro ⟨⟩
      | none =>
          dsimp only
          refine .bind .ofExcept ?_
          rintro side _ ⟨-, rfl⟩
          refine .bind leaves_submit ?_
          rintro report _ rfl
          refine .pure ⟨⟨?_, ?_⟩, rfl⟩
          · rintro - _ ⟨⟩
            exact ⟨rfl, rfl, fun t ht => immediateFill_of_order ht⟩
          · rintro ⟨⟩

theorem leaves_flushExecution (h : AuditTrail db) {riskCheckId : ℕ}
    (hclears : db.Clears executionStepId riskCheckId) {result : PaperExecutionProvider.Result}
    (hresult : FlushesFor executionStepId riskCheckId result) :
    (flushExecution env result).Leaves
      (fun _ db' => AuditTrail db' ∧ ∃ row ∈ db'.riskChecks, row.executionStepId = executionStepId) db := by
  have hcheck : ∃ row ∈ db.riskChecks, row.executionStepId = executionStepId := by
    obtain ⟨row, hrow, -, hstep, -⟩ := hclears
    exact ⟨row, hrow, hstep⟩
  obtain ⟨order, trade, brokerResult, rejected, portfolio⟩ := result
  unfold flushExecution
  cases order with
  | none => exact .pure ⟨h, hcheck⟩
  | some order =>
      dsimp only
      refine .bind .get ?_
      rintro _ _ ⟨rfl, rfl⟩
      refine .bind leaves_op ?_
      rintro _ db rfl
      cases brokerResult with
      | none =>
          -- the order was there already
          obtain rfl : trade = none := hresult.unanswered rfl
          exact .pure ⟨h, hcheck⟩
      | some report =>
          obtain ⟨horderStep, hrisk, htrade⟩ := hresult.answered rfl order rfl
          refine .bind .modify ?_
          rintro _ _ rfl
          have hadded : AuditTrail (db.addOrder order) := h.addOrder (by rw [horderStep, hrisk]; exact hclears)
          cases trade with
          | none => exact .pure ⟨hadded, hcheck⟩
          | some trade =>
              obtain ⟨htradeStep, hsymbol, hside⟩ := htrade trade rfl
              dsimp only
              refine .bind .get ?_
              rintro _ _ ⟨rfl, rfl⟩
              refine .bind leaves_op ?_
              rintro _ _ rfl
              refine .bind .modify ?_
              rintro _ _ rfl
              refine .pure ⟨hadded.addTrade ?_, hcheck⟩
              exact ⟨_, List.mem_append_right _ (List.mem_singleton_self _), rfl, horderStep.trans htradeStep.symm,
                hsymbol.symm, hside.symm⟩

theorem leaves_brokerExecution (h : AuditTrail db) {s : Submission}
    (hclears : db.Clears executionStepId s.riskCheckId) :
    (brokerExecution env executionStepId s).Leaves (fun _ db' => AuditTrail db') db := by
  unfold brokerExecution loadBrokerState
  refine .bind leaves_loadRows ?_
  rintro ⟨experiment, portfolio⟩ _ ⟨-, rfl⟩
  refine .bind leaves_executeIfApplicable ?_
  rintro result _ ⟨hresult, rfl⟩
  refine .bind (leaves_flushExecution h hclears hresult) ?_
  rintro tradeId _ ⟨htrail, hcheck⟩
  refine .bind (leaves_persistSnapshotAndMetrics htrail hcheck) ?_
  rintro _ documented ⟨htrail, hdocuments⟩
  refine .bind .modify ?_
  rintro _ _ rfl
  refine .bind leaves_op ?_
  rintro _ _ rfl
  refine .pure ?_
  unfold Db.finishStep
  cases controlledOrderFailure result.brokerResult with
  | none         => exact htrail.completeStep hdocuments _
  | some failure => exact ((htrail.failStep _ _).failExperiment _).addSystemEvent _

/-! ## The calls of a paper run -/

theorem leaves_createStep (h : AuditTrail db) {triggerType : TriggerType} {scheduledFor : Option DateTime} :
    (createStep env triggerType scheduledFor).Leaves (fun _ db' => AuditTrail db') db := by
  unfold createStep
  refine .bind leaves_op ?_
  rintro _ _ rfl
  refine .bind .get ?_
  rintro _ _ ⟨rfl, rfl⟩
  refine .bind .expect ?_
  rintro experiment _ ⟨-, rfl⟩
  refine .bind .require ?_
  rintro _ _ ⟨-, rfl⟩
  refine .bind leaves_op ?_
  rintro _ _ rfl
  refine .bind .require ?_
  rintro _ _ ⟨-, rfl⟩
  refine .bind .require ?_
  rintro _ _ ⟨-, rfl⟩
  refine .bind leaves_op ?_
  rintro _ _ rfl
  refine .bind .require ?_
  rintro _ _ ⟨-, rfl⟩
  refine .bind leaves_op ?_
  rintro _ _ rfl
  refine .bind .require ?_
  rintro _ _ ⟨-, rfl⟩
  refine .bind leaves_opIf ?_
  rintro _ _ rfl
  refine .bind .require ?_
  rintro _ _ ⟨-, rfl⟩
  refine .bind leaves_op ?_
  rintro _ _ rfl
  refine .bind .modify ?_
  rintro _ _ rfl
  refine .bind leaves_op ?_
  rintro _ _ rfl
  exact .pure (h.insertStep _ _ _ _)

theorem keeps_openStep (hst : st.Keeps AuditTrail) {triggerType : TriggerType} {scheduledFor : Option DateTime} :
    (openStep env triggerType scheduledFor).KeepsState AuditTrail (fun _ _ => True) st := by
  unfold openStep validateAndCreateStep
  refine .bind (.ofExcept (R := fun _ _ => True) hst fun _ _ => trivial) ?_
  intro _ st' hst' _
  split
  · exact .raise hst'
  · exact .withSession hst' ((leaves_createStep hst'.1).mono fun _ _ htrail => ⟨htrail, trivial⟩)

/-- A branch, and the execution of what it submits. -/
theorem keeps_branch {artifacts : DbTx (Option Submission)} (hst : st.Keeps AuditTrail)
    (h : artifacts.Leaves (BranchLeaves executionStepId) st.current) :
    (do let submission ← Proc.withSession artifacts
        continueWith env executionStepId submission : DbProc (Option PaperStepFailure)).KeepsState AuditTrail
      (fun _ _ => True) st := by
  refine .bind (.withSession hst h) ?_
  rintro (_ | s) st' hst' hsubmission
  · exact .pure hst' trivial
  · exact .withSession hst' ((leaves_brokerExecution hst'.1 (hsubmission s rfl)).mono fun _ _ htrail => ⟨htrail, trivial⟩)

theorem keeps_runStepArtifacts (hst : st.Keeps AuditTrail) {eventId : Option ℕ} :
    (runStepArtifacts env executionStepId eventId).KeepsState AuditTrail (fun _ _ => True) st := by
  unfold runStepArtifacts
  refine .bind (.readSession hst) ?_
  intro strategyType st' hst' _
  cases strategyType with
  | openingRangeBreakout =>
      unfold runOrbStepArtifacts
      refine .bind (.readSession hst') ?_
      intro slot st' hst' _
      refine .bind (.ofExcept (R := fun _ _ => True) hst' fun _ _ => trivial) ?_
      intro bars st' hst' _
      refine .bind (.ofExcept (R := fun _ _ => True) hst' fun _ _ => trivial) ?_
      intro bar st' hst' _
      refine .bind (.readSession hst') ?_
      intro state st' hst' _
      exact keeps_branch hst' (leaves_orbArtifacts hst'.1)
  | agenticAi => exact keeps_branch hst' (leaves_agenticArtifacts hst'.1)
  | buyAndHold | movingAverage | paperTradingSmokeTest => exact keeps_branch hst' (leaves_dailyArtifacts hst'.1)

theorem keeps_handleFailure {α : Type} {R : α → Db → Prop} (hst : st.Keeps AuditTrail) {step : Option ℕ} {e : Raised} :
    (handleFailure (α := α) env step e).KeepsState AuditTrail R st := by
  unfold handleFailure
  split
  · exact .raise hst
  · next record raised _ =>
      have hrecord : (persistFailure env step record).KeepsState AuditTrail (fun _ _ => True) st := by
        refine .withSession hst (.bind leaves_op ?_)
        rintro _ _ rfl
        refine .mono .modify ?_
        rintro _ _ rfl
        exact ⟨hst.1.recordFailure _ _ _, trivial⟩
      exact .bind hrecord fun _ _ hst' _ => .raise hst'

theorem keeps_runNextStep (hst : st.Keeps AuditTrail) {triggerType : TriggerType} {scheduledFor : Option DateTime} :
    (runNextStep env triggerType scheduledFor).KeepsState AuditTrail (fun _ _ => True) st := by
  unfold runNextStep
  refine .bind (.attempt (keeps_openStep hst)) ?_
  intro opened st' hst' _
  cases opened with
  | error e => exact keeps_handleFailure hst'
  | ok executionStepId =>
      refine .bind (.attempt (keeps_runStepArtifacts hst')) ?_
      intro ran st' hst' _
      cases ran with
      | error e    => exact keeps_handleFailure hst'
      | ok failure => exact .pure hst' trivial

theorem keeps_runEventStep (hst : st.Keeps AuditTrail) {eventId : ℕ} {scheduledFor : Option DateTime} :
    (runEventStep env eventId scheduledFor).KeepsState AuditTrail (fun _ _ => True) st := by
  unfold runEventStep
  refine .bind (keeps_openStep hst) ?_
  intro executionStepId st' hst' _
  refine .bind (keeps_runStepArtifacts hst') ?_
  intro failure st' hst' _
  exact .pure hst' trivial

/-! ## A sync -/

/-- A report is booked under the order it is about. -/
theorem AuditTrail.applyReport (h : AuditTrail db) {o : Order} (ho : o ∈ db.orders) (portfolio : PortfolioRow)
    (status : OrderStatus) (r : BrokerOrderResult) (now : DateTime) :
    AuditTrail (applyReport db o portfolio status r now) := by
  have hsynced : AuditTrail (db.updateOrder o.id (syncedOrder r status)) :=
    h.updateOrder o.id fun _ => ⟨rfl, rfl, rfl, rfl, rfl⟩
  unfold PaperBrokerSyncService.applyReport
  cases unbookedFill db o.id r with
  | none => exact hsynced.addBrokerSyncLog _
  | some entry =>
      have hportfolio : AuditTrail
          { db.updateOrder o.id (syncedOrder r status) with
            portfolio := some (bookDelta o portfolio.load entry.1 entry.2 now).row } :=
        hsynced.same ⟨rfl, rfl, rfl, rfl, rfl, rfl, rfl, rfl, rfl⟩
      refine AuditTrail.addBrokerSyncLog (hportfolio.addTrade ?_) _
      exact ⟨_, List.mem_map_of_mem ho, by rw [if_pos rfl]; exact ⟨rfl, rfl, rfl, rfl⟩⟩

theorem leaves_persistOrderSync (h : AuditTrail db) {senv : SyncEnv} {orderId : ℕ} {r : BrokerOrderResult} :
    (persistOrderSync senv orderId r).Leaves (fun _ db' => AuditTrail db') db := by
  unfold persistOrderSync
  refine .bind .mayRaise ?_
  rintro _ _ rfl
  refine .bind .get ?_
  rintro _ _ ⟨rfl, rfl⟩
  refine .bind .expect ?_
  rintro order _ ⟨horder, rfl⟩
  refine .bind .expect ?_
  rintro portfolio _ ⟨-, rfl⟩
  cases PaperBrokerSyncService.mapOrderStatus r.status with
  | none =>
      refine .bind .modify ?_
      rintro _ _ rfl
      exact .pure (h.addBrokerSyncLog _)
  | some status =>
      refine .bind .modify ?_
      rintro _ _ rfl
      exact .pure (h.applyReport (List.mem_of_find?_eq_some horder) _ _ _ _)

theorem leaves_persistSyncFailure (h : AuditTrail db) {senv : SyncEnv} {orderId : ℕ} {message : String}
    {details : Details} :
    (persistSyncFailure senv orderId message details).Leaves (fun _ db' => AuditTrail db') db := by
  unfold persistSyncFailure
  refine .bind .mayRaise ?_
  rintro _ _ rfl
  refine .bind .get ?_
  rintro _ _ ⟨rfl, rfl⟩
  refine .bind .expect ?_
  rintro order _ ⟨-, rfl⟩
  refine .bind .modify ?_
  rintro _ _ rfl
  exact .pure (h.addBrokerSyncLog _)

theorem keeps_syncOrder (hst : st.Keeps AuditTrail) {senv : SyncEnv} {o : Order} :
    (syncOrder senv o).KeepsState AuditTrail (fun _ _ => True) st := by
  unfold syncOrder
  refine .tryCatch (.bind (.ofExcept (R := fun _ _ => True) hst fun _ _ => trivial) ?_) ?_
  · intro r st' hst' _
    exact .withSession hst' ((leaves_persistOrderSync hst'.1).mono fun _ _ htrail => ⟨htrail, trivial⟩)
  · intro e st' hst'
    split
    · exact .withSession hst' ((leaves_persistSyncFailure hst'.1).mono fun _ _ htrail => ⟨htrail, trivial⟩)
    · exact .raise hst'

theorem keeps_syncOrders {senv : SyncEnv} {orders : List Order} (hst : st.Keeps AuditTrail) :
    (syncOrders senv orders).KeepsState AuditTrail (fun _ _ => True) st := by
  induction orders generalizing st with
  | nil => exact .pure hst trivial
  | cons o orders ih =>
      unfold syncOrders
      refine .bind (keeps_syncOrder hst) ?_
      intro r st' hst' _
      refine .bind (ih hst') ?_
      intro rest st' hst' _
      exact .pure hst' trivial

theorem keeps_syncOpenOrders (hst : st.Keeps AuditTrail) {senv : SyncEnv} :
    (syncOpenOrders senv).KeepsState AuditTrail (fun _ _ => True) st := by
  unfold syncOpenOrders
  refine .bind (.ofExcept (R := fun _ _ => True) hst fun _ _ => trivial) ?_
  intro _ st' hst' _
  refine .bind (.readSession hst') ?_
  intro orders st' hst' _
  exact keeps_syncOrders hst'

/-- **Any call of a paper run** keeps the trail. -/
theorem call_keepsTrail (hst : st.Keeps AuditTrail) (c : PaperCall) : (c.exec st).Keeps AuditTrail := by
  cases c with
  | nextStep env triggerType scheduledFor => exact (keeps_runNextStep hst).exec
  | eventStep env eventId scheduledFor    => exact (keeps_runEventStep hst).exec
  | sync env                              => exact (keeps_syncOpenOrders hst).exec

theorem calls_keepTrail (h : AuditTrail db) (calls : List PaperCall) : (runCalls calls db).Keeps AuditTrail := by
  have hstep : ∀ c (st : Store Db BrokerBook), st.Keeps AuditTrail → True → (PaperCall.exec c st).Keeps AuditTrail :=
    fun c _ hst _ => call_keepsTrail hst c
  have hmeet : Runs.AllMeet PaperCall.exec (fun _ _ => True) calls (Store.opened db {}) :=
    Runs.allMeet_iff_forall.mpr fun _ _ => trivial
  exact Runs.run_keeps hstep hmeet (.opened h)

/-! ## A historical step -/

/-- The rows of a decision refer to each other. -/
theorem AuditTrail.recordDecision (h : AuditTrail db) (s : BarStep) (now : DateTime) (d : StrategyDecision)
    (r : RiskResult) : AuditTrail (db.recordDecision s executionStepId now d r) := by
  refine ((h.addMarketData _).addDecision ?_).addRiskCheck ?_
  · exact ⟨_, List.mem_append_right _ (List.mem_singleton_self _), rfl, rfl⟩
  · exact ⟨_, List.mem_append_right _ (List.mem_singleton_self _), rfl, rfl⟩

theorem evaluate_approved (d : StrategyDecision) (p : Portfolio) (price : ℚ) :
    (evaluate d p price).approved = true := by
  unfold evaluate
  split
  · rfl
  · cases d.action with
    | hold => rfl
    | sell => dsimp only; split <;> rfl
    | buy  => dsimp only; split <;> rfl

/-- What a historical execution hands over: an order of a BUY or a SELL, with a trade of it, or neither. -/
theorem execution_order {s : BarStep} {p : Portfolio} {riskCheckId : ℕ} {now : DateTime} {o : Order} {t : Trade}
    (ho : (s.execution p executionStepId riskCheckId now).order = some o)
    (ht : (s.execution p executionStepId riskCheckId now).trade = some t) :
    ((s.riskResult p).finalAction = .buy ∨ (s.riskResult p).finalAction = .sell) ∧
      (o.executionStepId = executionStepId ∧ o.riskCheckId = riskCheckId) ∧
      o.executionStepId = t.executionStepId ∧ o.symbol = t.symbol ∧ o.side = t.side := by
  unfold BarStep.execution SimulationExecutionProvider.executeIfApplicable at ho ht
  cases haction : (s.riskResult p).finalAction with
  | hold =>
      rw [haction] at ho
      cases ho
  | buy =>
      rw [haction] at ho ht
      cases hquantity : (s.riskResult p).finalQuantity with
      | none =>
          rw [hquantity] at ho
          cases ho
      | some q =>
          rw [hquantity] at ho ht
          cases ho
          cases ht
          exact ⟨.inl rfl, ⟨rfl, rfl⟩, rfl, rfl, rfl⟩
  | sell =>
      rw [haction] at ho ht
      cases hquantity : (s.riskResult p).finalQuantity with
      | none =>
          rw [hquantity] at ho
          cases ho
      | some q =>
          rw [hquantity] at ho ht
          cases ho
          cases ht
          exact ⟨.inr rfl, ⟨rfl, rfl⟩, rfl, rfl, rfl⟩

/-- The rows of an execution refer to the risk check of its step. -/
theorem AuditTrail.recordExecution {now : DateTime} {s : BarStep} {p : Portfolio} {riskCheckId : ℕ}
    (h : AuditTrail db) (hcheck : ∃ r ∈ db.riskChecks, r.id = riskCheckId ∧ r.executionStepId = executionStepId ∧
      r.approved = true ∧ r.finalAction = (s.riskResult p).finalAction) :
    AuditTrail (db.recordExecution (s.execution p executionStepId riskCheckId now)) := by
  unfold Db.recordExecution
  split
  · next o t ho ht =>
      obtain ⟨hpermits, ⟨hstep, hrisk⟩, htrade⟩ := execution_order ho ht
      obtain ⟨r, hr, hid, hrstep, happroved, haction⟩ := hcheck
      refine AuditTrail.addTrade (h.addOrder ?_) ?_
      · rw [hstep, hrisk]
        exact ⟨r, hr, hid, hrstep, happroved, haction ▸ hpermits⟩
      · exact ⟨_, List.mem_append_right _ (List.mem_singleton_self _), rfl, htrade⟩
  · exact h

/-- The completed step is documented. -/
theorem AuditTrail.recordResult {db' : Db} {initialCapital : ℚ} {s : BarStep} {now : DateTime} {p : Portfolio}
    {tradeId : Option ℕ} (h : AuditTrail db) (hcheck : ∃ r ∈ db.riskChecks, r.executionStepId = executionStepId)
    (hresult : db.recordResult initialCapital s executionStepId now p tradeId = .ok db') : AuditTrail db' := by
  obtain ⟨metrics, -, hdb⟩ := ok_of_bind hresult
  cases hdb
  refine ((h.writePortfolio _ _).addSnapshots _ _).completeStep ⟨hcheck, ?_, ?_⟩ _
  · exact ⟨_, List.mem_append_right _ (List.mem_singleton_self _), rfl⟩
  · exact ⟨_, List.mem_append_right _ (List.mem_singleton_self _), rfl⟩

theorem runStep_keepsTrail {db' : Db} {s : BarStep} {now : DateTime} {completed : Bool} (h : AuditTrail db)
    (hrun : runStep s executionStepId now db = .ok (db', completed)) : AuditTrail db' := by
  unfold runStep at hrun
  split at hrun
  · next e row config _ _ _ =>
      split at hrun
      · cases hrun
      · obtain ⟨db'', hresult, heq⟩ := ok_of_bind hrun
        cases heq
        have hdecided : AuditTrail (db.recordDecision s executionStepId now (s.decide row.load.positionQuantity)
            (s.riskResult row.load)) := h.recordDecision s now _ _
        have happroved : (s.riskResult row.load).approved = true := evaluate_approved _ _ _
        have hmem {r : RiskCheck} : r ∈ db.riskChecks ++ [r] := List.mem_append_right _ (List.mem_singleton_self _)
        have hexecuted : AuditTrail ((db.recordDecision s executionStepId now (s.decide row.load.positionQuantity)
            (s.riskResult row.load)).recordExecution (s.execution row.load executionStepId (db.nextId + 2) now)) :=
          hdecided.recordExecution ⟨_, hmem, rfl, rfl, happroved, rfl⟩
        refine hexecuted.recordResult ⟨(s.riskResult row.load).row (db.nextId + 2) executionStepId (db.nextId + 1) now,
          ?_, rfl⟩ hresult
        rw [(recordExecution_spec _ _).2.2.2.2.1]
        exact hmem
  · cases hrun

/-! ## A historical run -/

/-- The database of a run has the trail, and so has every state that a completed step left. -/
def RunState.Traced (rs : RunState) : Prop := AuditTrail rs.db ∧ ∀ r ∈ rs.history, AuditTrail r.db

theorem runBar_traced {rs : RunState} (h : rs.Traced) (clock : StepClock) (s : BarStep) :
    (rs.runBar clock s).1.Traced := by
  have hopened : AuditTrail (rs.db.addNextStep .historical s.timestamp clock.createdAt) := h.1.insertStep _ _ _ _
  unfold RunState.runBar
  dsimp only
  split
  · next db' completed hrun =>
      have hafter := runStep_keepsTrail hopened hrun
      refine ⟨hafter, fun r hr => ?_⟩
      rcases List.mem_append.mp hr with hr | hr
      · exact h.2 r hr
      · rw [List.mem_singleton.mp hr]
        exact hafter
  · exact ⟨hopened, h.2⟩

theorem runSteps_traced {clock : ℕ → StepClock} {steps : List (Bool → BarStep)} {b : Bool} {rs : RunState}
    (h : rs.Traced) : (runSteps clock steps b rs).Traced := by
  induction steps generalizing b rs with
  | nil => exact h
  | cons step steps ih =>
      rw [runSteps]
      cases rs.raised with
      | some _ => exact h
      | none   => exact ih (runBar_traced h _ _)

theorem runSessions_traced {clock : ℕ → StepClock} {sessions : List (List IntradayBar)} {rs : RunState}
    (h : rs.Traced) : (runSessions clock sessions rs).Traced := by
  induction sessions generalizing rs with
  | nil => exact h
  | cons sessionBars sessions ih =>
      rw [runSessions]
      cases rs.raised with
      | some _ => exact h
      | none =>
          cases openingRange sessionBars with
          | error e  => exact h
          | ok range => exact ih (runSteps_traced h)

theorem close_traced {o : HistoricalOrchestrator} {henv : HistoricalEnv} {rs : RunState} (h : rs.Traced) :
    (o.close henv rs).Traced := by
  unfold HistoricalOrchestrator.close
  cases rs.raised with
  | some failure =>
      dsimp only
      split
      · exact h
      · exact ⟨h.1.recordHistoricalFailure _ _ _ _, h.2⟩
  | none =>
      dsimp only
      cases rs.db.experiment with
      | some e => exact ⟨h.1.completeExperiment _, h.2⟩
      | none   => exact ⟨h.1.recordHistoricalFailure _ _ _ _, h.2⟩

/-- **A run of any orchestrator**, however it ends. -/
theorem run_traced (h : AuditTrail db) (o : HistoricalOrchestrator) (henv : HistoricalEnv) :
    (o.run henv db).Traced := by
  have hstart (raised : Option (Option ℕ × Raised)) : RunState.Traced { db, raised } := by
    refine ⟨h, fun r hr => ?_⟩
    cases hr
  have hloop : ∀ e rs, o.loop henv e db = .ok rs → rs.Traced := by
    intro e rs hrun
    cases o with
    | buyAndHold =>
        obtain ⟨bars, -, hrun⟩ := ok_of_bind hrun
        cases hrun
        exact runSteps_traced (hstart none)
    | movingAverage =>
        obtain ⟨bars, -, hrun⟩ := ok_of_bind hrun
        obtain ⟨window, -, hrun⟩ := ok_of_bind hrun
        cases hrun
        exact runSteps_traced (hstart none)
    | openingRangeBreakout =>
        obtain ⟨bars, -, hrun⟩ := ok_of_bind hrun
        cases hrun
        exact runSessions_traced (hstart none)
  unfold HistoricalOrchestrator.run
  cases db.experiment with
  | none => exact close_traced (hstart _)
  | some e =>
      dsimp only
      cases hrun : o.loop henv e db with
      | ok rs   => exact close_traced (hloop e rs hrun)
      | error e => exact close_traced (hstart _)

/-! ## Manual steps -/

theorem AuditTrail.markCompleted (h : AuditTrail db) (e : Experiment) (now : DateTime) :
    AuditTrail (db.markCompleted e now) := by
  unfold Db.markCompleted
  split
  · exact h
  · exact h.completeExperiment now

variable {renv : StepRunnerEnv}

theorem AuditTrail.failHistorical (h : AuditTrail db) (step : Option ℕ) (e : Raised) :
    AuditTrail (failHistorical renv step e db).1 := by
  unfold TradingAI.failHistorical
  dsimp only
  split
  · exact h.recordHistoricalFailure _ _ _ _
  · exact h

theorem select_keepsTrail {t : TriggerType} {db' : Db} {selected : Option SelectedBar} (h : AuditTrail db)
    (hselect : selectBarAndCreateStep renv t db = .ok (db', selected)) : AuditTrail db' := by
  unfold selectBarAndCreateStep at hselect
  split at hselect
  · cases hselect
  · split_ifs at hselect
    obtain ⟨bars, -, hselect⟩ := ok_of_bind hselect
    dsimp only at hselect
    split at hselect
    · cases hselect
      exact h.markCompleted _ _
    · cases hselect
      exact h.insertStep _ _ _ _

theorem artifacts_keepTrail {bar : DailyBar} {db' : Db} (h : AuditTrail db)
    (hrun : runHistoricalStepArtifacts renv bar executionStepId db = .ok db') : AuditTrail db' := by
  unfold runHistoricalStepArtifacts at hrun
  split at hrun
  · cases hrun
  · split at hrun
    · obtain ⟨⟨db'', completed⟩, hstep, hrun⟩ := ok_of_bind hrun
      cases hrun
      exact runStep_keepsTrail h hstep
    · obtain ⟨prices, -, hrun⟩ := ok_of_bind hrun
      obtain ⟨window, -, hrun⟩ := ok_of_bind hrun
      obtain ⟨⟨db'', completed⟩, hstep, hrun⟩ := ok_of_bind hrun
      cases hrun
      exact runStep_keepsTrail h hstep

theorem finish_keepsTrail {selected : SelectedBar} (h : AuditTrail db) :
    AuditTrail (finishHistoricalStep renv selected db).1 := by
  unfold finishHistoricalStep
  dsimp only
  split
  · exact h.failHistorical _ _
  · exact h
  · cases hcomplete : completeHistorical renv db with
    | error e => exact h.failHistorical _ _
    | ok db' =>
        unfold completeHistorical at hcomplete
        split at hcomplete
        · cases hcomplete
        · cases hcomplete
          exact h.markCompleted _ _

theorem stepNext_keepsTrail (h : AuditTrail db) (t : TriggerType) : AuditTrail (runNextHistoricalStep renv t db).1 := by
  unfold runNextHistoricalStep
  split
  · exact h.failHistorical _ _
  · next hselect => exact select_keepsTrail h hselect
  · next hselect =>
      have hselected := select_keepsTrail h hselect
      split
      · exact hselected.failHistorical _ _
      · next hrun => exact finish_keepsTrail (artifacts_keepTrail hselected hrun)

theorem stepThrough_keepsTrail (h : AuditTrail db) (calls : List StepperCall) : AuditTrail (stepThrough calls db) := by
  unfold stepThrough
  induction calls generalizing db with
  | nil => exact h
  | cons call calls ih => exact ih (stepNext_keepsTrail h call.triggerType)

/-! ## Every run -/

/-- **Every run leaves an audit trail.** An experiment that starts with it, for example without any step, has it
    in every state that paper steps, event steps and syncs commit, after every step and at the end of every
    historical run, and after any number of manual steps. -/
theorem runs_leave_audit_trails (h : AuditTrail db) :
    (∀ calls, (runCalls calls db).Keeps AuditTrail) ∧
      (∀ (o : HistoricalOrchestrator) henv, AuditTrail (o.run henv db).db ∧
        ∀ r ∈ (o.run henv db).history, AuditTrail r.db) ∧
      ∀ calls, AuditTrail (stepThrough calls db) :=
  ⟨calls_keepTrail h, run_traced h, stepThrough_keepsTrail h⟩

/-- A paper experiment with an executed step, and its rows. -/
theorem smallDb_leaves_audit_trails :
    (∀ calls, (runCalls calls (smallDb .buyAndHold .daily)).Keeps AuditTrail) ∧
      (runCalls [filledStep 0] (smallDb .buyAndHold .daily)).current.trades.length = 1 ∧
      (runCalls [filledStep 0] (smallDb .buyAndHold .daily)).current.riskChecks.length = 1 ∧
      (runCalls [filledStep 0] (smallDb .buyAndHold .daily)).current.steps.map ExecutionStep.status = [.completed] :=
  ⟨(runs_leave_audit_trails (.initial rfl rfl rfl rfl rfl rfl)).1, by decide +kernel, by decide +kernel, by decide +kernel⟩

end TradingAI
