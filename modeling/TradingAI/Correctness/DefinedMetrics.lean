import TradingAI.Correctness.StatusChanges
import TradingAI.Execution.HistoricalLedger
import TradingAI.Experiments.Creation

/-!
# `Correctness.DefinedMetrics` — when the metrics of an experiment are defined

Every step ends with metrics that divide by the initial capital of the experiment's row. The request was
checked to have a positive capital, but the row has it rounded to four places, half away from zero: what is
under half a unit of the last place becomes zero. Nothing that runs later writes the column, so the row's
capital is the same in every state of every run, and the question is decided at the creation.

## Contents
- `MetricsDefined`, `metricsDefined_iff`: no step of a database fails in the metrics.
- `Publishes.capital`, `capital_kept`: no statement of any thread changes the capital, so no run does.
- `metrics_defined_iff`: which accepted requests lead to defined metrics only.
- `accepted_capital_divides_by_zero`: one that does not.
-/

namespace TradingAI

open Session Transactions Outcome Rounding

/-! ## Defined metrics -/

/-- **No step fails in the metric computation**, whichever goes on from this database. The capital it calls
    `calculate` with is not zero; so the snapshots of a paper step, and what follows the broker's report on
    its trade, raise only what the database raises, and a historical step raises only if it misses a row. -/
structure MetricsDefined (db : Db) : Prop where
  capital    : ∀ e, db.experiment = some e → e.initialCapital.val ≠ 0
  paper      : ∀ env executionStepId e portfolio price timestamp tradeId db' book, db.experiment = some e →
    (persistSnapshotAndMetrics env executionStepId e portfolio price timestamp tradeId).wp (fun _ _ _ => True)
      (fun raised _ => ∃ o, env.fault o = some raised) db' book
  traded     : ∀ env price r raised, recordOutcome env db price r = .error raised → ∃ o, env.fault o = some raised
  historical : ∀ s executionStepId now raised, runStep s executionStepId now db = .error raised →
    db.portfolio = none ∨ db.strategyConfig = none ∨ db.getStep executionStepId = none

section
variable {db : Db} {env : StepEnv} {e : Experiment} {raised : Raised}

theorem calculate_defined {capital : ℚ} (h : capital ≠ 0) (value : ℚ) (previous : List ℚ) (n : ℕ) :
    ∃ metrics, BasicMetricCalculator.calculate capital value previous n = .ok metrics := by
  unfold BasicMetricCalculator.calculate
  dsimp only
  rw [if_neg h]
  exact ⟨_, rfl⟩

theorem fault_of_outcome {fault : Option Raised} (h : outcomeOf fault = .error raised) : fault = some raised := by
  cases fault with
  | none => cases h
  | some e =>
      cases h
      rfl

theorem persist_defined (h : e.initialCapital.val ≠ 0) (executionStepId : ℕ) (portfolio : Portfolio) (price : ℚ)
    (timestamp : DateTime) (tradeId : Option ℕ) (db : Db) (book : BrokerBook) :
    (persistSnapshotAndMetrics env executionStepId e portfolio price timestamp tradeId).wp (fun _ _ _ => True)
      (fun raised _ => ∃ o, env.fault o = some raised) db book := by
  unfold persistSnapshotAndMetrics
  simp only [Tx.wp_bind, Tx.wp_get, Tx.wp_modify]
  refine Tx.wp_mayRaise (fun _ => ?_) fun _ hfault => ⟨_, hfault⟩
  refine Tx.wp_mayRaise (fun _ => ?_) fun _ hfault => ⟨_, hfault⟩
  refine Tx.wp_ofExcept (fun _ _ => trivial) fun raised hraised => ?_
  obtain ⟨metrics, hmetrics⟩ := calculate_defined h _ _ _
  rw [hmetrics] at hraised
  cases hraised

theorem recordOutcome_defined (h : db.initialCapital ≠ 0) (price : ℚ) (r : BrokerOrderResult)
    (hraised : recordOutcome env db price r = .error raised) : ∃ o, env.fault o = some raised := by
  let Fault (raised : Raised) : Prop := ∃ o, env.fault o = some raised
  have hop : ∀ o raised, outcomeOf (env.fault o) = .error raised → Fault raised :=
    fun o _ h => ⟨o, fault_of_outcome h⟩
  have htrade : ∀ raised, outcomeOf (env.faultIf (immediateEntry r 0).isSome .flushTrade) = .error raised →
      Fault raised := by
    intro raised hflush
    have hfault := fault_of_outcome hflush
    unfold StepEnv.faultIf at hfault
    split at hfault
    · exact ⟨_, hfault⟩
    · cases hfault
  -- between the operations the division is defined
  have hsnapshot : ∀ raised, snapshotOutcome env db.initialCapital (db.valueAfter env price r) = .error raised →
      Fault raised := by
    intro raised hsnapshot
    unfold snapshotOutcome at hsnapshot
    rw [if_neg h] at hsnapshot
    exact error_of_bind (P := Fault) (hop _) (fun _ _ h₁ => error_of_bind (hop _) (fun _ => hop _) h₁) hsnapshot
  exact error_of_bind (P := Fault) (hop _) (fun _ _ h₁ => error_of_bind htrade (fun _ => hsnapshot) h₁) hraised

theorem runStep_defined (he : db.experiment = some e) (h : e.initialCapital.val ≠ 0) (s : BarStep)
    (executionStepId : ℕ) (now : DateTime) (hraised : runStep s executionStepId now db = .error raised) :
    db.portfolio = none ∨ db.strategyConfig = none ∨ db.getStep executionStepId = none := by
  unfold runStep at hraised
  rw [he] at hraised
  cases hrow : db.portfolio with
  | none => exact .inl rfl
  | some row =>
      cases hconfig : db.strategyConfig with
      | none => exact .inr (.inl rfl)
      | some config =>
          cases hstep : db.getStep executionStepId with
          | none => exact .inr (.inr rfl)
          | some step =>
              rw [hrow, hconfig] at hraised
              dsimp only at hraised
              rw [hstep] at hraised
              dsimp only at hraised
              unfold Db.recordResult BasicMetricCalculator.calculate at hraised
              dsimp only at hraised
              rw [if_neg h] at hraised
              cases hraised

/-- **The metrics are defined exactly if the row has a capital.** -/
theorem metricsDefined_iff (he : db.experiment = some e) : MetricsDefined db ↔ e.initialCapital.val ≠ 0 := by
  constructor
  · exact fun h => h.capital e he
  · intro h
    have hsame : ∀ e', db.experiment = some e' → e'.initialCapital.val ≠ 0 := by
      intro e' he'
      obtain rfl : e = e' := Option.some.inj (he.symm.trans he')
      exact h
    have hcapital : db.initialCapital ≠ 0 := by
      rw [Db.initialCapital, he]
      exact h
    refine ⟨hsame, ?_, fun env price r raised => recordOutcome_defined hcapital price r, fun s id now raised =>
      runStep_defined he h s id now⟩
    intro env id e' portfolio price timestamp tradeId db' book he'
    exact persist_defined (hsame e' he') id portfolio price timestamp tradeId db' book

end

/-! ## The capital stays -/

/-- The capital of the experiment's row. -/
def Db.capital (db : Db) : Option (Numeric 4) := db.experiment.map Experiment.initialCapital

section
variable {db : Db} {testModeEnabled : Bool} {bars : List DateTime}

@[simp] theorem OtherRows.capital (rows : OtherRows) (db : Db) : (rows.write db).capital = db.capital :=
  congrArg (Option.map Experiment.initialCapital) (rows.experiment db)

@[simp] theorem Db.capital_setStatus (db : Db) (status : ExperimentStatus) (now : DateTime) :
    (db.setStatus status now).capital = db.capital := by
  unfold Db.capital Db.setStatus
  cases db.experiment <;> rfl

@[simp] theorem Db.capital_flush (db : Db) (loaded : Option ExperimentStatus) (written : Db) :
    (db.flush loaded written).capital = written.capital := by
  unfold Db.flush Db.capital
  split
  · cases written.experiment <;> rfl
  · rfl

theorem Db.capital_recordHistoricalFailure (db : Db) (message : String) (id : Option ℕ) (e : Raised) (now : DateTime) :
    (db.recordHistoricalFailure message id e now).capital = db.capital := by
  have hexp : (db.failStep id now message).capital = db.capital := by cases id <;> rfl
  unfold Db.recordHistoricalFailure
  dsimp only
  split
  · exact hexp
  · exact (Db.capital_setStatus ..).trans hexp

theorem Db.capital_finishStep (db : Db) (id : ℕ) (failure : Option PaperStepFailure) (now : DateTime) :
    (db.finishStep id failure now).capital = db.capital := by
  cases failure with
  | none => rfl
  | some failure => exact db.capital_setStatus .failed now

theorem Db.capital_recordFailure (db : Db) (id : Option ℕ) (failure : FailureRecord) (now : DateTime) :
    (db.recordFailure id failure now).capital = db.capital := by
  rw [Db.capital, Db.recordFailure_experiment]
  split
  · exact db.capital_setStatus .failed now
  · rfl

/-- **Step lemma**: nothing a statement commits changes the capital. -/
theorem Publishes.capital {db' : Db} (h : Publishes db db') : db'.capital = db.capital := by
  cases h with
  | nothing => rfl
  | action loaded a t now => exact (Db.capital_flush ..).trans (db.capital_setStatus t now)
  | inserted t slot now n => rfl
  | rows rows => exact rows.capital db
  | ranStep rows id now => exact rows.capital db
  | completed loaded now => exact (Db.capital_flush ..).trans (db.capital_setStatus .completed now)
  | historicalFailure loaded message id e now =>
      exact (Db.capital_flush ..).trans (db.capital_recordHistoricalFailure message id e now)
  | finished loaded rows id failure now =>
      calc (db.flush loaded ((rows.write db).finishStep id failure now)).capital
        _ = (rows.write db).capital := (Db.capital_flush ..).trans (Db.capital_finishStep ..)
        _ = db.capital := rows.capital db
  | paperFailure loaded id failure now => exact (Db.capital_flush ..).trans (db.capital_recordFailure id failure now)

variable (testModeEnabled bars) in
/-- **Run lemma**: the capital is what it was when nobody had begun. -/
theorem capital_kept (kinds : ℕ → ThreadKind) (es : List (Event ExperimentChoice)) :
    (Runs.run (exec (experimentThreads testModeEnabled bars)) es (idleMachine db kinds)).data.capital = db.capital := by
  refine Runs.run_keeps (I := fun m => m.data.capital = db.capital) (fun e m hm _ => ?_)
    (Meets.always (P := experimentThreads testModeEnabled bars) es (idleMachine db kinds)) rfl
  rw [exec_data]
  exact (statement_publishes ..).capital.trans hm

end

/-! ## Every accepted request -/

section
variable {settings : ValidatorSettings} {env : CreationEnv} {request : CreateExperimentRequest} {db : Db}

theorem stored_capital_ne_zero_iff (h : 0 < request.initialCapital) :
    (numeric 4 request.initialCapital).val ≠ 0 ↔ 1 / 20000 ≤ request.initialCapital := by
  have hnonneg : 0 ≤ (numeric 4 request.initialCapital).val := halfAway.quantize_nonneg h.le
  rw [← hnonneg.lt_iff_ne', numeric, Mode.quantize_halfAway_pos_iff]
  norm_num

/-- **Which experiments never divide by zero.** From the creation of an accepted experiment on, whatever its
    threads do and in whichever order: the metrics are defined in every state exactly if its capital is at
    least half a unit of the last place that the column keeps. -/
theorem metrics_defined_iff (hcreated : createExperiment settings env request = .ok db) :
    (∀ (testModeEnabled : Bool) (bars : List DateTime) (kinds : ℕ → ThreadKind) (es : List (Event ExperimentChoice)),
      MetricsDefined (Runs.run (exec (experimentThreads testModeEnabled bars)) es (idleMachine db kinds)).data) ↔
      1 / 20000 ≤ request.initialCapital := by
  obtain ⟨hvalid, rfl⟩ := createExperiment_ok hcreated
  have hpos := accepted_capital hvalid
  have hcreatedCapital : (createdRows env request).capital = some (numeric 4 request.initialCapital) := rfl
  rw [← stored_capital_ne_zero_iff hpos]
  constructor
  · intro h
    exact (h false [] (fun _ => .lifecycle) []).capital _ rfl
  · intro h testModeEnabled bars kinds es
    have hcapital := (capital_kept testModeEnabled bars kinds es).trans hcreatedCapital
    obtain ⟨e, he, hvalue⟩ := Option.map_eq_some_iff.mp hcapital
    refine (metricsDefined_iff he).mpr ?_
    rw [hvalue]
    exact h

end

/-! ## A capital of a hundred-thousandth -/

/-- A request for a daily buy-and-hold experiment on SPY. -/
def smallRequest (capital : ℚ) : CreateExperimentRequest where
  mode             := .paperTrading
  strategyType     := .buyAndHold
  assetSymbol      := "spy"
  initialCapital   := capital
  startDate        := 0
  endDate          := 0
  tradingFrequency := .daily
  feeValue         := 0
  strategyConfig   := ⟨none, none, none, none, none⟩

def smallSettings : ValidatorSettings := ⟨false, "model", ["model"]⟩

def smallCreation : CreationEnv := ⟨0, 1, 1, [], fun _ => none⟩

theorem smallRequest_created {capital : ℚ} (h : 0 < capital) :
    createExperiment smallSettings smallCreation (smallRequest capital) =
      .ok (createdRows smallCreation (smallRequest capital)) := by
  have hsymbol : validateAssetSymbol (smallRequest capital) = .ok () := by
    have hspy : normalizeSymbol "spy" = spySymbol := by decide +kernel
    have hsupported : isSupportedEquitySymbol spySymbol = true := by decide +kernel
    simp only [validateAssetSymbol, smallRequest, hspy, hsupported, refuseIf, Bool.true_eq_false, if_false]
    rfl
  have hamounts : validateAmounts (smallRequest capital) = .ok () := by
    unfold validateAmounts smallRequest
    rw [refuseIf_eq_ok.mpr (not_le.mpr h)]
    rfl
  unfold createExperiment validateCreateExperimentRequest
  rw [hsymbol, hamounts]
  rfl

/-- The small experiment, started. -/
def startedRows (capital : ℚ) : Db :=
  (Runs.run (exec (experimentThreads false [])) (lifecycleCall 0 .start)
    (idleMachine (createdRows smallCreation (smallRequest capital)) fun _ => .lifecycle)).data

/-- What the experiment's first step reports, if it fails. -/
def firstStepError (capital : ℚ) : List (Option String) :=
  ((runNextStep (smallEnv 100 acceptOrder) .manual none).exec
    (Store.opened (startedRows capital) {})).current.steps.map (·.errorMessage)

/-- **An accepted experiment divides by zero**: its capital is positive, its row has none, and its first step
    fails in the metric computation, with a profit of zero over a capital of zero. -/
theorem accepted_capital_divides_by_zero :
    firstStepError (1 / 100000) = [some "[<class 'decimal.DivisionUndefined'>]"] ∧
    ¬ ∀ (settings : ValidatorSettings) (env : CreationEnv) (request : CreateExperimentRequest) (db : Db),
      createExperiment settings env request = .ok db →
      ∀ (testModeEnabled : Bool) (bars : List DateTime) (kinds : ℕ → ThreadKind) (es : List (Event ExperimentChoice)),
        MetricsDefined (Runs.run (exec (experimentThreads testModeEnabled bars)) es (idleMachine db kinds)).data := by
  refine ⟨by decide +kernel, fun h => ?_⟩
  have hpos : (0 : ℚ) < 1 / 100000 := by norm_num
  have hcreated := smallRequest_created hpos
  have hdefined := h _ _ _ _ hcreated false [] (fun _ => .lifecycle) (lifecycleCall 0 .start)
  obtain ⟨e, he, hcapital⟩ := Option.map_eq_some_iff.mp
    (capital_kept false [] (fun _ => .lifecycle) (lifecycleCall 0 .start) :
      (startedRows (1 / 100000)).capital = some (numeric 4 (1 / 100000)))
  apply hdefined.capital e he
  rw [hcapital]
  decide +kernel

/-- Half a unit of the last place is enough: the column rounds it up. -/
theorem halfUnit_defined : MetricsDefined (startedRows (1 / 20000)) :=
  (metrics_defined_iff (smallRequest_created (by norm_num))).mpr le_rfl false [] (fun _ => .lifecycle)
    (lifecycleCall 0 .start)

end TradingAI
