import TradingAI.Api.PaperStatus
import TradingAI.Execution.StepCreation
import TradingAI.Experiments.Creation
import TradingAI.Scheduler.Eligibility
import Mathlib.Data.List.DropRight

/-!
# `Correctness.SupportedConfigurations` — four lists of what paper trading supports

The validator of a new experiment, the queries of the scheduler, the status page and the step runner each have
a list of the supported strategies, frequencies and symbols of their own. What the validator lets in, the other
three all support (`accepted_supported_everywhere`). On every experiment that was created through the validator
the page and the queries agree (`supported_iff_listed`).
-/

namespace TradingAI

open DecimalText Outcome

/-! ## Stored symbols -/

/-- Leading characters of a kind are dropped before or after a change that keeps them and adds none. -/
theorem dropWhile_flatMap {p : Char → Bool} {f : Char → List Char} (hkept : ∀ c, p c = true → f c = [c])
    (hother : ∀ c, p c = false → ∃ d ds, f c = d :: ds ∧ p d = false) (cs : List Char) :
    (cs.flatMap f).dropWhile p = (cs.dropWhile p).flatMap f := by
  induction cs with
  | nil => rfl
  | cons c cs ih =>
      rw [List.flatMap_cons]
      cases hc : p c with
      | true  => rw [hkept c hc, List.singleton_append, List.dropWhile_cons_of_pos hc, List.dropWhile_cons_of_pos hc, ih]
      | false =>
          obtain ⟨d, ds, hd, hp⟩ := hother c hc
          rw [hd, List.cons_append, List.dropWhile_cons_of_neg (by rw [hp]; exact Bool.false_ne_true),
            List.dropWhile_cons_of_neg (by rw [hc]; exact Bool.false_ne_true), List.flatMap_cons, hd, List.cons_append]

/-- Stripping and changing to upper case leave each other alone. -/
theorem strip_upper (cs : List Char) : strip (upper cs) = upper (strip cs) := by
  have hspace : ∀ c, isSpace c = true → upperChar c = [c] := fun c hc =>
    (upperChar_cases c).resolve_right fun h => by rw [h.1] at hc; cases hc
  have hletter : ∀ c, isSpace c = false → upperChar c ≠ [] ∧ ∀ d ∈ upperChar c, isSpace d = false := by
    intro c hc
    rcases upperChar_cases c with h | ⟨-, hne, h⟩
    · rw [h]
      exact ⟨List.cons_ne_nil _ _, fun d hd => by rwa [List.mem_singleton.mp hd]⟩
    · exact ⟨hne, fun d hd => (h d hd).1⟩
  have hreverse : ∀ cs : List Char, (cs.flatMap upperChar).reverse = cs.reverse.flatMap fun c => (upperChar c).reverse :=
    fun _ => List.reverse_flatMap
  have hfront : (cs.flatMap upperChar).dropWhile isSpace = (cs.dropWhile isSpace).flatMap upperChar := by
    refine dropWhile_flatMap hspace (fun c hc => ?_) cs
    obtain ⟨d, ds, hd⟩ := List.exists_cons_of_ne_nil (hletter c hc).1
    exact ⟨d, ds, hd, (hletter c hc).2 d (by rw [hd]; exact List.mem_cons_self)⟩
  -- the same from the other end
  have hback : ∀ cs : List Char, (cs.flatMap fun c => (upperChar c).reverse).dropWhile isSpace =
      (cs.dropWhile isSpace).flatMap fun c => (upperChar c).reverse := by
    refine dropWhile_flatMap (fun c hc => by rw [hspace c hc]; rfl) fun c hc => ?_
    obtain ⟨d, ds, hd⟩ := List.exists_cons_of_ne_nil (List.reverse_ne_nil_iff.mpr (hletter c hc).1)
    refine ⟨d, ds, hd, (hletter c hc).2 d ?_⟩
    rw [← List.mem_reverse, hd]
    exact List.mem_cons_self
  unfold strip upper
  rw [hfront, hreverse, hback, List.reverse_flatMap]
  exact List.flatMap_congr fun c _ => List.reverse_reverse _

/-- **A normalised symbol** is its own normal form. -/
theorem normalizeSymbol_normalizeSymbol (s : String) : normalizeSymbol (normalizeSymbol s) = normalizeSymbol s := by
  unfold normalizeSymbol
  rw [String.toList_ofList, strip_upper, strip_strip, upper_upper]

/-- So it is supported if it is one of the symbols. -/
theorem isSupportedEquitySymbol_normalizeSymbol (s : String) :
    isSupportedEquitySymbol (normalizeSymbol s) = true ↔ normalizeSymbol s ∈ supportedEquitySymbols := by
  unfold isSupportedEquitySymbol
  rw [normalizeSymbol_normalizeSymbol, List.contains_iff_mem]

/-! ## What the validator lets in -/

variable {settings : ValidatorSettings} {request : CreateExperimentRequest}

theorem accepted_symbol (h : validateCreateExperimentRequest settings request = .ok ()) :
    normalizeSymbol request.assetSymbol ∈ supportedEquitySymbols := by
  obtain ⟨_, hsymbol, -⟩ := ok_of_bind h
  obtain ⟨_, hsupported, -⟩ := ok_of_bind hsymbol
  rw [refuseIf_eq_ok, Bool.not_eq_false] at hsupported
  exact (isSupportedEquitySymbol_normalizeSymbol _).mp hsupported

/-- What an accepted smoke test is about. -/
structure AcceptedSmokeTest (settings : ValidatorSettings) (request : CreateExperimentRequest) : Prop where
  symbol    : normalizeSymbol request.assetSymbol = spySymbol
  testMode  : settings.paperTradingTestModeEnabled = true
  frequency : request.tradingFrequency = .test1Min

theorem accepted_smokeTest (h : validateCreateExperimentRequest settings request = .ok ())
    (hstrategy : request.strategyType = .paperTradingSmokeTest) : AcceptedSmokeTest settings request := by
  obtain ⟨_, -, h⟩ := ok_of_bind h
  obtain ⟨_, -, h⟩ := ok_of_bind h
  obtain ⟨_, hvalid, -⟩ := ok_of_bind h
  obtain ⟨_, -, hvalid⟩ := ok_of_bind hvalid
  rw [hstrategy] at hvalid
  obtain ⟨_, hsymbol, hvalid⟩ := ok_of_bind hvalid
  obtain ⟨_, htestMode, hvalid⟩ := ok_of_bind hvalid
  obtain ⟨_, -, hvalid⟩ := ok_of_bind hvalid
  refine ⟨?_, ?_, ?_⟩
  · exact not_not.mp (refuseIf_eq_ok.mp hsymbol)
  · exact Bool.not_eq_false _ ▸ refuseIf_eq_ok.mp htestMode
  · exact not_not.mp (refuseIf_eq_ok.mp hvalid)

/-- What an accepted paper experiment trades, and how often. -/
theorem accepted_paper (h : validateCreateExperimentRequest settings request = .ok ())
    (hmode : request.mode = .paperTrading) (hstrategy : request.strategyType ≠ .paperTradingSmokeTest) :
    (request.strategyType, request.tradingFrequency) ∈ supportedPaperConfigs := by
  obtain ⟨_, -, h⟩ := ok_of_bind h
  obtain ⟨_, -, h⟩ := ok_of_bind h
  obtain ⟨_, -, h⟩ := ok_of_bind h
  obtain ⟨_, hpaper, -⟩ := ok_of_bind h
  unfold validatePaperTrading at hpaper
  rw [if_pos hmode] at hpaper
  obtain ⟨_, hconfig, -⟩ := ok_of_bind hpaper
  by_contra hmem
  exact refuseIf_eq_ok.mp hconfig ⟨hstrategy, hmem⟩

/-! ## Rows that were created -/

/-- The row of an experiment that was created from a request the validator accepted: its status may have changed
    since, and its other columns have not. -/
structure CreatedFrom (settings : ValidatorSettings) (request : CreateExperimentRequest) (row : ExperimentRow) :
    Prop where
  accepted   : validateCreateExperimentRequest settings request = .ok ()
  experiment : ∃ id now status updatedAt,
    row.experiment = { request.experimentRow id now with status := status, updatedAt := updatedAt }
  config     : row.strategyConfig = some request.strategyConfigRow

/-- A later status and time of writing. -/
theorem CreatedFrom.withStatus {row : ExperimentRow} (h : CreatedFrom settings request row) (status : ExperimentStatus)
    (updatedAt : DateTime) :
    CreatedFrom settings request
      ⟨{ row.experiment with status := status, updatedAt := updatedAt }, row.strategyConfig⟩ := by
  obtain ⟨id, now, _, _, he⟩ := h.experiment
  refine ⟨h.accepted, ⟨id, now, status, updatedAt, ?_⟩, h.config⟩
  rw [he]

/-- The rows of a creation are such. -/
theorem createdFrom_createExperiment {env : CreationEnv} {db : Db} {e : Experiment}
    (h : createExperiment settings env request = .ok db) (he : db.experiment = some e) :
    CreatedFrom settings request ⟨e, db.strategyConfig⟩ := by
  obtain ⟨hvalid, rfl⟩ := createExperiment_ok h
  refine ⟨hvalid, ⟨env.experimentId, env.now, .created, env.now, ?_⟩, rfl⟩
  exact (Option.some.inj he).symm

variable {row : ExperimentRow}

namespace CreatedFrom

variable (h : CreatedFrom settings request row)
include h

theorem mode_eq : row.experiment.mode = request.mode := by
  obtain ⟨id, now, status, updatedAt, he⟩ := h.experiment
  rw [he]
  rfl

theorem strategyType_eq : row.experiment.strategyType = request.strategyType := by
  obtain ⟨id, now, status, updatedAt, he⟩ := h.experiment
  rw [he]
  rfl

theorem tradingFrequency_eq : row.experiment.tradingFrequency = request.tradingFrequency := by
  obtain ⟨id, now, status, updatedAt, he⟩ := h.experiment
  rw [he]
  rfl

theorem assetSymbol_eq : row.experiment.assetSymbol = normalizeSymbol request.assetSymbol := by
  obtain ⟨id, now, status, updatedAt, he⟩ := h.experiment
  rw [he]
  rfl

theorem symbol_mem : row.experiment.assetSymbol ∈ supportedEquitySymbols :=
  h.assetSymbol_eq ▸ accepted_symbol h.accepted

theorem symbol_supported : isSupportedEquitySymbol row.experiment.assetSymbol = true := by
  rw [h.assetSymbol_eq]
  exact (isSupportedEquitySymbol_normalizeSymbol _).mpr (accepted_symbol h.accepted)

end CreatedFrom

/-! ## The page and the queries -/

/-- An agent mode is one of the two there are. -/
theorem hasAgentMode_true (config : StrategyConfig) : ExperimentTable.hasAgentMode config = true := by
  unfold ExperimentTable.hasAgentMode
  cases config.agentMode with
  | none      => rfl
  | some mode => cases mode <;> rfl

theorem agentMode_mem (config : StrategyConfig) :
    config.agentMode.getD .singleAgent ∈ [AgentMode.singleAgent, .pipeline] := by
  cases config.agentMode with
  | none      => decide
  | some mode => cases mode <;> decide

/-- Some query of the scheduler is for the row. -/
def ExperimentRow.isListed (row : ExperimentRow) : Bool :=
  ExperimentTable.isPaperDaily row ∨ ExperimentTable.isPaperHourlyAi row ∨ ExperimentTable.isPaperSmokeTest row ∨
    ExperimentTable.isPaperOrb row

/-- **The page supports what the scheduler lists**, of the experiments that were created from a request. -/
theorem supported_iff_listed (h : CreatedFrom settings request row) :
    supportedByPaperScheduler row.experiment row.strategyConfig = true ↔
      row.experiment.mode = .paperTrading ∧ row.isListed = true := by
  have hsupported := h.symbol_supported
  have hmem := h.symbol_mem
  unfold ExperimentRow.isListed supportedByPaperScheduler ExperimentTable.isPaperDaily ExperimentTable.isPaperHourlyAi
    ExperimentTable.isPaperSmokeTest ExperimentTable.isPaperOrb
  rw [h.config]
  -- the symbol and the agent mode are known, and a strategy and a frequency are left
  simp only [hsupported, hmem, hasAgentMode_true, agentMode_mem]
  cases row.experiment.mode <;> cases row.experiment.strategyType <;> cases row.experiment.tradingFrequency <;> simp

/-- The scheduler may step what the page supports, if smoke tests are on. -/
theorem isSupportedExperiment_scheduled_iff (testModeEnabled : Bool) (h : CreatedFrom settings request row) :
    isSupportedExperiment testModeEnabled row.experiment .scheduled = true ↔
      supportedByPaperScheduler row.experiment row.strategyConfig = true ∧
        (row.experiment.strategyType = .paperTradingSmokeTest → testModeEnabled = true) := by
  have hsupported := h.symbol_supported
  unfold isSupportedExperiment supportedByPaperScheduler
  rw [h.config]
  simp only [hsupported, agentMode_mem]
  cases row.experiment.mode <;> cases row.experiment.strategyType <;> cases row.experiment.tradingFrequency <;>
    simp [and_comm]

/-- The conditions of the queries that a row meets, status and mode apart. -/
def ExperimentRow.listings (row : ExperimentRow) : List Bool :=
  [ExperimentTable.isPaperDaily row, ExperimentTable.isPaperHourlyAi row, ExperimentTable.isPaperSmokeTest row,
    ExperimentTable.isPaperOrb row]

/-- A running paper experiment is listed once for each of them, any other not at all. -/
theorem countP_schedulerEligibleLists {table : ExperimentTable} (hrow : row ∈ table.rows)
    (hmode : row.experiment.mode = .paperTrading) :
    table.schedulerEligibleLists.countP (row.id ∈ ·) =
      if row.experiment.status = .running then row.listings.count true else 0 := by
  unfold ExperimentTable.schedulerEligibleLists ExperimentTable.listPaperDailySchedulerEligibleExperimentIds
    ExperimentTable.listPaperHourlyAiSchedulerEligibleExperimentIds
    ExperimentTable.listPaperSmokeTestSchedulerEligibleExperimentIds
    ExperimentTable.listPaperOrbSchedulerEligibleExperimentIds ExperimentRow.listings
  simp only [List.countP_cons, List.countP_nil, List.count_cons, List.count_nil,
    ExperimentTable.mem_listPaperIds_row hrow, hmode, true_and, decide_eq_true_eq, beq_iff_eq]
  by_cases hrunning : row.experiment.status = .running
  · simp only [hrunning, true_and, if_true]
  · simp only [hrunning, false_and, if_false]

/-- An accepted paper experiment meets the conditions of one query. -/
theorem accepted_listed_once (h : CreatedFrom settings request row) (hmode : request.mode = .paperTrading) :
    row.listings.count true = 1 := by
  have hmem := h.symbol_mem
  unfold ExperimentRow.listings ExperimentTable.isPaperDaily ExperimentTable.isPaperHourlyAi
    ExperimentTable.isPaperSmokeTest ExperimentTable.isPaperOrb
  rw [h.config]
  simp only [hmem, hasAgentMode_true]
  by_cases hstrategy : request.strategyType = .paperTradingSmokeTest
  · obtain ⟨hsymbol, -, hfrequency⟩ := accepted_smokeTest h.accepted hstrategy
    rw [h.strategyType_eq, h.tradingFrequency_eq, h.assetSymbol_eq, hstrategy, hfrequency, hsymbol]
    rfl
  · have hconfig := accepted_paper h.accepted hmode hstrategy
    rw [← h.strategyType_eq, ← h.tradingFrequency_eq] at hconfig
    unfold supportedPaperConfigs at hconfig
    simp only [List.mem_cons, Prod.mk.injEq, List.not_mem_nil, or_false] at hconfig
    rcases hconfig with ⟨hs, hf⟩ | ⟨hs, hf⟩ | ⟨hs, hf⟩ | ⟨hs, hf⟩ | ⟨hs, hf⟩ <;> simp [hs, hf]

/-- **What the validator lets in, all of paper trading supports.** While it runs, an accepted paper experiment is in
    exactly one query of the scheduler, and otherwise in none. The page supports it, and the step runner may step it
    for the scheduler; by hand or for an event it may unless it trades the opening range or is a smoke test. -/
theorem accepted_supported_everywhere (h : CreatedFrom settings request row) (hmode : request.mode = .paperTrading) :
    (∀ table : ExperimentTable, row ∈ table.rows →
      table.schedulerEligibleLists.countP (row.id ∈ ·) = if row.experiment.status = .running then 1 else 0) ∧
      supportedByPaperScheduler row.experiment row.strategyConfig = true ∧
      isSupportedExperiment settings.paperTradingTestModeEnabled row.experiment .scheduled = true ∧
      ∀ trigger, trigger = .manual ∨ trigger = .event →
        (isSupportedExperiment settings.paperTradingTestModeEnabled row.experiment trigger = true ↔
          row.experiment.strategyType ≠ .openingRangeBreakout ∧
            row.experiment.strategyType ≠ .paperTradingSmokeTest) := by
  refine ⟨fun table hrow => ?_, ?_⟩
  · rw [countP_schedulerEligibleLists hrow (h.mode_eq.trans hmode), accepted_listed_once h hmode]
  have hsupported := h.symbol_supported
  unfold supportedByPaperScheduler isSupportedExperiment
  rw [h.config, h.mode_eq, hmode]
  simp only [hsupported, agentMode_mem]
  by_cases hstrategy : request.strategyType = .paperTradingSmokeTest
  · -- the smoke test has the symbol SPY, and is let in only in test mode
    obtain ⟨hsymbol, htestMode, hfrequency⟩ := accepted_smokeTest h.accepted hstrategy
    rw [h.strategyType_eq, h.tradingFrequency_eq, h.assetSymbol_eq, hstrategy, hfrequency, hsymbol, htestMode]
    refine ⟨rfl, rfl, ?_⟩
    rintro trigger (rfl | rfl) <;> simp
  · -- one of the five combinations
    have hconfig := accepted_paper h.accepted hmode hstrategy
    rw [← h.strategyType_eq, ← h.tradingFrequency_eq] at hconfig
    unfold supportedPaperConfigs at hconfig
    simp only [List.mem_cons, Prod.mk.injEq, List.not_mem_nil, or_false] at hconfig
    rcases hconfig with ⟨hs, hf⟩ | ⟨hs, hf⟩ | ⟨hs, hf⟩ | ⟨hs, hf⟩ | ⟨hs, hf⟩
    all_goals
      rw [hs, hf]
      refine ⟨by simp, by simp, ?_⟩
      rintro trigger (rfl | rfl) <;> simp

/-! ## An opening range -/

/-- A request for an opening range, its symbol as it was typed. -/
def typedRequest : CreateExperimentRequest where
  mode             := .paperTrading
  strategyType     := .openingRangeBreakout
  assetSymbol      := " aapl"
  initialCapital   := 1000
  startDate        := 0
  endDate          := 0
  tradingFrequency := .intraday5Min
  feeValue         := 0
  strategyConfig   := ⟨none, none, none, none, none⟩

/-- Its row, once the experiment is running. -/
def typedRow : ExperimentRow :=
  ⟨{ typedRequest.experimentRow 1 0 with status := .running }, some typedRequest.strategyConfigRow⟩

theorem typedRow_created : CreatedFrom ⟨false, "model", ["model"]⟩ typedRequest typedRow := by
  have hcreated : createExperiment ⟨false, "model", ["model"]⟩ ⟨0, 1, 1, [], fun _ => none⟩ typedRequest =
      .ok (createdRows ⟨0, 1, 1, [], fun _ => none⟩ typedRequest) := createExperiment_of_isOk (by decide +kernel)
  exact (createdFrom_createExperiment hcreated rfl).withStatus .running 0

def typedTable : ExperimentTable := ⟨[typedRow], by decide⟩

/-- It is in the query of the opening range, and only the scheduler steps it. -/
theorem typedRow_supported :
    typedTable.schedulerEligibleLists = [[], [], [], [1]] ∧
      typedTable.schedulerEligibleLists.countP (typedRow.id ∈ ·) = 1 ∧
      isSupportedExperiment false typedRow.experiment .manual = false := by
  obtain ⟨hcount, -, -, htrigger⟩ := accepted_supported_everywhere typedRow_created rfl
  refine ⟨by decide +kernel, hcount typedTable (List.mem_singleton_self _), ?_⟩
  rw [← Bool.not_eq_true, htrigger .manual (.inl rfl)]
  exact fun h => h.1 rfl

end TradingAI
