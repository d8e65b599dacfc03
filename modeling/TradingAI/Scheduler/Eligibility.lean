import TradingAI.Persistence.Models
import TradingAI.Scheduler.DueSlots
import Mathlib.Data.List.Nodup
import Mathlib.Data.List.Sort

/-!
# `Scheduler.Eligibility` — which experiments a tick is about

Each of the four slots has a query for the experiments it is for. The queries have no experiment in common,
as each asks for a trading frequency of its own (`DueSlots.nodup_eligible`).

## Contents
- `ExperimentTable`, the four queries; `mem_listPaperIds`, `nodup_listPaperIds`, `disjoint_listPaperIds`.
- `DueSlots`, `dueSlots`; `DueSlots.eligible`: the experiments of the slots that are due.
-/

namespace TradingAI

/-! ## Eligible experiments -/

/-- An experiment and its configuration. -/
structure ExperimentRow where
  experiment     : Experiment
  strategyConfig : Option StrategyConfig

def ExperimentRow.id (row : ExperimentRow) : ℕ := row.experiment.id

/-- The table `experiments`, with its primary key. -/
structure ExperimentTable where
  rows      : List ExperimentRow
  uniqueIds : (rows.map ExperimentRow.id).Nodup

namespace ExperimentTable

/-- `get_by_id`. -/
def getById (table : ExperimentTable) (experimentId : ℕ) : Option ExperimentRow :=
  table.rows.find? (·.id = experimentId)

/-- The ids of the running paper experiments with a property, in ascending order. -/
def listPaperIds (table : ExperimentTable) (p : ExperimentRow → Bool) : List ℕ :=
  ((table.rows.filter fun row =>
    row.experiment.status = .running ∧ row.experiment.mode = .paperTrading ∧ p row).map ExperimentRow.id).insertionSort (· ≤ ·)

/-- The agent mode of a joined configuration is missing, or one of the two there are. -/
def hasAgentMode (config : StrategyConfig) : Bool :=
  config.agentMode = none ∨ config.agentMode = some .singleAgent ∨ config.agentMode = some .pipeline

def isPaperDaily (row : ExperimentRow) : Bool :=
  match row.strategyConfig with
  | none        => false
  | some config =>
      row.experiment.tradingFrequency = .daily ∧
        (row.experiment.strategyType ∈ [.buyAndHold, .movingAverage] ∨
          row.experiment.strategyType = .agenticAi ∧ hasAgentMode config) ∧
        row.experiment.assetSymbol ∈ supportedEquitySymbols

def isPaperHourlyAi (row : ExperimentRow) : Bool :=
  match row.strategyConfig with
  | none        => false
  | some config =>
      row.experiment.tradingFrequency = .hourly ∧ row.experiment.strategyType = .agenticAi ∧ hasAgentMode config ∧
        row.experiment.assetSymbol ∈ supportedEquitySymbols

def isPaperOrb (row : ExperimentRow) : Bool :=
  row.experiment.tradingFrequency = .intraday5Min ∧ row.experiment.strategyType = .openingRangeBreakout ∧
    row.experiment.assetSymbol ∈ supportedEquitySymbols

def isPaperSmokeTest (row : ExperimentRow) : Bool :=
  row.experiment.tradingFrequency = .test1Min ∧ row.experiment.strategyType = .paperTradingSmokeTest ∧
    row.experiment.assetSymbol = spySymbol

/-- `list_paper_daily_scheduler_eligible_experiment_ids`. -/
def listPaperDailySchedulerEligibleExperimentIds (table : ExperimentTable) : List ℕ := table.listPaperIds isPaperDaily

/-- `list_paper_hourly_ai_scheduler_eligible_experiment_ids`. -/
def listPaperHourlyAiSchedulerEligibleExperimentIds (table : ExperimentTable) : List ℕ :=
  table.listPaperIds isPaperHourlyAi

/-- `list_paper_orb_scheduler_eligible_experiment_ids`. -/
def listPaperOrbSchedulerEligibleExperimentIds (table : ExperimentTable) : List ℕ := table.listPaperIds isPaperOrb

/-- `list_paper_smoke_test_scheduler_eligible_experiment_ids`. -/
def listPaperSmokeTestSchedulerEligibleExperimentIds (table : ExperimentTable) : List ℕ :=
  table.listPaperIds isPaperSmokeTest

/-- What the four queries answer. -/
def schedulerEligibleLists (table : ExperimentTable) : List (List ℕ) :=
  [table.listPaperDailySchedulerEligibleExperimentIds, table.listPaperHourlyAiSchedulerEligibleExperimentIds,
    table.listPaperSmokeTestSchedulerEligibleExperimentIds, table.listPaperOrbSchedulerEligibleExperimentIds]

end ExperimentTable

/-! ## What is due -/

/-- The four slots of a tick. -/
structure DueSlots where
  daily     : Option DateTime
  hourly    : Option DateTime
  smokeTest : Option DateTime
  orb       : Option DateTime

/-- The slots that are due. The clock is read twice, first for the daily slot; a given `now` is both. -/
def dueSlots (zone : Zone) (dailyNow localNow : DateTime) (dailyEvaluationTime : EvaluationTime)
    (paperTradingTestModeEnabled : Bool) : Except Raised DueSlots := do
  let daily ← paperDailyDueSlot zone dailyNow dailyEvaluationTime
  let smokeTest ← (if paperTradingTestModeEnabled then paperSmokeTestDueSlot zone localNow else .ok none : Except _ _)
  let hourly ← paperHourlyDueSlot zone localNow
  let orb ← paperOrbDueSlot localNow
  pure ⟨daily, hourly, smokeTest, orb⟩

/-! ## The lists of eligible experiments -/

namespace ExperimentTable

variable {table : ExperimentTable} {p q : ExperimentRow → Bool} {id : ℕ}

theorem mem_listPaperIds :
    id ∈ table.listPaperIds p ↔
      ∃ row ∈ table.rows, row.id = id ∧ row.experiment.status = .running ∧ row.experiment.mode = .paperTrading ∧ p row := by
  unfold listPaperIds
  rw [List.mem_insertionSort, List.mem_map]
  constructor
  · rintro ⟨row, hrow, hid⟩
    obtain ⟨hmem, hp⟩ := List.mem_filter.mp hrow
    exact ⟨row, hmem, hid, of_decide_eq_true hp⟩
  · rintro ⟨row, hmem, hid, hp⟩
    exact ⟨row, List.mem_filter.mpr ⟨hmem, decide_eq_true hp⟩, hid⟩

theorem nodup_listPaperIds (table : ExperimentTable) (p : ExperimentRow → Bool) : (table.listPaperIds p).Nodup := by
  unfold listPaperIds
  rw [(List.perm_insertionSort _ _).nodup_iff]
  exact table.uniqueIds.sublist (List.filter_sublist.map _)

/-- The primary key. -/
theorem row_eq_of_id {row row' : ExperimentRow} (hrow : row ∈ table.rows) (hrow' : row' ∈ table.rows)
    (hid : row.id = row'.id) : row = row' :=
  List.inj_on_of_nodup_map table.uniqueIds hrow hrow' hid

/-- A row of the table is listed by its own properties. -/
theorem mem_listPaperIds_row {row : ExperimentRow} (hrow : row ∈ table.rows) :
    row.id ∈ table.listPaperIds p ↔
      row.experiment.status = .running ∧ row.experiment.mode = .paperTrading ∧ p row = true := by
  rw [mem_listPaperIds]
  constructor
  · rintro ⟨row', hrow', hid, h⟩
    obtain rfl := row_eq_of_id hrow' hrow hid
    exact h
  · exact fun h => ⟨row, hrow, rfl, h⟩

/-- Properties no row has both of give lists with nothing in common. -/
theorem disjoint_listPaperIds (h : ∀ row, p row → q row → False) :
    (table.listPaperIds p).Disjoint (table.listPaperIds q) := by
  intro id hp hq
  obtain ⟨row, hrow, rfl, -, -, hprow⟩ := mem_listPaperIds.mp hp
  obtain ⟨row', hrow', hid, -, -, hqrow⟩ := mem_listPaperIds.mp hq
  obtain rfl := row_eq_of_id hrow' hrow hid
  exact h _ hprow hqrow

theorem getById_of_mem {row : ExperimentRow} (h : row ∈ table.rows) : table.getById row.id = some row := by
  unfold getById
  cases hfind : table.rows.find? (·.id = row.id) with
  | none =>
      have := List.find?_eq_none.mp hfind row h
      exact absurd (decide_eq_true rfl) this
  | some row' =>
      have hid := List.find?_some hfind
      rw [row_eq_of_id (List.mem_of_find?_eq_some hfind) h (of_decide_eq_true hid)]

/-- The symbol an experiment is asked about with. -/
def symbolOf (table : ExperimentTable) (experimentId : ℕ) : String :=
  (table.getById experimentId).elim "" fun row => row.experiment.assetSymbol

/-! Each list has a trading frequency of its own. -/

theorem isPaperDaily_frequency {row : ExperimentRow} (h : isPaperDaily row) : row.experiment.tradingFrequency = .daily := by
  unfold isPaperDaily at h
  split at h
  · cases h
  · exact (of_decide_eq_true h).1

theorem isPaperHourlyAi_frequency {row : ExperimentRow} (h : isPaperHourlyAi row) :
    row.experiment.tradingFrequency = .hourly := by
  unfold isPaperHourlyAi at h
  split at h
  · cases h
  · exact (of_decide_eq_true h).1

theorem isPaperOrb_frequency {row : ExperimentRow} (h : isPaperOrb row) :
    row.experiment.tradingFrequency = .intraday5Min := (of_decide_eq_true h).1

theorem isPaperSmokeTest_frequency {row : ExperimentRow} (h : isPaperSmokeTest row) :
    row.experiment.tradingFrequency = .test1Min := (of_decide_eq_true h).1

end ExperimentTable

/-- The experiments of a slot, with the slot; none if it is not due. -/
def dueAt (slot : Option DateTime) (experimentIds : List ℕ) : List (ℕ × DateTime) :=
  match slot with
  | none      => []
  | some slot => experimentIds.map fun experimentId => (experimentId, slot)

/-- **The eligible experiments** of the slots that are due. -/
def DueSlots.eligible (slots : DueSlots) (table : ExperimentTable) : List (ℕ × DateTime) :=
  dueAt slots.daily table.listPaperDailySchedulerEligibleExperimentIds ++
    dueAt slots.hourly table.listPaperHourlyAiSchedulerEligibleExperimentIds ++
    dueAt slots.smokeTest table.listPaperSmokeTestSchedulerEligibleExperimentIds ++
    dueAt slots.orb table.listPaperOrbSchedulerEligibleExperimentIds

variable {table : ExperimentTable} {slots : DueSlots} {id : ℕ}

theorem dueAt_fst (slot : Option DateTime) (experimentIds : List ℕ) :
    (dueAt slot experimentIds).map Prod.fst = if slot = none then [] else experimentIds := by
  cases slot with
  | none => rfl
  | some slot =>
      unfold dueAt
      rw [List.map_map, if_neg (Option.some_ne_none slot)]
      exact List.map_id _

theorem mem_of_mem_dueAt {slot : Option DateTime} {experimentIds : List ℕ} (h : id ∈ (dueAt slot experimentIds).map Prod.fst) :
    id ∈ experimentIds := by
  rw [dueAt_fst] at h
  split at h
  · cases h
  · exact h

theorem nodup_dueAt {slot : Option DateTime} {experimentIds : List ℕ} (h : experimentIds.Nodup) :
    ((dueAt slot experimentIds).map Prod.fst).Nodup := by
  rw [dueAt_fst]
  split
  · exact List.nodup_nil
  · exact h

/-- No experiment is eligible twice. -/
theorem DueSlots.nodup_eligible (slots : DueSlots) (table : ExperimentTable) :
    ((slots.eligible table).map Prod.fst).Nodup := by
  -- two lists of different frequencies
  have hne : ∀ {p q : ExperimentRow → Bool} {f g : TradingFrequency}, (∀ row, p row → row.experiment.tradingFrequency = f) →
      (∀ row, q row → row.experiment.tradingFrequency = g) → f ≠ g →
      ∀ {slot slot' : Option DateTime}, ((dueAt slot (table.listPaperIds p)).map Prod.fst).Disjoint
        ((dueAt slot' (table.listPaperIds q)).map Prod.fst) := by
    intro p q f g hp hq hfg slot slot' id hid hid'
    apply ExperimentTable.disjoint_listPaperIds _ (mem_of_mem_dueAt hid) (mem_of_mem_dueAt hid')
    intro row hprow hqrow
    exact hfg ((hp row hprow).symm.trans (hq row hqrow))
  have hdaily := @ExperimentTable.isPaperDaily_frequency
  have hhourly := @ExperimentTable.isPaperHourlyAi_frequency
  have hsmoke := @ExperimentTable.isPaperSmokeTest_frequency
  have horb := @ExperimentTable.isPaperOrb_frequency
  unfold eligible
  rw [List.map_append, List.map_append, List.map_append]
  refine List.Nodup.append (List.Nodup.append (List.Nodup.append ?_ ?_ ?_) ?_ ?_) ?_ ?_
  · exact nodup_dueAt (table.nodup_listPaperIds _)
  · exact nodup_dueAt (table.nodup_listPaperIds _)
  · exact hne @hdaily @hhourly (by decide)
  · exact nodup_dueAt (table.nodup_listPaperIds _)
  · exact List.disjoint_append_left.mpr ⟨hne @hdaily @hsmoke (by decide), hne @hhourly @hsmoke (by decide)⟩
  · exact nodup_dueAt (table.nodup_listPaperIds _)
  · exact List.disjoint_append_left.mpr ⟨List.disjoint_append_left.mpr
      ⟨hne @hdaily @horb (by decide), hne @hhourly @horb (by decide)⟩, hne @hsmoke @horb (by decide)⟩

end TradingAI
