import TradingAI.Execution.Calls
import TradingAI.Execution.StepTransactions

/-!
# `Execution.StepTable` — the rows of `execution_steps` under inserts and ends

Whoever runs steps, only two things ever happen to their table: a step is inserted, or one that is there
ends. Ending touches neither the order nor the numbers nor the slots, and it starts nothing.

## Contents
- `Ends`, `StepsEnd`, and the transactions that end a step.
- `Db.Numbered`: the sequence numbers are `1 … n`.
- `Db.runningCount`.
-/

namespace TradingAI

/-! ## Ending steps -/

/-- A change of a step that at most ends it. -/
structure Ends (f : ExecutionStep → ExecutionStep) : Prop where
  number  : ∀ s, (f s).sequenceNumber = s.sequenceNumber
  trigger : ∀ s, (f s).triggerType = s.triggerType
  slot    : ∀ s, (f s).scheduledFor = s.scheduledFor
  status  : ∀ s, (f s).status = .running → s.status = .running

/-- `db'` has the steps of `db`, with some of them ended. -/
def StepsEnd (db db' : Db) : Prop := ∃ f, Ends f ∧ db'.steps = db.steps.map f

variable {db db' : Db}

theorem StepsEnd.of_eq (h : db'.steps = db.steps) : StepsEnd db db' :=
  ⟨id, ⟨fun _ => rfl, fun _ => rfl, fun _ => rfl, fun _ => id⟩, by rw [h, List.map_id]⟩

theorem Ends.ite {f : ExecutionStep → ExecutionStep} (h : Ends f) (id : ℕ) :
    Ends fun s => if s.id = id then f s else s where
  number s  := by split <;> simp [h.number]
  trigger s := by split <;> simp [h.trigger]
  slot s    := by split <;> simp [h.slot]
  status s  := by split <;> first | exact h.status s | exact fun hs => hs

theorem ends_completedStep (now : DateTime) : Ends (·.completedStep now) :=
  ⟨fun _ => rfl, fun _ => rfl, fun _ => rfl, nofun⟩

theorem ends_failedStep (now : DateTime) (message : String) : Ends (·.failedStep now message) :=
  ⟨fun _ => rfl, fun _ => rfl, fun _ => rfl, nofun⟩

theorem ends_finished (failure : Option PaperStepFailure) (now : DateTime) :
    Ends (·.finished failure now) := by
  cases failure with
  | none         => exact ends_completedStep now
  | some failure => exact ends_failedStep now failure.message

theorem StepsEnd.updateStep {f : ExecutionStep → ExecutionStep} (h : Ends f) (id : ℕ)
    (hsteps : db'.steps = (db.updateStep id f).steps) : StepsEnd db db' :=
  ⟨_, h.ite id, hsteps⟩

/-- The transaction that records a result ends its step. -/
theorem stepsEnd_finishStep (rows : OtherRows) (id : ℕ) (failure : Option PaperStepFailure)
    (now : DateTime) : StepsEnd db ((rows.write db).finishStep id failure now) := by
  refine .updateStep (ends_finished failure now) id ?_
  rw [show ((rows.write db).finishStep id failure now).steps = _ from
    congrArg Core.steps (Db.core_finishStep ..), rows.steps]
  rfl

/-- So does the one that records a failure, if it has a step. -/
theorem stepsEnd_recordFailure (id : Option ℕ) (failure : FailureRecord) (now : DateTime) :
    StepsEnd db (db.recordFailure id failure now) := by
  have hsteps := db.recordFailure_steps id failure now
  cases id with
  | none    => exact .of_eq hsteps
  | some id => exact .updateStep (ends_failedStep now failure.message) id hsteps

/-- A flush changes no more steps than what it flushes. -/
theorem stepsEnd_flush {written : Db} {loaded : Option ExperimentStatus} (h : StepsEnd db written) :
    StepsEnd db (db.flush loaded written) := by
  obtain ⟨f, hf, hsteps⟩ := h
  exact ⟨f, hf, (Db.flush_steps ..).trans hsteps⟩

/-! ## Sequence numbers -/

/-- **Numbered**: the sequence numbers are `1 … n`, in the order of insertion. -/
def Db.Numbered (db : Db) : Prop :=
  db.steps.map ExecutionStep.sequenceNumber = List.range' 1 db.steps.length

theorem Db.Numbered.end (h : db.Numbered) (hends : StepsEnd db db') : db'.Numbered := by
  obtain ⟨f, hf, hsteps⟩ := hends
  unfold Db.Numbered at h ⊢
  rw [hsteps, List.map_map, List.length_map, ← h]
  exact List.map_congr_left fun s _ => hf.number s

theorem Db.Numbered.insertStep (h : db.Numbered) (t : TriggerType) (scheduledFor now : DateTime) :
    (db.insertStep t scheduledFor now (db.steps.length + 1)).Numbered := by
  unfold Db.Numbered at h ⊢
  simp only [Db.insertStep, List.map_append, List.length_append, List.length_singleton, h,
    List.range'_concat, List.map_singleton]
  rw [newStep, Nat.one_mul, Nat.add_comm 1]

/-- The numbers that are taken are those up to the number of steps. -/
theorem Db.Numbered.hasSequenceNumber_iff (h : db.Numbered) {n : ℕ} :
    db.hasSequenceNumber n = true ↔ 1 ≤ n ∧ n ≤ db.steps.length := by
  have hmem : db.hasSequenceNumber n = true ↔ n ∈ db.steps.map ExecutionStep.sequenceNumber := by
    simp [Db.hasSequenceNumber]
  rw [hmem, h, List.mem_range'_1]
  omega

theorem Db.Numbered.maxSequenceNumber_eq (h : db.Numbered) : db.maxSequenceNumber = db.steps.length := by
  have hmax : ∀ n, (List.range' 1 n).foldr max 0 = n := by
    intro n
    induction n with
    | zero => rfl
    | succ n ih =>
        rw [List.range'_concat, List.foldr_append]
        have hfold : ∀ (l : List ℕ) (a b : ℕ), l.foldr max (max a b) = max a (l.foldr max b) := by
          intro l a b
          induction l with
          | nil => rfl
          | cons x xs ihl => simp only [List.foldr_cons, ihl]; omega
        simp only [List.foldr_cons, List.foldr_nil, hfold, ih]
        omega
  rw [Db.maxSequenceNumber, h, hmax]

/-! ## Running steps -/

/-- How many steps are running. -/
def Db.runningCount (db : Db) : ℕ := db.steps.countP (·.status = .running)

theorem Db.runningCount_end (h : StepsEnd db db') : db'.runningCount ≤ db.runningCount := by
  obtain ⟨f, hf, hsteps⟩ := h
  unfold Db.runningCount
  rw [hsteps, List.countP_map]
  refine List.countP_mono_left fun s _ hs => ?_
  simp only [Function.comp_apply, decide_eq_true_eq] at hs ⊢
  exact hf.status s hs

theorem Db.runningCount_insertStep (db : Db) (t : TriggerType) (scheduledFor now : DateTime) (n : ℕ) :
    (db.insertStep t scheduledFor now n).runningCount = db.runningCount + 1 := by
  simp [Db.runningCount, Db.insertStep, List.countP_append, newStep]

theorem Db.runningCount_eq_zero : db.runningCount = 0 ↔ ∀ s ∈ db.steps, s.status ≠ .running := by
  simp [Db.runningCount, List.countP_eq_zero]

theorem Db.hasRunningStep_false_iff : db.hasRunningStep = false ↔ db.runningCount = 0 :=
  Db.hasRunningStep_eq_false.trans Db.runningCount_eq_zero.symm

end TradingAI
