import TradingAI.Execution.StepTable

/-!
# `Correctness.StepSerialisation` — paper steps are created one at a time

A creation asks three questions and takes a number, in four statements, before its commit publishes the
step. It does all this under the experiment's advisory lock, and the same commit gives the lock back. So
whatever the lock holder has found out stays true until it commits: other creations are kept out, and a
transaction that ends a step makes nothing false that the holder relies on.

## Contents
- `StepsSerial`: what the step table should look like.
- `CreatorKnows`, `serialOutline`: what each thread may rely on.
- `paperSteps_sound`: every statement keeps the outline.
- `paper_steps_serialised`: so does every interleaving.
-/

namespace TradingAI

open Transactions

/-! ## The invariant -/

/-- **Serial steps**: the numbers are `1 … n`, at most one step is running, and no two scheduled steps
    share a slot. -/
structure StepsSerial (db : Db) : Prop where
  numbered   : db.Numbered
  oneRunning : db.runningCount ≤ 1
  slots      : ((db.steps.filter (·.triggerType = .scheduled)).map ExecutionStep.scheduledFor).Nodup

/-- The slot of a scheduled request is free. -/
def SlotFree (r : StepRequest) (db : Db) : Prop :=
  r.triggerType = .scheduled → db.hasStepForScheduledSlot r.slot = false

/-- What a thread has found out, and may still rely on. -/
def CreatorKnows (db : Db) : StepThread → Prop
  | .noneRunning _ => db.runningCount = 0
  | .slotFree r    => db.runningCount = 0 ∧ SlotFree r db
  | .numbered r n  => db.runningCount = 0 ∧ SlotFree r db ∧ n = db.maxSequenceNumber
  | _              => True

/-- The outline of `paperSteps`. -/
def serialOutline : Outline Db StepThread where
  inv    := StepsSerial
  knows  := CreatorKnows
  locked l := l.holdsLock = true

variable {db db' : Db} {r : StepRequest} {l : StepThread}

/-- Only the holder of the lock has found out anything. -/
theorem creatorKnows_of_unlocked (h : l.holdsLock = false) : CreatorKnows db l := by
  cases l with
  | noneRunning | slotFree | numbered => cases h
  | _ => trivial

/-! ## Ending a step -/

theorem SlotFree.end (h : SlotFree r db) (hends : StepsEnd db db') : SlotFree r db' := by
  obtain ⟨f, hf, hsteps⟩ := hends
  intro ht
  have hfree := Db.hasStepForScheduledSlot_eq_false.mp (h ht)
  rw [Db.hasStepForScheduledSlot_eq_false, hsteps]
  intro s hs hs'
  obtain ⟨s₀, hs₀, rfl⟩ := List.mem_map.mp hs
  rw [hf.slot]
  exact hfree s₀ hs₀ ((hf.trigger s₀).symm.trans hs')

/-- Ending a step spoils nothing a creation has found out. -/
theorem CreatorKnows.end (hinv : db.Numbered) (h : CreatorKnows db l) (hends : StepsEnd db db') :
    CreatorKnows db' l := by
  have hcount : db.runningCount = 0 → db'.runningCount = 0 := fun h0 =>
    Nat.le_zero.mp ((Db.runningCount_end hends).trans h0.le)
  cases l with
  | noneRunning r => exact hcount h
  | slotFree r    => exact ⟨hcount h.1, h.2.end hends⟩
  | numbered r n  =>
      refine ⟨hcount h.1, h.2.1.end hends, ?_⟩
      have hlength : db'.steps.length = db.steps.length := by
        obtain ⟨f, -, hsteps⟩ := hends
        rw [hsteps, List.length_map]
      rw [h.2.2, hinv.maxSequenceNumber_eq, (hinv.end hends).maxSequenceNumber_eq, hlength]
  | _ => trivial

theorem StepsSerial.end (h : StepsSerial db) (hends : StepsEnd db db') : StepsSerial db' where
  numbered   := h.numbered.end hends
  oneRunning := (Db.runningCount_end hends).trans h.oneRunning
  slots := by
    obtain ⟨f, hf, hsteps⟩ := hends
    have hfilter : db'.steps.filter (·.triggerType = .scheduled) =
        (db.steps.filter (·.triggerType = .scheduled)).map f := by
      rw [hsteps, List.filter_map]
      congr 1
      exact List.filter_congr fun s _ => by simp [hf.trigger]
    have hslot : ExecutionStep.scheduledFor ∘ f = ExecutionStep.scheduledFor := funext hf.slot
    rw [hfilter, List.map_map, hslot]
    exact h.slots

/-! ## Creating a step -/

/-- **A creation that relies on true answers keeps the steps serial.** -/
theorem StepsSerial.insertStep (h : StepsSerial db) (hrunning : db.runningCount = 0)
    (hfree : SlotFree r db) :
    StepsSerial (db.insertStep r.triggerType r.slot r.now (db.maxSequenceNumber + 1)) where
  numbered := by
    rw [h.numbered.maxSequenceNumber_eq]
    exact h.numbered.insertStep _ _ _
  oneRunning := by rw [Db.runningCount_insertStep, hrunning]
  slots := by
    simp only [Db.insertStep, List.filter_append, List.map_append]
    by_cases ht : r.triggerType = .scheduled
    · have hslots := Db.hasStepForScheduledSlot_eq_false.mp (hfree ht)
      have hnew : (newStep db.nextId r.triggerType r.slot r.now (db.maxSequenceNumber + 1)).triggerType =
        .scheduled := ht
      simp only [List.filter_singleton, hnew, decide_true, cond_true, List.map_singleton]
      refine List.nodup_append.mpr ⟨h.slots, List.nodup_singleton _, ?_⟩
      intro a ha b hb
      obtain ⟨s, hs, rfl⟩ := List.mem_map.mp ha
      obtain ⟨hs, hscheduled⟩ := List.mem_filter.mp hs
      rw [List.mem_singleton.mp hb]
      exact hslots s hs (by simpa using hscheduled)
    · have hnew : (newStep db.nextId r.triggerType r.slot r.now (db.maxSequenceNumber + 1)).triggerType ≠
        .scheduled := ht
      simpa [List.filter_singleton, hnew] using h.slots

/-! ## The statements -/

/-- A commit that at most ends steps, of a thread that then holds no lock, is sound. -/
theorem sound_end {l' : StepThread} (hinv : StepsSerial db) (hends : StepsEnd db db')
    (hl' : l'.holdsLock = false) : serialOutline.Sound db l (.commit db' l') :=
  ⟨hinv.end hends, ⟨creatorKnows_of_unlocked hl', by simp [serialOutline, hl']⟩,
    fun _ hother _ => hother.end hinv.numbered hends⟩

/-- A rollback to a place without the lock is sound. -/
theorem sound_rollback {l' : StepThread} (hl' : l'.holdsLock = false) :
    serialOutline.Sound db l (.rollback l') :=
  ⟨creatorKnows_of_unlocked hl', by simp [serialOutline, hl']⟩

/-- Staying outside the lock is sound. -/
theorem sound_go {l' : StepThread} (hl : l.holdsLock = false) (hl' : l'.holdsLock = false) :
    serialOutline.Sound db l (.go l') :=
  ⟨creatorKnows_of_unlocked hl', by simp [serialOutline, hl, hl']⟩

/-- **Step lemma**: every statement of a paper step is sound, whatever its surroundings choose. -/
theorem paperSteps_sound (testModeEnabled : Bool) (c : StepChoice) (hinv : StepsSerial db)
    (hknows : CreatorKnows db l) : serialOutline.Sound db l (paperSteps testModeEnabled c db l) := by
  have hstay : serialOutline.Sound db l (.go l) := ⟨hknows, Iff.rfl⟩
  cases c with
  | call r =>
      cases l with
      | idle => simp only [paperSteps]; split <;> exact sound_go rfl rfl
      | _ => exact hstay
  | save rows =>
      cases l with
      | idle | created => exact sound_end hinv (.of_eq (rows.steps db)) rfl
      | _ => exact hstay
  | finish rows failure now =>
      cases l with
      | executing r id status =>
          exact sound_end hinv (stepsEnd_flush (stepsEnd_finishStep rows id failure now)) rfl
      | _ => exact hstay
  | record now =>
      cases l with
      | recording id failure status =>
          exact sound_end hinv (stepsEnd_flush (stepsEnd_recordFailure id failure now)) rfl
      | _ => exact hstay
  | raise e => cases l <;> exact sound_rollback (StepThread.holdsLock_raised e _)
  | proceed =>
      cases l with
      | idle | executing | recording => exact hstay
      | created | failing => exact sound_go rfl rfl
      | opened r =>
          simp only [paperSteps]
          split
          · split
            · exact sound_go rfl rfl
            · exact sound_rollback rfl
          · exact sound_rollback rfl
      | loaded r e =>
          simp only [paperSteps]
          split
          · exact sound_go rfl rfl
          · exact sound_rollback rfl
      | supported r =>
          exact ⟨by simp [serialOutline, StepThread.holdsLock], ⟨trivial, rfl⟩, trivial, Bool.false_ne_true⟩
      -- from here on the thread holds the lock
      | locked r =>
          simp only [paperSteps]
          split
          · exact sound_rollback rfl
          · next h => exact ⟨Db.hasRunningStep_false_iff.mp (Bool.not_eq_true _ ▸ h), Iff.rfl⟩
      | noneRunning r =>
          simp only [paperSteps]
          split
          · exact sound_rollback rfl
          · next h => exact ⟨⟨hknows, fun ht => Bool.not_eq_true _ ▸ fun h' => h ⟨ht, h'⟩⟩, Iff.rfl⟩
      | slotFree r => exact ⟨⟨hknows.1, hknows.2, rfl⟩, Iff.rfl⟩
      | numbered r n =>
          obtain ⟨hrunning, hfree, rfl⟩ := hknows
          simp only [paperSteps]
          split
          · exact sound_rollback (StepThread.holdsLock_recover ..)
          · refine ⟨hinv.insertStep hrunning hfree, ⟨trivial, Bool.false_ne_true⟩, fun other _ hexclusive => ?_⟩
            -- the lock is mine, so nobody else has found out anything
            exact creatorKnows_of_unlocked (by simpa [serialOutline, StepThread.holdsLock] using hexclusive)

/-! ## Every interleaving -/

/-- A new experiment has no step. -/
theorem StepsSerial.new (h : db.steps = []) : StepsSerial db := by
  refine ⟨?_, ?_, ?_⟩ <;> simp [Db.Numbered, Db.runningCount, h]

/-- **Run lemma**: interleaved paper calls keep the steps serial. -/
theorem StepsSerial.run {testModeEnabled : Bool} {m : Machine Db StepThread} (h : serialOutline.Holds m)
    (es : List (Event StepChoice)) : StepsSerial (Runs.run (exec (paperSteps testModeEnabled)) es m).data :=
  (h.run (fun c _ _ hinv hknows _ => paperSteps_sound testModeEnabled c hinv hknows) (Meets.always es m)).inv

/-- **Paper step creation is serialised.** In every interleaving of any number of calls on a new
    experiment, at every moment: the sequence numbers of the steps are `1 … n`, at most one of them is
    running, and no two scheduled ones share a slot. -/
theorem paper_steps_serialised (testModeEnabled : Bool) (db : Db) (hnew : db.steps = [])
    (es : List (Event StepChoice)) :
    StepsSerial (Runs.run (exec (paperSteps testModeEnabled)) es ⟨db, none, fun _ => .idle⟩).data := by
  have hstart : serialOutline.Holds ⟨db, none, fun _ => StepThread.idle⟩ :=
    .start (StepsSerial.new hnew) trivial (by simp [serialOutline, StepThread.holdsLock])
  exact .run hstart es

/-- A manual call and one of the scheduler, in turns. -/
def twoCallers : List (Event StepChoice) :=
  [⟨0, .call ⟨.manual, none, 5⟩⟩, ⟨1, .call ⟨.scheduled, some 7, 6⟩⟩]
    ++ (List.replicate 7 [⟨0, .proceed⟩, ⟨1, .proceed⟩]).flatten

/-- One of the two gets its step. -/
theorem two_callers_serialised :
    StepsSerial (Runs.run (exec (paperSteps false)) twoCallers ⟨smallDb .buyAndHold .daily, none, fun _ => .idle⟩).data ∧
      (Runs.run (exec (paperSteps false)) twoCallers ⟨smallDb .buyAndHold .daily, none, fun _ => .idle⟩).data.steps.map
        ExecutionStep.triggerType = [.manual] :=
  ⟨paper_steps_serialised false (smallDb .buyAndHold .daily) rfl twoCallers, by decide +kernel⟩

end TradingAI
