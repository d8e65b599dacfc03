import TradingAI.Execution.Calls
import TradingAI.Execution.HistoricalDrivers
import TradingAI.Execution.StepTable

/-!
# `Correctness.HistoricalBars` — each bar one step, one step at a time

Calls of `run_next_step` keep out of each other's way with the advisory lock, the check for a running step
and the bar they pick. The orchestrator does not ask for the lock, does not check, and takes the bar its
loop is at. So the two drivers together run each bar exactly once only as long as the orchestrator creates a
step where the step runner would have created the same one, and no call creates a step while one of the
orchestrator's is running.

## Contents
- `BarsInOrder`: what the steps should look like.
- `DriversApart`: the condition on the two drivers.
- `DriverKnows`, `historicalDrivers_sound`, `historical_steps_exclusive`.
- `both_drivers_running`: a run in which two steps are running.
-/

namespace TradingAI

open Transactions

/-! ## The steps and the bars -/

/-- **One step for each bar**: at most one step is running, and when the experiment is completed its steps,
    by sequence number, are those of the bars, in order. -/
structure EachBarOnce (bars : List DateTime) (db : Db) : Prop where
  exclusive : db.runningCount ≤ 1
  complete  : db.status = some .completed → db.listSteps.map ExecutionStep.scheduledFor = bars.map some

/-- The invariant: the steps are numbered, and they are those of the first bars, in order. -/
structure BarsInOrder (bars : List DateTime) (db : Db) : Prop where
  numbered   : db.Numbered
  inOrder    : db.steps.map ExecutionStep.scheduledFor = (bars.take db.steps.length).map some
  oneRunning : db.runningCount ≤ 1
  complete   : db.status = some .completed → bars.length ≤ db.steps.length

variable {bars : List DateTime} {db db' : Db} {l : HistoricalThread}

/-- Numbered steps are listed as they were inserted. -/
theorem Db.Numbered.listSteps_eq (h : db.Numbered) : db.listSteps = db.steps := by
  refine List.Pairwise.insertionSort_eq ?_
  have hsorted : (db.steps.map ExecutionStep.sequenceNumber).Pairwise (· ≤ ·) := by
    rw [h]; exact (List.pairwise_lt_range' ..).imp Nat.le_of_lt
  exact List.pairwise_map.mp hsorted

theorem BarsInOrder.eachBarOnce (h : BarsInOrder bars db) : EachBarOnce bars db where
  exclusive := h.oneRunning
  complete hdone := by
    rw [h.numbered.listSteps_eq, h.inOrder, List.take_of_length_le (h.complete hdone)]

/-! ## The condition -/

/-- No step of the orchestrator is running. -/
def OrchestratorQuiet (db : Db) : Prop :=
  ∀ s ∈ db.steps, s.triggerType = .historical → s.status ≠ .running

/-- No step of a call is running. -/
def CallsQuiet (db : Db) : Prop := ∀ s ∈ db.steps, s.triggerType ≠ .historical → s.status ≠ .running

/-- **The drivers keep apart**: a call inserts a step while none of the orchestrator's is running, and the
    orchestrator inserts the step of a bar when no step is running and there are as many steps as bars
    before it. -/
def DriversApart (bars : List DateTime) : HistoricalChoice → Db → HistoricalThread → Prop
  | .proceed _, db, .numbered _ n =>
      n < bars.length → db.hasSequenceNumber (n + 1) = false → OrchestratorQuiet db
  | .proceed _, db, .barNumbered _ i _ n =>
      db.hasSequenceNumber (n + 1) = false → db.runningCount = 0 ∧ db.steps.length = i
  | _, _, _ => True

/-! ## The outline -/

/-- What a thread may rely on. -/
def DriverKnows (bars : List DateTime) (db : Db) : HistoricalThread → Prop
  | .noneRunning _ => CallsQuiet db
  | .numbered _ n  => CallsQuiet db ∧ n ≤ db.steps.length
  | .atBar _ i     => i ≤ db.steps.length
  | .barNumbered _ i bar n => bars[i]? = some bar ∧ n ≤ db.steps.length
  | .running (.stepRunner n) _ | .checkingFinal n => n ≤ db.steps.length
  | .running (.orchestrator _ i) _ => i + 1 ≤ db.steps.length
  | .completing _ | .closing _ _ => bars.length ≤ db.steps.length
  | _ => True

/-- The outline of `historicalDrivers`. -/
def barsOutline (bars : List DateTime) : Outline Db HistoricalThread where
  inv    := BarsInOrder bars
  knows  := DriverKnows bars
  locked l := l.holdsLock = true

/-- A commit spoils nothing another thread relies on, if the steps become no fewer and, for a thread that
    has checked, no step of a call starts. -/
theorem DriverKnows.mono (h : DriverKnows bars db l) (hlength : db.steps.length ≤ db'.steps.length)
    (hquiet : l.holdsLock = true → CallsQuiet db → CallsQuiet db') : DriverKnows bars db' l := by
  cases l with
  | noneRunning t => exact hquiet rfl h
  | numbered t n => exact ⟨hquiet rfl h.1, h.2.trans hlength⟩
  | atBar o i => exact Nat.le_trans h hlength
  | barNumbered o i bar n => exact ⟨h.1, h.2.trans hlength⟩
  | running d id => cases d <;> exact Nat.le_trans h hlength
  | checkingFinal n => exact Nat.le_trans h hlength
  | completing d => exact Nat.le_trans h hlength
  | closing d loaded => exact Nat.le_trans h hlength
  | _ => trivial

/-! ## Ending a step, or the experiment -/

theorem StepsEnd.length_eq (h : StepsEnd db db') : db'.steps.length = db.steps.length := by
  obtain ⟨f, -, hsteps⟩ := h
  rw [hsteps, List.length_map]

theorem CallsQuiet.end (h : CallsQuiet db) (hends : StepsEnd db db') : CallsQuiet db' := by
  obtain ⟨f, hf, hsteps⟩ := hends
  intro s hs htrigger hrunning
  rw [hsteps] at hs
  obtain ⟨s₀, hs₀, rfl⟩ := List.mem_map.mp hs
  exact h s₀ hs₀ (by rwa [hf.trigger] at htrigger) (hf.status s₀ hrunning)

theorem BarsInOrder.end (h : BarsInOrder bars db) (hends : StepsEnd db db')
    (hcomplete : db'.status = some .completed → bars.length ≤ db.steps.length) : BarsInOrder bars db' where
  numbered   := h.numbered.end hends
  inOrder := by
    have hlength := hends.length_eq
    obtain ⟨f, hf, hsteps⟩ := hends
    rw [hlength, ← h.inOrder, hsteps, List.map_map]
    exact List.map_congr_left fun s _ => hf.slot s
  oneRunning := (Db.runningCount_end hends).trans h.oneRunning
  complete hdone := by rw [hends.length_eq]; exact hcomplete hdone

/-- A commit that at most ends steps is sound, if it completes the experiment only after the last bar. -/
theorem sound_ending {l' : HistoricalThread} (hinv : BarsInOrder bars db) (hends : StepsEnd db db')
    (hcomplete : db'.status = some .completed → bars.length ≤ db.steps.length)
    (hnext : DriverKnows bars db l') (hlock : l'.holdsLock = false) :
    (barsOutline bars).Sound db l (.commit db' l') := by
  have hmono : ∀ other, DriverKnows bars db other → DriverKnows bars db' other := fun other hother =>
    hother.mono hends.length_eq.ge fun _ hquiet => hquiet.end hends
  exact ⟨hinv.end hends hcomplete, ⟨hmono l' hnext, by simp [barsOutline, hlock]⟩,
    fun other hother _ => hmono other hother⟩

/-! ## Creating a step -/

/-- Inserting the step of the next bar, when no step is running. -/
theorem BarsInOrder.insertStep (h : BarsInOrder bars db) (hrunning : db.runningCount = 0)
    {bar : DateTime} (hbar : bars[db.steps.length]? = some bar) (t : TriggerType) (now : DateTime) :
    BarsInOrder bars (db.insertStep t bar now (db.steps.length + 1)) where
  numbered   := h.numbered.insertStep t bar now
  inOrder := by
    simp only [Db.insertStep, List.map_append, List.length_append, List.length_singleton, h.inOrder,
      List.take_add_one, hbar]
    rfl
  oneRunning := by rw [Db.runningCount_insertStep, hrunning]
  complete hdone := (h.complete hdone).trans (by simp [Db.insertStep])

/-- The number a thread has read is free only if it is still the largest. -/
theorem eq_length_of_free (h : db.Numbered) {n : ℕ} (hn : n ≤ db.steps.length)
    (hfree : db.hasSequenceNumber (n + 1) = false) : n = db.steps.length := by
  by_contra hne
  have htaken : db.hasSequenceNumber (n + 1) = true := h.hasSequenceNumber_iff.mpr (by omega)
  rw [htaken] at hfree
  cases hfree

/-- An insert of the orchestrator starts no step of a call. -/
theorem CallsQuiet.insertStep (h : CallsQuiet db) (bar now : DateTime) (n : ℕ) :
    CallsQuiet (db.insertStep .historical bar now n) := by
  intro s hs htrigger
  rcases List.mem_append.mp hs with hs | hs
  · exact h s hs htrigger
  · rw [List.mem_singleton.mp hs] at htrigger
    exact absurd rfl htrigger

/-! ## The statements -/

theorem sound_back {l' : HistoricalThread} (hnext : DriverKnows bars db l') (hlock : l'.holdsLock = false) :
    (barsOutline bars).Sound db l (.rollback l') :=
  ⟨hnext, by simp [barsOutline, hlock]⟩

theorem sound_on {l' : HistoricalThread} (hnext : DriverKnows bars db l')
    (hlock : l'.holdsLock = l.holdsLock) : (barsOutline bars).Sound db l (.go l') :=
  ⟨hnext, by simp [barsOutline, hlock]⟩

/-- Nothing is known, and nothing locked, where an exception leads. -/
theorem sound_recover (d : Driver) (id : Option ℕ) (e : Raised) :
    (barsOutline bars).Sound db l (.rollback (.recover d id e)) := by
  unfold HistoricalThread.recover
  split <;> exact sound_back trivial rfl

theorem sound_raised (e : Raised) : (barsOutline bars).Sound db l (.rollback (l.raised e)) := by
  cases l <;> first | exact sound_recover .. | exact sound_back trivial rfl

/-- **A call creates its step soundly**: it holds the lock, so no other call's step is running, and by the
    condition none of the orchestrator's is. -/
theorem call_creates {t : TriggerType} {n : ℕ} (hinv : BarsInOrder bars db)
    (hknows : CallsQuiet db ∧ n ≤ db.steps.length) (now : DateTime)
    (hapart : n < bars.length → db.hasSequenceNumber (n + 1) = false → OrchestratorQuiet db) :
    (barsOutline bars).Sound db (.numbered t n) (historicalDrivers bars (.proceed now) db (.numbered t n)) := by
  simp only [historicalDrivers]
  split
  · next hnone =>
      -- no bar is left
      have hlast : bars.length ≤ db.steps.length := (List.getElem?_eq_none_iff.mp hnone).trans hknows.2
      exact sound_ending hinv (stepsEnd_flush (.of_eq rfl)) (fun _ => hlast) trivial rfl
  · next bar hbar =>
      split
      · exact sound_recover ..
      · next hnumber =>
          have hfree : db.hasSequenceNumber (n + 1) = false := Bool.not_eq_true _ ▸ hnumber
          obtain rfl : n = db.steps.length := eq_length_of_free hinv.numbered hknows.2 hfree
          have hrunning : db.runningCount = 0 := by
            refine Db.runningCount_eq_zero.mpr fun s hs => ?_
            by_cases ht : s.triggerType = .historical
            · exact hapart (List.getElem?_eq_some_iff.mp hbar).1 hfree s hs ht
            · exact hknows.1 s hs ht
          have hgrown : (db.insertStep t bar now (db.steps.length + 1)).steps.length = db.steps.length + 1 := by
            simp [Db.insertStep]
          refine ⟨hinv.insertStep hrunning hbar t now, ⟨hgrown.ge, by simp [barsOutline, HistoricalThread.holdsLock]⟩,
            fun other hother hexclusive => ?_⟩
          refine hother.mono (by omega) fun hlocked => absurd hlocked ?_
          simpa [barsOutline, HistoricalThread.holdsLock] using hexclusive

/-- **The orchestrator creates its step soundly**, where the condition holds. -/
theorem loop_creates {o : HistoricalOrchestrator} {i n : ℕ} {bar : DateTime} (hinv : BarsInOrder bars db)
    (hknows : bars[i]? = some bar ∧ n ≤ db.steps.length) (now : DateTime)
    (hapart : db.hasSequenceNumber (n + 1) = false → db.runningCount = 0 ∧ db.steps.length = i) :
    (barsOutline bars).Sound db (.barNumbered o i bar n)
      (historicalDrivers bars (.proceed now) db (.barNumbered o i bar n)) := by
  simp only [historicalDrivers]
  split
  · exact sound_recover ..
  · next hnumber =>
      have hfree : db.hasSequenceNumber (n + 1) = false := Bool.not_eq_true _ ▸ hnumber
      obtain ⟨hrunning, rfl⟩ := hapart hfree
      obtain rfl : n = db.steps.length := eq_length_of_free hinv.numbered hknows.2 hfree
      have hgrown : (db.insertStep .historical bar now (db.steps.length + 1)).steps.length =
          db.steps.length + 1 := by simp [Db.insertStep]
      refine ⟨hinv.insertStep hrunning hknows.1 _ now,
        ⟨hgrown.ge, by simp [barsOutline, HistoricalThread.holdsLock]⟩, fun other hother _ => ?_⟩
      exact hother.mono (by omega) fun _ hquiet => hquiet.insertStep bar now _

/-- Completing the experiment is sound after the last bar. -/
theorem close_sound {d : Driver} {loaded : Option ExperimentStatus} (hinv : BarsInOrder bars db)
    (hlast : bars.length ≤ db.steps.length) (now : DateTime) :
    (barsOutline bars).Sound db l (.commit (d.close db loaded now) .idle) := by
  refine sound_ending hinv ?_ (fun _ => hlast) trivial rfl
  cases d with
  | orchestrator o i => exact stepsEnd_flush (.of_eq rfl)
  | stepRunner n =>
      simp only [Driver.close]
      split
      · exact .of_eq rfl
      · exact stepsEnd_flush (.of_eq rfl)

/-- Recording a failure completes nothing. -/
theorem recording_sound {message : String} {id : Option ℕ} {e : Raised} {loaded : Option ExperimentStatus}
    (hinv : BarsInOrder bars db) (now : DateTime) :
    (barsOutline bars).Sound db l
      (.commit (db.flush loaded (db.recordHistoricalFailure message id e now)) .idle) := by
  refine sound_ending hinv (stepsEnd_flush ?_) (fun hdone => ?_) trivial rfl
  · have hsteps := db.recordHistoricalFailure_steps message id e now
    cases id with
    | none => exact .of_eq hsteps
    | some id => exact .updateStep (ends_failedStep now message) id hsteps
  · rw [Db.status_flush (db.status_recordHistoricalFailure message id e now)] at hdone
    obtain ⟨c, hc, hdone⟩ := Option.map_eq_some_iff.mp hdone
    split at hdone
    · exact hinv.complete (hc.trans (congrArg some hdone))
    · cases hdone

/-- **Step lemma**: every statement of a driver that meets the condition is sound. -/
theorem historicalDrivers_sound (c : HistoricalChoice) (hinv : BarsInOrder bars db)
    (hknows : DriverKnows bars db l) (hapart : DriversApart bars c db l) :
    (barsOutline bars).Sound db l (historicalDrivers bars c db l) := by
  have hstay : (barsOutline bars).Sound db l (.go l) := ⟨hknows, Iff.rfl⟩
  cases c with
  | call t =>
      cases l with
      | idle => simp only [historicalDrivers]; split <;> exact sound_on trivial rfl
      | _ => exact hstay
  | finish rows now =>
      cases l with
      | running d id =>
          refine sound_ending hinv ?_ (fun hdone => ?_) ?_ (by cases d <;> rfl)
          · exact .updateStep (ends_completedStep now) id (by rw [Db.updateStep, rows.steps]; rfl)
          · refine hinv.complete (Eq.trans ?_ hdone)
            exact (congrArg (Option.map Experiment.status) (rows.experiment db)).symm
          · cases d <;> exact hknows
      | _ => exact hstay
  | raise e => exact sound_raised e
  | proceed now =>
      cases l with
      | idle | running => exact hstay
      | selecting t =>
          simp only [historicalDrivers]
          split
          · split
            · exact sound_on trivial rfl
            · exact sound_back trivial rfl
          · exact sound_back trivial rfl
      | accepted t =>
          exact ⟨by simp [barsOutline, HistoricalThread.holdsLock], ⟨trivial, rfl⟩, trivial, Bool.false_ne_true⟩
      | locked t =>
          simp only [historicalDrivers]
          split
          · exact sound_back trivial rfl
          · next h =>
              have hquiet := Db.hasRunningStep_eq_false.mp (Bool.not_eq_true _ ▸ h)
              exact sound_on (fun s hs _ => hquiet s hs) rfl
      | noneRunning t => exact sound_on ⟨hknows, hinv.numbered.maxSequenceNumber_eq.le⟩ rfl
      | numbered t n => exact call_creates hinv hknows now hapart
      | launched o =>
          simp only [historicalDrivers]
          split
          · exact sound_on (Nat.zero_le _) rfl
          · exact sound_recover ..
      | atBar o i =>
          simp only [historicalDrivers]
          split
          · next hnone => exact sound_on ((List.getElem?_eq_none_iff.mp hnone).trans hknows) rfl
          · next bar hbar => exact sound_on ⟨hbar, hinv.numbered.maxSequenceNumber_eq.le⟩ rfl
      | barNumbered o i bar n => exact loop_creates hinv hknows now hapart
      | checkingFinal n =>
          simp only [historicalDrivers]
          split
          · next h => exact sound_on (Nat.le_trans h hknows) rfl
          · exact sound_on trivial rfl
      | completing d =>
          simp only [historicalDrivers]
          split
          · exact sound_on hknows rfl
          · exact sound_recover ..
      | closing d loaded => exact close_sound hinv hknows now
      | failing message id e => exact sound_on trivial rfl
      | recording message id e loaded => exact recording_sound hinv now

/-! ## Every interleaving -/

/-- The orchestrator is launched, nobody else has begun. -/
def launchedMachine (db : Db) (o : HistoricalOrchestrator) : Machine Db HistoricalThread :=
  ⟨db, none, fun i => if i = 0 then .launched o else .idle⟩

/-- **Run lemma**: interleaved drivers that keep apart keep the steps in the order of the bars. -/
theorem BarsInOrder.run {m : Machine Db HistoricalThread} (h : (barsOutline bars).Holds m)
    {es : List (Event HistoricalChoice)} (hes : Meets (historicalDrivers bars) (DriversApart bars) es m) :
    BarsInOrder bars (Runs.run (exec (historicalDrivers bars)) es m).data :=
  (h.run (fun c _ _ hinv hknows hapart => historicalDrivers_sound c hinv hknows hapart) hes).inv

/-- **When historical execution is exclusive and exact.** The orchestrator of a started experiment and any
    number of calls, in any interleaving in which the drivers keep apart: at every moment at most one step
    is running, and when the experiment is completed, its steps are its bars, one for one and in order. -/
theorem historical_steps_exclusive (dailyBars : List DailyBar) (o : HistoricalOrchestrator) (db : Db)
    (es : List (Event HistoricalChoice)) (hstarted : db.status = some .running) (hnew : db.steps = [])
    (hapart : Meets (historicalDrivers (dailyBars.map DailyBar.barTimestamp))
      (DriversApart (dailyBars.map DailyBar.barTimestamp)) es (launchedMachine db o)) :
    EachBarOnce (dailyBars.map DailyBar.barTimestamp)
      (Runs.run (exec (historicalDrivers (dailyBars.map DailyBar.barTimestamp))) es
        (launchedMachine db o)).data := by
  have hinv : BarsInOrder (dailyBars.map DailyBar.barTimestamp) db := by
    refine ⟨?_, ?_, ?_, fun hdone => ?_⟩
    · simp [Db.Numbered, hnew]
    · simp [hnew]
    · simp [Db.runningCount, hnew]
    · rw [hstarted] at hdone; cases hdone
  have hstart : (barsOutline (dailyBars.map DailyBar.barTimestamp)).Holds (launchedMachine db o) := by
    refine ⟨hinv, fun i => ?_, fun i => ?_⟩
    · simp only [launchedMachine]; split <;> trivial
    · simp only [launchedMachine]; split <;> simp [barsOutline, HistoricalThread.holdsLock]
  exact (BarsInOrder.run hstart hapart).eachBarOnce

/-! ## Both drivers at once, and one after the other -/

/-- A started historical experiment. -/
def smallHistorical : Db :=
  { smallDb .buyAndHold .daily with
    experiment := some { smallExperiment .buyAndHold .daily with mode := .historicalSimulation } }

/-- A bar of the day `d`. -/
def dayBar (d : Date) : DailyBar := { barAt 100 with date := d }

/-- A manual call creates its step. -/
def manualCall : List (Event HistoricalChoice) := ⟨1, .call .manual⟩ :: List.replicate 5 ⟨1, .proceed 0⟩

/-- The orchestrator is launched and creates its first step. -/
def firstBar : List (Event HistoricalChoice) := List.replicate 3 ⟨0, .proceed 0⟩

/-- It completes a step and goes on to the next bar. -/
def nextBar : List (Event HistoricalChoice) := [⟨0, .finish .none 0⟩, ⟨0, .proceed 0⟩, ⟨0, .proceed 0⟩]

/-- It completes the last step and then the experiment. -/
def lastBarDone : List (Event HistoricalChoice) := ⟨0, .finish .none 0⟩ :: List.replicate 3 ⟨0, .proceed 0⟩

/-- **Both drivers run a step**: a manual call has created the step of the first bar, and the orchestrator,
    which does not look, creates another. -/
theorem both_drivers_running :
    ¬ ∀ (dailyBars : List DailyBar) (o : HistoricalOrchestrator) (db : Db)
      (es : List (Event HistoricalChoice)), db.status = some .running → db.steps = [] →
      EachBarOnce (dailyBars.map DailyBar.barTimestamp)
        (Runs.run (exec (historicalDrivers (dailyBars.map DailyBar.barTimestamp))) es
          (launchedMachine db o)).data := by
  intro h
  have hboth := h [dayBar 1, dayBar 2] .buyAndHold smallHistorical (manualCall ++ firstBar) rfl rfl
  exact absurd hboth.exclusive (by decide +kernel)

/-- Once both are done, the first bar has two steps. -/
example :
    let bars := [dayBar 1, dayBar 2].map DailyBar.barTimestamp
    let db := (Runs.run (exec (historicalDrivers bars))
      (manualCall ++ firstBar ++ ⟨1, .finish .none 0⟩ :: nextBar ++ lastBarDone)
      (launchedMachine smallHistorical .buyAndHold)).data
    db.status = some .completed ∧ db.steps.length = 3 := by decide +kernel

/-- The orchestrator alone runs each bar once; a call in between is refused. -/
theorem orchestrator_alone_exclusive :
    EachBarOnce ([dayBar 1, dayBar 2].map DailyBar.barTimestamp)
      (Runs.run (exec (historicalDrivers ([dayBar 1, dayBar 2].map DailyBar.barTimestamp)))
        (firstBar ++ manualCall ++ nextBar ++ lastBarDone)
        (launchedMachine smallHistorical .buyAndHold)).data := by
  refine historical_steps_exclusive [dayBar 1, dayBar 2] .buyAndHold smallHistorical _ rfl rfl ?_
  refine ⟨trivial, trivial, fun _ => by decide +kernel, ?_⟩
  refine ⟨trivial, trivial, trivial, trivial, trivial, trivial, ?_⟩
  exact ⟨trivial, trivial, fun _ => by decide +kernel, trivial, trivial, trivial, trivial, trivial⟩

end TradingAI
