import TradingAI.Correctness.LoadedSessions
import TradingAI.Execution.Calls
import TradingAI.Execution.HistoricalLedger

/-!
# `Correctness.NoLookAhead` — a historical run does not see the future

A run of an orchestrator over bars is, up to any bar, the run over those bars: two ranges with the same first `k`
bars give the same first `k` steps, with all their rows (`histories_ignore_later_bars`). The daily loops walk over
the bars. The opening-range loop does look at a whole session first, at its opening range and its last bar; but the
opening range is shown only after its bars have passed, and when a session ends is known from the calendar.

## Contents
- `Extends`, `runSteps_take`: the history of a loop grows bar by bar.
- `SameStarts`, `sessionSteps_take`: what a step is told of its session.
- `runSessions_take`: the loop over sessions.
- `Loaded.groupBySession_eq`, `Loaded.sameStarts`: the sessions of two loaded ranges.
-/

namespace TradingAI

open Outcome UsEquitiesTradingCalendar

variable {rs rs' : RunState} {k n : ℕ} {clock : ℕ → StepClock}

/-! ## The history of a loop -/

/-- A run after `n` more bars: one record for each, unless something was raised. -/
structure Extends (rs rs' : RunState) (n : ℕ) : Prop where
  grows   : rs.history <+: rs'.history
  bounded : rs'.history.length ≤ rs.history.length + n
  counts  : rs'.raised = none → rs'.history.length = rs.history.length + n

theorem runBar_extends (clock : StepClock) (s : BarStep) : Extends rs (rs.runBar clock s).1 1 := by
  unfold RunState.runBar
  dsimp only
  split
  · have hlength {r : StepRecord} : (rs.history ++ [r]).length = rs.history.length + 1 := by
      rw [List.length_append, List.length_singleton]
    exact ⟨List.prefix_append _ _, hlength.le, fun _ => hlength⟩
  · refine ⟨List.prefix_rfl, Nat.le_succ _, fun hnone => ?_⟩
    cases hnone

/-- A raised exception ends a loop. -/
theorem runSteps_raised {steps : List (Bool → BarStep)} {b : Bool} {failure : Option ℕ × Raised}
    (h : rs.raised = some failure) : runSteps clock steps b rs = rs := by
  cases steps with
  | nil => rfl
  | cons step steps =>
      rw [runSteps, h]

theorem runSteps_extends {steps : List (Bool → BarStep)} {b : Bool} :
    Extends rs (runSteps clock steps b rs) steps.length := by
  induction steps generalizing b rs with
  | nil => exact ⟨List.prefix_rfl, le_rfl, fun _ => rfl⟩
  | cons step steps ih =>
      cases hraised : rs.raised with
      | some failure =>
          rw [runSteps_raised hraised]
          refine ⟨List.prefix_rfl, Nat.le_add_right _ _, fun hnone => ?_⟩
          rw [hraised] at hnone
          cases hnone
      | none =>
          rw [runSteps, hraised]
          dsimp only
          set first := rs.runBar (clock rs.history.length) (step b) with hfirst
          have hone : Extends rs first.1 1 := hfirst ▸ runBar_extends _ _
          have hrest : Extends first.1 (runSteps clock steps (b || first.2) first.1) steps.length := ih
          refine ⟨hone.grows.trans hrest.grows, ?_, fun hnone => ?_⟩
          · rw [List.length_cons]
            have h₁ := hone.bounded
            have h₂ := hrest.bounded
            omega
          · -- what was raised at the first bar, is still there at the end
            have hgoes : first.1.raised = none := by
              cases hstopped : first.1.raised with
              | none => rfl
              | some failure =>
                  rw [runSteps_raised hstopped, hstopped] at hnone
                  cases hnone
            rw [List.length_cons, hrest.counts hnone, hone.counts hgoes]
            omega

/-- What a longer history begins with. -/
theorem Extends.take (h : Extends rs rs' n) : rs'.history.take rs.history.length = rs.history :=
  (List.prefix_iff_eq_take.mp h.grows).symm

/-- **The first `k` records of a loop** are the records of the loop over its first `k` bars. -/
theorem runSteps_take {steps : List (Bool → BarStep)} {b : Bool} :
    (runSteps clock steps b rs).history.take (rs.history.length + k) =
      (runSteps clock (steps.take k) b rs).history := by
  induction steps generalizing b rs k with
  | nil =>
      rw [List.take_nil, runSteps]
      exact List.take_of_length_le (Nat.le_add_right _ _)
  | cons step steps ih =>
      cases k with
      | zero =>
          have hall : Extends rs (runSteps clock (step :: steps) b rs) _ := runSteps_extends
          exact hall.take
      | succ k =>
          rw [List.take_succ_cons]
          cases hraised : rs.raised with
          | some failure =>
              rw [runSteps_raised hraised, runSteps_raised hraised]
              exact List.take_of_length_le (Nat.le_add_right _ _)
          | none =>
              rw [runSteps, runSteps, hraised]
              dsimp only
              set first := rs.runBar (clock rs.history.length) (step b) with hfirst
              have hone : Extends rs first.1 1 := hfirst ▸ runBar_extends _ _
              cases hstopped : first.1.raised with
              | some failure =>
                  rw [runSteps_raised hstopped, runSteps_raised hstopped]
                  have hbounded := hone.bounded
                  exact List.take_of_length_le (by omega)
              | none =>
                  rw [← ih, hone.counts hstopped]
                  congr 1
                  omega

/-- Loops over bars that begin alike have histories that begin alike. -/
theorem runSteps_agree {steps steps' : List (Bool → BarStep)} {b : Bool} (h : steps.take k = steps'.take k) :
    (runSteps clock steps b rs).history.take (rs.history.length + k) =
      (runSteps clock steps' b rs).history.take (rs.history.length + k) := by
  rw [runSteps_take, runSteps_take, h]

/-! ## One session -/

/-- Two sessions whose bars start at the same times of day, one after another. -/
structure SameStarts (l l' : List IntradayBar) : Prop where
  starts    : l.map IntradayBar.timestamp = l'.map IntradayBar.timestamp
  ascending : l.Pairwise fun bar later => bar.timestamp.time < later.timestamp.time

namespace SameStarts

variable {l l' : List IntradayBar} (h : SameStarts l l')
include h

theorem length_eq : l.length = l'.length := by
  rw [← List.length_map (f := IntradayBar.timestamp), h.starts, List.length_map]

theorem symm : SameStarts l' l := by
  refine ⟨h.starts.symm, ?_⟩
  have hpairs := h.ascending
  rw [← List.pairwise_map (f := IntradayBar.timestamp) (R := fun t u => t.time < u.time)] at hpairs ⊢
  rwa [← h.starts]

/-- The bars of the opening range have passed when it is shown. -/
theorem openingBars_take {bar : IntradayBar} (hbar : bar ∈ l.take k) (hlate : openingRangeEnd < bar.timestamp.time) :
    l.filter (·.timestamp.time ≤ openingRangeEnd) = (l.take k).filter (·.timestamp.time ≤ openingRangeEnd) := by
  have hsplit := h.ascending
  rw [← List.take_append_drop k l, List.pairwise_append] at hsplit
  have hrest : (l.drop k).filter (·.timestamp.time ≤ openingRangeEnd) = [] := by
    rw [List.filter_eq_nil_iff]
    intro later hlater
    rw [decide_eq_true_eq, not_le]
    exact hlate.trans (hsplit.2.2 bar hbar later hlater)
  conv_lhs => rw [← List.take_append_drop k l, List.filter_append, hrest, List.append_nil]

/-- Whether there are bars in the opening range is known from their starts. -/
theorem openingBars_eq_nil_iff : l.filter (·.timestamp.time ≤ openingRangeEnd) = [] ↔
    l'.filter (·.timestamp.time ≤ openingRangeEnd) = [] := by
  have hmap (m : List IntradayBar) : (m.filter (·.timestamp.time ≤ openingRangeEnd)).map IntradayBar.timestamp =
      (m.map IntradayBar.timestamp).filter fun t => decide (t.time ≤ openingRangeEnd) := by
    rw [List.filter_map]
    rfl
  rw [← List.map_eq_nil_iff (f := IntradayBar.timestamp), hmap, h.starts, ← hmap, List.map_eq_nil_iff]

end SameStarts

theorem openingRange_eq_error {l : List IntradayBar} (h : l.filter (·.timestamp.time ≤ openingRangeEnd) = []) :
    openingRange l = .error (emptySequence "max") := by
  unfold openingRange
  rw [h]
  rfl

theorem openingRange_eq_ok {l : List IntradayBar} (h : l.filter (·.timestamp.time ≤ openingRangeEnd) ≠ []) :
    ∃ range, openingRange l = .ok range := by
  unfold openingRange
  obtain ⟨bar, bars, hbars⟩ := List.exists_cons_of_ne_nil h
  rw [hbars]
  exact ⟨_, rfl⟩

variable {l l' : List IntradayBar}

/-- **What the steps of a session are told**, up to a bar that the sessions share. -/
theorem sessionSteps_take (h : SameStarts l l') (hshare : l.take k = l'.take k) {range range' : ℚ × ℚ}
    (hrange : openingRange l = .ok range) (hrange' : openingRange l' = .ok range') :
    (sessionSteps l range.1 range.2).take k = (sessionSteps l' range'.1 range'.2).take k := by
  unfold sessionSteps
  rw [← List.map_take, ← List.map_take, ← hshare]
  refine List.map_congr_left fun bar hbar => ?_
  funext roundTripCompleted
  have hfinal : l.getLast?.map IntradayBar.timestamp = l'.getLast?.map IntradayBar.timestamp := by
    rw [← List.getLast?_map, h.starts, List.getLast?_map]
  have hstate : sessionState l range.1 range.2 bar roundTripCompleted =
      sessionState l' range'.1 range'.2 bar roundTripCompleted := by
    unfold sessionState
    by_cases hlate : openingRangeEnd < bar.timestamp.time
    · -- the opening range is over, and both sessions had the same
      have hbars := (h.openingBars_take hbar hlate).trans
        (hshare ▸ (h.symm.openingBars_take (hshare ▸ hbar) hlate).symm)
      have hsame : openingRange l = openingRange l' := by
        unfold openingRange
        rw [hbars]
      obtain rfl := Except.ok.inj ((hrange.symm.trans hsame).trans hrange')
      rw [hfinal]
    · simp only [decide_eq_false hlate, Bool.false_eq_true, if_false, hfinal]
  rw [hstate]

/-! ## The loop over sessions -/

theorem runSessions_raised {sessions : List (List IntradayBar)} {failure : Option ℕ × Raised}
    (h : rs.raised = some failure) : runSessions clock sessions rs = rs := by
  cases sessions with
  | nil => rfl
  | cons sessionBars sessions => rw [runSessions, h]

theorem runSessions_grows {sessions : List (List IntradayBar)} :
    rs.history <+: (runSessions clock sessions rs).history := by
  induction sessions generalizing rs with
  | nil => exact List.prefix_rfl
  | cons sessionBars sessions ih =>
      rw [runSessions]
      cases rs.raised with
      | some _ => exact List.prefix_rfl
      | none =>
          cases openingRange sessionBars with
          | error e  => exact List.prefix_rfl
          | ok range => exact (runSteps_extends).grows.trans ih

/-- More sessions do not change what a run has recorded. -/
theorem runSessions_keep {sessions : List (List IntradayBar)} (h : Extends rs rs' n) (hk : k ≤ n) :
    (runSessions clock sessions rs').history.take (rs.history.length + k) =
      rs'.history.take (rs.history.length + k) := by
  cases hraised : rs'.raised with
  | some failure => rw [runSessions_raised hraised]
  | none =>
      have hlong : rs.history.length + k ≤ rs'.history.length := by
        rw [h.counts hraised]
        omega
      have hgrows : rs'.history <+: (runSessions clock sessions rs').history := runSessions_grows
      rw [List.prefix_iff_eq_take.mp hgrows, List.take_take, min_eq_left hlong]

/-- **Sessions that begin alike** have histories that begin alike. -/
theorem runSessions_agree {sessions sessions' : List (List IntradayBar)} (h : List.Forall₂ SameStarts sessions sessions')
    (hshare : sessions.flatten.take k = sessions'.flatten.take k) :
    (runSessions clock sessions rs).history.take (rs.history.length + k) =
      (runSessions clock sessions' rs).history.take (rs.history.length + k) := by
  induction h generalizing rs k with
  | nil => rfl
  | @cons l l' sessions sessions' hstarts _ ih =>
      rw [runSessions, runSessions]
      cases hraised : rs.raised with
      | some failure => rfl
      | none =>
          dsimp only
          by_cases hopening : l.filter (·.timestamp.time ≤ openingRangeEnd) = []
          · -- neither has an opening range
            rw [openingRange_eq_error hopening, openingRange_eq_error (hstarts.openingBars_eq_nil_iff.mp hopening)]
          · obtain ⟨range, hrange⟩ := openingRange_eq_ok hopening
            obtain ⟨range', hrange'⟩ := openingRange_eq_ok (mt hstarts.openingBars_eq_nil_iff.mpr hopening)
            rw [hrange, hrange']
            dsimp only
            have hextends {m : List IntradayBar} {r : ℚ × ℚ} :
                Extends rs (runSteps clock (sessionSteps m r.1 r.2) false rs) m.length := by
              have hsteps : (sessionSteps m r.1 r.2).length = m.length := List.length_map ..
              exact hsteps ▸ runSteps_extends
            rw [List.flatten_cons, List.flatten_cons] at hshare
            rcases le_total k l.length with hk | hk
            · -- the shared bars end in this session
              rw [List.take_append_of_le_length hk, List.take_append_of_le_length (hstarts.length_eq ▸ hk)] at hshare
              rw [runSessions_keep hextends hk, runSessions_keep hextends (hstarts.length_eq ▸ hk)]
              exact runSteps_agree (sessionSteps_take hstarts hshare hrange hrange')
            · -- the sessions are the same
              have hsame : l = l' := by
                have hfirst := congrArg (List.take l.length) hshare
                rw [List.take_take, List.take_take, min_eq_left hk, List.take_left, hstarts.length_eq,
                  List.take_left] at hfirst
                exact hfirst
              subst hsame
              obtain rfl := Except.ok.inj (hrange.symm.trans hrange')
              have hrest : sessions.flatten.take (k - l.length) = sessions'.flatten.take (k - l.length) := by
                have hdropped := congrArg (List.drop l.length) hshare
                rwa [List.drop_take, List.drop_take, List.drop_left, List.drop_left] at hdropped
              set after := runSteps clock (sessionSteps l range.1 range.2) false rs with hafter
              have hone : Extends rs after l.length := hafter ▸ hextends
              cases hstopped : after.raised with
              | some failure => rw [runSessions_raised hstopped, runSessions_raised hstopped]
              | none =>
                  have hcount : rs.history.length + k = after.history.length + (k - l.length) := by
                    rw [hone.counts hstopped]
                    omega
                  rw [hcount]
                  exact ih hrest

/-! ## Loaded ranges -/

namespace Loaded

variable {first last : ℤ} {sessions : List TradingSession} {session : TradingSession} {rows rows' bars bars' : List IntradayBar}

/-- A session has bars. -/
theorem dayBars_ne_nil (h : Loaded first last sessions rows bars) (hmem : session ∈ sessions) :
    dayBars bars session ≠ [] := by
  have halone := ofCalendar (session_alone h.range h.calendar hmem)
  intro hnone
  have htimes := h.dayBars_times hmem
  rw [hnone, halone.expected] at htimes
  have hcount := congrArg List.length htimes
  simp only [barGrid, List.length_map, List.length_range, List.length_nil] at hcount
  rcases halone.barCount_eq with hfull | hearly
  · rw [hfull] at hcount
    cases hcount
  · rw [hearly] at hcount
    cases hcount

/-- **Grouping** a range by its dates gives the sessions of the calendar. -/
theorem groupBySession_eq (h : Loaded first last sessions rows bars) :
    groupBySession bars = sessions.map (dayBars bars) := by
  have hsorted := sessions_ascending h.range h.calendar
  have hdates : (bars.map IntradayBar.sessionDate).toFinset = (sessions.map TradingSession.sessionDate).toFinset := by
    ext d
    simp only [List.mem_toFinset, List.mem_map]
    constructor
    · rintro ⟨bar, hbar, rfl⟩
      obtain ⟨session, hmem, ht⟩ := List.mem_flatMap.mp (h.start_mem hbar)
      rw [h.dated bar (h.mem_rows hbar), ((mem_grid_iff h.range h.calendar hmem).mpr ht).2]
      exact ⟨session, hmem, rfl⟩
    · rintro ⟨session, hmem, rfl⟩
      obtain ⟨bar, hbar⟩ := List.exists_mem_of_ne_nil _ (h.dayBars_ne_nil hmem)
      obtain ⟨hin, hdate⟩ := List.mem_filter.mp hbar
      exact ⟨bar, hin, of_decide_eq_true hdate⟩
  unfold groupBySession
  rw [hdates, (List.toFinset_sort (· ≤ ·) (hsorted.imp ne_of_lt)).mpr (hsorted.imp le_of_lt), List.map_map]
  rfl

/-- The bars of a session start at the same times in every loaded range. -/
theorem sameStarts (h : Loaded first last sessions rows bars) (h' : Loaded first last sessions rows' bars')
    (hmem : session ∈ sessions) : SameStarts (dayBars bars session) (dayBars bars' session) := by
  refine ⟨(h.dayBars_times hmem).trans (h'.dayBars_times hmem).symm, ?_⟩
  have halone := ofCalendar (session_alone h.range h.calendar hmem)
  have htimes : ((dayBars bars session).map IntradayBar.timestamp).Pairwise fun t u => t.time < u.time := by
    rw [h.dayBars_times hmem]
    have hgrid : session.expectedBarStartTimes.Pairwise (· < ·) := halone.expected ▸ barGrid_ascending _ _
    refine hgrid.imp_of_mem fun ht hu hlt => ?_
    -- both are on the date of the session
    rw [← (halone.start_parts ht).2, ← (halone.start_parts hu).2] at hlt
    exact Nat.lt_of_add_lt_add_left hlt
  rw [List.pairwise_map] at htimes
  exact htimes

end Loaded

/-! ## The orchestrators -/

/-- What a run leaves is what its loop has recorded. -/
theorem run_history {o : HistoricalOrchestrator} {env : HistoricalEnv} {db : Db} {e : Experiment}
    (he : db.experiment = some e) {rs : RunState} (h : o.loop env e db = .ok rs) :
    (o.run env db).history = rs.history := by
  unfold HistoricalOrchestrator.run
  rw [he]
  dsimp only
  rw [h]
  exact close_history o env rs

theorem take_buyAndHoldSteps (bars : List DailyBar) :
    (buyAndHoldSteps bars).take k = buyAndHoldSteps (bars.take k) := by
  unfold buyAndHoldSteps
  exact List.map_take.symm

/-- The moving average of a bar is made of the closes before it. -/
theorem take_movingAverageSteps (window : ℕ) (prices : List ℚ) (bars : List DailyBar) :
    (movingAverageSteps window prices bars).take k = movingAverageSteps window prices (bars.take k) := by
  induction bars generalizing prices k with
  | nil => rw [List.take_nil, movingAverageSteps, List.take_nil]
  | cons bar bars ih =>
      cases k with
      | zero => rfl
      | succ k => rw [List.take_succ_cons, movingAverageSteps, movingAverageSteps, List.take_succ_cons, ih]

/-- **No look-ahead.** The steps of a historical run up to its bar `k`, with every row they leave, are those of any
    run over a range with the same first `k` bars; for an opening-range run, of any range that was validated
    against the calendar. -/
theorem histories_ignore_later_bars (env env' : HistoricalEnv) (hclock : env'.clock = env.clock) (db : Db) (e : Experiment)
    (he : db.experiment = some e) (k : ℕ) :
    (∀ bars bars', env.loadRange e.startDate e.endDate = .ok bars → env'.loadRange e.startDate e.endDate = .ok bars' →
      bars.take k = bars'.take k → ∀ o : HistoricalOrchestrator, o ≠ .openingRangeBreakout →
        (o.run env db).history.take k = (o.run env' db).history.take k) ∧
    ∀ bars bars' sessions rows rows',
      env.loadIntradayRange e.startDate e.endDate e.assetSymbol e.tradingFrequency = .ok bars →
      env'.loadIntradayRange e.startDate e.endDate e.assetSymbol e.tradingFrequency = .ok bars' →
      Loaded e.startDate e.endDate sessions rows bars → Loaded e.startDate e.endDate sessions rows' bars' →
      bars.take k = bars'.take k →
        (HistoricalOrchestrator.openingRangeBreakout.run env db).history.take k =
          (HistoricalOrchestrator.openingRangeBreakout.run env' db).history.take k := by
  have hnone : ({ db } : RunState).history.length + k = k := Nat.zero_add k
  constructor
  · intro bars bars' hload hload' hshare o ho
    cases o with
    | openingRangeBreakout => exact absurd rfl ho
    | buyAndHold =>
        have hloop : HistoricalOrchestrator.buyAndHold.loop env e db =
            .ok (runSteps env.clock (buyAndHoldSteps bars) false { db }) := by
          unfold HistoricalOrchestrator.loop
          rw [hload]
          rfl
        have hloop' : HistoricalOrchestrator.buyAndHold.loop env' e db =
            .ok (runSteps env'.clock (buyAndHoldSteps bars') false { db }) := by
          unfold HistoricalOrchestrator.loop
          rw [hload']
          rfl
        rw [run_history he hloop, run_history he hloop', hclock, ← hnone]
        apply runSteps_agree
        rw [take_buyAndHoldSteps, take_buyAndHoldSteps, hshare]
    | movingAverage =>
        cases hwindow : movingAverageWindow db with
        | error failure =>
            -- neither run gets to its first bar
            have hempty {env : HistoricalEnv} {bars : List DailyBar}
                (hload : env.loadRange e.startDate e.endDate = .ok bars) :
                (HistoricalOrchestrator.movingAverage.run env db).history = [] := by
              have hloop : HistoricalOrchestrator.movingAverage.loop env e db = .error failure := by
                unfold HistoricalOrchestrator.loop
                dsimp only
                rw [hload, hwindow]
                rfl
              unfold HistoricalOrchestrator.run
              rw [he]
              dsimp only
              rw [hloop]
              exact close_history _ _ _
            rw [hempty hload, hempty hload']
        | ok window =>
            have hloop {env : HistoricalEnv} {bars : List DailyBar}
                (hload : env.loadRange e.startDate e.endDate = .ok bars) :
                HistoricalOrchestrator.movingAverage.loop env e db =
                  .ok (runSteps env.clock (movingAverageSteps window [] bars) false { db }) := by
              unfold HistoricalOrchestrator.loop
              dsimp only
              rw [hload, hwindow]
              rfl
            rw [run_history he (hloop hload), run_history he (hloop hload'), hclock, ← hnone]
            apply runSteps_agree
            rw [take_movingAverageSteps, take_movingAverageSteps, hshare]
  · intro bars bars' sessions rows rows' hload hload' h h' hshare
    have hloop {env : HistoricalEnv} {bars rows : List IntradayBar} (h : Loaded e.startDate e.endDate sessions rows bars)
        (hload : env.loadIntradayRange e.startDate e.endDate e.assetSymbol e.tradingFrequency = .ok bars) :
        HistoricalOrchestrator.openingRangeBreakout.loop env e db =
          .ok (runSessions env.clock (sessions.map (dayBars bars)) { db }) := by
      unfold HistoricalOrchestrator.loop
      dsimp only
      rw [hload, ← h.groupBySession_eq]
      rfl
    rw [run_history he (hloop h hload), run_history he (hloop h' hload'), hclock, ← hnone]
    apply runSessions_agree
    · rw [List.forall₂_map_left_iff, List.forall₂_map_right_iff, List.forall₂_same]
      exact fun session hmem => h.sameStarts h' hmem
    · rw [← List.flatMap_def, ← List.flatMap_def, ← h.flatMap_dayBars, ← h'.flatMap_dayBars]
      exact hshare

/-! ## Two afternoons -/

deriving instance DecidableEq for IntradayBar

/-- The session of 3 July 2024, with a breakout at twenty past ten and a later price. -/
def breakoutFile (later : String) : CsvFixture where
  fieldnames := SpyIntradayCsvLoader.requiredColumns
  rows       := (List.range 42).map fun i =>
    let price := if i < 10 then "100".toList else if i < 20 then "102".toList else later.toList
    ⟨some (startText i), some price, some price, some price, some price, some "1".toList⟩

def breakoutProvider (later : String) : IntradayMarketDataProvider :=
  SpyIntradayCsvLoader.provider smallReader easternDaylightTime "spy_5min.csv" (some (breakoutFile later))

def afternoonEnv (later : String) : HistoricalEnv where
  clock             := fun n => ⟨2 * n, 2 * n + 1⟩
  closedAt          := 100
  loadRange         := fun _ _ => .ok []
  loadIntradayRange := (breakoutProvider later).loadRange

/-- An opening-range experiment over that day. -/
def julyThirdExperiment : Experiment :=
  { smallExperiment .openingRangeBreakout .intraday5Min with
    mode      := .historicalSimulation
    startDate := julyThird
    endDate   := julyThird }

def julyThirdDb : Db :=
  { smallDb .openingRangeBreakout .intraday5Min with experiment := some julyThirdExperiment }

def breakoutRun (later : String) : RunState :=
  HistoricalOrchestrator.openingRangeBreakout.run (afternoonEnv later) julyThirdDb

/-- The afternoon decides when the position is closed, but changes nothing before. -/
theorem afternoons_share_their_morning :
    (breakoutRun "90").history.take 20 = (breakoutRun "110").history.take 20 ∧
      (breakoutRun "90").db.trades.map (·.timestamp.time) = [timeOfDay 10 20, timeOfDay 11 10] ∧
      (breakoutRun "110").db.trades.map (·.timestamp.time) = [timeOfDay 10 20, timeOfDay 12 55] := by
  refine ⟨?_, by decide +kernel, by decide +kernel⟩
  have hloads (later : String) (hsome : ((breakoutProvider later).loadRange julyThird julyThird "SPY" .intraday5Min).toOption.isSome) :
      ∃ bars, (breakoutProvider later).loadRange julyThird julyThird "SPY" .intraday5Min = .ok bars := by
    cases hload : (breakoutProvider later).loadRange julyThird julyThird "SPY" .intraday5Min with
    | ok bars => exact ⟨bars, rfl⟩
    | error e =>
        rw [hload] at hsome
        cases hsome
  obtain ⟨bars, hload⟩ := hloads "90" (by decide +kernel)
  obtain ⟨bars', hload'⟩ := hloads "110" (by decide +kernel)
  obtain ⟨-, sessions, rows, -, h⟩ := SpyIntradayCsvLoader.loaded_of_loadRange hload
  obtain ⟨-, sessions', rows', -, h'⟩ := SpyIntradayCsvLoader.loaded_of_loadRange hload'
  obtain rfl := Except.ok.inj (h.calendar.symm.trans h'.calendar)
  have hshare : ((breakoutProvider "90").loadRange julyThird julyThird "SPY" .intraday5Min).toOption.map (List.take 20) =
      ((breakoutProvider "110").loadRange julyThird julyThird "SPY" .intraday5Min).toOption.map (List.take 20) := by
    decide +kernel
  rw [hload, hload'] at hshare
  exact (histories_ignore_later_bars (afternoonEnv "90") (afternoonEnv "110") rfl julyThirdDb julyThirdExperiment rfl 20).2
    bars bars' sessions rows rows' hload hload' h h' (Option.some.inj hshare)

end TradingAI
