import TradingAI.Execution.OpeningRange
import TradingAI.MarketData.TradingCalendar
import TradingAI.Lib.Runs

/-!
# `Execution.OpeningRangeRun` — the historical loop over complete sessions

The bars an intraday provider returns are validated against the trading calendar: every session from 9:30 to
16:00, or to 13:00, without a gap (`TradingDay`). Grouping them by their dates gives back the sessions, and
the loop over a session is the machine of `Execution.OpeningRange` (`runSteps_follows`).

## Contents
- `TradingDay`.
- `AtAccount`, `Follows`: the loop beside the machine.
- `TradingDay.inputs`, `Account.afterDay`: a session after another.
- `runSessions_follows`, `groupBySession_days`, `run_days`.
- `Unstarted`, `run_without_capital`.
-/

namespace TradingAI

open OpeningRangeBreakoutStrategy SessionPlace

/-! ## Complete sessions -/

/-- The bars of a session, validated against the calendar. -/
structure TradingDay where
  sessionDate : Date
  closeTime   : TimeOfDay
  bars        : List IntradayBar
  date_nonneg : 0 ≤ sessionDate
  closes      : closeTime = regularCloseTime ∨ closeTime = earlyCloseTime
  times       : bars.map IntradayBar.timestamp = expectedBarStartTimes sessionDate regularOpenTime closeTime
  dates       : ∀ bar ∈ bars, bar.sessionDate = sessionDate
  prices      : ∀ bar ∈ bars, 0 < bar.close

namespace TradingDay

variable (day : TradingDay)

/-- A session has 78 bars, or 42. -/
theorem length_bars : day.bars.length = 78 ∨ day.bars.length = 42 := by
  have hlength : day.bars.length = (expectedBarStartTimes day.sessionDate regularOpenTime day.closeTime).length := by
    rw [← day.times, List.length_map]
  rw [hlength, expectedBarStartTimes, List.length_map, List.length_range]
  rcases day.closes with hclose | hclose
  · left
    rw [hclose]
    rfl
  · right
    rw [hclose]
    rfl

/-- The start of a bar: its date, and its time of day. -/
theorem start_bar {i : ℕ} (h : i < day.bars.length) :
    day.bars[i].timestamp.date = day.sessionDate ∧
      day.bars[i].timestamp.time = regularOpenTime + i * barInterval := by
  have hstart : day.bars[i].timestamp = DateTime.midnight day.sessionDate + (regularOpenTime + i * barInterval) := by
    have htimes := congrArg (fun l : List DateTime => l[i]?) day.times
    simp only [expectedBarStartTimes, List.getElem?_map, List.getElem?_eq_getElem h, Option.map_some] at htimes
    obtain ⟨j, hj, hstart⟩ := Option.map_eq_some_iff.mp htimes.symm
    obtain ⟨hi, hij⟩ := List.getElem?_eq_some_iff.mp hj
    rw [List.getElem_range] at hij
    rw [← hstart, hij, Nat.add_assoc]
  rw [hstart]
  apply date_time_midnight_add day.date_nonneg
  have hopen : regularOpenTime = 34200000000 := rfl
  have hinterval : barInterval = 300000000 := rfl
  have hday : microsecondsPerDay = 86400000000 := rfl
  have := day.length_bars
  rw [hopen, hinterval, hday]
  omega

theorem date_of_mem {bar : IntradayBar} (h : bar ∈ day.bars) : bar.timestamp.date = day.sessionDate := by
  obtain ⟨i, hi, rfl⟩ := List.mem_iff_getElem.mp h
  exact (day.start_bar hi).1

theorem timestamp_le_iff {bar bar' : IntradayBar} (h : bar ∈ day.bars) (h' : bar' ∈ day.bars) :
    bar.timestamp ≤ bar'.timestamp ↔ bar.timestamp.time ≤ bar'.timestamp.time := by
  apply le_iff_time_le
  rw [day.date_of_mem h, day.date_of_mem h']

/-- The bars of a session are in the order of their times. -/
theorem bars_sorted : day.bars.Pairwise (·.timestamp < ·.timestamp) := by
  have hsorted : (day.bars.map IntradayBar.timestamp).Pairwise (· < ·) := by
    rw [day.times, expectedBarStartTimes, List.pairwise_map]
    refine List.pairwise_lt_range.imp ?_
    intro i j hij
    exact Nat.add_lt_add_left (Nat.mul_lt_mul_of_pos_right hij (by decide)) _
  rwa [List.pairwise_map] at hsorted

theorem bars_ne_nil : day.bars ≠ [] := by
  have := day.length_bars
  intro hnil
  rw [hnil, List.length_nil] at this
  omega

/-- The last bar of a session, after its opening range. -/
def lastBar : IntradayBar := day.bars.getLast day.bars_ne_nil

theorem bars_eq : day.bars = day.bars.dropLast ++ [day.lastBar] := (List.dropLast_append_getLast day.bars_ne_nil).symm

theorem lastBar_late : openingRangeEnd < day.lastBar.timestamp.time := by
  have hlength := day.length_bars
  have hbound : day.bars.length - 1 < day.bars.length := by omega
  have hlast : day.lastBar = day.bars[day.bars.length - 1] := List.getLast_eq_getElem _
  rw [hlast, (day.start_bar _).2]
  have hopen : regularOpenTime = 34200000000 := rfl
  have hinterval : barInterval = 300000000 := rfl
  have hend : openingRangeEnd = 35700000000 := rfl
  rw [hopen, hinterval, hend]
  show (35700000000 : ℕ) < 34200000000 + (day.bars.length - 1) * 300000000
  omega

/-- A session has an opening range. -/
theorem openingRange_ok : ∃ high low, openingRange day.bars = .ok (high, low) := by
  have hfirst : 0 < day.bars.length := List.length_pos_iff.mpr day.bars_ne_nil
  have hmem : day.bars[0] ∈ day.bars.filter (·.timestamp.time ≤ openingRangeEnd) := by
    rw [List.mem_filter]
    refine ⟨List.getElem_mem hfirst, ?_⟩
    rw [(day.start_bar hfirst).2]
    decide
  unfold openingRange
  dsimp only
  cases hbars : day.bars.filter (·.timestamp.time ≤ openingRangeEnd) with
  | nil =>
      rw [hbars] at hmem
      cases hmem
  | cons bar bars => exact ⟨_, _, rfl⟩

end TradingDay

/-! ## One bar of the loop -/

/-- The input the loop makes of a bar. -/
def SessionBar.of (sessionBars : List IntradayBar) (high low : ℚ) (bar : IntradayBar) : SessionBar where
  timestamp := bar.timestamp
  close     := bar.close
  shown     := sessionState sessionBars high low bar false

/-- What a completed step shows, with the time of its bar. -/
def StepRecord.shown (r : StepRecord) : DateTime × StepView := (r.bar.timestamp, r.db.view r.executionStepId)

/-- **Between two bars**: the rows are there, the account is `a`, and all keys are old. -/
structure AtAccount (e : Experiment) (config : StrategyConfig) (a : Account) (db : Db) : Prop where
  ready   : Ready e config db
  account : ∃ row, db.portfolio = some row ∧ row.account = a
  keys    : KeysBelow db.nextId db

variable {e : Experiment} {config : StrategyConfig} {s : BarStep} {id : ℕ} {now : DateTime}
variable {row : PortfolioRow} {db db' : Db} {rs rs' : RunState} {p : SessionPlace} {a : Account}

/-- A stored position is there if it is positive. -/
theorem hasPosition_load (row : PortfolioRow) :
    hasPosition row.load.positionQuantity = hasPosition (some row.position) := by
  show hasPosition (row.positionQuantity.map Numeric.val) =
    hasPosition (some ((row.positionQuantity.map Numeric.val).getD 0))
  cases row.positionQuantity with
  | none => rfl
  | some q => rfl

/-- The strategy asks of the position only whether there is one. -/
theorem decide_position (symbol : String) (close : ℚ) {q q' : Option ℚ} (h : hasPosition q = hasPosition q')
    (state : OpeningRangeBreakoutState) :
    OpeningRangeBreakoutStrategy.decide symbol close q state =
      OpeningRangeBreakoutStrategy.decide symbol close q' state := by
  unfold OpeningRangeBreakoutStrategy.decide
  rw [h]

/-- A step at the account of a place decides as the machine does. -/
theorem openingRangeStep_eq (haccount : row.account = p.account) (sessionBars : List IntradayBar) (high low : ℚ)
    (bar : IntradayBar) :
    (openingRangeStep bar (sessionState sessionBars high low bar p.roundTripCompleted)).decide
        row.load.positionQuantity = (SessionBar.of sessionBars high low bar).decision p ∧
      (openingRangeStep bar (sessionState sessionBars high low bar p.roundTripCompleted)).order row =
        (SessionBar.of sessionBars high low bar).order p := by
  have hdecision : (openingRangeStep bar (sessionState sessionBars high low bar p.roundTripCompleted)).decide
      row.load.positionQuantity = (SessionBar.of sessionBars high low bar).decision p := by
    have hposition : p.account.position = row.position := congrArg Account.position haccount.symm
    unfold SessionBar.decision
    rw [hposition]
    exact decide_position _ _ (hasPosition_load row) _
  refine ⟨hdecision, ?_⟩
  unfold BarStep.order SessionBar.order
  rw [hdecision, haccount]
  rfl

/-- **A bar of the loop** is a bar of the machine. -/
theorem runBar_follows (h : AtAccount e config p.account rs.db) (hsound : p.account.Sound)
    (hcapital : e.initialCapital.val ≠ 0) (clock : StepClock) (sessionBars : List IntradayBar) (high low : ℚ)
    (bar : IntradayBar) :
    ∃ db', rs.runBar clock (openingRangeStep bar (sessionState sessionBars high low bar p.roundTripCompleted)) =
        ({ rs with
            db      := db'
            history := rs.history ++ [⟨rs.db.nextId, openingRangeStep bar
              (sessionState sessionBars high low bar p.roundTripCompleted), db'⟩] },
          decide (finalActionOf ((SessionBar.of sessionBars high low bar).order p) = .sell)) ∧
      AtAccount e config ((SessionBar.of sessionBars high low bar).next p).account db' ∧
      db'.bookings = rs.db.bookings ++
        (((SessionBar.of sessionBars high low bar).order p).map fun o => (bar.timestamp, o)).toList ∧
      db'.view rs.db.nextId = (SessionBar.of sessionBars high low bar).view p := by
  obtain ⟨row, hrow, haccount⟩ := h.account
  obtain ⟨row', db', hrow', hrun, hstep⟩ := h.ready.runBar hcapital clock
    (openingRangeStep bar (sessionState sessionBars high low bar p.roundTripCompleted))
  obtain rfl := Option.some.inj (hrow.symm.trans hrow')
  have hrowSound : row.account.Sound := haccount ▸ hsound
  have hkeys : KeysBelow rs.db.nextId (rs.db.addNextStep .historical bar.timestamp clock.createdAt) :=
    ⟨h.keys.decisions, h.keys.riskChecks, h.keys.trades⟩
  obtain ⟨hdecision, horder⟩ := openingRangeStep_eq haccount sessionBars high low bar
  have hrows := hstep.rows hrowSound
  have hid : rs.db.nextId < db'.nextId := (Nat.lt_succ_self _).trans_le hstep.nextId
  rw [horder] at hrun
  refine ⟨db', hrun, ⟨hstep.ready h.ready.experiment h.ready.strategyConfig, ⟨_, hstep.portfolio, ?_⟩,
    hrows.keysBelow hkeys hid⟩, ?_, ?_⟩
  · rw [hstep.account hrowSound hstep.portfolio, horder, haccount]
    rfl
  · rw [hrows.bookings hrowSound, horder]
    rfl
  · rw [hrows.view hkeys, hdecision, haccount]
    rfl

/-! ## A session -/

/-- **The loop has followed the machine** over `ts`. -/
structure Follows (e : Experiment) (config : StrategyConfig) (ts : List SessionBar) (p : SessionPlace)
    (rs rs' : RunState) : Prop where
  raised   : rs'.raised = none
  account  : AtAccount e config (after ts p).account rs'.db
  bookings : rs'.db.bookings = rs.db.bookings ++ trades ts p
  shown    : rs'.history.map StepRecord.shown = rs.history.map StepRecord.shown ++ views ts p

theorem runSteps_follows (hraised : rs.raised = none) (h : AtAccount e config p.account rs.db)
    (hsound : p.account.Sound) (hcapital : e.initialCapital.val ≠ 0) (clock : ℕ → StepClock)
    (sessionBars : List IntradayBar) (high low : ℚ) (bars : List IntradayBar) :
    Follows e config (bars.map (SessionBar.of sessionBars high low)) p rs
      (runSteps clock (bars.map fun bar roundTripCompleted =>
        openingRangeStep bar (sessionState sessionBars high low bar roundTripCompleted)) p.roundTripCompleted rs) := by
  induction bars generalizing p rs with
  | nil => exact ⟨hraised, h, (List.append_nil _).symm, (List.append_nil _).symm⟩
  | cons bar bars ih =>
      obtain ⟨db', hrun, hnext, hbookings, hview⟩ := runBar_follows h hsound hcapital (clock rs.history.length)
        sessionBars high low bar
      have hrest : Follows e config (bars.map (SessionBar.of sessionBars high low))
          ((SessionBar.of sessionBars high low bar).next p)
          { rs with
            db      := db'
            history := rs.history ++ [⟨rs.db.nextId, openingRangeStep bar
              (sessionState sessionBars high low bar p.roundTripCompleted), db'⟩] } _ :=
        ih hraised hnext (hsound.trade _ _)
      rw [List.map_cons, List.map_cons, runSteps, hraised]
      dsimp only
      rw [hrun]
      refine ⟨hrest.raised, hrest.account, hrest.bookings.trans ?_, hrest.shown.trans ?_⟩
      · rw [hbookings, List.append_assoc]
        rfl
      · rw [List.map_append, List.append_assoc]
        show _ ++ ([(bar.timestamp, db'.view rs.db.nextId)] ++ _) = _
        rw [hview]
        rfl

/-! ## One session after another -/

/-- What the loop makes of the bars of a session. -/
def TradingDay.inputs (day : TradingDay) : List SessionBar :=
  match openingRange day.bars with
  | .ok (high, low) => day.bars.map (SessionBar.of day.bars high low)
  | .error _        => []

/-- The account after a session. Every session starts without a round trip. -/
def Account.afterDay (day : TradingDay) (a : Account) : Account := (after day.inputs ⟨a, false⟩).account

/-- The trades of a session that starts with an account. -/
def dayTrades (x : TradingDay × Account) : List (DateTime × ShareOrder) := trades x.1.inputs ⟨x.2, false⟩

/-- What the steps of a session show that starts with an account. -/
def dayViews (x : TradingDay × Account) : List (DateTime × StepView) := views x.1.inputs ⟨x.2, false⟩

/-- The sessions, each with the account it starts with. -/
def sessionsFrom (days : List TradingDay) (a : Account) : List (TradingDay × Account) :=
  Runs.meetings Account.afterDay days a

theorem TradingDay.inputs_eq (day : TradingDay) :
    ∃ high low, openingRange day.bars = .ok (high, low) ∧
      day.inputs = day.bars.map (SessionBar.of day.bars high low) := by
  obtain ⟨high, low, hrange⟩ := day.openingRange_ok
  refine ⟨high, low, hrange, ?_⟩
  unfold inputs
  rw [hrange]

/-- **The loop has followed the machine** over whole sessions. -/
structure FollowsDays (e : Experiment) (config : StrategyConfig) (days : List TradingDay) (a : Account)
    (rs rs' : RunState) : Prop where
  raised   : rs'.raised = none
  account  : AtAccount e config (Runs.run Account.afterDay days a) rs'.db
  bookings : rs'.db.bookings = rs.db.bookings ++ (sessionsFrom days a).flatMap dayTrades
  shown    : rs'.history.map StepRecord.shown =
    rs.history.map StepRecord.shown ++ (sessionsFrom days a).flatMap dayViews

theorem runSessions_follows (hraised : rs.raised = none) (h : AtAccount e config a rs.db) (hsound : a.Sound)
    (hcapital : e.initialCapital.val ≠ 0) (clock : ℕ → StepClock) (days : List TradingDay) :
    FollowsDays e config days a rs (runSessions clock (days.map TradingDay.bars) rs) := by
  -- by induction on the days: a session starts at the account the one before has left
  induction days generalizing a rs with
  | nil => exact ⟨hraised, h, (List.append_nil _).symm, (List.append_nil _).symm⟩
  | cons day days ih =>
      obtain ⟨high, low, hrange, hinputs⟩ := day.inputs_eq
      have hday := runSteps_follows (p := ⟨a, false⟩) hraised h hsound hcapital clock day.bars high low day.bars
      rw [← hinputs] at hday
      have hrest := ih hday.raised hday.account (after_sound (p := ⟨a, false⟩) hsound)
      rw [List.map_cons, runSessions, hraised]
      dsimp only
      rw [hrange]
      dsimp only
      refine ⟨hrest.raised, hrest.account, hrest.bookings.trans ?_, hrest.shown.trans ?_⟩
      · rw [hday.bookings, List.append_assoc]
        rfl
      · rw [hday.shown, List.append_assoc]
        rfl

/-! ## Grouping by date -/

/-- Elements that are listed by their keys can be told apart by them. -/
theorem filter_flatMap {α β κ : Type} [DecidableEq κ] {f : α → List β} {key : α → κ} {key' : β → κ} {xs : List α}
    (hkeys : ∀ x ∈ xs, ∀ y ∈ f x, key' y = key x) (hdiffer : xs.Pairwise fun x x' => key x ≠ key x') {x : α}
    (hx : x ∈ xs) : (xs.flatMap f).filter (key' · = key x) = f x := by
  have hself : ∀ x ∈ xs, (f x).filter (key' · = key x) = f x := by
    intro x hx
    apply List.filter_eq_self.mpr
    intro y hy
    exact decide_eq_true (hkeys x hx y hy)
  induction xs with
  | nil => cases hx
  | cons x' xs ih =>
      obtain ⟨hfirst, hrest⟩ := List.pairwise_cons.mp hdiffer
      have hlater := fun x hx => hkeys x (List.mem_cons_of_mem x' hx)
      rw [List.flatMap_cons, List.filter_append]
      rcases List.mem_cons.mp hx with rfl | hx
      · -- the later elements have other keys
        have hnone : (xs.flatMap f).filter (key' · = key x) = [] := by
          rw [List.filter_eq_nil_iff]
          intro y hy
          obtain ⟨x', hx', hy⟩ := List.mem_flatMap.mp hy
          rw [decide_eq_true_eq, hlater x' hx' y hy]
          exact (hfirst x' hx').symm
        rw [hnone, List.append_nil]
        exact hself x List.mem_cons_self
      · have hnone : (f x').filter (key' · = key x) = [] := by
          rw [List.filter_eq_nil_iff]
          intro y hy
          rw [decide_eq_true_eq, hkeys x' List.mem_cons_self y hy]
          exact hfirst x hx
        rw [hnone, List.nil_append]
        exact ih hlater hrest hx fun x hx => hself x (List.mem_cons_of_mem x' hx)

/-- Sessions in the order of their dates. -/
def InOrder (days : List TradingDay) : Prop := days.Pairwise (·.sessionDate < ·.sessionDate)

theorem InOrder.differ {days : List TradingDay} (h : InOrder days) :
    days.Pairwise fun day day' => day.sessionDate ≠ day'.sessionDate := h.imp ne_of_lt

/-- **Grouping** by the dates gives the sessions back. -/
theorem groupBySession_days {days : List TradingDay} (h : InOrder days) :
    groupBySession (days.flatMap TradingDay.bars) = days.map TradingDay.bars := by
  have hdates : ((days.flatMap TradingDay.bars).map IntradayBar.sessionDate).toFinset =
      (days.map TradingDay.sessionDate).toFinset := by
    ext d
    simp only [List.mem_toFinset, List.mem_map, List.mem_flatMap]
    constructor
    · rintro ⟨bar, ⟨day, hday, hbar⟩, rfl⟩
      exact ⟨day, hday, (day.dates bar hbar).symm⟩
    · rintro ⟨day, hday, rfl⟩
      have hlast := List.getLast_mem day.bars_ne_nil
      exact ⟨_, ⟨day, hday, hlast⟩, day.dates _ hlast⟩
  have hsorted : (days.map TradingDay.sessionDate).Pairwise (· < ·) := List.pairwise_map.mpr h
  unfold groupBySession
  rw [hdates, (List.toFinset_sort (· ≤ ·) (hsorted.imp ne_of_lt)).mpr (hsorted.imp le_of_lt), List.map_map]
  apply List.map_congr_left
  intro day hday
  exact filter_flatMap (fun day _ => day.dates) h.differ hday

/-! ## The whole run -/

/-- Closing a run keeps its trades and its portfolio. -/
theorem close_rows (o : HistoricalOrchestrator) (env : HistoricalEnv) (rs : RunState) :
    (o.close env rs).db.trades = rs.db.trades ∧ (o.close env rs).db.portfolio = rs.db.portfolio := by
  have hfailure : ∀ (message : String) (id : Option ℕ) (e : Raised),
      (rs.db.recordHistoricalFailure message id e env.closedAt).trades = rs.db.trades ∧
        (rs.db.recordHistoricalFailure message id e env.closedAt).portfolio = rs.db.portfolio := by
    intro message id e
    unfold Db.recordHistoricalFailure
    dsimp only
    cases id <;> split <;> exact ⟨rfl, rfl⟩
  unfold HistoricalOrchestrator.close
  split
  · split
    · exact ⟨rfl, rfl⟩
    · exact hfailure _ _ _
  · split
    · exact ⟨rfl, rfl⟩
    · exact hfailure _ _ _

theorem close_bookings (o : HistoricalOrchestrator) (env : HistoricalEnv) (rs : RunState) :
    (o.close env rs).db.bookings = rs.db.bookings := by
  unfold Db.bookings
  rw [(close_rows o env rs).1]

/-- **The run over complete sessions** is the machine, session after session. -/
theorem run_days {env : HistoricalEnv} {days : List TradingDay} (h : AtAccount e config a db) (hsound : a.Sound)
    (hcapital : e.initialCapital.val ≠ 0) (hdays : InOrder days)
    (hload : env.loadIntradayRange e.startDate e.endDate e.assetSymbol e.tradingFrequency =
      .ok (days.flatMap TradingDay.bars)) :
    (HistoricalOrchestrator.openingRangeBreakout.run env db).db.bookings =
        db.bookings ++ (sessionsFrom days a).flatMap dayTrades ∧
      (HistoricalOrchestrator.openingRangeBreakout.run env db).history.map StepRecord.shown =
        (sessionsFrom days a).flatMap dayViews := by
  have hloop : HistoricalOrchestrator.openingRangeBreakout.loop env e db =
      .ok (runSessions env.clock (days.map TradingDay.bars) { db }) := by
    unfold HistoricalOrchestrator.loop
    dsimp only
    rw [hload, ← groupBySession_days hdays]
    rfl
  have hruns : FollowsDays e config days a { db } _ := runSessions_follows rfl h hsound hcapital env.clock days
  unfold HistoricalOrchestrator.run
  rw [h.ready.experiment]
  dsimp only
  rw [hloop]
  dsimp only
  rw [close_bookings, close_history]
  exact ⟨hruns.bookings, hruns.shown⟩

/-! ## Before the first bar -/

/-- An experiment before its first bar: its capital in cash, and no rows of steps. -/
structure Unstarted (e : Experiment) (config : StrategyConfig) (db : Db) : Prop where
  experiment     : db.experiment = some e
  strategyConfig : db.strategyConfig = some config
  portfolio      : ∃ row, db.portfolio = some row ∧ row.account = ⟨e.initialCapital.val, 0⟩
  decisions      : db.decisions = []
  riskChecks     : db.riskChecks = []
  trades         : db.trades = []

theorem Unstarted.atAccount (h : Unstarted e config db) : AtAccount e config ⟨e.initialCapital.val, 0⟩ db := by
  obtain ⟨row, hrow, haccount⟩ := h.portfolio
  refine ⟨⟨h.experiment, h.strategyConfig, row, hrow⟩, ⟨row, hrow, haccount⟩, ?_, ?_, ?_⟩
  · simp [h.decisions]
  · simp [h.riskChecks]
  · simp [h.trades]

/-- The account of an experiment before its first bar. -/
theorem sound_capital {e : Experiment} (h : 0 ≤ e.initialCapital.val) : Account.Sound ⟨e.initialCapital.val, 0⟩ :=
  ⟨h, e.initialCapital.onGrid, 0, rfl⟩

/-- **No step has completed.** None does without a capital, as its return divides by it. -/
structure Stuck (e : Experiment) (start : Db) (rs : RunState) : Prop where
  experiment : rs.db.experiment = some e
  history    : rs.history = []
  trades     : rs.db.trades = start.trades
  portfolio  : rs.db.portfolio = start.portfolio

variable {start : Db}

theorem Stuck.runBar (h : Stuck e start rs) (hcapital : e.initialCapital.val = 0) (clock : StepClock)
    (s : BarStep) : Stuck e start (rs.runBar clock s).1 := by
  unfold RunState.runBar
  dsimp only
  split
  · next db' completed hrun =>
      obtain ⟨e', -, he', hne, -⟩ := runStep_ok hrun
      obtain rfl := Option.some.inj (h.experiment.symm.trans he')
      exact absurd hcapital hne
  · exact ⟨h.experiment, h.history, h.trades, h.portfolio⟩

theorem Stuck.runSteps (hcapital : e.initialCapital.val = 0) (clock : ℕ → StepClock)
    (steps : List (Bool → BarStep)) (b : Bool) (h : Stuck e start rs) :
    Stuck e start (runSteps clock steps b rs) := by
  induction steps generalizing b rs with
  | nil => exact h
  | cons step steps ih =>
      rw [TradingAI.runSteps]
      split
      · exact h
      · exact ih _ (h.runBar hcapital _ _)

theorem Stuck.runSessions (hcapital : e.initialCapital.val = 0) (clock : ℕ → StepClock)
    (sessions : List (List IntradayBar)) (h : Stuck e start rs) :
    Stuck e start (runSessions clock sessions rs) := by
  induction sessions generalizing rs with
  | nil => exact h
  | cons sessionBars sessions ih =>
      rw [TradingAI.runSessions]
      split
      · exact h
      · split
        · exact ⟨h.experiment, h.history, h.trades, h.portfolio⟩
        · exact ih (h.runSteps hcapital clock _ _)

/-- A run without a capital leaves no record, and neither a trade nor a change of the portfolio. -/
theorem run_without_capital (env : HistoricalEnv) (he : db.experiment = some e) (hcapital : e.initialCapital.val = 0) :
    (HistoricalOrchestrator.openingRangeBreakout.run env db).history = [] ∧
      (HistoricalOrchestrator.openingRangeBreakout.run env db).db.trades = db.trades ∧
      (HistoricalOrchestrator.openingRangeBreakout.run env db).db.portfolio = db.portfolio := by
  have hstart : ∀ raised, Stuck e db { db, raised } := fun raised => ⟨he, rfl, rfl, rfl⟩
  have hclose : ∀ rs, Stuck e db rs →
      (HistoricalOrchestrator.openingRangeBreakout.close env rs).history = [] ∧
        (HistoricalOrchestrator.openingRangeBreakout.close env rs).db.trades = db.trades ∧
        (HistoricalOrchestrator.openingRangeBreakout.close env rs).db.portfolio = db.portfolio := by
    intro rs h
    rw [close_history, (close_rows _ env rs).1, (close_rows _ env rs).2]
    exact ⟨h.history, h.trades, h.portfolio⟩
  unfold HistoricalOrchestrator.run
  rw [he]
  dsimp only
  cases hload : env.loadIntradayRange e.startDate e.endDate e.assetSymbol e.tradingFrequency with
  | error raised =>
      have hloop : HistoricalOrchestrator.openingRangeBreakout.loop env e db = .error raised := by
        show (env.loadIntradayRange _ _ _ _ >>= _) = _
        rw [hload]
        rfl
      rw [hloop]
      exact hclose _ (hstart _)
  | ok bars =>
      have hloop : HistoricalOrchestrator.openingRangeBreakout.loop env e db =
          .ok (runSessions env.clock (groupBySession bars) { db }) := by
        show (env.loadIntradayRange _ _ _ _ >>= _) = _
        rw [hload]
        rfl
      rw [hloop]
      exact hclose _ ((hstart none).runSessions hcapital env.clock (groupBySession bars))

end TradingAI
