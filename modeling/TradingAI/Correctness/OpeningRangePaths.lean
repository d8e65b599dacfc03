import TradingAI.Execution.OpeningRangeStep
import TradingAI.Correctness.IntradayTrips

/-!
# `Correctness.OpeningRangePaths` — the paper path and the historical path agree

The historical run keeps the opening range, the last bar and the round trip of a session in its loop. The
paper step finds them in the bars up to its slot, in the calendar and in the trades of the day. Both are the
machine of `Execution.OpeningRange`, so after every bar they show the same decision, the same risk check, the
same trade and the same account.

A stored capital of zero is no exception: the metrics divide by it, so the historical run ends at its first
bar and every paper step is rolled back, and neither shows more than the empty account.

## Contents
- `paperViews`, `RunState.viewAfter`: what the paths show after a bar.
- `paperSession_follows`, `paperDays_follow`: the paper steps beside the machine.
- `paths_agree`.
-/

namespace TradingAI

open Session SessionPlace

/-! ## What the paths show -/

/-- What the paper steps of the bars show. The key of a step is the next one when it is created. -/
def paperViews (envs : DateTime → StepEnv) (bars : List IntradayBar) (st : Store Db BrokerBook) : List StepView :=
  (Runs.meetings (paperBar envs) bars st).map fun x => (paperBar envs x.1 x.2).current.view x.2.current.nextId

/-- What a historical run shows after a bar. A bar that it did not reach, or did not complete, has no rows. -/
def RunState.viewAfter (rs : RunState) (i : ℕ) : StepView :=
  match rs.history[i]? with
  | some r => r.db.view r.executionStepId
  | none   => ⟨[], [], [], rs.db.portfolio.map PortfolioRow.account⟩

/-- What a step of the experiment shows: nothing, if it divides by a capital of zero. -/
def Experiment.shown (e : Experiment) (t : SessionBar) (p : SessionPlace) : StepView :=
  if e.initialCapital.val = 0 then .nothing p.account else t.view p

/-- What the steps of a session show. -/
def Experiment.shownIn (e : Experiment) : List SessionBar → SessionPlace → List StepView
  | [], _      => []
  | t :: ts, p => e.shown t p :: shownIn e ts (t.next p)

variable {e : Experiment} {config : StrategyConfig} {day : TradingDay} {days : List TradingDay} {p : SessionPlace}
variable {envs : DateTime → StepEnv} {st : Store Db BrokerBook} {bar : IntradayBar} {high low : ℚ} {a : Account}
variable {done rest later : List IntradayBar}

/-- An experiment without a capital has an empty account. -/
def EmptyIfNone (e : Experiment) (p : SessionPlace) : Prop :=
  e.initialCapital.val = 0 → p = ⟨⟨0, 0⟩, false⟩

/-- An empty account stays as it is. -/
theorem next_empty (t : SessionBar) : t.next ⟨⟨0, 0⟩, false⟩ = ⟨⟨0, 0⟩, false⟩ :=
  SessionBar.next_of_order_none (Account.order_empty _ _)

theorem EmptyIfNone.next (h : EmptyIfNone e p) (t : SessionBar) : EmptyIfNone e (t.next p) := by
  intro hzero
  rw [h hzero, next_empty]

/-! ## The paper steps -/

/-- **A paper step**, whatever the capital. -/
theorem paperBar_agrees (h : PaperAt e config day (bar :: later) p st.current) (he : OrbPaper e)
    (hempty : EmptyIfNone e p) (henv : BarEnv day bar (envs bar.timestamp)) (hsound : p.account.Sound)
    (hsplit : day.bars = done ++ bar :: rest) (hrange : openingRange day.bars = .ok (high, low))
    (hlater : ∀ b ∈ later, bar.timestamp < b.timestamp) :
    PaperAt e config day later ((SessionBar.of day.bars high low bar).next p) (paperBar envs bar st).current ∧
      (paperBar envs bar st).current.view st.current.nextId = e.shown (SessionBar.of day.bars high low bar) p := by
  unfold Experiment.shown
  by_cases hcapital : e.initialCapital.val = 0
  · obtain rfl := hempty hcapital
    rw [if_pos hcapital, next_empty]
    exact paperBar_stuck h he hcapital henv hsplit hrange hlater
  · rw [if_neg hcapital]
    exact paperBar_follows h he hcapital henv hsound hsplit hrange hlater

/-- **The paper steps of a session** follow the machine over its bars. -/
theorem paperSession_follows (he : OrbPaper e) (hrange : openingRange day.bars = .ok (high, low))
    (henvs : ∀ b ∈ day.bars, BarEnv day b (envs b.timestamp))
    (hlater : ∀ b ∈ day.bars, ∀ b' ∈ later, b.timestamp < b'.timestamp) {bars : List IntradayBar}
    (hsplit : day.bars = done ++ bars) (h : PaperAt e config day (bars ++ later) p st.current)
    (hempty : EmptyIfNone e p) (hsound : p.account.Sound) :
    PaperAt e config day later (after (bars.map (SessionBar.of day.bars high low)) p)
        (Runs.run (paperBar envs) bars st).current ∧
      EmptyIfNone e (after (bars.map (SessionBar.of day.bars high low)) p) ∧
      paperViews envs bars st = e.shownIn (bars.map (SessionBar.of day.bars high low)) p := by
  induction bars generalizing done p st with
  | nil => exact ⟨h, hempty, rfl⟩
  | cons bar bars ih =>
      have hmem : bar ∈ day.bars := by
        rw [hsplit]
        exact List.mem_append_right _ List.mem_cons_self
      -- the bars to come are later, those of the session as those of the other sessions
      have hrest : ∀ b ∈ bars ++ later, bar.timestamp < b.timestamp := by
        have hsorted := day.bars_sorted
        rw [hsplit, List.pairwise_append, List.pairwise_cons] at hsorted
        intro b hb
        rcases List.mem_append.mp hb with hb | hb
        · exact hsorted.2.1.1 b hb
        · exact hlater bar hmem b hb
      obtain ⟨hnext, hview⟩ := paperBar_agrees h he hempty (henvs bar hmem) hsound hsplit hrange hrest
      have hsplit' : day.bars = (done ++ [bar]) ++ bars := by
        rw [hsplit, List.append_assoc]
        rfl
      obtain ⟨hat, hempty', hviews⟩ := ih hsplit' hnext (hempty.next _) (hsound.trade _ _)
      exact ⟨hat, hempty', congrArg₂ List.cons hview hviews⟩

/-- A session before which all trades are of earlier dates starts without a round trip. -/
theorem PaperAt.nextDay {day' : TradingDay} (h : PaperAt e config day rest p st.current)
    (hdate : day.sessionDate < day'.sessionDate) : PaperAt e config day' rest ⟨p.account, false⟩ st.current where
  account := h.account
  idle    := h.idle
  keys    := h.keys
  slots   := h.slots
  orders  := h.orders
  trip    := by
    rw [Db.orbRoundTripCompleted_eq, List.any_eq_false]
    intro x hx
    have := (h.past x hx).trans_lt hdate
    simp [this.ne]
  past    := fun x hx => (h.past x hx).trans hdate.le

/-- What the steps of the sessions show. -/
def Experiment.shownOver (e : Experiment) (x : TradingDay × Account) : List StepView :=
  e.shownIn x.1.inputs ⟨x.2, false⟩

/-- Every bar of every session has its surroundings. -/
def DayEnvs (envs : DateTime → StepEnv) (days : List TradingDay) : Prop :=
  ∀ day ∈ days, ∀ bar ∈ day.bars, BarEnv day bar (envs bar.timestamp)

/-- **The paper steps of sessions one after another** follow the machine. -/
theorem paperDays_follow (he : OrbPaper e) (hdays : InOrder days) (henvs : DayEnvs envs days)
    (h : ∀ day ∈ days, PaperAt e config day (days.flatMap TradingDay.bars) ⟨a, false⟩ st.current)
    (hempty : EmptyIfNone e ⟨a, false⟩) (hsound : a.Sound) :
    paperViews envs (days.flatMap TradingDay.bars) st = (sessionsFrom days a).flatMap e.shownOver := by
  -- by induction on the days, from any account and store
  induction days generalizing a st with
  | nil => rfl
  | cons day days ih =>
      obtain ⟨high, low, hrange, hinputs⟩ := day.inputs_eq
      obtain ⟨hdate, hdays⟩ := List.pairwise_cons.mp hdays
      have hlater : ∀ b ∈ day.bars, ∀ b' ∈ days.flatMap TradingDay.bars, b.timestamp < b'.timestamp := by
        intro b hb b' hb'
        obtain ⟨day', hday', hb'⟩ := List.mem_flatMap.mp hb'
        apply lt_of_date_lt
        rw [day.date_of_mem hb, day'.date_of_mem hb']
        exact hdate day' hday'
      obtain ⟨hat, hempty', hviews⟩ := paperSession_follows he hrange
        (fun b hb => henvs day List.mem_cons_self b hb) hlater (List.nil_append _).symm
        (h day List.mem_cons_self) hempty hsound
      rw [← hinputs] at hat hempty' hviews
      have hrest := ih hdays (fun day' hday' => henvs day' (List.mem_cons_of_mem day hday'))
        (fun day' hday' => hat.nextDay (hdate day' hday'))
        (fun hzero => congrArg (fun p : SessionPlace => SessionPlace.mk p.account false) (hempty' hzero))
        (after_sound (p := ⟨a, false⟩) hsound)
      unfold paperViews at hviews hrest ⊢
      rw [List.flatMap_cons, Runs.meetings_append, List.map_append, hviews, hrest]
      rfl

/-! ## Both paths -/

/-- With a capital every step shows what the machine does. -/
theorem shownIn_of_capital (hcapital : e.initialCapital.val ≠ 0) (ts : List SessionBar) (p : SessionPlace) :
    e.shownIn ts p = (views ts p).map Prod.snd := by
  induction ts generalizing p with
  | nil => rfl
  | cons t ts ih => exact congrArg₂ List.cons (if_neg hcapital) (ih (t.next p))

/-- Without one every step shows the empty account. -/
theorem shownIn_without_capital (hcapital : e.initialCapital.val = 0) (ts : List SessionBar) :
    e.shownIn ts ⟨⟨0, 0⟩, false⟩ = ts.map fun _ => .nothing ⟨0, 0⟩ := by
  induction ts with
  | nil => rfl
  | cons t ts ih =>
      rw [Experiment.shownIn, next_empty, ih]
      exact congrArg₂ List.cons (if_pos hcapital) rfl

theorem after_empty (ts : List SessionBar) : after ts ⟨⟨0, 0⟩, false⟩ = ⟨⟨0, 0⟩, false⟩ := by
  induction ts with
  | nil => rfl
  | cons t ts ih =>
      rw [after, next_empty]
      exact ih

/-- The sessions of an experiment without a capital show as many empty accounts as they have bars. -/
theorem shownOver_without_capital (hcapital : e.initialCapital.val = 0) (days : List TradingDay) :
    (sessionsFrom days ⟨0, 0⟩).flatMap e.shownOver = (days.flatMap TradingDay.bars).map fun _ => .nothing ⟨0, 0⟩ := by
  induction days with
  | nil => rfl
  | cons day days ih =>
      have hstays : Account.afterDay day ⟨0, 0⟩ = ⟨0, 0⟩ := congrArg SessionPlace.account (after_empty day.inputs)
      obtain ⟨high, low, -, hinputs⟩ := day.inputs_eq
      unfold sessionsFrom at ih ⊢
      rw [Runs.meetings, hstays, List.flatMap_cons, List.flatMap_cons, List.map_append, ih, Experiment.shownOver,
        shownIn_without_capital hcapital, hinputs, List.map_map]
      rfl

/-- An experiment on the paper path before its first step. -/
structure PaperUnstarted (e : Experiment) (config : StrategyConfig) (db : Db) : Prop extends
    Unstarted e config db where
  paper  : OrbPaper e
  steps  : db.steps = []
  orders : db.orders = []

theorem PaperUnstarted.paperAt {db : Db} (h : PaperUnstarted e config db) (day : TradingDay)
    (bars : List IntradayBar) : PaperAt e config day bars ⟨⟨e.initialCapital.val, 0⟩, false⟩ db where
  account := h.toUnstarted.atAccount
  idle    := by simp [h.steps]
  keys    := by simp [h.steps]
  slots   := by simp [h.steps]
  orders  := by simp [h.orders]
  trip    := by simp [Db.orbRoundTripCompleted, h.trades]
  past    := by simp [Db.bookings, h.trades]

/-- **The paper path and the historical path agree.** Over complete sessions, with a broker that fills every
    order at once and at the close, the paper step of every bar shows what the historical run shows after it:
    the same decision, risk check and trade, and the same cash and position. -/
theorem paths_agree (env : HistoricalEnv) (envs : DateTime → StepEnv) (days : List TradingDay)
    (e e' : Experiment) (config config' : StrategyConfig) (db db' : Db) (hstart : Unstarted e config db)
    (hpaper : PaperUnstarted e' config' db') (hsame : e'.initialCapital = e.initialCapital)
    (hcapital : 0 ≤ e.initialCapital.val) (hdays : InOrder days)
    (hload : env.loadIntradayRange e.startDate e.endDate e.assetSymbol e.tradingFrequency =
      .ok (days.flatMap TradingDay.bars))
    (henvs : DayEnvs envs days) :
    ∀ i < (days.flatMap TradingDay.bars).length,
      (paperViews envs (days.flatMap TradingDay.bars) (Store.opened db' {}))[i]? =
        some ((HistoricalOrchestrator.openingRangeBreakout.run env db).viewAfter i) := by
  have hfollow : paperViews envs (days.flatMap TradingDay.bars) (Store.opened db' {}) = _ := paperDays_follow hpaper.paper hdays henvs
    (fun day _ => hpaper.paperAt day _)
    (fun hzero => congrArg (fun c : ℚ => SessionPlace.mk ⟨c, 0⟩ false) hzero) (sound_capital (hsame ▸ hcapital))
  intro i hi
  unfold RunState.viewAfter
  by_cases hzero : e.initialCapital.val = 0
  · obtain ⟨hhistory, -, hportfolio⟩ := run_without_capital env hstart.experiment hzero
    obtain ⟨row, hrow, haccount⟩ := hstart.portfolio
    rw [hfollow, hsame, hzero, shownOver_without_capital (hsame ▸ hzero), hhistory, hportfolio, hrow, List.getElem?_map,
      List.getElem?_eq_getElem hi]
    dsimp only [List.getElem?_nil, Option.map_some]
    rw [haccount, hzero]
    rfl
  · have hshown := (run_days hstart.atAccount (sound_capital hcapital) hzero hdays hload).2
    have hviews : paperViews envs (days.flatMap TradingDay.bars) (Store.opened db' {}) =
        (HistoricalOrchestrator.openingRangeBreakout.run env db).history.map fun r => r.db.view r.executionStepId := by
      have hshownOver : e'.shownOver = fun x => (dayViews x).map Prod.snd :=
        funext fun x => shownIn_of_capital (hsame ▸ hzero) x.1.inputs ⟨x.2, false⟩
      rw [hfollow, hsame, hshownOver, ← List.map_flatMap, ← hshown, List.map_map]
      rfl
    have hlength : i < (HistoricalOrchestrator.openingRangeBreakout.run env db).history.length := by
      have hcount := congrArg List.length hviews
      rw [List.length_map, paperViews, List.length_map, ← List.length_map (f := Prod.fst), Runs.map_fst_meetings] at hcount
      rw [← hcount]
      exact hi
    rw [hviews, List.getElem?_map, List.getElem?_eq_getElem hlength]
    rfl

/-! ## A session with a breakout -/

/-- The close of the bar that starts at `t`. -/
def breakoutClose (t : DateTime) : ℚ := breakoutAt 10 ((t - (DateTime.midnight 1 + regularOpenTime)) / barInterval)

/-- The surroundings of the slot `t` of the session. -/
def breakoutSlot (t : DateTime) : StepEnv :=
  { smallEnv (breakoutClose t) (fun request => .ok
      { brokerOrderId := "1", status := "filled", symbol := request.symbol, side := request.side,
        quantity := request.quantity, filledQuantity := request.quantity, averageFillPrice := some (breakoutClose t),
        submittedAt := none, filledAt := none }) with
    executedAt       := t
    loadSessionUntil := fun _ through _ => .ok ((breakoutSession 10).bars.filter (·.timestamp ≤ through))
    finalBarStart    := fun sessionDate =>
      (expectedBarStartTimes sessionDate regularOpenTime (breakoutSession 10).closeTime).getLast? }

theorem breakoutSlot_barEnv : DayEnvs breakoutSlot [breakoutSession 10] := by
  intro day hday bar hbar
  obtain rfl := List.mem_singleton.mp hday
  have hclose : breakoutClose bar.timestamp = bar.close := by
    obtain ⟨i, -, rfl⟩ := List.mem_map.mp hbar
    show breakoutAt 10 ((_ + i * barInterval - _) / barInterval) = breakoutAt 10 i
    rw [Nat.add_sub_cancel_left, Nat.mul_div_cancel i (by decide)]
  refine ⟨fun _ => rfl, rfl, rfl, rfl, by unfold breakoutSlot; dsimp only, fun request => ⟨_, rfl, ?_⟩,
    (breakoutSession 10).date_of_mem hbar⟩
  have hfilled : lower "filled" = "filled" := by decide
  exact ⟨hfilled, rfl, rfl, rfl, congrArg some hclose⟩

/-- The paths agree on a session with a breakout at its eleventh bar, where both buy. -/
theorem breakout_paths_agree :
    (∀ i < ([breakoutSession 10].flatMap TradingDay.bars).length,
      (paperViews breakoutSlot ([breakoutSession 10].flatMap TradingDay.bars)
        (Store.opened (smallDb .openingRangeBreakout .intraday5Min) {}))[i]? =
          some ((HistoricalOrchestrator.openingRangeBreakout.run (breakoutEnv (breakoutSession 10))
            breakoutDb).viewAfter i)) ∧
      ((HistoricalOrchestrator.openingRangeBreakout.run (breakoutEnv (breakoutSession 10)) breakoutDb).viewAfter
        10).trades.length = 1 := by
  refine ⟨?_, by decide +kernel⟩
  have hcapital : 0 ≤ (numeric 4 1000).val := by decide +kernel
  exact paths_agree (breakoutEnv (breakoutSession 10)) breakoutSlot [breakoutSession 10] _ _
    ⟨none, none, none, none, none⟩ ⟨none, none, none, none, none⟩ breakoutDb
    (smallDb .openingRangeBreakout .intraday5Min) ⟨rfl, rfl, ⟨_, rfl, rfl⟩, rfl, rfl, rfl⟩
    ⟨⟨rfl, rfl, ⟨_, rfl, rfl⟩, rfl, rfl, rfl⟩, ⟨rfl, rfl, rfl, rfl, rfl⟩, rfl, rfl⟩ rfl hcapital
    (List.pairwise_singleton _ _) rfl breakoutSlot_barEnv

end TradingAI
