import TradingAI.Execution.WorkingStep
import TradingAI.Execution.OpeningRangeRun

/-!
# `Execution.OpeningRangeStep` — a paper step of the opening range breakout

When every operation works and the broker fills at once, a paper step of a session is a bar of the machine of
`Execution.OpeningRange`, as a historical step is. What the paper step is shown it finds in other places: the
opening range in the bars up to its slot, the last bar in the calendar, and the round trip in the trades of
the day (`orbState_eq`).

## Contents
- `PaperStepped`, `wp_orbTail`: the rows of the step.
- `orbState_eq`: what the step is shown.
- `PaperAt`, `paperBar_follows`: the step beside the machine.
-/

namespace TradingAI

open Session Rounding

/-! ## The rows of a step -/

/-- **A completed paper step** that decides as `s` does: the rows it adds to those of `db`, where `row` was
    the portfolio. -/
structure PaperStepped (env : StepEnv) (s : BarStep) (id : ℕ) (row : PortfolioRow) (db db' : Db) : Prop where
  experiment     : db'.experiment = db.experiment
  strategyConfig : db'.strategyConfig = db.strategyConfig
  steps          : ∃ now, db'.steps = (db.updateStep id (·.completedStep now)).steps
  rows           : StepRows s id row env.executedAt db db'
  orders         : ∀ o ∈ db'.orders, o ∈ db.orders ∨ o.executionStepId = id ∧ o.riskCheckId < db'.nextId
  nextId         : db.nextId < db'.nextId

variable {env : StepEnv} {bar : IntradayBar} {state : OpeningRangeBreakoutState} {id : ℕ} {row : PortfolioRow}
variable {db db' : Db} {ss : StepState}

/-- The rows of a step that holds. -/
theorem paperStepped_holds {s : BarStep} (hsound : row.account.Sound) (horder : s.order row = none)
    (timestamp : DateTime) (p : PortfolioSnapshot) (m : MetricSnapshot) :
    PaperStepped env s id row db
      ((((db.recordDecision s id env.startedAt (s.decide row.load.positionQuantity)
        (s.riskResult row.load)).writePortfolio (row.load.markedTo s.price timestamp) none).addSnapshots p
          m).updateStep id (·.completedStep env.startedAt)) := by
  refine ⟨rfl, rfl, ⟨env.startedAt, rfl⟩, ⟨⟨_, _, _, rfl⟩, ⟨_, _, _, rfl⟩, ⟨0, 0, 0, ?_⟩, ?_⟩, fun o ho => .inl ho, ?_⟩
  · rw [horder]
    show Db.bookedTrades (Db.writePortfolio _ _ none) = db.bookedTrades ++ []
    rw [Db.bookedTrades_writePortfolio, List.append_nil]
    rfl
  · rw [horder]
    show some (row.load.markedTo s.price timestamp).row.account = some row.account
    have hcash : OnGrid 4 row.load.cash := hsound.grid
    have hposition : OnGrid 8 row.load.heldQuantity := hsound.position_onGrid
    rw [account_row_markedTo hcash hposition]
    rfl
  · show db.nextId < db.nextId + 1 + 1 + 1 + 2
    omega

/-- The rows of a step whose order is filled at once. -/
theorem paperStepped_fills {s : BarStep} {side : OrderSide} {q : ℚ} {order : Order} (hsound : row.account.Sound)
    (horder : s.order row = some (side, q)) (hid : order.executionStepId = id)
    (hrisk : order.riskCheckId = db.nextId + 2) (p : PortfolioSnapshot) (m : MetricSnapshot) :
    PaperStepped env s id row db
      ((((db.recordDecision s id env.startedAt (s.decide row.load.positionQuantity)
        (s.riskResult row.load)).filled order
          (SimulationExecutionProvider.tradeOf side q s.price id env.executedAt env.executedAt)
          (SimulationExecutionProvider.book row.load side q (fillValue q s.price)) s.price
          env.executedAt).addSnapshots p m).updateStep id (·.completedStep env.executedAt)) := by
  generalize hdecided : db.recordDecision s id env.startedAt (s.decide row.load.positionQuantity)
    (s.riskResult row.load) = decided
  obtain ⟨hx₁, hx₂, hx₃, hx₄, hx₅, hx₆, hx₇, hx₈, hx₉⟩ := decided.filled_spec order
    (SimulationExecutionProvider.tradeOf side q s.price id env.executedAt env.executedAt)
    (SimulationExecutionProvider.book row.load side q (fillValue q s.price)) s.price env.executedAt
  subst hdecided
  refine ⟨hx₁, hx₂, ⟨env.executedAt, congrArg (List.map _) hx₃⟩, ⟨⟨_, _, _, hx₄⟩, ⟨_, _, _, hx₅⟩,
    ⟨db.nextId + 4, db.nextId + 3, env.executedAt, ?_⟩, ?_⟩, ?_, ?_⟩
  · rw [horder]
    exact hx₇
  · have haccount : (SimulationExecutionProvider.book row.load side q (fillValue q s.price)).account =
        row.account.book s.price (some (side, q)) := by
      show (SimulationExecutionProvider.execute side q s.price row.load 0 0 0 0).portfolio.account = _
      apply SimulationExecutionProvider.execute_account hsound.grid
      intro hside
      subst hside
      exact (Account.order_eq_sell horder).2.2.2
    have hafter : (row.account.book s.price (s.order row)).Sound := hsound.trade _ _
    rw [horder] at hafter ⊢
    refine (congrArg (Option.map PortfolioRow.account) hx₈).trans (congrArg some ?_)
    rw [account_row_markedTo, haccount]
    · rw [← Portfolio.account_cash, haccount]
      exact hafter.grid
    · rw [← Portfolio.account_position, haccount]
      exact hafter.position_onGrid
  · intro o ho
    replace ho : o ∈ db.orders ++ [_] := hx₆ ▸ ho
    rcases List.mem_append.mp ho with ho | ho
    · exact .inl ho
    · rw [List.mem_singleton.mp ho]
      refine .inr ⟨hid, ?_⟩
      show order.riskCheckId < db.nextId + 1 + 1 + 1 + 1 + 1 + 2
      omega
  · show db.nextId < db.nextId + 1 + 1 + 1 + 1 + 1 + 2
    omega

/-- The order of a bar is what its risk check asks for. -/
theorem BarStep.riskResult_cases (s : BarStep) (row : PortfolioRow) :
    (s.order row = none ∧ ∃ why rules, s.riskResult row.load = .hold why rules) ∨
      ∃ side q rules, s.order row = some (side, q) ∧ 0 < q ∧
        s.riskResult row.load = .trade (finalActionOf (some (side, q))) q s.price rules :=
  evaluate_cases (s.decide row.load.positionQuantity) row.load s.price

/-- A step nobody traded for has no order. -/
theorem existingOrder_eq_none {riskCheckId : ℕ}
    (h : ∀ o ∈ db.orders, o.executionStepId ≠ id ∧ o.riskCheckId < riskCheckId) :
    db.existingOrder id riskCheckId = none := by
  unfold Db.existingOrder
  rw [List.find?_eq_none]
  intro o ho
  obtain ⟨hstep, hrisk⟩ := h o ho
  simp [hstep, hrisk.ne]

/-- A step that could decide can trade. -/
theorem brokerRows_of_stepState (h : db.stepState id = some ss) :
    db.brokerRows id = some (ss.experiment, ss.portfolio) := by
  unfold Db.stepState at h
  unfold Db.brokerRows
  split at h
  · next he hp hc hs =>
      cases h
      rw [he, hp, hs]
  · cases h

/-- The rows of a decision. -/
def Db.decided (db : Db) (env : StepEnv) (s : BarStep) (id : ℕ) (row : PortfolioRow) : Db :=
  db.recordDecision s id env.startedAt (s.decide row.load.positionQuantity) (s.riskResult row.load)

/-- What the step hands on. -/
def BarStep.submission (s : BarStep) (row : PortfolioRow) (riskCheckId : ℕ) : Submission :=
  ⟨s.riskResult row.load, riskCheckId, s.price, spySymbol⟩

/-- The transaction of the decision, up to its risk check. -/
theorem wp_orbArtifacts_settles {book : BrokerBook} (h : env.Works) (hst : db.stepState id = some ss)
    {s : BarStep} (hs : openingRangeStep bar state = s) {Q : Option Submission → Db → BrokerBook → Prop}
    {E : Raised → BrokerBook → Prop}
    (hsettle : (settle env id ss (db.nextId + 1) (s.riskResult ss.portfolio.load) s.price spySymbol
      bar.timestamp).wp Q E ((db.addMarketData (s.marketDataRow db.nextId id env.startedAt)).addDecision
        (s.decisionRow (db.nextId + 1) id db.nextId env.startedAt (s.decide ss.portfolio.load.positionQuantity)))
      book) : (orbArtifacts env id spySymbol bar state).wp Q E db book := by
  subst hs
  unfold orbArtifacts loadState addMarketData addDecision
  simp only [Tx.wp_bind]
  rw [h.wp_loadRows hst]
  simp only [Tx.wp_get, Tx.wp_modify, Tx.wp_pure, h.wp_op]
  exact hsettle

/-- **The transaction of the decision**: it completes the step, or hands on what is to be traded. -/
theorem wp_orbArtifacts {book : BrokerBook} (h : env.Works) (hst : db.stepState id = some ss)
    (hcapital : ss.experiment.initialCapital.val ≠ 0) {s : BarStep} (hs : openingRangeStep bar state = s)
    {Q : Option Submission → Db → BrokerBook → Prop} {E : Raised → BrokerBook → Prop}
    (hholds : s.order ss.portfolio = none → ∀ p m, Q none ((((db.decided env s id ss.portfolio).writePortfolio
      (ss.portfolio.load.markedTo s.price bar.timestamp) none).addSnapshots p m).updateStep id
      (·.completedStep env.startedAt)) book)
    (htrades : requiresBrokerSubmission (s.riskResult ss.portfolio.load) = true →
      Q (some (s.submission ss.portfolio (db.nextId + 2))) (db.decided env s id ss.portfolio) book) :
    (orbArtifacts env id spySymbol bar state).wp Q E db book := by
  apply wp_orbArtifacts_settles h hst hs
  rcases s.riskResult_cases ss.portfolio with ⟨horder, why, rules, hr⟩ | ⟨side, q, rules, -, hq, hr⟩
  · apply wp_settle_holds h hcapital
    · rw [hr]
      rfl
    · exact hholds horder
  · have hrequires : requiresBrokerSubmission (s.riskResult ss.portfolio.load) = true := by
      rw [hr]
      exact requires_trade hq rules
    exact wp_settle_trades h hrequires (htrades hrequires)

/-- **The step after its state is known**: it completes, whatever it decides. -/
theorem wp_orbTail {st : Store Db BrokerBook} (h : env.Works) (hfills : env.FillsAtOnce bar.close)
    (hst : st.current.stepState id = some ss) (hcapital : ss.experiment.initialCapital.val ≠ 0)
    (hsound : ss.portfolio.account.Sound)
    (hfresh : ∀ o ∈ st.current.orders, o.executionStepId ≠ id ∧ o.riskCheckId < st.current.nextId)
    {Q : Option PaperStepFailure → Store Db BrokerBook → Prop} {E : Raised → Store Db BrokerBook → Prop}
    (hok : ∀ st', PaperStepped env (openingRangeStep bar state) id ss.portfolio st.current st'.current →
      Q none st') :
    (Proc.withSession (orbArtifacts env id spySymbol bar state) >>= continueWith env id).wp Q E st := by
  rw [Proc.wp_bind, Proc.wp_withSession]
  generalize hs : openingRangeStep bar state = s at hok
  refine wp_orbArtifacts h hst hcapital hs (fun horder p m => ?_) fun hrequires => ?_
  · -- nothing to trade: the step is completed at once
    exact hok _ (paperStepped_holds hsound horder bar.timestamp p m)
  · have hprice : s.price = bar.close := hs ▸ rfl
    rw [← hprice] at hfills
    rcases s.riskResult_cases ss.portfolio with ⟨-, why, rules, hr⟩ | ⟨side, q, rules, horder, hq, hr⟩
    · rw [hr] at hrequires
      cases hrequires
    have hrows : (st.current.decided env s id ss.portfolio).brokerRows id = some (ss.experiment, ss.portfolio) :=
      brokerRows_of_stepState hst
    have hnone : (st.current.decided env s id ss.portfolio).existingOrder id (st.current.nextId + 2) = none := by
      apply existingOrder_eq_none
      intro o ho
      refine ⟨(hfresh o ho).1, ?_⟩
      exact (hfresh o ho).2.trans_le (Nat.le_add_right _ 2)
    show (Proc.withSession _).wp _ _ _
    rw [Proc.wp_withSession, Store.commit_current, Store.commit_world]
    apply wp_brokerExecution_fills h hfills (s := s.submission ss.portfolio (st.current.nextId + 2)) hr hq rfl rfl
      hrows hcapital _ hnone
    · intro order p m book' hid hrisk
      exact hok _ (paperStepped_fills hsound horder hid hrisk p m)
    · intro hside
      subst hside
      exact (Account.order_eq_sell horder).2.2.2

/-! ## What the step is shown -/

/-- **The surroundings of the step of a bar**: every operation works, the provider answers the bars of the
    session up to the slot, the calendar knows its last bar, and the broker fills at once, at the close and on
    the date of the session. -/
structure BarEnv (day : TradingDay) (bar : IntradayBar) (env : StepEnv) : Prop where
  works    : env.Works
  adapter  : createBrokerAdapter env = .ok ()
  lock     : env.lockAcquired = true
  bars     : env.loadSessionUntil day.sessionDate bar.timestamp spySymbol =
    .ok (day.bars.filter (·.timestamp ≤ bar.timestamp))
  finalBar : env.finalBarStart day.sessionDate =
    (expectedBarStartTimes day.sessionDate regularOpenTime day.closeTime).getLast?
  fills    : env.FillsAtOnce bar.close
  executed : env.executedAt.date = day.sessionDate

variable {day : TradingDay} {high low : ℚ} {done rest : List IntradayBar}

/-- `sessions[0].expected_bar_start_times[-1]`, if the date has a session. -/
def calendarFinalBarStart (sessionDate : Date) : Option DateTime :=
  match UsEquitiesTradingCalendar.sessionsBetween sessionDate sessionDate with
  | .ok (session :: _) => session.expectedBarStartTimes.getLast?
  | _                  => none

/-- **The calendar knows the last bar** of a session that it has itself. -/
theorem BarEnv.withCalendar {bar : IntradayBar} {env : StepEnv} {session : TradingSession} (henv : BarEnv day bar env)
    (hsession : UsEquitiesTradingCalendar.sessionsBetween day.sessionDate day.sessionDate = .ok [session])
    (hclose : session.closeTime = day.closeTime) :
    BarEnv day bar { env with finalBarStart := calendarFinalBarStart } := by
  have hfinal : calendarFinalBarStart day.sessionDate =
      (expectedBarStartTimes day.sessionDate regularOpenTime day.closeTime).getLast? := by
    obtain ⟨-, -, -, hexpected⟩ := UsEquitiesTradingCalendar.sessionOf_spec
      (UsEquitiesTradingCalendar.sessionOf_of_sessionsBetween hsession).1
    unfold calendarFinalBarStart
    rw [hsession]
    dsimp only
    rw [hexpected, hclose]
  exact ⟨henv.works, henv.adapter, henv.lock, henv.bars, hfinal, henv.fills, henv.executed⟩

/-- The bars up to a bar of the session end in it. -/
theorem lastBar_filter (hsplit : day.bars = done ++ bar :: rest) :
    lastBar (day.bars.filter (·.timestamp ≤ bar.timestamp)) = .ok bar := by
  have hsorted := day.bars_sorted
  rw [hsplit, List.pairwise_append, List.pairwise_cons] at hsorted
  obtain ⟨-, ⟨hlater, -⟩, hearlier⟩ := hsorted
  have hdone : done.filter (·.timestamp ≤ bar.timestamp) = done :=
    List.filter_eq_self.mpr fun b hb => decide_eq_true (hearlier b hb bar List.mem_cons_self).le
  have hrest : (bar :: rest).filter (·.timestamp ≤ bar.timestamp) = [bar] := by
    have hnone : rest.filter (·.timestamp ≤ bar.timestamp) = [] :=
      List.filter_eq_nil_iff.mpr fun b hb => by simpa using hlater b hb
    simp [hnone]
  rw [hsplit, List.filter_append, hdone, hrest, lastBar, List.getLast?_concat]

/-- The opening range is in the bars up to any bar after it. -/
theorem openingBars_filter (hbar : bar ∈ day.bars) (hlate : openingRangeEnd < bar.timestamp.time) :
    (day.bars.filter (·.timestamp ≤ bar.timestamp)).filter (·.timestamp.time ≤ openingRangeEnd) =
      day.bars.filter (·.timestamp.time ≤ openingRangeEnd) := by
  rw [List.filter_filter]
  apply List.filter_congr
  intro b hb
  rw [← Bool.decide_and, decide_eq_decide, and_iff_left_iff_imp]
  intro hopening
  exact (day.timestamp_le_iff hb hbar).mpr (hopening.trans hlate.le)

/-- **What the paper step is shown** is what the historical step is. -/
theorem orbState_eq (henv : BarEnv day bar env) (hbar : bar ∈ day.bars)
    (hrange : openingRange day.bars = .ok (high, low)) :
    orbState env db (day.bars.filter (·.timestamp ≤ bar.timestamp)) bar =
      sessionState day.bars high low bar (db.orbRoundTripCompleted day.sessionDate) := by
  have hdate : bar.sessionDate = day.sessionDate := day.dates bar hbar
  have hfinal : env.finalBarStart bar.sessionDate = day.bars.getLast?.map IntradayBar.timestamp := by
    rw [hdate, henv.finalBar, ← day.times, List.getLast?_map]
  have hranges : maxOf ((day.bars.filter (·.timestamp.time ≤ openingRangeEnd)).map IntradayBar.high) = some high ∧
      minOf ((day.bars.filter (·.timestamp.time ≤ openingRangeEnd)).map IntradayBar.low) = some low := by
    unfold openingRange at hrange
    dsimp only at hrange
    split at hrange
    · next h l hh hl =>
        cases hrange
        exact ⟨hh, hl⟩
    · cases hrange
    · cases hrange
  unfold orbState sessionState
  rw [hfinal, hdate]
  dsimp only
  by_cases hlate : openingRangeEnd < bar.timestamp.time
  · rw [openingBars_filter hbar hlate, hranges.1, hranges.2]
  · simp [hlate]

/-! ## The call -/

/-- A running paper experiment on the opening range breakout. -/
structure OrbPaper (e : Experiment) : Prop where
  status    : e.status = .running
  mode      : e.mode = .paperTrading
  strategy  : e.strategyType = .openingRangeBreakout
  frequency : e.tradingFrequency = .intraday5Min
  symbol    : e.assetSymbol = spySymbol

/-- **Between two paper steps** of the session `day`, with the bars `rest` of the run to come. -/
structure PaperAt (e : Experiment) (config : StrategyConfig) (day : TradingDay) (rest : List IntradayBar)
    (p : SessionPlace) (db : Db) : Prop where
  account : AtAccount e config p.account db
  idle    : ∀ s ∈ db.steps, s.status ≠ .running
  keys    : ∀ s ∈ db.steps, s.id < db.nextId
  slots   : ∀ s ∈ db.steps, ∀ t, s.scheduledFor = some t → ∀ b ∈ rest, t < b.timestamp
  orders  : ∀ o ∈ db.orders, o.executionStepId < db.nextId ∧ o.riskCheckId < db.nextId
  trip    : db.orbRoundTripCompleted day.sessionDate = p.roundTripCompleted
  past    : ∀ x ∈ db.bookings, x.1.date ≤ day.sessionDate

/-- The database in which the step of a bar runs. -/
def Db.openedFor (db : Db) (bar : IntradayBar) (env : StepEnv) : Db :=
  db.addNextStep .scheduled bar.timestamp env.createdAt

variable {e : Experiment} {config : StrategyConfig} {p : SessionPlace} {later : List IntradayBar}
variable {st : Store Db BrokerBook}

/-- The step of the next bar is created. -/
theorem PaperAt.creationAllowed (h : PaperAt e config day (bar :: later) p db) (he : OrbPaper e)
    (henv : BarEnv day bar env) : CreationAllowed env .scheduled (slotOf env (some bar.timestamp)) db where
  adapter    := henv.adapter
  trigger    := by decide
  experiment := by
    refine ⟨e, h.account.ready.experiment, he.status, ?_⟩
    unfold isSupportedExperiment
    rw [he.mode, he.strategy, he.frequency, he.symbol]
    show decide (isSupportedEquitySymbol spySymbol = true ∧ TriggerType.scheduled = .scheduled) = true
    decide
  configured := by rw [h.account.ready.strategyConfig]; rfl
  locked     := henv.lock
  idle       := Db.hasRunningStep_eq_false.mpr h.idle
  slotFree   := by
    intro _
    apply Db.hasStepForScheduledSlot_eq_false.mpr
    intro s hs _ hslot
    exact absurd (h.slots s hs _ hslot bar List.mem_cons_self) (lt_irrefl _)
  working    := fun o _ => henv.works o

/-- The step is found under its key, with its slot. -/
theorem PaperAt.getStep_opened (h : PaperAt e config day (bar :: later) p db) (env : StepEnv) :
    (db.openedFor bar env).getStep db.nextId =
      some (newStep db.nextId .scheduled bar.timestamp env.createdAt (db.maxSequenceNumber + 1)) := by
  have hnone : db.steps.find? (fun s => decide (s.id = db.nextId)) = none := by
    rw [List.find?_eq_none]
    intro s hs
    simpa using (h.keys s hs).ne
  unfold Db.getStep Db.openedFor Db.addNextStep
  rw [List.find?_append, hnone]
  simp [newStep]

/-- **Up to the state**: a call creates its step, reads what the strategy is shown, and goes on. -/
theorem wp_runNextStep_bar (h : PaperAt e config day (bar :: later) p st.current) (he : OrbPaper e)
    (henv : BarEnv day bar env) (hsplit : day.bars = done ++ bar :: rest)
    (hrange : openingRange day.bars = .ok (high, low)) {P : Store Db BrokerBook → Prop}
    (hok : ∀ st', st'.current = st.current.openedFor bar env →
      (Proc.withSession (orbArtifacts env st.current.nextId spySymbol bar
        (sessionState day.bars high low bar p.roundTripCompleted)) >>= continueWith env st.current.nextId).wp
          (fun _ st'' => P st'') (fun raised st'' => ((handleFailure env (some st.current.nextId) raised :
            DbProc StepRunResult).wp (fun _ => P) (fun _ => P) st'')) st') :
    P ((runNextStep env .scheduled (some bar.timestamp)).exec st) := by
  have hbar : bar ∈ day.bars := by
    rw [hsplit]
    exact List.mem_append_right _ List.mem_cons_self
  refine Proc.exec_of_wp ?_
  unfold runNextStep
  simp only [Proc.wp_bind, Proc.wp_attempt]
  refine wp_openStep (fun _ => ?_) fun raised hnot => absurd (h.creationAllowed he henv) hnot
  generalize hopened : st.commit (st.current.addNextStep .scheduled (slotOf env (some bar.timestamp))
    env.createdAt) st.world = st₁
  have hcurrent : st₁.current = st.current.openedFor bar env := by
    rw [← hopened]
    rfl
  have hexperiment : st₁.current.experiment = some e := by
    rw [hcurrent]
    exact h.account.ready.experiment
  have hstep := h.getStep_opened env
  rw [← hcurrent] at hstep
  unfold runStepArtifacts loadStrategyType
  rw [Proc.wp_bind, Proc.wp_readSession, henv.works.wp_loadRows (congrArg (Option.map Experiment.strategyType) hexperiment)]
  rw [he.strategy]
  unfold runOrbStepArtifacts orbSlot
  rw [Proc.wp_bind, Proc.wp_readSession]
  simp only [Tx.wp_bind, Tx.wp_get, henv.works.wp_op, Store.rollback_current, Store.rollback_world]
  rw [hstep]
  show Tx.wp (Tx.expect st₁.current.experiment _) _ _ _ _
  rw [hexperiment]
  show Proc.wp _ _ _ _
  dsimp only
  rw [he.symbol, day.date_of_mem hbar, Proc.wp_bind, henv.bars, Proc.wp_ofExcept_ok, Proc.wp_bind,
    lastBar_filter hsplit, Proc.wp_ofExcept_ok, Proc.wp_bind, Proc.wp_readSession]
  unfold orbStateTx
  simp only [Tx.wp_bind, Tx.wp_get, Tx.wp_pure, henv.works.wp_op, Store.rollback_current, Store.rollback_world]
  rw [orbState_eq henv hbar hrange]
  have htrip : st₁.current.orbRoundTripCompleted day.sessionDate = p.roundTripCompleted := by
    rw [hcurrent]
    exact h.trip
  rw [htrip]
  exact hok _ hcurrent

/-! ## The step beside the machine -/

/-- The round trip of a day, in terms of its bookings. -/
theorem Db.orbRoundTripCompleted_eq (db : Db) (d : Date) :
    db.orbRoundTripCompleted d = db.bookings.any fun x => x.2.1 = .sell ∧ x.1.date = d := by
  unfold orbRoundTripCompleted bookings
  rw [List.any_map]
  rfl

/-- The steps after the step of the bar was closed: none is running, and no slot is taken. -/
theorem PaperAt.steps_closed (h : PaperAt e config day (bar :: later) p db) {f : ExecutionStep → ExecutionStep}
    (hf : ∀ s, (f s).id = s.id ∧ (f s).status ≠ .running ∧ (f s).scheduledFor = s.scheduledFor)
    (hlater : ∀ b ∈ later, bar.timestamp < b.timestamp) {n : ℕ} (hn : db.nextId < n) :
    ∀ s ∈ ((db.openedFor bar env).updateStep db.nextId f).steps, s.id < n ∧ s.status ≠ .running ∧
      ∀ t, s.scheduledFor = some t → ∀ b ∈ later, t < b.timestamp := by
  intro s hs
  obtain ⟨old, hold, rfl⟩ := List.mem_map.mp hs
  rcases List.mem_append.mp hold with hold | hold
  · rw [if_neg (h.keys old hold).ne]
    refine ⟨(h.keys old hold).trans hn, h.idle old hold, ?_⟩
    intro t ht b hb
    exact h.slots old hold t ht b (List.mem_cons_of_mem bar hb)
  · -- the new step has the slot of the bar
    have hid : old.id = db.nextId := by
      rw [List.mem_singleton.mp hold]
      rfl
    obtain ⟨hfid, hfstatus, hfslot⟩ := hf old
    rw [if_pos hid, hfid, hid, hfslot]
    refine ⟨hn, hfstatus, ?_⟩
    intro t ht b hb
    rw [List.mem_singleton.mp hold] at ht
    obtain rfl := Option.some.inj ht
    exact hlater b hb

/-- **A completed step** leaves the database between two steps, where the machine is. -/
theorem PaperStepped.paperAt (hstep : PaperStepped env
      (openingRangeStep bar (sessionState day.bars high low bar p.roundTripCompleted)) db.nextId row
      (db.openedFor bar env) db')
    (h : PaperAt e config day (bar :: later) p db) (hsound : p.account.Sound) (haccount : row.account = p.account)
    (hexecuted : env.executedAt.date = day.sessionDate) (hlater : ∀ b ∈ later, bar.timestamp < b.timestamp) :
    PaperAt e config day later ((SessionBar.of day.bars high low bar).next p) db' ∧
      db'.view db.nextId = (SessionBar.of day.bars high low bar).view p := by
  obtain ⟨hdecision, horder⟩ := openingRangeStep_eq haccount day.bars high low bar
  have hkeys : KeysBelow db.nextId (db.openedFor bar env) :=
    ⟨h.account.keys.decisions, h.account.keys.riskChecks, h.account.keys.trades⟩
  have hid : db.nextId < db'.nextId := (Nat.lt_succ_self _).trans hstep.nextId
  have haccount' := hstep.rows.account
  rw [horder, haccount] at haccount'
  obtain ⟨row', hrow', hrowAccount⟩ := Option.map_eq_some_iff.mp haccount'
  have hbookings := hstep.rows.bookings (haccount ▸ hsound)
  rw [horder] at hbookings
  obtain ⟨now, hnow⟩ := hstep.steps
  have hsteps : ∀ s ∈ db'.steps, s.id < db'.nextId ∧ s.status ≠ .running ∧
      ∀ t, s.scheduledFor = some t → ∀ b ∈ later, t < b.timestamp := by
    rw [hnow]
    exact h.steps_closed (f := (·.completedStep now)) (fun s => ⟨rfl, by simp [ExecutionStep.completedStep], rfl⟩)
      hlater hid
  refine ⟨?_, ?_⟩
  · exact
      { account := ⟨⟨hstep.experiment.trans h.account.ready.experiment,
          hstep.strategyConfig.trans h.account.ready.strategyConfig, row', hrow'⟩, ⟨row', hrow', hrowAccount⟩,
          hstep.rows.keysBelow hkeys hid⟩
        idle    := fun s hs => (hsteps s hs).2.1
        keys    := fun s hs => (hsteps s hs).1
        slots   := fun s hs => (hsteps s hs).2.2
        orders  := by
          intro o ho
          rcases hstep.orders o ho with ho | ⟨ho, hrisk⟩
          · have := h.orders o ho
            omega
          · rw [ho]
            exact ⟨hid, hrisk⟩
        trip    := by
          have htrip : db.bookings.any (fun x => x.2.1 = .sell ∧ x.1.date = day.sessionDate) = p.roundTripCompleted := by
            rw [← Db.orbRoundTripCompleted_eq]
            exact h.trip
          rw [Db.orbRoundTripCompleted_eq, hbookings, List.any_append]
          refine congrArg₂ (· || ·) htrip ?_
          rcases (SessionBar.of day.bars high low bar).order p with _ | ⟨side, q⟩
          · rfl
          · cases side <;> simp [finalActionOf, hexecuted]
        past    := by
          intro x hx
          rw [hbookings] at hx
          rcases List.mem_append.mp hx with hx | hx
          · exact h.past x hx
          · obtain ⟨o, -, rfl⟩ := Option.map_eq_some_iff.mp (Option.mem_toList.mp hx)
            exact hexecuted.le }
  · rw [hstep.rows.view hkeys, hdecision, haccount]
    rfl

/-- The paper step of a bar, in the surroundings of its slot. -/
def paperBar (envs : DateTime → StepEnv) (bar : IntradayBar) : Store Db BrokerBook → Store Db BrokerBook :=
  (runNextStep (envs bar.timestamp) .scheduled (some bar.timestamp)).exec

variable {envs : DateTime → StepEnv}

/-- The rows a step loads are there once it is created. -/
theorem PaperAt.stepState_opened (h : PaperAt e config day (bar :: later) p db) (env : StepEnv) :
    ∃ ss, (db.openedFor bar env).stepState db.nextId = some ss ∧ ss.experiment = e ∧
      ss.portfolio.account = p.account := by
  obtain ⟨row, hrow, haccount⟩ := h.account.account
  have he : (db.openedFor bar env).experiment = some e := h.account.ready.experiment
  have hp : (db.openedFor bar env).portfolio = some row := hrow
  have hc : (db.openedFor bar env).strategyConfig = some config := h.account.ready.strategyConfig
  unfold Db.stepState
  rw [he, hp, hc, h.getStep_opened]
  exact ⟨_, rfl, rfl, haccount⟩

/-- **A paper step** is a bar of the machine. -/
theorem paperBar_follows (h : PaperAt e config day (bar :: later) p st.current) (he : OrbPaper e)
    (hcapital : e.initialCapital.val ≠ 0) (henv : BarEnv day bar (envs bar.timestamp)) (hsound : p.account.Sound)
    (hsplit : day.bars = done ++ bar :: rest) (hrange : openingRange day.bars = .ok (high, low))
    (hlater : ∀ b ∈ later, bar.timestamp < b.timestamp) :
    PaperAt e config day later ((SessionBar.of day.bars high low bar).next p) (paperBar envs bar st).current ∧
      (paperBar envs bar st).current.view st.current.nextId = (SessionBar.of day.bars high low bar).view p := by
  obtain ⟨ss, hss, rfl, haccount⟩ := h.stepState_opened (envs bar.timestamp)
  refine wp_runNextStep_bar (P := fun st' => PaperAt ss.experiment config day later _ st'.current ∧
    st'.current.view st.current.nextId = _) h he henv hsplit hrange fun st' hst' => ?_
  rw [← hst'] at hss
  apply wp_orbTail henv.works henv.fills hss hcapital (haccount ▸ hsound)
  · rw [hst']
    intro o ho
    exact ⟨(h.orders o ho).1.ne, (h.orders o ho).2.trans (Nat.lt_succ_self _)⟩
  · intro st'' hstep
    rw [hst'] at hstep
    exact hstep.paperAt h hsound haccount henv.executed hlater

/-! ## Without a capital -/

/-- An empty account trades nothing. -/
theorem Account.order_empty (action : TradeAction) (price : ℚ) : Account.order ⟨0, 0⟩ action price = none := by
  unfold Account.order
  cases action <;> simp [floorWholeShares]

/-- What a step shows that was rolled back. -/
def StepView.nothing (a : Account) : StepView := ⟨[], [], [], some a⟩

/-- A failed step leaves no other rows. -/
theorem recordFailure_rows (db : Db) (step : Option ℕ) (f : FailureRecord) (now : DateTime) :
    (db.recordFailure step f now).decisions = db.decisions ∧
      (db.recordFailure step f now).riskChecks = db.riskChecks ∧
      (db.recordFailure step f now).strategyConfig = db.strategyConfig := by
  unfold Db.recordFailure
  cases step <;> dsimp only <;> split_ifs <;>
    simp [Db.updateStep, Db.failExperiment, Db.addSystemEvent, Db.addBrokerSyncLog]

/-- The record of the division of a profit of zero by the capital. -/
def divisionRecord : FailureRecord where
  errorCode      := "BROKER_PROVIDER_ERROR"
  message        := "[<class 'decimal.DivisionUndefined'>]"
  failExperiment := false
  eventType      := .orderFailed

/-- An empty portfolio is worth nothing at any price. -/
theorem portfolioValueAt_empty {p : Portfolio} (h : p.account = ⟨0, 0⟩) (price : ℚ) : portfolioValueAt p price = 0 := by
  have hcash : p.cash = 0 := congrArg Account.cash h
  have hposition : p.heldQuantity = 0 := congrArg Account.position h
  have hzero : quantize4 0 = 0 := quantize4_of_onGrid OnGrid.zero
  rw [portfolioValueAt, positionValueAt, hcash, hposition, zero_mul, hzero, add_zero, hzero]

/-- **Without a capital** a paper step is rolled back and recorded as failed. -/
theorem paperBar_fails (h : PaperAt e config day (bar :: later) ⟨⟨0, 0⟩, false⟩ st.current) (he : OrbPaper e)
    (hcapital : e.initialCapital.val = 0) (henv : BarEnv day bar (envs bar.timestamp))
    (hsplit : day.bars = done ++ bar :: rest) (hrange : openingRange day.bars = .ok (high, low)) :
    (paperBar envs bar st).current = (st.current.openedFor bar (envs bar.timestamp)).recordFailure
      (some st.current.nextId) divisionRecord (envs bar.timestamp).failedAt := by
  obtain ⟨ss, hss, rfl, haccount⟩ := h.stepState_opened (envs bar.timestamp)
  refine wp_runNextStep_bar (P := fun st' => st'.current = _) h he henv hsplit hrange fun st' hst' => ?_
  have horder : (openingRangeStep bar (sessionState day.bars high low bar false)).order ss.portfolio = none := by
    unfold BarStep.order
    rw [haccount]
    exact Account.order_empty _ _
  rw [← hst'] at hss
  rw [Proc.wp_bind, Proc.wp_withSession]
  apply wp_orbArtifacts_settles henv.works hss rfl
  apply wp_settle_raises henv.works hcapital
  · rcases BarStep.riskResult_cases _ ss.portfolio with ⟨-, why, rules, hr⟩ | ⟨side, q, rules, hsome, -, -⟩
    · rw [hr]
      rfl
    · rw [horder] at hsome
      cases hsome
  · -- the exception is recorded with the step
    have hempty : ss.portfolio.load.account = ⟨0, 0⟩ := haccount
    rw [portfolioValueAt_empty hempty]
    unfold handleFailure
    show Proc.wp (persistFailure _ _ divisionRecord >>= fun _ => Proc.raise _) _ _ _
    unfold persistFailure
    simp only [Proc.wp_bind, Proc.wp_withSession, Tx.wp_bind, henv.works.wp_op, Tx.wp_modify, Proc.wp_raise]
    rw [Store.commit_current, Store.rollback_current, hst']

/-- Such a step leaves the database between two steps, with the rows it had. -/
theorem paperBar_stuck (h : PaperAt e config day (bar :: later) ⟨⟨0, 0⟩, false⟩ st.current) (he : OrbPaper e)
    (hcapital : e.initialCapital.val = 0) (henv : BarEnv day bar (envs bar.timestamp))
    (hsplit : day.bars = done ++ bar :: rest) (hrange : openingRange day.bars = .ok (high, low))
    (hlater : ∀ b ∈ later, bar.timestamp < b.timestamp) :
    PaperAt e config day later ⟨⟨0, 0⟩, false⟩ (paperBar envs bar st).current ∧
      (paperBar envs bar st).current.view st.current.nextId = .nothing ⟨0, 0⟩ := by
  rw [paperBar_fails h he hcapital henv hsplit hrange]
  generalize hdb : st.current.openedFor bar (envs bar.timestamp) = opened
  obtain ⟨⟨hportfolio, horders, htrades, -⟩, hnext⟩ := opened.recordFailure_frame (some st.current.nextId)
    divisionRecord (envs bar.timestamp).failedAt
  obtain ⟨hdecisions, hriskChecks, hconfig⟩ := recordFailure_rows opened (some st.current.nextId)
    divisionRecord (envs bar.timestamp).failedAt
  have hexperiment := opened.recordFailure_experiment (some st.current.nextId) divisionRecord
    (envs bar.timestamp).failedAt
  have hsteps := opened.recordFailure_steps (some st.current.nextId) divisionRecord (envs bar.timestamp).failedAt
  generalize opened.recordFailure (some st.current.nextId) divisionRecord (envs bar.timestamp).failedAt = db' at *
  subst hdb
  have hid : st.current.nextId < db'.nextId := (Nat.lt_succ_self _).trans_le hnext
  obtain ⟨row, hrow, haccount⟩ := h.account.account
  have hstored : db'.portfolio = some row := hportfolio.trans hrow
  have hbookings : db'.bookings = st.current.bookings := congrArg (List.map _) htrades
  have hkeys : KeysBelow st.current.nextId db' := by
    refine ⟨?_, ?_, ?_⟩
    · rw [hdecisions]
      exact h.account.keys.decisions
    · rw [hriskChecks]
      exact h.account.keys.riskChecks
    · rw [htrades]
      exact h.account.keys.trades
  have hclosed : ∀ s ∈ db'.steps, s.id < db'.nextId ∧ s.status ≠ .running ∧
      ∀ t, s.scheduledFor = some t → ∀ b ∈ later, t < b.timestamp := by
    rw [hsteps]
    exact h.steps_closed (f := (·.failedStep (envs bar.timestamp).failedAt divisionRecord.message))
      (fun s => ⟨rfl, by simp [ExecutionStep.failedStep], rfl⟩) hlater hid
  refine ⟨?_, ?_⟩
  · exact
      { account := ⟨⟨hexperiment.trans h.account.ready.experiment, hconfig.trans h.account.ready.strategyConfig,
          row, hstored⟩, ⟨row, hstored, haccount⟩, hkeys.mono hid.le⟩
        idle    := fun s hs => (hclosed s hs).2.1
        keys    := fun s hs => (hclosed s hs).1
        slots   := fun s hs => (hclosed s hs).2.2
        orders  := by
          rw [horders]
          intro o ho
          exact ⟨(h.orders o ho).1.trans hid, (h.orders o ho).2.trans hid⟩
        trip    := by
          rw [Db.orbRoundTripCompleted_eq, hbookings, ← Db.orbRoundTripCompleted_eq]
          exact h.trip
        past    := by
          rw [hbookings]
          exact h.past }
  · rw [hkeys.view_nothing, hstored]
    exact congrArg (fun a => StepView.mk [] [] [] (some a)) haccount

end TradingAI
