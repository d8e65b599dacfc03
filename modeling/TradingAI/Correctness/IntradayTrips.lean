import TradingAI.Execution.OpeningRangeRun
import TradingAI.Execution.Calls

/-!
# `Correctness.IntradayTrips` — the opening range breakout trades intraday, unless it enters late

A session that starts flat buys at its first breakout that the cash affords, and what it buys it sells, at its
last bar at the latest. But the strategy does not keep the last bar itself from being bought at: it asks for
an exit only where there is a position already. So a session whose first affordable breakout is its last bar
leaves its shares to the next session.

The run over the sessions is the machine of `Execution.OpeningRange`, session after session, and every session
starts with the account the one before it left. So the run trades intraday if and only if no session enters
at its last bar (`intraday_iff`).

## Contents
- `IntradayRun`, `TradingDay.EntersEarly`.
- `trades_of_day`, `views_of_day`: the trades and the last account of one session.
- `intraday_iff`.
-/

namespace TradingAI

open OpeningRangeBreakoutStrategy SessionPlace

/-! ## Trading intraday -/

/-- **Every session trades intraday**: nothing, or one BUY and then one SELL of as many shares, no BUY within
    the opening range, and no position after the last bar. -/
structure IntradayRun (days : List TradingDay) (rs : RunState) : Prop where
  trades  : ∀ day ∈ days, Intraday (rs.db.bookings.filter (·.1.date = day.sessionDate))
  entries : ∀ x ∈ rs.db.bookings, x.2.1 = .buy → openingRangeEnd < x.1.time
  flat    : ∀ day ∈ days, ∀ r ∈ rs.history, r.bar.timestamp = day.lastBar.timestamp → r.db.position = 0

/-- The last bar is not the first breakout that the cash affords. -/
def TradingDay.EntersEarly (day : TradingDay) (cash : ℚ) : Prop :=
  ∀ t ∈ day.inputs.getLast?, t.Opens cash → ∃ u ∈ day.inputs.dropLast, u.Opens cash

instance (day : TradingDay) (cash : ℚ) : Decidable (day.EntersEarly cash) := by
  unfold TradingDay.EntersEarly
  infer_instance

/-! ## One session -/

variable {day : TradingDay} {a : Account}

/-- The last bar of a session starts after the others. -/
theorem TradingDay.lastBar_new (day : TradingDay) {bar : IntradayBar} (h : bar ∈ day.bars.dropLast) :
    bar.timestamp ≠ day.lastBar.timestamp := by
  have hsorted := day.bars_sorted
  rw [day.bars_eq, List.pairwise_append] at hsorted
  exact (hsorted.2.2 bar h day.lastBar List.mem_cons_self).ne

/-- The inputs of a session end in its last bar, after the opening range. -/
theorem TradingDay.inputs_split (day : TradingDay) :
    ∃ ts t, day.inputs = ts ++ [t] ∧ (∀ u ∈ ts, u.timestamp ≠ day.lastBar.timestamp) ∧
      t.timestamp = day.lastBar.timestamp ∧ t.shown.openingRangeComplete = true ∧ t.shown.finalBar = true := by
  obtain ⟨high, low, -, hinputs⟩ := day.inputs_eq
  have hsplit : day.inputs = day.bars.dropLast.map (SessionBar.of day.bars high low) ++
      [SessionBar.of day.bars high low day.lastBar] := by
    rw [hinputs, ← List.map_singleton, ← List.map_append, ← day.bars_eq]
  refine ⟨_, _, hsplit, ?_, rfl, decide_eq_true day.lastBar_late, ?_⟩
  · rw [List.forall_mem_map]
    exact fun bar => day.lastBar_new
  show decide (day.bars.getLast?.map IntradayBar.timestamp = some day.lastBar.timestamp) = true
  rw [List.getLast?_eq_some_getLast day.bars_ne_nil]
  exact decide_eq_true rfl

/-- An input of a session is one of its bars. -/
theorem TradingDay.of_mem_inputs {t : SessionBar} (h : t ∈ day.inputs) :
    ∃ bar ∈ day.bars, t.timestamp = bar.timestamp ∧ t.close = bar.close ∧
      t.shown.openingRangeComplete = decide (openingRangeEnd < bar.timestamp.time) := by
  obtain ⟨high, low, -, hinputs⟩ := day.inputs_eq
  rw [hinputs] at h
  obtain ⟨bar, hbar, rfl⟩ := List.mem_map.mp h
  exact ⟨bar, hbar, rfl, rfl, rfl⟩

theorem TradingDay.inputs_price {t : SessionBar} (h : t ∈ day.inputs) : 0 < t.close := by
  obtain ⟨bar, hbar, -, hclose, -⟩ := TradingDay.of_mem_inputs h
  rw [hclose]
  exact day.prices bar hbar

/-- **A session from a flat account** trades intraday and ends flat if and only if it enters early. -/
theorem day_intraday_iff (hflat : a.position = 0) :
    (Intraday (dayTrades (day, a)) ∧ (a.afterDay day).position = 0) ↔ day.EntersEarly a.cash := by
  obtain ⟨ts, t, hinputs, -, -, hcomplete, hfinal⟩ := day.inputs_split
  have hprices : ∀ u ∈ ts ++ [t], 0 < u.close := by
    rw [← hinputs]
    exact fun u => TradingDay.inputs_price
  have hiff := trades_intraday_iff (p := ⟨a, false⟩) hprices hcomplete hfinal hflat rfl
  unfold dayTrades Account.afterDay TradingDay.EntersEarly
  rw [hinputs, List.getLast?_concat, List.dropLast_concat]
  simpa using hiff

/-- The trades of a session are on its date. -/
theorem dayTrades_date {x : TradingDay × Account} {b : DateTime × ShareOrder} (h : b ∈ dayTrades x) :
    b.1.date = x.1.sessionDate ∧ (b.2.1 = .buy → openingRangeEnd < b.1.time) := by
  obtain ⟨t, ht, hat, hbuy⟩ := mem_trades h
  obtain ⟨bar, hbar, hbarat, -, hcomplete⟩ := TradingDay.of_mem_inputs ht
  rw [← hat, hbarat]
  refine ⟨x.1.date_of_mem hbar, fun hside => ?_⟩
  have hshown := hbuy hside
  rw [hcomplete] at hshown
  exact of_decide_eq_true hshown

theorem dayViews_date {x : TradingDay × Account} {v : DateTime × StepView} (h : v ∈ dayViews x) :
    v.1.date = x.1.sessionDate := by
  obtain ⟨t, ht, hat⟩ := mem_views h
  obtain ⟨bar, hbar, hbarat, -, -⟩ := TradingDay.of_mem_inputs ht
  rw [← hat, hbarat]
  exact x.1.date_of_mem hbar

/-- The step of the last bar shows the account the session leaves. -/
theorem dayViews_last {x : TradingDay × Account} :
    (∃ v, (x.1.lastBar.timestamp, v) ∈ dayViews x) ∧
      ∀ v, (x.1.lastBar.timestamp, v) ∈ dayViews x → v.account = some (x.2.afterDay x.1) := by
  obtain ⟨ts, t, hinputs, hearlier, hlast, -, -⟩ := x.1.inputs_split
  obtain ⟨v, hviews, haccount⟩ := views_append_singleton ts t ⟨x.2, false⟩
  unfold dayViews Account.afterDay
  rw [hinputs, hviews]
  refine ⟨⟨v, ?_⟩, fun v' hv' => ?_⟩
  · rw [hlast]
    exact List.mem_append_right _ List.mem_cons_self
  · rcases List.mem_append.mp hv' with hv' | hv'
    · -- the other bars are at other times
      obtain ⟨u, hu, hat⟩ := mem_views hv'
      exact absurd hat (hearlier u hu)
    · rw [List.mem_singleton] at hv'
      obtain ⟨-, rfl⟩ := Prod.mk.inj hv'
      exact haccount

/-! ## The run -/

variable {days : List TradingDay} {e : Experiment} {config : StrategyConfig} {db : Db} {env : HistoricalEnv}

/-- What is asked of a session, in terms of the machine. -/
def TripEnds (day : TradingDay) (a : Account) : Prop :=
  Intraday (dayTrades (day, a)) ∧ (a.afterDay day).position = 0

/-- **Sessions one after another**: all trade intraday if and only if all enter early. -/
theorem tripEnds_iff (hflat : a.position = 0) :
    Runs.AllMeet Account.afterDay TripEnds days a ↔
      Runs.AllMeet Account.afterDay (fun day a => day.EntersEarly a.cash) days a := by
  -- by induction on the days: a day that trades intraday leaves a flat account to the next
  induction days generalizing a with
  | nil => exact Iff.rfl
  | cons day days ih =>
      -- the next session starts flat, as this one has met either condition
      constructor
      · rintro ⟨hday, hdays⟩
        exact ⟨(day_intraday_iff hflat).mp hday, (ih hday.2).mp hdays⟩
      · rintro ⟨hday, hdays⟩
        have hends := (day_intraday_iff hflat).mpr hday
        exact ⟨hends, (ih hends.2).mpr hdays⟩

/-- The sessions of a run can be told apart by their dates. -/
theorem sessionsFrom_differ (hdays : InOrder days) (a : Account) :
    (sessionsFrom days a).Pairwise fun x x' => x.1.sessionDate ≠ x'.1.sessionDate := by
  have h := hdays.differ
  rw [← Runs.map_fst_meetings Account.afterDay days a, List.pairwise_map] at h
  exact h

theorem position_of_view {db : Db} {id : ℕ} (h : (db.view id).account = some a) : db.position = a.position := by
  obtain ⟨row, hrow, rfl⟩ := Option.map_eq_some_iff.mp h
  unfold Db.position
  rw [hrow]
  rfl

/-- A run that is the machine trades intraday if and only if the machine does. -/
theorem intradayRun_iff {rs : RunState} (hdays : InOrder days)
    (hbookings : rs.db.bookings = (sessionsFrom days a).flatMap dayTrades)
    (hshown : rs.history.map StepRecord.shown = (sessionsFrom days a).flatMap dayViews) :
    IntradayRun days rs ↔ Runs.AllMeet Account.afterDay TripEnds days a := by
  have htrades : ∀ x ∈ sessionsFrom days a, rs.db.bookings.filter (·.1.date = x.1.sessionDate) = dayTrades x := by
    intro x hx
    rw [hbookings]
    exact filter_flatMap (fun _ _ _ hb => (dayTrades_date hb).1) (sessionsFrom_differ hdays a) hx
  have hviews : ∀ x ∈ sessionsFrom days a,
      (rs.history.map StepRecord.shown).filter (·.1.date = x.1.sessionDate) = dayViews x := by
    intro x hx
    rw [hshown]
    exact filter_flatMap (fun _ _ _ hv => dayViews_date hv) (sessionsFrom_differ hdays a) hx
  -- a record of a last bar shows what the session leaves
  have hlast : ∀ x ∈ sessionsFrom days a, ∀ v,
      (x.1.lastBar.timestamp, v) ∈ rs.history.map StepRecord.shown ↔ (x.1.lastBar.timestamp, v) ∈ dayViews x := by
    intro x hx v
    rw [← hviews x hx, List.mem_filter]
    have hdate : x.1.lastBar.timestamp.date = x.1.sessionDate := x.1.date_of_mem (List.getLast_mem x.1.bars_ne_nil)
    exact ⟨fun h => ⟨h, decide_eq_true hdate⟩, fun h => h.1⟩
  rw [Runs.allMeet_iff_forall]
  constructor
  · intro h x hx
    refine ⟨?_, ?_⟩
    · rw [← htrades x hx]
      exact h.trades x.1 (Runs.fst_mem_of_mem_meetings hx)
    · obtain ⟨⟨v, hv⟩, haccount⟩ := dayViews_last (x := x)
      obtain ⟨r, hr, heq⟩ := List.mem_map.mp ((hlast x hx v).mpr hv)
      obtain ⟨hat, hview⟩ := Prod.mk.inj heq
      rw [← position_of_view (hview ▸ haccount v hv)]
      exact h.flat x.1 (Runs.fst_mem_of_mem_meetings hx) r hr hat
  · intro h
    have hsession : ∀ day ∈ days, ∃ a', (day, a') ∈ sessionsFrom days a := by
      intro day hday
      rw [← Runs.map_fst_meetings Account.afterDay days a] at hday
      obtain ⟨⟨_, a'⟩, hx, rfl⟩ := List.mem_map.mp hday
      exact ⟨a', hx⟩
    refine ⟨fun day hday => ?_, fun b hb hside => ?_, fun day hday r hr hat => ?_⟩
    · obtain ⟨a', hx⟩ := hsession day hday
      rw [htrades (day, a') hx]
      exact (h (day, a') hx).1
    · rw [hbookings] at hb
      obtain ⟨x, -, hb⟩ := List.mem_flatMap.mp hb
      exact (dayTrades_date hb).2 hside
    · obtain ⟨a', hx⟩ := hsession day hday
      have hv := (hlast (day, a') hx (r.db.view r.executionStepId)).mp (hat ▸ List.mem_map_of_mem hr)
      rw [position_of_view (dayViews_last.2 _ hv)]
      exact (h (day, a') hx).2

/-- Without cash nothing can be bought. -/
theorem entersEarly_of_no_cash (day : TradingDay) : day.EntersEarly 0 := by
  intro t ht hopens
  have hprice := TradingDay.inputs_price (List.mem_of_getLast? ht)
  exact absurd hopens.2.2 hprice.not_ge

theorem afterDay_of_no_cash (day : TradingDay) : Account.afterDay day ⟨0, 0⟩ = ⟨0, 0⟩ := by
  have hnever : ∀ u ∈ day.inputs, ¬ u.Opens 0 := fun u hu hopens =>
    absurd hopens.2.2 (TradingDay.inputs_price hu).not_ge
  have hvain := waits_in_vain (p := ⟨⟨0, 0⟩, false⟩) (fun u => TradingDay.inputs_price) rfl rfl hnever []
  unfold Account.afterDay
  rw [← List.append_nil day.inputs, hvain.2]
  rfl

/-- **The opening range breakout trades intraday**, if and only if no session enters at its last bar: over
    every run of complete sessions at positive prices, from every capital and no position. -/
theorem intraday_iff (env : HistoricalEnv) (days : List TradingDay) (e : Experiment) (config : StrategyConfig)
    (db : Db) (hstart : Unstarted e config db) (hcapital : 0 ≤ e.initialCapital.val) (hdays : InOrder days)
    (hload : env.loadIntradayRange e.startDate e.endDate e.assetSymbol e.tradingFrequency =
      .ok (days.flatMap TradingDay.bars)) :
    IntradayRun days (HistoricalOrchestrator.openingRangeBreakout.run env db) ↔
      Runs.AllMeet Account.afterDay (fun day a => day.EntersEarly a.cash) days ⟨e.initialCapital.val, 0⟩ := by
  have hnone : db.bookings = [] := by
    unfold Db.bookings
    rw [hstart.trades]
    rfl
  by_cases hzero : e.initialCapital.val = 0
  · -- no step completes, and there is nothing to buy with
    obtain ⟨hhistory, htrades, -⟩ := run_without_capital env hstart.experiment hzero
    have hbookings : (HistoricalOrchestrator.openingRangeBreakout.run env db).db.bookings = [] := by
      unfold Db.bookings
      rw [htrades, hstart.trades]
      rfl
    refine iff_of_true ⟨fun _ _ => ?_, fun b hb => ?_, fun _ _ r hr => ?_⟩ ?_
    · rw [hbookings]
      exact .inl rfl
    · rw [hbookings] at hb
      cases hb
    · rw [hhistory] at hr
      cases hr
    · rw [hzero]
      clear hdays hload
      induction days with
      | nil => trivial
      | cons day days ih =>
          refine ⟨entersEarly_of_no_cash day, ?_⟩
          rw [afterDay_of_no_cash]
          exact ih
  · obtain ⟨hbookings, hshown⟩ := run_days hstart.atAccount (sound_capital hcapital) hzero hdays hload
    rw [hnone] at hbookings
    exact (intradayRun_iff hdays hbookings hshown).trans (tripEnds_iff rfl)

/-! ## An early and a late entry -/

/-- A short session, by its closes. -/
def sessionOf (close : ℕ → ℚ) (h : ∀ i, 0 < close i) : TradingDay where
  sessionDate := 1
  closeTime   := earlyCloseTime
  bars        := (List.range 42).map fun i =>
    ⟨DateTime.midnight 1 + regularOpenTime + i * barInterval, 1, close i, close i, close i, close i, 1⟩
  date_nonneg := by decide
  closes      := .inr rfl
  times       := List.map_map
  dates       := by simp
  prices      := by simp [h]

/-- A breakout at the bar `n`, and at no other. -/
def breakoutAt (n i : ℕ) : ℚ := if i = n then 101 else 100

theorem breakoutAt_pos (n i : ℕ) : 0 < breakoutAt n i := by
  unfold breakoutAt
  split <;> norm_num

def breakoutSession (n : ℕ) : TradingDay := sessionOf (breakoutAt n) (breakoutAt_pos n)

/-- A running experiment with a capital of 1000, and its surroundings over one session. -/
def breakoutDb : Db :=
  { smallDb .openingRangeBreakout .intraday5Min with
    experiment := some { smallExperiment .openingRangeBreakout .intraday5Min with mode := .historicalSimulation } }

def breakoutEnv (day : TradingDay) : HistoricalEnv where
  clock             := fun n => ⟨2 * n, 2 * n + 1⟩
  closedAt          := 100
  loadRange         := fun _ _ => .ok []
  loadIntradayRange := fun _ _ _ _ => .ok ([day].flatMap TradingDay.bars)

/-- A breakout in the middle of the session is bought, and sold at its end. -/
theorem breakout_intraday :
    IntradayRun [breakoutSession 10]
        (HistoricalOrchestrator.openingRangeBreakout.run (breakoutEnv (breakoutSession 10)) breakoutDb) ∧
      (HistoricalOrchestrator.openingRangeBreakout.run (breakoutEnv (breakoutSession 10)) breakoutDb).db.trades.length
        = 2 := by
  refine ⟨?_, by decide +kernel⟩
  have hearly : (breakoutSession 10).EntersEarly (numeric 4 1000).val := by decide +kernel
  refine (intraday_iff _ [breakoutSession 10] _ ⟨none, none, none, none, none⟩ breakoutDb
    ⟨rfl, rfl, ⟨_, rfl, rfl⟩, rfl, rfl, rfl⟩ ?_ (List.pairwise_singleton _ _) rfl).mpr ⟨hearly, trivial⟩
  decide +kernel

/-- A breakout at the last bar is bought there, and held overnight. -/
theorem late_breakout_held :
    ¬ ∀ (env : HistoricalEnv) (days : List TradingDay) (e : Experiment) (config : StrategyConfig) (db : Db),
      Unstarted e config db → 0 ≤ e.initialCapital.val → InOrder days →
        env.loadIntradayRange e.startDate e.endDate e.assetSymbol e.tradingFrequency =
          .ok (days.flatMap TradingDay.bars) →
        IntradayRun days (HistoricalOrchestrator.openingRangeBreakout.run env db) := by
  intro h
  have hrun := h (breakoutEnv (breakoutSession 41)) [breakoutSession 41] _ ⟨none, none, none, none, none⟩ breakoutDb
    ⟨rfl, rfl, ⟨_, rfl, rfl⟩, rfl, rfl, rfl⟩ (by decide +kernel) (List.pairwise_singleton _ _) rfl
  have hheld : ∃ r ∈ (HistoricalOrchestrator.openingRangeBreakout.run (breakoutEnv (breakoutSession 41))
      breakoutDb).history, r.bar.timestamp = (breakoutSession 41).lastBar.timestamp ∧ r.db.position = 9 := by
    decide +kernel
  obtain ⟨r, hr, hat, hposition⟩ := hheld
  have hflat := hrun.flat _ List.mem_cons_self r hr hat
  rw [hposition] at hflat
  norm_num at hflat

end TradingAI
