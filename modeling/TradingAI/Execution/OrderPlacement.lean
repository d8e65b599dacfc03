import TradingAI.Execution.StepPlan

/-!
# `Execution.OrderPlacement` — what the last transaction of a trading step does

`brokerExecution` asks the broker first and records afterwards, in one transaction. `placeOutcome` is the
broker's report or the exception before it; `recordOutcome` is the exception after it, if any. On success
the transaction leaves `Executed`: one more order, the immediate fill booked, the step closed.

Trades are compared as `Fill`s: the columns the ledger is made of.
-/

namespace TradingAI

open Session PaperExecutionProvider

/-! ## Fills -/

/-- The ledger columns of a trade. -/
structure Fill where
  orderId    : ℕ
  side       : OrderSide
  quantity   : ℚ
  orderValue : ℚ
  deriving DecidableEq

def Trade.fill (t : Trade) : Fill := ⟨t.orderId, t.side, t.quantity.val, t.orderValue.val⟩

def Db.fills (db : Db) : List Fill := db.trades.map Trade.fill

/-- The quantity booked for an order. -/
def filledOf (fills : List Fill) (orderId : ℕ) : ℚ :=
  ((fills.filter (·.orderId = orderId)).map Fill.quantity).sum

theorem filledOf_append {fills new : List Fill} {id : ℕ} (h : ∀ f ∈ new, f.orderId ≠ id) :
    filledOf (fills ++ new) id = filledOf fills id := by
  have hnone : new.filter (·.orderId = id) = [] := by
    rw [List.filter_eq_nil_iff]; intro f hf; simpa using h f hf
  simp [filledOf, List.filter_append, hnone]

/-- What a fill of an order adds to its booked quantity. -/
theorem filledOf_entry {fills : List Fill} {entry : Option Fill} {id : ℕ}
    (hentry : ∀ f ∈ entry, f.orderId = id) :
    filledOf (fills ++ entry.toList) id = filledOf fills id + entry.elim 0 Fill.quantity := by
  cases entry with
  | none => simp [filledOf]
  | some f =>
      have hid := hentry f rfl
      simp [filledOf, List.filter_append, hid]

theorem filledOf_eq_zero {fills : List Fill} {id : ℕ} (h : ∀ f ∈ fills, f.orderId ≠ id) :
    filledOf fills id = 0 := by
  have hnone : fills.filter (·.orderId = id) = [] := by
    rw [List.filter_eq_nil_iff]; intro f hf; simpa using h f hf
  rw [filledOf, hnone]; rfl

theorem Db.filledQuantityByOrder_eq (db : Db) (orderId : ℕ) :
    db.filledQuantityByOrder orderId = filledOf db.fills orderId := by
  unfold filledQuantityByOrder filledOf Db.fills
  rw [List.filter_map, List.map_map]
  rfl

/-- Writing the portfolio value into a trade does not change what it moved. -/
@[simp] theorem Db.fills_writePortfolio (db : Db) (p : Portfolio) (tradeId : Option ℕ) :
    (db.writePortfolio p tradeId).fills = db.fills := by
  simp only [Db.fills, Db.writePortfolio, List.map_map]
  refine List.map_congr_left fun t _ => ?_
  simp only [Function.comp_apply]
  split <;> rfl

/-- The fill a report brings along when its order is placed. -/
def immediateEntry (r : BrokerOrderResult) (orderId : ℕ) : Option Fill :=
  match r.averageFillPrice with
  | some price =>
      if 0 < r.filledQuantity then
        some ⟨orderId, r.side, (numeric 8 r.filledQuantity).val,
          (numeric 4 (fillValue r.filledQuantity price)).val⟩
      else none
  | none => none

/-- The trade of `immediateFill`, once its order has a key, is the entry. -/
theorem immediateFill_entry (r : BrokerOrderResult) (p : Portfolio) (s orderId : ℕ) (at_ now : DateTime) :
    (immediateFill r p s at_ now).2.map (fun t => Trade.fill { t with orderId }) =
      immediateEntry r orderId := by
  unfold immediateFill immediateEntry
  cases r.averageFillPrice with
  | none => rfl
  | some price => dsimp only; split <;> rfl

/-- The step that fills an order leaves no mark on the portfolio. -/
theorem immediateFill_portfolio (r : BrokerOrderResult) (p : Portfolio) (s : ℕ) (at_ now : DateTime) :
    (immediateFill r p s at_ now).1 = (immediateFill r p 0 at_ now).1 := by
  unfold immediateFill
  cases r.averageFillPrice with
  | none => rfl
  | some price => dsimp only; split <;> rfl

/-! ## Outcomes -/

/-- The side a final action is sent with. -/
def submittedSide : FinalAction → OrderSide
  | .sell => .sell
  | _     => .buy

/-- The request a submission makes. -/
def requestOf (db : Db) (executionStepId : ℕ) (s : Submission) : OrderRequest where
  symbol        := s.symbol
  side          := submittedSide s.riskResult.finalAction
  quantity      := s.riskResult.finalQuantity.getD 0
  orderType     := .market
  clientOrderId := clientOrderId db.experimentId executionStepId s.riskCheckId

/-- The broker's report on the order, or what is raised before there is one. -/
def placeOutcome (env : StepEnv) (db : Db) (executionStepId : ℕ) (s : Submission) :
    Except Raised BrokerOrderResult := do
  let _ ← loadedRows env db .loadBrokerState (·.brokerRows executionStepId)
  outcomeOf (env.fault .findExistingOrder)
  env.placeOrder (requestOf db executionStepId s)

/-- The portfolio with the fill of a report, at the price of its step. -/
def Db.valueAfter (db : Db) (env : StepEnv) (price : ℚ) (r : BrokerOrderResult) : ℚ :=
  db.portfolio.elim 0 fun row => portfolioValueAt (immediateFill r row.load 0 env.executedAt env.executedAt).1 price

/-- What is raised while the report is recorded, if anything. -/
def recordOutcome (env : StepEnv) (db : Db) (price : ℚ) (r : BrokerOrderResult) : Except Raised Unit := do
  outcomeOf (env.fault .flushOrder)
  outcomeOf (env.faultIf (immediateEntry r 0).isSome .flushTrade)
  snapshotOutcome env db.initialCapital (db.valueAfter env price r)

/-- **The broker's report on the order of a step**, none if the step asks for no trade, or what is raised
    on the way to it. -/
def brokerReport (env : StepEnv) (db : Db) (executionStepId : ℕ) (eventId : Option ℕ) :
    Except Raised (Option BrokerOrderResult) := do
  let p ← stepPlan env db executionStepId eventId
  settleOutcome env db.initialCapital (db.valueAt p.price) p.riskResult
  if requiresBrokerSubmission p.riskResult then
    (placeOutcome env db executionStepId p).map some
  else .ok none

/-- What is raised while the report on the order of a step is recorded, at the price the step is sized with. -/
def reportOutcome (env : StepEnv) (db : Db) (executionStepId : ℕ) (eventId : Option ℕ) (r : BrokerOrderResult) :
    Except Raised Unit := do
  let p ← stepPlan env db executionStepId eventId
  recordOutcome env db p.price r

/-- What a step raises after its creation, if anything: before the broker reports, or after. -/
def stepOutcome (env : StepEnv) (db : Db) (executionStepId : ℕ) (eventId : Option ℕ) :
    Except Raised Unit := do
  match ← brokerReport env db executionStepId eventId with
  | some r => reportOutcome env db executionStepId eventId r
  | none   => .ok ()

section
variable {env : StepEnv} {executionStepId : ℕ} {p : Submission} {db db' : Db}

/-- The broker is asked for the same order, in the same way, as if it were asked at once. -/
theorem Submitted.placeOutcome_eq (h : Submitted executionStepId p db db') :
    placeOutcome env db' executionStepId p = placeOutcome env db executionStepId p := by
  obtain ⟨row, -, -, hcore⟩ := h.prepared.core
  have hid : db'.experimentId = db.experimentId := congrArg Core.experimentId hcore
  have hexp : db'.experiment = db.experiment := congrArg Core.experiment hcore
  have hport : db'.portfolio = db.portfolio := congrArg Core.portfolio hcore
  have hsteps : db'.steps = db.steps := congrArg Core.steps hcore
  have hrows : db'.brokerRows executionStepId = db.brokerRows executionStepId := by
    unfold Db.brokerRows Db.getStep; rw [hexp, hport, hsteps]
  have hload : loadedRows env db' .loadBrokerState (·.brokerRows executionStepId) =
      loadedRows env db .loadBrokerState (·.brokerRows executionStepId) := by
    simp only [loadedRows, hrows, hid]
  have hrequest : requestOf db' executionStepId p = requestOf db executionStepId p := by
    unfold requestOf; rw [hid]
  unfold placeOutcome
  rw [hload, hrequest]

/-- Recording a report raises what it would have raised at once. -/
theorem Submitted.recordOutcome_eq (h : Submitted executionStepId p db db') (price : ℚ) (r : BrokerOrderResult) :
    recordOutcome env db' price r = recordOutcome env db price r := by
  obtain ⟨row, -, -, hcore⟩ := h.prepared.core
  have hexp : db'.experiment = db.experiment := congrArg Core.experiment hcore
  have hport : db'.portfolio = db.portfolio := congrArg Core.portfolio hcore
  unfold recordOutcome Db.initialCapital Db.valueAfter
  rw [hexp, hport]

end

/-! ## The transaction -/

/-- A step after its end was recorded. -/
def ExecutionStep.finished (failure : Option PaperStepFailure) (now : DateTime) (s : ExecutionStep) :
    ExecutionStep :=
  match failure with
  | some failure => s.failedStep now failure.message
  | none         => s.completedStep now

/-- The experiment after the end of a step was recorded. -/
def Experiment.finished (failure : Option PaperStepFailure) (now : DateTime) (e : Experiment) :
    Experiment :=
  match failure with
  | some _ => { e with status := .failed, updatedAt := now }
  | none   => e

theorem Db.core_finishStep (db : Db) (id : ℕ) (failure : Option PaperStepFailure) (now : DateTime) :
    (db.finishStep id failure now).core =
      { db.core with
        steps := db.steps.map fun s => if s.id = id then s.finished failure now else s
        experiment := db.experiment.map (·.finished failure now) } := by
  cases failure with
  | some failure => rfl
  | none => simp [Db.finishStep, Db.core, Db.updateStep, Experiment.finished, ExecutionStep.finished]

theorem Db.nextId_le_finishStep (db : Db) (id : ℕ) (failure : Option PaperStepFailure) (now : DateTime) :
    db.nextId ≤ (db.finishStep id failure now).nextId := by
  cases failure with
  | some failure => exact Nat.le_succ _
  | none => exact le_rfl

/-- The database after the report `r` on the submission `s` was recorded. -/
structure Executed (env : StepEnv) (executionStepId : ℕ) (s : Submission) (r : BrokerOrderResult)
    (db db' : Db) : Prop where
  portfolio  : ∃ row, db.portfolio = some row ∧ db'.portfolio =
    some ((immediateFill r row.load executionStepId env.executedAt env.executedAt).1.markedTo s.price
      env.executedAt).row
  orders     : db'.orders = db.orders ++
    [{ orderOf r executionStepId s.riskCheckId env.executedAt env.executedAt with id := db.nextId }]
  fills      : db'.fills = db.fills ++ (immediateEntry r db.nextId).toList
  steps      : db'.steps = db.steps.map fun st =>
    if st.id = executionStepId then st.finished (controlledOrderFailure (some r)) env.executedAt else st
  experiment : db'.experiment =
    db.experiment.map (·.finished (controlledOrderFailure (some r)) env.executedAt)
  marketData : db'.marketData = db.marketData
  nextId     : db.nextId < db'.nextId

variable {env : StepEnv} {executionStepId : ℕ} {db : Db} {book : BrokerBook} {s : Submission}

theorem requiresBrokerSubmission_iff {r : RiskResult} :
    requiresBrokerSubmission r = true ↔ r.approved = true ∧ r.finalAction ≠ .hold ∧
      ∃ q, r.finalQuantity = some q ∧ 0 < q := by
  obtain ⟨approved, action, quantity, _, _, _⟩ := r
  cases action <;> cases quantity <;> simp [requiresBrokerSubmission]

/-- What requires a submission is applicable at the broker, with a side. -/
theorem applicable_of_requires (h : requiresBrokerSubmission s.riskResult = true) :
    applicableQuantity s.riskResult = some (s.riskResult.finalQuantity.getD 0) ∧
      sideForAction s.riskResult.finalAction = .ok (submittedSide s.riskResult.finalAction) := by
  obtain ⟨happroved, haction, q, hq, hpos⟩ := requiresBrokerSubmission_iff.mp h
  refine ⟨by simp [applicableQuantity, happroved, haction, hq, hpos], ?_⟩
  cases ha : s.riskResult.finalAction with
  | buy | sell => rfl
  | hold => exact absurd ha haction

/-- Recording the order and its fill, when the flushes work. -/
theorem wp_flushExecution {r : BrokerOrderResult} {p : Portfolio} {order : Order} {at_ now : DateTime}
    {rejected : Bool} {E : Raised → BrokerBook → Prop} {Q : Option ℕ → Db → BrokerBook → Prop}
    (hok : env.fault .flushOrder = none → env.faultIf (immediateEntry r 0).isSome .flushTrade = none →
      ∀ tradeId db', db'.core = { db.core with
          orders := db.orders ++ [{ order with id := db.nextId }], trades := db'.trades } →
        db'.fills = db.fills ++ (immediateEntry r db.nextId).toList → db.nextId < db'.nextId →
        Q tradeId db' book)
    (horder : ∀ e, env.fault .flushOrder = some e → E e book)
    (htrade : ∀ e, env.fault .flushOrder = none →
      env.faultIf (immediateEntry r 0).isSome .flushTrade = some e → E e book) :
    (flushExecution env
      { order := some order, trade := (immediateFill r p executionStepId at_ now).2,
        brokerResult := some r, rejected, portfolio := (immediateFill r p executionStepId at_ now).1 }).wp
      Q E db book := by
  have hentry := fun orderId => immediateFill_entry r p executionStepId orderId at_ now
  unfold flushExecution
  simp only [Tx.wp_bind, Tx.wp_get, Option.isSome_some, if_true]
  refine Tx.wp_mayRaise (fun ho => ?_) horder
  rw [Tx.wp_modify]
  cases htr : (immediateFill r p executionStepId at_ now).2 with
  | none =>
      have hnone : immediateEntry r 0 = none := by rw [← hentry 0, htr]; rfl
      have hnone' : immediateEntry r db.nextId = none := by rw [← hentry, htr]; rfl
      refine hok ho ?_ none _ rfl ?_ (Nat.lt_succ_self _)
      · rw [hnone]; rfl
      · rw [hnone']; simp [Db.fills, Db.addOrder]
  | some trade =>
      have hsome : (immediateEntry r 0).isSome = true := by rw [← hentry 0, htr]; rfl
      have hsome' : immediateEntry r db.nextId = some (Trade.fill { trade with orderId := db.nextId }) := by
        rw [← hentry, htr]; rfl
      have hfault : env.faultIf (immediateEntry r 0).isSome .flushTrade = env.fault .flushTrade := by
        rw [hsome]; rfl
      simp only [Tx.wp_bind, Tx.wp_get]
      refine Tx.wp_mayRaise (fun ht => ?_) fun e ht => htrade e ho (hfault.trans ht)
      rw [Tx.wp_modify]
      refine hok ho (hfault.trans ht) _ _ rfl ?_ (Nat.lt_add_of_pos_right (by decide : 0 < 2))
      rw [hsome']
      simp [Db.fills, Db.addTrade, Db.addOrder, Trade.fill]

theorem wp_executeIfApplicable {p : Portfolio} {at_ : DateTime} {E : Raised → BrokerBook → Prop}
    {Q : PaperExecutionProvider.Result → Db → BrokerBook → Prop}
    (hreq : requiresBrokerSubmission s.riskResult = true)
    (hfresh : db.existingOrder executionStepId s.riskCheckId = none)
    (hok : ∀ r, env.fault .findExistingOrder = none →
      env.placeOrder (requestOf db executionStepId s) = .ok r →
      Q { order := some (orderOf r executionStepId s.riskCheckId at_ at_),
          trade := (immediateFill r p executionStepId at_ at_).2, brokerResult := some r,
          rejected := (orderOf r executionStepId s.riskCheckId at_ at_).status = .rejected,
          portfolio := (immediateFill r p executionStepId at_ at_).1 } db (book.enter r))
    (hfind : ∀ e, env.fault .findExistingOrder = some e → E e book)
    (hplace : ∀ e, env.fault .findExistingOrder = none →
      env.placeOrder (requestOf db executionStepId s) = .error e → E e book) :
    (executeIfApplicable env s.riskResult p executionStepId s.riskCheckId s.symbol at_ at_).wp Q E
      db book := by
  obtain ⟨hquantity, hside⟩ := applicable_of_requires hreq
  unfold executeIfApplicable
  rw [hquantity]
  simp only [Tx.wp_bind, Tx.wp_get]
  refine Tx.wp_mayRaise (fun hf => ?_) hfind
  rw [hfresh, hside]
  dsimp only
  simp only [Tx.wp_bind, Tx.wp_ofExcept_ok]
  exact StepEnv.wp_submit (fun r hr => hok r hf hr) fun e he => hplace e hf he

theorem Db.brokerRows_eq_some {experiment : Experiment} {portfolio : PortfolioRow}
    (h : db.brokerRows executionStepId = some (experiment, portfolio)) :
    db.experiment = some experiment ∧ db.portfolio = some portfolio := by
  unfold Db.brokerRows at h
  split at h
  · next he hp _ => cases h; exact ⟨he, hp⟩
  · cases h

/-- The three stages of recording, put together: flush the order and the fill, write the portfolio with
    the snapshots, close the step. -/
theorem executed_of_stages {r : BrokerOrderResult} {portfolio : PortfolioRow} {db₁ db₂ : Db}
    {tradeId : Option ℕ} (hport : db.portfolio = some portfolio)
    (hcore₁ : db₁.core = { db.core with
      orders := db.orders ++
        [{ orderOf r executionStepId s.riskCheckId env.executedAt env.executedAt with id := db.nextId }]
      trades := db₁.trades })
    (hfills₁ : db₁.fills = db.fills ++ (immediateEntry r db.nextId).toList)
    (hnext₁ : db.nextId < db₁.nextId)
    (hcore₂ : db₂.core = (db₁.writePortfolio
      ((immediateFill r portfolio.load executionStepId env.executedAt env.executedAt).1.markedTo s.price
        env.executedAt) tradeId).core)
    (hnext₂ : db₁.nextId ≤ db₂.nextId) :
    Executed env executionStepId s r db
      (db₂.finishStep executionStepId (controlledOrderFailure (some r)) env.executedAt) := by
  have hcore := Db.core_finishStep db₂ executionStepId (controlledOrderFailure (some r)) env.executedAt
  have hsteps : db₂.steps = db.steps := (congrArg Core.steps hcore₂).trans (congrArg Core.steps hcore₁)
  have hexp : db₂.experiment = db.experiment :=
    (congrArg Core.experiment hcore₂).trans (congrArg Core.experiment hcore₁)
  have hfills₂ : db₂.fills = db₁.fills := by
    rw [← Db.fills_writePortfolio db₁ _ tradeId]
    exact congrArg (fun c : Core => c.trades.map Trade.fill) hcore₂
  exact
    { portfolio := ⟨portfolio, hport, (congrArg Core.portfolio hcore).trans (congrArg Core.portfolio hcore₂)⟩
      orders := (congrArg Core.orders hcore).trans
        ((congrArg Core.orders hcore₂).trans (congrArg Core.orders hcore₁))
      fills := (congrArg (fun c : Core => c.trades.map Trade.fill) hcore).trans (hfills₂.trans hfills₁)
      steps := (congrArg Core.steps hcore).trans (by rw [hsteps])
      experiment := (congrArg Core.experiment hcore).trans (by rw [hexp])
      marketData := (congrArg Core.marketData hcore).trans
        ((congrArg Core.marketData hcore₂).trans (congrArg Core.marketData hcore₁))
      nextId := hnext₁.trans_le (hnext₂.trans (Db.nextId_le_finishStep _ _ _ _)) }

/-- **The last transaction**: it raises before the broker took the order, or after, or leaves
    `Executed`. -/
theorem wp_brokerExecution {E : Raised → BrokerBook → Prop}
    {Q : Option PaperStepFailure → Db → BrokerBook → Prop}
    (hreq : requiresBrokerSubmission s.riskResult = true)
    (hfresh : db.existingOrder executionStepId s.riskCheckId = none)
    (hok : ∀ r db', placeOutcome env db executionStepId s = .ok r → recordOutcome env db s.price r = .ok () →
      Executed env executionStepId s r db db' → Q (controlledOrderFailure (some r)) db' (book.enter r))
    (hrecord : ∀ r e, placeOutcome env db executionStepId s = .ok r →
      recordOutcome env db s.price r = .error e → E e (book.enter r))
    (hplace : ∀ e, placeOutcome env db executionStepId s = .error e → E e book) :
    (brokerExecution env executionStepId s).wp Q E db book := by
  unfold brokerExecution
  simp only [Tx.wp_bind, Tx.wp_modify]
  refine wp_loadRows (fun rows hstate hrows => ?_) fun e he => hplace e (by rw [placeOutcome, he]; rfl)
  obtain ⟨experiment, portfolio⟩ := rows
  obtain ⟨hexp, hport⟩ := Db.brokerRows_eq_some hrows
  have hplaced : placeOutcome env db executionStepId s =
      (outcomeOf (env.fault .findExistingOrder) >>= fun _ =>
        env.placeOrder (requestOf db executionStepId s)) := by
    rw [placeOutcome, hstate, ok_bind]
  rw [hplaced] at hok hrecord hplace
  refine wp_executeIfApplicable hreq hfresh (fun r hf hr => ?_)
    (fun e hf => hplace e (by rw [outcomeOf_some hf]; rfl))
    fun e hf he => hplace e (by rw [outcomeOf_none hf, ok_bind, he])
  have hreport : (outcomeOf (env.fault .findExistingOrder) >>= fun _ =>
      env.placeOrder (requestOf db executionStepId s)) = .ok r := by
    rw [outcomeOf_none hf, ok_bind, hr]
  -- from here on the broker has the order
  refine wp_flushExecution (fun ho ht tradeId db₁ hcore₁ hfills₁ hnext₁ => ?_)
    (fun e ho => hrecord r e hreport (by rw [recordOutcome, outcomeOf_some ho]; rfl))
    fun e ho ht => hrecord r e hreport (by rw [recordOutcome, outcomeOf_none ho, ok_bind, outcomeOf_some ht]; rfl)
  have hcap : db.initialCapital = experiment.initialCapital.val := by rw [Db.initialCapital, hexp]; rfl
  have hvalue : db.valueAfter env s.price r = portfolioValueAt
      (immediateFill r portfolio.load executionStepId env.executedAt env.executedAt).1 s.price := by
    rw [Db.valueAfter, hport, immediateFill_portfolio r portfolio.load executionStepId]; rfl
  have hrest : recordOutcome env db s.price r = snapshotOutcome env experiment.initialCapital.val (portfolioValueAt
      (immediateFill r portfolio.load executionStepId env.executedAt env.executedAt).1 s.price) := by
    rw [recordOutcome, outcomeOf_none ho, ok_bind, outcomeOf_none ht, ok_bind, hcap, hvalue]
  refine wp_persistSnapshotAndMetrics (fun hsnap db₂ hcore₂ hnext₂ => ?_) fun e he =>
    hrecord r e hreport (hrest.trans he)
  refine hok r _ hreport (hrest.trans hsnap) ?_
  exact executed_of_stages hport hcore₁ hfills₁ hnext₁ hcore₂ hnext₂

end TradingAI
