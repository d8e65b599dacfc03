import TradingAI.Correctness.OrderReports

/-!
# `Correctness.PolledOrders` — which fills are lost when an order is no longer polled

An order is polled while it is `SUBMITTED`. The status of a report is stored whether or not its fill could
be booked, so a final report that names no price takes the order out of the polls with its last fill
missing. And a status word the placing transaction does not know fails the order at once, where a later
poll would have gone on asking.

## Contents
- `Db.Polls`, `IsFinal`, `NothingLost`, `LifeLosesNothing`.
- `BooksAll`, `PollsBookAll`, `BooksEverything`: the condition on the reports.
- `loses_nothing_iff`, `unknown_word_not_polled`.
-/

namespace TradingAI

open Rounding Session PaperBrokerSyncService

/-! ## The polled set -/

/-- Broker synchronisation asks about the order. -/
def Db.Polls (db : Db) (orderId : ℕ) : Prop := ∃ o ∈ db.listOpenPaperOrders, o.id = orderId

/-- The status words an order can end with. -/
def finalStatuses : List String := ["filled", "rejected", "canceled", "cancelled", "expired"]

/-- A report with such a word, in any case. -/
def IsFinal (r : BrokerOrderResult) : Prop := lower r.status ∈ finalStatuses

instance (r : BrokerOrderResult) : Decidable (IsFinal r) := inferInstanceAs (Decidable (_ ∈ _))

variable {db : Db} {orderId : ℕ} {side : OrderSide} {status : OrderStatus} {t : OrderTally} {cash : ℚ}
variable {r : BrokerOrderResult}

/-- A tracked order is polled while it is submitted. -/
theorem Tracks.polls_iff (h : Tracks orderId side status t cash db) :
    db.Polls orderId ↔ status = .submitted := by
  obtain ⟨o, ho, hpaper⟩ := h.order
  obtain ⟨hmem, hid⟩ := Db.getOrder_eq_some ho
  have hopen : Db.isOpenPaperOrder o = true ↔ status = .submitted := by
    simp [Db.isOpenPaperOrder, hpaper.mode, hpaper.broker, hpaper.placed, hpaper.status]
  constructor
  · rintro ⟨x, hx, hxid⟩
    obtain ⟨hxmem, hxopen⟩ := Db.mem_listOpenPaperOrders.mp hx
    have hsame : x = o := List.inj_on_of_nodup_map h.keyed.distinct hxmem hmem (hxid.trans hid.symm)
    exact hopen.mp (hsame ▸ hxopen)
  · exact fun hsub => ⟨o, Db.mem_listOpenPaperOrders.mpr ⟨hmem, hopen.mpr hsub⟩, hid⟩

/-- A final word is known, and ends the order. -/
theorem known_of_final (h : IsFinal r) :
    ∃ s, knownOrderStatus r.status = some s ∧ s ≠ .submitted := by
  unfold IsFinal finalStatuses at h
  unfold knownOrderStatus
  generalize lower r.status = word at h
  simp only [List.mem_cons, List.not_mem_nil, or_false] at h
  rcases h with rfl | rfl | rfl | rfl | rfl
  · exact ⟨.filled, by decide, by decide⟩
  · exact ⟨.rejected, by decide, by decide⟩
  · exact ⟨.cancelled, by decide, by decide⟩
  · exact ⟨.cancelled, by decide, by decide⟩
  · exact ⟨.cancelled, by decide, by decide⟩

/-- Any other word is unknown, or that of a working order. -/
theorem known_of_not_final (h : ¬ IsFinal r) :
    knownOrderStatus r.status = none ∨ knownOrderStatus r.status = some .submitted := by
  unfold IsFinal finalStatuses at h
  unfold knownOrderStatus
  generalize lower r.status = word at h
  simp only [List.mem_cons, List.not_mem_nil, or_false, not_or] at h
  obtain ⟨hfilled, hrejected, hcanceled, hcancelled, hexpired⟩ := h
  have hnot : word ∉ cancelledStatuses := by simp [cancelledStatuses, hcanceled, hcancelled, hexpired]
  by_cases hworking : word ∈ workingStatuses
  · simp [hfilled, hworking]
  · simp [hfilled, hrejected, hworking, hnot]

/-! ## What is lost -/

/-- **Nothing is lost with the report `r`**: the order is still polled, or the report is final and the trades
    come to all it states. -/
def NothingLost (orderId : ℕ) (r : BrokerOrderResult) (db : Db) : Prop :=
  db.Polls orderId ∨ IsFinal r ∧ filledOf db.fills orderId = r.filledQuantity

/-- Nothing is lost with any of the polls the order gets while it is polled. -/
def PollsLoseNothing (senv : SyncEnv) (orderId : ℕ) : List BrokerOrderResult → Store Db BrokerBook → Prop
  | [], _ => True
  | r :: rs, st => st.current.Polls orderId →
      NothingLost orderId r ((Proc.withSession (persistOrderSync senv orderId r)).exec st).current ∧
        PollsLoseNothing senv orderId rs ((Proc.withSession (persistOrderSync senv orderId r)).exec st)

/-- **Nothing is lost in the life of an order**: neither with the report it is placed with, nor with a poll. -/
def LifeLosesNothing (env : StepEnv) (senv : SyncEnv) (id : ℕ) (s : Submission) (placed : BrokerOrderResult)
    (polls : List BrokerOrderResult) (st : Store Db BrokerBook) : Prop :=
  NothingLost st.current.nextId placed ((Proc.withSession (brokerExecution env id s)).exec st).current ∧
    PollsLoseNothing senv st.current.nextId polls ((Proc.withSession (brokerExecution env id s)).exec st)

/-! ## The condition -/

/-- A report that states the shares booked before, or a fill that can be booked to the share. -/
def BooksAll (shares : ℚ) (r : BrokerOrderResult) : Prop :=
  r.filledQuantity = shares ∨ BooksFill shares r ∧ OnGrid 8 (r.filledQuantity - shares)

/-- The first final poll books all it states. -/
def PollsBookAll : OrderTally → List BrokerOrderResult → Prop
  | _, [] => True
  | t, r :: rs => if IsFinal r then BooksAll t.shares r else PollsBookAll (t.poll r) rs

/-- The order is placed with a known word, and the first final report of its life books all it states. -/
def BooksEverything (placed : BrokerOrderResult) (polls : List BrokerOrderResult) : Prop :=
  knownOrderStatus placed.status ≠ none ∧
    if IsFinal placed then BooksAll 0 placed else PollsBookAll (OrderTally.empty.book placed) polls

/-- Booking brings the shares up to the report exactly when the report can be booked in full. -/
theorem book_shares_iff : (t.book r).shares = r.filledQuantity ↔ BooksAll t.shares r := by
  unfold OrderTally.book BooksAll
  by_cases hbooks : BooksFill t.shares r
  · rw [if_pos hbooks]
    dsimp only
    constructor
    · intro h
      refine .inr ⟨hbooks, ?_⟩
      have hδ : r.filledQuantity - t.shares = (numeric 8 (r.filledQuantity - t.shares)).val := by linarith
      rw [hδ]
      exact (numeric 8 _).onGrid
    · rintro (heq | ⟨-, hgrid⟩)
      · exact absurd hbooks.1 (by rw [heq]; exact lt_irrefl _)
      · rw [numeric_val_of_onGrid hgrid]; ring
  · rw [if_neg hbooks]
    exact ⟨fun h => .inl h.symm, fun h => h.elim Eq.symm fun hb => absurd hb.1 hbooks⟩

/-! ## Polls -/

variable {senv : SyncEnv} {st : Store Db BrokerBook} {polls : List BrokerOrderResult}

theorem pollReport_exec (h : Tracks orderId side status t cash st.current) (hworks : ∀ o, senv.fault o = none)
    (r : BrokerOrderResult) : Tracks orderId side (pollStatus status r) (t.poll r) cash
      ((Proc.withSession (persistOrderSync senv orderId r)).exec st).current :=
  Proc.exec_of_wp (P := fun st' => Tracks orderId side (pollStatus status r) (t.poll r) cash st'.current)
    (Proc.wp_mono (pollReport_tracks h hworks) (fun _ _ h' => h') fun _ _ hfalse => hfalse.elim)

/-- After a final report nothing is lost exactly when the report was booked in full. -/
theorem nothingLost_of_final (h : Tracks orderId side status t cash db) (hleft : status ≠ .submitted)
    (hfinal : IsFinal r) : NothingLost orderId r db ↔ t.shares = r.filledQuantity := by
  unfold NothingLost
  rw [h.polls_iff, h.shares]
  exact ⟨fun hor => (hor.resolve_left hleft).2, fun heq => .inr ⟨hfinal, heq⟩⟩

/-- An order that is not polled loses nothing more. -/
theorem pollsLoseNothing_of_left (h : ¬ st.current.Polls orderId) : PollsLoseNothing senv orderId polls st := by
  cases polls with
  | nil => trivial
  | cons r rs => exact fun hpolls => absurd hpolls h

/-- **The polls of an open order lose nothing exactly when the first final one books all it states.** -/
theorem pollsLoseNothing_iff (h : Tracks orderId side .submitted t cash st.current)
    (hworks : ∀ o, senv.fault o = none) : PollsLoseNothing senv orderId polls st ↔ PollsBookAll t polls := by
  -- by induction on the polls: the first final one decides
  induction polls generalizing st t with
  | nil => exact Iff.rfl
  | cons r rs ih =>
      have hpolled : st.current.Polls orderId := h.polls_iff.mpr rfl
      have hnext := pollReport_exec h hworks r
      unfold PollsLoseNothing PollsBookAll
      rw [forall_prop_of_true hpolled]
      by_cases hfinal : IsFinal r
      · obtain ⟨s, hs, hne⟩ := known_of_final hfinal
        have hstatus : pollStatus .submitted r = s := by unfold pollStatus; rw [hs]; rfl
        have htally : t.poll r = t.book r := by unfold OrderTally.poll; rw [hs]; rfl
        rw [hstatus, htally] at hnext
        rw [if_pos hfinal, nothingLost_of_final hnext hne hfinal, book_shares_iff]
        exact and_iff_left (pollsLoseNothing_of_left fun hp => hne (hnext.polls_iff.mp hp))
      · have hstatus : pollStatus .submitted r = .submitted := by
          unfold pollStatus
          rcases known_of_not_final hfinal with hs | hs <;> rw [hs] <;> rfl
        rw [hstatus] at hnext
        rw [if_neg hfinal, ih hnext]
        exact and_iff_right (.inl (hnext.polls_iff.mpr rfl))

/-! ## The life of an order -/

variable {env : StepEnv} {id : ℕ} {s : Submission} {placed : BrokerOrderResult}

theorem placement_exec (h : LifeStart env id s placed st.current) : Tracks st.current.nextId placed.side
    (PaperExecutionProvider.mapOrderStatus placed.status) (OrderTally.empty.book placed) st.current.cash
    ((Proc.withSession (brokerExecution env id s)).exec st).current :=
  Proc.exec_of_wp (P := fun st' => Tracks st.current.nextId placed.side _ _ st.current.cash st'.current)
    (Proc.wp_mono (placement_tracks h) (fun _ _ h' => h') fun _ _ hfalse => hfalse.elim)

/-- **No fill of an order is lost**, and it leaves the polls on a final report only, exactly when it is
    placed with a known status word and the first final report can be booked in full. -/
theorem loses_nothing_iff (h : LifeStart env id s placed st.current) (hworks : ∀ o, senv.fault o = none) :
    LifeLosesNothing env senv id s placed polls st ↔ BooksEverything placed polls := by
  have hplaced := placement_exec h
  unfold LifeLosesNothing BooksEverything
  by_cases hfinal : IsFinal placed
  · obtain ⟨s, hs, hne⟩ := known_of_final hfinal
    have hstatus : PaperExecutionProvider.mapOrderStatus placed.status = s := by
      unfold PaperExecutionProvider.mapOrderStatus; rw [hs]; rfl
    rw [hstatus] at hplaced
    rw [if_pos hfinal, nothingLost_of_final hplaced hne hfinal, book_shares_iff,
      and_iff_left (pollsLoseNothing_of_left fun hp => hne (hplaced.polls_iff.mp hp)), hs]
    exact (and_iff_right nofun).symm
  · rw [if_neg hfinal]
    rcases known_of_not_final hfinal with hs | hs
    · -- an unknown word fails the order as it is placed
      have hstatus : PaperExecutionProvider.mapOrderStatus placed.status = .failed := by
        unfold PaperExecutionProvider.mapOrderStatus; rw [hs]; rfl
      rw [hstatus] at hplaced
      refine ⟨fun hlost => ?_, fun hbooks => absurd hs hbooks.1⟩
      rcases hlost.1 with hpolls | ⟨hf, -⟩
      · exact absurd (hplaced.polls_iff.mp hpolls) (by decide)
      · exact absurd hf hfinal
    · have hstatus : PaperExecutionProvider.mapOrderStatus placed.status = .submitted := by
        unfold PaperExecutionProvider.mapOrderStatus; rw [hs]; rfl
      rw [hstatus] at hplaced
      rw [pollsLoseNothing_iff hplaced hworks, hs]
      exact and_congr_left' ⟨fun _ => nofun, fun _ => .inl (hplaced.polls_iff.mpr rfl)⟩

/-! ## An order that is dropped, and one that is not -/

instance (db : Db) (orderId : ℕ) : Decidable (db.Polls orderId) :=
  inferInstanceAs (Decidable (∃ o ∈ db.listOpenPaperOrders, o.id = orderId))

instance (orderId : ℕ) (r : BrokerOrderResult) (db : Db) : Decidable (NothingLost orderId r db) :=
  inferInstanceAs (Decidable (db.Polls orderId ∨ IsFinal r ∧ filledOf db.fills orderId = r.filledQuantity))

/-- **A word the placing transaction does not know**: the broker holds the order, and it is never polled. -/
theorem unknown_word_not_polled :
    ¬ ∀ (env : StepEnv) (senv : SyncEnv) (id : ℕ) (s : Submission) (placed : BrokerOrderResult)
        (polls : List BrokerOrderResult) (st : Store Db BrokerBook),
      LifeStart env id s placed st.current → (∀ o, senv.fault o = none) →
      ((placed :: polls).map OrderReport.filledQuantity).Pairwise (· ≤ ·) →
      (∀ x ∈ placed :: polls, x.filledQuantity ≤ placed.quantity) →
        LifeLosesNothing env senv id s placed polls st := by
  intro h
  have hlost := (h (smallEnv 100 fun _ => .ok (fillReport "held" 0 100)) workingSync 1 tenShares
    (fillReport "held" 0 100) [] tenSharesStore (tenShares_start _) (fun _ => rfl) (by decide +kernel)
    (by decide +kernel)).1
  revert hlost
  decide +kernel

/-- **A final report without a price**: five more shares are sold and no trade says so. -/
theorem unpriced_fill_lost :
    ¬ NothingLost 2 { fillReport "filled" 10 100 with averageFillPrice := none }
      ((orderLife (smallEnv 100 fun _ => .ok (fillReport "partially_filled" 5 100)) workingSync 1 tenShares 2
        [{ fillReport "filled" 10 100 with averageFillPrice := none }]).exec tenSharesStore).current := by
  decide +kernel

/-- An order that fills in two priced reports is booked in full before it is dropped. -/
theorem priced_fills_kept :
    LifeLosesNothing (smallEnv 100 fun _ => .ok (fillReport "partially_filled" 5 100)) workingSync 1 tenShares
      (fillReport "partially_filled" 5 100) [fillReport "FILLED" 10 100] tenSharesStore := by
  refine (loses_nothing_iff (tenShares_start _) fun _ => rfl).mpr ⟨by decide, ?_⟩
  rw [if_neg (by decide)]
  unfold PollsBookAll
  rw [if_pos (by decide)]
  exact .inr ⟨by decide +kernel, by decide +kernel⟩

end TradingAI
