import TradingAI.Correctness.OpeningRangePaths
import TradingAI.Execution.StepSnapshots
import TradingAI.Lib.Chronology

/-!
# `Correctness.SnapshotOrder` — when snapshots are read back in execution order

Snapshots are listed by `timestamp, id`, and the drawdown of a step and the latest metrics depend on that
order. Keys and sequence numbers grow with every step, so the snapshots are in execution order exactly when
no step stamps its snapshots with a time before the stamp of an earlier one. The stamps of one strategy come
from two clocks, and a bar starts before the order of the step before it was recorded.
-/

namespace TradingAI

open Session Chronology Outcome BasicMetricCalculator

/-! ## Execution order -/

/-- The sequence number of a step; 0 if there is no such step. -/
def Db.sequenceOf (db : Db) (executionStepId : ℕ) : ℕ :=
  (db.getStep executionStepId).elim 0 ExecutionStep.sequenceNumber

/-- The portfolio snapshots of the steps up to the given one, in the order of the steps. -/
def Db.snapshotsThrough (db : Db) (executionStepId : ℕ) : List PortfolioSnapshot :=
  (db.portfolioSnapshots.filter fun s =>
      db.sequenceOf s.executionStepId ≤ db.sequenceOf executionStepId).insertionSort fun a b =>
    db.sequenceOf a.executionStepId ≤ db.sequenceOf b.executionStepId

/-- **Snapshots are read back in execution order**: the list is in the order of the steps, each drawdown is over
    the values in the order of the steps, and the latest metrics are those of the last step that has any. -/
structure SnapshotsInOrder (db : Db) : Prop where
  listed   : (db.listPortfolioSnapshots.map fun s => db.sequenceOf s.executionStepId).Pairwise (· < ·)
  drawdown : ∀ m ∈ db.metricSnapshots,
    m.maxDrawdown = numeric 8 (maxDrawdown (portfolioValues (db.snapshotsThrough m.executionStepId)))
  latest   : ∀ m ∈ db.metricSnapshots, ∃ l ∈ db.latestMetricSnapshot,
    db.sequenceOf m.executionStepId ≤ db.sequenceOf l.executionStepId

/-! ## How snapshots are recorded -/

/-- **What every run keeps**: numbers grow with keys, and the snapshots of later steps come later. -/
structure SnapshotsRecorded (t : SnapshotTables) (nextId : ℕ) : Prop where
  steps     : ∀ x ∈ t.stepNumbers, ∀ y ∈ t.stepNumbers, (x.1 < y.1 → x.2 < y.2) ∧ (x.1 = y.1 → x.2 = y.2)
  portfolio : t.portfolioSnapshots.Pairwise fun a b => a.id < b.id ∧ a.executionStepId < b.executionStepId
  metrics   : t.metricSnapshots.Pairwise fun a b => a.id < b.id ∧ a.executionStepId < b.executionStepId
  keys      : (∀ p ∈ t.portfolioSnapshots, p.id < nextId) ∧ ∀ m ∈ t.metricSnapshots, m.id < nextId
  paired    : t.metricSnapshots.map (fun m => (m.executionStepId, m.timestamp)) =
    t.portfolioSnapshots.map fun p => (p.executionStepId, p.timestamp)
  owned     : ∀ p ∈ t.portfolioSnapshots, p.executionStepId ∈ t.stepNumbers.map Prod.fst

/-- `SnapshotsInOrder`, on the rows in the order they were written. -/
structure Chronological (t : SnapshotTables) : Prop where
  stamps   : Ascending PortfolioSnapshot.timestamp t.portfolioSnapshots
  drawdown : ∀ m ∈ t.metricSnapshots, m.maxDrawdown = numeric 8 (maxDrawdown
    (portfolioValues (t.portfolioSnapshots.filter (·.executionStepId ≤ m.executionStepId))))

section
variable {db db' : Db} {t : SnapshotTables} {n : ℕ}

/-- Every metric snapshot belongs to the step of a portfolio snapshot. -/
theorem SnapshotsRecorded.metric_owned (h : SnapshotsRecorded t n) {m : MetricSnapshot} (hm : m ∈ t.metricSnapshots) :
    ∃ p ∈ t.portfolioSnapshots, p.executionStepId = m.executionStepId ∧ p.timestamp = m.timestamp := by
  have hpair : (m.executionStepId, m.timestamp) ∈
      t.portfolioSnapshots.map fun p => (p.executionStepId, p.timestamp) := by
    rw [← h.paired]
    exact List.mem_map_of_mem hm
  obtain ⟨p, hp, heq⟩ := List.mem_map.mp hpair
  obtain ⟨hstep, hstamp⟩ := Prod.mk.inj heq
  exact ⟨p, hp, hstep, hstamp⟩

theorem SnapshotsRecorded.metric_stamps (h : SnapshotsRecorded t n)
    (hstamps : Ascending PortfolioSnapshot.timestamp t.portfolioSnapshots) :
    Ascending MetricSnapshot.timestamp t.metricSnapshots := by
  have hsame : t.metricSnapshots.map MetricSnapshot.timestamp =
      t.portfolioSnapshots.map PortfolioSnapshot.timestamp := by
    have := congrArg (List.map Prod.snd) h.paired
    rwa [List.map_map, List.map_map] at this
  unfold Ascending at hstamps ⊢
  rw [← List.pairwise_map (f := MetricSnapshot.timestamp) (R := (· ≤ ·)), hsame, List.pairwise_map]
  exact hstamps

/-- The number of a step is the one in the tables. -/
theorem sequenceOf_eq (h : SnapshotsRecorded db.snapshotTables n) {x : ℕ × ℕ}
    (hx : x ∈ db.snapshotTables.stepNumbers) : db.sequenceOf x.1 = x.2 := by
  obtain ⟨s, hs, rfl⟩ := List.mem_map.mp hx
  show (db.getStep s.id).elim 0 ExecutionStep.sequenceNumber = s.sequenceNumber
  cases hfind : db.getStep s.id with
  | none =>
      have := List.find?_eq_none.mp hfind s hs
      simp at this
  | some s' =>
      have hs' : s' ∈ db.steps := List.mem_of_find?_eq_some hfind
      have hid : s'.id = s.id := by simpa using List.find?_some hfind
      have hx' : (s'.id, s'.sequenceNumber) ∈ db.snapshotTables.stepNumbers := List.mem_map_of_mem hs'
      exact (h.steps _ hx' _ hx).2 hid

/-- Of two steps, the one with the smaller key has the smaller number. -/
theorem sequenceOf_lt_iff (h : SnapshotsRecorded db.snapshotTables n) {i j : ℕ}
    (hi : i ∈ db.snapshotTables.stepNumbers.map Prod.fst) (hj : j ∈ db.snapshotTables.stepNumbers.map Prod.fst) :
    db.sequenceOf i < db.sequenceOf j ↔ i < j := by
  obtain ⟨x, hx, rfl⟩ := List.mem_map.mp hi
  obtain ⟨y, hy, rfl⟩ := List.mem_map.mp hj
  rw [sequenceOf_eq h hx, sequenceOf_eq h hy]
  have hxy := h.steps x hx y hy
  have hyx := h.steps y hy x hx
  omega

/-- Sorting and filtering by the numbers of the steps is filtering by their keys. -/
theorem snapshotsThrough_eq (h : SnapshotsRecorded db.snapshotTables n) {i : ℕ}
    (hi : i ∈ db.snapshotTables.stepNumbers.map Prod.fst) :
    db.snapshotsThrough i = db.portfolioSnapshots.filter (·.executionStepId ≤ i) := by
  have hfilter : (db.portfolioSnapshots.filter fun s => db.sequenceOf s.executionStepId ≤ db.sequenceOf i) =
      db.portfolioSnapshots.filter (·.executionStepId ≤ i) := by
    apply List.filter_congr
    intro p hp
    have := sequenceOf_lt_iff h hi (h.owned p hp)
    simp only [decide_eq_decide]
    omega
  unfold Db.snapshotsThrough
  rw [hfilter]
  refine List.Pairwise.insertionSort_eq ((List.Pairwise.filter _ h.portfolio).imp_of_mem ?_)
  intro a b ha hb hab
  exact ((sequenceOf_lt_iff h (h.owned a (List.mem_of_mem_filter ha)) (h.owned b (List.mem_of_mem_filter hb))).mpr
    hab.2).le

/-- **Reading back**: on recorded snapshots the queries follow the order of the steps exactly when the rows, as
    they were written, are chronological. -/
theorem snapshotsInOrder_iff (h : SnapshotsRecorded db.snapshotTables n) :
    SnapshotsInOrder db ↔ Chronological db.snapshotTables := by
  have hkeys : db.portfolioSnapshots.Pairwise fun a b => a.id < b.id := h.portfolio.imp And.left
  have hnumbers : db.portfolioSnapshots.Pairwise fun a b =>
      db.sequenceOf a.executionStepId < db.sequenceOf b.executionStepId := by
    refine h.portfolio.imp_of_mem fun {a b} ha hb hab => ?_
    exact (sequenceOf_lt_iff h (h.owned a ha) (h.owned b hb)).mpr hab.2
  have howned : ∀ m ∈ db.metricSnapshots, m.executionStepId ∈ db.snapshotTables.stepNumbers.map Prod.fst := by
    intro m hm
    obtain ⟨p, hp, hstep, -⟩ := h.metric_owned hm
    rw [← hstep]
    exact h.owned p hp
  have hlisted : (db.listPortfolioSnapshots.map fun s => db.sequenceOf s.executionStepId).Pairwise (· < ·) ↔
      Ascending PortfolioSnapshot.timestamp db.portfolioSnapshots := numbers_grow_iff hkeys hnumbers
  constructor
  · intro hin
    refine ⟨hlisted.mp hin.listed, fun m hm => ?_⟩
    rw [hin.drawdown m hm, snapshotsThrough_eq h (howned m hm)]
    rfl
  · intro hch
    refine ⟨hlisted.mpr hch.stamps, fun m hm => ?_, fun m hm => ?_⟩
    · rw [snapshotsThrough_eq h (howned m hm)]
      exact hch.drawdown m hm
    · have hlatest : db.latestMetricSnapshot = db.metricSnapshots.getLast? :=
        head?_newest_first (h.metrics.imp And.left) (h.metric_stamps hch.stamps)
      rw [hlatest]
      apply le_number_last (fun m => db.sequenceOf m.executionStepId) _ hm
      refine h.metrics.imp_of_mem fun {a b} ha hb hab => ?_
      exact (sequenceOf_lt_iff h (howned a ha) (howned b hb)).mpr hab.2

/-! ## One step -/

theorem SnapshotsRecorded.kept (h : SnapshotsRecorded db.snapshotTables db.nextId) (hkept : SnapshotsKept db db') :
    SnapshotsRecorded db'.snapshotTables db'.nextId := by
  rw [hkept.tables]
  exact ⟨h.steps, h.portfolio, h.metrics, ⟨fun p hp => (h.keys.1 p hp).trans_le hkept.nextId,
    fun m hm => (h.keys.2 m hm).trans_le hkept.nextId⟩, h.paired, h.owned⟩

theorem SnapshotsRecorded.addNextStep (h : SnapshotsRecorded db.snapshotTables db.nextId) (hkeys : db.WellKeyed)
    (triggerType : TriggerType) (slot now : DateTime) :
    SnapshotsRecorded (db.addNextStep triggerType slot now).snapshotTables
      (db.addNextStep triggerType slot now).nextId := by
  have hnumbers : (db.addNextStep triggerType slot now).snapshotTables.stepNumbers =
      db.snapshotTables.stepNumbers ++ [(db.nextId, db.maxSequenceNumber + 1)] := List.map_append
  -- the new step comes after all others, by key and by number
  have hold : ∀ x ∈ db.snapshotTables.stepNumbers, x.1 < db.nextId ∧ x.2 < db.maxSequenceNumber + 1 := by
    intro x hx
    obtain ⟨s, hs, rfl⟩ := List.mem_map.mp hx
    exact ⟨hkeys.steps s hs, Nat.lt_succ_of_le (Db.sequenceNumber_le_max hs)⟩
  refine ⟨?_, h.portfolio, h.metrics, ⟨fun p hp => (h.keys.1 p hp).trans (Nat.lt_succ_self _),
    fun m hm => (h.keys.2 m hm).trans (Nat.lt_succ_self _)⟩, h.paired, fun p hp => ?_⟩
  · rw [hnumbers]
    intro x hx y hy
    rcases List.mem_append.mp hx with hx | hx <;> rcases List.mem_append.mp hy with hy | hy
    · exact h.steps x hx y hy
    · have := hold x hx
      rw [List.mem_singleton.mp hy]
      dsimp only
      omega
    · have := hold y hy
      rw [List.mem_singleton.mp hx]
      dsimp only
      omega
    · rw [List.mem_singleton.mp hx, List.mem_singleton.mp hy]
      dsimp only
      omega
  · rw [hnumbers, List.map_append]
    exact List.mem_append_left _ (h.owned p hp)

/-- The newest step: every snapshot is of an older one. -/
structure IsNewestStep (t : SnapshotTables) (id : ℕ) : Prop where
  mem   : id ∈ t.stepNumbers.map Prod.fst
  older : ∀ p ∈ t.portfolioSnapshots, p.executionStepId < id

theorem isNewestStep_created (h : SnapshotsRecorded db.snapshotTables db.nextId) (hkeys : db.WellKeyed)
    (triggerType : TriggerType) (slot now : DateTime) :
    IsNewestStep (db.addNextStep triggerType slot now).snapshotTables db.nextId := by
  constructor
  · rw [show (db.addNextStep triggerType slot now).snapshotTables.stepNumbers =
      db.snapshotTables.stepNumbers ++ [(db.nextId, db.maxSequenceNumber + 1)] from List.map_append, List.map_append]
    exact List.mem_append_right _ (List.mem_singleton_self _)
  · intro p hp
    obtain ⟨x, hx, hstep⟩ := List.mem_map.mp (h.owned p hp)
    obtain ⟨s, hs, rfl⟩ := List.mem_map.mp hx
    rw [← hstep]
    exact hkeys.steps s hs

variable {id : ℕ} {stamp : DateTime} {p : PortfolioSnapshot} {m : MetricSnapshot}

theorem SnapshotsRecorded.metric_older (h : SnapshotsRecorded t n) (hid : IsNewestStep t id) :
    ∀ m ∈ t.metricSnapshots, m.executionStepId < id := by
  intro m hm
  obtain ⟨p, hp, hstep, -⟩ := h.metric_owned hm
  rw [← hstep]
  exact hid.older p hp

theorem SnapshotsRecorded.taken (h : SnapshotsRecorded db.snapshotTables db.nextId)
    (hid : IsNewestStep db.snapshotTables id) (htaken : SnapshotTaken id stamp p m db db') :
    SnapshotsRecorded db'.snapshotTables db'.nextId := by
  obtain ⟨hlow, hhigh, hlow', hhigh'⟩ := htaken.keys
  obtain ⟨hpstep, hmstep⟩ := htaken.step
  obtain ⟨hpstamp, hmstamp⟩ := htaken.stamp
  rw [htaken.tables]
  refine ⟨h.steps, ?_, ?_, ⟨?_, ?_⟩, ?_, ?_⟩
  · refine List.pairwise_append.mpr ⟨h.portfolio, List.pairwise_singleton _ _, fun a ha b hb => ?_⟩
    rw [List.mem_singleton.mp hb, hpstep]
    exact ⟨(h.keys.1 a ha).trans_le hlow, hid.older a ha⟩
  · refine List.pairwise_append.mpr ⟨h.metrics, List.pairwise_singleton _ _, fun a ha b hb => ?_⟩
    rw [List.mem_singleton.mp hb, hmstep]
    exact ⟨(h.keys.2 a ha).trans_le hlow', h.metric_older hid a ha⟩
  · intro q hq
    rcases List.mem_append.mp hq with hq | hq
    · exact ((h.keys.1 q hq).trans_le hlow).trans hhigh
    · rw [List.mem_singleton.mp hq]
      exact hhigh
  · intro q hq
    rcases List.mem_append.mp hq with hq | hq
    · exact ((h.keys.2 q hq).trans_le hlow').trans hhigh'
    · rw [List.mem_singleton.mp hq]
      exact hhigh'
  · show (db.metricSnapshots ++ [m]).map _ = (db.portfolioSnapshots ++ [p]).map _
    rw [List.map_append, List.map_append, show db.metricSnapshots.map _ = db.portfolioSnapshots.map _ from h.paired]
    simp only [List.map_cons, List.map_nil, hpstep, hmstep, hpstamp, hmstamp]
  · intro q hq
    rcases List.mem_append.mp hq with hq | hq
    · exact h.owned q hq
    · rw [List.mem_singleton.mp hq, hpstep]
      exact hid.mem

/-- **One step**: chronological snapshots stay so exactly if the new stamp is not before an old one. -/
theorem chronological_taken_iff (h : SnapshotsRecorded db.snapshotTables db.nextId)
    (hid : IsNewestStep db.snapshotTables id) (htaken : SnapshotTaken id stamp p m db db')
    (hch : Chronological db.snapshotTables) :
    Chronological db'.snapshotTables ↔ ∀ s ∈ db.portfolioSnapshots, s.timestamp ≤ stamp := by
  obtain ⟨hpstep, hmstep⟩ := htaken.step
  rw [htaken.tables, ← htaken.stamp.1]
  constructor
  · exact fun hch' => (Ascending.append_singleton.mp hch'.stamps).2
  · intro hstamps
    refine ⟨Ascending.append_singleton.mpr ⟨hch.stamps, hstamps⟩, fun m' hm' => ?_⟩
    show m'.maxDrawdown = numeric 8 (maxDrawdown (portfolioValues
      ((db.portfolioSnapshots ++ [p]).filter (·.executionStepId ≤ m'.executionStepId))))
    rcases List.mem_append.mp hm' with hm' | hm'
    · -- an older step has none of the new rows behind it
      have hlt := h.metric_older hid m' hm'
      have hnone : [p].filter (·.executionStepId ≤ m'.executionStepId) = [] := by
        apply List.filter_eq_nil_iff.mpr
        intro q hq
        rw [List.mem_singleton.mp hq, hpstep, decide_eq_true_eq]
        omega
      rw [List.filter_append, hnone, List.append_nil]
      exact hch.drawdown m' hm'
    · rw [List.mem_singleton.mp hm']
      have hall : (db.portfolioSnapshots ++ [p]).filter (·.executionStepId ≤ m.executionStepId) =
          db.portfolioSnapshots ++ [p] := by
        apply List.filter_eq_self.mpr
        intro q hq
        rcases List.mem_append.mp hq with hq | hq
        · have := hid.older q hq
          simp only [decide_eq_true_eq]
          omega
        · rw [List.mem_singleton.mp hq, hpstep, hmstep]
          simp
      have hlist : db.listPortfolioSnapshots = db.portfolioSnapshots :=
        sort_eq (h.portfolio.imp And.left) hch.stamps
      rw [hall, htaken.drawdown, hlist]

end

/-! ## Runs -/

/-- The snapshots of a step are not stamped with a time before the stamp of a snapshot that is there. -/
def StampInOrder (env : StepEnv) (eventId : Option ℕ) (executionStepId : ℕ) (db : Db) : Prop :=
  ∀ stamp, snapshotStamp env db executionStepId eventId = .ok stamp →
    ∀ s ∈ db.portfolioSnapshots, s.timestamp ≤ stamp

/-- The condition on a call: every step it creates stamps in order. -/
def StampsInOrder : PaperCall → Store Db BrokerBook → Prop :=
  CallMeets StampInOrder fun _ _ _ => True

/-- The environment of a call that runs a step. -/
def PaperCall.env : PaperCall → Option StepEnv
  | .nextStep env _ _  => some env
  | .eventStep env _ _ => some env
  | .sync _            => none

/-- What the stores of a run keep, whatever it stamps. -/
structure SnapshotRun (st : Store Db BrokerBook) : Prop where
  keyed    : st.Keeps (Keyed fun _ => True)
  recorded : st.Keeps fun db => SnapshotsRecorded db.snapshotTables db.nextId

section
variable {st : Store Db BrokerBook} {c : PaperCall}

/-- A condition on the created step alone is met if every step the call can create meets it. -/
theorem callMeets_of_steps {step : StepEnv → Option ℕ → ℕ → Db → Prop}
    (h : ∀ env eventId triggerType slot, c.env = some env →
      step env eventId st.current.nextId (st.current.addNextStep triggerType slot env.createdAt)) :
    CallMeets step (fun _ _ _ => True) c st := by
  cases c with
  | nextStep env triggerType scheduledFor => exact fun _ => h env none _ _ rfl
  | eventStep env event scheduledFor => exact fun _ => h env (some event) _ _ rfl
  | sync env => exact PollsMeet.of_forall fun _ _ _ _ _ => trivial

theorem callMeets_true : CallMeets (fun _ _ _ _ => True) (fun _ _ _ => True) c st :=
  callMeets_of_steps fun _ _ _ _ _ => trivial

theorem SnapshotRun.call (h : SnapshotRun st) : SnapshotRun (c.exec st) := by
  constructor
  · refine call_keeps h.keyed (fun _ _ _ _ _ => trivial) ?_ (fun _ _ _ _ => trivial)
      (fun _ _ _ _ _ _ _ _ _ _ _ _ => trivial) callMeets_true
    exact fun _ _ _ _ _ _ _ _ => ⟨trivial, fun _ _ _ _ => trivial, fun _ _ _ _ => trivial,
      fun _ _ _ _ _ _ _ _ _ => trivial⟩
  · refine call_keeps_snapshots h.keyed.1.1 h.recorded (fun db db' hkept hdb => hdb.kept hkept) ?_ ?_ callMeets_true
    · exact fun triggerType slot now => h.recorded.1.addNextStep h.keyed.1.1 triggerType slot now
    · rintro env eventId triggerType slot stamp db' - - ⟨p, m, htaken⟩
      have hnew := h.recorded.1.addNextStep h.keyed.1.1 triggerType slot env.createdAt
      exact hnew.taken (isNewestStep_created h.recorded.1 h.keyed.1.1 _ _ _) htaken

/-- **One call**: chronological snapshots stay so exactly if the call stamps in order. -/
theorem chronological_call_iff (h : SnapshotRun st) (hch : st.Keeps fun db => Chronological db.snapshotTables) :
    (c.exec st).Keeps (fun db => Chronological db.snapshotTables) ↔ StampsInOrder c st := by
  have hstep : ∀ {triggerType slot now stamp db'},
      TakesSnapshots st.current.nextId stamp (st.current.addNextStep triggerType slot now) db' →
      (Chronological db'.snapshotTables ↔ ∀ s ∈ st.current.portfolioSnapshots, s.timestamp ≤ stamp) := by
    rintro triggerType slot now stamp db' ⟨p, m, htaken⟩
    have hnew := h.recorded.1.addNextStep h.keyed.1.1 triggerType slot now
    have hiff := chronological_taken_iff hnew (isNewestStep_created h.recorded.1 h.keyed.1.1 _ _ _) htaken
      ⟨hch.1.stamps, hch.1.drawdown⟩
    exact hiff
  constructor
  · intro hafter
    cases c with
    | nextStep env triggerType scheduledFor =>
        intro hallowed stamp hstamp
        exact (hstep (((nextStep_snapshots h.keyed.1.1).created hallowed).taken stamp hstamp)).mp hafter.1
    | eventStep env event scheduledFor =>
        intro hallowed stamp hstamp
        exact (hstep (((eventStep_snapshots h.keyed.1.1).created hallowed).taken stamp hstamp)).mp hafter.1
    | sync env => exact PollsMeet.of_forall fun _ _ _ _ _ => trivial
  · intro hok
    refine call_keeps_snapshots h.keyed.1.1 hch (fun db db' hkept hdb => ?_) ?_ ?_ hok
    · show Chronological db'.snapshotTables
      rw [hkept.tables]
      exact hdb
    · exact fun _ _ _ => ⟨hch.1.stamps, hch.1.drawdown⟩
    · exact fun env eventId triggerType slot stamp db' hmeets hstamp htaken => (hstep htaken).mpr (hmeets stamp hstamp)

theorem SnapshotRun.inOrder_iff (h : SnapshotRun st) :
    st.Keeps SnapshotsInOrder ↔ st.Keeps fun db => Chronological db.snapshotTables := by
  constructor
  · exact fun hin => ⟨(snapshotsInOrder_iff h.recorded.1).mp hin.1,
      fun db hdb => (snapshotsInOrder_iff (h.recorded.2 db hdb)).mp (hin.2 db hdb)⟩
  · exact fun hch => ⟨(snapshotsInOrder_iff h.recorded.1).mpr hch.1,
      fun db hdb => (snapshotsInOrder_iff (h.recorded.2 db hdb)).mpr (hch.2 db hdb)⟩

end

/-- **An experiment before its first step**: it opens flat, and no snapshot was taken. -/
structure OpensWithoutSnapshots (db : Db) : Prop where
  flat               : OpensFlat db
  portfolioSnapshots : db.portfolioSnapshots = []
  metricSnapshots    : db.metricSnapshots = []

theorem OpensWithoutSnapshots.recorded {db : Db} (h : OpensWithoutSnapshots db) :
    SnapshotsRecorded db.snapshotTables db.nextId := by
  have hsteps : db.snapshotTables.stepNumbers = [] := by
    show db.steps.map _ = []
    rw [h.flat.steps]
    rfl
  have hportfolio : db.snapshotTables.portfolioSnapshots = [] := h.portfolioSnapshots
  have hmetrics : db.snapshotTables.metricSnapshots = [] := h.metricSnapshots
  refine ⟨?_, ?_, ?_, ⟨?_, ?_⟩, ?_, ?_⟩
  · simp [hsteps]
  · simp [hportfolio]
  · simp [hmetrics]
  · simp [hportfolio]
  · simp [hmetrics]
  · simp [hportfolio, hmetrics]
  · simp [hportfolio]

theorem OpensWithoutSnapshots.run {db : Db} (h : OpensWithoutSnapshots db) : SnapshotRun (Store.opened db {}) :=
  ⟨.opened ⟨h.flat.wellKeyed, trivial⟩, .opened h.recorded⟩

/-! ## Rules on one clock -/

/-- The clocks a call reads, in the order it reads them. -/
def PaperCall.clocks : PaperCall → List DateTime
  | .nextStep env _ _  => [env.createdAt, env.startedAt, env.executedAt]
  | .eventStep env _ _ => [env.createdAt, env.startedAt, env.executedAt]
  | .sync env          => [env.now]

/-- The calls of a run are made one after another, in increasing real time. -/
def InRealTime (calls : List PaperCall) : Prop := (calls.flatMap PaperCall.clocks).Pairwise (· < ·)

instance (calls : List PaperCall) : Decidable (InRealTime calls) :=
  inferInstanceAs (Decidable (List.Pairwise _ _))

/-- The experiment runs a daily rule or the smoke test, which read no clock but their own. -/
def OnOwnClock (db : Db) : Prop :=
  ∀ e, db.experiment = some e → e.strategyType ≠ .openingRangeBreakout ∧ e.strategyType ≠ .agenticAi

section
variable {db : Db} {st : Store Db BrokerBook} {c : PaperCall}

/-- On its own clock a step stamps with its start, or with the record of its order. -/
theorem snapshotStamp_onOwnClock {env : StepEnv} {id : ℕ} {eventId : Option ℕ} {stamp : DateTime}
    (hown : OnOwnClock db) (h : snapshotStamp env db id eventId = .ok stamp) :
    stamp = env.startedAt ∨ stamp = env.executedAt := by
  obtain ⟨_, -, h⟩ := ok_of_bind h
  obtain ⟨report, -, h⟩ := ok_of_bind h
  cases report with
  | some r =>
      cases h
      exact .inr rfl
  | none =>
      obtain ⟨strategyType, hstrategy, h⟩ := ok_of_bind h
      obtain ⟨_, -, hstrategy⟩ := ok_of_bind hstrategy
      cases hexp : db.experiment with
      | none => simp [hexp] at hstrategy
      | some e =>
          obtain ⟨horb, hagent⟩ := hown e hexp
          simp only [hexp, Option.map_some] at hstrategy
          cases hstrategy
          cases htype : e.strategyType with
          | openingRangeBreakout => exact (horb htype).elim
          | agenticAi => exact (hagent htype).elim
          | buyAndHold | movingAverage | paperTradingSmokeTest =>
              rw [htype] at h
              cases h
              exact .inl rfl

theorem stamp_mem_clocks {env : StepEnv} {id : ℕ} {eventId : Option ℕ} {stamp : DateTime} (henv : c.env = some env)
    (hown : OnOwnClock db) (h : snapshotStamp env db id eventId = .ok stamp) : stamp ∈ c.clocks := by
  have hclocks : c.clocks = [env.createdAt, env.startedAt, env.executedAt] := by
    cases c <;> cases henv <;> rfl
  rw [hclocks]
  rcases snapshotStamp_onOwnClock hown h with rfl | rfl
  · simp
  · simp

/-- No call changes the strategy. -/
theorem onOwnClock_call (h : st.Keeps (Keyed OnOwnClock)) : (c.exec st).Keeps (Keyed OnOwnClock) := by
  have hsame : ∀ {db db' : Db}, OnOwnClock db → db'.experiment = db.experiment → OnOwnClock db' := by
    intro db db' hown heq e he
    exact hown e (heq ▸ he)
  refine call_keeps h ?_ ?_ (fun db db' hown hcore => hsame hown (congrArg Core.experiment hcore))
    (fun db db' x status r now _ hown _ _ _ hrep => hsame hown hrep.experiment) callMeets_true
  · intro db step f now hown e he
    rw [db.recordFailure_experiment] at he
    split at he
    · obtain ⟨e', he', rfl⟩ := Option.map_eq_some_iff.mp he
      exact hown e' he'
    · exact hown e he
  · intro db env eventId t slot _ hown _
    refine ⟨hown, fun p db' _ hc => ?_, fun p db' _ hsub => ?_, fun p db' r db'' _ hsub _ _ hexec => ?_⟩
    · obtain ⟨_, _, _, _, -, -, -, hcore⟩ := hc.core
      exact hsame hown (congrArg Core.experiment hcore)
    · obtain ⟨_, -, -, hcore⟩ := hsub.prepared.core
      exact hsame hown (congrArg Core.experiment hcore)
    · obtain ⟨_, -, -, hcore⟩ := hsub.prepared.core
      have hexp : db'.experiment = db.experiment := congrArg Core.experiment hcore
      intro e he
      rw [hexec.experiment, hexp] at he
      obtain ⟨e', he', rfl⟩ := Option.map_eq_some_iff.mp he
      have hstrategy : (e'.finished (controlledOrderFailure (some r)) env.executedAt).strategyType = e'.strategyType := by
        unfold Experiment.finished
        split <;> rfl
      rw [hstrategy]
      exact hown e' he'

/-- No snapshot is stamped after one of the times `ts`. -/
def StampedBefore (ts : List DateTime) (db : Db) : Prop :=
  ∀ s ∈ db.portfolioSnapshots, ∀ t ∈ ts, s.timestamp ≤ t

/-- What a call on its own clock stamps is before all that comes later. -/
theorem stampedBefore_call {ts : List DateTime} (hrun : SnapshotRun st) (hown : st.Keeps (Keyed OnOwnClock))
    (hst : st.Keeps (StampedBefore ts)) (hclocks : ∀ stamp ∈ c.clocks, ∀ t ∈ ts, stamp ≤ t) :
    (c.exec st).Keeps (StampedBefore ts) := by
  have hmeets : CallMeets (fun env _ _ _ => c.env = some env) (fun _ _ _ => True) c st :=
    callMeets_of_steps fun _ _ _ _ henv => henv
  refine call_keeps_snapshots hrun.keyed.1.1 hst ?_ ?_ ?_ hmeets
  · intro db db' hkept hdb s hs
    rw [hkept.portfolioSnapshots] at hs
    exact hdb s hs
  · exact fun _ _ _ => hst.1
  · rintro env eventId triggerType slot stamp db' henv hstamp ⟨p, m, htaken⟩ s hs t ht
    have hrows : db'.portfolioSnapshots = st.current.portfolioSnapshots ++ [p] :=
      congrArg SnapshotTables.portfolioSnapshots htaken.tables
    rw [hrows] at hs
    rcases List.mem_append.mp hs with hs | hs
    · exact hst.1 s hs t ht
    · have hcreated : OnOwnClock (st.current.addNextStep triggerType slot env.createdAt) := hown.1.2
      rw [List.mem_singleton.mp hs, htaken.stamp.1]
      exact hclocks stamp (stamp_mem_clocks henv hcreated hstamp) t ht

/-- **On one clock the stamps are in order**: for the daily rules and the smoke test, in real time, whatever the
    steps do. -/
theorem stampsInOrder_onOwnClock {calls : List PaperCall} (hrun : SnapshotRun st)
    (hown : st.Keeps (Keyed OnOwnClock)) (htime : InRealTime calls)
    (hstamps : st.Keeps (StampedBefore (calls.flatMap PaperCall.clocks))) :
    Runs.AllMeet PaperCall.exec StampsInOrder calls st := by
  -- by induction on the calls: each stamps with its own clock, which is later than all before it
  induction calls generalizing st with
  | nil => trivial
  | cons c cs ih =>
      unfold InRealTime at htime
      rw [List.flatMap_cons] at htime hstamps
      obtain ⟨-, hrest, hacross⟩ := List.pairwise_append.mp htime
      refine ⟨?_, ih hrun.call (onOwnClock_call hown) hrest (stampedBefore_call hrun hown ?_ ?_)⟩
      · refine callMeets_of_steps fun env eventId triggerType slot henv stamp hstamp s hs => ?_
        have hcreated : OnOwnClock (st.current.addNextStep triggerType slot env.createdAt) := hown.1.2
        exact hstamps.1 s hs stamp (List.mem_append_left _ (stamp_mem_clocks henv hcreated hstamp))
      · exact hstamps.mono fun db hdb s hs t ht => hdb s hs t (List.mem_append_right _ ht)
      · exact fun stamp hstamp t ht => (hacross stamp hstamp t ht).le

end

/-! ## Reading back -/

/-- **Snapshots are read back in execution order**, throughout a run, exactly if every step stamps in order. -/
theorem snapshots_in_order_iff {db : Db} (hnew : OpensWithoutSnapshots db) (calls : List PaperCall) :
    Runs.Always PaperCall.exec (·.Keeps SnapshotsInOrder) calls (Store.opened db {}) ↔
      Runs.AllMeet PaperCall.exec StampsInOrder calls (Store.opened db {}) := by
  have hstart : (Store.opened db ({} : BrokerBook)).Keeps SnapshotsInOrder := by
    refine hnew.run.inOrder_iff.mpr (.opened ⟨?_, ?_⟩)
    · show Ascending _ db.portfolioSnapshots
      rw [hnew.portfolioSnapshots]
      exact List.Pairwise.nil
    · intro m hm
      rw [show db.snapshotTables.metricSnapshots = [] from hnew.metricSnapshots] at hm
      cases hm
  refine Runs.always_iff_allMeet (J := SnapshotRun) (fun c st h => h.call) (fun c st h hin => ?_) hnew.run hstart
  rw [h.call.inOrder_iff]
  exact chronological_call_iff h (h.inOrder_iff.mp hin)

/-- The manual step of a day, its order filled at once. -/
def dayStep (n : ℕ) : PaperCall :=
  .nextStep { smallEnv 100 (fillOrder 100) with createdAt := 3 * n, startedAt := 3 * n + 1, executedAt := 3 * n + 2 }
    .manual none

/-- Buy-and-hold buys on its first day and holds on its second; the snapshots of both are in order. -/
theorem daily_snapshots_in_order :
    Runs.Always PaperCall.exec (·.Keeps SnapshotsInOrder) [dayStep 0, dayStep 1]
        (Store.opened (smallDb .buyAndHold .daily) {}) ∧
      (runCalls [dayStep 0, dayStep 1] (smallDb .buyAndHold .daily)).current.portfolioSnapshots.length = 2 := by
  have hnew : OpensWithoutSnapshots (smallDb .buyAndHold .daily) := ⟨smallDb_flat _ _, rfl, rfl⟩
  have hown : OnOwnClock (smallDb .buyAndHold .daily) := by
    intro e he
    cases he
    decide
  refine ⟨(snapshots_in_order_iff hnew _).mpr ?_, by decide +kernel⟩
  refine stampsInOrder_onOwnClock hnew.run (.opened ⟨hnew.flat.wellKeyed, hown⟩) (by decide) (.opened ?_)
  intro s hs
  cases hs

/-- The step for the bar `i` of a session with a breakout, run when the bar is complete. -/
def breakoutStep (i : ℕ) : PaperCall :=
  let slot := DateTime.midnight 1 + regularOpenTime + i * barInterval
  let now := slot + barInterval
  .nextStep { breakoutSlot slot with createdAt := now + 1, startedAt := now + 2, executedAt := now + 3 } .scheduled
    (some slot)

/-- The breakout is bought at 10:25, three microseconds after its bar, and held at the next bar: the snapshots of
    that step are stamped with the start of its bar, 10:25, and listed first. -/
theorem held_listed_before_bought :
    ¬ ∀ (db : Db) (calls : List PaperCall), OpensWithoutSnapshots db → InRealTime calls →
      Runs.Always PaperCall.exec (·.Keeps SnapshotsInOrder) calls (Store.opened db {}) := by
  intro h
  have hrun := h (smallDb .openingRangeBreakout .intraday5Min) [breakoutStep 10, breakoutStep 11]
    ⟨smallDb_flat _ _, rfl, rfl⟩ (by decide +kernel)
  have hlisted : ((runCalls [breakoutStep 10, breakoutStep 11]
      (smallDb .openingRangeBreakout .intraday5Min)).current.listPortfolioSnapshots.map fun s =>
        (runCalls [breakoutStep 10, breakoutStep 11]
          (smallDb .openingRangeBreakout .intraday5Min)).current.sequenceOf s.executionStepId) = [2, 1] := by
    decide +kernel
  have hgrow := hrun.last.1.listed
  unfold runCalls at hlisted
  rw [hlisted] at hgrow
  revert hgrow
  decide

end TradingAI
