import TradingAI.MarketData.Bars
import TradingAI.MarketData.TradingCalendar
import Mathlib.Data.List.Sort
import Mathlib.Data.List.Dedup

/-!
# `MarketData.IntradayValidation` — complete intraday sessions

Both validators keep the bars on a grid of expected starts, refuse a start that occurs twice and a start
that is missing, and sort the rest. They differ in the grid, and in what they say is missing
(`checkIntradayBars`).

## Contents
- `validateIntradayBars`, `validateIntradayBarsUntil`.
- `OnceEach`, `checkIntradayBars_ok`, `checkIntradayBars_error`: bars pass exactly if each start occurs once,
  and what passes is the grid, in order.
-/

namespace TradingAI

/-! ## The common part -/

/-- `{provider} returned duplicate intraday bars.` -/
def duplicateIntradayBars (provider symbol : String) (timestamp : DateTime) : Raised :=
  marketDataProviderError (provider ++ " returned duplicate intraday bars.")
    [("provider", .text provider), ("symbol", .text symbol), ("timestamp", .datetime timestamp)]

/-- What both validators do with the bars on their grid. `incomplete` is the error of a grid with missing
    starts, from the first of them, all of them and the starts that are there. -/
def checkIntradayBars (bars : List IntradayBar) (expected : List DateTime) (symbol provider : String)
    (incomplete : DateTime → List DateTime → List DateTime → Raised) : Except Raised (List IntradayBar) :=
  let filtered := bars.filter (·.timestamp ∈ expected)
  let timestamps := filtered.map IntradayBar.timestamp
  match timestamps.find? fun timestamp => 1 < timestamps.count timestamp with
  | some duplicate => .error (duplicateIntradayBars provider symbol duplicate)
  | none =>
      match (expected.filter (· ∉ timestamps)).dedup.insertionSort (· ≤ ·) with
      | first :: rest => .error (incomplete first (first :: rest) timestamps)
      | []            => .ok (filtered.insertionSort fun a b => a.timestamp ≤ b.timestamp)

/-- `_session_details`. -/
def sessionDetails (provider symbol : String) (session : TradingSession) (actualBars : ℕ)
    (missing : List DateTime) : Details :=
  [("provider", .text provider), ("symbol", .text symbol),
   ("sessionDate", .text (isoDate session.sessionDate)),
   ("expectedBars", .num session.expectedBarStartTimes.length), ("actualBars", .num actualBars),
   ("missingTimestamps", .list ((missing.take 5).map .datetime)),
   ("isEarlyClose", .bool session.isEarlyClose),
   ("sessionOpen", .datetime (DateTime.midnight session.sessionDate + session.openTime)),
   ("sessionClose", .datetime (DateTime.midnight session.sessionDate + session.closeTime))]

/-! ## The two validators -/

/-- `expected_by_timestamp[timestamp]`: a start belongs to the last session that has it. -/
def expectedByTimestamp (sessions : List TradingSession) (timestamp : DateTime) : Option TradingSession :=
  (sessions.filter (timestamp ∈ ·.expectedBarStartTimes)).getLast?

/-- The error of sessions with missing starts. -/
def incompleteSessions (sessions : List TradingSession) (provider symbol : String) (firstMissing : DateTime)
    (missing timestamps : List DateTime) : Raised :=
  marketDataUnavailableError (provider ++ " intraday session is incomplete.")
    (match expectedByTimestamp sessions firstMissing with
      | some session =>
          sessionDetails provider symbol session
            (timestamps.countP fun timestamp => timestamp.date = session.sessionDate) missing
      | none => [])

/-- The error of a session with missing starts up to a start. -/
def incompleteSessionUntil (session : TradingSession) (throughTimestamp : DateTime) (provider symbol : String)
    (_ : DateTime) (missing timestamps : List DateTime) : Raised :=
  marketDataUnavailableError (provider ++ " intraday session is incomplete through requested bar.")
    (dictUpdate (sessionDetails provider symbol session timestamps.length missing)
      [("throughTimestamp", .datetime throughTimestamp)])

/-- `validate_intraday_bars`. -/
def validateIntradayBars (bars : List IntradayBar) (sessions : List TradingSession) (symbol provider : String) :
    Except Raised (List IntradayBar) :=
  if sessions = [] then .ok []
  else
    checkIntradayBars bars (sessions.flatMap TradingSession.expectedBarStartTimes) symbol provider
      (incompleteSessions sessions provider symbol)

/-- `validate_intraday_bars_until`. -/
def validateIntradayBarsUntil (bars : List IntradayBar) (session : TradingSession) (throughTimestamp : DateTime)
    (symbol provider : String) : Except Raised (List IntradayBar) :=
  let expected := session.expectedBarStartTimes.filter (· ≤ throughTimestamp)
  if expected = [] then .ok []
  else
    checkIntradayBars bars expected symbol provider (incompleteSessionUntil session throughTimestamp provider symbol)

/-! ## What passes -/

/-- Every expected start occurs in exactly one bar. -/
def OnceEach (bars : List IntradayBar) (expected : List DateTime) : Prop :=
  ∀ timestamp ∈ expected, bars.countP (·.timestamp = timestamp) = 1

variable {bars bars' : List IntradayBar} {expected : List DateTime} {symbol provider : String}
  {incomplete : DateTime → List DateTime → List DateTime → Raised}

/-- The bars on the grid. -/
abbrev onGrid (bars : List IntradayBar) (expected : List DateTime) : List IntradayBar :=
  bars.filter (·.timestamp ∈ expected)

/-- How often a start of the grid occurs does not depend on what is off the grid. -/
theorem count_onGrid {timestamp : DateTime} (h : timestamp ∈ expected) :
    ((onGrid bars expected).map IntradayBar.timestamp).count timestamp =
      bars.countP (·.timestamp = timestamp) := by
  rw [List.count, List.countP_map, List.countP_filter]
  apply List.countP_congr
  intro bar _
  simp only [Function.comp_apply, beq_iff_eq, Bool.and_eq_true, decide_eq_true_eq]
  constructor
  · exact fun hbar => hbar.1
  · intro hbar
    exact ⟨hbar, hbar ▸ h⟩

theorem onceEach_iff_count :
    OnceEach bars expected ↔
      ∀ timestamp ∈ expected, ((onGrid bars expected).map IntradayBar.timestamp).count timestamp = 1 := by
  unfold OnceEach
  constructor
  · intro h timestamp hmem
    rw [count_onGrid hmem]
    exact h timestamp hmem
  · intro h timestamp hmem
    rw [← count_onGrid hmem]
    exact h timestamp hmem

/-- No start of the grid is seen twice. -/
theorem find_duplicate_eq_none (bars : List IntradayBar) (h : ∀ timestamp ∈ expected,
      ((onGrid bars expected).map IntradayBar.timestamp).count timestamp ≤ 1) :
    ((onGrid bars expected).map IntradayBar.timestamp).find?
      (fun timestamp => 1 < ((onGrid bars expected).map IntradayBar.timestamp).count timestamp) = none := by
  rw [List.find?_eq_none]
  intro timestamp hmem
  obtain ⟨bar, hbar, rfl⟩ := List.mem_map.mp hmem
  have hgrid := of_decide_eq_true (List.mem_filter.mp hbar).2
  have := h _ hgrid
  rw [decide_eq_true_eq]
  omega

/-- **Bars that fill the grid pass**, in the order of their starts. -/
theorem checkIntradayBars_ok (h : OnceEach bars expected) :
    checkIntradayBars bars expected symbol provider incomplete =
      .ok ((onGrid bars expected).insertionSort fun a b => a.timestamp ≤ b.timestamp) := by
  rw [onceEach_iff_count] at h
  have hnone := find_duplicate_eq_none bars fun timestamp hmem => (h timestamp hmem).le
  have hmissing : expected.filter (· ∉ (onGrid bars expected).map IntradayBar.timestamp) = [] := by
    rw [List.filter_eq_nil_iff]
    intro timestamp hmem
    have hone := h timestamp hmem
    rw [decide_eq_true_eq, not_not]
    exact List.count_pos_iff.mp (by omega)
  unfold checkIntradayBars
  dsimp only
  rw [hnone, hmissing]
  rfl

/-- **Other bars are refused.** -/
theorem checkIntradayBars_error (symbol provider : String)
    (incomplete : DateTime → List DateTime → List DateTime → Raised) (h : ¬ OnceEach bars expected) :
    ∃ e, checkIntradayBars bars expected symbol provider incomplete = .error e := by
  unfold checkIntradayBars
  dsimp only
  cases hdup : ((onGrid bars expected).map IntradayBar.timestamp).find?
      (fun timestamp => 1 < ((onGrid bars expected).map IntradayBar.timestamp).count timestamp) with
  | some duplicate => exact ⟨_, rfl⟩
  | none =>
      dsimp only
      cases hmissing : (List.dedup (expected.filter
          (· ∉ (onGrid bars expected).map IntradayBar.timestamp))).insertionSort (· ≤ ·) with
      | cons first rest => exact ⟨_, rfl⟩
      | nil =>
          -- nothing is missing and nothing occurs twice, so every start occurs once
          exfalso
          apply h
          rw [onceEach_iff_count]
          intro timestamp hmem
          have hthere : timestamp ∈ (onGrid bars expected).map IntradayBar.timestamp := by
            by_contra habsent
            have : timestamp ∈ (List.dedup (expected.filter
                (· ∉ (onGrid bars expected).map IntradayBar.timestamp))).insertionSort (· ≤ ·) := by
              rw [List.mem_insertionSort, List.mem_dedup, List.mem_filter]
              exact ⟨hmem, decide_eq_true habsent⟩
            rw [hmissing] at this
            cases this
          have hpos := List.count_pos_iff.mpr hthere
          have hmost := List.find?_eq_none.mp hdup timestamp hthere
          rw [decide_eq_true_eq] at hmost
          omega

/-- What a check lets through is the grid: its starts are ascending and are the expected ones. -/
structure FillsGrid (expected : List DateTime) (bars result : List IntradayBar) : Prop where
  ascending : result.Pairwise (·.timestamp < ·.timestamp)
  starts    : ∀ timestamp, timestamp ∈ result.map IntradayBar.timestamp ↔ timestamp ∈ expected
  perm      : result.Perm (onGrid bars expected)

theorem fillsGrid_sorted (h : OnceEach bars expected) :
    FillsGrid expected bars ((onGrid bars expected).insertionSort fun a b => a.timestamp ≤ b.timestamp) := by
  have hperm := List.perm_insertionSort (fun a b : IntradayBar => a.timestamp ≤ b.timestamp) (onGrid bars expected)
  rw [onceEach_iff_count] at h
  have hnodup : ((onGrid bars expected).map IntradayBar.timestamp).Nodup := by
    rw [List.nodup_iff_count_le_one]
    intro timestamp
    by_cases hmem : timestamp ∈ expected
    · exact (h timestamp hmem).le
    · rw [List.count_eq_zero_of_not_mem]
      · exact Nat.zero_le 1
      · intro hbars
        obtain ⟨bar, hbar, rfl⟩ := List.mem_map.mp hbars
        exact hmem (of_decide_eq_true (List.mem_filter.mp hbar).2)
  refine ⟨?_, ?_, hperm⟩
  · have hsorted := List.pairwise_insertionSort (fun a b : IntradayBar => a.timestamp ≤ b.timestamp)
      (onGrid bars expected)
    have hne := List.pairwise_map.mp ((hperm.map IntradayBar.timestamp).nodup_iff.mpr hnodup)
    exact (hsorted.and hne).imp fun hab => lt_of_le_of_ne hab.1 hab.2
  · intro timestamp
    rw [(hperm.map IntradayBar.timestamp).mem_iff]
    constructor
    · intro hmem
      obtain ⟨bar, hbar, rfl⟩ := List.mem_map.mp hmem
      exact of_decide_eq_true (List.mem_filter.mp hbar).2
    · intro hmem
      apply List.count_pos_iff.mp
      rw [h timestamp hmem]
      exact Nat.one_pos

/-- Two lists that fill a grid from the same bars are the same list. -/
theorem FillsGrid.unique {result result' : List IntradayBar} (h : FillsGrid expected bars result)
    (h' : FillsGrid expected bars' result') (hperm : (onGrid bars expected).Perm (onGrid bars' expected)) :
    result = result' := by
  apply (h.perm.trans (hperm.trans h'.perm.symm)).eq_of_pairwise _ h.ascending h'.ascending
  intro a b _ _ hab hba
  exact absurd (hab.trans hba) (lt_irrefl _)

/-- **What passes, and as what.** -/
theorem checkIntradayBars_ok_iff {result : List IntradayBar} :
    checkIntradayBars bars expected symbol provider incomplete = .ok result ↔
      OnceEach bars expected ∧ FillsGrid expected bars result := by
  by_cases h : OnceEach bars expected
  · rw [checkIntradayBars_ok h]
    constructor
    · rintro ⟨⟩
      exact ⟨h, fillsGrid_sorted h⟩
    · rintro ⟨-, hfills⟩
      rw [(fillsGrid_sorted h).unique hfills (List.Perm.refl _)]
  · obtain ⟨e, he⟩ := checkIntradayBars_error symbol provider incomplete h
    rw [he]
    apply iff_of_false
    · rintro ⟨⟩
    · exact fun hok => h hok.1

/-! ## What the validators let through -/

/-- The expected starts of sessions. -/
abbrev expectedStarts (sessions : List TradingSession) : List DateTime :=
  sessions.flatMap TradingSession.expectedBarStartTimes

variable {sessions : List TradingSession}

/-- An empty grid is filled by no bar. -/
theorem fillsGrid_nil_iff {result : List IntradayBar} : FillsGrid [] bars result ↔ result = [] := by
  have hgrid : onGrid bars [] = [] := by
    rw [List.filter_eq_nil_iff]
    intro bar _ hmem
    cases of_decide_eq_true hmem
  constructor
  · intro h
    exact List.perm_nil.mp (hgrid ▸ h.perm)
  · rintro rfl
    exact ⟨List.Pairwise.nil, fun _ => Iff.rfl, hgrid ▸ List.Perm.refl _⟩

/-- Without sessions there is nothing to expect, and nothing passes as nothing. -/
theorem validateIntradayBars_ok_iff {result : List IntradayBar} :
    validateIntradayBars bars sessions symbol provider = .ok result ↔
      OnceEach bars (expectedStarts sessions) ∧ FillsGrid (expectedStarts sessions) bars result := by
  unfold validateIntradayBars
  by_cases hnone : sessions = []
  · rw [if_pos hnone, hnone]
    have hnothing : OnceEach bars [] := fun _ hmem => absurd hmem List.not_mem_nil
    show _ ↔ OnceEach bars [] ∧ FillsGrid [] bars result
    rw [fillsGrid_nil_iff]
    constructor
    · rintro ⟨⟩
      exact ⟨hnothing, rfl⟩
    · rintro ⟨-, rfl⟩
      rfl
  · rw [if_neg hnone]
    exact checkIntradayBars_ok_iff

/-- The same of the validator with a cut-off. -/
theorem validateIntradayBarsUntil_ok_iff {session : TradingSession} {through : DateTime} {result : List IntradayBar} :
    validateIntradayBarsUntil bars session through symbol provider = .ok result ↔
      OnceEach bars (session.expectedBarStartTimes.filter (· ≤ through)) ∧
        FillsGrid (session.expectedBarStartTimes.filter (· ≤ through)) bars result := by
  unfold validateIntradayBarsUntil
  dsimp only
  by_cases hnone : session.expectedBarStartTimes.filter (· ≤ through) = []
  · rw [if_pos hnone, hnone, fillsGrid_nil_iff]
    constructor
    · rintro ⟨⟩
      exact ⟨fun _ hmem => absurd hmem List.not_mem_nil, rfl⟩
    · rintro ⟨-, rfl⟩
      rfl
  · rw [if_neg hnone]
    exact checkIntradayBars_ok_iff

/-! ## Other orders, other grids -/

/-- The order of the bars and the bars off the grid do not matter. -/
theorem onceEach_of_perm (hperm : (onGrid bars expected).Perm (onGrid bars' expected)) (h : OnceEach bars expected) :
    OnceEach bars' expected := by
  rw [onceEach_iff_count] at h ⊢
  intro timestamp hmem
  rw [← (hperm.map IntradayBar.timestamp).count_eq]
  exact h timestamp hmem

theorem FillsGrid.of_perm {result : List IntradayBar} (h : FillsGrid expected bars result)
    (hperm : (onGrid bars expected).Perm (onGrid bars' expected)) : FillsGrid expected bars' result :=
  ⟨h.ascending, h.starts, h.perm.trans hperm⟩

/-- A shorter grid is filled by the bars on it. -/
theorem FillsGrid.until {result : List IntradayBar} (h : FillsGrid expected bars result) (through : DateTime) :
    FillsGrid (expected.filter (· ≤ through)) bars (result.filter (·.timestamp ≤ through)) := by
  refine ⟨h.ascending.filter _, ?_, ?_⟩
  · intro timestamp
    rw [List.mem_filter, ← h.starts]
    constructor
    · intro hmem
      obtain ⟨bar, hbar, rfl⟩ := List.mem_map.mp hmem
      obtain ⟨hin, hle⟩ := List.mem_filter.mp hbar
      exact ⟨List.mem_map_of_mem hin, hle⟩
    · rintro ⟨hmem, hle⟩
      obtain ⟨bar, hbar, rfl⟩ := List.mem_map.mp hmem
      exact List.mem_map_of_mem (List.mem_filter.mpr ⟨hbar, hle⟩)
  · have hgrid : onGrid bars (expected.filter (· ≤ through)) =
        (onGrid bars expected).filter (·.timestamp ≤ through) := by
      unfold onGrid
      rw [List.filter_filter]
      apply List.filter_congr
      intro bar _
      simp only [List.mem_filter, decide_eq_true_eq, Bool.decide_and, Bool.and_comm]
    rw [hgrid]
    exact h.perm.filter _

end TradingAI
