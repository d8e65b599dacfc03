import TradingAI.Lib.Transactions
import Mathlib.Algebra.BigOperators.Group.Finset.Piecewise
import Mathlib.Data.Finset.Dedup

/-!
# `Lib.Budget` — what the threads of a machine can still do

A `Budget` counts something in the committed data, and says of each thread how much of it the thread may
still add. A statement is `Paid` if the count does not shrink and what it adds is taken from what its own
thread had left. Then the count and what all threads have left do not grow together along any run, so the
count is bounded by what the threads had left at its beginning. Which threads move, how often and in which
order does not matter.

A statement need only be paid for while an invariant `I` of the data holds and its thread is in one of the
places `K`; `Keeps` is that both are kept.
-/

namespace Transactions

variable {D L M C : Type}

/-- Where an action of a part takes the larger thread. -/
theorem leadsTo_map {f : L → M} {a : Action D L} {x : M} :
    (a.map f).leadsTo x ↔ ∃ l, a.leadsTo l ∧ f l = x := by
  cases a with
  | go l => simp [Action.map, Action.leadsTo, eq_comm]
  | commit d l => simp [Action.map, Action.leadsTo, eq_comm]
  | rollback l => simp [Action.map, Action.leadsTo, eq_comm]
  | tryLock granted refused =>
      constructor
      · rintro (rfl | rfl)
        · exact ⟨granted, .inl rfl, rfl⟩
        · exact ⟨refused, .inr rfl, rfl⟩
      · rintro ⟨_, rfl | rfl, rfl⟩
        · exact .inl rfl
        · exact .inr rfl

/-- What is counted in the data, and how much of it a thread may still add. -/
structure Budget (D L : Type) where
  spent : D → ℕ
  left  : L → ℕ

/-- What a statement adds is taken from what its thread had left. -/
structure Budget.Paid (B : Budget D L) (d : D) (l : L) (a : Action D L) : Prop where
  grows : B.spent d ≤ B.spent (a.published d)
  paid  : ∀ l', a.leadsTo l' → B.spent (a.published d) + B.left l' ≤ B.spent d + B.left l

section
variable {B : Budget D L} {d d' : D} {l l' granted refused : L}

theorem paid_go (h : B.left l' ≤ B.left l) : B.Paid d l (.go l') :=
  ⟨le_rfl, by rintro _ rfl; exact Nat.add_le_add_left h _⟩

theorem paid_rollback (h : B.left l' ≤ B.left l) : B.Paid d l (.rollback l') :=
  ⟨le_rfl, by rintro _ rfl; exact Nat.add_le_add_left h _⟩

theorem paid_tryLock (hgranted : B.left granted ≤ B.left l) (hrefused : B.left refused ≤ B.left l) :
    B.Paid d l (.tryLock granted refused) := by
  refine ⟨le_rfl, ?_⟩
  rintro _ (rfl | rfl)
  · exact Nat.add_le_add_left hgranted _
  · exact Nat.add_le_add_left hrefused _

/-- A commit that leaves the count. -/
theorem paid_commit (hsame : B.spent d' = B.spent d) (h : B.left l' ≤ B.left l) :
    B.Paid d l (.commit d' l') := by
  refine ⟨hsame.ge, ?_⟩
  rintro _ rfl
  change B.spent d' + B.left _ ≤ _
  rw [hsame]
  exact Nat.add_le_add_left h _

/-- A commit that raises the count by one takes one from its thread. -/
theorem paid_commit_succ (hone : B.spent d' = B.spent d + 1) (h : B.left l' + 1 ≤ B.left l) :
    B.Paid d l (.commit d' l') := by
  refine ⟨by change _ ≤ B.spent d'; omega, ?_⟩
  rintro _ rfl
  change B.spent d' + B.left _ ≤ _
  omega

/-- The larger thread `x` has left what its part has, and so has whatever the action makes of it. -/
theorem Budget.Paid.map {B' : Budget D M} {f : L → M} {x : M} {a : Action D L} (h : B.Paid d l a)
    (hspent : B'.spent = B.spent) (hx : B'.left x = B.left l) (hleft : ∀ l, B'.left (f l) = B.left l) :
    B'.Paid d x (a.map f) := by
  refine ⟨by rw [Action.published_map, hspent]; exact h.grows, fun y hy => ?_⟩
  rw [Action.published_map, hspent, hx]
  obtain ⟨l', hl', rfl⟩ := leadsTo_map.mp hy
  rw [hleft]
  exact h.paid l' hl'

end

/-- A statement keeps an invariant of the data, and its thread stays in the places `K`. -/
structure Keeps (I : D → Prop) (K : L → Prop) (d : D) (a : Action D L) : Prop where
  data   : I (a.published d)
  thread : ∀ l', a.leadsTo l' → K l'

variable {P : Program D L C} {I : D → Prop} {K : L → Prop} {B : Budget D L} {S : Finset ℕ} {m : Machine D L}

/-- A sum over the threads, when one of them moves. -/
theorem Machine.sum_left_goTo (m : Machine D L) (left : L → ℕ) {i : ℕ} (hi : i ∈ S) (l : L) :
    (∑ j ∈ S, left ((m.goTo i l).threads j)) + left (m.threads i) = (∑ j ∈ S, left (m.threads j)) + left l := by
  have hmoved : (fun j => left ((m.goTo i l).threads j)) = Function.update (fun j => left (m.threads j)) i (left l) :=
    funext fun j => Function.apply_update (fun _ => left) m.threads i l j
  rw [hmoved, Finset.sum_update_of_mem hi, Finset.sum_eq_add_sum_sdiff_singleton_of_mem hi fun j => left (m.threads j)]
  omega

/-- What a run under a budget keeps: the invariant, the places of the threads, that nobody outside `S` has
    anything left, and a bound for what is spent and left. -/
structure Budget.Within (B : Budget D L) (I : D → Prop) (K : L → Prop) (S : Finset ℕ) (total : ℕ)
    (m : Machine D L) : Prop where
  data    : I m.data
  threads : ∀ i, K (m.threads i)
  outside : ∀ i, i ∉ S → B.left (m.threads i) = 0
  total   : B.spent m.data + ∑ i ∈ S, B.left (m.threads i) ≤ total

/-- **Step rule**: a paid statement stays within the budget. -/
theorem Budget.Within.step {total : ℕ} (h : B.Within I K S total m) (e : Event C)
    (hkeeps : Keeps I K m.data (P e.choice m.data (m.threads e.thread)))
    (hpaid : B.Paid m.data (m.threads e.thread) (P e.choice m.data (m.threads e.thread))) :
    B.Within I K S total (exec P e m) := by
  obtain ⟨l, hl, hthreads⟩ := exec_threads P e m
  have hspent := hpaid.paid l hl
  have hgrows := hpaid.grows
  rw [← exec_data] at hspent hgrows
  refine ⟨by rw [exec_data]; exact hkeeps.data, fun i => ?_, fun i hi => ?_, ?_⟩
  · rw [hthreads]
    by_cases hmoved : i = e.thread
    · subst hmoved; rw [Machine.goTo_self]; exact hkeeps.thread l hl
    · rw [Machine.goTo_other hmoved]; exact h.threads i
  · rw [hthreads]
    by_cases hmoved : i = e.thread
    · -- it had nothing left, and the count has not shrunk
      subst hmoved
      rw [Machine.goTo_self]
      have := h.outside _ hi
      omega
    · rw [Machine.goTo_other hmoved]; exact h.outside i hi
  · have htotal := h.total
    rw [hthreads]
    by_cases hmem : e.thread ∈ S
    · have hsum := m.sum_left_goTo B.left hmem l
      omega
    · have hsame : ∑ j ∈ S, B.left ((m.goTo e.thread l).threads j) = ∑ j ∈ S, B.left (m.threads j) :=
        Finset.sum_congr rfl fun j hj => by
          have hne : j ≠ e.thread := fun heq => hmem (heq ▸ hj)
          rw [Machine.goTo_other hne]
      have := h.outside _ hmem
      omega

/-- **Run rule**: where every statement keeps the invariant and is paid for, every run stays within the
    budget. -/
theorem Budget.Within.along {total : ℕ} (h : B.Within I K S total m)
    (hkeeps : ∀ c d l, I d → K l → Keeps I K d (P c d l))
    (hpaid : ∀ c d l, I d → K l → B.Paid d l (P c d l)) (es : List (Event C)) :
    B.Within I K S total (Runs.run (exec P) es m) :=
  Runs.run_keeps (fun e _ hm _ => hm.step e (hkeeps _ _ _ hm.data (hm.threads _))
    (hpaid _ _ _ hm.data (hm.threads _))) (Meets.always es m) h

/-! ## The threads that have moved -/

/-- The threads of some events. -/
def moved (es : List (Event C)) : Finset ℕ := (es.map Event.thread).toFinset

/-- A thread that has not moved is where it was. -/
theorem run_threads_of_not_moved {es : List (Event C)} {i : ℕ} (hi : i ∉ moved es) (m : Machine D L) :
    (Runs.run (exec P) es m).threads i = m.threads i := by
  induction es generalizing m with
  | nil => rfl
  | cons e es ih =>
      have hsplit : i ≠ e.thread ∧ i ∉ moved es := by simpa [moved] using hi
      obtain ⟨l, -, hthreads⟩ := exec_threads P e m
      rw [Runs.run, ih hsplit.2, hthreads, Machine.goTo_other hsplit.1]

end Transactions
