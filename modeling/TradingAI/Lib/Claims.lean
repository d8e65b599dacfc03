import TradingAI.Lib.Transactions
import Mathlib.Data.List.Nodup

/-!
# `Lib.Claims` — act at most once, by claiming first

Threads that share a database must not act twice on one key. The pattern: a thread *claims* the key by a
commit that fails if somebody has claimed it, then *holds* it, and acts on it only while it holds it. Claims
are never given back, also not when the action fails.

`Claims` names the three things the pattern is made of. If every statement of a program is `Proper`, no run
acts twice on a key (`Claims.Holds.run`), and a claimed key that nobody holds is never acted on again
(`Claims.Holds.settled`).
-/

namespace Transactions

variable {D L C K : Type}

/-- Which keys are claimed, which were acted on, and which key a thread holds. -/
structure Claims (D L K : Type) where
  claimed : D → K → Prop
  acted   : D → List K
  holding : L → Option K

namespace Claims

/-- A statement takes a thread from `l` to `l'` and the data from `d` to `d'`. Claims stay; a key it holds
    afterwards it held before, or has just claimed; it acts at most on the key it held, and drops it. -/
structure ProperStep (A : Claims D L K) (d : D) (l : L) (d' : D) (l' : L) : Prop where
  claimed : ∀ k, A.claimed d k → A.claimed d' k
  holding : ∀ k, A.holding l' = some k → A.holding l = some k ∨ (¬ A.claimed d k ∧ A.claimed d' k)
  acted   : A.acted d' = A.acted d ∨
              ∃ k, A.holding l = some k ∧ A.holding l' ≠ some k ∧ A.acted d' = A.acted d ++ [k]

/-- The statement is proper wherever it leads. -/
def Proper (A : Claims D L K) (d : D) (l : L) (a : Action D L) : Prop :=
  ∀ l', a.leadsTo l' → A.ProperStep d l (a.published d) l'

/-- Nobody acted twice, and whoever may still act is the only one who may. -/
structure Holds (A : Claims D L K) (m : Machine D L) : Prop where
  nodup   : (A.acted m.data).Nodup
  acted   : ∀ k ∈ A.acted m.data, A.claimed m.data k
  holding : ∀ i k, A.holding (m.threads i) = some k → A.claimed m.data k ∧ k ∉ A.acted m.data
  unique  : ∀ i j k, A.holding (m.threads i) = some k → A.holding (m.threads j) = some k → i = j

variable {A : Claims D L K} {P : Program D L C}

/-- A statement that changes neither claims nor actions and keeps what its thread holds. -/
theorem ProperStep.quiet {d d' : D} {l l' : L} (hclaimed : ∀ k, A.claimed d k → A.claimed d' k)
    (hholding : ∀ k, A.holding l' = some k → A.holding l = some k) (hacted : A.acted d' = A.acted d) :
    A.ProperStep d l d' l' :=
  ⟨hclaimed, fun k hk => .inl (hholding k hk), .inl hacted⟩

/-- **Step rule**: a proper statement keeps the pattern. -/
theorem Holds.exec {e : Event C} {m : Machine D L} (h : A.Holds m)
    (hP : A.Proper m.data (m.threads e.thread) (P e.choice m.data (m.threads e.thread))) :
    A.Holds (exec P e m) := by
  obtain ⟨l, hl, hthreads⟩ := exec_threads P e m
  have hstep := hP l hl
  rw [← exec_data] at hstep
  -- what a thread holds after the event it held before, or it is the mover and has just claimed it
  have hback : ∀ i k, A.holding ((Transactions.exec P e m).threads i) = some k →
      A.holding (m.threads i) = some k ∨
        (i = e.thread ∧ ¬ A.claimed m.data k ∧ A.claimed (Transactions.exec P e m).data k) := by
    intro i k hk
    rw [hthreads] at hk
    by_cases hi : i = e.thread
    · subst hi
      rw [Machine.goTo_self] at hk
      rcases hstep.holding k hk with hold | hnew
      · exact .inl hold
      · exact .inr ⟨rfl, hnew⟩
    · rw [Machine.goTo_other hi] at hk
      exact .inl hk
  -- a key acted on by the event was held by the mover, and by nobody after
  have hact : ∀ k, k ∈ A.acted (Transactions.exec P e m).data → k ∈ A.acted m.data ∨
      (A.holding (m.threads e.thread) = some k ∧ A.holding l ≠ some k) := by
    intro k hk
    rcases hstep.acted with hsame | ⟨k', hheld, hdropped, happended⟩
    · rw [hsame] at hk
      exact .inl hk
    · rw [happended, List.mem_append, List.mem_singleton] at hk
      rcases hk with hk | rfl
      · exact .inl hk
      · exact .inr ⟨hheld, hdropped⟩
  constructor
  · rcases hstep.acted with hsame | ⟨k, hheld, -, happended⟩
    · rw [hsame]
      exact h.nodup
    · rw [happended, List.nodup_append]
      refine ⟨h.nodup, List.nodup_singleton k, ?_⟩
      intro a ha b hb
      rw [List.mem_singleton] at hb
      rintro rfl
      exact (h.holding _ _ hheld).2 (hb ▸ ha)
  · intro k hk
    apply hstep.claimed
    rcases hact k hk with hold | ⟨hheld, -⟩
    · exact h.acted k hold
    · exact (h.holding _ _ hheld).1
  · intro i k hk
    rcases hback i k hk with hold | ⟨rfl, hnew, hclaimed⟩
    · refine ⟨hstep.claimed k (h.holding i k hold).1, fun hacted => ?_⟩
      rcases hact k hacted with hbefore | ⟨hheld, hdropped⟩
      · exact (h.holding i k hold).2 hbefore
      · -- two threads would hold the key
        have hi := h.unique i e.thread k hold hheld
        subst hi
        rw [hthreads, Machine.goTo_self] at hk
        exact hdropped hk
    · refine ⟨hclaimed, fun hacted => ?_⟩
      rcases hact k hacted with hbefore | ⟨hheld, -⟩
      · exact hnew (h.acted k hbefore)
      · exact hnew (h.holding _ k hheld).1
  · intro i j k hi hj
    rcases hback i k hi with hiold | ⟨rfl, hnew, -⟩
    · rcases hback j k hj with hjold | ⟨rfl, hnew, -⟩
      · exact h.unique i j k hiold hjold
      · exact absurd (h.holding i k hiold).1 hnew
    · rcases hback j k hj with hjold | ⟨rfl, -, -⟩
      · exact absurd (h.holding j k hjold).1 hnew
      · rfl

/-- **Run rule**: a program of proper statements keeps the pattern, whatever the interleaving. -/
theorem Holds.run (hP : ∀ c d l, A.Proper d l (P c d l)) {es : List (Event C)} {m : Machine D L}
    (h : A.Holds m) : A.Holds (Runs.run (Transactions.exec P) es m) :=
  Runs.run_keeps (fun _ _ hm _ => hm.exec (hP _ _ _)) (Meets.always es m) h

/-- Nobody holds anything yet. -/
theorem Holds.start {d : D} {l : L} (hacted : A.acted d = []) (hholding : A.holding l = none) :
    A.Holds ⟨d, none, fun _ => l⟩ where
  nodup   := by rw [hacted]; exact List.nodup_nil
  acted   := by rw [hacted]; simp
  holding := by intro i k hk; simp [hholding] at hk
  unique  := by intro i j k hi; simp [hholding] at hi

/-- A key that is claimed and held by nobody. -/
def Settled (A : Claims D L K) (m : Machine D L) (k : K) : Prop :=
  A.claimed m.data k ∧ ∀ i, A.holding (m.threads i) ≠ some k

/-- What is settled stays settled, and nobody acts on it. -/
theorem Settled.exec [BEq K] [LawfulBEq K] {e : Event C} {m : Machine D L} {k : K} (h : A.Settled m k)
    (hP : A.Proper m.data (m.threads e.thread) (P e.choice m.data (m.threads e.thread))) :
    A.Settled (Transactions.exec P e m) k ∧
      (A.acted (Transactions.exec P e m).data).count k = (A.acted m.data).count k := by
  obtain ⟨l, hl, hthreads⟩ := exec_threads P e m
  have hstep := hP l hl
  rw [← exec_data] at hstep
  refine ⟨⟨hstep.claimed k h.1, fun i hi => ?_⟩, ?_⟩
  · rw [hthreads] at hi
    by_cases hmover : i = e.thread
    · subst hmover
      rw [Machine.goTo_self] at hi
      rcases hstep.holding k hi with hold | hnew
      · exact h.2 _ hold
      · exact hnew.1 h.1
    · rw [Machine.goTo_other hmover] at hi
      exact h.2 i hi
  · rcases hstep.acted with hsame | ⟨k', hheld, -, happended⟩
    · rw [hsame]
    · have hne : k' ≠ k := by
        rintro rfl
        exact h.2 _ hheld
      rw [happended, List.count_append, List.count_singleton]
      simp [hne]

/-- **A settled key is never acted on again.** -/
theorem Settled.run [BEq K] [LawfulBEq K] (hP : ∀ c d l, A.Proper d l (P c d l)) {es : List (Event C)}
    {m : Machine D L} {k : K} (h : A.Settled m k) :
    (A.acted (Runs.run (Transactions.exec P) es m).data).count k = (A.acted m.data).count k := by
  induction es generalizing m with
  | nil => rfl
  | cons _ es ih =>
      obtain ⟨hnext, hcount⟩ := h.exec (hP _ _ _)
      exact (ih hnext).trans hcount

end Claims

end Transactions
