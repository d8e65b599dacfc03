import TradingAI.Lib.Runs
import Mathlib.Data.Nat.Notation
import Mathlib.Logic.Function.Basic

/-!
# `Lib.Transactions` — threads that run transactions side by side

Any number of threads share one database. Each executes a program, one statement at a time: a statement
sees what is committed at that moment (read committed), and what a thread writes is seen from its commit
on. There is one lock. It is exclusive, is asked for without waiting, and is freed when its holder commits
or rolls back.

A run is a list of events: which thread moves, and what its surroundings choose for it. What holds for
every list holds for every interleaving.

`Outline` is the proof rule. It asserts something of the committed data, and of each thread something that
the thread *knows* about them. A statement is `Sound` if it keeps what its own thread knows and, when it
commits, what every other thread knows; two threads that both hold the lock need not be considered.
-/

namespace Transactions

variable {D L M C : Type}

/-! ## Programs and machines -/

/-- What a statement does to the thread `l` that executes it. -/
inductive Action (D L : Type)
  | go (l : L)
  | tryLock (granted refused : L)
  | commit (d : D) (l : L)
  | rollback (l : L)

/-- The next statement of a thread, for the choices of its surroundings and the committed data. -/
abbrev Program (D L C : Type) := C → D → L → Action D L

/-- The same action of a thread that is part of a larger one. -/
def Action.map (f : L → M) : Action D L → Action D M
  | .go l                    => .go (f l)
  | .tryLock granted refused => .tryLock (f granted) (f refused)
  | .commit d l              => .commit d (f l)
  | .rollback l              => .rollback (f l)

/-- The committed data after an action. -/
def Action.published (d : D) : Action D L → D
  | .commit d' _ => d'
  | _            => d

/-- A larger thread publishes what its part does. -/
@[simp] theorem Action.published_map (f : L → M) (d : D) (a : Action D L) :
    (a.map f).published d = a.published d := by
  cases a <;> rfl

/-- Where an action can take its thread. -/
def Action.leadsTo : Action D L → L → Prop
  | .go l, l'                    => l' = l
  | .tryLock granted refused, l' => l' = granted ∨ l' = refused
  | .commit _ l, l'              => l' = l
  | .rollback l, l'              => l' = l

structure Machine (D L : Type) where
  data    : D
  holder  : Option ℕ := none
  threads : ℕ → L

/-- Thread `thread` executes one statement. -/
structure Event (C : Type) where
  thread : ℕ
  choice : C

namespace Machine

def goTo (m : Machine D L) (i : ℕ) (l : L) : Machine D L :=
  { m with threads := Function.update m.threads i l }

/-- The lock is free again if `i` held it. -/
def release (m : Machine D L) (i : ℕ) : Machine D L :=
  { m with holder := if m.holder = some i then none else m.holder }

def perform (m : Machine D L) (i : ℕ) : Action D L → Machine D L
  | .go l       => m.goTo i l
  | .tryLock granted refused =>
      if m.holder = none ∨ m.holder = some i then { m.goTo i granted with holder := some i }
      else m.goTo i refused
  | .commit d l => { (m.release i).goTo i l with data := d }
  | .rollback l => (m.release i).goTo i l

variable {m : Machine D L} {i : ℕ} {l : L}

@[simp] theorem goTo_data : (m.goTo i l).data = m.data := rfl
@[simp] theorem goTo_holder : (m.goTo i l).holder = m.holder := rfl
@[simp] theorem release_data : (m.release i).data = m.data := rfl
@[simp] theorem release_threads : (m.release i).threads = m.threads := rfl
@[simp] theorem goTo_self : (m.goTo i l).threads i = l := Function.update_self ..

theorem goTo_other {j : ℕ} (h : j ≠ i) : (m.goTo i l).threads j = m.threads j :=
  Function.update_of_ne h ..

theorem release_holder : (m.release i).holder = if m.holder = some i then none else m.holder := rfl

end Machine

/-- One event. -/
def exec (P : Program D L C) (e : Event C) (m : Machine D L) : Machine D L :=
  m.perform e.thread (P e.choice m.data (m.threads e.thread))

/-- An event publishes what its statement commits. -/
theorem exec_data (P : Program D L C) (e : Event C) (m : Machine D L) :
    (exec P e m).data = (P e.choice m.data (m.threads e.thread)).published m.data := by
  unfold exec
  cases P e.choice m.data (m.threads e.thread) with
  | tryLock granted refused => simp only [Machine.perform]; split <;> rfl
  | _ => rfl

/-- An event moves one thread. -/
theorem exec_threads (P : Program D L C) (e : Event C) (m : Machine D L) :
    ∃ l, (P e.choice m.data (m.threads e.thread)).leadsTo l ∧
      (exec P e m).threads = (m.goTo e.thread l).threads := by
  unfold exec
  cases P e.choice m.data (m.threads e.thread) with
  | tryLock granted refused =>
      simp only [Machine.perform]
      split
      · exact ⟨granted, .inl rfl, rfl⟩
      · exact ⟨refused, .inr rfl, rfl⟩
  | go l       => exact ⟨l, rfl, rfl⟩
  | commit d l => exact ⟨l, rfl, rfl⟩
  | rollback l => exact ⟨l, rfl, rfl⟩

/-- Every event of a run meets `ok`, which may look at what the moving thread finds. -/
def Meets (P : Program D L C) (ok : C → D → L → Prop) (es : List (Event C)) (m : Machine D L) : Prop :=
  Runs.AllMeet (exec P) (fun e m => ok e.choice m.data (m.threads e.thread)) es m

/-! ## One thread alone -/

/-- What a thread does if no other moves: the lock is there when it asks. -/
def alone (P : Program D L C) : List C → D → L → D × L
  | [], d, l => (d, l)
  | c :: cs, d, l =>
      match P c d l with
      | .go l' | .tryLock l' _ | .rollback l' => alone P cs d l'
      | .commit d' l'                         => alone P cs d' l'

/-- **A thread that runs alone** does in the machine what it does by itself. -/
theorem run_alone {P : Program D L C} {m : Machine D L} {i : ℕ} (cs : List C)
    (hfree : m.holder = none ∨ m.holder = some i) :
    (Runs.run (exec P) (cs.map (Event.mk i)) m).data = (alone P cs m.data (m.threads i)).1 := by
  induction cs generalizing m with
  | nil => rfl
  | cons c cs ih =>
      have hreleased : (m.release i).holder = none ∨ (m.release i).holder = some i := by
        rw [Machine.release_holder]; split
        · exact .inl rfl
        · exact hfree
      have hstep : exec P (Event.mk i c) m = m.perform i (P c m.data (m.threads i)) := rfl
      rw [List.map_cons, Runs.run, hstep, alone]
      cases P c m.data (m.threads i) with
      | go l => simpa [Machine.perform] using ih (m := m.goTo i l) hfree
      | tryLock granted refused =>
          rw [Machine.perform, if_pos hfree]
          simpa using ih (m := { m.goTo i granted with holder := some i }) (.inr rfl)
      | commit d l =>
          simpa [Machine.perform] using ih (m := { (m.release i).goTo i l with data := d }) hreleased
      | rollback l => simpa [Machine.perform] using ih (m := (m.release i).goTo i l) hreleased

/-! ## Proof outlines -/

/-- What is asserted of the committed data, and of each thread about them. -/
structure Outline (D L : Type) where
  inv    : D → Prop
  knows  : D → L → Prop
  locked : L → Prop

variable {A : Outline D L} {P : Program D L C} {m : Machine D L}

/-- The assertions hold, and the lock is held by whoever should hold it. -/
structure Outline.Holds (A : Outline D L) (m : Machine D L) : Prop where
  inv    : A.inv m.data
  knows  : ∀ i, A.knows m.data (m.threads i)
  locked : ∀ i, A.locked (m.threads i) ↔ m.holder = some i

/-- The proof obligation of one statement. -/
def Outline.Sound (A : Outline D L) (d : D) (l : L) : Action D L → Prop
  | .go l' => A.knows d l' ∧ (A.locked l' ↔ A.locked l)
  | .tryLock granted refused =>
      ¬ A.locked l ∧ (A.knows d granted ∧ A.locked granted) ∧ A.knows d refused ∧ ¬ A.locked refused
  | .commit d' l' =>
      A.inv d' ∧ (A.knows d' l' ∧ ¬ A.locked l') ∧
        ∀ other, A.knows d other → ¬ (A.locked l ∧ A.locked other) → A.knows d' other
  | .rollback l' => A.knows d l' ∧ ¬ A.locked l'

/-- A thread moved: what is left to show of it and of the others. -/
theorem Outline.Holds.of_moved {m' : Machine D L} {i : ℕ} {l : L} (hthreads : m'.threads = (m.goTo i l).threads)
    (hinv : A.inv m'.data) (hknows : A.knows m'.data l) (hlocked : A.locked l ↔ m'.holder = some i)
    (hother : ∀ j, j ≠ i → A.knows m'.data (m.threads j) ∧ (A.locked (m.threads j) ↔ m'.holder = some j)) :
    A.Holds m' := by
  refine ⟨hinv, fun j => ?_, fun j => ?_⟩ <;> rw [hthreads] <;> by_cases hj : j = i
  · subst hj; rw [Machine.goTo_self]; exact hknows
  · rw [Machine.goTo_other hj]; exact (hother j hj).1
  · subst hj; rw [Machine.goTo_self]; exact hlocked
  · rw [Machine.goTo_other hj]; exact (hother j hj).2

/-- The holder that gives the lock back is not its holder any more; nobody else notices. -/
theorem Outline.Holds.release (h : A.Holds m) (i : ℕ) :
    (m.release i).holder ≠ some i ∧
      ∀ j, j ≠ i → (A.locked (m.threads j) ↔ (m.release i).holder = some j) := by
  rw [Machine.release_holder]
  refine ⟨by split <;> simp_all, fun j hj => (h.locked j).trans ?_⟩
  split
  · rename_i hi; rw [hi]; simp [Ne.symm hj]
  · exact Iff.rfl

/-- **Step rule**: a sound statement keeps the outline. -/
theorem Outline.Holds.perform (h : A.Holds m) {i : ℕ} {a : Action D L}
    (ha : A.Sound m.data (m.threads i) a) : A.Holds (m.perform i a) := by
  cases a with
  | go l =>
      exact .of_moved (i := i) (l := l) rfl h.inv ha.1 (ha.2.trans (h.locked i))
        fun j _ => ⟨h.knows j, h.locked j⟩
  | tryLock granted refused =>
      obtain ⟨hfree, hgranted, hrefused⟩ := ha
      have hi : m.holder ≠ some i := fun hi => hfree ((h.locked i).mpr hi)
      by_cases hholder : m.holder = none
      · rw [show m.perform i (.tryLock granted refused) = { m.goTo i granted with holder := some i } from
          if_pos (.inl hholder)]
        refine .of_moved (i := i) (l := granted) rfl h.inv hgranted.1 (by simp [hgranted.2]) fun j hj => ?_
        exact ⟨h.knows j, by rw [h.locked j, hholder]; simp [Ne.symm hj]⟩
      · rw [show m.perform i (.tryLock granted refused) = m.goTo i refused from
          if_neg (not_or.mpr ⟨hholder, hi⟩)]
        exact .of_moved (i := i) (l := refused) rfl h.inv hrefused.1 (by simp [hrefused.2, hi])
          fun j _ => ⟨h.knows j, h.locked j⟩
  | commit d l =>
      obtain ⟨hinv, hown, hothers⟩ := ha
      obtain ⟨hgone, hrest⟩ := h.release i
      refine .of_moved (i := i) (l := l) rfl hinv hown.1 ⟨fun hl => absurd hl hown.2, fun hi => absurd hi hgone⟩
        fun j hj => ⟨hothers _ (h.knows j) ?_, hrest j hj⟩
      -- the lock has one holder
      rintro ⟨hi, hj'⟩
      exact hj (Option.some.inj (((h.locked j).mp hj').symm.trans ((h.locked i).mp hi)))
  | rollback l =>
      obtain ⟨hgone, hrest⟩ := h.release i
      exact .of_moved (i := i) (l := l) rfl h.inv ha.1 ⟨fun hl => absurd hl ha.2, fun hi => absurd hi hgone⟩
        fun j hj => ⟨h.knows j, hrest j hj⟩

/-- **Run rule**: if every statement that meets `ok` is sound, a run that meets `ok` keeps the outline. -/
theorem Outline.Holds.run {ok : C → D → L → Prop}
    (hP : ∀ c d l, A.inv d → A.knows d l → ok c d l → A.Sound d l (P c d l)) {es : List (Event C)}
    (h : A.Holds m) (hes : Meets P ok es m) : A.Holds (Runs.run (exec P) es m) :=
  Runs.run_keeps (fun e _ hm hok => hm.perform (hP _ _ _ hm.inv (hm.knows e.thread) hok)) hes h

/-- A run under no condition. -/
theorem Meets.always (es : List (Event C)) (m : Machine D L) : Meets P (fun _ _ _ => True) es m := by
  induction es generalizing m with
  | nil => trivial
  | cons e es ih => exact ⟨trivial, ih _⟩

/-- Nobody has begun: the outline holds if the data are as asserted. -/
theorem Outline.Holds.start {d : D} {l : L} (hinv : A.inv d) (hknows : A.knows d l) (hlocked : ¬ A.locked l) :
    A.Holds ⟨d, none, fun _ => l⟩ :=
  ⟨hinv, fun _ => hknows, fun _ => by simp [hlocked]⟩

end Transactions
