import Mathlib.Init

/-!
# `Lib.Runs` — runs of a system, and what holds along them

`exec c s` is the state after the command `c`, and a run is a list of commands. What a single command keeps,
a whole run keeps, also under a condition on each command and the state it meets. Where a command keeps an
invariant exactly when it meets its condition, the invariant holds throughout exactly the runs that do.
-/

namespace Runs

variable {C S : Type} (exec : C → S → S) (ok : C → S → Prop)

/-- The state after a list of commands. -/
def run : List C → S → S
  | [],      s => s
  | c :: cs, s => run cs (exec c s)

/-- Every command meets a state it is allowed in. -/
def AllMeet : List C → S → Prop
  | [],      _ => True
  | c :: cs, s => ok c s ∧ AllMeet cs (exec c s)

variable {exec ok}

/-- **Run rule**: what every allowed command keeps, every run of allowed commands keeps. -/
theorem run_keeps {I : S → Prop} (hstep : ∀ c s, I s → ok c s → I (exec c s)) {cs : List C} {s : S}
    (hcs : AllMeet exec ok cs s) (hs : I s) : I (run exec cs s) := by
  induction cs generalizing s with
  | nil => exact hs
  | cons c cs ih => exact ih hcs.2 (hstep c s hs hcs.1)

theorem run_append (cs ds : List C) (s : S) : run exec (cs ++ ds) s = run exec ds (run exec cs s) := by
  induction cs generalizing s with
  | nil => rfl
  | cons c cs ih => exact ih (exec c s)

/-- Conditions that are the same for every command are the same along a run. -/
theorem allMeet_congr {ok₁ ok₂ : C → S → Prop} (h : ∀ c s, ok₁ c s ↔ ok₂ c s) {cs : List C} {s : S} :
    AllMeet exec ok₁ cs s ↔ AllMeet exec ok₂ cs s := by
  induction cs generalizing s with
  | nil => exact Iff.rfl
  | cons c cs ih => exact and_congr (h c s) ih

/-- The last command of a run meets the state the others lead to. -/
theorem AllMeet.last {cs : List C} {c : C} {s : S} (h : AllMeet exec ok (cs ++ [c]) s) :
    ok c (run exec cs s) := by
  induction cs generalizing s with
  | nil => exact h.1
  | cons _ cs ih => exact ih h.2

/-- Commands that meet two conditions meet any condition the two imply. -/
theorem AllMeet.combine {ok₁ ok₂ : C → S → Prop} (h : ∀ c s, ok₁ c s → ok₂ c s → ok c s) {cs : List C}
    {s : S} (h₁ : AllMeet exec ok₁ cs s) (h₂ : AllMeet exec ok₂ cs s) : AllMeet exec ok cs s := by
  induction cs generalizing s with
  | nil => trivial
  | cons c cs ih => exact ⟨h c s h₁.1 h₂.1, ih h₁.2 h₂.2⟩

variable (exec) in
/-- The commands of a run with the states they meet. -/
def meetings : List C → S → List (C × S)
  | [],      _ => []
  | c :: cs, s => (c, s) :: meetings cs (exec c s)

variable (exec) in
theorem map_fst_meetings (cs : List C) (s : S) : (meetings exec cs s).map Prod.fst = cs := by
  induction cs generalizing s with
  | nil => rfl
  | cons c cs ih => exact congrArg (c :: ·) (ih (exec c s))

theorem meetings_append (cs ds : List C) (s : S) :
    meetings exec (cs ++ ds) s = meetings exec cs s ++ meetings exec ds (run exec cs s) := by
  induction cs generalizing s with
  | nil => rfl
  | cons c cs ih => exact congrArg ((c, s) :: ·) (ih (exec c s))

theorem fst_mem_of_mem_meetings {cs : List C} {s : S} {x : C × S} (h : x ∈ meetings exec cs s) : x.1 ∈ cs := by
  rw [← map_fst_meetings exec cs s]
  exact List.mem_map_of_mem h

/-- A run meets its condition if all its meetings do. -/
theorem allMeet_iff_forall {cs : List C} {s : S} :
    AllMeet exec ok cs s ↔ ∀ x ∈ meetings exec cs s, ok x.1 x.2 := by
  induction cs generalizing s with
  | nil => exact ⟨fun _ x hx => (List.not_mem_nil hx).elim, fun _ => trivial⟩
  | cons c cs ih =>
      rw [AllMeet, meetings, List.forall_mem_cons, ih]

variable (exec) in
/-- `I` holds in every state of a run, the first and the last included. -/
def Always (I : S → Prop) : List C → S → Prop
  | [],      s => I s
  | c :: cs, s => I s ∧ Always I cs (exec c s)

/-- What always holds, holds at the end. -/
theorem Always.last {I : S → Prop} {cs : List C} {s : S} (h : Always exec I cs s) : I (run exec cs s) := by
  induction cs generalizing s with
  | nil => exact h
  | cons c cs ih => exact ih h.2

/-- **Exactness rule**: if a command keeps `I` exactly when it is allowed, `I` always holds in exactly the
    runs of allowed commands. `J` is what every command keeps. -/
theorem always_iff_allMeet {I J : S → Prop} (hJ : ∀ c s, J s → J (exec c s))
    (hI : ∀ c s, J s → I s → (I (exec c s) ↔ ok c s)) {cs : List C} {s : S} (hsJ : J s) (hsI : I s) :
    Always exec I cs s ↔ AllMeet exec ok cs s := by
  have hhead : ∀ (cs : List C) (s : S), Always exec I cs s → I s := by
    intro cs s h
    cases cs with
    | nil => exact h
    | cons c cs => exact h.1
  induction cs generalizing s with
  | nil => exact ⟨fun _ => trivial, fun _ => hsI⟩
  | cons c cs ih =>
      constructor
      · intro h
        have hnext := hhead cs _ h.2
        exact ⟨(hI c s hsJ hsI).mp hnext, (ih (hJ c s hsJ) hnext).mp h.2⟩
      · intro h
        exact ⟨hsI, (ih (hJ c s hsJ) ((hI c s hsJ hsI).mpr h.1)).mpr h.2⟩

end Runs
