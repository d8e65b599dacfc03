import TradingAI.Domain.Values

/-!
# `Experiments.StatusMachine` — the lifecycle actions of the API

The two tables of `status_machine.py` and the check that reads them. A user can start, pause, resume and
stop an experiment; each action has the statuses it is allowed from and the one it leads to.

## Contents
- `LifecycleAction`, `lifecycleTransitions`, `targetStatus`.
- `validateTransition`, `validateTransition_eq_ok`.
-/

namespace TradingAI

inductive LifecycleAction
  | start | pause | resume | stop
  deriving DecidableEq, Repr

/-- `LIFECYCLE_TRANSITIONS`. -/
def lifecycleTransitions : LifecycleAction → List ExperimentStatus
  | .start  => [.created]
  | .pause  => [.running]
  | .resume => [.paused]
  | .stop   => [.running, .paused]

/-- `TARGET_STATUSES`. -/
def targetStatus : LifecycleAction → ExperimentStatus
  | .start  => .running
  | .pause  => .paused
  | .resume => .running
  | .stop   => .stopped

/-- `action_label`. -/
def LifecycleAction.label : LifecycleAction → String
  | .start  => "started"
  | .pause  => "paused"
  | .resume => "resumed"
  | .stop   => "stopped"

/-- `validate_transition`. -/
def validateTransition (action : LifecycleAction) (currentStatus : ExperimentStatus) :
    Except Raised ExperimentStatus :=
  if currentStatus ∈ lifecycleTransitions action then .ok (targetStatus action)
  else
    .error (invalidStatusAppError
      ("Experiment cannot be " ++ action.label ++ " from status " ++ currentStatus.value ++ ".") [])

/-- What the check lets through, and where it leads. -/
theorem validateTransition_eq_ok {action : LifecycleAction} {s t : ExperimentStatus} :
    validateTransition action s = .ok t ↔ s ∈ lifecycleTransitions action ∧ targetStatus action = t := by
  unfold validateTransition
  split
  · next h => simp [h]
  · next h => simp [h]

end TradingAI
