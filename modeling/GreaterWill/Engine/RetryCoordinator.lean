import GreaterWill.Engine.Retry
import GreaterWill.Lib.Map

/-!
# Retries of the phase groups

`RetryCoordinator` of `engine/retry.rs`: how often a group has failed, and whether it is tried
again. Durations are in seconds; the time of a failure comes with it, in nanoseconds.
-/

namespace GreaterWill

namespace ErrorClass

/-- The default backoff duration. -/
def defaultBackoff : ErrorClass → Nat
  | apiOverload => 15 * 60
  | authError | requestTooLarge | bootstrapError => 0
  | crash | stuck | timeout | networkError | permissionBlocked => 30

/-- The backoff duration for a specific attempt; it doubles for an overload of the API. -/
def backoffForAttempt (e : ErrorClass) (attempt : Nat) : Nat :=
  match e with
  | apiOverload =>
    let minutes := [15, 30, 60, 120]
    (minutes[min attempt (minutes.length - 1)]?).getD 0 * 60
  | _ => e.defaultBackoff

end ErrorClass

/-- Per-phase retry state tracker. -/
structure RetryState where
  errorClass : ErrorClass
  attempts : Nat := 0
  lastFailure : Option Nat := none
  isRapidFailure : Bool := false

namespace RetryState

/-- The third failure and those after it are rapid within 30 seconds of the one before. -/
def recordFailure (s : RetryState) (now : Nat) : RetryState :=
  { s with
    attempts := s.attempts + 1
    lastFailure := some now
    isRapidFailure := s.isRapidFailure || s.lastFailure.any fun previous =>
      decide (now - previous < 30 * 1000000000) && decide (3 ≤ s.attempts + 1) }

def isExhausted (s : RetryState) : Bool := decide (s.errorClass.maxRetries ≤ s.attempts)

def nextBackoff (s : RetryState) : Nat :=
  if s.isRapidFailure then 180 else s.errorClass.backoffForAttempt s.attempts

end RetryState

inductive RetryDecision where
  | retry (after : Nat)
  | skipPlan
  | exhausted
  deriving DecidableEq

structure RetryCoordinator where
  /-- By the group's name. -/
  states : Map String RetryState := ∅
  globalFailureCount : Nat := 0

namespace RetryCoordinator

/-- Whether a failed group is tried again. -/
def shouldRetry (c : RetryCoordinator) (groupName : String) (errorClass : ErrorClass)
    (now : Nat) : RetryDecision × RetryCoordinator :=
  if errorClass.skipsPlan then (.skipPlan, c)
  else
    let state := (c.states.lookup groupName).getD { errorClass }
    let state := { state with errorClass }
    if state.isExhausted then
      (.exhausted, { c with states := c.states.insert groupName state })
    else
      let state := state.recordFailure now
      (.retry state.nextBackoff,
        { states := c.states.insert groupName state
          globalFailureCount := c.globalFailureCount + 1 })

/-- Reset the retry state of a group. -/
def reset (c : RetryCoordinator) (groupName : String) : RetryCoordinator :=
  { c with states := c.states.erase groupName }

end RetryCoordinator

end GreaterWill
