import GreaterWill.Engine.PhaseGroup
import GreaterWill.Lib.Run

/-!
# The batch runner

`BatchRunner` and `BatchState` of `batch/queue.rs` and `batch/state.rs`. The state is written to
`.gw/batch-state.json` by a rename, so that a crash leaves the old file or the new one; what `load`
makes of the file is what `save` has written. A step of `run` goes from one point at which a crash
can tell to the next one.

Durations are in nanoseconds. The counter of failures wraps around, as it does in a release build.
-/

namespace GreaterWill

/-- Outcome of a single plan execution. -/
inductive PlanOutcome where
  | passed
  | failed
  | skipped
  deriving DecidableEq

/-- Result of a single plan execution. -/
structure PlanResult where
  plan : String
  outcome : PlanOutcome
  duration : Nat
  completedAt : Int
  error : Option String
  /-- Transient failures do not count toward the circuit breaker. -/
  transient : Bool
  deriving DecidableEq

structure CircuitBreakerState where
  consecutiveFailures : UInt32
  /-- Failures at which the breaker trips; 0 disables it. -/
  maxFailures : UInt32
  tripped : Bool
  deriving DecidableEq

/-- Persistent batch execution state. -/
structure BatchState where
  batchId : String
  plans : List String
  /-- The plan being executed, or the next one. -/
  currentIndex : Nat
  results : List PlanResult
  circuitBreaker : CircuitBreakerState
  startedAt : Int
  updatedAt : Int
  deriving DecidableEq

namespace BatchState

/-- A new batch. -/
def new (batchId : String) (plans : List String) (now : Int) : BatchState where
  batchId := batchId
  plans := plans
  currentIndex := 0
  results := []
  circuitBreaker := { consecutiveFailures := 0, maxFailures := 3, tripped := false }
  startedAt := now
  updatedAt := now

variable (s : BatchState)

def withMaxFailures (maxFailures : UInt32) : BatchState :=
  { s with circuitBreaker := { s.circuitBreaker with maxFailures } }

def isCircuitBroken : Bool := s.circuitBreaker.tripped

/-- The circuit breaker after a result. -/
def breakerAfter (result : PlanResult) : CircuitBreakerState :=
  match result.outcome with
  | .passed => { s.circuitBreaker with consecutiveFailures := 0, tripped := false }
  | .failed =>
    if result.transient then s.circuitBreaker
    else
      let failures := s.circuitBreaker.consecutiveFailures + 1
      { s.circuitBreaker with
        consecutiveFailures := failures
        tripped := decide (0 < s.circuitBreaker.maxFailures ∧
          s.circuitBreaker.maxFailures ≤ failures) || s.circuitBreaker.tripped }
  | .skipped => s.circuitBreaker

/-- Record a plan result and update the circuit breaker. -/
def recordResult (result : PlanResult) : BatchState :=
  let s := { s with circuitBreaker := s.breakerAfter result }
  if s.plans.length ≤ s.currentIndex then s
  else { s with results := s.results ++ [result], currentIndex := s.currentIndex + 1 }

end BatchState

/-- Summary of a batch execution. -/
structure BatchSummary where
  batchId : String
  passed : Nat
  failed : Nat
  skipped : Nat
  duration : Nat
  results : List PlanResult

/-- Build the final batch summary. -/
def BatchState.buildSummary (s : BatchState) (duration : Nat) : BatchSummary where
  batchId := s.batchId
  passed := (s.results.filter fun r => r.outcome = .passed).length
  failed := (s.results.filter fun r => r.outcome = .failed).length
  skipped := (s.results.filter fun r => r.outcome = .skipped).length
  duration := duration
  results := s.results

/-- Where the runner is in `run`. -/
inductive RunPoint where
  /-- Before the initial state is saved. -/
  | start
  /-- At the head of the loop. -/
  | next
  /-- The plan is popped, and is to be cleaned up for and executed. -/
  | popped (plan : String)
  /-- A result is recorded and not yet saved. -/
  | recorded
  /-- The first skipped plan is recorded and not yet saved. -/
  | firstSkipped
  /-- In the inner loop. -/
  | skipping
  /-- The inner loop is done, its results are not yet saved. -/
  | skipped
  /-- `run` has returned `Ok`. -/
  | done
  deriving DecidableEq

structure BatchRunner where
  queue : List String
  batchState : BatchState
  planTimeout : Nat
  point : RunPoint
  deriving DecidableEq

/-- What a step of `run` finds. -/
structure BatchInput where
  now : Int
  /-- The state file can be written. -/
  saved : Bool
  /-- Why there is not enough disk space. -/
  diskSpaceError : Option String
  /-- `startup_cleanup` succeeds. -/
  cleanedUp : Bool
  planExists : Bool
  /-- What the executor of the phase groups returns. -/
  executed : Except String (List PhaseGroupResult)
  duration : Nat
  /-- The duration as it is printed, in whole seconds. -/
  durationText : String

namespace BatchRunner

/-- A result for a plan that was not executed. -/
def unexecuted (plan : String) (outcome : PlanOutcome) (error : String) (now : Int) :
    PlanResult where
  plan := plan
  outcome := outcome
  duration := 0
  completedAt := now
  error := some error
  transient := false

def skipResult (plan : String) (now : Int) : PlanResult :=
  unexecuted plan .skipped "Circuit breaker tripped" now

variable (r : BatchRunner) (input : BatchInput)

/-- Execute a single plan. -/
def executePlan (plan : String) : PlanResult :=
  if !input.planExists then
    unexecuted plan .failed s!"Plan file not found: {plan}" input.now
  else
    match input.executed with
    | .ok results =>
      if results.any (·.state.isFailed) then
        { plan := plan
          outcome := .failed
          duration := input.duration
          completedAt := input.now
          error := some ("; ".intercalate (results.filterMap (·.errorMessage)))
          transient := results.any (·.state.isTransient) }
      else
        { plan := plan
          outcome := .passed
          duration := input.duration
          completedAt := input.now
          error := none
          transient := false }
    | .error e =>
      { plan := plan
        outcome := .failed
        duration := input.duration
        completedAt := input.now
        error := some
          (if r.planTimeout ≤ input.duration then
            s!"Plan timed out after {input.durationText}s: {e}"
          else e)
        transient := false }

/-- Record the result of the plan that was popped. -/
def record (result : PlanResult) (point : RunPoint) : BatchRunner :=
  { r with batchState := r.batchState.recordResult result, point }

/-- Save the state: the runner after it, and the file. None if it cannot be written, which ends
`run`. -/
def save (file : Option BatchState) (point : RunPoint) : Option BatchRunner × Option BatchState :=
  if input.saved then
    let batchState := { r.batchState with updatedAt := input.now }
    (some { r with batchState, point }, some batchState)
  else (none, file)

/-- One step of `run`: the runner after it, none if `run` returns an error; and the state file. -/
def step (file : Option BatchState) : Option BatchRunner × Option BatchState :=
  match r.point with
  | .start => r.save input file .next
  | .next =>
    match r.queue with
    | [] => (some { r with point := .done }, file)
    | plan :: queue =>
      let r := { r with queue }
      if r.batchState.isCircuitBroken then
        (some (r.record (skipResult plan input.now) .firstSkipped), file)
      else
        match input.diskSpaceError with
        | some e =>
          (some (r.record
            (unexecuted plan .failed s!"Disk space check failed: {e}" input.now) .recorded), file)
        | none => (some { r with point := .popped plan }, file)
  | .popped plan =>
    -- no cleanup before the first plan
    if !r.batchState.results.isEmpty && !input.cleanedUp then (none, file)
    else (some (r.record (r.executePlan input plan) .recorded), file)
  | .recorded => r.save input file .next
  | .firstSkipped => r.save input file .skipping
  | .skipping =>
    match r.queue with
    | [] => (some { r with point := .skipped }, file)
    | plan :: queue =>
      (some ({ r with queue }.record (skipResult plan input.now) .skipping), file)
  | .skipped => r.save input file .done
  | .done => (some r, file)

end BatchRunner

/-- The state file of a directory and the runner in it: the instance lock admits one. -/
structure BatchSystem where
  file : Option BatchState
  runner : Option BatchRunner
  deriving DecidableEq

inductive BatchEvent where
  /-- `BatchRunner::new`, with any bound on the failures; the default is 3. -/
  | new (batchId : String) (plans : List String) (maxFailures : UInt32) (planTimeout : Nat)
      (now : Int)
  /-- `BatchRunner::resume`. -/
  | resume (planTimeout : Nat)
  /-- A step of `run`. -/
  | step (input : BatchInput)
  /-- The process ends, wherever it is. -/
  | crash

namespace BatchSystem

/-- A directory without a batch. -/
def empty : BatchSystem := { file := none, runner := none }

def next (b : BatchSystem) : BatchEvent → Option BatchSystem
  | .new batchId plans maxFailures planTimeout now =>
    match b.runner with
    | some _ => none
    | none => some { b with
        runner := some {
          queue := plans
          batchState := (BatchState.new batchId plans now).withMaxFailures maxFailures
          planTimeout
          point := .start } }
  | .resume planTimeout =>
    match b.runner, b.file with
    | none, some batchState => some { b with
        runner := some {
          queue := batchState.plans.drop batchState.currentIndex
          batchState
          planTimeout
          point := .start } }
    | _, _ => none
  | .step input =>
    match b.runner with
    | none => none
    | some r =>
      let (runner, file) := r.step input b.file
      some { file, runner }
  | .crash =>
    match b.runner with
    | none => none
    | some _ => some { b with runner := none }

end BatchSystem

end GreaterWill
