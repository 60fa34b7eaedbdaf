/-!
# Error evidence

The classes of errors and the evidence the monitor weighs before it acts on one. The confidence is
counted in tenths; the sums of the source's `f64` weights compare with its threshold as these do.
-/

namespace GreaterWill

/-- Classification of errors during a phase. -/
inductive ErrorClass where
  | crash
  | stuck
  | timeout
  | apiOverload
  | authError
  | networkError
  | permissionBlocked
  | requestTooLarge
  | bootstrapError
  deriving DecidableEq

/-- The `Debug` text. -/
def ErrorClass.debug : ErrorClass → String
  | crash => "Crash"
  | stuck => "Stuck"
  | timeout => "Timeout"
  | apiOverload => "ApiOverload"
  | authError => "AuthError"
  | networkError => "NetworkError"
  | permissionBlocked => "PermissionBlocked"
  | requestTooLarge => "RequestTooLarge"
  | bootstrapError => "BootstrapError"

/-- Whether the class skips the entire plan. -/
def ErrorClass.skipsPlan : ErrorClass → Bool
  | authError | requestTooLarge | bootstrapError => true
  | _ => false

/-- The maximum number of retries for the class. -/
def ErrorClass.maxRetries : ErrorClass → Nat
  | crash | timeout | networkError => 3
  | stuck | permissionBlocked => 2
  | apiOverload => 4
  | authError | requestTooLarge | bootstrapError => 0

/-- Stall time from which a screen or a checkpoint counts as stalled. -/
def ERROR_STALL_THRESHOLD_SECS : Nat := 60

structure ErrorEvidence where
  /-- Error keyword in the tail of the pane. -/
  keywordMatch : Option ErrorClass
  screenStallSecs : Nat
  checkpointStaleSecs : Option Nat
  processAlive : Bool
  artifactsActive : Bool
  swarmActive : Bool

namespace ErrorEvidence
variable (e : ErrorEvidence)

/-- Combined confidence, from 0 to 10 tenths. -/
def confidence : Int :=
  let score : Int := if e.keywordMatch.isSome then 2 else 0
  let score := if ERROR_STALL_THRESHOLD_SECS ≤ e.screenStallSecs then score + 3 else score
  let score :=
    match e.checkpointStaleSecs with
    | some stale => if ERROR_STALL_THRESHOLD_SECS ≤ stale then score + 3 else score - 2
    | none => score
  let score := if e.artifactsActive then score - 2 else score
  let score := if e.swarmActive then score - 3 else score
  let score := if e.processAlive then score else max (score + 5) 5
  min (max score 0) 10

/-- Whether there is an error indicator and enough confidence to act on it. -/
def shouldAct : Bool :=
  if e.keywordMatch.isNone && e.processAlive then false else decide (5 ≤ e.confidence)

/-- The error class, if the evidence suffices; a dead process without a keyword is a crash. -/
def classify : Option ErrorClass :=
  if e.shouldAct then some (e.keywordMatch.getD .crash) else none

end ErrorEvidence

end GreaterWill
