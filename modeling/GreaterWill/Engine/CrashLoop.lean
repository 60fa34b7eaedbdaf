import GreaterWill.Config.Watchdog
import GreaterWill.Lib.Map
import Mathlib.Algebra.Group.Int.Defs

/-!
# Windowed crash loop detection

`engine/crash_loop.rs`: the sliding-window crash loop detector and its events. A time is a reading
of the monotonic clock in nanoseconds since its start, a natural number. An `Instant` is an integer: one
computed from readings can lie before the start, but not before `INSTANT_MIN`, the least one the
platform represents. A `Duration` is a natural number of nanoseconds. The `u32` counters are natural
numbers: they grow by one for a crash, and every caller ends the run at the first `StopCrashLoop`,
long before they could wrap.
-/

namespace GreaterWill

/-- `Duration::from_secs`. -/
def fromSecs (n : Nat) : Nat := n * 1000000000

/-- `Duration::as_secs`. -/
def asSecs (d : Nat) : Nat := d / 1000000000

/-- The seconds of an instant are an `i64`. -/
def INSTANT_MIN : Int := -(2 ^ 63) * 1000000000

/-- `Instant::checked_sub`. -/
def checkedSub (now : Int) (d : Nat) : Option Int :=
  if INSTANT_MIN ≤ now - d then some (now - d) else none

/-- `Instant::duration_since`, which is zero for a later instant. -/
def durationSince (now t : Int) : Nat := (now - t).toNat

/-- Retries of one phase after its first attempt. -/
def DEFAULT_MAX_CRASHES_PER_PHASE : Nat := 3

inductive CrashLoopDecision where
  | allowRestart
  | stopCrashLoop
  deriving DecidableEq, Repr

structure CrashLoopDetector where
  /-- Times of the recent crashes, oldest first. -/
  crashTimes : List Int := []
  /-- Crashes in the window at which the pipeline stops. -/
  maxCrashes : Nat
  /-- The rolling window. -/
  window : Nat
  /-- How long a healthy streak lasts that resets the counters. -/
  stabilityPeriod : Nat
  /-- When the current healthy streak started. -/
  healthySince : Option Int := none
  totalRestarts : Nat := 0
  /-- Restarts at which the pipeline stops, whatever their times. -/
  maxTotalRestarts : Nat
  /-- Crashes of a phase since the buckets were cleared, not pruned by the window. -/
  perPhaseCrashes : Map String Nat := ∅
  maxPerPhase : Nat := DEFAULT_MAX_CRASHES_PER_PHASE
  /-- The phase of the last crash that came with one. -/
  lastCrashPhase : Option String := none

namespace CrashLoopDetector

def withTotalLimit (maxCrashes windowSecs stabilitySecs maxTotal : Nat) : CrashLoopDetector :=
  -- a healthy second does not clear the counters: there is a floor of a minute
  let effectiveStability := if 0 < stabilitySecs ∧ stabilitySecs < 60 then 60 else stabilitySecs
  { maxCrashes
    window := fromSecs windowSecs
    stabilityPeriod := fromSecs effectiveStability
    maxTotalRestarts := max maxTotal maxCrashes }

def new (maxCrashes windowSecs stabilitySecs : Nat) : CrashLoopDetector :=
  withTotalLimit maxCrashes windowSecs stabilitySecs (maxCrashes * 2)

def fromWatchdog (cfg : WatchdogConfig) : CrashLoopDetector :=
  withTotalLimit cfg.maxCrashRetries cfg.crashWindowSecs cfg.crashStabilitySecs
    cfg.maxTotalCrashRetries

variable (d : CrashLoopDetector)

/-- Crashes of `phase` since the buckets were cleared. -/
def crashesForPhase (phase : String) : Nat := (d.perPhaseCrashes.lookup phase).getD 0

/-- The pipeline has advanced to a new phase: every phase gets a fresh budget. -/
def recordPhaseTransition : CrashLoopDetector := { d with perPhaseCrashes := ∅ }

/-- Attribute a crash to the bucket of its phase; also the crashes of the bucket then. A crash in
another phase than the last one is a transition. -/
def attributePhase (key : String) : CrashLoopDetector × Nat :=
  let isTransition := d.lastCrashPhase.any (· ≠ key)
  let d := if isTransition then d.recordPhaseTransition else d
  let count := d.crashesForPhase key + 1
  ({ d with perPhaseCrashes := d.perPhaseCrashes.insert key count, lastCrashPhase := some key },
    count)

/-- Attribute a crash to its phase, if that is known. -/
def charge : Option String → CrashLoopDetector × Nat
  | some key => d.attributePhase key
  | none => (d, 0)

/-- Drop the crashes that left the window from the front. -/
def prune (now : Int) : CrashLoopDetector :=
  let cutoff := (checkedSub now d.window).getD now
  { d with crashTimes := d.crashTimes.dropWhile (· < cutoff) }

/-- Record a crash at `now`, in `phase` if that is known, and decide whether to go on. -/
def recordRestartForPhase (phase : Option String) (now : Int) :
    CrashLoopDetector × CrashLoopDecision :=
  let d := { d with
    totalRestarts := d.totalRestarts + 1
    crashTimes := d.crashTimes ++ [now]
    healthySince := none }
  let (d, phaseCount) := d.charge phase
  if d.maxTotalRestarts ≤ d.totalRestarts then
    (d, .stopCrashLoop)
  else if phase.isSome ∧ 0 < d.maxPerPhase ∧ d.maxPerPhase < phaseCount then
    (d, .stopCrashLoop)
  else
    let d := d.prune now
    if d.maxCrashes ≤ d.crashTimes.length then (d, .stopCrashLoop) else (d, .allowRestart)

/-- Record a crash that no phase is known for. -/
def recordRestart (now : Int) : CrashLoopDetector × CrashLoopDecision :=
  d.recordRestartForPhase none now

/-- What a stability reset at `now` leaves. -/
def reset (now : Int) : CrashLoopDetector :=
  { d with
    crashTimes := []
    perPhaseCrashes := ∅
    totalRestarts := 0
    healthySince := some now }

/-- Called periodically during healthy execution. -/
def recordHealthyTick (now : Int) : CrashLoopDetector :=
  match d.healthySince with
  | some since =>
    if d.stabilityPeriod ≤ durationSince now since then d.reset now else d
  | none => { d with healthySince := some now }

/-- A session has run for `durationSecs`. -/
def recordHealthyRuntime (durationSecs : Nat) (now : Int) : CrashLoopDetector :=
  -- a session that ran for 0 seconds was not healthy
  if durationSecs = 0 then
    d
  else if asSecs d.stabilityPeriod ≤ durationSecs then
    d.reset now
  else if d.healthySince.isNone then
    { d with healthySince := some now }
  else
    d

end CrashLoopDetector

/-! ## Events -/

/-- A call to the detector; `now` is the clock reading of the call. -/
inductive CrashEvent where
  | crash (phase : Option String) (now : Nat)
  | phaseTransition
  | healthyTick (now : Nat)
  | healthyRuntime (durationSecs now : Nat)

/-- The clock reading of the call, for the calls that read the clock. -/
def CrashEvent.time : CrashEvent → Option Nat
  | .crash _ now | .healthyTick now | .healthyRuntime _ now => some now
  | .phaseTransition => none

/-- Take the call; also the answer to a crash. -/
def CrashLoopDetector.step (d : CrashLoopDetector) :
    CrashEvent → CrashLoopDetector × Option CrashLoopDecision
  | .crash phase now =>
    let (d, decision) := d.recordRestartForPhase phase now
    (d, some decision)
  | .phaseTransition => (d.recordPhaseTransition, none)
  | .healthyTick now => (d.recordHealthyTick now, none)
  | .healthyRuntime durationSecs now => (d.recordHealthyRuntime durationSecs now, none)

end GreaterWill
