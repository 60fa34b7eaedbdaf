import GreaterWill.Engine.CrashLoop
import GreaterWill.Engine.PhaseExecutor
import GreaterWill.Lib.Run
import GreaterWill.Lib.Text

/-!
# Completion detection for a phase group

`CompletionDetector` of `engine/completion.rs` and the loop of the executor that asks it. A tick is
a cascade of early returns: the phase timeout, the checkpoint, a prompt that has returned, the
evidence of an error, and the idle times last. One reading of the clock stands for a tick; the
checkpoint file is read up to three times, and a read is what `read_checkpoint` gives.
-/

namespace GreaterWill

/-- State tracked by the completion detector; the times are in nanoseconds. -/
structure CompletionState where
  startedAt : Nat
  lastCheckpoint : Option Checkpoint := none
  lastPaneHash : Option UInt64 := none
  /-- When the pane content last changed. -/
  lastActivity : Nat
  nudged : Bool := false
  promptDetectedAt : Option Nat := none
  startingPhaseSequence : Option UInt32 := none
  /-- When the checkpoint last changed. -/
  lastCheckpointActivity : Nat
  lastCheckpointHash : Option UInt64 := none

inductive CompletionEvent where
  | completed
  | failed (phase : String)
  | stillRunning
  | nudge
  | stuck
  | timeout
  /-- Prompt detected, checkpoint unchanged after the grace period. -/
  | promptReturned
  | errorDetected (errorClass : ErrorClass)
  deriving DecidableEq

/-- Completion detector for a single phase group. -/
structure CompletionDetector where
  config : CompletionConfig
  groupPhases : List String
  state : CompletionState

/-- What the detector computes of texts. -/
structure DetectorProbes where
  computePaneHash : String → UInt64
  /-- The hash of phase names and their statuses. -/
  hashStatuses : List (String × String) → UInt64
  /-- `ErrorClass::from_pane_output` for a running session. -/
  paneErrorClass : String → Option ErrorClass

/-- Texts that all have one hash and show no errors. -/
def plainProbes : DetectorProbes where
  computePaneHash _ := 0
  hashStatuses _ := 0
  paneErrorClass _ := none

/-- What one round of the monitor loop finds. -/
structure DetectorTick where
  now : Nat
  pane : String
  checkpoint : Except String Checkpoint
  /-- The second read, after the grace period of a prompt. -/
  recheck : Except String Checkpoint
  /-- The read of the executor, when the prompt has returned. -/
  reread : Except String Checkpoint

/-- `Duration::from_secs` of a limit. The factor stands in front, where no reduction counts it
down. -/
def limit (secs : Nat) : Nat := 1000000000 * secs

/-- Every phase of the group is completed or skipped. -/
def isGroupComplete (groupPhases : List String) (cp : Checkpoint) : Bool :=
  groupPhases.all fun phase => (cp.phases.lookup phase).any (·.isDone)

/-- The first failed phase in the group. -/
def findFailedPhase (groupPhases : List String) (cp : Checkpoint) : Option String :=
  groupPhases.find? fun phase => (cp.phases.lookup phase).any (·.status == "failed")

/-- The prompt symbol is in the last line that is not blank. -/
def detectPrompt (pane : String) : Bool :=
  ((Text.lines pane.toList).reverse.find? fun line => !(Text.trim line).isEmpty).any
    (·.contains '❯')

/-- The statuses of the group's phases, which stand for the content of the checkpoint. -/
def groupStatuses (groupPhases : List String) (cp : Checkpoint) : List (String × String) :=
  groupPhases.filterMap fun phase => (cp.phases.lookup phase).map fun p => (phase, p.status)

namespace CompletionDetector

/-- Create a new completion detector. -/
def new (config : CompletionConfig) (groupPhases : List String) (now : Nat) :
    CompletionDetector where
  config
  groupPhases
  state := { startedAt := now, lastActivity := now, lastCheckpointActivity := now }

/-- Mark that a nudge was sent. -/
def markNudged (d : CompletionDetector) : CompletionDetector :=
  { d with state.nudged := true }

section
variable (probes : DetectorProbes) (d : CompletionDetector) (t : DetectorTick)

def timedOut : Bool := limit d.config.phaseTimeout < t.now - d.state.startedAt

def paneChanged : Bool := d.state.lastPaneHash ≠ some (probes.computePaneHash t.pane)

/-- Screen activity. -/
def seePane : CompletionDetector :=
  let state :=
    if d.paneChanged probes t then
      { d.state with lastActivity := t.now, nudged := false, promptDetectedAt := none }
    else d.state
  { d with state := { state with lastPaneHash := some (probes.computePaneHash t.pane) } }

/-- The checkpoint: completion, failure and the heartbeat. -/
def seeCheckpoint : CompletionDetector × Option CompletionEvent :=
  match t.checkpoint with
  | .error _ => (d, none)
  | .ok cp =>
    let d := { d with
      state.startingPhaseSequence :=
        d.state.startingPhaseSequence.or cp.effectivePhaseSequence }
    if isGroupComplete d.groupPhases cp then (d, some .completed)
    else
      match findFailedPhase d.groupPhases cp with
      | some phase => (d, some (.failed phase))
      | none =>
        let checkpointHash := probes.hashStatuses (groupStatuses d.groupPhases cp)
        let lastCheckpointActivity :=
          if d.state.lastCheckpointHash ≠ some checkpointHash then t.now
          else d.state.lastCheckpointActivity
        ({ d with
          state.lastCheckpointActivity := lastCheckpointActivity
          state.lastCheckpointHash := some checkpointHash
          state.lastCheckpoint := some cp }, none)

/-- A prompt that has returned: the grace period starts, and is over at a later tick. -/
def seePrompt : CompletionDetector × Option CompletionEvent :=
  if detectPrompt t.pane then
    match d.state.promptDetectedAt with
    | some detectedAt =>
      if limit d.config.promptGracePeriod < t.now - detectedAt then
        match t.recheck with
        | .ok cp =>
          if isGroupComplete d.groupPhases cp then (d, some .completed)
          else (d, some .promptReturned)
        | .error _ => (d, some .promptReturned)
      else (d, none)
    | none => ({ d with state.promptDetectedAt := some t.now }, none)
  else (d, none)

/-- The evidence of an error; keywords count only on a pane that has not changed. -/
def evidence (paneChanged : Bool) : ErrorEvidence where
  keywordMatch := if paneChanged then none else probes.paneErrorClass t.pane
  screenStallSecs := asSecs (t.now - d.state.lastActivity)
  checkpointStaleSecs := some (asSecs (t.now - d.state.lastCheckpointActivity))
  processAlive := true
  artifactsActive := false
  swarmActive := false

/-- The error evidence and the idle thresholds. -/
def judge (paneChanged : Bool) : CompletionEvent :=
  match (d.evidence probes t paneChanged).classify with
  | some errorClass => .errorDetected errorClass
  | none =>
    if paneChanged then .stillRunning
    else
      let idle := t.now - d.state.lastActivity
      if limit d.config.idleKillAfter < idle then .stuck
      else if limit d.config.idleNudgeAfter < idle ∧ d.state.nudged = false then .nudge
      else .stillRunning

/-- Perform a single detection tick. -/
def tick : CompletionDetector × CompletionEvent :=
  if d.timedOut t then (d, .timeout)
  else
    match (d.seePane probes t).seeCheckpoint probes t with
    | (seen, some event) => (seen, event)
    | (seen, none) =>
      match seen.seePrompt t with
      | (seen, some event) => (seen, event)
      | (seen, none) => (seen, seen.judge probes t (d.paneChanged probes t))

end

end CompletionDetector

/-! ## The monitor loop of the executor -/

/-- The monitoring of a session. -/
structure GroupMonitor where
  detector : CompletionDetector
  nudgeSent : Bool := false
  lastPaneContent : String := ""

/-- How the monitoring ends at an event, if it does. -/
def CompletionEvent.monitorEnd (groupPhases : List String) (t : DetectorTick) :
    CompletionEvent → Option MonitorEnd
  | completed => some .completed
  | failed phase => some (.failed phase)
  | timeout => some .timeout
  | stuck => some .stuck
  | errorDetected errorClass => some (.errorDetected errorClass)
  | promptReturned =>
    match t.reread with
    | .ok cp => if isGroupComplete groupPhases cp then some .completed else none
    | .error _ => none
  | nudge | stillRunning => none

namespace GroupMonitor

def new (config : CompletionConfig) (groupPhases : List String) (now : Nat) : GroupMonitor where
  detector := .new config groupPhases now

section
variable (probes : DetectorProbes) (m : GroupMonitor) (t : DetectorTick)

/-- The event of a round. -/
def event : CompletionEvent := (m.detector.tick probes t).2

/-- How the monitoring ends in a round, if it does. -/
def ended : Option MonitorEnd := (m.event probes t).monitorEnd m.detector.groupPhases t

/-- A nudge was sent and the pane has not changed since. -/
def nudgeSentFor : Bool := if t.pane ≠ m.lastPaneContent then false else m.nudgeSent

/-- The loop after a round. -/
def next : GroupMonitor :=
  let detector := (m.detector.tick probes t).1
  if m.event probes t = .nudge ∧ m.nudgeSentFor t = false then
    { detector := detector.markNudged, nudgeSent := true, lastPaneContent := t.pane }
  else { detector, nudgeSent := m.nudgeSentFor t, lastPaneContent := t.pane }

/-- One round of the monitor loop; none when it leaves the loop. -/
def step : Option GroupMonitor :=
  if (m.ended probes t).isSome then none else some (m.next probes t)

/-- How the monitoring ends in these rounds, with the round it ends in. -/
def monitoring : GroupMonitor → List DetectorTick → Option (DetectorTick × MonitorEnd)
  | _, [] => none
  | m, t :: ts =>
    match m.ended probes t with
    | some ended => some (t, ended)
    | none => monitoring (m.next probes t) ts

end

end GroupMonitor

end GreaterWill
