import GreaterWill.Engine.CheckpointCache
import GreaterWill.Engine.PhaseProfile
import GreaterWill.Engine.Retry
import GreaterWill.Monitor.PromptAccept

/-!
# The run monitor of the daemon

One monitor per run. A tick reads the run's surroundings (`Surroundings`) and either ends with an
outcome or changes the monitor's state; what it sends to the session (nudges, crash dumps, the
kill) does not come back to it and is left out. Within a tick no time passes, and files do not
change.

`Probes` has what the monitor calls and this development does not look into: `serde_json`, the
hash of the pane text, lower case, the error keywords and the parser of timestamps.
-/

namespace GreaterWill

def KILL_GATE_MIN_SECS : Nat := 300
def COMPLETION_GRACE_SECS : Nat := 300
def LOOP_STATE_GONE_GRACE_SECS : Nat := 300
def KILL_GATE_RECOVERY_WINDOW_SECS : Nat := 30
/-- The daemon's `MIN_COMPLETION_AGE_SECS`. -/
def DAEMON_MIN_COMPLETION_AGE_SECS : Nat := 60
/-- Consecutive unreachable probes at which the session counts as gone. -/
def UNREACHABLE_GRACE_TICKS : Nat := 3
def TRANSITION_NUDGE_SECS : Nat := 300
def TRANSITION_WARN_SECS : Nat := 480
def TRANSITION_KILL_SECS : Nat := 660
def FAILED_NUDGE_SECS : Nat := 360
def FAILED_WARN_SECS : Nat := 540
def FAILED_KILL_SECS : Nat := 720

/-- Terminal outcome of a monitored run. -/
inductive DaemonRunOutcome where
  | completed
  | failed (reason : String)
  | crashed (reason : String)
  | timeout (reason : String)
  | stuck (reason : String)
  | errorDetected (errorClass : ErrorClass) (reason : String)
  deriving DecidableEq

/-- What a pending kill is for. -/
inductive KillOutcomeKind where
  | stuck
  | timeout
  | errorDetected (errorClass : ErrorClass)
  deriving DecidableEq

/-- A kill under its confirmation window. -/
structure PendingKillRequest where
  reason : String
  outcome : KillOutcomeKind
  startedAt : Int
  /-- The nudge at half of the window has been sent. -/
  nudgeSent : Bool := false
  deriving DecidableEq

/-- The outcome of an executed kill. -/
def PendingKillRequest.finalOutcome (pk : PendingKillRequest) : DaemonRunOutcome :=
  match pk.outcome with
  | .stuck => .stuck pk.reason
  | .timeout => .timeout pk.reason
  | .errorDetected errorClass => .errorDetected errorClass pk.reason

/-- File count and total size of an artifact directory. -/
structure ArtifactSnapshot where
  fileCount : Nat
  totalBytes : Nat
  deriving DecidableEq

/-- `tmux has-session`, or no answer from `tmux`. -/
inductive SessionProbe where
  | present
  | absent
  | unreachable
  deriving DecidableEq

/-- What the monitor calls on what it reads. -/
structure Probes where
  serde : SerdeValue
  hashStr : String → UInt64
  toLowercase : List Char → List Char
  /-- `ErrorClass::from_pane_output` for a running session. -/
  paneErrorClass : String → Option ErrorClass
  /-- A timestamp in nanoseconds. -/
  parseRfc3339 : String → Option Int

/-- What a tick finds. -/
structure Surroundings where
  /-- The monotonic clock. -/
  now : Nat
  /-- The wall clock in nanoseconds. -/
  utcNow : Int
  files : Files
  /-- The permission-pending signal was written in the last minute. -/
  permissionPending : Bool
  probe : SessionProbe
  /-- The captured pane; none when the capture fails. -/
  pane : Option String
  /-- `tmux` would send an Enter. -/
  enterSent : Bool
  pidAlive : UInt32 → Bool
  /-- There is a swarm server for the process. -/
  swarm : UInt32 → Bool
  online : Bool
  scanArtifactDir : PathBuf → Option ArtifactSnapshot

/-- Per-run monitor. -/
structure DaemonRunMonitor where
  repoDir : PathBuf
  claudePid : Option UInt32
  watchdog : WatchdogConfig
  /-- The run's clock, kept across recoveries. -/
  runStartedAt : Int
  /-- The monitor's clock, new with every recovery. -/
  monitorStartedAt : Int
  phaseStartedAt : Option Int := none
  currentPhase : Option String := none
  currentProfile : PhaseProfile := defaultProfile
  effectivePhaseTimeout : Nat := defaultProfile.phaseTimeoutSecs
  lastPaneHash : UInt64 := 0
  lastActivity : Int
  nudgeCount : Nat := 0
  lastCheckpointActivity : Int
  cachedCheckpointPath : Option PathBuf := none
  /-- Since when an error class is being confirmed. -/
  errorConfirmSince : Option (Int × ErrorClass) := none
  loopStateEverSeen : Bool := false
  loopStateGoneSince : Option Int := none
  prevLoopState : Option ArcLoopState := none
  lastLoopStateChange : Int
  lastArtifactScan : Int
  lastArtifactActivity : Int
  lastArtifactSnapshot : Option ArtifactSnapshot := none
  pendingKill : Option PendingKillRequest := none
  completionDetectedAt : Option Int := none
  inTransitionSince : Option Int := none
  transitionNudgeCount : Nat := 0
  inFailedSince : Option Int := none
  failedNudgeCount : Nat := 0
  lastProcessGoneAt : Option Int := none
  consecutiveUnreachable : Nat := 0
  cachedSwarmActive : Bool := false
  lastSwarmCheck : Int
  promptAcceptor : PromptAcceptor

/-- `Instant::elapsed` in whole seconds. -/
def elapsedSecs (now : Nat) (t : Int) : Nat := asSecs (durationSince now t)

/-- Seconds since the last phase completed, in a transition. -/
def PhasePosition.transitionGapSecs (parseRfc3339 : String → Option Int) (utcNow : Int) :
    PhasePosition → Option Nat
  | transitioning _ (some ts) _ =>
    (parseRfc3339 ts).map fun dt => (utcNow - dt).toNat / 1000000000
  | _ => none

namespace DaemonRunMonitor

/-- A new monitor for a run that started at `startedAt` on the wall clock. -/
def new (repoDir : PathBuf) (claudePid : Option UInt32) (startedAt : Int)
    (watchdog : WatchdogConfig) (utcNow : Int) (now : Nat) : DaemonRunMonitor where
  repoDir := repoDir
  claudePid := claudePid
  watchdog := watchdog
  runStartedAt := (checkedSub now (utcNow - startedAt).toNat).getD now
  monitorStartedAt := now
  lastActivity := now
  lastCheckpointActivity := now
  lastLoopStateChange := now
  lastArtifactScan := now
  lastArtifactActivity := now
  lastSwarmCheck := now
  promptAcceptor :=
    { debounce := fromSecs watchdog.promptAcceptDebounceSecs
      enabled := watchdog.promptAcceptEnabled }

section
variable (probes : Probes) (m : DaemonRunMonitor) (w : Surroundings)

/-- The clocks that matter for a crash, for its reason. -/
def crashClockSuffix : String :=
  let monitorAge := elapsedSecs w.now m.monitorStartedAt
  let phaseAge := (m.phaseStartedAt.map (elapsedSecs w.now)).getD 0
  let silencePane := elapsedSecs w.now m.lastActivity
  let silenceCheckpoint := elapsedSecs w.now m.lastCheckpointActivity
  s!"monitor_age={monitorAge}s phase_age={phaseAge}s silence_pane={silencePane}s " ++
    s!"silence_checkpoint={silenceCheckpoint}s"

/-- Whether swarm teammates of the run's process are there. -/
def checkSwarmActive : Bool := m.claudePid.any w.swarm

/-- Refresh the cached swarm activity, at most every 15 seconds. -/
def refreshSwarmActivity : DaemonRunMonitor :=
  if durationSince w.now m.lastSwarmCheck < fromSecs 15 then m
  else { m with lastSwarmCheck := w.now, cachedSwarmActive := m.checkSwarmActive w }

/-! ### Signal files -/

/-- The signal file of the given name under the repository. -/
def readSignal (name : String) : Option Json :=
  jsonAt probes.serde w.files (((m.repoDir.join ".gw").join "signals").join name)

/-- Ask for a kill, unless one is pending. -/
def requestKill (reason : String) (outcome : KillOutcomeKind) : DaemonRunMonitor :=
  match m.pendingKill with
  | some _ => m
  | none => { m with pendingKill := some { reason, outcome, startedAt := w.now } }

/-- Note a sign of completion, unless one was noted before. -/
def noteCompletion : DaemonRunMonitor :=
  { m with completionDetectedAt := some (m.completionDetectedAt.getD w.now) }

/-- The text of a JSON string. -/
def jsonStr : Json → Option String
  | .string s => some s
  | _ => none

/-- A stop or session-end signal that says the run is complete. -/
def checkStopSignal : DaemonRunMonitor :=
  let signal :=
    (m.readSignal probes w "session-stop.json").or (m.readSignal probes w "session-end.json")
  match signal.bind (·.get "is_complete") with
  | some (.bool true) => m.noteCompletion w
  | _ => m

/-- A failure signal asks for a kill. -/
def checkStopFailureSignal : DaemonRunMonitor :=
  match m.readSignal probes w "stop-failure.json" with
  | none => m
  | some signal =>
    let errorClass := (probes.paneErrorClass (w.pane.getD "")).getD .apiOverload
    let summary :=
      (((signal.get "error").bind jsonStr).or ((signal.get "reason").bind jsonStr)).getD
        "stop-failure signal (no detail)"
    m.requestKill w s!"stop-failure signal [{errorClass.debug}]: {summary}"
      (.errorDetected errorClass)

/-- A pending permission resets the idle timer: the user is asked, the run is not stuck. -/
def checkPermissionPending : DaemonRunMonitor :=
  if w.permissionPending then { m with lastActivity := w.now } else m

/-- Poll the signal files. -/
def checkSignals : DaemonRunMonitor :=
  ((m.checkStopSignal probes w).checkStopFailureSignal probes w).checkPermissionPending w

/-! ### Timeouts and liveness -/

/-- Total timeout from the run's start. -/
def checkPipelineTimeout : Except DaemonRunOutcome Unit :=
  if fromSecs m.watchdog.pipelineTimeoutSecs ≤ durationSince w.now m.runStartedAt then
    .error (.timeout s!"pipeline timeout exceeded ({m.watchdog.pipelineTimeoutSecs}s)")
  else .ok ()

/-- Count unreachable probes in a row; whether the session is to be taken for gone. -/
def probeSession : Bool × DaemonRunMonitor :=
  match w.probe with
  | .present => (false, { m with consecutiveUnreachable := 0 })
  | .absent => (true, { m with consecutiveUnreachable := 0 })
  | .unreachable =>
    let consecutive := m.consecutiveUnreachable + 1
    (decide (UNREACHABLE_GRACE_TICKS ≤ consecutive),
      { m with consecutiveUnreachable := consecutive })

/-- The outcome of a run whose session has vanished. -/
def vanishedOutcome : DaemonRunOutcome :=
  let age := elapsedSecs w.now m.monitorStartedAt
  if age < DAEMON_MIN_COMPLETION_AGE_SECS then
    .crashed s!"tmux session vanished at age {age}s (below min; {m.crashClockSuffix w})"
  else
    match (readCachedCheckpoint probes.serde w.files m.repoDir m.cachedCheckpointPath).1 with
    | some checkpoint =>
      if checkpoint.isComplete && checkpoint.isNearCompletion then .completed
      else
        let phase := (checkpoint.inferredPhaseName.or checkpoint.currentPhase).getD "unknown"
        .crashed s!"session ended during phase '{phase}' ({m.crashClockSuffix w})"
    | none =>
      if m.completionDetectedAt.isSome then .completed
      else
        .crashed
          s!"tmux session vanished without completion evidence ({m.crashClockSuffix w})"

/-- Session vanish disambiguation. -/
def checkSessionAlive : Except DaemonRunOutcome DaemonRunMonitor :=
  match m.probeSession w with
  | (true, m) => .error (m.vanishedOutcome probes w)
  | (false, m) => .ok m

/-- Process death, independently of `tmux`. -/
def checkProcessLiveness : Except DaemonRunOutcome DaemonRunMonitor :=
  match m.claudePid with
  | none => .ok m
  | some pid =>
    if w.pidAlive pid then .ok { m with lastProcessGoneAt := none }
    else
      let firstGone : Int := m.lastProcessGoneAt.getD w.now
      let goneFor := elapsedSecs w.now firstGone
      if COMPLETION_GRACE_SECS ≤ goneFor then
        .error (.crashed s!"claude pid {pid} gone for {goneFor}s ({m.crashClockSuffix w})")
      else .ok { m with lastProcessGoneAt := some firstGone }

/-- Per-phase timeout. -/
def checkPhaseTimeout : DaemonRunMonitor :=
  match m.phaseStartedAt with
  | none => m
  | some started =>
    let phaseElapsed := elapsedSecs w.now started
    let budget :=
      if 0 < m.effectivePhaseTimeout then m.effectivePhaseTimeout
      else m.currentProfile.phaseTimeoutSecs
    if budget ≤ phaseElapsed then
      let phaseName := m.currentPhase.getD "<unknown>"
      m.requestKill w s!"phase {phaseName} exceeded {budget}s budget (elapsed {phaseElapsed}s)"
        .timeout
    else m

/-! ### The pane -/

def updateActivityFromPane (paneContent : String) : DaemonRunMonitor :=
  let newHash := probes.hashStr paneContent
  if newHash = m.lastPaneHash then m
  else { m with lastPaneHash := newHash, lastActivity := w.now, nudgeCount := 0 }

/-- Answer a permission prompt; whether one was answered. -/
def checkPromptAccept (paneContent : String) : Bool × DaemonRunMonitor :=
  let (accepted, promptAcceptor) :=
    m.promptAcceptor.checkAndAccept probes.toLowercase paneContent w.enterSent w.now
  (accepted, { m with promptAcceptor })

/-- A text of completion in the pane counts when the cached checkpoint is near completion. -/
def checkPaneCompletion (paneContent : String) : DaemonRunMonitor :=
  if !isPipelineComplete probes.toLowercase paneContent then m
  else
    let nearCompletion :=
      (m.cachedCheckpointPath.bind fun p =>
        (readCheckpoint probes.serde w.files p).toOption).any (·.isNearCompletion)
    if nearCompletion then m.noteCompletion w else m

def paneUnchanged : Bool :=
  decide (m.watchdog.errorStallThresholdSecs ≤ elapsedSecs w.now m.lastActivity)

/-- The evidence for an error. -/
def errorEvidence (paneContent : String) : ErrorEvidence where
  keywordMatch := if m.paneUnchanged w then probes.paneErrorClass paneContent else none
  screenStallSecs := elapsedSecs w.now m.lastActivity
  checkpointStaleSecs := some (elapsedSecs w.now m.lastCheckpointActivity)
  processAlive := m.claudePid.all w.pidAlive
  artifactsActive := decide (elapsedSecs w.now m.lastArtifactActivity < 60)
  swarmActive := m.cachedSwarmActive

/-- Evaluate the error evidence; a confirmed error asks for a kill. -/
def evaluateErrorEvidence (paneContent : String) : DaemonRunMonitor :=
  let m := m.refreshSwarmActivity w
  match (m.errorEvidence probes w paneContent).classify with
  | none => { m with errorConfirmSince := none }
  | some errorClass =>
    match m.errorConfirmSince with
    | none => { m with errorConfirmSince := some (w.now, errorClass) }
    | some (start, prevClass) =>
      if prevClass ≠ errorClass then { m with errorConfirmSince := some (w.now, errorClass) }
      else
        -- the confidence counts as high
        let need := max m.watchdog.errorConfirmHighSecs KILL_GATE_MIN_SECS
        if need ≤ elapsedSecs w.now start then
          m.requestKill w s!"error evidence confirmed for {need}s (class {errorClass.debug})"
            (.errorDetected errorClass)
        else m

/-- Everything that needs the pane; whether a prompt was answered, which ends the tick. -/
def observePane : Bool × DaemonRunMonitor :=
  match w.pane with
  | none => (false, m)
  | some content =>
    let m := m.updateActivityFromPane probes w content
    match m.checkPromptAccept probes w content with
    | (true, m) => (true, m)
    | (false, m) =>
      let m := m.checkPaneCompletion probes w content
      (false, m.evaluateErrorEvidence probes w content)

/-- A completion noted long enough ago ends the run. -/
def checkCompletionGrace : Except DaemonRunOutcome Unit :=
  match m.completionDetectedAt with
  | none => .ok ()
  | some detected =>
    if COMPLETION_GRACE_SECS ≤ elapsedSecs w.now detected then .error .completed else .ok ()

/-! ### The checkpoint -/

/-- Follow the checkpoint's phase. -/
def trackPhase (checkpoint : Checkpoint) : DaemonRunMonitor :=
  let newPhase := checkpoint.inferPhasePosition.effectivePhase
  if newPhase = m.currentPhase then m
  else
    let m :=
      match newPhase with
      | none => m
      | some phaseName =>
        let profile := (profileForPhase phaseName).getD defaultProfile
        { m with
          currentProfile := profile
          effectivePhaseTimeout := resolvePhaseTimeoutFull phaseName checkpoint profile
          phaseStartedAt := some w.now }
    { m with nudgeCount := 0, currentPhase := newPhase }

/-- Follow the gaps between phases and after a failed phase. -/
def trackGaps (position : PhasePosition) : DaemonRunMonitor :=
  -- the gap may have begun before the monitor saw it
  let backdate : Int :=
    ((position.transitionGapSecs probes.parseRfc3339 w.utcNow).bind fun s =>
      checkedSub w.now (fromSecs s)).getD w.now
  if position.hasFailure then
    { m with
      inFailedSince := some (m.inFailedSince.getD backdate)
      failedNudgeCount := if m.inFailedSince.isNone then 0 else m.failedNudgeCount
      inTransitionSince := none
      transitionNudgeCount := 0 }
  else if position.isTransitioning then
    { m with
      inTransitionSince := some (m.inTransitionSince.getD backdate)
      transitionNudgeCount := if m.inTransitionSince.isNone then 0 else m.transitionNudgeCount
      inFailedSince := none
      failedNudgeCount := 0 }
  else
    { m with
      inTransitionSince := none
      transitionNudgeCount := 0
      inFailedSince := none
      failedNudgeCount := 0 }

/-- The checkpoint the monitor finds for its run. -/
def resolvedCheckpoint : Option Checkpoint :=
  (readCachedCheckpoint probes.serde w.files m.repoDir m.cachedCheckpointPath).1

/-- Poll the checkpoint; every read that succeeds counts as activity. -/
def pollCheckpoint : DaemonRunMonitor :=
  match readCachedCheckpoint probes.serde w.files m.repoDir m.cachedCheckpointPath with
  | (none, _) => m
  | (some checkpoint, cache) =>
    let m := { m with cachedCheckpointPath := cache, lastCheckpointActivity := w.now }
    (m.trackPhase w checkpoint).trackGaps probes w checkpoint.inferPhasePosition

/-! ### The loop state -/

/-- An active loop state. -/
def loopStateActive (state : ArcLoopState) : DaemonRunMonitor :=
  let changed :=
    match m.prevLoopState with
    | none => true
    | some prev =>
      decide (prev.iteration ≠ state.iteration ∨ prev.sessionId ≠ state.sessionId ∨
        prev.checkpointPath ≠ state.checkpointPath)
  { m with
    loopStateEverSeen := true
    loopStateGoneSince := none
    lastLoopStateChange := if changed then w.now else m.lastLoopStateChange
    lastActivity := if changed then w.now else m.lastActivity
    prevLoopState := some state }

/-- No active loop state yet: the session is starting up, or failed to. -/
def loopStateWarmup (fileOnDisk : Bool) : Except DaemonRunOutcome DaemonRunMonitor :=
  let age := elapsedSecs w.now m.monitorStartedAt
  let warmup := m.watchdog.loopStateWarmupSecs
  let screenIdle := elapsedSecs w.now m.lastActivity
  let staleHardLimit := warmup * 2
  if fileOnDisk && decide (staleHardLimit < age) &&
      decide (m.watchdog.idleKillSecs ≤ screenIdle) then
    .error (.errorDetected .bootstrapError
      (s!"arc-phase-loop.local.md stuck at active=false after {age}s " ++
        s!"(hard limit {staleHardLimit}s, screen idle {screenIdle}s)"))
  else if warmup ≤ age ∧ m.watchdog.idleKillSecs ≤ screenIdle then
    .error (.failed "bootstrap error: no loop state after warmup")
  else .ok m

/-- The loop state was active and is no more: deactivated by Rune, or deleted. -/
def loopStateGone (fileOnDisk : Bool) : Except DaemonRunOutcome DaemonRunMonitor :=
  let goneSince : Int := m.loopStateGoneSince.getD w.now
  let m := { m with loopStateGoneSince := some goneSince }
  if fileOnDisk then
    if COMPLETION_GRACE_SECS ≤ elapsedSecs w.now goneSince then
      let (checkpoint, cache) :=
        readCachedCheckpoint probes.serde w.files m.repoDir m.cachedCheckpointPath
      if checkpoint.any (·.isNearCompletion) then .error .completed
      else .ok { m with cachedCheckpointPath := cache, loopStateGoneSince := none }
    else .ok m
  else if LOOP_STATE_GONE_GRACE_SECS ≤ elapsedSecs w.now goneSince then
    let (checkpoint, _) :=
      readCachedCheckpoint probes.serde w.files m.repoDir m.cachedCheckpointPath
    if checkpoint.any (·.isNearCompletion) then .error .completed
    else .error (.crashed s!"arc-phase-loop state file deleted ({m.crashClockSuffix w})")
  else .ok m

/-- Poll the loop state file. -/
def pollLoopState : Except DaemonRunOutcome DaemonRunMonitor :=
  let read := readArcLoopState w.files m.repoDir
  match read with
  | .active state => .ok (m.loopStateActive w state)
  | _ =>
    if m.loopStateEverSeen then m.loopStateGone probes w read.fileExists
    else m.loopStateWarmup w read.fileExists

/-! ### Artifacts, gaps and idleness -/

/-- Scan the checkpoint's directory for changes, once in an interval. -/
def scanArtifacts : DaemonRunMonitor :=
  if elapsedSecs w.now m.lastArtifactScan < m.watchdog.artifactScanIntervalSecs then m
  else
    let m := { m with lastArtifactScan := w.now }
    match (m.cachedCheckpointPath.bind PathBuf.parent).bind w.scanArtifactDir with
    | none => m
    | some snapshot =>
      { m with
        lastArtifactActivity :=
          if m.lastArtifactSnapshot = some snapshot then m.lastArtifactActivity else w.now
        lastArtifactSnapshot := some snapshot }

/-- Escalate a gap between phases: nudges, then a kill. -/
def checkTransitionGap : DaemonRunMonitor :=
  match m.inTransitionSince with
  | none => m
  | some start =>
    let gapSecs := elapsedSecs w.now start
    if TRANSITION_KILL_SECS < gapSecs && m.pendingKill.isNone then
      m.requestKill w s!"transition gap {gapSecs}s > {TRANSITION_KILL_SECS}s threshold" .stuck
    else if TRANSITION_WARN_SECS < gapSecs && m.transitionNudgeCount < 2 then
      { m with transitionNudgeCount := 2 }
    else if TRANSITION_NUDGE_SECS < gapSecs && m.transitionNudgeCount < 1 then
      { m with transitionNudgeCount := 1 }
    else m

/-- Escalate an unresolved failed phase: nudges, then a kill. -/
def checkFailedPhase : DaemonRunMonitor :=
  match m.inFailedSince with
  | none => m
  | some start =>
    let gapSecs := elapsedSecs w.now start
    if FAILED_KILL_SECS < gapSecs && m.pendingKill.isNone then
      m.requestKill w s!"failed phase unresolved for {gapSecs}s > {FAILED_KILL_SECS}s threshold"
        .stuck
    else if FAILED_WARN_SECS < gapSecs && m.failedNudgeCount < 2 then
      { m with failedNudgeCount := 2 }
    else if FAILED_NUDGE_SECS < gapSecs && m.failedNudgeCount < 1 then
      { m with failedNudgeCount := 1 }
    else m

/-- Idle detection: nudges, then a kill. -/
def checkIdle : DaemonRunMonitor :=
  let idleSecs := elapsedSecs w.now m.lastActivity
  let killThreshold := m.currentProfile.idleKillSecs
  if killThreshold < idleSecs && m.pendingKill.isNone then
    m.requestKill w s!"idle for {idleSecs}s (threshold {killThreshold}s)" .stuck
  else if m.currentProfile.idleNudgeSecs * (m.nudgeCount + 1) < idleSecs && m.nudgeCount < 3 then
    { m with nudgeCount := m.nudgeCount + 1 }
  else m

/-! ### The kill gate -/

/-- The signals that call a pending kill off. -/
def hasRecovery : Bool :=
  decide (elapsedSecs w.now m.lastActivity < KILL_GATE_RECOVERY_WINDOW_SECS) ||
    decide (elapsedSecs w.now m.lastCheckpointActivity < KILL_GATE_RECOVERY_WINDOW_SECS) ||
    decide (elapsedSecs w.now m.lastArtifactActivity < KILL_GATE_RECOVERY_WINDOW_SECS) ||
    decide (elapsedSecs w.now m.lastLoopStateChange < KILL_GATE_RECOVERY_WINDOW_SECS) ||
    m.checkSwarmActive w || !w.online

/-- Evaluate the kill gate: a pending kill is called off, executed, or left pending. -/
def evaluateKillGate : Except DaemonRunOutcome DaemonRunMonitor :=
  match m.pendingKill with
  | none => .ok m
  | some pk =>
    let gateElapsed := elapsedSecs w.now pk.startedAt
    if m.hasRecovery w && decide (10 < gateElapsed) then .ok { m with pendingKill := none }
    else if KILL_GATE_MIN_SECS ≤ gateElapsed then .error pk.finalOutcome
    else if !pk.nudgeSent && decide (KILL_GATE_MIN_SECS / 2 ≤ gateElapsed) then
      .ok { m with pendingKill := some { pk with nudgeSent := true } }
    else .ok m

/-- Idle detection is left to the gap checks between phases and after a failed phase. -/
def checkIdleOutsideGaps : DaemonRunMonitor :=
  if m.inTransitionSince.isNone && m.inFailedSince.isNone then m.checkIdle w else m

/-- The part of a tick after the pane. -/
def tickAfterPane : Except DaemonRunOutcome DaemonRunMonitor := do
  m.checkCompletionGrace w
  let m := m.pollCheckpoint probes w
  let m ← m.pollLoopState probes w
  let m := m.scanArtifacts w
  let m ← m.checkProcessLiveness w
  let m := m.checkPhaseTimeout w
  let m := m.checkTransitionGap w
  let m := m.checkFailedPhase w
  let m := m.checkIdleOutsideGaps w
  m.evaluateKillGate w

/-- One tick of the monitor loop. -/
def tick : Except DaemonRunOutcome DaemonRunMonitor := do
  let m := m.checkSignals probes w
  m.checkPipelineTimeout w
  let m ← m.checkSessionAlive probes w
  match m.observePane probes w with
  | (true, m) => return m
  | (false, m) => m.tickAfterPane probes w

end

end DaemonRunMonitor

end GreaterWill
