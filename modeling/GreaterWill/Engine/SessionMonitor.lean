import GreaterWill.Daemon.RunMonitor

/-!
# The session monitor of the foreground

`monitor_session` watches the session of a foreground run. A tick reads the session's surroundings
and either returns or changes the monitor's state; texts sent to the session and crash dumps do not
come back to it and are left out. As in the daemon's monitor no time passes within a tick, and
files do not change; `tmux` is probed a second time in the completion grace period.
-/

namespace GreaterWill

def FOREGROUND_MIN_COMPLETION_AGE_SECS : Nat := 300
def MIN_SESSION_DURATION_SECS : Nat := 30
def PANE_COMPLETION_MIN_ELAPSED_SECS : Nat := 180
/-- How long the process may be gone: Claude Code updates itself. -/
def CRASH_GRACE_SECS : Nat := 300

/-- Outcome of a session attempt. -/
inductive SessionOutcome where
  | completed
  | crashed (reason : String)
  /-- A phase failed, as Rune reports it. -/
  | failed (phase reason : String)
  | timeout
  | stuck
  | errorDetected (errorClass : ErrorClass) (reason : String)
  deriving DecidableEq

/-- What the session monitor calls on what it reads. -/
structure SessionProbes extends Probes where
  /-- The hash of the inferred phase, the number of completed phases and whether the pipeline is
  between phases. -/
  hashProgress : Option String → Nat → Bool → UInt64

/-- What a tick of the session monitor finds. -/
structure SessionSurroundings extends Surroundings where
  /-- The probe of the completion grace period. -/
  graceProbe : SessionProbe
  /-- A swarm teammate of the process is at work. -/
  workingTeammates : UInt32 → Bool
  /-- Whether killing the session succeeds. -/
  killSession : Except String Unit

/-- The number of phases with the given status. -/
def Checkpoint.countByStatus (cp : Checkpoint) (status : String) : Nat :=
  cp.phases.entries.countP fun p => p.2.status = status

/-- The `Debug` text. -/
def PhaseCategory.debug : PhaseCategory → String
  | planning => "Planning"
  | work => "Work"
  | quality => "Quality"
  | remediation => "Remediation"
  | testing => "Testing"
  | deploy => "Deploy"
  | ship => "Ship"

namespace SessionMonitor

/-- How a pending kill ends the session. -/
inductive KillOutcome where
  | stuck
  | error
  | timeout
  deriving DecidableEq

/-- A pending kill request. -/
structure PendingKillRequest where
  reason : String
  errorClass : Option ErrorClass
  outcome : KillOutcome
  startedAt : Int
  nudgeSent : Bool := false
  deriving DecidableEq

/-- The outcome of an executed kill. -/
def PendingKillRequest.finalOutcome (pk : PendingKillRequest) : SessionOutcome :=
  match pk.outcome with
  | .error => .errorDetected (pk.errorClass.getD .apiOverload) pk.reason
  | .timeout => .timeout
  | .stuck => .stuck

end SessionMonitor

/-- The variables of `monitor_session`. -/
structure SessionMonitor where
  workingDir : PathBuf
  /-- The process's own directory, where the signals are looked for. -/
  currentDir : PathBuf
  pid : UInt32
  watchdog : WatchdogConfig
  pipelineTimeout : Nat
  pipelineStart : Int
  dispatchTime : Int
  lastOutputHash : UInt64 := 0
  lastActivity : Int
  nudgeCount : Nat := 0
  lastCheckpointPoll : Int
  lastCheckpointActivity : Int
  consecutiveUnreachable : Nat := 0
  lastCheckpointHash : Option UInt64 := none
  cachedCheckpointPath : Option PathBuf := none
  lastProcessGoneAt : Option Int := none
  lastArtifactScan : Int
  lastArtifactSnapshot : Option ArtifactSnapshot := none
  lastArtifactActivity : Int
  promptAcceptor : PromptAcceptor
  loopStateEverSeen : Bool := false
  loopStateGoneSince : Option Int := none
  prevLoopState : Option ArcLoopState := none
  lastLoopStateChange : Int
  pendingKill : Option SessionMonitor.PendingKillRequest := none
  /-- Since when an error class is being confirmed. -/
  errorConfirmSince : Option (Int × ErrorClass) := none
  claudeSessionId : Option String := none
  currentPhaseName : Option String := none
  currentProfile : PhaseProfile := defaultProfile
  phaseStartedAt : Option Int := none
  effectivePhaseTimeout : Nat := defaultProfile.phaseTimeoutSecs
  inTransitionSince : Option Int := none
  transitionNudgeCount : Nat := 0
  inFailedSince : Option Int := none
  failedNudgeCount : Nat := 0
  completionDetectedAt : Option Int := none

namespace SessionMonitor

/-- The variables before the loop. -/
def start (workingDir currentDir : PathBuf) (pid : UInt32) (watchdog : WatchdogConfig)
    (pipelineTimeout : Nat) (pipelineStart : Int) (now : Nat) : SessionMonitor where
  workingDir := workingDir
  currentDir := currentDir
  pid := pid
  watchdog := watchdog
  pipelineTimeout := pipelineTimeout
  pipelineStart := pipelineStart
  dispatchTime := now
  lastActivity := now
  lastCheckpointPoll := now
  lastCheckpointActivity := now
  lastArtifactScan := now
  lastArtifactActivity := now
  lastLoopStateChange := now
  promptAcceptor :=
    { debounce := fromSecs watchdog.promptAcceptDebounceSecs
      enabled := watchdog.promptAcceptEnabled }

section
variable (probes : SessionProbes) (m : SessionMonitor) (w : SessionSurroundings)

/-- What `monitor_session` returns: an outcome, or the error of a kill that fails. -/
abbrev Return : Type := Except String SessionOutcome

/-- The age of the session. -/
def sessionAge : Nat := durationSince w.now m.dispatchTime

/-- The clocks that matter for a crash, for its reason. -/
def crashClockSuffix : String :=
  let dispatchAge := asSecs (m.sessionAge w)
  let phaseAge := (m.phaseStartedAt.map (elapsedSecs w.now)).getD 0
  let silencePane := elapsedSecs w.now m.lastActivity
  let silenceCheckpoint := elapsedSecs w.now m.lastCheckpointActivity
  s!"dispatch_age={dispatchAge}s phase_age={phaseAge}s silence_pane={silencePane}s " ++
    s!"silence_checkpoint={silenceCheckpoint}s"

/-- Ask for a kill, unless one is pending. -/
def requestKill (reason : String) (errorClass : Option ErrorClass) (outcome : KillOutcome) :
    SessionMonitor :=
  match m.pendingKill with
  | some _ => m
  | none => { m with pendingKill := some { reason, errorClass, outcome, startedAt := w.now } }

/-- Enter the completion grace period, unless it was entered before. -/
def noteCompletion : SessionMonitor :=
  { m with completionDetectedAt := some (m.completionDetectedAt.getD w.now) }

/-- Kill the session and return the outcome, or the error of the kill. -/
def killed (outcome : SessionOutcome) : Return := w.killSession.map fun _ => outcome

/-- Read the checkpoint; the path it was found under is kept. -/
def readCheckpoint : Option Checkpoint × SessionMonitor :=
  let (checkpoint, cache) :=
    readCachedCheckpoint probes.serde w.files m.workingDir m.cachedCheckpointPath
  (checkpoint, { m with cachedCheckpointPath := cache })

/-- The phase a checkpoint is in, for a reason. -/
def phaseText (checkpoint : Checkpoint) : String :=
  (checkpoint.inferredPhaseName.or checkpoint.currentPhase).getD "unknown"

/-! ### Signals -/

/-- The signal file of the given name. -/
def readSignal (name : String) : Option Json :=
  jsonAt probes.serde w.files (((m.currentDir.join ".gw").join "signals").join name)

/-- A stop or session-end signal says that the run is complete. -/
def signalsCompletion : Bool :=
  let signal :=
    (m.readSignal probes w "session-stop.json").or (m.readSignal probes w "session-end.json")
  match signal.bind (·.get "is_complete") with
  | some (.bool true) => true
  | _ => false

def checkStopSignal : SessionMonitor :=
  if m.signalsCompletion probes w then m.noteCompletion w else m

/-- The signal may be from the current session. -/
def fromCurrentSession (signalSession : String) : Bool :=
  match m.claudeSessionId with
  | some currentId =>
    signalSession == currentId || signalSession == "unknown" || currentId == "unknown"
  | none => true

/-- A failed turn of the session asks for a kill. -/
def checkStopFailureSignal : SessionMonitor :=
  match m.readSignal probes w "stop-failure.json" with
  | none => m
  | some signal =>
    let signalSession :=
      ((signal.get "session_id").bind DaemonRunMonitor.jsonStr).getD "unknown"
    if !m.fromCurrentSession signalSession then m
    else
      let errorClass := (probes.paneErrorClass (w.pane.getD "")).getD .apiOverload
      m.requestKill w
        (s!"StopFailure signal: {errorClass.debug} (session={signalSession}, may be teammate " ++
          s!"— waiting {KILL_GATE_MIN_SECS / 60}m for recovery)")
        (some errorClass) .error

/-- A pending permission resets the idle timer. -/
def checkPermissionPending : SessionMonitor :=
  if w.permissionPending then { m with lastActivity := w.now } else m

def checkPipelineTimeout : SessionMonitor :=
  if m.pipelineTimeout < durationSince w.now m.pipelineStart then
    m.requestKill w "Pipeline timeout exceeded" none .timeout
  else m

/-- The part of a tick before the session is probed. -/
def checkSignals : SessionMonitor :=
  (((m.checkStopSignal probes w).checkStopFailureSignal probes w).checkPermissionPending
    w).checkPipelineTimeout w

/-! ### The session and the pane -/

/-- Count a probe; none while an unreachable `tmux` is within its grace. -/
def countProbe (probe : SessionProbe) : Option Bool × SessionMonitor :=
  match probe with
  | .present => (some false, { m with consecutiveUnreachable := 0 })
  | .absent => (some true, { m with consecutiveUnreachable := 0 })
  | .unreachable =>
    let consecutive := m.consecutiveUnreachable + 1
    (if UNREACHABLE_GRACE_TICKS ≤ consecutive then some true else none,
      { m with consecutiveUnreachable := consecutive })

/-- The outcome of a session that has vanished. -/
def vanishedOutcome : SessionOutcome :=
  let sessionAge := m.sessionAge w
  let ageSecs := asSecs sessionAge
  if sessionAge < fromSecs MIN_SESSION_DURATION_SECS then
    .crashed
      (s!"Session exited after only {ageSecs}s — Claude Code likely failed to start " ++
        s!"({m.crashClockSuffix w})")
  else if w.pidAlive m.pid then
    .crashed s!"Tmux session disappeared but process still alive ({m.crashClockSuffix w})"
  else
    match (m.readCheckpoint probes w).1 with
    | some checkpoint =>
      if checkpoint.isComplete && checkpoint.isNearCompletion then .completed
      else
        .crashed
          s!"Session ended during phase '{phaseText checkpoint}' ({m.crashClockSuffix w})"
    | none =>
      if FOREGROUND_MIN_COMPLETION_AGE_SECS ≤ ageSecs then
        .crashed
          (s!"Session ran {ageSecs / 60}m but produced no checkpoint — cannot confirm " ++
            s!"completion ({m.crashClockSuffix w})")
      else
        .crashed
          (s!"Session ended after {ageSecs}s with no checkpoint (too short for completion; " ++
            s!"{m.crashClockSuffix w})")

/-- The grace period after a completion: the session is killed when it is over, and may exit by
itself before. -/
def completionGrace (completedAt : Int) : Except Return SessionMonitor :=
  if COMPLETION_GRACE_SECS ≤ elapsedSecs w.now completedAt then
    -- a kill that fails does not matter here
    .error (.ok .completed)
  else
    match m.countProbe w.graceProbe with
    | (some true, _) => .error (.ok .completed)
    | (_, m) => .ok m

/-! ### The checkpoint -/

/-- Follow the checkpoint's phase. -/
def trackPhase (checkpoint : Checkpoint) : SessionMonitor :=
  let inferredPhase := checkpoint.inferPhasePosition.effectivePhase
  if inferredPhase = m.currentPhaseName then m
  else
    let m :=
      match inferredPhase.bind fun phase => (profileForPhase phase).map (phase, ·) with
      | none => m
      | some (phase, profile) =>
        { m with
          effectivePhaseTimeout := resolvePhaseTimeoutFull phase checkpoint profile
          currentProfile := profile
          phaseStartedAt := some w.now
          inTransitionSince := none }
    { m with currentPhaseName := inferredPhase }

/-- Follow the gaps between phases and after a failed phase. -/
def trackGaps (position : PhasePosition) : SessionMonitor :=
  if position.hasFailure then
    { m with
      inFailedSince := some (m.inFailedSince.getD w.now)
      failedNudgeCount := if m.inFailedSince.isNone then 0 else m.failedNudgeCount
      inTransitionSince := none
      transitionNudgeCount := 0 }
  else if position.isTransitioning then
    { m with
      inTransitionSince := some (m.inTransitionSince.getD w.now)
      transitionNudgeCount := if m.inTransitionSince.isNone then 0 else m.transitionNudgeCount
      inFailedSince := none
      failedNudgeCount := 0 }
  else
    { m with
      inTransitionSince := none
      transitionNudgeCount := 0
      inFailedSince := none
      failedNudgeCount := 0 }

/-- The heartbeat of the checkpoint: a change of its phase or of its completed phases. -/
def trackHeartbeat (checkpoint : Checkpoint) : SessionMonitor :=
  let position := checkpoint.inferPhasePosition
  let cpHash := probes.hashProgress position.effectivePhase
    (checkpoint.countByStatus "completed") position.isTransitioning
  { m with
    lastCheckpointActivity :=
      if m.lastCheckpointHash = some cpHash then m.lastCheckpointActivity else w.now
    lastCheckpointHash := some cpHash }

/-- The interval between two polls of the checkpoint is over. -/
def pollDue : Bool :=
  decide (fromSecs m.watchdog.checkpointPollIntervalSecs ≤ durationSince w.now m.lastCheckpointPoll)

/-- Poll the checkpoint. -/
def pollCheckpoint : SessionMonitor :=
  if m.pollDue w then
    match ({ m with lastCheckpointPoll := w.now }).readCheckpoint probes w with
    | (none, m) => m
    | (some checkpoint, m) =>
      let m :=
        if checkpoint.isComplete && checkpoint.isNearCompletion then m.noteCompletion w else m
      ((m.trackHeartbeat probes w checkpoint).trackPhase w checkpoint).trackGaps w
        checkpoint.inferPhasePosition
  else m

/-! ### The loop state -/

/-- An active loop state. -/
def loopStateActive (current : ArcLoopState) : SessionMonitor :=
  let changed := m.prevLoopState.any (· ≠ current)
  { m with
    loopStateEverSeen := true
    loopStateGoneSince := none
    claudeSessionId := some current.sessionId
    lastLoopStateChange := if changed then w.now else m.lastLoopStateChange
    lastActivity := if changed then w.now else m.lastActivity
    prevLoopState := some current }

/-- The last words on a loop state that is gone: a session that ran long enough has probably
completed. -/
def goneByAge : Except Return SessionMonitor :=
  let ageSecs := asSecs (m.sessionAge w)
  if FOREGROUND_MIN_COMPLETION_AGE_SECS ≤ ageSecs then .ok (m.noteCompletion w)
  else
    .error (.ok (.crashed
      (s!"arc-phase-loop.local.md gone after only {ageSecs}s with no checkpoint " ++
        s!"({m.crashClockSuffix w})")))

/-- The loop state has been gone for the grace period. -/
def loopStateConfirmedGone (fileOnDisk : Bool) : Except Return SessionMonitor :=
  match m.readCheckpoint probes w with
  | (some checkpoint, m) =>
    if checkpoint.isComplete && checkpoint.isNearCompletion then
      -- this case and the next go on as if there were no checkpoint
      (m.noteCompletion w).goneByAge w
    else if fileOnDisk then
      -- deactivated, which counts as a completion
      (m.noteCompletion w).goneByAge w
    else
      .error (.ok (.crashed
        (s!"arc-phase-loop.local.md deleted during phase '{phaseText checkpoint}' " ++
          s!"({m.crashClockSuffix w})")))
  | (none, m) => m.goneByAge w

/-- Since when the loop state is gone, if it was there before. -/
def goneSince : Int := m.loopStateGoneSince.getD w.now

/-- The loop state was active and is no more. -/
def loopStateGone (fileOnDisk : Bool) : Except Return SessionMonitor :=
  let goneSince := m.goneSince w
  let m := { m with loopStateGoneSince := some goneSince }
  if durationSince w.now goneSince < fromSecs LOOP_STATE_GONE_GRACE_SECS then .ok m
  else m.loopStateConfirmedGone probes w fileOnDisk

/-- No active loop state yet: the session is starting up, or failed to. -/
def loopStateWarmup (fileOnDisk : Bool) : Except Return SessionMonitor :=
  let sessionAge := m.sessionAge w
  let ageSecs := asSecs sessionAge
  let warmupSecs := m.watchdog.loopStateWarmupSecs
  if fromSecs warmupSecs < sessionAge then
    let screenIdleSecs := elapsedSecs w.now m.lastActivity
    let screenActive := decide (screenIdleSecs < warmupSecs)
    if screenActive || fileOnDisk then
      let staleHardLimit := warmupSecs * 2
      if fileOnDisk && !screenActive && decide (staleHardLimit < ageSecs) then
        .error (killed w (.errorDetected .bootstrapError
          (s!"arc-phase-loop.local.md stuck at active=false after {ageSecs}s (hard limit " ++
            s!"{staleHardLimit}s, screen idle {screenIdleSecs}s) — Rune failed to initialize")))
      else .ok m
    else
      .error (killed w (.errorDetected .bootstrapError
        (s!"arc-phase-loop.local.md never appeared after {ageSecs}s (warmup {warmupSecs}s, " ++
          s!"screen idle {screenIdleSecs}s) — Rune failed to initialize")))
  else .ok m

/-- Follow the loop state. -/
def trackLoopState : Except Return SessionMonitor :=
  let read := readArcLoopState w.files m.workingDir
  match read with
  | .active current => .ok (m.loopStateActive w current)
  | _ =>
    if m.loopStateEverSeen then
      ({ m with prevLoopState := none }).loopStateGone probes w read.fileExists
    else m.loopStateWarmup w read.fileExists

/-! ### Artifacts, pane texts and errors -/

/-- The artifact directory of the arc whose checkpoint is known. -/
def artifactDir : Option PathBuf :=
  ((m.cachedCheckpointPath.bind PathBuf.parent).bind PathBuf.fileName).map fun arcId =>
    ((m.workingDir.join "tmp").join "arc").join arcId

/-- Scan the artifact directory for changes, once in an interval. -/
def scanArtifacts : SessionMonitor :=
  if durationSince w.now m.lastArtifactScan < fromSecs m.watchdog.artifactScanIntervalSecs then m
  else
    let m := { m with lastArtifactScan := w.now }
    match m.artifactDir.bind w.scanArtifactDir with
    | none => m
    | some snapshot =>
      if m.lastArtifactSnapshot = some snapshot then m
      else { m with lastArtifactActivity := w.now, lastArtifactSnapshot := some snapshot }

/-- The pane speaks of a completion, late enough to be trusted at all. -/
def paneSpeaks (content : String) : Bool :=
  decide (PANE_COMPLETION_MIN_ELAPSED_SECS ≤ asSecs (m.sessionAge w)) &&
    isPipelineComplete probes.toLowercase content

/-- A text of completion in the pane counts when the checkpoint is near completion. -/
def checkPaneCompletion (content : String) : SessionMonitor :=
  if m.paneSpeaks probes w content then
    match m.readCheckpoint probes w with
    | (checkpoint, m) =>
      if checkpoint.any (·.isNearCompletion) then m.noteCompletion w else m
  else m

/-- The evidence for an error. -/
def errorEvidence (content : String) : ErrorEvidence where
  keywordMatch :=
    if probes.hashStr content = m.lastOutputHash then probes.paneErrorClass content else none
  screenStallSecs := elapsedSecs w.now m.lastActivity
  checkpointStaleSecs := some (elapsedSecs w.now m.lastCheckpointActivity)
  processAlive := w.pidAlive m.pid
  artifactsActive :=
    decide (elapsedSecs w.now m.lastArtifactActivity < m.watchdog.errorStallThresholdSecs)
  swarmActive := w.workingTeammates m.pid

/-- How long an error is observed, by its confidence in tenths. -/
def confirmationSecs (conf : Int) : Nat :=
  if 8 ≤ conf then max m.watchdog.errorConfirmHighSecs KILL_GATE_MIN_SECS
  else max m.watchdog.errorConfirmMediumSecs KILL_GATE_MIN_SECS

/-- Evaluate the error evidence; a confirmed error asks for a kill. A new error class ends the
tick, which the flag says. -/
def evaluateErrorEvidence (content : String) : Bool × SessionMonitor :=
  let evidence := m.errorEvidence probes w content
  match evidence.classify with
  | none => (false, { m with errorConfirmSince := none })
  | some errorClass =>
    let conf := evidence.confidence
    match m.errorConfirmSince with
    | none => (false, { m with errorConfirmSince := some (w.now, errorClass) })
    | some (started, prevClass) =>
      if prevClass ≠ errorClass then
        let m :=
          if errorClass.skipsPlan then
            m.requestKill w
              (s!"Fatal error detected during confirmation: {errorClass.debug} " ++
                s!"(was {prevClass.debug})") (some errorClass) .error
          else m
        (true, { m with errorConfirmSince := some (w.now, errorClass) })
      else
        let elapsedConfirm := elapsedSecs w.now started
        if m.confirmationSecs conf ≤ elapsedConfirm then
          (false, m.requestKill w
            (s!"Error pattern confirmed: {errorClass.debug} " ++
              s!"(confidence={conf / 10}.{conf % 10}, observed={elapsedConfirm}s, " ++
              s!"stall={evidence.screenStallSecs}s)")
            (some errorClass) .error)
        else (false, m)

/-! ### The process -/

/-- The outcome of a process that is confirmed dead. -/
def processDiedOutcome : SessionOutcome :=
  let sessionAge := m.sessionAge w
  let ageSecs := asSecs sessionAge
  if sessionAge < fromSecs MIN_SESSION_DURATION_SECS then
    .crashed s!"Claude process died after only {ageSecs}s ({m.crashClockSuffix w})"
  else
    match (m.readCheckpoint probes w).1 with
    | some checkpoint =>
      if checkpoint.isComplete && checkpoint.isNearCompletion then .completed
      else
        .crashed
          s!"Claude process died during phase '{phaseText checkpoint}' ({m.crashClockSuffix w})"
    | none =>
      if FOREGROUND_MIN_COMPLETION_AGE_SECS ≤ ageSecs then .completed
      else
        .crashed
          (s!"Claude process died after {ageSecs}s with no checkpoint (too short for " ++
            s!"completion; {m.crashClockSuffix w})")

/-- Process death, after a grace period for updates; a process that is gone ends the tick, which
the flag says. -/
def checkProcessLiveness : Except Return (Bool × SessionMonitor) :=
  if w.pidAlive m.pid then .ok (false, m)
  else
    match m.lastProcessGoneAt with
    | none => .ok (true, { m with lastProcessGoneAt := some w.now })
    | some goneAt =>
      if elapsedSecs w.now goneAt < CRASH_GRACE_SECS then .ok (true, m)
      else .error (killed w (m.processDiedOutcome probes w))

/-! ### Timeouts, gaps and idleness -/

def checkPhaseTimeout : SessionMonitor :=
  match m.phaseStartedAt with
  | none => m
  | some phaseStart =>
    let phaseElapsed := elapsedSecs w.now phaseStart
    if m.effectivePhaseTimeout < phaseElapsed then
      let phaseName := m.currentPhaseName.getD "unknown"
      m.requestKill w
        s!"Phase '{phaseName}' timeout: {phaseElapsed}s > {m.effectivePhaseTimeout}s budget"
        none .stuck
    else m

/-- Escalate a gap between phases: nudges, then a kill. -/
def checkTransitionGap : SessionMonitor :=
  match m.inTransitionSince with
  | none => m
  | some transitionStart =>
    let gapSecs := elapsedSecs w.now transitionStart
    if TRANSITION_KILL_SECS < gapSecs then
      m.requestKill w s!"Transition gap timeout: {gapSecs}s between phases" none .stuck
    else if TRANSITION_WARN_SECS < gapSecs && m.transitionNudgeCount < 2 then
      { m with transitionNudgeCount := 2 }
    else if TRANSITION_NUDGE_SECS < gapSecs && m.transitionNudgeCount < 1 then
      { m with transitionNudgeCount := 1 }
    else m

/-- Escalate an unresolved failed phase: nudges, then a kill. -/
def checkFailedPhase : SessionMonitor :=
  match m.inFailedSince with
  | none => m
  | some failedStart =>
    let gapSecs := elapsedSecs w.now failedStart
    let phaseName := m.currentPhaseName.getD "unknown"
    if FAILED_KILL_SECS < gapSecs then
      m.requestKill w s!"Failed phase '{phaseName}' not recovered: {gapSecs}s" none .stuck
    else if FAILED_WARN_SECS < gapSecs && m.failedNudgeCount < 2 then
      { m with failedNudgeCount := 2 }
    else if FAILED_NUDGE_SECS < gapSecs && m.failedNudgeCount < 1 then
      { m with failedNudgeCount := 1 }
    else m

/-- Idle detection: a kill, and nudges. -/
def checkIdle : SessionMonitor :=
  let idleDuration := durationSince w.now m.lastActivity
  let idleSecs := asSecs idleDuration
  let killSecs := m.currentProfile.idleKillSecs
  let m :=
    if fromSecs killSecs < idleDuration then
      m.requestKill w
        s!"Session idle {idleSecs}s > {killSecs}s {m.currentProfile.category.debug} limit"
        none .stuck
    else m
  if m.currentProfile.idleNudgeSecs * (m.nudgeCount + 1) < idleSecs && m.nudgeCount < 3 then
    { m with nudgeCount := m.nudgeCount + 1 }
  else m

/-! ### The kill gate -/

/-- The signals that call a pending kill off. -/
def hasRecovery : Bool :=
  decide (elapsedSecs w.now m.lastActivity < KILL_GATE_RECOVERY_WINDOW_SECS) ||
    decide (elapsedSecs w.now m.lastCheckpointActivity < KILL_GATE_RECOVERY_WINDOW_SECS) ||
    decide (elapsedSecs w.now m.lastArtifactActivity < KILL_GATE_RECOVERY_WINDOW_SECS) ||
    decide (elapsedSecs w.now m.lastLoopStateChange < KILL_GATE_RECOVERY_WINDOW_SECS) ||
    w.workingTeammates m.pid

/-- The kill gate: a pending kill is called off, executed, or left pending. -/
def evaluateKillGate : Except Return SessionMonitor :=
  match m.pendingKill with
  | none => .ok m
  | some pk =>
    let gateElapsed := elapsedSecs w.now pk.startedAt
    if m.hasRecovery w && decide (10 < gateElapsed) then .ok { m with pendingKill := none }
    else if KILL_GATE_MIN_SECS ≤ gateElapsed then .error (killed w pk.finalOutcome)
    else if !pk.nudgeSent && decide (KILL_GATE_MIN_SECS / 2 ≤ gateElapsed) then
      .ok { m with pendingKill := some { pk with nudgeSent := true } }
    else .ok m

/-! ### The loop -/

/-- The timeouts, the gaps and the idle detection. -/
def escalate : SessionMonitor :=
  (((m.checkPhaseTimeout w).checkTransitionGap w).checkFailedPhase w).checkIdle w

/-- The part of a tick after the error evidence. -/
def tickAfterErrors : Except Return SessionMonitor :=
  match m.checkProcessLiveness probes w with
  | .error r => .error r
  | .ok (true, m) => .ok m
  | .ok (false, m) => (m.escalate w).evaluateKillGate w

/-- The part of a tick from the error evidence on. -/
def tickFromErrors (content : String) : Except Return SessionMonitor :=
  match m.evaluateErrorEvidence probes w content with
  | (true, m) => .ok m
  | (false, m) => m.tickAfterErrors probes w

/-- The part of a tick after the loop state. -/
def tickAfterLoopState (content : String) : Except Return SessionMonitor :=
  ((m.scanArtifacts w).checkPaneCompletion probes w content).tickFromErrors probes w content

/-- The checks of a tick outside the grace period. -/
def runChecks (content : String) : Except Return SessionMonitor := do
  let m := m.pollCheckpoint probes w
  let m ← m.trackLoopState probes w
  m.tickAfterLoopState probes w content

/-- Answer a permission prompt; whether one was answered. -/
def checkPromptAccept (content : String) : Bool × SessionMonitor :=
  let (accepted, promptAcceptor) :=
    m.promptAcceptor.checkAndAccept probes.toLowercase content w.enterSent w.now
  (accepted, { m with promptAcceptor })

def updateActivityFromPane (content : String) : SessionMonitor :=
  let currentHash := probes.hashStr content
  if currentHash = m.lastOutputHash then m
  else { m with lastOutputHash := currentHash, lastActivity := w.now, nudgeCount := 0 }

/-- In the grace period a tick checks nothing else. -/
def graceOrChecks (content : String) : Except Return SessionMonitor :=
  match m.completionDetectedAt with
  | some completedAt => m.completionGrace w completedAt
  | none => m.runChecks probes w content

/-- The part of a tick from the pane on. -/
def observePane : Except Return SessionMonitor :=
  match w.pane with
  | none => .ok m
  | some content =>
    match m.checkPromptAccept probes w content with
    | (true, m) => .ok { m with lastActivity := w.now, lastOutputHash := probes.hashStr content }
    | (false, m) => (m.updateActivityFromPane probes w content).graceOrChecks probes w content

/-- One tick of the monitor loop. -/
def tick : Except Return SessionMonitor :=
  let m := m.checkSignals probes w
  match m.countProbe w.probe with
  | (none, m) => .ok m
  | (some true, m) => .error (.ok (m.vanishedOutcome probes w))
  | (some false, m) => ({ m with lastProcessGoneAt := none }).observePane probes w

end

end SessionMonitor

end GreaterWill
