import GreaterWill.Engine.CacheTransparency
import GreaterWill.Engine.CrashHistory
import GreaterWill.Engine.Restart
import GreaterWill.Engine.SessionMonitor

/-!
# The crash-recovery loop

The loop of `run_single_session`: an iteration takes up the orphaned session of an earlier process,
or else resolves the restart command and runs a session attempt, and then ends the pipeline or
goes on to a restart. An `Attempt` is what an iteration meets; no time passes between the end of the
attempt and its record. The owner file and the writes of the history file are left out: the loop does
not read them.
-/

namespace GreaterWill.SingleSession

/-- Configuration for single-session execution. -/
structure SingleSessionConfig where
  workingDir : PathBuf
  /-- In nanoseconds. -/
  pipelineTimeout : Nat
  resume : Bool
  arcFlags : List String
  watchdog : WatchdogConfig

/-- Build the `/rune:arc` command for the initial run. -/
def buildArcCommand (planPath : String) (config : SingleSessionConfig) : String :=
  config.arcFlags.foldl (fun cmd flag => cmd ++ " " ++ shellEscape flag)
    (s!"/rune:arc {shellEscape planPath}" ++ if config.resume then " --resume" else "")

/-- The phase the checkpoint of the run is in. -/
def currentPhaseFromCheckpoint (serde : SerdeValue) (files : Files) (workingDir : PathBuf) :
    Option String :=
  (readCachedCheckpoint serde files workingDir none).1.bind fun checkpoint =>
    checkpoint.inferredPhaseName.or checkpoint.currentPhase

/-- Result of a pipeline run. -/
structure PipelineResult where
  success : Bool
  duration : Nat
  crashRestarts : Nat
  message : String
  sessionName : String
  deriving DecidableEq

/-- How a pipeline run ends. -/
inductive PipelineEnd where
  | result (result : PipelineResult)
  /-- The attempt returned an error. -/
  | error (message : String)
  deriving DecidableEq

/-- What a run of the pipeline is started with. -/
structure Pipeline where
  config : SingleSessionConfig
  planStr : String
  sessionName : String
  startedAt : Nat
  serde : SerdeValue
  /-- The `Debug` text of an outcome. -/
  debug : SessionOutcome → String

/-- The state of the loop. -/
structure Orchestrator where
  detector : CrashLoopDetector
  isFirstRun : Bool := true
  /-- Name and process of the orphaned session to adopt. -/
  pendingAdopt : Option (String × UInt32)

/-- What an iteration of the loop meets. -/
structure Attempt where
  /-- The clock at the head of the loop. -/
  now : Nat
  /-- The files the restart command is resolved by. -/
  restartFiles : Files
  began : Nat
  ended : Nat
  result : Except String SessionOutcome
  /-- The files when the attempt has ended. -/
  files : Files

namespace Attempt

def duration (a : Attempt) : Nat := a.ended - a.began

end Attempt

variable (p : Pipeline) (o : Orchestrator) (a : Attempt)

/-- The loop with its history loaded; `offset` is the wall clock when the monotonic one started. -/
def Orchestrator.start (adopt : Option (String × UInt32)) (history : Option CrashHistoryRecord)
    (offset : Nat) : Orchestrator where
  detector :=
    let detector := CrashLoopDetector.fromWatchdog p.config.watchdog
    match history with
    | some record => detector.loadHistory record offset p.startedAt
    | none => detector
  pendingAdopt := adopt

/-- The pipeline ends with a result. -/
def Pipeline.finish (detector : CrashLoopDetector) (now : Nat) (success : Bool) (message : String) :
    PipelineEnd :=
  .result
    { success
      duration := now - p.startedAt
      crashRestarts := detector.totalRestarts
      message
      sessionName := p.sessionName }

/-- The phase in which the attempt ended. -/
def Pipeline.phaseAfter : Option String :=
  currentPhaseFromCheckpoint p.serde a.files p.config.workingDir

namespace Orchestrator

/-- The detector after an attempt: one that ran long enough is healthy. -/
def afterAttempt : CrashLoopDetector :=
  if fromSecs p.config.watchdog.crashStabilitySecs ≤ a.duration then
    o.detector.recordHealthyTick a.ended
  else o.detector

/-- Record a crash and go on to a restart, or end the pipeline with the given message. -/
def recordCrash (detector : CrashLoopDetector) (phase : Option String)
    (message : CrashLoopDetector → String) : Except PipelineEnd Orchestrator :=
  match detector.recordRestartForPhase phase a.ended with
  | (detector, .stopCrashLoop) => .error (p.finish detector a.ended false (message detector))
  | (detector, .allowRestart) => .ok { o with detector, isFirstRun := false }

/-- The outcome of an adopted session. -/
def afterAdopted (detector : CrashLoopDetector) (outcome : SessionOutcome) :
    Except PipelineEnd Orchestrator :=
  let retry : Except PipelineEnd Orchestrator :=
    recordCrash p o a detector (p.phaseAfter a) fun d =>
      s!"Crash loop (adopted): {d.crashTimes.length} crashes in " ++
        s!"{p.config.watchdog.crashWindowSecs}s window. Last: {p.debug outcome}"
  match outcome with
  | .completed =>
    .error (p.finish detector a.ended true "Pipeline completed successfully (adopted session)")
  | .timeout =>
    .error (p.finish detector a.ended false "Pipeline timeout exceeded (adopted session)")
  | .failed phase reason =>
    .error (p.finish detector a.ended false s!"Phase '{phase}' failed in adopted session: {reason}")
  | .errorDetected errorClass reason =>
    if errorClass.skipsPlan then
      .error (p.finish detector a.ended false
        s!"Fatal error in adopted session (no retry): {reason}")
    else retry
  | .crashed _ | .stuck => retry

/-- The outcome of a session that was spawned. -/
def afterSpawned (detector : CrashLoopDetector) (outcome : SessionOutcome) :
    Except PipelineEnd Orchestrator :=
  let windowSecs := p.config.watchdog.crashWindowSecs
  match outcome with
  | .completed => .error (p.finish detector a.ended true "Pipeline completed successfully")
  | .timeout => .error (p.finish detector a.ended false "Pipeline timeout exceeded")
  | .failed phase reason =>
    .error (p.finish detector a.ended false s!"Phase '{phase}' failed: {reason}")
  | .crashed reason =>
    recordCrash p o a detector none fun d =>
      s!"Crash loop: {d.crashTimes.length} crashes in {windowSecs}s window. Last: {reason}"
  | .stuck =>
    recordCrash p o a detector none fun d =>
      s!"Crash loop (stuck): {d.crashTimes.length} crashes in {windowSecs}s window"
  | .errorDetected errorClass reason =>
    if errorClass.skipsPlan then
      .error (p.finish detector a.ended false s!"Fatal error (no retry): {reason}")
    else do
      let o ← recordCrash p o a detector none fun d =>
        s!"Crash loop ({errorClass.debug}): {d.crashTimes.length} crashes in " ++
          s!"{windowSecs}s window. Last: {reason}"
      let restarts := o.detector.totalRestarts
      -- the retries of the class are a limit of their own
      if errorClass.maxRetries ≤ restarts then
        throw (p.finish o.detector a.ended false
          s!"Pipeline failed after {restarts} retries for {errorClass.debug}. Last: {reason}")
      else return o

/-- The restart is skipped: the checkpoint shows a complete pipeline. -/
def alreadyComplete : Bool :=
  !o.isFirstRun &&
    resolveRestartCommand p.serde a.restartFiles p.config.workingDir p.planStr p.config.arcFlags
      (buildArcCommand p.planStr p.config) = .alreadyDone

/-- One iteration of the loop: how the pipeline ends, or the loop after the decision to restart. -/
def iteration : Except PipelineEnd Orchestrator :=
  if p.config.pipelineTimeout < a.now - p.startedAt then
    .error (p.finish o.detector a.now false "Pipeline timeout exceeded")
  else
    match o.pendingAdopt with
    | some _ => do
      let outcome ← a.result.mapError .error
      afterAdopted p { o with pendingAdopt := none } a (afterAttempt p o a) outcome
    | none =>
      if alreadyComplete p o a then
        .error (p.finish o.detector a.now true "Pipeline already complete (detected on restart)")
      else do
        let outcome ← a.result.mapError .error
        afterSpawned p o a (afterAttempt p o a) outcome

end Orchestrator

end GreaterWill.SingleSession
