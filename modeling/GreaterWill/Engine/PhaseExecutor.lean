import GreaterWill.Checkpoint.Handoff
import GreaterWill.Config.PhaseConfig
import GreaterWill.Engine.PhaseGroup
import GreaterWill.Engine.RetryCoordinator
import GreaterWill.Lib.Path

/-!
# The executor of the phase groups

`PhaseGroupExecutor` of `engine/phase_executor.rs`: the groups of a plan one after the other, each
in sessions of its own until one succeeds. One step is one attempt at the group that is next, or
its skip; what tmux, the file system and the session do comes with it. The checkpoint file is what
`read_checkpoint` gives for it. The monitoring is its end: a session is over when its group is
complete in the checkpoint or when the detector gives it up.

A run also keeps which phases each attempt has marked completed, and the groups executed before it;
no step looks at these.
-/

namespace GreaterWill

structure ExecutorConfig where
  mock : Bool := false
  dryRun : Bool := false
  /-- Maximum concurrent Claude Code sessions. -/
  maxConcurrentSessions : Nat := 1

/-- Configuration for completion detection, in seconds. -/
structure CompletionConfig where
  pollInterval : Nat
  idleNudgeAfter : Nat
  idleKillAfter : Nat
  promptGracePeriod : Nat
  phaseTimeout : Nat

/-- `CompletionConfig::for_group`; an error is a failed assertion. -/
def CompletionConfig.forGroup (timeoutMin : UInt32) (idleNudgeSec idleKillSec : UInt64) :
    Except String CompletionConfig :=
  if idleNudgeSec < idleKillSec then
    .ok {
      pollInterval := 3
      idleNudgeAfter := idleNudgeSec.toNat
      idleKillAfter := idleKillSec.toNat
      promptGracePeriod := 5
      phaseTimeout := timeoutMin.toNat * 60 }
  else
    .error s!"idle_nudge_sec ({idleNudgeSec}) must be less than idle_kill_sec ({idleKillSec})"

/-- How the monitoring of a session ends. -/
inductive MonitorEnd where
  | error (text : String)
  | completed
  | failed (phase : String)
  | timeout
  | stuck
  | errorDetected (errorClass : ErrorClass)
  deriving DecidableEq

/-- What is outside of `gw` during one attempt at a group. -/
structure GroupAttempt where
  /-- The time of day as text. -/
  now : String
  /-- The time at which an attempt fails, in nanoseconds. -/
  failedAt : Nat
  duration : Nat
  /-- The sessions before the cleanup and after it. -/
  activeSessions : Nat
  remainingSessions : Nat
  preCleanup : Except String Unit
  health : Except String Unit
  writeCheckpoint : Except String Unit
  spawn : Except String UInt32
  waitForPrompt : Except String Unit
  sendKeys : Except String Unit
  monitor : CompletionConfig → MonitorEnd
  kill : Except String Unit
  postCleanup : Except String Unit
  /-- The checkpoint file when the session is over. -/
  file : Except String Checkpoint

/-- An error that ends the plan. -/
inductive PlanError where
  | overBudget (group : String) (remaining max : Nat)
  | unhealthy
  | noPhases (group : String)
  | other (text : String)
  deriving DecidableEq

def PlanError.message : PlanError → String
  | overBudget group remaining max =>
    s!"Cannot start group '{group}': {remaining} active sessions >= " ++
      s!"max_concurrent_sessions ({max}). Kill stale sessions with `gw clean` first."
  | unhealthy => "System health check failed"
  | noPhases group => s!"Phase group '{group}' must have at least one phase"
  | other text => text

inductive AttemptEnd where
  | result (result : PhaseGroupResult)
  | error (e : PlanError)
  | panicked (message : String)

/-- What an attempt leaves. -/
structure Attempted where
  ended : AttemptEnd
  file : Except String Checkpoint
  /-- The phases it has marked completed. -/
  marked : Option (List String) := none

namespace PhaseGroup

/-- Every phase of the group is completed or skipped. -/
def isCompleteIn (group : PhaseGroup) (file : Except String Checkpoint) : Bool :=
  match file with
  | .ok cp => group.phases.all fun phase => (cp.phases.lookup phase).any (·.isDone)
  | .error _ => false

/-- The first failed phase of the group. -/
def findFailedPhase (group : PhaseGroup) (file : Except String Checkpoint) : Option String :=
  match file with
  | .ok cp => group.phases.find? fun phase => (cp.phases.lookup phase).any (·.status == "failed")
  | .error _ => none

end PhaseGroup

/-- Whether a group is skipped under its condition. -/
def shouldSkipGroup (skipIf : String) (file : Except String Checkpoint)
    (groupPhases : List String) : Bool :=
  match file with
  | .error _ => false
  | .ok cp =>
    if skipIf = "no_work_needed" ∧ (cp.phases.lookup "work").any (·.status == "skipped") then true
    else if skipIf = "design_not_needed" ∧
        (cp.phases.lookup "design_extraction").any (·.status == "skipped") then
      true
    -- also under an unknown condition
    else !groupPhases.isEmpty && groupPhases.all cp.isPhaseDoneOrWillSkip

section
variable (exec : ExecutorConfig) (settings : Settings) (group : PhaseGroup) (sessionId : String)
  (a : GroupAttempt)

/-- The process budget: at its limit stale sessions are cleaned first. -/
def checkBudget : Except PlanError Unit :=
  if exec.maxConcurrentSessions ≤ a.activeSessions then
    match a.preCleanup with
    | .error e => .error (.other e)
    | .ok () =>
      if exec.maxConcurrentSessions ≤ a.remainingSessions then
        .error (.overBudget group.name a.remainingSessions exec.maxConcurrentSessions)
      else .ok ()
  else .ok ()

/-- The checks before an attempt. -/
def preflight : Except PlanError Unit :=
  match checkBudget exec group a with
  | .error e => .error e
  | .ok () =>
    match a.health with
    | .error _ => .error .unhealthy
    | .ok () =>
      if a.activeSessions < exec.maxConcurrentSessions then
        match a.preCleanup with
        | .error e => .error (.other e)
        | .ok () => .ok ()
      else .ok ()

/-- The result of an attempt. -/
def attemptResult (state : PhaseGroupState) (pid : Option UInt32) (errorMessage : Option String) :
    PhaseGroupResult where
  groupName := group.name
  state
  sessionId := some sessionId
  pid
  duration := a.duration
  retries := 0
  errorMessage
  phases := group.phases

/-- The session is killed, and the attempt has failed. -/
def killed (pid : UInt32) (error : ErrorClass) (message : String) : AttemptEnd :=
  match a.kill with
  | .error e => .error (.other e)
  | .ok () => .result (attemptResult group sessionId a (.failed 0 error) (some pid) (some message))

/-- The monitoring and the end of a session; `none` where the checkpoint speaks against it. -/
def monitorSession (pid : UInt32) (config : CompletionConfig) : Option AttemptEnd :=
  match a.monitor config with
  | .error e => some (.error (.other e))
  | .completed =>
    if group.isCompleteIn a.file then
      some <|
        match a.kill with
        | .error e => .error (.other e)
        | .ok () =>
          match a.postCleanup with
          | .error e => .error (.other e)
          | .ok () => .result (attemptResult group sessionId a .succeeded (some pid) none)
    else none
  | .failed phase =>
    if group.findFailedPhase a.file = some phase then
      some (killed group sessionId a pid .crash s!"Phase {phase} failed")
    else none
  | .timeout => some (killed group sessionId a pid .timeout "Phase timeout")
  | .stuck => some (killed group sessionId a pid .stuck "Session stuck (idle too long)")
  | .errorDetected errorClass =>
    some (killed group sessionId a pid errorClass s!"Error detected: {errorClass.debug}")

/-- The session of an attempt. -/
def runSession : Option AttemptEnd :=
  match a.spawn with
  | .error e =>
    some (.result (attemptResult group sessionId a (.failed 0 .crash) none
      (some s!"Failed to spawn session: {e}")))
  | .ok pid =>
    match if exec.mock then .ok () else a.waitForPrompt with
    | .error e => some (killed group sessionId a pid .crash s!"Timeout waiting for prompt: {e}")
    | .ok () =>
      match if exec.mock then .ok () else a.sendKeys with
      | .error e => some (.error (.other e))
      | .ok () =>
        match CompletionConfig.forGroup group.timeoutMin settings.idleNudgeAfterSec
          settings.idleKillAfterSec with
        | .error message => some (.panicked message)
        | .ok config => monitorSession group sessionId a pid config

/-- Execute a phase group once. -/
def executeGroupOnce (file : Except String Checkpoint) : Option Attempted :=
  match preflight exec group a with
  | .error e => some { ended := .error e, file }
  | .ok () =>
    if exec.dryRun then
      some { ended := .result (attemptResult group sessionId a .succeeded none none), file }
    else
      match file with
      | .error e => some { ended := .error (.other e), file }
      | .ok cp =>
        match group.phases.head? with
        | none => some { ended := .error (.noPhases group.name), file }
        | some firstPhase =>
          match a.writeCheckpoint with
          | .error e => some { ended := .error (.other e), file }
          | .ok () =>
            (runSession exec settings group sessionId a).map fun ended =>
              { ended
                -- without a session nothing else is written
                file := if a.spawn.isOk then a.file
                  else .ok (cp.markPhasesCompletedBefore a.now firstPhase)
                marked := some (cp.markedCompleted firstPhase) }

end

/-! ## The plan -/

/-- The phases marked completed by an attempt, and the groups executed before it. -/
structure Marking where
  executed : List PhaseGroup
  phases : List String

inductive PlanEnd where
  | returned (results : List PhaseGroupResult)
  | error (e : PlanError)
  | panicked (message : String)

/-- The execution of a plan. -/
structure PlanRun where
  file : Except String Checkpoint
  retryCoordinator : RetryCoordinator := {}
  results : List PhaseGroupResult := []
  executed : List PhaseGroup := []
  /-- The groups not yet executed; the first one is next. -/
  pending : List PhaseGroup
  /-- The retries of the group that is next, none before its first attempt. -/
  retryCount : UInt32 := 0
  marked : List Marking := []
  ended : Option PlanEnd := none

/-- What is there when the execution of a plan starts. -/
structure PlanStart where
  planHash : String
  planPath : PathBuf
  arcDir : PathBuf
  now : String
  /-- The checkpoint file, if there is one. -/
  existing : Option (Except String Checkpoint)
  createDir : Except String Unit
  writeCheckpoint : Except String Unit

/-- Load or create a checkpoint for the plan. -/
def loadOrCreateCheckpoint (p : PlanStart) : Except PlanError Checkpoint :=
  match p.existing with
  | some file => file.mapError .other
  | none =>
    match p.createDir with
    | .error _ => .error (.other s!"Failed to create arc directory: {p.arcDir}")
    | .ok () => .ok (.createFresh s!"arc-{p.planHash}" p.planPath p.arcDir p.now)

/-- What `read_checkpoint` gives for a checkpoint that was written. -/
def checkpointWritten (cp : Checkpoint) : Except String Checkpoint :=
  if cp.id.isEmpty then .error "Checkpoint missing required field: id"
  else if cp.planFile.isEmpty then .error "Checkpoint missing required field: plan_file"
  else .ok cp

namespace PlanRun
variable (exec : ExecutorConfig) (config : PhaseConfig) (p : PlanStart)

/-- The start of `execute_plan`. -/
def start : Except PlanError PlanRun :=
  match loadOrCreateCheckpoint p with
  | .error e => .error e
  | .ok cp =>
    match p.writeCheckpoint with
    | .error e => .error (.other e)
    | .ok () =>
      .ok {
        file := checkpointWritten cp
        pending := config.groups
        ended := if config.groups.isEmpty then some (.returned []) else none }

/-- The group that is next has a result. -/
def finishGroup (s : PlanRun) (group : PhaseGroup) (rest : List PhaseGroup)
    (result : PhaseGroupResult) : PlanRun :=
  let results := s.results ++ [result]
  let s := { s with results, executed := s.executed ++ [group], pending := rest, retryCount := 0 }
  if result.state.isFailed then { s with ended := some (.returned results) }
  else
    { s with
      retryCoordinator := s.retryCoordinator.reset group.name
      ended := if rest.isEmpty then some (.returned results) else none }

/-- The group that is next is to be skipped. -/
def skips (s : PlanRun) (group : PhaseGroup) : Bool :=
  s.retryCount = 0 && group.skipIf.any fun skipIf => shouldSkipGroup skipIf s.file group.phases

/-- An attempt at the group that is next, or its skip. -/
def step (s : PlanRun) (a : GroupAttempt) : Option PlanRun :=
  match s.ended, s.pending with
  | none, group :: rest =>
    let sessionId := s!"gw-{p.planHash}-{group.name}"
    if s.skips group then
      some (s.finishGroup group rest
        { attemptResult group sessionId a .skipped none none with sessionId := none })
    else
      (executeGroupOnce exec config.settings group sessionId a s.file).map fun attempted =>
        let s := { s with
          file := attempted.file
          marked := (attempted.marked.map (Marking.mk s.executed)).toList ++ s.marked }
        match attempted.ended with
        | .error e => { s with ended := some (.error e) }
        | .panicked message => { s with ended := some (.panicked message) }
        | .result result =>
          match result.state with
          | .failed _ error =>
            match s.retryCoordinator.shouldRetry group.name error a.failedAt with
            | (.retry _, retryCoordinator) =>
              { s with retryCoordinator, retryCount := s.retryCount + 1 }
            | (.skipPlan, retryCoordinator) =>
              { s with retryCoordinator }.finishGroup group rest
                { attemptResult group sessionId a (.failed s.retryCount error) none
                    (some s!"Fatal error: {error.debug}") with
                  retries := s.retryCount }
            | (.exhausted, retryCoordinator) =>
              { s with retryCoordinator }.finishGroup group rest
                { result with
                  retries := s.retryCount
                  state := .failed s.retryCount error }
          | _ => s.finishGroup group rest result
  | _, _ => none

end PlanRun

end GreaterWill
