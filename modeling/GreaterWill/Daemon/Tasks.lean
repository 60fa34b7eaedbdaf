import GreaterWill.Daemon.Ops

/-!
# The daemon and its tasks

The registry and the asynchronous tasks that work on it: the request handlers of `daemon/server.rs`,
the spawn, stop and drain tasks of `daemon/executor.rs`, the schedule loop and the heartbeat with its
monitors. Between two accesses to the registry a task holds no lock, so one action is one lock scope
of one task: it runs some operations and leaves the tasks that come after it. Any enabled action may
come next. What the environment answers (files, tmux, the network, the clock) comes with the action.

The map of running monitors is left out: any number of monitors may watch a run.
-/

namespace GreaterWill

/-- Who waits for `spawn_after_register`. -/
inductive Caller where
  /-- The `SubmitRun` handler. -/
  | request
  | schedule (scheduleId : String)
  /-- The task of `drain_if_available`, for the run it popped. -/
  | drain (pending : PendingRun)
  /-- The retry task of its error path. -/
  | retry
  deriving DecidableEq, Repr

/-- A task, by what it does in its next lock scope. -/
inductive Task where
  /-- `spawn_run` before `register_run`. -/
  | spawnRun (planPath repoDir : PathBuf) (sessionName : Option String)
      (configDir : Option PathBuf) (caller : Caller)
  /-- `spawn_queued_run` before `promote_queued`, in a drain task or a retry task. -/
  | spawnQueued (pending : PendingRun) (retry : Bool)
  /-- `spawn_after_register` before the tmux session is up. -/
  | spawnAfter (runId : String) (caller : Caller)
  /-- `spawn_after_register` while Claude Code starts up. -/
  | warmUp (runId : String) (caller : Caller)
  /-- The schedule loop after a successful spawn. -/
  | tagSchedule (runId scheduleId : String)
  /-- The error path of a drain task. -/
  | drainError (pending : PendingRun) (error : String)
  | drainIfAvailable (repoDir : PathBuf) (failed : Bool)
  /-- `StopRun` after the prefix was resolved. -/
  | stopDequeue (runId : String)
  /-- `stop_run` before it reads the entry. -/
  | stopInspect (runId : String)
  /-- `stop_run` before it updates the status. -/
  | stopUpdate (runId : String) (repoDir : PathBuf) (hasSession : Bool)
  /-- `DetachRun` after the prefix was resolved. -/
  | detach (runId : String)
  /-- `update_phase_from_pane`. -/
  | updatePhase (runId : String) (phase : Option String) (confirmed : Bool)
  /-- `update_phase_from_pane` when the checkpoint confirms the completion. -/
  | complete (runId : String)
  /-- The monitor of a run and `handle_monitor_outcome`. -/
  | monitor (runId : String)
  /-- `attempt_recovery`. -/
  | recovery (runId : String)
  /-- `attempt_recovery` after its gate. -/
  | resolveRestart (runId : String)
  /-- `spawn_recovery_with_command`. -/
  | spawnRecovery (runId : String)
  deriving DecidableEq, Repr

structure Daemon where
  registry : RunRegistry
  tasks : List Task

/-- A daemon without runs and tasks. -/
def Daemon.init : Daemon := ⟨.new, []⟩

structure DaemonConfig where
  host : Host
  /-- 0 for no limit. -/
  maxConcurrentRuns : Nat

/-! ## Answers of the environment -/

/-- How `spawn_after_register` fails before the tmux session is up. -/
inductive SpawnFailure where
  | cleanup (error : String)
  | tmux (error : String)
  deriving DecidableEq, Repr

def SpawnFailure.error : SpawnFailure → String
  | .cleanup e | .tmux e => e

def SpawnFailure.reason : SpawnFailure → String
  | .cleanup e => s!"pre_phase_cleanup failed: {e}"
  | .tmux e => s!"tmux spawn failed: {e}"

/-- The outcome of a monitor and what `handle_monitor_outcome` decides on it. An error class is
given by its `Debug` text. -/
inductive MonitorOutcome where
  | completed
  | failed (reason : String)
  | cancelled
  /-- An error that skips the plan. -/
  | fatal (errorClass reason : String)
  /-- A network error without connectivity afterwards. -/
  | networkTimeout
  | crashLoop (errorClass reason : String)
  | panicked
  /-- The run may restart. -/
  | recover
  deriving DecidableEq, Repr

/-- The status, the phase and the error that the outcome sets. -/
def MonitorOutcome.status : MonitorOutcome → Option (RunStatus × Option String × Option String)
  | .completed => some (.succeeded, some "complete", none)
  | .failed reason => some (.failed, none, some reason)
  | .fatal errorClass reason => some (.failed, none, some s!"Fatal {errorClass}: {reason}")
  | .networkTimeout =>
    some (.failed, none, some "Network unavailable for 30 minutes — giving up")
  | .crashLoop errorClass reason =>
    some (.failed, none, some s!"Crash loop ({errorClass}): {reason}")
  | .panicked => some (.failed, none, some "Monitor panicked — marking failed")
  | .cancelled | .recover => none

/-- Whether a drain follows, as after a failure or not. -/
def MonitorOutcome.drains : MonitorOutcome → Option Bool
  | .completed => some false
  | .failed _ | .fatal .. | .crashLoop .. => some true
  | .networkTimeout | .panicked | .cancelled | .recover => none

/-- What `attempt_recovery` finds after its gate. -/
inductive RestartDecision where
  | alreadyDone
  | repoDiskLow (error : String)
  | homeDiskLow (error : String)
  | restart
  deriving DecidableEq, Repr

def RestartDecision.status : RestartDecision → Option (RunStatus × Option String × Option String)
  | .alreadyDone => some (.succeeded, some "complete", none)
  | .repoDiskLow e => some (.failed, none, some s!"Recovery aborted (repo disk): {e}")
  | .homeDiskLow e => some (.failed, none, some s!"Recovery aborted (GW_HOME disk): {e}")
  | .restart => none

/-- How `spawn_recovery_with_command` ends. -/
inductive Respawn where
  /-- The session and Claude are alive. -/
  | alive
  | diskLow (error : String)
  | spawnFails (error : String)
  | sendFails (error : String)
  | resumed (pid : UInt32)
  deriving DecidableEq, Repr

def Respawn.op (runId : String) (now : DateTime) : Respawn → Op
  | .alive => .setRunning runId { currentPhase := some "running" } "running" now
  | .diskLow e => .stageStatus runId .failed none (some s!"crash recovery aborted: {e}") now
  | .spawnFails e =>
    .stageStatus runId .failed none (some s!"crash recovery spawn failed: {e}") now
  | .sendFails e => .stageStatus runId .failed none (some s!"crash recovery failed: {e}") now
  | .resumed pid =>
    .setRunning runId
      { tmuxSession := some ("gw-" ++ runId)
        currentPhase := some "resuming"
        countsRestart := true
        claudePid := some pid
        lastRecoveryAt := some now }
      "resuming" now

/-! ## Actions -/

inductive Action where
  /-- `SubmitRun`; the id and the time of the record are used when the request is queued. -/
  | submitRun (request : PendingRun)
  | fireSchedule (planPath repoDir : PathBuf) (configDir : Option PathBuf) (scheduleId : String)
  /-- The pre-flight checks of `spawn_run` fail. -/
  | refuseRun (planPath repoDir : PathBuf) (sessionName : Option String)
      (configDir : Option PathBuf) (caller : Caller)
  | register (planPath repoDir : PathBuf) (sessionName : Option String)
      (configDir : Option PathBuf) (caller : Caller) (runId : String) (now : DateTime) (io : LockIo)
      (metaIo : Except String Unit)
  /-- The pre-flight checks of `spawn_queued_run` fail. -/
  | refuseQueued (pending : PendingRun) (retry : Bool) (error : String)
  | promote (pending : PendingRun) (retry : Bool) (now : DateTime) (io : LockIo)
      (metaIo : Except String Unit)
  /-- The tmux session is up. -/
  | sessionUp (runId : String) (caller : Caller) (pid : UInt32) (now : DateTime)
  | spawnFails (runId : String) (caller : Caller) (failure : SpawnFailure) (now : DateTime)
  | refreshPid (runId : String) (caller : Caller) (pid : UInt32)
  /-- The arc command cannot be sent. -/
  | sendFails (runId : String) (caller : Caller) (error : String) (now : DateTime)
  /-- The arc command was sent. -/
  | started (runId : String) (caller : Caller) (now : DateTime) (flush : Except String Unit)
  | tagSchedule (runId scheduleId : String)
  | drainError (pending : PendingRun) (error : String) (now : DateTime)
  | drainIfAvailable (repoDir : PathBuf) (failed : Bool) (now : DateTime)
  | stopRun (pfx : String)
  | stopDequeue (runId : String) (now : DateTime)
  | stopInspect (runId : String)
  | stopUpdate (runId : String) (repoDir : PathBuf) (hasSession : Bool) (now : DateTime)
      (flush : Except String Unit)
  | detachRun (pfx : String)
  | detach (runId : String) (now : DateTime)
  | removeQueued (pfx : String) (now : DateTime)
  | clearQueue (repoFilter : Option PathBuf) (now : DateTime)
  /-- The heartbeat reads the pane and the checkpoint of a run. -/
  | capturePane (runId : String) (phase : Option String) (fromCheckpoint : Bool)
  | updatePhase (runId : String) (phase : Option String) (confirmed : Bool) (now : DateTime)
  | complete (runId : String) (now : DateTime)
  | startMonitor (runId : String)
  | monitorEnds (runId : String) (outcome : MonitorOutcome) (now : DateTime)
  | gateRecovery (runId : String)
  | resolveRestart (runId : String) (decision : RestartDecision) (now : DateTime)
  | spawnRecovery (runId : String) (respawn : Respawn) (now : DateTime)

/-- A lock scope of the registry mutex. -/
structure LockScope where
  /-- The task it belongs to, if it is not the first scope of a request or a tick. -/
  actor : Option Task := none
  ops : List Op := []
  /-- The tasks that come after it. -/
  follow : List Task := []

/-- The task that waits for the spawn of a popped run. -/
def PendingRun.caller (pending : PendingRun) (retry : Bool) : Caller :=
  if retry then .retry else .drain pending

/-- What comes after a spawn that returns an error. -/
def Caller.onError : Caller → String → List Task
  | .drain pending, error => [.drainError pending error]
  | _, _ => []

/-- What comes after a spawn that returns the run id. -/
def Caller.onOk : Caller → String → List Task
  | .schedule scheduleId, runId => [.tagSchedule runId scheduleId]
  | _, _ => []

/-- The pending runs that the operations hand out. -/
def handedOut (host : Host) (r : RunRegistry) (ops : List Op) : List PendingRun :=
  yields (opStep host) (fun r op => op.handsOut host r) r ops

/-- The operations of `drain_if_available`. -/
def drainOps (repoDir : PathBuf) (failed : Bool) (now : DateTime) : List Op :=
  [if failed then .recordFailure repoDir now else .recordSuccess repoDir,
    .drainNextOrAny repoDir, .stageQueue]

/-- The operations of the error path of a drain task. -/
def drainErrorOps (pending : PendingRun) (error : String) (now : DateTime) : List Op :=
  [.stageStatus pending.runId .failed none (some s!"drain spawn failed: {error}") now,
    .recordFailure pending.repoDir now, .drainNext pending.repoDir, .stageQueue]

/-- A status update, if there is one. -/
def statusOps (runId : String) (now : DateTime) :
    Option (RunStatus × Option String × Option String) → List Op
  | some (status, phase, error) => [.stageStatus runId status phase error now]
  | none => []

/-- The heartbeat looks at runs that are not terminal and have a tmux session. -/
def RunEntry.watchable (e : RunEntry) : Bool := !e.status.isTerminal && e.tmuxSession.isSome

/-- The lock scope of an action. -/
def Action.scope (c : DaemonConfig) (r : RunRegistry) : Action → LockScope
  | .submitRun request =>
    if r.hasRepoLock c.host request.repoDir ∨
        (c.maxConcurrentRuns > 0 ∧ r.countRunning ≥ c.maxConcurrentRuns) then
      { ops := [.enqueueRun request] }
    else
      { follow := [.spawnRun request.planPath request.repoDir request.sessionName request.configDir
          .request] }
  | .fireSchedule planPath repoDir configDir scheduleId =>
    { follow := [.spawnRun planPath repoDir none configDir (.schedule scheduleId)] }
  | .refuseRun planPath repoDir sessionName configDir caller =>
    { actor := some (.spawnRun planPath repoDir sessionName configDir caller) }
  | .register planPath repoDir sessionName configDir caller runId now io metaIo =>
    { actor := some (.spawnRun planPath repoDir sessionName configDir caller)
      ops := [.registerRun planPath repoDir sessionName configDir runId now io metaIo]
      follow :=
        match (r.registerRun c.host planPath repoDir sessionName configDir none runId now io
            metaIo).1 with
        | .ok runId => [.spawnAfter runId caller]
        | .error _ => [] }
  | .refuseQueued pending retry error =>
    { actor := some (.spawnQueued pending retry)
      follow := (pending.caller retry).onError error }
  | .promote pending retry now io metaIo =>
    { actor := some (.spawnQueued pending retry)
      ops := [.promoteQueued pending.runId now io metaIo]
      follow :=
        match (r.promoteQueued c.host pending.runId now io metaIo).1 with
        | .ok _ => [.spawnAfter pending.runId (pending.caller retry)]
        | .error e => (pending.caller retry).onError e }
  | .sessionUp runId caller pid now =>
    { actor := some (.spawnAfter runId caller)
      ops := [.getMut runId (some pid) (some now) none]
      follow := [.warmUp runId caller] }
  | .spawnFails runId caller failure now =>
    { actor := some (.spawnAfter runId caller)
      ops := [.stageStatus runId .failed none (some failure.reason) now]
      follow := caller.onError failure.error }
  | .refreshPid runId caller pid =>
    { actor := some (.warmUp runId caller)
      ops := [.getMut runId (some pid) none none]
      follow := [.warmUp runId caller] }
  | .sendFails runId caller error now =>
    { actor := some (.warmUp runId caller)
      ops := [.stageStatus runId .failed none (some s!"failed to send arc command: {error}") now]
      follow := caller.onError error }
  | .started runId caller now flush =>
    { actor := some (.warmUp runId caller)
      ops := [.setRunning runId { tmuxSession := some ("gw-" ++ runId) } "starting" now]
      follow :=
        match r.stageStatusLocked c.host runId .running (some "starting") none now, flush with
        | .ok _, .ok _ => caller.onOk runId
        | .ok _, .error e => caller.onError e
        | .error e, _ => caller.onError e.display }
  | .tagSchedule runId scheduleId =>
    { actor := some (.tagSchedule runId scheduleId)
      ops := [.getMut runId none none (some scheduleId)] }
  | .drainError pending error now =>
    { actor := some (.drainError pending error)
      ops := drainErrorOps pending error now
      follow := (handedOut c.host r (drainErrorOps pending error now)).map (.spawnQueued · true) }
  | .drainIfAvailable repoDir failed now =>
    { actor := some (.drainIfAvailable repoDir failed)
      ops := drainOps repoDir failed now
      follow := (handedOut c.host r (drainOps repoDir failed now)).map (.spawnQueued · false) }
  | .stopRun pfx =>
    { follow := (r.findByPrefix pfx).toList.map fun e => .stopDequeue e.runId }
  | .stopDequeue runId now =>
    if (r.get runId).any (·.status = .queued) then
      { actor := some (.stopDequeue runId)
        ops := [.dequeueRun runId now]
        follow :=
          match (r.dequeueRunStaged c.host runId now).1 with
          | some _ => []
          | none => [.stopInspect runId] }
    else
      { actor := some (.stopDequeue runId)
        follow := [.stopInspect runId] }
  | .stopInspect runId =>
    { actor := some (.stopInspect runId)
      follow := ((r.get runId).filter fun e => !e.status.isTerminal).toList.map fun e =>
        .stopUpdate runId e.repoDir e.tmuxSession.isSome }
  | .stopUpdate runId repoDir hasSession now flush =>
    let error := if hasSession then "stopped by user" else "stopped (no tmux session)"
    { actor := some (.stopUpdate runId repoDir hasSession)
      ops := [.stageStatus runId .stopped none (some error) now]
      follow :=
        match r.stageStatusLocked c.host runId .stopped none (some error) now, flush with
        | .ok _, .ok _ => [.drainIfAvailable repoDir false]
        | _, _ => [] }
  | .detachRun pfx =>
    { follow := (r.findByPrefix pfx).toList.map fun e => .detach e.runId }
  | .detach runId now =>
    { actor := some (.detach runId)
      ops := [.stageStatus runId .stopped (some "detached")
        (some "detached by user — tmux session kept alive") now] }
  | .removeQueued pfx now => { ops := [.removeQueued pfx now] }
  | .clearQueue repoFilter now => { ops := [.clearQueue repoFilter now] }
  | .capturePane runId phase fromCheckpoint =>
    -- the checkpoint is trusted with the completion, the text of the pane is not
    { follow := ((r.get runId).filter (·.watchable)).toList.map fun _ =>
        .updatePhase runId phase (fromCheckpoint && phase == some "complete") }
  | .updatePhase runId phase confirmed now =>
    { actor := some (.updatePhase runId phase confirmed)
      ops := (phase.filter fun phase =>
          (r.get runId).any (·.currentPhase ≠ some phase)).toList.map fun phase =>
        .setRunning runId { currentPhase := some phase } phase now
      follow := if confirmed then [.complete runId] else [] }
  | .complete runId now =>
    { actor := some (.complete runId)
      ops :=
        if (r.get runId).any (·.status = .running) then
          [.stageStatus runId .succeeded (some "complete") none now]
        else [] }
  | .startMonitor runId =>
    { follow := ((r.get runId).filter (·.watchable)).toList.map fun _ => .monitor runId }
  | .monitorEnds runId outcome now =>
    { actor := some (.monitor runId)
      ops := statusOps runId now outcome.status
      follow :=
        match r.get runId with
        | none => []
        | some e =>
          (if outcome = .recover then [.recovery runId] else []) ++
            outcome.drains.toList.map (.drainIfAvailable e.repoDir ·) }
  | .gateRecovery runId =>
    { actor := some (.recovery runId)
      follow := ((r.get runId).filter fun e => !e.status.isTerminal).toList.map fun _ =>
        .resolveRestart runId }
  | .resolveRestart runId decision now =>
    { actor := some (.resolveRestart runId)
      ops := statusOps runId now decision.status
      follow := if decision = .restart then [.spawnRecovery runId] else [] }
  | .spawnRecovery runId respawn now =>
    { actor := some (.spawnRecovery runId)
      ops := [respawn.op runId now] }

/-- One action. -/
def daemonStep (c : DaemonConfig) (d : Daemon) (a : Action) : Option Daemon :=
  let s := a.scope c d.registry
  if s.actor.all (· ∈ d.tasks) then
    (exec (opStep c.host) d.registry s.ops).map fun r =>
      ⟨r, s.follow ++ s.actor.elim d.tasks d.tasks.erase⟩
  else none

/-- The actions for a run that is submitted and whose spawn goes through. -/
def PendingRun.startActions (p : PendingRun) : List Action :=
  [.submitRun p, .register p.planPath p.repoDir none none .request p.runId 0 .acquired (.ok ()),
    .sessionUp p.runId .request 1 0, .started p.runId .request 0 (.ok ())]

/-- The runs of one repo: the first is Running, the others wait. -/
def queuedBehind (first : PendingRun) (rest : List PendingRun) : List Action :=
  first.startActions ++ rest.map .submitRun

/-- The monitor of a run sees it complete, and the repo is drained. -/
def completeActions (runId : String) (repoDir : PathBuf) : List Action :=
  [.startMonitor runId, .monitorEnds runId .completed 1, .drainIfAvailable repoDir false 1]

end GreaterWill
