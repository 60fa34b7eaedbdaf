import Mathlib.Data.List.Dedup
import Mathlib.Data.List.Sort
import GreaterWill.Daemon.RegistrySpec
import GreaterWill.Lib.Text

/-!
# The startup of the daemon

`load_from_disk`, and `reconcile` of `daemon/reconciler.rs`, which brings the registry that was
loaded in line with the tmux sessions that are alive. What it asks of tmux, of the repositories and
of the lock files is in `ReconcileIo`. The counters of its report and what it does to tmux sessions
are left out: neither changes the registry.
-/

namespace GreaterWill

/-- The `meta.json` files that can be read, by the name of their directory under `runs`;
`write_meta` names the directory after the run. -/
structure RunsDir where
  metas : Map String RunEntry
  named : ∀ dir entry, metas.lookup dir = some entry → entry.runId = dir

def RunsDir.empty : RunsDir where
  metas := ∅
  named dir entry h := by cases h

/-- `write_meta`. -/
def RunsDir.writeMeta (disk : RunsDir) (entry : RunEntry) : RunsDir where
  metas := disk.metas.insert entry.runId entry
  named dir e h := by
    rw [AList.lookup_insert_eq_ite] at h
    split at h
    · next hdir =>
      cases h
      exact hdir.symm
    · exact disk.named dir e h

/-- What `reconcile` asks about its surroundings. -/
structure ReconcileIo where
  /-- What the lock file answers when the lock is asked for a run. -/
  lockIo : String → LockIo
  /-- The `gw-*` sessions that are alive. -/
  liveSessions : List String
  /-- The plan of the active arc loop state of a repo. -/
  loopPlan : PathBuf → Option String
  /-- `GW_DAEMON_SKIP_PLAN_MATCH` is "1". -/
  skipPlanMatch : Bool
  /-- `check_checkpoint`. -/
  hasCheckpoint : PathBuf → Bool
  pathExists : PathBuf → Bool
  now : DateTime

namespace RunRegistry

/-- `load_from_disk`; the directories come in some order. -/
def loadFromDisk (disk : RunsDir) : RunRegistry :=
  disk.metas.entries.foldl (fun r m => { r with runs := r.runs.insert m.2.runId m.2 }) .new

variable (host : Host) (io : ReconcileIo) (disk : RunsDir) (r : RunRegistry)

/-- `list_runs`, newest first; a `RunInfo` shows these fields of its entry. -/
def listRuns (includeFinished : Bool) : List RunEntry :=
  ((r.runs.entries.map (·.2)).filter fun e =>
    includeFinished || !e.status.isTerminal).insertionSort fun a b => b.startedAt ≤ a.startedAt

/-- `acquire_repo_lock_for_adopt`: a lock that this daemon holds will do. -/
def acquireRepoLockForAdopt (repoDir : PathBuf) (lockIo : LockIo) : Except String RunRegistry :=
  if repoHash host repoDir ∈ r.repoLocks then .ok r else r.acquireRepoLock host repoDir lockIo

def adopt (entry : RunEntry) : RunRegistry := { r with runs := r.runs.insert entry.runId entry }

/-- `update_status`; its result is only logged here. -/
def updateStatus (runId : String) (status : RunStatus) (phase error : Option String)
    (now : DateTime) : RunRegistry :=
  r.tryStage host runId status phase error now

/-- `remove_pending`. -/
def removePending (runId : String) : RunRegistry :=
  (r.removePendingWithoutSnapshot runId).stageQueueLocked.2

/-! ## The passes -/

/-- Step 0: the locks of the Running entries. -/
def reacquireLocks : RunRegistry :=
  ((r.listRuns false).filter fun e => e.status = .running).foldl (fun r e =>
    match r.acquireRepoLockForAdopt host e.repoDir (io.lockIo e.runId) with
    | .ok r' => r'
    | .error _ => r) r

def findRunByTmuxSession (tmuxName : String) : Option (String × RunStatus) :=
  ((r.listRuns true).find? fun e =>
    e.sessionName = tmuxName || tmuxName = "gw-" ++ e.runId).map fun e => (e.runId, e.status)

/-- `try_adopt_orphan`: the registry with the adopted run, if it is adopted. -/
def tryAdoptOrphan (tmuxName : String) : Option RunRegistry := do
  let runId := String.ofList (← Text.stripPrefix "gw-".toList tmuxName.toList)
  if (r.get runId).isSome then some r
  else
    let entry ← disk.metas.lookup runId
    if !io.skipPlanMatch && (io.loopPlan entry.repoDir).any (fun livePlan =>
        !plansMatch host livePlan entry.planPath entry.repoDir) then none
    else
      let entry :=
        { entry with
          tmuxSession := some tmuxName
          status := .running
          currentPhase := some "adopted"
          errorMessage := none
          finishedAt := none }
      match r.acquireRepoLockForAdopt host entry.repoDir (io.lockIo runId) with
      | .ok r' => some (r'.adopt entry)
      | .error _ => none

/-- Step 2: a session that no run is known for is adopted or killed. -/
def processSessions : RunRegistry :=
  io.liveSessions.foldl (fun r tmuxName =>
    match r.findRunByTmuxSession tmuxName with
    | some _ => r
    | none => (r.tryAdoptOrphan host io disk tmuxName).getD r) r

/-- Running or Queued, not waiting in a queue, and without a live session. -/
def isStale (e : RunEntry) : Bool :=
  !e.status.isTerminal && !(e.status == .queued && r.isInPendingQueue e.runId) &&
    !(io.liveSessions.contains ("gw-" ++ e.runId)) && !io.liveSessions.contains e.sessionName

def findStaleRuns : List RunEntry := (r.listRuns false).filter (r.isStale io)

/-- `crash_restarts = 0`. -/
def resetCrashes (runId : String) : RunRegistry :=
  match r.runs.lookup runId with
  | some entry => { r with runs := r.runs.insert runId { entry with crashRestarts := 0 } }
  | none => r

/-- One turn of step 4. -/
def settleStale (runId : String) (repoDir : PathBuf) : RunRegistry :=
  let session := "gw-" ++ runId
  if io.hasCheckpoint repoDir then
    (r.modify runId { tmuxSession := some session }).updateStatus host runId .running
      (some "pending-recovery") none io.now
  else if (r.get runId).any (·.restartable) then
    ((r.modify runId { tmuxSession := some session }).resetCrashes runId).updateStatus host runId
      .running (some "pending-respawn") none io.now
  else
    let reason := s!"tmux session '{session}' lost with no checkpoint — marked failed by " ++
      "reconciler on daemon startup"
    r.updateStatus host runId .failed none (some reason) io.now

/-- Step 4: the stale runs are found first. -/
def settleStaleRuns : RunRegistry :=
  (r.findStaleRuns io).foldl (fun r e => r.settleStale host io e.runId e.repoDir) r

/-- The session names that several runs claim, each with the runs. -/
def findSessionNameCollisions : List (String × List String) :=
  let active := r.listRuns false
  ((active.map (·.sessionName)).dedup.map fun name =>
    (name, (active.filter (·.sessionName = name)).map (·.runId))).filter fun group =>
      1 < group.2.length

/-- The run that a session is named after. -/
def canonicalId (sessionName : String) : Option String :=
  (Text.stripPrefix "gw-".toList sessionName.toList).map String.ofList

/-- One collision: the run that the session is named after wins, if it is among them. -/
def resolveCollision (group : String × List String) : RunRegistry :=
  match canonicalId group.1 with
  | none => r
  | some canonical =>
    let reason := s!"session_name '{group.1}' collision with canonical owner '{canonical}' — " ++
      "resolved by reconciler"
    if canonical ∈ group.2 then
      group.2.foldl (fun r runId =>
        if runId = canonical then r
        else r.updateStatus host runId .stopped none (some reason) io.now) r
    else r

/-- Step 4.5. -/
def resolveSessionNameCollisions : RunRegistry :=
  r.findSessionNameCollisions.foldl (fun r group => r.resolveCollision host io group) r

/-- Step 5: the pending runs whose files are gone. -/
def validatePending : RunRegistry :=
  r.pendingEntries.foldl (fun r p =>
    let planOk := io.pathExists p.planPath
    let repoOk := io.pathExists p.repoDir
    if !planOk || !repoOk then
      let reason :=
        s!"removed from queue by reconciler: plan_exists={planOk}, repo_exists={repoOk}"
      (r.removePending p.runId).updateStatus host p.runId .failed none (some reason) io.now
    else r) r

def reconcile : RunRegistry :=
  let r := r.reacquireLocks host io
  let r := r.processSessions host io disk
  let r := r.settleStaleRuns host io
  let r := r.resolveSessionNameCollisions host io
  r.validatePending host io

end RunRegistry
end GreaterWill
