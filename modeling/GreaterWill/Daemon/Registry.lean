import GreaterWill.Daemon.Entry
import Mathlib.Data.Finset.Erase
import Mathlib.Data.Finset.Insert

/-!
# The run registry

`RunRegistry` of `daemon/registry.rs` and its methods, each as a function of the registry: the
registry mutex makes every method one atomic step. What a method asks of the operating system
(the lock file, `meta.json`, the clock, the id generator) is an argument. A method that takes the
clock several times takes it once here.

The `_staged` methods return what the caller flushes after releasing the mutex: a `StagedStatus`
for `meta.json`, a `QueueSnapshot` for `queue.json`. What the flushes do is in `QueueFlush` and
`MetaFlush`. The maps are association lists, so iteration has some fixed order.
-/

namespace GreaterWill

/-- Maximum pending runs across all repos. -/
def MAX_QUEUE_SIZE : Nat := 50

/-- Consecutive spawn failures before the circuit breaker trips. -/
def MAX_CONSECUTIVE_FAILURES : Nat := 3

inductive UpdateStatusError where
  | notFound (runId : String)
  | invalidTransition (source target : RunStatus)
  deriving DecidableEq, Repr

/-- The `Display` text. -/
def UpdateStatusError.display : UpdateStatusError → String
  | .notFound runId => s!"run not found: {runId}"
  | .invalidTransition source target => s!"invalid transition: {source.debug} → {target.debug}"

/-- A staged status change, to be written to `meta.json`. -/
structure StagedStatus where
  entry : RunEntry
  epoch : Nat
  deriving DecidableEq, Repr

/-- The content of `queue.json`. -/
structure QueueSnapshotWire where
  queues : Map String (List PendingRun)
  consecutiveFailures : Map String Nat

/-- A staged content of `queue.json` with the epoch of its staging, which is never the initial
value 0 of the tracker. -/
structure QueueSnapshot where
  wire : QueueSnapshotWire
  epoch : Nat
  epoch_pos : 0 < epoch

/-- What the operating system answers to the calls of `acquire_repo_lock`. -/
inductive LockIo where
  | createDirFails
  | createFileFails
  | heldElsewhere
  | acquired
  deriving DecidableEq, Repr

structure RunRegistry where
  runs : Map String RunEntry
  /-- The repos, by hash, whose lock file this daemon holds. -/
  repoLocks : Finset String
  /-- Pending runs by repo hash. -/
  pendingQueues : Map String (List PendingRun)
  /-- Repo hashes in the order they first received a pending run. -/
  repoInsertionOrder : List String
  consecutiveFailures : Map String Nat
  queueEpoch : Nat

namespace RunRegistry

def new : RunRegistry where
  runs := ∅
  repoLocks := ∅
  pendingQueues := ∅
  repoInsertionOrder := []
  consecutiveFailures := ∅
  queueEpoch := 0

variable (host : Host) (r : RunRegistry)

/-! ## Repo locks -/

/-- A registry that holds the lock already refuses: the lock is identified by its repo alone. -/
def acquireRepoLock (repoDir : PathBuf) (io : LockIo) : Except String RunRegistry :=
  let hash := repoHash host repoDir
  if hash ∈ r.repoLocks then
    .error s!"repository already has an active run: {repoDir}"
  else
    match io with
    | .createDirFails => .error "failed to create repo lock directory"
    | .createFileFails => .error "failed to create repo lock file"
    | .heldElsewhere => .error s!"repository is locked by another daemon instance: {repoDir}"
    | .acquired => .ok { r with repoLocks := insert hash r.repoLocks }

def hasRepoLock (repoDir : PathBuf) : Bool := repoHash host repoDir ∈ r.repoLocks

/-! ## Runs -/

def get (runId : String) : Option RunEntry := r.runs.lookup runId

/-- A write through `get_mut`. -/
def modify (runId : String) (p : RunEntry.Patch) : RunRegistry :=
  match r.runs.lookup runId with
  | some entry => { r with runs := r.runs.insert runId (entry.patch p) }
  | none => r

/-- `register_run_with_schedule`. `runId` is what `generate_id` returns, `io` what the lock file
and `metaIo` what the write of `meta.json` answer; when that write fails, the guard releases the
lock again. -/
def registerRun (planPath repoDir : PathBuf) (sessionName : Option String)
    (configDir : Option PathBuf) (scheduleId : Option String) (runId : String) (now : DateTime)
    (io : LockIo) (metaIo : Except String Unit) : Except String String × RunRegistry :=
  match r.acquireRepoLock host repoDir io with
  | .error e => (.error e, r)
  | .ok locked =>
    match metaIo with
    | .ok () =>
      let entry := .registered runId planPath repoDir sessionName configDir scheduleId now
      (.ok runId, { locked with runs := locked.runs.insert runId entry })
    | .error e =>
      (.error e, { locked with repoLocks := locked.repoLocks.erase (repoHash host repoDir) })

/-- `stage_status_locked`: the guard rejects terminal → non-terminal and Running → Queued. A
terminal status releases the lock of the entry's repo, whoever acquired it. -/
def stageStatusLocked (runId : String) (status : RunStatus) (phase error : Option String)
    (now : DateTime) : Except UpdateStatusError (StagedStatus × RunRegistry) :=
  match r.runs.lookup runId with
  | none => .error (.notFound runId)
  | some entry =>
    if entry.status.isTerminal ∧ ¬ status.isTerminal then
      .error (.invalidTransition entry.status status)
    else if entry.status = .running ∧ status = .queued then
      .error (.invalidTransition entry.status status)
    else
      let staged := entry.stage status phase error now
      .ok (⟨staged, staged.writeEpoch⟩,
        { r with
          runs := r.runs.insert runId staged
          repoLocks :=
            if status.isTerminal then r.repoLocks.erase (repoHash host entry.repoDir)
            else r.repoLocks })

/-- Stage the Stopped status of several runs, one after the other: the loop of
`record_queue_failure_without_snapshot` and of `clear_queue_staged`. -/
def stageStopped (error : String) (now : DateTime) :
    RunRegistry → List String → List StagedStatus × RunRegistry
  | r, [] => ([], r)
  | r, runId :: runIds =>
    match r.stageStatusLocked host runId .stopped none (some error) now with
    | .ok (staged, r') =>
      let (batch, r'') := stageStopped error now r' runIds
      (staged :: batch, r'')
    | .error _ => stageStopped error now r runIds

/-- Running runs. -/
def countRunning : Nat := (r.runs.entries.filter fun e => e.2.status = .running).length

private def hasPrefix (pfx runId : String) : Bool := pfx.toList.isPrefixOf runId.toList

/-- `find_by_prefix`: the run whose id starts with a non-empty prefix, if there is exactly one. -/
def findByPrefix (pfx : String) : Option RunEntry :=
  if pfx = "" then none
  else
    match (r.runs.entries.map (·.2)).filter fun e => hasPrefix pfx e.runId with
    | [e] => some e
    | _ => none

/-! ## Pending queues -/

/-- All pending runs, over all repos. -/
def pendingEntries : List PendingRun := r.pendingQueues.elems

def totalPendingCount : Nat := r.pendingQueues.entries.foldl (fun n q => n + q.2.length) 0

def isInPendingQueue (runId : String) : Bool := r.pendingEntries.any (·.runId = runId)

/-- The queue of a repo hash; a missing one is empty. -/
def queue (hash : String) : List PendingRun := (r.pendingQueues.lookup hash).getD []

/-- The failure count of a repo hash. -/
def failures (hash : String) : Nat := (r.consecutiveFailures.lookup hash).getD 0

/-- The non-terminal entry of the repo whose plan matches, if any. -/
def findDuplicate (pending : PendingRun) : Option RunEntry :=
  (r.runs.entries.map (·.2)).find? fun e =>
    !e.status.isTerminal && repoHash host e.repoDir == repoHash host pending.repoDir &&
      plansMatch host e.planPath pending.planPath pending.repoDir

/-- `enqueue_run_without_snapshot`: the position in the repo's queue, and the entry to write. -/
def enqueueRunWithoutSnapshot (pending : PendingRun) :
    Except String (Nat × RunEntry × RunRegistry) :=
  let total := r.totalPendingCount
  if total ≥ MAX_QUEUE_SIZE then
    .error s!"queue full: {total} pending runs"
  else
    match r.findDuplicate host pending with
    | some existing =>
      let verb := match existing.status with
        | .queued => "queued"
        | .running => "running"
        | _ => "active"
      .error s!"plan already {verb} on this repo: {pending.planPath}"
    | none =>
      let hash := repoHash host pending.repoDir
      let entry := RunEntry.enqueued pending
      let queue := r.queue hash ++ [pending]
      .ok (queue.length, entry,
        { r with
          runs := r.runs.insert pending.runId entry
          repoInsertionOrder :=
            if hash ∈ r.repoInsertionOrder then r.repoInsertionOrder
            else r.repoInsertionOrder ++ [hash]
          pendingQueues := r.pendingQueues.insert hash queue })

/-- `stage_queue_locked`. The epoch is a `u64` in the source, too large to wrap. -/
def stageQueueLocked : QueueSnapshot × RunRegistry :=
  (⟨⟨r.pendingQueues, r.consecutiveFailures⟩, r.queueEpoch + 1, Nat.succ_pos _⟩,
    { r with queueEpoch := r.queueEpoch + 1 })

/-- `pop_from_pending_queues`: the first queue that holds the run loses its first occurrence. -/
def popFromPendingQueues (runId : String) : Option (PendingRun × RunRegistry) := do
  let ⟨hash, queue⟩ ← r.pendingQueues.entries.find? fun q => q.2.any (·.runId = runId)
  let pending ← queue.find? (·.runId = runId)
  pure (pending,
    { r with
      pendingQueues := r.pendingQueues.insert hash (queue.eraseP (·.runId = runId)) })

/-- `dequeue_run_staged`. When the status cannot be staged the run stays popped. -/
def dequeueRunStaged (runId : String) (now : DateTime) :
    Option (PendingRun × StagedStatus × QueueSnapshot) × RunRegistry :=
  match r.popFromPendingQueues runId with
  | none => (none, r)
  | some (pending, r₁) =>
    match r₁.stageStatusLocked host runId .stopped none (some "removed from queue") now with
    | .error _ => (none, r₁)
    | .ok (staged, r₂) =>
      let (snap, r₃) := r₂.stageQueueLocked
      (some (pending, staged, snap), r₃)

/-- `promote_queued`: acquires the repo lock of a queued run; the status stays Queued. A failing
write of `meta.json` releases the lock again but keeps the new `started_at` and `restartable`. -/
def promoteQueued (runId : String) (now : DateTime) (io : LockIo) (metaIo : Except String Unit) :
    Except String Unit × RunRegistry :=
  match r.runs.lookup runId with
  | none => (.error s!"run not found: {runId}", r)
  | some entry =>
    if entry.status ≠ .queued then
      (.error s!"run {runId} is not queued (status: {entry.status.debug})", r)
    else
      match r.acquireRepoLock host entry.repoDir io with
      | .error e => (.error e, r)
      | .ok locked =>
        let promoted := { locked with runs := locked.runs.insert runId (entry.promote now) }
        match metaIo with
        | .ok () => (.ok (), promoted)
        | .error e =>
          let hash := repoHash host entry.repoDir
          (.error e, { promoted with repoLocks := promoted.repoLocks.erase hash })

/-- `pop_front` on the queue of a repo hash. -/
def popFront (hash : String) : Option PendingRun × RunRegistry :=
  match r.queue hash with
  | [] => (none, r)
  | pending :: rest =>
    (some pending, { r with pendingQueues := r.pendingQueues.insert hash rest })

/-- `drain_next_without_snapshot`. -/
def drainNextWithoutSnapshot (repoDir : PathBuf) : Option PendingRun × RunRegistry :=
  let hash := repoHash host repoDir
  if r.failures hash ≥ MAX_CONSECUTIVE_FAILURES then (none, r) else r.popFront hash

/-- A repo whose breaker has not tripped and whose queue is not empty. -/
def Ready (hash : String) : Prop :=
  r.failures hash < MAX_CONSECUTIVE_FAILURES ∧ r.queue hash ≠ []

instance (hash : String) : Decidable (r.Ready hash) :=
  inferInstanceAs (Decidable (_ ∧ _))

/-- `drain_any_ready_without_snapshot`: the front of the first ready queue in the order in which
the repos first received a pending run. -/
def drainAnyReadyWithoutSnapshot : Option PendingRun × RunRegistry :=
  match r.repoInsertionOrder.find? fun hash => r.Ready hash with
  | none => (none, r)
  | some hash => r.popFront hash

/-- `record_queue_failure_without_snapshot`: the third failure in a row stops the repo's queue. -/
def recordQueueFailureWithoutSnapshot (repoDir : PathBuf) (now : DateTime) :
    List StagedStatus × RunRegistry :=
  let hash := repoHash host repoDir
  let count := r.failures hash + 1
  if count ≥ MAX_CONSECUTIVE_FAILURES then
    let drained :=
      { r with
        pendingQueues :=
          if hash ∈ r.pendingQueues then r.pendingQueues.insert hash [] else r.pendingQueues }
    let (batch, stopped) := stageStopped host "circuit breaker tripped" now drained
      ((r.queue hash).map (·.runId))
    (batch, { stopped with consecutiveFailures := stopped.consecutiveFailures.erase hash })
  else
    ([], { r with consecutiveFailures := r.consecutiveFailures.insert hash count })

/-- `record_queue_success_without_snapshot`. -/
def recordQueueSuccessWithoutSnapshot (repoDir : PathBuf) : RunRegistry :=
  { r with consecutiveFailures := r.consecutiveFailures.erase (repoHash host repoDir) }

/-- `remove_pending_without_snapshot`. -/
def removePendingWithoutSnapshot (runId : String) : RunRegistry :=
  { r with pendingQueues := r.pendingQueues.mapVals (·.filter (·.runId ≠ runId)) }

/-- Whether `clear_queue_staged` removes a pending run under a repo filter. -/
def clears (repoFilter : Option PathBuf) (pending : PendingRun) : Bool :=
  match repoFilter with
  | none => true
  | some dir =>
    PathBuf.eqPath pending.repoDir ((host.canonicalize dir).getD dir) ||
      PathBuf.eqPath pending.repoDir dir

/-- `clear_queue_staged`: how many were removed, the staged stops and the queue snapshot. -/
def clearQueueStaged (repoFilter : Option PathBuf) (now : DateTime) :
    (Nat × List StagedStatus × QueueSnapshot) × RunRegistry :=
  let removedIds := (r.pendingEntries.filter (clears host repoFilter)).map (·.runId)
  let cleared :=
    { r with pendingQueues := r.pendingQueues.mapVals (·.filter (!clears host repoFilter ·)) }
  let (batch, stopped) := stageStopped host "cleared by user" now cleared removedIds
  let (snap, r') := stopped.stageQueueLocked
  ((removedIds.length, batch, snap), r')

/-- `find_pending_by_prefix`: the pending run whose id starts with the prefix, if there is exactly
one, with its repo hash. -/
def findPendingByPrefix (pfx : String) : Option (String × String) :=
  match r.pendingQueues.entries.flatMap fun q =>
      (q.2.filter fun p => hasPrefix pfx p.runId).map fun p => (p.runId, q.1) with
  | [found] => some found
  | _ => none

/-- The locked section of the `RemoveQueued` handler of `daemon/server.rs`. -/
def removeQueued (pfx : String) (now : DateTime) :
    Option (String × Option StagedStatus × QueueSnapshot) × RunRegistry :=
  match r.findPendingByPrefix pfx with
  | none => (none, r)
  | some (fullId, _) =>
    let (staged, r₁) :=
      match r.stageStatusLocked host fullId .stopped none (some "removed from queue by user") now with
      | .ok (s, r₁) => (some s, r₁)
      | .error _ => (none, r)
    let (snap, r₂) := (r₁.removePendingWithoutSnapshot fullId).stageQueueLocked
    (some (fullId, staged, snap), r₂)

/-- `restore_queue`. The wire's map iterates in any order, so the order of the repos is not kept. -/
def restoreQueue (snapshot : QueueSnapshotWire) : RunRegistry :=
  let restored := snapshot.queues.entries.foldl (fun (r : RunRegistry) q =>
    { r with
      repoInsertionOrder :=
        if q.2 ≠ [] ∧ q.1 ∉ r.repoInsertionOrder then r.repoInsertionOrder ++ [q.1]
        else r.repoInsertionOrder
      pendingQueues := r.pendingQueues.insert q.1 q.2 }) r
  { restored with consecutiveFailures := snapshot.consecutiveFailures }

end RunRegistry
end GreaterWill
