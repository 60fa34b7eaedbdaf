import GreaterWill.Lib.Map
import GreaterWill.Lib.Path

/-!
# Runs and their records

The records of `daemon/registry.rs` and the run status of `daemon/protocol.rs`, and the two
functions on paths that the registry identifies a repository and a plan by: `repo_hash` and
`plans_match`. What these two ask the operating system is the parameter `Host`.
-/

namespace GreaterWill

/-- A `DateTime<Utc>`, in nanoseconds. -/
abbrev DateTime := Int

/-! ## Paths -/

/-- The file system as far as path resolution goes, and the digest of `repo_hash`. Paths resolve
the same way throughout a run of the daemon. -/
structure Host where
  /-- `std::fs::canonicalize`; `none` when the target does not exist. -/
  canonicalize : PathBuf → Option PathBuf
  /-- Hex of the first 16 bytes of the SHA-256 digest. -/
  sha256Hex16 : String → String

/-- The host on which every path is canonical and a digest can be read back. -/
def Host.plain : Host where
  canonicalize := some
  sha256Hex16 := id

/-- The canonical repo hash used for the daemon's per-repo lock paths. -/
def repoHash (host : Host) (repoDir : PathBuf) : String :=
  host.sha256Hex16 ((host.canonicalize repoDir).getD repoDir)

/-- `norm` of `plans_match`: a plan reference resolved against the repository. -/
def normPlan (host : Host) (repoDir : PathBuf) (s : String) : PathBuf :=
  if PathBuf.isAbsolute s then (host.canonicalize s).getD s
  else (host.canonicalize (PathBuf.join repoDir s)).getD (PathBuf.join repoDir s)

/-- Whether two plan references name the same plan file, or at least a file of the same name. -/
def plansMatch (host : Host) (a b : String) (repoDir : PathBuf) : Bool :=
  let aN := normPlan host repoDir a
  let bN := normPlan host repoDir b
  PathBuf.eqPath aN bN ||
    (PathBuf.fileName aN == PathBuf.fileName bN && (PathBuf.fileName aN).isSome)

/-! ## Run status -/

inductive RunStatus where
  | queued
  | running
  | succeeded
  | failed
  | stopped
  deriving DecidableEq, Repr

/-- True for terminal states (Succeeded, Failed, Stopped). -/
def RunStatus.isTerminal : RunStatus → Bool
  | .succeeded | .failed | .stopped => true
  | .queued | .running => false

/-- The `Debug` text. -/
def RunStatus.debug : RunStatus → String
  | .queued => "Queued"
  | .running => "Running"
  | .succeeded => "Succeeded"
  | .failed => "Failed"
  | .stopped => "Stopped"

theorem RunStatus.not_isTerminal {s : RunStatus} :
    ¬ s.isTerminal = true ↔ s = .queued ∨ s = .running := by
  cases s <;> simp [isTerminal]

/-! ## Records -/

/-- In-memory record of a run waiting to be spawned. -/
structure PendingRun where
  runId : String
  planPath : PathBuf
  repoDir : PathBuf
  sessionName : Option String
  configDir : Option PathBuf
  verbose : UInt8
  queuedAt : DateTime
  deriving DecidableEq, Repr

/-- A run queued without options. -/
def PendingRun.plain (runId : String) (planPath repoDir : PathBuf) : PendingRun where
  runId := runId
  planPath := planPath
  repoDir := repoDir
  sessionName := none
  configDir := none
  verbose := 0
  queuedAt := 0

/-- Persistent metadata for a single arc run. -/
structure RunEntry where
  runId : String
  planPath : PathBuf
  repoDir : PathBuf
  sessionName : String
  tmuxSession : Option String
  status : RunStatus
  currentPhase : Option String
  startedAt : DateTime
  finishedAt : Option DateTime
  crashRestarts : UInt32
  configDir : Option PathBuf
  errorMessage : Option String
  restartable : Bool
  claudePid : Option UInt32
  scheduleId : Option String
  lastRecoveryAt : Option DateTime
  /-- Bumped on every staged status change; a `u64` in the source, too large to wrap. -/
  writeEpoch : Nat
  deriving DecidableEq, Repr

namespace RunEntry

/-- The entry `register_run_with_schedule` creates. -/
def registered (runId : String) (planPath repoDir : PathBuf) (sessionName : Option String)
    (configDir : Option PathBuf) (scheduleId : Option String) (now : DateTime) : RunEntry where
  runId := runId
  planPath := planPath
  repoDir := repoDir
  sessionName := sessionName.getD ("gw-" ++ runId)
  tmuxSession := none
  status := .queued
  currentPhase := none
  startedAt := now
  finishedAt := none
  crashRestarts := 0
  configDir := configDir
  errorMessage := none
  restartable := true
  claudePid := none
  scheduleId := scheduleId
  lastRecoveryAt := none
  writeEpoch := 0

/-- The entry `enqueue_run_without_snapshot` creates for `gw ps`. -/
def enqueued (pending : PendingRun) : RunEntry where
  runId := pending.runId
  planPath := pending.planPath
  repoDir := pending.repoDir
  sessionName := "gw-" ++ pending.runId
  tmuxSession := none
  status := .queued
  currentPhase := none
  startedAt := pending.queuedAt
  finishedAt := none
  crashRestarts := 0
  configDir := pending.configDir
  errorMessage := none
  restartable := false
  claudePid := none
  scheduleId := none
  lastRecoveryAt := none
  writeEpoch := 0

/-- The change `stage_status_locked` makes to an entry once its guard has passed. -/
def stage (e : RunEntry) (status : RunStatus) (phase error : Option String) (now : DateTime) :
    RunEntry :=
  { e with
    status := status
    writeEpoch := e.writeEpoch + 1
    currentPhase := phase.or e.currentPhase
    errorMessage := error.or e.errorMessage
    finishedAt := if status.isTerminal then some now else e.finishedAt }

@[simp] theorem stage_writeEpoch (e : RunEntry) (status : RunStatus) (phase error : Option String)
    (now : DateTime) : (e.stage status phase error now).writeEpoch = e.writeEpoch + 1 := rfl

/-- The change `promote_queued` makes to a queued entry; the status stays Queued. -/
def promote (e : RunEntry) (now : DateTime) : RunEntry :=
  { e with startedAt := now, restartable := true }

/-- The fields callers write through `get_mut`; `none` leaves the field as it is. -/
structure Patch where
  tmuxSession : Option String := none
  currentPhase : Option String := none
  claudePid : Option UInt32 := none
  lastRecoveryAt : Option DateTime := none
  scheduleId : Option String := none
  /-- Adds one to `crash_restarts`, saturating. -/
  countsRestart : Bool := false
  deriving DecidableEq, Repr

def patch (e : RunEntry) (p : Patch) : RunEntry :=
  { e with
    tmuxSession := p.tmuxSession.or e.tmuxSession
    currentPhase := p.currentPhase.or e.currentPhase
    claudePid := p.claudePid.or e.claudePid
    lastRecoveryAt := p.lastRecoveryAt.or e.lastRecoveryAt
    scheduleId := p.scheduleId.or e.scheduleId
    crashRestarts :=
      if p.countsRestart ∧ e.crashRestarts.toNat + 1 < UInt32.size then e.crashRestarts + 1
      else e.crashRestarts }

@[simp] theorem patch_tmuxSession (e : RunEntry) (p : Patch) :
    (e.patch p).tmuxSession = p.tmuxSession.or e.tmuxSession := rfl

end RunEntry
end GreaterWill
