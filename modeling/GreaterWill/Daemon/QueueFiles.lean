import GreaterWill.Daemon.QueueAgreement
import GreaterWill.Daemon.ReconcileSpec
import GreaterWill.Daemon.Tasks

/-!
# What the queue requests write

`queue.json` and the `meta.json` of a run are two files, and a request that moves a run into or out
of a queue writes both of them after it has released the registry mutex. `requestStep` takes one
request, or one locked scope of the task that drains a queue, with the writes that follow it in
their order. One request comes after the other, so no flush finds a newer epoch on disk.
-/

namespace GreaterWill

/-- The files that the daemon starts from. A missing `queue.json` is an empty one. -/
structure GwHome where
  runs : RunsDir
  queueJson : QueueSnapshotWire

def GwHome.init : GwHome := ⟨.empty, ∅, ∅⟩

inductive FileWrite where
  /-- `flush_queue`. -/
  | queueJson (wire : QueueSnapshotWire)
  /-- `flush_status` and `write_meta_staged`. -/
  | metaJson (entry : RunEntry)

namespace GwHome

def write (home : GwHome) : FileWrite → GwHome
  | .queueJson wire => { home with queueJson := wire }
  | .metaJson entry => { home with runs := home.runs.writeMeta entry }

def writeAll (home : GwHome) (ws : List FileWrite) : GwHome := ws.foldl write home

/-- The daemon starts: `load_from_disk`, `restore_queue`, `reconcile`. -/
def restart (home : GwHome) (host : Host) (io : ReconcileIo) : RunRegistry :=
  (RunRegistry.restored home.runs home.queueJson).reconcile host io home.runs

end GwHome

inductive QueueRequest where
  /-- `SubmitRun`; the record has the id that `generate_id` returns. -/
  | submitRun (pending : PendingRun)
  /-- `StopRun`, with the run that the prefix stands for. -/
  | stopRun (runId : String) (now : DateTime)
  | removeQueued (pfx : String) (now : DateTime)
  | clearQueue (repoFilter : Option PathBuf) (now : DateTime)
  | drainIfAvailable (repoDir : PathBuf) (failed : Bool) (now : DateTime)
  /-- The error path of the task that brings up a drained run. -/
  | drainError (pending : PendingRun) (error : String) (now : DateTime)
  | promoteQueued (runId : String) (now : DateTime) (io : LockIo) (metaIo : Except String Unit)
  | registerRun (planPath repoDir : PathBuf) (sessionName : Option String)
      (configDir : Option PathBuf) (scheduleId : Option String) (runId : String) (now : DateTime)
      (io : LockIo) (metaIo : Except String Unit)
  /-- A status update of a run that is in no queue. -/
  | updateStatus (runId : String) (p : RunEntry.Patch) (status : RunStatus)
      (phase error : Option String) (now : DateTime)

namespace RunRegistry

variable (host : Host) (r : RunRegistry)

/-- `stage_status_locked`, then `flush_status`. -/
def stageAndFlush (runId : String) (status : RunStatus) (phase error : Option String)
    (now : DateTime) : RunRegistry × List FileWrite :=
  match r.stageStatusLocked host runId status phase error now with
  | .ok (staged, r') => (r', [.metaJson staged.entry])
  | .error _ => (r, [])

/-- `stop_run`: a run that is over is refused. -/
def stopRun (runId : String) (now : DateTime) : RunRegistry × List FileWrite :=
  match (r.get runId).filter fun e => !e.status.isTerminal with
  | some e =>
    let error := if e.tmuxSession.isSome then "stopped by user" else "stopped (no tmux session)"
    r.stageAndFlush host runId .stopped none (some error) now
  | none => (r, [])

/-- The writes after a locked scope that stages some statuses and the queues. -/
def flushes (batch : List StagedStatus) (snap : QueueSnapshot) : List FileWrite :=
  batch.map (.metaJson ·.entry) ++ [.queueJson snap.wire]

/-- The first scope of `drain_if_available`. The run that is popped goes to a task. -/
def drainIfAvailable (repoDir : PathBuf) (failed : Bool) (now : DateTime) :
    RunRegistry × List FileWrite :=
  let (batch, r₁) :=
    if failed then r.recordQueueFailureWithoutSnapshot host repoDir now
    else ([], r.recordQueueSuccessWithoutSnapshot host repoDir)
  let (snap, r₂) := (r₁.drainNextOrAny host repoDir).2.stageQueueLocked
  (r₂, flushes batch snap)

/-- The scope of the error path of the drain task. -/
def drainError (pending : PendingRun) (error : String) (now : DateTime) :
    RunRegistry × List FileWrite :=
  let reason := s!"drain spawn failed: {error}"
  let (failedStaged, r₁) :=
    match r.stageStatusLocked host pending.runId .failed none (some reason) now with
    | .ok (staged, r₁) => ([staged], r₁)
    | .error _ => ([], r)
  let (batch, r₂) := r₁.recordQueueFailureWithoutSnapshot host pending.repoDir now
  let (snap, r₃) := (r₂.drainNextWithoutSnapshot host pending.repoDir).2.stageQueueLocked
  (r₃, flushes (failedStaged ++ batch) snap)

/-- The write inside `promote_queued` and `register_run`, if they get to it. -/
def wroteMeta {α : Type} (runId : String) (res : Except String α × RunRegistry) :
    RunRegistry × List FileWrite :=
  (res.2, if res.1.isOk then (res.2.get runId).toList.map .metaJson else [])

end RunRegistry

open RunRegistry

/-- One request on the registry, and what is written after it. The tasks of a run that was drained
or registered work on it when it is in no queue. -/
def requestStep (c : DaemonConfig) (r : RunRegistry) :
    QueueRequest → Option (RunRegistry × List FileWrite)
  | .submitRun pending =>
    if (r.get pending.runId).isSome then none
    else if r.hasRepoLock c.host pending.repoDir ∨
        (c.maxConcurrentRuns > 0 ∧ r.countRunning ≥ c.maxConcurrentRuns) then
      match r.enqueueRunWithoutSnapshot c.host pending with
      | .ok (_, entry, r') =>
        let (snap, r') := r'.stageQueueLocked
        some (r', [.queueJson snap.wire, .metaJson entry])
      | .error _ => some (r, [])
    else none
  | .stopRun runId now =>
    if (r.get runId).any (·.status = .queued) then
      match r.dequeueRunStaged c.host runId now with
      | (some (_, staged, snap), r') => some (r', flushes [staged] snap)
      | (none, r') => some (r'.stopRun c.host runId now)
    else some (r.stopRun c.host runId now)
  | .removeQueued pfx now =>
    match r.removeQueued c.host pfx now with
    | (some (_, staged, snap), r') => some (r', flushes staged.toList snap)
    | (none, r') => some (r', [])
  | .clearQueue repoFilter now =>
    let ((_, batch, snap), r') := r.clearQueueStaged c.host repoFilter now
    some (r', flushes batch snap)
  | .drainIfAvailable repoDir failed now => some (r.drainIfAvailable c.host repoDir failed now)
  | .drainError pending error now =>
    if r.isInPendingQueue pending.runId then none
    else some (r.drainError c.host pending error now)
  | .promoteQueued runId now io metaIo =>
    if r.isInPendingQueue runId then none
    else some (wroteMeta runId (r.promoteQueued c.host runId now io metaIo))
  | .registerRun planPath repoDir sessionName configDir scheduleId runId now io metaIo =>
    if (r.get runId).isSome then none
    else
      some (wroteMeta runId (r.registerRun c.host planPath repoDir sessionName configDir scheduleId
        runId now io metaIo))
  | .updateStatus runId p status phase error now =>
    if r.isInPendingQueue runId then none
    else some ((r.modify runId p).stageAndFlush c.host runId status phase error now)

/-- The registry and the files. -/
structure QueueWorld where
  registry : RunRegistry
  home : GwHome

def QueueWorld.init : QueueWorld := ⟨.new, .init⟩

/-- One request, with all it writes. -/
def historyStep (c : DaemonConfig) (w : QueueWorld) (request : QueueRequest) : Option QueueWorld :=
  (requestStep c w.registry request).map fun res => ⟨res.1, w.home.writeAll res.2⟩

/-! ## What the requests write -/

namespace RunRegistry

variable {host : Host} {c : DaemonConfig} {r r' r'' : RunRegistry} {id runId : String}
  {e : RunEntry} {ws : List FileWrite} {ends starts : String → Prop} {status : RunStatus}
  {phase error : Option String} {now : DateTime} {dir : PathBuf} {batch : List StagedStatus}
  {snap : QueueSnapshot}

theorem Keyed.of_runsEvolve (hkeyed : r.Keyed) (h : RunsEvolve ends starts r r') : r'.Keyed := by
  intro id e' he'
  obtain ⟨e, he, hevolves⟩ := h.exists_of_get he'
  rw [hevolves.runId_eq]
  exact hkeyed id e he

/-- The entry that is written and the entry of its run are terminal. -/
def Ended (r : RunRegistry) (e : RunEntry) : Prop :=
  e.status.isTerminal = true ∧ ∃ e', r.get e.runId = some e' ∧ e'.status.isTerminal = true

theorem Ended.of_runsEvolve (h : r.Ended e) (hevolve : RunsEvolve ends starts r r') :
    r'.Ended e := by
  obtain ⟨hterminal, e', he', hterminal'⟩ := h
  obtain ⟨e'', he'', hevolves⟩ := hevolve.evolves _ e' he'
  exact ⟨hterminal, e'', he'', hevolves.isTerminal hterminal'⟩

theorem ended_of_stage {staged : StagedStatus} (hkeyed : r.Keyed) (hs : status.isTerminal = true)
    (h : r.stageStatusLocked host runId status phase error now = .ok (staged, r')) :
    r'.Ended staged.entry := by
  obtain ⟨entry, hget, -, rfl, rfl⟩ := stageStatusLocked_eq_ok.mp h
  refine ⟨hs, entry.stage status phase error now, ?_, hs⟩
  rw [get_staged]
  exact if_pos (hkeyed runId entry hget)

theorem ended_of_stageStopped {reason : String} {runIds : List String} (hkeyed : r.Keyed) :
    ∀ s ∈ (stageStopped host reason now r runIds).1,
      (stageStopped host reason now r runIds).2.Ended s.entry := by
  induction runIds generalizing r with
  | nil => exact fun s hs => nomatch hs
  | cons runId runIds ih =>
    unfold stageStopped
    have hevolve : RunsEvolve (fun _ => True) (fun _ => True) r
        (r.tryStage host runId .stopped none (some reason) now) :=
      tryStage_runsEvolve.mono (fun _ _ => trivial) fun _ _ => trivial
    rw [tryStage] at hevolve
    cases h : r.stageStatusLocked host runId .stopped none (some reason) now with
    | error err => exact ih hkeyed
    | ok res =>
      obtain ⟨staged, r₁⟩ := res
      rw [h] at hevolve
      dsimp only at hevolve ⊢
      rw [List.forall_mem_cons]
      constructor
      · have hended : r₁.Ended staged.entry := ended_of_stage hkeyed rfl h
        rw [stageStopped_snd]
        exact hended.of_runsEvolve stopAll_runsEvolve
      · exact ih (hkeyed.of_runsEvolve hevolve)

theorem ended_of_recordQueueFailure (hkeyed : r.Keyed) :
    ∀ s ∈ (r.recordQueueFailureWithoutSnapshot host dir now).1,
      (r.recordQueueFailureWithoutSnapshot host dir now).2.Ended s.entry := by
  rw [recordQueueFailureWithoutSnapshot]
  split
  · intro s hs
    exact ended_of_stageStopped (r := r.emptied (repoHash host dir)) hkeyed s hs
  · exact fun s hs => nomatch hs

/-- The orders of the writes after one request. -/
inductive Flushed (r r' : RunRegistry) : List FileWrite → Prop
  /-- A run joined a queue: `queue.json` is first. -/
  | submitted (pending : PendingRun) (wire : QueueSnapshotWire) :
    r.get pending.runId = none → (r'.get pending.runId).isSome = true →
    (∀ p, p ∈ r'.pendingEntries ↔ p = pending ∨ p ∈ r.pendingEntries) →
    wire.queues = r'.pendingQueues →
    Flushed r r' [.queueJson wire, .metaJson (.enqueued pending)]
  /-- Runs left the queues: `queue.json` is last. -/
  | left (entries : List RunEntry) (wire : QueueSnapshotWire) :
    r'.pendingEntries ⊆ r.pendingEntries → wire.queues = r'.pendingQueues →
    (∀ e ∈ entries, r'.Ended e) →
    Flushed r r' (entries.map .metaJson ++ [.queueJson wire])
  /-- The queues are as before. -/
  | updated (entries : List RunEntry) :
    r'.pendingEntries = r.pendingEntries →
    (∀ e ∈ entries, r.isInPendingQueue e.runId = false ∧ (r'.get e.runId).isSome = true) →
    Flushed r r' (entries.map .metaJson)

theorem Flushed.left_flushes (hsub : r'.pendingEntries ⊆ r.pendingEntries)
    (hwire : snap.wire.queues = r'.pendingQueues) (hended : ∀ s ∈ batch, r'.Ended s.entry) :
    Flushed r r' (flushes batch snap) := by
  have h := Flushed.left (batch.map (·.entry)) snap.wire hsub hwire
    (List.forall_mem_map.mpr hended)
  rwa [List.map_map] at h

/-- What one request does. -/
structure Requested (host : Host) (r r' : RunRegistry) (ws : List FileWrite) : Prop where
  agreement : QueueAgreement host r'
  keyed : r'.Keyed
  keeps : ∀ id, (r.get id).isSome = true → (r'.get id).isSome = true
  flushed : Flushed r r' ws

theorem Requested.of_runsEvolve (hagreement : QueueAgreement host r') (hkeyed : r.Keyed)
    (hevolve : RunsEvolve ends starts r r') (hflushed : Flushed r r' ws) :
    Requested host r r' ws where
  agreement := hagreement
  keyed := hkeyed.of_runsEvolve hevolve
  keeps _ := hevolve.isSome
  flushed := hflushed

theorem Requested.refl (hagreement : QueueAgreement host r) (hkeyed : r.Keyed) :
    Requested host r r [] where
  agreement := hagreement
  keyed := hkeyed
  keeps _ h := h
  flushed := .updated [] rfl (List.forall_mem_nil _)

theorem requested_stageAndFlush (hagreement : QueueAgreement host r) (hkeyed : r.Keyed)
    (hnot : r.isInPendingQueue runId = false) :
    Requested host r (r.stageAndFlush host runId status phase error now).1
      (r.stageAndFlush host runId status phase error now).2 := by
  have hstaged : QueueAgreement host (r.tryStage host runId status phase error now) :=
    hagreement.tryStage hnot
  have hevolve : RunsEvolve (fun _ => True) (fun _ => True) r
      (r.tryStage host runId status phase error now) :=
    tryStage_runsEvolve.mono (fun _ _ => trivial) fun _ _ => trivial
  rw [tryStage] at hstaged hevolve
  rw [stageAndFlush]
  cases h : r.stageStatusLocked host runId status phase error now with
  | error err => exact .refl hagreement hkeyed
  | ok res =>
    obtain ⟨staged, r'⟩ := res
    rw [h] at hstaged hevolve
    obtain ⟨entry, hget, -, rfl, rfl⟩ := stageStatusLocked_eq_ok.mp h
    have hid : (entry.stage status phase error now).runId = runId := hkeyed runId entry hget
    refine .of_runsEvolve hstaged hkeyed hevolve (.updated [_] rfl ?_)
    rw [List.forall_mem_singleton, hid, get_staged, if_pos rfl]
    exact ⟨hnot, rfl⟩

theorem requested_stopRun (hagreement : QueueAgreement host r) (hkeyed : r.Keyed)
    (hnot : r.isInPendingQueue runId = false) :
    Requested host r (r.stopRun host runId now).1 (r.stopRun host runId now).2 := by
  rw [stopRun]
  split
  · exact requested_stageAndFlush hagreement hkeyed hnot
  · exact .refl hagreement hkeyed

theorem requested_submitRun {pending : PendingRun} (hagreement : QueueAgreement host r)
    (hkeyed : r.Keyed) (hfresh : r.get pending.runId = none)
    (hroom : r.totalPendingCount < MAX_QUEUE_SIZE) :
    Requested host r (r.pushed host pending).stageQueueLocked.2
      [.queueJson (r.pushed host pending).stageQueueLocked.1.wire,
        .metaJson (.enqueued pending)] := by
  have hpushed := hagreement.enqueueRun hfresh hroom
  have hget {id : String} : (r.pushed host pending).stageQueueLocked.2.get id =
      if id = pending.runId then some (.enqueued pending) else r.get id :=
    AList.lookup_insert_eq_ite
  constructor
  · exact hpushed.of_shrink_of_get_eq (.of_eq rfl rfl) fun _ _ _ => rfl
  · intro id e he
    rw [hget] at he
    split at he
    · next hid =>
      cases he
      exact hid.symm
    · exact hkeyed id e he
  · intro id hsome
    rw [hget]
    split
    · rfl
    · exact hsome
  · refine .submitted pending _ hfresh ?_ (fun p => ?_) rfl
    · rw [hget, if_pos rfl]
      rfl
    · exact pendingEntries_pushed.mem_iff.trans List.mem_cons

theorem Requested.left (hagreement : QueueAgreement host r') (hkeyed : r.Keyed)
    (hevolve : RunsEvolve ends starts r r') (hshrink : QueuesShrink r r')
    (hwire : snap.wire.queues = r'.pendingQueues) (hended : ∀ s ∈ batch, r'.Ended s.entry) :
    Requested host r r' (flushes batch snap) :=
  .of_runsEvolve hagreement hkeyed hevolve (.left_flushes hshrink.pending.subset hwire hended)

theorem Ended.stageQueueLocked (h : r.Ended e) : r.stageQueueLocked.2.Ended e :=
  have hruns : RunsEvolve (fun _ => True) (fun _ => True) r r.stageQueueLocked.2 :=
    .of_runs_eq rfl
  h.of_runsEvolve hruns

theorem requested_dequeueRun {p : PendingRun} {staged : StagedStatus}
    (hagreement : QueueAgreement host r) (hkeyed : r.Keyed)
    (h : r.dequeueRunStaged host runId now = (some (p, staged, snap), r')) :
    Requested host r r' (flushes [staged] snap) := by
  have hagreement' := hagreement.dequeueRun runId now
  have hevolve : RunsEvolve _ _ r (r.dequeueRunStaged host runId now).2 :=
    dequeueRunStaged_runsEvolve
  have hshrink : QueuesShrink r (r.dequeueRunStaged host runId now).2 :=
    dequeueRunStaged_queuesShrink
  rw [h] at hagreement' hevolve hshrink
  have hstaged : snap.wire.queues = r'.pendingQueues ∧ r'.Ended staged.entry := by
    rw [dequeueRunStaged] at h
    rcases popFromPendingQueues_cases r runId with ⟨-, hpop⟩ | ⟨hash, p', -, -, hpop⟩
    · rw [hpop] at h
      cases h
    · rw [hpop] at h
      dsimp only at h
      split at h
      · cases h
      · next hstage =>
        cases h
        have hended : RunRegistry.Ended _ staged.entry :=
          ended_of_stage (r := r.setQueue hash _) hkeyed rfl hstage
        exact ⟨rfl, hended.stageQueueLocked⟩
  exact .left hagreement' hkeyed hevolve hshrink hstaged.1 (List.forall_mem_singleton.mpr hstaged.2)

theorem requested_removeQueued {pfx fullId : String} {staged : Option StagedStatus}
    (hagreement : QueueAgreement host r) (hkeyed : r.Keyed)
    (h : r.removeQueued host pfx now = (some (fullId, staged, snap), r')) :
    Requested host r r' (flushes staged.toList snap) := by
  have hagreement' := hagreement.removeQueued pfx now
  have hevolve : RunsEvolve _ _ r (r.removeQueued host pfx now).2 := removeQueued_runsEvolve
  have hshrink : QueuesShrink r (r.removeQueued host pfx now).2 := removeQueued_queuesShrink
  rw [h] at hagreement' hevolve hshrink
  have hstaged : snap.wire.queues = r'.pendingQueues ∧
      ∀ s ∈ staged.toList, r'.Ended s.entry := by
    rw [removeQueued] at h
    split at h
    · cases h
    · cases hstage : r.stageStatusLocked host _ .stopped none (some "removed from queue by user")
          now with
      | error err =>
        rw [hstage] at h
        cases h
        exact ⟨rfl, List.forall_mem_nil _⟩
      | ok res =>
        rw [hstage] at h
        cases h
        have hended := ended_of_stage hkeyed rfl hstage
        exact ⟨rfl, List.forall_mem_singleton.mpr hended.stageQueueLocked⟩
  exact .left hagreement' hkeyed hevolve hshrink hstaged.1 hstaged.2

theorem requested_clearQueue {repoFilter : Option PathBuf} (hagreement : QueueAgreement host r)
    (hkeyed : r.Keyed) : Requested host r (r.clearQueueStaged host repoFilter now).2
      (flushes (r.clearQueueStaged host repoFilter now).1.2.1
        (r.clearQueueStaged host repoFilter now).1.2.2) := by
  apply Requested.left (hagreement.clearQueue repoFilter now) hkeyed clearQueueStaged_runsEvolve
    clearQueueStaged_queuesShrink rfl
  intro s hs
  have hended : (stageStopped host "cleared by user" now (r.cleared host repoFilter)
      (r.clearedIds host repoFilter)).2.Ended s.entry :=
    ended_of_stageStopped (r := r.cleared host repoFilter) hkeyed s hs
  exact hended.stageQueueLocked

/-- A scope that ends some runs, takes a run out of a queue and stages the queues. -/
theorem requested_drained (hkeyed : r.Keyed) (hevolve : RunsEvolve ends starts r r')
    (hshrink : QueuesShrink r r') (hended : ∀ s ∈ batch, r'.Ended s.entry)
    (hagreement : QueueAgreement host r'') (hruns : r''.runs = r'.runs)
    (hdrained : QueuesShrink r' r'') :
    Requested host r r''.stageQueueLocked.2 (flushes batch r''.stageQueueLocked.1) := by
  have hstaged : QueueAgreement host r''.stageQueueLocked.2 :=
    hagreement.of_shrink_of_get_eq (.of_eq rfl rfl) fun _ _ _ => rfl
  apply Requested.left hstaged hkeyed (hevolve.congr_right hruns)
    ((hshrink.trans hdrained).trans (.of_eq rfl rfl)) rfl
  intro s hs
  have hrest : RunsEvolve (fun _ => True) (fun _ => True) r' r''.stageQueueLocked.2 :=
    .of_runs_eq hruns
  exact (hended s hs).of_runsEvolve hrest

theorem drainNextOrAny_runs : (r.drainNextOrAny host dir).2.runs = r.runs := by
  rcases drainNextOrAny_cases host r dir with ⟨-, heq⟩ | ⟨hash, p, rest, -, -, heq⟩
  · rw [heq]
  · rw [heq]
    rfl

theorem drainNext_runs : (r.drainNextWithoutSnapshot host dir).2.runs = r.runs := by
  rcases drainNext_cases host r dir with ⟨-, heq⟩ | ⟨p, rest, -, -, heq⟩
  · rw [heq]
  · rw [heq]
    rfl

theorem requested_drainIfAvailable {failed : Bool} (hagreement : QueueAgreement host r)
    (hkeyed : r.Keyed) :
    Requested host r (r.drainIfAvailable host dir failed now).1
      (r.drainIfAvailable host dir failed now).2 := by
  have hdrain {r' : RunRegistry} (h : QueueAgreement host r') :
      QueueAgreement host (r'.drainNextOrAny host dir).2 := by
    rcases drainNextOrAny_cases host r' dir with ⟨-, heq⟩ | ⟨hash, p, rest, -, hq, heq⟩
    · rwa [heq]
    · rw [heq]
      exact h.setQueue (hq ▸ List.sublist_cons_self p rest)
  cases failed with
  | true =>
    exact requested_drained hkeyed recordQueueFailure_runsEvolve recordQueueFailure_queuesShrink
      (ended_of_recordQueueFailure hkeyed) (hdrain (hagreement.recordFailure dir now))
      drainNextOrAny_runs drainNextOrAny_queuesShrink
  | false =>
    have hevolve : RunsEvolve (fun _ => True) (fun _ => True) r
        (r.recordQueueSuccessWithoutSnapshot host dir) := .of_runs_eq rfl
    exact requested_drained hkeyed hevolve (.of_eq rfl rfl) (List.forall_mem_nil _)
      (hdrain (hagreement.recordSuccess dir)) drainNextOrAny_runs drainNextOrAny_queuesShrink

theorem requested_drainError {pending : PendingRun} {error : String}
    (hagreement : QueueAgreement host r) (hkeyed : r.Keyed)
    (hnot : r.isInPendingQueue pending.runId = false) :
    Requested host r (r.drainError host pending error now).1
      (r.drainError host pending error now).2 := by
  have hrest {failedStaged : List StagedStatus} {r₁ : RunRegistry}
      (hagreement₁ : QueueAgreement host r₁)
      (hevolve : RunsEvolve (fun _ => True) (fun _ => True) r r₁) (hshrink : QueuesShrink r r₁)
      (hended : ∀ s ∈ failedStaged, r₁.Ended s.entry) :
      let drained := (r₁.recordQueueFailureWithoutSnapshot host pending.repoDir now).2
      Requested host r (drained.drainNextWithoutSnapshot host pending.repoDir).2.stageQueueLocked.2
        (flushes (failedStaged ++
            (r₁.recordQueueFailureWithoutSnapshot host pending.repoDir now).1)
          (drained.drainNextWithoutSnapshot host pending.repoDir).2.stageQueueLocked.1) := by
    have hfailure : RunsEvolve (fun _ => True) (fun _ => True) r₁
        (r₁.recordQueueFailureWithoutSnapshot host pending.repoDir now).2 :=
      recordQueueFailure_runsEvolve.mono (fun _ _ => trivial) fun _ _ => trivial
    apply requested_drained hkeyed (hevolve.trans hfailure)
      (hshrink.trans recordQueueFailure_queuesShrink) _
      ((hagreement₁.recordFailure pending.repoDir now).drainNext pending.repoDir) drainNext_runs
      drainNext_queuesShrink
    rw [List.forall_mem_append]
    exact ⟨fun s hs => (hended s hs).of_runsEvolve hfailure,
      ended_of_recordQueueFailure (hkeyed.of_runsEvolve hevolve)⟩
  have hstaged : QueueAgreement host (r.tryStage host pending.runId .failed none
      (some s!"drain spawn failed: {error}") now) := hagreement.tryStage hnot
  have hevolve : RunsEvolve (fun _ => True) (fun _ => True) r (r.tryStage host pending.runId .failed
      none (some s!"drain spawn failed: {error}") now) :=
    tryStage_runsEvolve.mono (fun _ _ => trivial) fun _ _ => trivial
  have hshrink : QueuesShrink r (r.tryStage host pending.runId .failed none
      (some s!"drain spawn failed: {error}") now) := tryStage_queuesShrink
  rw [tryStage] at hstaged hevolve hshrink
  rw [drainError]
  cases h : r.stageStatusLocked host pending.runId .failed none
      (some s!"drain spawn failed: {error}") now with
  | error err => exact hrest hagreement (.refl r) (.refl r) (List.forall_mem_nil _)
  | ok res =>
    obtain ⟨staged, r₁⟩ := res
    rw [h] at hstaged hevolve hshrink
    exact hrest hstaged hevolve hshrink
      (List.forall_mem_singleton.mpr (ended_of_stage hkeyed rfl h))

theorem requested_updateStatus {p : RunEntry.Patch} (hagreement : QueueAgreement host r)
    (hkeyed : r.Keyed) (hnot : r.isInPendingQueue runId = false) :
    Requested host r ((r.modify runId p).stageAndFlush host runId status phase error now).1
      ((r.modify runId p).stageAndFlush host runId status phase error now).2 := by
  have hevolve : RunsEvolve _ _ r (r.modify runId p) := modify_runsEvolve
  have hentries : (r.modify runId p).pendingEntries = r.pendingEntries := by
    rw [pendingEntries, pendingEntries, modify_pendingQueues]
  have hpending (id : String) :
      (r.modify runId p).isInPendingQueue id = r.isInPendingQueue id := by
    rw [isInPendingQueue, isInPendingQueue, hentries]
  have hmodified : QueueAgreement host (r.modify runId p) := by
    apply hagreement.of_shrink_of_get_eq
      (.of_eq (modify_pendingQueues ..) (modify_repoInsertionOrder ..))
    intro hash pending hmem
    rw [get_modify]
    apply if_neg
    intro hid
    have hmem' : pending ∈ r.queue hash := by rwa [queue, modify_pendingQueues] at hmem
    rw [isInPendingQueue_iff.mpr ⟨hash, pending, hmem', hid⟩] at hnot
    cases hnot
  have h : Requested host (r.modify runId p) _
      ((r.modify runId p).stageAndFlush host runId status phase error now).2 :=
    requested_stageAndFlush hmodified (hkeyed.of_runsEvolve hevolve) ((hpending runId).trans hnot)
  refine ⟨h.agreement, h.keyed, fun id hsome => h.keeps id (hevolve.isSome hsome), ?_⟩
  have hflushed := h.flushed
  generalize ((r.modify runId p).stageAndFlush host runId status phase error now).2 = ws at hflushed
  cases hflushed with
  | submitted pending wire hfresh hsome hmem hwire =>
    refine .submitted pending wire ?_ hsome (hentries ▸ hmem) hwire
    rw [← Option.not_isSome_iff_eq_none] at hfresh ⊢
    exact fun hsome => hfresh (hevolve.isSome hsome)
  | left entries wire hsub hwire hended => exact .left entries wire (hentries ▸ hsub) hwire hended
  | updated entries heq hall =>
    exact .updated entries (heq.trans hentries) fun e he =>
      ⟨(hpending e.runId).symm.trans (hall e he).1, (hall e he).2⟩

theorem flushed_wroteMeta {α : Type} {res : Except String α × RunRegistry}
    (hentries : res.2.pendingEntries = r.pendingEntries) (hkeyed : res.2.Keyed)
    (hnot : r.isInPendingQueue runId = false) :
    Flushed r (wroteMeta runId res).1 (wroteMeta runId res).2 := by
  rw [wroteMeta]
  split
  · refine .updated _ hentries fun e he => ?_
    rw [Option.mem_toList] at he
    rw [hkeyed runId e he]
    exact ⟨hnot, by rw [he]; rfl⟩
  · exact .updated [] hentries (List.forall_mem_nil _)

theorem requested_promoteQueued {io : LockIo} {metaIo : Except String Unit}
    (hagreement : QueueAgreement host r) (hkeyed : r.Keyed)
    (hnot : r.isInPendingQueue runId = false) :
    Requested host r (wroteMeta runId (r.promoteQueued host runId now io metaIo)).1
      (wroteMeta runId (r.promoteQueued host runId now io metaIo)).2 := by
  have hevolve : RunsEvolve _ _ r (r.promoteQueued host runId now io metaIo).2 :=
    promoteQueued_runsEvolve
  have hentries : (r.promoteQueued host runId now io metaIo).2.pendingEntries =
      r.pendingEntries := by
    rw [pendingEntries, pendingEntries, promoteQueued_pendingQueues]
  exact .of_runsEvolve (hagreement.promoteQueued runId now io metaIo) hkeyed hevolve
    (flushed_wroteMeta hentries (hkeyed.of_runsEvolve hevolve) hnot)

theorem requested_registerRun {planPath repoDir : PathBuf} {sessionName : Option String}
    {configDir : Option PathBuf} {scheduleId : Option String} {io : LockIo}
    {metaIo : Except String Unit} (hagreement : QueueAgreement host r) (hkeyed : r.Keyed)
    (hfresh : r.get runId = none) :
    let res := r.registerRun host planPath repoDir sessionName configDir scheduleId runId now io
      metaIo
    Requested host r (wroteMeta runId res).1 (wroteMeta runId res).2 := by
  intro res
  have hnot : r.isInPendingQueue runId = false := by
    rw [Bool.eq_false_iff]
    intro hpending
    obtain ⟨hash, p, hp, rfl⟩ := isInPendingQueue_iff.mp hpending
    obtain ⟨e, he, -⟩ := hagreement.entry hash p hp
    rw [hfresh] at he
    cases he
  rcases registerRun_cases host r planPath repoDir sessionName configDir scheduleId runId now io
    metaIo with ⟨-, heq⟩ | ⟨-, err, heq⟩
  · have hget {id : String} : res.2.get id = if id = runId then
        some (.registered runId planPath repoDir sessionName configDir scheduleId now)
        else r.get id := by
      rw [show res = _ from heq]
      exact AList.lookup_insert_eq_ite
    have hqueues : res.2.pendingQueues = r.pendingQueues := by rw [show res = _ from heq]
    have horder : res.2.repoInsertionOrder = r.repoInsertionOrder := by rw [show res = _ from heq]
    have hentries : res.2.pendingEntries = r.pendingEntries := by
      rw [pendingEntries, pendingEntries, hqueues]
    have hkeyed' : res.2.Keyed := by
      intro id e he
      rw [hget] at he
      split at he
      · next hid =>
        cases he
        exact hid.symm
      · exact hkeyed id e he
    refine ⟨?_, hkeyed', fun id hsome => ?_, flushed_wroteMeta hentries hkeyed' hnot⟩
    · apply hagreement.of_shrink_of_get_eq (.of_eq hqueues horder)
      intro hash p hp
      have hp' : p ∈ r.queue hash := by rwa [queue, hqueues] at hp
      change res.2.get p.runId = r.get p.runId
      rw [hget]
      apply if_neg
      intro hid
      rw [isInPendingQueue_iff.mpr ⟨hash, p, hp', hid⟩] at hnot
      cases hnot
    · change (res.2.get id).isSome = true
      rw [hget]
      split
      · rfl
      · exact hsome
  · have hres : wroteMeta runId res = (r, []) := by
      rw [show res = _ from heq]
      rfl
    rw [hres]
    exact .refl hagreement hkeyed

theorem Requested.of_eq {res : RunRegistry × List FileWrite}
    (hspec : Requested host r res.1 res.2) (h : res = (r', ws)) : Requested host r r' ws := by
  rwa [h] at hspec

/-- Every request keeps the agreement and writes in one of the orders. -/
theorem requested_of_requestStep {request : QueueRequest} (hagreement : QueueAgreement c.host r)
    (hkeyed : r.Keyed) (h : requestStep c r request = some (r', ws)) :
    Requested c.host r r' ws := by
  cases request with
  | submitRun pending =>
    simp only [requestStep] at h
    split at h
    · cases h
    next hfresh =>
    rw [Option.not_isSome_iff_eq_none] at hfresh
    split at h
    · rcases enqueueRun_cases c.host r pending with ⟨err, heq⟩ | ⟨hroom, -, heq⟩
      · rw [heq] at h
        cases h
        exact .refl hagreement hkeyed
      · rw [heq] at h
        cases h
        exact requested_submitRun hagreement hkeyed hfresh hroom
    · cases h
  | stopRun runId now =>
    simp only [requestStep] at h
    split at h
    · next hqueued =>
      rcases dequeueRunStaged_cases c.host r runId now with ⟨hnot, heq⟩ | ⟨_, _, -, hsome, -⟩
      · rw [heq] at h
        exact (requested_stopRun hagreement hkeyed hnot).of_eq (Option.some.inj h)
      · split at h
        · next heq =>
          cases h
          exact requested_dequeueRun hagreement hkeyed heq
        · next heq =>
          -- a pending run that has an entry is dequeued
          rw [heq] at hsome
          rw [hsome rfl] at hqueued
          cases hqueued
    · next hqueued =>
      refine (requested_stopRun hagreement hkeyed ?_).of_eq (Option.some.inj h)
      refine Bool.eq_false_iff.mpr fun hpending => hqueued ?_
      obtain ⟨hash, p, hp, rfl⟩ := isInPendingQueue_iff.mp hpending
      obtain ⟨e, he, hstatus, -⟩ := hagreement.entry hash p hp
      rw [he]
      simp [hstatus]
  | removeQueued pfx now =>
    simp only [requestStep] at h
    split at h
    · next heq =>
      cases h
      exact requested_removeQueued hagreement hkeyed heq
    · next heq =>
      cases h
      rcases removeQueued_cases c.host r pfx now with ⟨-, hnone⟩ | ⟨fullId, hash, epoch, hfind, -⟩
      · rw [hnone] at heq
        cases heq
        exact .refl hagreement hkeyed
      · rw [RunRegistry.removeQueued, hfind] at heq
        cases heq
  | clearQueue repoFilter now =>
    cases h
    exact requested_clearQueue hagreement hkeyed
  | drainIfAvailable repoDir failed now =>
    simp only [requestStep] at h
    exact (requested_drainIfAvailable hagreement hkeyed).of_eq (Option.some.inj h)
  | drainError pending error now =>
    simp only [requestStep] at h
    split at h
    · cases h
    · next hnot =>
      rw [Bool.not_eq_true] at hnot
      exact (requested_drainError hagreement hkeyed hnot).of_eq (Option.some.inj h)
  | promoteQueued runId now io metaIo =>
    simp only [requestStep] at h
    split at h
    · cases h
    · next hnot =>
      rw [Bool.not_eq_true] at hnot
      exact (requested_promoteQueued hagreement hkeyed hnot).of_eq (Option.some.inj h)
  | registerRun planPath repoDir sessionName configDir scheduleId runId now io metaIo =>
    simp only [requestStep] at h
    split at h
    · cases h
    · next hfresh =>
      rw [Option.not_isSome_iff_eq_none] at hfresh
      exact (requested_registerRun hagreement hkeyed hfresh).of_eq (Option.some.inj h)
  | updateStatus runId p status phase error now =>
    simp only [requestStep] at h
    split at h
    · cases h
    · next hnot =>
      rw [Bool.not_eq_true] at hnot
      exact (requested_updateStatus hagreement hkeyed hnot).of_eq (Option.some.inj h)

end RunRegistry

end GreaterWill
