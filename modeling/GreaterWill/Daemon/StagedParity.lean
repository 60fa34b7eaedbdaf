import GreaterWill.Daemon.QueueFlush
import GreaterWill.Daemon.Reconcile

/-!
# Synchronous and staged queue operations

A staged queue operation changes the registry and hands what is to be written to its caller; its
synchronous wrapper writes it. `record_queue_failure` is the one wrapper that writes only a part:
it flushes `queue.json` and returns the statuses of the runs it has stopped. Once the caller has
flushed these, the two forms leave the same registry and the same files.
-/

namespace GreaterWill

/-! ## Staged operations -/

namespace RunRegistry

variable (host : Host) (r : RunRegistry)

def enqueueRunStaged (pending : PendingRun) :
    Except String (Nat × RunEntry × QueueSnapshot × RunRegistry) :=
  match r.enqueueRunWithoutSnapshot host pending with
  | .error e => .error e
  | .ok (position, entry, r') =>
    let (snap, r'') := r'.stageQueueLocked
    .ok (position, entry, snap, r'')

/-- No snapshot is staged when no run is handed out. -/
def drainNextStaged (repoDir : PathBuf) : Option (PendingRun × QueueSnapshot) × RunRegistry :=
  match r.drainNextWithoutSnapshot host repoDir with
  | (none, r') => (none, r')
  | (some pending, r') =>
    let (snap, r'') := r'.stageQueueLocked
    (some (pending, snap), r'')

def recordQueueFailureStaged (repoDir : PathBuf) (now : DateTime) :
    (List StagedStatus × QueueSnapshot) × RunRegistry :=
  let (batch, r') := r.recordQueueFailureWithoutSnapshot host repoDir now
  let (snap, r'') := r'.stageQueueLocked
  ((batch, snap), r'')

def recordQueueSuccessStaged (repoDir : PathBuf) : QueueSnapshot × RunRegistry :=
  (r.recordQueueSuccessWithoutSnapshot host repoDir).stageQueueLocked

def removePendingStaged (runId : String) : QueueSnapshot × RunRegistry :=
  (r.removePendingWithoutSnapshot runId).stageQueueLocked

end RunRegistry

/-! ## Synchronous operations -/

/-- The registry with the files that its flushes write. -/
structure QueueStore where
  registry : RunRegistry
  /-- `queue.json`, with the tracker of the flushed epochs. -/
  queue : QueueDisk
  /-- The `meta.json` files. -/
  runs : RunsDir

namespace QueueStore

def fresh : QueueStore := ⟨.new, .fresh, .empty⟩

variable (host : Host) (s : QueueStore)

/-- `flush_queue`, with no file operation failing. -/
def flushQueue (snap : QueueSnapshot) : QueueStore :=
  { s with queue := (s.queue.flushQueue snap (.ok ()) (.ok ())).2 }

/-- `flush_status` or `write_meta_staged` for one entry after the other, with no file operation
failing. -/
def flushMetas (entries : List RunEntry) : QueueStore :=
  { s with runs := entries.foldl RunsDir.writeMeta s.runs }

def flushStatuses (batch : List StagedStatus) : QueueStore := s.flushMetas (batch.map (·.entry))

def enqueueRun (pending : PendingRun) : Except String Nat × QueueStore :=
  match s.registry.enqueueRunStaged host pending with
  | .error e => (.error e, s)
  | .ok (position, entry, snap, r) =>
    (.ok position, (({ s with registry := r }).flushMetas [entry]).flushQueue snap)

def drainNext (repoDir : PathBuf) : Option PendingRun × QueueStore :=
  match s.registry.drainNextStaged host repoDir with
  | (none, r) => (none, { s with registry := r })
  | (some (pending, snap), r) => (some pending, ({ s with registry := r }).flushQueue snap)

/-- The returned statuses are left to the caller. -/
def recordQueueFailure (repoDir : PathBuf) (now : DateTime) : List StagedStatus × QueueStore :=
  let ((batch, snap), r) := s.registry.recordQueueFailureStaged host repoDir now
  (batch, ({ s with registry := r }).flushQueue snap)

def recordQueueSuccess (repoDir : PathBuf) : QueueStore :=
  let (snap, r) := s.registry.recordQueueSuccessStaged host repoDir
  ({ s with registry := r }).flushQueue snap

def removePending (runId : String) : QueueStore :=
  let (snap, r) := s.registry.removePendingStaged runId
  ({ s with registry := r }).flushQueue snap

def clearQueue (repoFilter : Option PathBuf) (now : DateTime) : Nat × QueueStore :=
  let ((count, batch, snap), r) := s.registry.clearQueueStaged host repoFilter now
  (count, (({ s with registry := r }).flushStatuses batch).flushQueue snap)

end QueueStore

/-! ## Sequences of operations -/

inductive QueueCall where
  | enqueue (pending : PendingRun)
  | dequeue (runId : String) (now : DateTime)
  | drainNext (repoDir : PathBuf)
  | recordFailure (repoDir : PathBuf) (now : DateTime)
  | recordSuccess (repoDir : PathBuf)
  | removePending (runId : String)
  | clearQueue (repoFilter : Option PathBuf) (now : DateTime)

/-- What a staged operation hands to its caller. -/
structure Staged where
  metas : List RunEntry
  queue : Option QueueSnapshot

/-- The staged variant of an operation. -/
def RunRegistry.stagedCall (host : Host) (r : RunRegistry) : QueueCall → Staged × RunRegistry
  | .enqueue pending =>
    match r.enqueueRunStaged host pending with
    | .error _ => (⟨[], none⟩, r)
    | .ok (_, entry, snap, r') => (⟨[entry], some snap⟩, r')
  | .dequeue runId now =>
    match r.dequeueRunStaged host runId now with
    | (none, r') => (⟨[], none⟩, r')
    | (some (_, staged, snap), r') => (⟨[staged.entry], some snap⟩, r')
  | .drainNext repoDir =>
    match r.drainNextStaged host repoDir with
    | (none, r') => (⟨[], none⟩, r')
    | (some (_, snap), r') => (⟨[], some snap⟩, r')
  | .recordFailure repoDir now =>
    let ((batch, snap), r') := r.recordQueueFailureStaged host repoDir now
    (⟨batch.map (·.entry), some snap⟩, r')
  | .recordSuccess repoDir =>
    let (snap, r') := r.recordQueueSuccessStaged host repoDir
    (⟨[], some snap⟩, r')
  | .removePending runId =>
    let (snap, r') := r.removePendingStaged runId
    (⟨[], some snap⟩, r')
  | .clearQueue repoFilter now =>
    let ((_, batch, snap), r') := r.clearQueueStaged host repoFilter now
    (⟨batch.map (·.entry), some snap⟩, r')

namespace QueueStore

section
variable (host : Host) (s : QueueStore)

/-- The caller flushes what it was handed, `queue.json` after `k` of the entries. -/
def flushAll (staged : Staged) (k : Nat) : QueueStore :=
  let first := s.flushMetas (staged.metas.take k)
  let second := match staged.queue with
    | some snap => first.flushQueue snap
    | none => first
  second.flushMetas (staged.metas.drop k)

def stagedCall (call : QueueCall) (k : Nat) : QueueStore :=
  ({ s with registry := (s.registry.stagedCall host call).2 }).flushAll
    (s.registry.stagedCall host call).1 k

/-- The synchronous wrapper of an operation, with the statuses that it leaves to its caller.
`dequeue_run_staged` has none and is flushed. -/
def syncCall : QueueCall → List StagedStatus × QueueStore
  | .enqueue pending => ([], (s.enqueueRun host pending).2)
  | .dequeue runId now => ([], s.stagedCall host (.dequeue runId now) 1)
  | .drainNext repoDir => ([], (s.drainNext host repoDir).2)
  | .recordFailure repoDir now => s.recordQueueFailure host repoDir now
  | .recordSuccess repoDir => ([], s.recordQueueSuccess host repoDir)
  | .removePending runId => ([], s.removePending runId)
  | .clearQueue repoFilter now => ([], (s.clearQueue host repoFilter now).2)

/-- The operations through their staged variants, each flushed at once. -/
def stagedRun (calls : List (QueueCall × Nat)) : QueueStore :=
  calls.foldl (fun s c => s.stagedCall host c.1 c.2) s

/-- The operations through their synchronous wrappers. -/
def syncRun (calls : List (QueueCall × Nat)) : QueueStore :=
  calls.foldl (fun s c => (s.syncCall host c.1).2) s

/-- The operations through their synchronous wrappers, each followed by the flush of the statuses it
returns. -/
def syncFlushedRun (calls : List (QueueCall × Nat)) : QueueStore :=
  calls.foldl (fun s c => (s.syncCall host c.1).2.flushStatuses (s.syncCall host c.1).1) s

/-- The two forms of the operations agree. -/
structure Parity (calls : List (QueueCall × Nat)) : Prop where
  flushed : s.syncFlushedRun host calls = s.stagedRun host calls
  registry : (s.syncRun host calls).registry = (s.stagedRun host calls).registry
  queue : (s.syncRun host calls).queue = (s.stagedRun host calls).queue

end

variable {host : Host} {s t : QueueStore} {call : QueueCall}

@[simp] theorem flushMetas_nil : s.flushMetas [] = s := rfl

theorem flushMetas_append {l l' : List RunEntry} :
    s.flushMetas (l ++ l') = (s.flushMetas l).flushMetas l' := by
  rw [flushMetas, List.foldl_append]
  rfl

/-- The two files are written independently. -/
theorem flushMetas_flushQueue {l : List RunEntry} {snap : QueueSnapshot} :
    (s.flushQueue snap).flushMetas l = (s.flushMetas l).flushQueue snap := rfl

/-- It does not matter when `queue.json` is written. -/
theorem flushAll_eq {staged : Staged} {k : Nat} : s.flushAll staged k =
    match staged.queue with
    | some snap => (s.flushMetas staged.metas).flushQueue snap
    | none => s.flushMetas staged.metas := by
  rw [flushAll]
  cases staged.queue with
  | some snap =>
    dsimp only
    rw [flushMetas_flushQueue, ← flushMetas_append, List.take_append_drop]
  | none =>
    dsimp only
    rw [← flushMetas_append, List.take_append_drop]

/-- A wrapper does what the staged variant and its flushes do, but for the statuses it returns. -/
theorem flushStatuses_syncCall {k : Nat} :
    (s.syncCall host call).2.flushStatuses (s.syncCall host call).1 =
      s.stagedCall host call k := by
  rw [stagedCall, flushAll_eq]
  cases call with
  | enqueue pending =>
    simp only [syncCall, enqueueRun, RunRegistry.stagedCall]
    cases s.registry.enqueueRunStaged host pending with
    | error e => rfl
    | ok staged => rfl
  | dequeue runId now =>
    rw [syncCall, stagedCall, flushAll_eq]
    rfl
  | drainNext repoDir =>
    simp only [syncCall, drainNext, RunRegistry.stagedCall]
    rcases s.registry.drainNextStaged host repoDir with ⟨_ | staged, r⟩ <;> rfl
  | recordFailure | recordSuccess | removePending | clearQueue => rfl

/-- The statuses a wrapper leaves to its caller concern neither the registry nor `queue.json`. -/
theorem stagedCall_core {k : Nat} (hregistry : s.registry = t.registry)
    (hqueue : s.queue = t.queue) :
    (s.syncCall host call).2.registry = (t.stagedCall host call k).registry ∧
      (s.syncCall host call).2.queue = (t.stagedCall host call k).queue := by
  have hcall : (s.syncCall host call).2.flushStatuses (s.syncCall host call).1 =
      s.stagedCall host call k := flushStatuses_syncCall
  have hsync : (s.stagedCall host call k).registry = (s.syncCall host call).2.registry ∧
      (s.stagedCall host call k).queue = (s.syncCall host call).2.queue := by
    rw [← hcall]
    exact ⟨rfl, rfl⟩
  have hstaged : (s.stagedCall host call k).registry = (t.stagedCall host call k).registry ∧
      (s.stagedCall host call k).queue = (t.stagedCall host call k).queue := by
    rw [stagedCall, stagedCall, flushAll_eq, flushAll_eq, hregistry]
    cases (t.registry.stagedCall host call).1.queue with
    | some snap =>
      refine ⟨rfl, ?_⟩
      change (s.queue.flushQueue ..).2 = (t.queue.flushQueue ..).2
      rw [hqueue]
    | none => exact ⟨rfl, hqueue⟩
  exact ⟨hsync.1.symm.trans hstaged.1, hsync.2.symm.trans hstaged.2⟩

/-- The two forms of the queue operations leave the same registry and the same `queue.json`, and the
same `meta.json` files once the statuses that the wrappers return are flushed. -/
theorem staged_parity (host : Host) (s : QueueStore) (calls : List (QueueCall × Nat)) :
    s.Parity host calls := by
  have hflushed : s.syncFlushedRun host calls = s.stagedRun host calls := by
    induction calls generalizing s with
    | nil => rfl
    | cons c calls ih =>
      rw [syncFlushedRun, List.foldl_cons, flushStatuses_syncCall]
      exact ih _
  have hcore (calls : List (QueueCall × Nat)) (s t : QueueStore)
      (hregistry : s.registry = t.registry) (hqueue : s.queue = t.queue) :
      (s.syncRun host calls).registry = (t.stagedRun host calls).registry ∧
        (s.syncRun host calls).queue = (t.stagedRun host calls).queue := by
    induction calls generalizing s t with
    | nil => exact ⟨hregistry, hqueue⟩
    | cons c calls ih =>
      have hnext : (s.syncCall host c.1).2.registry = (t.stagedCall host c.1 c.2).registry ∧
          (s.syncCall host c.1).2.queue = (t.stagedCall host c.1 c.2).queue :=
        stagedCall_core hregistry hqueue
      exact ih _ _ hnext.1 hnext.2
  obtain ⟨hregistry, hqueue⟩ := hcore calls s s rfl rfl
  exact ⟨hflushed, hregistry, hqueue⟩

/-- The `meta.json` of a run that the third failure stops still says Queued after the wrapper. -/
theorem stopped_status_left_to_caller :
    ¬ ∀ (host : Host) (calls : List (QueueCall × Nat)),
      (fresh.syncRun host calls).runs = (fresh.stagedRun host calls).runs := by
  intro hclaim
  have hmetas := congrArg (fun d => (d.metas.lookup "a").map (·.status)) (hclaim .plain
    [(.enqueue (.plain "a" "one.md" "/repo"), 0), (.recordFailure "/repo" 1, 0),
      (.recordFailure "/repo" 2, 0), (.recordFailure "/repo" 3, 0)])
  exact absurd hmetas (by decide +kernel)

end QueueStore
end GreaterWill
