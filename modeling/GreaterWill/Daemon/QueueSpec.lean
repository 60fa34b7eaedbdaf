import GreaterWill.Daemon.RegistrySpec

/-!
# What the queue methods of the registry do

Continues `RegistrySpec` for the methods on the pending queues. Each is described by the queues it
sets (`setQueue`), the runs it stops (`stopAll`) and the run it hands out.
-/

namespace GreaterWill.RunRegistry

variable {host : Host} {r r' : RunRegistry} {runId hash hash' : String} {dir : PathBuf}
  {now : DateTime} {p : PendingRun} {q : List PendingRun}

/-! ## Queues -/

theorem mem_pendingEntries : p ∈ r.pendingEntries ↔ ∃ hash, p ∈ r.queue hash := by
  rw [pendingEntries, AList.mem_elems]
  constructor
  · rintro ⟨hash, q, hq, hp⟩
    exact ⟨hash, by rwa [queue, hq]⟩
  · rintro ⟨hash, hp⟩
    unfold queue at hp
    cases hq : r.pendingQueues.lookup hash with
    | none => rw [hq] at hp; cases hp
    | some q => exact ⟨hash, q, hq, by rwa [hq] at hp⟩

theorem isInPendingQueue_iff :
    r.isInPendingQueue runId = true ↔ ∃ hash, ∃ p ∈ r.queue hash, p.runId = runId := by
  simp only [isInPendingQueue, List.any_eq_true, mem_pendingEntries, decide_eq_true_eq]
  constructor
  · rintro ⟨p, ⟨hash, hp⟩, rfl⟩
    exact ⟨hash, p, hp, rfl⟩
  · rintro ⟨hash, p, hp, rfl⟩
    exact ⟨p, ⟨hash, hp⟩, rfl⟩

theorem totalPendingCount_eq : r.totalPendingCount = r.pendingEntries.length := by
  have hfold (qs : List (Sigma fun _ : String => List PendingRun)) (n : Nat) :
      qs.foldl (fun n q => n + q.2.length) n = n + (qs.flatMap (·.2)).length := by
    induction qs generalizing n with
    | nil => rfl
    | cons q qs ih =>
      rw [List.foldl_cons, ih, List.flatMap_cons, List.length_append]
      omega
  rw [totalPendingCount, hfold, Nat.zero_add]
  rfl

/-- The registry with another queue for a repo. -/
def setQueue (r : RunRegistry) (hash : String) (q : List PendingRun) : RunRegistry :=
  { r with pendingQueues := r.pendingQueues.insert hash q }

theorem queue_setQueue : (r.setQueue hash q).queue hash' = if hash' = hash then q else r.queue hash' := by
  simp only [queue, setQueue, AList.lookup_insert_eq_ite]
  split <;> rfl

theorem setQueue_queuesShrink (h : q.Sublist (r.queue hash)) :
    QueuesShrink r (r.setQueue hash q) where
  queue hash' := by
    rw [queue_setQueue]
    split
    · next heq => rwa [heq]
    · exact .refl _
  pending := by
    unfold queue at h
    cases hq : r.pendingQueues.lookup hash with
    | none =>
      rw [hq, Option.getD_none, List.sublist_nil] at h
      rw [pendingEntries, pendingEntries, setQueue, AList.elems_insert, h, List.nil_append,
        AList.elems_erase_of_lookup_eq_none hq]
    | some q' =>
      rw [hq, Option.getD_some] at h
      exact AList.elems_insert_subperm hq h
  order := rfl

/-- Runs that leave the queue of a repo leave the pending runs. -/
theorem pendingEntries_perm_setQueue {l : List PendingRun} (h : (r.queue hash).Perm (l ++ q)) :
    r.pendingEntries.Perm (l ++ (r.setQueue hash q).pendingEntries) := by
  rw [pendingEntries, pendingEntries, setQueue, AList.elems_insert, ← List.append_assoc]
  unfold queue at h
  cases hq : r.pendingQueues.lookup hash with
  | none =>
    rw [hq, Option.getD_none] at h
    rw [List.nil_perm.mp h, List.nil_append, AList.elems_erase_of_lookup_eq_none hq]
  | some q' =>
    rw [hq, Option.getD_some] at h
    exact (AList.elems_perm hq).trans (h.append_right _)

theorem tryStage_queuesShrink {status : RunStatus} {phase error : Option String} :
    QueuesShrink r (r.tryStage host runId status phase error now) :=
  .of_eq (tryStage_pendingQueues ..) (tryStage_repoInsertionOrder ..)

theorem stopAll_queuesShrink {reason : String} {runIds : List String} :
    QueuesShrink r (stopAll host reason now r runIds) :=
  .of_eq stopAll_pendingQueues stopAll_repoInsertionOrder

/-! ## Handing out runs -/

theorem popFront_cases (r : RunRegistry) (hash : String) :
    (r.queue hash = [] ∧ r.popFront hash = (none, r)) ∨
    ∃ p rest, r.queue hash = p :: rest ∧ r.popFront hash = (some p, r.setQueue hash rest) := by
  unfold popFront
  cases h : r.queue hash with
  | nil => exact .inl ⟨rfl, rfl⟩
  | cons p rest => exact .inr ⟨p, rest, rfl, rfl⟩

theorem drainNext_cases (host : Host) (r : RunRegistry) (dir : PathBuf) :
    (¬ r.Ready (repoHash host dir) ∧ r.drainNextWithoutSnapshot host dir = (none, r)) ∨
    ∃ p rest, r.Ready (repoHash host dir) ∧ r.queue (repoHash host dir) = p :: rest ∧
      r.drainNextWithoutSnapshot host dir = (some p, r.setQueue (repoHash host dir) rest) := by
  simp only [drainNextWithoutSnapshot]
  by_cases htrip : r.failures (repoHash host dir) ≥ MAX_CONSECUTIVE_FAILURES
  · rw [if_pos htrip]
    exact .inl ⟨fun h => Nat.not_le.mpr h.1 htrip, rfl⟩
  · rw [if_neg htrip]
    rcases popFront_cases r (repoHash host dir) with ⟨hq, heq⟩ | ⟨p, rest, hq, heq⟩
    · exact .inl ⟨fun h => h.2 hq, heq⟩
    · exact .inr ⟨p, rest, ⟨Nat.not_le.mp htrip, by simp [hq]⟩, hq, heq⟩

/-- The first ready repo in the order of the insertion log. -/
def firstReady (r : RunRegistry) : Option String := r.repoInsertionOrder.find? fun h => r.Ready h

theorem drainAnyReady_cases (r : RunRegistry) :
    (r.firstReady = none ∧ r.drainAnyReadyWithoutSnapshot = (none, r)) ∨
    ∃ hash p rest, r.firstReady = some hash ∧ r.queue hash = p :: rest ∧
      r.drainAnyReadyWithoutSnapshot = (some p, r.setQueue hash rest) := by
  unfold drainAnyReadyWithoutSnapshot firstReady
  cases h : r.repoInsertionOrder.find? fun h => r.Ready h with
  | none => exact .inl ⟨rfl, rfl⟩
  | some hash =>
    have hready : r.Ready hash := by simpa using List.find?_some h
    rcases popFront_cases r hash with ⟨hq, -⟩ | ⟨p, rest, hq, heq⟩
    · exact absurd hq hready.2
    · exact .inr ⟨hash, p, rest, rfl, hq, heq⟩

theorem drainNext_queuesShrink : QueuesShrink r (r.drainNextWithoutSnapshot host dir).2 := by
  rcases drainNext_cases host r dir with ⟨-, heq⟩ | ⟨p, rest, -, hq, heq⟩
  · rw [heq]
    exact .refl r
  · rw [heq]
    exact setQueue_queuesShrink (hq ▸ List.sublist_cons_self p rest)

theorem drainNext_runsEvolve :
    RunsEvolve (fun _ => False) (fun _ => False) r (r.drainNextWithoutSnapshot host dir).2 := by
  rcases drainNext_cases host r dir with ⟨-, heq⟩ | ⟨p, rest, -, -, heq⟩ <;>
    exact heq ▸ .of_runs_eq rfl

theorem drainAnyReady_queuesShrink : QueuesShrink r r.drainAnyReadyWithoutSnapshot.2 := by
  rcases drainAnyReady_cases r with ⟨-, heq⟩ | ⟨hash, p, rest, -, hq, heq⟩
  · rw [heq]
    exact .refl r
  · rw [heq]
    exact setQueue_queuesShrink (hq ▸ List.sublist_cons_self p rest)

theorem drainAnyReady_runsEvolve :
    RunsEvolve (fun _ => False) (fun _ => False) r r.drainAnyReadyWithoutSnapshot.2 := by
  rcases drainAnyReady_cases r with ⟨-, heq⟩ | ⟨hash, p, rest, -, -, heq⟩ <;>
    exact heq ▸ .of_runs_eq rfl

/-! ## Removing runs -/

theorem popFromPendingQueues_cases (r : RunRegistry) (runId : String) :
    (r.isInPendingQueue runId = false ∧ r.popFromPendingQueues runId = none) ∨
    ∃ hash, ∃ p ∈ r.queue hash, p.runId = runId ∧
      r.popFromPendingQueues runId =
        some (p, r.setQueue hash ((r.queue hash).eraseP (·.runId = runId))) := by
  unfold popFromPendingQueues
  cases h : r.pendingQueues.entries.find? fun q => q.2.any (·.runId = runId) with
  | none =>
    refine .inl ⟨?_, rfl⟩
    simpa [isInPendingQueue, pendingEntries, AList.elems, List.any_flatMap] using h
  | some hq =>
    obtain ⟨hash, q⟩ := hq
    have hlookup : r.pendingQueues.lookup hash = some q :=
      AList.mem_entries_iff.mp (List.mem_of_find?_eq_some h)
    have hqueue : r.queue hash = q := by rw [queue, hlookup, Option.getD_some]
    have hany := List.find?_some h
    rw [List.any_eq_true] at hany
    obtain ⟨p', hp', hid⟩ := hany
    obtain ⟨p, hp⟩ : ∃ p, q.find? (fun p : PendingRun => p.runId = runId) = some p := by
      rw [← Option.isSome_iff_exists, List.find?_isSome]
      exact ⟨p', hp', hid⟩
    have hpid : p.runId = runId := by simpa using List.find?_some hp
    refine .inr ⟨hash, p, hqueue ▸ List.mem_of_find?_eq_some hp, hpid, ?_⟩
    rw [hqueue]
    change (q.find? (fun p : PendingRun => p.runId = runId)).bind _ = _
    rw [hp]
    rfl

theorem dequeueRunStaged_cases (host : Host) (r : RunRegistry) (runId : String) (now : DateTime) :
    (r.isInPendingQueue runId = false ∧ r.dequeueRunStaged host runId now = (none, r)) ∨
    ∃ hash epoch, (∃ p ∈ r.queue hash, p.runId = runId) ∧
      ((r.dequeueRunStaged host runId now).1 = none → r.get runId = none) ∧
      (r.dequeueRunStaged host runId now).2 =
        { (r.setQueue hash ((r.queue hash).eraseP (·.runId = runId))).tryStage host runId .stopped
            none (some "removed from queue") now with queueEpoch := epoch } := by
  unfold dequeueRunStaged
  rcases popFromPendingQueues_cases r runId with ⟨hnot, hpop⟩ | ⟨hash, p, hp, hid, hpop⟩
  · rw [hpop]
    exact .inl ⟨hnot, rfl⟩
  · rw [hpop]
    refine .inr ⟨hash, ?_⟩
    dsimp only
    unfold tryStage
    cases h : (r.setQueue hash ((r.queue hash).eraseP (·.runId = runId))).stageStatusLocked host runId
        .stopped none (some "removed from queue") now with
    | error e =>
      have hnone := get_eq_none_of_stage_error rfl h
      exact ⟨_, ⟨p, hp, hid⟩, fun _ => hnone, rfl⟩
    | ok s =>
      obtain ⟨staged, r₂⟩ := s
      refine ⟨_, ⟨p, hp, hid⟩, fun hnone => ?_, rfl⟩
      cases hnone

theorem dequeueRunStaged_queuesShrink : QueuesShrink r (r.dequeueRunStaged host runId now).2 := by
  rcases dequeueRunStaged_cases host r runId now with ⟨-, heq⟩ | ⟨hash, epoch, -, -, heq⟩
  · rw [heq]
    exact .refl r
  · rw [heq]
    have hset : QueuesShrink r (r.setQueue hash ((r.queue hash).eraseP (·.runId = runId))) :=
      setQueue_queuesShrink List.eraseP_sublist
    exact (hset.trans tryStage_queuesShrink).trans (.of_eq rfl rfl)

theorem dequeueRunStaged_runsEvolve :
    RunsEvolve (fun id => id = runId ∧ r.isInPendingQueue runId = true) (fun _ => False) r
      (r.dequeueRunStaged host runId now).2 := by
  rcases dequeueRunStaged_cases host r runId now with
    ⟨-, heq⟩ | ⟨hash, epoch, ⟨p, hp, hid⟩, -, heq⟩
  · rw [heq]
    exact .refl r
  · rw [heq]
    have hpend := isInPendingQueue_iff.mpr ⟨hash, p, hp, hid⟩
    have hset : RunsEvolve (fun id => id = runId ∧ RunStatus.stopped.isTerminal = true)
        (fun id => id = runId ∧ RunStatus.stopped = .running) r
        (r.setQueue hash ((r.queue hash).eraseP (·.runId = runId))) := .of_runs_eq rfl
    refine ((hset.trans tryStage_runsEvolve).mono ?_ ?_).congr_right rfl
    · rintro id ⟨rfl, -⟩
      exact ⟨rfl, hpend⟩
    · rintro id ⟨-, hrun⟩
      cases hrun

theorem queue_removePending :
    (r.removePendingWithoutSnapshot runId).queue hash =
      (r.queue hash).filter (·.runId ≠ runId) := by
  simp only [queue, removePendingWithoutSnapshot, AList.lookup_mapVals]
  cases r.pendingQueues.lookup hash <;> rfl

/-- Keeping only the runs of the queues that meet a test. -/
theorem filter_queuesShrink (f : PendingRun → Bool) :
    QueuesShrink r { r with pendingQueues := r.pendingQueues.mapVals (·.filter f) } where
  queue hash := by
    simp only [queue, AList.lookup_mapVals]
    cases r.pendingQueues.lookup hash with
    | none => exact .refl _
    | some q => exact List.filter_sublist
  pending := by
    rw [pendingEntries, AList.elems_mapVals_filter]
    exact List.filter_sublist.subperm
  order := rfl

theorem removeQueued_cases (host : Host) (r : RunRegistry) (pfx : String) (now : DateTime) :
    (r.findPendingByPrefix pfx = none ∧ r.removeQueued host pfx now = (none, r)) ∨
    ∃ fullId hash epoch, r.findPendingByPrefix pfx = some (fullId, hash) ∧
      (r.removeQueued host pfx now).2 =
        { (r.tryStage host fullId .stopped none (some "removed from queue by user")
            now).removePendingWithoutSnapshot fullId with queueEpoch := epoch } := by
  unfold removeQueued
  cases h : r.findPendingByPrefix pfx with
  | none => exact .inl ⟨rfl, rfl⟩
  | some found =>
    obtain ⟨fullId, hash⟩ := found
    refine .inr ⟨fullId, hash, ?_⟩
    dsimp only
    unfold tryStage
    cases r.stageStatusLocked host fullId .stopped none (some "removed from queue by user") now with
    | error e => exact ⟨_, rfl, rfl⟩
    | ok s =>
      obtain ⟨staged, r₁⟩ := s
      exact ⟨_, rfl, rfl⟩

theorem removeQueued_queuesShrink {pfx : String} :
    QueuesShrink r (r.removeQueued host pfx now).2 := by
  rcases removeQueued_cases host r pfx now with ⟨-, heq⟩ | ⟨fullId, hash, epoch, -, heq⟩
  · rw [heq]
    exact .refl r
  · rw [heq]
    exact (tryStage_queuesShrink.trans (filter_queuesShrink _)).trans (.of_eq rfl rfl)

theorem removeQueued_runsEvolve {pfx : String} :
    RunsEvolve (fun id => ∃ hash, r.findPendingByPrefix pfx = some (id, hash)) (fun _ => False) r
      (r.removeQueued host pfx now).2 := by
  rcases removeQueued_cases host r pfx now with ⟨-, heq⟩ | ⟨fullId, hash, epoch, hfind, heq⟩
  · rw [heq]
    exact .refl r
  · rw [heq]
    refine (tryStage_runsEvolve.mono ?_ ?_).congr_right rfl
    · rintro id ⟨rfl, -⟩
      exact ⟨hash, hfind⟩
    · rintro id ⟨-, hrun⟩
      cases hrun

/-- What `clear_queue_staged` leaves in the queues. -/
def cleared (host : Host) (r : RunRegistry) (repoFilter : Option PathBuf) : RunRegistry :=
  { r with pendingQueues := r.pendingQueues.mapVals (·.filter (!clears host repoFilter ·)) }

/-- The runs `clear_queue_staged` removes. -/
def clearedIds (host : Host) (r : RunRegistry) (repoFilter : Option PathBuf) : List String :=
  (r.pendingEntries.filter (clears host repoFilter)).map (·.runId)

theorem queue_cleared {repoFilter : Option PathBuf} : (r.cleared host repoFilter).queue hash =
    (r.queue hash).filter (!clears host repoFilter ·) := by
  simp only [queue, cleared, AList.lookup_mapVals]
  cases r.pendingQueues.lookup hash <;> rfl

theorem clearQueueStaged_snd (host : Host) (r : RunRegistry) (repoFilter : Option PathBuf)
    (now : DateTime) :
    ∃ epoch, (r.clearQueueStaged host repoFilter now).2 =
      { stopAll host "cleared by user" now (r.cleared host repoFilter)
          (r.clearedIds host repoFilter) with queueEpoch := epoch } := by
  simp only [clearQueueStaged, stageQueueLocked, stageStopped_snd]
  exact ⟨_, rfl⟩

theorem clearQueueStaged_queuesShrink {repoFilter : Option PathBuf} :
    QueuesShrink r (r.clearQueueStaged host repoFilter now).2 := by
  obtain ⟨epoch, heq⟩ := clearQueueStaged_snd host r repoFilter now
  rw [heq]
  exact ((filter_queuesShrink _).trans stopAll_queuesShrink).trans (.of_eq rfl rfl)

theorem clearQueueStaged_runsEvolve {repoFilter : Option PathBuf} :
    RunsEvolve (· ∈ r.clearedIds host repoFilter) (fun _ => False) r
      (r.clearQueueStaged host repoFilter now).2 := by
  obtain ⟨epoch, heq⟩ := clearQueueStaged_snd host r repoFilter now
  rw [heq]
  have hcleared : RunsEvolve (· ∈ r.clearedIds host repoFilter) (fun _ => False) r
      (r.cleared host repoFilter) := .of_runs_eq rfl
  exact (hcleared.trans stopAll_runsEvolve).congr_right rfl

/-! ## The circuit breaker -/

/-- One more failure of the repo trips its breaker. -/
def Trips (r : RunRegistry) (hash : String) : Prop := r.failures hash + 1 ≥ MAX_CONSECUTIVE_FAILURES

instance (hash : String) : Decidable (r.Trips hash) := inferInstanceAs (Decidable (_ ≥ _))

/-- The registry with an emptied queue for a repo. -/
def emptied (r : RunRegistry) (hash : String) : RunRegistry :=
  { r with
    pendingQueues :=
      if hash ∈ r.pendingQueues then r.pendingQueues.insert hash [] else r.pendingQueues }

theorem queue_emptied :
    (r.emptied hash).queue hash' = if hash' = hash then [] else r.queue hash' := by
  unfold emptied
  split
  · exact queue_setQueue
  · next hmem =>
    have hnone : r.pendingQueues.lookup hash = none := AList.lookup_eq_none.mpr hmem
    change r.queue hash' = _
    split
    · next heq => rw [heq, queue, hnone, Option.getD_none]
    · rfl

theorem emptied_queuesShrink : QueuesShrink r (r.emptied hash) := by
  unfold emptied
  split
  · exact setQueue_queuesShrink (List.nil_sublist _)
  · exact .refl r

theorem recordQueueFailure_snd :
    (r.recordQueueFailureWithoutSnapshot host dir now).2 =
      if r.Trips (repoHash host dir) then
        let stopped := stopAll host "circuit breaker tripped" now (r.emptied (repoHash host dir))
          ((r.queue (repoHash host dir)).map (·.runId))
        { stopped with
          consecutiveFailures := stopped.consecutiveFailures.erase (repoHash host dir) }
      else
        { r with
          consecutiveFailures := r.consecutiveFailures.insert (repoHash host dir)
            (r.failures (repoHash host dir) + 1) } := by
  unfold recordQueueFailureWithoutSnapshot
  by_cases h : r.Trips (repoHash host dir)
  · have h' : r.failures (repoHash host dir) + 1 ≥ MAX_CONSECUTIVE_FAILURES := h
    simp only [if_pos h, if_pos h', stageStopped_snd]
    rfl
  · have h' : ¬ r.failures (repoHash host dir) + 1 ≥ MAX_CONSECUTIVE_FAILURES := h
    simp only [if_neg h, if_neg h']

theorem recordQueueFailure_queuesShrink :
    QueuesShrink r (r.recordQueueFailureWithoutSnapshot host dir now).2 := by
  rw [recordQueueFailure_snd]
  split
  · exact (emptied_queuesShrink.trans stopAll_queuesShrink).trans (.of_eq rfl rfl)
  · exact .of_eq rfl rfl

/-- The runs that one more failure of the repo stops. -/
def trippedIds (host : Host) (r : RunRegistry) (dir : PathBuf) : List String :=
  if r.Trips (repoHash host dir) then (r.queue (repoHash host dir)).map (·.runId) else []

theorem recordQueueFailure_fst :
    (r.recordQueueFailureWithoutSnapshot host dir now).1 =
      (stageStopped host "circuit breaker tripped" now (r.emptied (repoHash host dir))
        (r.trippedIds host dir)).1 := by
  unfold recordQueueFailureWithoutSnapshot trippedIds
  by_cases h : r.Trips (repoHash host dir)
  · have h' : r.failures (repoHash host dir) + 1 ≥ MAX_CONSECUTIVE_FAILURES := h
    simp only [if_pos h, if_pos h']
    rfl
  · have h' : ¬ r.failures (repoHash host dir) + 1 ≥ MAX_CONSECUTIVE_FAILURES := h
    simp only [if_neg h, if_neg h']
    rfl

theorem queue_recordQueueFailure :
    (r.recordQueueFailureWithoutSnapshot host dir now).2.queue hash =
      if hash = repoHash host dir ∧ r.Trips (repoHash host dir) then [] else r.queue hash := by
  rw [recordQueueFailure_snd]
  by_cases htrips : r.Trips (repoHash host dir)
  · rw [if_pos htrips]
    change (stopAll ..).queue hash = _
    rw [queue, stopAll_pendingQueues, ← queue, queue_emptied]
    simp only [htrips, and_true]
  · rw [if_neg htrips, if_neg fun h => htrips h.2]
    rfl

theorem failures_recordQueueFailure :
    (r.recordQueueFailureWithoutSnapshot host dir now).2.failures hash =
      if hash = repoHash host dir then
        if r.Trips (repoHash host dir) then 0 else r.failures hash + 1
      else r.failures hash := by
  rw [recordQueueFailure_snd]
  by_cases htrips : r.Trips (repoHash host dir)
  · rw [if_pos htrips, if_pos htrips]
    simp only [failures, stopAll_consecutiveFailures]
    split
    · next heq => rw [heq, AList.lookup_erase, Option.getD_none]
    · next hne =>
      rw [AList.lookup_erase_ne hne]
      rfl
  · rw [if_neg htrips, if_neg htrips]
    simp only [failures, AList.lookup_insert_eq_ite]
    split
    · next heq => rw [heq, Option.getD_some]
    · rfl

theorem recordQueueFailure_runsEvolve :
    RunsEvolve (· ∈ r.trippedIds host dir) (fun _ => False) r
      (r.recordQueueFailureWithoutSnapshot host dir now).2 := by
  rw [recordQueueFailure_snd, trippedIds]
  split
  · have hemptied : RunsEvolve (· ∈ (r.queue (repoHash host dir)).map (·.runId)) (fun _ => False) r
        (r.emptied (repoHash host dir)) := .of_runs_eq rfl
    exact (hemptied.trans stopAll_runsEvolve).congr_right rfl
  · exact .of_runs_eq rfl

/-! ## Enqueuing -/

/-- The registry with one more pending run. -/
def pushed (host : Host) (r : RunRegistry) (pending : PendingRun) : RunRegistry :=
  { r with
    runs := r.runs.insert pending.runId (.enqueued pending)
    repoInsertionOrder :=
      if repoHash host pending.repoDir ∈ r.repoInsertionOrder then r.repoInsertionOrder
      else r.repoInsertionOrder ++ [repoHash host pending.repoDir]
    pendingQueues := r.pendingQueues.insert (repoHash host pending.repoDir)
      (r.queue (repoHash host pending.repoDir) ++ [pending]) }

theorem enqueueRun_cases (host : Host) (r : RunRegistry) (pending : PendingRun) :
    (∃ e, r.enqueueRunWithoutSnapshot host pending = .error e) ∨
    (r.totalPendingCount < MAX_QUEUE_SIZE ∧ r.findDuplicate host pending = none ∧
      r.enqueueRunWithoutSnapshot host pending =
        .ok ((r.queue (repoHash host pending.repoDir)).length + 1, .enqueued pending,
          r.pushed host pending)) := by
  simp only [enqueueRunWithoutSnapshot]
  by_cases hfull : r.totalPendingCount ≥ MAX_QUEUE_SIZE
  · rw [if_pos hfull]
    exact .inl ⟨_, rfl⟩
  · rw [if_neg hfull]
    cases hdup : r.findDuplicate host pending with
    | some e => exact .inl ⟨_, rfl⟩
    | none =>
      refine .inr ⟨Nat.not_le.mp hfull, rfl, ?_⟩
      simp only [List.length_append, List.length_singleton]
      rfl

theorem queue_pushed : (r.pushed host p).queue hash =
    if hash = repoHash host p.repoDir then r.queue hash ++ [p] else r.queue hash := by
  have h : (r.pushed host p).queue hash =
      (r.setQueue (repoHash host p.repoDir) (r.queue (repoHash host p.repoDir) ++ [p])).queue hash :=
    rfl
  rw [h, queue_setQueue]
  split
  · next heq => rw [heq]
  · rfl

theorem pendingEntries_pushed : (r.pushed host p).pendingEntries.Perm (p :: r.pendingEntries) :=
  AList.elems_insert_concat

end GreaterWill.RunRegistry
