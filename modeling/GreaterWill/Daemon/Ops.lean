import GreaterWill.Daemon.QueueSpec
import GreaterWill.Lib.Run

/-!
# Locked steps of the registry

Every access to the registry holds its mutex, so the daemon changes the registry one `Op` at a time.
For an operation this file says which runs it ends, which it shows as running, which get the lock of
their repo and which pending runs it hands out, and that nothing else happens.
-/

namespace GreaterWill

/-- A step on the registry under its mutex. -/
inductive Op where
  /-- `register_run`. -/
  | registerRun (planPath repoDir : PathBuf) (sessionName : Option String)
      (configDir : Option PathBuf) (runId : String) (now : DateTime) (io : LockIo)
      (metaIo : Except String Unit)
  /-- `enqueue_run_staged`. -/
  | enqueueRun (pending : PendingRun)
  | stageStatus (runId : String) (status : RunStatus) (phase error : Option String) (now : DateTime)
  /-- Writes through `get_mut`, then `stage_status_locked` with Running and no error. -/
  | setRunning (runId : String) (p : RunEntry.Patch) (phase : String) (now : DateTime)
  /-- Writes through `get_mut` alone. -/
  | getMut (runId : String) (claudePid : Option UInt32) (lastRecoveryAt : Option DateTime)
      (scheduleId : Option String)
  | promoteQueued (runId : String) (now : DateTime) (io : LockIo) (metaIo : Except String Unit)
  | drainNext (repoDir : PathBuf)
  /-- `drain_next_without_snapshot`, or else `drain_any_ready_without_snapshot`. -/
  | drainNextOrAny (repoDir : PathBuf)
  | dequeueRun (runId : String) (now : DateTime)
  /-- The `RemoveQueued` handler. -/
  | removeQueued (pfx : String) (now : DateTime)
  | clearQueue (repoFilter : Option PathBuf) (now : DateTime)
  | recordFailure (repoDir : PathBuf) (now : DateTime)
  | recordSuccess (repoDir : PathBuf)
  | stageQueue

namespace RunRegistry

variable (host : Host) (r : RunRegistry)

/-- The drain of `drain_if_available`: the completing repo first, then any ready repo. -/
def drainNextOrAny (repoDir : PathBuf) : Option PendingRun × RunRegistry :=
  match r.drainNextWithoutSnapshot host repoDir with
  | (some pending, r') => (some pending, r')
  | (none, r') => r'.drainAnyReadyWithoutSnapshot

/-- The repo that `drainNextOrAny` takes a run of. -/
def nextRepo (repoDir : PathBuf) : Option String :=
  if r.Ready (repoHash host repoDir) then some (repoHash host repoDir) else r.firstReady

/-- The registry after a run was shown as running: `get_mut`, then `stage_status_locked`. -/
def setRunning (runId : String) (p : RunEntry.Patch) (phase : String) (now : DateTime) :
    RunRegistry :=
  (r.modify runId p).tryStage host runId .running (some phase) none now

end RunRegistry

/-- One operation; a new run needs an id that is not in use, as `generate_id` gives it. -/
def opStep (host : Host) (r : RunRegistry) : Op → Option RunRegistry
  | .registerRun planPath repoDir sessionName configDir runId now io metaIo =>
    if (r.get runId).isSome then none
    else some (r.registerRun host planPath repoDir sessionName configDir none runId now io metaIo).2
  | .enqueueRun pending =>
    if (r.get pending.runId).isSome then none
    else
      match r.enqueueRunWithoutSnapshot host pending with
      | .ok (_, _, r') => some r'.stageQueueLocked.2
      | .error _ => some r
  | .stageStatus runId status phase error now => some (r.tryStage host runId status phase error now)
  | .setRunning runId p phase now => some (r.setRunning host runId p phase now)
  | .getMut runId claudePid lastRecoveryAt scheduleId =>
    some (r.modify runId
      { claudePid := claudePid, lastRecoveryAt := lastRecoveryAt, scheduleId := scheduleId })
  | .promoteQueued runId now io metaIo => some (r.promoteQueued host runId now io metaIo).2
  | .drainNext repoDir => some (r.drainNextWithoutSnapshot host repoDir).2
  | .drainNextOrAny repoDir => some (r.drainNextOrAny host repoDir).2
  | .dequeueRun runId now => some (r.dequeueRunStaged host runId now).2
  | .removeQueued pfx now => some (r.removeQueued host pfx now).2
  | .clearQueue repoFilter now => some (r.clearQueueStaged host repoFilter now).2
  | .recordFailure repoDir now => some (r.recordQueueFailureWithoutSnapshot host repoDir now).2
  | .recordSuccess repoDir => some (r.recordQueueSuccessWithoutSnapshot host repoDir)
  | .stageQueue => some r.stageQueueLocked.2

namespace Op

/-- The operation may add an entry. -/
def addsRun : Op → Bool
  | .registerRun .. | .enqueueRun _ => true
  | _ => false

/-- The runs for which the operation stages a terminal status. -/
def endedIds (host : Host) (r : RunRegistry) : Op → List String
  | .stageStatus runId status _ _ _ => if status.isTerminal then [runId] else []
  | .dequeueRun runId _ => if r.isInPendingQueue runId then [runId] else []
  | .removeQueued pfx _ => (r.findPendingByPrefix pfx).toList.map (·.1)
  | .clearQueue repoFilter _ => r.clearedIds host repoFilter
  | .recordFailure repoDir _ => r.trippedIds host repoDir
  | _ => []

/-- The runs for which the operation stages the status Running. -/
def runningIds : Op → List String
  | .stageStatus runId .running _ _ _ => [runId]
  | .setRunning runId _ _ _ => [runId]
  | _ => []

/-- The runs that get the lock of their repo. -/
def lockedIds (host : Host) (r : RunRegistry) : Op → List String
  | .registerRun _ repoDir _ _ runId _ io metaIo =>
    if r.Grants host repoDir io metaIo then [runId] else []
  | .promoteQueued runId _ io metaIo =>
    if (r.get runId).any fun e => e.status = .queued ∧ r.Grants host e.repoDir io metaIo then
      [runId]
    else []
  | _ => []

/-- The pending runs that are handed out. -/
def handsOut (host : Host) (r : RunRegistry) : Op → List PendingRun
  | .drainNext repoDir => (r.drainNextWithoutSnapshot host repoDir).1.toList
  | .drainNextOrAny repoDir => (r.drainNextOrAny host repoDir).1.toList
  | _ => []

end Op

namespace RunRegistry

variable {host : Host} {r r' : RunRegistry} {op : Op} {id hash runId : String} {dir : PathBuf}
  {e e' : RunEntry} {p : PendingRun} {now : DateTime}

/-! ## Handing out and showing as running -/

theorem drainNextOrAny_cases (host : Host) (r : RunRegistry) (dir : PathBuf) :
    (r.nextRepo host dir = none ∧ r.drainNextOrAny host dir = (none, r)) ∨
    ∃ hash p rest, r.nextRepo host dir = some hash ∧ r.queue hash = p :: rest ∧
      r.drainNextOrAny host dir = (some p, r.setQueue hash rest) := by
  unfold drainNextOrAny nextRepo
  rcases drainNext_cases host r dir with ⟨hnot, heq⟩ | ⟨p, rest, hready, hqueue, heq⟩
  · rw [heq, if_neg hnot]
    exact drainAnyReady_cases r
  · rw [heq, if_pos hready]
    exact .inr ⟨_, p, rest, rfl, hqueue, rfl⟩

theorem drainNextOrAny_queuesShrink : QueuesShrink r (r.drainNextOrAny host dir).2 := by
  rcases drainNextOrAny_cases host r dir with ⟨-, heq⟩ | ⟨hash, p, rest, -, hq, heq⟩
  · rw [heq]
    exact .refl r
  · rw [heq]
    exact setQueue_queuesShrink (hq ▸ List.sublist_cons_self p rest)

theorem setRunning_runsEvolve {p : RunEntry.Patch} {phase : String} :
    RunsEvolve (fun _ => False) (fun id => id = runId) r (r.setRunning host runId p phase now) := by
  have hmodify : RunsEvolve (fun _ => False) (fun id => id = runId) r (r.modify runId p) :=
    modify_runsEvolve.mono (fun _ => False.elim) fun _ h => h.1
  have hstage : RunsEvolve (fun _ => False) (fun id => id = runId) (r.modify runId p)
      (r.setRunning host runId p phase now) :=
    tryStage_runsEvolve.mono (fun _ h => Bool.noConfusion h.2) fun _ h => h.1
  exact hmodify.trans hstage

theorem isTerminal_of_get_tryStage {status : RunStatus} {phase error : Option String}
    (hs : status.isTerminal = true)
    (he' : (r.tryStage host runId status phase error now).get runId = some e') :
    e'.status.isTerminal = true := by
  obtain ⟨e, he, -⟩ := tryStage_runsEvolve.exists_of_get he'
  rw [get_tryStage_of_isTerminal hs he, Option.some.injEq] at he'
  rw [← he']
  exact hs

/-- What was Running or could not become so is not queued. -/
theorem not_queued_of_get_tryStage {phase error : Option String}
    (he' : (r.tryStage host runId .running phase error now).get runId = some e') :
    e'.status ≠ .queued := by
  rcases tryStage_cases host r runId .running phase error now with ⟨e, he, -, heq⟩ | ⟨hnot, heq⟩
  · rw [heq, get_staged, if_pos rfl, Option.some.injEq] at he'
    rw [← he']
    exact RunStatus.noConfusion
  · rw [heq] at he'
    intro hq
    refine hnot e' he' ?_
    rw [hq]
    decide

/-! ## What an operation does to the entries -/

/-- An operation that adds no entry. -/
theorem opStep_runsEvolve (h : opStep host r op = some r')
    (hadds : op.addsRun = false) :
    RunsEvolve (· ∈ op.endedIds host r) (· ∈ op.runningIds) r r' := by
  cases op with
  | registerRun => cases hadds
  | enqueueRun => cases hadds
  | stageStatus runId status phase error now =>
    cases h
    refine tryStage_runsEvolve.mono ?_ ?_
    · rintro id ⟨rfl, hterm⟩
      simp [Op.endedIds, hterm]
    · rintro id ⟨rfl, rfl⟩
      exact List.mem_singleton_self _
  | setRunning runId p phase now =>
    cases h
    refine setRunning_runsEvolve.mono (fun _ => False.elim) ?_
    rintro id rfl
    exact List.mem_singleton_self _
  | getMut =>
    cases h
    refine modify_runsEvolve.mono (fun _ => False.elim) ?_
    exact fun _ h => Bool.noConfusion h.2
  | promoteQueued runId now io metaIo =>
    cases h
    exact promoteQueued_runsEvolve.of_false
  | drainNext =>
    cases h
    exact drainNext_runsEvolve.of_false
  | drainNextOrAny dir =>
    cases h
    rcases drainNextOrAny_cases host r dir with ⟨-, heq⟩ | ⟨hash, p, rest, -, -, heq⟩ <;>
      exact heq ▸ .of_runs_eq rfl
  | dequeueRun runId now =>
    cases h
    refine dequeueRunStaged_runsEvolve.mono ?_ (fun _ => False.elim)
    rintro id ⟨rfl, hpend⟩
    simp [Op.endedIds, hpend]
  | removeQueued pfx now =>
    cases h
    refine removeQueued_runsEvolve.mono ?_ (fun _ => False.elim)
    rintro id ⟨hash, hfind⟩
    simp [Op.endedIds, hfind]
  | clearQueue =>
    cases h
    exact clearQueueStaged_runsEvolve.mono (fun _ => id) (fun _ => False.elim)
  | recordFailure =>
    cases h
    exact recordQueueFailure_runsEvolve.mono (fun _ => id) (fun _ => False.elim)
  | recordSuccess =>
    cases h
    exact .of_runs_eq rfl
  | stageQueue =>
    cases h
    exact .of_runs_eq rfl

/-- A run is registered with the lock of its repo, or nothing changes. -/
theorem opStep_registerRun {plan repo : PathBuf} {session : Option String}
    {config : Option PathBuf} {io : LockIo} {metaIo : Except String Unit}
    (h : opStep host r (.registerRun plan repo session config runId now io metaIo) = some r') :
    r.get runId = none ∧
      ((repoHash host repo ∉ r.repoLocks ∧
          (Op.registerRun plan repo session config runId now io metaIo).lockedIds host r = [runId] ∧
          r' = { r with
            repoLocks := insert (repoHash host repo) r.repoLocks
            runs := r.runs.insert runId (.registered runId plan repo session config none now) }) ∨
        ((Op.registerRun plan repo session config runId now io metaIo).lockedIds host r = [] ∧
          r' = r)) := by
  simp only [opStep] at h
  split at h
  · cases h
  next hnone =>
    cases h
    refine ⟨by simpa using hnone, ?_⟩
    rcases registerRun_cases host r plan repo session config none runId now io metaIo with
      ⟨hgrants, heq⟩ | ⟨hnot, e, heq⟩
    · exact .inl ⟨hgrants.1, if_pos hgrants, by rw [heq]⟩
    · exact .inr ⟨if_neg hnot, by rw [heq]⟩

/-- A run is pushed on the queue of its repo, or nothing changes. -/
theorem opStep_enqueueRun {pending : PendingRun}
    (h : opStep host r (.enqueueRun pending) = some r') :
    r.get pending.runId = none ∧
      (r' = r ∨ ∃ epoch, r' = { r.pushed host pending with queueEpoch := epoch }) := by
  simp only [opStep] at h
  split at h
  · cases h
  next hnone =>
    refine ⟨by simpa using hnone, ?_⟩
    rcases enqueueRun_cases host r pending with ⟨e, heq⟩ | ⟨-, -, heq⟩
    · rw [heq] at h
      cases h
      exact .inl rfl
    · rw [heq] at h
      cases h
      exact .inr ⟨_, rfl⟩

/-- A run is promoted with the lock of its repo, or no lock changes. -/
theorem opStep_promoteQueued {io : LockIo} {metaIo : Except String Unit}
    (h : opStep host r (.promoteQueued runId now io metaIo) = some r') :
    (∃ e, r.get runId = some e ∧ e.status = .queued ∧ repoHash host e.repoDir ∉ r.repoLocks ∧
        (Op.promoteQueued runId now io metaIo).lockedIds host r = [runId] ∧
        r' = { r with
          repoLocks := insert (repoHash host e.repoDir) r.repoLocks
          runs := r.runs.insert runId (e.promote now) }) ∨
      ((Op.promoteQueued runId now io metaIo).lockedIds host r = [] ∧
        r'.repoLocks = r.repoLocks) := by
  cases h
  rcases promoteQueued_cases host r runId now io metaIo with
    ⟨e, he, hq, hgrants, heq⟩ | ⟨hnot, err, heq⟩
  · exact .inl ⟨e, he, hq, hgrants.1, if_pos (by simp [he, hq, hgrants]), by rw [heq]⟩
  · refine .inr ⟨if_neg fun hany => ?_, ?_⟩
    · obtain ⟨e, he, hlock⟩ := (Option.any_eq_true _ _).mp hany
      simp only [decide_eq_true_eq] at hlock
      exact hnot e he hlock.1 hlock.2
    · rcases heq with heq | ⟨entry, -, heq⟩ <;> rw [heq]

theorem get_insert {locks : Finset String} :
    { r with repoLocks := locks, runs := r.runs.insert runId e }.get id =
      if id = runId then some e else r.get id :=
  AList.lookup_insert_eq_ite

theorem get_pushed : (r.pushed host p).get id =
    if id = p.runId then some (.enqueued p) else r.get id :=
  AList.lookup_insert_eq_ite

/-- An entry that was there evolves. -/
theorem opStep_evolves (h : opStep host r op = some r') (he : r.get id = some e) :
    ∃ e', r'.get id = some e' ∧ e.Evolves (id ∈ op.endedIds host r) (id ∈ op.runningIds) e' := by
  cases hadds : op.addsRun with
  | false => exact (opStep_runsEvolve h hadds).evolves id e he
  | true =>
    cases op with
    | registerRun plan repo session config runId now io metaIo =>
      obtain ⟨hnone, ⟨-, -, rfl⟩ | ⟨-, rfl⟩⟩ := opStep_registerRun h
      · have hne : id ≠ runId := by
          rintro rfl
          rw [hnone] at he
          cases he
        exact ⟨e, by rw [get_insert, if_neg hne, he], .refl e⟩
      · exact ⟨e, he, .refl e⟩
    | enqueueRun pending =>
      obtain ⟨hnone, rfl | ⟨epoch, rfl⟩⟩ := opStep_enqueueRun h
      · exact ⟨e, he, .refl e⟩
      · have hne : id ≠ pending.runId := by
          rintro rfl
          rw [hnone] at he
          cases he
        have hget : (r.pushed host pending).get id = some e := by rw [get_pushed, if_neg hne, he]
        exact ⟨e, hget, .refl e⟩
    | _ => cases hadds

/-- A new entry is queued; it has the lock of its repo or is pending. -/
theorem opStep_added (h : opStep host r op = some r') (he : r.get id = none)
    (he' : r'.get id = some e') : e'.status = .queued ∧ e'.tmuxSession = none ∧
      (id ∈ op.lockedIds host r ∨ r'.isInPendingQueue id = true) := by
  cases hadds : op.addsRun with
  | false =>
    rw [(opStep_runsEvolve h hadds).not_added id he] at he'
    cases he'
  | true =>
    cases op with
    | registerRun plan repo session config runId now io metaIo =>
      obtain ⟨-, ⟨-, hlocked, rfl⟩ | ⟨-, rfl⟩⟩ := opStep_registerRun h
      · rw [get_insert] at he'
        split at he'
        · next hid =>
          cases he'
          exact ⟨rfl, rfl, .inl (by rw [hlocked, hid]; exact List.mem_singleton_self _)⟩
        · rw [he] at he'
          cases he'
      · rw [he] at he'
        cases he'
    | enqueueRun pending =>
      obtain ⟨-, rfl | ⟨epoch, rfl⟩⟩ := opStep_enqueueRun h
      · rw [he] at he'
        cases he'
      · change (r.pushed host pending).get id = some e' at he'
        rw [get_pushed] at he'
        split at he'
        · next hid =>
          cases he'
          have hmem : pending ∈ (r.pushed host pending).queue (repoHash host pending.repoDir) := by
            rw [queue_pushed, if_pos rfl]
            exact List.mem_append_right _ (List.mem_singleton_self _)
          have hpend := isInPendingQueue_iff.mpr ⟨_, pending, hmem, hid.symm⟩
          exact ⟨rfl, rfl, .inr hpend⟩
        · rw [he] at he'
          cases he'
    | _ => cases hadds

theorem opStep_isSome (h : opStep host r op = some r') (he : (r.get id).isSome = true) :
    (r'.get id).isSome = true := by
  obtain ⟨e, he⟩ := Option.isSome_iff_exists.mp he
  obtain ⟨e', he', -⟩ := opStep_evolves h he
  rw [he', Option.isSome_some]

/-- A run that the operation ends is terminal. -/
theorem opStep_ended (h : opStep host r op = some r') (hid : id ∈ op.endedIds host r)
    (he' : r'.get id = some e') : e'.status.isTerminal = true := by
  cases op with
  | stageStatus runId status phase error now =>
    cases h
    simp only [Op.endedIds] at hid
    split at hid
    · next hs =>
      obtain rfl := List.mem_singleton.mp hid
      exact isTerminal_of_get_tryStage hs he'
    · cases hid
  | dequeueRun runId now =>
    cases h
    simp only [Op.endedIds] at hid
    split at hid
    · next hpend =>
      obtain rfl := List.mem_singleton.mp hid
      rcases dequeueRunStaged_cases host r id now with ⟨hnot, -⟩ | ⟨hash, epoch, -, -, heq⟩
      · rw [hnot] at hpend
        cases hpend
      · rw [heq] at he'
        exact isTerminal_of_get_tryStage rfl he'
    · cases hid
  | removeQueued pfx now =>
    cases h
    rcases removeQueued_cases host r pfx now with ⟨hnone, -⟩ | ⟨fullId, hash, epoch, hfind, heq⟩
    · simp [Op.endedIds, hnone] at hid
    · obtain rfl : id = fullId := by simpa [Op.endedIds, hfind] using hid
      rw [heq] at he'
      exact isTerminal_of_get_tryStage rfl he'
  | clearQueue repoFilter now =>
    cases h
    obtain ⟨epoch, heq⟩ := clearQueueStaged_snd host r repoFilter now
    rw [heq] at he'
    exact isTerminal_of_get_stopAll hid he'
  | recordFailure dir now =>
    cases h
    simp only [Op.endedIds, trippedIds] at hid
    rw [recordQueueFailure_snd] at he'
    split at hid
    · next htrips =>
      rw [if_pos htrips] at he'
      exact isTerminal_of_get_stopAll hid he'
    · cases hid
  | _ => cases hid

/-- A run that the operation shows as running is not queued. -/
theorem opStep_running (h : opStep host r op = some r') (hid : id ∈ op.runningIds)
    (he' : r'.get id = some e') : e'.status ≠ .queued := by
  cases op with
  | stageStatus runId status phase error now =>
    cases h
    cases status with
    | running =>
      obtain rfl := List.mem_singleton.mp hid
      exact not_queued_of_get_tryStage he'
    | _ => cases hid
  | setRunning runId p phase now =>
    cases h
    obtain rfl := List.mem_singleton.mp hid
    exact not_queued_of_get_tryStage he'
  | _ => cases hid

/-- An entry that is no longer queued stays so. -/
theorem opStep_queued (h : opStep host r op = some r') (he : r.get id = some e)
    (he' : r'.get id = some e') (hq : e'.status = .queued) : e.status = .queued := by
  obtain ⟨e'', he'', hev⟩ := opStep_evolves h he
  obtain rfl : e'' = e' := Option.some_injective _ (he''.symm.trans he')
  exact hev.queued_of_queued hq

/-! ## What an operation does to the locks -/

/-- An operation that gives no run the lock of its repo acquires no lock. -/
theorem opStep_repoLocks_subset (h : opStep host r op = some r') (hnone : op.lockedIds host r = []) :
    r'.repoLocks ⊆ r.repoLocks := by
  cases op with
  | registerRun =>
    obtain ⟨-, ⟨-, hlocked, -⟩ | ⟨-, rfl⟩⟩ := opStep_registerRun h
    · rw [hlocked] at hnone
      cases hnone
    · exact Finset.Subset.refl _
  | enqueueRun =>
    obtain ⟨-, rfl | ⟨epoch, rfl⟩⟩ := opStep_enqueueRun h <;> exact Finset.Subset.refl _
  | promoteQueued =>
    obtain ⟨e, -, -, -, hlocked, -⟩ | ⟨-, heq⟩ := opStep_promoteQueued h
    · rw [hlocked] at hnone
      cases hnone
    · rw [heq]
  | stageStatus => cases h; exact tryStage_repoLocks_subset
  | setRunning =>
    cases h
    exact tryStage_repoLocks_subset.trans (by rw [modify_repoLocks])
  | getMut => cases h; rw [modify_repoLocks]
  | drainNext dir =>
    cases h
    rcases drainNext_cases host r dir with ⟨-, heq⟩ | ⟨p, rest, -, -, heq⟩ <;>
      exact heq ▸ Finset.Subset.refl _
  | drainNextOrAny dir =>
    cases h
    rcases drainNextOrAny_cases host r dir with ⟨-, heq⟩ | ⟨hash, p, rest, -, -, heq⟩ <;>
      exact heq ▸ Finset.Subset.refl _
  | dequeueRun runId now =>
    cases h
    rcases dequeueRunStaged_cases host r runId now with ⟨-, heq⟩ | ⟨hash, epoch, -, -, heq⟩
    · exact heq ▸ Finset.Subset.refl _
    · rw [heq]
      exact tryStage_repoLocks_subset
  | removeQueued pfx now =>
    cases h
    rcases removeQueued_cases host r pfx now with ⟨-, heq⟩ | ⟨fullId, hash, epoch, -, heq⟩
    · exact heq ▸ Finset.Subset.refl _
    · rw [heq]
      exact tryStage_repoLocks_subset
  | clearQueue repoFilter now =>
    cases h
    obtain ⟨epoch, heq⟩ := clearQueueStaged_snd host r repoFilter now
    rw [heq]
    exact stopAll_repoLocks_subset
  | recordFailure dir now =>
    cases h
    rw [recordQueueFailure_snd]
    split
    · exact stopAll_repoLocks_subset
    · exact Finset.Subset.refl _
  | recordSuccess | stageQueue => cases h; exact Finset.Subset.refl _

/-- Only the locks of ended runs are released. -/
theorem mem_repoLocks_opStep (h : opStep host r op = some r') (hmem : hash ∈ r.repoLocks)
    (hne : ∀ id ∈ op.endedIds host r, ∀ e, r.get id = some e → repoHash host e.repoDir ≠ hash) :
    hash ∈ r'.repoLocks := by
  cases op with
  | registerRun =>
    obtain ⟨-, ⟨-, -, rfl⟩ | ⟨-, rfl⟩⟩ := opStep_registerRun h
    · exact Finset.mem_insert_of_mem hmem
    · exact hmem
  | enqueueRun => obtain ⟨-, rfl | ⟨epoch, rfl⟩⟩ := opStep_enqueueRun h <;> exact hmem
  | promoteQueued =>
    obtain ⟨e, -, -, -, -, rfl⟩ | ⟨-, heq⟩ := opStep_promoteQueued h
    · exact Finset.mem_insert_of_mem hmem
    · rwa [heq]
  | stageStatus runId status phase error now =>
    cases h
    refine mem_repoLocks_tryStage hmem fun hs => hne runId ?_
    simp [Op.endedIds, hs]
  | setRunning =>
    cases h
    exact mem_repoLocks_tryStage (by rwa [modify_repoLocks]) fun hs => Bool.noConfusion hs
  | getMut => cases h; rwa [modify_repoLocks]
  | drainNext dir =>
    cases h
    rcases drainNext_cases host r dir with ⟨-, heq⟩ | ⟨p, rest, -, -, heq⟩ <;> exact heq ▸ hmem
  | drainNextOrAny dir =>
    cases h
    rcases drainNextOrAny_cases host r dir with ⟨-, heq⟩ | ⟨hash, p, rest, -, -, heq⟩ <;>
      exact heq ▸ hmem
  | dequeueRun runId now =>
    cases h
    rcases dequeueRunStaged_cases host r runId now with
      ⟨-, heq⟩ | ⟨hash', epoch, ⟨p, hp, hid⟩, -, heq⟩
    · exact heq ▸ hmem
    · have hpend := isInPendingQueue_iff.mpr ⟨hash', p, hp, hid⟩
      rw [heq]
      exact mem_repoLocks_tryStage hmem fun _ => hne runId (by simp [Op.endedIds, hpend])
  | removeQueued pfx now =>
    cases h
    rcases removeQueued_cases host r pfx now with ⟨-, heq⟩ | ⟨fullId, hash', epoch, hfind, heq⟩
    · exact heq ▸ hmem
    · rw [heq]
      exact mem_repoLocks_tryStage hmem fun _ => hne fullId (by simp [Op.endedIds, hfind])
  | clearQueue repoFilter now =>
    cases h
    obtain ⟨epoch, heq⟩ := clearQueueStaged_snd host r repoFilter now
    rw [heq]
    exact mem_repoLocks_stopAll hmem hne
  | recordFailure dir now =>
    cases h
    rw [recordQueueFailure_snd]
    split
    · next htrips =>
      refine mem_repoLocks_stopAll hmem fun id hid => hne id ?_
      rwa [Op.endedIds, trippedIds, if_pos htrips]
    · exact hmem
  | recordSuccess | stageQueue => cases h; exact hmem

/-- A run that gets the lock of its repo finds it free and is queued. -/
theorem opStep_lockedIds (h : opStep host r op = some r') (hid : id ∈ op.lockedIds host r) :
    ∃ e', r'.get id = some e' ∧ e'.status = .queued ∧
      repoHash host e'.repoDir ∉ r.repoLocks ∧
      r'.repoLocks = insert (repoHash host e'.repoDir) r.repoLocks ∧
      op.lockedIds host r = [id] ∧ op.endedIds host r = [] := by
  cases op with
  | registerRun plan repo session config runId now io metaIo =>
    obtain ⟨-, ⟨hfree, hlocked, rfl⟩ | ⟨hnone, -⟩⟩ := opStep_registerRun h
    · rw [hlocked] at hid
      obtain rfl := List.mem_singleton.mp hid
      exact ⟨_, by rw [get_insert, if_pos rfl], rfl, hfree, rfl, hlocked, rfl⟩
    · rw [hnone] at hid
      cases hid
  | promoteQueued runId now io metaIo =>
    obtain ⟨e, he, hq, hfree, hlocked, rfl⟩ | ⟨hnone, -⟩ := opStep_promoteQueued h
    · rw [hlocked] at hid
      obtain rfl := List.mem_singleton.mp hid
      exact ⟨e.promote now, by rw [get_insert, if_pos rfl], hq, hfree, rfl, hlocked, rfl⟩
    · rw [hnone] at hid
      cases hid
  | _ => cases hid

/-! ## What an operation does to the queues -/

theorem mem_queue_setQueue {hash' : String} {p' : PendingRun} {rest : List PendingRun}
    (hq : r.queue hash' = p' :: rest) (hp : p ∈ r.queue hash) :
    p ∈ (r.setQueue hash' rest).queue hash ∨ p = p' := by
  rw [queue_setQueue]
  split
  · next hhash =>
    rw [hhash, hq] at hp
    exact (List.mem_cons.mp hp).symm
  · exact .inl hp

/-- A pending run stays pending, is ended or is handed out. -/
theorem opStep_queue (h : opStep host r op = some r') (hp : p ∈ r.queue hash) :
    p ∈ r'.queue hash ∨ p.runId ∈ op.endedIds host r ∨ p ∈ op.handsOut host r := by
  cases op with
  | registerRun => obtain ⟨-, ⟨-, -, rfl⟩ | ⟨-, rfl⟩⟩ := opStep_registerRun h <;> exact .inl hp
  | enqueueRun pending =>
    obtain ⟨-, rfl | ⟨epoch, rfl⟩⟩ := opStep_enqueueRun h
    · exact .inl hp
    · left
      change p ∈ (r.pushed host pending).queue hash
      rw [queue_pushed]
      split
      · exact List.mem_append_left _ hp
      · exact hp
  | promoteQueued => cases h; exact .inl (by rwa [queue, promoteQueued_pendingQueues])
  | stageStatus => cases h; exact .inl (by rwa [queue, tryStage_pendingQueues])
  | setRunning =>
    cases h
    exact .inl (by rwa [queue, setRunning, tryStage_pendingQueues, modify_pendingQueues])
  | getMut => cases h; exact .inl (by rwa [queue, modify_pendingQueues])
  | drainNext dir =>
    cases h
    rcases drainNext_cases host r dir with ⟨-, heq⟩ | ⟨p', rest, -, hq, heq⟩
    · exact .inl (by rwa [heq])
    · rw [heq]
      refine (mem_queue_setQueue hq hp).imp_right fun hp' => .inr ?_
      simp [Op.handsOut, heq, hp']
  | drainNextOrAny dir =>
    cases h
    rcases drainNextOrAny_cases host r dir with ⟨-, heq⟩ | ⟨hash', p', rest, -, hq, heq⟩
    · exact .inl (by rwa [heq])
    · rw [heq]
      refine (mem_queue_setQueue hq hp).imp_right fun hp' => .inr ?_
      simp [Op.handsOut, heq, hp']
  | dequeueRun runId now =>
    cases h
    rcases dequeueRunStaged_cases host r runId now with
      ⟨-, heq⟩ | ⟨hash', epoch, ⟨p', hp', hid⟩, -, heq⟩
    · exact .inl (by rwa [heq])
    · by_cases hpid : p.runId = runId
      · have hpend := isInPendingQueue_iff.mpr ⟨hash', p', hp', hid⟩
        exact .inr (.inl (by simp [Op.endedIds, hpend, hpid]))
      · left
        rw [heq]
        change p ∈ (tryStage ..).queue hash
        rw [queue, tryStage_pendingQueues, ← queue, queue_setQueue]
        split
        · next hhash =>
          rw [← hhash]
          exact (List.mem_eraseP_of_neg (by simpa using hpid)).mpr hp
        · exact hp
  | removeQueued pfx now =>
    cases h
    rcases removeQueued_cases host r pfx now with ⟨-, heq⟩ | ⟨fullId, hash', epoch, hfind, heq⟩
    · exact .inl (by rwa [heq])
    · by_cases hpid : p.runId = fullId
      · exact .inr (.inl (by simp [Op.endedIds, hfind, hpid]))
      · left
        rw [heq]
        change p ∈ (removePendingWithoutSnapshot _ fullId).queue hash
        rw [queue_removePending, queue, tryStage_pendingQueues, ← queue]
        exact List.mem_filter.mpr ⟨hp, by simpa using hpid⟩
  | clearQueue repoFilter now =>
    cases h
    obtain ⟨epoch, heq⟩ := clearQueueStaged_snd host r repoFilter now
    by_cases hclears : clears host repoFilter p = true
    · right; left
      exact List.mem_map_of_mem (List.mem_filter.mpr ⟨mem_pendingEntries.mpr ⟨hash, hp⟩, hclears⟩)
    · left
      rw [heq]
      change p ∈ (stopAll ..).queue hash
      rw [queue, stopAll_pendingQueues, ← queue, queue_cleared]
      exact List.mem_filter.mpr ⟨hp, by simpa using hclears⟩
  | recordFailure dir now =>
    cases h
    rw [recordQueueFailure_snd]
    split
    · next htrips =>
      by_cases hhash : hash = repoHash host dir
      · right; left
        rw [Op.endedIds, trippedIds, if_pos htrips, ← hhash]
        exact List.mem_map_of_mem hp
      · left
        change p ∈ (stopAll ..).queue hash
        rw [queue, stopAll_pendingQueues, ← queue, queue_emptied, if_neg hhash]
        exact hp
    · exact .inl hp
  | recordSuccess | stageQueue => cases h; exact .inl hp

/-- Only an enqueue adds to a queue. -/
theorem opStep_queuesShrink (h : opStep host r op = some r')
    (hne : ∀ pending, op ≠ .enqueueRun pending) : QueuesShrink r r' := by
  cases op with
  | enqueueRun pending => exact absurd rfl (hne pending)
  | registerRun =>
    obtain ⟨-, ⟨-, -, rfl⟩ | ⟨-, rfl⟩⟩ := opStep_registerRun h
    · exact .of_eq rfl rfl
    · exact .refl _
  | promoteQueued => cases h; exact promoteQueued_queuesShrink
  | stageStatus => cases h; exact tryStage_queuesShrink
  | setRunning =>
    cases h
    have hmodify {id : String} {p : RunEntry.Patch} : QueuesShrink r (r.modify id p) :=
      .of_eq (modify_pendingQueues ..) (modify_repoInsertionOrder ..)
    exact hmodify.trans tryStage_queuesShrink
  | getMut =>
    cases h
    exact .of_eq (modify_pendingQueues ..) (modify_repoInsertionOrder ..)
  | drainNext => cases h; exact drainNext_queuesShrink
  | drainNextOrAny => cases h; exact drainNextOrAny_queuesShrink
  | dequeueRun => cases h; exact dequeueRunStaged_queuesShrink
  | removeQueued => cases h; exact removeQueued_queuesShrink
  | clearQueue => cases h; exact clearQueueStaged_queuesShrink
  | recordFailure => cases h; exact recordQueueFailure_queuesShrink
  | recordSuccess | stageQueue => cases h; exact .of_eq rfl rfl

/-- Pending runs come from an enqueue. -/
theorem mem_queue_of_opStep (h : opStep host r op = some r') (hp : p ∈ r'.queue hash) :
    p ∈ r.queue hash ∨
      (hash = repoHash host p.repoDir ∧ r'.get p.runId = some (.enqueued p)) := by
  cases op with
  | enqueueRun pending =>
    obtain ⟨-, rfl | ⟨epoch, rfl⟩⟩ := opStep_enqueueRun h
    · exact .inl hp
    · change p ∈ (r.pushed host pending).queue hash at hp
      rw [queue_pushed] at hp
      split at hp
      · next hhash =>
        rcases List.mem_append.mp hp with hp | hp
        · exact .inl hp
        · obtain rfl := List.mem_singleton.mp hp
          have hget : (r.pushed host p).get p.runId = some (.enqueued p) := by
            rw [get_pushed, if_pos rfl]
          exact .inr ⟨hhash, hget⟩
      · exact .inl hp
  | _ => exact .inl (((opStep_queuesShrink h nofun).queue hash).subset hp)

/-- What is handed out was pending. -/
theorem mem_queue_of_handsOut (hp : p ∈ op.handsOut host r) : ∃ hash, p ∈ r.queue hash := by
  cases op with
  | drainNext dir =>
    rcases drainNext_cases host r dir with ⟨-, heq⟩ | ⟨p', rest, -, hq, heq⟩
    · simp [Op.handsOut, heq] at hp
    · obtain rfl : p = p' := by simpa [Op.handsOut, heq] using hp
      exact ⟨_, hq ▸ List.mem_cons_self⟩
  | drainNextOrAny dir =>
    rcases drainNextOrAny_cases host r dir with ⟨-, heq⟩ | ⟨hash, p', rest, -, hq, heq⟩
    · simp [Op.handsOut, heq] at hp
    · obtain rfl : p = p' := by simpa [Op.handsOut, heq] using hp
      exact ⟨hash, hq ▸ List.mem_cons_self⟩
  | _ => cases hp

end RunRegistry
end GreaterWill
