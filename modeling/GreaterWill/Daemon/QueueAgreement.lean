import GreaterWill.Daemon.QueueSpec
import GreaterWill.Lib.Run

/-!
# The queues agree with the entries

`QueueAgreement` ties the four structures together that the queue operations update: the entries,
the pending queues, the insertion log and the queue bound. It holds after every sequence of queue
operations, of which a `StopRun` request makes two: it dequeues the run if it is pending, and else
stops it later, when other operations may have come between.
-/

namespace GreaterWill

/-- The entries, the pending queues and the insertion log agree. -/
structure QueueAgreement (host : Host) (r : RunRegistry) : Prop where
  entry : ∀ hash, ∀ p ∈ r.queue hash, ∃ e, r.get p.runId = some e ∧ e.status = .queued ∧
    repoHash host e.repoDir = hash
  nodup : (r.pendingEntries.map (·.runId)).Nodup
  bounded : r.totalPendingCount ≤ MAX_QUEUE_SIZE
  order_nodup : r.repoInsertionOrder.Nodup
  order_mem : ∀ hash, r.queue hash ≠ [] → hash ∈ r.repoInsertionOrder

namespace QueueAgreement

open RunRegistry

variable {host : Host} {r r' : RunRegistry} {runId hash : String} {p p' : PendingRun}

theorem new : QueueAgreement host .new where
  entry hash p hp := by cases hp
  nodup := List.nodup_nil
  bounded := Nat.zero_le _
  order_nodup := List.nodup_nil
  order_mem hash h := absurd rfl h

/-- Two pending runs with one id are the same. -/
theorem eq_of_runId_eq (H : QueueAgreement host r) (hp : p ∈ r.pendingEntries)
    (hp' : p' ∈ r.pendingEntries) (h : p.runId = p'.runId) : p = p' :=
  List.inj_on_of_nodup_map H.nodup hp hp' h

/-- An operation that only removes runs from the queues keeps the agreement if it keeps the entries
of the runs that stay. -/
theorem of_shrink (H : QueueAgreement host r) (hshrink : QueuesShrink r r')
    (hentry : ∀ hash, ∀ p ∈ r'.queue hash, ∀ e, r.get p.runId = some e → e.status = .queued →
      ∃ e', r'.get p.runId = some e' ∧ e'.status = .queued ∧ e'.repoDir = e.repoDir) :
    QueueAgreement host r' where
  entry hash p hp := by
    obtain ⟨e, he, hq, hhash⟩ := H.entry hash p ((hshrink.queue hash).subset hp)
    obtain ⟨e', he', hq', hdir⟩ := hentry hash p hp e he hq
    exact ⟨e', he', hq', by rw [hdir, hhash]⟩
  nodup := by
    obtain ⟨l, hperm, hsub⟩ := hshrink.pending
    exact (hperm.map _).nodup_iff.mp (H.nodup.sublist (hsub.map _))
  bounded := by
    have hle := hshrink.pending.length_le
    have hbound := H.bounded
    rw [totalPendingCount_eq] at hbound ⊢
    omega
  order_nodup := hshrink.order ▸ H.order_nodup
  order_mem hash h := by
    rw [hshrink.order]
    refine H.order_mem hash fun hnil => h ?_
    have hsub := hshrink.queue hash
    rwa [hnil, List.sublist_nil] at hsub

theorem of_shrink_of_get_eq (H : QueueAgreement host r) (hshrink : QueuesShrink r r')
    (hget : ∀ hash, ∀ p ∈ r'.queue hash, r'.get p.runId = r.get p.runId) :
    QueueAgreement host r' :=
  H.of_shrink hshrink fun hash p hp e he hq => ⟨e, (hget hash p hp).trans he, hq, rfl⟩

/-- A run that left a queue is in no queue. -/
theorem runId_ne_of_mem (H : QueueAgreement host r) {l q : List PendingRun}
    (hperm : (r.queue hash).Perm (l ++ q)) (hp' : p' ∈ l)
    (hp : p ∈ (r.setQueue hash q).pendingEntries) : p.runId ≠ p'.runId := by
  have hnodup := ((pendingEntries_perm_setQueue hperm).map (·.runId)).nodup_iff.mp H.nodup
  rw [List.map_append, List.nodup_append] at hnodup
  exact (hnodup.2.2 _ (List.mem_map_of_mem hp') _ (List.mem_map_of_mem hp)).symm

/-! ## The operations -/

theorem enqueueRun {pending : PendingRun} (H : QueueAgreement host r)
    (hfresh : r.get pending.runId = none) (hroom : r.totalPendingCount < MAX_QUEUE_SIZE) :
    QueueAgreement host (r.pushed host pending) where
  entry hash p hp := by
    have hget {id : String} : (r.pushed host pending).get id =
        if id = pending.runId then some (.enqueued pending) else r.get id :=
      AList.lookup_insert_eq_ite
    have hold (hp : p ∈ r.queue hash) : ∃ e, (r.pushed host pending).get p.runId = some e ∧
        e.status = .queued ∧ repoHash host e.repoDir = hash := by
      obtain ⟨e, he, hq, hhash⟩ := H.entry hash p hp
      have hne : p.runId ≠ pending.runId := by
        intro heq
        rw [heq, hfresh] at he
        cases he
      exact ⟨e, by rw [hget, if_neg hne, he], hq, hhash⟩
    rw [queue_pushed] at hp
    split at hp
    · next hhash =>
      rcases List.mem_append.mp hp with hp | hp
      · exact hold hp
      · obtain rfl := List.mem_singleton.mp hp
        exact ⟨_, by rw [hget, if_pos rfl], rfl, hhash.symm⟩
    · exact hold hp
  nodup := by
    rw [(pendingEntries_pushed.map (·.runId)).nodup_iff, List.map_cons, List.nodup_cons]
    refine ⟨fun hmem => ?_, H.nodup⟩
    obtain ⟨p, hp, hid⟩ := List.mem_map.mp hmem
    obtain ⟨hash, hp⟩ := mem_pendingEntries.mp hp
    obtain ⟨e, he, -⟩ := H.entry hash p hp
    rw [hid, hfresh] at he
    cases he
  bounded := by
    rw [totalPendingCount_eq] at hroom ⊢
    rw [pendingEntries_pushed.length_eq, List.length_cons]
    omega
  order_nodup := by
    unfold pushed
    dsimp only
    split
    · exact H.order_nodup
    · next hnew => exact List.nodup_append.mpr ⟨H.order_nodup, List.nodup_singleton _, by
        intro a ha b hb heq
        rw [List.mem_singleton] at hb
        exact hnew (hb ▸ heq ▸ ha)⟩
  order_mem hash h := by
    rw [queue_pushed] at h
    by_cases hhash : hash = repoHash host pending.repoDir
    · unfold pushed
      dsimp only
      rw [← hhash]
      split
      · next hmem => exact hmem
      · exact List.mem_append_right _ (List.mem_singleton_self _)
    · rw [if_neg hhash] at h
      have hmem := H.order_mem hash h
      unfold pushed
      dsimp only
      split
      · exact hmem
      · exact List.mem_append_left _ hmem

theorem setQueue {q : List PendingRun} (H : QueueAgreement host r)
    (h : q.Sublist (r.queue hash)) : QueueAgreement host (r.setQueue hash q) :=
  H.of_shrink_of_get_eq (setQueue_queuesShrink h) fun _ _ _ => rfl

theorem drainNext (H : QueueAgreement host r) (dir : PathBuf) :
    QueueAgreement host (r.drainNextWithoutSnapshot host dir).2 := by
  rcases drainNext_cases host r dir with ⟨-, heq⟩ | ⟨p, rest, -, hq, heq⟩
  · rwa [heq]
  · rw [heq]
    exact H.setQueue (hq ▸ List.sublist_cons_self p rest)

theorem drainAnyReady (H : QueueAgreement host r) :
    QueueAgreement host r.drainAnyReadyWithoutSnapshot.2 := by
  rcases drainAnyReady_cases r with ⟨-, heq⟩ | ⟨hash, p, rest, -, hq, heq⟩
  · rwa [heq]
  · rw [heq]
    exact H.setQueue (hq ▸ List.sublist_cons_self p rest)

theorem promoteQueued (H : QueueAgreement host r) (runId : String) (now : DateTime) (io : LockIo)
    (metaIo : Except String Unit) :
    QueueAgreement host (r.promoteQueued host runId now io metaIo).2 := by
  have hpromoted {entry : RunEntry} {locks : Finset String} (hget : r.get runId = some entry) :
      QueueAgreement host
        { r with repoLocks := locks, runs := r.runs.insert runId (entry.promote now) } := by
    refine H.of_shrink (.of_eq rfl rfl) fun hash p hp e he hq => ?_
    by_cases hid : p.runId = runId
    · rw [hid] at he ⊢
      obtain rfl : entry = e := Option.some_injective _ (hget.symm.trans he)
      exact ⟨_, AList.lookup_insert _, hq, rfl⟩
    · exact ⟨e, (AList.lookup_insert_ne hid).trans he, hq, rfl⟩
  rcases promoteQueued_cases host r runId now io metaIo with
    ⟨entry, hget, -, -, heq⟩ | ⟨-, e, heq | ⟨entry, hget, heq⟩⟩
  · rw [heq]
    exact hpromoted hget
  · rwa [heq]
  · rw [heq]
    exact hpromoted hget

/-- Stopping a run that is in no queue. -/
theorem tryStage {status : RunStatus} {phase error : Option String} {now : DateTime}
    (H : QueueAgreement host r) (hnot : r.isInPendingQueue runId = false) :
    QueueAgreement host (r.tryStage host runId status phase error now) := by
  refine H.of_shrink_of_get_eq tryStage_queuesShrink fun hash p hp => ?_
  refine get_tryStage_of_ne fun hid => ?_
  have hp' : p ∈ r.queue hash := by
    rwa [RunRegistry.queue, tryStage_pendingQueues] at hp
  rw [isInPendingQueue_iff.mpr ⟨hash, p, hp', hid⟩] at hnot
  cases hnot

theorem dequeueRun (H : QueueAgreement host r) (runId : String) (now : DateTime) :
    QueueAgreement host (r.dequeueRunStaged host runId now).2 := by
  rcases dequeueRunStaged_cases host r runId now with
    ⟨-, heq⟩ | ⟨hash, epoch, ⟨p, hp, hid⟩, -, heq⟩
  · rwa [heq]
  · rw [heq]
    obtain ⟨p', l₁, l₂, -, hp'id, hsplit, herase⟩ :=
      List.exists_of_eraseP (p := fun p : PendingRun => decide (p.runId = runId)) hp (by simpa)
    have hperm : (r.queue hash).Perm ([p'] ++ (r.queue hash).eraseP (·.runId = runId)) := by
      rw [herase, hsplit]
      exact List.perm_middle
    have hstay {p : PendingRun} {h : String}
        (hp : p ∈ (r.setQueue hash ((r.queue hash).eraseP (·.runId = runId))).queue h) :
        p.runId ≠ runId := by
      have hne := H.runId_ne_of_mem hperm (List.mem_singleton_self _)
        (mem_pendingEntries.mpr ⟨h, hp⟩)
      rwa [of_decide_eq_true hp'id] at hne
    refine H.of_shrink_of_get_eq (heq ▸ dequeueRunStaged_queuesShrink) fun h p hp => ?_
    have hp' : p ∈ (r.setQueue hash ((r.queue hash).eraseP (·.runId = runId))).queue h := by
      simpa [RunRegistry.queue] using hp
    exact get_tryStage_of_ne (hstay hp')

theorem removeQueued (H : QueueAgreement host r) (pfx : String) (now : DateTime) :
    QueueAgreement host (r.removeQueued host pfx now).2 := by
  rcases removeQueued_cases host r pfx now with ⟨-, heq⟩ | ⟨fullId, hash, epoch, -, heq⟩
  · rwa [heq]
  · rw [heq]
    refine H.of_shrink_of_get_eq (heq ▸ removeQueued_queuesShrink) fun h p hp => ?_
    change p ∈ (RunRegistry.removePendingWithoutSnapshot _ fullId).queue h at hp
    rw [queue_removePending, List.mem_filter] at hp
    exact get_tryStage_of_ne (by simpa using hp.2)

theorem clearQueue (H : QueueAgreement host r) (repoFilter : Option PathBuf) (now : DateTime) :
    QueueAgreement host (r.clearQueueStaged host repoFilter now).2 := by
  obtain ⟨epoch, heq⟩ := clearQueueStaged_snd host r repoFilter now
  rw [heq]
  refine H.of_shrink_of_get_eq (heq ▸ clearQueueStaged_queuesShrink) fun hash p hp => ?_
  refine get_stopAll_of_notMem fun hmem => ?_
  have hp' : p ∈ (r.cleared host repoFilter).queue hash := by
    simpa [RunRegistry.queue] using hp
  rw [queue_cleared, List.mem_filter] at hp'
  obtain ⟨p₂, hp₂, hid⟩ := List.mem_map.mp hmem
  rw [List.mem_filter] at hp₂
  -- the run that was cleared and the one that stays would be one
  have heq := H.eq_of_runId_eq hp₂.1 (mem_pendingEntries.mpr ⟨hash, hp'.1⟩) hid
  rw [heq] at hp₂
  simp [hp₂.2] at hp'

theorem recordFailure (H : QueueAgreement host r) (dir : PathBuf) (now : DateTime) :
    QueueAgreement host (r.recordQueueFailureWithoutSnapshot host dir now).2 := by
  refine H.of_shrink_of_get_eq recordQueueFailure_queuesShrink fun hash p hp => ?_
  rw [recordQueueFailure_snd] at hp ⊢
  split at hp
  · next htrips =>
    rw [if_pos htrips]
    have hp' : p ∈ (r.emptied (repoHash host dir)).queue hash := by
      simpa [RunRegistry.queue] using hp
    refine get_stopAll_of_notMem fun hmem => ?_
    obtain ⟨p₂, hp₂, hid⟩ := List.mem_map.mp hmem
    rw [queue_emptied] at hp'
    split at hp'
    · cases hp'
    · next hne =>
      have heq := H.eq_of_runId_eq (mem_pendingEntries.mpr ⟨_, hp₂⟩)
        (mem_pendingEntries.mpr ⟨hash, hp'⟩) hid
      subst heq
      obtain ⟨e, he, -, hhash⟩ := H.entry _ _ hp'
      obtain ⟨e₂, he₂, -, hhash₂⟩ := H.entry _ _ hp₂
      rw [he, Option.some.injEq] at he₂
      exact hne (by rw [← hhash, ← hhash₂, he₂])
  · next htrips =>
    rw [if_neg htrips]
    rfl

theorem recordSuccess (H : QueueAgreement host r) (dir : PathBuf) :
    QueueAgreement host (r.recordQueueSuccessWithoutSnapshot host dir) :=
  H.of_shrink_of_get_eq (.of_eq rfl rfl) fun _ _ _ => rfl

end QueueAgreement

/-! ## Sequences of operations -/

/-- The registry, and the runs whose `StopRun` request found them not pending and has yet to stop
them. -/
structure QueueState where
  registry : RunRegistry
  stopping : List String

inductive QueueOp where
  /-- The id of the run is what `generate_id` returned. -/
  | enqueue (pending : PendingRun)
  | drainNext (repoDir : PathBuf)
  | drainAnyReady
  | promoteQueued (runId : String) (now : DateTime) (io : LockIo) (metaIo : Except String Unit)
  | removeQueued (pfx : String) (now : DateTime)
  /-- The first locked section of `StopRun`: the run is dequeued if it is pending. -/
  | stopDequeue (runId : String) (now : DateTime)
  /-- The last locked section of `StopRun`, in `stop_run`. -/
  | stopUpdate (runId : String) (now : DateTime)
  | clearQueue (repoFilter : Option PathBuf) (now : DateTime)
  | recordFailure (repoDir : PathBuf) (now : DateTime)
  | recordSuccess (repoDir : PathBuf)

def QueueState.init : QueueState := ⟨.new, []⟩

def queueStep (host : Host) (s : QueueState) : QueueOp → Option QueueState
  | .enqueue pending =>
    -- `generate_id` returns an id that is not in use
    if (s.registry.get pending.runId).isSome then none
    else
      match s.registry.enqueueRunWithoutSnapshot host pending with
      | .ok (_, _, r) => some { s with registry := r }
      | .error _ => some s
  | .drainNext dir => some { s with registry := (s.registry.drainNextWithoutSnapshot host dir).2 }
  | .drainAnyReady => some { s with registry := s.registry.drainAnyReadyWithoutSnapshot.2 }
  | .promoteQueued runId now io metaIo =>
    some { s with registry := (s.registry.promoteQueued host runId now io metaIo).2 }
  | .removeQueued pfx now => some { s with registry := (s.registry.removeQueued host pfx now).2 }
  | .stopDequeue runId now =>
    match s.registry.get runId with
    | none => none
    | some entry =>
      if entry.status = .queued then
        match s.registry.dequeueRunStaged host runId now with
        | (some _, r) => some { s with registry := r }
        | (none, r) => some ⟨r, runId :: s.stopping⟩
      else some { s with stopping := runId :: s.stopping }
  | .stopUpdate runId now =>
    if runId ∈ s.stopping then
      some ⟨s.registry.tryStage host runId .stopped none (some "stopped (no tmux session)") now,
        s.stopping.erase runId⟩
    else none
  | .clearQueue repoFilter now =>
    some { s with registry := (s.registry.clearQueueStaged host repoFilter now).2 }
  | .recordFailure dir now =>
    some { s with registry := (s.registry.recordQueueFailureWithoutSnapshot host dir now).2 }
  | .recordSuccess dir =>
    some { s with registry := s.registry.recordQueueSuccessWithoutSnapshot host dir }

section
variable {host : Host} {s s' : QueueState} {op : QueueOp} {runId : String}

open RunRegistry

theorem stopDequeue_registry {now : DateTime}
    (h : queueStep host s (.stopDequeue runId now) = some s') :
    s'.registry = s.registry ∨ s'.registry = (s.registry.dequeueRunStaged host runId now).2 := by
  simp only [queueStep] at h
  split at h
  · cases h
  · split at h
    · split at h
      · next heq => cases h; exact .inr (by rw [heq])
      · next heq => cases h; exact .inr (by rw [heq])
    · cases h
      exact .inl rfl

/-- An enqueue adds the run, or is refused and changes nothing. -/
theorem queueStep_enqueue {pending : PendingRun}
    (h : queueStep host s (.enqueue pending) = some s') :
    s.registry.get pending.runId = none ∧
      ((∃ e, s.registry.enqueueRunWithoutSnapshot host pending = .error e ∧ s' = s) ∨
        (s.registry.totalPendingCount < MAX_QUEUE_SIZE ∧
          (∃ res, s.registry.enqueueRunWithoutSnapshot host pending = .ok res) ∧
          s' = { s with registry := s.registry.pushed host pending })) := by
  simp only [queueStep] at h
  split at h
  · cases h
  · next hfresh =>
    rw [Option.not_isSome_iff_eq_none] at hfresh
    refine ⟨hfresh, ?_⟩
    rcases enqueueRun_cases host s.registry pending with ⟨e, heq⟩ | ⟨hroom, -, heq⟩
    · rw [heq, Option.some.injEq] at h
      exact .inl ⟨e, heq, h.symm⟩
    · rw [heq, Option.some.injEq] at h
      exact .inr ⟨hroom, ⟨_, heq⟩, h.symm⟩

/-- Every operation other than an enqueue only removes runs from the queues. -/
theorem queueStep_queuesShrink (hop : ∀ pending, op ≠ .enqueue pending)
    (h : queueStep host s op = some s') : QueuesShrink s.registry s'.registry := by
  cases op with
  | enqueue pending => exact absurd rfl (hop pending)
  | drainNext dir => cases h; exact drainNext_queuesShrink
  | drainAnyReady => cases h; exact drainAnyReady_queuesShrink
  | promoteQueued => cases h; exact promoteQueued_queuesShrink
  | removeQueued => cases h; exact removeQueued_queuesShrink
  | clearQueue => cases h; exact clearQueueStaged_queuesShrink
  | recordFailure => cases h; exact recordQueueFailure_queuesShrink
  | recordSuccess => cases h; exact .of_eq rfl rfl
  | stopDequeue runId now =>
    rcases stopDequeue_registry h with heq | heq
    · exact heq ▸ .refl _
    · exact heq ▸ dequeueRunStaged_queuesShrink
  | stopUpdate runId now =>
    simp only [queueStep] at h
    split at h
    · cases h
      exact tryStage_queuesShrink
    · cases h

/-- No operation forgets a run. -/
theorem queueStep_isSome (h : queueStep host s op = some s')
    (hsome : (s.registry.get runId).isSome = true) : (s'.registry.get runId).isSome = true := by
  cases op with
  | enqueue pending =>
    obtain ⟨-, ⟨-, -, rfl⟩ | ⟨-, -, rfl⟩⟩ := queueStep_enqueue h
    · exact hsome
    · change (AList.lookup runId (s.registry.runs.insert _ _)).isSome = true
      rw [AList.lookup_insert_eq_ite]
      split
      · rfl
      · exact hsome
  | drainNext dir => cases h; exact drainNext_runsEvolve.isSome hsome
  | drainAnyReady => cases h; exact drainAnyReady_runsEvolve.isSome hsome
  | promoteQueued => cases h; exact promoteQueued_runsEvolve.isSome hsome
  | removeQueued => cases h; exact removeQueued_runsEvolve.isSome hsome
  | clearQueue => cases h; exact clearQueueStaged_runsEvolve.isSome hsome
  | recordFailure => cases h; exact recordQueueFailure_runsEvolve.isSome hsome
  | recordSuccess => cases h; exact hsome
  | stopDequeue runId now =>
    rcases stopDequeue_registry h with heq | heq
    · rwa [heq]
    · rw [heq]
      exact dequeueRunStaged_runsEvolve.isSome hsome
  | stopUpdate runId now =>
    simp only [queueStep] at h
    split at h
    · cases h
      exact tryStage_runsEvolve.isSome hsome
    · cases h

end

/-- The invariant: the agreement, and the runs about to be stopped are known and not pending. -/
structure QueueInv (host : Host) (s : QueueState) : Prop where
  agreement : QueueAgreement host s.registry
  stopping : ∀ runId ∈ s.stopping,
    (s.registry.get runId).isSome = true ∧ s.registry.isInPendingQueue runId = false

namespace QueueInv

open RunRegistry

variable {host : Host} {s s' : QueueState} {op : QueueOp} {runId : String}

theorem enqueue {pending : PendingRun} (H : QueueInv host s)
    (h : queueStep host s (.enqueue pending) = some s') : QueueInv host s' := by
  obtain ⟨hfresh, ⟨-, -, rfl⟩ | ⟨hroom, -, rfl⟩⟩ := queueStep_enqueue h
  · exact H
  · refine ⟨H.agreement.enqueueRun hfresh hroom, fun id hid => ?_⟩
    obtain ⟨hsome, hnot⟩ := H.stopping id hid
    refine ⟨queueStep_isSome h hsome, Bool.eq_false_iff.mpr fun hpend => ?_⟩
    obtain ⟨hash, p, hp, hpid⟩ := isInPendingQueue_iff.mp hpend
    have hp' : p ∈ s.registry.queue hash := by
      rw [queue_pushed] at hp
      split at hp
      · refine (List.mem_append.mp hp).resolve_right fun hlast => ?_
        -- the new run is not one that is about to be stopped
        rw [← hpid, List.mem_singleton.mp hlast, hfresh] at hsome
        cases hsome
      · exact hp
    rw [isInPendingQueue_iff.mpr ⟨hash, p, hp', hpid⟩] at hnot
    cases hnot

/-- A run that is not pending stays so while queues only shrink. -/
theorem of_shrink (H : QueueInv host s) (hop : ∀ pending, op ≠ .enqueue pending)
    (h : queueStep host s op = some s') (hsub : s'.stopping ⊆ s.stopping)
    (hagree : QueueAgreement host s'.registry) : QueueInv host s' where
  agreement := hagree
  stopping id hid := by
    obtain ⟨hsome, hnot⟩ := H.stopping id (hsub hid)
    refine ⟨queueStep_isSome h hsome, Bool.eq_false_iff.mpr fun hpend => ?_⟩
    obtain ⟨hash, p, hp, hpid⟩ := isInPendingQueue_iff.mp hpend
    have hp' := ((queueStep_queuesShrink hop h).queue hash).subset hp
    rw [isInPendingQueue_iff.mpr ⟨hash, p, hp', hpid⟩] at hnot
    cases hnot

theorem stopDequeue {now : DateTime} (H : QueueInv host s)
    (h : queueStep host s (.stopDequeue runId now) = some s') : QueueInv host s' := by
  have hdequeued := H.agreement.dequeueRun runId now
  have hshrink := H.of_shrink  (by simp) h
  simp only [queueStep] at h
  split at h
  · cases h
  next entry hget =>
  split at h
  · rcases dequeueRunStaged_cases host s.registry runId now with ⟨hnot, heq⟩ | ⟨_, _, -, hsome, -⟩
    · rw [heq, Option.some.injEq] at h
      subst h
      exact ⟨H.agreement, List.forall_mem_cons.mpr ⟨⟨by rw [hget]; rfl, hnot⟩, H.stopping⟩⟩
    · split at h
      · next res r heq =>
        cases h
        exact hshrink (List.Subset.refl _) (by rwa [heq] at hdequeued)
      · next r heq =>
        -- a known run that is pending is dequeued
        rw [heq, hget] at hsome
        cases hsome rfl
  · -- a run that is not Queued is not pending
    next hq =>
    cases h
    refine ⟨H.agreement, List.forall_mem_cons.mpr ⟨⟨by rw [hget]; rfl, ?_⟩, H.stopping⟩⟩
    refine Bool.eq_false_iff.mpr fun hpend => hq ?_
    obtain ⟨hash, p, hp, rfl⟩ := isInPendingQueue_iff.mp hpend
    obtain ⟨e, he, hst, -⟩ := H.agreement.entry hash p hp
    rw [hget, Option.some.injEq] at he
    rwa [he]

theorem stopUpdate {now : DateTime} (H : QueueInv host s)
    (h : queueStep host s (.stopUpdate runId now) = some s') : QueueInv host s' := by
  have hshrink := H.of_shrink  (by simp) h
  simp only [queueStep] at h
  split at h
  · next hmem =>
    cases h
    exact hshrink List.erase_subset (H.agreement.tryStage (H.stopping runId hmem).2)
  · cases h

theorem step (H : QueueInv host s) (h : queueStep host s op = some s') : QueueInv host s' := by
  cases op with
  | enqueue pending => exact H.enqueue h
  | stopDequeue runId now => exact H.stopDequeue h
  | stopUpdate runId now => exact H.stopUpdate h
  | drainNext dir =>
    refine H.of_shrink (by simp) h ?_ ?_ <;> cases h
    · exact List.Subset.refl _
    · exact H.agreement.drainNext dir
  | drainAnyReady =>
    refine H.of_shrink (by simp) h ?_ ?_ <;> cases h
    · exact List.Subset.refl _
    · exact H.agreement.drainAnyReady
  | promoteQueued runId now io metaIo =>
    refine H.of_shrink (by simp) h ?_ ?_ <;> cases h
    · exact List.Subset.refl _
    · exact H.agreement.promoteQueued runId now io metaIo
  | removeQueued pfx now =>
    refine H.of_shrink (by simp) h ?_ ?_ <;> cases h
    · exact List.Subset.refl _
    · exact H.agreement.removeQueued pfx now
  | clearQueue repoFilter now =>
    refine H.of_shrink (by simp) h ?_ ?_ <;> cases h
    · exact List.Subset.refl _
    · exact H.agreement.clearQueue repoFilter now
  | recordFailure dir now =>
    refine H.of_shrink (by simp) h ?_ ?_ <;> cases h
    · exact List.Subset.refl _
    · exact H.agreement.recordFailure dir now
  | recordSuccess dir =>
    refine H.of_shrink (by simp) h ?_ ?_ <;> cases h
    · exact List.Subset.refl _
    · exact H.agreement.recordSuccess dir

end QueueInv

end GreaterWill
