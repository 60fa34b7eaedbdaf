import GreaterWill.Daemon.Ops
import GreaterWill.Daemon.QueueAgreement

/-!
# Clearing the queue

`clear_queue_staged` removes the pending runs that `list_queue` shows under the same filter and
stops each of them. To stop a run releases the lock of its repo, whoever holds it: clearing the
queue of a repo takes the lock from the run that is Running there.
-/

namespace GreaterWill

/-- A run of `list_queue`. -/
structure QueuedRunInfo where
  runId : String
  planPath : PathBuf
  repoDir : PathBuf
  position : Nat
  queuedAt : String
  sessionName : Option String
  deriving DecidableEq, Repr

/-- A pending run at a position of the list; `rfc3339` writes a time. -/
def QueuedRunInfo.of (rfc3339 : DateTime → String) (position : Nat) (p : PendingRun) :
    QueuedRunInfo where
  runId := p.runId
  planPath := p.planPath
  repoDir := p.repoDir
  position := position
  queuedAt := rfc3339 p.queuedAt
  sessionName := p.sessionName

namespace RunRegistry

section
variable (host : Host) (rfc3339 : DateTime → String) (r : RunRegistry)
  (repoFilter : Option PathBuf) (now : DateTime)

/-- `list_queue` passes over a run of another repo. -/
def passesOver (p : PendingRun) : Bool :=
  match repoFilter with
  | none => false
  | some dir =>
    !PathBuf.eqPath p.repoDir dir && !PathBuf.eqPath p.repoDir ((host.canonicalize dir).getD dir)

/-- The loop of `list_queue` from a position on. -/
def listFrom : Nat → List PendingRun → List QueuedRunInfo
  | _, [] => []
  | position, p :: rest =>
    if passesOver host repoFilter p then listFrom (position + 1) rest
    else .of rfc3339 position p :: listFrom (position + 1) rest

/-- `list_queue`: a position counts the runs of all queues. -/
def listQueue : List QueuedRunInfo := listFrom host rfc3339 repoFilter 1 r.pendingEntries

/-- The runs that `clear_queue_staged` removes. -/
def clearedRuns : List PendingRun := r.pendingEntries.filter (clears host repoFilter)

/-- The lock of a repo is held while an entry of the repo is Running. -/
def RunningLock (hash : String) : Prop :=
  hash ∈ r.repoLocks ∧ ∃ id e, r.get id = some e ∧ e.status = .running ∧
    repoHash host e.repoDir = hash

/-- What `clear_queue_staged` is to do. -/
structure ClearExact : Prop where
  shown : (r.listQueue host rfc3339 repoFilter).map ({ · with position := 0 }) =
    (r.clearedRuns host repoFilter).map (.of rfc3339 0)
  removed : r.pendingEntries.Perm
    (r.clearedRuns host repoFilter ++ (r.clearQueueStaged host repoFilter now).2.pendingEntries)
  kept : ∀ hash, (r.clearQueueStaged host repoFilter now).2.queue hash =
    (r.queue hash).filter (· ∉ r.clearedRuns host repoFilter)
  count : (r.clearQueueStaged host repoFilter now).1.1 = (r.clearedRuns host repoFilter).length
  staged : (r.clearQueueStaged host repoFilter now).1.2.1 =
    (r.clearedRuns host repoFilter).filterMap fun p =>
      (r.get p.runId).map (stopStaged "cleared by user" now)
  stopped : ∀ p ∈ r.clearedRuns host repoFilter, ∃ e, r.get p.runId = some e ∧
    (r.clearQueueStaged host repoFilter now).2.get p.runId =
      some (e.stage .stopped none (some "cleared by user") now)
  others : ∀ id, (∀ p ∈ r.clearedRuns host repoFilter, p.runId ≠ id) →
    (r.clearQueueStaged host repoFilter now).2.get id = r.get id
  locks : ∀ hash, r.RunningLock host hash →
    hash ∈ (r.clearQueueStaged host repoFilter now).2.repoLocks

/-- The runs to be removed have entries and different ids, and no Running run holds the lock of the
repo of one of them. -/
structure ClearsFreely : Prop where
  different : ((r.clearedRuns host repoFilter).map (·.runId)).Nodup
  entry : ∀ p ∈ r.clearedRuns host repoFilter, (r.get p.runId).isSome = true
  free : ∀ p ∈ r.clearedRuns host repoFilter, ∀ e, r.get p.runId = some e →
    ¬ r.RunningLock host (repoHash host e.repoDir)

end

variable {host : Host} {rfc3339 : DateTime → String} {r : RunRegistry}
  {repoFilter : Option PathBuf} {now : DateTime} {hash : String} {p : PendingRun}

/-! ## What is removed -/

/-- The two filters agree. -/
theorem passesOver_eq : passesOver host repoFilter p = !clears host repoFilter p := by
  cases repoFilter with
  | none => rfl
  | some dir => rw [passesOver, clears, Bool.not_or, Bool.and_comm]

theorem map_listFrom {position : Nat} {l : List PendingRun} :
    (listFrom host rfc3339 repoFilter position l).map ({ · with position := 0 }) =
      (l.filter (clears host repoFilter)).map (.of rfc3339 0) := by
  induction l generalizing position with
  | nil => rfl
  | cons p rest ih =>
    rw [listFrom, passesOver_eq]
    cases h : clears host repoFilter p with
    | false =>
      rw [Bool.not_false, if_pos rfl, ih, List.filter_cons_of_neg (by simp [h])]
    | true =>
      rw [Bool.not_true, if_neg Bool.false_ne_true, List.map_cons, ih,
        List.filter_cons_of_pos h, List.map_cons]
      rfl

theorem mem_clearedRuns :
    p ∈ r.clearedRuns host repoFilter ↔ p ∈ r.pendingEntries ∧ clears host repoFilter p = true :=
  List.mem_filter

theorem pendingEntries_clearQueueStaged :
    (r.clearQueueStaged host repoFilter now).2.pendingEntries =
      r.pendingEntries.filter (!clears host repoFilter ·) := by
  obtain ⟨epoch, heq⟩ := clearQueueStaged_snd host r repoFilter now
  rw [heq]
  change (stopAll ..).pendingEntries = _
  rw [pendingEntries, stopAll_pendingQueues]
  exact AList.elems_mapVals_filter _ _

theorem queue_clearQueueStaged : (r.clearQueueStaged host repoFilter now).2.queue hash =
    (r.queue hash).filter (· ∉ r.clearedRuns host repoFilter) := by
  obtain ⟨epoch, heq⟩ := clearQueueStaged_snd host r repoFilter now
  rw [heq]
  change (stopAll ..).queue hash = _
  rw [queue, stopAll_pendingQueues, ← queue, queue_cleared]
  refine List.filter_congr fun p hp => ?_
  have hpending : p ∈ r.pendingEntries := mem_pendingEntries.mpr ⟨hash, hp⟩
  simp only [mem_clearedRuns, hpending, true_and]
  cases clears host repoFilter p <;> rfl

/-! ## What is stopped -/

theorem clearQueueStaged_fst : (r.clearQueueStaged host repoFilter now).1.2.1 =
    (stageStopped host "cleared by user" now (r.cleared host repoFilter)
      (r.clearedIds host repoFilter)).1 := rfl

theorem get_clearQueueStaged {id : String} : (r.clearQueueStaged host repoFilter now).2.get id =
    (stopAll host "cleared by user" now (r.cleared host repoFilter)
      (r.clearedIds host repoFilter)).get id := by
  obtain ⟨epoch, heq⟩ := clearQueueStaged_snd host r repoFilter now
  rw [heq]
  rfl

theorem repoLocks_clearQueueStaged : (r.clearQueueStaged host repoFilter now).2.repoLocks =
    (stopAll host "cleared by user" now (r.cleared host repoFilter)
      (r.clearedIds host repoFilter)).repoLocks := by
  obtain ⟨epoch, heq⟩ := clearQueueStaged_snd host r repoFilter now
  rw [heq]

section
variable {reason : String} {runIds : List String} {id : String} {e : RunEntry}

/-- An entry is staged as often as its run is stopped. -/
theorem writeEpoch_stopAll (he : r.get id = some e) :
    ∃ e', (stopAll host reason now r runIds).get id = some e' ∧
      e'.writeEpoch = e.writeEpoch + runIds.count id := by
  induction runIds generalizing r e with
  | nil => exact ⟨e, he, rfl⟩
  | cons runId runIds ih =>
    rw [stopAll_cons]
    by_cases hid : runId = id
    · subst hid
      have hstaged : (r.tryStage host runId .stopped none (some reason) now).get runId =
          some (e.stage .stopped none (some reason) now) := get_tryStage_of_isTerminal rfl he
      obtain ⟨e', he', hepoch⟩ := ih hstaged
      refine ⟨e', he', ?_⟩
      rw [hepoch, RunEntry.stage_writeEpoch, List.count_cons_self]
      omega
    · obtain ⟨e', he', hepoch⟩ := ih ((get_tryStage_of_ne (Ne.symm hid)).trans he)
      exact ⟨e', he', by rw [hepoch, List.count_cons_of_ne hid]⟩

/-- The lock of the repo of a stopped run is released. -/
theorem notMem_repoLocks_stopAll (hid : id ∈ runIds) (he : r.get id = some e) :
    repoHash host e.repoDir ∉ (stopAll host reason now r runIds).repoLocks := by
  induction runIds generalizing r e with
  | nil => cases hid
  | cons runId runIds ih =>
    rw [stopAll_cons]
    by_cases hfirst : id = runId
    · subst hfirst
      exact fun hmem => notMem_repoLocks_tryStage he rfl (stopAll_repoLocks_subset hmem)
    · have hrest := (List.mem_cons.mp hid).resolve_left hfirst
      exact ih hrest ((get_tryStage_of_ne hfirst).trans he)

end

theorem mem_clearedIds {id : String} : id ∈ r.clearedIds host repoFilter ↔
    ∃ p ∈ r.clearedRuns host repoFilter, p.runId = id :=
  List.mem_map

/-- Clearing the queue is exact if and only if the removed runs do not share the lock of a Running
run, and are known by different ids. -/
theorem clear_exact_iff (host : Host) (rfc3339 : DateTime → String) (r : RunRegistry)
    (repoFilter : Option PathBuf) (now : DateTime) :
    r.ClearExact host rfc3339 repoFilter now ↔ r.ClearsFreely host repoFilter := by
  constructor
  · intro H
    refine ⟨?_, fun p hp => ?_, fun p hp e he hrunning => ?_⟩
    · rw [List.nodup_iff_count_le_one]
      intro id
      by_cases hid : id ∈ (r.clearedRuns host repoFilter).map (·.runId)
      · obtain ⟨p, hp, rfl⟩ := List.mem_map.mp hid
        obtain ⟨e, he, hstopped⟩ := H.stopped p hp
        have hcleared : (r.cleared host repoFilter).get p.runId = some e := he
        obtain ⟨e', he', hepoch⟩ := writeEpoch_stopAll hcleared
        rw [get_clearQueueStaged, he', Option.some.injEq] at hstopped
        rw [hstopped, RunEntry.stage_writeEpoch] at hepoch
        exact Nat.le_of_eq (Nat.add_left_cancel hepoch).symm
      · rw [List.count_eq_zero.mpr hid]
        exact Nat.zero_le 1
    · obtain ⟨e, he, -⟩ := H.stopped p hp
      rw [he, Option.isSome_some]
    · have hkept := H.locks _ hrunning
      have hcleared : (r.cleared host repoFilter).get p.runId = some e := he
      rw [repoLocks_clearQueueStaged] at hkept
      exact notMem_repoLocks_stopAll (mem_clearedIds.mpr ⟨p, hp, rfl⟩) hcleared hkept
  · intro H
    refine ⟨map_listFrom, ?_, fun hash => queue_clearQueueStaged, ?_, ?_, fun p hp => ?_,
      fun id hid => ?_, fun hash hrunning => ?_⟩
    · rw [pendingEntries_clearQueueStaged]
      exact (List.filter_append_perm _ _).symm
    · exact List.length_map _
    · have hdifferent : (r.clearedIds host repoFilter).Nodup := H.different
      rw [clearQueueStaged_fst, stageStopped_fst hdifferent, clearedIds, List.filterMap_map]
      rfl
    · obtain ⟨e, he⟩ := Option.isSome_iff_exists.mp (H.entry p hp)
      rw [get_clearQueueStaged]
      exact ⟨e, he, get_stopAll_of_mem H.different (mem_clearedIds.mpr ⟨p, hp, rfl⟩) he⟩
    · rw [get_clearQueueStaged, get_stopAll_of_notMem]
      · rfl
      · intro hmem
        obtain ⟨p, hp, heq⟩ := mem_clearedIds.mp hmem
        exact hid p hp heq
    · rw [repoLocks_clearQueueStaged]
      refine mem_repoLocks_stopAll hrunning.1 fun id hmem e he heq => ?_
      obtain ⟨p, hp, rfl⟩ := mem_clearedIds.mp hmem
      exact H.free p hp e he (heq ▸ hrunning)

/-- Where queues and entries agree, no queue is to be cleared whose repo's lock a Running run
holds. -/
theorem clearsFreely_iff (H : QueueAgreement host r) : r.ClearsFreely host repoFilter ↔
    ∀ hash, r.RunningLock host hash → ∀ p ∈ r.queue hash, clears host repoFilter p = false := by
  constructor
  · intro hfree hash hrunning p hp
    obtain ⟨e, he, -, hrepo⟩ := H.entry hash p hp
    by_contra hclears
    rw [Bool.not_eq_false] at hclears
    have hcleared := mem_clearedRuns.mpr ⟨mem_pendingEntries.mpr ⟨hash, hp⟩, hclears⟩
    exact hfree.free p hcleared e he (hrepo ▸ hrunning)
  · intro hfree
    refine ⟨H.nodup.sublist (List.filter_sublist.map _), fun p hp => ?_, fun p hp e he hlock => ?_⟩
    · obtain ⟨hash, hq⟩ := mem_pendingEntries.mp (mem_clearedRuns.mp hp).1
      obtain ⟨e, he, -⟩ := H.entry hash p hq
      rw [he, Option.isSome_some]
    · obtain ⟨hpending, hclears⟩ := mem_clearedRuns.mp hp
      obtain ⟨hash, hq⟩ := mem_pendingEntries.mp hpending
      obtain ⟨e', he', -, hrepo⟩ := H.entry hash p hq
      obtain rfl : e = e' := Option.some_injective _ (he.symm.trans he')
      rw [hrepo] at hlock
      rw [hfree hash hlock p hq] at hclears
      cases hclears

/-- Run a of a repo is Running and run b is queued behind it: to clear the queue takes the lock of
the repo from a. -/
theorem clear_frees_running_lock :
    ¬ ∀ (ops : List Op) (r : RunRegistry), exec (opStep .plain) .new ops = some r →
      ∀ (repoFilter : Option PathBuf) (now : DateTime) (hash : String), r.RunningLock .plain hash →
        hash ∈ (r.clearQueueStaged .plain repoFilter now).2.repoLocks := by
  intro hclaim
  obtain ⟨r, hrun, hlock, hrunning, hfreed⟩ :=
    exists_of_any (o := exec (opStep .plain) .new
        [.registerRun "one.md" "/repo" none none "a" 0 .acquired (.ok ()),
          .stageStatus "a" .running none none 1, .enqueueRun (.plain "b" "two.md" "/repo")])
      (P := fun r => "/repo" ∈ r.repoLocks ∧
        (r.get "a").any (fun e => e.status = .running ∧ e.repoDir = "/repo") = true ∧
        "/repo" ∉ (r.clearQueueStaged .plain none 2).2.repoLocks) (by decide +kernel)
  obtain ⟨e, he, hstatus⟩ := (Option.any_eq_true _ _).mp hrunning
  simp only [decide_eq_true_eq] at hstatus
  exact hfreed (hclaim _ r hrun none 2 "/repo" ⟨hlock, "a", e, he, hstatus.1, hstatus.2⟩)

end RunRegistry
end GreaterWill
