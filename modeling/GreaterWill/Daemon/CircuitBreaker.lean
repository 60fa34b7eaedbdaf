import GreaterWill.Lib.Strikes
import GreaterWill.Daemon.Admission
import GreaterWill.Daemon.Fifo

/-!
# The circuit breaker of the queues

`record_queue_failure_without_snapshot` trips the breaker of a repo and arms it again in one step:
the third failure since the repo's last success or trip stops the runs of its queue and forgets the
failures. So the counter of a repo is the number of strikes against it (`strikes`), also after a
restart of the daemon, and never is at the threshold at which the drains would be blocked.
-/

namespace GreaterWill

/-- The registry with what was recorded of spawns. -/
structure BreakerState where
  registry : RunRegistry
  /-- The failures and successes by repo hash, the latest first. -/
  records : List (StrikeEvent String)
  /-- The queues that were staged, with the records of that time. -/
  staged : List (QueueSnapshotWire × List (StrikeEvent String))

inductive BreakerOp where
  | failure (repoDir : PathBuf) (now : DateTime)
  | success (repoDir : PathBuf)
  /-- The id of the run is what `generate_id` returned. -/
  | enqueue (pending : PendingRun)
  | drainNext (repoDir : PathBuf)
  | drainAnyReady
  | stageQueue
  /-- The daemon restarts from queues it has staged, which its hash map lists in any order. -/
  | restart (k : Nat) (wire : QueueSnapshotWire)

namespace BreakerOp

/-- The repos whose queue, counter and entries the operation is about. -/
def Touches (host : Host) (r : RunRegistry) : BreakerOp → String → Prop
  | .failure dir _ | .success dir | .drainNext dir => fun hash => hash = repoHash host dir
  | .enqueue p => fun hash => hash = repoHash host p.repoDir
  | .drainAnyReady => fun hash => r.firstReady = some hash
  | .stageQueue => fun _ => False
  | .restart .. => fun _ => True

end BreakerOp

def BreakerState.init : BreakerState := ⟨.new, [], []⟩

def breakerStep (host : Host) (s : BreakerState) : BreakerOp → Option BreakerState
  | .failure dir now =>
    some { s with
      registry := (s.registry.recordQueueFailureWithoutSnapshot host dir now).2
      records := .strike (repoHash host dir) :: s.records }
  | .success dir =>
    some { s with
      registry := s.registry.recordQueueSuccessWithoutSnapshot host dir
      records := .clear (repoHash host dir) :: s.records }
  | .enqueue p =>
    -- `generate_id` returns an id that is not in use
    if (s.registry.get p.runId).isSome then none
    else some { s with registry := s.registry.afterEnqueue host p }
  | .drainNext dir => some { s with registry := (s.registry.drainNextWithoutSnapshot host dir).2 }
  | .drainAnyReady => some { s with registry := s.registry.drainAnyReadyWithoutSnapshot.2 }
  | .stageQueue =>
    let (snap, r) := s.registry.stageQueueLocked
    some { s with registry := r, staged := (snap.wire, s.records) :: s.staged }
  | .restart k wire =>
    match s.staged[k]? with
    | some (staged, records) =>
      if wire.queues.entries.Perm staged.queues.entries ∧
          wire.consecutiveFailures.entries.Perm staged.consecutiveFailures.entries then
        some { s with registry := s.registry.reloaded.restoreQueue wire, records := records }
      else none
    | none => none

namespace RunRegistry

variable {host : Host} {r r' r'' : RunRegistry} {hash : String} {dir : PathBuf} {now : DateTime}
  {p : PendingRun} {q q' : List PendingRun} {wire wire' : QueueSnapshotWire}
  {records : List (StrikeEvent String)}

/-! ## Queues that fit the entries -/

/-- Entries stay and keep their repos. -/
def EntriesKept (r r' : RunRegistry) : Prop :=
  ∀ id e, r.get id = some e → ∃ e', r'.get id = some e' ∧ e'.repoDir = e.repoDir

theorem EntriesKept.of_get_eq (h : ∀ id, r'.get id = r.get id) : EntriesKept r r' :=
  fun id e he => ⟨e, (h id).trans he, rfl⟩

theorem RunsEvolve.entriesKept {ends starts : String → Prop} (h : RunsEvolve ends starts r r') :
    EntriesKept r r' := by
  intro id e he
  obtain ⟨e', he', hev⟩ := h.evolves id e he
  exact ⟨e', he', hev.repoDir_eq⟩

/-- A queue of different runs that have entries of one repo. -/
structure Fits (host : Host) (r : RunRegistry) (hash : String) (q : List PendingRun) : Prop where
  nodup : (q.map (·.runId)).Nodup
  entry : ∀ p ∈ q, ∃ e, r.get p.runId = some e ∧ repoHash host e.repoDir = hash

theorem Fits.mono (h : Fits host r hash q) (hsub : q'.Sublist q) (hkept : EntriesKept r r') :
    Fits host r' hash q' where
  nodup := h.nodup.sublist (hsub.map _)
  entry p hp := by
    obtain ⟨e, he, hrepo⟩ := h.entry p (hsub.subset hp)
    obtain ⟨e', he', hdir⟩ := hkept p.runId e he
    exact ⟨e', he', by rw [hdir, hrepo]⟩

/-- A new run at the end of a queue. -/
theorem Fits.pushed (h : Fits host r (repoHash host p.repoDir) q) (hfresh : r.get p.runId = none) :
    Fits host (r.pushed host p) (repoHash host p.repoDir) (q ++ [p]) where
  nodup := by
    rw [List.map_append, List.nodup_append]
    refine ⟨h.nodup, List.nodup_singleton _, fun id hid id' hid' heq => ?_⟩
    obtain ⟨p', hp', rfl⟩ := List.mem_map.mp hid
    obtain ⟨e, he, -⟩ := h.entry p' hp'
    rw [List.map_singleton, List.mem_singleton] at hid'
    rw [heq, hid', hfresh] at he
    cases he
  entry p' hp' := by
    rw [get_pushed]
    split
    · exact ⟨_, rfl, rfl⟩
    · next hne =>
      rcases List.mem_append.mp hp' with hp' | hp'
      · exact h.entry p' hp'
      · exact absurd (congrArg _ (List.mem_singleton.mp hp')) hne

theorem entriesKept_pushed (hfresh : r.get p.runId = none) : EntriesKept r (r.pushed host p) := by
  intro id e he
  have hne : id ≠ p.runId := by
    rintro rfl
    rw [hfresh] at he
    cases he
  exact ⟨e, by rw [get_pushed, if_neg hne, he], rfl⟩

/-- The content of `queue.json` goes with what was recorded. -/
structure Balanced (host : Host) (r : RunRegistry) (wire : QueueSnapshotWire)
    (records : List (StrikeEvent String)) : Prop where
  count : ∀ hash, (wire.consecutiveFailures.lookup hash).getD 0 =
    strikes MAX_CONSECUTIVE_FAILURES hash records
  fits : ∀ hash, Fits host r hash ((wire.queues.lookup hash).getD [])

theorem Balanced.mono (h : Balanced host r wire records) (hkept : EntriesKept r r') :
    Balanced host r' wire records :=
  ⟨h.count, fun hash => (h.fits hash).mono (.refl _) hkept⟩

theorem Balanced.perm (h : Balanced host r wire records)
    (hqueues : wire'.queues.entries.Perm wire.queues.entries)
    (hcounts : wire'.consecutiveFailures.entries.Perm wire.consecutiveFailures.entries) :
    Balanced host r wire' records where
  count hash := by
    rw [AList.perm_lookup hcounts]
    exact h.count hash
  fits hash := by
    rw [AList.perm_lookup hqueues]
    exact h.fits hash

/-- A restart takes over the queues it restores. -/
theorem queue_reloaded_restoreQueue :
    (r.reloaded.restoreQueue wire).queue hash = (wire.queues.lookup hash).getD [] := by
  change (wire.queues.entries.foldl restoreOne r.reloaded).queue hash = _
  exact queue_foldl_restoreOne wire.queues.nodupKeys

/-! ## What a failure does -/

theorem trips_iff (hcount : r.failures hash = strikes MAX_CONSECUTIVE_FAILURES hash records) :
    r.Trips hash ↔
      strikes MAX_CONSECUTIVE_FAILURES hash records + 1 = MAX_CONSECUTIVE_FAILURES := by
  have hlt : strikes MAX_CONSECUTIVE_FAILURES hash records < MAX_CONSECUTIVE_FAILURES :=
    strikes_lt (by decide)
  rw [Trips, hcount]
  omega

/-- Nothing of a repo changes. -/
structure Undisturbed (host : Host) (hash : String) (r r' : RunRegistry) : Prop where
  queue : r'.queue hash = r.queue hash
  counter : r'.failures hash = r.failures hash
  entries : ∀ id e, repoHash host e.repoDir = hash → (r'.get id = some e ↔ r.get id = some e)

/-- A failure stops the queue of its repo at every third strike, and else only counts. -/
structure FailureExact (host : Host) (r : RunRegistry) (records : List (StrikeEvent String))
    (dir : PathBuf) (now : DateTime) : Prop where
  third : strikes MAX_CONSECUTIVE_FAILURES (repoHash host dir) records + 1 =
      MAX_CONSECUTIVE_FAILURES →
    (r.recordQueueFailureWithoutSnapshot host dir now).2.queue (repoHash host dir) = [] ∧
    (r.recordQueueFailureWithoutSnapshot host dir now).1 =
      (r.queue (repoHash host dir)).filterMap fun p =>
        (r.get p.runId).map (stopStaged "circuit breaker tripped" now)
  earlier : strikes MAX_CONSECUTIVE_FAILURES (repoHash host dir) records + 1 ≠
      MAX_CONSECUTIVE_FAILURES →
    (r.recordQueueFailureWithoutSnapshot host dir now).2.queue (repoHash host dir) =
      r.queue (repoHash host dir) ∧
    (r.recordQueueFailureWithoutSnapshot host dir now).1 = [] ∧
    (r.recordQueueFailureWithoutSnapshot host dir now).2.runs = r.runs
  /-- No run is in the queue twice. -/
  different : ((r.queue (repoHash host dir)).map (·.runId)).Nodup

theorem failureExact (h : Balanced host r r.stageQueueLocked.1.wire records) (dir : PathBuf)
    (now : DateTime) : FailureExact host r records dir now where
  third hthird := by
    have htrips : r.Trips (repoHash host dir) := (trips_iff (h.count _)).mpr hthird
    have hnodup : ((r.queue (repoHash host dir)).map (·.runId)).Nodup := (h.fits _).nodup
    constructor
    · rw [queue_recordQueueFailure, if_pos ⟨rfl, htrips⟩]
    · rw [recordQueueFailure_fst, trippedIds, if_pos htrips, stageStopped_fst hnodup,
        List.filterMap_map]
      rfl
  earlier hearlier := by
    have hnot : ¬ r.Trips (repoHash host dir) := fun htrips =>
      hearlier ((trips_iff (h.count _)).mp htrips)
    refine ⟨?_, ?_, ?_⟩
    · rw [queue_recordQueueFailure, if_neg fun htrips => hnot htrips.2]
    · rw [recordQueueFailure_fst, trippedIds, if_neg hnot]
      rfl
    · rw [recordQueueFailure_snd, if_neg hnot]
  different := (h.fits _).nodup

/-- The runs that a failure stops are runs of its repo. -/
theorem repo_of_mem_trippedIds {id : String} {e : RunEntry}
    (h : Balanced host r r.stageQueueLocked.1.wire records) (hid : id ∈ r.trippedIds host dir)
    (he : r.get id = some e) :
    repoHash host e.repoDir = repoHash host dir := by
  rw [trippedIds] at hid
  split at hid
  · obtain ⟨p, hp, rfl⟩ := List.mem_map.mp hid
    obtain ⟨e', he', hrepo⟩ := (h.fits _).entry p hp
    rw [he, Option.some.injEq] at he'
    rw [he', hrepo]
  · cases hid

theorem get_recordQueueFailure_of_notMem {id : String} (hid : id ∉ r.trippedIds host dir) :
    (r.recordQueueFailureWithoutSnapshot host dir now).2.get id = r.get id := by
  rw [trippedIds] at hid
  rw [recordQueueFailure_snd]
  split
  · next htrips =>
    rw [if_pos htrips] at hid
    exact get_stopAll_of_notMem hid
  · rfl

theorem undisturbed_recordQueueFailure (h : Balanced host r r.stageQueueLocked.1.wire records)
    (hne : hash ≠ repoHash host dir) :
    Undisturbed host hash r (r.recordQueueFailureWithoutSnapshot host dir now).2 where
  queue := by rw [queue_recordQueueFailure, if_neg fun htrips => hne htrips.1]
  counter := by rw [failures_recordQueueFailure, if_neg hne]
  entries id e hrepo := by
    by_cases hid : id ∈ r.trippedIds host dir
    · refine iff_of_false (fun he' => ?_) fun he => ?_
      · obtain ⟨e₀, he₀, hev⟩ := recordQueueFailure_runsEvolve.exists_of_get he'
        have hdir := repo_of_mem_trippedIds h hid he₀
        rw [← hev.repoDir_eq, hrepo] at hdir
        exact hne hdir
      · exact hne (hrepo.symm.trans (repo_of_mem_trippedIds h hid he))
    · rw [get_recordQueueFailure_of_notMem hid]

/-! ## The other operations -/

theorem undisturbed_setQueue {rest : List PendingRun} {hash' : String} (hne : hash ≠ hash') :
    Undisturbed host hash r (r.setQueue hash' rest) where
  queue := by rw [queue_setQueue, if_neg hne]
  counter := rfl
  entries _ _ _ := .rfl

theorem Undisturbed.refl : Undisturbed host hash r r := ⟨rfl, rfl, fun _ _ _ => .rfl⟩

theorem undisturbed_pushed (hfresh : r.get p.runId = none)
    (hne : hash ≠ repoHash host p.repoDir) : Undisturbed host hash r (r.pushed host p) where
  queue := by rw [queue_pushed, if_neg hne]
  counter := rfl
  entries id e hrepo := by
    rw [get_pushed]
    split
    · next hid =>
      rw [hid, hfresh]
      refine iff_of_false (fun he => ?_) nofun
      cases he
      exact hne hrepo.symm
    · rfl

theorem afterEnqueue_cases (host : Host) (r : RunRegistry) (p : PendingRun) :
    r.afterEnqueue host p = r ∨ r.afterEnqueue host p = r.pushed host p := by
  by_cases h : r.Refuses host p
  · exact .inl (afterEnqueue_of_refuses h)
  · exact .inr (afterEnqueue_of_not_refuses h)

end RunRegistry

/-! ## Runs of the breaker -/

open RunRegistry

/-- The queues, the counters and all that was staged go with the records. -/
structure BreakerInv (host : Host) (s : BreakerState) : Prop where
  current : Balanced host s.registry s.registry.stageQueueLocked.1.wire s.records
  staged : ∀ q ∈ s.staged, Balanced host s.registry q.1 q.2

namespace BreakerInv

variable {host : Host} {s s' : BreakerState} {r : RunRegistry} {op : BreakerOp} {hash : String}
  {records : List (StrikeEvent String)}

theorem init : BreakerInv host .init where
  current := ⟨fun _ => rfl, fun _ => ⟨List.nodup_nil, nofun⟩⟩
  staged := nofun

/-- What was staged stays right as long as no entry is lost. -/
theorem next (H : BreakerInv host s) (hkept : EntriesKept s.registry r)
    (hcount : ∀ hash, r.failures hash = strikes MAX_CONSECUTIVE_FAILURES hash records)
    (hfits : ∀ hash, Fits host r hash (r.queue hash)) :
    BreakerInv host { s with registry := r, records := records } where
  current := ⟨hcount, hfits⟩
  staged q hq := (H.staged q hq).mono hkept

/-- An operation that only takes runs off the queues. -/
theorem of_shrink (H : BreakerInv host s) (hshrink : QueuesShrink s.registry r)
    (hkept : EntriesKept s.registry r)
    (hcount : r.consecutiveFailures = s.registry.consecutiveFailures) :
    BreakerInv host { s with registry := r } := by
  refine H.next hkept (fun hash => ?_) fun hash => ?_
  · rw [failures, hcount]
    exact H.current.count hash
  · exact (H.current.fits hash).mono (hshrink.queue hash) hkept

theorem failure (H : BreakerInv host s) (dir : PathBuf) (now : DateTime) :
    BreakerInv host { s with
      registry := (s.registry.recordQueueFailureWithoutSnapshot host dir now).2
      records := .strike (repoHash host dir) :: s.records } := by
  have hkept : EntriesKept s.registry
      (s.registry.recordQueueFailureWithoutSnapshot host dir now).2 :=
    recordQueueFailure_runsEvolve.entriesKept
  refine H.next hkept (fun hash => ?_) fun hash => ?_
  · have hcount := H.current.count hash
    rw [failures_recordQueueFailure, strikes]
    by_cases hhash : hash = repoHash host dir
    · subst hhash
      simp only [if_pos, trips_iff hcount]
      rw [← hcount]
      rfl
    · rw [if_neg hhash, if_neg (Ne.symm hhash)]
      exact hcount
  · exact (H.current.fits hash).mono (recordQueueFailure_queuesShrink.queue hash) hkept

theorem success (H : BreakerInv host s) (dir : PathBuf) :
    BreakerInv host { s with
      registry := s.registry.recordQueueSuccessWithoutSnapshot host dir
      records := .clear (repoHash host dir) :: s.records } := by
  refine H.next (.of_get_eq fun _ => rfl) (fun hash => ?_) fun hash => ?_
  · rw [strikes, failures, recordQueueSuccessWithoutSnapshot]
    by_cases hhash : hash = repoHash host dir
    · rw [hhash, AList.lookup_erase, if_pos rfl, Option.getD_none]
    · rw [AList.lookup_erase_ne hhash, if_neg (Ne.symm hhash)]
      exact H.current.count hash
  · exact (H.current.fits hash).mono (.refl _) (.of_get_eq fun _ => rfl)

theorem enqueue {p : PendingRun} (H : BreakerInv host s) (hfresh : s.registry.get p.runId = none) :
    BreakerInv host { s with registry := s.registry.afterEnqueue host p } := by
  rcases afterEnqueue_cases host s.registry p with heq | heq
  · rw [heq]
    exact H
  · rw [heq]
    refine H.next (entriesKept_pushed hfresh) H.current.count fun hash => ?_
    rw [queue_pushed]
    split
    · next hhash =>
      subst hhash
      exact (H.current.fits _).pushed hfresh
    · exact (H.current.fits hash).mono (.refl _) (entriesKept_pushed hfresh)

theorem drainNext (H : BreakerInv host s) (dir : PathBuf) :
    BreakerInv host { s with registry := (s.registry.drainNextWithoutSnapshot host dir).2 } := by
  refine H.of_shrink drainNext_queuesShrink drainNext_runsEvolve.entriesKept ?_
  rcases drainNext_cases host s.registry dir with ⟨-, heq⟩ | ⟨p, rest, -, -, heq⟩ <;> rw [heq]
  rfl

theorem drainAnyReady (H : BreakerInv host s) :
    BreakerInv host { s with registry := s.registry.drainAnyReadyWithoutSnapshot.2 } := by
  refine H.of_shrink drainAnyReady_queuesShrink drainAnyReady_runsEvolve.entriesKept ?_
  rcases drainAnyReady_cases s.registry with ⟨-, heq⟩ | ⟨hash, p, rest, -, -, heq⟩ <;> rw [heq]
  rfl

theorem stageQueue (H : BreakerInv host s) :
    BreakerInv host { s with
      registry := s.registry.stageQueueLocked.2
      staged := (s.registry.stageQueueLocked.1.wire, s.records) :: s.staged } where
  current := H.current.mono (.of_get_eq fun _ => rfl)
  staged q hq := by
    rcases List.mem_cons.mp hq with rfl | hq
    · exact H.current.mono (.of_get_eq fun _ => rfl)
    · exact (H.staged q hq).mono (.of_get_eq fun _ => rfl)

theorem restart {k : Nat} {wire : QueueSnapshotWire} (H : BreakerInv host s)
    (h : breakerStep host s (.restart k wire) = some s') : BreakerInv host s' := by
  simp only [breakerStep] at h
  split at h
  · next staged records hk =>
    split at h
    · next hperm =>
      cases h
      have hbalanced := (H.staged _ (List.mem_of_getElem? hk)).perm hperm.1 hperm.2
      have hkept : EntriesKept s.registry (s.registry.reloaded.restoreQueue wire) :=
        .of_get_eq fun id => by
          rw [RunRegistry.get, RunRegistry.get, restoreQueue_runs]
      refine H.next hkept hbalanced.count fun hash => ?_
      rw [queue_reloaded_restoreQueue]
      exact (hbalanced.fits hash).mono (.refl _) hkept
    · cases h
  · cases h

theorem step (H : BreakerInv host s) (h : breakerStep host s op = some s') :
    BreakerInv host s' := by
  cases op with
  | failure dir now => cases h; exact H.failure dir now
  | success dir => cases h; exact H.success dir
  | enqueue p =>
    simp only [breakerStep] at h
    split at h
    · cases h
    · next hnone =>
      cases h
      exact H.enqueue (by simpa using hnone)
  | drainNext dir => cases h; exact H.drainNext dir
  | drainAnyReady => cases h; exact H.drainAnyReady
  | stageQueue => cases h; exact H.stageQueue
  | restart k wire => exact H.restart h

theorem below (H : BreakerInv host s) (hash : String) :
    s.registry.failures hash < MAX_CONSECUTIVE_FAILURES := by
  have hcount : s.registry.failures hash = strikes MAX_CONSECUTIVE_FAILURES hash s.records :=
    H.current.count hash
  rw [hcount]
  exact strikes_lt (by decide)

theorem ready_iff (H : BreakerInv host s) :
    s.registry.Ready hash ↔ s.registry.queue hash ≠ [] :=
  and_iff_right (H.below hash)

theorem frame (H : BreakerInv host s) (h : breakerStep host s op = some s')
    (hnot : ¬ op.Touches host s.registry hash) :
    Undisturbed host hash s.registry s'.registry := by
  cases op with
  | failure dir now => cases h; exact undisturbed_recordQueueFailure H.current hnot
  | success dir =>
    cases h
    refine ⟨rfl, ?_, fun _ _ _ => .rfl⟩
    rw [failures, recordQueueSuccessWithoutSnapshot, AList.lookup_erase_ne hnot]
    rfl
  | enqueue p =>
    simp only [breakerStep] at h
    split at h
    · cases h
    · next hnone =>
      cases h
      rcases afterEnqueue_cases host s.registry p with heq | heq
      · rw [heq]
        exact .refl
      · rw [heq]
        exact undisturbed_pushed (by simpa using hnone) hnot
  | drainNext dir =>
    cases h
    rcases drainNext_cases host s.registry dir with ⟨-, heq⟩ | ⟨p, rest, -, -, heq⟩ <;> rw [heq]
    · exact .refl
    · exact undisturbed_setQueue hnot
  | drainAnyReady =>
    cases h
    rcases drainAnyReady_cases s.registry with ⟨-, heq⟩ | ⟨hash', p, rest, hfirst, -, heq⟩ <;>
      rw [heq]
    · exact .refl
    · exact undisturbed_setQueue fun hhash => hnot (hhash ▸ hfirst)
  | stageQueue => cases h; exact ⟨rfl, rfl, fun _ _ _ => .rfl⟩
  | restart k wire => exact absurd trivial hnot

end BreakerInv

/-- The breaker of a reachable registry counts and trips as it is to, and blocks no drain. -/
structure BreakerExact (host : Host) (s : BreakerState) : Prop where
  below : ∀ hash, s.registry.failures hash < MAX_CONSECUTIVE_FAILURES
  failure : ∀ dir now, FailureExact host s.registry s.records dir now
  /-- The third failure is every third one since the last success. -/
  third_iff : ∀ hash,
    strikes MAX_CONSECUTIVE_FAILURES hash s.records + 1 = MAX_CONSECUTIVE_FAILURES ↔
      MAX_CONSECUTIVE_FAILURES ∣ strikesSinceClear hash s.records + 1
  drainNext : ∀ dir, (s.registry.drainNextWithoutSnapshot host dir).1 =
    (s.registry.queue (repoHash host dir)).head?
  drainAnyReady : s.registry.drainAnyReadyWithoutSnapshot.1 =
    (s.registry.repoInsertionOrder.find? fun hash => s.registry.queue hash ≠ []).bind fun hash =>
      (s.registry.queue hash).head?
  frame : ∀ op s' hash, breakerStep host s op = some s' → ¬ op.Touches host s.registry hash →
    Undisturbed host hash s.registry s'.registry

theorem breaker_exact {host : Host} {ops : List BreakerOp} {s : BreakerState}
    (hrun : exec (breakerStep host) .init ops = some s) : BreakerExact host s := by
  have H : BreakerInv host s :=
    exec_preserves (fun _ _ _ hstep H => BreakerInv.step H hstep) hrun .init
  refine ⟨H.below, failureExact H.current, fun hash => out_iff (by decide), fun dir => ?_, ?_,
    fun op s' hash h hnot => H.frame h hnot⟩
  · rcases drainNext_cases host s.registry dir with ⟨hnot, heq⟩ | ⟨p, rest, -, hq, heq⟩
    · rw [H.ready_iff, not_not] at hnot
      rw [heq, hnot, List.head?_nil]
    · rw [heq, hq, List.head?_cons]
  · have hfind : s.registry.firstReady =
        s.registry.repoInsertionOrder.find? fun hash => s.registry.queue hash ≠ [] := by
      simp only [firstReady, H.ready_iff]
    rw [← hfind]
    rcases drainAnyReady_cases s.registry with ⟨hnone, heq⟩ | ⟨hash, p, rest, hfirst, hq, heq⟩
    · rw [heq, hnone, Option.bind_none]
    · rw [heq, hfirst, Option.bind_some, hq, List.head?_cons]

/-- Three failures of a repo with two pending runs, and a success of another one
between. -/
theorem breaker_exact_two_repos :
    ∃ s, exec (breakerStep .plain) .init
        [.enqueue (.plain "a" "one.md" "/repo"), .enqueue (.plain "b" "two.md" "/repo"),
          .enqueue (.plain "c" "one.md" "/other"), .failure "/repo" 1, .success "/other",
          .failure "/repo" 2, .stageQueue, .failure "/repo" 3, .drainAnyReady] = some s ∧
      s.registry.queue "/repo" = [] ∧ BreakerExact .plain s := by
  obtain ⟨s, hrun, hempty⟩ := exists_of_any (o := exec (breakerStep .plain) .init
      [.enqueue (.plain "a" "one.md" "/repo"), .enqueue (.plain "b" "two.md" "/repo"),
        .enqueue (.plain "c" "one.md" "/other"), .failure "/repo" 1, .success "/other",
        .failure "/repo" 2, .stageQueue, .failure "/repo" 3, .drainAnyReady])
    (P := fun s => s.registry.queue "/repo" = []) (by decide +kernel)
  exact ⟨s, hrun, hempty, breaker_exact hrun⟩

end GreaterWill
