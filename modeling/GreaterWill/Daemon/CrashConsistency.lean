import GreaterWill.Daemon.LockRebuild
import GreaterWill.Daemon.QueueFiles

/-!
# The queues after a crash

A daemon that dies between two writes leaves one of the two files behind the other. For the runs
whose `meta.json` and `queue.json` were not both written (`Torn`) nothing makes up for it at the
start, and for the others everything is as the last request left it. `CrashSafe` is the condition
under which the queues and the entries agree again after `reconcile`.
-/

namespace GreaterWill

open RunRegistry

/-- The pending runs are the Queued ones. -/
structure QueueMatches (r : RunRegistry) : Prop where
  queued : ∀ p ∈ r.pendingEntries, ∃ e, r.get p.runId = some e ∧ e.status = .queued
  pending : ∀ id e, r.get id = some e → e.status = .queued → r.isInPendingQueue id = true

/-- A session of the run is alive. -/
def ReconcileIo.HasSession (io : ReconcileIo) (e : RunEntry) : Prop :=
  "gw-" ++ e.runId ∈ io.liveSessions ∨ e.sessionName ∈ io.liveSessions

/-- One of the two files of the run was written before the crash, and the other was not. -/
def Torn (ws : List FileWrite) (k : Nat) (id : String) : Prop :=
  ((∃ e, .metaJson e ∈ ws.take k ∧ e.runId = id) ∧ ∃ wire, .queueJson wire ∈ ws.drop k) ∨
  ((∃ wire, .queueJson wire ∈ ws.take k) ∧ ∃ e, .metaJson e ∈ ws.drop k ∧ e.runId = id)

/-- The condition, on the files that a crash after `k` of the writes `ws` leaves. -/
structure CrashSafe (io : ReconcileIo) (home : GwHome) (ws : List FileWrite) (k : Nat) : Prop where
  /-- The plan or the repo of a torn run is gone. -/
  torn : ∀ p ∈ home.queueJson.queues.elems, Torn ws k p.runId → isGone io p = true
  /-- No session of a Queued run that is not pending is alive, unless it is that of another run. -/
  session : ∀ id e, home.runs.metas.lookup id = some e → e.status = .queued →
    (∀ p ∈ home.queueJson.queues.elems, p.runId ≠ id) → io.HasSession e →
    (restored home.runs home.queueJson).IsGhost io e

namespace RunRegistry

variable {host : Host} {io : ReconcileIo} {r r' : RunRegistry} {disk : RunsDir} {id : String}
  {e : RunEntry} {p : PendingRun} {wire : QueueSnapshotWire}

/-! ## The pending runs after the start -/

theorem mem_pendingEntries_removePending {runId : String} :
    p ∈ (r.removePending runId).pendingEntries ↔ p ∈ r.pendingEntries ∧ p.runId ≠ runId := by
  have hentries : (r.removePending runId).pendingEntries =
      r.pendingEntries.filter (·.runId ≠ runId) := AList.elems_mapVals_filter _ _
  rw [hentries, List.mem_filter, decide_eq_true_eq]

theorem mem_pendingEntries_validatePending :
    p ∈ (r.validatePending host io).pendingEntries ↔
      p ∈ r.pendingEntries ∧ p.runId ∉ r.droppedIds io := by
  have hfold (ps : List PendingRun) {r : RunRegistry} :
      p ∈ (ps.foldl (fun r p =>
        let planOk := io.pathExists p.planPath
        let repoOk := io.pathExists p.repoDir
        if !planOk || !repoOk then
          let reason :=
            s!"removed from queue by reconciler: plan_exists={planOk}, repo_exists={repoOk}"
          (r.removePending p.runId).updateStatus host p.runId .failed none (some reason) io.now
        else r) r).pendingEntries ↔
      p ∈ r.pendingEntries ∧ p.runId ∉ (ps.filter (isGone io)).map (·.runId) := by
    induction ps generalizing r with
    | nil => simp
    | cons q ps ih =>
      rw [List.foldl_cons, ih]
      cases hgone : isGone io q with
      | false =>
        rw [List.filter_cons_of_neg (by simp [hgone]), if_neg (by simpa [isGone] using hgone)]
      | true =>
        rw [List.filter_cons_of_pos hgone, if_pos (by simpa [isGone] using hgone)]
        rw [pendingEntries, updateStatus_pendingQueues, ← pendingEntries]
        rw [mem_pendingEntries_removePending, List.map_cons, List.mem_cons, not_or, and_assoc]
  exact hfold r.pendingEntries

theorem mem_droppedIds_iff :
    id ∈ r.droppedIds io ↔ ∃ p ∈ r.pendingEntries, p.runId = id ∧ isGone io p = true := by
  simp only [droppedIds, List.mem_map, List.mem_filter, and_assoc]
  exact exists_congr fun p => and_congr_right fun _ => and_comm

theorem mem_pendingEntries_reconcile (hkeyed : r.Keyed)
    (hloaded : ∀ dir, (disk.metas.lookup dir).isSome = true → (r.get dir).isSome = true) :
    p ∈ (r.reconcile host io disk).pendingEntries ↔
      p ∈ r.pendingEntries ∧ p.runId ∉ r.droppedIds io := by
  obtain ⟨locks, hreacquire, -⟩ := reacquireLocks_eq host io r
  have hkeyed' : RunRegistry.Keyed { r with repoLocks := locks } := hkeyed
  rw [reconcile, hreacquire, processSessions_eq hkeyed' hloaded, mem_pendingEntries_validatePending]
  rw [droppedIds, droppedIds, pendingEntries, resolveSessionNameCollisions_pendingQueues,
    settleStaleRuns_pendingQueues, ← pendingEntries]
  rfl

/-- A Queued run that is not pending is stale if no session of it is alive. -/
theorem isStale_of_queued (hqueued : e.status = .queued)
    (hnot : r.isInPendingQueue e.runId = false) :
    r.isStale io e = true ↔ ¬ io.HasSession e := by
  simp [isStale, hqueued, hnot, RunStatus.isTerminal, ReconcileIo.HasSession]

theorem isStale_of_pending (hqueued : e.status = .queued)
    (hpending : r.isInPendingQueue e.runId = true) : r.isStale io e = false := by
  simp [isStale, hqueued, hpending]

namespace Reconciled

/-- The runs that are Queued afterwards. -/
theorem queued_iff (h : Reconciled host io r r') {e' : RunEntry} (he : r.get id = some e)
    (he' : r'.get id = some e') : e'.status = .queued ↔
      e.status = .queued ∧ ¬ r.IsDropped io e ∧ ¬ r.IsGhost io e ∧ r.isStale io e = false := by
  obtain ⟨e₁, he₁, -, hdropped, hghost, hrest⟩ := h.entry id e he
  rw [he'] at he₁
  cases he₁
  by_cases hd : r.IsDropped io e
  · simp [hdropped hd, hd]
  by_cases hg : r.IsGhost io e
  · simp [hghost hd hg, hg]
  rw [hrest hd hg]
  cases hstale : r.isStale io e with
  | false => simp [hd, hg]
  | true => rcases staleFate_cases io e with hfate | hfate <;> simp [hfate]

/-- The queues and the entries agree after the start exactly if every pending run that is kept was
Queued under its own session name, and every other Queued run is settled. -/
theorem queueMatches_iff (h : Reconciled host io r r') (hkeyed : r.Keyed)
    (hpending : ∀ p, p ∈ r'.pendingEntries ↔ p ∈ r.pendingEntries ∧ p.runId ∉ r.droppedIds io) :
    QueueMatches r' ↔
      (∀ p ∈ r.pendingEntries, p.runId ∉ r.droppedIds io →
        ∃ e, r.get p.runId = some e ∧ e.status = .queued ∧ ¬ r.IsGhost io e) ∧
      ∀ id e, r.get id = some e → e.status = .queued → r.isInPendingQueue id = false →
        io.HasSession e → r.IsGhost io e := by
  have hdropped {id : String} {e : RunEntry} (he : r.get id = some e) :
      r.IsDropped io e ↔ id ∈ r.droppedIds io := by
    rw [IsDropped, mem_droppedIds_iff, hkeyed id e he]
  constructor
  · intro hmatches
    constructor
    · intro p hp hkept
      obtain ⟨e', he', hqueued'⟩ := hmatches.queued p ((hpending p).mpr ⟨hp, hkept⟩)
      obtain ⟨e, he, -⟩ := h.exists_of_get he'
      obtain ⟨hqueued, -, hghost, -⟩ := (h.queued_iff he he').mp hqueued'
      exact ⟨e, he, hqueued, hghost⟩
    · intro id e he hqueued hnot hsession
      by_contra hghost
      obtain ⟨e', he', -⟩ := h.entry id e he
      have hnotDropped : ¬ r.IsDropped io e := by
        rw [hdropped he, mem_droppedIds_iff]
        rintro ⟨p, hp, hid, -⟩
        obtain ⟨hash, hp⟩ := mem_pendingEntries.mp hp
        rw [isInPendingQueue_iff.mpr ⟨hash, p, hp, hid⟩] at hnot
        cases hnot
      have hstale : r.isStale io e = false := by
        rw [Bool.eq_false_iff]
        rw [← hkeyed id e he] at hnot
        exact fun hstale => (isStale_of_queued hqueued hnot).mp hstale hsession
      have hqueued' := (h.queued_iff he he').mpr ⟨hqueued, hnotDropped, hghost, hstale⟩
      obtain ⟨hash, p, hp, hid⟩ := isInPendingQueue_iff.mp (hmatches.pending id e' he' hqueued')
      have hp' := ((hpending p).mp (mem_pendingEntries.mpr ⟨hash, hp⟩)).1
      obtain ⟨hash', hp'⟩ := mem_pendingEntries.mp hp'
      rw [isInPendingQueue_iff.mpr ⟨hash', p, hp', hid⟩] at hnot
      cases hnot
  · rintro ⟨hkept, hsettled⟩
    constructor
    · intro p hp
      obtain ⟨hp, hnotDropped⟩ := (hpending p).mp hp
      obtain ⟨e, he, hqueued, hghost⟩ := hkept p hp hnotDropped
      obtain ⟨e', he', -⟩ := h.entry p.runId e he
      refine ⟨e', he', (h.queued_iff he he').mpr ⟨hqueued, ?_, hghost, ?_⟩⟩
      · rwa [hdropped he]
      · obtain ⟨hash, hp⟩ := mem_pendingEntries.mp hp
        apply isStale_of_pending hqueued
        rw [hkeyed p.runId e he]
        exact isInPendingQueue_iff.mpr ⟨hash, p, hp, rfl⟩
    · intro id e' he' hqueued'
      obtain ⟨e, he, -⟩ := h.exists_of_get he'
      obtain ⟨hqueued, hnotDropped, hghost, hstale⟩ := (h.queued_iff he he').mp hqueued'
      cases hnot : r.isInPendingQueue id with
      | true =>
        obtain ⟨hash, p, hp, rfl⟩ := isInPendingQueue_iff.mp hnot
        rw [hdropped he] at hnotDropped
        have hp' := (hpending p).mpr ⟨mem_pendingEntries.mpr ⟨hash, hp⟩, hnotDropped⟩
        obtain ⟨hash', hp'⟩ := mem_pendingEntries.mp hp'
        exact isInPendingQueue_iff.mpr ⟨hash', p, hp', rfl⟩
      | false =>
        refine absurd (hsettled id e he hqueued hnot ?_) hghost
        by_contra hsession
        rw [← hkeyed id e he] at hnot
        rw [(isStale_of_queued hqueued hnot).mpr hsession] at hstale
        cases hstale

end Reconciled

theorem queueMatches_reconcile_iff (hkeyed : r.Keyed) (hempty : r.repoLocks = ∅)
    (hloaded : ∀ dir, (disk.metas.lookup dir).isSome = true → (r.get dir).isSome = true) :
    QueueMatches (r.reconcile host io disk) ↔
      (∀ p ∈ r.pendingEntries, p.runId ∉ r.droppedIds io →
        ∃ e, r.get p.runId = some e ∧ e.status = .queued ∧ ¬ r.IsGhost io e) ∧
      ∀ id e, r.get id = some e → e.status = .queued → r.isInPendingQueue id = false →
        io.HasSession e → r.IsGhost io e := by
  have hrebuilt : ∃ locks, Reconciled host io { r with repoLocks := locks }
      (r.reconcile host io disk) ∧ ∀ hash, hash ∈ locks ↔ ∃ id e, r.get id = some e ∧
        e.status = .running ∧ io.lockIo id = .acquired ∧ repoHash host e.repoDir = hash :=
    exists_locks_reconcile hkeyed hempty hloaded
  obtain ⟨locks, h, -⟩ := hrebuilt
  exact h.queueMatches_iff hkeyed fun p => mem_pendingEntries_reconcile hkeyed hloaded

/-- A run under its own session name is nobody's ghost. -/
theorem not_isGhost_of_sessionName (hname : e.sessionName = "gw-" ++ e.runId) :
    ¬ r.IsGhost io e := by
  rintro ⟨-, c, -, -, -, hsession, hne⟩
  rw [hname] at hsession
  exact hne (String.append_right_inj _ |>.mp hsession).symm

end RunRegistry

/-! ## The files after some of the writes -/

namespace GwHome

variable {home : GwHome} {ws ws' : List FileWrite} {entries : List RunEntry} {id : String}
  {e : RunEntry} {wire : QueueSnapshotWire}

theorem writeAll_append : home.writeAll (ws ++ ws') = (home.writeAll ws).writeAll ws' :=
  List.foldl_append

@[simp] theorem writeAll_metas_queueJson :
    (home.writeAll (entries.map .metaJson)).queueJson = home.queueJson := by
  induction entries generalizing home with
  | nil => rfl
  | cons e entries ih => exact ih

theorem lookup_write_metaJson (home : GwHome) (e : RunEntry) (id : String) :
    (home.write (.metaJson e)).runs.metas.lookup id =
      if id = e.runId then some e else home.runs.metas.lookup id :=
  AList.lookup_insert_eq_ite

theorem lookup_writeAll_of_notMem (home : GwHome) (h : id ∉ entries.map (·.runId)) :
    (home.writeAll (entries.map .metaJson)).runs.metas.lookup id =
      home.runs.metas.lookup id := by
  induction entries generalizing home with
  | nil => rfl
  | cons e entries ih =>
    rw [List.map_cons, List.mem_cons, not_or] at h
    have hfirst := lookup_write_metaJson home e id
    rw [if_neg h.1] at hfirst
    exact (ih _ h.2).trans hfirst

theorem lookup_writeAll_of_mem (home : GwHome) (h : id ∈ entries.map (·.runId)) :
    ∃ e ∈ entries, e.runId = id ∧
      (home.writeAll (entries.map .metaJson)).runs.metas.lookup id = some e := by
  induction entries generalizing home with
  | nil => cases h
  | cons e entries ih =>
    by_cases hrest : id ∈ entries.map (·.runId)
    · obtain ⟨e', hmem, hid, hlookup⟩ := ih (home.write (.metaJson e)) hrest
      exact ⟨e', List.mem_cons_of_mem e hmem, hid, hlookup⟩
    · rw [List.map_cons, List.mem_cons] at h
      have hid : id = e.runId := h.resolve_right hrest
      refine ⟨e, List.mem_cons_self, hid.symm, ?_⟩
      have hfirst := lookup_write_metaJson home e id
      rw [if_pos hid] at hfirst
      exact (lookup_writeAll_of_notMem _ hrest).trans hfirst

end GwHome

/-- Between two requests the files are what the registry says of the pending runs. -/
structure Mirrored (r : RunRegistry) (home : GwHome) : Prop where
  queue : ∀ p, p ∈ home.queueJson.queues.elems ↔ p ∈ r.pendingEntries
  metas : ∀ p ∈ r.pendingEntries, ∃ e, home.runs.metas.lookup p.runId = some e ∧
    e.status = .queued ∧ e.sessionName = "gw-" ++ p.runId
  known : ∀ id, r.get id = none → home.runs.metas.lookup id = none

/-- The files after `k` of the writes of a request: the pending runs are those before or those after
the request, and all of them are Queued but the torn ones. -/
structure Cut (r r' : RunRegistry) (home : GwHome) (ws : List FileWrite) (k : Nat) : Prop where
  queue : (∀ p, p ∈ home.queueJson.queues.elems ↔ p ∈ r.pendingEntries) ∨
    ∀ p, p ∈ home.queueJson.queues.elems ↔ p ∈ r'.pendingEntries
  whole : ∀ p ∈ home.queueJson.queues.elems, ¬ Torn ws k p.runId →
    ∃ e, home.runs.metas.lookup p.runId = some e ∧ e.status = .queued ∧
      e.sessionName = "gw-" ++ p.runId
  torn : ∀ p ∈ home.queueJson.queues.elems, Torn ws k p.runId →
    ∀ e, home.runs.metas.lookup p.runId = some e → e.status ≠ .queued

section
variable {host : Host} {r r' : RunRegistry} {home : GwHome} {ws : List FileWrite} {k : Nat}
  {id : String} {entries : List RunEntry} {wire : QueueSnapshotWire} {pending : PendingRun}

/-- Before a write of `queue.json` some entries of runs that leave the queues are written. -/
theorem cut_metas (hmirrored : Mirrored r home) (hended : ∀ e ∈ entries, r'.Ended e)
    (htorn : ∀ id, Torn ws k id ↔ id ∈ entries.map (·.runId)) :
    Cut r r' (home.writeAll (entries.map .metaJson)) ws k where
  queue := .inl (by simpa using hmirrored.queue)
  whole p hp hnot := by
    rw [GwHome.writeAll_metas_queueJson, hmirrored.queue] at hp
    rw [htorn] at hnot
    rw [GwHome.lookup_writeAll_of_notMem home hnot]
    exact hmirrored.metas p hp
  torn p hp htorn' e he := by
    rw [htorn] at htorn'
    obtain ⟨e', hmem, -, hlookup⟩ := GwHome.lookup_writeAll_of_mem home htorn'
    rw [he] at hlookup
    cases hlookup
    intro hqueued
    have hterminal := (hended e hmem).1
    rw [hqueued] at hterminal
    cases hterminal

theorem not_torn_of_length_le (h : ws.length ≤ k) : ¬ Torn ws k id := by
  have hdrop : ws.drop k = [] := List.drop_eq_nil_of_le h
  simp [Torn, hdrop]

theorem not_torn_metas : ¬ Torn (entries.map .metaJson) k id := by
  simp [Torn, ← List.map_take, ← List.map_drop]

theorem torn_metas_queue (h : k ≤ entries.length) :
    Torn (entries.map .metaJson ++ [.queueJson wire]) k id ↔
      id ∈ (entries.take k).map (·.runId) := by
  have htake : (entries.map FileWrite.metaJson ++ [FileWrite.queueJson wire]).take k =
      (entries.take k).map .metaJson := by
    rw [List.take_append_of_le_length (by simpa using h), List.map_take]
  have hdrop : (entries.map FileWrite.metaJson ++ [FileWrite.queueJson wire]).drop k =
      (entries.drop k).map .metaJson ++ [.queueJson wire] := by
    rw [List.drop_append_of_le_length (by simpa using h), List.map_drop]
  have hqueue : ¬ ∃ wire, FileWrite.queueJson wire ∈ (entries.take k).map .metaJson := by
    rintro ⟨wire, hmem⟩
    obtain ⟨e, -, he⟩ := List.mem_map.mp hmem
    cases he
  have hlast : ∃ wire', FileWrite.queueJson wire' ∈
      (entries.drop k).map .metaJson ++ [.queueJson wire] :=
    ⟨wire, List.mem_append_right _ (List.mem_singleton_self _)⟩
  rw [Torn, htake, hdrop]
  constructor
  · rintro (⟨⟨e, hmem, hid⟩, -⟩ | ⟨hfirst, -⟩)
    · obtain ⟨e', he', heq⟩ := List.mem_map.mp hmem
      cases heq
      exact List.mem_map.mpr ⟨e, he', hid⟩
    · exact absurd hfirst hqueue
  · intro hmem
    obtain ⟨e, he, hid⟩ := List.mem_map.mp hmem
    exact .inl ⟨⟨e, List.mem_map_of_mem he, hid⟩, hlast⟩

/-- The writes of a request that takes runs out of the queues. -/
theorem cut_left (hagreement : QueueAgreement host r') (hmirrored : Mirrored r home)
    (hsub : r'.pendingEntries ⊆ r.pendingEntries) (hwire : wire.queues = r'.pendingQueues)
    (hended : ∀ e ∈ entries, r'.Ended e) :
    Cut r r' (home.writeAll ((entries.map FileWrite.metaJson ++ [FileWrite.queueJson wire]).take k))
      (entries.map .metaJson ++ [.queueJson wire]) k := by
  by_cases hk : k ≤ entries.length
  · rw [List.take_append_of_le_length (by simpa using hk), ← List.map_take]
    exact cut_metas hmirrored (fun e he => hended e (List.mem_of_mem_take he))
      fun id => torn_metas_queue hk
  · have hlength : (entries.map FileWrite.metaJson ++ [FileWrite.queueJson wire]).length ≤ k := by
      rw [List.length_append, List.length_map, List.length_singleton]
      omega
    rw [List.take_of_length_le hlength, GwHome.writeAll_append]
    have hqueue (p : PendingRun) : p ∈ wire.queues.elems ↔ p ∈ r'.pendingEntries := by
      rw [hwire, pendingEntries]
    constructor
    · exact .inr hqueue
    · intro p hp _
      have hp' := (hqueue p).mp hp
      have hnot : p.runId ∉ entries.map (·.runId) := by
        intro hmem
        obtain ⟨e, he, hid⟩ := List.mem_map.mp hmem
        obtain ⟨-, e', he', hterminal⟩ := hended e he
        obtain ⟨hash, hp'⟩ := mem_pendingEntries.mp hp'
        obtain ⟨e₁, he₁, hqueued, -⟩ := hagreement.entry hash p hp'
        rw [hid, he₁] at he'
        cases he'
        rw [hqueued] at hterminal
        cases hterminal
      have hlookup := GwHome.lookup_writeAll_of_notMem home hnot
      obtain ⟨e, he, hrest⟩ := hmirrored.metas p (hsub hp')
      exact ⟨e, hlookup.trans he, hrest⟩
    · exact fun p _ htorn => absurd htorn (not_torn_of_length_le hlength)

/-- The writes of a request that adds a run to a queue. -/
theorem cut_submitted (hmirrored : Mirrored r home) (hfresh : r.get pending.runId = none)
    (hmem : ∀ p, p ∈ r'.pendingEntries ↔ p = pending ∨ p ∈ r.pendingEntries)
    (hwire : wire.queues = r'.pendingQueues) :
    Cut r r' (home.writeAll ([.queueJson wire, .metaJson (.enqueued pending)].take k))
      [.queueJson wire, .metaJson (.enqueued pending)] k := by
  have hqueue (p : PendingRun) : p ∈ wire.queues.elems ↔ p = pending ∨ p ∈ r.pendingEntries := by
    rw [hwire, ← hmem, pendingEntries]
  have hne {p : PendingRun} (hp : p ∈ r.pendingEntries) : p.runId ≠ pending.runId := by
    intro hid
    obtain ⟨e, he, -⟩ := hmirrored.metas p hp
    rw [hid, hmirrored.known _ hfresh] at he
    cases he
  have hid : (RunEntry.enqueued pending).runId = pending.runId := rfl
  obtain rfl | rfl | ⟨n, rfl⟩ : k = 0 ∨ k = 1 ∨ ∃ n, k = n + 2 := by
    cases k with
    | zero => exact .inl rfl
    | succ k =>
      cases k with
      | zero => exact .inr (.inl rfl)
      | succ n => exact .inr (.inr ⟨n, rfl⟩)
  · have hnot (id : String) : ¬ Torn [.queueJson wire, .metaJson (.enqueued pending)] 0 id := by
      simp [Torn]
    constructor
    · exact .inl hmirrored.queue
    · intro p hp _
      exact hmirrored.metas p ((hmirrored.queue p).mp hp)
    · exact fun p _ htorn => absurd htorn (hnot p.runId)
  · have htorn (id : String) :
        Torn [.queueJson wire, .metaJson (.enqueued pending)] 1 id ↔ pending.runId = id := by
      simp [Torn, hid]
    constructor
    · exact .inr fun p => (hqueue p).trans (hmem p).symm
    · intro p hp hnot
      rw [htorn] at hnot
      obtain rfl | hp := (hqueue p).mp hp
      · exact absurd rfl hnot
      · exact hmirrored.metas p hp
    · intro p hp hpending e he
      rw [htorn] at hpending
      have hnone : home.runs.metas.lookup p.runId = none :=
        hpending ▸ hmirrored.known _ hfresh
      rw [show AList.lookup p.runId _ = home.runs.metas.lookup p.runId from rfl, hnone] at he
      cases he
  · have hall : [FileWrite.queueJson wire, .metaJson (.enqueued pending)].take (n + 2) =
        [.queueJson wire, .metaJson (.enqueued pending)] := by simp
    rw [hall]
    constructor
    · exact .inr fun p => (hqueue p).trans (hmem p).symm
    · intro p hp _
      have hlookup :=
        GwHome.lookup_write_metaJson (home.write (.queueJson wire)) (.enqueued pending) p.runId
      rcases (hqueue p).mp hp with rfl | hp
      · rw [if_pos hid.symm] at hlookup
        exact ⟨_, hlookup, rfl, rfl⟩
      · rw [hid, if_neg (hne hp)] at hlookup
        obtain ⟨e, he, hrest⟩ := hmirrored.metas p hp
        exact ⟨e, hlookup.trans he, hrest⟩
    · intro p _ htorn
      exact absurd htorn (not_torn_of_length_le (Nat.le_add_left 2 n))

/-- The writes of a request that leaves the queues as they are. -/
theorem cut_updated (hmirrored : Mirrored r home)
    (hnot : ∀ e ∈ entries, r.isInPendingQueue e.runId = false) :
    Cut r r' (home.writeAll ((entries.map FileWrite.metaJson).take k))
      (entries.map .metaJson) k := by
  rw [← List.map_take]
  constructor
  · left
    rw [GwHome.writeAll_metas_queueJson]
    exact hmirrored.queue
  · intro p hp _
    rw [GwHome.writeAll_metas_queueJson, hmirrored.queue] at hp
    have hnotMem : p.runId ∉ (entries.take k).map (·.runId) := by
      intro hmem
      obtain ⟨e, he, hid⟩ := List.mem_map.mp hmem
      have hfalse := hnot e (List.mem_of_mem_take he)
      obtain ⟨hash, hp⟩ := mem_pendingEntries.mp hp
      rw [hid, isInPendingQueue_iff.mpr ⟨hash, p, hp, rfl⟩] at hfalse
      cases hfalse
    rw [GwHome.lookup_writeAll_of_notMem home hnotMem]
    exact hmirrored.metas p hp
  · exact fun p _ htorn => absurd htorn not_torn_metas

theorem cut_of_requested (h : Requested host r r' ws) (hmirrored : Mirrored r home) (k : Nat) :
    Cut r r' (home.writeAll (ws.take k)) ws k := by
  cases h.flushed with
  | submitted pending wire hfresh _ hmem hwire => exact cut_submitted hmirrored hfresh hmem hwire
  | left entries wire hsub hwire hended => exact cut_left h.agreement hmirrored hsub hwire hended
  | updated entries _ hall => exact cut_updated hmirrored fun e he => (hall e he).1

/-- All the writes of a request leave the files as the registry says. -/
theorem mirrored_of_requested (h : Requested host r r' ws) (hmirrored : Mirrored r home) :
    Mirrored r' (home.writeAll ws) := by
  have hcut := cut_of_requested h hmirrored ws.length
  rw [List.take_length] at hcut
  have hwhole : ∀ p ∈ (home.writeAll ws).queueJson.queues.elems,
      ∃ e, (home.writeAll ws).runs.metas.lookup p.runId = some e ∧ e.status = .queued ∧
        e.sessionName = "gw-" ++ p.runId :=
    fun p hp => hcut.whole p hp (not_torn_of_length_le le_rfl)
  have hforgets {id : String} (hnone : r'.get id = none) : r.get id = none := by
    rw [← Option.not_isSome_iff_eq_none] at hnone ⊢
    exact fun hsome => hnone (h.keeps id hsome)
  have hqueue (p : PendingRun) :
      p ∈ (home.writeAll ws).queueJson.queues.elems ↔ p ∈ r'.pendingEntries := by
    cases h.flushed with
    | submitted pending wire _ _ _ hwire =>
      rw [pendingEntries, ← hwire]
      rfl
    | left entries wire _ hwire _ =>
      rw [GwHome.writeAll_append, pendingEntries, ← hwire]
      rfl
    | updated entries heq _ =>
      rw [GwHome.writeAll_metas_queueJson, heq]
      exact hmirrored.queue p
  refine ⟨hqueue, fun p hp => hwhole p ((hqueue p).mpr hp), fun id hnone => ?_⟩
  have hold := hmirrored.known id (hforgets hnone)
  cases h.flushed with
  | submitted pending wire _ hsome _ _ =>
    have hne : id ≠ pending.runId := by
      rintro rfl
      rw [hnone] at hsome
      cases hsome
    have hlookup :=
      GwHome.lookup_write_metaJson (home.write (.queueJson wire)) (.enqueued pending) id
    exact hlookup.trans ((if_neg hne).trans hold)
  | left entries wire _ _ hended =>
    have hnot : id ∉ entries.map (·.runId) := by
      intro hmem
      obtain ⟨e, he, rfl⟩ := List.mem_map.mp hmem
      obtain ⟨-, e', he', -⟩ := hended e he
      rw [hnone] at he'
      cases he'
    rw [GwHome.writeAll_append]
    exact (GwHome.lookup_writeAll_of_notMem _ hnot).trans hold
  | updated entries _ hall =>
    have hnot : id ∉ entries.map (·.runId) := by
      intro hmem
      obtain ⟨e, he, rfl⟩ := List.mem_map.mp hmem
      have hsome := (hall e he).2
      rw [hnone] at hsome
      cases hsome
    exact (GwHome.lookup_writeAll_of_notMem _ hnot).trans hold

end

/-! ## Histories -/

/-- What holds between two requests. -/
structure QueueWorld.Sound (host : Host) (w : QueueWorld) : Prop where
  agreement : QueueAgreement host w.registry
  keyed : w.registry.Keyed
  mirrored : Mirrored w.registry w.home

theorem QueueWorld.Sound.init {host : Host} : QueueWorld.init.Sound host where
  agreement := .new
  keyed id e he := by cases he
  mirrored := ⟨fun p => .rfl, fun p hp => (by cases hp), fun id _ => rfl⟩

section
variable {c : DaemonConfig} {w w' : QueueWorld} {requests : List QueueRequest}
  {request : QueueRequest} {r' : RunRegistry} {ws : List FileWrite}

theorem QueueWorld.Sound.step (H : w.Sound c.host) (h : historyStep c w request = some w') :
    w'.Sound c.host := by
  obtain ⟨⟨r', ws⟩, hstep, rfl⟩ := Option.map_eq_some_iff.mp h
  have hspec := requested_of_requestStep H.agreement H.keyed hstep
  exact ⟨hspec.agreement, hspec.keyed, mirrored_of_requested hspec H.mirrored⟩

theorem QueueWorld.Sound.of_exec (h : exec (historyStep c) .init requests = some w) :
    w.Sound c.host :=
  exec_preserves (fun _ _ _ hs H => QueueWorld.Sound.step H hs) h .init

/-- After every sequence of requests, and a crash after any number of the writes of one more, the
daemon comes up with queues and entries that agree exactly if the crash was safe. -/
theorem queueMatches_restart_iff (hrun : exec (historyStep c) .init requests = some w)
    (hrequest : requestStep c w.registry request = some (r', ws)) (k : Nat) (io : ReconcileIo) :
    QueueMatches ((w.home.writeAll (ws.take k)).restart c.host io) ↔
      CrashSafe io (w.home.writeAll (ws.take k)) ws k := by
  have hsound := QueueWorld.Sound.of_exec hrun
  have hspec := requested_of_requestStep hsound.agreement hsound.keyed hrequest
  have hcut := cut_of_requested hspec hsound.mirrored k
  generalize w.home.writeAll (ws.take k) = home at hcut
  rw [GwHome.restart, queueMatches_reconcile_iff keyed_restored restored_repoLocks
    (fun dir h => by rwa [get_restored])]
  have hpending {p : PendingRun} : p ∈ (restored home.runs home.queueJson).pendingEntries ↔
      p ∈ home.queueJson.queues.elems := mem_pendingEntries_restoreQueue loadFromDisk_pendingQueues
  have hdropped {p : PendingRun} (hp : p ∈ home.queueJson.queues.elems) :
      p.runId ∈ (restored home.runs home.queueJson).droppedIds io ↔ isGone io p = true := by
    rw [mem_droppedIds_iff]
    constructor
    · rintro ⟨q, hq, hid, hgone⟩
      rw [hpending] at hq
      have heq : q = p := by
        rcases hcut.queue with hqueue | hqueue
        · exact hsound.agreement.eq_of_runId_eq ((hqueue q).mp hq) ((hqueue p).mp hp) hid
        · exact hspec.agreement.eq_of_runId_eq ((hqueue q).mp hq) ((hqueue p).mp hp) hid
      rwa [heq] at hgone
    · exact fun hgone => ⟨p, hpending.mpr hp, rfl, hgone⟩
  simp only [hpending, get_restored]
  constructor
  · rintro ⟨hkept, hsettled⟩
    constructor
    · intro p hp htorn
      by_contra hgone
      rw [← hdropped hp] at hgone
      obtain ⟨e, he, hqueued, -⟩ := hkept p hp hgone
      exact hcut.torn p hp htorn e he hqueued
    · intro id e he hqueued hnot hsession
      refine hsettled id e he hqueued ?_ hsession
      rw [Bool.eq_false_iff]
      intro hpend
      obtain ⟨hash, p, hp, hid⟩ := isInPendingQueue_iff.mp hpend
      exact hnot p (hpending.mp (mem_pendingEntries.mpr ⟨hash, hp⟩)) hid
  · intro hsafe
    constructor
    · intro p hp hkept
      rw [hdropped hp] at hkept
      obtain ⟨e, he, hqueued, hname⟩ := hcut.whole p hp fun htorn => hkept (hsafe.torn p hp htorn)
      refine ⟨e, he, hqueued, not_isGhost_of_sessionName ?_⟩
      rw [hname, home.runs.named p.runId e he]
    · intro id e he hqueued hnot hsession
      refine hsafe.session id e he hqueued (fun p hp hid => ?_) hsession
      obtain ⟨hash, hp⟩ := mem_pendingEntries.mp (hpending.mpr hp)
      rw [isInPendingQueue_iff.mpr ⟨hash, p, hp, hid⟩] at hnot
      cases hnot

end

/-- The requests that bring a run of a repo up. -/
def bringUp (runId : String) (planPath repoDir : PathBuf) : List QueueRequest :=
  [.registerRun planPath repoDir none none none runId 0 .acquired (.ok ()),
    .updateStatus runId { tmuxSession := some ("gw-" ++ runId) } .running (some "starting") none 0]

/-- A run is queued behind a Running one, and both its files are written. -/
theorem submitted_survives :
    ∃ w r' ws, exec (historyStep ⟨.plain, 0⟩) .init (bringUp "a" "one.md" "/r") = some w ∧
      requestStep ⟨.plain, 0⟩ w.registry (.submitRun (.plain "b" "two.md" "/r")) = some (r', ws) ∧
      ws.length = 2 ∧ QueueMatches ((w.home.writeAll (ws.take 2)).restart .plain .quiet) := by
  obtain ⟨w, hrun, hany⟩ := exists_of_any
    (o := exec (historyStep ⟨.plain, 0⟩) .init (bringUp "a" "one.md" "/r"))
    (P := fun w => (requestStep ⟨.plain, 0⟩ w.registry (.submitRun (.plain "b" "two.md" "/r"))).any
      (fun res => decide (res.2.length = 2)) = true) (by decide)
  obtain ⟨⟨r', ws⟩, hrequest, hlength⟩ := exists_of_any hany
  refine ⟨w, r', ws, hrun, hrequest, hlength,
    (queueMatches_restart_iff hrun hrequest 2 .quiet).mpr ⟨fun p _ htorn => ?_, ?_⟩⟩
  · exact absurd htorn (not_torn_of_length_le hlength.le)
  · intro id e _ _ _ hsession
    rcases hsession with hmem | hmem <;> cases hmem

/-- The daemon dies after `queue.json` was written: the run is pending and has no entry. -/
theorem submitted_torn :
    ∃ w r' ws, exec (historyStep ⟨.plain, 0⟩) .init (bringUp "a" "one.md" "/r") = some w ∧
      requestStep ⟨.plain, 0⟩ w.registry (.submitRun (.plain "b" "two.md" "/r")) = some (r', ws) ∧
      ¬ QueueMatches ((w.home.writeAll (ws.take 1)).restart .plain .quiet) := by
  obtain ⟨w, hrun, hany⟩ := exists_of_any
    (o := exec (historyStep ⟨.plain, 0⟩) .init (bringUp "a" "one.md" "/r"))
    (P := fun w => (requestStep ⟨.plain, 0⟩ w.registry (.submitRun (.plain "b" "two.md" "/r"))).any
      (fun res =>
        let r := (w.home.writeAll (res.2.take 1)).restart .plain .quiet
        r.isInPendingQueue "b" && (r.get "b").isNone) = true) (by decide +kernel)
  rw [Option.any_eq_true] at hany
  obtain ⟨⟨r', ws⟩, hrequest, htorn⟩ := hany
  refine ⟨w, r', ws, hrun, hrequest, fun hmatches => ?_⟩
  rw [Bool.and_eq_true] at htorn
  obtain ⟨hash, p, hp, hid⟩ := isInPendingQueue_iff.mp htorn.1
  obtain ⟨e, he, -⟩ := hmatches.queued p (mem_pendingEntries.mpr ⟨hash, hp⟩)
  rw [hid] at he
  rw [he] at htorn
  cases htorn.2

end GreaterWill
