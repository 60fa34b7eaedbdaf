import GreaterWill.Daemon.QueueSpec
import GreaterWill.Daemon.Reconcile

/-!
# What the passes of the reconciler do

Each pass gives some runs a new status and, where that is a terminal one, releases the lock of
their repo; the rest stays (`Settles`). A run is settled where it is stale, where it claims the
session of another run, or where the files of its pending record are gone; the statuses and the
locks after `reconcile` follow from these three.
-/

namespace GreaterWill

/-- What no pass changes of an entry. -/
structure RunEntry.Kept (e e' : RunEntry) : Prop where
  runId : e'.runId = e.runId
  repoDir : e'.repoDir = e.repoDir
  sessionName : e'.sessionName = e.sessionName
  restartable : e'.restartable = e.restartable

theorem RunEntry.Kept.refl (e : RunEntry) : e.Kept e := ⟨rfl, rfl, rfl, rfl⟩

theorem RunEntry.Kept.trans {e e' e'' : RunEntry} (h : e.Kept e') (h' : e'.Kept e'') :
    e.Kept e'' where
  runId := h'.runId.trans h.runId
  repoDir := h'.repoDir.trans h.repoDir
  sessionName := h'.sessionName.trans h.sessionName
  restartable := h'.restartable.trans h.restartable

namespace RunRegistry

/-- An entry stands under its run id. -/
def Keyed (r : RunRegistry) : Prop := ∀ id e, r.get id = some e → e.runId = id

/-- The runs `ids` get the statuses `t`, and a terminal one releases the lock of the repo. -/
structure Settles (host : Host) (t : String → RunStatus) (ids : List String)
    (r r' : RunRegistry) : Prop where
  entry : ∀ id e, r.get id = some e → ∃ e', r'.get id = some e' ∧ e.Kept e' ∧
    e'.status = if id ∈ ids then t id else e.status
  absent : ∀ id, r.get id = none → r'.get id = none
  locks : ∀ hash, hash ∈ r'.repoLocks ↔ hash ∈ r.repoLocks ∧
    ∀ id ∈ ids, (t id).isTerminal = true → ∀ e, r.get id = some e → repoHash host e.repoDir ≠ hash

variable {host : Host} {io : ReconcileIo} {disk : RunsDir} {r r' r'' : RunRegistry}
  {t : String → RunStatus} {ids ids' : List String} {id hash runId : String} {e e' : RunEntry}
  {status : RunStatus} {phase error : Option String} {now : DateTime}

namespace Settles

theorem of_get (hget : ∀ id, (r'.get id = none ∧ r.get id = none) ∨
    ∃ e e', r.get id = some e ∧ r'.get id = some e' ∧ e.Kept e' ∧ e'.status = e.status)
    (hlocks : r'.repoLocks = r.repoLocks) : Settles host t [] r r' where
  entry id e he := by
    rcases hget id with ⟨-, hnone⟩ | ⟨e₁, e', he₁, he', hkept, hstatus⟩
    · rw [he] at hnone
      cases hnone
    · rw [he] at he₁
      cases he₁
      exact ⟨e', he', hkept, by simpa using hstatus⟩
  absent id hnone := by
    rcases hget id with ⟨hnone', -⟩ | ⟨e, e', he, -⟩
    · exact hnone'
    · rw [hnone] at he
      cases he
  locks hash := by simp [hlocks]

theorem refl (r : RunRegistry) : Settles host t [] r r := by
  apply of_get _ rfl
  intro id
  cases h : r.get id with
  | none => exact .inl ⟨rfl, rfl⟩
  | some e => exact .inr ⟨e, e, rfl, rfl, .refl e, rfl⟩

theorem trans (h : Settles host t ids r r') (h' : Settles host t ids' r' r'') :
    Settles host t (ids ++ ids') r r'' where
  entry id e he := by
    obtain ⟨e', he', hkept, hstatus⟩ := h.entry id e he
    obtain ⟨e'', he'', hkept', hstatus'⟩ := h'.entry id e' he'
    refine ⟨e'', he'', hkept.trans hkept', ?_⟩
    rw [hstatus', hstatus]
    by_cases hmem' : id ∈ ids'
    · rw [if_pos hmem', if_pos (List.mem_append_right ids hmem')]
    · rw [if_neg hmem']
      simp [hmem']
  absent id hnone := h'.absent id (h.absent id hnone)
  locks hash := by
    rw [h'.locks, h.locks, and_assoc, List.forall_mem_append]
    refine and_congr_right fun _ => and_congr_right fun _ => ?_
    refine forall₂_congr fun id _ => imp_congr_right fun _ => ?_
    constructor
    · intro hall e he
      obtain ⟨e', he', hkept, -⟩ := h.entry id e he
      rw [← hkept.repoDir]
      exact hall e' he'
    · intro hall e' he'
      cases he : r.get id with
      | none =>
        rw [h.absent id he] at he'
        cases he'
      | some e =>
        obtain ⟨e₁, he₁, hkept, -⟩ := h.entry id e he
        rw [he'] at he₁
        cases he₁
        rw [hkept.repoDir]
        exact hall e he

theorem congr (h : Settles host t ids r r') (hids : ∀ id, id ∈ ids ↔ id ∈ ids') :
    Settles host t ids' r r' where
  entry id e he := by
    obtain ⟨e', he', hkept, hstatus⟩ := h.entry id e he
    exact ⟨e', he', hkept, by rw [hstatus]; simp [hids]⟩
  absent := h.absent
  locks hash := by
    rw [h.locks]
    simp [hids]

theorem keyed (h : Settles host t ids r r') (hkeyed : r.Keyed) : r'.Keyed := by
  intro id e' he'
  cases he : r.get id with
  | none =>
    rw [h.absent id he] at he'
    cases he'
  | some e =>
    obtain ⟨e₁, he₁, hkept, -⟩ := h.entry id e he
    rw [he'] at he₁
    cases he₁
    rw [hkept.runId]
    exact hkeyed id e he

/-- The entry a later entry comes from. -/
theorem exists_of_get (h : Settles host t ids r r') (he' : r'.get id = some e') :
    ∃ e, r.get id = some e ∧ e.Kept e' ∧ e'.status = if id ∈ ids then t id else e.status := by
  cases he : r.get id with
  | none =>
    rw [h.absent id he] at he'
    cases he'
  | some e =>
    obtain ⟨e₁, he₁, hkept, hstatus⟩ := h.entry id e he
    rw [he'] at he₁
    cases he₁
    exact ⟨e, rfl, hkept, hstatus⟩

end Settles

/-! ## One run -/

theorem settles_updateStatus (hcan : ∀ e, r.get runId = some e → e.status.CanBecome status)
    (ht : t runId = status) :
    Settles host t [runId] r (r.updateStatus host runId status phase error now) := by
  rw [updateStatus]
  rcases tryStage_cases host r runId status phase error now with ⟨entry, hget, -, heq⟩ | ⟨hnot, heq⟩
  · rw [heq]
    constructor
    · intro id e he
      rw [get_staged]
      by_cases hid : id = runId
      · rw [hid] at he
        rw [hget] at he
        cases he
        exact ⟨_, if_pos hid, ⟨rfl, rfl, rfl, rfl⟩, by simp [hid, ht, RunEntry.stage]⟩
      · exact ⟨e, by rw [if_neg hid, he], .refl e, by simp [hid]⟩
    · intro id hnone
      have hid : id ≠ runId := by
        rintro rfl
        rw [hget] at hnone
        cases hnone
      rw [get_staged, if_neg hid, hnone]
    · intro hash
      have hlocks : (r.staged host runId entry status phase error now).repoLocks =
        if status.isTerminal then r.repoLocks.erase (repoHash host entry.repoDir)
        else r.repoLocks := rfl
      rw [hlocks, List.forall_mem_singleton, ht, hget]
      cases status.isTerminal with
      | false => simp
      | true => simp [and_comm, eq_comm]
  · rw [heq]
    have hnone : r.get runId = none := by
      cases hget : r.get runId with
      | none => rfl
      | some e => exact absurd (hcan e hget) (hnot e hget)
    constructor
    · intro id e he
      have hid : id ≠ runId := by
        rintro rfl
        rw [hnone] at he
        cases he
      exact ⟨e, he, .refl e, by simp [hid]⟩
    · exact fun id h => h
    · intro hash
      simp [hnone]

theorem settles_modify (p : RunEntry.Patch) : Settles host t [] r (r.modify runId p) := by
  apply Settles.of_get _ (modify_repoLocks ..)
  intro id
  rw [get_modify]
  cases h : r.get id with
  | none =>
    refine .inl ⟨?_, rfl⟩
    split
    · next hid => rw [← hid, h]; rfl
    · rfl
  | some e =>
    refine .inr ?_
    by_cases hid : id = runId
    · refine ⟨e, e.patch p, rfl, ?_, ⟨rfl, rfl, rfl, rfl⟩, rfl⟩
      rw [if_pos hid, ← hid, h]
      rfl
    · exact ⟨e, e, rfl, if_neg hid, .refl e, rfl⟩

theorem settles_resetCrashes : Settles host t [] r (r.resetCrashes runId) := by
  unfold resetCrashes
  cases hlookup : r.runs.lookup runId with
  | none => exact .refl r
  | some entry =>
    refine .of_get (fun id => ?_) rfl
    by_cases hid : id = runId
    · subst hid
      exact .inr ⟨entry, { entry with crashRestarts := 0 }, hlookup, AList.lookup_insert r.runs,
        ⟨rfl, rfl, rfl, rfl⟩, rfl⟩
    · have hget : AList.lookup id (r.runs.insert runId { entry with crashRestarts := 0 }) =
        r.get id := AList.lookup_insert_ne hid
      cases h : r.get id with
      | none => exact .inl ⟨hget.trans h, rfl⟩
      | some e => exact .inr ⟨e, e, rfl, hget.trans h, .refl e, rfl⟩

/-! ## Loading -/

theorem get_foldl_load {l : List (Sigma fun _ : String => RunEntry)} (hnodup : l.NodupKeys)
    (hnamed : ∀ m ∈ l, m.2.runId = m.1) :
    (l.foldl (fun r m => { r with runs := r.runs.insert m.2.runId m.2 }) r).get id =
      (l.dlookup id).or (r.get id) := by
  induction l generalizing r with
  | nil => rfl
  | cons m l ih =>
    obtain ⟨dir, entry⟩ := m
    obtain ⟨hfirst, hrest⟩ := List.forall_mem_cons.mp hnamed
    rw [List.nodupKeys_cons] at hnodup
    rw [List.foldl_cons, ih hnodup.2 hrest]
    dsimp only at hfirst
    have hget : RunRegistry.get { r with runs := r.runs.insert entry.runId entry } id =
        if id = dir then some entry else r.get id := by
      rw [hfirst]
      exact AList.lookup_insert_eq_ite
    rw [hget]
    by_cases hid : id = dir
    · subst hid
      have hnone : l.dlookup id = none := List.dlookup_eq_none.mpr hnodup.1
      rw [hnone, if_pos rfl, List.dlookup_cons_eq]
      rfl
    · rw [if_neg hid, List.dlookup_cons_ne _ _ hid]

theorem get_loadFromDisk : (loadFromDisk disk).get id = disk.metas.lookup id := by
  rw [loadFromDisk, get_foldl_load disk.metas.nodupKeys]
  · have hnone : (new : RunRegistry).get id = none := rfl
    rw [hnone, Option.or_none]
    rfl
  · rintro ⟨dir, entry⟩ hmem
    exact disk.named dir entry (AList.mem_entries_iff.mp hmem)

theorem foldl_load_eq {l : List (Sigma fun _ : String => RunEntry)} :
    (l.foldl (fun r m => { r with runs := r.runs.insert m.2.runId m.2 }) r).repoLocks =
        r.repoLocks ∧
      (l.foldl (fun r m => { r with runs := r.runs.insert m.2.runId m.2 }) r).pendingQueues =
        r.pendingQueues := by
  induction l generalizing r with
  | nil => exact ⟨rfl, rfl⟩
  | cons m l ih => exact ih

@[simp] theorem loadFromDisk_repoLocks : (loadFromDisk disk).repoLocks = ∅ := foldl_load_eq.1

@[simp] theorem loadFromDisk_pendingQueues : (loadFromDisk disk).pendingQueues = ∅ :=
  foldl_load_eq.2

section
variable {wire : QueueSnapshotWire}

theorem restoreQueue_foldl {l : List (Sigma fun _ : String => List PendingRun)} {r : RunRegistry} :
    let restored := l.foldl (fun (r : RunRegistry) q =>
      { r with
        repoInsertionOrder :=
          if q.2 ≠ [] ∧ q.1 ∉ r.repoInsertionOrder then r.repoInsertionOrder ++ [q.1]
          else r.repoInsertionOrder
        pendingQueues := r.pendingQueues.insert q.1 q.2 }) r
    restored.runs = r.runs ∧ restored.repoLocks = r.repoLocks ∧
      (l.NodupKeys → ∀ hash,
        restored.pendingQueues.lookup hash =
          (l.dlookup hash).or (r.pendingQueues.lookup hash)) := by
  induction l generalizing r with
  | nil => exact ⟨rfl, rfl, fun _ _ => rfl⟩
  | cons q l ih =>
    obtain ⟨hruns, hlocks, hqueues⟩ := @ih
      { r with
        repoInsertionOrder :=
          if q.2 ≠ [] ∧ q.1 ∉ r.repoInsertionOrder then r.repoInsertionOrder ++ [q.1]
          else r.repoInsertionOrder
        pendingQueues := r.pendingQueues.insert q.1 q.2 }
    refine ⟨hruns, hlocks, fun hnodup hash => ?_⟩
    rw [List.nodupKeys_cons] at hnodup
    obtain ⟨key, queue⟩ := q
    refine (hqueues hnodup.2 hash).trans ?_
    rw [AList.lookup_insert_eq_ite]
    by_cases hkey : hash = key
    · subst hkey
      have hnone : l.dlookup hash = none := List.dlookup_eq_none.mpr hnodup.1
      rw [hnone, if_pos rfl, List.dlookup_cons_eq]
      rfl
    · rw [if_neg hkey, List.dlookup_cons_ne _ _ hkey]

@[simp] theorem get_restoreQueue : (r.restoreQueue wire).get id = r.get id := by
  rw [get, get, restoreQueue]
  exact congrArg _ restoreQueue_foldl.1

@[simp] theorem restoreQueue_repoLocks : (r.restoreQueue wire).repoLocks = r.repoLocks :=
  restoreQueue_foldl.2.1

theorem mem_pendingEntries_restoreQueue {p : PendingRun} (hempty : r.pendingQueues = ∅) :
    p ∈ (r.restoreQueue wire).pendingEntries ↔ p ∈ wire.queues.elems := by
  have hlookup (hash : String) : (r.restoreQueue wire).pendingQueues.lookup hash =
      wire.queues.lookup hash := by
    refine (restoreQueue_foldl.2.2 wire.queues.nodupKeys hash).trans ?_
    rw [hempty, AList.lookup_empty, Option.or_none]
    rfl
  simp only [pendingEntries, AList.mem_elems, hlookup]

end

/-- The registry that the daemon starts with. -/
def restored (disk : RunsDir) (wire : QueueSnapshotWire) : RunRegistry :=
  (loadFromDisk disk).restoreQueue wire

theorem get_restored {wire : QueueSnapshotWire} :
    (restored disk wire).get id = disk.metas.lookup id := by
  rw [restored, get_restoreQueue, get_loadFromDisk]

theorem keyed_restored {wire : QueueSnapshotWire} : (restored disk wire).Keyed := by
  intro id e he
  rw [get_restored] at he
  exact disk.named id e he

@[simp] theorem restored_repoLocks {wire : QueueSnapshotWire} :
    (restored disk wire).repoLocks = ∅ := by
  rw [restored, restoreQueue_repoLocks, loadFromDisk_repoLocks]

/-! ## The runs of a pass -/

theorem get_iff_mem_entries : r.get id = some e ↔ ⟨id, e⟩ ∈ r.runs.entries :=
  AList.mem_entries_iff.symm

theorem mem_listRuns {includeFinished : Bool} (hkeyed : r.Keyed) :
    e ∈ r.listRuns includeFinished ↔
      r.get e.runId = some e ∧ (includeFinished = true ∨ e.status.isTerminal = false) := by
  simp only [listRuns, List.mem_insertionSort, List.mem_filter, List.mem_map, Bool.or_eq_true,
    Bool.not_eq_true']
  refine and_congr_left fun _ => ?_
  constructor
  · rintro ⟨⟨id, e'⟩, hmem, rfl⟩
    have hget := get_iff_mem_entries.mpr hmem
    rwa [hkeyed id e' hget]
  · intro hget
    exact ⟨⟨e.runId, e⟩, get_iff_mem_entries.mp hget, rfl⟩

theorem nodup_listRuns {includeFinished : Bool} (hkeyed : r.Keyed) :
    ((r.listRuns includeFinished).map (·.runId)).Nodup := by
  have hkeys : ((r.runs.entries.map (·.2)).map (·.runId)) = r.runs.entries.keys := by
    rw [List.map_map, List.keys]
    apply List.map_congr_left
    rintro ⟨id, e⟩ hmem
    exact hkeyed id e (get_iff_mem_entries.mpr hmem)
  have hall : ((r.runs.entries.map (·.2)).map (·.runId)).Nodup := hkeys ▸ r.runs.nodupKeys
  have hperm : (r.listRuns includeFinished).Perm ((r.runs.entries.map (·.2)).filter fun e =>
    includeFinished || !e.status.isTerminal) := List.perm_insertionSort ..
  rw [(hperm.map (·.runId)).nodup_iff]
  exact hall.sublist (List.filter_sublist.map _)

/-! ## Locks and sessions -/

theorem acquireRepoLockForAdopt_eq {dir : PathBuf} {lockIo : LockIo} :
    (match r.acquireRepoLockForAdopt host dir lockIo with
      | .ok r' => r'
      | .error _ => r) =
      { r with
        repoLocks :=
          if lockIo = .acquired then insert (repoHash host dir) r.repoLocks else r.repoLocks } := by
  rw [acquireRepoLockForAdopt]
  by_cases hheld : repoHash host dir ∈ r.repoLocks
  · rw [if_pos hheld, Finset.insert_eq_of_mem hheld]
    simp
  · rw [if_neg hheld]
    unfold acquireRepoLock
    dsimp only
    rw [if_neg hheld]
    cases lockIo with
    | acquired => rfl
    | createDirFails | createFileFails | heldElsewhere => rfl

theorem foldl_reacquire (host : Host) (io : ReconcileIo) (r : RunRegistry) (l : List RunEntry) :
    ∃ locks,
    l.foldl (fun r e =>
      match r.acquireRepoLockForAdopt host e.repoDir (io.lockIo e.runId) with
      | .ok r' => r'
      | .error _ => r) r = { r with repoLocks := locks } ∧
    ∀ hash, hash ∈ locks ↔ hash ∈ r.repoLocks ∨
      ∃ e ∈ l, io.lockIo e.runId = .acquired ∧ repoHash host e.repoDir = hash := by
  induction l generalizing r with
  | nil => exact ⟨r.repoLocks, rfl, by simp⟩
  | cons e l ih =>
    rw [List.foldl_cons, acquireRepoLockForAdopt_eq]
    obtain ⟨locks, heq, hlocks⟩ := ih
      { r with
        repoLocks :=
          if io.lockIo e.runId = .acquired then insert (repoHash host e.repoDir) r.repoLocks
          else r.repoLocks }
    refine ⟨locks, heq, fun hash => ?_⟩
    rw [hlocks]
    by_cases hacquired : io.lockIo e.runId = .acquired
    · simp [hacquired, or_left_comm, or_assoc, eq_comm]
    · simp [hacquired]

/-- Step 0 only acquires locks. -/
theorem reacquireLocks_eq (host : Host) (io : ReconcileIo) (r : RunRegistry) :
    ∃ locks, r.reacquireLocks host io = { r with repoLocks := locks } ∧
    ∀ hash, hash ∈ locks ↔ hash ∈ r.repoLocks ∨
      ∃ e ∈ r.listRuns false, e.status = .running ∧ io.lockIo e.runId = .acquired ∧
        repoHash host e.repoDir = hash := by
  obtain ⟨locks, heq, hlocks⟩ :=
    foldl_reacquire host io r ((r.listRuns false).filter fun e => e.status = .running)
  refine ⟨locks, heq, fun hash => ?_⟩
  rw [hlocks]
  simp only [List.mem_filter, decide_eq_true_eq, and_assoc]

theorem stripPrefix_eq_some {pre s rest : List Char} :
    Text.stripPrefix pre s = some rest ↔ s = pre ++ rest := by
  rw [Text.stripPrefix]
  induction pre generalizing s with
  | nil => simp [List.isPrefixOf?, eq_comm]
  | cons c pre ih =>
    cases s with
    | nil => simp [List.isPrefixOf?]
    | cons d s =>
      by_cases hcd : c = d
      · simp [List.isPrefixOf?, hcd, ih]
      · simp [List.isPrefixOf?, hcd, Ne.symm hcd]

theorem canonicalId_eq_some {name canonical : String} :
    canonicalId name = some canonical ↔ name = "gw-" ++ canonical := by
  rw [canonicalId, Option.map_eq_some_iff]
  constructor
  · rintro ⟨rest, hrest, rfl⟩
    rw [stripPrefix_eq_some] at hrest
    apply String.toList_inj.mp
    rw [hrest, String.toList_append]
    exact congrArg _ String.toList_ofList.symm
  · rintro rfl
    refine ⟨canonical.toList, ?_, String.ofList_toList⟩
    rw [stripPrefix_eq_some, String.toList_append]

/-- What is on disk was loaded, so there is nothing to adopt for a session without a run. -/
theorem tryAdoptOrphan_eq_none {tmuxName : String} (hkeyed : r.Keyed)
    (hloaded : ∀ dir, (disk.metas.lookup dir).isSome = true → (r.get dir).isSome = true)
    (hfind : r.findRunByTmuxSession tmuxName = none) :
    r.tryAdoptOrphan host io disk tmuxName = none := by
  rw [findRunByTmuxSession, Option.map_eq_none_iff, List.find?_eq_none] at hfind
  rw [tryAdoptOrphan]
  cases hstrip : Text.stripPrefix "gw-".toList tmuxName.toList with
  | none => rfl
  | some rest =>
    have hcanonical : canonicalId tmuxName = some (String.ofList rest) := by
      rw [canonicalId, hstrip, Option.map_some]
    rw [canonicalId_eq_some] at hcanonical
    have hget : r.get (String.ofList rest) = none := by
      cases hget : r.get (String.ofList rest) with
      | none => rfl
      | some e =>
        have hid := hkeyed _ e hget
        have hmem : e ∈ r.listRuns true := by
          rw [mem_listRuns hkeyed, hid]
          exact ⟨hget, .inl rfl⟩
        exact absurd (by simp [hid, hcanonical]) (hfind e hmem)
    have hlookup : disk.metas.lookup (String.ofList rest) = none := by
      rw [← Option.not_isSome_iff_eq_none]
      intro hsome
      have hknown := hloaded _ hsome
      rw [hget] at hknown
      cases hknown
    simp [hget, hlookup]

theorem processSessions_eq (hkeyed : r.Keyed)
    (hloaded : ∀ dir, (disk.metas.lookup dir).isSome = true → (r.get dir).isSome = true) :
    r.processSessions host io disk = r := by
  rw [processSessions]
  induction io.liveSessions with
  | nil => rfl
  | cons tmuxName names ih =>
    rw [List.foldl_cons]
    cases hfind : r.findRunByTmuxSession tmuxName with
    | some found => exact ih
    | none =>
      dsimp only
      rw [tryAdoptOrphan_eq_none hkeyed hloaded hfind, Option.getD_none]
      exact ih

/-! ## Stale runs -/

/-- What becomes of a stale run. -/
def staleFate (io : ReconcileIo) (e : RunEntry) : RunStatus :=
  if io.hasCheckpoint e.repoDir || e.restartable then .running else .failed

theorem settles_settleStale (hget : r.get e.runId = some e') (hkept : e.Kept e')
    (hactive : e'.status.isTerminal = false) (ht : t e.runId = staleFate io e) :
    Settles host t [e.runId] r (r.settleStale host io e.runId e.repoDir) := by
  have hrunning : ∀ {r' : RunRegistry} {phase : String}, Settles host t [] r r' →
      t e.runId = .running →
      Settles host t [e.runId] r
        (r'.updateStatus host e.runId .running (some phase) none io.now) := by
    intro r' phase hsettles hfate
    refine hsettles.trans (settles_updateStatus ?_ hfate)
    intro e₂ he₂
    obtain ⟨e₁, he₁, -, hstatus⟩ := hsettles.exists_of_get he₂
    rw [hget] at he₁
    cases he₁
    rw [if_neg List.not_mem_nil] at hstatus
    rw [hstatus]
    exact ⟨fun h => by rw [hactive] at h; exact absurd h.1 (by decide), fun h => nomatch h.2⟩
  rw [staleFate] at ht
  rw [settleStale]
  cases hcheckpoint : io.hasCheckpoint e.repoDir with
  | true =>
    rw [hcheckpoint, Bool.true_or, if_pos rfl] at ht
    exact hrunning (settles_modify _) ht
  | false =>
    rw [hcheckpoint, Bool.false_or] at ht
    have hrestartable : (r.get e.runId).any (·.restartable) = e.restartable := by
      rw [hget, Option.any_some, hkept.restartable]
    rw [hrestartable]
    cases hrestart : e.restartable with
    | true =>
      rw [hrestart, if_pos rfl] at ht
      exact hrunning ((settles_modify _).trans settles_resetCrashes) ht
    | false =>
      rw [hrestart, if_neg Bool.false_ne_true] at ht
      exact settles_updateStatus (fun e₁ _ => RunStatus.canBecome_of_isTerminal rfl) ht

theorem settles_foldl_settleStale {l : List RunEntry} (hnodup : (l.map (·.runId)).Nodup)
    (hactive : ∀ e ∈ l, ∃ e', r.get e.runId = some e' ∧ e.Kept e' ∧ e'.status.isTerminal = false)
    (ht : ∀ e ∈ l, t e.runId = staleFate io e) :
    Settles host t (l.map (·.runId)) r
      (l.foldl (fun r e => r.settleStale host io e.runId e.repoDir) r) := by
  induction l generalizing r with
  | nil => exact .refl r
  | cons e l ih =>
    rw [List.map_cons, List.nodup_cons] at hnodup
    obtain ⟨hnot, hnodup⟩ := hnodup
    obtain ⟨hfirst, hrest⟩ := List.forall_mem_cons.mp hactive
    obtain ⟨hfate, hfates⟩ := List.forall_mem_cons.mp ht
    obtain ⟨e', he', hkept, hstatus⟩ := hfirst
    have hstep : Settles host t [e.runId] r (r.settleStale host io e.runId e.repoDir) :=
      settles_settleStale he' hkept hstatus hfate
    refine hstep.trans (ih hnodup ?_ hfates)
    intro other hmem
    obtain ⟨e₁, he₁, hkept₁, hactive₁⟩ := hrest other hmem
    obtain ⟨e₂, he₂, hkept₂, hstatus₂⟩ := hstep.entry other.runId e₁ he₁
    refine ⟨e₂, he₂, hkept₁.trans hkept₂, ?_⟩
    have hne : other.runId ∉ [e.runId] := by
      rw [List.mem_singleton]
      intro heq
      exact hnot (heq ▸ List.mem_map_of_mem hmem)
    rw [hstatus₂, if_neg hne, hactive₁]

/-- The runs that step 4 settles, and what becomes of them. -/
def staleIds (io : ReconcileIo) (r : RunRegistry) : List String :=
  (r.findStaleRuns io).map (·.runId)

def fateOf (io : ReconcileIo) (r : RunRegistry) (id : String) : RunStatus :=
  (r.get id).elim .failed (staleFate io)

theorem isTerminal_of_isStale (h : r.isStale io e = true) : e.status.isTerminal = false := by
  simp only [isStale, Bool.and_eq_true, Bool.not_eq_true'] at h
  exact h.1.1.1

theorem mem_staleIds (hkeyed : r.Keyed) :
    id ∈ r.staleIds io ↔ ∃ e, r.get id = some e ∧ r.isStale io e = true := by
  simp only [staleIds, findStaleRuns, List.mem_map, List.mem_filter, mem_listRuns hkeyed]
  constructor
  · rintro ⟨e, ⟨⟨hget, -⟩, hstale⟩, rfl⟩
    exact ⟨e, hget, hstale⟩
  · rintro ⟨e, hget, hstale⟩
    obtain rfl := hkeyed id e hget
    exact ⟨e, ⟨⟨hget, .inr (isTerminal_of_isStale hstale)⟩, hstale⟩, rfl⟩

theorem settles_settleStaleRuns (hkeyed : r.Keyed) :
    Settles host (r.fateOf io) (r.staleIds io) r (r.settleStaleRuns host io) := by
  have hmem : ∀ e ∈ r.findStaleRuns io, r.get e.runId = some e ∧ e.status.isTerminal = false := by
    intro e he
    rw [findStaleRuns, List.mem_filter, mem_listRuns hkeyed] at he
    exact ⟨he.1.1, isTerminal_of_isStale he.2⟩
  apply settles_foldl_settleStale
  · exact (nodup_listRuns hkeyed).sublist (List.filter_sublist.map _)
  · intro e he
    exact ⟨e, (hmem e he).1, .refl e, (hmem e he).2⟩
  · intro e he
    rw [fateOf, (hmem e he).1]
    rfl

@[simp] theorem updateStatus_pendingQueues :
    (r.updateStatus host runId status phase error now).pendingQueues = r.pendingQueues :=
  tryStage_pendingQueues ..

@[simp] theorem resetCrashes_pendingQueues :
    (r.resetCrashes runId).pendingQueues = r.pendingQueues := by
  unfold resetCrashes
  split
  · rfl
  · rfl

@[simp] theorem settleStale_pendingQueues {dir : PathBuf} :
    (r.settleStale host io runId dir).pendingQueues = r.pendingQueues := by
  rw [settleStale]
  split
  · simp
  · split
    · simp
    · simp

theorem settleStaleRuns_pendingQueues :
    (r.settleStaleRuns host io).pendingQueues = r.pendingQueues := by
  rw [settleStaleRuns]
  induction r.findStaleRuns io generalizing r with
  | nil => rfl
  | cons e l ih => rw [List.foldl_cons, ih, settleStale_pendingQueues]

/-! ## Collisions -/

theorem resolveCollision_pendingQueues {group : String × List String} :
    (r.resolveCollision host io group).pendingQueues = r.pendingQueues := by
  rw [resolveCollision]
  cases canonicalId group.1 with
  | none => rfl
  | some canonical =>
    dsimp only
    split
    · generalize group.2 = members
      induction members generalizing r with
      | nil => rfl
      | cons runId members ih =>
        rw [List.foldl_cons, ih]
        split
        · rfl
        · exact updateStatus_pendingQueues
    · rfl

theorem resolveSessionNameCollisions_pendingQueues :
    (r.resolveSessionNameCollisions host io).pendingQueues = r.pendingQueues := by
  rw [resolveSessionNameCollisions]
  induction r.findSessionNameCollisions generalizing r with
  | nil => rfl
  | cons group groups ih => rw [List.foldl_cons, ih, resolveCollision_pendingQueues]

/-- The runs that a collision stops. -/
def losers (group : String × List String) : List String :=
  match canonicalId group.1 with
  | none => []
  | some canonical => if canonical ∈ group.2 then group.2.filter (· ≠ canonical) else []

theorem settles_foldl_stop {canonical : String} {l : List String} :
    Settles host (fun _ => .stopped) (l.filter (· ≠ canonical)) r
      (l.foldl (fun r runId =>
        if runId = canonical then r else r.updateStatus host runId .stopped none error now) r) := by
  induction l generalizing r with
  | nil => exact .refl r
  | cons runId l ih =>
    rw [List.foldl_cons]
    by_cases heq : runId = canonical
    · rw [if_pos heq, List.filter_cons_of_neg (by simpa using heq)]
      exact ih
    · rw [if_neg heq, List.filter_cons_of_pos (by simpa using heq)]
      have hstop : Settles host (fun _ => .stopped) [runId] r
          (r.updateStatus host runId .stopped none error now) :=
        settles_updateStatus (fun _ _ => RunStatus.canBecome_of_isTerminal rfl) rfl
      exact hstop.trans ih

theorem settles_resolveCollision (group : String × List String) :
    Settles host (fun _ => .stopped) (losers group) r (r.resolveCollision host io group) := by
  rw [losers, resolveCollision]
  cases canonicalId group.1 with
  | none => exact .refl r
  | some canonical =>
    dsimp only
    split
    · exact settles_foldl_stop
    · exact .refl r

/-- The runs that step 4.5 stops. -/
def ghostIds (r : RunRegistry) : List String := r.findSessionNameCollisions.flatMap losers

theorem settles_resolveSessionNameCollisions :
    Settles host (fun _ => .stopped) r.ghostIds r (r.resolveSessionNameCollisions host io) := by
  rw [ghostIds, resolveSessionNameCollisions]
  generalize r.findSessionNameCollisions = groups
  induction groups generalizing r with
  | nil => exact .refl r
  | cons group groups ih => exact (settles_resolveCollision group).trans ih

/-- The runs that claim a session. -/
def claimants (r : RunRegistry) (name : String) : List String :=
  ((r.listRuns false).filter (·.sessionName = name)).map (·.runId)

theorem mem_claimants {name : String} (hkeyed : r.Keyed) : id ∈ r.claimants name ↔
    ∃ e, r.get id = some e ∧ e.status.isTerminal = false ∧ e.sessionName = name := by
  simp only [claimants, List.mem_map, List.mem_filter, mem_listRuns hkeyed, decide_eq_true_eq]
  constructor
  · rintro ⟨e, ⟨⟨hget, hactive⟩, hname⟩, rfl⟩
    exact ⟨e, hget, hactive.resolve_left (by decide), hname⟩
  · rintro ⟨e, hget, hactive, hname⟩
    obtain rfl := hkeyed id e hget
    exact ⟨e, ⟨⟨hget, .inr hactive⟩, hname⟩, rfl⟩

theorem mem_findSessionNameCollisions {group : String × List String} (hkeyed : r.Keyed) :
    group ∈ r.findSessionNameCollisions ↔
      group.2 = r.claimants group.1 ∧ 1 < group.2.length := by
  simp only [findSessionNameCollisions, List.mem_filter, List.mem_map, List.mem_dedup,
    decide_eq_true_eq]
  refine and_congr_left fun hlength => ?_
  constructor
  · rintro ⟨name, -, rfl⟩
    rfl
  · intro hmembers
    have hne : group.2 ≠ [] := by
      intro hnil
      rw [hnil] at hlength
      cases hlength
    obtain ⟨id, hid⟩ := List.exists_mem_of_ne_nil group.2 hne
    rw [hmembers, mem_claimants hkeyed] at hid
    obtain ⟨e, hget, hactive, hname⟩ := hid
    have hmem : e ∈ r.listRuns false := by
      rw [mem_listRuns hkeyed, hkeyed id e hget]
      exact ⟨hget, .inr hactive⟩
    exact ⟨group.1, ⟨e, hmem, hname⟩, Prod.ext rfl hmembers.symm⟩

theorem one_lt_length_of_mem {l : List String} {a b : String} (ha : a ∈ l) (hb : b ∈ l)
    (hne : a ≠ b) : 1 < l.length := by
  rcases l with _ | ⟨first, _ | ⟨second, rest⟩⟩
  · cases ha
  · rw [List.mem_singleton] at ha hb
    exact absurd (ha.trans hb.symm) hne
  · exact Nat.succ_lt_succ (Nat.succ_pos _)

theorem mem_losers {group : String × List String} : id ∈ losers group ↔ id ∈ group.2 ∧
    ∃ canonical ∈ group.2, canonicalId group.1 = some canonical ∧ canonical ≠ id := by
  rw [losers]
  cases canonicalId group.1 with
  | none => simp
  | some canonical =>
    dsimp only
    split
    · next hmem =>
      rw [List.mem_filter, decide_eq_true_eq]
      constructor
      · rintro ⟨hid, hne⟩
        exact ⟨hid, canonical, hmem, rfl, hne.symm⟩
      · rintro ⟨hid, other, -, hother, hne⟩
        cases hother
        exact ⟨hid, hne.symm⟩
    · next hmem =>
      simp only [List.not_mem_nil, Option.some.injEq, false_iff, not_and, not_exists]
      rintro - other hother rfl
      exact absurd hother hmem

/-- A run that is not over claims the session of another one. -/
theorem mem_ghostIds (hkeyed : r.Keyed) : id ∈ r.ghostIds ↔
    ∃ e c, r.get id = some e ∧ e.status.isTerminal = false ∧ r.get c.runId = some c ∧
      c.status.isTerminal = false ∧ c.sessionName = e.sessionName ∧
      canonicalId e.sessionName = some c.runId ∧ c.runId ≠ id := by
  simp only [ghostIds, List.mem_flatMap, mem_losers, mem_findSessionNameCollisions hkeyed]
  constructor
  · rintro ⟨⟨name, members⟩, ⟨hmembers, -⟩, hid, canonical, hcanonical, hname, hne⟩
    dsimp only at hmembers hid hcanonical hname
    rw [hmembers, mem_claimants hkeyed] at hid hcanonical
    obtain ⟨e, hget, hactive, rfl⟩ := hid
    obtain ⟨c, hgetc, hactivec, hsame⟩ := hcanonical
    obtain rfl := hkeyed canonical c hgetc
    exact ⟨e, c, hget, hactive, hgetc, hactivec, hsame, hname, hne⟩
  · rintro ⟨e, c, hget, hactive, hgetc, hactivec, hsame, hname, hne⟩
    have hid : id ∈ r.claimants e.sessionName := (mem_claimants hkeyed).mpr ⟨e, hget, hactive, rfl⟩
    have hc : c.runId ∈ r.claimants e.sessionName :=
      (mem_claimants hkeyed).mpr ⟨c, hgetc, hactivec, hsame⟩
    exact ⟨(e.sessionName, r.claimants e.sessionName),
      ⟨rfl, one_lt_length_of_mem hc hid hne⟩, hid, c.runId, hc, hname, hne⟩

/-! ## Pending runs -/

/-- The plan or the repo of a pending run is gone. -/
def isGone (io : ReconcileIo) (p : PendingRun) : Bool :=
  !io.pathExists p.planPath || !io.pathExists p.repoDir

/-- The runs with a pending record that step 5 drops. -/
def droppedIds (io : ReconcileIo) (r : RunRegistry) : List String :=
  (r.pendingEntries.filter (isGone io)).map (·.runId)

theorem settles_removePending : Settles host t [] r (r.removePending runId) := by
  refine .of_get (fun id => ?_) rfl
  have hget : (r.removePending runId).get id = r.get id := rfl
  cases h : r.get id with
  | none => exact .inl ⟨hget.trans h, rfl⟩
  | some e => exact .inr ⟨e, e, rfl, hget.trans h, .refl e, rfl⟩

theorem settles_validatePending :
    Settles host (fun _ => .failed) (r.droppedIds io) r (r.validatePending host io) := by
  rw [droppedIds, validatePending]
  generalize r.pendingEntries = ps
  induction ps generalizing r with
  | nil => exact .refl r
  | cons p ps ih =>
    rw [List.foldl_cons]
    cases hgone : isGone io p with
    | false =>
      rw [List.filter_cons_of_neg (by simp [hgone]), if_neg (by simpa [isGone] using hgone)]
      exact ih
    | true =>
      have hfail {reason : Option String} : Settles host (fun _ => .failed) [p.runId] r
          ((r.removePending p.runId).updateStatus host p.runId .failed none reason io.now) :=
        settles_removePending.trans
          (settles_updateStatus (fun _ _ => RunStatus.canBecome_of_isTerminal rfl) rfl)
      rw [List.filter_cons_of_pos hgone, if_pos (by simpa [isGone] using hgone)]
      exact hfail.trans ih

end RunRegistry
end GreaterWill
