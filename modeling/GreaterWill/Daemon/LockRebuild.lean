import GreaterWill.Daemon.ReconcileSpec
import GreaterWill.Lib.Run

/-!
# The repo locks after a restart

`reconcile` takes the locks of the runs that were Running when the daemon stopped (step 0), and no
lock after that. A run that it sets Running later has none; a run that it ends releases the lock of
its repo, whoever holds it. So the locks are as they should be exactly if no stale queued run is
brought back, and of the repo of a run that goes on no other run is ended (`LocksRestorable`).
-/

namespace GreaterWill

/-- The Running entries hold the locks, one for each repo. -/
structure LocksConsistent (host : Host) (r : RunRegistry) : Prop where
  held : ∀ id e, r.get id = some e → e.status = .running → repoHash host e.repoDir ∈ r.repoLocks
  single : ∀ id e id' e', r.get id = some e → e.status = .running → r.get id' = some e' →
    e'.status = .running → repoHash host e'.repoDir = repoHash host e.repoDir → id' = id
  owned : ∀ hash ∈ r.repoLocks, ∃ id e, r.get id = some e ∧ e.status = .running ∧
    repoHash host e.repoDir = hash

namespace RunRegistry

section
variable (host : Host) (io : ReconcileIo) (r : RunRegistry) (e : RunEntry)

/-- Stale, without a checkpoint, and not to be started again. -/
def IsLost : Prop := r.isStale io e = true ∧ staleFate io e = .failed

/-- Queued or Running, and not lost. -/
def IsActive : Prop := e.status.isTerminal = false ∧ ¬ r.IsLost io e

/-- The session it claims is named after another active run that claims it. -/
def IsGhost : Prop :=
  r.IsActive io e ∧ ∃ c, r.get c.runId = some c ∧ r.IsActive io c ∧
    c.sessionName = e.sessionName ∧ e.sessionName = "gw-" ++ c.runId ∧ c.runId ≠ e.runId

/-- It has a pending record whose plan or repo is gone. -/
def IsDropped : Prop := ∃ p ∈ r.pendingEntries, p.runId = e.runId ∧ isGone io p = true

/-- The reconciler ends the run. -/
def IsEnded : Prop := r.IsLost io e ∨ r.IsGhost io e ∨ r.IsDropped io e

/-- The condition on the registry that was loaded. -/
structure LocksRestorable : Prop where
  /-- No queued run is brought back. -/
  queued : ∀ id e, r.get id = some e → e.status = .queued → r.isStale io e = true →
    r.IsEnded io e
  /-- The lock of a run that goes on is given. -/
  given : ∀ id e, r.get id = some e → e.status = .running → ¬ r.IsEnded io e →
    ∃ id' e', r.get id' = some e' ∧ e'.status = .running ∧ io.lockIo id' = .acquired ∧
      repoHash host e'.repoDir = repoHash host e.repoDir
  /-- Nothing else of its repo was Running or is ended. -/
  alone : ∀ id e, r.get id = some e → e.status = .running → ¬ r.IsEnded io e →
    ∀ id' e', r.get id' = some e' → repoHash host e'.repoDir = repoHash host e.repoDir →
      ¬ r.IsEnded io e' ∧ (e'.status = .running → id' = id)

end

variable {host : Host} {io : ReconcileIo} {disk : RunsDir} {r r' : RunRegistry} {id : String}
  {e e' : RunEntry}

/-! ## The passes together -/

/-- What the passes after step 0 do. -/
structure Reconciled (host : Host) (io : ReconcileIo) (r r' : RunRegistry) : Prop where
  entry : ∀ id e, r.get id = some e → ∃ e', r'.get id = some e' ∧ e.Kept e' ∧
    (r.IsDropped io e → e'.status = .failed) ∧
    (¬ r.IsDropped io e → r.IsGhost io e → e'.status = .stopped) ∧
    (¬ r.IsDropped io e → ¬ r.IsGhost io e →
      e'.status = if r.isStale io e then staleFate io e else e.status)
  absent : ∀ id, r.get id = none → r'.get id = none
  locks : ∀ hash, hash ∈ r'.repoLocks ↔ hash ∈ r.repoLocks ∧
    ∀ id e, r.get id = some e → r.IsEnded io e → repoHash host e.repoDir ≠ hash

theorem staleFate_cases (io : ReconcileIo) (e : RunEntry) :
    staleFate io e = .running ∨ staleFate io e = .failed := by
  rw [staleFate]
  split
  · exact .inl rfl
  · exact .inr rfl

/-- After step 4 the active runs are those that were not over and are not lost. -/
theorem isTerminal_settled
    (hstatus : e'.status = if r.isStale io e then staleFate io e else e.status) :
    e'.status.isTerminal = false ↔ r.IsActive io e := by
  rw [hstatus, IsActive, IsLost]
  cases hstale : r.isStale io e with
  | false => simp
  | true =>
    rw [if_pos rfl, isTerminal_of_isStale hstale]
    rcases staleFate_cases io e with hfate | hfate
    · simp [hfate, RunStatus.isTerminal]
    · simp [hfate, RunStatus.isTerminal]

theorem entry_settled (hkeyed : r.Keyed) (h : Settles host (r.fateOf io) (r.staleIds io) r r')
    (he : r.get id = some e) : ∃ e', r'.get id = some e' ∧ e.Kept e' ∧
      e'.status = if r.isStale io e then staleFate io e else e.status := by
  obtain ⟨e', he', hkept, hstatus⟩ := h.entry id e he
  refine ⟨e', he', hkept, ?_⟩
  rw [hstatus]
  have hmem : id ∈ r.staleIds io ↔ r.isStale io e = true := by
    rw [mem_staleIds hkeyed, he]
    simp
  have hfate : r.fateOf io id = staleFate io e := by
    rw [fateOf, he]
    rfl
  simp only [hmem, hfate]

theorem mem_ghostIds_settled (hkeyed : r.Keyed)
    (h : Settles host (r.fateOf io) (r.staleIds io) r r') (he : r.get id = some e) :
    id ∈ r'.ghostIds ↔ r.IsGhost io e := by
  rw [mem_ghostIds (h.keyed hkeyed), IsGhost]
  obtain ⟨e', he', hkept, hstatus⟩ := entry_settled hkeyed h he
  have hid := hkeyed id e he
  constructor
  · rintro ⟨e₁, c', he₁, hactive, hc', hactivec, hsame, hname, hne⟩
    rw [he'] at he₁
    cases he₁
    obtain ⟨c, hc, hkeptc, -⟩ := h.exists_of_get hc'
    obtain ⟨c₁, hc₁, -, hstatusc⟩ := entry_settled hkeyed h hc
    rw [hc'] at hc₁
    cases hc₁
    rw [canonicalId_eq_some, hkept.sessionName] at hname
    rw [hkeptc.sessionName, hkept.sessionName] at hsame
    rw [hkeptc.runId] at hc hname hne
    rw [← hid] at hne
    exact ⟨(isTerminal_settled hstatus).mp hactive, c, hc,
      (isTerminal_settled hstatusc).mp hactivec, hsame, hname, hne⟩
  · rintro ⟨hactive, c, hc, hactivec, hsame, hname, hne⟩
    obtain ⟨c', hc', hkeptc, hstatusc⟩ := entry_settled hkeyed h hc
    rw [← hkeptc.runId] at hc' hname hne
    rw [← hkeptc.sessionName, ← hkept.sessionName] at hsame
    rw [← hkept.sessionName] at hname
    rw [hid] at hne
    exact ⟨e', c', he', (isTerminal_settled hstatus).mpr hactive, hc',
      (isTerminal_settled hstatusc).mpr hactivec, hsame, canonicalId_eq_some.mpr hname, hne⟩

theorem mem_droppedIds (hqueues : r'.pendingQueues = r.pendingQueues) (hid : e.runId = id) :
    id ∈ r'.droppedIds io ↔ r.IsDropped io e := by
  have hpending : r'.pendingEntries = r.pendingEntries := by
    rw [pendingEntries, pendingEntries, hqueues]
  simp only [droppedIds, IsDropped, List.mem_map, List.mem_filter, hpending, hid, and_assoc]
  refine exists_congr fun p => and_congr_right fun _ => and_comm

theorem reconciled_passes (hkeyed : r.Keyed) :
    Reconciled host io r
      (((r.settleStaleRuns host io).resolveSessionNameCollisions host io).validatePending host
        io) := by
  have hstale : Settles host (r.fateOf io) (r.staleIds io) r (r.settleStaleRuns host io) :=
    settles_settleStaleRuns hkeyed
  have hqueues : ((r.settleStaleRuns host io).resolveSessionNameCollisions host io).pendingQueues =
      r.pendingQueues :=
    resolveSessionNameCollisions_pendingQueues.trans settleStaleRuns_pendingQueues
  have hghost : Settles host (fun _ => .stopped) (r.settleStaleRuns host io).ghostIds
      (r.settleStaleRuns host io)
      ((r.settleStaleRuns host io).resolveSessionNameCollisions host io) :=
    settles_resolveSessionNameCollisions
  generalize (r.settleStaleRuns host io) = r₁ at hstale hghost hqueues
  generalize (r₁.resolveSessionNameCollisions host io) = r₂ at hghost hqueues
  have hdrop : Settles host (fun _ => .failed) (r₂.droppedIds io) r₂ (r₂.validatePending host io) :=
    settles_validatePending
  have hmemStale {id : String} {e : RunEntry} (he : r.get id = some e) :
      id ∈ r.staleIds io ↔ r.isStale io e = true := by
    rw [mem_staleIds hkeyed, he]
    simp
  constructor
  · intro id e he
    obtain ⟨e₁, he₁, hkept₁, hstatus₁⟩ := entry_settled hkeyed hstale he
    obtain ⟨e₂, he₂, hkept₂, hstatus₂⟩ := hghost.entry id e₁ he₁
    obtain ⟨e₃, he₃, hkept₃, hstatus₃⟩ := hdrop.entry id e₂ he₂
    have hisghost := mem_ghostIds_settled hkeyed hstale he
    have hisdropped : id ∈ r₂.droppedIds io ↔ r.IsDropped io e :=
      mem_droppedIds hqueues (hkeyed id e he)
    refine ⟨e₃, he₃, (hkept₁.trans hkept₂).trans hkept₃, ?_, ?_, ?_⟩
    · intro hdropped
      rw [hstatus₃, if_pos (hisdropped.mpr hdropped)]
    · intro hdropped hg
      rw [hstatus₃, if_neg (mt hisdropped.mp hdropped), hstatus₂, if_pos (hisghost.mpr hg)]
    · intro hdropped hg
      rw [hstatus₃, if_neg (mt hisdropped.mp hdropped), hstatus₂, if_neg (mt hisghost.mp hg),
        hstatus₁]
  · intro id hnone
    exact hdrop.absent id (hghost.absent id (hstale.absent id hnone))
  · intro hash
    rw [hdrop.locks, hghost.locks, hstale.locks, and_assoc, and_assoc]
    refine and_congr_right fun _ => ?_
    constructor
    · rintro ⟨hs, hg, hd⟩ id e he hended
      obtain ⟨e₁, he₁, hkept₁, -⟩ := entry_settled hkeyed hstale he
      obtain ⟨e₂, he₂, hkept₂, -⟩ := hghost.entry id e₁ he₁
      rcases hended with hlost | hisghost | hdropped
      · refine hs id ((hmemStale he).mpr hlost.1) ?_ e he
        rw [fateOf, he]
        exact (congrArg RunStatus.isTerminal hlost.2).trans rfl
      · rw [← hkept₁.repoDir]
        exact hg id ((mem_ghostIds_settled hkeyed hstale he).mpr hisghost) rfl e₁ he₁
      · rw [← hkept₁.repoDir, ← hkept₂.repoDir]
        exact hd id ((mem_droppedIds hqueues (hkeyed id e he)).mpr hdropped) rfl e₂ he₂
    · intro hall
      refine ⟨?_, ?_, ?_⟩
      · intro id hmem hterminal e he
        apply hall id e he
        rw [fateOf, he] at hterminal
        have hfate : staleFate io e = .failed := by
          rcases staleFate_cases io e with h | h
          · rw [Option.elim_some, h] at hterminal
            cases hterminal
          · exact h
        exact .inl ⟨(hmemStale he).mp hmem, hfate⟩
      · intro id hmem _ e₁ he₁
        obtain ⟨e, he, hkept, -⟩ := hstale.exists_of_get he₁
        rw [hkept.repoDir]
        exact hall id e he (.inr (.inl ((mem_ghostIds_settled hkeyed hstale he).mp hmem)))
      · intro id hmem _ e₂ he₂
        obtain ⟨e₁, he₁, hkept₂, -⟩ := hghost.exists_of_get he₂
        obtain ⟨e, he, hkept₁, -⟩ := hstale.exists_of_get he₁
        rw [hkept₂.repoDir, hkept₁.repoDir]
        exact hall id e he (.inr (.inr ((mem_droppedIds hqueues (hkeyed id e he)).mp hmem)))

/-- The whole of `reconcile`: step 0 takes locks, step 2 does nothing, and the passes follow. -/
theorem exists_locks_reconcile (hkeyed : r.Keyed) (hempty : r.repoLocks = ∅)
    (hloaded : ∀ dir, (disk.metas.lookup dir).isSome = true → (r.get dir).isSome = true) :
    ∃ locks, Reconciled host io { r with repoLocks := locks } (r.reconcile host io disk) ∧
      ∀ hash, hash ∈ locks ↔ ∃ id e, r.get id = some e ∧ e.status = .running ∧
        io.lockIo id = .acquired ∧ repoHash host e.repoDir = hash := by
  obtain ⟨locks, hreacquire, hlock⟩ := reacquireLocks_eq host io r
  have hkeyed' : RunRegistry.Keyed { r with repoLocks := locks } := hkeyed
  refine ⟨locks, ?_, fun hash => ?_⟩
  · rw [reconcile]
    rw [hreacquire, processSessions_eq hkeyed' hloaded]
    exact reconciled_passes hkeyed'
  · rw [hlock, hempty]
    simp only [Finset.notMem_empty, false_or, mem_listRuns hkeyed]
    constructor
    · rintro ⟨e, ⟨hget, -⟩, hrunning, hacquired, hhash⟩
      exact ⟨e.runId, e, hget, hrunning, hacquired, hhash⟩
    · rintro ⟨id, e, hget, hrunning, hacquired, hhash⟩
      obtain rfl := hkeyed id e hget
      exact ⟨e, ⟨hget, .inr (by rw [hrunning]; rfl)⟩, hrunning, hacquired, hhash⟩

namespace Reconciled

/-- The runs that are Running afterwards. -/
theorem running_iff (h : Reconciled host io r r') (he : r.get id = some e)
    (he' : r'.get id = some e') : e'.status = .running ↔
      ¬ r.IsEnded io e ∧ (e.status = .running ∨ e.status = .queued ∧ r.isStale io e = true) := by
  obtain ⟨e₁, he₁, -, hdropped, hghost, hrest⟩ := h.entry id e he
  rw [he'] at he₁
  cases he₁
  by_cases hd : r.IsDropped io e
  · simp [hdropped hd, IsEnded, hd]
  by_cases hg : r.IsGhost io e
  · simp [hghost hd hg, IsEnded, hg]
  rw [hrest hd hg, IsEnded, IsLost]
  cases hstale : r.isStale io e with
  | false => simp [hd, hg]
  | true =>
    have hactive :=
      RunStatus.not_isTerminal.mp (Bool.eq_false_iff.mp (isTerminal_of_isStale hstale))
    rw [if_pos rfl]
    rcases staleFate_cases io e with hfate | hfate
    · simpa [hfate, hd, hg] using hactive.symm
    · simp [hfate]

theorem exists_of_get (h : Reconciled host io r r') (he' : r'.get id = some e') :
    ∃ e, r.get id = some e ∧ e.Kept e' := by
  cases he : r.get id with
  | none =>
    rw [h.absent id he] at he'
    cases he'
  | some e =>
    obtain ⟨e₁, he₁, hkept, -⟩ := h.entry id e he
    rw [he'] at he₁
    cases he₁
    exact ⟨e, rfl, hkept⟩

theorem locksConsistent_of_restorable {locks : Finset String}
    (h : Reconciled host io { r with repoLocks := locks } r')
    (hlocks : ∀ hash, hash ∈ locks ↔ ∃ id e, r.get id = some e ∧ e.status = .running ∧
      io.lockIo id = .acquired ∧ repoHash host e.repoDir = hash)
    (hrestorable : r.LocksRestorable host io) : LocksConsistent host r' := by
  -- a run that is Running afterwards was Running before
  have hbefore {id : String} {e' : RunEntry} (he' : r'.get id = some e')
      (hrunning : e'.status = .running) : ∃ e, r.get id = some e ∧ e.Kept e' ∧
        e.status = .running ∧ ¬ r.IsEnded io e := by
    obtain ⟨e, he, hkept⟩ := h.exists_of_get he'
    obtain ⟨hended, hwas | ⟨hqueued, hstale⟩⟩ := (h.running_iff he he').mp hrunning
    · exact ⟨e, he, hkept, hwas, hended⟩
    · exact absurd (hrestorable.queued id e he hqueued hstale) hended
  constructor
  · intro id e' he' hrunning
    obtain ⟨e, he, hkept, hwas, hended⟩ := hbefore he' hrunning
    obtain ⟨id₁, e₁, he₁, hrunning₁, hacquired, hhash⟩ := hrestorable.given id e he hwas hended
    rw [hkept.repoDir, h.locks]
    refine ⟨(hlocks _).mpr ⟨id₁, e₁, he₁, hrunning₁, hacquired, hhash⟩, ?_⟩
    intro id₂ e₂ he₂ hended₂ hsame
    exact (hrestorable.alone id e he hwas hended id₂ e₂ he₂ hsame).1 hended₂
  · intro id e' id₂ e₂' he' hrunning he₂' hrunning₂ hsame
    obtain ⟨e, he, hkept, hwas, hended⟩ := hbefore he' hrunning
    obtain ⟨e₂, he₂, hkept₂, hwas₂, -⟩ := hbefore he₂' hrunning₂
    rw [hkept.repoDir, hkept₂.repoDir] at hsame
    exact (hrestorable.alone id e he hwas hended id₂ e₂ he₂ hsame).2 hwas₂
  · intro hash hmem
    obtain ⟨hheld, hall⟩ := (h.locks hash).mp hmem
    obtain ⟨id, e, he, hwas, -, hhash⟩ := (hlocks hash).mp hheld
    obtain ⟨e', he', hkept, -⟩ := h.entry id e he
    have hended : ¬ r.IsEnded io e := fun hended => hall id e he hended hhash
    refine ⟨id, e', he', (h.running_iff he he').mpr ⟨hended, .inl hwas⟩, ?_⟩
    rw [hkept.repoDir, hhash]

theorem restorable_of_locksConsistent {locks : Finset String}
    (h : Reconciled host io { r with repoLocks := locks } r')
    (hlocks : ∀ hash, hash ∈ locks ↔ ∃ id e, r.get id = some e ∧ e.status = .running ∧
      io.lockIo id = .acquired ∧ repoHash host e.repoDir = hash)
    (H : LocksConsistent host r') : r.LocksRestorable host io := by
  have hafter {id : String} {e : RunEntry} (he : r.get id = some e) (hended : ¬ r.IsEnded io e)
      (hwas : e.status = .running ∨ e.status = .queued ∧ r.isStale io e = true) :
      ∃ e', r'.get id = some e' ∧ e.Kept e' ∧ e'.status = .running := by
    obtain ⟨e', he', hkept, -⟩ := h.entry id e he
    exact ⟨e', he', hkept, (h.running_iff he he').mpr ⟨hended, hwas⟩⟩
  -- the lock it holds afterwards was taken for a run that goes on; no run of the repo is ended
  have hlock {id : String} {e : RunEntry} (he : r.get id = some e) (hended : ¬ r.IsEnded io e)
      (hwas : e.status = .running ∨ e.status = .queued ∧ r.isStale io e = true) :
      (∃ id₁ e₁, r.get id₁ = some e₁ ∧ e₁.status = .running ∧ io.lockIo id₁ = .acquired ∧
        repoHash host e₁.repoDir = repoHash host e.repoDir) ∧
      ∀ id₂ e₂, r.get id₂ = some e₂ → repoHash host e₂.repoDir = repoHash host e.repoDir →
        ¬ r.IsEnded io e₂ := by
    obtain ⟨e', he', hkept, hrunning⟩ := hafter he hended hwas
    obtain ⟨hheld, hall⟩ := (h.locks _).mp (H.held id e' he' hrunning)
    rw [hkept.repoDir] at hheld hall
    refine ⟨(hlocks _).mp hheld, ?_⟩
    intro id₂ e₂ he₂ hsame hended₂
    exact hall id₂ e₂ he₂ hended₂ hsame
  -- two runs of a repo are not both Running afterwards
  have hone {id id₂ : String} {e e₂ : RunEntry} (he : r.get id = some e) (he₂ : r.get id₂ = some e₂)
      (hwas : e.status = .running ∨ e.status = .queued ∧ r.isStale io e = true)
      (hwas₂ : e₂.status = .running) (hended : ¬ r.IsEnded io e)
      (hsame : repoHash host e₂.repoDir = repoHash host e.repoDir) : id₂ = id := by
    have hended₂ := (hlock he hended hwas).2 id₂ e₂ he₂ hsame
    obtain ⟨e', he', hkept, hrunning⟩ := hafter he hended hwas
    obtain ⟨e₂', he₂', hkept₂, hrunning₂⟩ := hafter he₂ hended₂ (.inl hwas₂)
    apply H.single id e' id₂ e₂' he' hrunning he₂' hrunning₂
    rw [hkept.repoDir, hkept₂.repoDir, hsame]
  constructor
  · intro id e he hqueued hstale
    by_contra hended
    have hwas : e.status = .running ∨ e.status = .queued ∧ r.isStale io e = true :=
      .inr ⟨hqueued, hstale⟩
    obtain ⟨⟨id₁, e₁, he₁, hrunning₁, -, hsame⟩, -⟩ := hlock he hended hwas
    obtain rfl := hone he he₁ hwas hrunning₁ hended hsame
    rw [he] at he₁
    cases he₁
    rw [hqueued] at hrunning₁
    cases hrunning₁
  · intro id e he hrunning hended
    exact (hlock he hended (.inl hrunning)).1
  · intro id e he hrunning hended id₂ e₂ he₂ hsame
    exact ⟨(hlock he hended (.inl hrunning)).2 id₂ e₂ he₂ hsame,
      fun hrunning₂ => hone he he₂ (.inl hrunning) hrunning₂ hended hsame⟩

end Reconciled

end RunRegistry

open RunRegistry

/-- After a restart the locks are those of the Running runs exactly if, in the registry that is
loaded, no queued run is brought back, the lock of every run that goes on is given, and beside it no
run of its repo is ended or was Running. -/
theorem locksConsistent_reconcile_iff (host : Host) (io : ReconcileIo) (disk : RunsDir)
    (wire : QueueSnapshotWire) :
    LocksConsistent host ((restored disk wire).reconcile host io disk) ↔
      (restored disk wire).LocksRestorable host io := by
  have hloaded : ∀ dir, (disk.metas.lookup dir).isSome = true →
      ((restored disk wire).get dir).isSome = true := by
    intro dir h
    rwa [get_restored]
  have hrebuilt : ∃ locks, Reconciled host io { restored disk wire with repoLocks := locks }
      ((restored disk wire).reconcile host io disk) ∧
      ∀ hash, hash ∈ locks ↔ ∃ id e, (restored disk wire).get id = some e ∧
        e.status = .running ∧ io.lockIo id = .acquired ∧ repoHash host e.repoDir = hash :=
    exists_locks_reconcile keyed_restored restored_repoLocks hloaded
  obtain ⟨locks, h, hlocks⟩ := hrebuilt
  exact ⟨h.restorable_of_locksConsistent hlocks, h.locksConsistent_of_restorable hlocks⟩

/-- A run that was registered and not started before the daemon died. -/
def notStarted : RunsDir :=
  .writeMeta .empty (.registered "a" "one.md" "/r" none none none 0)

/-- No session is alive, no run has a checkpoint, and every lock is free. -/
def ReconcileIo.quiet : ReconcileIo where
  lockIo _ := .acquired
  liveSessions := []
  loopPlan _ := none
  skipPlanMatch := false
  hasCheckpoint _ := false
  pathExists _ := true
  now := 0

/-- No run is Running when the daemon comes up; the restart sets the run Running without its
lock. -/
theorem notStarted_unlocked :
    (∀ id e, (restored notStarted ⟨∅, ∅⟩).get id = some e → e.status = .queued) ∧
      ¬ LocksConsistent .plain
        ((restored notStarted ⟨∅, ∅⟩).reconcile .plain .quiet notStarted) := by
  refine ⟨fun id e he => ?_, fun h => ?_⟩
  · rw [get_restored, notStarted, RunsDir.writeMeta, AList.lookup_insert_eq_ite] at he
    split at he
    · cases he
      rfl
    · cases he
  obtain ⟨e, he, hrunning, hlock⟩ := exists_of_any
    (o := ((restored notStarted ⟨∅, ∅⟩).reconcile .plain .quiet notStarted).get "a")
    (P := fun e => e.status = .running ∧ repoHash .plain e.repoDir ∉
      ((restored notStarted ⟨∅, ∅⟩).reconcile .plain .quiet notStarted).repoLocks) (by decide)
  exact hlock (h.held "a" e he hrunning)

end GreaterWill
