import GreaterWill.Daemon.Registry
import Mathlib.Data.Finset.Basic

/-!
# What the methods of the registry do

For each method, what it does to the entries, to the repo locks and to the queues, so that the
invariants never unfold it. An entry changes only as `RunEntry.Evolves` says; a queue that no run is
added to loses runs, `QueuesShrink`.
-/

namespace GreaterWill

/-! ## How an entry changes -/

/-- The guard of `stage_status_locked`. -/
def RunStatus.CanBecome (source target : RunStatus) : Prop :=
  ¬ (source.isTerminal ∧ ¬ target.isTerminal) ∧ ¬ (source = .running ∧ target = .queued)

instance (source target : RunStatus) : Decidable (source.CanBecome target) :=
  inferInstanceAs (Decidable (_ ∧ _))

theorem RunStatus.canBecome_of_isTerminal {source target : RunStatus}
    (h : target.isTerminal = true) : source.CanBecome target := by
  cases target <;> simp_all [CanBecome, isTerminal]

/-- The entry changes as the registry changes entries. A terminal status is staged on the way only
if `ends`, the status Running or a tmux session is set only if `starts`. -/
inductive RunEntry.Evolves (ends starts : Prop) : RunEntry → RunEntry → Prop
  | refl (e) : Evolves ends starts e e
  | patch (e p) : (p.tmuxSession.isSome = true → starts) → Evolves ends starts e (e.patch p)
  | promote (e now) : Evolves ends starts e (e.promote now)
  | stage (e status phase error now) : e.status.CanBecome status →
    (status.isTerminal = true → ends) → (status = .running → starts) →
    Evolves ends starts e (e.stage status phase error now)
  | trans {e₁ e₂ e₃} : Evolves ends starts e₁ e₂ → Evolves ends starts e₂ e₃ →
    Evolves ends starts e₁ e₃

namespace RunEntry.Evolves

variable {ends starts ends' starts' : Prop} {e e' : RunEntry}

theorem mono (hends : ends → ends') (hstarts : starts → starts')
    (h : Evolves ends starts e e') : Evolves ends' starts' e e' := by
  induction h with
  | refl e => exact .refl e
  | patch e p ht => exact .patch e p fun h => hstarts (ht h)
  | promote e now => exact .promote e now
  | stage e status phase error now hcan ht hr =>
    exact .stage _ _ _ _ _ hcan (fun h => hends (ht h)) (fun h => hstarts (hr h))
  | trans _ _ ih₁ ih₂ => exact ih₁.trans ih₂

theorem repoDir_eq (h : Evolves ends starts e e') : e'.repoDir = e.repoDir := by
  induction h with
  | refl | patch | promote | stage => rfl
  | trans _ _ ih₁ ih₂ => rw [ih₂, ih₁]

theorem runId_eq (h : Evolves ends starts e e') : e'.runId = e.runId := by
  induction h with
  | refl | patch | promote | stage => rfl
  | trans _ _ ih₁ ih₂ => rw [ih₂, ih₁]

theorem tmuxSession_eq (h : Evolves ends starts e e') (hstarts : ¬ starts) :
    e'.tmuxSession = e.tmuxSession := by
  induction h with
  | refl | promote | stage => rfl
  | patch e p ht =>
    rw [RunEntry.patch_tmuxSession]
    cases hp : p.tmuxSession with
    | none => rfl
    | some t => exact absurd (ht (by simp [hp])) hstarts
  | trans _ _ ih₁ ih₂ => rw [ih₂, ih₁]

theorem isTerminal (h : Evolves ends starts e e') (ht : e.status.isTerminal = true) :
    e'.status.isTerminal = true := by
  induction h with
  | refl | patch | promote => exact ht
  | stage e status phase error now hcan =>
    by_contra hnot
    exact hcan.1 ⟨ht, hnot⟩
  | trans _ _ ih₁ ih₂ => exact ih₂ (ih₁ ht)

/-- An entry that has left the status Queued does not come back to it. -/
theorem queued_of_queued (h : Evolves ends starts e e') (hq : e'.status = .queued) :
    e.status = .queued := by
  induction h with
  | refl | patch | promote => exact hq
  | stage e status phase error now hcan =>
    obtain rfl : status = .queued := hq
    cases hst : e.status with
    | queued => rfl
    | running => exact absurd ⟨hst, rfl⟩ hcan.2
    | succeeded | failed | stopped =>
      refine absurd ⟨?_, by simp [RunStatus.isTerminal]⟩ hcan.1
      simp [hst, RunStatus.isTerminal]
  | trans _ _ ih₁ ih₂ => exact ih₁ (ih₂ hq)

theorem isTerminal_of_not_ends (h : Evolves ends starts e e') (hends : ¬ ends)
    (ht : e'.status.isTerminal = true) : e.status.isTerminal = true := by
  induction h with
  | refl | patch | promote => exact ht
  | stage e status phase error now hcan hterm => exact absurd (hterm ht) hends
  | trans _ _ ih₁ ih₂ => exact ih₁ (ih₂ ht)

theorem running_of_not_starts (h : Evolves ends starts e e') (hstarts : ¬ starts)
    (hr : e'.status = .running) : e.status = .running := by
  induction h with
  | refl | patch | promote => exact hr
  | stage e status phase error now hcan hterm hrun => exact absurd (hrun hr) hstarts
  | trans _ _ ih₁ ih₂ => exact ih₁ (ih₂ hr)

/-- A terminal entry for which no terminal status is staged keeps its outcome. -/
theorem outcome_eq (h : Evolves ends starts e e') (hends : ¬ ends)
    (ht : e.status.isTerminal = true) :
    e'.status = e.status ∧ e'.finishedAt = e.finishedAt ∧ e'.errorMessage = e.errorMessage := by
  induction h with
  | refl | patch | promote => exact ⟨rfl, rfl, rfl⟩
  | stage e status phase error now hcan hterm =>
    refine absurd ⟨ht, fun h => hends (hterm h)⟩ hcan.1
  | trans h₁ _ ih₁ ih₂ =>
    obtain ⟨hs₁, hf₁, he₁⟩ := ih₁ ht
    obtain ⟨hs₂, hf₂, he₂⟩ := ih₂ (h₁.isTerminal ht)
    exact ⟨hs₂.trans hs₁, hf₂.trans hf₁, he₂.trans he₁⟩

end RunEntry.Evolves

namespace RunRegistry

variable {host : Host} {r r' r'' : RunRegistry} {runId runId' hash : String} {dir : PathBuf}
  {now : DateTime} {entry : RunEntry} {status : RunStatus} {phase error : Option String}

/-- Every entry evolves and no entry is added. -/
structure RunsEvolve (ends starts : String → Prop) (r r' : RunRegistry) : Prop where
  evolves : ∀ runId e, r.get runId = some e →
    ∃ e', r'.get runId = some e' ∧ e.Evolves (ends runId) (starts runId) e'
  not_added : ∀ runId, r.get runId = none → r'.get runId = none

namespace RunsEvolve

variable {ends starts ends' starts' : String → Prop}

theorem of_get_eq (h : ∀ runId, r'.get runId = r.get runId) : RunsEvolve ends starts r r' :=
  ⟨fun runId e he => ⟨e, (h runId).trans he, .refl e⟩, fun runId he => (h runId).trans he⟩

theorem refl (r : RunRegistry) : RunsEvolve ends starts r r := of_get_eq fun _ => rfl

theorem trans (h₁ : RunsEvolve ends starts r r') (h₂ : RunsEvolve ends starts r' r'') :
    RunsEvolve ends starts r r'' where
  evolves runId e he := by
    obtain ⟨e', he', hev'⟩ := h₁.evolves runId e he
    obtain ⟨e'', he'', hev''⟩ := h₂.evolves runId e' he'
    exact ⟨e'', he'', hev'.trans hev''⟩
  not_added runId he := h₂.not_added runId (h₁.not_added runId he)

theorem of_runs_eq (hruns : r'.runs = r.runs) : RunsEvolve ends starts r r' :=
  of_get_eq fun runId => by rw [get, get, hruns]

/-- Only the entries of the registry matter. -/
theorem congr_right (h : RunsEvolve ends starts r r') (hruns : r''.runs = r'.runs) :
    RunsEvolve ends starts r r'' :=
  h.trans (of_runs_eq hruns)

theorem mono (hends : ∀ runId, ends runId → ends' runId)
    (hstarts : ∀ runId, starts runId → starts' runId) (h : RunsEvolve ends starts r r') :
    RunsEvolve ends' starts' r r' where
  evolves runId e he := by
    obtain ⟨e', he', hev⟩ := h.evolves runId e he
    exact ⟨e', he', hev.mono (hends runId) (hstarts runId)⟩
  not_added := h.not_added

theorem of_false (h : RunsEvolve (fun _ => False) (fun _ => False) r r') :
    RunsEvolve ends starts r r' :=
  h.mono (fun _ => False.elim) (fun _ => False.elim)

theorem isSome (h : RunsEvolve ends starts r r') (hsome : (r.get runId).isSome = true) :
    (r'.get runId).isSome = true := by
  obtain ⟨e, he⟩ := Option.isSome_iff_exists.mp hsome
  obtain ⟨e', he', -⟩ := h.evolves runId e he
  rw [he', Option.isSome_some]

/-- Every entry after comes from an entry before. -/
theorem exists_of_get {e' : RunEntry} (h : RunsEvolve ends starts r r')
    (he' : r'.get runId = some e') :
    ∃ e, r.get runId = some e ∧ e.Evolves (ends runId) (starts runId) e' := by
  cases he : r.get runId with
  | none =>
    rw [h.not_added runId he] at he'
    cases he'
  | some e =>
    obtain ⟨e'', he'', hev⟩ := h.evolves runId e he
    rw [he'', Option.some.injEq] at he'
    exact ⟨e, rfl, he' ▸ hev⟩

end RunsEvolve

/-- Runs leave the queues and none is added. -/
structure QueuesShrink (r r' : RunRegistry) : Prop where
  queue : ∀ hash, (r'.queue hash).Sublist (r.queue hash)
  pending : r'.pendingEntries.Subperm r.pendingEntries
  order : r'.repoInsertionOrder = r.repoInsertionOrder

namespace QueuesShrink

theorem of_eq (h : r'.pendingQueues = r.pendingQueues)
    (horder : r'.repoInsertionOrder = r.repoInsertionOrder) : QueuesShrink r r' where
  queue hash := by rw [RunRegistry.queue, h]; exact .refl _
  pending := by rw [pendingEntries, h]; exact .refl _
  order := horder

theorem refl (r : RunRegistry) : QueuesShrink r r := of_eq rfl rfl

theorem trans (h₁ : QueuesShrink r r') (h₂ : QueuesShrink r' r'') : QueuesShrink r r'' where
  queue hash := (h₂.queue hash).trans (h₁.queue hash)
  pending := h₂.pending.trans h₁.pending
  order := h₂.order.trans h₁.order

end QueuesShrink

/-! ## Repo locks -/

theorem acquireRepoLock_eq_ok {io : LockIo} : r.acquireRepoLock host dir io = .ok r' ↔
    repoHash host dir ∉ r.repoLocks ∧ io = .acquired ∧
      r' = { r with repoLocks := insert (repoHash host dir) r.repoLocks } := by
  by_cases h : repoHash host dir ∈ r.repoLocks
  · simp [acquireRepoLock, h]
  · cases io <;> simp [acquireRepoLock, h, eq_comm]

theorem hasRepoLock_eq_true : r.hasRepoLock host dir = true ↔ repoHash host dir ∈ r.repoLocks := by
  simp [hasRepoLock]

/-! ## Staging a status -/

/-- The registry after `entry` was staged. -/
def staged (host : Host) (r : RunRegistry) (runId : String) (entry : RunEntry)
    (status : RunStatus) (phase error : Option String) (now : DateTime) : RunRegistry :=
  { r with
    runs := r.runs.insert runId (entry.stage status phase error now)
    repoLocks :=
      if status.isTerminal then r.repoLocks.erase (repoHash host entry.repoDir) else r.repoLocks }

theorem stageStatusLocked_eq_ok {s : StagedStatus} :
    r.stageStatusLocked host runId status phase error now = .ok (s, r') ↔
      ∃ entry, r.get runId = some entry ∧ entry.status.CanBecome status ∧
        s = ⟨entry.stage status phase error now, entry.writeEpoch + 1⟩ ∧
        r' = r.staged host runId entry status phase error now := by
  cases hget : r.runs.lookup runId with
  | none => simp [stageStatusLocked, get, hget]
  | some entry =>
    by_cases hterm : entry.status.isTerminal ∧ ¬ status.isTerminal
    · simp [stageStatusLocked, get, hget, hterm, RunStatus.CanBecome]
    · by_cases hback : entry.status = .running ∧ status = .queued
      · simp [stageStatusLocked, get, hget, hback, RunStatus.CanBecome, RunStatus.isTerminal]
      · have hcan : entry.status.CanBecome status := ⟨hterm, hback⟩
        simp only [stageStatusLocked, get, hget, if_neg hterm, if_neg hback, Except.ok.injEq,
          Prod.mk.injEq, Option.some.injEq, exists_eq_left', hcan, true_and]
        exact and_congr eq_comm eq_comm

theorem get_eq_none_of_stage_error {e : UpdateStatusError} (hs : status.isTerminal = true)
    (h : r.stageStatusLocked host runId status phase error now = .error e) :
    r.get runId = none := by
  by_contra hget
  obtain ⟨entry, hget⟩ := Option.ne_none_iff_exists'.mp hget
  have hcan : entry.status.CanBecome status := RunStatus.canBecome_of_isTerminal hs
  rw [stageStatusLocked_eq_ok.mpr ⟨entry, hget, hcan, rfl, rfl⟩] at h
  cases h

theorem get_staged : (r.staged host runId entry status phase error now).get runId' =
    if runId' = runId then some (entry.stage status phase error now) else r.get runId' :=
  AList.lookup_insert_eq_ite

/-- The registry after an attempt to stage a status. -/
def tryStage (host : Host) (r : RunRegistry) (runId : String) (status : RunStatus)
    (phase error : Option String) (now : DateTime) : RunRegistry :=
  match r.stageStatusLocked host runId status phase error now with
  | .ok (_, r') => r'
  | .error _ => r

/-- Staging succeeds for an entry the guard lets pass, and else changes nothing. -/
theorem tryStage_cases (host : Host) (r : RunRegistry) (runId : String) (status : RunStatus)
    (phase error : Option String) (now : DateTime) :
    (∃ entry, r.get runId = some entry ∧ entry.status.CanBecome status ∧
      r.tryStage host runId status phase error now =
        r.staged host runId entry status phase error now) ∨
    ((∀ entry, r.get runId = some entry → ¬ entry.status.CanBecome status) ∧
      r.tryStage host runId status phase error now = r) := by
  unfold tryStage
  cases h : r.stageStatusLocked host runId status phase error now with
  | ok s =>
    obtain ⟨entry, hget, hcan, -, hs⟩ := stageStatusLocked_eq_ok.mp h
    exact .inl ⟨entry, hget, hcan, hs⟩
  | error e =>
    refine .inr ⟨fun entry hget hcan => ?_, rfl⟩
    rw [stageStatusLocked_eq_ok.mpr ⟨entry, hget, hcan, rfl, rfl⟩] at h
    cases h

theorem get_tryStage_of_ne (h : runId' ≠ runId) :
    (r.tryStage host runId status phase error now).get runId' = r.get runId' := by
  rcases tryStage_cases host r runId status phase error now with ⟨entry, -, -, heq⟩ | ⟨-, heq⟩
  · rw [heq, get_staged, if_neg h]
  · rw [heq]

theorem get_tryStage_of_isTerminal (hs : status.isTerminal = true) (h : r.get runId = some entry) :
    (r.tryStage host runId status phase error now).get runId =
      some (entry.stage status phase error now) := by
  rcases tryStage_cases host r runId status phase error now with ⟨e, he, -, heq⟩ | ⟨hnot, -⟩
  · obtain rfl : entry = e := Option.some_injective _ (h.symm.trans he)
    rw [heq, get_staged, if_pos rfl]
  · exact absurd (RunStatus.canBecome_of_isTerminal hs) (hnot entry h)

theorem tryStage_runsEvolve : RunsEvolve (fun id => id = runId ∧ status.isTerminal = true)
    (fun id => id = runId ∧ status = .running) r
    (r.tryStage host runId status phase error now) := by
  rcases tryStage_cases host r runId status phase error now with ⟨e, he, hcan, heq⟩ | ⟨-, heq⟩
  · rw [heq]
    constructor
    · intro id e' he'
      by_cases hid : id = runId
      · subst hid
        obtain rfl : e = e' := Option.some_injective _ (he.symm.trans he')
        exact ⟨_, by rw [get_staged, if_pos rfl], .stage _ _ _ _ _ hcan (⟨rfl, ·⟩) (⟨rfl, ·⟩)⟩
      · exact ⟨e', by rw [get_staged, if_neg hid, he'], .refl e'⟩
    · intro id hid
      have hne : id ≠ runId := by
        rintro rfl
        rw [he] at hid
        cases hid
      rw [get_staged, if_neg hne, hid]
  · rw [heq]
    exact .refl r

section
variable (host r runId status phase error now)

@[simp] theorem tryStage_pendingQueues :
    (r.tryStage host runId status phase error now).pendingQueues = r.pendingQueues := by
  rcases tryStage_cases host r runId status phase error now with ⟨e, -, -, heq⟩ | ⟨-, heq⟩
  · rw [heq]; rfl
  · rw [heq]

@[simp] theorem tryStage_consecutiveFailures :
    (r.tryStage host runId status phase error now).consecutiveFailures =
      r.consecutiveFailures := by
  rcases tryStage_cases host r runId status phase error now with ⟨e, -, -, heq⟩ | ⟨-, heq⟩
  · rw [heq]; rfl
  · rw [heq]

@[simp] theorem tryStage_repoInsertionOrder :
    (r.tryStage host runId status phase error now).repoInsertionOrder =
      r.repoInsertionOrder := by
  rcases tryStage_cases host r runId status phase error now with ⟨e, -, -, heq⟩ | ⟨-, heq⟩
  · rw [heq]; rfl
  · rw [heq]

end

theorem tryStage_repoLocks_subset :
    (r.tryStage host runId status phase error now).repoLocks ⊆ r.repoLocks := by
  rcases tryStage_cases host r runId status phase error now with ⟨e, -, -, heq⟩ | ⟨-, heq⟩
  · rw [heq, staged]
    dsimp only
    split
    · exact Finset.erase_subset _ _
    · exact Finset.Subset.refl _
  · rw [heq]

/-- Only the lock of the staged entry's repo is released. -/
theorem mem_repoLocks_tryStage (hmem : hash ∈ r.repoLocks)
    (hne : status.isTerminal = true → ∀ e, r.get runId = some e → repoHash host e.repoDir ≠ hash) :
    hash ∈ (r.tryStage host runId status phase error now).repoLocks := by
  rcases tryStage_cases host r runId status phase error now with ⟨e, he, -, heq⟩ | ⟨-, heq⟩
  · rw [heq, staged]
    dsimp only
    split
    · next hs => exact Finset.mem_erase.mpr ⟨(hne hs e he).symm, hmem⟩
    · exact hmem
  · rwa [heq]

/-- A terminal status releases the lock of the entry's repo. -/
theorem notMem_repoLocks_tryStage (he : r.get runId = some entry) (hs : status.isTerminal = true) :
    repoHash host entry.repoDir ∉ (r.tryStage host runId status phase error now).repoLocks := by
  rcases tryStage_cases host r runId status phase error now with ⟨e', he', -, heq⟩ | ⟨hnot, -⟩
  · obtain rfl : entry = e' := Option.some_injective _ (he.symm.trans he')
    rw [heq]
    change _ ∉ ite _ _ _
    rw [if_pos hs]
    exact Finset.notMem_erase _ _
  · exact absurd (RunStatus.canBecome_of_isTerminal hs) (hnot entry he)

/-! ## Stopping several runs -/

/-- The registry after an attempt to stop each of the runs. -/
def stopAll (host : Host) (reason : String) (now : DateTime) (r : RunRegistry)
    (runIds : List String) : RunRegistry :=
  runIds.foldl (fun r runId => r.tryStage host runId .stopped none (some reason) now) r

section
variable {reason : String} {runIds : List String}

theorem stageStopped_snd (host : Host) (reason : String) (now : DateTime) (r : RunRegistry)
    (runIds : List String) :
    (stageStopped host reason now r runIds).2 = stopAll host reason now r runIds := by
  induction runIds generalizing r with
  | nil => rfl
  | cons runId runIds ih =>
    unfold stageStopped
    rw [stopAll, List.foldl_cons, tryStage]
    cases h : r.stageStatusLocked host runId .stopped none (some reason) now with
    | ok s => exact ih _
    | error e => exact ih _

theorem stopAll_cons (runId : String) : stopAll host reason now r (runId :: runIds) =
    stopAll host reason now (r.tryStage host runId .stopped none (some reason) now) runIds := rfl

@[simp] theorem stopAll_pendingQueues :
    (stopAll host reason now r runIds).pendingQueues = r.pendingQueues := by
  induction runIds generalizing r with
  | nil => rfl
  | cons runId runIds ih => rw [stopAll_cons, ih, tryStage_pendingQueues]

@[simp] theorem stopAll_consecutiveFailures :
    (stopAll host reason now r runIds).consecutiveFailures = r.consecutiveFailures := by
  induction runIds generalizing r with
  | nil => rfl
  | cons runId runIds ih => rw [stopAll_cons, ih, tryStage_consecutiveFailures]

@[simp] theorem stopAll_repoInsertionOrder :
    (stopAll host reason now r runIds).repoInsertionOrder = r.repoInsertionOrder := by
  induction runIds generalizing r with
  | nil => rfl
  | cons runId runIds ih => rw [stopAll_cons, ih, tryStage_repoInsertionOrder]

theorem stopAll_runsEvolve : RunsEvolve (· ∈ runIds) (fun _ => False) r
    (stopAll host reason now r runIds) := by
  induction runIds generalizing r with
  | nil => exact .refl r
  | cons runId runIds ih =>
    have hfirst : RunsEvolve (· ∈ runId :: runIds) (fun _ => False) r
        (r.tryStage host runId .stopped none (some reason) now) := by
      refine tryStage_runsEvolve.mono ?_ ?_
      · rintro id ⟨rfl, -⟩
        exact List.mem_cons_self
      · rintro id ⟨-, hrun⟩
        cases hrun
    exact hfirst.trans (ih.mono (fun id => List.mem_cons_of_mem runId) (fun _ => id))

theorem get_stopAll_of_notMem (h : runId ∉ runIds) :
    (stopAll host reason now r runIds).get runId = r.get runId := by
  induction runIds generalizing r with
  | nil => rfl
  | cons id runIds ih =>
    rw [List.mem_cons, not_or] at h
    rw [stopAll_cons, ih h.2, get_tryStage_of_ne h.1]

/-- What is staged when the run of an entry is stopped. -/
def stopStaged (reason : String) (now : DateTime) (e : RunEntry) : StagedStatus :=
  ⟨e.stage .stopped none (some reason) now, e.writeEpoch + 1⟩

/-- Different runs are stopped one after the other, as far as they have entries. -/
theorem stageStopped_fst (hnodup : runIds.Nodup) : (stageStopped host reason now r runIds).1 =
    runIds.filterMap fun runId => (r.get runId).map (stopStaged reason now) := by
  induction runIds generalizing r with
  | nil => rfl
  | cons runId runIds ih =>
    obtain ⟨hnot, hnodup⟩ := List.nodup_cons.mp hnodup
    unfold stageStopped
    cases h : r.stageStatusLocked host runId .stopped none (some reason) now with
    | ok s =>
      obtain ⟨staged, r'⟩ := s
      obtain ⟨entry, hget, -, rfl, rfl⟩ := stageStatusLocked_eq_ok.mp h
      have hrest {id : String} (hid : id ∈ runIds) :
          (r.staged host runId entry .stopped none (some reason) now).get id = r.get id := by
        have hne : id ≠ runId := fun heq => hnot (heq ▸ hid)
        rw [get_staged, if_neg hne]
      rw [List.filterMap_cons, hget]
      refine congrArg _ ((ih hnodup).trans (List.filterMap_congr fun id hid => ?_))
      rw [hrest hid]
    | error e =>
      rw [List.filterMap_cons, get_eq_none_of_stage_error rfl h]
      exact ih hnodup

theorem get_stopAll_of_mem (hnodup : runIds.Nodup) (hmem : runId ∈ runIds)
    (hget : r.get runId = some entry) : (stopAll host reason now r runIds).get runId =
      some (stopStaged reason now entry).entry := by
  induction runIds generalizing r with
  | nil => cases hmem
  | cons id runIds ih =>
    obtain ⟨hnot, hnodup⟩ := List.nodup_cons.mp hnodup
    rw [stopAll_cons]
    rcases List.mem_cons.mp hmem with rfl | hmem
    · rw [get_stopAll_of_notMem hnot]
      exact get_tryStage_of_isTerminal rfl hget
    · have hne : runId ≠ id := fun heq => hnot (heq ▸ hmem)
      exact ih hnodup hmem (by rw [get_tryStage_of_ne hne, hget])

theorem isTerminal_of_get_stopAll {e' : RunEntry} (h : runId ∈ runIds)
    (he' : (stopAll host reason now r runIds).get runId = some e') :
    e'.status.isTerminal = true := by
  induction runIds generalizing r with
  | nil => cases h
  | cons id runIds ih =>
    rw [stopAll_cons] at he'
    by_cases hid : runId = id
    · subst hid
      obtain ⟨e₁, he₁, hev⟩ := stopAll_runsEvolve.exists_of_get he'
      obtain ⟨e, he, -⟩ := tryStage_runsEvolve.exists_of_get he₁
      rw [get_tryStage_of_isTerminal rfl he, Option.some.injEq] at he₁
      exact hev.isTerminal (he₁ ▸ rfl)
    · exact ih ((List.mem_cons.mp h).resolve_left hid) he'

theorem stopAll_repoLocks_subset :
    (stopAll host reason now r runIds).repoLocks ⊆ r.repoLocks := by
  induction runIds generalizing r with
  | nil => exact Finset.Subset.refl _
  | cons runId runIds ih => exact ih.trans tryStage_repoLocks_subset

theorem mem_repoLocks_stopAll (hmem : hash ∈ r.repoLocks)
    (hne : ∀ runId ∈ runIds, ∀ e, r.get runId = some e → repoHash host e.repoDir ≠ hash) :
    hash ∈ (stopAll host reason now r runIds).repoLocks := by
  induction runIds generalizing r with
  | nil => exact hmem
  | cons runId runIds ih =>
    obtain ⟨hfirst, hrest⟩ := List.forall_mem_cons.mp hne
    refine ih (mem_repoLocks_tryStage hmem fun _ => hfirst) fun id hid e' he' => ?_
    obtain ⟨e, he, hev⟩ := tryStage_runsEvolve.exists_of_get he'
    rw [hev.repoDir_eq]
    exact hrest id hid e he

end

/-! ## Changes without a status -/

theorem get_modify {p : RunEntry.Patch} : (r.modify runId p).get runId' =
    if runId' = runId then (r.get runId).map (·.patch p) else r.get runId' := by
  unfold modify get
  cases h : r.runs.lookup runId with
  | none =>
    by_cases heq : runId' = runId
    · subst heq
      simp [h]
    · simp [heq]
  | some e => simp [AList.lookup_insert_eq_ite]

theorem modify_runsEvolve {p : RunEntry.Patch} :
    RunsEvolve (fun _ => False) (fun id => id = runId ∧ p.tmuxSession.isSome = true) r
      (r.modify runId p) where
  evolves id e he := by
    rw [get_modify]
    split
    · next h =>
      rw [← h, he]
      exact ⟨_, rfl, .patch e p (⟨rfl, ·⟩)⟩
    · exact ⟨e, he, .refl e⟩
  not_added id hid := by
    rw [get_modify]
    split
    · next h => rw [← h, hid]; rfl
    · exact hid

section
variable (r runId) (p : RunEntry.Patch)

@[simp] theorem modify_repoLocks : (r.modify runId p).repoLocks = r.repoLocks := by
  unfold modify; split <;> rfl

@[simp] theorem modify_pendingQueues : (r.modify runId p).pendingQueues = r.pendingQueues := by
  unfold modify; split <;> rfl

@[simp] theorem modify_repoInsertionOrder :
    (r.modify runId p).repoInsertionOrder = r.repoInsertionOrder := by
  unfold modify; split <;> rfl

end

/-! ## Starting a run -/

section
variable {planPath repoDir : PathBuf} {sessionName : Option String} {configDir : Option PathBuf}
  {scheduleId : Option String} {io : LockIo} {metaIo : Except String Unit}

/-- The lock of the repo is free, it is acquired and the entry is written. -/
def Grants (host : Host) (r : RunRegistry) (repoDir : PathBuf) (io : LockIo)
    (metaIo : Except String Unit) : Prop :=
  repoHash host repoDir ∉ r.repoLocks ∧ io = .acquired ∧ metaIo.isOk = true

instance : Decidable (Grants host r repoDir io metaIo) := inferInstanceAs (Decidable (_ ∧ _))

theorem Grants.of_acquire {locked : RunRegistry}
    (h : r.acquireRepoLock host repoDir io = .ok locked) (hmeta : metaIo = .ok ()) :
    Grants host r repoDir io metaIo := by
  obtain ⟨hfree, hio, -⟩ := acquireRepoLock_eq_ok.mp h
  exact ⟨hfree, hio, by rw [hmeta]; rfl⟩

theorem Grants.acquire_eq_ok (h : Grants host r repoDir io metaIo) : r.acquireRepoLock host repoDir io =
    .ok { r with repoLocks := insert (repoHash host repoDir) r.repoLocks } :=
  acquireRepoLock_eq_ok.mpr ⟨h.1, h.2.1, rfl⟩

/-- A run is registered with the lock of its repo, or nothing changes. -/
theorem registerRun_cases (host : Host) (r : RunRegistry) (planPath repoDir : PathBuf)
    (sessionName : Option String) (configDir : Option PathBuf) (scheduleId : Option String)
    (runId : String) (now : DateTime) (io : LockIo) (metaIo : Except String Unit) :
    (Grants host r repoDir io metaIo ∧
      r.registerRun host planPath repoDir sessionName configDir scheduleId runId now io metaIo =
        (.ok runId,
          { r with
            repoLocks := insert (repoHash host repoDir) r.repoLocks
            runs := r.runs.insert runId
              (.registered runId planPath repoDir sessionName configDir scheduleId now) })) ∨
    (¬ Grants host r repoDir io metaIo ∧ ∃ e,
      r.registerRun host planPath repoDir sessionName configDir scheduleId runId now io metaIo =
        (.error e, r)) := by
  unfold registerRun
  cases h : r.acquireRepoLock host repoDir io with
  | error e =>
    refine .inr ⟨fun hgrants => ?_, e, rfl⟩
    rw [hgrants.acquire_eq_ok] at h
    cases h
  | ok locked =>
    cases hmeta : metaIo with
    | ok u =>
      have hgrants := Grants.of_acquire h hmeta
      rw [hgrants.acquire_eq_ok] at h
      cases h
      exact .inl ⟨hmeta ▸ hgrants, rfl⟩
    | error e =>
      obtain ⟨hfree, -, rfl⟩ := acquireRepoLock_eq_ok.mp h
      refine .inr ⟨fun hgrants => Bool.noConfusion hgrants.2.2, e, ?_⟩
      simp only [Finset.erase_insert hfree]

/-- A queued run is promoted with the lock of its repo, or at most the spawn fields of its entry
change. -/
theorem promoteQueued_cases (host : Host) (r : RunRegistry) (runId : String) (now : DateTime)
    (io : LockIo) (metaIo : Except String Unit) :
    (∃ entry, r.get runId = some entry ∧ entry.status = .queued ∧
      Grants host r entry.repoDir io metaIo ∧
      r.promoteQueued host runId now io metaIo =
        (.ok (),
          { r with
            repoLocks := insert (repoHash host entry.repoDir) r.repoLocks
            runs := r.runs.insert runId (entry.promote now) })) ∨
    ((∀ entry, r.get runId = some entry → entry.status = .queued →
        ¬ Grants host r entry.repoDir io metaIo) ∧
      ∃ e, r.promoteQueued host runId now io metaIo = (.error e, r) ∨
        ∃ entry, r.get runId = some entry ∧
          r.promoteQueued host runId now io metaIo =
            (.error e, { r with runs := r.runs.insert runId (entry.promote now) })) := by
  unfold promoteQueued get
  cases hget : r.runs.lookup runId with
  | none => exact .inr ⟨fun _ h => (nomatch h), _, .inl rfl⟩
  | some entry =>
    by_cases hq : entry.status = .queued
    · simp only [hq, ne_eq, not_true_eq_false, if_false, Option.some.injEq, forall_eq']
      cases h : r.acquireRepoLock host entry.repoDir io with
      | error e =>
        refine .inr ⟨fun _ hgrants => ?_, e, .inl rfl⟩
        rw [hgrants.acquire_eq_ok] at h
        cases h
      | ok locked =>
        cases hmeta : metaIo with
        | ok u =>
          have hgrants := Grants.of_acquire h hmeta
          rw [hgrants.acquire_eq_ok] at h
          cases h
          exact .inl ⟨entry, rfl, hq, hmeta ▸ hgrants, rfl⟩
        | error e =>
          obtain ⟨hfree, -, rfl⟩ := acquireRepoLock_eq_ok.mp h
          refine .inr ⟨fun _ hgrants => Bool.noConfusion hgrants.2.2, e, .inr ⟨entry, rfl, ?_⟩⟩
          simp only [Finset.erase_insert hfree]
    · simp only [ne_eq, hq, not_false_eq_true, if_true]
      exact .inr ⟨fun e he hqe => absurd (Option.some_injective _ he ▸ hqe) hq, _, .inl rfl⟩

end

theorem insert_promote_runsEvolve {locks : Finset String} (h : r.get runId = some entry) :
    RunsEvolve (fun _ => False) (fun _ => False) r
      { r with repoLocks := locks, runs := r.runs.insert runId (entry.promote now) } where
  evolves id e he := by
    by_cases hid : id = runId
    · subst hid
      obtain rfl : entry = e := Option.some_injective _ (h.symm.trans he)
      exact ⟨_, AList.lookup_insert _, .promote _ _⟩
    · exact ⟨e, (AList.lookup_insert_ne hid).trans he, .refl e⟩
  not_added id hid := by
    have hne : id ≠ runId := by
      rintro rfl
      rw [h] at hid
      cases hid
    exact (AList.lookup_insert_ne hne).trans hid

section
variable {io : LockIo} {metaIo : Except String Unit}

theorem promoteQueued_runsEvolve :
    RunsEvolve (fun _ => False) (fun _ => False) r (r.promoteQueued host runId now io metaIo).2 := by
  rcases promoteQueued_cases host r runId now io metaIo with
    ⟨entry, hget, -, -, heq⟩ | ⟨-, e, heq | ⟨entry, hget, heq⟩⟩ <;> rw [heq]
  · exact insert_promote_runsEvolve hget
  · exact .refl r
  · exact insert_promote_runsEvolve hget

theorem promoteQueued_queuesShrink :
    QueuesShrink r (r.promoteQueued host runId now io metaIo).2 := by
  rcases promoteQueued_cases host r runId now io metaIo with
    ⟨entry, -, -, -, heq⟩ | ⟨-, e, heq | ⟨entry, -, heq⟩⟩ <;> rw [heq] <;> exact .of_eq rfl rfl

@[simp] theorem promoteQueued_pendingQueues :
    (r.promoteQueued host runId now io metaIo).2.pendingQueues = r.pendingQueues := by
  rcases promoteQueued_cases host r runId now io metaIo with
    ⟨entry, -, -, -, heq⟩ | ⟨-, e, heq | ⟨entry, -, heq⟩⟩ <;> rw [heq]

end

end RunRegistry
end GreaterWill
