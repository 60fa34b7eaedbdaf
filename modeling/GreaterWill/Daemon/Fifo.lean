import GreaterWill.Daemon.QueueAgreement

/-!
# The order in which queued runs are handed out

A history of the queue operations: the runs that were enqueued and the runs that were handed out,
oldest first, over the restarts of the daemon. Within one repo runs are handed out in the order of
their enqueuing. Across repos the drain takes the repo that first ever received a pending run, which
need not be the repo with the oldest pending run.
-/

namespace GreaterWill

/-! ## Older in a history -/

section
variable {α : Type*} {log : List α} {a b c : α}

/-- `a` comes before `b` in the history. -/
def Older (log : List α) (a b : α) : Prop := [a, b].Sublist log

instance [DecidableEq α] : Decidable (Older log a b) := inferInstanceAs (Decidable (List.Sublist _ _))

theorem Older.of_sublist {l : List α} (h : Older l a b) (hl : l.Sublist log) : Older log a b :=
  h.trans hl

theorem older_cons_iff : Older (a :: log) b c ↔ Older log b c ∨ (b = a ∧ c ∈ log) := by
  simp only [Older, List.sublist_cons_iff, List.cons.injEq]
  constructor
  · rintro (h | ⟨r, ⟨rfl, rfl⟩, hr⟩)
    · exact .inl h
    · exact .inr ⟨rfl, List.singleton_sublist.mp hr⟩
  · rintro (h | ⟨rfl, hc⟩)
    · exact .inl h
    · exact .inr ⟨[c], ⟨rfl, rfl⟩, List.singleton_sublist.mpr hc⟩

theorem Older.mem_left (h : Older log a b) : a ∈ log := h.subset List.mem_cons_self

theorem Older.mem_right (h : Older log a b) : b ∈ log :=
  h.subset (List.mem_cons_of_mem a List.mem_cons_self)

theorem Older.trans (hnodup : log.Nodup) (h₁ : Older log a b) (h₂ : Older log b c) :
    Older log a c := by
  induction log with
  | nil => exact absurd h₁.mem_left List.not_mem_nil
  | cons x log ih =>
    obtain ⟨hx, hlog⟩ := List.nodup_cons.mp hnodup
    rw [older_cons_iff] at h₁ h₂ ⊢
    rcases h₂ with h₂ | ⟨rfl, -⟩
    · rcases h₁ with h₁ | ⟨rfl, -⟩
      · exact .inl (ih hlog h₁ h₂)
      · exact .inr ⟨rfl, h₂.mem_right⟩
    · rcases h₁ with h₁ | ⟨-, hb⟩
      · exact absurd h₁.mem_right hx
      · exact absurd hb hx

theorem older_of_mem (h : b ∈ log) : Older (a :: log) a b := older_cons_iff.mpr (.inr ⟨rfl, h⟩)

end

/-! ## Histories -/

/-- The queues with their history. -/
structure FifoState where
  queues : QueueState
  /-- The runs that were enqueued, oldest first. -/
  enqueued : List PendingRun
  /-- The runs that were handed out, in that order. -/
  handedOut : List PendingRun

inductive FifoOp where
  | op (op : QueueOp)
  /-- The daemon restarts from the staged queues, which its hash map lists in any order. -/
  | restart (wire : QueueSnapshotWire)

def QueueOp.enqueues (host : Host) (r : RunRegistry) : QueueOp → List PendingRun
  | .enqueue pending =>
    match r.enqueueRunWithoutSnapshot host pending with
    | .ok _ => [pending]
    | .error _ => []
  | _ => []

def QueueOp.handsOut (host : Host) (r : RunRegistry) : QueueOp → List PendingRun
  | .drainNext dir => (r.drainNextWithoutSnapshot host dir).1.toList
  | .drainAnyReady => r.drainAnyReadyWithoutSnapshot.1.toList
  | _ => []

/-- The registry of the next daemon: the entries are read back, the locks are gone. -/
def RunRegistry.reloaded (r : RunRegistry) : RunRegistry := { RunRegistry.new with runs := r.runs }

def FifoState.init : FifoState := ⟨.init, [], []⟩

def fifoStep (host : Host) (s : FifoState) : FifoOp → Option FifoState
  | .op op => do
    let queues ← queueStep host s.queues op
    pure ⟨queues, s.enqueued ++ op.enqueues host s.queues.registry,
      s.handedOut ++ op.handsOut host s.queues.registry⟩
  | .restart wire =>
    let r := s.queues.registry
    let staged := r.stageQueueLocked.1.wire
    if wire.queues.entries.Perm staged.queues.entries ∧
        wire.consecutiveFailures.entries.Perm staged.consecutiveFailures.entries then
      some { s with queues := ⟨r.reloaded.restoreQueue wire, []⟩ }
    else none

/-- The run is for the repo with this hash. -/
def PendingRun.ofRepo (host : Host) (hash : String) (p : PendingRun) : Bool :=
  repoHash host p.repoDir == hash

/-! ## Restoring the queues -/

namespace RunRegistry

variable {host : Host} {r : RunRegistry} {hash : String} {wire : QueueSnapshotWire}

/-- `restore_queue` for one repo of the wire. -/
def restoreOne (r : RunRegistry) (q : Sigma fun _ : String => List PendingRun) : RunRegistry :=
  { r with
    repoInsertionOrder :=
      if q.2 ≠ [] ∧ q.1 ∉ r.repoInsertionOrder then r.repoInsertionOrder ++ [q.1]
      else r.repoInsertionOrder
    pendingQueues := r.pendingQueues.insert q.1 q.2 }

theorem queue_foldl_restoreOne {l : List (Sigma fun _ : String => List PendingRun)}
    (hl : l.NodupKeys) : (l.foldl restoreOne r).queue hash =
      ((l.dlookup hash).getD (r.queue hash)) := by
  induction l generalizing r with
  | nil => rfl
  | cons q l ih =>
    obtain ⟨hq, hl'⟩ := List.nodupKeys_cons.mp hl
    have hone : (r.restoreOne q).queue hash = if hash = q.1 then q.2 else r.queue hash :=
      queue_setQueue
    rw [List.foldl_cons, ih hl', hone]
    by_cases hkey : hash = q.1
    · subst hkey
      rw [List.dlookup_eq_none.mpr hq, Option.getD_none, if_pos rfl, List.dlookup_cons_eq]
      rfl
    · rw [if_neg hkey, List.dlookup_cons_ne _ _ hkey]

/-- A restart keeps every queue. -/
theorem queue_restoreQueue (h : wire.queues.entries.Perm r.pendingQueues.entries) :
    (r.reloaded.restoreQueue wire).queue hash = r.queue hash := by
  change (wire.queues.entries.foldl restoreOne r.reloaded).queue hash = r.queue hash
  rw [queue_foldl_restoreOne wire.queues.nodupKeys,
    List.perm_dlookup hash wire.queues.nodupKeys h]
  rfl

theorem restoreQueue_runs : (r.reloaded.restoreQueue wire).runs = r.runs := by
  change (wire.queues.entries.foldl restoreOne r.reloaded).runs = r.runs
  have hfold (l : List (Sigma fun _ : String => List PendingRun)) (r : RunRegistry) :
      (l.foldl restoreOne r).runs = r.runs := by
    induction l generalizing r with
    | nil => rfl
    | cons q l ih => exact ih _
  exact hfold _ _

end RunRegistry

/-! ## The invariant -/

/-- The history of one repo is in order, and its runs are known by different ids. -/
structure FifoInv (host : Host) (s : FifoState) : Prop where
  order : ∀ hash, (s.handedOut.filter (·.ofRepo host hash) ++ s.queues.registry.queue hash).Sublist
    (s.enqueued.filter (·.ofRepo host hash))
  nodup : (s.enqueued.map (·.runId)).Nodup
  known : ∀ p ∈ s.enqueued, (s.queues.registry.get p.runId).isSome = true

namespace FifoInv

open RunRegistry

variable {host : Host} {s s' : FifoState} {q : QueueState} {hash : String} {p : PendingRun}

theorem init : FifoInv host .init := ⟨fun _ => .refl _, List.nodup_nil, fun p hp => by cases hp⟩

theorem mem_enqueued (H : FifoInv host s) (hp : p ∈ s.queues.registry.queue hash) :
    p ∈ s.enqueued ∧ p.ofRepo host hash = true :=
  List.mem_filter.mp ((H.order hash).subset (List.mem_append_right _ hp))

/-- Handing out the front of a queue. -/
theorem handOut {rest : List PendingRun} (H : FifoInv host s)
    (hq : s.queues.registry.queue hash = p :: rest) :
    FifoInv host ⟨⟨s.queues.registry.setQueue hash rest, s.queues.stopping⟩, s.enqueued,
      s.handedOut ++ [p]⟩ where
  order h := by
    have hrepo := (H.mem_enqueued (hq ▸ List.mem_cons_self)).2
    have horder := H.order h
    rw [queue_setQueue, List.filter_append]
    by_cases hh : h = hash
    · rw [hh] at horder ⊢
      rw [if_pos rfl, List.filter_cons_of_pos hrepo, List.filter_nil, List.append_assoc,
        List.singleton_append, ← hq]
      exact horder
    · have hnot : ¬ p.ofRepo host h = true := by
        simp only [PendingRun.ofRepo, beq_iff_eq] at hrepo ⊢
        rw [hrepo]
        exact Ne.symm hh
      rw [if_neg hh, List.filter_cons_of_neg hnot, List.filter_nil, List.append_nil]
      exact horder
  nodup := H.nodup
  known := H.known

/-- An operation that hands out nothing and adds nothing. -/
theorem of_shrink (H : FifoInv host s) (hshrink : QueuesShrink s.queues.registry q.registry)
    (hsome : ∀ id, (s.queues.registry.get id).isSome = true → (q.registry.get id).isSome = true) :
    FifoInv host ⟨q, s.enqueued, s.handedOut⟩ where
  order hash := ((hshrink.queue hash).append_left _).trans (H.order hash)
  nodup := H.nodup
  known p hp := hsome _ (H.known p hp)

theorem enqueue {pending : PendingRun} (H : FifoInv host s)
    (hfresh : s.queues.registry.get pending.runId = none) :
    FifoInv host ⟨⟨s.queues.registry.pushed host pending, s.queues.stopping⟩,
      s.enqueued ++ [pending], s.handedOut⟩ where
  order hash := by
    have horder := H.order hash
    rw [queue_pushed, List.filter_append]
    by_cases hh : hash = repoHash host pending.repoDir
    · have hrepo : pending.ofRepo host hash = true := by simp [PendingRun.ofRepo, hh]
      rw [if_pos hh, List.filter_cons_of_pos hrepo, List.filter_nil, ← List.append_assoc]
      exact horder.append_right _
    · rw [if_neg hh]
      exact horder.trans (List.sublist_append_left _ _)
  nodup := by
    rw [List.map_append, List.nodup_append]
    refine ⟨H.nodup, List.nodup_singleton _, fun id hid id' hid' heq => ?_⟩
    obtain ⟨p, hp, rfl⟩ := List.mem_map.mp hid
    rw [List.map_singleton, List.mem_singleton] at hid'
    have hknown := H.known p hp
    rw [heq, hid', hfresh] at hknown
    cases hknown
  known p hp := by
    change (AList.lookup p.runId (s.queues.registry.runs.insert _ _)).isSome = true
    rw [AList.lookup_insert_eq_ite]
    split
    · rfl
    · next hne =>
      rcases List.mem_append.mp hp with hp | hp
      · exact H.known p hp
      · exact absurd (congrArg _ (List.mem_singleton.mp hp)) hne

theorem step_op {op : QueueOp} (H : FifoInv host s) (h : fifoStep host s (.op op) = some s') :
    FifoInv host s' := by
  simp only [fifoStep, Option.bind_eq_bind, Option.bind_eq_some_iff, Option.pure_def,
    Option.some.injEq] at h
  obtain ⟨q, hq, rfl⟩ := h
  have hsome (id : String) : (s.queues.registry.get id).isSome = true →
      (q.registry.get id).isSome = true := queueStep_isSome hq
  cases op with
  | enqueue pending =>
    obtain ⟨hfresh, ⟨e, herr, rfl⟩ | ⟨-, ⟨res, hok⟩, rfl⟩⟩ := queueStep_enqueue hq
    · simpa [QueueOp.enqueues, QueueOp.handsOut, herr] using H
    · simpa [QueueOp.enqueues, QueueOp.handsOut, hok] using H.enqueue hfresh
  | drainNext dir =>
    cases hq
    rcases drainNext_cases host s.queues.registry dir with ⟨-, heq⟩ | ⟨p, rest, -, hqueue, heq⟩
    · simpa [QueueOp.enqueues, QueueOp.handsOut, heq] using H
    · simpa [QueueOp.enqueues, QueueOp.handsOut, heq] using H.handOut hqueue
  | drainAnyReady =>
    cases hq
    rcases drainAnyReady_cases s.queues.registry with ⟨-, heq⟩ | ⟨hash, p, rest, -, hqueue, heq⟩
    · simpa [QueueOp.enqueues, QueueOp.handsOut, heq] using H
    · simpa [QueueOp.enqueues, QueueOp.handsOut, heq] using H.handOut hqueue
  | promoteQueued | removeQueued | stopDequeue | stopUpdate | clearQueue | recordFailure |
    recordSuccess =>
    have hshrink := queueStep_queuesShrink (by simp) hq
    simpa [QueueOp.enqueues, QueueOp.handsOut] using H.of_shrink hshrink hsome

theorem step_restart {wire : QueueSnapshotWire} (H : FifoInv host s)
    (h : fifoStep host s (.restart wire) = some s') : FifoInv host s' := by
  simp only [fifoStep] at h
  split at h
  · next hwire =>
    cases h
    refine ⟨fun hash => ?_, H.nodup, fun p hp => ?_⟩
    · rw [queue_restoreQueue hwire.1]
      exact H.order hash
    · rw [RunRegistry.get, restoreQueue_runs]
      exact H.known p hp
  · cases h

theorem run {ops : List FifoOp} (hrun : exec (fifoStep host) .init ops = some s) :
    FifoInv host s :=
  exec_preserves
    (fun s op s' h H => by
      cases op with
      | op op => exact H.step_op h
      | restart wire => exact H.step_restart h)
    hrun init

end FifoInv

/-! ## The oldest run -/

/-- The ready repo that first received a pending run has the oldest front. -/
def FirstReadyOldest (enqueued : List PendingRun) (r : RunRegistry) : Prop :=
  ∀ hash p, r.firstReady = some hash → (r.queue hash).head? = some p →
    ∀ hash' p', hash' ≠ hash → r.Ready hash' → (r.queue hash').head? = some p' → Older enqueued p p'

section
variable {host : Host} {s : FifoState} {r' : RunRegistry} {hash : String} {p q : PendingRun}
  {rest : List PendingRun}

open RunRegistry

theorem FifoInv.older_of_queue (H : FifoInv host s)
    (hqueue : s.queues.registry.queue hash = p :: rest) (hq : q ∈ rest) :
    Older s.enqueued p q := by
  have hsub := ((List.sublist_append_right _ _).trans (H.order hash)).trans List.filter_sublist
  rw [hqueue] at hsub
  exact (older_of_mem hq).of_sublist hsub

theorem FifoInv.oldest_iff (H : FifoInv host s)
    (hdrain : s.queues.registry.drainAnyReadyWithoutSnapshot = (some p, r')) :
    (∀ hash, s.queues.registry.Ready hash → ∀ q ∈ s.queues.registry.queue hash,
        q = p ∨ Older s.enqueued p q) ↔
      FirstReadyOldest s.enqueued s.queues.registry := by
  rcases drainAnyReady_cases s.queues.registry with ⟨-, heq⟩ | ⟨hash, p', rest, hfirst, hqueue, heq⟩
  · rw [heq] at hdrain
    cases hdrain
  rw [heq] at hdrain
  cases hdrain
  constructor
  · intro holdest hash₁ p₁ hfirst₁ hp₁ hash₂ p₂ hne hready hp₂
    obtain rfl : hash = hash₁ := Option.some_injective _ (hfirst.symm.trans hfirst₁)
    rw [hqueue, List.head?_cons, Option.some.injEq] at hp₁
    subst hp₁
    have hmem₂ := List.mem_of_mem_head? hp₂
    refine (holdest hash₂ hready p₂ hmem₂).resolve_left fun hp => hne ?_
    -- one run is for one repo only
    have hrepo := (H.mem_enqueued (hqueue ▸ List.mem_cons_self)).2
    have hrepo₂ := (H.mem_enqueued hmem₂).2
    rw [hp] at hrepo₂
    simp only [PendingRun.ofRepo, beq_iff_eq] at hrepo hrepo₂
    exact hrepo₂.symm.trans hrepo
  · intro hfront hash₂ hready q hq
    by_cases hh : hash₂ = hash
    · subst hh
      rw [hqueue] at hq
      rcases List.mem_cons.mp hq with rfl | hq
      · exact .inl rfl
      · exact .inr (H.older_of_queue hqueue hq)
    · obtain ⟨p₂, rest₂, hqueue₂⟩ := List.exists_cons_of_ne_nil hready.2
      have holder := hfront hash p hfirst (by rw [hqueue]; rfl) hash₂ p₂ hh hready
        (by rw [hqueue₂]; rfl)
      rw [hqueue₂] at hq
      rcases List.mem_cons.mp hq with rfl | hq
      · exact .inr holder
      · exact .inr (holder.trans (.of_map _ H.nodup) (H.older_of_queue hqueue₂ hq))

end

/-- In every history the runs of one repo are handed out in the order of their enqueuing, also over
restarts; and a drain hands out the oldest run of the ready repos exactly when the ready repo that
first received a pending run has the oldest front. -/
theorem handOut_order_iff {host : Host} {ops : List FifoOp} {s : FifoState}
    (hrun : exec (fifoStep host) .init ops = some s) :
    (∀ hash, (s.handedOut.filter (·.ofRepo host hash) ++ s.queues.registry.queue hash).Sublist
      (s.enqueued.filter (·.ofRepo host hash))) ∧
    ∀ p r', s.queues.registry.drainAnyReadyWithoutSnapshot = (some p, r') →
      ((∀ hash, s.queues.registry.Ready hash → ∀ q ∈ s.queues.registry.queue hash,
          q = p ∨ Older s.enqueued p q) ↔
        FirstReadyOldest s.enqueued s.queues.registry) :=
  ⟨(FifoInv.run hrun).order, fun _ _ hdrain => (FifoInv.run hrun).oldest_iff hdrain⟩

/-- Two repos receive one run each, and a drain hands out the first. -/
theorem handOut_order_iff_two_repos :
    ∃ s p r', exec (fifoStep .plain) .init
        [.op (.enqueue (.plain "a1" "one.md" "/a")), .op (.enqueue (.plain "b1" "two.md" "/b"))] =
          some s ∧
      s.queues.registry.drainAnyReadyWithoutSnapshot = (some p, r') ∧
      ((∀ hash, s.queues.registry.Ready hash → ∀ q ∈ s.queues.registry.queue hash,
          q = p ∨ Older s.enqueued p q) ↔
        FirstReadyOldest s.enqueued s.queues.registry) := by
  obtain ⟨s, hrun, hdrain⟩ :=
    exists_of_any (o := exec (fifoStep .plain) .init
        [.op (.enqueue (.plain "a1" "one.md" "/a")), .op (.enqueue (.plain "b1" "two.md" "/b"))])
      (P := fun s => s.queues.registry.drainAnyReadyWithoutSnapshot.1 =
        some (.plain "a1" "one.md" "/a")) (by decide)
  have hpair : s.queues.registry.drainAnyReadyWithoutSnapshot =
      (some (.plain "a1" "one.md" "/a"), s.queues.registry.drainAnyReadyWithoutSnapshot.2) := by
    rw [← hdrain]
  exact ⟨s, _, _, hrun, hpair, (handOut_order_iff hrun).2 _ _ hpair⟩

/-- The repo `/a` receives a run, then `/b` does, and `/a` again after its first run was handed out:
the drain hands out the second run of `/a`, though the run of `/b` is older. -/
theorem drain_passes_over_older :
    ∃ ops s, exec (fifoStep .plain) .init ops = some s ∧
      s.queues.registry.drainAnyReadyWithoutSnapshot.1 = some (.plain "a2" "three.md" "/a") ∧
      s.queues.registry.Ready "/b" ∧
      PendingRun.plain "b1" "two.md" "/b" ∈ s.queues.registry.queue "/b" ∧
      Older s.enqueued (.plain "b1" "two.md" "/b") (.plain "a2" "three.md" "/a") ∧
      ¬ Older s.enqueued (.plain "a2" "three.md" "/a") (.plain "b1" "two.md" "/b") :=
  ⟨[.op (.enqueue (.plain "a1" "one.md" "/a")), .op (.enqueue (.plain "b1" "two.md" "/b")),
      .op .drainAnyReady, .op (.enqueue (.plain "a2" "three.md" "/a"))],
    exists_of_any (by decide)⟩

end GreaterWill
