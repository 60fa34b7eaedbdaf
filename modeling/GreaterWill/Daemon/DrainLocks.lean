import GreaterWill.Daemon.DaemonSpec

/-!
# Drains and repo locks

`drain_if_available` pops a run without a look at the repo locks. The repo of the popped run is free
exactly if the repo is whose turn it is: the completing one if it has a run to hand out, else the
first ready one. The error path pops after the lock of its repo was released. Whether a popped run
still finds the lock free when it is promoted depends on what happens in between.
-/

namespace GreaterWill

open RunRegistry

variable {c : DaemonConfig} {d d' : Daemon} {host : Host} {r r' : RunRegistry} {a : Action}
  {op : Op} {t : Task} {p : PendingRun} {dir : PathBuf} {hash : String} {locks : Finset String}

/-- The repos of the pending runs that the operation hands out are not locked. -/
def Op.HandsOutFree (host : Host) (r : RunRegistry) (op : Op) : Prop :=
  ∀ p ∈ op.handsOut host r, repoHash host p.repoDir ∉ r.repoLocks

instance : Decidable (op.HandsOutFree host r) :=
  inferInstanceAs (Decidable (∀ p ∈ op.handsOut host r, repoHash host p.repoDir ∉ r.repoLocks))

/-- The repos of the pending runs that the action hands out are not locked at that moment. -/
def HandsOutFree (c : DaemonConfig) (d : Daemon) (a : Action) : Prop :=
  Along (opStep c.host) (fun r op => op.HandsOutFree c.host r) d.registry (a.scope c d.registry).ops

instance : Decidable (HandsOutFree c d a) :=
  inferInstanceAs (Decidable (Along (opStep c.host) _ d.registry (a.scope c d.registry).ops))

/-- The completing repo is not locked if it is ready; if it is not, the first ready repo, if there
is one, is not locked. -/
def Op.NextRepoFree (host : Host) (r : RunRegistry) : Op → Prop
  | .drainNextOrAny repoDir => ∀ hash ∈ r.nextRepo host repoDir, hash ∉ r.repoLocks
  | _ => True

instance : Decidable (op.NextRepoFree host r) :=
  match op with
  | .drainNextOrAny dir =>
    inferInstanceAs (Decidable (∀ hash ∈ r.nextRepo host dir, hash ∉ r.repoLocks))
  | .registerRun .. | .enqueueRun _ | .stageStatus .. | .setRunning .. | .getMut .. |
    .promoteQueued .. | .drainNext _ | .dequeueRun .. | .removeQueued .. | .clearQueue .. |
    .recordFailure .. | .recordSuccess _ | .stageQueue => isTrue trivial

/-- The drain of the action, if it is one of `drain_if_available`, finds the repo whose turn it is
not locked. -/
def NextRepoFree (c : DaemonConfig) (d : Daemon) (a : Action) : Prop :=
  Along (opStep c.host) (fun r op => op.NextRepoFree c.host r) d.registry (a.scope c d.registry).ops

instance : Decidable (NextRepoFree c d a) :=
  inferInstanceAs (Decidable (Along (opStep c.host) _ d.registry (a.scope c d.registry).ops))

/-! ## The pop -/

/-- A popped run is of the repo whose turn it is. -/
theorem handsOutFree_iff_of_opStep (H : r.Sound host) (hne : ∀ dir, op ≠ .drainNext dir) :
    op.HandsOutFree host r ↔ op.NextRepoFree host r := by
  cases op with
  | drainNext dir => exact absurd rfl (hne dir)
  | drainNextOrAny dir =>
    unfold Op.HandsOutFree Op.NextRepoFree Op.handsOut
    rcases drainNextOrAny_cases host r dir with ⟨hnext, heq⟩ | ⟨hash, p, rest, hnext, hq, heq⟩
    · simp [hnext, heq]
    · have hp : p ∈ r.queue hash := hq ▸ List.mem_cons_self
      obtain ⟨hhash, -⟩ := H.pending hash p hp
      simp [hnext, heq, hhash]
  | _ => exact iff_of_true (fun p hp => nomatch hp) trivial

theorem handsOutFree_drainError {error : String} {now : DateTime} (H : d.Sound c.host)
    (h : daemonStep c d (.drainError p error now) = some d') :
    HandsOutFree c d (.drainError p error now) := by
  obtain ⟨e, he, hdir⟩ := H.carries _ (actor_mem_of_daemonStep h rfl) p rfl
  obtain ⟨r₁, h₁, hexec⟩ := exec_cons.mp (exec_of_daemonStep h)
  obtain ⟨r₂, h₂, hexec⟩ := exec_cons.mp hexec
  obtain ⟨r₃, h₃, hexec⟩ := exec_cons.mp hexec
  obtain ⟨r₄, h₄, -⟩ := exec_cons.mp hexec
  have hfree : repoHash c.host p.repoDir ∉ r₂.repoLocks := by
    intro hmem
    have hmem₁ := opStep_repoLocks_subset h₂ rfl hmem
    cases h₁
    exact notMem_repoLocks_tryStage he rfl (hdir ▸ hmem₁)
  unfold HandsOutFree
  change Along (opStep c.host) _ d.registry (drainErrorOps p error now)
  unfold drainErrorOps
  rw [Along.cons h₁, Along.cons h₂, Along.cons h₃, Along.cons h₄]
  refine ⟨fun _ hq => (nomatch hq), fun _ hq => (nomatch hq), ?_, fun _ hq => (nomatch hq), trivial⟩
  intro q hq
  rcases drainNext_cases c.host r₂ p.repoDir with ⟨-, heq⟩ | ⟨q', rest, -, hqueue, heq⟩
  · simp [Op.handsOut, heq] at hq
  · obtain rfl : q = q' := by simpa [Op.handsOut, heq] using hq
    have H₂ := (H.registry.of_opStep h₁).of_opStep h₂
    obtain ⟨hhash, -⟩ := H₂.pending _ q (hqueue ▸ List.mem_cons_self)
    rwa [← hhash]

/-- Only `drain_if_available` and its error path drain. -/
theorem scope_of_drains (hop : op ∈ (a.scope c r).ops) (hdrains : op.drains = true) :
    (∃ repoDir failed now, a = .drainIfAvailable repoDir failed now) ∨
      ∃ pending error now, a = .drainError pending error now := by
  cases a with
  | drainIfAvailable repoDir failed now => exact .inl ⟨repoDir, failed, now, rfl⟩
  | drainError pending error now => exact .inr ⟨pending, error, now, rfl⟩
  | _ =>
    exfalso
    simp only [Action.scope] at hop
    grind [Op.drains]

/-- Only the error path drains one repo alone. -/
theorem drainError_of_drainNext (hop : .drainNext dir ∈ (a.scope c r).ops) :
    ∃ pending error now, a = .drainError pending error now := by
  rcases scope_of_drains hop rfl with ⟨repoDir, failed, now, rfl⟩ | herror
  · rcases mem_drainOps hop with heq | heq | heq | heq <;> cases heq
  · exact herror

/-- One action hands out runs of repos that are not locked exactly if the repo whose turn it is, is
not locked. -/
theorem handsOutFree_iff_of_step (H : d.Sound c.host) (h : daemonStep c d a = some d') :
    HandsOutFree c d a ↔ NextRepoFree c d a := by
  by_cases herror : ∃ pending error now, a = .drainError pending error now
  · obtain ⟨pending, error, now, rfl⟩ := herror
    refine iff_of_true (handsOutFree_drainError H h) ?_
    exact ⟨trivial, trivial, trivial, trivial, trivial⟩
  · refine Along.congr (I := fun r => r.Sound c.host) (fun _ _ _ hs H => H.of_opStep hs) ?_
      (exec_of_daemonStep h) H.registry
    intro op hop r r' _ H
    refine handsOutFree_iff_of_opStep H fun dir heq => herror ?_
    exact drainError_of_drainNext (heq ▸ hop)

/-! ## The promotion -/

/-- The repo of the popped run that the task promotes. -/
def Task.waitsFor (host : Host) : Task → Option String
  | .spawnQueued pending _ => some (repoHash host pending.repoDir)
  | _ => none

theorem waitsFor_of_mem_onError {caller : Caller} {error : String}
    (h : t ∈ caller.onError error) : t.waitsFor host = none := by
  cases caller with
  | drain p =>
    rw [List.mem_singleton.mp h]
    rfl
  | _ => cases h

theorem waitsFor_of_mem_onOk {caller : Caller} {runId : String}
    (h : t ∈ caller.onOk runId) : t.waitsFor host = none := by
  cases caller with
  | schedule scheduleId =>
    rw [List.mem_singleton.mp h]
    rfl
  | _ => cases h

/-- The repos of the popped runs that wait for their promotion. -/
def Daemon.waiting (host : Host) (d : Daemon) : List String :=
  d.tasks.filterMap (Task.waitsFor host)

/-- The repos of the runs that the action hands out or registers. -/
def Action.takes (c : DaemonConfig) (r : RunRegistry) (a : Action) : List String :=
  (handedOut c.host r (a.scope c r).ops).map (fun p => repoHash c.host p.repoDir) ++
    match a with
    | .register _ repoDir _ _ _ _ _ io metaIo =>
      if r.Grants c.host repoDir io metaIo then [repoHash c.host repoDir] else []
    | _ => []

/-- The action hands out and registers no run of a repo while a popped run of it waits for its
promotion. -/
def SparesWaiting (c : DaemonConfig) (d : Daemon) (a : Action) : Prop :=
  ∀ hash ∈ a.takes c d.registry, hash ∉ d.waiting c.host

instance : Decidable (SparesWaiting c d a) :=
  inferInstanceAs (Decidable (∀ hash ∈ a.takes c d.registry, hash ∉ d.waiting c.host))

/-- A popped run that is promoted finds the lock of its repo free. -/
def PromotesUnlocked (c : DaemonConfig) (d : Daemon) : Action → Prop
  | .promote pending _ _ _ _ => d.registry.hasRepoLock c.host pending.repoDir = false
  | _ => True

/-- The popped runs wait for repos that are not locked and differ. -/
structure Daemon.WaitsUnlocked (host : Host) (d : Daemon) : Prop where
  nodup : (d.waiting host).Nodup
  free : ∀ hash ∈ d.waiting host, hash ∉ d.registry.repoLocks

theorem handedOut_eq_nil (hdrains : ∀ op ∈ (a.scope c r).ops, op.drains = false) :
    handedOut c.host r (a.scope c r).ops = [] :=
  yields_eq_nil fun op hop _ => Op.handsOut_of_drains_eq_false (hdrains op hop)

/-- A scope drains in one of two ways, or hands out nothing. -/
theorem handedOut_cases (c : DaemonConfig) (r : RunRegistry) (a : Action) :
    (∃ repoDir failed now, a = .drainIfAvailable repoDir failed now) ∨
      (∃ pending error now, a = .drainError pending error now) ∨
      handedOut c.host r (a.scope c r).ops = [] := by
  by_cases hdrains : ∃ op ∈ (a.scope c r).ops, op.drains = true
  · obtain ⟨op, hop, hdrains⟩ := hdrains
    exact (scope_of_drains hop hdrains).imp_right .inl
  · refine .inr (.inr (yields_eq_nil fun op hop _ => Op.handsOut_of_drains_eq_false ?_))
    simpa using fun hd => hdrains ⟨op, hop, hd⟩

/-- A scope hands out at most one run. -/
theorem length_handedOut_le_one : (handedOut c.host r (a.scope c r).ops).length ≤ 1 := by
  have htoList (o : Option PendingRun) : o.toList.length ≤ 1 := by
    cases o <;> simp
  rcases handedOut_cases c r a with
    ⟨dir, failed, now, rfl⟩ | ⟨pending, error, now, rfl⟩ | hnil
  · have hout : ∃ r' : RunRegistry, handedOut c.host r (drainOps dir failed now) =
        (r'.drainNextOrAny c.host dir).1.toList := by
      cases failed <;> exact ⟨_, by simp [handedOut, drainOps, yields, opStep, Op.handsOut]; rfl⟩
    obtain ⟨r', heq⟩ := hout
    exact heq ▸ htoList _
  · have hout : ∃ r' : RunRegistry, handedOut c.host r (drainErrorOps pending error now) =
        (r'.drainNextWithoutSnapshot c.host pending.repoDir).1.toList :=
      ⟨_, by simp [handedOut, drainErrorOps, yields, opStep, Op.handsOut]; rfl⟩
    obtain ⟨r', heq⟩ := hout
    exact heq ▸ htoList _
  · rw [hnil]
    exact Nat.zero_le 1

/-- The popped runs that a scope leaves waiting are those it hands out. -/
theorem waiting_follow : (a.scope c r).follow.filterMap (Task.waitsFor c.host) =
    (handedOut c.host r (a.scope c r).ops).map fun p => repoHash c.host p.repoDir := by
  have hmap (retry : Bool) (ps : List PendingRun) :
      (ps.map (Task.spawnQueued · retry)).filterMap (Task.waitsFor c.host) =
        ps.map fun p => repoHash c.host p.repoDir := by
    rw [List.filterMap_map]
    exact congrFun List.filterMap_eq_map ps
  cases a with
  | drainIfAvailable => exact hmap false _
  | drainError => exact hmap true _
  | _ =>
    rw [handedOut_eq_nil, List.map_nil, List.filterMap_eq_nil_iff]
    · intro t ht
      simp only [Action.scope] at ht
      grind [Task.waitsFor, waitsFor_of_mem_onError, waitsFor_of_mem_onOk]
    · intro op hop
      simp only [Action.scope] at hop
      grind [Op.drains]

/-- A run that a scope hands out without a lock is still of an unlocked repo after the scope. -/
theorem free_of_handedOut {ops : List Op} (h : exec (opStep host) r ops = some r')
    (hlocks : ∀ op ∈ ops, op.locks = false)
    (hfree : Along (opStep host) (fun r op => op.HandsOutFree host r) r ops) :
    r'.repoLocks ⊆ r.repoLocks ∧
      ∀ p ∈ handedOut host r ops, repoHash host p.repoDir ∉ r'.repoLocks := by
  have hinit : r.repoLocks ⊆ r.repoLocks ∧
      ∀ p ∈ ([] : List PendingRun), repoHash host p.repoDir ∉ r.repoLocks :=
    ⟨Finset.Subset.refl _, fun _ hp => nomatch hp⟩
  refine exec_invariant_yields (f := fun r op => op.handsOut host r)
    (I := fun ps s => s.repoLocks ⊆ r.repoLocks ∧ ∀ p ∈ ps, repoHash host p.repoDir ∉ s.repoLocks)
    ?_ h (hfree.and (.of_forall_mem hlocks)) hinit
  intro ps s op s' hs ⟨hfree, hlock⟩ ⟨hsub, hps⟩
  have hshrink := opStep_repoLocks_subset hs (Op.lockedIds_of_locks_eq_false hlock)
  refine ⟨hshrink.trans hsub, fun p hp hmem => ?_⟩
  rcases List.mem_append.mp hp with hp | hp
  · exact hps p hp (hshrink hmem)
  · exact hfree p hp (hshrink hmem)

namespace Daemon.WaitsUnlocked

theorem init : Daemon.init.WaitsUnlocked host where
  nodup := List.nodup_nil
  free hash h := by cases h

/-- The popped runs that wait after a scope. -/
theorem waiting_step (h : daemonStep c d a = some d') : d'.waiting c.host =
    ((handedOut c.host d.registry (a.scope c d.registry).ops).map
      fun p => repoHash c.host p.repoDir) ++
      ((a.scope c d.registry).actor.elim d.tasks d.tasks.erase).filterMap
        (Task.waitsFor c.host) := by
  rw [waiting, tasks_of_daemonStep h, List.filterMap_append, waiting_follow]

theorem waiting_rest_sublist :
    (((a.scope c r).actor.elim d.tasks d.tasks.erase).filterMap (Task.waitsFor host)).Sublist
      (d.waiting host) := by
  apply List.Sublist.filterMap
  cases (a.scope c r).actor with
  | none => exact List.Sublist.refl _
  | some t => exact List.erase_sublist

/-- A popped run that is promoted waits no longer, and no other of its repo does. -/
theorem notMem_waiting_erase (H : d.WaitsUnlocked host) (ht : t ∈ d.tasks)
    (hwaits : t.waitsFor host = some hash) :
    hash ∉ (d.tasks.erase t).filterMap (Task.waitsFor host) := by
  have hperm := (List.perm_cons_erase ht).filterMap (Task.waitsFor host)
  rw [List.filterMap_cons_some hwaits] at hperm
  exact (List.nodup_cons.mp (hperm.nodup_iff.mp H.nodup)).1

theorem nodup_step (H : d.WaitsUnlocked c.host) (h : daemonStep c d a = some d')
    (hspares : SparesWaiting c d a) : (d'.waiting c.host).Nodup := by
  rw [waiting_step h]
  have hrest := H.nodup.sublist (waiting_rest_sublist (a := a) (c := c) (r := d.registry))
  refine List.Nodup.append ?_ hrest ?_
  · have hlen := length_handedOut_le_one (c := c) (r := d.registry) (a := a)
    match handedOut c.host d.registry (a.scope c d.registry).ops, hlen with
    | [], _ => exact List.nodup_nil
    | [p], _ => exact List.nodup_singleton _
  · intro hash hout hwait
    exact hspares hash (List.mem_append_left _ hout) (waiting_rest_sublist.subset hwait)

/-- A registration locks no repo that a popped run waits for. -/
theorem free_register {plan repo : PathBuf} {session : Option String} {config : Option PathBuf}
    {caller : Caller} {runId : String} {now : DateTime} {io : LockIo} {metaIo : Except String Unit}
    (H : d.WaitsUnlocked c.host)
    (h : daemonStep c d (.register plan repo session config caller runId now io metaIo) = some d')
    (hspares : SparesWaiting c d (.register plan repo session config caller runId now io metaIo))
    (hwait : hash ∈ d.waiting c.host) : hash ∉ d'.registry.repoLocks := by
  obtain ⟨r, hs, hnil⟩ := exec_cons.mp (exec_of_daemonStep h)
  obtain rfl : r = d'.registry := Option.some_injective _ hnil
  obtain ⟨-, ⟨-, hlocked, heq⟩ | ⟨-, heq⟩⟩ := opStep_registerRun hs
  · have hgrants : d.registry.Grants c.host repo io metaIo := by
      by_contra hnot
      simp [Op.lockedIds, hnot] at hlocked
    have htakes : repoHash c.host repo ∈
        (Action.register plan repo session config caller runId now io metaIo).takes c d.registry :=
      List.mem_append_right _ (by simp [hgrants])
    rw [heq, Finset.mem_insert, not_or]
    refine ⟨?_, H.free hash hwait⟩
    rintro rfl
    exact hspares _ htakes hwait
  · rw [heq]
    exact H.free hash hwait

/-- A promotion locks no repo that another popped run waits for. -/
theorem free_promote {retry : Bool} {now : DateTime} {io : LockIo} {metaIo : Except String Unit}
    (H : d.WaitsUnlocked c.host) (hsound : d.Sound c.host)
    (h : daemonStep c d (.promote p retry now io metaIo) = some d')
    (hwait : hash ∈ (d.tasks.erase (.spawnQueued p retry)).filterMap (Task.waitsFor c.host)) :
    hash ∉ d'.registry.repoLocks := by
  have ht : .spawnQueued p retry ∈ d.tasks := actor_mem_of_daemonStep h rfl
  have hfree := H.free hash ((List.erase_sublist.filterMap _).subset hwait)
  obtain ⟨r, hs, hnil⟩ := exec_cons.mp (exec_of_daemonStep h)
  obtain rfl : r = d'.registry := Option.some_injective _ hnil
  obtain ⟨e, he, -, -, -, heq⟩ | ⟨-, heq⟩ := opStep_promoteQueued hs
  · obtain ⟨e', he', hdir⟩ := hsound.carries _ ht p rfl
    obtain rfl : e = e' := Option.some_injective _ (he.symm.trans he')
    rw [heq, Finset.mem_insert, not_or, hdir]
    refine ⟨?_, hfree⟩
    rintro rfl
    exact H.notMem_waiting_erase ht rfl hwait
  · rw [heq]
    exact hfree

theorem free_step (H : d.WaitsUnlocked c.host) (hsound : d.Sound c.host)
    (h : daemonStep c d a = some d') (hfree : HandsOutFree c d a)
    (hspares : SparesWaiting c d a) (hwait : hash ∈ d'.waiting c.host) :
    hash ∉ d'.registry.repoLocks := by
  rw [waiting_step h] at hwait
  rcases scope_cases c d.registry a with ⟨op, hops, hlocks⟩ | hlocks
  · have hop : op ∈ (a.scope c d.registry).ops := by
      rw [hops]
      exact List.mem_singleton_self _
    have hnil : handedOut c.host d.registry (a.scope c d.registry).ops = [] := by
      apply handedOut_eq_nil
      rw [hops]
      intro op' hop'
      rw [List.mem_singleton.mp hop']
      cases op with
      | drainNext | drainNextOrAny => cases hlocks
      | _ => rfl
    rw [hnil, List.map_nil, List.nil_append] at hwait
    rcases scope_of_locks hop hlocks with
      ⟨_, _, _, _, _, _, _, _, _, rfl, -⟩ | ⟨_, _, _, _, _, rfl, -⟩
    · exact H.free_register h hspares (waiting_rest_sublist.subset hwait)
    · exact H.free_promote hsound h hwait
  · obtain ⟨hsub, hout⟩ := free_of_handedOut (exec_of_daemonStep h) hlocks hfree
    rcases List.mem_append.mp hwait with hwait | hwait
    · obtain ⟨p, hp, rfl⟩ := List.mem_map.mp hwait
      exact hout p hp
    · intro hmem
      exact H.free hash (waiting_rest_sublist.subset hwait) (hsub hmem)

/-- One action. -/
theorem step (H : d.WaitsUnlocked c.host) (hsound : d.Sound c.host)
    (h : daemonStep c d a = some d') (hfree : HandsOutFree c d a) (hspares : SparesWaiting c d a) :
    d'.WaitsUnlocked c.host where
  nodup := H.nodup_step h hspares
  free _ hwait := H.free_step hsound h hfree hspares hwait

theorem promotesUnlocked (H : d.WaitsUnlocked c.host) (h : daemonStep c d a = some d') :
    PromotesUnlocked c d a := by
  cases a with
  | promote p retry now io metaIo =>
    have hwait : repoHash c.host p.repoDir ∈ d.waiting c.host :=
      List.mem_filterMap.mpr ⟨_, actor_mem_of_daemonStep h rfl, rfl⟩
    have hfree := H.free _ hwait
    rwa [← hasRepoLock_eq_true, Bool.not_eq_true] at hfree
  | _ => trivial

end Daemon.WaitsUnlocked

/-- In a run of the daemon every pending run is handed out while its repo is not locked exactly if
every drain of `drain_if_available` finds the repo whose turn it is not locked. If moreover no run
is handed out or registered in a repo with a popped run that waits for its promotion, no promotion
is refused because another run of the repo is active. -/
theorem drainRespectsLocks_of_exec {as : List Action}
    (hrun : exec (daemonStep c) .init as = some d) :
    (Along (daemonStep c) (HandsOutFree c) .init as ↔
      Along (daemonStep c) (NextRepoFree c) .init as) ∧
    (Along (daemonStep c) (NextRepoFree c) .init as →
      Along (daemonStep c) (SparesWaiting c) .init as →
        Along (daemonStep c) (PromotesUnlocked c) .init as) := by
  have hiff : Along (daemonStep c) (HandsOutFree c) .init as ↔
      Along (daemonStep c) (NextRepoFree c) .init as :=
    Along.congr (I := fun d : Daemon => d.Sound c.host) (fun _ _ _ hs H => H.step hs)
      (fun _ _ _ _ hs H => handsOutFree_iff_of_step H hs) hrun .init
  refine ⟨hiff, fun hnext hspares => ?_⟩
  refine Along.of_invariant (I := fun d : Daemon => d.Sound c.host ∧ d.WaitsUnlocked c.host)
    ?_ hrun ((hiff.mpr hnext).and hspares) ⟨.init, .init⟩
  intro d a d' hs ⟨hfree, hspares⟩ ⟨hsound, H⟩
  exact ⟨⟨hsound.step hs, H.step hsound hs hfree hspares⟩, H.promotesUnlocked hs⟩

/-- The second run of a repo is handed out when the first completes, and promoted. -/
theorem drainRespectsLocks_of_exec_one_repo :
    ∃ as d, exec (daemonStep ⟨.plain, 0⟩) .init as = some d ∧
      (∃ t ∈ d.tasks, t.spawning = some "b") ∧
      Along (daemonStep ⟨.plain, 0⟩) (HandsOutFree ⟨.plain, 0⟩) .init as ∧
      Along (daemonStep ⟨.plain, 0⟩) (PromotesUnlocked ⟨.plain, 0⟩) .init as := by
  obtain ⟨d, hrun, hspawn⟩ :=
    exists_of_any (o := exec (daemonStep ⟨.plain, 0⟩) .init
        (queuedBehind (.plain "a" "one.md" "/r") [.plain "b" "two.md" "/r"] ++
          completeActions "a" "/r" ++
          [.promote (.plain "b" "two.md" "/r") false 2 .acquired (.ok ())]))
      (P := fun d => ∃ t ∈ d.tasks, t.spawning = some "b") (by decide +kernel)
  have hall := drainRespectsLocks_of_exec hrun
  exact ⟨_, d, hrun, hspawn, hall.1.mpr (by decide +kernel),
    hall.2 (by decide +kernel) (by decide +kernel)⟩

/-- Runs of two repos are Running, and a second run of the first repo is queued. When the run of the
other repo completes, the queued run is popped although its repo is locked; its promotion is refused,
it is marked Failed and counted against the breaker of its repo. -/
theorem completion_pops_run_of_locked_repo :
    ∃ as d, exec (daemonStep ⟨.plain, 0⟩) .init as = some d ∧
      (d.registry.get "a").any (fun e => e.status = .running ∧ e.repoDir = "/r") = true ∧
      (d.registry.get "c").any (fun e => e.status = .failed ∧ e.repoDir = "/r") = true ∧
      d.registry.failures (repoHash .plain "/r") = 1 ∧
      ¬ Along (daemonStep ⟨.plain, 0⟩) (HandsOutFree ⟨.plain, 0⟩) .init as := by
  obtain ⟨d, hrun, ha, hc, hfailures⟩ :=
    exists_of_any (o := exec (daemonStep ⟨.plain, 0⟩) .init
        (queuedBehind (.plain "a" "one.md" "/r") [.plain "c" "three.md" "/r"] ++
          (PendingRun.plain "b" "two.md" "/s").startActions ++ completeActions "b" "/s" ++
          [.promote (.plain "c" "three.md" "/r") false 2 .acquired (.ok ()),
            .drainError (.plain "c" "three.md" "/r") "repository already has an active run: /r" 3]))
      (P := fun d =>
        (d.registry.get "a").any (fun e => e.status = .running ∧ e.repoDir = "/r") = true ∧
        (d.registry.get "c").any (fun e => e.status = .failed ∧ e.repoDir = "/r") = true ∧
        d.registry.failures (repoHash .plain "/r") = 1) (by decide +kernel)
  exact ⟨_, d, hrun, ha, hc, hfailures, by decide⟩

end GreaterWill
