import GreaterWill.Daemon.Started

/-!
# No queued run is lost

A run with the status Queued is pending, or a task owns it: the drain that popped it, its retry, or
the spawn that brings it up. The one way out is the retry task, which only logs an error: when its
pre-flight checks or its promotion fail, its run stays Queued and nobody owns it.
-/

namespace GreaterWill

open RunRegistry

variable {c : DaemonConfig} {d d' : Daemon} {host : Host} {r r' : RunRegistry} {a : Action}
  {op : Op} {ops : List Op} {t : Task} {id : String} {e : RunEntry} {p : PendingRun}
  {owned : List String}

/-- The queued run that the task answers for. -/
def Task.owns : Task → Option String
  | .spawnQueued pending _ | .drainError pending _ => some pending.runId
  | .spawnAfter runId _ | .warmUp runId _ => some runId
  | _ => none

def Daemon.ownedIds (d : Daemon) : List String := d.tasks.filterMap Task.owns

theorem Daemon.mem_ownedIds : id ∈ d.ownedIds ↔ ∃ t ∈ d.tasks, t.owns = some id :=
  List.mem_filterMap

/-- A retry task fails neither in its pre-flight checks nor in its promotion while its run is still
Queued. -/
def RetrySucceeds (c : DaemonConfig) (d : Daemon) : Action → Prop
  | .refuseQueued pending true _ =>
    (d.registry.get pending.runId).all (fun e => e.status ≠ .queued) = true
  | .promote pending true _ io metaIo =>
    (d.registry.get pending.runId).all (fun e =>
      e.status = .queued → d.registry.Grants c.host e.repoDir io metaIo) = true
  | _ => True

instance : Decidable (RetrySucceeds c d a) := by
  cases a with
  | refuseQueued p retry => cases retry <;> simp only [RetrySucceeds] <;> infer_instance
  | promote p retry => cases retry <;> simp only [RetrySucceeds] <;> infer_instance
  | _ => exact inferInstanceAs (Decidable True)

/-- Every queued run is pending or owned. -/
def RunRegistry.Accounted (r : RunRegistry) (owned : List String) : Prop :=
  ∀ id e, r.get id = some e → e.status = .queued → r.isInPendingQueue id = true ∨ id ∈ owned

/-! ## One operation -/

/-- What an operation takes off the queues it hands out, and what it adds it queues or starts. -/
theorem RunRegistry.Accounted.of_opStep (H : r.Accounted owned) (h : opStep host r op = some r') :
    r'.Accounted (owned ++ (op.handsOut host r).map (·.runId) ++ op.lockedIds host r) := by
  intro id e' he' hq
  cases he : r.get id with
  | none =>
    obtain ⟨-, -, hlocked | hpend⟩ := opStep_added h he he'
    · exact .inr (List.mem_append_right _ hlocked)
    · exact .inl hpend
  | some e =>
    rcases H id e he (opStep_queued h he he' hq) with hpend | hid
    · obtain ⟨hash, p, hp, rfl⟩ := isInPendingQueue_iff.mp hpend
      rcases opStep_queue h hp with hp' | hended | hout
      · exact .inl (isInPendingQueue_iff.mpr ⟨hash, p, hp', rfl⟩)
      · have hterm := opStep_ended h hended he'
        rw [hq] at hterm
        cases hterm
      · exact .inr (List.mem_append_left _ (List.mem_append_right _ (List.mem_map_of_mem hout)))
    · exact .inr (List.mem_append_left _ (List.mem_append_left _ hid))

/-! ## One lock scope -/

/-- After a scope every queued run is pending, or it was owned, handed out or started. -/
theorem accounted_of_exec (H : r.Accounted owned)
    (h : exec (opStep c.host) r (a.scope c r).ops = some r') (he' : r'.get id = some e)
    (hq : e.status = .queued) :
    r'.isInPendingQueue id = true ∨ id ∈ owned ∨
      (∃ p ∈ handedOut c.host r (a.scope c r).ops, p.runId = id) ∨
      ∃ op, (a.scope c r).ops = [op] ∧ id ∈ op.lockedIds c.host r := by
  rcases scope_cases c r a with ⟨op, hops, hlocks⟩ | hlocks
  · rw [hops, exec_singleton] at h
    refine (H.of_opStep h id e he' hq).imp_right fun hid => ?_
    rcases List.mem_append.mp hid with hid | hid
    · rcases List.mem_append.mp hid with hid | hid
      · exact .inl hid
      · obtain ⟨p, hp, hpid⟩ := List.mem_map.mp hid
        rw [hops]
        exact .inr (.inl ⟨p, by rwa [handedOut, yields_singleton], hpid⟩)
    · exact .inr (.inr ⟨op, hops, hid⟩)
  · have hmem : Along (opStep c.host) (fun _ op => op ∈ (a.scope c r).ops) r (a.scope c r).ops :=
      .of_forall_mem fun _ hop => hop
    have hinit : r.Accounted (owned ++ ([] : List PendingRun).map (·.runId)) := by
      rwa [List.map_nil, List.append_nil]
    have hall := exec_invariant_yields (f := fun r op => op.handsOut c.host r)
      (I := fun ps r => r.Accounted (owned ++ ps.map (·.runId)))
      (by
        intro ps s op s' hs hop H
        have H' := H.of_opStep hs
        rw [Op.lockedIds_of_locks_eq_false (hlocks op hop), List.append_nil] at H'
        rwa [List.map_append, ← List.append_assoc])
      h hmem hinit
    refine (hall id e he' hq).imp_right fun hid => ?_
    rcases List.mem_append.mp hid with hid | hid
    · exact .inl hid
    · obtain ⟨p, hp, hpid⟩ := List.mem_map.mp hid
      exact .inr (.inl ⟨p, hp, hpid⟩)

/-- An operation that ends or shows a run leaves no queued entry of it. -/
theorem not_queued_of_opStep (h : opStep host r op = some r')
    (hid : id ∈ op.endedIds host r ∨ id ∈ op.runningIds) (he' : r'.get id = some e) :
    e.status ≠ .queued := by
  intro hq
  rcases hid with hid | hid
  · have hterm := opStep_ended h hid he'
    rw [hq] at hterm
    cases hterm
  · exact opStep_running h hid he' hq

/-- The owner of a run that stays queued is followed by an owner. -/
theorem owns_of_actor (H : d.Sound c.host) (h : daemonStep c d a = some d')
    (hretry : RetrySucceeds c d a) (hactor : (a.scope c d.registry).actor = some t)
    (howns : t.owns = some id) (he' : d'.registry.get id = some e) (hq : e.status = .queued) :
    ∃ t' ∈ (a.scope c d.registry).follow, t'.owns = some id := by
  have hexec := exec_of_daemonStep h
  have hcarried {p : PendingRun} (hmem : t ∈ d.tasks) (hp : t.carries = some p) (hpid : p.runId = id) :
      ∃ e₀, d.registry.get id = some e₀ ∧ e₀.status = .queued := by
    obtain ⟨e₀, he₀, -⟩ := H.carries t hmem p hp
    rw [hpid] at he₀
    obtain ⟨e₁, he₁, hev⟩ := exec_evolves hexec he₀
    obtain rfl : e₁ = e := Option.some_injective _ (he₁.symm.trans he')
    exact ⟨e₀, he₀, hev.queued_of_queued hq⟩
  have hmem := actor_mem_of_daemonStep h hactor
  cases a with
  | refuseQueued pending retry error =>
    obtain rfl := Option.some_injective _ hactor
    cases howns
    cases retry with
    | false => exact ⟨_, List.mem_singleton_self _, rfl⟩
    | true =>
      obtain ⟨e₀, he₀, hq₀⟩ := hcarried hmem rfl rfl
      simp [RetrySucceeds, he₀, hq₀] at hretry
  | promote pending retry now io metaIo =>
    obtain rfl := Option.some_injective _ hactor
    cases howns
    obtain ⟨e₀, he₀, hq₀⟩ := hcarried hmem rfl rfl
    cases retry with
    | false =>
      simp only [Action.scope]
      split
      · exact ⟨_, List.mem_singleton_self _, rfl⟩
      · exact ⟨_, List.mem_singleton_self _, rfl⟩
    | true =>
      have hgrants : d.registry.Grants c.host e₀.repoDir io metaIo := by
        simpa [RetrySucceeds, he₀, hq₀] using hretry
      rw [promote_follow_of_grants he₀ hq₀ hgrants]
      exact ⟨_, List.mem_singleton_self _, rfl⟩
  | sessionUp | refreshPid =>
    obtain rfl := Option.some_injective _ hactor
    exact ⟨_, List.mem_singleton_self _, howns⟩
  | spawnFails | sendFails | started =>
    obtain rfl := Option.some_injective _ hactor
    cases howns
    obtain ⟨r, hstep, hnil⟩ := exec_cons.mp hexec
    cases hnil
    refine absurd hq (not_queued_of_opStep hstep ?_ he')
    simp [Op.endedIds, Op.runningIds, RunStatus.isTerminal]
  | drainError pending error now =>
    obtain rfl := Option.some_injective _ hactor
    cases howns
    obtain ⟨e₀, he₀, -⟩ := hcarried hmem rfl rfl
    obtain ⟨r, hstep, hrest⟩ := exec_cons.mp hexec
    obtain ⟨e₁, he₁, -⟩ := opStep_evolves hstep he₀
    obtain ⟨e₂, he₂, hev⟩ := exec_evolves hrest he₁
    obtain rfl : e₂ = e := Option.some_injective _ (he₂.symm.trans he')
    refine absurd (hev.queued_of_queued hq) (not_queued_of_opStep hstep ?_ he₁)
    simp [Op.endedIds, RunStatus.isTerminal]
  | _ =>
    exfalso
    simp only [Action.scope] at hactor
    grind [Task.owns]

/-- One action. -/
theorem accounted_of_daemonStep (H : d.Sound c.host) (h : daemonStep c d a = some d')
    (hretry : RetrySucceeds c d a) (hacc : d.registry.Accounted d.ownedIds) :
    d'.registry.Accounted d'.ownedIds := by
  intro id e he hq
  have hfollow : (∃ t ∈ (a.scope c d.registry).follow, t.owns = some id) → id ∈ d'.ownedIds := by
    intro ⟨t, ht, howns⟩
    exact Daemon.mem_ownedIds.mpr ⟨t, follow_subset_of_daemonStep h ht, howns⟩
  rcases accounted_of_exec hacc (exec_of_daemonStep h) he hq with
    hpend | howned | ⟨p, hp, rfl⟩ | ⟨op, hops, hlocked⟩
  · exact .inl hpend
  · right
    obtain ⟨t, ht, howns⟩ := Daemon.mem_ownedIds.mp howned
    by_cases hactor : (a.scope c d.registry).actor = some t
    · exact hfollow (owns_of_actor H h hretry hactor howns he hq)
    · exact Daemon.mem_ownedIds.mpr ⟨t, mem_tasks_of_ne_actor h ht hactor, howns⟩
  · obtain ⟨retry, hmem⟩ := spawnQueued_of_handedOut hp
    exact .inr (hfollow ⟨_, hmem, rfl⟩)
  · have hop : op ∈ (a.scope c d.registry).ops := by
      rw [hops]
      exact List.mem_singleton_self _
    obtain ⟨caller, hmem⟩ := spawnAfter_of_lockedIds hop hlocked
    exact .inr (hfollow ⟨_, hmem, rfl⟩)

/-- In every run of the daemon in which no retry task fails before the promotion of a run that is
still Queued: every Queued entry is pending or owned by a task, and every run that was pending at
some time is Running, terminal or pending again once no task owns it. -/
theorem noQueuedRunLost_of_exec {as : List Action} (hrun : exec (daemonStep c) .init as = some d)
    (hretry : Along (daemonStep c) (RetrySucceeds c) .init as) :
    (∀ id e, d.registry.get id = some e → e.status = .queued →
      d.registry.isInPendingQueue id = true ∨ ∃ t ∈ d.tasks, t.owns = some id) ∧
    ∀ pre post d₀, as = pre ++ post → exec (daemonStep c) .init pre = some d₀ →
      ∀ p ∈ d₀.registry.pendingEntries, (∀ t ∈ d.tasks, t.owns ≠ some p.runId) →
        ∃ e, d.registry.get p.runId = some e ∧ (e.status = .running ∨ e.status.isTerminal = true ∨
          d.registry.isInPendingQueue p.runId = true) := by
  have hboth : d.Sound c.host ∧ d.registry.Accounted d.ownedIds :=
    exec_invariant (I := fun d : Daemon => d.Sound c.host ∧ d.registry.Accounted d.ownedIds)
      (fun d a d' hs hretry H => ⟨H.1.step hs, accounted_of_daemonStep H.1 hs hretry H.2⟩) hrun
      hretry ⟨.init, fun id e he => nomatch he⟩
  have haccounted (id : String) (e : RunEntry) (he : d.registry.get id = some e)
      (hq : e.status = .queued) : d.registry.isInPendingQueue id = true ∨
        ∃ t ∈ d.tasks, t.owns = some id :=
    (hboth.2 id e he hq).imp_right Daemon.mem_ownedIds.mp
  refine ⟨haccounted, ?_⟩
  rintro pre post d₀ rfl hpre p hp hfree
  obtain ⟨d₁, hpre', hpost⟩ := exec_append.mp hrun
  obtain rfl : d₀ = d₁ := Option.some_injective _ (hpre.symm.trans hpre')
  obtain ⟨hash, hp⟩ := mem_pendingEntries.mp hp
  obtain ⟨-, e₀, he₀, -⟩ := (Daemon.Sound.run hpre).registry.pending hash p hp
  obtain ⟨e, he, -⟩ := daemon_evolves hpost he₀
  refine ⟨e, he, ?_⟩
  cases hterm : e.status.isTerminal with
  | true => exact .inr (.inl rfl)
  | false =>
    have hlive : ¬ e.status.isTerminal = true := by simp [hterm]
    rcases RunStatus.not_isTerminal.mp hlive with hq | hr
    · rcases haccounted _ e he hq with hpend | ⟨t, ht, howns⟩
      · exact .inr (.inr hpend)
      · exact absurd howns (hfree t ht)
    · exact .inl hr

/-- A drain fails, its retry goes through. -/
theorem noQueuedRunLost_of_exec_retry :
    ∃ d, exec (daemonStep ⟨.plain, 0⟩) .init
        (queuedBehind (.plain "a" "one.md" "/r")
            [.plain "b" "two.md" "/r", .plain "c" "three.md" "/r"] ++
          completeActions "a" "/r" ++
          [.refuseQueued (.plain "b" "two.md" "/r") false "network unavailable",
            .drainError (.plain "b" "two.md" "/r") "network unavailable" 2,
            .promote (.plain "c" "three.md" "/r") true 3 .acquired (.ok ())]) = some d ∧
      (∀ id e, d.registry.get id = some e → e.status = .queued →
        d.registry.isInPendingQueue id = true ∨ ∃ t ∈ d.tasks, t.owns = some id) ∧
      (d.registry.get "c").any (·.status = .queued) = true := by
  obtain ⟨d, hrun, hc⟩ :=
    exists_of_any (o := exec (daemonStep ⟨.plain, 0⟩) .init
        (queuedBehind (.plain "a" "one.md" "/r")
            [.plain "b" "two.md" "/r", .plain "c" "three.md" "/r"] ++
          completeActions "a" "/r" ++
          [.refuseQueued (.plain "b" "two.md" "/r") false "network unavailable",
            .drainError (.plain "b" "two.md" "/r") "network unavailable" 2,
            .promote (.plain "c" "three.md" "/r") true 3 .acquired (.ok ())]))
      (P := fun d => (d.registry.get "c").any (·.status = .queued) = true) (by decide +kernel)
  exact ⟨d, hrun, (noQueuedRunLost_of_exec hrun (by decide +kernel)).1, hc⟩

/-- The network fails for the drained run and again for its retry: the third run of the repo stays
Queued, in no queue and without a task. -/
theorem retry_loses_run :
    ∃ as d, exec (daemonStep ⟨.plain, 0⟩) .init as = some d ∧
      (d.registry.get "c").any (·.status = .queued) = true ∧
      d.registry.isInPendingQueue "c" = false ∧ d.tasks = [] ∧
      ¬ ∀ id e, d.registry.get id = some e → e.status = .queued →
        d.registry.isInPendingQueue id = true ∨ ∃ t ∈ d.tasks, t.owns = some id := by
  obtain ⟨d, hrun, hc, hpend, htasks⟩ :=
    exists_of_any (o := exec (daemonStep ⟨.plain, 0⟩) .init
        (queuedBehind (.plain "a" "one.md" "/r")
            [.plain "b" "two.md" "/r", .plain "c" "three.md" "/r"] ++
          completeActions "a" "/r" ++
          [.refuseQueued (.plain "b" "two.md" "/r") false "network unavailable",
            .drainError (.plain "b" "two.md" "/r") "network unavailable" 2,
            .refuseQueued (.plain "c" "three.md" "/r") true "network unavailable"]))
      (P := fun d => (d.registry.get "c").any (·.status = .queued) = true ∧
        d.registry.isInPendingQueue "c" = false ∧ d.tasks = []) (by decide +kernel)
  refine ⟨_, d, hrun, hc, hpend, htasks, fun hall => ?_⟩
  obtain ⟨e, he, hq⟩ := (Option.any_eq_true _ _).mp hc
  rcases hall "c" e he (by simpa using hq) with hpend' | ⟨t, ht, -⟩
  · rw [hpend] at hpend'
    cases hpend'
  · rw [htasks] at ht
    cases ht

end GreaterWill
