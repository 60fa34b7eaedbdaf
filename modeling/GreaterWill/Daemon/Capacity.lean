import GreaterWill.Daemon.Started

/-!
# The cap on concurrent runs

`max_concurrent_runs` is checked once, when a run is submitted, and against the Running runs alone.
The schedule loop and the drain tasks start runs without a check, and between the check and the
registration of a run others may start. So the started runs stay within the cap exactly as long as
no run gets its repo lock while the cap is reached.
-/

namespace GreaterWill

open RunRegistry

variable {c : DaemonConfig} {d d' : Daemon} {host : Host} {r r' : RunRegistry} {a : Action}
  {op : Op} {id : String} {spawning : List String}

/-- The started runs are at most `max_concurrent_runs`. -/
def WithinCap (c : DaemonConfig) (d : Daemon) : Prop :=
  d.startedIds.length ≤ c.maxConcurrentRuns

instance : Decidable (WithinCap c d) :=
  inferInstanceAs (Decidable (_ ≤ _))

/-- A run that the action gives its repo lock, unless it is started already, finds fewer than
`max_concurrent_runs` runs started. -/
def StartsBelowCap (c : DaemonConfig) (d : Daemon) (a : Action) : Prop :=
  ∀ op ∈ (a.scope c d.registry).ops, ∀ id ∈ op.lockedIds c.host d.registry,
    id ∉ d.startedIds → d.startedIds.length < c.maxConcurrentRuns

instance : Decidable (StartsBelowCap c d a) :=
  inferInstanceAs (Decidable (∀ op ∈ (a.scope c d.registry).ops,
    ∀ id ∈ op.lockedIds c.host d.registry, _))

/-! ## A step that starts a run -/

/-- A started run stays started under an operation that ends no run. -/
theorem started_opStep (h : opStep host r op = some r') (hended : op.endedIds host r = [])
    (hid : r.Started spawning id) : r'.Started spawning id := by
  obtain ⟨e, he, hterm, hlive⟩ := hid
  obtain ⟨e', he', hev⟩ := opStep_evolves h he
  rw [hended] at hev
  have hterm' : e'.status.isTerminal = false := by
    cases hterm' : e'.status.isTerminal with
    | false => rfl
    | true =>
      rw [hev.isTerminal_of_not_ends List.not_mem_nil hterm'] at hterm
      cases hterm
  refine ⟨e', he', hterm', hlive.imp_left fun hr => ?_⟩
  refine (RunStatus.not_isTerminal.mp (by simp [hterm'])).resolve_left fun hq => ?_
  rw [hev.queued_of_queued hq] at hr
  cases hr

/-- A scope that gives a run its repo lock keeps the tasks that bring runs up. -/
theorem spawningIds_subset_of_lockedIds (h : daemonStep c d a = some d')
    (hop : op ∈ (a.scope c d.registry).ops) (hid : id ∈ op.lockedIds c.host d.registry) :
    d.spawningIds ⊆ d'.spawningIds := by
  intro id' hid'
  obtain ⟨t, ht, hspawn⟩ := Daemon.mem_spawningIds.mp hid'
  refine Daemon.mem_spawningIds.mpr ⟨t, mem_tasks_of_ne_actor h ht ?_, hspawn⟩
  rcases scope_of_locks hop (Op.locks_of_mem_lockedIds hid) with
    ⟨_, _, _, _, _, _, _, _, _, rfl, -⟩ | ⟨_, _, _, _, _, rfl, -⟩ <;>
  · intro hactor
    cases hactor
    cases hspawn

/-- A scope that gives a run its repo lock leaves it started, beside all that were. -/
theorem started_of_lockedIds (h : daemonStep c d a = some d')
    (hop : op ∈ (a.scope c d.registry).ops) (hid : id ∈ op.lockedIds c.host d.registry) :
    id :: d.startedIds ⊆ d'.startedIds := by
  have hexec := exec_of_daemonStep h
  rw [ops_of_locks hop (Op.locks_of_mem_lockedIds hid), exec_singleton] at hexec
  obtain ⟨e', he', hq, -, -, -, hended⟩ := opStep_lockedIds hexec hid
  obtain ⟨caller, hfollow⟩ := spawnAfter_of_lockedIds hop hid
  rw [List.cons_subset]
  constructor
  · have hspawn : id ∈ d'.spawningIds :=
      Daemon.mem_spawningIds.mpr ⟨_, follow_subset_of_daemonStep h hfollow, rfl⟩
    exact mem_startedIds.mpr ⟨e', he', by rw [hq]; rfl, .inr hspawn⟩
  · intro id' hid'
    have hstart := started_opStep hexec hended (mem_startedIds.mp hid')
    exact mem_startedIds.mpr (hstart.mono (spawningIds_subset_of_lockedIds h hop hid))

/-- Without a run that newly gets its repo lock, no run is started that was not. -/
theorem startedIds_subset (H : d.Sound c.host) (h : daemonStep c d a = some d')
    (hnone : ∀ op ∈ (a.scope c d.registry).ops, ∀ id ∈ op.lockedIds c.host d.registry,
      id ∈ d.startedIds) : d'.startedIds ⊆ d.startedIds := by
  intro id hid
  rcases d.started_of_step H h (mem_startedIds.mp hid) with hstart | ⟨op, hops, hlocked⟩
  · exact mem_startedIds.mpr hstart
  · apply hnone op
    · rw [hops]
      exact List.mem_singleton_self _
    · exact hlocked

/-- A scope that gives a run its repo lock starts no other run. -/
theorem startedIds_subset_cons (H : d.Sound c.host) (h : daemonStep c d a = some d')
    (hop : op ∈ (a.scope c d.registry).ops) (hid : id ∈ op.lockedIds c.host d.registry) :
    d'.startedIds ⊆ id :: d.startedIds := by
  intro id' hid'
  have hexec := exec_of_daemonStep h
  have hops := ops_of_locks hop (Op.locks_of_mem_lockedIds hid)
  rw [hops, exec_singleton] at hexec
  obtain ⟨-, -, -, -, -, hone, -⟩ := opStep_lockedIds hexec hid
  rcases d.started_of_step H h (mem_startedIds.mp hid') with hstart | ⟨op', hops', hlocked⟩
  · exact List.mem_cons_of_mem _ (mem_startedIds.mpr hstart)
  · rw [hops, List.singleton_inj] at hops'
    rw [← hops', hone, List.mem_singleton] at hlocked
    exact hlocked ▸ List.mem_cons_self

/-- A step from within the cap stays within it exactly if it starts a run below the cap. -/
theorem withinCap_iff_of_step (H : d.Sound c.host) (h : daemonStep c d a = some d')
    (hcap : WithinCap c d) : WithinCap c d' ↔ StartsBelowCap c d a := by
  constructor
  · intro hcap' op hop id hid hnew
    have hnodup : (id :: d.startedIds).Nodup := List.nodup_cons.mpr ⟨hnew, nodup_startedIds⟩
    have hlen := (List.subperm_of_subset hnodup (started_of_lockedIds h hop hid)).length_le
    rw [List.length_cons] at hlen
    unfold WithinCap at hcap'
    omega
  · intro hbelow
    by_cases hnew : ∃ op ∈ (a.scope c d.registry).ops, ∃ id ∈ op.lockedIds c.host d.registry,
        id ∉ d.startedIds
    · obtain ⟨op, hop, id, hid, hnew⟩ := hnew
      have hlt := hbelow op hop id hid hnew
      have hsub := startedIds_subset_cons H h hop hid
      have hlen := (List.subperm_of_subset nodup_startedIds hsub).length_le
      rw [List.length_cons] at hlen
      exact hlen.trans hlt
    · push Not at hnew
      have hsub := startedIds_subset H h hnew
      exact (List.subperm_of_subset nodup_startedIds hsub).length_le.trans hcap

/-- In a run of the daemon the started runs stay within the cap exactly if every run that gets its
repo lock finds fewer than `max_concurrent_runs` runs started. -/
theorem withinCap_iff_of_exec {as : List Action} (hrun : exec (daemonStep c) .init as = some d) :
    (∀ pre post d', as = pre ++ post → exec (daemonStep c) .init pre = some d' → WithinCap c d') ↔
      Along (daemonStep c) (StartsBelowCap c) .init as :=
  forall_prefix_iff_along (J := fun d : Daemon => d.Sound c.host)
    (fun _ _ _ hs H => H.step hs) (fun _ _ _ hs H hcap => withinCap_iff_of_step H hs hcap)
    hrun .init (Nat.zero_le _)

/-- Under a cap of one, the second run is queued. -/
theorem withinCap_iff_of_exec_one :
    ∃ d, exec (daemonStep ⟨.plain, 1⟩) .init ((PendingRun.plain "a" "one.md" "/r").startActions ++
        [.submitRun (.plain "b" "two.md" "/s")]) = some d ∧
      d.startedIds = ["a"] ∧ WithinCap ⟨.plain, 1⟩ d := by
  obtain ⟨d, hrun, hstarted⟩ :=
    exists_of_any (o := exec (daemonStep ⟨.plain, 1⟩) .init
        ((PendingRun.plain "a" "one.md" "/r").startActions ++
          [.submitRun (.plain "b" "two.md" "/s")]))
      (P := fun d => d.startedIds = ["a"]) (by decide +kernel)
  have hcap := (withinCap_iff_of_exec hrun).mpr (by decide)
  exact ⟨d, hrun, hstarted, hcap _ [] d (List.append_nil _).symm hrun⟩

/-- Under a cap of one, two runs are submitted before the first is registered: both pass the check,
and both are Running in the end. -/
theorem two_submissions_exceed_cap :
    ∃ as d, exec (daemonStep ⟨.plain, 1⟩) .init as = some d ∧
      d.startedIds.length = 2 ∧ d.registry.countRunning = 2 ∧ ¬ WithinCap ⟨.plain, 1⟩ d := by
  obtain ⟨d, hrun, hstarted, hcount⟩ :=
    exists_of_any (o := exec (daemonStep ⟨.plain, 1⟩) .init
        ([.submitRun (.plain "a" "one.md" "/r"), .submitRun (.plain "b" "one.md" "/s")] ++
          (PendingRun.plain "a" "one.md" "/r").startActions.tail ++
          (PendingRun.plain "b" "one.md" "/s").startActions.tail))
      (P := fun d => d.startedIds.length = 2 ∧ d.registry.countRunning = 2) (by decide +kernel)
  refine ⟨_, d, hrun, hstarted, hcount, ?_⟩
  unfold WithinCap
  rw [hstarted]
  decide

end GreaterWill
