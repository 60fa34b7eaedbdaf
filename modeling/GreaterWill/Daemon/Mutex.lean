import GreaterWill.Daemon.Started

/-!
# One run per repo

The lock of a repo is given to a run that starts and released when a run of the repo becomes
terminal, whichever run that is. So the Running runs of different ids are in different repos as long
as no run is ended while another run of its repo is started; and not beyond that.
-/

namespace GreaterWill

open RunRegistry

variable {c : DaemonConfig} {d d' : Daemon} {host : Host} {r r' : RunRegistry} {a : Action}
  {op : Op} {id id' : String} {e : RunEntry} {spawning : List String}

/-- Every Running run holds the lock of its repo, and no two Running runs share a repo. -/
structure MutualExclusion (host : Host) (r : RunRegistry) : Prop where
  locked : ∀ id e, r.get id = some e → e.status = .running → repoHash host e.repoDir ∈ r.repoLocks
  unique : ∀ id e id' e', r.get id = some e → e.status = .running → r.get id' = some e' →
    e'.status = .running → e.repoDir = e'.repoDir → id = id'

/-- The repo of a run, by hash. -/
def RunRegistry.repoOf (host : Host) (r : RunRegistry) (id : String) : Option String :=
  (r.get id).map fun e => repoHash host e.repoDir

/-- No run that the operation ends has another started run in its repo. -/
def Op.SparesOthers (host : Host) (spawning : List String) (r : RunRegistry) (op : Op) : Prop :=
  ∀ id ∈ op.endedIds host r, ∀ id' ∈ r.startedIds spawning, id' ≠ id →
    r.repoOf host id' ≠ r.repoOf host id

instance : Decidable (op.SparesOthers host spawning r) :=
  inferInstanceAs (Decidable (∀ id ∈ op.endedIds host r, ∀ id' ∈ r.startedIds spawning, _))

/-- No run that the action ends has another started run in its repo. -/
def SparesOthers (c : DaemonConfig) (d : Daemon) (a : Action) : Prop :=
  Along (opStep c.host) (fun r op => op.SparesOthers c.host d.spawningIds r) d.registry
    (a.scope c d.registry).ops

instance : Decidable (SparesOthers c d a) :=
  inferInstanceAs (Decidable (Along (opStep c.host) _ d.registry (a.scope c d.registry).ops))

/-- The started runs hold the locks of their repos and are in different repos. -/
structure Exclusive (host : Host) (spawning : List String) (r : RunRegistry) : Prop where
  locked : ∀ id e, r.get id = some e → r.Started spawning id →
    repoHash host e.repoDir ∈ r.repoLocks
  unique : ∀ id id', r.Started spawning id → r.Started spawning id' →
    r.repoOf host id = r.repoOf host id' → id = id'

namespace Exclusive

theorem new : Exclusive host [] .new where
  locked id e he := by cases he
  unique id id' hid := by
    obtain ⟨e, he, -⟩ := hid
    cases he

theorem mono {spawning' : List String} (H : Exclusive host spawning r)
    (hsub : spawning' ⊆ spawning) : Exclusive host spawning' r where
  locked id e he hid := H.locked id e he (hid.mono hsub)
  unique id id' hid hid' := H.unique id id' (hid.mono hsub) (hid'.mono hsub)

theorem mutualExclusion (H : Exclusive host spawning r) : MutualExclusion host r where
  locked id e he hr := H.locked id e he ⟨e, he, by rw [hr]; rfl, .inl hr⟩
  unique id e id' e' he hr he' hr' hdir := by
    apply H.unique id id'
    · exact ⟨e, he, by rw [hr]; rfl, .inl hr⟩
    · exact ⟨e', he', by rw [hr']; rfl, .inl hr'⟩
    · rw [repoOf, repoOf, he, he', Option.map_some, Option.map_some, hdir]

/-- A run keeps its repo. -/
theorem repoOf_opStep (h : opStep host r op = some r') (hid : r.Started spawning id) :
    r'.repoOf host id = r.repoOf host id := by
  obtain ⟨e, he, -⟩ := hid
  obtain ⟨e', he', hev⟩ := opStep_evolves h he
  rw [repoOf, repoOf, he, he', Option.map_some, Option.map_some, hev.repoDir_eq]

/-- A started run that is not ended keeps the lock of its repo. -/
theorem locked_opStep (H : Exclusive host spawning r) (h : opStep host r op = some r')
    (hspares : op.SparesOthers host spawning r) (hid : r.Started spawning id)
    (hended : id ∉ op.endedIds host r) {hash : String} (hrepo : r.repoOf host id = some hash) :
    hash ∈ r'.repoLocks := by
  obtain ⟨e, he, hlive⟩ := hid
  have hid : r.Started spawning id := ⟨e, he, hlive⟩
  have hhash : repoHash host e.repoDir = hash := by
    rw [repoOf, he, Option.map_some, Option.some.injEq] at hrepo
    exact hrepo
  refine mem_repoLocks_opStep h (hhash ▸ H.locked id e he hid) ?_
  intro id₂ hid₂ e₂ he₂ hhash₂
  have hne : id ≠ id₂ := by
    intro heq
    exact hended (heq ▸ hid₂)
  apply hspares id₂ hid₂ id (mem_startedIds.mpr hid) hne
  rw [hrepo, repoOf, he₂, Option.map_some, hhash₂]

theorem of_opStep (H : Exclusive host spawning r) (h : opStep host r op = some r')
    (hfits : op.Fits r spawning) (hspares : op.SparesOthers host spawning r) :
    Exclusive host (spawning ++ op.lockedIds host r) r' where
  locked id e' he' hstart := by
    rcases started_of_opStep h hfits hstart with hid | hid
    · apply H.locked_opStep h hspares hid (notMem_endedIds_of_started h hstart)
      rw [← repoOf_opStep h hid, repoOf, he', Option.map_some]
    · obtain ⟨e'', he'', -, -, hlocks, -⟩ := opStep_lockedIds h hid
      obtain rfl : e'' = e' := Option.some_injective _ (he''.symm.trans he')
      rw [hlocks]
      exact Finset.mem_insert_self _ _
  unique id id' hstart hstart' hrepo := by
    -- the lock of a run that was just started was free
    have hfree {id id' : String} (hid : id ∈ op.lockedIds host r)
        (hid' : r.Started spawning id') (hrepo : r'.repoOf host id = r'.repoOf host id') :
        False := by
      obtain ⟨e, he, -, hfree, -⟩ := opStep_lockedIds h hid
      obtain ⟨e', he', hlive⟩ := hid'
      rw [repoOf_opStep h ⟨e', he', hlive⟩, repoOf, repoOf, he, he', Option.map_some,
        Option.map_some, Option.some.injEq] at hrepo
      rw [hrepo] at hfree
      exact hfree (H.locked id' e' he' ⟨e', he', hlive⟩)
    rcases started_of_opStep h hfits hstart with hid | hid
    · rcases started_of_opStep h hfits hstart' with hid' | hid'
      · rw [repoOf_opStep h hid, repoOf_opStep h hid'] at hrepo
        exact H.unique id id' hid hid' hrepo
      · exact (hfree hid' hid hrepo.symm).elim
    · rcases started_of_opStep h hfits hstart' with hid' | hid'
      · exact (hfree hid hid' hrepo).elim
      · obtain ⟨-, -, -, -, -, hone, -⟩ := opStep_lockedIds h hid
        rw [hone, List.mem_singleton] at hid'
        exact hid'.symm

/-- One action. -/
theorem of_step (H : d.Sound c.host) (hex : Exclusive c.host d.spawningIds d.registry)
    (h : daemonStep c d a = some d') (hspares : SparesOthers c d a) :
    Exclusive c.host d'.spawningIds d'.registry := by
  rcases scope_cases c d.registry a with ⟨op, hops, -⟩ | hlocks
  · have hexec := exec_of_daemonStep h
    rw [hops, exec_singleton] at hexec
    rw [SparesOthers, hops, Along.cons hexec] at hspares
    have hfits := (Daemon.Within.of_sound H).fits h (by rw [hops]; exact List.mem_singleton_self _)
    refine (hex.of_opStep hexec hfits hspares.1).mono ?_
    intro id hid
    rcases spawningIds_of_daemonStep h hid with hid | ⟨op', hops', hid⟩
    · exact List.mem_append_left _ hid
    · rw [hops, List.singleton_inj] at hops'
      exact List.mem_append_right _ (hops' ▸ hid)
  · have hscope : Exclusive c.host d.spawningIds d'.registry := by
      refine scope_preserves H h hspares ?_ hex
      intro op hop r r' hs hfits hspares hex
      have hex' := hex.of_opStep hs hfits hspares
      rwa [Op.lockedIds_of_locks_eq_false (hlocks op hop), List.append_nil] at hex'
    exact hscope.mono (spawningIds_subset_of_locks h hlocks)

end Exclusive

/-- In every run of the daemon in which no run is ended while another run of its repo is started,
every Running run holds the lock of its repo and no two Running runs share a repo. -/
theorem mutualExclusion_of_exec {as : List Action} (hrun : exec (daemonStep c) .init as = some d)
    (hspares : Along (daemonStep c) (SparesOthers c) .init as) :
    MutualExclusion c.host d.registry := by
  have hboth : d.Sound c.host ∧ Exclusive c.host d.spawningIds d.registry :=
    exec_invariant
      (I := fun d : Daemon => d.Sound c.host ∧ Exclusive c.host d.spawningIds d.registry)
      (fun d a d' hs hspares H => ⟨H.1.step hs, H.2.of_step H.1 hs hspares⟩) hrun hspares
      ⟨.init, .new⟩
  exact hboth.2.mutualExclusion

/-- Two repos with one run each, and a second run that is queued in the first. -/
theorem mutualExclusion_of_exec_two_repos :
    ∃ d, exec (daemonStep ⟨.plain, 0⟩) .init ((PendingRun.plain "a" "one.md" "/r").startActions ++
        (PendingRun.plain "b" "one.md" "/s").startActions ++
        [.submitRun (.plain "c" "two.md" "/r")]) = some d ∧
      d.startedIds.length = 2 ∧ MutualExclusion .plain d.registry := by
  obtain ⟨d, hrun, hstarted⟩ :=
    exists_of_any (o := exec (daemonStep ⟨.plain, 0⟩) .init
        ((PendingRun.plain "a" "one.md" "/r").startActions ++
          (PendingRun.plain "b" "one.md" "/s").startActions ++
          [.submitRun (.plain "c" "two.md" "/r")]))
      (P := fun d => d.startedIds.length = 2) (by decide +kernel)
  exact ⟨d, hrun, hstarted, mutualExclusion_of_exec hrun (by decide +kernel)⟩

/-- A run waits in the queue of a repo with a Running run and is stopped: the Running run loses the
lock, and a third run of the repo starts beside it. -/
theorem stop_of_queued_run_frees_lock :
    ∃ as as' d d', exec (daemonStep ⟨.plain, 0⟩) .init as = some d ∧
      exec (daemonStep ⟨.plain, 0⟩) .init (as ++ as') = some d' ∧
      (∃ e, d.registry.get "a" = some e ∧ e.status = .running ∧
        repoHash .plain e.repoDir ∉ d.registry.repoLocks) ∧
      (∃ e e', d'.registry.get "a" = some e ∧ e.status = .running ∧
        d'.registry.get "c" = some e' ∧ e'.status = .running ∧ e.repoDir = e'.repoDir) ∧
      ¬ MutualExclusion .plain d.registry ∧ ¬ MutualExclusion .plain d'.registry := by
  obtain ⟨d, hrun, hd⟩ :=
    exists_of_any (o := exec (daemonStep ⟨.plain, 0⟩) .init
        ((PendingRun.plain "a" "one.md" "/r").startActions ++
          [.submitRun (.plain "b" "two.md" "/r"), .stopRun "b", .stopDequeue "b" 0]))
      (P := fun d => (d.registry.get "a").any (fun e => e.status = .running ∧
        repoHash .plain e.repoDir ∉ d.registry.repoLocks) = true) (by decide +kernel)
  obtain ⟨d', hrun', ha, hc⟩ :=
    exists_of_any (o := exec (daemonStep ⟨.plain, 0⟩) .init
        (((PendingRun.plain "a" "one.md" "/r").startActions ++
            [.submitRun (.plain "b" "two.md" "/r"), .stopRun "b", .stopDequeue "b" 0]) ++
          (PendingRun.plain "c" "three.md" "/r").startActions))
      (P := fun d =>
        (d.registry.get "a").any (fun e => e.status = .running ∧ e.repoDir = "/r") = true ∧
        (d.registry.get "c").any (fun e => e.status = .running ∧ e.repoDir = "/r") = true)
      (by decide +kernel)
  simp only [Option.any_eq_true, decide_eq_true_eq] at hd ha hc
  obtain ⟨e, he, hr, hfree⟩ := hd
  obtain ⟨ea, hea, hra, hdira⟩ := ha
  obtain ⟨ec, hec, hrc, hdirc⟩ := hc
  have hdir : ea.repoDir = ec.repoDir := hdira.trans hdirc.symm
  refine ⟨_, _, d, d', hrun, hrun', ⟨e, he, hr, hfree⟩, ⟨ea, ec, hea, hra, hec, hrc, hdir⟩, ?_, ?_⟩
  · intro H
    exact hfree (H.locked "a" e he hr)
  · intro H
    have hid := H.unique "a" ea "c" ec hea hra hec hrc hdir
    revert hid
    decide

end GreaterWill
