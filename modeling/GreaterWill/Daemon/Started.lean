import GreaterWill.Daemon.DaemonSpec

/-!
# Started runs

A run is started once `register_run` or `promote_queued` gave it the lock of its repo: a task brings
it up and then shows it as Running. It stays started until it is terminal. Only these two operations
start a run; every other lock scope leaves no run started that was not.
-/

namespace GreaterWill

open RunRegistry

variable {c : DaemonConfig} {d d' : Daemon} {host : Host} {r r' : RunRegistry} {a : Action}
  {op : Op} {id : String} {e : RunEntry} {spawning : List String}

/-- Neither terminal nor waiting for its start; `spawning` are the runs that tasks bring up. -/
def RunRegistry.Started (r : RunRegistry) (spawning : List String) (id : String) : Prop :=
  ∃ e, r.get id = some e ∧ e.status.isTerminal = false ∧ (e.status = .running ∨ id ∈ spawning)

instance : Decidable (r.Started spawning id) :=
  match h : r.get id with
  | some e => decidable_of_iff
      (e.status.isTerminal = false ∧ (e.status = .running ∨ id ∈ spawning)) (by simp [Started, h])
  | none => isFalse (by simp [Started, h])

/-- The started runs. -/
def RunRegistry.startedIds (r : RunRegistry) (spawning : List String) : List String :=
  r.runs.entries.keys.filter fun id => r.Started spawning id

/-- The runs that tasks bring up. -/
def Daemon.spawningIds (d : Daemon) : List String := d.tasks.filterMap Task.spawning

def Daemon.Started (d : Daemon) (id : String) : Prop := d.registry.Started d.spawningIds id

def Daemon.startedIds (d : Daemon) : List String := d.registry.startedIds d.spawningIds

theorem RunRegistry.mem_startedIds : id ∈ r.startedIds spawning ↔ r.Started spawning id := by
  simp only [startedIds, List.mem_filter, decide_eq_true_eq, and_iff_right_iff_imp]
  rintro ⟨e, he, -⟩
  exact List.mem_keys_of_mem (AList.mem_entries_iff.mpr he)

theorem RunRegistry.nodup_startedIds : (r.startedIds spawning).Nodup :=
  r.runs.nodupKeys.filter _

theorem Daemon.mem_spawningIds : id ∈ d.spawningIds ↔ ∃ t ∈ d.tasks, t.spawning = some id :=
  List.mem_filterMap

theorem RunRegistry.Started.mono {spawning' : List String} (h : r.Started spawning id)
    (hsub : spawning ⊆ spawning') : r.Started spawning' id := by
  obtain ⟨e, he, hterm, hlive⟩ := h
  exact ⟨e, he, hterm, hlive.imp_right fun hid => hsub hid⟩

/-! ## One operation -/

/-- What a lock scope of the daemon can rely on before each of its operations: the runs that tasks
bring up have entries, and only those and runs that are not queued are shown as running. -/
structure Op.Fits (r : RunRegistry) (spawning : List String) (op : Op) : Prop where
  known : ∀ id ∈ spawning, (r.get id).isSome = true
  running : ∀ id ∈ op.runningIds, id ∈ spawning ∨ ∃ e, r.get id = some e ∧ e.status ≠ .queued

/-- A run that is started after an operation was started before, or got the lock of its repo. -/
theorem started_of_opStep (h : opStep host r op = some r') (hfits : op.Fits r spawning)
    (hstart : r'.Started (spawning ++ op.lockedIds host r) id) :
    r.Started spawning id ∨ id ∈ op.lockedIds host r := by
  obtain ⟨e', he', hterm', hlive⟩ := hstart
  by_cases hlocked : id ∈ op.lockedIds host r
  · exact .inr hlocked
  left
  have hlive : e'.status = .running ∨ id ∈ spawning :=
    hlive.imp_right fun hid => (List.mem_append.mp hid).resolve_right hlocked
  cases he : r.get id with
  | none =>
    obtain ⟨hq, -⟩ := opStep_added h he he'
    rcases hlive with hr | hid
    · rw [hq] at hr
      cases hr
    · have hknown := hfits.known id hid
      rw [he] at hknown
      cases hknown
  | some e =>
    obtain ⟨e'', he'', hev⟩ := opStep_evolves h he
    obtain rfl : e'' = e' := Option.some_injective _ (he''.symm.trans he')
    have hterm : e.status.isTerminal = false := by
      cases hterm : e.status.isTerminal with
      | false => rfl
      | true =>
        rw [hev.isTerminal hterm] at hterm'
        cases hterm'
    refine ⟨e, he, hterm, ?_⟩
    rcases hlive with hr | hid
    · by_cases hshown : id ∈ op.runningIds
      · rcases hfits.running id hshown with hid | ⟨e₁, he₁, hq⟩
        · exact .inr hid
        · obtain rfl : e = e₁ := Option.some_injective _ (he.symm.trans he₁)
          exact .inl ((RunStatus.not_isTerminal.mp (by simp [hterm])).resolve_left hq)
      · exact .inl (hev.running_of_not_starts hshown hr)
    · exact .inr hid

/-- An operation does not end a run that stays started. -/
theorem notMem_endedIds_of_started (h : opStep host r op = some r')
    (hstart : r'.Started spawning id) : id ∉ op.endedIds host r := by
  intro hended
  obtain ⟨e', he', hterm, -⟩ := hstart
  rw [opStep_ended h hended he'] at hterm
  cases hterm

/-! ## One lock scope -/

/-- A task brings up a run only if it did so before or the scope gave the run its repo lock. -/
theorem spawningIds_of_daemonStep (h : daemonStep c d a = some d') (hid : id ∈ d'.spawningIds) :
    id ∈ d.spawningIds ∨
      ∃ op, (a.scope c d.registry).ops = [op] ∧ id ∈ op.lockedIds c.host d.registry := by
  obtain ⟨t, ht, hspawn⟩ := Daemon.mem_spawningIds.mp hid
  rcases mem_tasks_of_daemonStep h ht with ht | ht
  · rcases spawning_of_follow ht hspawn with ⟨t', hactor, hspawn'⟩ | hlocked
    · exact .inl (Daemon.mem_spawningIds.mpr ⟨t', actor_mem_of_daemonStep h hactor, hspawn'⟩)
    · exact .inr hlocked
  · exact .inl (Daemon.mem_spawningIds.mpr ⟨t, ht, hspawn⟩)

/-- A scope that starts no run leaves no run brought up that was not. -/
theorem spawningIds_subset_of_locks (h : daemonStep c d a = some d')
    (hlocks : ∀ op ∈ (a.scope c d.registry).ops, op.locks = false) :
    d'.spawningIds ⊆ d.spawningIds := by
  intro id hid
  rcases spawningIds_of_daemonStep h hid with hid | ⟨op, hops, hid⟩
  · exact hid
  · have hop : op ∈ (a.scope c d.registry).ops := by
      rw [hops]
      exact List.mem_singleton_self _
    rw [Op.lockedIds_of_locks_eq_false (hlocks op hop)] at hid
    cases hid

/-- The registry in the middle of a scope. -/
structure Daemon.Within (d : Daemon) (r : RunRegistry) : Prop where
  known : ∀ id ∈ d.spawningIds, (r.get id).isSome = true
  watched : ∀ t ∈ d.tasks, ∀ id, t.watching = some id →
    ∃ e, r.get id = some e ∧ e.status ≠ .queued

namespace Daemon.Within

theorem of_sound (H : d.Sound host) : d.Within d.registry where
  known id hid := by
    obtain ⟨t, ht, hspawn⟩ := mem_spawningIds.mp hid
    exact H.spawning t ht id hspawn
  watched := H.watching

theorem of_opStep (H : d.Within r) (h : opStep host r op = some r') : d.Within r' where
  known id hid := opStep_isSome h (H.known id hid)
  watched t ht id hid := by
    obtain ⟨e, he, hq⟩ := H.watched t ht id hid
    obtain ⟨e', he', hev⟩ := opStep_evolves h he
    exact ⟨e', he', fun hq' => hq (hev.queued_of_queued hq')⟩

theorem fits (H : d.Within r) (h : daemonStep c d a = some d')
    (hop : op ∈ (a.scope c d.registry).ops) : op.Fits r d.spawningIds where
  known := H.known
  running id hid := by
    obtain ⟨t, hactor, hspawn | hwatch⟩ := actor_of_runningIds hop hid
    · exact .inl (mem_spawningIds.mpr ⟨t, actor_mem_of_daemonStep h hactor, hspawn⟩)
    · exact .inr (H.watched t (actor_mem_of_daemonStep h hactor) id hwatch)

end Daemon.Within

/-- The rule for a scope: what every operation of it preserves, given what the daemon can rely on. -/
theorem scope_preserves {good : RunRegistry → Op → Prop} {I : RunRegistry → Prop}
    (H : d.Sound c.host) (h : daemonStep c d a = some d')
    (hgood : Along (opStep c.host) good d.registry (a.scope c d.registry).ops)
    (hstep : ∀ op ∈ (a.scope c d.registry).ops, ∀ r r', opStep c.host r op = some r' →
      op.Fits r d.spawningIds → good r op → I r → I r')
    (hinit : I d.registry) : I d'.registry := by
  have hops : Along (opStep c.host) (fun _ op => op ∈ (a.scope c d.registry).ops) d.registry
      (a.scope c d.registry).ops := .of_forall_mem fun _ => id
  have hboth := exec_invariant (I := fun r => d.Within r ∧ I r)
    (fun r op r' hs hg hI =>
      ⟨hI.1.of_opStep hs, hstep op hg.2 r r' hs (hI.1.fits h hg.2) hg.1 hI.2⟩)
    (exec_of_daemonStep h) (hgood.and hops) ⟨.of_sound H, hinit⟩
  exact hboth.2

/-- A run that is started after a scope was started before, or the scope gave it its repo lock. -/
theorem Daemon.started_of_step (H : d.Sound c.host) (h : daemonStep c d a = some d')
    (hstart : d'.Started id) : d.Started id ∨
      ∃ op, (a.scope c d.registry).ops = [op] ∧ id ∈ op.lockedIds c.host d.registry := by
  rcases scope_cases c d.registry a with ⟨op, hops, -⟩ | hlocks
  · have hexec := exec_of_daemonStep h
    rw [hops, exec_singleton] at hexec
    have hfits := (Daemon.Within.of_sound H).fits h (by rw [hops]; exact List.mem_singleton_self _)
    have hsub : d'.spawningIds ⊆ d.spawningIds ++ op.lockedIds c.host d.registry := by
      intro id hid
      rcases spawningIds_of_daemonStep h hid with hid | ⟨op', hops', hid⟩
      · exact List.mem_append_left _ hid
      · rw [hops, List.singleton_inj] at hops'
        exact List.mem_append_right _ (hops' ▸ hid)
    exact (started_of_opStep hexec hfits (hstart.mono hsub)).imp_right fun hid => ⟨op, hops, hid⟩
  · left
    have hstep : ∀ op ∈ (a.scope c d.registry).ops, ∀ r r', opStep c.host r op = some r' →
        op.Fits r d.spawningIds → True → (r.Started d.spawningIds id → d.Started id) →
        r'.Started d.spawningIds id → d.Started id := by
      intro op hop r r' hs hfits _ hback hstart
      have hnone : op.lockedIds c.host r = [] := Op.lockedIds_of_locks_eq_false (hlocks op hop)
      have hstart' : r'.Started (d.spawningIds ++ op.lockedIds c.host r) id := by
        rwa [hnone, List.append_nil]
      rcases started_of_opStep hs hfits hstart' with hstart | hid
      · exact hback hstart
      · rw [hnone] at hid
        cases hid
    exact scope_preserves (I := fun r => r.Started d.spawningIds id → d.Started id) H h
      Along.trivial hstep (fun hstart => hstart)
      (hstart.mono (spawningIds_subset_of_locks h hlocks))

end GreaterWill
