import GreaterWill.Daemon.Tasks

/-!
# What a lock scope of the daemon does

Which tasks a lock scope leaves behind, which of its operations lock a repo, show a run as running or
hand out pending runs, and the facts on tasks and entries that hold in every run of the daemon
(`Daemon.Sound`).
-/

namespace GreaterWill

open RunRegistry

/-! ## What a task is about -/

/-- The popped run that the caller answers for. -/
def Caller.carries : Caller → Option PendingRun
  | .drain pending => some pending
  | _ => none

namespace Task

/-- The run that the task brings up under its repo lock. -/
def spawning : Task → Option String
  | .spawnAfter runId _ | .warmUp runId _ => some runId
  | _ => none

/-- The run that the heartbeat task watches or recovers. -/
def watching : Task → Option String
  | .updatePhase runId _ _ | .complete runId | .monitor runId | .recovery runId
  | .resolveRestart runId | .spawnRecovery runId => some runId
  | _ => none

/-- The popped run that the task answers for. -/
def carries : Task → Option PendingRun
  | .spawnQueued pending _ | .drainError pending _ => some pending
  | .spawnRun _ _ _ _ caller | .spawnAfter _ caller | .warmUp _ caller => caller.carries
  | _ => none

end Task

namespace Op

/-- The operation may give a run the lock of its repo. -/
def locks : Op → Bool
  | .registerRun .. | .promoteQueued .. => true
  | _ => false

/-- The operation may hand out a pending run. -/
def drains : Op → Bool
  | .drainNext _ | .drainNextOrAny _ => true
  | _ => false

theorem handsOut_of_drains_eq_false {host : Host} {r : RunRegistry} {op : Op}
    (h : op.drains = false) : op.handsOut host r = [] := by
  cases op with
  | drainNext | drainNextOrAny => cases h
  | _ => rfl

theorem lockedIds_of_locks_eq_false {host : Host} {r : RunRegistry} {op : Op}
    (h : op.locks = false) : op.lockedIds host r = [] := by
  cases op with
  | registerRun | promoteQueued => cases h
  | _ => rfl

theorem locks_of_mem_lockedIds {host : Host} {r : RunRegistry} {op : Op} {id : String}
    (h : id ∈ op.lockedIds host r) : op.locks = true := by
  cases hlocks : op.locks with
  | true => rfl
  | false =>
    rw [lockedIds_of_locks_eq_false hlocks] at h
    cases h

end Op

variable {host : Host} {c : DaemonConfig} {d d' : Daemon} {r r' : RunRegistry} {a : Action}
  {t : Task} {op : Op} {ops : List Op} {id error : String} {caller : Caller} {p : PendingRun}
  {e : RunEntry}

/-! ## The parts of a step -/

theorem exec_of_daemonStep (h : daemonStep c d a = some d') :
    exec (opStep c.host) d.registry (a.scope c d.registry).ops = some d'.registry := by
  simp only [daemonStep] at h
  split at h
  · obtain ⟨r, hexec, rfl⟩ := Option.map_eq_some_iff.mp h
    exact hexec
  · cases h

theorem actor_mem_of_daemonStep (h : daemonStep c d a = some d')
    (ht : (a.scope c d.registry).actor = some t) : t ∈ d.tasks := by
  simp only [daemonStep] at h
  split at h
  · next hall => simpa [ht] using hall
  · cases h

theorem tasks_of_daemonStep (h : daemonStep c d a = some d') :
    d'.tasks = (a.scope c d.registry).follow ++
      (a.scope c d.registry).actor.elim d.tasks d.tasks.erase := by
  simp only [daemonStep] at h
  split at h
  · obtain ⟨r, -, rfl⟩ := Option.map_eq_some_iff.mp h
    rfl
  · cases h

theorem mem_tasks_of_daemonStep (h : daemonStep c d a = some d') (ht : t ∈ d'.tasks) :
    t ∈ (a.scope c d.registry).follow ∨ t ∈ d.tasks := by
  rw [tasks_of_daemonStep h] at ht
  refine (List.mem_append.mp ht).imp_right fun ht => ?_
  cases hactor : (a.scope c d.registry).actor with
  | none => rwa [hactor] at ht
  | some t' =>
    rw [hactor] at ht
    exact List.mem_of_mem_erase ht

theorem follow_subset_of_daemonStep (h : daemonStep c d a = some d')
    (ht : t ∈ (a.scope c d.registry).follow) : t ∈ d'.tasks := by
  rw [tasks_of_daemonStep h]
  exact List.mem_append_left _ ht

/-- Only the actor leaves. -/
theorem mem_tasks_of_ne_actor (h : daemonStep c d a = some d') (ht : t ∈ d.tasks)
    (hne : (a.scope c d.registry).actor ≠ some t) : t ∈ d'.tasks := by
  rw [tasks_of_daemonStep h]
  apply List.mem_append_right
  cases hactor : (a.scope c d.registry).actor with
  | none => exact ht
  | some t' =>
    have htt' : t ≠ t' := by
      intro heq
      rw [hactor, heq] at hne
      exact hne rfl
    exact (List.mem_erase_of_ne htt').mpr ht

/-! ## The tasks that come after a scope -/

namespace Caller

@[grind →] theorem spawning_onError (h : t ∈ caller.onError error) :
    t.spawning = none ∧ t.watching = none := by
  cases caller with
  | drain p =>
    rw [List.mem_singleton.mp h]
    exact ⟨rfl, rfl⟩
  | _ => cases h

@[grind →] theorem attributes_onOk (h : t ∈ caller.onOk error) :
    t.spawning = none ∧ t.watching = none ∧ t.carries = none := by
  cases caller with
  | schedule scheduleId =>
    rw [List.mem_singleton.mp h]
    exact ⟨rfl, rfl, rfl⟩
  | _ => cases h

@[grind →] theorem carries_onError (h : t ∈ caller.onError error) :
    t.carries = caller.carries := by
  cases caller with
  | drain p =>
    rw [List.mem_singleton.mp h]
    rfl
  | _ => cases h

@[grind →] theorem carries_caller {retry : Bool} {p' : PendingRun}
    (h : (p'.caller retry).carries = some p) : p' = p := by
  cases retry with
  | false => cases h; rfl
  | true => cases h

end Caller

theorem registerRun_of_ok {plan repo : PathBuf} {session : Option String}
    {config : Option PathBuf} {runId runId' : String} {now : DateTime} {io : LockIo}
    {metaIo : Except String Unit}
    (h : (r.registerRun host plan repo session config none runId now io metaIo).1 = .ok runId') :
    runId' = runId ∧
      runId ∈ (Op.registerRun plan repo session config runId now io metaIo).lockedIds host r := by
  rcases registerRun_cases host r plan repo session config none runId now io metaIo with
    ⟨hgrants, heq⟩ | ⟨-, e, heq⟩
  · rw [heq] at h
    cases h
    exact ⟨rfl, by simp [Op.lockedIds, hgrants]⟩
  · rw [heq] at h
    cases h

theorem promoteQueued_of_ok {runId : String} {now : DateTime} {io : LockIo}
    {metaIo : Except String Unit} {u : Unit}
    (h : (r.promoteQueued host runId now io metaIo).1 = .ok u) :
    runId ∈ (Op.promoteQueued runId now io metaIo).lockedIds host r := by
  rcases promoteQueued_cases host r runId now io metaIo with
    ⟨e, he, hq, hgrants, heq⟩ | ⟨-, err, heq | ⟨e, -, heq⟩⟩
  · simp [Op.lockedIds, he, hq, hgrants]
  · rw [heq] at h
    cases h
  · rw [heq] at h
    cases h

/-- A spawn goes on, or it begins with the lock of the repo. -/
theorem spawning_of_follow (ht : t ∈ (a.scope c r).follow) (hid : t.spawning = some id) :
    (∃ t', (a.scope c r).actor = some t' ∧ t'.spawning = some id) ∨
      ∃ op, (a.scope c r).ops = [op] ∧ id ∈ op.lockedIds c.host r := by
  cases a with
  | register planPath repoDir sessionName configDir caller runId now io metaIo =>
    right
    refine ⟨_, rfl, ?_⟩
    simp only [Action.scope] at ht
    split at ht
    · next runId' hok =>
      obtain ⟨rfl, hlocked⟩ := registerRun_of_ok hok
      rw [List.mem_singleton.mp ht] at hid
      cases hid
      exact hlocked
    · cases ht
  | promote pending retry now io metaIo =>
    right
    refine ⟨_, rfl, ?_⟩
    simp only [Action.scope] at ht
    split at ht
    · next u hok =>
      rw [List.mem_singleton.mp ht] at hid
      cases hid
      exact promoteQueued_of_ok hok
    · rw [(Caller.spawning_onError ht).1] at hid
      cases hid
  | sessionUp | refreshPid =>
    left
    obtain rfl := List.mem_singleton.mp ht
    exact ⟨_, rfl, hid⟩
  | _ =>
    exfalso
    simp only [Action.scope] at ht
    grind [Task.spawning]

/-- A run is watched on, or its entry has a tmux session. -/
theorem watching_of_follow (ht : t ∈ (a.scope c r).follow) (hid : t.watching = some id) :
    (∃ t', (a.scope c r).actor = some t' ∧ t'.watching = some id) ∨
      ∃ e, r.get id = some e ∧ e.tmuxSession.isSome = true := by
  cases a with
  | capturePane runId phase fromCheckpoint =>
    right
    simp only [Action.scope, List.mem_map, Option.mem_toList, Option.filter_eq_some_iff] at ht
    obtain ⟨e, ⟨he, hwatch⟩, rfl⟩ := ht
    cases hid
    exact ⟨e, he, (Bool.and_eq_true _ _ ▸ hwatch).2⟩
  | startMonitor runId =>
    right
    simp only [Action.scope, List.mem_map, Option.mem_toList, Option.filter_eq_some_iff] at ht
    obtain ⟨e, ⟨he, hwatch⟩, rfl⟩ := ht
    cases hid
    exact ⟨e, he, (Bool.and_eq_true _ _ ▸ hwatch).2⟩
  | updatePhase runId phase confirmed now =>
    left
    refine ⟨_, rfl, ?_⟩
    simp only [Action.scope] at ht
    split at ht
    · rw [List.mem_singleton.mp ht] at hid
      exact hid
    · cases ht
  | monitorEnds | gateRecovery | resolveRestart =>
    left
    refine ⟨_, rfl, ?_⟩
    simp only [Action.scope] at ht
    grind [Task.watching]
  | _ =>
    exfalso
    simp only [Action.scope] at ht
    grind [Task.watching]

/-- A popped run is carried on, or it was just handed out. -/
theorem carries_of_follow (ht : t ∈ (a.scope c r).follow) (hp : t.carries = some p) :
    (∃ t', (a.scope c r).actor = some t' ∧ t'.carries = some p) ∨
      p ∈ handedOut c.host r (a.scope c r).ops := by
  cases a with
  | drainIfAvailable | drainError =>
    right
    simp only [Action.scope, List.mem_map] at ht
    obtain ⟨p', hp', rfl⟩ := ht
    cases hp
    exact hp'
  | sessionUp | refreshPid =>
    left
    obtain rfl := List.mem_singleton.mp ht
    exact ⟨_, rfl, hp⟩
  | register | refuseQueued | promote | spawnFails | sendFails | started =>
    left
    refine ⟨_, rfl, ?_⟩
    simp only [Action.scope] at ht
    grind [Task.carries]
  | _ =>
    exfalso
    simp only [Action.scope] at ht
    grind [Task.carries, Caller.carries]

/-! ## The operations of a scope -/

@[grind →] theorem mem_statusOps {runId : String} {now : DateTime}
    {s : Option (RunStatus × Option String × Option String)} (h : op ∈ statusOps runId now s) :
    ∃ status phase error, s = some (status, phase, error) ∧
      op = .stageStatus runId status phase error now := by
  cases s with
  | none => cases h
  | some s => exact ⟨_, _, _, rfl, List.mem_singleton.mp h⟩

@[grind →] theorem MonitorOutcome.isTerminal_of_status {outcome : MonitorOutcome}
    {status : RunStatus} {phase error : Option String}
    (h : outcome.status = some (status, phase, error)) : status.isTerminal = true := by
  cases outcome <;> cases h <;> rfl

@[grind →] theorem RestartDecision.isTerminal_of_status {decision : RestartDecision}
    {status : RunStatus} {phase error : Option String}
    (h : decision.status = some (status, phase, error)) : status.isTerminal = true := by
  cases decision <;> cases h <;> rfl

/-- A recovery fails, or the run goes on. -/
theorem Respawn.op_cases (respawn : Respawn) (runId : String) (now : DateTime) :
    (∃ error, respawn.op runId now = .stageStatus runId .failed none error now) ∨
      ∃ patch phase, respawn.op runId now = .setRunning runId patch phase now := by
  cases respawn with
  | alive | resumed => exact .inr ⟨_, _, rfl⟩
  | diskLow | spawnFails | sendFails => exact .inl ⟨_, rfl⟩

@[grind →] theorem mem_drainOps {repoDir : PathBuf} {failed : Bool} {now : DateTime}
    (h : op ∈ drainOps repoDir failed now) : op = .recordFailure repoDir now ∨
      op = .recordSuccess repoDir ∨ op = .drainNextOrAny repoDir ∨ op = .stageQueue := by
  cases failed <;> simp [drainOps] at h <;> tauto

theorem runningIds_of_isTerminal {runId : String} {status : RunStatus} {phase error : Option String}
    {now : DateTime} (h : status.isTerminal = true) :
    (Op.stageStatus runId status phase error now).runningIds = [] := by
  cases status with
  | queued | running => cases h
  | _ => rfl

@[grind =] theorem Respawn.op_locks (respawn : Respawn) (runId : String) (now : DateTime) :
    (respawn.op runId now).locks = false := by
  rcases respawn.op_cases runId now with ⟨error, heq⟩ | ⟨patch, phase, heq⟩ <;> rw [heq] <;> rfl

@[grind =] theorem Respawn.op_drains (respawn : Respawn) (runId : String) (now : DateTime) :
    (respawn.op runId now).drains = false := by
  rcases respawn.op_cases runId now with ⟨error, heq⟩ | ⟨patch, phase, heq⟩ <;> rw [heq] <;> rfl

/-- Only a registration and a promotion lock a repo. -/
theorem scope_of_locks (hop : op ∈ (a.scope c r).ops) (hlocks : op.locks = true) :
    (∃ plan repo session config caller runId now io metaIo,
      a = .register plan repo session config caller runId now io metaIo ∧
        op = .registerRun plan repo session config runId now io metaIo) ∨
      ∃ pending retry now io metaIo, a = .promote pending retry now io metaIo ∧
        op = .promoteQueued pending.runId now io metaIo := by
  cases a with
  | register => exact .inl ⟨_, _, _, _, _, _, _, _, _, rfl, List.mem_singleton.mp hop⟩
  | promote => exact .inr ⟨_, _, _, _, _, rfl, List.mem_singleton.mp hop⟩
  | _ =>
    exfalso
    simp only [Action.scope] at hop
    grind [Op.locks, drainErrorOps]

/-- A scope that locks a repo does nothing else. -/
theorem ops_of_locks (hop : op ∈ (a.scope c r).ops) (hlocks : op.locks = true) :
    (a.scope c r).ops = [op] := by
  rcases scope_of_locks hop hlocks with
    ⟨_, _, _, _, _, _, _, _, _, rfl, rfl⟩ | ⟨_, _, _, _, _, rfl, rfl⟩ <;> rfl

/-- A scope either starts a run, with one operation, or starts no run. -/
theorem scope_cases (c : DaemonConfig) (r : RunRegistry) (a : Action) :
    (∃ op, (a.scope c r).ops = [op] ∧ op.locks = true) ∨
      ∀ op ∈ (a.scope c r).ops, op.locks = false := by
  by_cases hlocks : ∃ op ∈ (a.scope c r).ops, op.locks = true
  · obtain ⟨op, hop, hlocks⟩ := hlocks
    exact .inl ⟨op, ops_of_locks hop hlocks, hlocks⟩
  · right
    intro op hop
    cases hop' : op.locks with
    | false => rfl
    | true => exact absurd ⟨op, hop, hop'⟩ hlocks

/-- A promotion that gets the lock goes on to the spawn. -/
theorem promote_follow_of_grants {retry : Bool} {now : DateTime} {io : LockIo}
    {metaIo : Except String Unit} (he : r.get p.runId = some e) (hq : e.status = .queued)
    (hgrants : r.Grants c.host e.repoDir io metaIo) :
    ((Action.promote p retry now io metaIo).scope c r).follow =
      [.spawnAfter p.runId (p.caller retry)] := by
  rcases promoteQueued_cases c.host r p.runId now io metaIo with ⟨e', -, -, -, heq⟩ | ⟨hnot, -⟩
  · simp only [Action.scope, heq]
  · exact absurd hgrants (hnot e he hq)

/-- The run that a scope gives its repo lock is brought up. -/
theorem spawnAfter_of_lockedIds (hop : op ∈ (a.scope c r).ops) (hid : id ∈ op.lockedIds c.host r) :
    ∃ caller, .spawnAfter id caller ∈ (a.scope c r).follow := by
  rcases scope_of_locks hop (Op.locks_of_mem_lockedIds hid) with
    ⟨plan, repo, session, config, caller, runId, now, io, metaIo, rfl, rfl⟩ |
    ⟨pending, retry, now, io, metaIo, rfl, rfl⟩
  · obtain ⟨hgrants, rfl⟩ : r.Grants c.host repo io metaIo ∧ id = runId := by
      simpa [Op.lockedIds] using hid
    rcases registerRun_cases c.host r plan repo session config none id now io metaIo with
      ⟨-, heq⟩ | ⟨hnot, -⟩
    · refine ⟨caller, ?_⟩
      simp only [Action.scope, heq]
      exact List.mem_singleton_self _
    · exact absurd hgrants hnot
  · obtain ⟨⟨e, he, hq, hgrants⟩, rfl⟩ : (∃ e, r.get pending.runId = some e ∧
        e.status = .queued ∧ r.Grants c.host e.repoDir io metaIo) ∧ id = pending.runId := by
      simpa [Op.lockedIds, Option.any_eq_true] using hid
    refine ⟨pending.caller retry, ?_⟩
    rw [promote_follow_of_grants he hq hgrants]
    exact List.mem_singleton_self _

/-- A scope shows a run as running in a task that brings it up or watches it. -/
theorem actor_of_runningIds (hop : op ∈ (a.scope c r).ops) (hid : id ∈ op.runningIds) :
    ∃ t, (a.scope c r).actor = some t ∧ (t.spawning = some id ∨ t.watching = some id) := by
  cases a with
  | started =>
    obtain rfl := List.mem_singleton.mp hop
    obtain rfl := List.mem_singleton.mp hid
    exact ⟨_, rfl, .inl rfl⟩
  | updatePhase =>
    simp only [Action.scope, List.mem_map] at hop
    obtain ⟨phase, -, rfl⟩ := hop
    obtain rfl := List.mem_singleton.mp hid
    exact ⟨_, rfl, .inr rfl⟩
  | spawnRecovery runId respawn now =>
    refine ⟨_, rfl, .inr ?_⟩
    obtain rfl := List.mem_singleton.mp hop
    rcases respawn.op_cases runId now with ⟨error, heq⟩ | ⟨patch, phase, heq⟩
    · rw [heq] at hid
      cases hid
    · rw [heq] at hid
      obtain rfl := List.mem_singleton.mp hid
      rfl
  | _ =>
    exfalso
    simp only [Action.scope] at hop
    grind [Op.runningIds, drainErrorOps, runningIds_of_isTerminal]

/-- Every run that a scope hands out gets a task. -/
theorem spawnQueued_of_handedOut (hp : p ∈ handedOut c.host r (a.scope c r).ops) :
    ∃ retry, .spawnQueued p retry ∈ (a.scope c r).follow := by
  by_cases hdrains : ∀ op ∈ (a.scope c r).ops, op.drains = false
  · have hnil : handedOut c.host r (a.scope c r).ops = [] :=
      yields_eq_nil fun op hop _ => Op.handsOut_of_drains_eq_false (hdrains op hop)
    rw [hnil] at hp
    cases hp
  · cases a with
    | drainIfAvailable => exact ⟨false, List.mem_map_of_mem hp⟩
    | drainError => exact ⟨true, List.mem_map_of_mem hp⟩
    | _ =>
      exfalso
      simp only [Action.scope] at hdrains
      grind [Op.drains]

/-! ## Entries over a scope -/

theorem exec_evolves (h : exec (opStep host) r ops = some r') (he : r.get id = some e) :
    ∃ e', r'.get id = some e' ∧ e.Evolves True True e' :=
  exec_preserves (I := fun s => ∃ e', s.get id = some e' ∧ e.Evolves True True e')
    (fun s op s' hs ⟨e', he', hev⟩ => by
      obtain ⟨e'', he'', hev'⟩ := opStep_evolves hs he'
      exact ⟨e'', he'', hev.trans (hev'.mono (fun _ => trivial) fun _ => trivial)⟩)
    h ⟨e, he, .refl e⟩

/-- Entries evolve over a run of the daemon. -/
theorem daemon_evolves {as : List Action} (h : exec (daemonStep c) d as = some d')
    (he : d.registry.get id = some e) :
    ∃ e', d'.registry.get id = some e' ∧ e.Evolves True True e' :=
  exec_preserves (I := fun s : Daemon => ∃ e', s.registry.get id = some e' ∧ e.Evolves True True e')
    (fun s a s' hs ⟨e', he', hev⟩ => by
      obtain ⟨e'', he'', hev'⟩ := exec_evolves (exec_of_daemonStep hs) he'
      exact ⟨e'', he'', hev.trans hev'⟩)
    h ⟨e, he, .refl e⟩

/-- What holds of the entries and the queues of every registry the daemon reaches. -/
structure RunRegistry.Sound (host : Host) (r : RunRegistry) : Prop where
  /-- A run with a tmux session was started. -/
  session : ∀ id e, r.get id = some e → e.tmuxSession.isSome = true → e.status ≠ .queued
  /-- A pending run has an entry and is in the queue of its repo. -/
  pending : ∀ hash, ∀ p ∈ r.queue hash, hash = repoHash host p.repoDir ∧
    ∃ e, r.get p.runId = some e ∧ e.repoDir = p.repoDir

namespace RunRegistry.Sound

theorem new : RunRegistry.Sound host .new where
  session id e he := by cases he
  pending hash p hp := by cases hp

theorem of_opStep (H : r.Sound host) (h : opStep host r op = some r') : r'.Sound host where
  session id e' he' htmux hq := by
    cases he : r.get id with
    | none =>
      obtain ⟨-, hnone, -⟩ := opStep_added h he he'
      rw [hnone] at htmux
      cases htmux
    | some e =>
      obtain ⟨e'', he'', hev⟩ := opStep_evolves h he
      obtain rfl : e'' = e' := Option.some_injective _ (he''.symm.trans he')
      by_cases hid : id ∈ op.runningIds
      · exact opStep_running h hid he' hq
      · rw [hev.tmuxSession_eq hid] at htmux
        exact H.session id e he htmux (hev.queued_of_queued hq)
  pending hash p hp := by
    rcases mem_queue_of_opStep h hp with hp | ⟨hhash, he'⟩
    · obtain ⟨hhash, e, he, hdir⟩ := H.pending hash p hp
      obtain ⟨e', he', hev⟩ := opStep_evolves h he
      exact ⟨hhash, e', he', by rw [hev.repoDir_eq, hdir]⟩
    · exact ⟨hhash, _, he', rfl⟩

theorem of_exec (H : r.Sound host) (h : exec (opStep host) r ops = some r') :
    r'.Sound host :=
  exec_preserves (fun _ _ _ hs H => H.of_opStep hs) h H

/-- A run that is handed out has an entry. -/
theorem of_handedOut (H : r.Sound host) (h : exec (opStep host) r ops = some r')
    (hp : p ∈ handedOut host r ops) : ∃ e, r'.get p.runId = some e ∧ e.repoDir = p.repoDir := by
  have hinit : r.Sound host ∧ ∀ p ∈ ([] : List PendingRun),
      ∃ e, r.get p.runId = some e ∧ e.repoDir = p.repoDir := ⟨H, fun _ hp => nomatch hp⟩
  have hall := exec_invariant_yields (f := fun r op => op.handsOut host r)
    (I := fun ps s => s.Sound host ∧ ∀ p ∈ ps, ∃ e, s.get p.runId = some e ∧ e.repoDir = p.repoDir)
    (by
      intro ps s op s' hs _ ⟨H, hps⟩
      refine ⟨H.of_opStep hs, fun p hp => ?_⟩
      obtain ⟨e, he, hdir⟩ : ∃ e, s.get p.runId = some e ∧ e.repoDir = p.repoDir := by
        rcases List.mem_append.mp hp with hp | hp
        · exact hps p hp
        · obtain ⟨hash, hp⟩ := mem_queue_of_handsOut hp
          exact (H.pending hash p hp).2
      obtain ⟨e', he', hev⟩ := opStep_evolves hs he
      exact ⟨e', he', by rw [hev.repoDir_eq, hdir]⟩)
    h Along.trivial hinit
  exact hall.2 p hp

end RunRegistry.Sound

/-! ## Runs of the daemon -/

/-- What holds of every daemon state that is reached. -/
structure Daemon.Sound (host : Host) (d : Daemon) : Prop where
  registry : d.registry.Sound host
  spawning : ∀ t ∈ d.tasks, ∀ id, t.spawning = some id → (d.registry.get id).isSome = true
  watching : ∀ t ∈ d.tasks, ∀ id, t.watching = some id →
    ∃ e, d.registry.get id = some e ∧ e.status ≠ .queued
  carries : ∀ t ∈ d.tasks, ∀ p, t.carries = some p →
    ∃ e, d.registry.get p.runId = some e ∧ e.repoDir = p.repoDir

namespace Daemon.Sound

theorem init : Daemon.init.Sound host where
  registry := .new
  spawning t ht := by cases ht
  watching t ht := by cases ht
  carries t ht := by cases ht

theorem step (H : d.Sound c.host) (h : daemonStep c d a = some d') : d'.Sound c.host where
  registry := H.registry.of_exec (exec_of_daemonStep h)
  spawning t ht id hid := by
    have hexec := exec_of_daemonStep h
    have hkeeps (hsome : (d.registry.get id).isSome = true) :
        (d'.registry.get id).isSome = true := by
      obtain ⟨e, he⟩ := Option.isSome_iff_exists.mp hsome
      obtain ⟨e', he', -⟩ := exec_evolves hexec he
      rw [he', Option.isSome_some]
    rcases mem_tasks_of_daemonStep h ht with ht | ht
    · rcases spawning_of_follow ht hid with ⟨t', hactor, hid'⟩ | ⟨op, hops, hlocked⟩
      · exact hkeeps (H.spawning t' (actor_mem_of_daemonStep h hactor) id hid')
      · rw [hops, exec_singleton] at hexec
        obtain ⟨e', he', -⟩ := opStep_lockedIds hexec hlocked
        rw [he', Option.isSome_some]
    · exact hkeeps (H.spawning t ht id hid)
  watching t ht id hid := by
    have hkeeps : (∃ e, d.registry.get id = some e ∧ e.status ≠ .queued) →
        ∃ e, d'.registry.get id = some e ∧ e.status ≠ .queued := by
      intro ⟨e, he, hq⟩
      obtain ⟨e', he', hev⟩ := exec_evolves (exec_of_daemonStep h) he
      exact ⟨e', he', fun hq' => hq (hev.queued_of_queued hq')⟩
    rcases mem_tasks_of_daemonStep h ht with ht | ht
    · rcases watching_of_follow ht hid with ⟨t', hactor, hid'⟩ | ⟨e, he, htmux⟩
      · exact hkeeps (H.watching t' (actor_mem_of_daemonStep h hactor) id hid')
      · exact hkeeps ⟨e, he, H.registry.session id e he htmux⟩
    · exact hkeeps (H.watching t ht id hid)
  carries t ht p hp := by
    have hexec := exec_of_daemonStep h
    have hkeeps : (∃ e, d.registry.get p.runId = some e ∧ e.repoDir = p.repoDir) →
        ∃ e, d'.registry.get p.runId = some e ∧ e.repoDir = p.repoDir := by
      intro ⟨e, he, hdir⟩
      obtain ⟨e', he', hev⟩ := exec_evolves hexec he
      exact ⟨e', he', by rw [hev.repoDir_eq, hdir]⟩
    rcases mem_tasks_of_daemonStep h ht with ht | ht
    · rcases carries_of_follow ht hp with ⟨t', hactor, hp'⟩ | hp
      · exact hkeeps (H.carries t' (actor_mem_of_daemonStep h hactor) p hp')
      · exact H.registry.of_handedOut hexec hp
    · exact hkeeps (H.carries t ht p hp)

theorem run {as : List Action} (h : exec (daemonStep c) .init as = some d) : d.Sound c.host :=
  exec_preserves (fun _ _ _ hs H => H.step hs) h init

end Daemon.Sound

end GreaterWill
