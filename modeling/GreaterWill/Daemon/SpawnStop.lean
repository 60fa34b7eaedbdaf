import GreaterWill.Daemon.Ops

/-!
# A run that is stopped while it is spawned

The tasks that work on one run: `spawn_after_register` of `daemon/executor.rs` with the error path
of the drain task that may wait for it, `spawn_recovery_with_command` of `daemon/heartbeat.rs`, the
handlers of `StopRun` and `DetachRun`. A step of a task is one lock scope of the registry or one
call that changes the tmux sessions; in between any other task may go on. What tmux and the disk
answer comes with the step. The steps that change neither the run nor the sessions (waiting, the
owner file, the event log) are left out, and so is what a drain does for other runs.
-/

namespace GreaterWill

/-- A task at work on the run, by its next step. `drained` says that a drain task waits for it. -/
inductive SessionTask where
  /-- `spawn_after_register` before `spawn_claude_session`. -/
  | spawnAfter (drained : Bool)
  /-- It has failed and is to mark the run Failed. -/
  | spawnFailed (drained : Bool) (reason error : String)
  /-- The session is up. -/
  | recordPid (drained : Bool) (pid : UInt32)
  /-- It waits for the TUI. -/
  | waitInit (drained : Bool)
  | sendCommand (drained : Bool)
  /-- The arc command was sent. -/
  | becomeRunning (drained : Bool)
  /-- The error path of the drain task. -/
  | drainError (error : String)
  /-- `spawn_recovery_with_command`. -/
  | recovery
  /-- It found the session and Claude alive. -/
  | recoveryAlive
  /-- A dead session is out of the way. -/
  | recoverySpawn
  | recoverySend (pid : UInt32)
  | recoveryRunning (pid : UInt32)
  | recoveryFailed (reason : String)
  /-- `StopRun` after the prefix was resolved. -/
  | stopDequeue
  /-- `stop_run` before it reads the entry. -/
  | stopInspect
  /-- `stop_run` before it ends the session. -/
  | stopKill (session : String)
  | stopUpdate (hasSession : Bool)
  /-- `DetachRun` after the prefix was resolved. -/
  | detach
  deriving DecidableEq

structure SessionWorld where
  registry : RunRegistry
  /-- The live tmux sessions. -/
  sessions : Finset String
  tasks : List SessionTask
  /-- A `StopRun` has returned success. -/
  stopReturned : Bool := false
  /-- A `DetachRun` has returned success. -/
  detachReturned : Bool := false

/-- The session of a run. -/
def tmuxName (runId : String) : String := "gw-" ++ runId

inductive SessionAction where
  /-- `pre_phase_cleanup` fails, and the run is marked Failed. -/
  | cleanupFails (drained : Bool) (error : String) (now : DateTime)
  /-- `spawn_claude_session` succeeds. -/
  | sessionUp (drained : Bool) (pid : UInt32)
  /-- It fails, before or after it created the session. -/
  | spawnFails (drained : Bool) (error : String) (created : Bool)
  | markFailed (drained : Bool) (reason error : String) (now : DateTime)
  | recordPid (drained : Bool) (pid : UInt32) (now : DateTime)
  /-- The pid of Claude, if it is found. -/
  | refreshPid (drained : Bool) (realPid : Option UInt32)
  | commandSent (drained : Bool)
  /-- The arc command cannot be sent; the session is killed. -/
  | sendFails (drained : Bool) (error : String)
  | becomeRunning (drained : Bool) (now : DateTime) (flush : Except String Unit)
  | drainError (error : String) (now : DateTime)
  | recoveryFindsAlive
  | recoveryAlive (now : DateTime)
  /-- There is no session, or Claude is dead in it and it is killed. -/
  | recoveryCleans (killed : Bool)
  | recoveryDiskLow (error : String)
  | recoveryUp (pid : UInt32)
  | recoverySpawnFails (error : String) (created : Bool)
  /-- The command was sent; the pid of Claude, if it was found. -/
  | recoverySent (pid : UInt32) (realPid : Option UInt32)
  /-- The command cannot be sent; the session is not killed. -/
  | recoverySendFails (pid : UInt32) (error : String)
  | recoveryRunning (pid : UInt32) (now : DateTime)
  | recoveryFailed (reason : String) (now : DateTime)
  | stopDequeue (now : DateTime)
  | stopInspect
  /-- The session exits or is killed, unless tmux does not answer. -/
  | stopKill (session : String) (answers : Bool)
  | stopUpdate (hasSession : Bool) (now : DateTime) (flush : Except String Unit)
  | detach (now : DateTime)
  /-- A session ends by itself. -/
  | sessionEnds (session : String)
  deriving DecidableEq

/-- What an action does. -/
structure SessionScope where
  /-- The task it belongs to. -/
  actor : Option SessionTask := none
  /-- It creates the session of the run. -/
  creates : Bool := false
  /-- The session that goes. -/
  kills : Option String := none
  op : Option Op := none
  /-- The tasks that come after it. -/
  follow : List SessionTask := []
  stopReturns : Bool := false
  detachReturns : Bool := false

/-- The drain task goes on with its error path. -/
def onSpawnError (drained : Bool) (error : String) : List SessionTask :=
  if drained then [.drainError error] else []

section
variable (host : Host) (runId : String)

/-- The scope of an action. -/
def SessionAction.scope (r : RunRegistry) : SessionAction → SessionScope
  | .cleanupFails drained error now =>
    { actor := some (.spawnAfter drained)
      op := some (.stageStatus runId .failed none (some s!"pre_phase_cleanup failed: {error}") now)
      follow := onSpawnError drained error }
  | .sessionUp drained pid =>
    { actor := some (.spawnAfter drained)
      creates := true
      follow := [.recordPid drained pid] }
  | .spawnFails drained error created =>
    { actor := some (.spawnAfter drained)
      creates := created
      follow := [.spawnFailed drained s!"tmux spawn failed: {error}" error] }
  | .markFailed drained reason error now =>
    { actor := some (.spawnFailed drained reason error)
      op := some (.stageStatus runId .failed none (some reason) now)
      follow := onSpawnError drained error }
  | .recordPid drained pid now =>
    { actor := some (.recordPid drained pid)
      op := some (.getMut runId (some pid) (some now) none)
      follow := [.waitInit drained] }
  | .refreshPid drained realPid =>
    { actor := some (.waitInit drained)
      op := realPid.map fun pid => .getMut runId (some pid) none none
      follow := [.sendCommand drained] }
  | .commandSent drained =>
    { actor := some (.sendCommand drained)
      follow := [.becomeRunning drained] }
  | .sendFails drained error =>
    { actor := some (.sendCommand drained)
      kills := some (tmuxName runId)
      follow := [.spawnFailed drained s!"failed to send arc command: {error}" error] }
  | .becomeRunning drained now flush =>
    { actor := some (.becomeRunning drained)
      op := some (.setRunning runId { tmuxSession := some (tmuxName runId) } "starting" now)
      -- the session stays up in any case
      follow :=
        match r.stageStatusLocked host runId .running (some "starting") none now, flush with
        | .ok _, .ok _ => []
        | .ok _, .error e => onSpawnError drained e
        | .error e, _ => onSpawnError drained e.display }
  | .drainError error now =>
    { actor := some (.drainError error)
      op := some (.stageStatus runId .failed none (some s!"drain spawn failed: {error}") now) }
  | .recoveryFindsAlive => { actor := some .recovery, follow := [.recoveryAlive] }
  | .recoveryAlive now =>
    { actor := some .recoveryAlive
      op := some (.setRunning runId { currentPhase := some "running" } "running" now) }
  | .recoveryCleans killed =>
    { actor := some .recovery
      kills := if killed then some (tmuxName runId) else none
      follow := [.recoverySpawn] }
  | .recoveryDiskLow error =>
    { actor := some .recoverySpawn
      follow := [.recoveryFailed s!"crash recovery aborted: {error}"] }
  | .recoveryUp pid =>
    { actor := some .recoverySpawn
      creates := true
      follow := [.recoverySend pid] }
  | .recoverySpawnFails error created =>
    { actor := some .recoverySpawn
      creates := created
      follow := [.recoveryFailed s!"crash recovery spawn failed: {error}"] }
  | .recoverySent pid realPid =>
    { actor := some (.recoverySend pid)
      follow := [.recoveryRunning (realPid.getD pid)] }
  | .recoverySendFails pid error =>
    { actor := some (.recoverySend pid)
      follow := [.recoveryFailed s!"crash recovery failed: {error}"] }
  | .recoveryRunning pid now =>
    { actor := some (.recoveryRunning pid)
      op := some (.setRunning runId
        { tmuxSession := some (tmuxName runId)
          currentPhase := some "resuming"
          countsRestart := true
          claudePid := some pid
          lastRecoveryAt := some now }
        "resuming" now) }
  | .recoveryFailed reason now =>
    { actor := some (.recoveryFailed reason)
      op := some (.stageStatus runId .failed none (some reason) now) }
  | .stopDequeue now =>
    if (r.get runId).any (·.status = .queued) then
      { actor := some .stopDequeue
        op := some (.dequeueRun runId now)
        follow := if (r.dequeueRunStaged host runId now).1.isSome then [] else [.stopInspect]
        stopReturns := (r.dequeueRunStaged host runId now).1.isSome }
    else { actor := some .stopDequeue, follow := [.stopInspect] }
  | .stopInspect =>
    { actor := some .stopInspect
      follow := ((r.get runId).filter fun e => !e.status.isTerminal).toList.map fun e =>
        match e.tmuxSession with
        | some session => .stopKill session
        | none => .stopUpdate false }
  | .stopKill session answers =>
    { actor := some (.stopKill session)
      kills := if answers then some session else none
      follow := [.stopUpdate true] }
  | .stopUpdate hasSession now flush =>
    let error := if hasSession then "stopped by user" else "stopped (no tmux session)"
    { actor := some (.stopUpdate hasSession)
      op := some (.stageStatus runId .stopped none (some error) now)
      stopReturns := (r.get runId).isSome && flush.isOk }
  | .detach now =>
    { actor := some .detach
      op := some (.stageStatus runId .stopped (some "detached")
        (some "detached by user — tmux session kept alive") now)
      detachReturns := (r.get runId).isSome }
  | .sessionEnds session => { kills := some session }

/-- The sessions after an action. -/
def SessionScope.sessions (s : SessionScope) (sessions : Finset String) : Finset String :=
  let sessions := s.kills.elim sessions sessions.erase
  if s.creates then insert (tmuxName runId) sessions else sessions

/-- One action. A session is created only if there is none of its name. -/
def sessionStep (w : SessionWorld) (a : SessionAction) : Option SessionWorld :=
  let s := a.scope host runId w.registry
  if s.actor.all (· ∈ w.tasks) && !(s.creates && decide (tmuxName runId ∈ w.sessions)) then
    (exec (opStep host) w.registry s.op.toList).map fun r =>
      { registry := r
        sessions := s.sessions runId w.sessions
        tasks := s.follow ++ s.actor.elim w.tasks w.tasks.erase
        stopReturned := w.stopReturned || s.stopReturns
        detachReturned := w.detachReturned || s.detachReturns }
  else none

/-- The run is Stopped. -/
def RunRegistry.IsStopped (r : RunRegistry) (runId : String) : Prop :=
  (r.get runId).any (·.status = .stopped) = true

/-- Once `StopRun` has returned success, the run is Stopped and has no live session; a detached run
is Stopped, and its session is its own affair. -/
structure SessionWorld.StopWins (w : SessionWorld) : Prop where
  stopped : w.stopReturned = true ∨ w.detachReturned = true →
    w.registry.IsStopped runId
  noSession : w.stopReturned = true → tmuxName runId ∉ w.sessions

/-- The action marks the run Failed. -/
def SessionScope.fails (s : SessionScope) : Bool :=
  match s.op with
  | some (.stageStatus _ .failed _ _ _) => true
  | _ => false

/-- No session is created once `StopRun` has returned, no failure is recorded once `StopRun` or
`DetachRun` has, and no session is up when `StopRun` marks the run Stopped. -/
structure StopOrderly (w : SessionWorld) (a : SessionAction) : Prop where
  creates : (a.scope host runId w.registry).creates = true → w.stopReturned = false
  fails : (a.scope host runId w.registry).fails = true →
    w.stopReturned = false ∧ w.detachReturned = false
  stops : (a.scope host runId w.registry).stopReturns = true → tmuxName runId ∉ w.sessions

instance StopOrderly.decidable (w : SessionWorld) (a : SessionAction) :
    Decidable (StopOrderly host runId w a) :=
  decidable_of_iff
    (((a.scope host runId w.registry).creates = true → w.stopReturned = false) ∧
      ((a.scope host runId w.registry).fails = true →
        w.stopReturned = false ∧ w.detachReturned = false) ∧
      ((a.scope host runId w.registry).stopReturns = true → tmuxName runId ∉ w.sessions))
    ⟨fun ⟨hcreates, hfails, hstops⟩ => ⟨hcreates, hfails, hstops⟩,
      fun h => ⟨h.creates, h.fails, h.stops⟩⟩

end

section
variable {host : Host} {runId : String} {r r' : RunRegistry} {w w' : SessionWorld}
  {a : SessionAction} {s : SessionScope}

/-- What an action can do to the run. -/
inductive SessionScope.Kind (host : Host) (runId : String) (r : RunRegistry)
    (s : SessionScope) : Prop where
  /-- It ends nothing. -/
  | keeps : s.fails = false → s.stopReturns = false → s.detachReturns = false →
      (∀ op ∈ s.op, op.endedIds host r = []) → Kind host runId r s
  | fails (error : Option String) (now : DateTime) :
      s.op = some (.stageStatus runId .failed none error now) → s.creates = false →
      s.stopReturns = false → s.detachReturns = false → Kind host runId r s
  | stops (phase error : Option String) (now : DateTime) :
      s.op = some (.stageStatus runId .stopped phase error now) → s.creates = false →
      s.kills = none → (s.stopReturns = true ∨ s.detachReturns = true → (r.get runId).isSome = true) →
      Kind host runId r s
  | dequeues (now : DateTime) :
      s.op = some (.dequeueRun runId now) → s.creates = false → s.kills = none →
      (r.get runId).isSome = true →
      (s.stopReturns = true → (r.dequeueRunStaged host runId now).1.isSome = true) →
      s.detachReturns = false → Kind host runId r s

theorem SessionAction.scope_kind (host : Host) (runId : String) (a : SessionAction)
    (r : RunRegistry) :
    (a.scope host runId r).Kind host runId r := by
  cases a with
  | cleanupFails | markFailed | drainError | recoveryFailed => exact .fails _ _ rfl rfl rfl rfl
  | recordPid | becomeRunning | recoveryAlive | recoveryRunning =>
    refine .keeps rfl rfl rfl ?_
    rintro op ⟨rfl⟩
    rfl
  | refreshPid drained realPid =>
    cases realPid with
    | none => exact .keeps rfl rfl rfl fun _ h => nomatch h
    | some pid =>
      refine .keeps rfl rfl rfl ?_
      rintro op ⟨rfl⟩
      rfl
  | stopDequeue now =>
    rw [scope]
    split
    · rename_i hqueued
      obtain ⟨e, he, -⟩ := (Option.any_eq_true _ _).mp hqueued
      exact .dequeues now rfl rfl rfl (Option.isSome_of_mem he) id rfl
    · exact .keeps rfl rfl rfl fun _ h => nomatch h
  | stopUpdate hasSession now flush =>
    refine .stops _ _ _ rfl rfl rfl ?_
    rintro (h | h)
    · exact (Bool.and_eq_true_iff.mp h).1
    · cases h
  | detach now =>
    refine .stops _ _ _ rfl rfl rfl ?_
    rintro (h | h)
    · cases h
    · exact h
  | sessionUp | spawnFails | commandSent | sendFails | recoveryFindsAlive | recoveryCleans
  | recoveryDiskLow | recoveryUp | recoverySpawnFails | recoverySent | recoverySendFails
  | stopInspect | stopKill | sessionEnds => exact .keeps rfl rfl rfl fun _ h => nomatch h

theorem RunRegistry.isStopped_iff :
    r.IsStopped runId ↔ ∃ e, r.get runId = some e ∧ e.status = .stopped := by
  rw [IsStopped, Option.any_eq_true]
  simp only [decide_eq_true_eq]

/-- A step that ends nothing leaves a stopped run stopped. -/
theorem isStopped_of_keeps {op : Op} (h : opStep host r op = some r')
    (hended : op.endedIds host r = []) (hr : r.IsStopped runId) : r'.IsStopped runId := by
  obtain ⟨e, he, hs⟩ := RunRegistry.isStopped_iff.mp hr
  obtain ⟨e', he', hev⟩ := RunRegistry.opStep_evolves h he
  have hnot : runId ∉ op.endedIds host r := by
    rw [hended]
    exact List.not_mem_nil
  have hterm : e.status.isTerminal = true := by rw [hs]; rfl
  exact RunRegistry.isStopped_iff.mpr ⟨e', he', (hev.outcome_eq hnot hterm).1.trans hs⟩

theorem isStopped_tryStage {phase error : Option String} {now : DateTime}
    (h : (r.get runId).isSome = true) :
    (r.tryStage host runId .stopped phase error now).IsStopped runId := by
  obtain ⟨e, he⟩ := Option.isSome_iff_exists.mp h
  exact RunRegistry.isStopped_iff.mpr
    ⟨_, RunRegistry.get_tryStage_of_isTerminal rfl he, rfl⟩

theorem not_isStopped_tryStage_failed {phase error : Option String} {now : DateTime}
    (h : (r.get runId).isSome = true) :
    ¬ (r.tryStage host runId .failed phase error now).IsStopped runId := by
  obtain ⟨e, he⟩ := Option.isSome_iff_exists.mp h
  intro hstopped
  obtain ⟨e', he', hs⟩ := RunRegistry.isStopped_iff.mp hstopped
  rw [RunRegistry.get_tryStage_of_isTerminal rfl he] at he'
  cases he'
  cases hs

/-- A run that was dequeued, or was Stopped before, is Stopped. -/
theorem isStopped_dequeueRunStaged {now : DateTime} (hget : (r.get runId).isSome = true)
    (h : (r.dequeueRunStaged host runId now).1.isSome = true ∨ r.IsStopped runId) :
    (r.dequeueRunStaged host runId now).2.IsStopped runId := by
  rcases RunRegistry.dequeueRunStaged_cases host r runId now with
    ⟨-, heq⟩ | ⟨hash, epoch, -, -, heq⟩
  · rw [heq] at h ⊢
    rcases h with h | h
    · cases h
    · exact h
  · rw [heq]
    exact isStopped_tryStage (r := r.setQueue hash ((r.queue hash).eraseP (·.runId = runId))) hget

/-- What a step leaves behind. -/
structure SessionStepped (host : Host) (runId : String) (w : SessionWorld) (a : SessionAction)
    (w' : SessionWorld) : Prop where
  registry : exec (opStep host) w.registry (a.scope host runId w.registry).op.toList =
    some w'.registry
  sessions : w'.sessions = (a.scope host runId w.registry).sessions runId w.sessions
  stopReturned : w'.stopReturned = (w.stopReturned || (a.scope host runId w.registry).stopReturns)
  detachReturned :
    w'.detachReturned = (w.detachReturned || (a.scope host runId w.registry).detachReturns)

theorem sessionStep_stepped (h : sessionStep host runId w a = some w') :
    SessionStepped host runId w a w' := by
  unfold sessionStep at h
  dsimp only at h
  split at h
  · obtain ⟨r, hr, rfl⟩ := Option.map_eq_some_iff.mp h
    exact ⟨hr, rfl, rfl, rfl⟩
  · cases h

/-- A session that an action does not create is not up after it unless it was before. -/
theorem SessionScope.mem_sessions_of_not_creates {session : String} {sessions : Finset String}
    (hnot : s.creates = false) (h : session ∈ s.sessions runId sessions) : session ∈ sessions := by
  unfold SessionScope.sessions at h
  rw [hnot] at h
  cases hkills : s.kills with
  | none =>
    rw [hkills] at h
    exact h
  | some killed =>
    rw [hkills] at h
    exact Finset.mem_of_mem_erase h

theorem SessionScope.mem_sessions_of_creates (h : s.creates = true) (runId : String)
    (sessions : Finset String) :
    tmuxName runId ∈ s.sessions runId sessions := by
  unfold SessionScope.sessions
  rw [h]
  exact Finset.mem_insert_self _ _

theorem SessionScope.sessions_eq (hnot : s.creates = false) (hkills : s.kills = none)
    (runId : String) (sessions : Finset String) : s.sessions runId sessions = sessions := by
  unfold SessionScope.sessions
  rw [hnot, hkills]
  rfl

/-- A step keeps the run Stopped exactly if it records no failure. -/
theorem stopped_step_iff (h : SessionStepped host runId w a w')
    (hstopped : w.stopReturned = true ∨ w.detachReturned = true → w.registry.IsStopped runId) :
    (w'.stopReturned = true ∨ w'.detachReturned = true → w'.registry.IsStopped runId) ↔
      ((a.scope host runId w.registry).fails = true →
        w.stopReturned = false ∧ w.detachReturned = false) := by
  have hreg := h.registry
  rw [h.stopReturned, h.detachReturned]
  cases a.scope_kind host runId w.registry with
  | keeps hfails hstop hdetach hended =>
    rw [hfails, hstop, hdetach, Bool.or_false, Bool.or_false]
    refine iff_of_true (fun hret => ?_) fun hfalse => nomatch hfalse
    have hbefore := hstopped hret
    cases hop : (a.scope host runId w.registry).op with
    | none =>
      rw [hop] at hreg
      rw [← Option.some.inj hreg]
      exact hbefore
    | some op =>
      rw [hop, Option.toList_some, exec_singleton] at hreg
      exact isStopped_of_keeps hreg (hended op hop) hbefore
  | fails error now hop _ hstop hdetach =>
    rw [hop, Option.toList_some, exec_singleton] at hreg
    have hafterEq : w.registry.tryStage host runId .failed none error now = w'.registry :=
      Option.some.inj hreg
    rw [hstop, hdetach, Bool.or_false, Bool.or_false, SessionScope.fails, hop]
    constructor
    · intro hafter _
      rw [← Bool.not_eq_true, ← Bool.not_eq_true, ← not_or]
      intro hret
      obtain ⟨e, he, -⟩ := RunRegistry.isStopped_iff.mp (hstopped hret)
      have hstill := hafter hret
      rw [← hafterEq] at hstill
      exact not_isStopped_tryStage_failed (Option.isSome_of_mem he) hstill
    · intro hnot hret
      obtain ⟨h₁, h₂⟩ := hnot rfl
      rw [h₁, h₂] at hret
      rcases hret with hret | hret <;> cases hret
  | stops phase error now hop _ _ hsome =>
    rw [hop, Option.toList_some, exec_singleton] at hreg
    have hafterEq : w.registry.tryStage host runId .stopped phase error now = w'.registry :=
      Option.some.inj hreg
    rw [SessionScope.fails, hop]
    refine iff_of_true (fun hret => ?_) fun hfalse => nomatch hfalse
    rw [← hafterEq]
    apply isStopped_tryStage
    rw [Bool.or_eq_true, Bool.or_eq_true, or_or_or_comm] at hret
    rcases hret with hret | hret
    · obtain ⟨e, he, -⟩ := RunRegistry.isStopped_iff.mp (hstopped hret)
      exact Option.isSome_of_mem he
    · exact hsome hret
  | dequeues now hop _ _ hget hstop hdetach =>
    rw [hop, Option.toList_some, exec_singleton] at hreg
    have hafterEq : (w.registry.dequeueRunStaged host runId now).2 = w'.registry :=
      Option.some.inj hreg
    rw [SessionScope.fails, hop, hdetach, Bool.or_false]
    refine iff_of_true (fun hret => ?_) fun hfalse => nomatch hfalse
    rw [← hafterEq]
    apply isStopped_dequeueRunStaged hget
    rw [Bool.or_eq_true, or_right_comm] at hret
    rcases hret with hret | hret
    · exact .inr (hstopped hret)
    · exact .inl (hstop hret)

/-- A step keeps the session of a stopped run away exactly if it creates none, and finds none when
it is the step that stops the run. -/
theorem noSession_step_iff (h : SessionStepped host runId w a w')
    (hnone : w.stopReturned = true → tmuxName runId ∉ w.sessions) :
    (w'.stopReturned = true → tmuxName runId ∉ w'.sessions) ↔
      ((a.scope host runId w.registry).creates = true → w.stopReturned = false) ∧
      ((a.scope host runId w.registry).stopReturns = true → tmuxName runId ∉ w.sessions) := by
  rw [h.sessions, h.stopReturned]
  cases hcreates : (a.scope host runId w.registry).creates with
  | true =>
    have hup := SessionScope.mem_sessions_of_creates hcreates runId w.sessions
    have hstop : (a.scope host runId w.registry).stopReturns = false := by
      cases a.scope_kind host runId w.registry with
      | keeps _ hstop => exact hstop
      | fails _ _ _ hnot | stops _ _ _ _ hnot | dequeues _ _ hnot =>
        rw [hcreates] at hnot
        cases hnot
    rw [hstop, Bool.or_false]
    constructor
    · intro hafter
      refine ⟨fun _ => ?_, fun hfalse => nomatch hfalse⟩
      rw [← Bool.not_eq_true]
      intro hret
      exact hafter hret hup
    · intro ⟨hnot, _⟩ hret
      rw [hnot rfl] at hret
      cases hret
  | false =>
    rw [Bool.or_eq_true]
    constructor
    · intro hafter
      refine ⟨fun hfalse => (nomatch hfalse), fun hstop => ?_⟩
      have hkills : (a.scope host runId w.registry).kills = none := by
        cases a.scope_kind host runId w.registry with
        | keeps _ hno | fails _ _ _ _ hno =>
          rw [hstop] at hno
          cases hno
        | stops _ _ _ _ _ hkills | dequeues _ _ _ hkills => exact hkills
      have hsame := SessionScope.sessions_eq hcreates hkills runId w.sessions
      rw [hsame] at hafter
      exact hafter (.inr hstop)
    · intro ⟨_, hstops⟩ hret hmem
      have hbefore := SessionScope.mem_sessions_of_not_creates hcreates hmem
      rcases hret with hret | hret
      · exact hnone hret hbefore
      · exact hstops hret hbefore

theorem stopWins_step_iff (hstep : sessionStep host runId w a = some w')
    (h : w.StopWins runId) : w'.StopWins runId ↔ StopOrderly host runId w a := by
  have hstepped := sessionStep_stepped hstep
  have hstopped := stopped_step_iff hstepped h.stopped
  have hnone := noSession_step_iff hstepped h.noSession
  constructor
  · intro h'
    obtain ⟨hcreates, hstops⟩ := hnone.mp h'.noSession
    exact ⟨hcreates, hstopped.mp h'.stopped, hstops⟩
  · intro hgood
    exact ⟨hstopped.mpr hgood.fails, hnone.mpr ⟨hgood.creates, hgood.stops⟩⟩

/-- In a run of the tasks, `StopRun` wins in every state exactly if the steps come in an orderly
way. -/
theorem stop_wins_iff_orderly {as : List SessionAction}
    (hrun : exec (sessionStep host runId) w as = some w') (hstop : w.stopReturned = false)
    (hdetach : w.detachReturned = false) :
    (∀ pre post v, as = pre ++ post → exec (sessionStep host runId) w pre = some v →
      v.StopWins runId) ↔ Along (sessionStep host runId) (StopOrderly host runId) w as := by
  have hinit : w.StopWins runId := by
    constructor
    · intro h
      rw [hstop, hdetach] at h
      rcases h with h | h <;> cases h
    · intro h
      rw [hstop] at h
      cases h
  exact forall_prefix_iff_along (J := fun _ => True) (fun _ _ _ _ _ => trivial)
    (fun v b v' hs _ hv => stopWins_step_iff hs hv) hrun trivial hinit

end

/-- A run that was just registered, with the tasks at work on it. -/
private def justRegistered (tasks : List SessionTask) : SessionWorld where
  registry :=
    (RunRegistry.new.registerRun .plain "plan.md" "/r" none none none "a" 0 .acquired (.ok ())).2
  sessions := ∅
  tasks := tasks

/-- The run is started, and stopped after that. -/
theorem stop_wins_after_start :
    ∃ w', exec (sessionStep .plain "a") (justRegistered [.spawnAfter false, .stopInspect])
        [.sessionUp false 7, .recordPid false 7 1, .refreshPid false (some 8), .commandSent false,
          .becomeRunning false 2 (.ok ()), .stopInspect, .stopKill "gw-a" true,
          .stopUpdate true 3 (.ok ())] = some w' ∧
      w'.tasks = [] ∧ w'.stopReturned = true ∧ w'.StopWins "a" := by
  obtain ⟨w', hrun, htasks, hret⟩ :=
    exists_of_any (o := exec (sessionStep .plain "a")
        (justRegistered [.spawnAfter false, .stopInspect])
        [.sessionUp false 7, .recordPid false 7 1, .refreshPid false (some 8), .commandSent false,
          .becomeRunning false 2 (.ok ()), .stopInspect, .stopKill "gw-a" true,
          .stopUpdate true 3 (.ok ())])
      (P := fun w => w.tasks = [] ∧ w.stopReturned = true) (by decide +kernel)
  refine ⟨w', hrun, htasks, hret, ?_⟩
  refine (stop_wins_iff_orderly hrun rfl rfl).mpr ?_ _ [] w' (by simp) hrun
  decide +kernel

/-- The run is stopped before its session is recorded: the session stays. -/
theorem stopped_before_pid_keeps_session :
    ∃ as w', exec (sessionStep .plain "a") (justRegistered [.spawnAfter false, .stopInspect]) as =
        some w' ∧ w'.tasks = [] ∧ w'.stopReturned = true ∧ tmuxName "a" ∈ w'.sessions ∧
      ¬ w'.StopWins "a" := by
  obtain ⟨w', hrun, htasks, hret, hup⟩ :=
    exists_of_any (o := exec (sessionStep .plain "a")
        (justRegistered [.spawnAfter false, .stopInspect])
        [.sessionUp false 7, .stopInspect, .stopUpdate false 1 (.ok ()), .recordPid false 7 2,
          .refreshPid false (some 8), .commandSent false, .becomeRunning false 3 (.ok ())])
      (P := fun w => w.tasks = [] ∧ w.stopReturned = true ∧ tmuxName "a" ∈ w.sessions)
      (by decide +kernel)
  exact ⟨_, w', hrun, htasks, hret, hup, fun h => h.noSession hret hup⟩

end GreaterWill
