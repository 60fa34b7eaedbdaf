import GreaterWill.Daemon.RunMonitor
import GreaterWill.Daemon.Tasks
import GreaterWill.Engine.CrashHistory

/-!
# Handling a monitor outcome

`handle_monitor_outcome` and `attempt_recovery` of `daemon/heartbeat.rs` for one run, with
`wait_for_connectivity` of `daemon/network.rs`: the registry, the crash history file of the repo and
the sessions that recoveries spawn. What the waits, the disk and the new session answer is given.
The drains that follow are in `Tasks`; the events and the length of the backoff are left out.
-/

namespace GreaterWill

/-! ## Waiting for the network -/

/-- The branch that `select!` takes next. -/
inductive WaitEvent where
  | cancelled
  /-- The maximal time is over; the last probe. -/
  | deadline (online : Bool)
  | poll (online : Bool)
  deriving DecidableEq

/-- `wait_for_connectivity`; `none` as long as it waits. -/
def waitForConnectivity : List WaitEvent → Option Bool
  | [] => none
  | .cancelled :: _ => some false
  | .deadline online :: _ => some online
  | .poll true :: _ => some true
  | .poll false :: events => waitForConnectivity events

/-- The event that ends the wait. -/
def waitEnd (events : List WaitEvent) : Option WaitEvent :=
  events.find? (· ≠ .poll false)

/-- A cancelled wait and one that timed out have the same answer. -/
theorem waitForConnectivity_eq (events : List WaitEvent) : waitForConnectivity events =
    (waitEnd events).map fun
      | .cancelled => false
      | .deadline online | .poll online => online := by
  induction events with
  | nil => rfl
  | cons event events ih =>
    rcases event with _ | online | (_ | _)
    · rfl
    · rfl
    · exact ih
    · rfl

/-! ## The handler -/

/-- `compute_run_uptime_secs`. -/
def computeRunUptimeSecs (entry : RunEntry) (utcNow : DateTime) : Nat :=
  ((utcNow - entry.lastRecoveryAt.getD entry.startedAt).tdiv 1000000000).toNat

/-- What a handler is answered. -/
structure OutcomeAnswers where
  /-- The monotonic clock when the detector is asked, and the wall clock at its start. -/
  now : Nat
  offset : Nat
  utcNow : DateTime
  /-- The wall clock at the last update. -/
  doneAt : DateTime
  wait : List WaitEvent
  persistIo : Except String Unit
  /-- The token is cancelled before the backoff is over. -/
  backoffInterrupted : Bool
  decision : RestartDecision
  respawn : Respawn

/-- A session is spawned, whether or not it gets its command. -/
def Respawn.spawns : Respawn → Bool
  | .sendFails _ | .resumed _ => true
  | .alive | .diskLow _ | .spawnFails _ => false

/-- The recovery, if there is one, spawns a session. -/
def OutcomeAnswers.spawns (a : OutcomeAnswers) : Bool :=
  a.decision == .restart && a.respawn.spawns

structure RunWorld where
  registry : RunRegistry
  /-- The crash history file of the run's repo; `none` when it is missing or cannot be read. -/
  history : Option CrashHistoryRecord
  /-- The sessions that recoveries of the run spawned. -/
  sessions : Nat

namespace RunWorld

variable (cfg : WatchdogConfig) (host : Host) (runId : String) (w : RunWorld) (a : OutcomeAnswers)

/-- Update the status, if that is what was decided. -/
def updateStatus (now : DateTime) :
    Option (RunStatus × Option String × Option String) → RunWorld
  | some (status, phase, error) =>
    { w with registry := w.registry.tryStage host runId status phase error now }
  | none => w

/-- `spawn_recovery_with_command`. -/
def spawnRecovery : RunWorld :=
  { w with
    registry := (opStep host w.registry (a.respawn.op runId a.doneAt)).getD w.registry
    sessions := if a.respawn.spawns then w.sessions + 1 else w.sessions }

/-- `attempt_recovery`. -/
def attemptRecovery : RunWorld :=
  match w.registry.get runId with
  | none => w
  | some entry =>
    -- a run that has ended in the meantime is not respawned
    if entry.status.isTerminal then w
    else if a.decision = .restart then w.spawnRecovery host runId a
    else w.updateStatus host runId a.doneAt a.decision.status

/-- A new detector with the history of the repo. -/
def loaded : CrashLoopDetector :=
  match w.history with
  | some record => (CrashLoopDetector.fromWatchdog cfg).loadHistory record a.offset a.now
  | none => .fromWatchdog cfg

/-- The detector that is asked about a crash of the run. -/
def detector (entry : RunEntry) : CrashLoopDetector :=
  (w.loaded cfg a).recordHealthyRuntime (computeRunUptimeSecs entry a.utcNow) a.now

/-- The retryable outcomes but the network error: ask the detector, back off, recover. The two
branches of the source differ in where the error class comes from. -/
def retry (errorClass : ErrorClass) (reason : String) : RunWorld :=
  match w.registry.get runId with
  | none => w
  | some entry =>
    match (w.detector cfg a entry).recordRestartForPhase entry.currentPhase a.now with
    | (_, .stopCrashLoop) =>
      { w.updateStatus host runId a.doneAt
          (MonitorOutcome.crashLoop errorClass.debug reason).status with
        history := none }
    | (d, .allowRestart) =>
      -- a history that cannot be written is only warned about
      let w := match a.persistIo with
        | .ok () => { w with history := some (d.persist a.offset a.now) }
        | .error _ => w
      if a.backoffInterrupted then w else w.attemptRecovery host runId a

/-- `handle_monitor_outcome`; there is no outcome when the monitor was cancelled. -/
def handleMonitorOutcome : Option DaemonRunOutcome → RunWorld
  | none => w
  | some .completed =>
    { w.updateStatus host runId a.doneAt MonitorOutcome.completed.status with
      history := if (w.registry.get runId).isSome then none else w.history }
  | some (.failed reason) =>
    w.updateStatus host runId a.doneAt (MonitorOutcome.failed reason).status
  | some (.errorDetected errorClass reason) =>
    if errorClass.skipsPlan then
      w.updateStatus host runId a.doneAt (MonitorOutcome.fatal errorClass.debug reason).status
    else if errorClass = .networkError then
      match waitForConnectivity a.wait with
      | none => w
      | some true => w.attemptRecovery host runId a
      -- cancelled or timed out
      | some false => w.updateStatus host runId a.doneAt MonitorOutcome.networkTimeout.status
    else w.retry cfg host runId a errorClass reason
  | some (.crashed reason) => w.retry cfg host runId a .crash reason
  | some (.stuck reason) => w.retry cfg host runId a .stuck reason
  | some (.timeout reason) => w.retry cfg host runId a .timeout reason

/-! ## What becomes of the status -/

/-- The detector allows a restart of the run. -/
def Allows : Prop := ∃ entry, w.registry.get runId = some entry ∧
  ((w.detector cfg a entry).recordRestartForPhase entry.currentPhase a.now).2 = .allowRestart

/-- The status of the run. -/
def statusOf : Option RunStatus := (w.registry.get runId).map (·.status)

end RunWorld

/-- The recovery of a Running run leaves it Running. -/
def OutcomeAnswers.recovers (a : OutcomeAnswers) : Prop :=
  a.decision = .restart ∧ (a.respawn = .alive ∨ ∃ pid, a.respawn = .resumed pid)

/-- The wait for the network ends with the network back. -/
def OutcomeAnswers.Restored (a : OutcomeAnswers) : Prop :=
  waitEnd a.wait = some (.poll true) ∨ waitEnd a.wait = some (.deadline true)

instance (a : OutcomeAnswers) : Decidable a.Restored :=
  inferInstanceAs (Decidable (_ ∨ _))

namespace DaemonRunOutcome

def isNetworkError : DaemonRunOutcome → Bool
  | errorDetected .networkError _ => true
  | _ => false

/-- The error class and the reason with which the detector is asked, if it is. -/
def retried : DaemonRunOutcome → Option (ErrorClass × String)
  | completed | failed _ => none
  | errorDetected errorClass reason =>
    if errorClass.skipsPlan ∨ errorClass = .networkError then none else some (errorClass, reason)
  | crashed reason => some (.crash, reason)
  | stuck reason => some (.stuck, reason)
  | timeout reason => some (.timeout, reason)

end DaemonRunOutcome

namespace RunWorld

variable (cfg : WatchdogConfig) (host : Host) (runId : String) (w : RunWorld) (a : OutcomeAnswers)

/-- A Running run stays Running: the monitor was cancelled, or the network came back or the detector
allowed a restart and the recovery did not fail, or the handler was stopped before that. -/
def LeavesRunning : Option DaemonRunOutcome → Prop
  | none => True
  | some outcome =>
    (outcome.isNetworkError = true ∧ (waitEnd a.wait = none ∨ (a.Restored ∧ a.recovers))) ∨
      (outcome.retried.isSome = true ∧ w.Allows cfg runId a ∧
        (a.backoffInterrupted = true ∨ a.recovers))

/-- The handler is in a wait, and the token ends it. -/
def TokenEndsWait : Option DaemonRunOutcome → Prop
  | none => False
  | some outcome =>
    (outcome.isNetworkError = true ∧ waitEnd a.wait = some .cancelled) ∨
      (outcome.retried.isSome = true ∧ w.Allows cfg runId a ∧ a.backoffInterrupted = true)

section
variable {cfg host runId w a} {now : DateTime} {entry : RunEntry} {errorClass : ErrorClass}
  {reason : String} {outcome : Option DaemonRunOutcome}

theorem statusOf_updateStatus {status : RunStatus} {phase error : Option String}
    (hterm : status.isTerminal = true) :
    (w.updateStatus host runId now (some (status, phase, error))).statusOf runId =
      (w.statusOf runId).map fun _ => status := by
  unfold statusOf updateStatus
  cases h : w.registry.get runId with
  | none =>
    rcases RunRegistry.tryStage_cases host w.registry runId status phase error now with
      ⟨e, he, -, -⟩ | ⟨-, heq⟩
    · rw [h] at he
      cases he
    · simp only [heq, h, Option.map_none]
  | some e =>
    simp only [RunRegistry.get_tryStage_of_isTerminal hterm h, Option.map_some, RunEntry.stage]

theorem get_setRunning_of_running {p : RunEntry.Patch} {phase : String} {r : RunRegistry}
    (h : r.get runId = some entry) (hrun : entry.status = .running) :
    ∃ e, (r.setRunning host runId p phase now).get runId = some e ∧ e.status = .running := by
  have hpatched : (r.modify runId p).get runId = some (entry.patch p) := by
    rw [RunRegistry.get_modify, if_pos rfl, h, Option.map_some]
  rw [RunRegistry.setRunning]
  rcases RunRegistry.tryStage_cases host (r.modify runId p) runId .running (some phase) none now
    with ⟨e, -, -, heq⟩ | ⟨-, heq⟩
  · rw [heq, RunRegistry.get_staged, if_pos rfl]
    exact ⟨_, rfl, rfl⟩
  · rw [heq, hpatched]
    exact ⟨_, rfl, hrun⟩

theorem exists_of_statusOf {status : RunStatus} (h : w.statusOf runId = some status) :
    ∃ entry, w.registry.get runId = some entry ∧ entry.status = status :=
  Option.map_eq_some_iff.mp h

theorem statusOf_spawnRecovery (h : w.statusOf runId = some .running) :
    (w.spawnRecovery host runId a).statusOf runId = some .running ↔
      a.respawn = .alive ∨ ∃ pid, a.respawn = .resumed pid := by
  obtain ⟨entry, hget, hrun⟩ := exists_of_statusOf h
  have hfails : ∀ error, ((w.updateStatus host runId a.doneAt
      (some (.failed, none, some error))).statusOf runId = some .running) ↔ False := by
    intro error
    rw [statusOf_updateStatus rfl, h]
    exact ⟨nofun, False.elim⟩
  have hshows : ∀ p phase, ({ w with
      registry := w.registry.setRunning host runId p phase a.doneAt }).statusOf runId =
        some .running := by
    intro p phase
    obtain ⟨e, he, hrunning⟩ := get_setRunning_of_running hget hrun
    exact Option.map_eq_some_iff.mpr ⟨e, he, hrunning⟩
  cases hrespawn : a.respawn with
  | alive =>
    rw [spawnRecovery, hrespawn]
    exact iff_of_true (hshows _ _) (.inl rfl)
  | resumed pid =>
    rw [spawnRecovery, hrespawn]
    exact iff_of_true (hshows _ _) (.inr ⟨pid, rfl⟩)
  | diskLow error | spawnFails error | sendFails error =>
    rw [spawnRecovery, hrespawn]
    refine (hfails _).trans ⟨False.elim, ?_⟩
    rintro (hno | ⟨_, hno⟩) <;> cases hno

theorem statusOf_attemptRecovery (h : w.statusOf runId = some .running) :
    (w.attemptRecovery host runId a).statusOf runId = some .running ↔ a.recovers := by
  obtain ⟨entry, hget, hrun⟩ := exists_of_statusOf h
  have hlive : ¬ entry.status.isTerminal = true := by
    rw [hrun]
    exact nofun
  rw [attemptRecovery, hget]
  dsimp only
  rw [if_neg hlive, OutcomeAnswers.recovers]
  split
  · next hrestart =>
    rw [statusOf_spawnRecovery h]
    exact (and_iff_right hrestart).symm
  · next hnot =>
    refine iff_of_false ?_ fun hrec => hnot hrec.1
    cases hdecision : a.decision with
    | restart => exact absurd hdecision hnot
    | alreadyDone | repoDiskLow _ | homeDiskLow _ =>
      rw [RestartDecision.status, statusOf_updateStatus rfl, h]
      exact nofun

/-- A crash is the end of the run, or it is let go on with. -/
theorem retry_cases (host : Host) (errorClass : ErrorClass) (reason : String)
    (hget : w.registry.get runId = some entry) :
    (¬ w.Allows cfg runId a ∧ w.retry cfg host runId a errorClass reason =
      { w.updateStatus host runId a.doneAt
          (MonitorOutcome.crashLoop errorClass.debug reason).status with history := none }) ∨
    (w.Allows cfg runId a ∧ ∃ w' : RunWorld, w'.registry = w.registry ∧ w'.sessions = w.sessions ∧
      w'.history = (match a.persistIo with
        | .ok () => some (((w.detector cfg a entry).recordRestartForPhase entry.currentPhase
            a.now).1.persist a.offset a.now)
        | .error _ => w.history) ∧
      w.retry cfg host runId a errorClass reason =
        if a.backoffInterrupted then w' else w'.attemptRecovery host runId a) := by
  have hallows : w.Allows cfg runId a ↔
      ((w.detector cfg a entry).recordRestartForPhase entry.currentPhase a.now).2 =
        .allowRestart := by
    constructor
    · rintro ⟨e, he, hallow⟩
      rw [hget] at he
      cases he
      exact hallow
    · exact fun hallow => ⟨entry, hget, hallow⟩
  rw [hallows, retry, hget]
  dsimp only
  rcases (w.detector cfg a entry).recordRestartForPhase entry.currentPhase a.now with
    ⟨d, _ | _⟩
  · refine .inr ⟨rfl, _, ?_, ?_, ?_, rfl⟩
    · cases a.persistIo <;> rfl
    · cases a.persistIo <;> rfl
    · cases a.persistIo <;> rfl
  · exact .inl ⟨nofun, rfl⟩

theorem statusOf_congr {w' : RunWorld} (h : w'.registry = w.registry) :
    w'.statusOf runId = w.statusOf runId := by
  rw [statusOf, statusOf, h]

theorem statusOf_retry (h : w.statusOf runId = some .running) :
    (w.retry cfg host runId a errorClass reason).statusOf runId = some .running ↔
      w.Allows cfg runId a ∧ (a.backoffInterrupted = true ∨ a.recovers) := by
  obtain ⟨entry, hget, -⟩ := exists_of_statusOf h
  rcases retry_cases host errorClass reason hget with
    ⟨hstop, heq⟩ | ⟨hallow, w', hreg, -, -, heq⟩
  · refine iff_of_false ?_ fun hboth => hstop hboth.1
    have hfailed : (w.updateStatus host runId a.doneAt
        (MonitorOutcome.crashLoop errorClass.debug reason).status).statusOf runId =
          some .failed := by
      rw [MonitorOutcome.status, statusOf_updateStatus rfl, h]
      rfl
    rw [heq]
    intro hrun
    exact RunStatus.noConfusion (Option.some.inj (hfailed.symm.trans hrun))
  · have h' : w'.statusOf runId = some .running := (statusOf_congr hreg).trans h
    rw [heq, and_iff_right hallow]
    split
    · next hint => exact iff_of_true h' (.inl hint)
    · next hint =>
      rw [statusOf_attemptRecovery h']
      exact (or_iff_right hint).symm

/-- A backoff that is interrupted leaves the registry alone. -/
theorem registry_retry_of_interrupted (hallow : w.Allows cfg runId a)
    (hint : a.backoffInterrupted = true) :
    (w.retry cfg host runId a errorClass reason).registry = w.registry := by
  obtain ⟨entry, hget, hanswer⟩ := hallow
  rcases retry_cases host errorClass reason hget with ⟨hstop, -⟩ | ⟨-, w', hreg, -, -, heq⟩
  · exact absurd ⟨entry, hget, hanswer⟩ hstop
  · rw [heq, if_pos hint, hreg]

/-! The three ways of an outcome. -/

theorem handle_retried {outcome : DaemonRunOutcome}
    (h : outcome.retried = some (errorClass, reason)) :
    w.handleMonitorOutcome cfg host runId a (some outcome) =
      w.retry cfg host runId a errorClass reason := by
  cases outcome with
  | completed | failed _ => cases h
  | crashed _ | stuck _ | timeout _ =>
    cases h
    rfl
  | errorDetected errorClass' reason' =>
    rw [DaemonRunOutcome.retried] at h
    split at h
    · cases h
    · next hnot =>
      cases h
      rw [not_or] at hnot
      rw [handleMonitorOutcome, if_neg hnot.1, if_neg hnot.2]

theorem handle_networkError {outcome : DaemonRunOutcome} (h : outcome.isNetworkError = true) :
    w.handleMonitorOutcome cfg host runId a (some outcome) =
      if waitEnd a.wait = none then w
      else if a.Restored then w.attemptRecovery host runId a
      else w.updateStatus host runId a.doneAt MonitorOutcome.networkTimeout.status := by
  obtain ⟨reason, rfl⟩ : ∃ reason, outcome = .errorDetected .networkError reason := by
    unfold DaemonRunOutcome.isNetworkError at h
    split at h
    · exact ⟨_, rfl⟩
    · cases h
  have hwait := waitForConnectivity_eq a.wait
  rcases hend : waitEnd a.wait with _ | _ | online | online
  all_goals
    rw [hend] at hwait
    simp only [handleMonitorOutcome, hwait, OutcomeAnswers.Restored, hend]
  · rfl
  · simp [ErrorClass.skipsPlan]
  · cases online <;> simp [ErrorClass.skipsPlan]
  · cases online <;> simp [ErrorClass.skipsPlan]

variable (cfg host runId w a) in
/-- Any other outcome is the end of the run. -/
theorem handle_ends {outcome : DaemonRunOutcome} (hretried : outcome.retried = none)
    (hnet : outcome.isNetworkError = false) :
    ∃ status phase error, status.isTerminal = true ∧
      (w.handleMonitorOutcome cfg host runId a (some outcome)).registry =
        (w.updateStatus host runId a.doneAt (some (status, phase, error))).registry ∧
      (w.handleMonitorOutcome cfg host runId a (some outcome)).sessions = w.sessions ∧
      ((w.registry.get runId).isSome = true ∨
        (w.handleMonitorOutcome cfg host runId a (some outcome)).history = w.history) := by
  cases outcome with
  | completed =>
    refine ⟨.succeeded, some "complete", none, rfl, rfl, rfl, ?_⟩
    rw [handleMonitorOutcome]
    cases (w.registry.get runId).isSome with
    | true => exact .inl rfl
    | false => exact .inr rfl
  | failed reason => exact ⟨.failed, none, some reason, rfl, rfl, rfl, .inr rfl⟩
  | crashed _ | stuck _ | timeout _ => cases hretried
  | errorDetected errorClass reason =>
    rw [DaemonRunOutcome.retried] at hretried
    split at hretried
    · next hor =>
      have hskips : errorClass.skipsPlan = true := by
        rcases hor with hskips | rfl
        · exact hskips
        · cases hnet
      rw [handleMonitorOutcome, if_pos hskips]
      exact ⟨.failed, none, _, rfl, rfl, rfl, .inr rfl⟩
    · cases hretried

theorem retried_of_isNetworkError {outcome : DaemonRunOutcome}
    (h : outcome.isNetworkError = true) : outcome.retried = none := by
  unfold DaemonRunOutcome.isNetworkError at h
  split at h
  · rfl
  · cases h

theorem statusOf_networkError (h : w.statusOf runId = some .running) :
    (if waitEnd a.wait = none then w
      else if a.Restored then w.attemptRecovery host runId a
      else w.updateStatus host runId a.doneAt
        MonitorOutcome.networkTimeout.status).statusOf runId = some .running ↔
      waitEnd a.wait = none ∨ (a.Restored ∧ a.recovers) := by
  split
  · next hwaits => exact iff_of_true h (.inl hwaits)
  · next hends =>
    rw [or_iff_right hends]
    split
    · next hrestored =>
      rw [statusOf_attemptRecovery h]
      exact (and_iff_right hrestored).symm
    · next hnot =>
      refine iff_of_false ?_ fun hboth => hnot hboth.1
      rw [MonitorOutcome.status, statusOf_updateStatus rfl, h]
      exact nofun

theorem statusOf_handleMonitorOutcome (h : w.statusOf runId = some .running) :
    (w.handleMonitorOutcome cfg host runId a outcome).statusOf runId = some .running ↔
      w.LeavesRunning cfg runId a outcome := by
  rcases outcome with _ | outcome
  · exact iff_of_true h trivial
  rw [LeavesRunning]
  cases hnet : outcome.isNetworkError with
  | true =>
    rw [handle_networkError hnet, statusOf_networkError h, retried_of_isNetworkError hnet]
    simp only [true_and, Option.isSome_none, Bool.false_eq_true, false_and, or_false]
  | false =>
    simp only [Bool.false_eq_true, false_and, false_or]
    cases hretried : outcome.retried with
    | some asked =>
      rw [handle_retried hretried, statusOf_retry h]
      exact (and_iff_right rfl).symm
    | none =>
      refine iff_of_false ?_ fun hno => Bool.noConfusion hno.1
      obtain ⟨status, phase, error, hterm, hreg, -, -⟩ :=
        handle_ends cfg host runId w a hretried hnet
      rw [statusOf_congr hreg, statusOf_updateStatus hterm, h]
      rintro ⟨⟩
      cases hterm

/-- Where the token ends a wait, only the one for the network changes something. -/
theorem statusOf_of_tokenEndsWait (h : w.TokenEndsWait cfg runId a outcome) :
    (w.handleMonitorOutcome cfg host runId a outcome).statusOf runId =
      if outcome.any (·.isNetworkError) then (w.statusOf runId).map fun _ => .failed
      else w.statusOf runId := by
  rcases outcome with _ | outcome
  · exact h.elim
  rw [Option.any_some]
  rcases h with ⟨hnet, hcancelled⟩ | ⟨hretried, hallow, hint⟩
  · have hends : waitEnd a.wait ≠ none := by
      rw [hcancelled]
      exact nofun
    have hnot : ¬ a.Restored := by
      rw [OutcomeAnswers.Restored, hcancelled]
      exact fun hor => hor.elim nofun nofun
    rw [if_pos hnet, handle_networkError hnet, if_neg hends, if_neg hnot]
    exact statusOf_updateStatus rfl
  · obtain ⟨⟨errorClass, reason⟩, hasked⟩ := Option.isSome_iff_exists.mp hretried
    have hnet : ¬ outcome.isNetworkError = true := by
      intro hnet
      rw [retried_of_isNetworkError hnet] at hasked
      cases hasked
    rw [if_neg hnet, handle_retried hasked]
    exact statusOf_congr (registry_retry_of_interrupted hallow hint)

end

end RunWorld

open RunWorld

/-- A Running run is left Running exactly in the cases of `LeavesRunning`; and when the token ends
the wait that the handler is in, the status of the run stays what it was, unless the wait was the
one for the network. -/
theorem shutdown_keeps_status_iff (cfg : WatchdogConfig) (host : Host) (runId : String)
    (w : RunWorld) (a : OutcomeAnswers) (outcome : Option DaemonRunOutcome) :
    (w.statusOf runId = some .running →
      ((w.handleMonitorOutcome cfg host runId a outcome).statusOf runId = some .running ↔
        w.LeavesRunning cfg runId a outcome)) ∧
    (w.TokenEndsWait cfg runId a outcome →
      ((w.handleMonitorOutcome cfg host runId a outcome).statusOf runId = w.statusOf runId ↔
        outcome.any (·.isNetworkError) = false ∨
          w.statusOf runId = none ∨ w.statusOf runId = some .failed)) := by
  refine ⟨statusOf_handleMonitorOutcome, fun hends => ?_⟩
  rw [statusOf_of_tokenEndsWait hends]
  cases outcome.any (·.isNetworkError) with
  | false => exact iff_of_true rfl (.inl rfl)
  | true =>
    rw [if_pos rfl, or_iff_right Bool.noConfusion]
    cases w.statusOf runId with
    | none => exact iff_of_true rfl (.inl rfl)
    | some status =>
      rw [or_iff_right nofun]
      exact eq_comm

/-- A run that is Running and has not crashed yet. -/
def RunWorld.running (runId : String) : RunWorld where
  registry :=
    { RunRegistry.new with
      runs := (∅ : Map String RunEntry).insert runId
        { RunEntry.registered runId "plans/a.md" "/repo" none none none 0 with
          status := .running
          tmuxSession := some ("gw-" ++ runId) } }
  history := none
  sessions := 0

/-- The network is back at once, the disk works, the restart goes through. -/
def OutcomeAnswers.plain : OutcomeAnswers where
  now := 0
  offset := 0
  utcNow := 0
  doneAt := 0
  wait := [.poll true]
  persistIo := .ok ()
  backoffInterrupted := false
  decision := .restart
  respawn := .resumed 1

/-- The backoff after a crash is interrupted: the run stays Running. -/
theorem crash_backoff_interrupted :
    ((running "a").handleMonitorOutcome .default .plain "a"
        { OutcomeAnswers.plain with backoffInterrupted := true }
        (some (.crashed "session gone"))).statusOf "a" = some .running ∧
      ((running "a").handleMonitorOutcome .default .plain "a"
        { OutcomeAnswers.plain with backoffInterrupted := true }
        (some (.crashed "session gone"))).statusOf "a" = (running "a").statusOf "a" := by
  have hallow : (running "a").Allows .default "a"
      { OutcomeAnswers.plain with backoffInterrupted := true } := ⟨_, rfl, by decide⟩
  have hboth := shutdown_keeps_status_iff .default .plain "a" (running "a")
    { OutcomeAnswers.plain with backoffInterrupted := true } (some (.crashed "session gone"))
  exact ⟨(hboth.1 rfl).mpr (.inr ⟨rfl, hallow, .inl rfl⟩),
    (hboth.2 (.inr ⟨rfl, hallow, rfl⟩)).mpr (.inl rfl)⟩

/-- The daemon is shut down while a run waits for the network: the run is Failed. -/
theorem network_wait_cancelled_fails_run :
    ∃ a : OutcomeAnswers,
      (running "a").statusOf "a" = some .running ∧
      (running "a").TokenEndsWait .default "a" a
        (some (.errorDetected .networkError "fetch failed")) ∧
      (((running "a").handleMonitorOutcome .default .plain "a" a
          (some (.errorDetected .networkError "fetch failed"))).registry.get "a").map
        (fun e => (e.status, e.errorMessage)) =
          some (.failed, some "Network unavailable for 30 minutes — giving up") :=
  ⟨{ OutcomeAnswers.plain with wait := [.poll false, .cancelled] }, rfl, .inl ⟨rfl, rfl⟩,
    by decide⟩

end GreaterWill
