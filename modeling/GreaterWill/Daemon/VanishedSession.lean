import GreaterWill.Engine.SessionCompletion

/-!
# A vanished session, in the foreground and in the daemon

Both monitors judge a session that `tmux` no longer has by its age and its checkpoint. The
foreground monitor also looks at the process, and the daemon's also at the completion it may have
noted before; their minimal ages differ. Each always says completed or crashed.
-/

namespace GreaterWill

/-- What a monitor says about a session that is gone. -/
inductive Verdict where
  | completed
  | crashed
  deriving DecidableEq

def SessionOutcome.verdict : SessionOutcome → Option Verdict
  | completed => some .completed
  | crashed _ => some .crashed
  | _ => none

def DaemonRunOutcome.verdict : DaemonRunOutcome → Option Verdict
  | completed => some .completed
  | crashed _ => some .crashed
  | _ => none

/-- A session that `tmux` no longer has, before a monitor of the foreground and one of the daemon
that watch it since the same time and find the same checkpoint. -/
structure VanishedSession (probes : SessionProbes) where
  w : SessionSurroundings
  foreground : SessionMonitor
  daemon : DaemonRunMonitor
  absent : w.probe = .absent
  dispatched : daemon.monitorStartedAt = foreground.dispatchTime
  found : daemon.resolvedCheckpoint probes.toProbes w.toSurroundings =
    foreground.resolvedCheckpoint probes w

namespace VanishedSession
variable {probes : SessionProbes} (s : VanishedSession probes)

/-- What `monitor_session` returns. -/
def foregroundVerdict : Option Verdict :=
  match s.foreground.tick probes s.w with
  | .error (.ok outcome) => outcome.verdict
  | _ => none

/-- What `check_session_alive` returns. -/
def daemonVerdict : Option Verdict :=
  match s.daemon.checkSessionAlive probes.toProbes s.w.toSurroundings with
  | .error outcome => outcome.verdict
  | .ok _ => none

def ageSecs : Nat := elapsedSecs s.w.now s.foreground.dispatchTime

def checkpoint : Option Checkpoint := s.foreground.resolvedCheckpoint probes s.w

/-- The checkpoint says that the run is done. -/
def Done : Prop := ∃ cp, s.checkpoint = some cp ∧ cp.isComplete = true ∧ cp.isNearCompletion = true

def ProcessAlive : Prop := s.w.pidAlive s.foreground.pid = true

/-- The foreground's sign of completion: a checkpoint that is done and a process that is gone, not
in the first 30 seconds. -/
def ForegroundCompletes : Prop :=
  MIN_SESSION_DURATION_SECS ≤ s.ageSecs ∧ ¬ s.ProcessAlive ∧ s.Done

/-- The daemon's: a checkpoint that is done, or none and a completion noted before, not in the first
minute. -/
def DaemonCompletes : Prop :=
  DAEMON_MIN_COMPLETION_AGE_SECS ≤ s.ageSecs ∧
    (s.Done ∨ s.checkpoint = none ∧ s.daemon.completionDetectedAt.isSome = true)

/-- Where the signs agree. With a checkpoint that is done, a session that is gone with its process
is a minute old, and one whose process lives on is not. Without a checkpoint, one that was noted as
completed is younger than a minute. -/
structure SignsAgree : Prop where
  done : s.Done → MIN_SESSION_DURATION_SECS ≤ s.ageSecs →
    (s.ProcessAlive ↔ s.ageSecs < DAEMON_MIN_COMPLETION_AGE_SECS)
  noted : s.checkpoint = none → s.daemon.completionDetectedAt.isSome = true →
    s.ageSecs < DAEMON_MIN_COMPLETION_AGE_SECS

end VanishedSession

/-! ## The verdict of the foreground -/

theorem le_asSecs_iff {secs d : Nat} : secs ≤ asSecs d ↔ fromSecs secs ≤ d :=
  Nat.le_div_iff_mul_le (by decide)

namespace SessionMonitor
variable {probes : SessionProbes} {m : SessionMonitor} {w : SessionSurroundings}

theorem vanishedOutcome_completed_iff : m.vanishedOutcome probes w = .completed ↔
    fromSecs MIN_SESSION_DURATION_SECS ≤ m.sessionAge w ∧ w.pidAlive m.pid = false ∧
      ∃ cp, m.resolvedCheckpoint probes w = some cp ∧ cp.isComplete = true ∧
        cp.isNearCompletion = true := by
  constructor
  · intro h
    obtain ⟨hage, hdead, cp, hcp, hnear⟩ := vanishedOutcome_completed h
    refine ⟨hage, hdead, cp, hcp, ?_, hnear⟩
    rw [resolvedCheckpoint] at hcp
    rw [vanishedOutcome, readCheckpoint] at h
    dsimp only at h
    rw [if_neg (Nat.not_lt.mpr hage), hdead, hcp] at h
    by_cases hcomplete : cp.isComplete = true
    · exact hcomplete
    · simp [hcomplete] at h
  · rintro ⟨hage, hdead, cp, hcp, hcomplete, hnear⟩
    exact vanishedOutcome_of_read hage hdead hcp hcomplete hnear

/-- A session that has vanished is completed or crashed. -/
theorem vanishedOutcome_cases : m.vanishedOutcome probes w = .completed ∨
    ∃ reason, m.vanishedOutcome probes w = .crashed reason := by
  rw [vanishedOutcome]
  split
  · exact .inr ⟨_, rfl⟩
  · split
    · exact .inr ⟨_, rfl⟩
    · split
      · split
        · exact .inl rfl
        · exact .inr ⟨_, rfl⟩
      · split
        · exact .inr ⟨_, rfl⟩
        · exact .inr ⟨_, rfl⟩

end SessionMonitor

namespace DaemonRunMonitor
variable {probes : Probes} {m : DaemonRunMonitor} {w : Surroundings}

theorem vanishedOutcome_cases : m.vanishedOutcome probes w = .completed ∨
    ∃ reason, m.vanishedOutcome probes w = .crashed reason := by
  rw [vanishedOutcome]
  dsimp only
  split
  · exact .inr ⟨_, rfl⟩
  · split
    · split
      · exact .inl rfl
      · exact .inr ⟨_, rfl⟩
    · split
      · exact .inl rfl
      · exact .inr ⟨_, rfl⟩

theorem vanishedOutcome_completed_iff : m.vanishedOutcome probes w = .completed ↔
    DAEMON_MIN_COMPLETION_AGE_SECS ≤ elapsedSecs w.now m.monitorStartedAt ∧
      ((∃ cp, m.resolvedCheckpoint probes w = some cp ∧ cp.isComplete = true ∧
          cp.isNearCompletion = true) ∨
        m.resolvedCheckpoint probes w = none ∧ m.completionDetectedAt.isSome = true) := by
  rw [vanishedOutcome, resolvedCheckpoint]
  dsimp only
  by_cases hage : elapsedSecs w.now m.monitorStartedAt < DAEMON_MIN_COMPLETION_AGE_SECS
  · rw [if_pos hage]
    refine iff_of_false ?_ fun h => Nat.not_lt.mpr h.1 hage
    intro h
    cases h
  · rw [if_neg hage]
    cases (readCachedCheckpoint probes.serde w.files m.repoDir m.cachedCheckpointPath).1 with
    | some cp =>
      dsimp only
      by_cases hboth : (cp.isComplete && cp.isNearCompletion) = true
      · obtain ⟨hcomplete, hnear⟩ := Bool.and_eq_true_iff.mp hboth
        rw [if_pos hboth]
        exact iff_of_true rfl ⟨Nat.not_lt.mp hage, .inl ⟨cp, rfl, hcomplete, hnear⟩⟩
      · rw [if_neg hboth]
        refine iff_of_false ?_ ?_
        · intro h
          cases h
        · rintro ⟨-, ⟨cp', hcp', hcomplete, hnear⟩ | ⟨hnone, -⟩⟩
          · cases hcp'
            exact hboth (Bool.and_eq_true_iff.mpr ⟨hcomplete, hnear⟩)
          · cases hnone
    | none =>
      by_cases hnoted : m.completionDetectedAt.isSome = true
      · rw [if_pos hnoted]
        exact iff_of_true rfl ⟨Nat.not_lt.mp hage, .inr ⟨rfl, hnoted⟩⟩
      · rw [if_neg hnoted]
        refine iff_of_false ?_ ?_
        · intro h
          cases h
        · rintro ⟨-, ⟨cp', hcp', -⟩ | ⟨-, hsome⟩⟩
          · cases hcp'
          · exact hnoted hsome

end DaemonRunMonitor

/-! ## The two verdicts -/

namespace VanishedSession
variable {probes : SessionProbes} (s : VanishedSession probes)

/-- The monitor that judges the session finds what the monitor before the tick would. -/
theorem tick_foreground : ∃ m, s.foreground.Onward probes s.w m ∧
    s.foreground.tick probes s.w = .error (.ok (m.vanishedOutcome probes s.w)) := by
  refine ⟨_, SessionMonitor.onward_probed probes s.foreground s.w, ?_⟩
  apply SessionMonitor.tick_of_vanished
  rw [s.absent]
  rfl

theorem foregroundVerdict_eq [Decidable s.ForegroundCompletes] : s.foregroundVerdict =
    some (if s.ForegroundCompletes then .completed else .crashed) := by
  obtain ⟨m, honward, htick⟩ := s.tick_foreground
  have hiff : m.vanishedOutcome probes s.w = .completed ↔ s.ForegroundCompletes := by
    rw [SessionMonitor.vanishedOutcome_completed_iff, honward.sessionAge, honward.pid,
      honward.resolvedCheckpoint, ← le_asSecs_iff, ← Bool.not_eq_true]
    exact Iff.rfl
  have hcases : m.vanishedOutcome probes s.w = .completed ∨
      ∃ reason, m.vanishedOutcome probes s.w = .crashed reason :=
    SessionMonitor.vanishedOutcome_cases
  rw [foregroundVerdict, htick]
  rcases hcases with hcompleted | ⟨reason, hcrashed⟩
  · rw [if_pos (hiff.mp hcompleted), hcompleted]
    rfl
  · have hnot : ¬ s.ForegroundCompletes := by
      rw [← hiff, hcrashed]
      exact nofun
    rw [if_neg hnot, hcrashed]
    rfl

theorem daemonVerdict_eq [Decidable s.DaemonCompletes] : s.daemonVerdict =
    some (if s.DaemonCompletes then .completed else .crashed) := by
  have hcheck : s.daemon.checkSessionAlive probes.toProbes s.w.toSurroundings =
      .error (s.daemon.vanishedOutcome probes.toProbes s.w.toSurroundings) := by
    rw [DaemonRunMonitor.checkSessionAlive, DaemonRunMonitor.probeSession, s.absent]
    rfl
  have hiff : s.daemon.vanishedOutcome probes.toProbes s.w.toSurroundings = .completed ↔
      s.DaemonCompletes := by
    rw [DaemonRunMonitor.vanishedOutcome_completed_iff, s.found, s.dispatched]
    exact Iff.rfl
  rw [daemonVerdict, hcheck]
  rcases DaemonRunMonitor.vanishedOutcome_cases (m := s.daemon) (w := s.w.toSurroundings) with
    hcompleted | ⟨reason, hcrashed⟩
  · rw [if_pos (hiff.mp hcompleted), hcompleted]
    rfl
  · have hnot : ¬ s.DaemonCompletes := by
      rw [← hiff, hcrashed]
      intro h
      cases h
    rw [if_neg hnot, hcrashed]
    rfl

theorem not_none_of_done (h : s.Done) : s.checkpoint ≠ none := by
  obtain ⟨cp, hcp, -⟩ := h
  rw [hcp]
  exact nofun

theorem completes_iff_signsAgree :
    (s.ForegroundCompletes ↔ s.DaemonCompletes) ↔ s.SignsAgree := by
  have hages : MIN_SESSION_DURATION_SECS ≤ DAEMON_MIN_COMPLETION_AGE_SECS := by decide
  constructor
  · intro hiff
    refine ⟨fun hdone hold => ?_, fun hnone hnoted => ?_⟩
    · have hforeground : s.ForegroundCompletes ↔ ¬ s.ProcessAlive :=
        ⟨fun h => h.2.1, fun h => ⟨hold, h, hdone⟩⟩
      have hdaemon : s.DaemonCompletes ↔ DAEMON_MIN_COMPLETION_AGE_SECS ≤ s.ageSecs :=
        ⟨fun h => h.1, fun h => ⟨h, .inl hdone⟩⟩
      rw [hforeground, hdaemon, ← Nat.not_lt] at hiff
      exact not_iff_not.mp hiff
    · refine Nat.lt_of_not_le fun hold => ?_
      obtain ⟨-, -, hdone⟩ := hiff.mpr ⟨hold, .inr ⟨hnone, hnoted⟩⟩
      exact s.not_none_of_done hdone hnone
  · rintro ⟨hprocess, hnoted⟩
    constructor
    · rintro ⟨hold, hdead, hdone⟩
      exact ⟨Nat.not_lt.mp (mt (hprocess hdone hold).mpr hdead), .inl hdone⟩
    · rintro ⟨hold, hdone | ⟨hnone, hsome⟩⟩
      · have hmin : MIN_SESSION_DURATION_SECS ≤ s.ageSecs := hages.trans hold
        exact ⟨hmin, fun halive => Nat.not_lt.mpr hold ((hprocess hdone hmin).mp halive), hdone⟩
      · exact absurd hold (Nat.not_le.mpr (hnoted hnone hsome))

/-- Both monitors judge every session that is gone, and they agree where their signs do. -/
theorem verdicts_agree_iff : s.foregroundVerdict.isSome = true ∧ s.daemonVerdict.isSome = true ∧
    (s.foregroundVerdict = s.daemonVerdict ↔ s.SignsAgree) := by
  classical
  rw [foregroundVerdict_eq, daemonVerdict_eq, ← completes_iff_signsAgree]
  refine ⟨rfl, rfl, ?_⟩
  rw [Option.some_inj]
  by_cases hforeground : s.ForegroundCompletes
  · by_cases hdaemon : s.DaemonCompletes
    · simp [hforeground, hdaemon]
    · simp [hforeground, hdaemon]
  · by_cases hdaemon : s.DaemonCompletes
    · simp [hforeground, hdaemon]
    · simp [hforeground, hdaemon]

end VanishedSession

/-! A session of five minutes without a checkpoint, which was noted as completed. -/

private def goneProbes : SessionProbes where
  serde := { fromStr := fun _ => none, toPretty := fun _ => "", display := fun _ => "" }
  hashStr _ := 0
  toLowercase := id
  paneErrorClass _ := none
  parseRfc3339 _ := none
  hashProgress _ _ _ := 0

private def goneSession : VanishedSession goneProbes where
  w :=
    { now := fromSecs 300
      utcNow := 0
      files := ∅
      permissionPending := false
      probe := .absent
      graceProbe := .absent
      pane := none
      enterSent := false
      pidAlive _ := false
      swarm _ := false
      workingTeammates _ := false
      online := true
      scanArtifactDir _ := none
      killSession := .ok () }
  foreground :=
    { SessionMonitor.start "/repo" "/repo" 7 (.fromEnv fun _ => none) (fromSecs 21600) 0 0 with
      completionDetectedAt := some (fromSecs 200 : Nat) }
  daemon :=
    { DaemonRunMonitor.new "/repo" (some 7) 0 (.fromEnv fun _ => none) 0 0 with
      completionDetectedAt := some (fromSecs 200 : Nat) }
  absent := rfl
  dispatched := rfl
  found := rfl

/-- The foreground takes it for a crash, the daemon for a completion. -/
theorem noted_completion_disagrees : ∃ s : VanishedSession goneProbes,
    s.foregroundVerdict = some .crashed ∧ s.daemonVerdict = some .completed := by
  refine ⟨goneSession, ?_, ?_⟩
  · decide +kernel
  · decide +kernel

end GreaterWill
