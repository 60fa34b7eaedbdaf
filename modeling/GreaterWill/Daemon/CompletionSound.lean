import GreaterWill.Daemon.RunMonitorSpec
import GreaterWill.Lib.Run

/-!
# When a completed outcome is right

A run is to end as completed only near the end of its pipeline, as far as its checkpoint tells. The
session probe and the loop state look at the checkpoint before they say so. The completion timer
does not: a stop signal starts it, nothing stops it, and when it has run out the run is completed
whatever the checkpoint says.
-/

namespace GreaterWill

namespace DaemonRunMonitor
variable (probes : Probes) (m : DaemonRunMonitor) (w : Surroundings)

/-- A tick that ends the run as completed finds no checkpoint, or one near completion. -/
def CompletedSound : Prop :=
  m.tick probes w = .error .completed →
    ∀ cp, m.resolvedCheckpoint probes w = some cp → cp.isNearCompletion = true

/-- The completion timer has run out. -/
def GraceExpired : Prop :=
  ∃ detected, m.completionDetectedAt = some detected ∧
    COMPLETION_GRACE_SECS ≤ elapsedSecs w.now detected

/-- The timer does not run out at a tick past the pane that finds an unfinished checkpoint. -/
def GraceConfirmed : Prop :=
  m.PastPane probes w → m.GraceExpired w →
    ∀ cp, m.resolvedCheckpoint probes w = some cp → cp.isNearCompletion = true

/-- One tick of a run, which is over when the tick has an outcome. -/
def step : Option DaemonRunMonitor := (m.tick probes w).toOption

variable {probes m w}

theorem tick_of_step {m' : DaemonRunMonitor} (h : step probes m w = some m') :
    m.tick probes w = .ok m' := by
  rw [step] at h
  cases htick : m.tick probes w with
  | error outcome =>
    rw [htick] at h
    cases h
  | ok m₁ =>
    rw [htick] at h
    cases h
    rfl

theorem resolvedCheckpoint_probed :
    (m.probed probes w).resolvedCheckpoint probes w = m.resolvedCheckpoint probes w := by
  obtain ⟨c, k, n, hprobed, -, -⟩ := m.probed_spec probes w
  rw [hprobed]
  rfl

/-- The poll leaves the checkpoint to be found where it was found. -/
theorem resolvedCheckpoint_pollCheckpoint :
    (m.pollCheckpoint probes w).resolvedCheckpoint probes w = m.resolvedCheckpoint probes w := by
  cases h : m.resolvedCheckpoint probes w with
  | none => rw [pollCheckpoint_of_none probes m w h, h]
  | some cp =>
    obtain ⟨_, _, _, _, _, _, _, _, _, hpoll⟩ := pollCheckpoint_of_some probes m w h
    rw [hpoll, ← h]
    exact congrArg Prod.fst (readCachedCheckpoint_again m.cachedCheckpointPath)

theorem vanishedOutcome_completed (h : m.vanishedOutcome probes w = .completed) :
    ∀ cp, m.resolvedCheckpoint probes w = some cp → cp.isNearCompletion = true := by
  intro cp hcp
  rw [resolvedCheckpoint] at hcp
  rw [vanishedOutcome, hcp] at h
  dsimp only at h
  split at h
  · cases h
  · split at h
    · next hboth => exact (Bool.and_eq_true_iff.mp hboth).2
    · cases h

/-- A completion noted at this tick is too young for the timer. -/
theorem graceExpired_seen : (m.seen probes w).GraceExpired w ↔ m.GraceExpired w := by
  obtain ⟨n, p, c, s, t, e, k, u, hseen, hc, -⟩ := m.seen_spec probes w
  have hdetected : (m.seen probes w).completionDetectedAt = c := by rw [hseen]
  rw [GraceExpired, GraceExpired, hdetected]
  rcases hc with rfl | ⟨hnone, rfl⟩
  · rfl
  · rw [hnone]
    constructor
    · rintro ⟨detected, hd, helapsed⟩
      cases hd
      rw [elapsedSecs_self] at helapsed
      exact absurd helapsed (by decide)
    · rintro ⟨detected, hd, -⟩
      cases hd

theorem checkCompletionGrace_eq : m.checkCompletionGrace w = .error .completed ↔
    m.GraceExpired w := by
  rw [checkCompletionGrace, GraceExpired]
  cases m.completionDetectedAt with
  | none => simp
  | some detected =>
    dsimp only
    split
    · next h => simp [h]
    · next h => simp [h]

/-- The exact condition, for one tick. -/
theorem completedSound_iff : m.CompletedSound probes w ↔ m.GraceConfirmed probes w := by
  constructor
  · intro hsound hpast hexpired
    apply hsound
    rw [tick_of_pastPane hpast, tickAfterPane_eq]
    apply Except.bind_eq_error_iff.mpr
    left
    apply Except.bind_eq_error_iff.mpr
    left
    exact checkCompletionGrace_eq.mpr (graceExpired_seen.mpr hexpired)
  · intro hconfirmed hcompleted cp hcp
    rcases tick_completed hcompleted with hvanished | ⟨hpast, hafter⟩
    · exact vanishedOutcome_completed hvanished cp (by rw [resolvedCheckpoint_probed, hcp])
    · rw [tickAfterPane_eq] at hafter
      rcases Except.bind_eq_error_iff.mp hafter with hafter | ⟨g, -, hgate⟩
      swap
      · exact absurd hgate (evaluateKillGate_ne_completed g w)
      rcases Except.bind_eq_error_iff.mp hafter with hgrace | ⟨_, -, hafter⟩
      · exact hconfirmed hpast (graceExpired_seen.mp (checkCompletionGrace_eq.mp hgrace)) cp hcp
      rcases Except.bind_eq_error_iff.mp hafter with hloop | ⟨m₁, -, hafter⟩
      · -- the loop state asks the checkpoint itself
        obtain ⟨cp', hcp', hnear⟩ := pollLoopState_completed probes _ w hloop
        rw [resolvedCheckpoint_pollCheckpoint, resolvedCheckpoint_seen, hcp] at hcp'
        cases hcp'
        exact hnear
      rcases Except.bind_eq_error_iff.mp hafter with hlive | ⟨m₂, -, hafter⟩
      · exact absurd hlive (checkProcessLiveness_ne_completed _ w)
      · cases hafter

end DaemonRunMonitor

open DaemonRunMonitor

/-- In every run of a new monitor, every completed outcome is right exactly if the completion timer
never runs out over an unfinished checkpoint. -/
theorem completed_sound_iff_grace_confirmed (probes : Probes) (repoDir : PathBuf)
    (claudePid : Option UInt32) (startedAt : Int) (watchdog : WatchdogConfig) (utcNow : Int)
    (now : Nat) (ticks : List Surroundings) :
    let m := DaemonRunMonitor.new repoDir claudePid startedAt watchdog utcNow now
    Along (step probes) (CompletedSound probes) m ticks ↔
      Along (step probes) (GraceConfirmed probes) m ticks := by
  intro m
  exact Along.iff fun _ _ => completedSound_iff

/-! A session-end signal in the first phase, found again five minutes later. -/

private def earlyText : String :=
  "\x7b\"id\":\"arc-1\",\"plan_file\":\"plans/a.md\",\"phases\":\x7b" ++
    "\"forge\":\x7b\"status\":\"in_progress\"\x7d,\"work\":\x7b\"status\":\"pending\"\x7d\x7d\x7d"

private def earlyCheckpoint : Checkpoint where
  id := "arc-1"
  planFile := "plans/a.md"
  phases := Dict.ofList [
    ("forge", { status := "in_progress" }),
    ("work", { status := "pending" })]

private def earlyProbes : Probes where
  serde :=
    { fromStr := fun text =>
        if text = earlyText then
          some (.object [
            ("id", .string "arc-1"),
            ("plan_file", .string "plans/a.md"),
            ("phases", .object [
              ("forge", .object [("status", .string "in_progress")]),
              ("work", .object [("status", .string "pending")])])])
        else if text = "\x7b\"is_complete\":true\x7d" then
          some (.object [("is_complete", .bool true)])
        else none
      toPretty := fun _ => ""
      display := fun _ => "" }
  hashStr _ := 0
  toLowercase := id
  paneErrorClass _ := none
  parseRfc3339 _ := none

private def earlyFiles : Files := Dict.ofList [
  ("/repo/.gw/signals/session-end.json", some "\x7b\"is_complete\":true\x7d"),
  ("/repo/.rune/arc-phase-loop.local.md", some
    "---\nactive: true\ncheckpoint_path: .rune/arc/arc-1/checkpoint.json\nplan_file: plans/a.md\n---\n"),
  ("/repo/.rune/arc/arc-1/checkpoint.json", some earlyText)]

/-- The surroundings of the early run at a time: a session at work, and a session-end signal. -/
private def earlyTick (now : Nat) : Surroundings where
  now := now
  utcNow := now
  files := earlyFiles
  permissionPending := false
  probe := .present
  pane := none
  enterSent := false
  pidAlive _ := true
  swarm _ := false
  online := true
  scanArtifactDir _ := none

private def earlyWatchdog : WatchdogConfig := .fromEnv fun _ => none

private def earlyMonitor : DaemonRunMonitor :=
  .new "/repo" none 0 earlyWatchdog 0 0

/-- The first tick notes the signal. -/
private theorem early_first_tick :
    ∃ m, step earlyProbes earlyMonitor (earlyTick 0) = some m ∧
      m.completionDetectedAt = some 0 ∧ m.runStartedAt = 0 ∧
      m.watchdog.pipelineTimeoutSecs = 21600 := by
  apply exists_of_any
  decide +kernel

private theorem early_loop_state : readArcLoopState earlyFiles "/repo" = .active {
    active := true
    checkpointPath := ".rune/arc/arc-1/checkpoint.json"
    planFile := "plans/a.md"
    configDir := ""
    ownerPid := ""
    sessionId := ""
    branch := ""
    iteration := 0
    maxIterations := 50 } := by
  decide +kernel

private theorem early_read : readCheckpoint earlyProbes.serde earlyFiles
    "/repo/.rune/arc/arc-1/checkpoint.json" = .ok earlyCheckpoint :=
  rfl

private theorem early_resolved :
    earlyMonitor.resolvedCheckpoint earlyProbes (earlyTick 0) = some earlyCheckpoint := by
  have hpath : ArcLoopState.resolveCheckpointPath {
      active := true
      checkpointPath := ".rune/arc/arc-1/checkpoint.json"
      planFile := "plans/a.md"
      configDir := ""
      ownerPid := ""
      sessionId := ""
      branch := ""
      iteration := 0
      maxIterations := 50 } "/repo" = "/repo/.rune/arc/arc-1/checkpoint.json" := by
    decide +kernel
  have hexists : earlyFiles.pathExists "/repo/.rune/arc/arc-1/checkpoint.json" = true := by
    decide +kernel
  change (discoverCheckpoint earlyProbes.serde earlyFiles "/repo").1 = _
  rw [discoverCheckpoint, early_loop_state]
  dsimp only
  rw [hpath, if_pos hexists, early_read]

/-- The signal of the first phase ends the run as completed five minutes later. -/
theorem completed_in_first_phase :
    ¬ Along (step earlyProbes) (CompletedSound earlyProbes) earlyMonitor
      [earlyTick 0, earlyTick (fromSecs 300)] := by
  intro hsound
  obtain ⟨m, hstep, hdetected, hstarted, hbudget⟩ := early_first_tick
  rw [Along.cons hstep] at hsound
  have hconfirmed : GraceConfirmed earlyProbes m (earlyTick (fromSecs 300)) :=
    completedSound_iff.mp hsound.2.head
  -- the files are those of the first tick
  have hresolved : m.resolvedCheckpoint earlyProbes (earlyTick (fromSecs 300)) =
      some earlyCheckpoint := by
    have hfiles : m.resolvedCheckpoint earlyProbes (earlyTick (fromSecs 300)) =
        m.resolvedCheckpoint earlyProbes (earlyTick 0) := by
      rw [resolvedCheckpoint, resolvedCheckpoint, earlyTick, earlyTick]
    rw [hfiles, resolvedCheckpoint_tick (tick_of_step hstep), early_resolved]
  have hnear : earlyCheckpoint.isNearCompletion = true := by
    apply hconfirmed _ _ _ hresolved
    · exact ⟨by rw [hstarted, hbudget]; decide, rfl, rfl⟩
    · exact ⟨0, hdetected, by decide⟩
  exact absurd hnear (by decide +kernel)

end GreaterWill
