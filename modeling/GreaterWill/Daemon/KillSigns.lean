import GreaterWill.Daemon.KillGate

/-!
# Signs of work before a kill

The kill gate goes by the monitor's clocks of activity. A sign of work calls a kill off if the tick
at which it shows records it (`Records`). Signs that show in the surroundings (`Shows`) and are
recorded by no tick do not: the scan of the artifacts looks beside the checkpoint and not into the
arc's artifact directory, three fields of the loop state are compared, and a tick that answers a
prompt ends before it gets to the checkpoint, the loop state, the artifacts and the gate.
-/

namespace GreaterWill

/-- What shows that a session is at work, or that it cannot be. -/
inductive WorkSign where
  | pane
  | checkpoint
  | artifacts
  | loopState
  | swarm
  | offline
  deriving DecidableEq

/-- `ArcLoopState::diff` finds a change; `config_dir` is not tracked. -/
def ArcLoopState.differs (prev new : ArcLoopState) : Bool :=
  decide (prev.active ≠ new.active ∨ prev.iteration ≠ new.iteration ∨
    prev.checkpointPath ≠ new.checkpointPath ∨ prev.planFile ≠ new.planFile ∨
    prev.branch ≠ new.branch ∨ prev.ownerPid ≠ new.ownerPid ∨ prev.sessionId ≠ new.sessionId ∨
    prev.maxIterations ≠ new.maxIterations)

/-- A kill that is not from this tick was pending before it. -/
theorem KillAdded.pending_before {now : Nat} {k k' : Option PendingKillRequest}
    {pk : PendingKillRequest} (h : KillAdded now k k') (hpk : k' = some pk)
    (hold : pk.startedAt ≠ now) : k = some pk := by
  rcases h with rfl | ⟨-, pk', hpk', hstart⟩
  · exact hpk
  · obtain rfl : pk' = pk := Option.some.inj (hpk'.symm.trans hpk)
    exact absurd hstart hold

namespace DaemonRunMonitor

/-- The tick kills the session at the kill gate. -/
def ExecutesKill (probes : Probes) (m : DaemonRunMonitor) (w : Surroundings) : Prop :=
  m.PastPane probes w ∧ ∃ g outcome, (m.seen probes w).upToGate probes w = .ok g ∧
    g.evaluateKillGate w = .error outcome

/-- The artifact directory of an arc. -/
def arcArtifactDir (repoDir : PathBuf) (arcId : String) : PathBuf :=
  ((repoDir.join "tmp").join "arc").join arcId

/-- The tick scans for artifacts. -/
def scansArtifacts (probes : Probes) (m : DaemonRunMonitor) (w : Surroundings) : Bool :=
  !m.promptAccepted probes w &&
    decide (m.watchdog.artifactScanIntervalSecs ≤ elapsedSecs w.now m.lastArtifactScan)

/-- The fields by which two loop states are told apart. -/
def loopStateChanged (m : DaemonRunMonitor) (state : ArcLoopState) : Bool :=
  m.prevLoopState.all fun prev =>
    decide (prev.iteration ≠ state.iteration ∨ prev.sessionId ≠ state.sessionId ∨
      prev.checkpointPath ≠ state.checkpointPath)

/-- The tick records the sign. -/
def Records (probes : Probes) (m : DaemonRunMonitor) (w : Surroundings) : WorkSign → Prop
  | .pane => ∃ content, w.pane = some content ∧ probes.hashStr content ≠ m.lastPaneHash
  | .checkpoint =>
    m.promptAccepted probes w = false ∧ (m.resolvedCheckpoint probes w).isSome = true
  | .artifacts => m.scansArtifacts probes w = true ∧
    ∃ cpPath snapshot, m.cachedCheckpointPath = some cpPath ∧ w.files.pathExists cpPath = true ∧
      (PathBuf.parent cpPath).bind w.scanArtifactDir = some snapshot ∧
      m.lastArtifactSnapshot ≠ some snapshot
  | .loopState => m.promptAccepted probes w = false ∧
    ∃ state, readArcLoopState w.files m.repoDir = .active state ∧ m.loopStateChanged state = true
  | .swarm => m.promptAccepted probes w = false ∧ m.checkSwarmActive w = true
  | .offline => m.promptAccepted probes w = false ∧ w.online = false

section
variable (probes : Probes) (w : Nat → Surroundings) (m : Nat → DaemonRunMonitor)

/-- The last pane text before the tick. -/
def lastPane : Nat → Option String
  | 0 => none
  | k + 1 => (w k).pane.or (lastPane k)

/-- The last active loop state before the tick. -/
def lastLoopState : Nat → Option ArcLoopState
  | 0 => none
  | k + 1 =>
    match readArcLoopState (w k).files (m k).repoDir with
    | .active state => some state
    | _ => lastLoopState k

/-- The last sample of the arc's artifacts before the tick: they are sampled when the monitor
scans. -/
def lastArtifacts (arcId : String) : Nat → Option ArtifactSnapshot
  | 0 => none
  | k + 1 =>
    if (m k).scansArtifacts probes (w k) then
      ((w k).scanArtifactDir (arcArtifactDir (m k).repoDir arcId)).or (lastArtifacts arcId k)
    else lastArtifacts arcId k

/-- The sign shows at the tick, for a run of the given arc and process. -/
def Shows (arcId : String) (pid : UInt32) (k : Nat) : WorkSign → Prop
  | .pane => ∃ old new, lastPane w k = some old ∧ (w k).pane = some new ∧ new ≠ old
  | .checkpoint => ∃ j cpPath text, k = j + 1 ∧
    CheckpointAt (w k).files (m k).repoDir (m k).cachedCheckpointPath cpPath ∧
      (w k).files.readToString cpPath = some text ∧
      (w j).files.readToString cpPath ≠ some text
  | .artifacts => (m k).scansArtifacts probes (w k) = true ∧
    ∃ old new, lastArtifacts probes w m arcId k = some old ∧
      (w k).scanArtifactDir (arcArtifactDir (m k).repoDir arcId) = some new ∧ new ≠ old
  | .loopState => ∃ old new, lastLoopState w m k = some old ∧
    readArcLoopState (w k).files (m k).repoDir = .active new ∧ old.differs new = true
  | .swarm => (w k).swarm pid = true
  | .offline => (w k).online = false

/-- The tick `k` is in the recovery window before the tick `n`. -/
def InWindow (n k : Nat) : Prop :=
  k ≤ n ∧ elapsedSecs (w n).now (w k).now < KILL_GATE_RECOVERY_WINDOW_SECS

end

/-! ## What a kill at the gate tells -/

section
variable {probes : Probes} {g m m' : DaemonRunMonitor} {w : Surroundings}
  {pk : PendingKillRequest}

theorem evaluateKillGate_error {outcome : DaemonRunOutcome}
    (h : g.evaluateKillGate w = .error outcome) :
    ∃ pk, g.pendingKill = some pk ∧ KILL_GATE_MIN_SECS ≤ elapsedSecs w.now pk.startedAt ∧
      g.hasRecovery w = false := by
  rw [evaluateKillGate] at h
  split at h
  · cases h
  · next pk hpk =>
    dsimp only at h
    split at h
    · cases h
    · next hnot =>
      split at h
      · next hdue =>
        refine ⟨pk, hpk, hdue, ?_⟩
        have hlate : 10 < elapsedSecs w.now pk.startedAt := Nat.lt_of_lt_of_le (by decide) hdue
        simpa [hlate] using hnot
      · split at h
        · cases h
        · cases h

theorem pendingKill_of_gate (h : g.evaluateKillGate w = .ok m') (hpk : m'.pendingKill = some pk) :
    ∃ pk', g.pendingKill = some pk' ∧ pk'.startedAt = pk.startedAt := by
  rw [evaluateKillGate] at h
  split at h
  · next hnone =>
    cases h
    rw [hnone] at hpk
    cases hpk
  · next pk' hpk' =>
    dsimp only at h
    refine ⟨pk', hpk', ?_⟩
    split at h
    · cases h
      cases hpk
    · split at h
      · cases h
      · split at h
        · cases h
          cases hpk
          rfl
        · cases h
          obtain rfl : pk' = pk := Option.some.inj (hpk'.symm.trans hpk)
          rfl

theorem pendingKill_before_gate (hg : (m.seen probes w).upToGate probes w = .ok g)
    (hpk : g.pendingKill = some pk) (hold : pk.startedAt ≠ w.now) : m.pendingKill = some pk := by
  obtain ⟨_, _, _, _, _, _, _, _, hseen, -, hadded⟩ := m.seen_spec probes w
  have hgate := upToGate_killAdded hg
  rw [hseen] at hgate
  exact KillAdded.pending_before (hadded.trans hgate) hpk hold

theorem pendingKill_before_tick (h : m.tick probes w = .ok m') (hpk : m'.pendingKill = some pk)
    (hold : pk.startedAt ≠ w.now) :
    ∃ pk', m.pendingKill = some pk' ∧ pk'.startedAt = pk.startedAt := by
  rcases tick_ok h with ⟨hpast, -⟩ | ⟨-, rfl⟩
  · obtain ⟨g, hg, hgate⟩ := tick_gated h hpast.noPrompt
    obtain ⟨pk', hpk', hstart⟩ := pendingKill_of_gate hgate hpk
    exact ⟨pk', pendingKill_before_gate hg hpk' (hstart ▸ hold), hstart⟩
  · obtain ⟨_, _, _, _, _, _, _, _, hseen, -, hadded⟩ := m.seen_spec probes w
    rw [hseen] at hpk
    exact ⟨pk, KillAdded.pending_before hadded hpk hold, rfl⟩

end

section
variable {probes : Probes} {w : Nat → Surroundings} {m : Nat → DaemonRunMonitor} {n k : Nat}

theorem InWindow.succ (hrun : MonitorRun probes w m n) (h : InWindow w n k) (hk : k < n) :
    InWindow w n (k + 1) :=
  ⟨hk, Nat.lt_of_le_of_lt (elapsedSecs_anti (hrun.now_le (Nat.le_succ k))) h.2⟩

/-- A kill that is due was asked for long before the window. -/
theorem InWindow.asked_before (h : InWindow w n k) {t : Int}
    (hdue : KILL_GATE_MIN_SECS ≤ elapsedSecs (w n).now t) :
    t ≠ (w k).now ∧ 10 < elapsedSecs (w k).now t := by
  have hwindow := h.2
  rw [elapsedSecs, asSecs, durationSince] at hdue hwindow
  rw [elapsedSecs, asSecs, durationSince]
  rw [KILL_GATE_MIN_SECS] at hdue
  rw [KILL_GATE_RECOVERY_WINDOW_SECS] at hwindow
  omega

/-- The kill was pending all through the window. -/
theorem MonitorRun.pending_in_window (hrun : MonitorRun probes w m n)
    (hkill : (m n).ExecutesKill probes (w n)) (hk : InWindow w n k) :
    ∃ pk, (m k).pendingKill = some pk ∧
      KILL_GATE_MIN_SECS ≤ elapsedSecs (w n).now pk.startedAt := by
  obtain ⟨d, hd⟩ := Nat.exists_eq_add_of_le hk.1
  induction d generalizing k with
  | zero =>
    obtain rfl : n = k := hd
    obtain ⟨-, g, outcome, hg, hgate⟩ := hkill
    obtain ⟨pk, hpk, hdue, -⟩ := evaluateKillGate_error hgate
    exact ⟨pk, pendingKill_before_gate hg hpk (hk.asked_before hdue).1, hdue⟩
  | succ d ih =>
    have hlt : k < n := by omega
    obtain ⟨pk, hpk, hdue⟩ := ih (hk.succ hrun hlt) (by omega)
    obtain ⟨pk', hpk', hstart⟩ :=
      pendingKill_before_tick (hrun.ticks k hlt) hpk (hk.asked_before hdue).1
    exact ⟨pk', hpk', hstart ▸ hdue⟩

/-- At no gate in the window there was a sign of recovery. -/
theorem MonitorRun.noRecovery_in_window (hrun : MonitorRun probes w m n)
    (hkill : (m n).ExecutesKill probes (w n)) (hk : InWindow w n k)
    (hprompt : (m k).promptAccepted probes (w k) = false) :
    ∃ g, Gated probes ((m k).seen probes (w k)) (w k) g ∧ g.hasRecovery (w k) = false := by
  rcases Nat.eq_or_lt_of_le hk.1 with rfl | hlt
  · obtain ⟨-, g, outcome, hg, hgate⟩ := hkill
    obtain ⟨-, -, -, hquiet⟩ := evaluateKillGate_error hgate
    exact ⟨g, upToGate_ok hg, hquiet⟩
  · obtain ⟨g, hg, hgate⟩ := tick_gated (hrun.ticks k hlt) hprompt
    refine ⟨g, upToGate_ok hg, ?_⟩
    by_contra hrecovery
    rw [Bool.not_eq_false] at hrecovery
    obtain ⟨pk, hpk, hdue⟩ := hrun.pending_in_window hkill hk
    -- the gate would have called the kill off
    have hcalledOff := evaluateKillGate_of_recovery (pendingKill_gate hpk hg) hrecovery
      (hk.asked_before hdue).2
    have hnone := Except.ok.inj (hgate.symm.trans hcalledOff)
    obtain ⟨pk', hpk', -⟩ := hrun.pending_in_window hkill (hk.succ hrun hlt)
    rw [hnone] at hpk'
    cases hpk'

theorem hasRecovery_eq_false {g : DaemonRunMonitor} {w : Surroundings}
    (h : g.hasRecovery w = false) :
    (g.lastActivity ≠ w.now ∧ g.lastCheckpointActivity ≠ w.now ∧
        g.lastArtifactActivity ≠ w.now ∧ g.lastLoopStateChange ≠ w.now) ∧
      g.checkSwarmActive w = false ∧ w.online = true := by
  have hnow : ∀ t : Int, ¬ elapsedSecs w.now t < KILL_GATE_RECOVERY_WINDOW_SECS → t ≠ w.now := by
    rintro t hold rfl
    rw [elapsedSecs_self] at hold
    exact hold (by decide)
  simp only [hasRecovery, Bool.or_eq_false_iff, decide_eq_false_iff_not, Bool.not_eq_false'] at h
  obtain ⟨⟨⟨⟨⟨hactivity, hcheckpoint⟩, hartifact⟩, hloop⟩, hswarm⟩, honline⟩ := h
  exact ⟨⟨hnow _ hactivity, hnow _ hcheckpoint, hnow _ hartifact, hnow _ hloop⟩, hswarm, honline⟩

/-- A change of the pane is activity, also at a tick that answers a prompt. -/
theorem AfterTick.lastActivity_of_pane {x m : DaemonRunMonitor} {w : Surroundings}
    (h : AfterTick probes m w x) (hpane : m.Records probes w .pane) : x.lastActivity = w.now := by
  obtain ⟨content, hcontent, hhash⟩ := hpane
  rcases h.lastActivity with hseen | hnow
  · rw [hseen, seenActivity, paneActivity, hcontent]
    exact if_neg hhash
  · exact hnow

theorem MonitorRun.not_records_pane (hrun : MonitorRun probes w m n)
    (hkill : (m n).ExecutesKill probes (w n)) (hk : InWindow w n k) :
    ¬ (m k).Records probes (w k) .pane := by
  intro hpane
  obtain ⟨hpast, g, outcome, hg, hgate⟩ := hkill
  obtain ⟨-, -, -, hquiet⟩ := evaluateKillGate_error hgate
  have hafter := afterTick_gate hpast hg
  have hle : ((w k).now : Int) ≤ g.lastActivity := by
    rcases Nat.eq_or_lt_of_le hk.1 with rfl | hlt
    · exact Int.le_of_eq (hafter.lastActivity_of_pane hpane).symm
    · rcases hafter.lastActivity_cases with hkept | hnow
      · rw [hkept]
        have hnoted := (hrun.afterTick hlt).lastActivity_of_pane hpane
        exact hrun.lastActivity_mono (hrun.now_le (Nat.le_succ k)) (Int.le_of_eq hnoted.symm) hlt
          (Nat.le_refl n)
      · rw [hnow]
        exact hrun.now_le hk.1
  have hrecent : elapsedSecs (w n).now g.lastActivity < KILL_GATE_RECOVERY_WINDOW_SECS :=
    Nat.lt_of_le_of_lt (elapsedSecs_anti hle) hk.2
  simp [hasRecovery, hrecent] at hquiet

end

section
variable {probes : Probes} {g m : DaemonRunMonitor} {w : Surroundings}

theorem Gated.lastCheckpointActivity_of_records (hg : Gated probes (m.seen probes w) w g)
    (h : m.Records probes w .checkpoint) : g.lastCheckpointActivity = w.now := by
  rw [hg.lastCheckpointActivity, resolvedCheckpoint_seen, if_pos h.2]

/-- The scan looks beside the checkpoint in the slot, unless another one is found. -/
theorem Gated.cached_of_exists (hg : Gated probes (m.seen probes w) w g) {cpPath : PathBuf}
    (hslot : m.cachedCheckpointPath = some cpPath) (hexists : w.files.pathExists cpPath = true) :
    g.cachedCheckpointPath = some cpPath := by
  have hread : (readCachedCheckpoint probes.serde w.files (m.seen probes w).repoDir
      (m.seen probes w).cachedCheckpointPath).2 = some cpPath := by
    rw [readCachedCheckpoint_seen, hslot, readCachedCheckpoint, if_pos hexists]
    split
    · rfl
    · rfl
  rcases hg.cached with ⟨hkept, -⟩ | hfound
  · obtain ⟨_, _, _, _, _, _, _, _, hseen, -, -⟩ := m.seen_spec probes w
    rw [hkept, hseen, ← hslot]
  · rw [hfound, hread]

theorem Gated.lastArtifactActivity_of_records (hg : Gated probes (m.seen probes w) w g)
    (h : m.Records probes w .artifacts) : g.lastArtifactActivity = w.now := by
  obtain ⟨hscans, cpPath, snapshot, hslot, hexists, hsnapshot, hchanged⟩ := h
  have hdue : m.watchdog.artifactScanIntervalSecs ≤ elapsedSecs w.now m.lastArtifactScan := by
    rw [scansArtifacts, Bool.and_eq_true, decide_eq_true_eq] at hscans
    exact hscans.2
  obtain ⟨_, _, _, _, _, _, _, _, hseen, -, -⟩ := m.seen_spec probes w
  rw [hg.lastArtifactActivity, hg.cached_of_exists hslot hexists, hseen, scanArtifacts]
  dsimp only
  rw [if_neg (Nat.not_lt.mpr hdue), Option.bind_some, hsnapshot]
  exact if_neg hchanged

theorem Gated.lastLoopStateChange_of_records (hg : Gated probes (m.seen probes w) w g)
    (h : m.Records probes w .loopState) : g.lastLoopStateChange = w.now := by
  obtain ⟨-, state, hstate, hchanged⟩ := h
  obtain ⟨_, _, _, _, _, _, _, _, hseen, -, -⟩ := m.seen_spec probes w
  rw [hg.lastLoopStateChange, hseen, loopPolled]
  dsimp only
  rw [hstate]
  dsimp only [loopStateActive]
  rw [loopStateChanged] at hchanged
  cases hprev : m.prevLoopState with
  | none => rfl
  | some prev =>
    rw [hprev] at hchanged
    exact if_pos hchanged

/-- A sign that is recorded past the pane is taken for recovery by the gate. -/
theorem Gated.hasRecovery_of_records (hg : Gated probes (m.seen probes w) w g) {sign : WorkSign}
    (hpane : sign ≠ .pane) (h : m.Records probes w sign) : g.hasRecovery w = true := by
  by_contra hquiet
  rw [Bool.not_eq_true] at hquiet
  obtain ⟨⟨-, hcheckpoint, hartifact, hloop⟩, hswarm, honline⟩ := hasRecovery_eq_false hquiet
  cases sign with
  | pane => exact hpane rfl
  | checkpoint => exact hcheckpoint (hg.lastCheckpointActivity_of_records h)
  | artifacts => exact hartifact (hg.lastArtifactActivity_of_records h)
  | loopState => exact hloop (hg.lastLoopStateChange_of_records h)
  | swarm =>
    obtain ⟨_, _, _, _, _, _, _, _, hseen, -, -⟩ := m.seen_spec probes w
    have hactive := h.2
    rw [checkSwarmActive, hg.claudePid, hseen] at hswarm
    rw [checkSwarmActive, hswarm] at hactive
    cases hactive
  | offline =>
    rw [h.2] at honline
    cases honline

/-- Past the pane only. -/
theorem Records.noPrompt {sign : WorkSign} (hpane : sign ≠ .pane) (h : m.Records probes w sign) :
    m.promptAccepted probes w = false := by
  cases sign with
  | pane => exact absurd rfl hpane
  | checkpoint => exact h.1
  | artifacts =>
    have hscans := h.1
    rw [scansArtifacts, Bool.and_eq_true, Bool.not_eq_true'] at hscans
    exact hscans.1
  | loopState => exact h.1
  | swarm => exact h.1
  | offline => exact h.1

end

section
variable {probes : Probes} {w : Nat → Surroundings} {m : Nat → DaemonRunMonitor} {n k : Nat}

/-- The monitor keeps the hash of the last pane text. -/
theorem MonitorRun.lastPaneHash_eq (hrun : MonitorRun probes w m n) {old : String} (hk : k ≤ n)
    (hold : lastPane w k = some old) : (m k).lastPaneHash = probes.hashStr old := by
  induction k with
  | zero => cases hold
  | succ k ih =>
    have hnoted : (m (k + 1)).lastPaneHash = ((m k).seenActivity probes (w k)).1 := by
      obtain ⟨_, _, _, _, _, _, _, _, hseen, -, -⟩ := (m k).seen_spec probes (w k)
      rcases hrun.afterTick hk with ⟨-, hx⟩ | ⟨-, hx⟩
      · rw [hx, hseen]
      · rw [hx.lastPaneHash, hseen]
    rw [hnoted, seenActivity, paneActivity]
    rw [lastPane] at hold
    cases hpane : (w k).pane with
    | none =>
      rw [hpane, Option.none_or] at hold
      exact ih (Nat.le_of_lt hk) hold
    | some content =>
      rw [hpane, Option.some_or] at hold
      cases hold
      rfl

/-- A change of the pane is recorded unless the hashes of the two texts are the same. -/
theorem MonitorRun.records_pane (hrun : MonitorRun probes w m n) (hk : k ≤ n) {arcId : String}
    {pid : UInt32} (hhash : Function.Injective probes.hashStr)
    (h : Shows probes w m arcId pid k .pane) : (m k).Records probes (w k) .pane := by
  obtain ⟨old, new, hold, hnew, hne⟩ := h
  refine ⟨new, hnew, ?_⟩
  rw [hrun.lastPaneHash_eq hk hold]
  exact hhash.ne hne

/-- No tick in the window before a kill has recorded a sign of work. -/
theorem MonitorRun.not_records (hrun : MonitorRun probes w m n)
    (hkill : (m n).ExecutesKill probes (w n)) (hk : InWindow w n k) (sign : WorkSign) :
    ¬ (m k).Records probes (w k) sign := by
  by_cases hpane : sign = .pane
  · rw [hpane]
    exact hrun.not_records_pane hkill hk
  · intro hrecords
    obtain ⟨g, hg, hquiet⟩ :=
      hrun.noRecovery_in_window hkill hk (Records.noPrompt hpane hrecords)
    rw [hg.hasRecovery_of_records hpane hrecords] at hquiet
    cases hquiet

end

end DaemonRunMonitor

open DaemonRunMonitor

/-- In the window before a kill at the gate no sign of work shows, if and only if every tick of it
that shows one records one. -/
theorem kill_without_sign_iff_recorded {probes : Probes} {w : Nat → Surroundings}
    {m : Nat → DaemonRunMonitor} {n : Nat} (arcId : String) (pid : UInt32)
    (hrun : MonitorRun probes w m n) (hkill : (m n).ExecutesKill probes (w n)) :
    (∀ k, InWindow w n k → ∀ sign, ¬ Shows probes w m arcId pid k sign) ↔
      ∀ k, InWindow w n k → (∃ sign, Shows probes w m arcId pid k sign) →
        ∃ sign, (m k).Records probes (w k) sign := by
  constructor
  · rintro hnone k hk ⟨sign, hshows⟩
    exact absurd hshows (hnone k hk sign)
  · intro hrecorded k hk sign hshows
    obtain ⟨sign', hrecords⟩ := hrecorded k hk ⟨sign, hshows⟩
    exact hrun.not_records hkill hk sign' hrecords

/-! A session whose checkpoint cannot be read any more. It goes on writing artifacts. -/

private def silentText : String :=
  "\x7b\"id\":\"arc-3\",\"plan_file\":\"plans/c.md\",\"phases\":\x7b" ++
    "\"forge\":\x7b\"status\":\"in_progress\"\x7d,\"work\":\x7b\"status\":\"pending\"\x7d\x7d\x7d"

private def silentProbes : Probes where
  serde :=
    { fromStr := fun text =>
        if text = silentText then
          some (.object [
            ("id", .string "arc-3"),
            ("plan_file", .string "plans/c.md"),
            ("phases", .object [
              ("forge", .object [("status", .string "in_progress")]),
              ("work", .object [("status", .string "pending")])])])
        else none
      toPretty := fun _ => ""
      display := fun _ => "" }
  hashStr _ := 0
  toLowercase := id
  paneErrorClass _ := none
  parseRfc3339 _ := none

private def silentFiles (n : Nat) : Files := Dict.ofList [
  ("/repo/.rune/arc-phase-loop.local.md", some
    ("---\nactive: true\ncheckpoint_path: .rune/arc/arc-3/checkpoint.json\n" ++
      "plan_file: plans/c.md\n---\n")),
  ("/repo/.rune/arc/arc-3/checkpoint.json", some (if n = 0 then silentText else ""))]

/-- The ticks are at 0 s, at 700 s and then every 300 s. -/
private def silentWorld (n : Nat) : Surroundings where
  now := if n = 0 then 0 else fromSecs (400 + 300 * n)
  utcNow := 0
  files := silentFiles n
  permissionPending := false
  probe := .present
  pane := none
  enterSent := false
  pidAlive _ := true
  swarm _ := false
  online := true
  scanArtifactDir dir :=
    if dir = "/repo/tmp/arc/arc-3" then some { fileCount := n, totalBytes := 100 * n }
    else if dir = "/repo/.rune/arc/arc-3" then some { fileCount := 1, totalBytes := 100 }
    else none

private def silentMonitor : Nat → DaemonRunMonitor
  | 0 => .new "/repo" none 0 (.fromEnv fun _ => none) 0 0
  | n + 1 =>
    ((silentMonitor n).tick silentProbes (silentWorld n)).toOption.getD (silentMonitor n)

private theorem silent_tick {n : Nat}
    (h : ((silentMonitor n).tick silentProbes (silentWorld n)).toOption.isSome = true) :
    (silentMonitor n).tick silentProbes (silentWorld n) = .ok (silentMonitor (n + 1)) := by
  rw [silentMonitor]
  exact Except.eq_ok_getD h _

/-- What the ticks compute, evaluated once: both go on, the scans are due, and the gate of the third
tick kills. -/
private theorem silent_ticks :
    ((silentMonitor 0).tick silentProbes (silentWorld 0)).toOption.isSome = true ∧
      ((silentMonitor 1).tick silentProbes (silentWorld 1)).toOption.isSome = true ∧
      (silentMonitor 1).scansArtifacts silentProbes (silentWorld 1) = true ∧
      (silentMonitor 2).scansArtifacts silentProbes (silentWorld 2) = true ∧
      (silentMonitor 1).repoDir = "/repo" ∧ (silentMonitor 2).repoDir = "/repo" ∧
      durationSince (silentWorld 2).now (silentMonitor 2).runStartedAt <
        fromSecs (silentMonitor 2).watchdog.pipelineTimeoutSecs ∧
      (((silentMonitor 2).seen silentProbes (silentWorld 2)).upToGate silentProbes
        (silentWorld 2)).toOption.any
          (fun g => (g.evaluateKillGate (silentWorld 2)).toOption.isNone) = true := by
  decide +kernel

private theorem silent_run : MonitorRun silentProbes silentWorld silentMonitor 2 where
  starts := ⟨"/repo", none, 0, .fromEnv fun _ => none, 0, 0, rfl, Nat.zero_le _⟩
  ticks k hk := by
    apply silent_tick
    match k, hk with
    | 0, _ => exact silent_ticks.1
    | 1, _ => exact silent_ticks.2.1
  clock := by
    intro j k hjk
    dsimp only [silentWorld]
    split
    · exact Nat.zero_le _
    · rw [if_neg (by omega)]
      apply Nat.mul_le_mul_right
      omega

private theorem silent_killed :
    (silentMonitor 2).ExecutesKill silentProbes (silentWorld 2) := by
  obtain ⟨-, -, -, -, -, -, hbudget, hgate⟩ := silent_ticks
  refine ⟨⟨hbudget, rfl, rfl⟩, ?_⟩
  obtain ⟨g, hg, hnone⟩ := (Option.any_eq_true ..).mp hgate
  cases hup : ((silentMonitor 2).seen silentProbes (silentWorld 2)).upToGate silentProbes
      (silentWorld 2) with
  | error outcome =>
    rw [hup] at hg
    cases hg
  | ok g' =>
    rw [hup] at hg
    obtain rfl : g' = g := Option.some.inj hg
    cases hgate : g'.evaluateKillGate (silentWorld 2) with
    | error outcome => exact ⟨g', outcome, rfl, hgate⟩
    | ok m' =>
      rw [hgate] at hnone
      cases hnone

private theorem silent_shows :
    Shows silentProbes silentWorld silentMonitor "arc-3" 0 2 .artifacts := by
  obtain ⟨-, -, hscan, hscan', hdir, hdir', -, -⟩ := silent_ticks
  refine ⟨hscan', { fileCount := 1, totalBytes := 100 }, { fileCount := 2, totalBytes := 200 },
    ?_, ?_, by decide⟩
  · rw [lastArtifacts, if_pos hscan, hdir]
    rfl
  · rw [hdir']
    rfl

/-- The window before the kill of that session. -/
theorem silent_kill_without_sign_iff :
    (∀ k, InWindow silentWorld 2 k → ∀ sign,
        ¬ Shows silentProbes silentWorld silentMonitor "arc-3" 0 k sign) ↔
      ∀ k, InWindow silentWorld 2 k →
        (∃ sign, Shows silentProbes silentWorld silentMonitor "arc-3" 0 k sign) →
        ∃ sign, (silentMonitor k).Records silentProbes (silentWorld k) sign :=
  kill_without_sign_iff_recorded "arc-3" 0 silent_run silent_killed

/-- A session is killed while files are added to its artifact directory. -/
theorem working_session_killed :
    ¬ ∀ (probes : Probes) (w : Nat → Surroundings) (m : Nat → DaemonRunMonitor) (n : Nat)
      (arcId : String) (pid : UInt32), MonitorRun probes w m n →
      (m n).ExecutesKill probes (w n) →
      ∀ k, InWindow w n k → ∀ sign, ¬ Shows probes w m arcId pid k sign := by
  intro hclaim
  have hwindow : InWindow silentWorld 2 2 := by
    refine ⟨Nat.le_refl 2, ?_⟩
    rw [elapsedSecs_self]
    decide
  exact hclaim silentProbes silentWorld silentMonitor 2 "arc-3" 0 silent_run silent_killed 2
    hwindow .artifacts silent_shows

end GreaterWill
