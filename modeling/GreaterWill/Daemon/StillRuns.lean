import GreaterWill.Daemon.RunMonitorSpec
import Mathlib.Logic.Basic
import Mathlib.Order.Monotone.Basic

/-!
# Runs in which nothing changes any more

What the monitor's clocks of activity do while the surroundings stay as they are. A tick at which
the monitor takes in the pane and the loop state leaves it caught up with them (`CaughtUp`); from
then on only a pending permission counts as activity, and, once the artifacts have been scanned
(`Scanned`), they do not count either. The checkpoint stays what it is, found or not.
-/

namespace GreaterWill

theorem elapsedSecs_anti {now : Nat} {s t : Int} (h : s ≤ t) :
    elapsedSecs now t ≤ elapsedSecs now s := by
  apply Nat.div_le_div_right
  rw [durationSince, durationSince]
  omega

namespace DaemonRunMonitor
variable {probes : Probes} {m x : DaemonRunMonitor} {w W : Surroundings}

/-! ## The clocks of activity -/

/-- No clock of activity is later than `t`. -/
structure StampsBy (t : Int) (m : DaemonRunMonitor) : Prop where
  lastActivity : m.lastActivity ≤ t
  lastCheckpointActivity : m.lastCheckpointActivity ≤ t
  lastLoopStateChange : m.lastLoopStateChange ≤ t
  lastArtifactScan : m.lastArtifactScan ≤ t
  lastArtifactActivity : m.lastArtifactActivity ≤ t

theorem StampsBy.mono {t t' : Int} (h : m.StampsBy t) (ht : t ≤ t') : m.StampsBy t' where
  lastActivity := Int.le_trans h.lastActivity ht
  lastCheckpointActivity := Int.le_trans h.lastCheckpointActivity ht
  lastLoopStateChange := Int.le_trans h.lastLoopStateChange ht
  lastArtifactScan := Int.le_trans h.lastArtifactScan ht
  lastArtifactActivity := Int.le_trans h.lastArtifactActivity ht

theorem seenActivity_cases : (m.seenActivity probes w).2 = m.lastActivity ∨
    (m.seenActivity probes w).2 = w.now := by
  rw [seenActivity, paneActivity]
  cases w.pane with
  | none =>
    dsimp only
    split
    · exact .inr rfl
    · exact .inl rfl
  | some content =>
    dsimp only
    split
    · split
      · exact .inr rfl
      · exact .inl rfl
    · exact .inr rfl

theorem loopPolled_lastActivity : (m.loopPolled w).lastActivity = m.lastActivity ∨
    (m.loopPolled w).lastActivity = w.now := by
  rw [loopPolled]
  split
  · exact (ite_eq_or_eq _ _ _).symm
  · exact .inl rfl

theorem loopPolled_lastLoopStateChange :
    (m.loopPolled w).lastLoopStateChange = m.lastLoopStateChange ∨
      (m.loopPolled w).lastLoopStateChange = w.now := by
  rw [loopPolled]
  split
  · exact (ite_eq_or_eq _ _ _).symm
  · exact .inl rfl

theorem scanArtifacts_stamps :
    ((m.scanArtifacts w).lastArtifactScan = m.lastArtifactScan ∨
        (m.scanArtifacts w).lastArtifactScan = w.now) ∧
      ((m.scanArtifacts w).lastArtifactActivity = m.lastArtifactActivity ∨
        (m.scanArtifacts w).lastArtifactActivity = w.now) := by
  rw [scanArtifacts]
  split
  · exact ⟨.inl rfl, .inl rfl⟩
  · dsimp only
    split
    · exact ⟨.inr rfl, .inl rfl⟩
    · refine ⟨.inr rfl, ?_⟩
      exact ite_eq_or_eq _ _ _

namespace AfterTick

theorem lastActivity (h : AfterTick probes m w x) :
    x.lastActivity = (m.seenActivity probes w).2 ∨ x.lastActivity = w.now := by
  obtain ⟨_, _, _, _, _, _, _, _, hseen, -, -⟩ := m.seen_spec probes w
  rcases h with ⟨-, rfl⟩ | ⟨-, hx⟩
  · exact .inl (by rw [hseen])
  · rw [hx.lastActivity]
    rcases (m.seen probes w).loopPolled_lastActivity with hkept | hnow
    · exact .inl (hkept.trans (by rw [hseen]))
    · exact .inr hnow

/-- The activity never goes back. -/
theorem lastActivity_cases (h : AfterTick probes m w x) :
    x.lastActivity = m.lastActivity ∨ x.lastActivity = w.now := by
  rcases h.lastActivity with hseen | hnow
  · rw [hseen]
    exact seenActivity_cases
  · exact .inr hnow

theorem stampsBy (h : AfterTick probes m w x) (hm : m.StampsBy w.now) : x.StampsBy w.now := by
  obtain ⟨_, _, _, _, _, _, _, _, hseen, -, -⟩ := m.seen_spec probes w
  have hactivity : x.lastActivity ≤ w.now := by
    rcases h.lastActivity_cases with hkept | hnow
    · rw [hkept]
      exact hm.lastActivity
    · exact Int.le_of_eq hnow
  rcases h with ⟨-, rfl⟩ | ⟨-, hx⟩
  · refine ⟨hactivity, ?_, ?_, ?_, ?_⟩
    · rw [hseen]
      exact hm.lastCheckpointActivity
    · rw [hseen]
      exact hm.lastLoopStateChange
    · rw [hseen]
      exact hm.lastArtifactScan
    · rw [hseen]
      exact hm.lastArtifactActivity
  · obtain ⟨hscan, hartifact⟩ := scanArtifacts_stamps
      (m := { m.seen probes w with cachedCheckpointPath := x.cachedCheckpointPath }) (w := w)
    refine ⟨hactivity, ?_, ?_, ?_, ?_⟩
    · rw [hx.lastCheckpointActivity]
      split
      · exact Int.le_refl _
      · rw [hseen]
        exact hm.lastCheckpointActivity
    · rw [hx.lastLoopStateChange]
      rcases (m.seen probes w).loopPolled_lastLoopStateChange with hkept | hnow
      · rw [hkept, hseen]
        exact hm.lastLoopStateChange
      · exact Int.le_of_eq hnow
    · rw [hx.lastArtifactScan]
      rcases hscan with hkept | hnow
      · rw [hkept, hseen]
        exact hm.lastArtifactScan
      · exact Int.le_of_eq hnow
    · rw [hx.lastArtifactActivity]
      rcases hartifact with hkept | hnow
      · rw [hkept, hseen]
        exact hm.lastArtifactActivity
      · exact Int.le_of_eq hnow

end AfterTick

/-! ## Surroundings that stay as they are -/

/-- `w` is as `W` in all that the monitor goes by: the pane, the loop state file, the files a
checkpoint may be in, and the artifacts beside them. The network is up, and no swarm is active. -/
structure Unchanged (m : DaemonRunMonitor) (W w : Surroundings) : Prop where
  pane : w.pane = W.pane
  loopState : w.files.lookup (loopStateFile m.repoDir) = W.files.lookup (loopStateFile m.repoDir)
  checkpoint : ∀ p, CheckpointAt W.files m.repoDir m.cachedCheckpointPath p →
    w.files.lookup p = W.files.lookup p
  artifacts : ∀ p, CheckpointAt W.files m.repoDir m.cachedCheckpointPath p →
    (PathBuf.parent p).bind w.scanArtifactDir = (PathBuf.parent p).bind W.scanArtifactDir
  noSwarm : m.checkSwarmActive w = false
  online : w.online = true

namespace Unchanged

theorem readCached (h : m.Unchanged W w) :
    readCachedCheckpoint probes.serde w.files m.repoDir m.cachedCheckpointPath =
      readCachedCheckpoint probes.serde W.files m.repoDir m.cachedCheckpointPath :=
  readCachedCheckpoint_congr h.loopState h.checkpoint

theorem resolved (h : m.Unchanged W w) :
    m.resolvedCheckpoint probes w = m.resolvedCheckpoint probes W :=
  congrArg Prod.fst h.readCached

/-- A tick leads to no other file. -/
theorem checkpointAt_tick (h : m.Unchanged W w) (hx : AfterTick probes m w x) {p : PathBuf}
    (hp : CheckpointAt W.files x.repoDir x.cachedCheckpointPath p) :
    CheckpointAt W.files m.repoDir m.cachedCheckpointPath p := by
  rw [hx.repoDir] at hp
  rcases hx.cached with ⟨hkept, -⟩ | hfound
  · rw [hkept] at hp
    exact hp
  · rw [hfound, h.readCached] at hp
    exact checkpointAt_readCachedCheckpoint hp

/-- What is unchanged for a monitor is unchanged for it after a tick. -/
theorem tick {v : Surroundings} (hv : m.Unchanged W v) (h : m.Unchanged W w)
    (hx : AfterTick probes m w x) (hpid : x.claudePid = m.claudePid) : x.Unchanged W v where
  pane := hv.pane
  loopState := by
    rw [hx.repoDir]
    exact hv.loopState
  checkpoint p hp := hv.checkpoint p (h.checkpointAt_tick hx hp)
  artifacts p hp := hv.artifacts p (h.checkpointAt_tick hx hp)
  noSwarm := by
    rw [checkSwarmActive, hpid]
    exact hv.noSwarm
  online := hv.online

/-- A tick finds the checkpoint that is found before it. -/
theorem resolved_tick (h : m.Unchanged W w) (hx : AfterTick probes m w x) :
    x.resolvedCheckpoint probes W = m.resolvedCheckpoint probes W := by
  rw [resolvedCheckpoint, resolvedCheckpoint, hx.repoDir]
  rcases hx.cached with ⟨hkept, -⟩ | hfound
  · rw [hkept]
  · rw [hfound, h.readCached, readCachedCheckpoint_again]

end Unchanged

/-- The monitor has taken in the pane, the loop state and where the checkpoint is. -/
structure CaughtUp (probes : Probes) (W : Surroundings) (m : DaemonRunMonitor) : Prop where
  pane : ∀ content, W.pane = some content → m.lastPaneHash = probes.hashStr content
  loop : ∀ state, readArcLoopState W.files m.repoDir = .active state →
    m.prevLoopState = some state
  cached : (readCachedCheckpoint probes.serde W.files m.repoDir m.cachedCheckpointPath).2 =
      m.cachedCheckpointPath ∨
    m.resolvedCheckpoint probes W = none

theorem loopPolled_prevLoopState (state : ArcLoopState)
    (h : readArcLoopState w.files m.repoDir = .active state) :
    (m.loopPolled w).prevLoopState = some state := by
  rw [loopPolled, h]
  rfl

/-- A tick that gets past the pane catches up. -/
theorem AfterTick.caughtUp (hx : AfterTick probes m w x) (h : m.Unchanged W w)
    (hprompt : m.promptAccepted probes w = false) : x.CaughtUp probes W := by
  obtain ⟨_, _, _, _, _, _, _, _, hseen, -, -⟩ := m.seen_spec probes w
  have hcached := hx.cached
  have hresolved := h.resolved_tick hx
  have hdir := hx.repoDir
  rcases hx with ⟨haccepted, -⟩ | ⟨-, hx⟩
  · rw [hprompt] at haccepted
    cases haccepted
  refine ⟨?_, ?_, ?_⟩
  · intro content hpane
    rw [hx.lastPaneHash, hseen]
    dsimp only
    rw [seenActivity, paneActivity, h.pane, hpane]
  · intro state hstate
    rw [hx.prevLoopState]
    apply loopPolled_prevLoopState
    have hdir' : (m.seen probes w).repoDir = m.repoDir := by rw [hseen]
    rw [hdir', readArcLoopState_congr h.loopState, ← hdir]
    exact hstate
  · rcases hcached with ⟨-, haccepted | hnone⟩ | hfound
    · rw [hprompt] at haccepted
      cases haccepted
    · right
      rw [hresolved, ← h.resolved, hnone]
    · left
      rw [hdir, hfound, h.readCached, readCachedCheckpoint_again]

/-- Where the artifacts that are there now were seen. -/
def Scanned (W : Surroundings) (m : DaemonRunMonitor) : Prop :=
  ∀ snapshot, (m.cachedCheckpointPath.bind PathBuf.parent).bind W.scanArtifactDir = some snapshot →
    m.lastArtifactSnapshot = some snapshot

theorem scanArtifacts_of_scanned (h : m.Scanned w) :
    (m.scanArtifacts w).Scanned w ∧
      (m.scanArtifacts w).lastArtifactActivity = m.lastArtifactActivity := by
  rw [scanArtifacts]
  split
  · exact ⟨h, rfl⟩
  · dsimp only
    split
    · exact ⟨h, rfl⟩
    · next snapshot hscan =>
      refine ⟨?_, ?_⟩
      · intro snapshot' hscan'
        rw [← hscan', ← hscan]
      · dsimp only
        rw [h snapshot hscan, if_pos rfl]

/-- A scan that is due sees the artifacts. -/
theorem scanArtifacts_scanned : (m.scanArtifacts w).Scanned w ∨
    (m.scanArtifacts w).lastArtifactScan = m.lastArtifactScan ∧
      elapsedSecs w.now m.lastArtifactScan < m.watchdog.artifactScanIntervalSecs := by
  rw [scanArtifacts]
  split
  · next hearly => exact .inr ⟨rfl, hearly⟩
  · left
    dsimp only
    split
    · next hscan =>
      intro snapshot hscan'
      dsimp only at hscan'
      rw [hscan] at hscan'
      cases hscan'
    · next snapshot hscan =>
      intro snapshot' hscan'
      rw [← hscan', ← hscan]

theorem Unchanged.scan_tick (h : m.Unchanged W w) (hx : AfterTick probes m w x) :
    (x.cachedCheckpointPath.bind PathBuf.parent).bind w.scanArtifactDir =
      (x.cachedCheckpointPath.bind PathBuf.parent).bind W.scanArtifactDir := by
  cases hcached : x.cachedCheckpointPath with
  | none => rfl
  | some p => exact h.artifacts p (h.checkpointAt_tick hx (.inl hcached))

/-- After a tick past the pane the artifacts were seen, or the last scan is not long ago. -/
theorem AfterTick.scanned (hx : AfterTick probes m w x) (h : m.Unchanged W w) :
    x.Scanned W ∨ x.lastArtifactScan = m.lastArtifactScan ∧
      (m.promptAccepted probes w = true ∨
        elapsedSecs w.now m.lastArtifactScan < m.watchdog.artifactScanIntervalSecs) := by
  obtain ⟨_, _, _, _, _, _, _, _, hseen, -, -⟩ := m.seen_spec probes w
  have hscan := h.scan_tick hx
  rcases hx with ⟨haccepted, rfl⟩ | ⟨-, hx⟩
  · exact .inr ⟨by rw [hseen], .inl haccepted⟩
  obtain ⟨_, _, _, hspec⟩ := scanArtifacts_spec
    { m.seen probes w with cachedCheckpointPath := x.cachedCheckpointPath } w
  rcases scanArtifacts_scanned
    (m := { m.seen probes w with cachedCheckpointPath := x.cachedCheckpointPath }) (w := w) with
    hscanned | ⟨hkept, hearly⟩
  · left
    intro snapshot hsnapshot
    rw [hx.lastArtifactSnapshot]
    apply hscanned
    rw [hspec, ← hsnapshot, ← hscan]
  · right
    rw [hx.lastArtifactScan, hkept, hseen]
    rw [hseen] at hearly
    exact ⟨rfl, .inr hearly⟩

namespace CaughtUp

theorem tick (hm : m.CaughtUp probes W) (h : m.Unchanged W w) (hx : AfterTick probes m w x) :
    x.CaughtUp probes W := by
  cases hprompt : m.promptAccepted probes w with
  | false => exact hx.caughtUp h hprompt
  | true =>
    obtain ⟨_, _, _, _, _, _, _, _, hseen, -, -⟩ := m.seen_spec probes w
    rcases hx with ⟨-, rfl⟩ | ⟨hnot, -⟩
    · refine ⟨?_, ?_, ?_⟩
      · intro content hpane
        rw [hseen]
        dsimp only
        rw [seenActivity, paneActivity, h.pane, hpane]
      · rw [hseen]
        exact hm.loop
      · rw [hseen]
        exact hm.cached
    · rw [hprompt] at hnot
      cases hnot

/-- The slot for the checkpoint stays, or is emptied. -/
theorem cached_tick (hm : m.CaughtUp probes W) (h : m.Unchanged W w)
    (hx : AfterTick probes m w x) :
    x.cachedCheckpointPath = m.cachedCheckpointPath ∨ x.cachedCheckpointPath = none := by
  rcases hx.cached with ⟨hkept, -⟩ | hfound
  · exact .inl hkept
  · rw [hfound, h.readCached]
    rcases hm.cached with hfixed | hnone
    · exact .inl hfixed
    · exact readCachedCheckpoint_of_none hnone

/-- Artifacts that were seen are no activity. -/
theorem scanned_tick (hm : m.CaughtUp probes W) (h : m.Unchanged W w)
    (hx : AfterTick probes m w x) (hscanned : m.Scanned W) :
    x.Scanned W ∧ x.lastArtifactActivity = m.lastArtifactActivity := by
  obtain ⟨_, _, _, _, _, _, _, _, hseen, -, -⟩ := m.seen_spec probes w
  have hscan := h.scan_tick hx
  have hcached := hm.cached_tick h hx
  have hbefore : ∀ snapshot,
      (x.cachedCheckpointPath.bind PathBuf.parent).bind W.scanArtifactDir = some snapshot →
        m.lastArtifactSnapshot = some snapshot := by
    intro snapshot hsnapshot
    rcases hcached with hkept | hempty
    · rw [hkept] at hsnapshot
      exact hscanned snapshot hsnapshot
    · rw [hempty] at hsnapshot
      cases hsnapshot
  rcases hx with ⟨-, rfl⟩ | ⟨-, hx⟩
  · rw [hseen]
    exact ⟨hscanned, rfl⟩
  obtain ⟨_, _, _, hspec⟩ := scanArtifacts_spec
    { m.seen probes w with cachedCheckpointPath := x.cachedCheckpointPath } w
  obtain ⟨hafter, hactivity⟩ := scanArtifacts_of_scanned
    (m := { m.seen probes w with cachedCheckpointPath := x.cachedCheckpointPath }) (w := w) (by
      intro snapshot hsnapshot
      rw [hseen]
      exact hbefore snapshot (by rw [← hscan, ← hsnapshot]))
  constructor
  · intro snapshot hsnapshot
    rw [hx.lastArtifactSnapshot]
    apply hafter
    rw [hspec, ← hsnapshot, ← hscan]
  · rw [hx.lastArtifactActivity, hactivity, hseen]

end CaughtUp

end DaemonRunMonitor

end GreaterWill
