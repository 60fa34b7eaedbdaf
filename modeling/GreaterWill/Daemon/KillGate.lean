import GreaterWill.Daemon.StillRuns
import Mathlib.Data.Nat.Init

/-!
# Whether a stuck session is killed

In a run in which nothing changes any more a pending kill is to be executed when its time has come.
The kill gate takes activity of the checkpoint for recovery, and every tick that reads a checkpoint
notes such activity, changed or not: as long as the checkpoint is there, the gate calls every kill
off. A pending permission is the one thing that calls it off by intent.
-/

namespace GreaterWill

namespace DaemonRunMonitor

/-- A run of a new monitor that has not ended before the tick `n`: the surroundings of every tick,
and the monitor before it. -/
structure MonitorRun (probes : Probes) (w : Nat → Surroundings) (m : Nat → DaemonRunMonitor)
    (n : Nat) : Prop where
  starts : ∃ repoDir claudePid startedAt watchdog utcNow now,
    m 0 = .new repoDir claudePid startedAt watchdog utcNow now ∧ now ≤ (w 0).now
  ticks : ∀ k < n, (m k).tick probes (w k) = .ok (m (k + 1))
  clock : Monotone fun k => (w k).now

/-- From the tick `N` on nothing changes. -/
def Still (w : Nat → Surroundings) (m : Nat → DaemonRunMonitor) (N : Nat) : Prop :=
  ∀ n, N ≤ n → (m N).Unchanged (w N) (w n)

section
variable {probes : Probes} {w : Nat → Surroundings} {m : Nat → DaemonRunMonitor} {n N : Nat}

theorem MonitorRun.afterTick (hrun : MonitorRun probes w m n) {k : Nat} (hk : k < n) :
    AfterTick probes (m k) (w k) (m (k + 1)) :=
  afterTick_of_ok (hrun.ticks k hk)

theorem MonitorRun.now_le (hrun : MonitorRun probes w m n) {j k : Nat} (hjk : j ≤ k) :
    ((w j).now : Int) ≤ (w k).now :=
  Int.ofNat_le.mpr (hrun.clock hjk)

theorem MonitorRun.stampsBy (hrun : MonitorRun probes w m n) {k : Nat} (hk : k ≤ n) :
    (m k).StampsBy (w k).now := by
  induction k with
  | zero =>
    obtain ⟨_, _, _, _, _, now, hnew, hnow⟩ := hrun.starts
    rw [hnew]
    have hle : (now : Int) ≤ (w 0).now := Int.ofNat_le.mpr hnow
    exact ⟨hle, hle, hle, hle, hle⟩
  | succ k ih =>
    have hstamps := (hrun.afterTick hk).stampsBy (ih (Nat.le_of_lt hk))
    exact hstamps.mono (hrun.now_le (Nat.le_succ k))

/-- The clocks of activity after a tick. -/
theorem MonitorRun.stampsBy_succ (hrun : MonitorRun probes w m n) {k : Nat} (hk : k < n) :
    (m (k + 1)).StampsBy (w k).now :=
  (hrun.afterTick hk).stampsBy (hrun.stampsBy (Nat.le_of_lt hk))

/-- Activity is never forgotten. -/
theorem MonitorRun.lastActivity_mono (hrun : MonitorRun probes w m n) {t : Int} {i j : Nat}
    (ht : t ≤ (w i).now) (hactivity : t ≤ (m i).lastActivity) (hij : i ≤ j) (hj : j ≤ n) :
    t ≤ (m j).lastActivity := by
  induction j, hij using Nat.le_induction with
  | base => exact hactivity
  | succ j hij ih =>
    rcases (hrun.afterTick hj).lastActivity_cases with hkept | hnow
    · rw [hkept]
      exact ih (Nat.le_of_lt hj)
    · rw [hnow]
      exact Int.le_trans ht (hrun.now_le hij)

theorem MonitorRun.watchdog_eq (hrun : MonitorRun probes w m n) {k : Nat} (hN : N ≤ k)
    (hk : k ≤ n) : (m k).watchdog = (m N).watchdog := by
  induction k, hN using Nat.le_induction with
  | base => rfl
  | succ k hN ih => rw [(hrun.afterTick hk).watchdog, ih (Nat.le_of_lt hk)]

/-- What is unchanged for the monitor at the tick `N` is so at the later ticks. -/
theorem MonitorRun.unchanged (hrun : MonitorRun probes w m n) (hstill : Still w m N) {k : Nat}
    (hN : N ≤ k) (hk : k ≤ n) {j : Nat} (hj : N ≤ j) : (m k).Unchanged (w N) (w j) := by
  induction k, hN using Nat.le_induction generalizing j with
  | base => exact hstill j hj
  | succ k hN ih =>
    have hafter := hrun.afterTick hk
    exact (ih (Nat.le_of_lt hk) hj).tick (ih (Nat.le_of_lt hk) hN) hafter hafter.claudePid

variable {first : Nat}

theorem MonitorRun.caughtUp (hrun : MonitorRun probes w m n) (hstill : Still w m N)
    (hfirst : N ≤ first) (hprompt : (m first).promptAccepted probes (w first) = false) {k : Nat}
    (hfk : first + 1 ≤ k) (hk : k ≤ n) : (m k).CaughtUp probes (w N) := by
  induction k, hfk using Nat.le_induction with
  | base =>
    have hkn := Nat.le_of_lt hk
    exact (hrun.afterTick hk).caughtUp (hrun.unchanged hstill hfirst hkn hfirst) hprompt
  | succ k hfk ih =>
    have hkn := Nat.le_of_lt hk
    have hNk : N ≤ k := Nat.le_trans hfirst (Nat.le_of_succ_le hfk)
    exact (ih hkn).tick (hrun.unchanged hstill hNk hkn hNk) (hrun.afterTick hk)

/-- The artifacts have been seen, or the last scan is old. -/
theorem MonitorRun.scanned_or (hrun : MonitorRun probes w m n) (hstill : Still w m N)
    (hfirst : N ≤ first) (hprompt : (m first).promptAccepted probes (w first) = false) {k : Nat}
    (hfk : first + 1 ≤ k) (hk : k ≤ n) :
    (m k).Scanned (w N) ∨ (m k).lastArtifactScan ≤ (w first).now := by
  induction k, hfk using Nat.le_induction with
  | base => exact .inr (hrun.stampsBy_succ hk).lastArtifactScan
  | succ k hfk ih =>
    have hkn := Nat.le_of_lt hk
    have hNk : N ≤ k := Nat.le_trans hfirst (Nat.le_of_succ_le hfk)
    have hunchanged := hrun.unchanged hstill hNk hkn hNk
    rcases ih hkn with hscanned | hold
    · have hcaught := hrun.caughtUp hstill hfirst hprompt hfk hkn
      exact .inl (hcaught.scanned_tick hunchanged (hrun.afterTick hk) hscanned).1
    · rcases (hrun.afterTick hk).scanned hunchanged with hscanned | ⟨hkept, -⟩
      · exact .inl hscanned
      · rw [hkept]
        exact .inr hold

/-! ### After a scan of the artifacts -/

variable {second : Nat}

/-- A tick past the pane, the interval of the scans after another one, has seen the artifacts. -/
theorem MonitorRun.scanned (hrun : MonitorRun probes w m n) (hstill : Still w m N)
    (hfirst : N ≤ first) (hprompt : (m first).promptAccepted probes (w first) = false)
    (hsecond : first ≤ second) (hprompt' : (m second).promptAccepted probes (w second) = false)
    (hinterval : (m N).watchdog.artifactScanIntervalSecs ≤
      elapsedSecs (w second).now (w first).now)
    (hn : second < n) : (m (second + 1)).Scanned (w N) := by
  have hNs := Nat.le_trans hfirst hsecond
  have hunchanged := hrun.unchanged hstill hNs (Nat.le_of_lt hn) hNs
  have hafter := hrun.afterTick hn
  have hdue : (m second).lastArtifactScan ≤ (w first).now → (m (second + 1)).Scanned (w N) := by
    intro hold
    rcases hafter.scanned hunchanged with hscanned | ⟨-, haccepted | hearly⟩
    · exact hscanned
    · rw [hprompt'] at haccepted
      cases haccepted
    · rw [hrun.watchdog_eq hNs (Nat.le_of_lt hn)] at hearly
      have hlate : elapsedSecs (w second).now (w first).now ≤
          elapsedSecs (w second).now (m second).lastArtifactScan := elapsedSecs_anti hold
      omega
  rcases Nat.eq_or_lt_of_le hsecond with rfl | hlt
  · exact hdue (hrun.stampsBy (Nat.le_of_lt hn)).lastArtifactScan
  · rcases hrun.scanned_or hstill hfirst hprompt hlt (Nat.le_of_lt hn) with hscanned | hold
    · have hcaught := hrun.caughtUp hstill hfirst hprompt hlt (Nat.le_of_lt hn)
      exact (hcaught.scanned_tick hunchanged hafter hscanned).1
    · exact hdue hold

end

/-! ## The gate -/

/-- The tick `n` is late enough in a run that is still from `N` on: there was a tick past the pane,
then another one after the interval of the artifact scans, and the recovery window has passed. -/
def Settled (probes : Probes) (w : Nat → Surroundings) (m : Nat → DaemonRunMonitor)
    (N n : Nat) : Prop :=
  ∃ first second, N ≤ first ∧ first ≤ second ∧ second < n ∧
    (m first).promptAccepted probes (w first) = false ∧
    (m second).promptAccepted probes (w second) = false ∧
    (m N).watchdog.artifactScanIntervalSecs ≤ elapsedSecs (w second).now (w first).now ∧
    KILL_GATE_RECOVERY_WINDOW_SECS ≤ elapsedSecs (w n).now (w second).now

/-- Once the kill is pending for more than ten seconds, there is no checkpoint to be read, and no
permission was pending in the recovery window. -/
def Undisturbed (probes : Probes) (w : Nat → Surroundings) (m : Nat → DaemonRunMonitor) (n : Nat)
    (pk : PendingKillRequest) : Prop :=
  10 < elapsedSecs (w n).now pk.startedAt →
    (m n).resolvedCheckpoint probes (w n) = none ∧
      ∀ k ≤ n, (w k).permissionPending = true →
        KILL_GATE_RECOVERY_WINDOW_SECS ≤ elapsedSecs (w n).now (w k).now

section
variable {probes : Probes} {g m : DaemonRunMonitor} {w : Surroundings} {pk : PendingKillRequest}

theorem pendingKill_seen (h : m.pendingKill = some pk) :
    (m.seen probes w).pendingKill = some pk := by
  obtain ⟨_, _, _, _, _, _, _, _, hseen, -, hk⟩ := m.seen_spec probes w
  rw [hseen]
  exact hk.eq_of_some h

theorem pendingKill_gate (h : m.pendingKill = some pk)
    (hg : (m.seen probes w).upToGate probes w = .ok g) : g.pendingKill = some pk :=
  (upToGate_killAdded hg).eq_of_some (pendingKill_seen h)

theorem evaluateKillGate_of_recovery (h : g.pendingKill = some pk)
    (hrecovery : g.hasRecovery w = true) (hlate : 10 < elapsedSecs w.now pk.startedAt) :
    g.evaluateKillGate w = .ok { g with pendingKill := none } := by
  rw [evaluateKillGate, h]
  simp [hrecovery, hlate]

theorem afterTick_gate (hpast : m.PastPane probes w)
    (hg : (m.seen probes w).upToGate probes w = .ok g) : AfterTick probes m w g :=
  .inr ⟨hpast.noPrompt, upToGate_ok hg⟩

end

section
variable {probes : Probes} {w : Nat → Surroundings} {m : Nat → DaemonRunMonitor} {n N : Nat}

theorem Settled.mono (hrun : MonitorRun probes w m n) {k : Nat} (hk : k ≤ n)
    (h : Settled probes w m N k) : Settled probes w m N n := by
  obtain ⟨first, second, hfirst, hsecond, hn, hprompt₁, hprompt₂, hinterval, hwindow⟩ := h
  refine ⟨first, second, hfirst, hsecond, Nat.lt_of_lt_of_le hn hk, hprompt₁, hprompt₂, hinterval,
    Nat.le_trans hwindow ?_⟩
  apply Nat.div_le_div_right
  have hle := hrun.now_le hk
  rw [durationSince, durationSince]
  omega

theorem MonitorRun.before (hrun : MonitorRun probes w m n) {k : Nat} (hk : k ≤ n) :
    MonitorRun probes w m k where
  starts := hrun.starts
  ticks j hj := hrun.ticks j (Nat.lt_of_lt_of_le hj hk)
  clock := hrun.clock

end

end DaemonRunMonitor

open DaemonRunMonitor

end GreaterWill
