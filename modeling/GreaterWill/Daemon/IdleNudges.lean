import GreaterWill.Daemon.ErrorConfirmation
import GreaterWill.Daemon.GapEscalation

/-!
# The nudges of an idle session

Outside the gaps an idle session is nudged at most three times, the `k`-th time when it has been
idle for more than `k` intervals of its profile. The counter starts again with a new pane text and
with a new phase. What else counts as activity starts the idle time again and leaves the counter.
-/

namespace GreaterWill

namespace DaemonRunMonitor

/-- The escalations before the idle detection. -/
def beforeIdle (y : DaemonRunMonitor) (w : Surroundings) : DaemonRunMonitor :=
  ((y.checkPhaseTimeout w).checkTransitionGap w).checkFailedPhase w

section
variable (probes : Probes) (m : DaemonRunMonitor) (w : Surroundings)

/-- The tick comes to the idle detection with the monitor `x`. -/
def ChecksIdle (x : DaemonRunMonitor) : Prop :=
  m.PastPane probes w ∧ ∃ y, (m.seen probes w).beforeEscalation probes w = .ok y ∧
    y.beforeIdle w = x ∧ x.inTransitionSince = none ∧ x.inFailedSince = none

/-- The idle detection sends a nudge, by the given last activity and interval. -/
def NudgesIdle (since : Int) (interval : Nat) : Prop :=
  ∃ x, m.ChecksIdle probes w x ∧ x.lastActivity = since ∧
    x.currentProfile.idleNudgeSecs = interval ∧ (x.checkIdle w).nudgeCount = x.nudgeCount + 1

/-- The tick finds a new text in the pane, or a new phase in the checkpoint. -/
def ResetsNudges : Prop :=
  (∃ content, w.pane = some content ∧ probes.hashStr content ≠ m.lastPaneHash) ∨
  m.PastPane probes w ∧ ∃ cp, m.resolvedCheckpoint probes w = some cp ∧
    cp.inferPhasePosition.effectivePhase ≠ m.currentPhase

end

/-- No tick after `i` up to `j` resets the counter. -/
def SameCount (probes : Probes) (w : Nat → Surroundings) (m : Nat → DaemonRunMonitor) (i j : Nat) :
    Prop :=
  ∀ t, i < t → t ≤ j → ¬ (m t).ResetsNudges probes (w t)

/-- How an idle session is nudged in a run that has come to the tick `n`. -/
structure IdleNudges (probes : Probes) (w : Nat → Surroundings) (m : Nat → DaemonRunMonitor)
    (n : Nat) : Prop where
  /-- After two nudges, or less, the next one takes three intervals, or less. -/
  atMostThree : ∀ j ≤ n, ∀ since interval, (m j).NudgesIdle probes (w j) since interval →
    ∀ earlier : List Nat, earlier.Nodup →
      (∀ i ∈ earlier, i < j ∧ SameCount probes w m i j ∧
        ∃ since interval, (m i).NudgesIdle probes (w i) since interval) →
      earlier.length + 1 ≤ 3 ∧ (earlier.length + 1) * interval < elapsedSecs (w j).now since
  sameInterval : ∀ i j, i < j → j ≤ n → SameCount probes w m i j →
    ∀ since since' interval interval', (m i).NudgesIdle probes (w i) since interval →
      (m j).NudgesIdle probes (w j) since' interval' → interval' = interval
  /-- The idle times of two nudges increase if no activity is noted between them. -/
  increasing : ∀ i j, i < j → j ≤ n → ∀ since interval interval',
    (m i).NudgesIdle probes (w i) since interval → (m j).NudgesIdle probes (w j) since interval' →
      (w i).now + 1000000000 ≤ (w j).now →
        elapsedSecs (w i).now since < elapsedSecs (w j).now since

section
variable {probes : Probes} {m m' x : DaemonRunMonitor} {w : Surroundings}

/-! ## A tick -/

/-- The fields the idle detection goes by, but for the activity. -/
structure SameIdle (m m' : DaemonRunMonitor) : Prop where
  nudgeCount : m'.nudgeCount = m.nudgeCount
  currentProfile : m'.currentProfile = m.currentProfile

theorem SameIdle.trans {m₁ m₂ : DaemonRunMonitor} (h : m.SameIdle m₁) (h' : m₁.SameIdle m₂) :
    m.SameIdle m₂ :=
  ⟨h'.nudgeCount.trans h.nudgeCount, h'.currentProfile.trans h.currentProfile⟩

theorem sameIdle_probed : m.SameIdle (m.probed probes w) := by
  obtain ⟨_, _, _, hprobed, -, -⟩ := m.probed_spec probes w
  rw [hprobed]
  exact ⟨rfl, rfl⟩

/-- The pane leaves them, unless its text is new. -/
theorem sameIdle_seen (h : ∀ content, w.pane = some content →
    probes.hashStr content = m.lastPaneHash) : m.SameIdle (m.seen probes w) := by
  cases hpane : w.pane with
  | none =>
    rw [seen, observePane, hpane]
    exact sameIdle_probed
  | some content =>
    have hprompted : m.SameIdle (m.prompted probes w content) := by
      have hhash : (m.probed probes w).lastPaneHash = m.lastPaneHash := by
        obtain ⟨_, _, _, hprobed, -, -⟩ := m.probed_spec probes w
        rw [hprobed]
      have hsame : (m.probed probes w).updateActivityFromPane probes w content =
          m.probed probes w := by
        rw [updateActivityFromPane, hhash, h content hpane, if_pos rfl]
      have hprobed : m.SameIdle (m.probed probes w) := sameIdle_probed
      rw [prompted, hsame]
      exact ⟨hprobed.nudgeCount, hprobed.currentProfile⟩
    rw [seen_of_pane hpane]
    split
    · exact hprompted
    · obtain ⟨_, _, _, _, hevaluate, -⟩ :=
        (m.beforeEvidence probes w content).evaluateErrorEvidence_spec probes w content
      obtain ⟨_, hcompletion, -⟩ :=
        (m.prompted probes w content).checkPaneCompletion_spec probes w content
      rw [hevaluate, beforeEvidence, hcompletion]
      exact ⟨hprompted.nudgeCount, hprompted.currentProfile⟩

/-- The poll leaves them, unless the phase is new. -/
theorem sameIdle_pollCheckpoint (h : ∀ cp, m.resolvedCheckpoint probes w = some cp →
    cp.inferPhasePosition.effectivePhase = m.currentPhase) :
    m.SameIdle (m.pollCheckpoint probes w) := by
  cases hcp : m.resolvedCheckpoint probes w with
  | none =>
    rw [pollCheckpoint_of_none probes m w hcp]
    exact ⟨rfl, rfl⟩
  | some cp =>
    have hphase := h cp hcp
    rw [resolvedCheckpoint] at hcp
    rw [pollCheckpoint]
    split
    · exact ⟨rfl, rfl⟩
    · next cp' cache hread =>
      rw [hread] at hcp
      obtain rfl : cp' = cp := Option.some.inj hcp
      dsimp only
      rw [trackPhase, hphase]
      obtain ⟨_, _, _, _, hgaps⟩ := trackGaps_spec probes
        { m with cachedCheckpointPath := cache, lastCheckpointActivity := w.now } w
        cp'.inferPhasePosition
      dsimp only
      rw [if_pos rfl, hgaps]
      exact ⟨rfl, rfl⟩

theorem sameIdle_requestKill (reason : String) (outcome : KillOutcomeKind) :
    m.SameIdle (m.requestKill w reason outcome) := by
  obtain ⟨k, hkill, -⟩ := m.requestKill_spec w reason outcome
  rw [hkill]
  exact ⟨rfl, rfl⟩

theorem sameIdle_checkPhaseTimeout : x.SameIdle (x.checkPhaseTimeout w) := by
  rw [checkPhaseTimeout]
  split
  · exact ⟨rfl, rfl⟩
  · dsimp only
    generalize (if 0 < x.effectivePhaseTimeout then x.effectivePhaseTimeout
      else x.currentProfile.phaseTimeoutSecs) = budget
    split
    · exact sameIdle_requestKill _ _
    · exact ⟨rfl, rfl⟩

theorem sameIdle_checkTransitionGap : x.SameIdle (x.checkTransitionGap w) := by
  rw [checkTransitionGap]
  split
  · exact ⟨rfl, rfl⟩
  · dsimp only
    split
    · exact sameIdle_requestKill _ _
    · split
      · exact ⟨rfl, rfl⟩
      · split
        · exact ⟨rfl, rfl⟩
        · exact ⟨rfl, rfl⟩

theorem sameIdle_checkFailedPhase : x.SameIdle (x.checkFailedPhase w) := by
  rw [checkFailedPhase]
  split
  · exact ⟨rfl, rfl⟩
  · dsimp only
    split
    · exact sameIdle_requestKill _ _
    · split
      · exact ⟨rfl, rfl⟩
      · split
        · exact ⟨rfl, rfl⟩
        · exact ⟨rfl, rfl⟩

theorem sameIdle_beforeIdle : x.SameIdle (x.beforeIdle w) :=
  (sameIdle_checkPhaseTimeout.trans sameIdle_checkTransitionGap).trans sameIdle_checkFailedPhase

/-- The idle detection sends the next nudge when it is due, and not a fourth one. -/
theorem checkIdle_nudges (h : (x.checkIdle w).nudgeCount = x.nudgeCount + 1) :
    x.nudgeCount < 3 ∧
      x.currentProfile.idleNudgeSecs * (x.nudgeCount + 1) < elapsedSecs w.now x.lastActivity := by
  rw [checkIdle] at h
  split at h
  · rw [(sameIdle_requestKill _ _).nudgeCount] at h
    exact absurd h (Nat.ne_of_lt (Nat.lt_succ_self _))
  · split at h
    · next hnudge =>
      simp only [Bool.and_eq_true, decide_eq_true_eq] at hnudge
      exact ⟨hnudge.2, hnudge.1⟩
    · exact absurd h (Nat.ne_of_lt (Nat.lt_succ_self _))

theorem le_nudgeCount_checkIdle : x.nudgeCount ≤ (x.checkIdle w).nudgeCount := by
  rw [checkIdle]
  split
  · exact Nat.le_of_eq (sameIdle_requestKill _ _).nudgeCount.symm
  · split
    · exact Nat.le_succ _
    · exact Nat.le_refl _

/-- Without a reset the counter and the profile come to the escalations as they were. -/
theorem PastPane.sameIdle (hpast : m.PastPane probes w)
    (hbefore : (m.seen probes w).beforeEscalation probes w = .ok x)
    (hkept : ¬ m.ResetsNudges probes w) : m.SameIdle x := by
  have hseen : m.SameIdle (m.seen probes w) := by
    refine sameIdle_seen fun content hpane => ?_
    by_contra hnew
    exact hkept (.inl ⟨content, hpane, hnew⟩)
  have hphase : (m.seen probes w).currentPhase = m.currentPhase := by
    obtain ⟨_, _, _, _, _, _, _, _, hseen, -, -⟩ := m.seen_spec probes w
    rw [hseen]
  have hpolled : (m.seen probes w).SameIdle ((m.seen probes w).pollCheckpoint probes w) := by
    refine sameIdle_pollCheckpoint fun cp hcp => ?_
    rw [resolvedCheckpoint_seen] at hcp
    rw [hphase]
    by_contra hnew
    exact hkept (.inr ⟨hpast, cp, hcp, hnew⟩)
  have hsame := (beforeEscalation_ok hbefore).1
  exact (hseen.trans hpolled).trans ⟨hsame.nudgeCount, hsame.currentProfile⟩

theorem ChecksIdle.sameIdle (h : m.ChecksIdle probes w x) (hkept : ¬ m.ResetsNudges probes w) :
    m.SameIdle x := by
  obtain ⟨hpast, y, hbefore, rfl, -, -⟩ := h
  exact (hpast.sameIdle hbefore hkept).trans sameIdle_beforeIdle

/-- A tick that goes on past the pane leaves what the escalations left. -/
theorem PastPane.tick_ok (hpast : m.PastPane probes w) (h : m.tick probes w = .ok m') :
    ∃ y, (m.seen probes w).beforeEscalation probes w = .ok y ∧
      ∃ k, m' = { (y.beforeIdle w).checkIdleOutsideGaps w with pendingKill := k } := by
  obtain ⟨z, hz, hgate⟩ := tick_gated h hpast.noPrompt
  obtain ⟨y, hbefore, rfl⟩ := upToGate_ok_iff.mp hz
  obtain ⟨k, rfl⟩ := evaluateKillGate_ok _ w hgate
  exact ⟨y, hbefore, k, rfl⟩

/-- The monitor after a tick has what the idle detection left. -/
theorem ChecksIdle.tick (hchecks : m.ChecksIdle probes w x) (h : m.tick probes w = .ok m') :
    m'.nudgeCount = (x.checkIdle w).nudgeCount ∧ m'.currentProfile = x.currentProfile ∧
      m'.lastActivity = x.lastActivity := by
  obtain ⟨hpast, y, hbefore, rfl, hbetween, hfailed⟩ := hchecks
  obtain ⟨y', hbefore', k, rfl⟩ := hpast.tick_ok h
  obtain rfl : y = y' := Except.ok.inj (hbefore.symm.trans hbefore')
  have hchecked : (y.beforeIdle w).checkIdleOutsideGaps w = (y.beforeIdle w).checkIdle w := by
    rw [checkIdleOutsideGaps, hbetween, hfailed]
    rfl
  obtain ⟨_, _, _, _, hidle, -⟩ := (y.beforeIdle w).checkIdle_escalated w
  rw [hchecked]
  refine ⟨rfl, ?_, ?_⟩
  · rw [hidle]
  · rw [hidle]

theorem sameIdle_tick (h : m.tick probes w = .ok m') (hkept : ¬ m.ResetsNudges probes w) :
    m.nudgeCount ≤ m'.nudgeCount ∧ m'.currentProfile = m.currentProfile := by
  rcases tick_ok h with ⟨hpast, -⟩ | ⟨-, rfl⟩
  · obtain ⟨y, hbefore, k, rfl⟩ := hpast.tick_ok h
    have hsame : m.SameIdle (y.beforeIdle w) :=
      (hpast.sameIdle hbefore hkept).trans sameIdle_beforeIdle
    rw [← hsame.nudgeCount, ← hsame.currentProfile]
    obtain ⟨_, _, _, _, hidle, -⟩ := (y.beforeIdle w).checkIdleOutsideGaps_escalated w
    refine ⟨?_, by rw [hidle]⟩
    rw [checkIdleOutsideGaps]
    split
    · exact le_nudgeCount_checkIdle
    · exact Nat.le_refl _
  · have hsame : m.SameIdle (m.seen probes w) := by
      refine sameIdle_seen fun content hpane => ?_
      by_contra hnew
      exact hkept (.inl ⟨content, hpane, hnew⟩)
    exact ⟨Nat.le_of_eq hsame.nudgeCount.symm, hsame.currentProfile⟩

end

/-! ## A run -/

section
variable {probes : Probes} {w : Nat → Surroundings} {m : Nat → DaemonRunMonitor} {n i j k : Nat}

/-- Until the counter is reset it counts the nudges sent. -/
theorem MonitorRun.length_le_nudgeCount (hrun : MonitorRun probes w m n) (hk : k ≤ n)
    (earlier : List Nat) (hnodup : earlier.Nodup)
    (hnudges : ∀ i ∈ earlier, i < k ∧ (∀ t, i < t → t < k → ¬ (m t).ResetsNudges probes (w t)) ∧
      ∃ since interval, (m i).NudgesIdle probes (w i) since interval) :
    earlier.length ≤ (m k).nudgeCount := by
  induction k generalizing earlier with
  | zero =>
    cases earlier with
    | nil => exact Nat.zero_le _
    | cons i _ => exact absurd (hnudges i (List.mem_cons_self ..)).1 (Nat.not_lt_zero i)
  | succ k ih =>
    have hbefore (rest : List Nat) (hrest : rest.Nodup)
        (hless : ∀ i ∈ rest, i ∈ earlier ∧ i ≠ k) : rest.length ≤ (m k).nudgeCount := by
      refine ih (Nat.le_of_lt hk) rest hrest fun i hi => ?_
      obtain ⟨hmem, hne⟩ := hless i hi
      obtain ⟨hik, hkept, hnudge⟩ := hnudges i hmem
      exact ⟨by omega, fun t hit htk => hkept t hit (Nat.lt_succ_of_lt htk), hnudge⟩
    -- an earlier nudge means that this tick does not reset the counter
    have hkept {i : Nat} (hi : i ∈ earlier) (hne : i ≠ k) : ¬ (m k).ResetsNudges probes (w k) := by
      obtain ⟨hik, hkept, -⟩ := hnudges i hi
      exact hkept k (by omega) (Nat.lt_succ_self k)
    by_cases hmem : k ∈ earlier
    · obtain ⟨-, -, _, _, x, hchecks, -, -, hcount⟩ := hnudges k hmem
      have hrest : (earlier.erase k).length ≤ x.nudgeCount := by
        have hless : ∀ i ∈ earlier.erase k, i ∈ earlier ∧ i ≠ k := fun i hi =>
          ⟨List.mem_of_mem_erase hi, ((List.Nodup.mem_erase_iff hnodup).mp hi).1⟩
        cases herase : earlier.erase k with
        | nil => exact Nat.zero_le _
        | cons i rest =>
          have hi : i ∈ earlier.erase k := by rw [herase]; exact List.mem_cons_self ..
          rw [(hchecks.sameIdle (hkept (hless i hi).1 (hless i hi).2)).nudgeCount, ← herase]
          exact hbefore _ (hnodup.erase k) hless
      rw [(hchecks.tick (hrun.ticks k hk)).1, hcount, ← List.length_erase_add_one hmem]
      exact Nat.succ_le_succ hrest
    · have hless : ∀ i ∈ earlier, i ∈ earlier ∧ i ≠ k := fun i hi =>
        ⟨hi, fun heq => hmem (heq ▸ hi)⟩
      cases hearlier : earlier with
      | nil => exact Nat.zero_le _
      | cons i rest =>
        have hi : i ∈ earlier := by rw [hearlier]; exact List.mem_cons_self ..
        rw [← hearlier]
        exact (hbefore earlier hnodup hless).trans
          (sameIdle_tick (hrun.ticks k hk) (hkept hi (hless i hi).2)).1

theorem MonitorRun.currentProfile_eq (hrun : MonitorRun probes w m n) (hij : i + 1 ≤ j)
    (hjn : j ≤ n) (hkept : ∀ t, i < t → t < j → ¬ (m t).ResetsNudges probes (w t)) :
    (m j).currentProfile = (m (i + 1)).currentProfile := by
  induction j, hij using Nat.le_induction with
  | base => rfl
  | succ j hij ih =>
    have hbefore := ih (Nat.le_of_lt hjn) fun t hit htj => hkept t hit (Nat.lt_succ_of_lt htj)
    rw [← hbefore]
    exact (sameIdle_tick (hrun.ticks j hjn) (hkept j hij (Nat.lt_succ_self j))).2

/-- The nudges of an idle session. -/
theorem MonitorRun.idleNudges (hrun : MonitorRun probes w m n) : IdleNudges probes w m n where
  atMostThree j hj since interval hnudge earlier hnodup hearlier := by
    obtain ⟨x, hchecks, rfl, rfl, hcount⟩ := hnudge
    have hlength : earlier.length ≤ x.nudgeCount := by
      cases h : earlier with
      | nil => exact Nat.zero_le _
      | cons i rest =>
        have hi : i ∈ earlier := by rw [h]; exact List.mem_cons_self ..
        obtain ⟨hij, hkept, -⟩ := hearlier i hi
        rw [(hchecks.sameIdle (hkept j hij (Nat.le_refl j))).nudgeCount, ← h]
        refine hrun.length_le_nudgeCount hj earlier hnodup fun i hi => ?_
        obtain ⟨hij, hkept, hnudge⟩ := hearlier i hi
        exact ⟨hij, fun t hit htj => hkept t hit (Nat.le_of_lt htj), hnudge⟩
    obtain ⟨hthree, hidle⟩ := checkIdle_nudges hcount
    refine ⟨by omega, Nat.lt_of_le_of_lt ?_ hidle⟩
    rw [Nat.mul_comm]
    exact Nat.mul_le_mul_left _ (Nat.succ_le_succ hlength)
  sameInterval i j hij hj hkept since since' interval interval' hi hnudge := by
    obtain ⟨x, hchecks, -, rfl, -⟩ := hi
    obtain ⟨x', hchecks', -, rfl, -⟩ := hnudge
    have hbetween := hrun.currentProfile_eq hij hj fun t hit htj => hkept t hit (Nat.le_of_lt htj)
    rw [(hchecks'.sameIdle (hkept j hij (Nat.le_refl j))).currentProfile, hbetween,
      (hchecks.tick (hrun.ticks i (Nat.lt_of_lt_of_le hij hj))).2.1]
  increasing i j hij hj since interval interval' hi hnudge hclock := by
    obtain ⟨x, hchecks, rfl, -, -⟩ := hi
    have hin : i < n := Nat.lt_of_lt_of_le hij hj
    have hsince : x.lastActivity ≤ (w i).now := by
      rw [← (hchecks.tick (hrun.ticks i hin)).2.2]
      exact (hrun.stampsBy_succ hin).lastActivity
    rw [elapsedSecs, elapsedSecs, asSecs, asSecs, durationSince, durationSince]
    omega

/-- A gap is escalated by its age, and an idle session by its idle time. -/
theorem MonitorRun.graduated (hrun : MonitorRun probes w m n) :
    Escalates .transition probes w m n ∧ Escalates .failed probes w m n ∧
      IdleNudges probes w m n :=
  ⟨hrun.escalates .transition, hrun.escalates .failed, hrun.idleNudges⟩

end

end DaemonRunMonitor

open DaemonRunMonitor

/-! A session without a checkpoint. It is idle for 1500 s and is nudged; then it waits for a
permission, and is idle again. -/

private def quietProbes : Probes where
  serde := { fromStr := fun _ => none, toPretty := fun _ => "", display := fun _ => "" }
  hashStr _ := 0
  toLowercase := id
  paneErrorClass _ := none
  parseRfc3339 _ := none

private def quietWorld (n : Nat) : Surroundings where
  now := fromSecs ([0, 1500, 1530].getD n 2140)
  utcNow := 0
  files := ∅
  permissionPending := n = 2
  probe := .present
  pane := none
  enterSent := false
  pidAlive _ := true
  swarm _ := false
  online := true
  scanArtifactDir _ := none

private def quietMonitor : Nat → DaemonRunMonitor
  | 0 => .new "/repo" none 0 (.fromEnv fun _ => none) 0 0
  | n + 1 => ((quietMonitor n).tick quietProbes (quietWorld n)).toOption.getD (quietMonitor n)

private theorem quiet_tick {n : Nat}
    (h : ((quietMonitor n).tick quietProbes (quietWorld n)).toOption.isSome = true) :
    (quietMonitor n).tick quietProbes (quietWorld n) = .ok (quietMonitor (n + 1)) := by
  rw [quietMonitor]
  exact Except.eq_ok_getD h _

private theorem quiet_run : MonitorRun quietProbes quietWorld quietMonitor 3 where
  starts := ⟨"/repo", none, 0, .fromEnv fun _ => none, 0, 0, rfl, Nat.zero_le _⟩
  ticks k hk := by
    apply quiet_tick
    match k, hk with
    | 0, _ => decide +kernel
    | 1, _ => decide +kernel
    | 2, _ => decide +kernel
  clock := by
    apply monotone_nat_of_le_succ
    intro n
    apply Nat.mul_le_mul_right
    match n with
    | 0 => decide
    | 1 => decide
    | 2 => decide
    | n + 3 => exact Nat.le_refl _

/-- How that session is nudged. -/
theorem quiet_graduated : Escalates .transition quietProbes quietWorld quietMonitor 3 ∧
    Escalates .failed quietProbes quietWorld quietMonitor 3 ∧
      IdleNudges quietProbes quietWorld quietMonitor 3 :=
  quiet_run.graduated

/-- A test on the monitor that comes to the escalations. -/
private theorem nudgesIdle_of_any {probes : Probes} {m : DaemonRunMonitor} {w : Surroundings}
    {since : Int} {interval : Nat} (hpast : m.PastPane probes w)
    (h : (((m.seen probes w).beforeEscalation probes w).toOption.any fun y => decide
      ((y.beforeIdle w).inTransitionSince = none ∧ (y.beforeIdle w).inFailedSince = none ∧
        (y.beforeIdle w).lastActivity = since ∧
        (y.beforeIdle w).currentProfile.idleNudgeSecs = interval ∧
        ((y.beforeIdle w).checkIdle w).nudgeCount = (y.beforeIdle w).nudgeCount + 1)) = true) :
    m.NudgesIdle probes w since interval := by
  obtain ⟨y, hy, hbetween, hfailed, hsince, hinterval, hcount⟩ := exists_of_any h
  refine ⟨y.beforeIdle w, ⟨hpast, y, ?_, rfl, hbetween, hfailed⟩, hsince, hinterval, hcount⟩
  cases hbefore : (m.seen probes w).beforeEscalation probes w with
  | error outcome =>
    rw [hbefore] at hy
    cases hy
  | ok y' =>
    rw [hbefore] at hy
    exact congrArg Except.ok (Option.some.inj hy)

private theorem quiet_first_nudge :
    (quietMonitor 1).NudgesIdle quietProbes (quietWorld 1) 0 300 :=
  nudgesIdle_of_any (by decide +kernel) (by decide +kernel)

private theorem quiet_second_nudge :
    (quietMonitor 3).NudgesIdle quietProbes (quietWorld 3) (fromSecs 1530) 300 :=
  nudgesIdle_of_any (by decide +kernel) (by decide +kernel)

private theorem quiet_sameCount : SameCount quietProbes quietWorld quietMonitor 1 3 := by
  rintro t hlt hle (⟨content, hpane, -⟩ | ⟨-, cp, hcp, -⟩)
  · cases hpane
  · have hnone : ∀ t < 4, (quietMonitor t).resolvedCheckpoint quietProbes (quietWorld t) = none := by
      intro t ht
      apply Option.isNone_iff_eq_none.mp
      revert t
      decide +kernel
    rw [hnone t (by omega)] at hcp
    cases hcp

/-! A session that has been between two phases for 700 s when the monitor starts. -/

private def gapText : String := "\x7b\"id\":\"arc-4\"\x7d"

private def gapProbes : Probes where
  serde :=
    { fromStr := fun text =>
        if text = gapText then
          some (.object [
            ("id", .string "arc-4"),
            ("plan_file", .string "plans/d.md"),
            ("phases", .object [
              ("forge", .object [("status", .string "completed"),
                ("completed_at", .string "2026-01-01T00:00:00Z")]),
              ("work", .object [("status", .string "pending")])])])
        else none
      toPretty := fun _ => ""
      display := fun _ => "" }
  hashStr _ := 0
  toLowercase := id
  paneErrorClass _ := none
  parseRfc3339 _ := some 0

private def gapWorld : Surroundings where
  now := fromSecs 1000
  utcNow := fromSecs 700
  files := Dict.ofList [
    ("/repo/.rune/arc-phase-loop.local.md", some
      ("---\nactive: true\ncheckpoint_path: .rune/arc/arc-4/checkpoint.json\n" ++
        "plan_file: plans/d.md\n---\n")),
    ("/repo/.rune/arc/arc-4/checkpoint.json", some gapText)]
  permissionPending := false
  probe := .present
  pane := none
  enterSent := false
  pidAlive _ := true
  swarm _ := false
  online := true
  scanArtifactDir _ := none

private def gapMonitor : DaemonRunMonitor :=
  .new "/repo" none 0 (.fromEnv fun _ => none) (fromSecs 700) (fromSecs 1000)

private theorem gap_asks : gapMonitor.AsksGapKill .transition gapProbes gapWorld := by
  obtain ⟨x, hx, hnone, hkill⟩ : ∃ x, gapMonitor.checking .transition gapProbes gapWorld = some x ∧
      x.pendingKill = none ∧ (GapKind.transition.check x gapWorld).pendingKill.isSome = true :=
    exists_of_any (by decide +kernel)
  exact ⟨x, checking_eq_some.mp hx, hnone, hkill⟩

/-- A gap that is old when the monitor starts is asked to be killed for at the first tick, and a
permission that was waited for starts the idle time again and not the nudges. -/
theorem old_gap_unannounced_and_idle_restarted :
    (¬ ∀ (probes : Probes) (w : Nat → Surroundings) (m : Nat → DaemonRunMonitor) (n : Nat),
      MonitorRun probes w m n → (m n).AsksGapKill .transition probes (w n) →
        ∃ i j, i < j ∧ j < n ∧ SameGap .transition m i n ∧
          (m i).NudgesGap .transition probes (w i) ∧ (m j).WarnsGap .transition probes (w j)) ∧
    ¬ ∀ (probes : Probes) (w : Nat → Surroundings) (m : Nat → DaemonRunMonitor) (n : Nat),
      MonitorRun probes w m n → ∀ i j, i < j → j ≤ n → SameCount probes w m i j →
        ∀ since since' interval interval', (m i).NudgesIdle probes (w i) since interval →
          (m j).NudgesIdle probes (w j) since' interval' →
            elapsedSecs (w i).now since < elapsedSecs (w j).now since' := by
  constructor
  · intro hclaim
    have hrun : MonitorRun gapProbes (fun _ => gapWorld) (fun _ => gapMonitor) 0 :=
      { starts := ⟨_, _, _, _, _, _, rfl, Nat.le_refl _⟩
        ticks := fun k hk => absurd hk (Nat.not_lt_zero k)
        clock := fun _ _ _ => Nat.le_refl _ }
    obtain ⟨_, j, -, hj, -⟩ := hclaim _ _ _ 0 hrun gap_asks
    exact absurd hj (Nat.not_lt_zero j)
  · intro hclaim
    have hlonger := hclaim _ _ _ 3 quiet_run 1 3 (by decide) (Nat.le_refl 3) quiet_sameCount _ _ _ _
      quiet_first_nudge quiet_second_nudge
    exact absurd hlonger (by decide)

end GreaterWill
