import GreaterWill.Daemon.RunMonitorSpec

/-!
# What the middle of a tick leaves alone

Between the poll of the checkpoint and the escalations a tick looks at the loop state, the artifacts
and the process. None of them touches a pending kill, a nudge counter, a gap or the error timer.
-/

namespace GreaterWill

namespace DaemonRunMonitor

/-- The kills, the nudges, the gaps and the error timer of the two monitors are the same. -/
structure SameEscalation (m m' : DaemonRunMonitor) : Prop where
  currentProfile : m'.currentProfile = m.currentProfile
  nudgeCount : m'.nudgeCount = m.nudgeCount
  errorConfirmSince : m'.errorConfirmSince = m.errorConfirmSince
  pendingKill : m'.pendingKill = m.pendingKill
  inTransitionSince : m'.inTransitionSince = m.inTransitionSince
  transitionNudgeCount : m'.transitionNudgeCount = m.transitionNudgeCount
  inFailedSince : m'.inFailedSince = m.inFailedSince
  failedNudgeCount : m'.failedNudgeCount = m.failedNudgeCount

variable {probes : Probes} {m m₁ m₂ : DaemonRunMonitor} {w : Surroundings}

theorem SameEscalation.trans (h : m.SameEscalation m₁) (h' : m₁.SameEscalation m₂) :
    m.SameEscalation m₂ where
  currentProfile := h'.currentProfile.trans h.currentProfile
  nudgeCount := h'.nudgeCount.trans h.nudgeCount
  errorConfirmSince := h'.errorConfirmSince.trans h.errorConfirmSince
  pendingKill := h'.pendingKill.trans h.pendingKill
  inTransitionSince := h'.inTransitionSince.trans h.inTransitionSince
  transitionNudgeCount := h'.transitionNudgeCount.trans h.transitionNudgeCount
  inFailedSince := h'.inFailedSince.trans h.inFailedSince
  failedNudgeCount := h'.failedNudgeCount.trans h.failedNudgeCount

theorem sameEscalation_pollLoopState (h : m.pollLoopState probes w = .ok m₁) :
    m.SameEscalation m₁ := by
  obtain ⟨g, c, rfl, -⟩ := pollLoopState_ok probes m w h
  obtain ⟨_, _, _, _, _, hloop⟩ := m.loopPolled_spec w
  rw [hloop]
  exact ⟨rfl, rfl, rfl, rfl, rfl, rfl, rfl, rfl⟩

theorem sameEscalation_scanArtifacts : m.SameEscalation (m.scanArtifacts w) := by
  obtain ⟨_, _, _, hscan⟩ := m.scanArtifacts_spec w
  rw [hscan]
  exact ⟨rfl, rfl, rfl, rfl, rfl, rfl, rfl, rfl⟩

theorem sameEscalation_checkProcessLiveness (h : m.checkProcessLiveness w = .ok m₁) :
    m.SameEscalation m₁ := by
  obtain ⟨g, rfl⟩ := m.checkProcessLiveness_ok w h
  exact ⟨rfl, rfl, rfl, rfl, rfl, rfl, rfl, rfl⟩

/-- The part of a tick between the pane and the escalations. -/
def beforeEscalation (probes : Probes) (m : DaemonRunMonitor) (w : Surroundings) :
    Except DaemonRunOutcome DaemonRunMonitor := do
  m.checkCompletionGrace w
  let m ← (m.pollCheckpoint probes w).pollLoopState probes w
  (m.scanArtifacts w).checkProcessLiveness w

theorem upToGate_ok_iff {g : DaemonRunMonitor} : m.upToGate probes w = .ok g ↔
    ∃ x, m.beforeEscalation probes w = .ok x ∧ x.escalate w = g := by
  have hsplit : m.upToGate probes w =
      m.beforeEscalation probes w >>= fun x => pure (x.escalate w) := by
    simp only [upToGate, beforeEscalation, bind_assoc]
  rw [hsplit, Except.bind_eq_ok_iff]
  refine exists_congr fun x => and_congr_right fun _ => ?_
  exact ⟨Except.ok.inj, congrArg Except.ok⟩

/-- The monitor that escalates has what the poll of the checkpoint left. -/
theorem beforeEscalation_ok {x : DaemonRunMonitor} (h : m.beforeEscalation probes w = .ok x) :
    (m.pollCheckpoint probes w).SameEscalation x ∧
      x.lastActivity = (m.loopPolled w).lastActivity := by
  obtain ⟨_, -, h⟩ := Except.bind_eq_ok_iff.mp h
  obtain ⟨p, hpolled, hlive⟩ := Except.bind_eq_ok_iff.mp h
  refine ⟨(sameEscalation_pollLoopState hpolled).trans
    (sameEscalation_scanArtifacts.trans (sameEscalation_checkProcessLiveness hlive)), ?_⟩
  obtain ⟨_, rfl⟩ := checkProcessLiveness_ok _ w hlive
  obtain ⟨_, _, _, hscan⟩ := p.scanArtifacts_spec w
  rw [← (polled_of_ok hpolled).lastActivity, hscan]

end DaemonRunMonitor

end GreaterWill
