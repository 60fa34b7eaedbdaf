import GreaterWill.Engine.SessionCompletion

/-!
# The crash grace timer

A process that dies is to end its session once it has been gone for the grace period. Its timer is
started at the end of a tick that misses the process, and cleared at the start of the next one that
finds the session, dead process or not: it never runs out.
-/

namespace GreaterWill

def POLL_INTERVAL_SECS : Nat := 5

namespace SessionMonitor
variable {probes : SessionProbes} {m m' : SessionMonitor} {w : SessionSurroundings}

theorem runChecks_timer {content : String} (hnone : m.lastProcessGoneAt = none)
    (h : m.runChecks probes w content = .ok m') :
    m'.lastProcessGoneAt = none ∨ m'.lastProcessGoneAt = some (w.now : Int) := by
  have hpoll := pollCheckpoint_spec probes m w
  obtain ⟨p, hp⟩ : ∃ p, m.pollCheckpoint probes w = p := ⟨_, rfl⟩
  rw [hp] at hpoll
  rw [runChecks, hp] at h
  obtain ⟨l, hloop, h⟩ := Except.bind_eq_ok_iff.mp h
  have hl : l.lastProcessGoneAt = none := by
    rcases trackLoopState_spec probes p w with
      ⟨l', hl', -, hkept, -⟩ | ⟨_, _, hkilled⟩ | ⟨_, hcrashed, -⟩
    · obtain rfl : l' = l := Except.ok.inj (hl'.symm.trans hloop)
      rw [hkept, hpoll.2.1, hnone]
    · rw [hkilled] at hloop
      cases hloop
    · rw [hcrashed] at hloop
      cases hloop
  rcases l.tickAfterLoopState_cases probes w content hl with
    ⟨m₁, since, hok, hcore, hsince⟩ | ⟨pk, hkilled⟩
  · obtain rfl : m₁ = m' := Except.ok.inj (hok.symm.trans h)
    rw [← m₁.core_lastProcessGoneAt, hcore]
    exact hsince
  · rw [hkilled] at h
    cases h

/-- A tick keeps the timer where `tmux` does not answer, and else clears or restarts it. -/
theorem tick_timer (h : m.tick probes w = .ok m') :
    w.probe = .unreachable ∧ m'.lastProcessGoneAt = m.lastProcessGoneAt ∨
      w.probe = .present ∧
        (m'.lastProcessGoneAt = none ∨ m'.lastProcessGoneAt = some (w.now : Int)) := by
  rcases m.tick_cases probes w with ⟨-, m₁, since, hok, hcore, hsince⟩ | ⟨-, hvanished⟩ |
    ⟨content, hpast, htick⟩
  · obtain rfl : m₁ = m' := Except.ok.inj (hok.symm.trans h)
    rw [← m₁.core_lastProcessGoneAt, hcore]
    rcases hsince with ⟨hprobe, hkept⟩ | ⟨hprobe, hcleared⟩
    · exact .inl ⟨hprobe, hkept⟩
    · exact .inr ⟨hprobe, .inl hcleared⟩
  · rw [hvanished] at h
    cases h
  · refine .inr ⟨countProbe_eq_false hpast.present, ?_⟩
    have hseen := m.core_seen probes w content
    obtain ⟨x, hx⟩ : ∃ x, m.seen probes w content = x := ⟨_, rfl⟩
    rw [hx] at hseen htick
    have hnone : x.lastProcessGoneAt = none := by rw [← x.core_lastProcessGoneAt, hseen]
    rw [htick, graceOrChecks] at h
    split at h
    · next completedAt _ =>
      rcases x.completionGrace_cases (w := w) completedAt with hover | ⟨m₁, hok, hcore⟩
      · rw [hover] at h
        cases h
      · obtain rfl : m₁ = m' := Except.ok.inj (hok.symm.trans h)
        rw [← m₁.core_lastProcessGoneAt, hcore, core_lastProcessGoneAt]
        exact .inl hnone
    · exact runChecks_timer hnone h

end SessionMonitor

namespace WatchedSession
variable (probes : SessionProbes)

/-- The timer was started at a tick that is over. -/
def TimerPast (s : WatchedSession) : Prop :=
  ∀ t, s.monitor.lastProcessGoneAt = some t → t ≤ s.clock

variable {probes} {s s' : WatchedSession} {w : SessionSurroundings}

theorem TimerPast.step (hs : step probes s w = some s') (h : s.TimerPast) : s'.TimerPast := by
  obtain ⟨hclock, m', htick, rfl⟩ := step_eq_some.mp hs
  intro t ht
  rcases SessionMonitor.tick_timer htick with ⟨-, hkept⟩ | ⟨-, hnone | hnow⟩
  · exact Int.le_trans (h t (hkept ▸ ht)) (Int.ofNat_le.mpr hclock)
  · rw [hnone] at ht
    cases ht
  · rw [hnow] at ht
    cases ht
    exact Int.le_refl _

end WatchedSession

open WatchedSession

end GreaterWill
