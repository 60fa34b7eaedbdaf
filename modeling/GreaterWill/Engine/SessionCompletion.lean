import GreaterWill.Daemon.RunMonitorSpec
import GreaterWill.Engine.SessionMonitorSpec
import GreaterWill.Lib.Run

/-!
# What a completed session rests on

The session monitor returns that its session is completed when it finds the session gone and its
checkpoint complete, or when the completion it noted earlier has had its grace period. `Evidence`
is what a tick can note a completion on: a signal of the hooks, a checkpoint near completion, or a
loop state that is gone, with the file deactivated or no checkpoint to be found.
-/

namespace GreaterWill

namespace SessionMonitor
variable (probes : SessionProbes) (m : SessionMonitor) (w : SessionSurroundings)

/-- A tick makes its checks: it gets past the pane, and no completion is noted. -/
structure AtChecks (content : String) : Prop extends PastPane probes m w content where
  noSignal : m.signalsCompletion probes w = false
  undetected : m.completionDetectedAt = none

/-- A tick reads the checkpoint `cp`. All its reads find the same. -/
inductive Reads (cp : Checkpoint) : Prop where
  /-- The session has vanished. -/
  | vanished (gone : ((m.checkSignals probes w).countProbe w.probe).1 = some true)
      (age : fromSecs MIN_SESSION_DURATION_SECS ≤ m.sessionAge w)
      (dead : w.pidAlive m.pid = false) (found : m.resolvedCheckpoint probes w = some cp)
  | poll (content : String) (checks : m.AtChecks probes w content) (due : m.pollDue w = true)
      (found : m.resolvedCheckpoint probes w = some cp)
  /-- The loop state is gone. -/
  | gone (content : String) (checks : m.AtChecks probes w content) (gone : m.GoneForGrace w)
      (found : m.resolvedCheckpoint probes w = some cp)
  /-- The pane speaks of a completion. -/
  | pane (content : String) (checks : m.AtChecks probes w content)
      (speaks : m.paneSpeaks probes w content = true)
      (found : m.resolvedCheckpoint probes w = some cp)

/-- What a tick can note a completion on. -/
inductive Evidence : Prop where
  /-- A stop or session-end signal says so. -/
  | signal (complete : m.signalsCompletion probes w = true)
  /-- A checkpoint that is read is near completion. -/
  | nearCompletion (cp : Checkpoint) (read : m.Reads probes w cp)
      (near : cp.isNearCompletion = true)
  /-- The loop state is gone, its file still there, deactivated. -/
  | deactivated (content : String) (checks : m.AtChecks probes w content)
      (gone : m.GoneForGrace w)
      (onDisk : (readArcLoopState w.files m.workingDir).fileExists = true)
      (found : (m.resolvedCheckpoint probes w).isSome = true)
  /-- The loop state is gone, there is no checkpoint, and the session is old enough. -/
  | noCheckpoint (content : String) (checks : m.AtChecks probes w content)
      (gone : m.GoneForGrace w) (none : m.resolvedCheckpoint probes w = none)
      (age : FOREGROUND_MIN_COMPLETION_AGE_SECS ≤ asSecs (m.sessionAge w))

variable {probes m w}

theorem Reads.found {cp : Checkpoint} (h : m.Reads probes w cp) :
    m.resolvedCheckpoint probes w = some cp := by
  cases h with
  | vanished _ _ _ found => exact found
  | poll _ _ _ found => exact found
  | gone _ _ _ found => exact found
  | pane _ _ _ found => exact found

/-! ## Within a tick -/

variable (probes m w) in
/-- `m'` comes from `m` within a tick: it has the same settings and finds the same checkpoint. -/
structure Onward (m' : SessionMonitor) : Prop where
  workingDir : m'.workingDir = m.workingDir
  pid : m'.pid = m.pid
  dispatchTime : m'.dispatchTime = m.dispatchTime
  cached : m'.cachedCheckpointPath = m.cachedCheckpointPath ∨
    m'.cachedCheckpointPath = m.resolvedPath probes w

section
variable {m' m'' : SessionMonitor}

namespace Onward

theorem read (h : m.Onward probes w m') :
    readCachedCheckpoint probes.serde w.files m'.workingDir m'.cachedCheckpointPath =
      readCachedCheckpoint probes.serde w.files m.workingDir m.cachedCheckpointPath := by
  rw [h.workingDir]
  rcases h.cached with hkept | hfound
  · rw [hkept]
  · rw [hfound, resolvedPath, readCachedCheckpoint_again]

theorem resolvedCheckpoint (h : m.Onward probes w m') :
    m'.resolvedCheckpoint probes w = m.resolvedCheckpoint probes w :=
  congrArg Prod.fst h.read

theorem resolvedPath (h : m.Onward probes w m') :
    m'.resolvedPath probes w = m.resolvedPath probes w :=
  congrArg Prod.snd h.read

theorem sessionAge (h : m.Onward probes w m') : m'.sessionAge w = m.sessionAge w := by
  rw [SessionMonitor.sessionAge, SessionMonitor.sessionAge, h.dispatchTime]

theorem paneSpeaks (h : m.Onward probes w m') (content : String) :
    m'.paneSpeaks probes w content = m.paneSpeaks probes w content := by
  rw [SessionMonitor.paneSpeaks, SessionMonitor.paneSpeaks, h.sessionAge]

theorem refl : m.Onward probes w m := ⟨rfl, rfl, rfl, .inl rfl⟩

theorem trans (h : m.Onward probes w m') (h' : m'.Onward probes w m'') :
    m.Onward probes w m'' where
  workingDir := h'.workingDir.trans h.workingDir
  pid := h'.pid.trans h.pid
  dispatchTime := h'.dispatchTime.trans h.dispatchTime
  cached := by
    rcases h'.cached with hkept | hfound
    · rw [hkept]
      exact h.cached
    · rw [hfound, h.resolvedPath]
      exact .inr rfl

/-- What the core says about going on. -/
theorem of_core {c : Core} (hcore : m'.core = c) (hdir : c.workingDir = m.workingDir)
    (hpid : c.pid = m.pid) (hdispatch : c.dispatchTime = m.dispatchTime)
    (hcached : c.cachedCheckpointPath = m.cachedCheckpointPath ∨
      c.cachedCheckpointPath = m.resolvedPath probes w) : m.Onward probes w m' := by
  subst hcore
  exact ⟨hdir, hpid, hdispatch, hcached⟩

end Onward

variable (probes m w) in
/-- The poll goes on; it notes a completion on a checkpoint near completion. -/
theorem pollCheckpoint_spec :
    m.Onward probes w (m.pollCheckpoint probes w) ∧
      (m.pollCheckpoint probes w).lastProcessGoneAt = m.lastProcessGoneAt ∧
      (m.pollCheckpoint probes w).loopStateEverSeen = m.loopStateEverSeen ∧
      (m.pollCheckpoint probes w).loopStateGoneSince = m.loopStateGoneSince ∧
      ((m.pollCheckpoint probes w).completionDetectedAt.isSome = true →
        m.completionDetectedAt.isSome = true ∨
          m.pollDue w = true ∧ ∃ cp, m.resolvedCheckpoint probes w = some cp ∧
            cp.isNearCompletion = true) := by
  have hcore := m.core_pollCheckpoint probes w
  generalize m.pollCheckpoint probes w = p at hcore ⊢
  by_cases hdue : m.pollDue w = true
  · rw [if_pos hdue] at hcore
    refine ⟨.of_core hcore rfl rfl rfl (.inr rfl), ?_, ?_, ?_, ?_⟩
    · rw [← p.core_lastProcessGoneAt, hcore, core_lastProcessGoneAt]
    · rw [← p.core_loopStateEverSeen, hcore, core_loopStateEverSeen]
    · rw [← p.core_loopStateGoneSince, hcore, core_loopStateGoneSince]
    · intro hnoted
      rw [← p.core_completionDetectedAt, hcore] at hnoted
      dsimp only at hnoted
      split at hnoted
      · next hany =>
        obtain ⟨cp, hcp, hboth⟩ := (Option.any_eq_true ..).mp hany
        exact .inr ⟨hdue, cp, hcp, (Bool.and_eq_true_iff.mp hboth).2⟩
      · exact .inl hnoted
  · rw [if_neg hdue] at hcore
    refine ⟨.of_core hcore rfl rfl rfl (.inl rfl), ?_, ?_, ?_, ?_⟩
    · rw [← p.core_lastProcessGoneAt, hcore, core_lastProcessGoneAt]
    · rw [← p.core_loopStateEverSeen, hcore, core_loopStateEverSeen]
    · rw [← p.core_loopStateGoneSince, hcore, core_loopStateGoneSince]
    · intro hnoted
      rw [← p.core_completionDetectedAt, hcore] at hnoted
      exact .inl hnoted

variable (probes m w) in
/-- The pane's text goes on; it notes a completion on a checkpoint near completion. -/
theorem checkPaneCompletion_spec (content : String) :
    m.Onward probes w (m.checkPaneCompletion probes w content) ∧
      (m.checkPaneCompletion probes w content).loopStateGoneSince = m.loopStateGoneSince ∧
      (m.completionDetectedAt.isSome = true →
        (m.checkPaneCompletion probes w content).completionDetectedAt.isSome = true) ∧
      ((m.checkPaneCompletion probes w content).completionDetectedAt.isSome = true →
        m.completionDetectedAt.isSome = true ∨
          m.paneSpeaks probes w content = true ∧
            ∃ cp, m.resolvedCheckpoint probes w = some cp ∧ cp.isNearCompletion = true) := by
  have hcore := m.core_checkPaneCompletion probes w content
  generalize m.checkPaneCompletion probes w content = p at hcore ⊢
  by_cases hspeaks : m.paneSpeaks probes w content = true
  · rw [if_pos hspeaks] at hcore
    refine ⟨.of_core hcore rfl rfl rfl (.inr rfl), ?_, ?_, ?_⟩
    · rw [← p.core_loopStateGoneSince, hcore, core_loopStateGoneSince]
    · intro hnoted
      rw [← p.core_completionDetectedAt, hcore]
      dsimp only
      split
      · rfl
      · exact hnoted
    · intro hnoted
      rw [← p.core_completionDetectedAt, hcore] at hnoted
      dsimp only at hnoted
      split at hnoted
      · next hany => exact .inr ⟨hspeaks, (Option.any_eq_true ..).mp hany⟩
      · exact .inl hnoted
  · rw [if_neg hspeaks] at hcore
    refine ⟨.of_core hcore rfl rfl rfl (.inl rfl), ?_, ?_, ?_⟩
    · rw [← p.core_loopStateGoneSince, hcore, core_loopStateGoneSince]
    · intro hnoted
      rw [← p.core_completionDetectedAt, hcore]
      exact hnoted
    · intro hnoted
      rw [← p.core_completionDetectedAt, hcore] at hnoted
      exact .inl hnoted

variable (probes m w) in
/-- What the loop state notes a completion on. -/
def GoneEvidence : Prop :=
  m.GoneForGrace w ∧
    match m.resolvedCheckpoint probes w with
    | some cp => cp.isNearCompletion = true ∨
        (readArcLoopState w.files m.workingDir).fileExists = true
    | none => FOREGROUND_MIN_COMPLETION_AGE_SECS ≤ asSecs (m.sessionAge w)

variable (probes m w) in
/-- The loop state goes on, ends a session that fails to start, or is confirmed gone. Then a
completion is noted, or the session has crashed: it is young, or its checkpoint is unfinished. -/
theorem trackLoopState_spec :
    (∃ m', m.trackLoopState probes w = .ok m' ∧ m.Onward probes w m' ∧
        m'.lastProcessGoneAt = m.lastProcessGoneAt ∧
        (m'.loopStateGoneSince = none ∨ m'.loopStateGoneSince = m.loopStateGoneSince ∨
          m'.loopStateGoneSince = some (m.goneSince w)) ∧
        (m.GoneForGrace w ∨ m.completionDetectedAt.isSome = true →
          m'.completionDetectedAt.isSome = true) ∧
        (m'.completionDetectedAt.isSome = true →
          m.completionDetectedAt.isSome = true ∨ m.GoneEvidence probes w)) ∨
      (∃ errorClass reason,
        m.trackLoopState probes w = .error (killed w (.errorDetected errorClass reason))) ∨
      ∃ reason, m.trackLoopState probes w = .error (.ok (.crashed reason)) ∧
        (asSecs (m.sessionAge w) < FOREGROUND_MIN_COMPLETION_AGE_SECS ∨
          ∃ cp, m.resolvedCheckpoint probes w = some cp ∧
            (cp.isComplete && cp.isNearCompletion) = false) := by
  rcases m.trackLoopState_cases probes w with
    ⟨m', seen, since, hok, hnot, hcore, hsince⟩ | hkilled | ⟨hgone, htrack⟩
  · refine .inl ⟨m', hok, .of_core hcore rfl rfl rfl (.inl rfl),
      congrArg Core.lastProcessGoneAt hcore, ?_, ?_, ?_⟩
    · rw [← m'.core_loopStateGoneSince, hcore]
      exact hsince
    · rintro (hgone | hnoted)
      · exact absurd hgone hnot
      · rw [← m'.core_completionDetectedAt, hcore]
        exact hnoted
    · intro hnoted
      rw [← m'.core_completionDetectedAt, hcore] at hnoted
      exact .inl hnoted
  · exact .inr (.inl hkilled)
  · have hconfirmed := loopStateConfirmedGone_cases probes
      { m with prevLoopState := none, loopStateGoneSince := some (m.goneSince w) } w
      (readArcLoopState w.files m.workingDir).fileExists
    rw [htrack]
    rcases hconfirmed with ⟨x, hx, hdispatch, hcore, hfound⟩ | ⟨⟨reason, hcrash⟩, hunfinished⟩
    · have hage : x.sessionAge w = m.sessionAge w := by
        rw [sessionAge, sessionAge, hdispatch]
      rw [hx]
      rcases x.goneByAge_cases w with ⟨hold, hnoted⟩ | ⟨hyoung, reason, hcrash⟩
      · refine .inl ⟨_, hnoted, .of_core hcore rfl rfl rfl (.inr rfl),
          congrArg Core.lastProcessGoneAt hcore,
          .inr (.inr (congrArg Core.loopStateGoneSince hcore)), fun _ => rfl,
          fun _ => .inr ⟨hgone, ?_⟩⟩
        cases hcp : m.resolvedCheckpoint probes w with
        | none =>
          rw [← hage]
          exact hold
        | some cp =>
          rcases hfound cp hcp with hboth | hdisk
          · exact .inl (Bool.and_eq_true_iff.mp hboth).2
          · exact .inr hdisk
      · rw [hage] at hyoung
        exact .inr (.inr ⟨reason, hcrash, .inl hyoung⟩)
    · exact .inr (.inr ⟨reason, hcrash, .inr hunfinished⟩)

/-- The result is neither a completion nor a crash. -/
def NoVerdict (r : Return) : Prop :=
  r ≠ .ok .completed ∧ ∀ reason, r ≠ .ok (.crashed reason)

theorem noVerdict_killed {outcome : SessionOutcome} (hcompleted : outcome ≠ .completed)
    (hcrashed : ∀ reason, outcome ≠ .crashed reason) : NoVerdict (killed w outcome) :=
  ⟨fun h => hcompleted (killed_eq_ok w h), fun reason h => hcrashed reason (killed_eq_ok w h)⟩

variable (probes m w) in
theorem tickAfterLoopState_spec (content : String) (hnone : m.lastProcessGoneAt = none) :
    (∃ m', m.tickAfterLoopState probes w content = .ok m' ∧ m.Onward probes w m' ∧
        m'.loopStateGoneSince = m.loopStateGoneSince ∧
        (m.completionDetectedAt.isSome = true → m'.completionDetectedAt.isSome = true) ∧
        (m'.completionDetectedAt.isSome = true →
          m.completionDetectedAt.isSome = true ∨ m.paneSpeaks probes w content = true ∧
            ∃ cp, m.resolvedCheckpoint probes w = some cp ∧ cp.isNearCompletion = true)) ∨
      ∃ r, m.tickAfterLoopState probes w content = .error r ∧ NoVerdict r := by
  rcases m.tickAfterLoopState_cases probes w content hnone with
    ⟨m', since, hok, hcore, -⟩ | ⟨pk, hkilled⟩
  · obtain ⟨a, ha⟩ : ∃ a, m.scanArtifacts w = a := ⟨_, rfl⟩
    have hscan : a.core = m.core := by rw [← ha, core_scanArtifacts]
    have hscanned : m.Onward probes w a := .of_core hscan rfl rfl rfl (.inl rfl)
    have hspec := checkPaneCompletion_spec probes a w content
    obtain ⟨p, hp⟩ : ∃ p, a.checkPaneCompletion probes w content = p := ⟨_, rfl⟩
    rw [hp] at hspec
    rw [ha, hp] at hcore
    obtain ⟨hpane, hsince, hkept, hnoted⟩ := hspec
    have hended : p.Onward probes w m' := .of_core hcore rfl rfl rfl (.inl rfl)
    have hdetected : a.completionDetectedAt = m.completionDetectedAt := by
      rw [← a.core_completionDetectedAt, hscan, core_completionDetectedAt]
    have hdetected' : m'.completionDetectedAt = p.completionDetectedAt := by
      rw [← m'.core_completionDetectedAt, hcore, core_completionDetectedAt]
    refine .inl ⟨m', hok, (hscanned.trans hpane).trans hended, ?_, ?_, ?_⟩
    · rw [← m'.core_loopStateGoneSince, hcore, core_loopStateGoneSince, hsince,
        ← a.core_loopStateGoneSince, hscan, core_loopStateGoneSince]
    · rw [← hdetected, hdetected']
      exact hkept
    · rw [← hdetected, hdetected', ← hscanned.paneSpeaks, ← hscanned.resolvedCheckpoint]
      exact hnoted
  · refine .inr ⟨_, hkilled, noVerdict_killed ?_ ?_⟩
    · exact (finalOutcome_cases pk).1
    · exact (finalOutcome_cases pk).2

variable (probes m w) in
/-- The checks go on, without a verdict, or end in a crash. -/
theorem runChecks_spec (content : String) (hnone : m.lastProcessGoneAt = none) :
    (∃ m', m.runChecks probes w content = .ok m' ∧ m.Onward probes w m' ∧
        (m'.loopStateGoneSince = none ∨ m'.loopStateGoneSince = m.loopStateGoneSince ∨
          m'.loopStateGoneSince = some (m.goneSince w)) ∧
        (m.GoneForGrace w → m'.completionDetectedAt.isSome = true) ∧
        (m'.completionDetectedAt.isSome = true →
          m.completionDetectedAt.isSome = true ∨ m.GoneEvidence probes w ∨
            (m.pollDue w = true ∨ m.paneSpeaks probes w content = true) ∧
              ∃ cp, m.resolvedCheckpoint probes w = some cp ∧ cp.isNearCompletion = true)) ∨
      (∃ r, m.runChecks probes w content = .error r ∧ NoVerdict r) ∨
      ∃ reason, m.runChecks probes w content = .error (.ok (.crashed reason)) ∧
        (asSecs (m.sessionAge w) < FOREGROUND_MIN_COMPLETION_AGE_SECS ∨
          ∃ cp, m.resolvedCheckpoint probes w = some cp ∧
            (cp.isComplete && cp.isNearCompletion) = false) := by
  have hruns : m.runChecks probes w content =
      (m.pollCheckpoint probes w).trackLoopState probes w >>= fun l =>
        l.tickAfterLoopState probes w content := rfl
  have hspec := pollCheckpoint_spec probes m w
  obtain ⟨p, hp⟩ : ∃ p, m.pollCheckpoint probes w = p := ⟨_, rfl⟩
  rw [hp] at hspec
  obtain ⟨hpoll, hprocess, hseen, hsince, hpolled⟩ := hspec
  rw [hruns, hp]
  have hgone : p.GoneForGrace w ↔ m.GoneForGrace w :=
    GoneForGrace.congr w hpoll.workingDir hseen hsince
  have hevidence : p.GoneEvidence probes w ↔ m.GoneEvidence probes w := by
    rw [GoneEvidence, GoneEvidence, hgone, hpoll.resolvedCheckpoint, hpoll.workingDir,
      hpoll.sessionAge]
  have hgoneSince : p.goneSince w = m.goneSince w := by rw [goneSince, goneSince, hsince]
  rcases trackLoopState_spec probes p w with
    ⟨l, hl, honward, hlive, hlsince, hlkept, hlnoted⟩ | ⟨errorClass, reason, hkilled⟩ |
      ⟨reason, hcrashed, hwhy⟩
  · rw [hl, Except.ok_bind]
    rcases tickAfterLoopState_spec probes l w content (hlive.trans (hprocess.trans hnone)) with
      ⟨m', hok, hafter, hsince', hkept, hnoted⟩ | ⟨r, hr, hverdict⟩
    · refine .inl ⟨m', hok, (hpoll.trans honward).trans hafter, ?_, ?_, ?_⟩
      · rw [hsince', ← hsince, ← hgoneSince]
        exact hlsince
      · intro hg
        exact hkept (hlkept (.inl (hgone.mpr hg)))
      · intro hsome
        rcases hnoted hsome with hl' | ⟨hspeaks, hnear⟩
        · rcases hlnoted hl' with hp | hg
          · rcases hpolled hp with hm | ⟨hdue, hnear⟩
            · exact .inl hm
            · exact .inr (.inr ⟨.inl hdue, hnear⟩)
          · exact .inr (.inl (hevidence.mp hg))
        · rw [(hpoll.trans honward).paneSpeaks] at hspeaks
          rw [(hpoll.trans honward).resolvedCheckpoint] at hnear
          exact .inr (.inr ⟨.inr hspeaks, hnear⟩)
    · exact .inr (.inl ⟨r, hr, hverdict⟩)
  · rw [hkilled, Except.error_bind]
    refine .inr (.inl ⟨_, rfl, noVerdict_killed ?_ ?_⟩)
    · intro h
      cases h
    · intro reason h
      cases h
  · rw [hcrashed, Except.error_bind]
    rw [hpoll.sessionAge, hpoll.resolvedCheckpoint] at hwhy
    exact .inr (.inr ⟨reason, rfl, hwhy⟩)

end

/-! ## A tick -/

section
variable {m' : SessionMonitor} {content : String}

theorem completionGrace_cases (completedAt : Int) :
    m.completionGrace w completedAt = .error (.ok .completed) ∨
      ∃ m', m.completionGrace w completedAt = .ok m' ∧ m'.core = m.core := by
  have hcore := m.core_countProbe w.graceProbe
  rw [completionGrace]
  split
  · exact .inl rfl
  · cases hprobe : m.countProbe w.graceProbe with
    | mk gone m₁ =>
      rw [hprobe] at hcore
      split
      · exact .inl rfl
      · next heq =>
        cases heq
        exact .inr ⟨m₁, rfl, hcore⟩

/-- The signals are the only thing to note a completion on before the checks. -/
theorem noted_checkSignals (h : (m.checkSignals probes w).completionDetectedAt.isSome = true) :
    m.completionDetectedAt.isSome = true ∨ m.Evidence probes w := by
  rw [← core_completionDetectedAt, core_checkSignals] at h
  dsimp only at h
  split at h
  · next hsignal => exact .inr (.signal hsignal)
  · exact .inl h

variable (probes m w) in
theorem onward_probed : m.Onward probes w (m.probed probes w) := by
  have hcore := m.core_probed probes w
  rw [core_checkSignals] at hcore
  exact .of_core hcore rfl rfl rfl (.inl rfl)

theorem AtChecks.core_checkSignals (h : m.AtChecks probes w content) :
    (m.checkSignals probes w).core = m.core := by
  rw [SessionMonitor.core_checkSignals, h.noSignal]
  rfl

theorem PastPane.atChecks (h : m.PastPane probes w content)
    (hnone : (m.checkSignals probes w).completionDetectedAt = none) :
    m.AtChecks probes w content := by
  rw [← core_completionDetectedAt, SessionMonitor.core_checkSignals] at hnone
  dsimp only at hnone
  split at hnone
  · cases hnone
  · next hsignal => exact ⟨h, (Bool.not_eq_true _).mp hsignal, hnone⟩

variable (probes m w) in
/-- A tick skips the checks, finds the session gone, ends the grace period, or makes the checks,
which begin with a monitor `x`. -/
theorem tick_spec :
    ((∀ content, ¬ m.AtChecks probes w content) ∧ ∃ m' since, m.tick probes w = .ok m' ∧
        m'.core = { (m.checkSignals probes w).core with lastProcessGoneAt := since }) ∨
      (((m.checkSignals probes w).countProbe w.probe).1 = some true ∧
        m.tick probes w = .error (.ok ((m.probed probes w).vanishedOutcome probes w))) ∨
      ((m.checkSignals probes w).completionDetectedAt.isSome = true ∧
        m.tick probes w = .error (.ok .completed)) ∨
      ∃ (content : String) (x : SessionMonitor), m.AtChecks probes w content ∧
        m.tick probes w = x.runChecks probes w content ∧
        x.core = { m.core with lastProcessGoneAt := none } := by
  rcases m.tick_cases probes w with ⟨hskip, m', since, hok, hcore, -⟩ | hvanished |
    ⟨content, hpast, htick⟩
  · exact .inl ⟨fun content h => hskip content h.toPastPane, m', since, hok, hcore⟩
  · exact .inr (.inl hvanished)
  · have hseen := m.core_seen probes w content
    rw [htick]
    obtain ⟨x, hx⟩ : ∃ x, m.seen probes w content = x := ⟨_, rfl⟩
    rw [hx] at hseen ⊢
    have hdetected : x.completionDetectedAt = (m.checkSignals probes w).completionDetectedAt := by
      rw [← x.core_completionDetectedAt, hseen, core_completionDetectedAt]
    rw [graceOrChecks]
    split
    · next completedAt hsome =>
      rw [hdetected] at hsome
      rcases x.completionGrace_cases (w := w) completedAt with hover | ⟨m', hok, hcore⟩
      · exact .inr (.inr (.inl ⟨by rw [hsome]; rfl, hover⟩))
      · refine .inl ⟨?_, m', none, hok, hcore.trans hseen⟩
        intro content' hchecks
        have hnone := hchecks.undetected
        rw [← core_completionDetectedAt, ← hchecks.core_checkSignals,
          core_completionDetectedAt, hsome] at hnone
        cases hnone
    · next hnone =>
      rw [hdetected] at hnone
      have hchecks := hpast.atChecks hnone
      rw [hchecks.core_checkSignals] at hseen
      exact .inr (.inr (.inr ⟨content, x, hchecks, rfl, hseen⟩))

/-- The evidence the checks find. -/
theorem AtChecks.evidence (h : m.AtChecks probes w content) {x : SessionMonitor}
    (hx : m.Onward probes w x) (hgone : x.GoneForGrace w ↔ m.GoneForGrace w)
    (hdue : x.pollDue w = m.pollDue w)
    (hfound : x.GoneEvidence probes w ∨
      (x.pollDue w = true ∨ x.paneSpeaks probes w content = true) ∧
        ∃ cp, x.resolvedCheckpoint probes w = some cp ∧ cp.isNearCompletion = true) :
    m.Evidence probes w := by
  rcases hfound with ⟨hconfirmed, hevidence⟩ | ⟨hwhere, cp, hcp, hnear⟩
  · rw [hgone] at hconfirmed
    rw [hx.resolvedCheckpoint, hx.workingDir, hx.sessionAge] at hevidence
    cases hcp : m.resolvedCheckpoint probes w with
    | none =>
      rw [hcp] at hevidence
      exact .noCheckpoint content h hconfirmed hcp hevidence
    | some cp =>
      rw [hcp] at hevidence
      rcases hevidence with hnear | hdisk
      · exact .nearCompletion cp (.gone content h hconfirmed hcp) hnear
      · exact .deactivated content h hconfirmed hdisk (by rw [hcp]; rfl)
  · rw [hx.resolvedCheckpoint] at hcp
    rw [hdue, hx.paneSpeaks] at hwhere
    rcases hwhere with hdue' | hspeaks
    · exact .nearCompletion cp (.poll content h hdue' hcp) hnear
    · exact .nearCompletion cp (.pane content h hspeaks hcp) hnear

/-- A session that has vanished is completed on a checkpoint that is near completion. -/
theorem vanishedOutcome_completed (h : m.vanishedOutcome probes w = .completed) :
    fromSecs MIN_SESSION_DURATION_SECS ≤ m.sessionAge w ∧ w.pidAlive m.pid = false ∧
      ∃ cp, m.resolvedCheckpoint probes w = some cp ∧ cp.isNearCompletion = true := by
  rw [vanishedOutcome, readCheckpoint] at h
  dsimp only at h
  split at h
  · cases h
  · next hage =>
    split at h
    · cases h
    · next hdead =>
      refine ⟨Nat.not_lt.mp hage, (Bool.not_eq_true _).mp hdead, ?_⟩
      split at h
      · next cp hcp =>
        split at h
        · next hboth => exact ⟨cp, hcp, (Bool.and_eq_true_iff.mp hboth).2⟩
        · cases h
      · split at h
        · cases h
        · cases h

/-- A session that has vanished is completed if its checkpoint is read and says so. -/
theorem vanishedOutcome_of_read {cp : Checkpoint}
    (hage : fromSecs MIN_SESSION_DURATION_SECS ≤ m.sessionAge w)
    (hdead : w.pidAlive m.pid = false) (hcp : m.resolvedCheckpoint probes w = some cp)
    (hcomplete : cp.isComplete = true) (hnear : cp.isNearCompletion = true) :
    m.vanishedOutcome probes w = .completed := by
  rw [resolvedCheckpoint] at hcp
  rw [vanishedOutcome, readCheckpoint]
  dsimp only
  rw [if_neg (Nat.not_lt.mpr hage), hdead, hcp]
  simp [hcomplete, hnear]

variable (probes m w) in
/-- What a tick that goes on leaves behind. -/
theorem tick_ok (hok : m.tick probes w = .ok m') :
    m'.dispatchTime = m.dispatchTime ∧
      (m'.loopStateGoneSince = none ∨ m'.loopStateGoneSince = m.loopStateGoneSince ∨
        m'.loopStateGoneSince = some (m.goneSince w)) ∧
      (m'.completionDetectedAt.isSome = true →
        m.completionDetectedAt.isSome = true ∨ m.Evidence probes w) ∧
      ∀ content, m.AtChecks probes w content → m.GoneForGrace w →
        m'.completionDetectedAt.isSome = true := by
  rcases tick_spec probes m w with ⟨hskip, m₁, since, hok', hcore⟩ | ⟨-, hvanished⟩ | ⟨-, hover⟩ |
    ⟨content, x, hchecks, htick, hx⟩
  · obtain rfl : m₁ = m' := Except.ok.inj (hok'.symm.trans hok)
    have hdetected : m₁.completionDetectedAt = (m.checkSignals probes w).completionDetectedAt := by
      rw [← m₁.core_completionDetectedAt, hcore, core_completionDetectedAt]
    rw [core_checkSignals] at hcore
    refine ⟨?_, .inr (.inl ?_), ?_, fun content h => absurd h (hskip content)⟩
    · rw [← m₁.core_dispatchTime, hcore, core_dispatchTime]
    · rw [← m₁.core_loopStateGoneSince, hcore, core_loopStateGoneSince]
    · rw [hdetected]
      exact noted_checkSignals
  · rw [hvanished] at hok
    cases hok
  · rw [hover] at hok
    cases hok
  · have honward : m.Onward probes w x := .of_core hx rfl rfl rfl (.inl rfl)
    have hnone : x.lastProcessGoneAt = none := by rw [← x.core_lastProcessGoneAt, hx]
    have hsince : x.loopStateGoneSince = m.loopStateGoneSince := by
      rw [← x.core_loopStateGoneSince, hx, core_loopStateGoneSince]
    have hseen : x.loopStateEverSeen = m.loopStateEverSeen := by
      rw [← x.core_loopStateEverSeen, hx, core_loopStateEverSeen]
    have hdetected : x.completionDetectedAt = none := by
      rw [← x.core_completionDetectedAt, hx, core_completionDetectedAt, hchecks.undetected]
    have hdue : x.pollDue w = m.pollDue w := by
      rw [pollDue, pollDue, ← x.core_watchdog, ← x.core_lastCheckpointPoll, hx, core_watchdog,
        core_lastCheckpointPoll]
    have hgoneSince : x.goneSince w = m.goneSince w := by rw [goneSince, goneSince, hsince]
    have hgone : x.GoneForGrace w ↔ m.GoneForGrace w :=
      GoneForGrace.congr w honward.workingDir hseen hsince
    rw [htick] at hok
    rcases runChecks_spec probes x w content hnone with
      ⟨m₁, hok', honward', hsince', hkept, hnoted⟩ | ⟨r, hr, -⟩ | ⟨reason, hcrashed, -⟩
    · obtain rfl : m₁ = m' := Except.ok.inj (hok'.symm.trans hok)
      refine ⟨honward'.dispatchTime.trans honward.dispatchTime, ?_, ?_, ?_⟩
      · rw [← hsince, ← hgoneSince]
        exact hsince'
      · intro hsome
        rcases hnoted hsome with hx' | hfound
        · rw [hdetected] at hx'
          cases hx'
        · exact .inr (hchecks.evidence honward hgone hdue hfound)
      · intro content' _ hg
        exact hkept (hgone.mpr hg)
    · rw [hr] at hok
      cases hok
    · rw [hcrashed] at hok
      cases hok

variable (probes m w) in
/-- What a session is reported as completed on. -/
theorem tick_completed (h : m.tick probes w = .error (.ok .completed)) :
    m.completionDetectedAt.isSome = true ∨ m.Evidence probes w := by
  rcases tick_spec probes m w with ⟨-, m₁, since, hok, -⟩ | ⟨hgone, hvanished⟩ | ⟨hnoted, -⟩ |
    ⟨content, x, hchecks, htick, hx⟩
  · rw [hok] at h
    cases h
  · rw [hvanished] at h
    have honward := onward_probed probes m w
    obtain ⟨hage, hdead, cp, hcp, hnear⟩ :=
      vanishedOutcome_completed (Except.ok.inj (Except.error.inj h))
    rw [honward.sessionAge] at hage
    rw [honward.pid] at hdead
    rw [honward.resolvedCheckpoint] at hcp
    exact .inr (.nearCompletion cp (.vanished hgone hage hdead hcp) hnear)
  · exact noted_checkSignals hnoted
  · have hnone : x.lastProcessGoneAt = none := by rw [← x.core_lastProcessGoneAt, hx]
    rw [htick] at h
    rcases runChecks_spec probes x w content hnone with
      ⟨m₁, hok, -⟩ | ⟨r, hr, hverdict, -⟩ | ⟨reason, hcrashed, -⟩
    · rw [hok] at h
      cases h
    · rw [hr] at h
      exact absurd (Except.error.inj h) hverdict
    · rw [hcrashed] at h
      cases h

variable (probes m w) in
/-- A session crashes because it has vanished, is young, or has an unfinished checkpoint. -/
theorem tick_crashed {reason : String} (h : m.tick probes w = .error (.ok (.crashed reason))) :
    ((m.checkSignals probes w).countProbe w.probe).1 = some true ∧
        (m.probed probes w).vanishedOutcome probes w = .crashed reason ∨
      asSecs (m.sessionAge w) < FOREGROUND_MIN_COMPLETION_AGE_SECS ∨
      ∃ cp, m.resolvedCheckpoint probes w = some cp ∧
        (cp.isComplete && cp.isNearCompletion) = false := by
  rcases tick_spec probes m w with ⟨-, m₁, since, hok, -⟩ | ⟨hgone, hvanished⟩ | ⟨-, hover⟩ |
    ⟨content, x, hchecks, htick, hx⟩
  · rw [hok] at h
    cases h
  · rw [hvanished] at h
    exact .inl ⟨hgone, Except.ok.inj (Except.error.inj h)⟩
  · rw [hover] at h
    cases h
  · have honward : m.Onward probes w x := .of_core hx rfl rfl rfl (.inl rfl)
    have hnone : x.lastProcessGoneAt = none := by rw [← x.core_lastProcessGoneAt, hx]
    rw [htick] at h
    rcases runChecks_spec probes x w content hnone with
      ⟨m₁, hok, -⟩ | ⟨r, hr, -, hverdict⟩ | ⟨reason', hcrashed, hwhy⟩
    · rw [hok] at h
      cases h
    · rw [hr] at h
      exact absurd (Except.error.inj h) (hverdict reason)
    · rw [honward.sessionAge, honward.resolvedCheckpoint] at hwhy
      exact .inr hwhy

end

end SessionMonitor

/-- A session under watch: its monitor, and the clock of the last tick. -/
structure WatchedSession where
  clock : Nat
  monitor : SessionMonitor

namespace WatchedSession

/-- The session where `monitor_session` enters its loop. -/
def start (workingDir currentDir : PathBuf) (pid : UInt32) (watchdog : WatchdogConfig)
    (pipelineTimeout : Nat) (pipelineStart : Int) (now : Nat) : WatchedSession :=
  ⟨now, .start workingDir currentDir pid watchdog pipelineTimeout pipelineStart now⟩

/-- A tick that does not return; the clock is monotonic. -/
def step (probes : SessionProbes) (s : WatchedSession) (w : SessionSurroundings) :
    Option WatchedSession :=
  if s.clock ≤ w.now then (s.monitor.tick probes w).toOption.map (⟨w.now, ·⟩) else none

/-- The times the monitor notes are not before its start. -/
structure Timed (s : WatchedSession) : Prop where
  dispatched : s.monitor.dispatchTime ≤ s.clock
  goneAfter : ∀ since, s.monitor.loopStateGoneSince = some since → s.monitor.dispatchTime ≤ since

variable {probes : SessionProbes} {s s' : WatchedSession} {w : SessionSurroundings}

theorem step_eq_some : step probes s w = some s' ↔
    s.clock ≤ w.now ∧ ∃ m', s.monitor.tick probes w = .ok m' ∧ s' = ⟨w.now, m'⟩ := by
  rw [step]
  split
  · next hclock =>
    cases s.monitor.tick probes w with
    | error r => simp [Except.toOption]
    | ok m' => simp [Except.toOption, hclock, eq_comm]
  · next hclock => simp [hclock]

theorem Timed.step (hs : step probes s w = some s') (h : s.Timed) : s'.Timed := by
  obtain ⟨hclock, m', htick, rfl⟩ := step_eq_some.mp hs
  obtain ⟨hdispatch, hsince, -, -⟩ := SessionMonitor.tick_ok probes s.monitor w htick
  have hnow : s.monitor.dispatchTime ≤ (w.now : Int) :=
    Int.le_trans h.dispatched (Int.ofNat_le.mpr hclock)
  refine ⟨by rw [hdispatch]; exact hnow, ?_⟩
  intro since hgone
  rw [hdispatch]
  rcases hsince with hnone | hkept | hsince
  · rw [hnone] at hgone
    cases hgone
  · exact h.goneAfter since (hkept ▸ hgone)
  · rw [hsince] at hgone
    cases hgone
    rw [SessionMonitor.goneSince]
    cases hold : s.monitor.loopStateGoneSince with
    | none => exact hnow
    | some old => exact h.goneAfter old hold

/-- A session whose loop state has been gone for the grace period is not young. -/
theorem Timed.age (h : s.Timed) (hclock : s.clock ≤ w.now) (hgone : s.monitor.GoneForGrace w) :
    FOREGROUND_MIN_COMPLETION_AGE_SECS ≤ asSecs (s.monitor.sessionAge w) := by
  have hsince : s.monitor.dispatchTime ≤ s.monitor.goneSince w := by
    rw [SessionMonitor.goneSince]
    cases hold : s.monitor.loopStateGoneSince with
    | none => exact Int.le_trans h.dispatched (Int.ofNat_le.mpr hclock)
    | some old => exact h.goneAfter old hold
  have helapsed := hgone.elapsed
  rw [durationSince, fromSecs, LOOP_STATE_GONE_GRACE_SECS] at helapsed
  rw [SessionMonitor.sessionAge, durationSince, asSecs, FOREGROUND_MIN_COMPLETION_AGE_SECS]
  omega

end WatchedSession

open SessionMonitor WatchedSession

/-- In every run of the session monitor: a session is reported as completed only if some tick found
evidence for it; and a tick that reads a complete checkpoint after the loop state has been gone for
the grace period notes the completion and reports no crash. -/
theorem completed_has_evidence (probes : SessionProbes) (workingDir currentDir : PathBuf)
    (pid : UInt32) (watchdog : WatchdogConfig) (pipelineTimeout : Nat) (pipelineStart : Int)
    (now : Nat) (ticks : List SessionSurroundings) (s : WatchedSession) (w : SessionSurroundings)
    (hrun : exec (step probes)
      (start workingDir currentDir pid watchdog pipelineTimeout pipelineStart now) ticks = some s)
    (hclock : s.clock ≤ w.now) :
    (s.monitor.tick probes w = .error (.ok .completed) →
      Sometime (step probes) (fun s w => s.monitor.Evidence probes w)
        (start workingDir currentDir pid watchdog pipelineTimeout pipelineStart now)
        (ticks ++ [w])) ∧
    ∀ cp, s.monitor.GoneForGrace w → s.monitor.Reads probes w cp → cp.isComplete = true →
      cp.isNearCompletion = true →
        (∀ reason, s.monitor.tick probes w ≠ .error (.ok (.crashed reason))) ∧
        ∀ m', s.monitor.tick probes w = .ok m' → m'.completionDetectedAt.isSome = true := by
  constructor
  · intro hcompleted
    rw [Sometime.append hrun, sometime_singleton]
    rcases SessionMonitor.tick_completed probes s.monitor w hcompleted with hnoted | hnow
    · -- the note was taken at an earlier tick: there is none at the start
      have hstep : ∀ (s : WatchedSession) (w : SessionSurroundings) (s' : WatchedSession),
          step probes s w = some s' → s'.monitor.completionDetectedAt.isSome = true →
            s.monitor.completionDetectedAt.isSome = true ∨ s.monitor.Evidence probes w := by
        intro s w s' hs
        obtain ⟨-, m', htick, rfl⟩ := step_eq_some.mp hs
        exact (SessionMonitor.tick_ok probes s.monitor w htick).2.2.1
      rcases exec_sometime hstep hrun hnoted with hstart | hsometime
      · cases hstart
      · exact .inl hsometime
    · exact .inr hnow
  · intro cp hgone hreads hcomplete hnear
    have htimed : s.Timed := by
      refine exec_preserves (fun s w s' hs h => h.step hs) hrun ⟨Int.le_refl _, ?_⟩
      intro since hsince
      cases hsince
    have hage := htimed.age hclock hgone
    constructor
    · intro reason hcrashed
      rcases SessionMonitor.tick_crashed probes s.monitor w hcrashed with
        ⟨hvanished, houtcome⟩ | hyoung | ⟨cp', hcp', hnot⟩
      · cases hreads with
        | vanished _ age dead found =>
          have honward := onward_probed probes s.monitor w
          rw [← honward.sessionAge] at age
          rw [← honward.pid] at dead
          rw [← honward.resolvedCheckpoint] at found
          rw [vanishedOutcome_of_read age dead found hcomplete hnear] at houtcome
          cases houtcome
        | poll _ checks _ _ =>
          rw [checks.present] at hvanished
          cases hvanished
        | gone _ checks _ _ =>
          rw [checks.present] at hvanished
          cases hvanished
        | pane _ checks _ _ =>
          rw [checks.present] at hvanished
          cases hvanished
      · exact absurd hage (Nat.not_le.mpr hyoung)
      · obtain rfl : cp = cp' := Option.some.inj (hreads.found.symm.trans hcp')
        rw [hcomplete, hnear] at hnot
        cases hnot
    · intro m' hok
      obtain ⟨-, -, -, harmed⟩ := SessionMonitor.tick_ok probes s.monitor w hok
      cases hreads with
      | vanished gone _ _ _ =>
        rw [tick_of_vanished probes s.monitor w gone] at hok
        cases hok
      | poll content checks _ _ => exact harmed content checks hgone
      | gone content checks _ _ => exact harmed content checks hgone
      | pane content checks _ _ => exact harmed content checks hgone

/-! A session-end signal in the first phase, and a session that exits at once. -/

private def forgeText : String :=
  "\x7b\"id\":\"arc-1\",\"plan_file\":\"plans/a.md\",\"phases\":\x7b" ++
    "\"forge\":\x7b\"status\":\"in_progress\"\x7d,\"work\":\x7b\"status\":\"pending\"\x7d\x7d\x7d"

private def forgeProbes : SessionProbes where
  serde :=
    { fromStr := fun text =>
        if text = forgeText then
          some (.object [
            ("id", .string "arc-1"),
            ("plan_file", .string "plans/a.md"),
            ("phases", .object [
              ("forge", .object [("status", .string "in_progress")]),
              ("work", .object [("status", .string "pending")])])])
        else if text = "\x7b\"is_complete\":true\x7d" then
          some (.object [("is_complete", .bool true)])
        else none
      toPretty := fun _ => ""
      display := fun _ => "" }
  hashStr _ := 0
  toLowercase := id
  paneErrorClass _ := none
  parseRfc3339 _ := none
  hashProgress _ _ _ := 0

private def forgeFiles : Files := Dict.ofList [
  ("/repo/.rune/arc-phase-loop.local.md", some
    ("---\nactive: true\ncheckpoint_path: .rune/arc/arc-1/checkpoint.json\n" ++
      "plan_file: plans/a.md\n---\n")),
  ("/repo/.rune/arc/arc-1/checkpoint.json", some forgeText)]

/-- A session at work. -/
private def forgeTick : SessionSurroundings where
  now := fromSecs 10
  utcNow := 0
  files := forgeFiles
  permissionPending := false
  probe := .present
  graceProbe := .present
  pane := some "working"
  enterSent := false
  pidAlive _ := true
  swarm _ := false
  workingTeammates _ := false
  online := true
  scanArtifactDir _ := none
  killSession := .ok ()

/-- The session ends, and its hook says that the run is complete. -/
private def signalTick : SessionSurroundings :=
  { forgeTick with
    now := fromSecs 20
    files := forgeFiles.insert "/repo/.gw/signals/session-end.json"
      (some "\x7b\"is_complete\":true\x7d")
    graceProbe := .absent }

private def forgeSession : WatchedSession :=
  .start "/repo" "/repo" 7 (.fromEnv fun _ => none) (fromSecs 21600) 0 0

private def reportsCompleted : Except Return SessionMonitor → Bool
  | .error (.ok .completed) => true
  | _ => false

private theorem reportsCompleted_iff {x : Except Return SessionMonitor} :
    reportsCompleted x = true ↔ x = .error (.ok .completed) := by
  constructor
  · intro h
    unfold reportsCompleted at h
    split at h
    · rfl
    · cases h
  · rintro rfl
    rfl

/-- What the two ticks compute, evaluated once. -/
private theorem forge_run : ∃ s, step forgeProbes forgeSession forgeTick = some s ∧
    s.clock = fromSecs 10 ∧ s.monitor.dispatchTime = 0 ∧
    reportsCompleted (s.monitor.tick forgeProbes signalTick) = true ∧
    (s.monitor.resolvedCheckpoint forgeProbes signalTick).all (!·.isNearCompletion) = true ∧
    (forgeSession.monitor.resolvedCheckpoint forgeProbes forgeTick).all (!·.isNearCompletion) =
      true ∧
    (forgeSession.monitor.resolvedCheckpoint forgeProbes forgeTick).isSome = true := by
  apply exists_of_any
  decide +kernel

/-- A session whose hook says so is reported as completed after 20 seconds, although the checkpoint
is in its first phase all the time. -/
theorem completed_on_signal : ∃ s, exec (step forgeProbes) forgeSession [forgeTick] = some s ∧
    s.monitor.tick forgeProbes signalTick = .error (.ok .completed) ∧
    ¬ Sometime (step forgeProbes)
      (fun s w => ∃ cp, s.monitor.Reads forgeProbes w cp ∧ cp.isNearCompletion = true)
      forgeSession [forgeTick, signalTick] ∧
    Sometime (step forgeProbes)
      (fun s w => (s.monitor.resolvedCheckpoint forgeProbes w).isSome = true)
      forgeSession [forgeTick, signalTick] ∧
    asSecs (s.monitor.sessionAge signalTick) < FOREGROUND_MIN_COMPLETION_AGE_SECS := by
  obtain ⟨s, hstep, -, hdispatch, hcompleted, hunfinished, hfirst, hread⟩ := forge_run
  have hnotNear : ∀ (s : WatchedSession) (w : SessionSurroundings),
      (s.monitor.resolvedCheckpoint forgeProbes w).all (!·.isNearCompletion) = true →
        ¬ ∃ cp, s.monitor.Reads forgeProbes w cp ∧ cp.isNearCompletion = true := by
    rintro s w hall ⟨cp, hreads, hnear⟩
    rw [hreads.found, Option.all_some, hnear] at hall
    cases hall
  refine ⟨s, by rw [exec_singleton, hstep], reportsCompleted_iff.mp hcompleted, ?_, ?_, ?_⟩
  · rw [Sometime.cons hstep, sometime_singleton]
    rintro (hnear | hnear)
    · exact hnotNear _ _ hfirst hnear
    · exact hnotNear _ _ hunfinished hnear
  · rw [Sometime.cons hstep]
    exact .inl hread
  · rw [sessionAge, hdispatch]
    decide

/-- The run above, seen by the theorem. -/
theorem completed_on_signal_evidence : Sometime (step forgeProbes)
    (fun s w => s.monitor.Evidence forgeProbes w) forgeSession [forgeTick, signalTick] := by
  obtain ⟨s, hstep, hclock, -, hcompleted, -⟩ := forge_run
  have hrun : exec (step forgeProbes)
      (start "/repo" "/repo" 7 (.fromEnv fun _ => none) (fromSecs 21600) 0 0) [forgeTick] =
        some s := by
    rw [exec_singleton]
    exact hstep
  have hle : s.clock ≤ signalTick.now := by
    rw [hclock]
    decide
  exact (completed_has_evidence forgeProbes "/repo" "/repo" 7 (.fromEnv fun _ => none)
    (fromSecs 21600) 0 0 [forgeTick] s signalTick hrun hle).1 (reportsCompleted_iff.mp hcompleted)

end GreaterWill
