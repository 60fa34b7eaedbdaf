import GreaterWill.Engine.SessionMonitor
import Mathlib.Tactic.Simps.Basic

/-!
# What a tick of the session monitor changes

Of the variables of the monitor, those that bear on the checkpoint, the loop state and the
completion are its `Core`. Most steps of a tick leave the core alone; for the others it is said
what they change. `tick_cases` says how far a tick gets.
-/

namespace GreaterWill.SessionMonitor

/-- The variables that bear on the completion of the session. -/
structure Core where
  workingDir : PathBuf
  currentDir : PathBuf
  pid : UInt32
  watchdog : WatchdogConfig
  dispatchTime : Int
  lastCheckpointPoll : Int
  cachedCheckpointPath : Option PathBuf
  lastProcessGoneAt : Option Int
  loopStateEverSeen : Bool
  loopStateGoneSince : Option Int
  completionDetectedAt : Option Int

variable (probes : SessionProbes) (m : SessionMonitor) (w : SessionSurroundings)

@[simps] def core : Core where
  workingDir := m.workingDir
  currentDir := m.currentDir
  pid := m.pid
  watchdog := m.watchdog
  dispatchTime := m.dispatchTime
  lastCheckpointPoll := m.lastCheckpointPoll
  cachedCheckpointPath := m.cachedCheckpointPath
  lastProcessGoneAt := m.lastProcessGoneAt
  loopStateEverSeen := m.loopStateEverSeen
  loopStateGoneSince := m.loopStateGoneSince
  completionDetectedAt := m.completionDetectedAt

/-- The checkpoint the monitor finds. -/
def resolvedCheckpoint : Option Checkpoint :=
  (readCachedCheckpoint probes.serde w.files m.workingDir m.cachedCheckpointPath).1

/-- The path it is found under. -/
def resolvedPath : Option PathBuf :=
  (readCachedCheckpoint probes.serde w.files m.workingDir m.cachedCheckpointPath).2

/-- The loop state was there, is not active any more, and has not been for the grace period. -/
structure GoneForGrace : Prop where
  everSeen : m.loopStateEverSeen = true
  notActive : ∀ state, readArcLoopState w.files m.workingDir ≠ .active state
  elapsed : fromSecs LOOP_STATE_GONE_GRACE_SECS ≤ durationSince w.now (m.goneSince w)

variable {m} in
theorem GoneForGrace.congr {m' : SessionMonitor} (hdir : m'.workingDir = m.workingDir)
    (hseen : m'.loopStateEverSeen = m.loopStateEverSeen)
    (hsince : m'.loopStateGoneSince = m.loopStateGoneSince) :
    m'.GoneForGrace w ↔ m.GoneForGrace w := by
  have hgone : m'.goneSince w = m.goneSince w := by rw [goneSince, goneSince, hsince]
  constructor
  · rintro ⟨hs, ha, he⟩
    exact ⟨hseen ▸ hs, hdir ▸ ha, hgone ▸ he⟩
  · rintro ⟨hs, ha, he⟩
    exact ⟨hseen.trans hs, hdir.symm ▸ ha, hgone.symm ▸ he⟩

/-! ## Steps that leave the core alone -/

@[simp] theorem core_requestKill (reason : String) (errorClass : Option ErrorClass)
    (outcome : KillOutcome) : (m.requestKill w reason errorClass outcome).core = m.core := by
  rw [requestKill]
  split
  · rfl
  · rfl

@[simp] theorem core_countProbe (probe : SessionProbe) : (m.countProbe probe).2.core = m.core := by
  cases probe with
  | present => rfl
  | absent => rfl
  | unreachable => rfl

variable {m} in
theorem countProbe_eq_none {probe : SessionProbe} (h : (m.countProbe probe).1 = none) :
    probe = .unreachable := by
  cases probe with
  | present => cases h
  | absent => cases h
  | unreachable => rfl

variable {m} in
theorem countProbe_eq_false {probe : SessionProbe} (h : (m.countProbe probe).1 = some false) :
    probe = .present := by
  cases probe with
  | present => rfl
  | absent => cases h
  | unreachable =>
    rw [countProbe] at h
    dsimp only at h
    split at h
    · cases h
    · cases h

@[simp] theorem core_checkStopFailureSignal :
    (m.checkStopFailureSignal probes w).core = m.core := by
  rw [checkStopFailureSignal]
  split
  · rfl
  · dsimp only
    split
    · rfl
    · exact core_requestKill ..

@[simp] theorem core_checkPermissionPending : (m.checkPermissionPending w).core = m.core := by
  rw [checkPermissionPending]
  split
  · rfl
  · rfl

@[simp] theorem core_checkPipelineTimeout : (m.checkPipelineTimeout w).core = m.core := by
  rw [checkPipelineTimeout]
  split
  · exact core_requestKill ..
  · rfl

@[simp] theorem core_trackPhase (checkpoint : Checkpoint) :
    (m.trackPhase w checkpoint).core = m.core := by
  rw [trackPhase]
  split
  · rfl
  · dsimp only
    split
    · rfl
    · rfl

@[simp] theorem core_trackGaps (position : PhasePosition) :
    (m.trackGaps w position).core = m.core := by
  rw [trackGaps]
  split
  · rfl
  · split
    · rfl
    · rfl

@[simp] theorem core_trackHeartbeat (checkpoint : Checkpoint) :
    (m.trackHeartbeat probes w checkpoint).core = m.core := rfl

@[simp] theorem core_scanArtifacts : (m.scanArtifacts w).core = m.core := by
  rw [scanArtifacts]
  split
  · rfl
  · dsimp only
    split
    · rfl
    · split
      · rfl
      · rfl

@[simp] theorem core_evaluateErrorEvidence (content : String) :
    (m.evaluateErrorEvidence probes w content).2.core = m.core := by
  rw [evaluateErrorEvidence]
  dsimp only
  split
  · rfl
  · split
    · rfl
    · split
      · dsimp only
        split
        · exact core_requestKill ..
        · rfl
      · split
        · exact core_requestKill ..
        · rfl

@[simp] theorem core_checkPhaseTimeout : (m.checkPhaseTimeout w).core = m.core := by
  rw [checkPhaseTimeout]
  split
  · rfl
  · dsimp only
    split
    · exact core_requestKill ..
    · rfl

@[simp] theorem core_checkTransitionGap : (m.checkTransitionGap w).core = m.core := by
  rw [checkTransitionGap]
  split
  · rfl
  · dsimp only
    split
    · exact core_requestKill ..
    · split
      · rfl
      · split
        · rfl
        · rfl

@[simp] theorem core_checkFailedPhase : (m.checkFailedPhase w).core = m.core := by
  rw [checkFailedPhase]
  split
  · rfl
  · dsimp only
    split
    · exact core_requestKill ..
    · split
      · rfl
      · split
        · rfl
        · rfl

@[simp] theorem core_checkIdle : (m.checkIdle w).core = m.core := by
  rw [checkIdle]
  split
  · split
    · exact core_requestKill m w ..
    · exact core_requestKill m w ..
  · split
    · rfl
    · rfl

@[simp] theorem core_escalate : (m.escalate w).core = m.core := by
  simp [escalate]

theorem core_evaluateKillGate {m' : SessionMonitor} (h : m.evaluateKillGate w = .ok m') :
    m'.core = m.core := by
  rw [evaluateKillGate] at h
  split at h
  · cases h
    rfl
  · dsimp only at h
    split at h
    · cases h
      rfl
    · split at h
      · cases h
      · split at h
        · cases h
          rfl
        · cases h
          rfl

/-- The gate returns what the pending kill is for. -/
theorem evaluateKillGate_error {r : Return} (h : m.evaluateKillGate w = .error r) :
    ∃ pk, m.pendingKill = some pk ∧ r = killed w pk.finalOutcome := by
  rw [evaluateKillGate] at h
  split at h
  · cases h
  · next pk hpk =>
    dsimp only at h
    split at h
    · cases h
    · split at h
      · cases h
        exact ⟨pk, hpk, rfl⟩
      · split at h
        · cases h
        · cases h

/-! ## Completion, checkpoint and loop state -/

@[simp] theorem core_noteCompletion : (m.noteCompletion w).core =
    { m.core with completionDetectedAt := some (m.completionDetectedAt.getD w.now) } := rfl

@[simp] theorem core_checkSignals : (m.checkSignals probes w).core =
    { m.core with
      completionDetectedAt :=
        if m.signalsCompletion probes w then some (m.completionDetectedAt.getD w.now)
        else m.completionDetectedAt } := by
  simp only [checkSignals, core_checkPipelineTimeout, core_checkPermissionPending,
    core_checkStopFailureSignal, checkStopSignal]
  split
  · rfl
  · rfl

/-- The poll of the checkpoint. -/
theorem core_pollCheckpoint : (m.pollCheckpoint probes w).core =
    if m.pollDue w then
      { m.core with
        lastCheckpointPoll := w.now
        cachedCheckpointPath := m.resolvedPath probes w
        completionDetectedAt :=
          if (m.resolvedCheckpoint probes w).any fun cp => cp.isComplete && cp.isNearCompletion then
            some (m.completionDetectedAt.getD w.now)
          else m.completionDetectedAt }
    else m.core := by
  rw [pollCheckpoint]
  split
  · rw [readCheckpoint, resolvedPath, resolvedCheckpoint]
    dsimp only
    cases readCachedCheckpoint probes.serde w.files m.workingDir m.cachedCheckpointPath with
    | mk checkpoint cache =>
      cases checkpoint with
      | none => rfl
      | some checkpoint =>
        simp only [core_trackGaps, core_trackPhase, core_trackHeartbeat, Option.any_some]
        split
        · rfl
        · rfl
  · rfl

/-- The texts of the pane. -/
theorem core_checkPaneCompletion (content : String) :
    (m.checkPaneCompletion probes w content).core =
      if m.paneSpeaks probes w content then
        { m.core with
          cachedCheckpointPath := m.resolvedPath probes w
          completionDetectedAt :=
            if (m.resolvedCheckpoint probes w).any (·.isNearCompletion) then
              some (m.completionDetectedAt.getD w.now)
            else m.completionDetectedAt }
      else m.core := by
  rw [checkPaneCompletion]
  split
  · rw [readCheckpoint, resolvedPath, resolvedCheckpoint]
    dsimp only
    split
    · rfl
    · rfl
  · rfl

/-- Without a confirmed loss of the loop state, it is active, gone for less than the grace period,
or has never been there. -/
theorem trackLoopState_cases :
    (∃ m' seen since, m.trackLoopState probes w = .ok m' ∧ ¬ m.GoneForGrace w ∧
        m'.core = { m.core with loopStateEverSeen := seen, loopStateGoneSince := since } ∧
        (since = none ∨ since = m.loopStateGoneSince ∨ since = some (m.goneSince w))) ∨
      (∃ errorClass reason,
        m.trackLoopState probes w = .error (killed w (.errorDetected errorClass reason))) ∨
      m.GoneForGrace w ∧ m.trackLoopState probes w =
        ({ m with
          prevLoopState := none
          loopStateGoneSince := some (m.goneSince w) }).loopStateConfirmedGone probes w
            (readArcLoopState w.files m.workingDir).fileExists := by
  rw [trackLoopState]
  dsimp only
  split
  · next current hread =>
    refine .inl ⟨_, true, none, rfl, fun hgone => hgone.notActive current hread, rfl, .inl rfl⟩
  · next hread =>
    split
    · next hseen =>
      rw [loopStateGone]
      dsimp only
      split
      · next hwithin =>
        refine .inl ⟨_, m.loopStateEverSeen, _, rfl, ?_, rfl, .inr (.inr rfl)⟩
        intro hgone
        exact Nat.lt_irrefl _ (Nat.lt_of_lt_of_le hwithin hgone.elapsed)
      · next hover =>
        exact .inr (.inr ⟨⟨hseen, hread, Nat.not_lt.mp hover⟩, rfl⟩)
    · next hseen =>
      have hnot : ¬ m.GoneForGrace w := fun hgone => hseen hgone.everSeen
      rw [loopStateWarmup]
      dsimp only
      split
      · split
        · split
          · exact .inr (.inl ⟨_, _, rfl⟩)
          · exact .inl ⟨m, _, _, rfl, hnot, rfl, .inr (.inl rfl)⟩
        · exact .inr (.inl ⟨_, _, rfl⟩)
      · exact .inl ⟨m, _, _, rfl, hnot, rfl, .inr (.inl rfl)⟩

theorem goneByAge_cases :
    FOREGROUND_MIN_COMPLETION_AGE_SECS ≤ asSecs (m.sessionAge w) ∧
        m.goneByAge w = .ok (m.noteCompletion w) ∨
      asSecs (m.sessionAge w) < FOREGROUND_MIN_COMPLETION_AGE_SECS ∧
        ∃ reason, m.goneByAge w = .error (.ok (.crashed reason)) := by
  rw [goneByAge]
  split
  · next hage => exact .inl ⟨hage, rfl⟩
  · next hage => exact .inr ⟨Nat.lt_of_not_le hage, _, rfl⟩

/-- A confirmed loss of the loop state goes by the age of the session, unless its checkpoint is
unfinished and the file deleted. -/
theorem loopStateConfirmedGone_cases (fileOnDisk : Bool) :
    (∃ m' : SessionMonitor, m.loopStateConfirmedGone probes w fileOnDisk = m'.goneByAge w ∧
        m'.dispatchTime = m.dispatchTime ∧
        (m'.noteCompletion w).core =
          { m.core with
            cachedCheckpointPath := m.resolvedPath probes w
            completionDetectedAt := some (m.completionDetectedAt.getD w.now) } ∧
        ∀ cp, m.resolvedCheckpoint probes w = some cp →
          (cp.isComplete && cp.isNearCompletion) = true ∨ fileOnDisk = true) ∨
      (∃ reason, m.loopStateConfirmedGone probes w fileOnDisk = .error (.ok (.crashed reason))) ∧
        ∃ cp, m.resolvedCheckpoint probes w = some cp ∧
          (cp.isComplete && cp.isNearCompletion) = false := by
  have hread : m.readCheckpoint probes w = (m.resolvedCheckpoint probes w,
      { m with cachedCheckpointPath := m.resolvedPath probes w }) := rfl
  rw [loopStateConfirmedGone, hread]
  cases m.resolvedCheckpoint probes w with
  | none =>
    exact .inl ⟨{ m with cachedCheckpointPath := m.resolvedPath probes w }, rfl, rfl, rfl,
      fun _ hcp => nomatch hcp⟩
  | some cp =>
    dsimp only
    split
    · next hboth =>
      refine .inl ⟨_, rfl, rfl, rfl, ?_⟩
      intro cp' hcp'
      cases hcp'
      exact .inl hboth
    · next hnot =>
      split
      · next hdisk => exact .inl ⟨_, rfl, rfl, rfl, fun _ _ => .inr hdisk⟩
      · exact .inr ⟨⟨_, rfl⟩, cp, rfl, (Bool.not_eq_true _).mp hnot⟩

theorem checkProcessLiveness_of_none (h : m.lastProcessGoneAt = none) :
    ∃ flag since, m.checkProcessLiveness probes w =
        .ok (flag, { m with lastProcessGoneAt := since }) ∧
      (since = none ∨ since = some (w.now : Int)) := by
  rw [checkProcessLiveness]
  split
  · exact ⟨false, m.lastProcessGoneAt, rfl, .inl h⟩
  · rw [h]
    exact ⟨true, some w.now, rfl, .inr rfl⟩

/-- As long as the process is not known to be gone, only the kill gate can end the session here. -/
theorem tickAfterErrors_cases (hnone : m.lastProcessGoneAt = none) :
    (∃ m' since, m.tickAfterErrors probes w = .ok m' ∧
        m'.core = { m.core with lastProcessGoneAt := since } ∧
        (since = none ∨ since = some (w.now : Int))) ∨
      ∃ pk : PendingKillRequest,
        m.tickAfterErrors probes w = .error (killed w pk.finalOutcome) := by
  obtain ⟨gone, since, hlive, hsince⟩ := m.checkProcessLiveness_of_none probes w hnone
  rw [tickAfterErrors, hlive]
  cases gone with
  | true => exact .inl ⟨_, since, rfl, rfl, hsince⟩
  | false =>
    dsimp only
    cases hgate : (({ m with lastProcessGoneAt := since }).escalate w).evaluateKillGate w with
    | ok m' =>
      refine .inl ⟨m', since, rfl, ?_, hsince⟩
      rw [core_evaluateKillGate _ w hgate, core_escalate]
      rfl
    | error r =>
      obtain ⟨pk, -, rfl⟩ := evaluateKillGate_error _ w hgate
      exact .inr ⟨pk, rfl⟩

theorem tickFromErrors_cases (content : String) (hnone : m.lastProcessGoneAt = none) :
    (∃ m' since, m.tickFromErrors probes w content = .ok m' ∧
        m'.core = { m.core with lastProcessGoneAt := since } ∧
        (since = none ∨ since = some (w.now : Int))) ∨
      ∃ pk : PendingKillRequest,
        m.tickFromErrors probes w content = .error (killed w pk.finalOutcome) := by
  have hcore := m.core_evaluateErrorEvidence probes w content
  rw [tickFromErrors]
  split
  · next m₁ herror =>
    rw [herror] at hcore
    refine .inl ⟨m₁, none, rfl, ?_, .inl rfl⟩
    rw [hcore, ← hnone, ← core_lastProcessGoneAt]
  · next m₁ herror =>
    rw [herror] at hcore
    rw [← core_lastProcessGoneAt, ← hcore] at hnone
    rw [← hcore]
    exact m₁.tickAfterErrors_cases probes w hnone

theorem tickAfterLoopState_cases (content : String) (hnone : m.lastProcessGoneAt = none) :
    (∃ m' since, m.tickAfterLoopState probes w content = .ok m' ∧
        m'.core = { ((m.scanArtifacts w).checkPaneCompletion probes w content).core with
          lastProcessGoneAt := since } ∧
        (since = none ∨ since = some (w.now : Int))) ∨
      ∃ pk : PendingKillRequest,
        m.tickAfterLoopState probes w content = .error (killed w pk.finalOutcome) := by
  apply tickFromErrors_cases
  rw [← core_lastProcessGoneAt, core_checkPaneCompletion]
  split
  · rw [core_scanArtifacts, core_lastProcessGoneAt, hnone]
  · rw [core_scanArtifacts, core_lastProcessGoneAt, hnone]

theorem killed_eq_ok {outcome outcome' : SessionOutcome} (h : killed w outcome = .ok outcome') :
    outcome = outcome' := by
  rw [killed] at h
  cases hkill : w.killSession with
  | error e =>
    rw [hkill] at h
    cases h
  | ok u =>
    rw [hkill] at h
    cases h
    rfl

/-- A kill through the gate is neither a completion nor a crash. -/
theorem finalOutcome_cases (pk : PendingKillRequest) :
    pk.finalOutcome ≠ .completed ∧ ∀ reason, pk.finalOutcome ≠ .crashed reason := by
  rw [PendingKillRequest.finalOutcome]
  split
  · exact ⟨nofun, nofun⟩
  · exact ⟨nofun, nofun⟩
  · exact ⟨nofun, nofun⟩

/-! ## How far a tick gets -/

/-- The monitor after the probe. -/
def probed : SessionMonitor := ((m.checkSignals probes w).countProbe w.probe).2

/-- The monitor of a session that is there, where its pane is read. -/
def present : SessionMonitor := { m.probed probes w with lastProcessGoneAt := none }

/-- The monitor where the checks of a tick begin. -/
def seen (content : String) : SessionMonitor :=
  ((m.present probes w).checkPromptAccept probes w content).2.updateActivityFromPane probes w
    content

/-- A tick gets past the pane: the session is there, and its pane has a text without a prompt to
answer. -/
structure PastPane (content : String) : Prop where
  present : ((m.checkSignals probes w).countProbe w.probe).1 = some false
  pane : w.pane = some content
  noPrompt : ((m.present probes w).checkPromptAccept probes w content).1 = false

theorem core_probed : (m.probed probes w).core = (m.checkSignals probes w).core :=
  core_countProbe ..

@[simp] theorem core_updateActivityFromPane (content : String) :
    (m.updateActivityFromPane probes w content).core = m.core := by
  rw [updateActivityFromPane]
  split
  · rfl
  · rfl

theorem core_seen (content : String) : (m.seen probes w content).core =
    { (m.checkSignals probes w).core with lastProcessGoneAt := none } := by
  rw [seen, core_updateActivityFromPane, ← core_probed]
  rfl

theorem tick_of_vanished (h : ((m.checkSignals probes w).countProbe w.probe).1 = some true) :
    m.tick probes w = .error (.ok ((m.probed probes w).vanishedOutcome probes w)) := by
  rw [tick]
  split
  · next hprobe =>
    rw [hprobe] at h
    cases h
  · next m₁ hprobe => rw [probed, hprobe]
  · next hprobe =>
    rw [hprobe] at h
    cases h

theorem tick_cases :
    ((∀ content, ¬ m.PastPane probes w content) ∧ ∃ m' since, m.tick probes w = .ok m' ∧
        m'.core = { (m.checkSignals probes w).core with lastProcessGoneAt := since } ∧
        (w.probe = .unreachable ∧ since = m.lastProcessGoneAt ∨
          w.probe = .present ∧ since = none)) ∨
      (((m.checkSignals probes w).countProbe w.probe).1 = some true ∧
        m.tick probes w = .error (.ok ((m.probed probes w).vanishedOutcome probes w))) ∨
      ∃ content, m.PastPane probes w content ∧
        m.tick probes w = (m.seen probes w content).graceOrChecks probes w content := by
  rw [tick]
  dsimp only
  split
  · next m₁ hprobe =>
    refine .inl ⟨?_, m₁, (m.checkSignals probes w).lastProcessGoneAt, rfl, ?_, .inl ⟨?_, ?_⟩⟩
    · intro content hpast
      have hpresent := hpast.present
      rw [hprobe] at hpresent
      cases hpresent
    · exact (congrArg (core ·.2) hprobe).symm.trans (core_countProbe ..)
    · exact countProbe_eq_none (congrArg Prod.fst hprobe)
    · rw [← core_lastProcessGoneAt, core_checkSignals, core_lastProcessGoneAt]
  · next m₁ hprobe =>
    refine .inr (.inl ⟨by rw [hprobe], ?_⟩)
    rw [probed, hprobe]
  · next m₁ hprobe =>
    have hthere : w.probe = .present := countProbe_eq_false (congrArg Prod.fst hprobe)
    have hpresent : m.present probes w = { m₁ with lastProcessGoneAt := none } := by
      rw [present, probed, hprobe]
    rw [← hpresent, observePane]
    split
    · next hpane =>
      refine .inl ⟨?_, _, none, rfl, ?_, .inr ⟨hthere, rfl⟩⟩
      · intro content hpast
        have hcontent := hpast.pane
        rw [hpane] at hcontent
        cases hcontent
      · rw [← core_probed]
        rfl
    · next content hpane =>
      split
      · next m₂ hprompt =>
        refine .inl ⟨?_, _, none, rfl, ?_, .inr ⟨hthere, rfl⟩⟩
        · intro content' hpast
          obtain rfl : content = content' := Option.some.inj (hpane.symm.trans hpast.pane)
          have hno := hpast.noPrompt
          rw [hprompt] at hno
          cases hno
        · have hcore : m₂.core = (m.present probes w).core := congrArg (core ·.2) hprompt.symm
          rw [← core_probed]
          exact hcore
      · next m₂ hprompt =>
        refine .inr (.inr ⟨content, ⟨by rw [hprobe], hpane, by rw [hprompt]⟩, ?_⟩)
        rw [seen, hprompt]

end GreaterWill.SessionMonitor
