import GreaterWill.Daemon.RunMonitor

/-!
# What the steps of a tick change

For each step of a tick the fields it can change, and to what. A step sets no kill over a pending
one (`KillAdded`), and notes a completion once (`Noted`).
-/

namespace Except
variable {ε α β : Type} {x : Except ε α} {f : α → Except ε β}

theorem ok_bind (a : α) : ((.ok a : Except ε α) >>= f) = f a := rfl

theorem error_bind (e : ε) : ((.error e : Except ε α) >>= f) = .error e := rfl

theorem bind_eq_ok_iff {b : β} : (x >>= f) = .ok b ↔ ∃ a, x = .ok a ∧ f a = .ok b := by
  cases x with
  | error e => simp [bind, Except.bind]
  | ok a => simp [bind, Except.bind]

theorem eq_ok_getD (h : x.toOption.isSome = true) (a : α) : x = .ok (x.toOption.getD a) := by
  cases x with
  | error e => cases h
  | ok a' => rfl

theorem bind_eq_error_iff {e : ε} :
    (x >>= f) = .error e ↔ x = .error e ∨ ∃ a, x = .ok a ∧ f a = .error e := by
  cases x with
  | error e' => simp [bind, Except.bind]
  | ok a => simp [bind, Except.bind]

end Except

namespace GreaterWill

/-- The pending kill is the old one, or there was none and a kill is asked for now. -/
def KillAdded (now : Nat) (old new : Option PendingKillRequest) : Prop :=
  new = old ∨ old = none ∧ ∃ pk, new = some pk ∧ pk.startedAt = now

/-- The note is the old one, or there was none and it is taken now. -/
def Noted (now : Nat) (old new : Option Int) : Prop :=
  new = old ∨ old = none ∧ new = some (now : Int)

theorem KillAdded.refl {now : Nat} {k : Option PendingKillRequest} : KillAdded now k k :=
  .inl rfl

theorem KillAdded.trans {now : Nat} {k₁ k₂ k₃ : Option PendingKillRequest}
    (h : KillAdded now k₁ k₂) (h' : KillAdded now k₂ k₃) : KillAdded now k₁ k₃ := by
  rcases h with rfl | ⟨hnone, pk, hpk, hstart⟩
  · exact h'
  · rcases h' with rfl | ⟨hnone', -⟩
    · exact .inr ⟨hnone, pk, hpk, hstart⟩
    · rw [hnone'] at hpk
      cases hpk

/-- A pending kill stays as it is. -/
theorem KillAdded.eq_of_some {now : Nat} {k k' : Option PendingKillRequest}
    {pk : PendingKillRequest} (h : KillAdded now k k') (hk : k = some pk) : k' = some pk := by
  rcases h with rfl | ⟨hnone, -⟩
  · exact hk
  · rw [hk] at hnone
    cases hnone

theorem Noted.refl {now : Nat} {c : Option Int} : Noted now c c := .inl rfl

theorem Noted.trans {now : Nat} {c₁ c₂ c₃ : Option Int} (h : Noted now c₁ c₂)
    (h' : Noted now c₂ c₃) : Noted now c₁ c₃ := by
  rcases h with rfl | ⟨hnone, hsome⟩
  · exact h'
  · rcases h' with rfl | ⟨hnone', -⟩
    · exact .inr ⟨hnone, hsome⟩
    · rw [hnone'] at hsome
      cases hsome

theorem elapsedSecs_self (now : Nat) : elapsedSecs now now = 0 := by
  simp [elapsedSecs, durationSince, asSecs]

namespace DaemonRunMonitor
variable (probes : Probes) (m : DaemonRunMonitor) (w : Surroundings)

theorem requestKill_spec (reason : String) (outcome : KillOutcomeKind) :
    ∃ k, m.requestKill w reason outcome = { m with pendingKill := k } ∧
      KillAdded w.now m.pendingKill k := by
  rw [requestKill]
  split
  · exact ⟨m.pendingKill, rfl, .refl⟩
  · next h => exact ⟨_, rfl, .inr ⟨h, _, rfl, rfl⟩⟩

theorem noteCompletion_spec :
    ∃ c, m.noteCompletion w = { m with completionDetectedAt := c } ∧
      Noted w.now m.completionDetectedAt c := by
  refine ⟨_, rfl, ?_⟩
  cases m.completionDetectedAt with
  | none => exact .inr ⟨rfl, rfl⟩
  | some t => exact .inl rfl

/-- The signals note a completion, ask for a kill, and stand for activity. -/
theorem checkSignals_spec :
    ∃ c k, m.checkSignals probes w =
        { m with
          completionDetectedAt := c
          pendingKill := k
          lastActivity := if w.permissionPending then w.now else m.lastActivity } ∧
      Noted w.now m.completionDetectedAt c ∧ KillAdded w.now m.pendingKill k := by
  obtain ⟨c, hstop, hc⟩ : ∃ c, m.checkStopSignal probes w = { m with completionDetectedAt := c } ∧
      Noted w.now m.completionDetectedAt c := by
    rw [checkStopSignal]
    split
    · exact m.noteCompletion_spec w
    · exact ⟨_, rfl, .refl⟩
  obtain ⟨k, hfailure, hk⟩ : ∃ k, ({ m with completionDetectedAt := c }).checkStopFailureSignal
      probes w = { m with completionDetectedAt := c, pendingKill := k } ∧
      KillAdded w.now m.pendingKill k := by
    rw [checkStopFailureSignal]
    split
    · exact ⟨_, rfl, .refl⟩
    · exact requestKill_spec _ w _ _
  refine ⟨c, k, ?_, hc, hk⟩
  rw [checkSignals, hstop, hfailure, checkPermissionPending]
  split
  · rfl
  · rfl

theorem probeSession_spec : ∃ n, (m.probeSession w).2 = { m with consecutiveUnreachable := n } := by
  rw [probeSession]
  split
  · exact ⟨_, rfl⟩
  · exact ⟨_, rfl⟩
  · exact ⟨_, rfl⟩

theorem checkPaneCompletion_spec (content : String) :
    ∃ c, m.checkPaneCompletion probes w content = { m with completionDetectedAt := c } ∧
      Noted w.now m.completionDetectedAt c := by
  rw [checkPaneCompletion]
  split
  · exact ⟨_, rfl, .refl⟩
  · dsimp only
    split
    · exact m.noteCompletion_spec w
    · exact ⟨_, rfl, .refl⟩

theorem evaluateErrorEvidence_spec (content : String) :
    ∃ s t e k, m.evaluateErrorEvidence probes w content =
        { m with
          cachedSwarmActive := s
          lastSwarmCheck := t
          errorConfirmSince := e
          pendingKill := k } ∧
      KillAdded w.now m.pendingKill k := by
  obtain ⟨s, t, hswarm⟩ : ∃ s t, m.refreshSwarmActivity w =
      { m with cachedSwarmActive := s, lastSwarmCheck := t } := by
    rw [refreshSwarmActivity]
    split
    · exact ⟨_, _, rfl⟩
    · exact ⟨_, _, rfl⟩
  rw [evaluateErrorEvidence, hswarm]
  dsimp only
  split
  · exact ⟨s, t, none, _, rfl, .refl⟩
  · split
    · exact ⟨s, t, _, _, rfl, .refl⟩
    · split
      · exact ⟨s, t, _, _, rfl, .refl⟩
      · split
        · obtain ⟨k, hk, hadded⟩ := requestKill_spec
            { m with cachedSwarmActive := s, lastSwarmCheck := t } w _ _
          exact ⟨s, t, _, k, hk, hadded⟩
        · exact ⟨s, t, _, _, rfl, .refl⟩

/-- The activity the pane shows. -/
def paneActivity : UInt64 × Int :=
  match w.pane with
  | none => (m.lastPaneHash, m.lastActivity)
  | some content =>
    (probes.hashStr content,
      if probes.hashStr content = m.lastPaneHash then m.lastActivity else w.now)

/-- Whether the tick answers a prompt. -/
def promptAccepted : Bool :=
  w.pane.any fun content =>
    (m.promptAcceptor.checkAndAccept probes.toLowercase content w.enterSent w.now).1

theorem observePane_spec :
    ∃ n p c s t e k, m.observePane probes w =
        (m.promptAccepted probes w,
          { m with
            lastPaneHash := (m.paneActivity probes w).1
            lastActivity := (m.paneActivity probes w).2
            nudgeCount := n
            promptAcceptor := p
            completionDetectedAt := c
            cachedSwarmActive := s
            lastSwarmCheck := t
            errorConfirmSince := e
            pendingKill := k }) ∧
      Noted w.now m.completionDetectedAt c ∧ KillAdded w.now m.pendingKill k := by
  rw [observePane, promptAccepted, paneActivity]
  cases hpane : w.pane with
  | none => exact ⟨_, _, _, _, _, _, _, rfl, .refl, .refl⟩
  | some content =>
    obtain ⟨n, hactivity⟩ : ∃ n, m.updateActivityFromPane probes w content =
        { m with
          lastPaneHash := probes.hashStr content
          lastActivity :=
            if probes.hashStr content = m.lastPaneHash then m.lastActivity else w.now
          nudgeCount := n } := by
      rw [updateActivityFromPane]
      split
      · next h => exact ⟨_, by rw [h]⟩
      · exact ⟨_, rfl⟩
    dsimp only
    rw [hactivity, checkPromptAccept]
    dsimp only [Option.any_some]
    cases hprompt : m.promptAcceptor.checkAndAccept probes.toLowercase content w.enterSent w.now with
    | mk accepted acceptor =>
      cases accepted with
      | true => exact ⟨n, acceptor, _, _, _, _, _, rfl, .refl, .refl⟩
      | false =>
        dsimp only
        obtain ⟨c, hcompletion, hc⟩ := checkPaneCompletion_spec probes
          { m with
            lastPaneHash := probes.hashStr content
            lastActivity :=
              if probes.hashStr content = m.lastPaneHash then m.lastActivity else w.now
            nudgeCount := n
            promptAcceptor := acceptor } w content
        rw [hcompletion]
        obtain ⟨s, t, e, k, herror, hk⟩ := evaluateErrorEvidence_spec probes
          { m with
            lastPaneHash := probes.hashStr content
            lastActivity :=
              if probes.hashStr content = m.lastPaneHash then m.lastActivity else w.now
            nudgeCount := n
            promptAcceptor := acceptor
            completionDetectedAt := c } w content
        exact ⟨n, acceptor, c, s, t, e, k, by rw [herror], hc, hk⟩

/-! ## The checkpoint and the loop state -/

theorem trackPhase_spec (checkpoint : Checkpoint) :
    ∃ ps ph pr et n, m.trackPhase w checkpoint =
      { m with
        phaseStartedAt := ps
        currentPhase := ph
        currentProfile := pr
        effectivePhaseTimeout := et
        nudgeCount := n } := by
  rw [trackPhase]
  split
  · exact ⟨_, _, _, _, _, rfl⟩
  · cases checkpoint.inferPhasePosition.effectivePhase with
    | none => exact ⟨_, _, _, _, _, rfl⟩
    | some phase => exact ⟨_, _, _, _, _, rfl⟩

theorem trackGaps_spec (position : PhasePosition) :
    ∃ ts tn fs fn, m.trackGaps probes w position =
      { m with
        inTransitionSince := ts
        transitionNudgeCount := tn
        inFailedSince := fs
        failedNudgeCount := fn } := by
  rw [trackGaps]
  split
  · exact ⟨_, _, _, _, rfl⟩
  · split
    · exact ⟨_, _, _, _, rfl⟩
    · exact ⟨_, _, _, _, rfl⟩

theorem pollCheckpoint_of_none (h : m.resolvedCheckpoint probes w = none) :
    m.pollCheckpoint probes w = m := by
  rw [resolvedCheckpoint] at h
  rw [pollCheckpoint]
  split
  · rfl
  · next cp cache heq =>
    rw [heq] at h
    cases h

/-- A checkpoint that was read sets the slot, the heartbeat and what depends on the phase. -/
theorem pollCheckpoint_of_some {cp : Checkpoint}
    (h : m.resolvedCheckpoint probes w = some cp) :
    ∃ ps ph pr et n ts tn fs fn, m.pollCheckpoint probes w =
      { m with
        cachedCheckpointPath :=
          (readCachedCheckpoint probes.serde w.files m.repoDir m.cachedCheckpointPath).2
        lastCheckpointActivity := w.now
        phaseStartedAt := ps
        currentPhase := ph
        currentProfile := pr
        effectivePhaseTimeout := et
        nudgeCount := n
        inTransitionSince := ts
        transitionNudgeCount := tn
        inFailedSince := fs
        failedNudgeCount := fn } := by
  rw [resolvedCheckpoint] at h
  rw [pollCheckpoint]
  split
  · next heq =>
    rw [heq] at h
    cases h
  · next cp' cache heq =>
    obtain ⟨ps, ph, pr, et, n, hphase⟩ := trackPhase_spec
      { m with cachedCheckpointPath := cache, lastCheckpointActivity := w.now } w cp'
    dsimp only
    rw [hphase, heq]
    obtain ⟨ts, tn, fs, fn, hgaps⟩ := trackGaps_spec probes
      { m with
        cachedCheckpointPath := cache
        lastCheckpointActivity := w.now
        phaseStartedAt := ps
        currentPhase := ph
        currentProfile := pr
        effectivePhaseTimeout := et
        nudgeCount := n } w cp'.inferPhasePosition
    exact ⟨ps, ph, pr, et, n, ts, tn, fs, fn, hgaps⟩

theorem pollCheckpoint_spec :
    ∃ c a ps ph pr et n ts tn fs fn, m.pollCheckpoint probes w =
        { m with
          cachedCheckpointPath := c
          lastCheckpointActivity := a
          phaseStartedAt := ps
          currentPhase := ph
          currentProfile := pr
          effectivePhaseTimeout := et
          nudgeCount := n
          inTransitionSince := ts
          transitionNudgeCount := tn
          inFailedSince := fs
          failedNudgeCount := fn } ∧
      (c = m.cachedCheckpointPath ∧ m.resolvedCheckpoint probes w = none ∨
        c = (readCachedCheckpoint probes.serde w.files m.repoDir m.cachedCheckpointPath).2) ∧
      a = if (m.resolvedCheckpoint probes w).isSome then (w.now : Int)
        else m.lastCheckpointActivity := by
  cases h : m.resolvedCheckpoint probes w with
  | none =>
    rw [pollCheckpoint_of_none probes m w h]
    exact ⟨_, _, _, _, _, _, _, _, _, _, _, rfl, .inl ⟨rfl, rfl⟩, rfl⟩
  | some cp =>
    obtain ⟨ps, ph, pr, et, n, ts, tn, fs, fn, hpoll⟩ := pollCheckpoint_of_some probes m w h
    exact ⟨_, _, ps, ph, pr, et, n, ts, tn, fs, fn, hpoll, .inr rfl, rfl⟩

/-- What the poll of an active loop state notes; it notes nothing else of one that is not. -/
def loopPolled : DaemonRunMonitor :=
  match readArcLoopState w.files m.repoDir with
  | .active state => m.loopStateActive w state
  | _ => m

theorem loopPolled_spec :
    ∃ e g p c a, m.loopPolled w =
      { m with
        loopStateEverSeen := e
        loopStateGoneSince := g
        prevLoopState := p
        lastLoopStateChange := c
        lastActivity := a } := by
  rw [loopPolled]
  cases readArcLoopState w.files m.repoDir with
  | active state => exact ⟨_, _, _, _, _, rfl⟩
  | missing => exact ⟨_, _, _, _, _, rfl⟩
  | inactive => exact ⟨_, _, _, _, _, rfl⟩

variable {m} in
/-- What a poll notes depends on what was noted before. -/
theorem loopPolled_congr {m₁ : DaemonRunMonitor} (hdir : m₁.repoDir = m.repoDir)
    (hprev : m₁.prevLoopState = m.prevLoopState)
    (hchange : m₁.lastLoopStateChange = m.lastLoopStateChange)
    (hactivity : m₁.lastActivity = m.lastActivity) :
    (m₁.loopPolled w).prevLoopState = (m.loopPolled w).prevLoopState ∧
      (m₁.loopPolled w).lastLoopStateChange = (m.loopPolled w).lastLoopStateChange ∧
      (m₁.loopPolled w).lastActivity = (m.loopPolled w).lastActivity := by
  rw [loopPolled, loopPolled, hdir]
  cases readArcLoopState w.files m.repoDir with
  | active state =>
    refine ⟨rfl, ?_, ?_⟩
    · dsimp only [loopStateActive]
      rw [hprev, hchange]
    · dsimp only [loopStateActive]
      rw [hprev, hactivity]
  | missing => exact ⟨hprev, hchange, hactivity⟩
  | inactive => exact ⟨hprev, hchange, hactivity⟩

/-- A poll of the loop state that does not end the run. -/
theorem pollLoopState_ok {m' : DaemonRunMonitor} (h : m.pollLoopState probes w = .ok m') :
    ∃ g c, m' = { m.loopPolled w with loopStateGoneSince := g, cachedCheckpointPath := c } ∧
      (c = m.cachedCheckpointPath ∨
        c = (readCachedCheckpoint probes.serde w.files m.repoDir m.cachedCheckpointPath).2) := by
  rw [pollLoopState] at h
  split at h
  · next state hread =>
    have hpolled : m.loopPolled w = m.loopStateActive w state := by rw [loopPolled, hread]
    cases h
    rw [hpolled]
    exact ⟨_, _, rfl, .inl rfl⟩
  · next hread =>
    have hpolled : m.loopPolled w = m := by
      rw [loopPolled]
      cases hloop : readArcLoopState w.files m.repoDir with
      | active state => exact absurd hloop (hread state)
      | missing => rfl
      | inactive => rfl
    rw [hpolled]
    split at h
    · rw [loopStateGone] at h
      dsimp only at h
      split at h
      · split at h
        · split at h
          · cases h
          · cases h
            exact ⟨none, _, rfl, .inr rfl⟩
        · cases h
          exact ⟨_, _, rfl, .inl rfl⟩
      · split at h
        · split at h
          · cases h
          · cases h
        · cases h
          exact ⟨_, _, rfl, .inl rfl⟩
    · rw [loopStateWarmup] at h
      split at h
      · cases h
      · split at h
        · cases h
        · cases h
          exact ⟨_, _, rfl, .inl rfl⟩

/-- Where the loop state ends the run as completed, the checkpoint is near completion. -/
theorem pollLoopState_completed (h : m.pollLoopState probes w = .error .completed) :
    ∃ cp, m.resolvedCheckpoint probes w = some cp ∧ cp.isNearCompletion = true := by
  rw [pollLoopState] at h
  split at h
  · cases h
  · split at h
    · rw [loopStateGone] at h
      dsimp only at h
      split at h
      · split at h
        · split at h
          · next hnear => exact (Option.any_eq_true ..).mp hnear
          · cases h
        · cases h
      · split at h
        · split at h
          · next hnear => exact (Option.any_eq_true ..).mp hnear
          · cases h
        · cases h
    · rw [loopStateWarmup] at h
      split at h
      · cases h
      · split at h
        · cases h
        · cases h

/-! ## Artifacts, liveness and escalation -/

theorem scanArtifacts_spec :
    ∃ s a p, m.scanArtifacts w =
      { m with lastArtifactScan := s, lastArtifactActivity := a, lastArtifactSnapshot := p } := by
  rw [scanArtifacts]
  split
  · exact ⟨_, _, _, rfl⟩
  · dsimp only
    split
    · exact ⟨_, _, _, rfl⟩
    · exact ⟨_, _, _, rfl⟩

theorem checkProcessLiveness_ok {m' : DaemonRunMonitor}
    (h : m.checkProcessLiveness w = .ok m') : ∃ g, m' = { m with lastProcessGoneAt := g } := by
  rw [checkProcessLiveness] at h
  split at h
  · cases h
    exact ⟨_, rfl⟩
  · split at h
    · cases h
      exact ⟨_, rfl⟩
    · dsimp only at h
      split at h
      · cases h
      · cases h
        exact ⟨_, rfl⟩

theorem checkProcessLiveness_ne_completed : m.checkProcessLiveness w ≠ .error .completed := by
  rw [checkProcessLiveness]
  split
  · nofun
  · split
    · nofun
    · dsimp only
      split
      · nofun
      · nofun

theorem finalOutcome_ne_completed (pk : PendingKillRequest) : pk.finalOutcome ≠ .completed := by
  rw [PendingKillRequest.finalOutcome]
  split
  · nofun
  · nofun
  · nofun

theorem evaluateKillGate_ne_completed : m.evaluateKillGate w ≠ .error .completed := by
  rw [evaluateKillGate]
  split
  · nofun
  · next pk _ =>
    dsimp only
    split
    · nofun
    · split
      · intro h
        exact finalOutcome_ne_completed pk (Except.error.inj h)
      · split
        · nofun
        · nofun

theorem evaluateKillGate_ok {m' : DaemonRunMonitor} (h : m.evaluateKillGate w = .ok m') :
    ∃ k, m' = { m with pendingKill := k } := by
  rw [evaluateKillGate] at h
  split at h
  · cases h
    exact ⟨_, rfl⟩
  · dsimp only at h
    split at h
    · cases h
      exact ⟨_, rfl⟩
    · split at h
      · cases h
      · split at h
        · cases h
          exact ⟨_, rfl⟩
        · cases h
          exact ⟨_, rfl⟩

/-- The escalations between the liveness check and the gate. -/
def escalate : DaemonRunMonitor :=
  (((m.checkPhaseTimeout w).checkTransitionGap w).checkFailedPhase w).checkIdleOutsideGaps w

/-- An escalation may ask for a kill, and counts its nudges. -/
def EscalatedTo (now : Nat) (m m' : DaemonRunMonitor) : Prop :=
  ∃ k n tn fn, m' =
      { m with
        pendingKill := k
        nudgeCount := n
        transitionNudgeCount := tn
        failedNudgeCount := fn } ∧
    KillAdded now m.pendingKill k

theorem EscalatedTo.trans {now : Nat} {m₁ m₂ m₃ : DaemonRunMonitor} (h : EscalatedTo now m₁ m₂)
    (h' : EscalatedTo now m₂ m₃) : EscalatedTo now m₁ m₃ := by
  obtain ⟨k, n, tn, fn, rfl, hk⟩ := h
  obtain ⟨k', n', tn', fn', rfl, hk'⟩ := h'
  exact ⟨k', n', tn', fn', rfl, hk.trans hk'⟩

theorem requestKill_escalated (reason : String) (outcome : KillOutcomeKind) :
    EscalatedTo w.now m (m.requestKill w reason outcome) := by
  obtain ⟨k, heq, hk⟩ := m.requestKill_spec w reason outcome
  exact ⟨k, _, _, _, heq, hk⟩

theorem EscalatedTo.refl {now : Nat} : EscalatedTo now m m := ⟨_, _, _, _, rfl, .refl⟩

theorem checkPhaseTimeout_escalated : EscalatedTo w.now m (m.checkPhaseTimeout w) := by
  rw [checkPhaseTimeout]
  split
  · exact .refl m
  · dsimp only
    generalize (if 0 < m.effectivePhaseTimeout then m.effectivePhaseTimeout
      else m.currentProfile.phaseTimeoutSecs) = budget
    split
    · exact m.requestKill_escalated w _ _
    · exact .refl m

theorem checkTransitionGap_escalated : EscalatedTo w.now m (m.checkTransitionGap w) := by
  rw [checkTransitionGap]
  split
  · exact .refl m
  · dsimp only
    split
    · exact m.requestKill_escalated w _ _
    · split
      · exact ⟨_, _, _, _, rfl, .refl⟩
      · split
        · exact ⟨_, _, _, _, rfl, .refl⟩
        · exact .refl m

theorem checkFailedPhase_escalated : EscalatedTo w.now m (m.checkFailedPhase w) := by
  rw [checkFailedPhase]
  split
  · exact .refl m
  · dsimp only
    split
    · exact m.requestKill_escalated w _ _
    · split
      · exact ⟨_, _, _, _, rfl, .refl⟩
      · split
        · exact ⟨_, _, _, _, rfl, .refl⟩
        · exact .refl m

theorem checkIdle_escalated : EscalatedTo w.now m (m.checkIdle w) := by
  rw [checkIdle]
  split
  · exact m.requestKill_escalated w _ _
  · split
    · exact ⟨_, _, _, _, rfl, .refl⟩
    · exact .refl m

theorem checkIdleOutsideGaps_escalated : EscalatedTo w.now m (m.checkIdleOutsideGaps w) := by
  rw [checkIdleOutsideGaps]
  split
  · exact m.checkIdle_escalated w
  · exact .refl m

theorem escalate_escalated : EscalatedTo w.now m (m.escalate w) := by
  exact ((m.checkPhaseTimeout_escalated w).trans (checkTransitionGap_escalated _ w)).trans
    ((checkFailedPhase_escalated _ w).trans (checkIdleOutsideGaps_escalated _ w))

variable {m} in
/-- What a scan notes depends on what was noted before, and on where it looks. -/
theorem scanArtifacts_congr {m₁ : DaemonRunMonitor}
    (hscan : m₁.lastArtifactScan = m.lastArtifactScan) (hwatchdog : m₁.watchdog = m.watchdog)
    (hcached : m₁.cachedCheckpointPath = m.cachedCheckpointPath)
    (hactivity : m₁.lastArtifactActivity = m.lastArtifactActivity)
    (hsnapshot : m₁.lastArtifactSnapshot = m.lastArtifactSnapshot) :
    (m₁.scanArtifacts w).lastArtifactScan = (m.scanArtifacts w).lastArtifactScan ∧
      (m₁.scanArtifacts w).lastArtifactActivity = (m.scanArtifacts w).lastArtifactActivity ∧
      (m₁.scanArtifacts w).lastArtifactSnapshot = (m.scanArtifacts w).lastArtifactSnapshot := by
  rw [scanArtifacts, scanArtifacts, hscan, hwatchdog]
  dsimp only
  rw [hcached]
  split
  · exact ⟨hscan, hactivity, hsnapshot⟩
  · split
    · exact ⟨rfl, hactivity, hsnapshot⟩
    · dsimp only
      rw [hactivity, hsnapshot]
      exact ⟨rfl, rfl, rfl⟩

/-! ## Up to the kill gate -/

/-- The part of a tick between the pane and the kill gate. -/
def upToGate : Except DaemonRunOutcome DaemonRunMonitor := do
  m.checkCompletionGrace w
  let m ← (m.pollCheckpoint probes w).pollLoopState probes w
  let m ← (m.scanArtifacts w).checkProcessLiveness w
  return m.escalate w

theorem tickAfterPane_eq :
    m.tickAfterPane probes w = m.upToGate probes w >>= fun m => m.evaluateKillGate w := by
  rw [upToGate, bind_assoc]
  simp only [bind_assoc, pure_bind]
  rfl

/-- What the monitor `p` has kept and noted after the polls of the checkpoint and the loop state. -/
structure Polled (m : DaemonRunMonitor) (w : Surroundings) (p : DaemonRunMonitor) : Prop where
  repoDir : p.repoDir = m.repoDir
  claudePid : p.claudePid = m.claudePid
  watchdog : p.watchdog = m.watchdog
  lastPaneHash : p.lastPaneHash = m.lastPaneHash
  lastActivity : p.lastActivity = (m.loopPolled w).lastActivity
  prevLoopState : p.prevLoopState = (m.loopPolled w).prevLoopState
  lastLoopStateChange : p.lastLoopStateChange = (m.loopPolled w).lastLoopStateChange
  lastCheckpointActivity : p.lastCheckpointActivity =
    if (m.resolvedCheckpoint probes w).isSome then (w.now : Int) else m.lastCheckpointActivity
  cached : p.cachedCheckpointPath = m.cachedCheckpointPath ∧
      m.resolvedCheckpoint probes w = none ∨
    p.cachedCheckpointPath =
      (readCachedCheckpoint probes.serde w.files m.repoDir m.cachedCheckpointPath).2
  lastArtifactScan : p.lastArtifactScan = m.lastArtifactScan
  lastArtifactActivity : p.lastArtifactActivity = m.lastArtifactActivity
  lastArtifactSnapshot : p.lastArtifactSnapshot = m.lastArtifactSnapshot
  pendingKill : p.pendingKill = m.pendingKill

/-- What the monitor `g` that comes to the kill gate has kept and noted since the pane. -/
structure Gated (m : DaemonRunMonitor) (w : Surroundings) (g : DaemonRunMonitor) : Prop where
  repoDir : g.repoDir = m.repoDir
  claudePid : g.claudePid = m.claudePid
  watchdog : g.watchdog = m.watchdog
  lastPaneHash : g.lastPaneHash = m.lastPaneHash
  lastActivity : g.lastActivity = (m.loopPolled w).lastActivity
  prevLoopState : g.prevLoopState = (m.loopPolled w).prevLoopState
  lastLoopStateChange : g.lastLoopStateChange = (m.loopPolled w).lastLoopStateChange
  lastCheckpointActivity : g.lastCheckpointActivity =
    if (m.resolvedCheckpoint probes w).isSome then (w.now : Int) else m.lastCheckpointActivity
  cached : g.cachedCheckpointPath = m.cachedCheckpointPath ∧
      m.resolvedCheckpoint probes w = none ∨
    g.cachedCheckpointPath =
      (readCachedCheckpoint probes.serde w.files m.repoDir m.cachedCheckpointPath).2
  /-- The scan looks beside the checkpoint found in this tick. -/
  lastArtifactScan : g.lastArtifactScan =
    (({ m with cachedCheckpointPath := g.cachedCheckpointPath }).scanArtifacts w).lastArtifactScan
  lastArtifactActivity : g.lastArtifactActivity =
    (({ m with cachedCheckpointPath := g.cachedCheckpointPath }).scanArtifacts
      w).lastArtifactActivity
  lastArtifactSnapshot : g.lastArtifactSnapshot =
    (({ m with cachedCheckpointPath := g.cachedCheckpointPath }).scanArtifacts
      w).lastArtifactSnapshot

variable {m} {probes} {w}

theorem polled_of_ok {p : DaemonRunMonitor}
    (h : (m.pollCheckpoint probes w).pollLoopState probes w = .ok p) : Polled probes m w p := by
  obtain ⟨c, a, _, _, _, _, _, _, _, _, _, hpoll, hc, ha⟩ := m.pollCheckpoint_spec probes w
  obtain ⟨hprev, hchange, hactivity⟩ :=
    @loopPolled_congr m w (m.pollCheckpoint probes w) (by rw [hpoll]) (by rw [hpoll])
      (by rw [hpoll]) (by rw [hpoll])
  rw [hpoll] at h hprev hchange hactivity
  obtain ⟨_, c', rfl, hc'⟩ := pollLoopState_ok probes _ w h
  obtain ⟨_, _, _, _, _, hloop⟩ := loopPolled_spec _ w
  refine {
    repoDir := by rw [hloop]
    claudePid := by rw [hloop]
    watchdog := by rw [hloop]
    lastPaneHash := by rw [hloop]
    lastActivity := hactivity
    prevLoopState := hprev
    lastLoopStateChange := hchange
    lastCheckpointActivity := by rw [hloop, ← ha]
    cached := ?_
    lastArtifactScan := by rw [hloop]
    lastArtifactActivity := by rw [hloop]
    lastArtifactSnapshot := by rw [hloop]
    pendingKill := by rw [hloop] }
  rcases hc with ⟨rfl, hnone⟩ | rfl
  · rcases hc' with rfl | rfl
    · exact .inl ⟨rfl, hnone⟩
    · exact .inr rfl
  · rcases hc' with rfl | rfl
    · exact .inr rfl
    · exact .inr (congrArg Prod.snd (readCachedCheckpoint_again m.cachedCheckpointPath))

theorem upToGate_ok {g : DaemonRunMonitor} (h : m.upToGate probes w = .ok g) :
    Gated probes m w g := by
  obtain ⟨_, -, h⟩ := Except.bind_eq_ok_iff.mp h
  obtain ⟨p, hpoll, h⟩ := Except.bind_eq_ok_iff.mp h
  obtain ⟨_, hlive, h⟩ := Except.bind_eq_ok_iff.mp h
  cases h
  obtain ⟨_, rfl⟩ := checkProcessLiveness_ok _ w hlive
  obtain ⟨_, _, _, _, hescalate, -⟩ := escalate_escalated _ w
  have hp := polled_of_ok hpoll
  obtain ⟨hscanned, hartifact, hsnapshot⟩ := scanArtifacts_congr (m := { m with
    cachedCheckpointPath := p.cachedCheckpointPath }) w hp.lastArtifactScan hp.watchdog rfl
    hp.lastArtifactActivity hp.lastArtifactSnapshot
  obtain ⟨_, _, _, hscan⟩ := p.scanArtifacts_spec w
  rw [hescalate]
  rw [hscan] at hscanned hartifact hsnapshot ⊢
  exact {
    repoDir := hp.repoDir
    claudePid := hp.claudePid
    watchdog := hp.watchdog
    lastPaneHash := hp.lastPaneHash
    lastActivity := hp.lastActivity
    prevLoopState := hp.prevLoopState
    lastLoopStateChange := hp.lastLoopStateChange
    lastCheckpointActivity := hp.lastCheckpointActivity
    cached := hp.cached
    lastArtifactScan := hscanned
    lastArtifactActivity := hartifact
    lastArtifactSnapshot := hsnapshot }

theorem upToGate_killAdded {g : DaemonRunMonitor} (h : m.upToGate probes w = .ok g) :
    KillAdded w.now m.pendingKill g.pendingKill := by
  obtain ⟨_, -, h⟩ := Except.bind_eq_ok_iff.mp h
  obtain ⟨p, hpoll, h⟩ := Except.bind_eq_ok_iff.mp h
  obtain ⟨_, hlive, h⟩ := Except.bind_eq_ok_iff.mp h
  cases h
  obtain ⟨_, rfl⟩ := checkProcessLiveness_ok _ w hlive
  obtain ⟨k, _, _, _, hescalate, hk⟩ := escalate_escalated _ w
  obtain ⟨_, _, _, hscan⟩ := p.scanArtifacts_spec w
  have hkill : (p.scanArtifacts w).pendingKill = p.pendingKill := by rw [hscan]
  rw [hescalate, ← (polled_of_ok hpoll).pendingKill, ← hkill]
  exact hk

variable (m) (probes) (w)

/-! ## A tick -/

/-- The monitor after the signals and the session probe. -/
def probed : DaemonRunMonitor := ((m.checkSignals probes w).probeSession w).2

/-- The monitor after the pane. -/
def seen : DaemonRunMonitor := ((m.probed probes w).observePane probes w).2

/-- A tick gets past the pane if the budget is not spent, the session is not gone and no prompt is
answered. -/
structure PastPane : Prop where
  inBudget : durationSince w.now m.runStartedAt < fromSecs m.watchdog.pipelineTimeoutSecs
  sessionThere : (m.probeSession w).1 = false
  noPrompt : m.promptAccepted probes w = false

theorem probed_spec :
    ∃ c k n, m.probed probes w =
        { m with
          completionDetectedAt := c
          pendingKill := k
          lastActivity := if w.permissionPending then w.now else m.lastActivity
          consecutiveUnreachable := n } ∧
      Noted w.now m.completionDetectedAt c ∧ KillAdded w.now m.pendingKill k := by
  obtain ⟨c, k, hsignals, hc, hk⟩ := m.checkSignals_spec probes w
  obtain ⟨n, hprobe⟩ := (m.checkSignals probes w).probeSession_spec w
  refine ⟨c, k, n, ?_, hc, hk⟩
  rw [probed, hprobe, hsignals]

/-- The activity before the poll of the checkpoint: a pending permission, or a new pane text. -/
def seenActivity : UInt64 × Int :=
  ({ m with lastActivity := if w.permissionPending then w.now else m.lastActivity }).paneActivity
    probes w

theorem seen_spec :
    ∃ n p c s t e k u, m.seen probes w =
        { m with
          lastPaneHash := (m.seenActivity probes w).1
          lastActivity := (m.seenActivity probes w).2
          nudgeCount := n
          promptAcceptor := p
          completionDetectedAt := c
          cachedSwarmActive := s
          lastSwarmCheck := t
          errorConfirmSince := e
          pendingKill := k
          consecutiveUnreachable := u } ∧
      Noted w.now m.completionDetectedAt c ∧ KillAdded w.now m.pendingKill k := by
  obtain ⟨c, k, u, hprobed, hc, hk⟩ := m.probed_spec probes w
  obtain ⟨n, p, c', s, t, e, k', hpane, hc', hk'⟩ := (m.probed probes w).observePane_spec probes w
  refine ⟨n, p, c', s, t, e, k', u, ?_, ?_, ?_⟩
  · rw [seen, hpane, hprobed]
    rfl
  · rw [hprobed] at hc'
    exact hc.trans hc'
  · rw [hprobed] at hk'
    exact hk.trans hk'

theorem checkPipelineTimeout_ok :
    (m.checkSignals probes w).checkPipelineTimeout w = .ok () ↔
      durationSince w.now m.runStartedAt < fromSecs m.watchdog.pipelineTimeoutSecs := by
  obtain ⟨c, k, hsignals, -, -⟩ := m.checkSignals_spec probes w
  rw [hsignals, checkPipelineTimeout]
  dsimp only
  split
  · next h => simp [Nat.not_lt.mpr h]
  · next h => simp [Nat.not_le.mp h]

theorem probeSession_checkSignals :
    ((m.checkSignals probes w).probeSession w).1 = (m.probeSession w).1 := by
  obtain ⟨c, k, hsignals, -, -⟩ := m.checkSignals_spec probes w
  rw [hsignals, probeSession, probeSession]
  split
  · rfl
  · rfl
  · rfl

theorem checkSessionAlive_eq : (m.checkSignals probes w).checkSessionAlive probes w =
    if (m.probeSession w).1 then .error ((m.probed probes w).vanishedOutcome probes w)
    else .ok (m.probed probes w) := by
  rw [checkSessionAlive, ← m.probeSession_checkSignals probes, probed]
  cases (m.checkSignals probes w).probeSession w with
  | mk gone m₁ =>
    cases gone with
    | false => rfl
    | true => rfl

theorem observePane_eq :
    (m.probed probes w).observePane probes w = (m.promptAccepted probes w, m.seen probes w) := by
  obtain ⟨c, k, n, hprobed, -, -⟩ := m.probed_spec probes w
  obtain ⟨_, _, _, _, _, _, _, hpane, -, -⟩ := (m.probed probes w).observePane_spec probes w
  have haccepted : (m.probed probes w).promptAccepted probes w = m.promptAccepted probes w := by
    rw [hprobed]
    rfl
  rw [seen, hpane, haccepted]

/-- How a tick goes on after the pane, or ends before. -/
theorem tick_eq : m.tick probes w = (do
    (m.checkSignals probes w).checkPipelineTimeout w
    if (m.probeSession w).1 then throw ((m.probed probes w).vanishedOutcome probes w)
    else if m.promptAccepted probes w then return m.seen probes w
    else (m.seen probes w).tickAfterPane probes w) := by
  rw [tick]
  congr 1
  funext _
  rw [checkSessionAlive_eq]
  cases (m.probeSession w).1 with
  | true => rfl
  | false =>
    rw [if_neg Bool.false_ne_true, if_neg Bool.false_ne_true, Except.ok_bind, observePane_eq]
    cases m.promptAccepted probes w with
    | true => rfl
    | false => rfl

variable {m} {probes} {w}

theorem tick_of_pastPane (h : m.PastPane probes w) :
    m.tick probes w = (m.seen probes w).tickAfterPane probes w := by
  rw [tick_eq, (m.checkPipelineTimeout_ok probes w).mpr h.inBudget, h.sessionThere, h.noPrompt]
  rfl

/-- A tick that does not end the run got past the pane or answered a prompt. -/
theorem tick_ok {m' : DaemonRunMonitor} (h : m.tick probes w = .ok m') :
    m.PastPane probes w ∧ (m.seen probes w).tickAfterPane probes w = .ok m' ∨
      m.promptAccepted probes w = true ∧ m' = m.seen probes w := by
  rw [tick_eq] at h
  obtain ⟨_, hbudget, h⟩ := Except.bind_eq_ok_iff.mp h
  split at h
  · cases h
  · next hgone =>
    split at h
    · next hprompt =>
      cases h
      exact .inr ⟨hprompt, rfl⟩
    · next hprompt =>
      refine .inl ⟨⟨(m.checkPipelineTimeout_ok probes w).mp hbudget, ?_, ?_⟩, h⟩
      · exact (Bool.not_eq_true _).mp hgone
      · exact (Bool.not_eq_true _).mp hprompt

/-- A tick that goes on without a prompt passed the kill gate. -/
theorem tick_gated {m' : DaemonRunMonitor} (h : m.tick probes w = .ok m')
    (hprompt : m.promptAccepted probes w = false) :
    ∃ g, (m.seen probes w).upToGate probes w = .ok g ∧ g.evaluateKillGate w = .ok m' := by
  rcases tick_ok h with ⟨-, hafter⟩ | ⟨haccepted, -⟩
  · rw [tickAfterPane_eq] at hafter
    exact Except.bind_eq_ok_iff.mp hafter
  · rw [hprompt] at haccepted
    cases haccepted

/-- What a tick that goes on has kept and noted: it answered a prompt, or it passed the gate. -/
def AfterTick (probes : Probes) (m : DaemonRunMonitor) (w : Surroundings)
    (x : DaemonRunMonitor) : Prop :=
  m.promptAccepted probes w = true ∧ x = m.seen probes w ∨
    m.promptAccepted probes w = false ∧ Gated probes (m.seen probes w) w x

theorem afterTick_of_ok {m' : DaemonRunMonitor} (h : m.tick probes w = .ok m') :
    AfterTick probes m w m' := by
  rcases tick_ok h with ⟨hpast, -⟩ | ⟨hprompt, rfl⟩
  · obtain ⟨g, hg, hgate⟩ := tick_gated h hpast.noPrompt
    obtain ⟨_, rfl⟩ := evaluateKillGate_ok g w hgate
    exact .inr ⟨hpast.noPrompt, { upToGate_ok hg with }⟩
  · exact .inl ⟨hprompt, rfl⟩

theorem readCachedCheckpoint_seen :
    readCachedCheckpoint probes.serde w.files (m.seen probes w).repoDir
        (m.seen probes w).cachedCheckpointPath =
      readCachedCheckpoint probes.serde w.files m.repoDir m.cachedCheckpointPath := by
  obtain ⟨n, p, c, s, t, e, k, u, hseen, -, -⟩ := m.seen_spec probes w
  rw [hseen]

theorem resolvedCheckpoint_seen :
    (m.seen probes w).resolvedCheckpoint probes w = m.resolvedCheckpoint probes w :=
  congrArg Prod.fst readCachedCheckpoint_seen

namespace AfterTick
variable {x : DaemonRunMonitor}

/-- A tick keeps the slot for the checkpoint, or goes by what it found. -/
theorem cached (h : AfterTick probes m w x) :
    x.cachedCheckpointPath = m.cachedCheckpointPath ∧
        (m.promptAccepted probes w = true ∨ m.resolvedCheckpoint probes w = none) ∨
      x.cachedCheckpointPath =
        (readCachedCheckpoint probes.serde w.files m.repoDir m.cachedCheckpointPath).2 := by
  obtain ⟨_, _, _, _, _, _, _, _, hseen, -, -⟩ := m.seen_spec probes w
  rcases h with ⟨hprompt, rfl⟩ | ⟨-, hx⟩
  · exact .inl ⟨by rw [hseen], .inl hprompt⟩
  · rcases hx.cached with ⟨hkept, hnone⟩ | hfound
    · rw [resolvedCheckpoint_seen] at hnone
      exact .inl ⟨hkept.trans (by rw [hseen]), .inr hnone⟩
    · exact .inr (hfound.trans (by rw [readCachedCheckpoint_seen]))

theorem repoDir (h : AfterTick probes m w x) : x.repoDir = m.repoDir := by
  obtain ⟨_, _, _, _, _, _, _, _, hseen, -, -⟩ := m.seen_spec probes w
  rcases h with ⟨-, rfl⟩ | ⟨-, hx⟩
  · rw [hseen]
  · exact hx.repoDir.trans (by rw [hseen])

theorem claudePid (h : AfterTick probes m w x) : x.claudePid = m.claudePid := by
  obtain ⟨_, _, _, _, _, _, _, _, hseen, -, -⟩ := m.seen_spec probes w
  rcases h with ⟨-, rfl⟩ | ⟨-, hx⟩
  · rw [hseen]
  · exact hx.claudePid.trans (by rw [hseen])

theorem watchdog (h : AfterTick probes m w x) : x.watchdog = m.watchdog := by
  obtain ⟨_, _, _, _, _, _, _, _, hseen, -, -⟩ := m.seen_spec probes w
  rcases h with ⟨-, rfl⟩ | ⟨-, hx⟩
  · rw [hseen]
  · exact hx.watchdog.trans (by rw [hseen])

end AfterTick

/-- As long as the files stay, the next tick finds the same checkpoint. -/
theorem resolvedCheckpoint_tick {m' : DaemonRunMonitor} (h : m.tick probes w = .ok m') :
    m'.resolvedCheckpoint probes w = m.resolvedCheckpoint probes w := by
  rw [resolvedCheckpoint, resolvedCheckpoint, (afterTick_of_ok h).repoDir]
  rcases (afterTick_of_ok h).cached with ⟨hkept, -⟩ | hfound
  · rw [hkept]
  · rw [hfound, readCachedCheckpoint_again]

/-- Where a tick can end the run as completed. -/
theorem tick_completed (h : m.tick probes w = .error .completed) :
    (m.probed probes w).vanishedOutcome probes w = .completed ∨
      m.PastPane probes w ∧ (m.seen probes w).tickAfterPane probes w = .error .completed := by
  rw [tick_eq] at h
  rcases Except.bind_eq_error_iff.mp h with h | ⟨_, hbudget, h⟩
  · rw [checkPipelineTimeout] at h
    split at h
    · cases h
    · cases h
  · split at h
    · next hgone => exact .inl (Except.error.inj h)
    · next hgone =>
      split at h
      · cases h
      · next hprompt =>
        refine .inr ⟨⟨(m.checkPipelineTimeout_ok probes w).mp hbudget, ?_, ?_⟩, h⟩
        · exact (Bool.not_eq_true _).mp hgone
        · exact (Bool.not_eq_true _).mp hprompt

end DaemonRunMonitor

end GreaterWill
