import GreaterWill.Daemon.ErrorConfirmation
import GreaterWill.Engine.PaneErrors

/-!
# Where an error that ends a run was seen

A run that ends with a detected error was killed at the gate, or never got its loop state active.
The kill was asked for five minutes before, for the class of an error in the pane, for a signal of
failure, or because the process was gone (`TakesFor`); every step of a tick keeps the kills for an
error or asks for one on such grounds (`ErrorKillsFrom`).
-/

namespace GreaterWill

open Keywords

namespace DaemonRunMonitor

/-- The kills for an error are those from before, or were asked for now and for a class of `P`. -/
def ErrorKillsFrom (P : ErrorClass → Prop) (now : Nat) (old new : Option PendingKillRequest) :
    Prop :=
  ∀ pk c, new = some pk → pk.outcome = .errorDetected c →
    (∃ pk', old = some pk' ∧ pk'.outcome = .errorDetected c ∧ pk'.startedAt = pk.startedAt) ∨
      pk.startedAt = now ∧ P c

section
variable {P Q : ErrorClass → Prop} {now : Nat} {k₁ k₂ k₃ : Option PendingKillRequest}

theorem ErrorKillsFrom.of_eq (h : k₂ = k₁) : ErrorKillsFrom P now k₁ k₂ := by
  intro pk c hpk hc
  exact .inl ⟨pk, h ▸ hpk, hc, rfl⟩

theorem ErrorKillsFrom.trans (h : ErrorKillsFrom P now k₁ k₂) (h' : ErrorKillsFrom P now k₂ k₃) :
    ErrorKillsFrom P now k₁ k₃ := by
  intro pk c hpk hc
  rcases h' pk c hpk hc with ⟨pk', hpk', hc', hstart⟩ | hasked
  · rcases h pk' c hpk' hc' with ⟨pk'', hpk'', hc'', hstart'⟩ | ⟨hnow, hP⟩
    · exact .inl ⟨pk'', hpk'', hc'', hstart'.trans hstart⟩
    · exact .inr ⟨hstart ▸ hnow, hP⟩
  · exact .inr hasked

theorem ErrorKillsFrom.mono (h : ErrorKillsFrom P now k₁ k₂) (hPQ : ∀ c, P c → Q c) :
    ErrorKillsFrom Q now k₁ k₂ := by
  intro pk c hpk hc
  rcases h pk c hpk hc with hold | ⟨hnow, hP⟩
  · exact .inl hold
  · exact .inr ⟨hnow, hPQ c hP⟩

end

section
variable (probes : Probes) (m : DaemonRunMonitor) (w : Surroundings)

/-- The tick finds grounds for a kill with the class of error. -/
def TakesFor (c : ErrorClass) : Prop :=
  probes.paneErrorClass (w.pane.getD "") = some c ∨
    c = .apiOverload ∧ (m.readSignal probes w "stop-failure.json").isSome = true ∨
    c = .crash ∧ m.claudePid.all w.pidAlive = false

/-- The loop state is on disk and has not become active in twice the time for the warmup. -/
structure StuckAtStart : Prop where
  neverActive : m.loopStateEverSeen = false
  onDisk : (readArcLoopState w.files m.repoDir).fileExists = true
  late : m.watchdog.loopStateWarmupSecs * 2 < elapsedSecs w.now m.monitorStartedAt

end

section
variable {probes : Probes} {m m' : DaemonRunMonitor} {w : Surroundings} {c : ErrorClass}
  {P : ErrorClass → Prop}

/-! ## The steps of a tick -/

theorem errorKills_requestKill {reason : String} {outcome : KillOutcomeKind}
    (h : ∀ c, outcome = .errorDetected c → P c) :
    ErrorKillsFrom P w.now m.pendingKill (m.requestKill w reason outcome).pendingKill := by
  intro pk c hpk hc
  rw [requestKill] at hpk
  split at hpk
  · next pk' hpending => exact .inl ⟨pk, hpk, hc, rfl⟩
  · cases hpk
    exact .inr ⟨rfl, h c hc⟩

theorem errorKills_checkSignals :
    ErrorKillsFrom (m.TakesFor probes w) w.now m.pendingKill
      (m.checkSignals probes w).pendingKill := by
  obtain ⟨d, hstop⟩ : ∃ d, m.checkStopSignal probes w = { m with completionDetectedAt := d } := by
    rw [checkStopSignal]
    split
    · exact ⟨_, rfl⟩
    · exact ⟨_, rfl⟩
  have hpermission : ∀ m : DaemonRunMonitor,
      (m.checkPermissionPending w).pendingKill = m.pendingKill := by
    intro m
    rw [checkPermissionPending]
    split
    · rfl
    · rfl
  rw [checkSignals, hpermission, hstop, checkStopFailureSignal]
  split
  · exact .of_eq rfl
  · next signal hsignal =>
    apply errorKills_requestKill (m := { m with completionDetectedAt := d })
    intro c hc
    cases hc
    cases hclass : probes.paneErrorClass (w.pane.getD "") with
    | none => exact .inr (.inl ⟨rfl, by rw [← Option.isSome_some (a := signal), ← hsignal]; rfl⟩)
    | some c => exact .inl hclass

theorem errorKills_probed :
    ErrorKillsFrom (m.TakesFor probes w) w.now m.pendingKill (m.probed probes w).pendingKill := by
  obtain ⟨n, hprobe⟩ := (m.checkSignals probes w).probeSession_spec w
  rw [probed, hprobe]
  exact errorKills_checkSignals

theorem prompted_spec (probes : Probes) (m : DaemonRunMonitor) (w : Surroundings) (content : String) :
    ∃ h a n p,
    m.prompted probes w content =
      { m.probed probes w with
        lastPaneHash := h
        lastActivity := a
        nudgeCount := n
        promptAcceptor := p } := by
  rw [prompted, checkPromptAccept, updateActivityFromPane]
  dsimp only
  split
  · exact ⟨_, _, _, _, rfl⟩
  · exact ⟨_, _, _, _, rfl⟩

/-- The class of the evidence is that of the pane, or the process is gone. -/
theorem takesFor_of_classify {content : String} (hpane : w.pane = some content)
    (h : (m.errorEvidence probes w content).classify = some c) : m.TakesFor probes w c := by
  rw [ErrorEvidence.classify] at h
  split at h
  · next hacts =>
    cases hkeyword : (m.errorEvidence probes w content).keywordMatch with
    | some c' =>
      rw [hkeyword] at h
      cases h
      rw [errorEvidence] at hkeyword
      dsimp only at hkeyword
      split at hkeyword
      · refine .inl ?_
        rw [hpane]
        exact hkeyword
      · cases hkeyword
    | none =>
      rw [hkeyword] at h
      cases h
      rw [ErrorEvidence.shouldAct, hkeyword] at hacts
      refine .inr (.inr ⟨rfl, ?_⟩)
      cases halive : m.claudePid.all w.pidAlive with
      | false => rfl
      | true => simp [errorEvidence, halive] at hacts
  · cases h

theorem TakesFor.of_eq (h : m'.TakesFor probes w c) (hdir : m'.repoDir = m.repoDir)
    (hpid : m'.claudePid = m.claudePid) : m.TakesFor probes w c := by
  rw [TakesFor, readSignal, hdir, hpid] at h
  exact h

theorem errorKills_evaluateErrorEvidence {content : String} (hpane : w.pane = some content) :
    ErrorKillsFrom (m.TakesFor probes w) w.now m.pendingKill
      (m.evaluateErrorEvidence probes w content).pendingKill := by
  obtain ⟨s, t, hswarm⟩ : ∃ s t, m.refreshSwarmActivity w =
      { m with cachedSwarmActive := s, lastSwarmCheck := t } := by
    rw [refreshSwarmActivity]
    split
    · exact ⟨_, _, rfl⟩
    · exact ⟨_, _, rfl⟩
  rw [evaluateErrorEvidence, hswarm]
  dsimp only
  split
  · exact .of_eq rfl
  · next c hclass =>
    split
    · exact .of_eq rfl
    · split
      · exact .of_eq rfl
      · split
        · apply errorKills_requestKill (m := { m with cachedSwarmActive := s, lastSwarmCheck := t })
          intro c' hc'
          cases hc'
          exact (takesFor_of_classify hpane hclass).of_eq rfl rfl
        · exact .of_eq rfl

theorem errorKills_seen :
    ErrorKillsFrom (m.TakesFor probes w) w.now m.pendingKill (m.seen probes w).pendingKill := by
  cases hpane : w.pane with
  | none =>
    rw [seen, observePane, hpane]
    exact errorKills_probed
  | some content =>
    obtain ⟨_, _, _, hprobed, -, -⟩ := m.probed_spec probes w
    obtain ⟨_, _, _, _, hprompted⟩ := prompted_spec probes m w content
    obtain ⟨_, hcompletion, -⟩ :=
      checkPaneCompletion_spec probes (m.prompted probes w content) w content
    rw [seen_of_pane hpane]
    split
    · rw [hprompted]
      exact errorKills_probed
    · have hbefore : (m.beforeEvidence probes w content).pendingKill =
          (m.probed probes w).pendingKill := by
        rw [beforeEvidence, hcompletion, hprompted]
      have hevidence : ErrorKillsFrom ((m.beforeEvidence probes w content).TakesFor probes w) w.now
          (m.beforeEvidence probes w content).pendingKill
          ((m.beforeEvidence probes w content).evaluateErrorEvidence probes w
            content).pendingKill := errorKills_evaluateErrorEvidence hpane
      rw [hbefore] at hevidence
      apply errorKills_probed.trans
      apply hevidence.mono
      intro c hc
      apply hc.of_eq
      · rw [beforeEvidence, hcompletion, hprompted, hprobed]
      · rw [beforeEvidence, hcompletion, hprompted, hprobed]

theorem errorKills_checkPhaseTimeout :
    ErrorKillsFrom P w.now m.pendingKill (m.checkPhaseTimeout w).pendingKill := by
  rw [checkPhaseTimeout]
  split
  · exact .of_eq rfl
  · dsimp only
    generalize (if 0 < m.effectivePhaseTimeout then m.effectivePhaseTimeout
      else m.currentProfile.phaseTimeoutSecs) = budget
    split
    · exact errorKills_requestKill (fun c hc => by cases hc)
    · exact .of_eq rfl

theorem errorKills_checkTransitionGap :
    ErrorKillsFrom P w.now m.pendingKill (m.checkTransitionGap w).pendingKill := by
  rw [checkTransitionGap]
  split
  · exact .of_eq rfl
  · dsimp only
    split
    · exact errorKills_requestKill (fun c hc => by cases hc)
    · split
      · exact .of_eq rfl
      · split
        · exact .of_eq rfl
        · exact .of_eq rfl

theorem errorKills_checkFailedPhase :
    ErrorKillsFrom P w.now m.pendingKill (m.checkFailedPhase w).pendingKill := by
  rw [checkFailedPhase]
  split
  · exact .of_eq rfl
  · dsimp only
    split
    · exact errorKills_requestKill (fun c hc => by cases hc)
    · split
      · exact .of_eq rfl
      · split
        · exact .of_eq rfl
        · exact .of_eq rfl

theorem errorKills_checkIdleOutsideGaps :
    ErrorKillsFrom P w.now m.pendingKill (m.checkIdleOutsideGaps w).pendingKill := by
  rw [checkIdleOutsideGaps]
  split
  · rw [checkIdle]
    split
    · exact errorKills_requestKill (fun c hc => by cases hc)
    · split
      · exact .of_eq rfl
      · exact .of_eq rfl
  · exact .of_eq rfl

/-- No escalation is for an error. -/
theorem errorKills_escalate :
    ErrorKillsFrom P w.now m.pendingKill (m.escalate w).pendingKill :=
  ((errorKills_checkPhaseTimeout.trans errorKills_checkTransitionGap).trans
    errorKills_checkFailedPhase).trans errorKills_checkIdleOutsideGaps

theorem pendingKill_pollCheckpoint :
    (m.pollCheckpoint probes w).pendingKill = m.pendingKill := by
  obtain ⟨_, _, _, _, _, _, _, _, _, _, _, hpoll, -, -⟩ := m.pollCheckpoint_spec probes w
  rw [hpoll]

theorem errorKills_upToGate {g : DaemonRunMonitor} (h : m.upToGate probes w = .ok g) :
    ErrorKillsFrom P w.now m.pendingKill g.pendingKill := by
  obtain ⟨x, hx, rfl⟩ := upToGate_ok_iff.mp h
  have hkept : x.pendingKill = m.pendingKill :=
    (beforeEscalation_ok hx).1.pendingKill.trans pendingKill_pollCheckpoint
  rw [← hkept]
  exact errorKills_escalate

theorem errorKills_gate (h : m.evaluateKillGate w = .ok m') :
    ErrorKillsFrom P w.now m.pendingKill m'.pendingKill := by
  rw [evaluateKillGate] at h
  split at h
  · cases h
    exact .of_eq rfl
  · next pk hpending =>
    dsimp only at h
    split at h
    · cases h
      intro pk' c hpk'
      cases hpk'
    · split at h
      · cases h
      · split at h
        · cases h
          intro pk' c hpk' hc
          cases hpk'
          exact .inl ⟨pk, hpending, hc, rfl⟩
        · cases h
          exact .of_eq rfl

/-! ## The end of a run -/

theorem errorKills_tick (h : m.tick probes w = .ok m') :
    ErrorKillsFrom (m.TakesFor probes w) w.now m.pendingKill m'.pendingKill := by
  rcases tick_ok h with ⟨hpast, -⟩ | ⟨-, rfl⟩
  · obtain ⟨g, hg, hgate⟩ := tick_gated h hpast.noPrompt
    exact (errorKills_seen.trans (errorKills_upToGate hg)).trans (errorKills_gate hgate)
  · exact errorKills_seen

theorem vanishedOutcome_ne (reason : String) :
    m.vanishedOutcome probes w ≠ .errorDetected c reason := by
  rw [vanishedOutcome]
  dsimp only
  split
  · intro h; cases h
  · split
    · split
      · intro h; cases h
      · intro h; cases h
    · split
      · intro h; cases h
      · intro h; cases h

theorem pollLoopState_errorDetected {reason : String}
    (h : m.pollLoopState probes w = .error (.errorDetected c reason)) :
    c = .bootstrapError ∧ m.StuckAtStart w := by
  rw [pollLoopState] at h
  split at h
  · cases h
  · split at h
    · rw [loopStateGone] at h
      dsimp only at h
      split at h
      · split at h
        · split at h
          · cases h
          · cases h
        · cases h
      · split at h
        · split at h
          · cases h
          · cases h
        · cases h
    · next hnever =>
      rw [loopStateWarmup] at h
      split at h
      · next hstuck =>
        cases h
        simp only [Bool.and_eq_true, decide_eq_true_eq] at hstuck
        exact ⟨rfl, (Bool.not_eq_true _).mp hnever, hstuck.1.1, hstuck.1.2⟩
      · split at h
        · cases h
        · cases h

theorem upToGate_errorDetected {reason : String}
    (h : m.upToGate probes w = .error (.errorDetected c reason)) :
    c = .bootstrapError ∧ m.StuckAtStart w := by
  rcases Except.bind_eq_error_iff.mp h with hgrace | ⟨_, -, h⟩
  · rw [checkCompletionGrace] at hgrace
    split at hgrace
    · cases hgrace
    · split at hgrace
      · cases hgrace
      · cases hgrace
  · rcases Except.bind_eq_error_iff.mp h with hpoll | ⟨p, -, h⟩
    · obtain ⟨_, _, _, _, _, _, _, _, _, _, _, hcheckpoint, -, -⟩ := m.pollCheckpoint_spec probes w
      obtain ⟨hc, hnever, hdisk, hlate⟩ := pollLoopState_errorDetected hpoll
      rw [hcheckpoint] at hnever hdisk hlate
      exact ⟨hc, hnever, hdisk, hlate⟩
    · rcases Except.bind_eq_error_iff.mp h with hlive | ⟨_, -, h⟩
      · rw [checkProcessLiveness] at hlive
        split at hlive
        · cases hlive
        · split at hlive
          · cases hlive
          · dsimp only at hlive
            split at hlive
            · cases hlive
            · cases hlive
      · cases h

theorem evaluateKillGate_executes {outcome : DaemonRunOutcome}
    (h : m.evaluateKillGate w = .error outcome) :
    ∃ pk, m.pendingKill = some pk ∧ KILL_GATE_MIN_SECS ≤ elapsedSecs w.now pk.startedAt ∧
      pk.finalOutcome = outcome := by
  rw [evaluateKillGate] at h
  split at h
  · cases h
  · next pk hpk =>
    dsimp only at h
    split at h
    · cases h
    · split at h
      · next hdue =>
        cases h
        exact ⟨pk, hpk, hdue, rfl⟩
      · split at h
        · cases h
        · cases h

theorem outcome_of_finalOutcome {pk : PendingKillRequest} {reason : String}
    (h : pk.finalOutcome = .errorDetected c reason) : pk.outcome = .errorDetected c := by
  rw [PendingKillRequest.finalOutcome] at h
  split at h
  · cases h
  · cases h
  · next houtcome =>
    cases h
    exact houtcome

/-- A tick that ends the run with an error executes a kill, or the run was stuck at its start. -/
theorem tick_errorDetected {reason : String}
    (h : m.tick probes w = .error (.errorDetected c reason)) :
    c = .bootstrapError ∧ m.StuckAtStart w ∨
      ∃ g pk, (m.seen probes w).upToGate probes w = .ok g ∧ g.pendingKill = some pk ∧
        pk.outcome = .errorDetected c ∧ KILL_GATE_MIN_SECS ≤ elapsedSecs w.now pk.startedAt := by
  rw [tick_eq] at h
  rcases Except.bind_eq_error_iff.mp h with hbudget | ⟨_, -, h⟩
  · rw [checkPipelineTimeout] at hbudget
    split at hbudget
    · cases hbudget
    · cases hbudget
  · split at h
    · exact absurd (Except.error.inj h) (vanishedOutcome_ne reason)
    · split at h
      · cases h
      · rw [tickAfterPane_eq] at h
        rcases Except.bind_eq_error_iff.mp h with hgate | ⟨g, hg, hgate⟩
        · obtain ⟨_, _, _, _, _, _, _, _, hseen, -, -⟩ := m.seen_spec probes w
          obtain ⟨hc, hnever, hdisk, hlate⟩ := upToGate_errorDetected hgate
          rw [hseen] at hnever hdisk hlate
          exact .inl ⟨hc, hnever, hdisk, hlate⟩
        · obtain ⟨pk, hpk, hdue, houtcome⟩ := evaluateKillGate_executes hgate
          exact .inr ⟨g, pk, hg, hpk, outcome_of_finalOutcome houtcome, hdue⟩

end

/-- A kill for an error that is pending in a run was asked for on its grounds. -/
theorem MonitorRun.error_pending {probes : Probes} {w : Nat → Surroundings}
    {m : Nat → DaemonRunMonitor} {n k : Nat} (hrun : MonitorRun probes w m n) (hk : k ≤ n)
    {pk : PendingKillRequest} {c : ErrorClass} (hpk : (m k).pendingKill = some pk)
    (hc : pk.outcome = .errorDetected c) :
    ∃ j < k, pk.startedAt = (w j).now ∧ (m j).TakesFor probes (w j) c := by
  induction k generalizing pk with
  | zero =>
    obtain ⟨_, _, _, _, _, _, hnew, -⟩ := hrun.starts
    rw [hnew] at hpk
    cases hpk
  | succ k ih =>
    rcases errorKills_tick (hrun.ticks k hk) pk c hpk hc with ⟨pk', hpk', hc', hstart⟩ | ⟨hnow, htakes⟩
    · obtain ⟨j, hj, hstart', htakes⟩ := ih (Nat.le_of_lt hk) hpk' hc'
      exact ⟨j, Nat.lt_succ_of_lt hj, hstart ▸ hstart', htakes⟩
    · exact ⟨k, Nat.lt_succ_self k, hnow, htakes⟩

/-- **An error that ends a run was seen.** A run that ends with a detected error was stuck at its
start, or five minutes and more before its end there was a tick at which the process was gone, the
signal of a failure was there, or the last lines of the pane began like an error and had the
keywords of the class. -/
theorem error_that_ends_run_was_seen (toLowercase : List Char → List Char) {probes : Probes}
    (hprobes : probes.paneErrorClass = fun pane => ErrorClass.fromPaneOutput toLowercase pane true)
    {w : Nat → Surroundings} {m : Nat → DaemonRunMonitor} {n : Nat} (hrun : MonitorRun probes w m n)
    {c : ErrorClass} {reason : String}
    (hend : (m n).tick probes (w n) = .error (.errorDetected c reason)) :
    c = .bootstrapError ∧ (m n).StuckAtStart (w n) ∨
      c ≠ .bootstrapError ∧ ∃ k < n, KILL_GATE_MIN_SECS ≤ elapsedSecs (w n).now (w k).now ∧
        (c = .crash ∧ (m k).claudePid.all (w k).pidAlive = false ∨
          c = .apiOverload ∧ ((m k).readSignal probes (w k) "stop-failure.json").isSome = true ∨
          ErrorClass.Shows true (ErrorClass.paneTail toLowercase ((w k).pane.getD "")) c) := by
  rcases tick_errorDetected hend with hstuck | ⟨g, pk, hg, hpk, hc, hdue⟩
  · exact .inl hstuck
  · obtain ⟨k, hk, hstart, htakes⟩ : ∃ k < n, pk.startedAt = (w k).now ∧
        (m k).TakesFor probes (w k) c := by
      rcases (errorKills_seen.trans (errorKills_upToGate hg)) pk c hpk hc with
        ⟨pk', hpk', hc', hstart⟩ | ⟨hnow, -⟩
      · obtain ⟨k, hk, hstart', htakes⟩ := hrun.error_pending (Nat.le_refl n) hpk' hc'
        exact ⟨k, hk, hstart ▸ hstart', htakes⟩
      · -- a kill of this tick is not due
        rw [hnow, elapsedSecs_self] at hdue
        cases hdue
    rw [hstart] at hdue
    rcases htakes with hpane | ⟨rfl, hsignal⟩ | ⟨rfl, hgone⟩
    · rw [hprobes] at hpane
      have hshows := ErrorClass.shows_of_fromPaneOutput hpane
      obtain ⟨e, he, hlabel, -⟩ := hshows.keywords
      have hne : c ≠ .bootstrapError := hlabel ▸ ErrorClass.label_ne_bootstrapError e he
      exact .inr ⟨hne, k, hk, hdue, .inr (.inr hshows)⟩
    · exact .inr ⟨by decide, k, hk, hdue, .inr (.inl ⟨rfl, hsignal⟩)⟩
    · exact .inr ⟨by decide, k, hk, hdue, .inl ⟨rfl, hgone⟩⟩

end DaemonRunMonitor

open DaemonRunMonitor

/-! A session that fails for its key: the hook leaves a signal, and the error stays on the screen. -/

private def keyProbes : Probes where
  serde := { fromStr := fun _ => some (.object []), toPretty := fun _ => "", display := fun _ => "" }
  hashStr _ := 0
  toLowercase := id
  paneErrorClass pane := ErrorClass.fromPaneOutput id pane true
  parseRfc3339 _ := none

/-- The ticks are 310 s apart. -/
private def keyWorld (n : Nat) : Surroundings where
  now := fromSecs (310 * n)
  utcNow := 0
  files := Dict.ofList [("/repo/.gw/signals/stop-failure.json", some "\x7b\x7d")]
  permissionPending := false
  probe := .present
  pane := some "thinking\nerror: invalid api key"
  enterSent := false
  pidAlive _ := true
  swarm _ := false
  online := true
  scanArtifactDir _ := none

private def keyMonitor : Nat → DaemonRunMonitor
  | 0 => .new "/repo" none 0 (.fromEnv fun _ => none) 0 0
  | n + 1 => ((keyMonitor n).tick keyProbes (keyWorld n)).toOption.getD (keyMonitor n)

private theorem key_run : MonitorRun keyProbes keyWorld keyMonitor 1 where
  starts := ⟨"/repo", none, 0, .fromEnv fun _ => none, 0, 0, rfl, Nat.zero_le _⟩
  ticks k hk := by
    obtain rfl : k = 0 := Nat.lt_one_iff.mp hk
    rw [keyMonitor]
    apply Except.eq_ok_getD
    decide +kernel
  clock := by
    intro j k hjk
    exact Nat.mul_le_mul_right _ (Nat.mul_le_mul_left 310 hjk)

private def failsFor (c : ErrorClass) : Except DaemonRunOutcome DaemonRunMonitor → Bool
  | .error (.errorDetected c' _) => decide (c' = c)
  | _ => false

private theorem exists_of_failsFor {c : ErrorClass} {r : Except DaemonRunOutcome DaemonRunMonitor}
    (h : failsFor c r = true) : ∃ reason, r = .error (.errorDetected c reason) := by
  unfold failsFor at h
  split at h
  · next c' reason =>
    obtain rfl : c' = c := of_decide_eq_true h
    exact ⟨reason, rfl⟩
  · cases h

private theorem key_end :
    ∃ reason, (keyMonitor 1).tick keyProbes (keyWorld 1) =
      .error (.errorDetected .authError reason) :=
  exists_of_failsFor (by decide +kernel)

/-- The error was on the screen when the kill was asked for. -/
theorem key_error_was_seen :
    ∃ k < 1, KILL_GATE_MIN_SECS ≤ elapsedSecs (keyWorld 1).now (keyWorld k).now ∧
      ErrorClass.Shows true (ErrorClass.paneTail id ((keyWorld k).pane.getD "")) .authError := by
  obtain ⟨reason, hend⟩ := key_end
  have hprobes : keyProbes.paneErrorClass = fun pane => ErrorClass.fromPaneOutput id pane true := by
    rw [keyProbes]
  have hseen := error_that_ends_run_was_seen id hprobes key_run hend
  rcases hseen with ⟨hstart, -⟩ | ⟨-, k, hk, hdue, hseen⟩
  · cases hstart
  · rcases hseen with ⟨hcrash, -⟩ | ⟨hoverload, -⟩ | hshows
    · cases hcrash
    · cases hoverload
    · exact ⟨k, hk, hdue, hshows⟩

end GreaterWill
