import GreaterWill.Engine.ProcessDeath

/-!
# The subtractions of the session monitor

The monitor subtracts twice, to log how long is left: of the confirmation of an error, and of the
kill gate. The second one comes after a test of its bound. The first one is made when the
confirmation is not over, or when it is over and a kill is pending: then nothing bounds it.
-/

namespace GreaterWill

namespace SessionMonitor

/-- The minuend and the subtrahend of a subtraction of unsigned numbers. -/
abbrev Subtraction : Type := Nat × Nat

def Subtraction.NoUnderflow (s : Subtraction) : Prop := s.2 ≤ s.1

section
variable (probes : SessionProbes) (m : SessionMonitor) (w : SessionSurroundings)

/-- `confirmation_secs - elapsed_confirm`, where the confirmation goes on. -/
def confirmSubtractions (content : String) : List Subtraction :=
  let evidence := m.errorEvidence probes w content
  match evidence.classify, m.errorConfirmSince with
  | some errorClass, some (started, prevClass) =>
    if prevClass ≠ errorClass then []
    else
      let confirmationSecs := m.confirmationSecs evidence.confidence
      let elapsedConfirm := elapsedSecs w.now started
      if confirmationSecs ≤ elapsedConfirm ∧ m.pendingKill = none then []
      else [(confirmationSecs, elapsedConfirm)]
  | _, _ => []

/-- `KILL_GATE_MIN_SECS - gate_elapsed`, where the gate waits. -/
def gateSubtractions : List Subtraction :=
  match m.pendingKill with
  | none => []
  | some pk =>
    let gateElapsed := elapsedSecs w.now pk.startedAt
    if m.hasRecovery w && decide (10 < gateElapsed) then []
    else if KILL_GATE_MIN_SECS ≤ gateElapsed then []
    else if gateElapsed % 60 < POLL_INTERVAL_SECS + 1 ∧ 0 < gateElapsed then
      [(KILL_GATE_MIN_SECS, gateElapsed)]
    else []

/-- Those of a tick from the error evidence on. -/
def subtractionsFromErrors (content : String) : List Subtraction :=
  m.confirmSubtractions probes w content ++
    match m.evaluateErrorEvidence probes w content with
    | (true, _) => []
    | (false, m) =>
      match m.checkProcessLiveness probes w with
      | .ok (false, m) => (m.escalate w).gateSubtractions w
      | _ => []

/-- The monitor that comes to the error evidence, with the text of the pane. -/
def comesToErrors : Option (SessionMonitor × String) :=
  match (m.checkSignals probes w).countProbe w.probe, w.pane with
  | (some false, m), some content =>
    match ({ m with lastProcessGoneAt := none }).checkPromptAccept probes w content with
    | (true, _) => none
    | (false, m) =>
      let m := m.updateActivityFromPane probes w content
      if m.completionDetectedAt.isSome then none
      else
        match (m.pollCheckpoint probes w).trackLoopState probes w with
        | .ok m => some ((m.scanArtifacts w).checkPaneCompletion probes w content, content)
        | .error _ => none
  | _, _ => none

/-- Those of a tick. -/
def subtractions : List Subtraction :=
  match m.comesToErrors probes w with
  | some (m, content) => m.subtractionsFromErrors probes w content
  | none => []

/-- No subtraction of the tick underflows. -/
def NoUnderflow : Prop := ∀ s ∈ m.subtractions probes w, s.NoUnderflow

/-- The class under confirmation is not found again after the confirmation while a kill is
pending. -/
def ConfirmedInTime : Prop :=
  ∀ x content, m.comesToErrors probes w = some (x, content) → x.pendingKill.isSome = true →
    ∀ started errorClass, x.errorConfirmSince = some (started, errorClass) →
      (x.errorEvidence probes w content).classify = some errorClass →
        elapsedSecs w.now started ≤
          x.confirmationSecs (x.errorEvidence probes w content).confidence

end

/-! ## The bounds -/

section
variable {probes : SessionProbes} {m : SessionMonitor} {w : SessionSurroundings}

/-- `comesToErrors` is the way of a tick to the error evidence. -/
theorem tick_of_comesToErrors {x : SessionMonitor} {content : String}
    (h : m.comesToErrors probes w = some (x, content)) :
    m.tick probes w = x.tickFromErrors probes w content := by
  rw [comesToErrors] at h
  split at h
  · next m₁ text hprobe hpane =>
    split at h
    · cases h
    · next m₂ hprompt =>
      rw [tick, hprobe]
      dsimp only
      rw [observePane, hpane]
      dsimp only
      rw [hprompt]
      dsimp only at h ⊢
      rw [graceOrChecks]
      split at h
      · cases h
      · next hundetected =>
        rw [Option.not_isSome_iff_eq_none.mp hundetected]
        dsimp only
        split at h
        · next m₃ hloop =>
          obtain ⟨rfl, rfl⟩ := Prod.mk.inj (Option.some.inj h)
          rw [runChecks, hloop, Except.ok_bind, tickAfterLoopState]
        · cases h
  · cases h

/-- The gate waits for less than its minimum. -/
theorem gateSubtractions_noUnderflow : ∀ s ∈ m.gateSubtractions w, s.NoUnderflow := by
  rw [gateSubtractions]
  split
  · exact fun s hs => absurd hs List.not_mem_nil
  · next pk _ =>
    dsimp only
    split
    · exact fun s hs => absurd hs List.not_mem_nil
    · split
      · exact fun s hs => absurd hs List.not_mem_nil
      · next hwaits =>
        split
        · intro s hs
          rw [List.mem_singleton.mp hs]
          exact Nat.le_of_not_le hwaits
        · exact fun s hs => absurd hs List.not_mem_nil

theorem confirmSubtractions_noUnderflow_iff {content : String} :
    (∀ s ∈ m.confirmSubtractions probes w content, s.NoUnderflow) ↔
      (m.pendingKill.isSome = true →
        ∀ started errorClass, m.errorConfirmSince = some (started, errorClass) →
          (m.errorEvidence probes w content).classify = some errorClass →
            elapsedSecs w.now started ≤
              m.confirmationSecs (m.errorEvidence probes w content).confidence) := by
  rw [confirmSubtractions]
  dsimp only
  split
  · next errorClass started prevClass hclass hsince =>
    split
    · next hne =>
      refine iff_of_true (fun s hs => absurd hs List.not_mem_nil) ?_
      rintro - _ _ hsome hsame
      cases hsince.symm.trans hsome
      exact absurd (Option.some.inj (hsame.symm.trans hclass)) hne
    · next heq =>
      obtain rfl : prevClass = errorClass := not_not.mp heq
      split
      · next hover =>
        refine iff_of_true (fun s hs => absurd hs List.not_mem_nil) fun hpending => ?_
        rw [hover.2] at hpending
        cases hpending
      · next hgoes =>
        constructor
        · rintro hall - _ _ hsome -
          cases hsince.symm.trans hsome
          exact hall _ (List.mem_singleton.mpr rfl)
        · intro hin s hs
          rw [List.mem_singleton.mp hs]
          cases hpending : m.pendingKill with
          | none => exact Nat.le_of_not_le fun hover => hgoes ⟨hover, hpending⟩
          | some pk => exact hin (by rw [hpending]; rfl) started prevClass hsince hclass
  · next hno =>
    refine iff_of_true (fun s hs => absurd hs List.not_mem_nil) ?_
    rintro - started errorClass hsome hsame
    exact absurd hsome (hno errorClass started errorClass hsame)

/-- Only the confirmation can underflow. -/
theorem noUnderflow_iff : m.NoUnderflow probes w ↔ m.ConfirmedInTime probes w := by
  rw [NoUnderflow, ConfirmedInTime, subtractions]
  cases h : m.comesToErrors probes w with
  | none =>
    refine iff_of_true (fun s hs => absurd hs List.not_mem_nil) fun x content hno => ?_
    cases hno
  | some pair =>
    obtain ⟨x, content⟩ := pair
    have hgate : ∀ s ∈ (match x.evaluateErrorEvidence probes w content with
        | (true, _) => []
        | (false, m) =>
          match m.checkProcessLiveness probes w with
          | .ok (false, m) => (m.escalate w).gateSubtractions w
          | _ => []), Subtraction.NoUnderflow s := by
      split
      · exact fun s hs => absurd hs List.not_mem_nil
      · split
        · exact gateSubtractions_noUnderflow
        · exact fun s hs => absurd hs List.not_mem_nil
    dsimp only [subtractionsFromErrors]
    rw [List.forall_mem_append, confirmSubtractions_noUnderflow_iff, and_iff_left hgate]
    constructor
    · intro hin y text hy
      cases hy
      exact hin
    · intro hin
      exact hin x content rfl

end

end SessionMonitor

/-! ## The runs -/

namespace WatchedSession

def NoUnderflow (probes : SessionProbes) (s : WatchedSession) (w : SessionSurroundings) : Prop :=
  s.monitor.NoUnderflow probes w

def ConfirmedInTime (probes : SessionProbes) (s : WatchedSession) (w : SessionSurroundings) :
    Prop :=
  s.monitor.ConfirmedInTime probes w

/-- The subtractions of a run stay in their bounds exactly if no error outlasts its confirmation
while a kill is pending. -/
theorem run_noUnderflow_iff (probes : SessionProbes) (workingDir currentDir : PathBuf)
    (pid : UInt32) (watchdog : WatchdogConfig) (pipelineTimeout : Nat) (pipelineStart : Int)
    (now : Nat) (ticks : List SessionSurroundings) :
    Along (step probes) (NoUnderflow probes)
        (start workingDir currentDir pid watchdog pipelineTimeout pipelineStart now) ticks ↔
      Along (step probes) (ConfirmedInTime probes)
        (start workingDir currentDir pid watchdog pipelineTimeout pipelineStart now) ticks :=
  Along.iff fun _ _ => SessionMonitor.noUnderflow_iff

instance (probes : SessionProbes) (s : WatchedSession) (w : SessionSurroundings) :
    Decidable (s.NoUnderflow probes w) :=
  inferInstanceAs (Decidable (∀ p ∈ s.monitor.subtractions probes w, p.2 ≤ p.1))

end WatchedSession

/-! A session whose screen stays at an overload of the API, longer than it takes to confirm it. -/

private def stalledProbes : SessionProbes where
  serde := { fromStr := fun _ => none, toPretty := fun _ => "", display := fun _ => "" }
  hashStr text := if text = "529" then 1 else 0
  toLowercase := id
  paneErrorClass text := if text = "529" then some .apiOverload else none
  parseRfc3339 _ := none
  hashProgress _ _ _ := 0

private def stalledTick (now : Nat) : SessionSurroundings where
  now := now
  utcNow := 0
  files := Dict.ofList [("/repo/.rune/arc-phase-loop.local.md", some
    "---\nactive: true\ncheckpoint_path: checkpoint.json\nplan_file: plans/a.md\n---\n")]
  permissionPending := false
  probe := .present
  graceProbe := .present
  pane := some "529"
  enterSent := false
  pidAlive _ := true
  swarm _ := false
  workingTeammates _ := false
  online := true
  scanArtifactDir _ := none
  killSession := .ok ()

/-- The kill asked for at 410 s is still pending at 415 s. -/
theorem confirmed_error_underflows : ¬ Along (WatchedSession.step stalledProbes)
    (WatchedSession.NoUnderflow stalledProbes)
    (.start "/repo" "/repo" 7 (.fromEnv fun _ => none) (fromSecs 21600) 0 0)
    [stalledTick (fromSecs 5), stalledTick (fromSecs 110), stalledTick (fromSecs 410),
      stalledTick (fromSecs 415)] := by
  decide +kernel

end GreaterWill
