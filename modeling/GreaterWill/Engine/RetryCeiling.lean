import GreaterWill.Daemon.RunMonitorSpec
import GreaterWill.Engine.Orchestrator
import GreaterWill.Lib.Run

/-!
# The retry ceilings of the crash-recovery loop

The loop gives a crash to the bucket of its phase when the session was adopted, and to none when it
was spawned, which every session is after the first. A run that restarts in one phase is stopped by
the window, the lifetime ceiling or the retries of the error class (`StopsAnyway`), or by nothing:
the budget of the phase is kept exactly if one of them stops the restart that would exceed it.
-/

namespace GreaterWill.SingleSession

/-- Outcomes after which the loop goes on to a restart. -/
def retried : SessionOutcome → Bool
  | .crashed _ | .stuck => true
  | .errorDetected errorClass _ => !errorClass.skipsPlan
  | .completed | .timeout | .failed .. => false

/-- The retries of the error class are spent with the next restart. -/
def classSpent (restarts : Nat) : SessionOutcome → Bool
  | .errorDetected errorClass _ => decide (errorClass.maxRetries ≤ restarts + 1)
  | _ => false

/-- An attempt that does not count as healthy. -/
structure ShortAttempt (p : Pipeline) extends Attempt where
  short : toAttempt.duration < fromSecs p.config.watchdog.crashStabilitySecs

/-- The loop, and the phases of the restarts it has made, the last one first. -/
structure RestartLog where
  orchestrator : Orchestrator
  phases : List (Option String) := []

/-- An iteration that goes on to a restart. -/
def RestartLog.step (p : Pipeline) (s : RestartLog) (a : ShortAttempt p) : Option RestartLog :=
  match s.orchestrator.iteration p a.toAttempt with
  | .ok orchestrator =>
    some { orchestrator, phases := p.phaseAfter a.toAttempt :: s.phases }
  | .error _ => none

/-- The last restarts that were made in the phase. -/
def restartsIn (phase : String) (phases : List (Option String)) : Nat :=
  (phases.takeWhile (· = some phase)).length

/-- The restarts made while the phase stayed what it is. -/
def samePhaseRestarts : List (Option String) → Nat
  | some phase :: phases => restartsIn phase phases + 1
  | _ => 0

/-- The iteration does not go on to a restart: for the timeout, a complete pipeline, an outcome that
is not retried, the lifetime ceiling, the window, the bucket of an adopted session, or the retries of
the error class. -/
def StopsAnyway (p : Pipeline) (o : Orchestrator) (a : Attempt) : Prop :=
  p.config.pipelineTimeout < a.now - p.startedAt ∨
    o.pendingAdopt = none ∧ o.alreadyComplete p a = true ∨
    (∀ outcome, a.result = .ok outcome → retried outcome = false) ∨
    o.detector.maxTotalRestarts ≤ o.detector.totalRestarts + 1 ∨
    o.detector.maxCrashes ≤ (o.detector.prunedWith a.ended).length ∨
    o.pendingAdopt ≠ none ∧ (p.phaseAfter a).isSome = true ∧ 0 < o.detector.maxPerPhase ∧
      o.detector.maxPerPhase < (o.detector.charge (p.phaseAfter a)).2 ∨
    o.pendingAdopt = none ∧
      ∃ outcome, a.result = .ok outcome ∧ classSpent o.detector.totalRestarts outcome = true

/-- A crash that would exceed the budget of its phase is one that another limit stops. -/
def Capped (p : Pipeline) (s : RestartLog) (a : ShortAttempt p) : Prop :=
  ∀ phase, p.phaseAfter a.toAttempt = some phase →
    DEFAULT_MAX_CRASHES_PER_PHASE ≤ restartsIn phase s.phases →
    StopsAnyway p s.orchestrator a.toAttempt

namespace Orchestrator
variable {p : Pipeline} {o o' : Orchestrator} {a : Attempt} {detector : CrashLoopDetector}
  {phase : Option String} {outcome : SessionOutcome}

theorem recordCrash_ok {message : CrashLoopDetector → String} :
    recordCrash p o a detector phase message = .ok o' ↔
      (detector.recordRestartForPhase phase a.ended).2 = .allowRestart ∧
        o' = { o with
          detector := (detector.recordRestartForPhase phase a.ended).1
          isFirstRun := false } := by
  rw [recordCrash]
  cases detector.recordRestartForPhase phase a.ended with
  | mk recorded decision =>
    cases decision with
    | stopCrashLoop => simp
    | allowRestart => simp [eq_comm]

theorem afterAdopted_ok : afterAdopted p o a detector outcome = .ok o' ↔
    retried outcome = true ∧
      (detector.recordRestartForPhase (p.phaseAfter a) a.ended).2 = .allowRestart ∧
      o' = { o with
        detector := (detector.recordRestartForPhase (p.phaseAfter a) a.ended).1
        isFirstRun := false } := by
  cases outcome with
  | completed => simp [afterAdopted, retried]
  | timeout => simp [afterAdopted, retried]
  | failed phase reason => simp [afterAdopted, retried]
  | crashed reason =>
    dsimp only [afterAdopted]
    rw [recordCrash_ok]
    simp [retried]
  | stuck =>
    dsimp only [afterAdopted]
    rw [recordCrash_ok]
    simp [retried]
  | errorDetected errorClass reason =>
    dsimp only [afterAdopted, retried]
    split
    · next hskips => simp [hskips]
    · next hskips =>
      rw [recordCrash_ok]
      simp [hskips]

theorem recordRestartForPhase_totalRestarts (d : CrashLoopDetector) (phase : Option String)
    (now : Int) : (d.recordRestartForPhase phase now).1.totalRestarts = d.totalRestarts + 1 := by
  obtain ⟨kept, heq⟩ := d.recordRestartForPhase_fst phase now
  rw [heq]
  rfl

theorem afterSpawned_ok : afterSpawned p o a detector outcome = .ok o' ↔
    retried outcome = true ∧ classSpent detector.totalRestarts outcome = false ∧
      (detector.recordRestartForPhase none a.ended).2 = .allowRestart ∧
      o' = { o with
        detector := (detector.recordRestartForPhase none a.ended).1
        isFirstRun := false } := by
  cases outcome with
  | completed => simp [afterSpawned, retried]
  | timeout => simp [afterSpawned, retried]
  | failed phase reason => simp [afterSpawned, retried]
  | crashed reason =>
    dsimp only [afterSpawned]
    rw [recordCrash_ok]
    simp [retried, classSpent]
  | stuck =>
    dsimp only [afterSpawned]
    rw [recordCrash_ok]
    simp [retried, classSpent]
  | errorDetected errorClass reason =>
    dsimp only [afterSpawned, retried, classSpent]
    split
    · next hskips => simp [hskips]
    · next hskips =>
      rw [Except.bind_eq_ok_iff]
      simp only [recordCrash_ok, hskips, Bool.not_false, true_and,
        decide_eq_false_iff_not, Nat.not_le]
      constructor
      · rintro ⟨next, ⟨hallowed, rfl⟩, hok⟩
        rw [recordRestartForPhase_totalRestarts] at hok
        split at hok
        · cases hok
        · next hspent =>
          cases hok
          exact ⟨Nat.lt_of_not_le hspent, hallowed, rfl⟩
      · rintro ⟨hspent, hallowed, rfl⟩
        refine ⟨_, ⟨hallowed, rfl⟩, ?_⟩
        rw [recordRestartForPhase_totalRestarts]
        exact if_neg (Nat.not_le.mpr hspent)

theorem afterAttempt_of_short
    (hshort : a.duration < fromSecs p.config.watchdog.crashStabilitySecs) :
    o.afterAttempt p a = o.detector := by
  rw [afterAttempt]
  exact if_neg (Nat.not_le.mpr hshort)

/-- The phase a crash is recorded with. -/
def recordedPhase (p : Pipeline) (o : Orchestrator) (a : Attempt) : Option String :=
  if o.pendingAdopt = none then none else p.phaseAfter a

theorem mapError_eq_ok {ε ε' α : Type*} {f : ε → ε'} {x : Except ε α} {a : α} :
    x.mapError f = .ok a ↔ x = .ok a := by
  cases x with
  | error e => simp [Except.mapError]
  | ok a' => simp [Except.mapError]

/-- Where a short attempt leads to: a restart with the crash recorded. -/
theorem iteration_ok (hshort : a.duration < fromSecs p.config.watchdog.crashStabilitySecs)
    (h : o.iteration p a = .ok o') : ¬ StopsAnyway p o a ∧
      (o.detector.recordRestartForPhase (recordedPhase p o a) a.ended).2 = .allowRestart ∧
      o'.detector = (o.detector.recordRestartForPhase (recordedPhase p o a) a.ended).1 := by
  rw [iteration, afterAttempt_of_short hshort] at h
  split at h
  · cases h
  · next hinTime =>
    split at h
    · next adopt hadopt =>
      obtain ⟨outcome, hresult, h⟩ := Except.bind_eq_ok_iff.mp h
      obtain ⟨hretried, hallowed, rfl⟩ := afterAdopted_ok.mp h
      have hresult' : a.result = .ok outcome := mapError_eq_ok.mp hresult
      have hphase : recordedPhase p o a = p.phaseAfter a := by
        rw [recordedPhase, hadopt]
        rfl
      rw [hphase]
      refine ⟨?_, hallowed, rfl⟩
      obtain ⟨htotal, hbucket, hwindow⟩ :=
        (CrashLoopDetector.recordRestartForPhase_snd _).mp hallowed
      rintro (hlate | ⟨hnone, -⟩ | hnot | hceiling | hfull | ⟨-, hover⟩ | ⟨hnone, -⟩)
      · exact hinTime hlate
      · rw [hadopt] at hnone
        cases hnone
      · rw [hnot outcome hresult'] at hretried
        cases hretried
      · exact absurd htotal (Nat.not_lt.mpr hceiling)
      · exact absurd hwindow (Nat.not_lt.mpr hfull)
      · exact hbucket hover
      · rw [hadopt] at hnone
        cases hnone
    · next hadopt =>
      split at h
      · cases h
      · next hdone =>
        obtain ⟨outcome, hresult, h⟩ := Except.bind_eq_ok_iff.mp h
        obtain ⟨hretried, hspent, hallowed, rfl⟩ := afterSpawned_ok.mp h
        have hresult' : a.result = .ok outcome := mapError_eq_ok.mp hresult
        have hphase : recordedPhase p o a = none := by
          rw [recordedPhase, hadopt]
          rfl
        rw [hphase]
        refine ⟨?_, hallowed, rfl⟩
        obtain ⟨htotal, -, hwindow⟩ := (CrashLoopDetector.recordRestartForPhase_snd _).mp hallowed
        rintro (hlate | ⟨-, hcomplete⟩ | hnot | hceiling | hfull | ⟨hsome, -⟩ |
          ⟨-, outcome', houtcome', hspent'⟩)
        · exact hinTime hlate
        · exact hdone hcomplete
        · rw [hnot outcome hresult'] at hretried
          cases hretried
        · exact absurd htotal (Nat.not_lt.mpr hceiling)
        · exact absurd hwindow (Nat.not_lt.mpr hfull)
        · exact hsome hadopt
        · obtain rfl : outcome = outcome' := Except.ok.inj (hresult'.symm.trans houtcome')
          rw [hspent] at hspent'
          cases hspent'

/-- An iteration that nothing stops goes on to a restart. -/
theorem iteration_of_not_stops
    (hshort : a.duration < fromSecs p.config.watchdog.crashStabilitySecs)
    (h : ¬ StopsAnyway p o a) : ∃ o', o.iteration p a = .ok o' := by
  simp only [StopsAnyway, not_or] at h
  obtain ⟨hinTime, hdone, hretried, hceiling, hwindow, hbucket, hspent⟩ := h
  rw [not_forall] at hretried
  obtain ⟨outcome, hretried⟩ := hretried
  rw [Classical.not_imp, Bool.not_eq_false] at hretried
  obtain ⟨hresult, hretried⟩ := hretried
  have hallowed : ∀ phase, ¬ (phase.isSome = true ∧ 0 < o.detector.maxPerPhase ∧
      o.detector.maxPerPhase < (o.detector.charge phase).2) →
      (o.detector.recordRestartForPhase phase a.ended).2 = .allowRestart := by
    intro phase hphase
    exact (CrashLoopDetector.recordRestartForPhase_snd _).mpr
      ⟨Nat.lt_of_not_le hceiling, hphase, Nat.lt_of_not_le hwindow⟩
  rw [iteration, if_neg hinTime, afterAttempt_of_short hshort, hresult]
  cases hadopt : o.pendingAdopt with
  | some adopt =>
    have hsome : o.pendingAdopt ≠ none := by
      rw [hadopt]
      nofun
    refine ⟨_, afterAdopted_ok.mpr ⟨hretried, hallowed _ ?_, rfl⟩⟩
    exact fun hover => hbucket ⟨hsome, hover⟩
  | none =>
    have hgoesOn : ¬ o.alreadyComplete p a = true := fun hcomplete => hdone ⟨hadopt, hcomplete⟩
    have hleft : classSpent o.detector.totalRestarts outcome = false := by
      rw [← Bool.not_eq_true]
      exact fun hcount => hspent ⟨hadopt, outcome, hresult, hcount⟩
    dsimp only
    rw [if_neg hgoesOn]
    refine ⟨_, afterSpawned_ok.mpr ⟨hretried, hleft, hallowed none ?_, rfl⟩⟩
    nofun

end Orchestrator

/-- What holds of the log and the detector all along a run. -/
structure RestartLog.Counted (p : Pipeline) (s : RestartLog) : Prop where
  limits : s.orchestrator.detector.limits =
    (CrashLoopDetector.fromWatchdog p.config.watchdog).limits
  restarts : s.phases.length ≤ s.orchestrator.detector.totalRestarts
  ceiling : s.phases = [] ∨
    s.orchestrator.detector.totalRestarts < s.orchestrator.detector.maxTotalRestarts

/-- The two ceilings: restarts in one phase, and restarts in total. -/
def RestartLog.WithinCeilings (s : RestartLog) : Prop :=
  samePhaseRestarts s.phases ≤ DEFAULT_MAX_CRASHES_PER_PHASE ∧
    s.phases.length < s.orchestrator.detector.maxTotalRestarts

namespace RestartLog
variable {p : Pipeline} {s s' : RestartLog} {a : ShortAttempt p}

/-- The log of a loop that has not run yet. -/
def start (p : Pipeline) (adopt : Option (String × UInt32)) (history : Option CrashHistoryRecord)
    (offset : Nat) : RestartLog where
  orchestrator := .start p adopt history offset

theorem counted_start (adopt : Option (String × UInt32)) (history : Option CrashHistoryRecord)
    (offset : Nat) : (start p adopt history offset).Counted p where
  limits := by
    cases history with
    | none => rfl
    | some record => rfl
  restarts := Nat.zero_le _
  ceiling := .inl rfl

theorem Counted.total (h : s.Counted p) :
    s.phases.length < s.orchestrator.detector.maxTotalRestarts := by
  rcases h.ceiling with hnil | hlt
  · rw [hnil, CrashLoopDetector.maxTotalRestarts_of_limits h.limits]
    have hone := p.config.watchdog.one_le_maxCrashRetries
    rw [List.length_nil]
    omega
  · exact Nat.lt_of_le_of_lt h.restarts hlt

theorem step_spec (h : s.step p a = some s') : ¬ StopsAnyway p s.orchestrator a.toAttempt ∧
    s'.phases = p.phaseAfter a.toAttempt :: s.phases ∧
    ∃ phase, (s.orchestrator.detector.recordRestartForPhase phase a.ended).2 = .allowRestart ∧
      s'.orchestrator.detector =
        (s.orchestrator.detector.recordRestartForPhase phase a.ended).1 := by
  rw [step] at h
  split at h
  · next o' hok =>
    cases h
    obtain ⟨hgoesOn, hallowed, hdetector⟩ := Orchestrator.iteration_ok a.short hok
    exact ⟨hgoesOn, rfl, _, hallowed, hdetector⟩
  · cases h

theorem Counted.step (hs : s.Counted p) (h : s.step p a = some s') : s'.Counted p := by
  obtain ⟨-, hphases, phase, hallowed, hdetector⟩ := step_spec h
  obtain ⟨kept, hrecorded⟩ := s.orchestrator.detector.recordRestartForPhase_fst phase a.ended
  obtain ⟨htotal, -, -⟩ := (CrashLoopDetector.recordRestartForPhase_snd _).mp hallowed
  rw [hrecorded] at hdetector
  constructor
  · rw [hdetector, ← hs.limits]
    rfl
  · rw [hphases, hdetector]
    exact Nat.succ_le_succ hs.restarts
  · rw [hdetector]
    exact .inr htotal

theorem step_of_not_stops (h : ¬ StopsAnyway p s.orchestrator a.toAttempt) :
    s.step p a ≠ none := by
  obtain ⟨o', hok⟩ := Orchestrator.iteration_of_not_stops a.short h
  rw [step, hok]
  nofun

/-- A restart keeps the ceilings exactly if it is within the budget of its phase. -/
theorem withinCeilings_iff (hs : s.Counted p) (h : s.step p a = some s') :
    s'.WithinCeilings ↔ Capped p s a := by
  obtain ⟨hgoesOn, hphases, -⟩ := step_spec h
  have htotal := (hs.step h).total
  rw [WithinCeilings, hphases]
  constructor
  · rintro ⟨hsame, -⟩ phase hphase hbudget
    rw [hphase, samePhaseRestarts] at hsame
    omega
  · intro hcapped
    refine ⟨?_, hphases ▸ htotal⟩
    cases hphase : p.phaseAfter a.toAttempt with
    | none => exact Nat.zero_le _
    | some phase =>
      rw [samePhaseRestarts]
      by_contra hover
      exact hgoesOn (hcapped phase hphase (by omega))

end RestartLog

open RestartLog

/-- As long as the attempts are short, the restarts of the loop stay within the budget of the phase
and the lifetime ceiling exactly if every crash that would exceed the budget of its phase is stopped
by another limit. -/
theorem restarts_within_ceilings_iff (p : Pipeline) (adopt : Option (String × UInt32))
    (history : Option CrashHistoryRecord) (offset : Nat) (attempts : List (ShortAttempt p)) :
    (∀ pre post s, attempts = pre ++ post →
      exec (RestartLog.step p) (start p adopt history offset) pre = some s → s.WithinCeilings) ↔
    Along (RestartLog.step p) (Capped p) (start p adopt history offset) attempts := by
  have hstart : (start p adopt history offset).Counted p := counted_start adopt history offset
  apply forall_prefix_iff_along_total (J := RestartLog.Counted p) _ _ _ hstart
  · exact ⟨Nat.zero_le _, hstart.total⟩
  · exact fun s a s' h hs => hs.step h
  · exact fun s a s' h hs _ => withinCeilings_iff hs h
  · intro s a hstopped _ _ phase _ _
    by_contra hgoesOn
    exact step_of_not_stops hgoesOn hstopped

/-! A session that crashes every five minutes, in its first phase. -/

private def crashingText : String :=
  "\x7b\"id\":\"arc-4\",\"plan_file\":\"plans/d.md\",\"phases\":\x7b" ++
    "\"forge\":\x7b\"status\":\"in_progress\"\x7d\x7d\x7d"

private def crashingFiles : Files := Dict.ofList [
  ("/repo/.rune/arc-phase-loop.local.md", some
    ("---\nactive: true\ncheckpoint_path: .rune/arc/arc-4/checkpoint.json\n" ++
      "plan_file: plans/d.md\n---\n")),
  ("/repo/.rune/arc/arc-4/checkpoint.json", some crashingText)]

private def crashingPipeline : Pipeline where
  config :=
    { workingDir := "/repo"
      pipelineTimeout := fromSecs 21600
      resume := false
      arcFlags := []
      watchdog := .fromEnv fun _ => none }
  planStr := "plans/d.md"
  sessionName := "gw-d-1"
  startedAt := 0
  serde :=
    { fromStr := fun text =>
        if text = crashingText then
          some (.object [
            ("id", .string "arc-4"),
            ("plan_file", .string "plans/d.md"),
            ("phases", .object [("forge", .object [("status", .string "in_progress")])])])
        else none
      toPretty := fun _ => ""
      display := fun _ => "" }
  debug _ := ""

private def crashingAttempt (n : Nat) : ShortAttempt crashingPipeline where
  now := fromSecs (300 * n)
  restartFiles := crashingFiles
  began := fromSecs (300 * n)
  ended := fromSecs (300 * n + 100)
  result := .ok (.crashed "tmux session vanished")
  files := crashingFiles
  short := by
    rw [Attempt.duration]
    dsimp only [fromSecs, crashingPipeline, WatchdogConfig.fromEnv, clamp]
    rw [← Nat.sub_mul, Nat.add_sub_cancel_left]
    decide

/-- The fourth restart in the phase. -/
private theorem crashing_restarts :
    (exec (RestartLog.step crashingPipeline) (start crashingPipeline none none 0)
      ([0, 1, 2, 3].map crashingAttempt)).any
        (fun s => decide (samePhaseRestarts s.phases = 4)) = true := by
  decide +kernel

/-- The loop restarts four times in one phase. -/
theorem fourth_restart_in_phase :
    ¬ ∀ (p : Pipeline) (adopt : Option (String × UInt32)) (history : Option CrashHistoryRecord)
      (offset : Nat) (attempts : List (ShortAttempt p)) (s : RestartLog),
      exec (RestartLog.step p) (start p adopt history offset) attempts = some s →
      s.WithinCeilings := by
  intro hclaim
  obtain ⟨s, hrun, hfour⟩ := exists_of_any crashing_restarts
  have hwithin := (hclaim crashingPipeline none none 0 _ s hrun).1
  rw [hfour] at hwithin
  exact absurd hwithin (by decide)

end GreaterWill.SingleSession
