import GreaterWill.Checkpoint.HandoffSpec
import GreaterWill.Engine.CompletionSpec

/-!
# What a retried group starts on

A group whose session ended with a failed phase is tried again, and the new attempt marks the phases
before the group before it starts its session. The failed phase is one of the group's own, so that
it stays failed in the checkpoint unless it stands before the group's first phase, and the first
tick of the new detector reports it.
-/

namespace GreaterWill

/-- The checkpoint file as an attempt leaves it before it spawns the session. -/
def leftBeforeSpawn (group : PhaseGroup) (now : String) (file : Except String Checkpoint) :
    Except String Checkpoint :=
  match file, group.phases.head? with
  | .ok cp, some firstPhase => .ok (cp.markPhasesCompletedBefore now firstPhase)
  | _, _ => file

theorem leftBeforeSpawn_error {group : PhaseGroup} {now e : String} :
    leftBeforeSpawn group now (.error e) = .error e := by
  unfold leftBeforeSpawn
  rfl

theorem leftBeforeSpawn_ok {group : PhaseGroup} {now first : String} {cp : Checkpoint}
    (h : group.phases.head? = some first) :
    leftBeforeSpawn group now (.ok cp) = .ok (cp.markPhasesCompletedBefore now first) := by
  unfold leftBeforeSpawn
  rw [h]

section
variable {exec : ExecutorConfig} {settings : Settings} {group : PhaseGroup} {sessionId : String}
  {a : GroupAttempt} {file : Except String Checkpoint} {o : Attempted}

/-- An attempt that fails leaves that file if its session cannot be spawned, and the file of the
session otherwise. -/
theorem executeGroupOnce_file {result : PhaseGroupResult} {retries : UInt32} {error : ErrorClass}
    (h : executeGroupOnce exec settings group sessionId a file = some o)
    (hresult : o.ended = .result result) (hfailed : result.state = .failed retries error) :
    o.file = if a.spawn.isOk then a.file else leftBeforeSpawn group a.now file := by
  unfold executeGroupOnce at h
  split at h
  · cases h
    cases hresult
  · split at h
    · cases h
      cases hresult
      cases hfailed
    · split at h
      · cases h
        cases hresult
      · split at h
        · cases h
          cases hresult
        · next first hhead =>
          split at h
          · cases h
            cases hresult
          · obtain ⟨ended, -, rfl⟩ := Option.map_eq_some_iff.mp h
            dsimp only
            rw [leftBeforeSpawn_ok hhead]

end

namespace PlanRun
variable {exec : ExecutorConfig} {config : PhaseConfig} {p : PlanStart} {s s' : PlanRun}
  {a : GroupAttempt}

/-- The session of an attempt has come to its monitoring, and the detector has ended it with a
failed phase. -/
def DetectorFailed (exec : ExecutorConfig) (settings : Settings) (group : PhaseGroup)
    (a : GroupAttempt) (phase : String) : Prop :=
  (∃ pid, a.spawn = .ok pid) ∧
    (exec.mock = true ∨ a.waitForPrompt = .ok () ∧ a.sendKeys = .ok ()) ∧
    ∃ completion, CompletionConfig.forGroup group.timeoutMin settings.idleNudgeAfterSec
      settings.idleKillAfterSec = .ok completion ∧ a.monitor completion = .failed phase

/-- The group that is next is tried again after such an attempt. -/
structure RetriedAfterFailure (exec : ExecutorConfig) (config : PhaseConfig) (p : PlanStart)
    (s : PlanRun) (a : GroupAttempt) (s' : PlanRun) (group : PhaseGroup) (phase : String) :
    Prop where
  pending : s.pending.head? = some group
  failed : DetectorFailed exec config.settings group a phase
  step : s.step exec config p a = some s'
  retried : s'.pending = s.pending
  ended : s'.ended = none

theorem pending_finishGroup {group : PhaseGroup} {rest : List PhaseGroup}
    {result : PhaseGroupResult} : (s.finishGroup group rest result).pending = rest := by
  rw [finishGroup]
  split
  · rfl
  · rfl

/-- The next attempt starts on the file the failed session has left. -/
theorem RetriedAfterFailure.file {group : PhaseGroup} {phase : String}
    (h : RetriedAfterFailure exec config p s a s' group phase) : s'.file = a.file := by
  obtain ⟨hpending, ⟨⟨pid, hspawn⟩, -⟩, hstep, hretried, hended⟩ := h
  unfold PlanRun.step at hstep
  split at hstep
  · next first rest _ hgroups =>
    rw [hgroups] at hretried
    dsimp only at hstep
    -- a group that has its result is next no more
    have hnext : ∀ {s : PlanRun} {result : PhaseGroupResult},
        (s.finishGroup first rest result).pending ≠ first :: rest := by
      intro s result
      rw [pending_finishGroup]
      exact (List.cons_ne_self first rest).symm
    split at hstep
    · cases hstep
      exact absurd hretried hnext
    · obtain ⟨o, hattempt, rfl⟩ := Option.map_eq_some_iff.mp hstep
      cases hend : o.ended with
      | error e =>
        rw [hend] at hended
        cases hended
      | panicked message =>
        rw [hend] at hended
        cases hended
      | result result =>
        rw [hend] at hretried
        dsimp only at hretried ⊢
        cases hstate : result.state with
        | failed retries error =>
          rw [hstate] at hretried
          have hfile := executeGroupOnce_file hattempt hend hstate
          rw [hspawn] at hfile
          dsimp only at hretried ⊢
          generalize s.retryCoordinator.shouldRetry first.name error a.failedAt = decided
            at hretried ⊢
          obtain ⟨decision, coordinator⟩ := decided
          cases decision with
          | retry after => exact hfile
          | skipPlan => exact absurd hretried hnext
          | exhausted => exact absurd hretried hnext
        | _ =>
          rw [hstate] at hretried
          exact absurd hretried hnext
  · cases hstep

/-- The first tick of the next attempt's detector, on the file that attempt leaves before it spawns
its session, reports no failed phase. -/
def RetryStartsClean (probes : DetectorProbes) (exec : ExecutorConfig) (config : PhaseConfig)
    (p : PlanStart) (s : PlanRun) (a : GroupAttempt) : Prop :=
  ∀ s' group phase, RetriedAfterFailure exec config p s a s' group phase →
    ∀ completion now startedAt (t : DetectorTick),
      t.checkpoint = leftBeforeSpawn group now s'.file → ∀ failed,
        ((CompletionDetector.new completion group.phases startedAt).tick probes t).2 ≠
          .failed failed

/-- The phases of the group that the session left failed stand before the group's first phase. -/
def FailedBeforeFirst (exec : ExecutorConfig) (config : PhaseConfig) (p : PlanStart) (s : PlanRun)
    (a : GroupAttempt) : Prop :=
  ∀ s' group phase, RetriedAfterFailure exec config p s a s' group phase →
    ∀ cp, a.file = .ok cp → ∀ failed ∈ group.phases, cp.HasStatus "failed" failed →
      ∃ first ∈ group.phases.head?, failed ∈ phasesBefore first

end PlanRun

section
variable {group : PhaseGroup} {cp : Checkpoint} {now first phase : String}

theorem exists_head? {names : List String} (h : phase ∈ names) :
    ∃ first, names.head? = some first := by
  cases names with
  | nil => cases h
  | cons name names => exact ⟨name, rfl⟩

theorem findFailedPhase_mem {groupPhases : List String}
    (h : findFailedPhase groupPhases cp = some phase) :
    phase ∈ groupPhases ∧ cp.HasStatus "failed" phase := by
  rw [findFailedPhase] at h
  have hfailed := List.find?_some h
  exact ⟨List.mem_of_find?_eq_some h, Checkpoint.hasStatus_iff_any.mp hfailed⟩

theorem exists_findFailedPhase {groupPhases : List String} (hmem : phase ∈ groupPhases)
    (h : cp.HasStatus "failed" phase) : ∃ failed, findFailedPhase groupPhases cp = some failed := by
  rw [← Option.isSome_iff_exists, findFailedPhase, List.find?_isSome]
  exact ⟨phase, hmem, Checkpoint.hasStatus_iff_any.mpr h⟩

theorem isGroupComplete_of_failed {groupPhases : List String} (hmem : phase ∈ groupPhases)
    (h : cp.HasStatus "failed" phase) : isGroupComplete groupPhases cp = false := by
  rw [← Bool.not_eq_true, isGroupComplete, List.all_eq_true]
  intro hall
  obtain ⟨p, hp, hstatus⟩ := h
  have hdone := hall phase hmem
  rw [hp, Option.any_some, Checkpoint.isDone_iff, hstatus] at hdone
  exact absurd hdone (by decide)

/-- The marking overwrites the failed phases before the first one, and no other. -/
theorem failed_markPhasesCompletedBefore :
    (cp.markPhasesCompletedBefore now first).HasStatus "failed" phase ↔
      cp.HasStatus "failed" phase ∧ phase ∉ phasesBefore first := by
  cases hidx : phaseIndex first with
  | none =>
    rw [Checkpoint.markPhasesCompletedBefore, phasesBefore, hidx]
    simp
  | some idx =>
    by_cases hmem : phase ∈ phasesBefore first
    · have hmarked : (cp.markPhasesCompletedBefore now first).Marked phase :=
        Checkpoint.marked_markPhasesCompletedBefore hidx hmem
      refine iff_of_false (fun h => ?_) fun h => h.2 hmem
      exact absurd (hmarked.status h) (by decide)
    · rw [and_iff_left hmem, Checkpoint.HasStatus, Checkpoint.HasStatus,
        Checkpoint.lookup_markPhasesCompletedBefore hidx hmem]
      split
      · next h =>
        rw [h.1, h.2]
        simp [PhaseStatus.pending]
      · rfl

end

namespace PlanRun
variable {probes : DetectorProbes} {exec : ExecutorConfig} {config : PhaseConfig} {p : PlanStart}
  {s s' : PlanRun} {a : GroupAttempt}

theorem failedBeforeFirst_of_clean (h : RetryStartsClean probes exec config p s a) :
    FailedBeforeFirst exec config p s a := by
  intro s' group phase hretried cp hfile failed hmem hstatus
  obtain ⟨first, hfirst⟩ := exists_head? hmem
  refine ⟨first, hfirst, ?_⟩
  by_contra hbehind
  obtain ⟨-, -, completion, -⟩ := hretried.failed
  have hleft : leftBeforeSpawn group a.now s'.file =
      .ok (cp.markPhasesCompletedBefore a.now first) := by
    rw [hretried.file, hfile, leftBeforeSpawn_ok hfirst]
  have hstays : (cp.markPhasesCompletedBefore a.now first).HasStatus "failed" failed :=
    failed_markPhasesCompletedBefore.mpr ⟨hstatus, hbehind⟩
  obtain ⟨found, hfound⟩ := exists_findFailedPhase hmem hstays
  let t : DetectorTick :=
    { now := 0
      pane := ""
      checkpoint := leftBeforeSpawn group a.now s'.file
      recheck := .error ""
      reread := .error "" }
  refine h s' group phase hretried completion a.now 0 t rfl found ?_
  refine CompletionDetector.tick_failed_iff.mpr
    ⟨?_, _, hleft, isGroupComplete_of_failed hmem hstays, hfound⟩
  rw [CompletionDetector.timedOut]
  exact decide_eq_false (Nat.not_lt_zero _)

theorem clean_of_failedBeforeFirst (h : FailedBeforeFirst exec config p s a) :
    RetryStartsClean probes exec config p s a := by
  intro s' group phase hretried completion now startedAt t hfile failed hevent
  obtain ⟨-, cp', hcp', -, hfound⟩ := CompletionDetector.tick_failed_iff.mp hevent
  obtain ⟨hmem, hstatus⟩ : failed ∈ group.phases ∧ cp'.HasStatus "failed" failed :=
    findFailedPhase_mem hfound
  clear hevent hfound
  rw [hfile, hretried.file] at hcp'
  cases hcp : a.file with
  | error e =>
    rw [hcp, leftBeforeSpawn_error] at hcp'
    cases hcp'
  | ok cp =>
    obtain ⟨first, hfirst⟩ := exists_head? hmem
    rw [hcp, leftBeforeSpawn_ok hfirst, Except.ok.injEq] at hcp'
    subst hcp'
    obtain ⟨hfailed, hbehind⟩ := failed_markPhasesCompletedBefore.mp hstatus
    obtain ⟨first', hfirst', hbefore⟩ := h s' group phase hretried cp hcp failed hmem hfailed
    rw [hfirst] at hfirst'
    cases hfirst'
    exact hbehind hbefore

/-- Along every execution the retries start clean exactly if every phase a session left failed
stands before the first phase of its group. -/
theorem retriesStartClean_iff {as : List GroupAttempt} :
    Along (step exec config p) (RetryStartsClean probes exec config p) s as ↔
      Along (step exec config p) (FailedBeforeFirst exec config p) s as :=
  Along.iff fun _ _ => ⟨failedBeforeFirst_of_clean, clean_of_failedBeforeFirst⟩

end PlanRun

/-- The group that works, and is all there is. -/
def workGroup : PhaseGroup where
  name := "C"
  phases := ["work"]
  skillCommand := "/rune:arc plan.md --resume"
  timeoutMin := 90

def workConfig : PhaseConfig where
  settings := { defaultTimeoutMin := 30, idleNudgeAfterSec := 180, idleKillAfterSec := 300 }
  groups := [workGroup]

/-- A session that leaves its phase failed. -/
def failedWork : GroupAttempt where
  now := "2025-01-01T00:00:00+00:00"
  failedAt := 0
  duration := 0
  activeSessions := 0
  remainingSessions := 0
  preCleanup := .ok ()
  health := .ok ()
  writeCheckpoint := .ok ()
  spawn := .ok 1
  waitForPrompt := .ok ()
  sendKeys := .ok ()
  monitor _ := .failed "work"
  kill := .ok ()
  postCleanup := .ok ()
  file := .ok {
    id := "arc-1"
    planFile := "plan.md"
    phases := Dict.ofList [("work", { status := "failed" })] }

/-- A plan whose checkpoint has no phases yet. -/
def workStart : PlanStart where
  planHash := "0123456789ab"
  planPath := "plan.md"
  arcDir := "/repo/.rune/arc/arc-0123456789ab"
  now := "2025-01-01T00:00:00+00:00"
  existing := some (.ok { id := "arc-1", planFile := "plan.md" })
  createDir := .ok ()
  writeCheckpoint := .ok ()

/-- The group is tried again, and the phase it retries is failed when the new session starts. -/
theorem work_retry_dies : ∃ s, PlanRun.start workConfig workStart = .ok s ∧
    ¬ Along (PlanRun.step {} workConfig workStart)
      (PlanRun.RetryStartsClean plainProbes {} workConfig workStart) s [failedWork] := by
  refine ⟨_, rfl, fun hclean => ?_⟩
  have hfailed := PlanRun.failedBeforeFirst_of_clean hclean.head
  obtain ⟨first, hfirst, hmem⟩ := hfailed _ workGroup "work"
    ⟨rfl, ⟨⟨1, rfl⟩, .inr ⟨rfl, rfl⟩, _, rfl, rfl⟩, rfl, rfl, rfl⟩ _ rfl "work"
    List.mem_cons_self ⟨_, rfl, rfl⟩
  cases hfirst
  exact notMem_phasesBefore hmem

end GreaterWill
