import GreaterWill.Engine.PhaseExecutor
import GreaterWill.Lib.Run

/-!
# Validated configurations at execution

What the executor needs of a configuration: idle sessions are nudged before they are killed, every
group has a phase, and the phases before a group's first one belong to groups before it. The
validation checks none of these. Every execution of an accepted configuration is free of failed
assertions, of groups without phases and of phases that are marked completed and were never executed
exactly if the configuration meets all of them, or no session is ever started.
-/

namespace GreaterWill

/-- No assertion has failed, no group had no phases, and where every group so far has succeeded the
phases marked completed are those of groups executed before. -/
structure PlanRun.Executes (s : PlanRun) : Prop where
  assertions : ∀ message, s.ended ≠ some (.panicked message)
  phases : ∀ group, s.ended ≠ some (.error (.noPhases group))
  marked : (∀ result ∈ s.results, result.state = .succeeded) →
    ∀ marking ∈ s.marked, ∀ phase ∈ marking.phases, ∃ group ∈ marking.executed, phase ∈ group.phases

/-- The phases before the first phase of a group are those of groups before it. -/
def CoversFrom (executed : List PhaseGroup) : List PhaseGroup → Prop
  | [] => True
  | group :: groups =>
    (∀ first ∈ group.phases.head?, ∀ phase ∈ phasesBefore first,
      ∃ before ∈ executed, phase ∈ before.phases) ∧
    CoversFrom (executed ++ [group]) groups

instance CoversFrom.decidable : ∀ executed groups, Decidable (CoversFrom executed groups)
  | _, [] => inferInstanceAs (Decidable True)
  | executed, group :: groups =>
    haveI := CoversFrom.decidable (executed ++ [group]) groups
    inferInstanceAs (Decidable (_ ∧ _))

/-- What the execution of the pending groups needs after that of the executed ones. -/
structure ExecutableFrom (settings : Settings) (executed pending : List PhaseGroup) : Prop where
  idle : pending ≠ [] → settings.idleNudgeAfterSec < settings.idleKillAfterSec
  phases : ∀ group ∈ pending, group.phases ≠ []
  covers : CoversFrom executed pending

/-- What the executor needs of a configuration. -/
def PhaseConfig.Executable (config : PhaseConfig) : Prop :=
  ExecutableFrom config.settings [] config.groups

theorem ExecutableFrom.tail {settings : Settings} {executed pending : List PhaseGroup}
    {group : PhaseGroup} (h : ExecutableFrom settings executed (group :: pending)) :
    ExecutableFrom settings (executed ++ [group]) pending where
  idle _ := h.idle (List.cons_ne_nil _ _)
  phases g hg := h.phases g (List.mem_cons_of_mem group hg)
  covers := h.covers.2

/-! ## One attempt -/

section
variable {exec : ExecutorConfig} {settings : Settings} {group : PhaseGroup} {sessionId : String}
  {a : GroupAttempt} {file : Except String Checkpoint}

/-- Without a budget no session starts. -/
theorem preflight_ok (h : preflight exec group a = .ok ()) : exec.maxConcurrentSessions ≠ 0 := by
  intro hzero
  have hbudget : checkBudget exec group a ≠ .ok () := by
    rw [checkBudget, hzero, if_pos (Nat.zero_le _), if_pos (Nat.zero_le _)]
    cases a.preCleanup with
    | error e => nofun
    | ok u => nofun
  rw [preflight] at h
  split at h
  · cases h
  · next hok => exact hbudget hok

theorem preflight_error {e : PlanError} (h : preflight exec group a = .error e) (name : String) :
    e ≠ .noPhases name := by
  have hbudget : checkBudget exec group a ≠ .error (.noPhases name) := by
    rw [checkBudget]
    split
    · split
      · nofun
      · split <;> nofun
    · nofun
  rintro rfl
  rw [preflight] at h
  split at h
  · next e heq =>
    cases h
    exact hbudget heq
  · split at h
    · cases h
    · split at h
      · split at h
        · cases h
        · cases h
      · cases h

/-- A session ends without an error about the phases, and with a failed assertion only where the
idle kill does not come after the nudge. -/
theorem runSession_spec {ended : AttemptEnd}
    (h : runSession exec settings group sessionId a = some ended) :
    (∀ message, ended = .panicked message →
      ¬ settings.idleNudgeAfterSec < settings.idleKillAfterSec) ∧
      ∀ name, ended ≠ .error (.noPhases name) := by
  have hkilled (pid : UInt32) (error : ErrorClass) (text : String) :
      (∀ message, killed group sessionId a pid error text ≠ .panicked message) ∧
        ∀ name, killed group sessionId a pid error text ≠ .error (.noPhases name) := by
    rw [killed]
    cases a.kill with
    | error e => exact ⟨nofun, nofun⟩
    | ok u => exact ⟨nofun, nofun⟩
  have hmonitor (pid : UInt32) (config : CompletionConfig)
      (h : monitorSession group sessionId a pid config = some ended) :
      (∀ message, ended ≠ .panicked message) ∧ ∀ name, ended ≠ .error (.noPhases name) := by
    rw [monitorSession] at h
    split at h
    · cases h
      exact ⟨nofun, nofun⟩
    · split at h
      · cases h
        cases a.kill with
        | error e => exact ⟨nofun, nofun⟩
        | ok u =>
          cases a.postCleanup with
          | error e => exact ⟨nofun, nofun⟩
          | ok u => exact ⟨nofun, nofun⟩
      · cases h
    · split at h
      · cases h
        exact hkilled ..
      · cases h
    · cases h
      exact hkilled ..
    · cases h
      exact hkilled ..
    · cases h
      exact hkilled ..
  rw [runSession] at h
  split at h
  · cases h
    exact ⟨nofun, nofun⟩
  · next pid _ =>
    split at h
    · cases h
      exact ⟨fun message heq => absurd heq ((hkilled _ _ _).1 message), (hkilled _ _ _).2⟩
    · split at h
      · cases h
        exact ⟨nofun, nofun⟩
      · split at h
        · next message hpanic =>
          cases h
          refine ⟨fun _ _ hlt => ?_, nofun⟩
          rw [CompletionConfig.forGroup, if_pos hlt] at hpanic
          cases hpanic
        · next config _ =>
          obtain ⟨hpanic, hphases⟩ := hmonitor pid config h
          exact ⟨fun message heq => absurd heq (hpanic message), hphases⟩

/-- What an attempt can do to the plan: each happens only where a session is to be started. -/
structure Attempted.Spec (exec : ExecutorConfig) (settings : Settings) (group : PhaseGroup)
    (o : Attempted) : Prop where
  panicked : ∀ message, o.ended = .panicked message →
    exec.dryRun = false ∧ exec.maxConcurrentSessions ≠ 0 ∧
      ¬ settings.idleNudgeAfterSec < settings.idleKillAfterSec
  noPhases : ∀ name, o.ended = .error (.noPhases name) →
    exec.dryRun = false ∧ exec.maxConcurrentSessions ≠ 0 ∧ group.phases = []
  marked : ∀ phases ∈ o.marked, exec.dryRun = false ∧ exec.maxConcurrentSessions ≠ 0 ∧
    ∃ first ∈ group.phases.head?, ∀ phase ∈ phases, phase ∈ phasesBefore first

theorem executeGroupOnce_spec {o : Attempted}
    (h : executeGroupOnce exec settings group sessionId a file = some o) :
    o.Spec exec settings group := by
  unfold executeGroupOnce at h
  split at h
  · next e herror =>
    cases h
    refine ⟨nofun, ?_, nofun⟩
    intro name heq
    cases heq
    exact absurd rfl (preflight_error herror name)
  · next hok =>
    have hmax := preflight_ok hok
    split at h
    · cases h
      exact ⟨nofun, nofun, nofun⟩
    · next hdry =>
      have hdry : exec.dryRun = false := Bool.not_eq_true _ ▸ hdry
      split at h
      · cases h
        exact ⟨nofun, nofun, nofun⟩
      · next cp =>
        split at h
        · next hhead =>
          cases h
          refine ⟨nofun, ?_, nofun⟩
          rintro name -
          exact ⟨hdry, hmax, List.head?_eq_none_iff.mp hhead⟩
        · next first hhead =>
          split at h
          · cases h
            exact ⟨nofun, nofun, nofun⟩
          · obtain ⟨ended, hsession, rfl⟩ := Option.map_eq_some_iff.mp h
            obtain ⟨hpanic, hphases⟩ := runSession_spec hsession
            refine ⟨fun message heq => ⟨hdry, hmax, hpanic message heq⟩,
              fun name heq => absurd heq (hphases name), ?_⟩
            intro phases hmarked
            cases hmarked
            refine ⟨hdry, hmax, first, hhead, ?_⟩
            intro phase hphase
            exact (List.mem_filter.mp hphase).1

end

/-! ## Configurations that execute -/

/-- What holds throughout an execution; what the pending groups need only matters where a session
can start. -/
structure PlanRun.Inv (exec : ExecutorConfig) (settings : Settings) (s : PlanRun) : Prop where
  assertions : ∀ message, s.ended ≠ some (.panicked message)
  phases : ∀ group, s.ended ≠ some (.error (.noPhases group))
  marked : ∀ marking ∈ s.marked, ∀ phase ∈ marking.phases,
    ∃ group ∈ marking.executed, phase ∈ group.phases
  pending : exec.dryRun = false → exec.maxConcurrentSessions ≠ 0 →
    ExecutableFrom settings s.executed s.pending

namespace PlanRun.Inv
variable {exec : ExecutorConfig} {config : PhaseConfig} {settings : Settings} {p : PlanStart}
  {s s' : PlanRun} {group : PhaseGroup} {rest : List PhaseGroup} {a : GroupAttempt}

theorem executes (h : s.Inv exec settings) : s.Executes :=
  ⟨h.assertions, h.phases, fun _ => h.marked⟩

theorem finishGroup (h : s.Inv exec settings) (hpending : s.pending = group :: rest)
    (result : PhaseGroupResult) : (s.finishGroup group rest result).Inv exec settings := by
  have htail (hdry : exec.dryRun = false) (hmax : exec.maxConcurrentSessions ≠ 0) :
      ExecutableFrom settings (s.executed ++ [group]) rest := by
    have hrest := h.pending hdry hmax
    rw [hpending] at hrest
    exact hrest.tail
  unfold PlanRun.finishGroup
  dsimp only
  split
  · exact ⟨nofun, nofun, h.marked, htail⟩
  · refine ⟨?_, ?_, h.marked, htail⟩
    · intro message
      dsimp only
      split <;> nofun
    · intro name
      dsimp only
      split <;> nofun

theorem step (h : s.Inv exec config.settings) (hstep : s.step exec config p a = some s') :
    s'.Inv exec config.settings := by
  unfold PlanRun.step at hstep
  split at hstep
  · next group rest hended hpending =>
    dsimp only at hstep
    split at hstep
    · cases hstep
      exact h.finishGroup hpending _
    · obtain ⟨o, hattempt, rfl⟩ := Option.map_eq_some_iff.mp hstep
      have hspec := executeGroupOnce_spec hattempt
      have hmarked : ∀ marking ∈ (o.marked.map (Marking.mk s.executed)).toList ++ s.marked,
          ∀ phase ∈ marking.phases, ∃ group ∈ marking.executed, phase ∈ group.phases := by
        intro marking hmem phase hphase
        rcases List.mem_append.mp hmem with hnew | hold
        · obtain ⟨phases, hphases, rfl⟩ :=
            Option.map_eq_some_iff.mp (Option.mem_toList.mp hnew)
          obtain ⟨hdry, hmax, first, hfirst, hbefore⟩ := hspec.marked phases hphases
          have hrest := h.pending hdry hmax
          rw [hpending] at hrest
          exact hrest.covers.1 first hfirst phase (hbefore phase hphase)
        · exact h.marked marking hold phase hphase
      have hattempted (coordinator : RetryCoordinator) (count : UInt32) :
          PlanRun.Inv exec config.settings { s with
            file := o.file
            retryCoordinator := coordinator
            retryCount := count
            marked := (o.marked.map (Marking.mk s.executed)).toList ++ s.marked } :=
        ⟨h.assertions, h.phases, hmarked, h.pending⟩
      split
      · next e he =>
        refine ⟨nofun, ?_, hmarked, h.pending⟩
        intro name heq
        cases heq
        obtain ⟨hdry, hmax, hnil⟩ := hspec.noPhases name he
        have hrest := h.pending hdry hmax
        rw [hpending] at hrest
        exact hrest.phases group List.mem_cons_self hnil
      · next message hmessage =>
        obtain ⟨hdry, hmax, hidle⟩ := hspec.panicked message hmessage
        have hrest := h.pending hdry hmax
        rw [hpending] at hrest
        exact absurd (hrest.idle (List.cons_ne_nil _ _)) hidle
      · split
        · split
          · exact hattempted _ _
          · exact (hattempted _ _).finishGroup hpending _
          · exact (hattempted _ _).finishGroup hpending _
        · exact (hattempted _ _).finishGroup hpending _
  · cases hstep

theorem start (h : PlanRun.start config p = .ok s)
    (hconfig : exec.dryRun = false → exec.maxConcurrentSessions ≠ 0 → config.Executable) :
    s.Inv exec config.settings := by
  unfold PlanRun.start at h
  split at h
  · cases h
  · split at h
    · cases h
    · cases h
      refine ⟨?_, ?_, nofun, hconfig⟩
      · intro message
        dsimp only
        split <;> nofun
      · intro name
        dsimp only
        split <;> nofun

end PlanRun.Inv

/-! ## Configurations that do not -/

/-- A checkpoint in which the phases of one group are completed. -/
def groupCheckpoint (group : PhaseGroup) : Checkpoint where
  id := "arc-1"
  planFile := "plan.md"
  phases := Dict.ofList (group.phases.map fun phase => (phase, { status := "completed" }))

/-- An attempt at which nothing goes wrong. -/
def smoothAttempt (group : PhaseGroup) : GroupAttempt where
  now := "2025-01-01T00:00:00+00:00"
  failedAt := 0
  duration := 0
  activeSessions := 0
  remainingSessions := 0
  preCleanup := .ok ()
  health := .ok ()
  writeCheckpoint := .ok ()
  spawn := .ok 1
  waitForPrompt := .ok ()
  sendKeys := .ok ()
  monitor _ := .completed
  kill := .ok ()
  postCleanup := .ok ()
  file := .ok (groupCheckpoint group)

/-- Every phase of the checkpoint is completed and belongs to one of the groups; none is to be
skipped. -/
structure CompletedOf (groups : List PhaseGroup) (cp : Checkpoint) : Prop where
  skipMap : cp.skipMap = none
  completed : ∀ phase p, cp.phases.lookup phase = some p →
    p.status = "completed" ∧ ∃ group ∈ groups, phase ∈ group.phases

theorem lookup_groupCheckpoint (group : PhaseGroup) (phase : String) :
    (groupCheckpoint group).phases.lookup phase =
      if phase ∈ group.phases then some { status := "completed" } else none :=
  Dict.lookup_ofList_const group.phases _ phase

/-- The execution has reached the groups of `rest`, and those before have succeeded. -/
structure Ready (before rest : List PhaseGroup) (s : PlanRun) : Prop where
  executed : s.executed = before
  pending : s.pending = rest
  retryCount : s.retryCount = 0
  ended : rest ≠ [] → s.ended = none
  succeeded : ∀ result ∈ s.results, result.state = .succeeded
  file : ∃ cp, s.file = .ok cp ∧ CompletedOf before cp

namespace Ready
variable {exec : ExecutorConfig} {config : PhaseConfig} {p : PlanStart} {s : PlanRun}
  {before rest : List PhaseGroup} {group : PhaseGroup} {cp : Checkpoint}

/-- The group that is next is not skipped: none of its phases has been executed. -/
theorem skips_eq_false (hfile : s.file = .ok cp) (hcp : CompletedOf before cp)
    (hdisjoint : ∀ g ∈ before, ∀ phase ∈ g.phases, phase ∉ group.phases) :
    s.skips group = false := by
  have hskipped (phase : String) :
      (cp.phases.lookup phase).any (·.status == "skipped") = false := by
    cases hlookup : cp.phases.lookup phase with
    | none => rfl
    | some p => simp [(hcp.completed phase p hlookup).1]
  have hdone : (!group.phases.isEmpty && group.phases.all cp.isPhaseDoneOrWillSkip) = false := by
    cases hphases : group.phases with
    | nil => rfl
    | cons phase phases =>
      have hnot : cp.isPhaseDoneOrWillSkip phase = false := by
        have hskip : cp.isInSkipMap phase = false := by
          rw [Checkpoint.isInSkipMap, hcp.skipMap]
        rw [Checkpoint.isPhaseDoneOrWillSkip, hskip]
        cases hlookup : cp.phases.lookup phase with
        | none => rfl
        | some p =>
          obtain ⟨-, g, hg, hphase⟩ := hcp.completed phase p hlookup
          exact absurd (hphases ▸ List.mem_cons_self) (hdisjoint g hg phase hphase)
      rw [List.all_cons, hnot]
      simp
  have hskip (skipIf : String) : shouldSkipGroup skipIf s.file group.phases = false := by
    rw [hfile]
    dsimp only [shouldSkipGroup]
    rw [hskipped, hskipped, hdone]
    simp
  rw [PlanRun.skips]
  cases group.skipIf with
  | none => simp
  | some skipIf => simp [hskip]

theorem preflight_smooth (hmax : exec.maxConcurrentSessions ≠ 0) :
    preflight exec group (smoothAttempt group) = .ok () := by
  have hbudget : checkBudget exec group (smoothAttempt group) = .ok () := by
    rw [checkBudget, if_neg]
    exact fun hle => hmax (Nat.le_zero.mp hle)
  rw [preflight, hbudget]
  dsimp only [smoothAttempt]
  exact if_pos (Nat.pos_of_ne_zero hmax)

theorem isCompleteIn_groupCheckpoint :
    group.isCompleteIn (.ok (groupCheckpoint group)) = true := by
  dsimp only [PhaseGroup.isCompleteIn]
  rw [List.all_eq_true]
  intro phase hphase
  rw [lookup_groupCheckpoint, if_pos hphase]
  rfl

/-- A smooth attempt marks the phases before the first one, and succeeds if the assertion holds. -/
theorem executeGroupOnce_smooth {first : String} (hdry : exec.dryRun = false)
    (hmax : exec.maxConcurrentSessions ≠ 0) (hfirst : group.phases.head? = some first)
    (settings : Settings) (sessionId : String) (cp : Checkpoint) :
    executeGroupOnce exec settings group sessionId (smoothAttempt group) (.ok cp) = some {
      ended :=
        match CompletionConfig.forGroup group.timeoutMin settings.idleNudgeAfterSec
          settings.idleKillAfterSec with
        | .error message => .panicked message
        | .ok _ =>
          .result (attemptResult group sessionId (smoothAttempt group) .succeeded (some 1) none)
      file := .ok (groupCheckpoint group)
      marked := some (cp.markedCompleted first) } := by
  have hmock (x : Except String Unit) (hx : x = .ok ()) :
      (if exec.mock then .ok () else x) = .ok () := by
    rw [hx]
    split <;> rfl
  unfold executeGroupOnce
  rw [preflight_smooth hmax, hdry, hfirst]
  dsimp only [smoothAttempt, Except.isOk, Except.toBool]
  unfold runSession
  dsimp only
  rw [hmock _ rfl]
  cases CompletionConfig.forGroup group.timeoutMin settings.idleNudgeAfterSec
    settings.idleKillAfterSec with
  | error message => rfl
  | ok config =>
    dsimp only [monitorSession]
    rw [if_pos isCompleteIn_groupCheckpoint]
    rfl

/-- A group that succeeds is one more that was executed. -/
theorem finishGroup {result : PhaseGroupResult} (hexecuted : s.executed = before)
    (hsucceeded : ∀ result ∈ s.results, result.state = .succeeded)
    (hfile : ∃ cp, s.file = .ok cp ∧ CompletedOf (before ++ [group]) cp)
    (hresult : result.state = .succeeded) :
    Ready (before ++ [group]) rest (s.finishGroup group rest result) := by
  have hfailed : result.state.isFailed = false := by
    rw [hresult]
    rfl
  unfold PlanRun.finishGroup
  dsimp only
  rw [hfailed, if_neg Bool.false_ne_true, hexecuted]
  refine ⟨rfl, rfl, rfl, ?_, ?_, hfile⟩
  · intro hrest
    rw [if_neg]
    rwa [List.isEmpty_iff]
  · intro r hr
    rcases List.mem_append.mp hr with hold | hnew
    · exact hsucceeded r hold
    · rwa [List.mem_singleton.mp hnew]

theorem completedOf_groupCheckpoint : CompletedOf (before ++ [group]) (groupCheckpoint group) where
  skipMap := rfl
  completed := by
    intro phase p hlookup
    rw [lookup_groupCheckpoint] at hlookup
    split at hlookup
    · next hphase =>
      cases hlookup
      exact ⟨rfl, group, List.mem_append_right before (List.mem_singleton_self group), hphase⟩
    · cases hlookup

/-- Where the execution of the group that is next goes right whatever happens, the group meets what
is needed, and a smooth attempt leads to the groups after it. -/
theorem step_smooth (h : Ready before (group :: rest) s) (hdry : exec.dryRun = false)
    (hmax : exec.maxConcurrentSessions ≠ 0)
    (hdisjoint : ∀ g ∈ before, ∀ phase ∈ g.phases, phase ∉ group.phases)
    (hexecutes : ∀ s', s.step exec config p (smoothAttempt group) = some s' → s'.Executes) :
    config.settings.idleNudgeAfterSec < config.settings.idleKillAfterSec ∧ group.phases ≠ [] ∧
      (∀ first ∈ group.phases.head?, ∀ phase ∈ phasesBefore first,
        ∃ g ∈ before, phase ∈ g.phases) ∧
      ∃ s', s.step exec config p (smoothAttempt group) = some s' ∧
        Ready (before ++ [group]) rest s' := by
  obtain ⟨cp, hfile, hcp⟩ := h.file
  have hskips := skips_eq_false hfile hcp hdisjoint
  have hended := h.ended (List.cons_ne_nil _ _)
  unfold PlanRun.step at hexecutes ⊢
  rw [hended, h.pending] at hexecutes ⊢
  dsimp only at hexecutes ⊢
  rw [hskips, if_neg Bool.false_ne_true, hfile] at hexecutes ⊢
  cases hhead : group.phases.head? with
  | none =>
    have hnone (sessionId : String) :
        executeGroupOnce exec config.settings group sessionId (smoothAttempt group) (.ok cp) =
          some { ended := .error (.noPhases group.name), file := .ok cp } := by
      unfold executeGroupOnce
      rw [preflight_smooth hmax, hdry, hhead]
      rfl
    rw [hnone] at hexecutes
    exact absurd rfl ((hexecutes _ rfl).phases group.name)
  | some first =>
    rw [executeGroupOnce_smooth hdry hmax hhead] at hexecutes ⊢
    cases hconfig : CompletionConfig.forGroup group.timeoutMin config.settings.idleNudgeAfterSec
        config.settings.idleKillAfterSec with
    | error message =>
      rw [hconfig] at hexecutes
      exact absurd rfl ((hexecutes _ rfl).assertions message)
    | ok completionConfig =>
      have hidle : config.settings.idleNudgeAfterSec < config.settings.idleKillAfterSec := by
        refine Decidable.byContradiction fun hnot => ?_
        rw [CompletionConfig.forGroup, if_neg hnot] at hconfig
        cases hconfig
      rw [hconfig] at hexecutes
      let s' := ({ s with
        file := .ok (groupCheckpoint group)
        marked := ⟨s.executed, cp.markedCompleted first⟩ :: s.marked } : PlanRun).finishGroup
        group rest (attemptResult group s!"gw-{p.planHash}-{group.name}" (smoothAttempt group)
          .succeeded (some 1) none)
      have hready : Ready (before ++ [group]) rest s' :=
        finishGroup h.executed h.succeeded ⟨_, rfl, completedOf_groupCheckpoint⟩ rfl
      refine ⟨hidle, ?_, ?_, s', rfl, hready⟩
      · intro hnil
        rw [hnil] at hhead
        cases hhead
      · intro first' hfirst phase hphase
        cases hfirst
        have hmarked := (hexecutes s' rfl).marked hready.succeeded
          ⟨s.executed, cp.markedCompleted first⟩ List.mem_cons_self phase
        rw [h.executed] at hmarked
        refine hmarked (List.mem_filter.mpr ⟨hphase, ?_⟩)
        rw [Checkpoint.isInSkipMap, hcp.skipMap]
        rfl

/-- Where every execution from here goes right, the groups that are left meet what is needed. -/
theorem executableFrom (hdry : exec.dryRun = false) (hmax : exec.maxConcurrentSessions ≠ 0)
    (hnodup : ((before ++ rest).flatMap (·.phases)).Nodup) (h : Ready before rest s)
    (hexecutes : ∀ attempts s', GreaterWill.exec (PlanRun.step exec config p) s attempts = some s' →
      s'.Executes) : ExecutableFrom config.settings before rest := by
  induction rest generalizing before s with
  | nil => exact ⟨fun hne => absurd rfl hne, nofun, True.intro⟩
  | cons group rest ih =>
    have hdisjoint : ∀ g ∈ before, ∀ phase ∈ g.phases, phase ∉ group.phases := by
      intro g hg phase hphase hmem
      rw [List.flatMap_append, List.nodup_append] at hnodup
      exact hnodup.2.2 phase (List.mem_flatMap.mpr ⟨g, hg, hphase⟩) phase
        (List.mem_flatMap.mpr ⟨group, List.mem_cons_self, hmem⟩) rfl
    obtain ⟨hidle, hphases, hcovers, s', hstep, hready⟩ :=
      h.step_smooth hdry hmax hdisjoint fun s' hstep =>
        hexecutes [smoothAttempt group] s' (by rw [exec_singleton, hstep])
    have hrest : ExecutableFrom config.settings (before ++ [group]) rest := by
      refine ih ?_ hready ?_
      · rwa [List.append_assoc]
      · intro attempts s'' hrun
        exact hexecutes (smoothAttempt group :: attempts) s'' (exec_cons.mpr ⟨s', hstep, hrun⟩)
    exact ⟨fun _ => hidle, List.forall_mem_cons.mpr ⟨hphases, hrest.phases⟩, hcovers, hrest.covers⟩

end Ready

/-- A plan with a checkpoint in which no phase has started. -/
def plainStart : PlanStart where
  planHash := "0123456789ab"
  planPath := "plan.md"
  arcDir := "/repo/.rune/arc/arc-0123456789ab"
  now := "2025-01-01T00:00:00+00:00"
  existing := some (.ok { id := "arc-1", planFile := "plan.md" })
  createDir := .ok ()
  writeCheckpoint := .ok ()

theorem ready_plainStart (config : PhaseConfig) :
    ∃ s, PlanRun.start config plainStart = .ok s ∧ Ready [] config.groups s := by
  refine ⟨_, rfl, rfl, rfl, rfl, ?_, nofun, _, rfl, rfl, ?_⟩
  · intro hne
    dsimp only
    rw [if_neg]
    rwa [List.isEmpty_iff]
  · intro phase p hlookup
    have hempty : (∅ : Dict PhaseStatus).lookup phase = some p := hlookup
    rw [Finmap.lookup_empty] at hempty
    cases hempty

/-- Every execution of an accepted configuration goes right exactly if no session is ever started,
or idle sessions are nudged before they are killed, every group has a phase, and the phases before
the first one of a group belong to groups before it. -/
theorem plan_executes_iff (config : ValidConfig) (executor : ExecutorConfig) :
    (∀ p s₀ attempts s, PlanRun.start config.toPhaseConfig p = .ok s₀ →
      exec (PlanRun.step executor config.toPhaseConfig p) s₀ attempts = some s → s.Executes) ↔
      executor.dryRun = true ∨ executor.maxConcurrentSessions = 0 ∨
        config.toPhaseConfig.Executable := by
  constructor
  · intro hexecutes
    by_cases hdry : executor.dryRun = true
    · exact .inl hdry
    by_cases hmax : executor.maxConcurrentSessions = 0
    · exact .inr (.inl hmax)
    obtain ⟨-, hnodup, -, -⟩ := PhaseConfig.validate_ok.mp config.validated
    obtain ⟨s₀, hstart, hready⟩ := ready_plainStart config.toPhaseConfig
    exact .inr (.inr (hready.executableFrom (Bool.not_eq_true _ ▸ hdry) hmax hnodup
      fun attempts s hrun => hexecutes plainStart s₀ attempts s hstart hrun))
  · intro hconfig p s₀ attempts s hstart hrun
    have hinit : s₀.Inv executor config.settings := by
      refine .start hstart fun hdry hmax => ?_
      rcases hconfig with hdry' | hmax' | hexecutable
      · rw [hdry] at hdry'
        cases hdry'
      · exact absurd hmax' hmax
      · exact hexecutable
    exact (exec_preserves (fun _ _ _ hstep h => h.step hstep) hrun hinit).executes

private def emptyGroup : PhaseGroup where
  name := "A"
  phases := []
  skillCommand := "/rune:arc \x7bplan\x7d --resume"
  timeoutMin := 30

private def emptyGroupConfig : ValidConfig where
  settings := { defaultTimeoutMin := 30, idleNudgeAfterSec := 180, idleKillAfterSec := 300 }
  groups := [emptyGroup]
  validated := rfl

/-- A group without phases is accepted, and ends the plan with an error. -/
theorem empty_group_aborts :
    ¬ ∀ (config : ValidConfig) (executor : ExecutorConfig) p s₀ attempts s,
      PlanRun.start config.toPhaseConfig p = .ok s₀ →
        exec (PlanRun.step executor config.toPhaseConfig p) s₀ attempts = some s → s.Executes := by
  intro hclaim
  obtain ⟨s₀, hstart, -⟩ := ready_plainStart emptyGroupConfig.toPhaseConfig
  cases hstart
  exact (hclaim emptyGroupConfig {} plainStart _ [smoothAttempt emptyGroup] _ rfl rfl).phases
    "A" rfl

/-- `config/default-phases.toml`. -/
def defaultPhases : ValidConfig where
  settings := { defaultTimeoutMin := 30, idleNudgeAfterSec := 180, idleKillAfterSec := 300 }
  groups := [
    { name := "A"
      phases := ["forge", "forge_qa", "plan_review", "plan_refine", "verification"]
      skillCommand := "/rune:arc \x7bplan\x7d --resume"
      timeoutMin := 30 },
    { name := "B"
      phases := ["semantic_verification", "design_extraction", "design_prototype",
        "task_decomposition"]
      skillCommand := "/rune:arc \x7bplan\x7d --resume"
      timeoutMin := 30
      skipIf := some "codex_disabled" },
    { name := "C"
      phases := ["work"]
      skillCommand := "/rune:arc \x7bplan\x7d --resume"
      timeoutMin := 90 },
    { name := "D"
      phases := ["work_qa", "drift_review", "storybook_verification", "design_verification",
        "design_verification_qa", "ux_verification", "gap_analysis", "gap_analysis_qa",
        "codex_gap_analysis", "gap_remediation", "inspect", "inspect_fix", "verify_inspect"]
      skillCommand := "/rune:arc \x7bplan\x7d --resume"
      timeoutMin := 60 },
    { name := "E"
      phases := ["goldmask_verification", "code_review", "code_review_qa", "goldmask_correlation",
        "mend", "mend_qa", "verify_mend"]
      skillCommand := "/rune:arc \x7bplan\x7d --resume"
      timeoutMin := 60 },
    { name := "F"
      phases := ["design_iteration", "test", "test_qa"]
      skillCommand := "/rune:arc \x7bplan\x7d --resume"
      timeoutMin := 60 },
    { name := "G"
      phases := ["test_coverage_critique", "deploy_verify", "pre_ship_validation",
        "release_quality_check", "ship", "bot_review_wait", "pr_comment_resolution", "merge"]
      skillCommand := "/rune:arc \x7bplan\x7d --resume"
      timeoutMin := 30 }]
  validated := PhaseConfig.validate_ok.mpr (by decide +kernel)

/-- The configuration that is shipped meets what the executor needs. -/
theorem defaultPhases_executable : defaultPhases.toPhaseConfig.Executable where
  idle _ := by decide
  phases := by decide
  covers := by decide +kernel

end GreaterWill
