import GreaterWill.Daemon.RunMonitor
import GreaterWill.Daemon.Tasks

/-!
# The heartbeat's look at a run

`update_phase_from_pane` of `daemon/heartbeat.rs`: every tick the heartbeat reads the phase of each
run, from the checkpoint its loop state points to or else from the pane, and shows it; a checkpoint
whose phase is `complete` is to promote the run to Succeeded. A tick finds the files and the pane as
they are given here, and no other task comes in between. The events it emits are left out.
-/

namespace GreaterWill

open Text

/-- `read_phase_via_loop_state`. -/
def readPhaseViaLoopState (serde : SerdeValue) (files : Files) (repoDir : PathBuf) :
    Option String :=
  match readArcLoopState files repoDir with
  | .active state =>
    let checkpointPath := state.resolveCheckpointPath repoDir
    if files.pathExists checkpointPath then
      match readCheckpoint serde files checkpointPath with
      | .ok cp => cp.inferPhasePosition.effectivePhase
      | .error _ => none
    else none
  | _ => none

/-- What stands after the first occurrence of `pat`. -/
def textAfter (pat s : List Char) : Option (List Char) :=
  (before pat s).map fun pre => s.drop (pre.length + pat.length)

/-- The first piece between whitespace. -/
def firstWord (s : List Char) : Option (List Char) :=
  let word := (s.dropWhile isWhitespace).takeWhile (!isWhitespace ·)
  if word.isEmpty then none else some word

/-- The text behind `executing phase:` in a line of the arc's stop hook. -/
def phaseMarker (toLowercase : List Char → List Char) (line : List Char) : Option (List Char) :=
  (stripPrefix "arc phase loop".toList (toLowercase line)).bind
    (textAfter "executing phase:".toList)

/-- `phase_from_pane_heuristic`: the last line of the stop hook, or a `phase_N` marker. -/
def phaseFromPaneHeuristic (toLowercase : List Char → List Char) (paneContent : String) :
    Option String :=
  let fromBottom := (lines paneContent.toList).reverse
  match (fromBottom.take 30).findSome? (phaseMarker toLowercase) with
  | some text => (firstWord text).map String.ofList
  | none =>
    let tail := toLowercase (['\n'].intercalate (fromBottom.take 20))
    if contains tail "phase_1".toList then some "plan"
    else if contains tail "phase_2".toList then some "work"
    else if contains tail "phase_3".toList then some "review"
    else if contains tail "phase_4".toList then some "test"
    else if contains tail "phase_5".toList then some "ship"
    else none

namespace RunRegistry
variable (host : Host) (probes : Probes) (files : Files) (r : RunRegistry) (runId : String)

/-- The phase of the run's checkpoint. -/
def checkpointPhase : Option String :=
  (r.get runId).bind fun e => readPhaseViaLoopState probes.serde files e.repoDir

/-- The registry shows the phase. -/
def showPhase (phase : Option String) (now : DateTime) : RunRegistry :=
  match phase with
  | some phaseName =>
    if (r.get runId).any (·.currentPhase ≠ some phaseName) then
      r.setRunning host runId { currentPhase := some phaseName } phaseName now
    else r
  | none => r

/-- `update_phase_from_pane`. -/
def updatePhaseFromPane (paneContent : String) (now : DateTime) : RunRegistry :=
  let cpPhase := r.checkpointPhase probes files runId
  let cpConfirmsCompletion := decide (cpPhase = some "complete")
  let phase := cpPhase.or (phaseFromPaneHeuristic probes.toLowercase paneContent)
  let r := r.showPhase host runId phase now
  if !cpConfirmsCompletion then r
  -- the run may have ended in the meantime
  else if (r.get runId).any (·.status = .running) then
    r.tryStage host runId .succeeded (some "complete") none now
  else r

end RunRegistry

/-! ## The phases a checkpoint can have -/

section
variable {cp : Checkpoint} {name : String}

theorem mem_phaseOrder_of_firstWithStatus {status : String} {p : PhaseStatus}
    (h : cp.firstWithStatus status = some (name, p)) : name ∈ PHASE_ORDER := by
  obtain ⟨name', hmem, hfound⟩ := List.exists_of_findSome?_eq_some h
  obtain ⟨q, -, hq⟩ := Option.bind_eq_some_iff.mp hfound
  split at hq
  · cases hq
    exact hmem
  · cases hq

theorem mem_phaseOrder_of_nextActionablePhaseAfter {i : Nat}
    (h : cp.nextActionablePhaseAfter i = some name) : name ∈ PHASE_ORDER :=
  List.mem_of_mem_drop (List.mem_of_find?_eq_some h)

/-- The effective phase of a checkpoint is one of the canonical phases. -/
theorem mem_phaseOrder_of_effectivePhase
    (h : cp.inferPhasePosition.effectivePhase = some name) : name ∈ PHASE_ORDER := by
  unfold Checkpoint.inferPhasePosition at h
  split at h
  · cases h
  split at h
  · cases h
  split at h
  · rename_i phase p hfirst
    cases h
    exact mem_phaseOrder_of_firstWithStatus hfirst
  split at h
  · rename_i phase p hfirst
    cases h
    exact mem_phaseOrder_of_firstWithStatus hfirst
  dsimp only at h
  split at h
  · rename_i last completedAt next hlast hnext
    simp only [PhasePosition.effectivePhase] at h
    split at h
    · cases h
    · cases h
      exact mem_phaseOrder_of_nextActionablePhaseAfter hnext
  · split at h
    · cases h
    · cases h
  · rename_i first hlast hfirst
    cases h
    exact mem_phaseOrder_of_nextActionablePhaseAfter hfirst
  · cases h

/-- The heartbeat and the monitors find the same checkpoint. -/
theorem readPhaseViaLoopState_eq (serde : SerdeValue) (files : Files) (repoDir : PathBuf) :
    readPhaseViaLoopState serde files repoDir =
      (discoverCheckpoint serde files repoDir).1.bind (·.inferPhasePosition.effectivePhase) := by
  unfold readPhaseViaLoopState discoverCheckpoint
  cases readArcLoopState files repoDir with
  | missing | inactive => rfl
  | active state =>
    dsimp only
    split
    · cases readCheckpoint serde files (state.resolveCheckpointPath repoDir) with
      | ok cp => rfl
      | error e => rfl
    · rfl

theorem readPhaseViaLoopState_ne_complete (serde : SerdeValue) (files : Files)
    (repoDir : PathBuf) : readPhaseViaLoopState serde files repoDir ≠ some "complete" := by
  rw [readPhaseViaLoopState_eq]
  intro h
  obtain ⟨cp, -, hphase⟩ := Option.bind_eq_some_iff.mp h
  exact absurd (mem_phaseOrder_of_effectivePhase hphase) (by decide)

end

namespace RunRegistry
variable {host : Host} {probes : Probes} {files : Files} {r : RunRegistry} {runId : String}
  {e : RunEntry}

theorem checkpointPhase_ne_complete : r.checkpointPhase probes files runId ≠ some "complete" := by
  unfold checkpointPhase
  cases r.get runId with
  | none => exact nofun
  | some e => exact fun h => readPhaseViaLoopState_ne_complete probes.serde files e.repoDir h

/-- Showing a phase leaves the run Running. -/
theorem running_showPhase {phase : Option String} {now : DateTime} (hget : r.get runId = some e)
    (hrunning : e.status = .running) :
    ∃ e', (r.showPhase host runId phase now).get runId = some e' ∧ e'.status = .running := by
  unfold showPhase
  cases phase with
  | none => exact ⟨e, hget, hrunning⟩
  | some phaseName =>
    dsimp only
    split
    · have hmodify : (r.modify runId { currentPhase := some phaseName }).get runId =
          some (e.patch { currentPhase := some phaseName }) := by
        rw [get_modify, if_pos rfl, hget]
        rfl
      rcases tryStage_cases host (r.modify runId { currentPhase := some phaseName }) runId .running
          (some phaseName) none now with ⟨e', he', -, heq⟩ | ⟨-, heq⟩
      · refine ⟨e'.stage .running (some phaseName) none now, ?_, rfl⟩
        rw [setRunning, heq, get_staged, if_pos rfl]
      · refine ⟨e.patch { currentPhase := some phaseName }, ?_, hrunning⟩
        rw [setRunning, heq, hmodify]
    · exact ⟨e, hget, hrunning⟩

theorem running_updatePhaseFromPane (host : Host) (probes : Probes) (files : Files)
    (paneContent : String) (now : DateTime) (hget : r.get runId = some e)
    (hrunning : e.status = .running) :
    ∃ e', (r.updatePhaseFromPane host probes files runId paneContent now).get runId = some e' ∧
      e'.status = .running := by
  have hnot : decide (r.checkpointPhase probes files runId = some "complete") = false :=
    decide_eq_false checkpointPhase_ne_complete
  unfold updatePhaseFromPane
  dsimp only
  rw [hnot]
  exact running_showPhase hget hrunning

end RunRegistry

/-- The heartbeat promotes no run: whatever checkpoint it reads, its phase is not `complete`, and a
run that is Running stays Running, also when all phases of its checkpoint are done. -/
theorem heartbeat_never_promotes (host : Host) (probes : Probes) (files : Files) (r : RunRegistry)
    (runId paneContent : String) (now : DateTime) (e : RunEntry) (cp : Checkpoint)
    (hget : r.get runId = some e) (hrunning : e.status = .running)
    (hread : (discoverCheckpoint probes.serde files e.repoDir).1 = some cp)
    (hdone : cp.inferPhasePosition = .allDone) :
    r.checkpointPhase probes files runId = none ∧
      ∃ e', (r.updatePhaseFromPane host probes files runId paneContent now).get runId = some e' ∧
        e'.status = .running := by
  refine ⟨?_, RunRegistry.running_updatePhaseFromPane host probes files paneContent now hget hrunning⟩
  rw [RunRegistry.checkpointPhase, hget, Option.bind_some, readPhaseViaLoopState_eq, hread,
    Option.bind_some, hdone]
  rfl

/-! A run whose checkpoint says that the pipeline is over. -/

private def doneText : String :=
  "\x7b\"id\":\"arc-1\",\"plan_file\":\"plans/a.md\",\"phases\":\x7b" ++
    "\"merge\":\x7b\"status\":\"completed\"\x7d\x7d\x7d"

private def doneCheckpoint : Checkpoint where
  id := "arc-1"
  planFile := "plans/a.md"
  phases := Dict.ofList [("merge", { status := "completed" })]

private def doneProbes : Probes where
  serde :=
    { fromStr := fun text =>
        if text = doneText then
          some (.object [
            ("id", .string "arc-1"),
            ("plan_file", .string "plans/a.md"),
            ("phases", .object [("merge", .object [("status", .string "completed")])])])
        else none
      toPretty := fun _ => ""
      display := fun _ => "" }
  hashStr _ := 0
  toLowercase := id
  paneErrorClass _ := none
  parseRfc3339 _ := none

private def doneFiles : Files := Dict.ofList [
  ("/repo/.rune/arc-phase-loop.local.md", some
    "---\nactive: true\ncheckpoint_path: /repo/arc-1.json\nplan_file: plans/a.md\n---\n"),
  ("/repo/arc-1.json", some doneText)]

private def doneEntry : RunEntry :=
  { RunEntry.registered "a" "plans/a.md" "/repo" none none none 0 with
    status := .running
    tmuxSession := some "gw-a" }

private def doneRegistry : RunRegistry :=
  { RunRegistry.new with runs := (∅ : Map String RunEntry).insert "a" doneEntry }

private theorem done_get : doneRegistry.get "a" = some doneEntry := AList.lookup_insert _

private theorem done_loop_state : readArcLoopState doneFiles "/repo" = .active {
    active := true
    checkpointPath := "/repo/arc-1.json"
    planFile := "plans/a.md"
    configDir := ""
    ownerPid := ""
    sessionId := ""
    branch := ""
    iteration := 0
    maxIterations := 50 } := by
  decide +kernel

private theorem done_read :
    readCheckpoint doneProbes.serde doneFiles "/repo/arc-1.json" = .ok doneCheckpoint :=
  rfl

private theorem done_discovered :
    (discoverCheckpoint doneProbes.serde doneFiles "/repo").1 = some doneCheckpoint := by
  have hpath : ArcLoopState.resolveCheckpointPath {
      active := true
      checkpointPath := "/repo/arc-1.json"
      planFile := "plans/a.md"
      configDir := ""
      ownerPid := ""
      sessionId := ""
      branch := ""
      iteration := 0
      maxIterations := 50 } "/repo" = "/repo/arc-1.json" := by
    decide +kernel
  have hexists : doneFiles.pathExists "/repo/arc-1.json" = true := by
    decide +kernel
  rw [discoverCheckpoint, done_loop_state]
  dsimp only
  rw [hpath, if_pos hexists, done_read]

private theorem done_position : doneCheckpoint.inferPhasePosition = .allDone := by
  decide +kernel

/-- The merged run of this checkpoint stays Running. -/
theorem heartbeat_leaves_merged_run :
    doneRegistry.checkpointPhase doneProbes doneFiles "a" = none ∧
      ∃ e', (doneRegistry.updatePhaseFromPane .plain doneProbes doneFiles "a" "arc completed"
          1).get "a" = some e' ∧ e'.status = .running :=
  heartbeat_never_promotes .plain doneProbes doneFiles doneRegistry "a" "arc completed" 1 doneEntry
    doneCheckpoint done_get rfl done_discovered done_position

/-- A run is not promoted although the terminal phase of its checkpoint is completed. -/
theorem merged_run_not_promoted :
    ¬ ∀ (host : Host) (probes : Probes) (files : Files) (r : RunRegistry)
      (runId paneContent : String) (now : DateTime) (e : RunEntry) (cp : Checkpoint),
      r.get runId = some e → e.status = .running →
      (discoverCheckpoint probes.serde files e.repoDir).1 = some cp →
      cp.inferPhasePosition = .allDone →
      ∃ e', (r.updatePhaseFromPane host probes files runId paneContent now).get runId = some e' ∧
        e'.status = .succeeded := by
  intro hclaim
  obtain ⟨e', hget', hsucceeded⟩ := hclaim .plain doneProbes doneFiles doneRegistry "a"
    "arc completed" 1 doneEntry doneCheckpoint done_get rfl done_discovered done_position
  obtain ⟨e'', hget'', hrunning⟩ := RunRegistry.running_updatePhaseFromPane .plain doneProbes
    doneFiles "arc completed" 1 done_get rfl
  rw [hget'] at hget''
  cases hget''
  rw [hsucceeded] at hrunning
  cases hrunning

end GreaterWill
