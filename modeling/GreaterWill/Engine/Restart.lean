import GreaterWill.Checkpoint.Completion
import GreaterWill.Engine.PhaseProfile
import GreaterWill.Monitor.LoopState

/-!
# Restarting after a crash

`resolve_restart_command` looks for the checkpoint of the crashed run and decides between a fresh
start, a resume and not starting again. It takes a checkpoint with a skipped terminal phase for the
end of the pipeline, which `is_near_completion` does not: a run with `auto_merge=false` has that
phase skipped from its first minute on.
-/

namespace GreaterWill.SingleSession

/-- Decision for how to restart after a crash. -/
inductive RestartDecision where
  /-- Run the original command. -/
  | fresh (command : String)
  /-- Run with `--resume`. -/
  | resume (command : String)
  /-- Pipeline already complete. -/
  | alreadyDone
  deriving DecidableEq

/-- Quote a text for the shell. -/
def shellEscape (s : String) : String :=
  let quote (c : Char) : List Char := if c = '\'' then ['\'', '\\', '\'', '\''] else [c]
  "'" ++ String.ofList (s.toList.flatMap quote) ++ "'"

/-- Build the `/rune:arc --resume` command for crash recovery. -/
def buildResumeCommand (planPath : String) (arcFlags : List String) : String :=
  arcFlags.foldl (fun cmd flag => cmd ++ " " ++ shellEscape flag)
    s!"/rune:arc {shellEscape planPath} --resume"

section
open Text

/-- The checkpoint path a line of the frontmatter gives. -/
def checkpointPathOfLine (workingDir : PathBuf) (line : List Char) : Option PathBuf :=
  (stripPrefix "checkpoint_path:".toList (trim line)).bind fun value =>
    let val := String.ofList (unquote value)
    if val.isEmpty || val == "null" then none
    else if PathBuf.isAbsolute val then some val
    else some (workingDir.join val)

/-- The checkpoint path in the loop state file, whether it is active or not. -/
def tryCheckpointFromInactive (files : Files) (workingDir : PathBuf) : Option PathBuf :=
  ((files.readToString (loopStateFile workingDir)).bind extractFrontmatter).bind fun yaml =>
    (lines yaml).findSome? (checkpointPathOfLine workingDir)

end

/-- The checkpoint file the restart goes by: the one of an active loop state, or else of an
inactive one; in both cases it has to exist. -/
def restartCheckpointPath (files : Files) (workingDir : PathBuf) : Option PathBuf :=
  match readArcLoopState files workingDir with
  | .active loopState =>
    let path := loopState.resolveCheckpointPath workingDir
    if files.pathExists path then some path else none
  | _ =>
    match tryCheckpointFromInactive files workingDir with
    | some path => if files.pathExists path then some path else none
    | none => none

/-- Some phase is completed, in progress or skipped. -/
def hasProgress (cp : Checkpoint) : Bool :=
  !cp.phases.allValues fun p =>
    !(p.status == "completed" || p.status == "in_progress" || p.status == "skipped")

/-- Determine the restart command based on the checkpoint. -/
def resolveRestartCommand (serde : SerdeValue) (files : Files) (workingDir : PathBuf)
    (planStr : String) (arcFlags : List String) (arcCommand : String) : RestartDecision :=
  match restartCheckpointPath files workingDir with
  | none => .fresh arcCommand
  | some cpPath =>
    match readCheckpoint serde files cpPath with
    | .error _ => .fresh arcCommand
    | .ok checkpoint =>
      if !hasProgress checkpoint then .fresh arcCommand
      else if checkpoint.isComplete || checkpoint.isTerminalPhaseCompleted then .alreadyDone
      else
        let currentPhase :=
          checkpoint.inferredPhaseName.getD (checkpoint.currentPhase.getD "unknown")
        let profile := (profileForPhase currentPhase).getD defaultProfile
        match profile.recovery with
        | .freshStart => .fresh arcCommand
        | .resume => .resume (buildResumeCommand planStr arcFlags)
        -- with or without a pull request
        | .resumeCheckPR => .resume (buildResumeCommand planStr arcFlags)

/-- The checkpoint the restart goes by. -/
def restartCheckpoint (serde : SerdeValue) (files : Files) (workingDir : PathBuf) :
    Option Checkpoint :=
  (restartCheckpointPath files workingDir).bind fun path =>
    (readCheckpoint serde files path).toOption

section
variable {serde : SerdeValue} {files : Files} {workingDir : PathBuf} {planStr : String}
  {arcFlags : List String} {arcCommand : String}

theorem hasProgress_of_lookup {cp : Checkpoint} {name : String} {p : PhaseStatus}
    (hp : cp.phases.lookup name = some p) (hskipped : p.status = "skipped") :
    hasProgress cp = true := by
  rw [hasProgress, Bool.not_eq_true', ← Bool.not_eq_true, Dict.allValues_iff]
  intro hall
  have hnot := hall name p hp
  rw [hskipped] at hnot
  exact absurd hnot (by decide)

/-- The restart is skipped exactly for a complete checkpoint with some progress. -/
theorem resolveRestartCommand_eq_alreadyDone :
    resolveRestartCommand serde files workingDir planStr arcFlags arcCommand = .alreadyDone ↔
      ∃ cp, restartCheckpoint serde files workingDir = some cp ∧ hasProgress cp = true ∧
        cp.isComplete = true := by
  rw [resolveRestartCommand, restartCheckpoint]
  cases restartCheckpointPath files workingDir with
  | none => simp
  | some path =>
    dsimp only [Option.bind_some]
    cases readCheckpoint serde files path with
    | error e => simp [Except.toOption]
    | ok cp =>
      have hcomplete : (cp.isComplete || cp.isTerminalPhaseCompleted) = cp.isComplete := by
        cases h : cp.isTerminalPhaseCompleted with
        | false => rw [Bool.or_false]
        | true => rw [Checkpoint.isComplete_of_terminal h, Bool.or_true]
      simp only [Except.toOption, hcomplete, Option.some.injEq, exists_eq_left']
      split
      · next h => simp_all
      · next h =>
        split
        · next hc => simp_all
        · next hc =>
          split
          · simp [hc]
          · simp [hc]
          · simp [hc]

/-- A skipped restart means a pipeline near its end, except for a checkpoint whose terminal phase
was skipped early. -/
theorem alreadyDone_isNearCompletion_iff (serde : SerdeValue) (files : Files)
    (workingDir : PathBuf) (planStr : String) (arcFlags : List String) (arcCommand : String) :
    (resolveRestartCommand serde files workingDir planStr arcFlags arcCommand = .alreadyDone →
      ∃ cp, restartCheckpoint serde files workingDir = some cp ∧ cp.isNearCompletion = true) ↔
    ¬ ∃ cp, restartCheckpoint serde files workingDir = some cp ∧ cp.SkippedEarly := by
  rw [resolveRestartCommand_eq_alreadyDone]
  constructor
  · rintro hsound ⟨cp, hcp, hskipped⟩
    obtain ⟨p, hp, hstatus⟩ := hskipped.merge
    obtain ⟨hcomplete, hnot⟩ := Checkpoint.isComplete_and_not_near_iff.mpr hskipped
    obtain ⟨cp', hcp', hnear⟩ := hsound ⟨cp, hcp, hasProgress_of_lookup hp hstatus, hcomplete⟩
    rw [hcp] at hcp'
    cases hcp'
    rw [hnot] at hnear
    cases hnear
  · rintro hno ⟨cp, hcp, -, hcomplete⟩
    refine ⟨cp, hcp, ?_⟩
    by_contra hnear
    apply hno
    refine ⟨cp, hcp, Checkpoint.isComplete_and_not_near_iff.mp ⟨hcomplete, ?_⟩⟩
    exact (Bool.not_eq_true _).mp hnear

end

/-! A run with `auto_merge=false` that crashed in its first phase. -/

private def crashedText : String :=
  "\x7b\"id\":\"arc-1\",\"plan_file\":\"plans/a.md\",\"phases\":\x7b" ++
    "\"forge\":\x7b\"status\":\"in_progress\"\x7d,\"work\":\x7b\"status\":\"pending\"\x7d," ++
    "\"merge\":\x7b\"status\":\"skipped\"\x7d\x7d\x7d"

private def crashedValue : Json := .object [
  ("id", .string "arc-1"),
  ("plan_file", .string "plans/a.md"),
  ("phases", .object [
    ("forge", .object [("status", .string "in_progress")]),
    ("work", .object [("status", .string "pending")]),
    ("merge", .object [("status", .string "skipped")])])]

private def crashedCheckpoint : Checkpoint where
  id := "arc-1"
  planFile := "plans/a.md"
  phases := Dict.ofList [
    ("forge", { status := "in_progress" }),
    ("work", { status := "pending" }),
    ("merge", { status := "skipped" })]

private def crashedSerde : SerdeValue where
  fromStr text := if text = crashedText then some crashedValue else none
  toPretty _ := crashedText
  display _ := ""

private def crashedFiles : Files := Dict.ofList [
  ("/repo/.rune/arc-phase-loop.local.md", some
    "---\nactive: true\ncheckpoint_path: .rune/arc/arc-1/checkpoint.json\nplan_file: plans/a.md\n---\n"),
  ("/repo/.rune/arc/arc-1/checkpoint.json", some crashedText)]

private theorem crashed_path : restartCheckpointPath crashedFiles "/repo" =
    some "/repo/.rune/arc/arc-1/checkpoint.json" := by
  decide +kernel

private theorem crashed_read :
    readCheckpoint crashedSerde crashedFiles "/repo/.rune/arc/arc-1/checkpoint.json" =
      .ok crashedCheckpoint :=
  rfl

private theorem crashed_checkpoint :
    restartCheckpoint crashedSerde crashedFiles "/repo" = some crashedCheckpoint := by
  rw [restartCheckpoint, crashed_path, Option.bind_some, crashed_read]
  rfl

/-- The run is reported as done in its first phase. -/
theorem alreadyDone_in_first_phase :
    ¬ (resolveRestartCommand crashedSerde crashedFiles "/repo" "plans/a.md" []
        "/rune:arc 'plans/a.md'" = .alreadyDone →
      ∃ cp, restartCheckpoint crashedSerde crashedFiles "/repo" = some cp ∧
        cp.isNearCompletion = true) := by
  intro hsound
  obtain ⟨cp, hcp, hnear⟩ := hsound (resolveRestartCommand_eq_alreadyDone.mpr
    ⟨crashedCheckpoint, crashed_checkpoint, by decide +kernel, by decide +kernel⟩)
  rw [crashed_checkpoint] at hcp
  cases hcp
  exact absurd hnear (by decide +kernel)

end GreaterWill.SingleSession
