import GreaterWill.Monitor.LoopState

/-!
# Reading the checkpoint of a run

The monitors keep the path of the checkpoint they found in a slot. A read goes by the slot as long
as there is a file at its path, and otherwise by the active loop state.
-/

namespace GreaterWill

section
variable (serde : SerdeValue) (files : Files) (workingDir : PathBuf)

/-- The checkpoint the active loop state points to, and its path. -/
def discoverCheckpoint : Option Checkpoint × Option PathBuf :=
  match readArcLoopState files workingDir with
  | .active loopState =>
    let cpPath := loopState.resolveCheckpointPath workingDir
    if files.pathExists cpPath then
      match readCheckpoint serde files cpPath with
      | .ok cp => (some cp, some cpPath)
      | .error _ => (none, none)
    else (none, none)
  | _ => (none, none)

/-- Read the checkpoint of a run; also the slot afterwards. -/
def readCachedCheckpoint (cachedPath : Option PathBuf) : Option Checkpoint × Option PathBuf :=
  match cachedPath with
  | some cpPath =>
    if files.pathExists cpPath then
      match readCheckpoint serde files cpPath with
      | .ok cp => (some cp, some cpPath)
      | .error _ => (none, some cpPath)
    else
      -- the cached path has disappeared
      discoverCheckpoint serde files workingDir
  | none => discoverCheckpoint serde files workingDir

variable {serde files workingDir} in
theorem readCachedCheckpoint_of_read {cpPath : PathBuf} {cp : Checkpoint}
    (hexists : files.pathExists cpPath = true)
    (hread : readCheckpoint serde files cpPath = .ok cp) :
    readCachedCheckpoint serde files workingDir (some cpPath) = (some cp, some cpPath) := by
  rw [readCachedCheckpoint, if_pos hexists, hread]

/-- What the loop state leads to is cached under its path, or not at all. -/
theorem discoverCheckpoint_cases :
    discoverCheckpoint serde files workingDir = (none, none) ∨
      ∃ cp cpPath, discoverCheckpoint serde files workingDir = (some cp, some cpPath) ∧
        files.pathExists cpPath = true ∧ readCheckpoint serde files cpPath = .ok cp := by
  rw [discoverCheckpoint]
  split
  · next loopState _ =>
    dsimp only
    split
    · next hexists =>
      split
      · next cp hread => exact .inr ⟨cp, _, rfl, hexists, hread⟩
      · exact .inl rfl
    · exact .inl rfl
  · exact .inl rfl

/-- A read goes by the slot, which has a file, or by the loop state. -/
theorem readCachedCheckpoint_cases (cachedPath : Option PathBuf) :
    readCachedCheckpoint serde files workingDir cachedPath =
        discoverCheckpoint serde files workingDir ∨
      ∃ cpPath, cachedPath = some cpPath ∧ files.pathExists cpPath = true ∧
        readCachedCheckpoint serde files workingDir cachedPath =
          ((readCheckpoint serde files cpPath).toOption, some cpPath) := by
  cases cachedPath with
  | none => exact .inl rfl
  | some cpPath =>
    rw [readCachedCheckpoint]
    split
    · next hexists =>
      refine .inr ⟨cpPath, rfl, hexists, ?_⟩
      cases readCheckpoint serde files cpPath with
      | ok cp => rfl
      | error e => rfl
    · exact .inl rfl

variable {serde files workingDir} in
/-- As long as the files stay, reading again finds the same. -/
theorem readCachedCheckpoint_again (cachedPath : Option PathBuf) :
    readCachedCheckpoint serde files workingDir
        (readCachedCheckpoint serde files workingDir cachedPath).2 =
      readCachedCheckpoint serde files workingDir cachedPath := by
  rcases readCachedCheckpoint_cases serde files workingDir cachedPath with
    h | ⟨cpPath, rfl, hexists, h⟩
  · rw [h]
    rcases discoverCheckpoint_cases serde files workingDir with
      hd | ⟨cp, cpPath, hd, hexists, hread⟩
    · rw [hd]
      exact hd
    · rw [hd, readCachedCheckpoint_of_read hexists hread]
  · rw [h]
    exact h

/-! Of the files, a read depends on the loop state file and the checkpoint files it can lead to. -/

/-- There may be a checkpoint of the run at the path: it is in the slot, or in the loop state. -/
def CheckpointAt (cachedPath : Option PathBuf) (p : PathBuf) : Prop :=
  cachedPath = some p ∨
    ∃ state, readArcLoopState files workingDir = .active state ∧
      p = state.resolveCheckpointPath workingDir

variable {serde files workingDir}

theorem readArcLoopState_congr {files' : Files}
    (h : files'.lookup (loopStateFile workingDir) = files.lookup (loopStateFile workingDir)) :
    readArcLoopState files' workingDir = readArcLoopState files workingDir := by
  rw [readArcLoopState, readArcLoopState, Files.readToString, Files.readToString, h]

theorem readCachedCheckpoint_congr {files' : Files} {cachedPath : Option PathBuf}
    (hloop : files'.lookup (loopStateFile workingDir) = files.lookup (loopStateFile workingDir))
    (hcp : ∀ p, CheckpointAt files workingDir cachedPath p → files'.lookup p = files.lookup p) :
    readCachedCheckpoint serde files' workingDir cachedPath =
      readCachedCheckpoint serde files workingDir cachedPath := by
  have hdiscover : discoverCheckpoint serde files' workingDir =
      discoverCheckpoint serde files workingDir := by
    rw [discoverCheckpoint, discoverCheckpoint, readArcLoopState_congr hloop]
    split
    · next state hstate =>
      have hsame := hcp _ (.inr ⟨state, hstate, rfl⟩)
      dsimp only
      rw [Files.pathExists, Files.pathExists, readCheckpoint, readCheckpoint, hsame]
    · rfl
  cases cachedPath with
  | none => exact hdiscover
  | some cpPath =>
    have hsame := hcp cpPath (.inl rfl)
    rw [readCachedCheckpoint, readCachedCheckpoint, Files.pathExists, Files.pathExists,
      readCheckpoint, readCheckpoint, hsame, hdiscover]

/-- The slot after a read is one of the paths the read looked at. -/
theorem checkpointAt_readCachedCheckpoint {cachedPath : Option PathBuf} {p : PathBuf}
    (h : CheckpointAt files workingDir
      (readCachedCheckpoint serde files workingDir cachedPath).2 p) :
    CheckpointAt files workingDir cachedPath p := by
  rcases h with h | h
  · rcases readCachedCheckpoint_cases serde files workingDir cachedPath with
      heq | ⟨cpPath, rfl, -, heq⟩
    · rw [heq, discoverCheckpoint] at h
      split at h
      · next state hstate =>
        dsimp only at h
        split at h
        · split at h
          · cases h
            exact .inr ⟨state, hstate, rfl⟩
          · cases h
        · cases h
      · cases h
    · rw [heq] at h
      exact .inl h
  · exact .inr h

/-- Where no checkpoint is found, the slot stays or is emptied. -/
theorem readCachedCheckpoint_of_none {cachedPath : Option PathBuf}
    (h : (readCachedCheckpoint serde files workingDir cachedPath).1 = none) :
    (readCachedCheckpoint serde files workingDir cachedPath).2 = cachedPath ∨
      (readCachedCheckpoint serde files workingDir cachedPath).2 = none := by
  rcases readCachedCheckpoint_cases serde files workingDir cachedPath with
    heq | ⟨cpPath, rfl, -, heq⟩
  · rcases discoverCheckpoint_cases serde files workingDir with hd | ⟨cp, cpPath, hd, -, -⟩
    · rw [heq, hd]
      exact .inr rfl
    · rw [heq, hd] at h
      cases h
  · rw [heq]
    exact .inl rfl

end

/-- The texts in the pane that speak of the end of the pipeline. -/
def completionTexts : List String := [
  "arc completed", "all phases complete", "pipeline completed", "merge completed",
  "arc run finished",
  -- a skipped terminal phase
  "merge skipped", "merge: skipped", "skipping merge",
  "the tarnished rests", "arc result: success"]

/-- Whether the last lines of the pane speak of the end of the pipeline. -/
def isPipelineComplete (toLowercase : List Char → List Char) (pane : String) : Bool :=
  let lastLines := (Text.lines pane.toList).reverse.take 20
  let tail := toLowercase (['\n'].intercalate lastLines)
  completionTexts.any fun text => Text.contains tail text.toList

end GreaterWill
