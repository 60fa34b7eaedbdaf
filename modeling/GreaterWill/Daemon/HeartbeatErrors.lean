import GreaterWill.Daemon.HeartbeatPhase
import GreaterWill.Lib.Utf8

/-!
# The heartbeat and a checkpoint that cannot be read

`read_phase_via_loop_state` of `daemon/heartbeat.rs` cuts the text of a read error at byte 200. The
text has the path of the checkpoint in it, as the loop state gives it; where byte 200 falls within
a character of the path the slice panics, and the heartbeat task ends.
-/

namespace GreaterWill

open Text

/-- What `read_checkpoint` finds at its path. -/
inductive CheckpointFile where
  | absent
  /-- It cannot be opened. -/
  | unopenable
  /-- It cannot be read as text. -/
  | unreadable
  | text (contents : String)

section
variable (serde : SerdeValue)

/-- `read_checkpoint`, with the text of each error. -/
def readCheckpointFile (path : PathBuf) (file : CheckpointFile) : Except String Checkpoint :=
  match file with
  | .absent => .error s!"Checkpoint file not found: {path}"
  | .unopenable => .error s!"Failed to open checkpoint file: {path}"
  | .unreadable => .error s!"Failed to read checkpoint file: {path}"
  | .text contents =>
    match serde.fromStr contents with
    | none => .error s!"Failed to parse checkpoint JSON from {path}. Malformed JSON?"
    | some value =>
      match Checkpoint.decode serde.display value with
      | none => .error s!"Failed to deserialize checkpoint from {path}. Invalid schema?"
      | some checkpoint =>
        if checkpoint.id.isEmpty then .error "Checkpoint missing required field: id"
        else if checkpoint.planFile.isEmpty then
          .error "Checkpoint missing required field: plan_file"
        else .ok checkpoint

/-- The error text, cut to 200 bytes; `none` where the slice panics. -/
def truncatedError (message : String) : Option String :=
  if 200 < message.utf8ByteSize then (takeBytes 200 message.toList).map String.ofList
  else some message

/-- What the heartbeat finds of a run. -/
structure HeartbeatFiles where
  repoDir : PathBuf
  /-- The contents of `arc-phase-loop.local.md`; `none` where it cannot be read. -/
  loopState : Option String
  /-- There is something at the checkpoint path. -/
  checkpointExists : Bool
  /-- What is there when it is read. -/
  checkpoint : CheckpointFile

namespace HeartbeatFiles
variable (f : HeartbeatFiles)

/-- `read_arc_loop_state`. -/
def loopStateRead : LoopStateRead :=
  match f.loopState with
  | none => .missing
  | some contents => parseArcLoopState contents

/-- `read_phase_via_loop_state`; `none` where it panics. -/
def readPhase : Option (Option String) :=
  match f.loopStateRead with
  | .active state =>
    let checkpointPath := state.resolveCheckpointPath f.repoDir
    if f.checkpointExists then
      match readCheckpointFile serde checkpointPath f.checkpoint with
      | .ok cp => some cp.inferPhasePosition.effectivePhase
      | .error message => (truncatedError message).map fun _ => none
    else some none
  | _ => some none

end HeartbeatFiles

/-- What stands before the path in the error of a file, if the error has a path. -/
def errorPrefix : CheckpointFile → Option String
  | .absent => some "Checkpoint file not found: "
  | .unopenable => some "Failed to open checkpoint file: "
  | .unreadable => some "Failed to read checkpoint file: "
  | .text contents =>
    match serde.fromStr contents with
    | none => some "Failed to parse checkpoint JSON from "
    | some value =>
      match Checkpoint.decode serde.display value with
      | none => some "Failed to deserialize checkpoint from "
      | some _ => none

/-- The checkpoint exists and cannot be read, and byte 200 of the error falls within a character
of its path. -/
def HeartbeatFiles.CutsPath (f : HeartbeatFiles) : Prop :=
  ∃ state, f.loopStateRead = .active state ∧ f.checkpointExists = true ∧
    ∃ pre, errorPrefix serde f.checkpoint = some pre ∧
      Straddles (200 - pre.utf8ByteSize) (state.resolveCheckpointPath f.repoDir).toList

end

section
variable {serde : SerdeValue} {path : PathBuf} {file : CheckpointFile} {message pre : String}

theorem truncatedError_eq_none : truncatedError message = none ↔ Straddles 200 message.toList := by
  rw [truncatedError, utf8ByteSize_eq]
  split
  · next hlong => rw [Option.map_eq_none_iff, takeBytes_eq_none_iff (Nat.le_of_lt hlong)]
  · next hshort =>
    constructor
    · intro h
      cases h
    · exact fun h => absurd h.lt_byteLen hshort

/-- The path stands between characters of one byte. -/
structure Mentions (path : PathBuf) (pre message : String) : Prop where
  short : pre.utf8ByteSize ≤ 200
  ascii : ∀ c ∈ pre.toList, c.utf8Size = 1
  around : ∃ suf : String, message = pre ++ path ++ suf ∧ ∀ c ∈ suf.toList, c.utf8Size = 1

theorem Mentions.of_ascii (suf : String) (hmessage : message = pre ++ path ++ suf)
    (hshort : pre.utf8ByteSize ≤ 200) (hpre : pre.toList.Forall (·.utf8Size = 1))
    (hsuf : suf.toList.Forall (·.utf8Size = 1)) : Mentions path pre message where
  short := hshort
  ascii := List.forall_iff_forall_mem.mp hpre
  around := ⟨suf, hmessage, List.forall_iff_forall_mem.mp hsuf⟩

theorem Mentions.straddles_iff (h : Mentions path pre message) :
    Straddles 200 message.toList ↔ Straddles (200 - pre.utf8ByteSize) path.toList := by
  obtain ⟨suf, rfl, hsuf⟩ := h.around
  have hshort := h.short
  rw [utf8ByteSize_eq] at hshort ⊢
  rw [String.toList_append, String.toList_append, straddles_append_right hsuf,
    straddles_append_left h.ascii, and_iff_right hshort]

/-- An error mentions the path behind its prefix, or it is too short to be cut. -/
theorem readCheckpointFile_error (h : readCheckpointFile serde path file = .error message) :
    (∃ pre, errorPrefix serde file = some pre ∧ Mentions path pre message) ∨
      errorPrefix serde file = none ∧ ¬ Straddles 200 message.toList := by
  cases file with
  | absent =>
    cases h
    exact .inl ⟨_, rfl, .of_ascii "" (by simp [toString]) (by decide) (by decide) (by decide)⟩
  | unopenable =>
    cases h
    exact .inl ⟨_, rfl, .of_ascii "" (by simp [toString]) (by decide) (by decide) (by decide)⟩
  | unreadable =>
    cases h
    exact .inl ⟨_, rfl, .of_ascii "" (by simp [toString]) (by decide) (by decide) (by decide)⟩
  | text contents =>
    rw [readCheckpointFile] at h
    rw [errorPrefix]
    cases hvalue : serde.fromStr contents with
    | none =>
      rw [hvalue] at h
      cases h
      exact .inl ⟨_, rfl, .of_ascii ". Malformed JSON?" (by simp [toString]) (by decide)
        (by decide) (by decide)⟩
    | some value =>
      rw [hvalue] at h
      dsimp only at h ⊢
      cases hdecode : Checkpoint.decode serde.display value with
      | none =>
        rw [hdecode] at h
        cases h
        exact .inl ⟨_, rfl, .of_ascii ". Invalid schema?" (by simp [toString]) (by decide)
          (by decide) (by decide)⟩
      | some checkpoint =>
        rw [hdecode] at h
        dsimp only at h
        split at h
        · cases h
          exact .inr ⟨rfl, not_straddles_of_ascii (List.forall_iff_forall_mem.mp (by decide))⟩
        · split at h
          · cases h
            exact .inr ⟨rfl, not_straddles_of_ascii (List.forall_iff_forall_mem.mp (by decide))⟩
          · cases h

theorem errorPrefix_of_ok {cp : Checkpoint} (h : readCheckpointFile serde path file = .ok cp) :
    errorPrefix serde file = none := by
  cases file with
  | absent | unopenable | unreadable => cases h
  | text contents =>
    rw [readCheckpointFile] at h
    rw [errorPrefix]
    cases hvalue : serde.fromStr contents with
    | none =>
      rw [hvalue] at h
      cases h
    | some value =>
      rw [hvalue] at h
      dsimp only at h ⊢
      cases hdecode : Checkpoint.decode serde.display value with
      | none =>
        rw [hdecode] at h
        cases h
      | some checkpoint => rfl

namespace HeartbeatFiles
variable {f : HeartbeatFiles}

theorem readPhase_of_not_read (h : ∀ state, f.loopStateRead = .active state →
    f.checkpointExists = false) : f.readPhase serde = some none := by
  rw [readPhase]
  split
  · next state hstate => rw [h state hstate, if_neg Bool.false_ne_true]
  · rfl

/-- Where the checkpoint is read, the heartbeat panics where its path is cut. -/
theorem readPhase_eq_none_iff {state : ArcLoopState} (hstate : f.loopStateRead = .active state)
    (hexists : f.checkpointExists = true) : f.readPhase serde = none ↔
      ∃ pre, errorPrefix serde f.checkpoint = some pre ∧
        Straddles (200 - pre.utf8ByteSize) (state.resolveCheckpointPath f.repoDir).toList := by
  rw [readPhase, hstate]
  dsimp only
  rw [if_pos hexists]
  cases hread : readCheckpointFile serde (state.resolveCheckpointPath f.repoDir) f.checkpoint with
  | ok cp => simp [errorPrefix_of_ok hread]
  | error message =>
    rw [Option.map_eq_none_iff, truncatedError_eq_none]
    rcases readCheckpointFile_error hread with ⟨pre, hpre, hmentions⟩ | ⟨hpre, hshort⟩
    · simp [hpre, hmentions.straddles_iff]
    · simp [hpre, hshort]

end HeartbeatFiles

/-- The heartbeat survives a read exactly if byte 200 of the error does not cut the path. -/
theorem heartbeat_survives_iff (serde : SerdeValue) (f : HeartbeatFiles) :
    f.readPhase serde ≠ none ↔ ¬ f.CutsPath serde := by
  apply not_congr
  constructor
  · intro hpanic
    by_cases hread : ∃ state, f.loopStateRead = .active state ∧ f.checkpointExists = true
    · obtain ⟨state, hstate, hexists⟩ := hread
      exact ⟨state, hstate, hexists,
        (HeartbeatFiles.readPhase_eq_none_iff hstate hexists).mp hpanic⟩
    · have hsome : f.readPhase serde = some none :=
        HeartbeatFiles.readPhase_of_not_read fun state hstate =>
          Bool.eq_false_of_not_eq_true fun hexists => hread ⟨state, hstate, hexists⟩
      rw [hpanic] at hsome
      cases hsome
  · rintro ⟨state, hstate, hexists, hpre⟩
    exact (HeartbeatFiles.readPhase_eq_none_iff hstate hexists).mpr hpre

theorem toList_under_w (l : List Char) : ("/w" ++ String.ofList l).toList = '/' :: 'w' :: l := by
  have hw : "/w".toList = ['/', 'w'] := rfl
  have hl : (String.ofList l).toList = l := String.toList_ofList
  rw [String.toList_append, hw, hl]
  rfl

/-- Under a directory of ideographs, byte 200 of a parse error cuts the path. -/
theorem cutsPath_of_ideographs {f : HeartbeatFiles} {state : ArcLoopState} {contents : String}
    (hdir : f.repoDir = "/w" ++ String.ofList (List.replicate 60 '計'))
    (hstate : f.loopStateRead = .active state)
    (hrelative : PathBuf.isAbsolute state.checkpointPath = false)
    (hexists : f.checkpointExists = true) (hfile : f.checkpoint = .text contents)
    (hvalue : serde.fromStr contents = none) : f.CutsPath serde := by
  refine ⟨state, hstate, hexists, _, by rw [hfile, errorPrefix, hvalue], ?_⟩
  obtain ⟨rest, hjoin⟩ := PathBuf.exists_join_eq f.repoDir hrelative
  have hmessage : ("Failed to parse checkpoint JSON from " : String).utf8ByteSize = 37 := by
    decide +kernel
  rw [ArcLoopState.resolveCheckpointPath, hrelative, if_neg Bool.false_ne_true, hjoin, hdir,
    hmessage, String.toList_append, toList_under_w]
  -- byte 163 of the path is within its 54th ideograph
  have hslash : Char.utf8Size '/' = 1 := rfl
  have hw : Char.utf8Size 'w' = 1 := rfl
  have hideograph : Char.utf8Size '計' = 3 := rfl
  have hbefore : byteLen ('/' :: 'w' :: List.replicate 53 '計') = 161 := by
    rw [byteLen_cons, byteLen_cons, byteLen_replicate, hslash, hw, hideograph]
  refine ⟨'/' :: 'w' :: List.replicate 53 '計', '計', List.replicate 6 '計' ++ rest.toList, ?_,
    by rw [hbefore]; decide, by rw [hbefore, hideograph]; decide⟩
  have hsplit : List.replicate 60 '計' = List.replicate 53 '計' ++ '計' :: List.replicate 6 '計' := by
    rw [← List.replicate_succ, ← List.replicate_add]
  rw [hsplit]
  simp only [List.cons_append, List.append_assoc]

/-- A malformed checkpoint under a directory of ideographs ends the heartbeat. -/
theorem malformed_checkpoint_ends_heartbeat :
    ¬ ∀ (serde : SerdeValue) (f : HeartbeatFiles), f.readPhase serde ≠ none := by
  intro hclaim
  have hstate : parseArcLoopState
      "---\nactive: true\ncheckpoint_path: c.json\nplan_file: p.md\n---\n" = .active {
        active := true, checkpointPath := "c.json", planFile := "p.md", configDir := ""
        ownerPid := "", sessionId := "", branch := "", iteration := 0, maxIterations := 50 } := by
    decide +kernel
  let f : HeartbeatFiles :=
    { repoDir := "/w" ++ String.ofList (List.replicate 60 '計')
      loopState := some "---\nactive: true\ncheckpoint_path: c.json\nplan_file: p.md\n---\n"
      checkpointExists := true
      checkpoint := .text "\x7b" }
  obtain ⟨state, hactive, hexists, hcut⟩ : f.CutsPath ⟨fun _ => none, fun _ => "", fun _ => ""⟩ :=
    cutsPath_of_ideographs rfl hstate (by decide) rfl rfl rfl
  exact hclaim _ f ((HeartbeatFiles.readPhase_eq_none_iff hactive hexists).mpr hcut)

/-! ## The files of the model -/

/-- What is at a path. -/
def CheckpointFile.at (files : Files) (path : PathBuf) : CheckpointFile :=
  match files.lookup path with
  | none => .absent
  | some none => .unreadable
  | some (some contents) => .text contents

theorem readCheckpoint_eq (files : Files) (path : PathBuf) :
    readCheckpoint serde files path = readCheckpointFile serde path (.at files path) := by
  rw [readCheckpoint, CheckpointFile.at]
  rcases files.lookup path with _ | _ | contents
  · rfl
  · rfl
  · rfl

/-- The heartbeat finds what is in the files. -/
structure HeartbeatFiles.FoundIn (files : Files) (f : HeartbeatFiles) : Prop where
  loopState : f.loopState = files.readToString (loopStateFile f.repoDir)
  checkpoint : ∀ state, f.loopStateRead = .active state →
    f.checkpointExists = files.pathExists (state.resolveCheckpointPath f.repoDir) ∧
      f.checkpoint = .at files (state.resolveCheckpointPath f.repoDir)

/-- Unless it panics, the heartbeat reads the phase. -/
theorem HeartbeatFiles.FoundIn.readPhase_eq {files : Files} {f : HeartbeatFiles}
    (h : f.FoundIn files) (hsafe : ¬ f.CutsPath serde) :
    f.readPhase serde = some (readPhaseViaLoopState serde files f.repoDir) := by
  have hstate : f.loopStateRead = readArcLoopState files f.repoDir := by
    rw [loopStateRead, h.loopState]
    rfl
  have hsome := (heartbeat_survives_iff serde f).mpr hsafe
  have hcheckpoint := h.checkpoint
  rw [readPhase] at hsome ⊢
  rw [readPhaseViaLoopState, ← hstate]
  cases hread : f.loopStateRead with
  | missing | inactive => rfl
  | active state =>
    obtain ⟨hexists, hfile⟩ := hcheckpoint state hread
    rw [hread] at hsome
    dsimp only at hsome ⊢
    rw [hexists, hfile, ← readCheckpoint_eq] at hsome ⊢
    split
    · next hpath =>
      rw [if_pos hpath] at hsome
      cases hcp : readCheckpoint serde files (state.resolveCheckpointPath f.repoDir) with
      | ok cp => rfl
      | error message =>
        rw [hcp] at hsome
        dsimp only at hsome ⊢
        cases htext : truncatedError message with
        | none => simp [htext] at hsome
        | some text => rfl
    · rfl

end

end GreaterWill
