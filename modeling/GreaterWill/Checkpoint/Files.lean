import GreaterWill.Checkpoint.Codec
import GreaterWill.Lib.Path

/-!
# Checkpoint files

`read_checkpoint` and `write_checkpoint` over a map from paths to contents. The file belongs to
Rune; what `gw` reads and writes back has to keep everything it does not know.

`serde_json` is a parameter. The round trip asks of it only that the text written for a value is
parsed to that value again.
-/

namespace GreaterWill

/-- The parts of `serde_json` that deal with values: `from_str`, `to_writer_pretty` and
`Display`. -/
structure SerdeValue where
  fromStr : String → Option Json
  toPretty : Json → String
  display : Json → String

/-- The contents of the files, by their paths; `none` where there is something at a path that
cannot be read as text. -/
abbrev Files := Dict (Option String)

namespace Files

/-- `std::fs::read_to_string`. -/
def readToString (files : Files) (path : PathBuf) : Option String := (files.lookup path).join

/-- `Path::exists`. -/
def pathExists (files : Files) (path : PathBuf) : Bool := (files.lookup path).isSome

end Files

section
variable (serde : SerdeValue)

/-- Read a checkpoint from a file path. -/
def readCheckpoint (files : Files) (path : PathBuf) : Except String Checkpoint :=
  match files.lookup path with
  | none => .error s!"Checkpoint file not found: {path}"
  | some none => .error s!"Failed to read checkpoint file: {path}"
  | some (some contents) =>
    -- through a value first, which keeps the last of duplicate keys
    match serde.fromStr contents with
    | none => .error s!"Failed to parse checkpoint JSON from {path}. Malformed JSON?"
    | some value =>
      match Checkpoint.decode serde.display value with
      | none => .error s!"Failed to deserialize checkpoint from {path}. Invalid schema?"
      | some checkpoint =>
        if checkpoint.id.isEmpty then .error "Checkpoint missing required field: id"
        else if checkpoint.planFile.isEmpty then
          .error "Checkpoint missing required field: plan_file"
        else .ok checkpoint

/-- The JSON written for a checkpoint. -/
def Checkpoint.encode (checkpoint : Checkpoint) : Json :=
  (Checkpoint.record serde.display).encode checkpoint

/-- Write a checkpoint with a custom temp file path: write that file, then rename it. -/
def writeCheckpointWithTmp (checkpoint : Checkpoint) (targetPath tmpPath : PathBuf)
    (files : Files) : Files :=
  let text := serde.toPretty (checkpoint.encode serde) ++ "\n"
  let files := files.insert tmpPath (some text)
  (files.erase tmpPath).insert targetPath (some text)

/-- Write a checkpoint to a file atomically. -/
def writeCheckpoint (checkpoint : Checkpoint) (path : PathBuf) (files : Files) : Files :=
  writeCheckpointWithTmp serde checkpoint path (path ++ ".tmp") files

/-- The JSON value in a file. -/
def jsonAt (files : Files) (path : PathBuf) : Option Json :=
  (files.readToString path).bind serde.fromStr

end

section
variable {serde : SerdeValue} {files : Files} {path : PathBuf} {cp : Checkpoint}

/-- What was read was in the file, and its required fields are not empty. -/
theorem readCheckpoint_eq_ok : readCheckpoint serde files path = .ok cp ↔
    (jsonAt serde files path).bind (Checkpoint.decode serde.display) = some cp ∧
      cp.id.isEmpty = false ∧ cp.planFile.isEmpty = false := by
  rw [readCheckpoint, jsonAt, Files.readToString]
  rcases files.lookup path with _ | _ | contents
  · simp
  · simp
  · dsimp only [Option.join_some, Option.bind_some]
    cases serde.fromStr contents with
    | none => simp
    | some value =>
      dsimp only [Option.bind_some]
      cases Checkpoint.decode serde.display value with
      | none => simp
      | some checkpoint =>
        dsimp only
        constructor
        · intro h
          split at h
          · cases h
          · split at h
            · cases h
            · next hid hplan =>
              cases h
              exact ⟨rfl, by simpa using hid, by simpa using hplan⟩
        · rintro ⟨heq, hid, hplan⟩
          cases heq
          rw [hid, hplan]
          rfl

theorem jsonAt_writeCheckpoint (files : Files) (path : PathBuf)
    (hserde : serde.fromStr (serde.toPretty (cp.encode serde) ++ "\n") = some (cp.encode serde)) :
    jsonAt serde (writeCheckpoint serde cp path files) path = some (cp.encode serde) := by
  rw [jsonAt, Files.readToString, writeCheckpoint, writeCheckpointWithTmp, Finmap.lookup_insert,
    Option.join_some, Option.bind_some, hserde]

/-- An undeclared key of a phase is written with the value it was read with. -/
theorem get_encode_phase {v : Json} (h : Checkpoint.decode serde.display v = some cp)
    (phase : String) {k : String} (hk : k ∉ PhaseStatus.declared) :
    ((((cp.encode serde).get "phases").bind (·.get phase)).bind (·.get k)) =
      ((v.get "phases").bind (·.get phase)).bind (·.get k) := by
  obtain ⟨-, hfields, -⟩ := (Checkpoint.decode_eq_some serde.display).mp h
  have hmem : ⟨"phases", Checkpoint.phasesField, Checkpoint.phases⟩ ∈
      Checkpoint.fields serde.display := by simp [Checkpoint.fields]
  have hread : Checkpoint.phasesField.read (v.get "phases") = some cp.phases :=
    hfields _ hmem
  have hwrite : (cp.encode serde).get "phases" =
      some ((Codec.dict PhaseStatus.record.codec).encode cp.phases) :=
    Record.get_encode_of_mem (c := Checkpoint.record serde.display) h hmem
  rw [hwrite, Option.bind_some, Codec.get_encode_dict]
  cases hv : v.get "phases" with
  | none =>
    -- no phases were given, none are written
    rw [hv] at hread
    have hempty : cp.phases = ∅ := (Option.some.inj hread).symm
    rw [hempty]
    simp
  | some phases =>
    rw [hv] at hread
    have hlookup := Codec.lookup_dict hread phase
    rw [Option.bind_some]
    cases hp : phases.get phase with
    | none =>
      rw [hp] at hlookup
      rw [Option.map_eq_none_iff.mp hlookup]
      rfl
    | some p =>
      rw [hp] at hlookup
      obtain ⟨status, hstatus, hdecode⟩ := Option.map_eq_some_iff.mp hlookup
      rw [hstatus, Option.map_some, Option.bind_some, Option.bind_some]
      exact Record.get_encode_of_notMem hdecode.symm hk

/-- Checkpoint round trip: a checkpoint that was read and is written to any path is read from
there again, and the JSON there has every undeclared key of the JSON it came from, at top level
and inside each phase, with the same value. -/
theorem read_written_checkpoint (hread : readCheckpoint serde files path = .ok cp)
    (hserde : serde.fromStr (serde.toPretty (cp.encode serde) ++ "\n") = some (cp.encode serde))
    (files' : Files) (path' : PathBuf) :
    let written := writeCheckpoint serde cp path' files'
    readCheckpoint serde written path' = .ok cp ∧
      ∃ v w, jsonAt serde files path = some v ∧ jsonAt serde written path' = some w ∧
        (∀ k, k ∉ Checkpoint.declared → w.get k = v.get k) ∧
        ∀ phase k, k ∉ PhaseStatus.declared →
          ((w.get "phases").bind (·.get phase)).bind (·.get k) =
            ((v.get "phases").bind (·.get phase)).bind (·.get k) := by
  intro written
  obtain ⟨hvalue, hid, hplan⟩ := readCheckpoint_eq_ok.mp hread
  obtain ⟨v, hv, hdecode⟩ := Option.bind_eq_some_iff.mp hvalue
  have hwritten : jsonAt serde written path' = some (cp.encode serde) :=
    jsonAt_writeCheckpoint files' path' hserde
  refine ⟨?_, v, cp.encode serde, hv, hwritten, ?_, ?_⟩
  · rw [readCheckpoint_eq_ok, hwritten]
    exact ⟨Record.decode_encode (c := Checkpoint.record serde.display) hdecode, hid, hplan⟩
  · intro k hk
    rw [← Checkpoint.keys_fields serde.display] at hk
    exact Record.get_encode_of_notMem hdecode hk
  · intro phase k hk
    exact get_encode_phase hdecode phase hk

end

/-! A checkpoint with an unknown key at both levels. -/

private def exampleText : String :=
  "\x7b\"id\":\"arc-1\",\"plan_file\":\"plan.md\",\"custom\":true,\"phases\":" ++
    "\x7b\"work\":\x7b\"status\":\"completed\",\"branch\":\"b\"\x7d\x7d\x7d"

private def exampleValue : Json := .object [
  ("id", .string "arc-1"),
  ("plan_file", .string "plan.md"),
  ("custom", .bool true),
  ("phases", .object [("work", .object [
    ("status", .string "completed"),
    ("branch", .string "b")])])]

private def exampleCheckpoint : Checkpoint where
  id := "arc-1"
  planFile := "plan.md"
  phases := Dict.ofList [
    ("work", { status := "completed", extra := Dict.ofList [("branch", .string "b")] })]
  extra := Dict.ofList [("custom", .bool true)]

private def examplePretty : String := "\n".intercalate [
  "\x7b",
  "  \"id\": \"arc-1\",",
  "  \"schema_version\": null,",
  "  \"plan_file\": \"plan.md\",",
  "  \"config_dir\": \"\",",
  "  \"owner_pid\": \"\",",
  "  \"session_id\": \"\",",
  "  \"phases\": \x7b",
  "    \"work\": \x7b",
  "      \"status\": \"completed\",",
  "      \"branch\": \"b\"",
  "    \x7d",
  "  \x7d,",
  "  \"pr_url\": null,",
  "  \"commits\": [],",
  "  \"started_at\": \"\",",
  "  \"phase_sequence\": null,",
  "  \"skip_map\": null,",
  "  \"custom\": true",
  "\x7d"]

/-- `serde_json` on the two texts. -/
private def exampleSerde : SerdeValue where
  fromStr text :=
    if text = exampleText then some exampleValue
    else if text = examplePretty ++ "\n" then
      some ((Checkpoint.record fun _ => "").encode exampleCheckpoint)
    else none
  toPretty _ := examplePretty
  display _ := ""

private theorem read_example :
    readCheckpoint exampleSerde (Dict.ofList [("in.json", some exampleText)]) "in.json" =
      .ok exampleCheckpoint :=
  rfl

private theorem serde_example :
    exampleSerde.fromStr (exampleSerde.toPretty (exampleCheckpoint.encode exampleSerde) ++ "\n") =
      some (exampleCheckpoint.encode exampleSerde) := by
  have hne : examplePretty ++ "\n" ≠ exampleText := by decide
  simp only [exampleSerde, Checkpoint.encode, hne, if_false, if_true]

theorem read_written_checkpoint_unknown_keys :
    readCheckpoint exampleSerde (writeCheckpoint exampleSerde exampleCheckpoint "out.json" ∅)
      "out.json" = .ok exampleCheckpoint :=
  (read_written_checkpoint read_example serde_example ∅ "out.json").1

end GreaterWill
