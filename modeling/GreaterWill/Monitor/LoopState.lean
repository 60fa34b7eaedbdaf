import GreaterWill.Lib.Text
import GreaterWill.Checkpoint.Files

/-!
# The arc loop state

Rune keeps `.rune/arc-phase-loop.local.md` while an arc runs; its YAML frontmatter names the
checkpoint. The file is read line by line, without a YAML parser.
-/

namespace GreaterWill

/-- Parsed state from `.rune/arc-phase-loop.local.md`. -/
structure ArcLoopState where
  active : Bool
  checkpointPath : String
  planFile : String
  configDir : String
  ownerPid : String
  sessionId : String
  branch : String
  iteration : UInt32
  maxIterations : UInt32
  deriving DecidableEq

/-- Result of reading the file. -/
inductive LoopStateRead where
  /-- The file does not exist or cannot be parsed. -/
  | missing
  /-- The file exists but is not active. -/
  | inactive
  | active (state : ArcLoopState)
  deriving DecidableEq

/-- Where the file of a working directory is. -/
def loopStateFile (workingDir : PathBuf) : PathBuf :=
  (workingDir.join ".rune").join "arc-phase-loop.local.md"

open Text

/-- The text between the `---` markers. -/
def extractFrontmatter (content : String) : Option (List Char) :=
  (stripPrefix "---".toList (trim content.toList)).bind (before "---".toList)

/-- A value with its quotes removed. -/
def unquote (value : List Char) : List Char :=
  trimMatches (· == '\'') (trimMatches (· == '"') (trim value))

/-- The value of the first `key: value` line, unless it is empty or null. -/
def parseYamlStr (yaml : List Char) (key : String) : Option String :=
  match (lines yaml).findSome? fun line => stripPrefix (key ++ ":").toList (trim line) with
  | some value =>
    let val := String.ofList (unquote value)
    if val.isEmpty || val == "null" then none else some val
  | none => none

/-- The value of a `key: true/false` line. -/
def parseYamlBool (yaml : List Char) (key : String) : Option Bool :=
  match parseYamlStr yaml key with
  | some "true" => some true
  | some "false" => some false
  | _ => none

/-- Parse the contents of the file. -/
def parseArcLoopState (contents : String) : LoopStateRead :=
  match extractFrontmatter contents with
  | none => .missing
  | some yaml =>
    match parseYamlBool yaml "active" with
    | none => .missing
    | some false => .inactive
    | some true =>
      match parseYamlStr yaml "checkpoint_path", parseYamlStr yaml "plan_file" with
      | some checkpointPath, some planFile => .active {
          active := true
          checkpointPath
          planFile
          configDir := (parseYamlStr yaml "config_dir").getD ""
          ownerPid := (parseYamlStr yaml "owner_pid").getD ""
          sessionId := (parseYamlStr yaml "session_id").getD ""
          branch := (parseYamlStr yaml "branch").getD ""
          iteration :=
            ((parseYamlStr yaml "iteration").bind fun s => parseU32 s.toList).getD 0
          maxIterations :=
            ((parseYamlStr yaml "max_iterations").bind fun s => parseU32 s.toList).getD 50 }
      | _, _ => .missing

/-- Read and parse `arc-phase-loop.local.md` from the project directory. -/
def readArcLoopState (files : Files) (workingDir : PathBuf) : LoopStateRead :=
  match files.readToString (loopStateFile workingDir) with
  | none => .missing
  | some contents => parseArcLoopState contents

/-- The checkpoint path, relative to the working directory unless it is absolute. -/
def ArcLoopState.resolveCheckpointPath (state : ArcLoopState) (workingDir : PathBuf) : PathBuf :=
  if PathBuf.isAbsolute state.checkpointPath then state.checkpointPath
  else workingDir.join state.checkpointPath

namespace LoopStateRead

/-- The file exists, active or not. -/
def fileExists : LoopStateRead → Bool
  | missing => false
  | _ => true

end LoopStateRead

end GreaterWill
