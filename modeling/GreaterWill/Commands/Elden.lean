import GreaterWill.Daemon.RunMonitor

/-!
# Hook events

`gw elden --event` of `commands/elden.rs`: Claude Code runs it in the repository when a turn stops
or fails, when a session ends and when a permission is asked for, and it leaves a signal file for
the monitor, written over the one before. A session-end signal also says whether the arc is
complete.
-/

namespace GreaterWill

/-- Minimal arc checkpoint info. -/
structure ArcCheckpointInfo where
  planFile : String
  currentPhase : String
  completed : Nat
  total : Nat
  /-- The terminal phase is completed, the strongest completion signal. -/
  terminalPhaseCompleted : Bool

namespace ArcCheckpointInfo

/-- The status of a phase in the JSON of a checkpoint. -/
def statusOf (phase : Json) : String :=
  ((phase.get "status").bind DaemonRunMonitor.jsonStr).getD ""

/-- A status that counts as completed. -/
def counts (phase : Json) : Bool := statusOf phase == "completed" || statusOf phase == "skipped"

/-- The info of a checkpoint that was parsed. -/
def ofJson (checkpoint : Json) : Option ArcCheckpointInfo :=
  ((checkpoint.get "phases").bind Json.asObject).map fun members =>
    let phases := Dict.ofList members
    { planFile := ((checkpoint.get "plan_file").bind DaemonRunMonitor.jsonStr).getD "unknown"
      currentPhase :=
        (PHASE_ORDER.find? fun name => (phases.lookup name).any fun v => !counts v).getD
          "all_complete"
      completed := (phases.keys.filter fun name => (phases.lookup name).any counts).card
      total := phases.keys.card
      terminalPhaseCompleted :=
        ((phaseAt (PHASE_COUNT - 1)).bind phases.lookup).any fun v =>
          (v.get "status").bind DaemonRunMonitor.jsonStr == some "completed" }

/-- The checkpoint part of a signal. -/
def toJson (ci : ArcCheckpointInfo) : Json :=
  .object [
    ("plan_file", .string ci.planFile),
    ("current_phase", .string ci.currentPhase),
    ("completed", .number (.posInt (UInt64.ofNat ci.completed))),
    ("total", .number (.posInt (UInt64.ofNat ci.total)))]

/-- The arc is complete. -/
def isComplete (ci : ArcCheckpointInfo) : Bool :=
  ci.terminalPhaseCompleted || (decide (ci.total ≤ ci.completed) && decide (0 < ci.total))

end ArcCheckpointInfo

inductive HookKind where
  | stop
  | stopFailure
  | sessionEnd
  | permission
  deriving DecidableEq

namespace HookKind

/-- The signal file of an event. -/
def fileName : HookKind → String
  | stop => "session-stop.json"
  | stopFailure => "stop-failure.json"
  | sessionEnd => "session-end.json"
  | permission => "permission-pending.json"

/-- The event as the signal names it. -/
def event : HookKind → String
  | stop => "stop"
  | stopFailure => "stop_failure"
  | sessionEnd => "session_end"
  | permission => "permission_request"

end HookKind

/-- A hook event, with what the handler finds. -/
structure HookEvent where
  kind : HookKind
  sessionId : String
  timestamp : String
  /-- The files at the time of the checkpoint scan. -/
  seen : Files

section
variable (serde : SerdeValue)

/-- Detect the active arc checkpoint through the loop state. -/
def detectArcCheckpoint (files : Files) (cwd : PathBuf) : Option ArcCheckpointInfo :=
  match readArcLoopState files cwd with
  | .active loopState =>
    (jsonAt serde files (loopState.resolveCheckpointPath cwd)).bind ArcCheckpointInfo.ofJson
  | _ => none

namespace HookEvent
variable (e : HookEvent) (cwd : PathBuf)

/-- What the scan says about the arc. -/
def isComplete : Bool := (detectArcCheckpoint serde e.seen cwd).any (·.isComplete)

/-- The signal of the event. -/
def signal : Json :=
  let base := [
    ("event", .string e.kind.event),
    ("session_id", .string e.sessionId),
    ("timestamp", .string e.timestamp)]
  let checkpoint :=
    ("checkpoint", ((detectArcCheckpoint serde e.seen cwd).map (·.toJson)).getD .null)
  match e.kind with
  | .stop | .stopFailure => .object (base ++ [checkpoint])
  | .sessionEnd =>
    .object (base ++ [("is_complete", .bool (e.isComplete serde cwd)), checkpoint])
  | .permission => .object base

end HookEvent

/-- The path of a signal file. -/
def signalPath (baseDir : PathBuf) (name : String) : PathBuf :=
  ((baseDir.join ".gw").join "signals").join name

/-- `execute_event`: the signal is written. -/
def executeEvent (cwd : PathBuf) (e : HookEvent) (files : Files) : Files :=
  files.insert (signalPath cwd e.kind.fileName) (some (serde.toPretty (e.signal serde cwd)))

end

/-- Clean up the signal files. -/
def clearSignalsFrom (baseDir : PathBuf) (files : Files) : Files :=
  ["session-stop.json", "stop-failure.json", "session-end.json", "permission-pending.json"].foldl
    (fun files name => files.erase (signalPath baseDir name)) files

end GreaterWill
