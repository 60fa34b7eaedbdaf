import GreaterWill.Daemon.Durations
import GreaterWill.Daemon.Protocol
import GreaterWill.Daemon.ScheduleLoop
import GreaterWill.Lib.Serde

/-!
# The messages of the socket

The requests and responses of `daemon/protocol.rs` with their JSON, as `serde` derives it: a request
or response is an object with its variant in the member `type`, an enumeration without data is the
name of the variant, one with data an object with the variant as its only member. A member the reader
does not know is ignored. An array in the place of an object is not read here.

How `chrono` writes a time is the parameter `time`.
-/

namespace GreaterWill

open Members

/-! ## Data of the messages -/

def RunStatus.serde : Serde RunStatus :=
  .variants
    (fun
      | .queued => "Queued"
      | .running => "Running"
      | .succeeded => "Succeeded"
      | .failed => "Failed"
      | .stopped => "Stopped")
    [.queued, .running, .succeeded, .failed, .stopped]
    (fun a => by cases a <;> simp)
    (by decide)

def ErrorCode.serde : Serde ErrorCode :=
  .variants
    (fun
      | .repoLocked => "RepoLocked"
      | .runNotFound => "RunNotFound"
      | .daemonBusy => "DaemonBusy"
      | .invalidRequest => "InvalidRequest"
      | .internalError => "InternalError"
      | .queueFull => "QueueFull"
      | .scheduleNotFound => "ScheduleNotFound")
    [.repoLocked, .runNotFound, .daemonBusy, .invalidRequest, .internalError, .queueFull,
      .scheduleNotFound]
    (fun a => by cases a <;> simp)
    (by decide)

def ScheduleStatus.serde : Serde ScheduleStatus :=
  .variants
    (fun
      | .active => "Active"
      | .paused => "Paused"
      | .completed => "Completed"
      | .failed => "Failed"
      | .rejected => "Rejected")
    [.active, .paused, .completed, .failed, .rejected]
    (fun a => by cases a <;> simp)
    (by decide)

/-- An enumeration with data is written as an object with the variant as its only member. -/
def variantOf (v : Json) : Option (String × Members) := do
  let ms ← v.asObject
  match ms with
  | [(name, data)] => return (name, ← data.asObject)
  | _ => none

def ScheduleKind.serde (time : Serde DateTime) : Serde ScheduleKind where
  encode
    | .cron expression => .object [("Cron", .object [("expression", .string expression)])]
    | .oneShot fireAt => .object [("OneShot", .object [("at", time.encode fireAt)])]
    | .delayed delaySecs =>
      .object [("Delayed", .object [("delay_secs", Serde.u64.encode delaySecs)])]
  decode v := do
    let (name, ms) ← variantOf v
    match name with
    | "Cron" => return .cron (← required .string ms "expression")
    | "OneShot" => return .oneShot (← required time ms "at")
    | "Delayed" => return .delayed (← required .u64 ms "delay_secs")
    | _ => none
  decode_encode kind := by
    cases kind with
    | cron expression => rfl
    | oneShot fireAt =>
      have hat : required time [("at", time.encode fireAt)] "at" = some fireAt :=
        required_of_unique rfl
      simp [variantOf, hat]
    | delayed delaySecs =>
      have hdelay : required .u64 [("delay_secs", Serde.u64.encode delaySecs)] "delay_secs" =
          some delaySecs := required_of_unique rfl
      simp [variantOf, hdelay]
  plain_encode kind := by cases kind <;> simp [JsonText.plain, JsonText.plainMembers]
  encode_ne_null kind h := by cases kind <;> cases h

def ScheduleKindInfo.serde : Serde ScheduleKindInfo where
  encode
    | .cron expression => .object [("Cron", .object [("expression", .string expression)])]
    | .oneShot fireAt => .object [("OneShot", .object [("at", .string fireAt)])]
    | .delayed firesAt => .object [("Delayed", .object [("fires_at", .string firesAt)])]
  decode v := do
    let (name, ms) ← variantOf v
    match name with
    | "Cron" => return .cron (← required .string ms "expression")
    | "OneShot" => return .oneShot (← required .string ms "at")
    | "Delayed" => return .delayed (← required .string ms "fires_at")
    | _ => none
  decode_encode kind := by cases kind <;> rfl
  plain_encode kind := by cases kind <;> rfl
  encode_ne_null kind h := by cases kind <;> cases h

def ScheduleInfo.serde : Serde ScheduleInfo where
  encode r := .object [
    ("id", .string r.id),
    ("plan_path", .string r.planPath),
    ("repo_dir", .string r.repoDir),
    ("kind", ScheduleKindInfo.serde.encode r.kind),
    ("status", ScheduleStatus.serde.encode r.status),
    ("next_fire", ofOption .string r.nextFire),
    ("last_fired", ofOption .string r.lastFired),
    ("fire_count", Serde.u32.encode r.fireCount),
    ("label", ofOption .string r.label)]
  decode v := do
    let ms ← v.asObject
    return {
      id := ← required .string ms "id"
      planPath := ← required .string ms "plan_path"
      repoDir := ← required .string ms "repo_dir"
      kind := ← required ScheduleKindInfo.serde ms "kind"
      status := ← required ScheduleStatus.serde ms "status"
      nextFire := ← optional .string ms "next_fire"
      lastFired := ← optional .string ms "last_fired"
      fireCount := ← required .u32 ms "fire_count"
      label := ← optional .string ms "label" }
  decode_encode r := by
    rw [Json.asObject_object, Option.bind_eq_bind, Option.bind_some,
      required_of_unique (c := .string) (a := r.id) rfl,
      required_of_unique (c := .string) (a := r.planPath) rfl,
      required_of_unique (c := .string) (a := r.repoDir) rfl,
      required_of_unique (c := ScheduleKindInfo.serde) (a := r.kind) rfl,
      required_of_unique (c := ScheduleStatus.serde) (a := r.status) rfl,
      optional_of_unique (c := .string) (o := r.nextFire) rfl,
      optional_of_unique (c := .string) (o := r.lastFired) rfl,
      required_of_unique (c := .u32) (a := r.fireCount) rfl,
      optional_of_unique (c := .string) (o := r.label) rfl]
    exact rfl
  plain_encode r := by simp [JsonText.plain, JsonText.plainMembers]
  encode_ne_null _ h := nomatch h

/-- Information about a single arc run. -/
structure RunInfo where
  runId : String
  planPath : PathBuf
  repoDir : PathBuf
  sessionName : String
  status : RunStatus
  currentPhase : Option String
  startedAt : String
  uptimeSecs : UInt64
  /-- The schedule that triggered the run, if any. -/
  scheduleId : Option String
  waitingForNetwork : Bool

def RunInfo.serde : Serde RunInfo where
  encode r := .object [
    ("run_id", .string r.runId),
    ("plan_path", .string r.planPath),
    ("repo_dir", .string r.repoDir),
    ("session_name", .string r.sessionName),
    ("status", RunStatus.serde.encode r.status),
    ("current_phase", ofOption .string r.currentPhase),
    ("started_at", .string r.startedAt),
    ("uptime_secs", Serde.u64.encode r.uptimeSecs),
    ("schedule_id", ofOption .string r.scheduleId),
    ("waiting_for_network", .bool r.waitingForNetwork)]
  decode v := do
    let ms ← v.asObject
    return {
      runId := ← required .string ms "run_id"
      planPath := ← required .string ms "plan_path"
      repoDir := ← required .string ms "repo_dir"
      sessionName := ← required .string ms "session_name"
      status := ← required RunStatus.serde ms "status"
      currentPhase := ← optional .string ms "current_phase"
      startedAt := ← required .string ms "started_at"
      uptimeSecs := ← required .u64 ms "uptime_secs"
      scheduleId := ← optional .string ms "schedule_id"
      waitingForNetwork := ← defaulted .bool false ms "waiting_for_network" }
  decode_encode r := by
    rw [Json.asObject_object, Option.bind_eq_bind, Option.bind_some,
      required_of_unique (c := .string) (a := r.runId) rfl,
      required_of_unique (c := .string) (a := r.planPath) rfl,
      required_of_unique (c := .string) (a := r.repoDir) rfl,
      required_of_unique (c := .string) (a := r.sessionName) rfl,
      required_of_unique (c := RunStatus.serde) (a := r.status) rfl,
      optional_of_unique (c := .string) (o := r.currentPhase) rfl,
      required_of_unique (c := .string) (a := r.startedAt) rfl,
      required_of_unique (c := .u64) (a := r.uptimeSecs) rfl,
      optional_of_unique (c := .string) (o := r.scheduleId) rfl,
      defaulted_of_unique (c := .bool) (a := r.waitingForNetwork) rfl]
    exact rfl
  plain_encode r := by simp [JsonText.plain, JsonText.plainMembers]
  encode_ne_null _ h := nomatch h

namespace Wire

/-- A queued run; its position is a `usize`. -/
structure QueuedRunInfo where
  runId : String
  planPath : PathBuf
  repoDir : PathBuf
  position : UInt64
  queuedAt : String
  sessionName : Option String

def QueuedRunInfo.serde : Serde QueuedRunInfo where
  encode r := .object [
    ("run_id", .string r.runId),
    ("plan_path", .string r.planPath),
    ("repo_dir", .string r.repoDir),
    ("position", Serde.u64.encode r.position),
    ("queued_at", .string r.queuedAt),
    ("session_name", ofOption .string r.sessionName)]
  decode v := do
    let ms ← v.asObject
    return {
      runId := ← required .string ms "run_id"
      planPath := ← required .string ms "plan_path"
      repoDir := ← required .string ms "repo_dir"
      position := ← required .u64 ms "position"
      queuedAt := ← required .string ms "queued_at"
      sessionName := ← optional .string ms "session_name" }
  decode_encode r := by
    rw [Json.asObject_object, Option.bind_eq_bind, Option.bind_some,
      required_of_unique (c := .string) (a := r.runId) rfl,
      required_of_unique (c := .string) (a := r.planPath) rfl,
      required_of_unique (c := .string) (a := r.repoDir) rfl,
      required_of_unique (c := .u64) (a := r.position) rfl,
      required_of_unique (c := .string) (a := r.queuedAt) rfl,
      optional_of_unique (c := .string) (o := r.sessionName) rfl]
    exact rfl
  plain_encode r := by simp [JsonText.plain, JsonText.plainMembers]
  encode_ne_null _ h := nomatch h

/-- Client-to-daemon request messages. -/
inductive Request where
  | submitRun (planPath : PathBuf) (repoDir : PathBuf) (sessionName : Option String)
    (configDir : Option PathBuf) (verbose : UInt8)
  | listRuns (all : Bool)
  | getLogs (runId : String) (follow : Bool) (tail : Option UInt64) (pane : Bool)
  | stopRun (runId : String)
  | detachRun (runId : String)
  | daemonStatus
  | shutdown
  | addSchedule (planPath : PathBuf) (repoDir : PathBuf) (kind : ScheduleKind)
    (configDir : Option PathBuf) (verbose : UInt8) (label : Option String)
  | listSchedules
  | removeSchedule (id : String)
  | pauseSchedule (id : String)
  | resumeSchedule (id : String)
  | listQueue
  | removeQueued (runId : String)
  | clearQueue (repoDir : Option PathBuf)

/-- `request_type_name`: the variant, which is also written to the member `type`. -/
def Request.typeName : Request → String
  | .submitRun .. => "SubmitRun"
  | .listRuns _ => "ListRuns"
  | .getLogs .. => "GetLogs"
  | .stopRun _ => "StopRun"
  | .detachRun _ => "DetachRun"
  | .daemonStatus => "DaemonStatus"
  | .shutdown => "Shutdown"
  | .addSchedule .. => "AddSchedule"
  | .listSchedules => "ListSchedules"
  | .removeSchedule _ => "RemoveSchedule"
  | .pauseSchedule _ => "PauseSchedule"
  | .resumeSchedule _ => "ResumeSchedule"
  | .listQueue => "ListQueue"
  | .removeQueued _ => "RemoveQueued"
  | .clearQueue _ => "ClearQueue"

/-- The other members. -/
def Request.members (time : Serde DateTime) : Request → Members
  | .submitRun planPath repoDir sessionName configDir verbose =>
    [("plan_path", .string planPath), ("repo_dir", .string repoDir),
      ("session_name", ofOption .string sessionName), ("config_dir", ofOption .string configDir),
      ("verbose", Serde.u8.encode verbose)]
  | .listRuns all => [("all", .bool all)]
  | .getLogs runId follow tail pane =>
    [("run_id", .string runId), ("follow", .bool follow), ("tail", ofOption .u64 tail),
      ("pane", .bool pane)]
  | .stopRun runId => [("run_id", .string runId)]
  | .detachRun runId => [("run_id", .string runId)]
  | .addSchedule planPath repoDir kind configDir verbose label =>
    [("plan_path", .string planPath), ("repo_dir", .string repoDir),
      ("kind", (ScheduleKind.serde time).encode kind), ("config_dir", ofOption .string configDir),
      ("verbose", Serde.u8.encode verbose), ("label", ofOption .string label)]
  | .removeSchedule id => [("id", .string id)]
  | .pauseSchedule id => [("id", .string id)]
  | .resumeSchedule id => [("id", .string id)]
  | .removeQueued runId => [("run_id", .string runId)]
  | .clearQueue repoDir => [("repo_dir", ofOption .string repoDir)]
  | .daemonStatus | .shutdown | .listSchedules | .listQueue => []

/-- The request with the given variant and members. -/
def Request.ofMembers (time : Serde DateTime) : String → Members → Option Request
  | "SubmitRun", ms => do
    return .submitRun (← required .string ms "plan_path") (← required .string ms "repo_dir")
      (← optional .string ms "session_name") (← optional .string ms "config_dir")
      (← defaulted .u8 0 ms "verbose")
  | "ListRuns", ms => do return .listRuns (← required .bool ms "all")
  | "GetLogs", ms => do
    return .getLogs (← required .string ms "run_id") (← required .bool ms "follow")
      (← optional .u64 ms "tail") (← required .bool ms "pane")
  | "StopRun", ms => do return .stopRun (← required .string ms "run_id")
  | "DetachRun", ms => do return .detachRun (← required .string ms "run_id")
  | "DaemonStatus", _ => some .daemonStatus
  | "Shutdown", _ => some .shutdown
  | "AddSchedule", ms => do
    return .addSchedule (← required .string ms "plan_path") (← required .string ms "repo_dir")
      (← required (ScheduleKind.serde time) ms "kind") (← optional .string ms "config_dir")
      (← defaulted .u8 0 ms "verbose") (← optional .string ms "label")
  | "ListSchedules", _ => some .listSchedules
  | "RemoveSchedule", ms => do return .removeSchedule (← required .string ms "id")
  | "PauseSchedule", ms => do return .pauseSchedule (← required .string ms "id")
  | "ResumeSchedule", ms => do return .resumeSchedule (← required .string ms "id")
  | "ListQueue", _ => some .listQueue
  | "RemoveQueued", ms => do return .removeQueued (← required .string ms "run_id")
  | "ClearQueue", ms => do return .clearQueue (← optional .string ms "repo_dir")
  | _, _ => none

attribute [local simp] Request.members

theorem Request.ofMembers_members (time : Serde DateTime) (r : Request) :
    ofMembers time r.typeName (r.members time) = some r := by
  cases r with
  | submitRun planPath repoDir sessionName configDir verbose =>
    rw [typeName, members, ofMembers, required_of_unique (c := .string) (a := planPath) rfl,
      required_of_unique (c := .string) (a := repoDir) rfl,
      optional_of_unique (c := .string) (o := sessionName) rfl,
      optional_of_unique (c := .string) (o := configDir) rfl,
      defaulted_of_unique (c := .u8) (a := verbose) rfl]
    exact rfl
  | listRuns all =>
    rw [typeName, members, ofMembers, required_of_unique (c := .bool) (a := all) rfl]
    exact rfl
  | getLogs runId follow tail pane =>
    rw [typeName, members, ofMembers, required_of_unique (c := .string) (a := runId) rfl,
      required_of_unique (c := .bool) (a := follow) rfl,
      optional_of_unique (c := .u64) (o := tail) rfl,
      required_of_unique (c := .bool) (a := pane) rfl]
    exact rfl
  | stopRun runId =>
    rw [typeName, members, ofMembers, required_of_unique (c := .string) (a := runId) rfl]
    exact rfl
  | detachRun runId =>
    rw [typeName, members, ofMembers, required_of_unique (c := .string) (a := runId) rfl]
    exact rfl
  | daemonStatus => exact rfl
  | shutdown => exact rfl
  | addSchedule planPath repoDir kind configDir verbose label =>
    rw [typeName, members, ofMembers, required_of_unique (c := .string) (a := planPath) rfl,
      required_of_unique (c := .string) (a := repoDir) rfl,
      required_of_unique (c := ScheduleKind.serde time) (a := kind) rfl,
      optional_of_unique (c := .string) (o := configDir) rfl,
      defaulted_of_unique (c := .u8) (a := verbose) rfl,
      optional_of_unique (c := .string) (o := label) rfl]
    exact rfl
  | listSchedules => exact rfl
  | removeSchedule id =>
    rw [typeName, members, ofMembers, required_of_unique (c := .string) (a := id) rfl]
    exact rfl
  | pauseSchedule id =>
    rw [typeName, members, ofMembers, required_of_unique (c := .string) (a := id) rfl]
    exact rfl
  | resumeSchedule id =>
    rw [typeName, members, ofMembers, required_of_unique (c := .string) (a := id) rfl]
    exact rfl
  | listQueue => exact rfl
  | removeQueued runId =>
    rw [typeName, members, ofMembers, required_of_unique (c := .string) (a := runId) rfl]
    exact rfl
  | clearQueue repoDir =>
    rw [typeName, members, ofMembers, optional_of_unique (c := .string) (o := repoDir) rfl]
    exact rfl

/-- The keys a request may have. -/
def Request.keys : List String := [
  "type", "plan_path", "repo_dir", "session_name", "config_dir", "verbose", "all", "run_id",
  "follow", "tail", "pane", "kind", "label", "id"]

/-- Members of other keys make no difference. -/
theorem Request.ofMembers_append (time : Serde DateTime) (name : String) (ms : Members)
    {extra : Members} (h : ∀ m ∈ extra, m.1 ∉ Request.keys) :
    ofMembers time name (ms ++ extra) = ofMembers time name ms := by
  have hne : ∀ k ∈ Request.keys, ∀ m ∈ extra, m.1 ≠ k := by
    rintro k hk m hm rfl
    exact h m hm hk
  simp only [Request.keys, List.forall_mem_cons] at hne
  obtain ⟨-, hplan, hrepo, hsession, hconfig, hverbose, hall, hrun, hfollow, htail, hpane, hkind,
    hlabel, hid, -⟩ := hne
  unfold ofMembers
  split
  · rw [required_append hplan, required_append hrepo, optional_append hsession,
      optional_append hconfig, defaulted_append hverbose]
  · rw [required_append hall]
  · rw [required_append hrun, required_append hfollow, optional_append htail,
      required_append hpane]
  · rw [required_append hrun]
  · rw [required_append hrun]
  · exact rfl
  · exact rfl
  · rw [required_append hplan, required_append hrepo, required_append hkind,
      optional_append hconfig, defaulted_append hverbose, optional_append hlabel]
  · exact rfl
  · rw [required_append hid]
  · rw [required_append hid]
  · rw [required_append hid]
  · exact rfl
  · rw [required_append hrun]
  · rw [optional_append hrepo]
  · exact rfl

theorem Request.notMem_members (time : Serde DateTime) (r : Request) :
    ∀ m ∈ r.members time, m.1 ≠ "type" := by
  cases r <;> simp

theorem Request.plain_members (time : Serde DateTime) (r : Request) :
    JsonText.plainMembers (r.members time) = true := by
  cases r <;> simp [JsonText.plain, JsonText.plainMembers]

def Request.serde (time : Serde DateTime) : Serde Request where
  encode r := .tagged r.typeName (r.members time)
  decode v := v.untag.bind fun p => ofMembers time p.1 p.2
  decode_encode r := by
    rw [Json.untag_tagged (r.notMem_members time), Option.bind_some, r.ofMembers_members time]
  plain_encode r := by
    rw [Json.tagged, JsonText.plain, JsonText.plainMembers, r.plain_members time]
    exact rfl
  encode_ne_null _ h := nomatch h

/-- Daemon-to-client response messages. -/
inductive Response where
  | runSubmitted (runId : String)
  | runQueued (runId : String) (position : UInt64)
  | runList (runs : List RunInfo)
  | logChunk (runId : String) (data : String)
  | ok (message : String)
  | error (code : ErrorCode) (message : String)
  | scheduleList (schedules : List ScheduleInfo)
  | scheduleAdded (id : String) (nextFire : Option String)
  | queueList (entries : List QueuedRunInfo)

/-- The variant, in the member `type`. -/
def Response.typeName : Response → String
  | .runSubmitted _ => "RunSubmitted"
  | .runQueued .. => "RunQueued"
  | .runList _ => "RunList"
  | .logChunk .. => "LogChunk"
  | .ok _ => "Ok"
  | .error .. => "Error"
  | .scheduleList _ => "ScheduleList"
  | .scheduleAdded .. => "ScheduleAdded"
  | .queueList _ => "QueueList"

/-- The other members. -/
def Response.members : Response → Members
  | .runSubmitted runId => [("run_id", .string runId)]
  | .runQueued runId position =>
    [("run_id", .string runId), ("position", Serde.u64.encode position)]
  | .runList runs => [("runs", (Serde.list RunInfo.serde).encode runs)]
  | .logChunk runId data => [("run_id", .string runId), ("data", .string data)]
  | .ok message => [("message", .string message)]
  | .error code message => [("code", ErrorCode.serde.encode code), ("message", .string message)]
  | .scheduleList schedules => [("schedules", (Serde.list ScheduleInfo.serde).encode schedules)]
  | .scheduleAdded id nextFire => [("id", .string id), ("next_fire", ofOption .string nextFire)]
  | .queueList entries => [("entries", (Serde.list QueuedRunInfo.serde).encode entries)]

/-- The response with the given variant and members. -/
def Response.ofMembers : String → Members → Option Response
  | "RunSubmitted", ms => do return .runSubmitted (← required .string ms "run_id")
  | "RunQueued", ms => do
    return .runQueued (← required .string ms "run_id") (← required .u64 ms "position")
  | "RunList", ms => do return .runList (← required (.list RunInfo.serde) ms "runs")
  | "LogChunk", ms => do
    return .logChunk (← required .string ms "run_id") (← required .string ms "data")
  | "Ok", ms => do return .ok (← required .string ms "message")
  | "Error", ms => do
    return .error (← required ErrorCode.serde ms "code") (← required .string ms "message")
  | "ScheduleList", ms => do
    return .scheduleList (← required (.list ScheduleInfo.serde) ms "schedules")
  | "ScheduleAdded", ms => do
    return .scheduleAdded (← required .string ms "id") (← optional .string ms "next_fire")
  | "QueueList", ms => do return .queueList (← required (.list QueuedRunInfo.serde) ms "entries")
  | _, _ => none

attribute [local simp] Response.members

theorem Response.ofMembers_members (r : Response) :
    ofMembers r.typeName r.members = some r := by
  cases r with
  | runSubmitted runId =>
    rw [typeName, members, ofMembers, required_of_unique (c := .string) (a := runId) rfl]
    exact rfl
  | runQueued runId position =>
    rw [typeName, members, ofMembers, required_of_unique (c := .string) (a := runId) rfl,
      required_of_unique (c := .u64) (a := position) rfl]
    exact rfl
  | runList runs =>
    rw [typeName, members, ofMembers, required_of_unique (c := .list RunInfo.serde) (a := runs) rfl]
    exact rfl
  | logChunk runId data =>
    rw [typeName, members, ofMembers, required_of_unique (c := .string) (a := runId) rfl,
      required_of_unique (c := .string) (a := data) rfl]
    exact rfl
  | ok message =>
    rw [typeName, members, ofMembers, required_of_unique (c := .string) (a := message) rfl]
    exact rfl
  | error code message =>
    rw [typeName, members, ofMembers, required_of_unique (c := ErrorCode.serde) (a := code) rfl,
      required_of_unique (c := .string) (a := message) rfl]
    exact rfl
  | scheduleList schedules =>
    rw [typeName, members, ofMembers,
      required_of_unique (c := .list ScheduleInfo.serde) (a := schedules) rfl]
    exact rfl
  | scheduleAdded id nextFire =>
    rw [typeName, members, ofMembers, required_of_unique (c := .string) (a := id) rfl,
      optional_of_unique (c := .string) (o := nextFire) rfl]
    exact rfl
  | queueList entries =>
    rw [typeName, members, ofMembers,
      required_of_unique (c := .list QueuedRunInfo.serde) (a := entries) rfl]
    exact rfl

/-- The keys a response may have. -/
def Response.keys : List String := [
  "type", "run_id", "position", "runs", "data", "message", "code", "schedules", "id", "next_fire",
  "entries"]

theorem Response.ofMembers_append (name : String) (ms : Members) {extra : Members}
    (h : ∀ m ∈ extra, m.1 ∉ Response.keys) : ofMembers name (ms ++ extra) = ofMembers name ms := by
  have hne : ∀ k ∈ Response.keys, ∀ m ∈ extra, m.1 ≠ k := by
    rintro k hk m hm rfl
    exact h m hm hk
  simp only [Response.keys, List.forall_mem_cons] at hne
  obtain ⟨-, hrun, hposition, hruns, hdata, hmessage, hcode, hschedules, hid, hnext, hentries, -⟩ :=
    hne
  unfold ofMembers
  split
  · rw [required_append hrun]
  · rw [required_append hrun, required_append hposition]
  · rw [required_append hruns]
  · rw [required_append hrun, required_append hdata]
  · rw [required_append hmessage]
  · rw [required_append hcode, required_append hmessage]
  · rw [required_append hschedules]
  · rw [required_append hid, optional_append hnext]
  · rw [required_append hentries]
  · exact rfl

theorem Response.notMem_members (r : Response) :
    ∀ m ∈ r.members, m.1 ≠ "type" := by
  cases r <;> simp

theorem Response.plain_members (r : Response) :
    JsonText.plainMembers r.members = true := by
  cases r <;> simp [JsonText.plain, JsonText.plainMembers]

def Response.serde : Serde Response where
  encode r := .tagged r.typeName r.members
  decode v := v.untag.bind fun p => ofMembers p.1 p.2
  decode_encode r := by
    rw [Json.untag_tagged (r.notMem_members), Option.bind_some, r.ofMembers_members]
  plain_encode r := by
    rw [Json.tagged, JsonText.plain, JsonText.plainMembers, r.plain_members]
    exact rfl
  encode_ne_null _ h := nomatch h

/-! ## Reading what was written -/

/-- A request is read whatever members a newer client adds. -/
theorem Request.decode_append (time : Serde DateTime) (r : Request) {extra : Members}
    (h : ∀ m ∈ extra, m.1 ∉ Request.keys) :
    (Request.serde time).decode (.tagged r.typeName (r.members time ++ extra)) = some r := by
  have hkeys : ∀ m ∈ r.members time ++ extra, m.1 ≠ "type" := by
    refine List.forall_mem_append.mpr ⟨r.notMem_members time, fun m hm heq => h m hm ?_⟩
    rw [heq]
    exact List.mem_cons_self
  have hdecode : ∀ v, (Request.serde time).decode v =
      v.untag.bind fun p => ofMembers time p.1 p.2 := fun _ => rfl
  rw [hdecode, Json.untag_tagged hkeys, Option.bind_some, ofMembers_append time _ _ h,
    r.ofMembers_members time]

/-- A response is read whatever members a newer daemon adds. -/
theorem Response.decode_append (r : Response) {extra : Members}
    (h : ∀ m ∈ extra, m.1 ∉ Response.keys) :
    Response.serde.decode (.tagged r.typeName (r.members ++ extra)) = some r := by
  have hkeys : ∀ m ∈ r.members ++ extra, m.1 ≠ "type" := by
    refine List.forall_mem_append.mpr ⟨r.notMem_members, fun m hm heq => h m hm ?_⟩
    rw [heq]
    exact List.mem_cons_self
  have hdecode : ∀ v, Response.serde.decode v = v.untag.bind fun p => ofMembers p.1 p.2 :=
    fun _ => rfl
  rw [hdecode, Json.untag_tagged hkeys, Option.bind_some, ofMembers_append _ _ h,
    r.ofMembers_members]

/-- `serde_json` between values and bytes: it reads what it has written, if there are no doubles in
it. -/
structure JsonFormat where
  toVec : Json → List UInt8
  fromSlice : List UInt8 → Option Json
  fromSlice_toVec : ∀ v, JsonText.plain v = true → fromSlice (toVec v) = some v

/-- The compact text. -/
def JsonFormat.compact : JsonFormat where
  toVec := JsonText.toBytes
  fromSlice := JsonText.fromBytes
  fromSlice_toVec _ := JsonText.fromBytes_toBytes

namespace JsonFormat
variable {α : Type} (format : JsonFormat) (c : Serde α)

/-- `serde_json` at a message type. -/
def serdeAt : SerdeJson α Unit where
  toVec a := .ok (format.toVec (c.encode a))
  fromSlice bs :=
    match (format.fromSlice bs).bind c.decode with
    | some a => .ok a
    | none => .error ()

theorem fromSlice_of_toVec (a : α) (payload : List UInt8)
    (h : (format.serdeAt c).toVec a = .ok payload) : (format.serdeAt c).fromSlice payload = .ok a := by
  cases h
  have hread : (format.fromSlice (format.toVec (c.encode a))).bind c.decode = some a := by
    rw [format.fromSlice_toVec _ (c.plain_encode a), Option.bind_some, c.decode_encode]
  simp only [serdeAt, hread]

/-- What is written one after the other is one frame a message. -/
theorem frames_of_writeMessages {msgs : List α} {bytes : List UInt8}
    (h : writeMessages (format.serdeAt c) msgs = .ok bytes) :
    ∃ frames, bytes = frames.flatten ∧
      List.Forall₂ ((messageReader (format.serdeAt c)).IsFrame .unexpectedEof) msgs frames := by
  induction msgs generalizing bytes with
  | nil =>
    cases h
    exact ⟨[], rfl, .nil⟩
  | cons msg msgs ih =>
    rw [writeMessages] at h
    split at h
    · cases h
    · next frame hframe =>
      split at h
      · cases h
      · next bytes' hbytes =>
        cases h
        obtain ⟨frames, rfl, hframes⟩ := ih hbytes
        exact ⟨frame :: frames, rfl,
          .cons (isFrame_of_writeMessage hframe (format.fromSlice_of_toVec c msg)) hframes⟩

/-- A stream of written messages is read back message by message. -/
theorem readAll_of_writeMessages {msgs : List α} {bytes : List UInt8}
    (h : writeMessages (format.serdeAt c) msgs = .ok bytes) :
    (messageReader (format.serdeAt c)).readAll bytes = (msgs, [], .unexpectedEof) := by
  obtain ⟨frames, rfl, hframes⟩ := format.frames_of_writeMessages c h
  exact Reader.readAll_flatten readMessage_nil hframes

end JsonFormat

/-- Every stream of requests is read back message by message, and so is every stream of responses;
and each is read as itself whatever members a newer peer adds to it. -/
theorem messages_read_back (format : JsonFormat) (time : Serde DateTime) :
    (∀ requests bytes,
      writeMessages (format.serdeAt (Request.serde time)) requests = .ok bytes →
      (messageReader (format.serdeAt (Request.serde time))).readAll bytes =
        (requests, [], .unexpectedEof)) ∧
    (∀ responses bytes, writeMessages (format.serdeAt Response.serde) responses = .ok bytes →
      (messageReader (format.serdeAt Response.serde)).readAll bytes =
        (responses, [], .unexpectedEof)) ∧
    (∀ (r : Request) (extra : Members), (∀ m ∈ extra, m.1 ∉ Request.keys) →
      (Request.serde time).decode (.tagged r.typeName (r.members time ++ extra)) = some r) ∧
    ∀ (r : Response) (extra : Members), (∀ m ∈ extra, m.1 ∉ Response.keys) →
      Response.serde.decode (.tagged r.typeName (r.members ++ extra)) = some r := by
  refine ⟨?_, ?_, ?_, ?_⟩
  · exact fun _ _ h => format.readAll_of_writeMessages (Request.serde time) h
  · exact fun _ _ h => format.readAll_of_writeMessages Response.serde h
  · exact fun r _ h => r.decode_append time h
  · exact fun r _ h => r.decode_append h

theorem messages_read_back_compact : ∃ bytes,
    writeMessages (JsonFormat.compact.serdeAt (Request.serde .int))
      [.getLogs "a1b2c3d4" true (some 50) false, .shutdown] = .ok bytes ∧
    (messageReader (JsonFormat.compact.serdeAt (Request.serde .int))).readAll bytes =
      ([.getLogs "a1b2c3d4" true (some 50) false, .shutdown], [], .unexpectedEof) := by
  obtain ⟨bytes, hwrite⟩ : ∃ bytes,
      writeMessages (JsonFormat.compact.serdeAt (Request.serde .int))
        [.getLogs "a1b2c3d4" true (some 50) false, .shutdown] = .ok bytes := ⟨_, rfl⟩
  exact ⟨bytes, hwrite, (messages_read_back .compact .int).1 _ bytes hwrite⟩

end Wire

end GreaterWill
