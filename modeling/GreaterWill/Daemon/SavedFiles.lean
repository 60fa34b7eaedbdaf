import GreaterWill.Daemon.Messages
import GreaterWill.Daemon.QueueFiles
import GreaterWill.Lib.ReplacedFile

/-!
# The files of the daemon, byte by byte

`meta.json` of every run, `queue.json` and `schedules.json`: the JSON that `write_meta`,
`flush_queue` and `ScheduleRegistry::save` write to a tmp file, sync and rename into place, and how
`load_from_disk`, `load_queue` and `ScheduleRegistry::load` read it.

The writers are those of `ReplacedFiles`, each with its own task, and the daemon may be killed at
any point and started again. As long as no two writes with one tmp file overlap, the files can be
read at every moment, and they hold what `GwHome.writeAll` says of the writes that were renamed
(`saved_files_read_back`).

How `chrono` writes a time is the parameter `time`. A map is written in any order of its keys; of a
key that stands twice the reader takes the last value.
-/

namespace GreaterWill

open Members

/-! ## JSON -/

def PendingRun.serde (time : Serde DateTime) : Serde PendingRun where
  encode p := .object [
    ("run_id", .string p.runId),
    ("plan_path", .string p.planPath),
    ("repo_dir", .string p.repoDir),
    ("session_name", ofOption .string p.sessionName),
    ("config_dir", ofOption .string p.configDir),
    ("verbose", Serde.u8.encode p.verbose),
    ("queued_at", time.encode p.queuedAt)]
  decode v := do
    let ms ← v.asObject
    return {
      runId := ← required .string ms "run_id"
      planPath := ← required .string ms "plan_path"
      repoDir := ← required .string ms "repo_dir"
      sessionName := ← optional .string ms "session_name"
      configDir := ← optional .string ms "config_dir"
      verbose := ← required .u8 ms "verbose"
      queuedAt := ← required time ms "queued_at" }
  decode_encode p := by
    rw [Json.asObject_object, Option.bind_eq_bind, Option.bind_some,
      required_of_unique (c := .string) (a := p.runId) rfl,
      required_of_unique (c := .string) (a := p.planPath) rfl,
      required_of_unique (c := .string) (a := p.repoDir) rfl,
      optional_of_unique (c := .string) (o := p.sessionName) rfl,
      optional_of_unique (c := .string) (o := p.configDir) rfl,
      required_of_unique (c := .u8) (a := p.verbose) rfl,
      required_of_unique (c := time) (a := p.queuedAt) rfl]
    exact rfl
  plain_encode p := by simp [JsonText.plain, JsonText.plainMembers]
  encode_ne_null _ h := nomatch h

def ScheduleEntry.serde (time : Serde DateTime) : Serde ScheduleEntry where
  encode e := .object [
    ("id", .string e.id),
    ("plan_path", .string e.planPath),
    ("repo_dir", .string e.repoDir),
    ("config_dir", ofOption .string e.configDir),
    ("verbose", Serde.u8.encode e.verbose),
    ("kind", (ScheduleKind.serde time).encode e.kind),
    ("status", ScheduleStatus.serde.encode e.status),
    ("created_at", time.encode e.createdAt),
    ("last_fired", ofOption time e.lastFired),
    ("next_fire", ofOption time e.nextFire),
    ("fire_count", Serde.u32.encode e.fireCount),
    ("label", ofOption .string e.label),
    ("last_error", ofOption .string e.lastError)]
  decode v := do
    let ms ← v.asObject
    return {
      id := ← required .string ms "id"
      planPath := ← required .string ms "plan_path"
      repoDir := ← required .string ms "repo_dir"
      configDir := ← optional .string ms "config_dir"
      verbose := ← required .u8 ms "verbose"
      kind := ← required (ScheduleKind.serde time) ms "kind"
      status := ← required ScheduleStatus.serde ms "status"
      createdAt := ← required time ms "created_at"
      lastFired := ← optional time ms "last_fired"
      nextFire := ← optional time ms "next_fire"
      fireCount := ← required .u32 ms "fire_count"
      label := ← optional .string ms "label"
      lastError := ← optional .string ms "last_error" }
  decode_encode e := by
    rw [Json.asObject_object, Option.bind_eq_bind, Option.bind_some,
      required_of_unique (c := .string) (a := e.id) rfl,
      required_of_unique (c := .string) (a := e.planPath) rfl,
      required_of_unique (c := .string) (a := e.repoDir) rfl,
      optional_of_unique (c := .string) (o := e.configDir) rfl,
      required_of_unique (c := .u8) (a := e.verbose) rfl,
      required_of_unique (c := ScheduleKind.serde time) (a := e.kind) rfl,
      required_of_unique (c := ScheduleStatus.serde) (a := e.status) rfl,
      required_of_unique (c := time) (a := e.createdAt) rfl,
      optional_of_unique (c := time) (o := e.lastFired) rfl,
      optional_of_unique (c := time) (o := e.nextFire) rfl,
      required_of_unique (c := .u32) (a := e.fireCount) rfl,
      optional_of_unique (c := .string) (o := e.label) rfl,
      optional_of_unique (c := .string) (o := e.lastError) rfl]
    exact rfl
  plain_encode e := by simp [JsonText.plain, JsonText.plainMembers]
  encode_ne_null _ h := nomatch h

namespace RunEntry

def toJson (time : Serde DateTime) (e : RunEntry) : Json := .object [
  ("run_id", .string e.runId),
  ("plan_path", .string e.planPath),
  ("repo_dir", .string e.repoDir),
  ("session_name", .string e.sessionName),
  ("tmux_session", ofOption .string e.tmuxSession),
  ("status", RunStatus.serde.encode e.status),
  ("current_phase", ofOption .string e.currentPhase),
  ("started_at", time.encode e.startedAt),
  ("finished_at", ofOption time e.finishedAt),
  ("crash_restarts", Serde.u32.encode e.crashRestarts),
  ("config_dir", ofOption .string e.configDir),
  ("error_message", ofOption .string e.errorMessage),
  ("restartable", .bool e.restartable),
  ("claude_pid", ofOption .u32 e.claudePid),
  ("schedule_id", ofOption .string e.scheduleId),
  ("last_recovery_at", ofOption time e.lastRecoveryAt),
  ("write_epoch", Json.ofNat e.writeEpoch)]

/-- The members that older versions did not write have defaults. -/
def ofJson (time : Serde DateTime) (v : Json) : Option RunEntry := do
  let ms ← v.asObject
  return {
    runId := ← required .string ms "run_id"
    planPath := ← required .string ms "plan_path"
    repoDir := ← required .string ms "repo_dir"
    sessionName := ← required .string ms "session_name"
    tmuxSession := ← optional .string ms "tmux_session"
    status := ← required RunStatus.serde ms "status"
    currentPhase := ← optional .string ms "current_phase"
    startedAt := ← required time ms "started_at"
    finishedAt := ← optional time ms "finished_at"
    crashRestarts := ← required .u32 ms "crash_restarts"
    configDir := ← optional .string ms "config_dir"
    errorMessage := ← optional .string ms "error_message"
    restartable := ← defaulted .bool true ms "restartable"
    claudePid := ← optional .u32 ms "claude_pid"
    scheduleId := ← optional .string ms "schedule_id"
    lastRecoveryAt := ← optional time ms "last_recovery_at"
    writeEpoch := (← defaulted .u64 0 ms "write_epoch").toNat }

/-- The epoch of the entry is a `u64`. -/
theorem ofJson_toJson (time : Serde DateTime) {e : RunEntry} (h : e.writeEpoch < 2 ^ 64) :
    ofJson time (e.toJson time) = some e := by
  have hepoch : (UInt64.ofNat e.writeEpoch).toNat = e.writeEpoch := by
    rw [UInt64.toNat_ofNat', Nat.mod_eq_of_lt h]
  rw [ofJson, toJson, Json.asObject_object, Option.bind_eq_bind, Option.bind_some,
    required_of_unique (c := .string) (a := e.runId) rfl,
    required_of_unique (c := .string) (a := e.planPath) rfl,
    required_of_unique (c := .string) (a := e.repoDir) rfl,
    required_of_unique (c := .string) (a := e.sessionName) rfl,
    optional_of_unique (c := .string) (o := e.tmuxSession) rfl,
    required_of_unique (c := RunStatus.serde) (a := e.status) rfl,
    optional_of_unique (c := .string) (o := e.currentPhase) rfl,
    required_of_unique (c := time) (a := e.startedAt) rfl,
    optional_of_unique (c := time) (o := e.finishedAt) rfl,
    required_of_unique (c := .u32) (a := e.crashRestarts) rfl,
    optional_of_unique (c := .string) (o := e.configDir) rfl,
    optional_of_unique (c := .string) (o := e.errorMessage) rfl,
    defaulted_of_unique (c := .bool) (a := e.restartable) rfl,
    optional_of_unique (c := .u32) (o := e.claudePid) rfl,
    optional_of_unique (c := .string) (o := e.scheduleId) rfl,
    optional_of_unique (c := time) (o := e.lastRecoveryAt) rfl,
    defaulted_of_unique (c := .u64) (a := UInt64.ofNat e.writeEpoch) rfl]
  simp only [Option.bind_eq_bind, Option.bind_some, Option.pure_def, hepoch]

theorem plain_toJson (time : Serde DateTime) (e : RunEntry) :
    JsonText.plain (e.toJson time) = true := by
  simp [toJson, Json.ofNat, JsonText.plain, JsonText.plainMembers]

end RunEntry

namespace QueueSnapshotWire
variable (time : Serde DateTime)

def toJson (wire : QueueSnapshotWire) : Json := .object [
  ("queues", .ofMap (PendingRun.serde time).list.encode wire.queues),
  ("consecutive_failures", .ofMap .ofNat wire.consecutiveFailures)]

/-- Both members may be missing. -/
def ofJson (v : Json) : Option QueueSnapshotWire := do
  let ms ← v.asObject
  let queues ← unique "queues" ms
  let failures ← unique "consecutive_failures" ms
  return {
    queues := ← queues.elim (some ∅) (Json.toMap (PendingRun.serde time).list.decode)
    consecutiveFailures := ← failures.elim (some ∅) (Json.toMap (Json.natBelow (2 ^ 32))) }

/-- Two contents of `queue.json` with the same maps. -/
structure Same (w w' : QueueSnapshotWire) : Prop where
  queues : ∀ k, w.queues.lookup k = w'.queues.lookup k
  failures : ∀ k, w.consecutiveFailures.lookup k = w'.consecutiveFailures.lookup k

/-- The counts are `u32`. -/
def Fits (wire : QueueSnapshotWire) : Prop :=
  ∀ k n, wire.consecutiveFailures.lookup k = some n → n < 2 ^ 32

theorem ofJson_toJson {wire : QueueSnapshotWire} (h : wire.Fits) :
    ∃ w, ofJson time (wire.toJson time) = some w ∧ w.Same wire := by
  obtain ⟨queues, hqueues, hq⟩ := Json.toMap_ofMap (m := wire.queues)
    (f := (PendingRun.serde time).list.encode) (g := (PendingRun.serde time).list.decode)
    fun k a _ => (PendingRun.serde time).list.decode_encode a
  obtain ⟨failures, hfailures, hf⟩ := Json.toMap_ofMap (m := wire.consecutiveFailures)
    (f := Json.ofNat) (g := Json.natBelow (2 ^ 32))
    fun k n hn => Json.natBelow_ofNat (h k n hn)
  refine ⟨⟨queues, failures⟩, ?_, ⟨hq, hf⟩⟩
  rw [ofJson, toJson, Json.asObject_object, Option.bind_eq_bind, Option.bind_some,
    unique_cons_self _ rfl, unique_cons_of_ne _ (by decide), unique_cons_self _ rfl]
  simp only [Option.bind_eq_bind, Option.bind_some, Option.elim_some, Option.pure_def, hqueues,
    hfailures]

theorem plain_toJson (wire : QueueSnapshotWire) : JsonText.plain (wire.toJson time) = true := by
  have hqueues := Json.plain_ofMap (PendingRun.serde time).list.plain_encode wire.queues
  have hfailures := Json.plain_ofMap (f := .ofNat) (fun _ => rfl) wire.consecutiveFailures
  simp [toJson, JsonText.plain, JsonText.plainMembers, hqueues, hfailures]

end QueueSnapshotWire

/-! ## The files -/

/-- The files of `~/.gw`; the directory of a run has the name of the run. -/
inductive HomeFile where
  | metaJson (dir : String)
  | metaTmp (dir : String)
  | queueJson
  /-- `queue.json.tmp.<epoch>`. -/
  | queueTmp (epoch : Nat)
  | schedules
  | schedulesTmp
  deriving DecidableEq

/-- What a task of the daemon writes. -/
inductive HomeWrite where
  /-- `write_meta`. -/
  | writeMeta (entry : RunEntry)
  | flushQueue (snapshot : QueueSnapshot)
  /-- `ScheduleRegistry::save`. -/
  | save (r : ScheduleRegistry)

/-- The integers of the records that the model has as natural numbers fit into those of the
source. -/
def HomeWrite.Fits : HomeWrite → Prop
  | .writeMeta entry => entry.writeEpoch < 2 ^ 64
  | .flushQueue snapshot => snapshot.wire.Fits
  | .save _ => True

section
variable (time : Serde DateTime)

def homeWrites : Replacing HomeWrite HomeFile UInt8 where
  tmp
    | .writeMeta entry => .metaTmp entry.runId
    | .flushQueue snapshot => .queueTmp snapshot.epoch
    | .save _ => .schedulesTmp
  target
    | .writeMeta entry => .metaJson entry.runId
    | .flushQueue _ => .queueJson
    | .save _ => .schedules
  text
    | .writeMeta entry => JsonText.toBytes (entry.toJson time)
    | .flushQueue snapshot => JsonText.bytesWith .pretty (snapshot.wire.toJson time)
    | .save r => JsonText.bytesWith .pretty (.ofMap (ScheduleEntry.serde time).encode r.entries)
  tmp_ne_target w w' := by cases w <;> cases w' <;> simp

theorem tmp_ne_metaJson (dir : String) (w : HomeWrite) :
    (homeWrites time).tmp w ≠ .metaJson dir := by
  cases w <;> simp [homeWrites]

/-- The bytes of the files. -/
abbrev HomeContent := HomeFile → Option (List UInt8)

namespace HomeContent
variable (files : HomeContent)

def readMeta (dir : String) : Option RunEntry :=
  (files (.metaJson dir)).bind fun bytes => (JsonText.fromBytes bytes).bind (RunEntry.ofJson time)

/-- `load_from_disk`, with the directories of `runs` in the order of `read_dir`. A file that cannot
be parsed is skipped. -/
def loadFromDisk (dirs : List String) : RunRegistry :=
  dirs.foldl (fun r dir =>
    match readMeta time files dir with
    | some run => { r with runs := r.runs.insert run.runId run }
    | none => r) .new

/-- `load_queue`. -/
def loadQueue : QueueSnapshotWire :=
  ((files .queueJson).bind fun bytes =>
    (JsonText.fromBytes bytes).bind (QueueSnapshotWire.ofJson time)).getD ⟨∅, ∅⟩

/-- What `ScheduleRegistry::load` parses; an error if it cannot. -/
def parseSchedules : Option (Map String ScheduleEntry) :=
  match files .schedules with
  | none => some ∅
  | some bytes =>
    (JsonText.fromBytes bytes).bind (Json.toMap (ScheduleEntry.serde time).decode)

end HomeContent

end

/-! ## What the files say -/

/-- What the daemon has saved. -/
structure SavedState where
  home : GwHome
  schedules : ScheduleRegistry

/-- Nothing was saved. -/
def SavedState.init : SavedState := ⟨.init, .new⟩

def SavedState.write (st : SavedState) : HomeWrite → SavedState
  | .writeMeta entry => { st with home := st.home.write (.metaJson entry) }
  | .flushQueue snapshot => { st with home := st.home.write (.queueJson snapshot.wire) }
  | .save r => { st with schedules := r }

/-- Every file can be parsed, and the values are those that were saved. -/
structure SavedState.ReadFrom (time : Serde DateTime) (st : SavedState) (files : HomeContent) :
    Prop where
  runs : ∀ dir, files.readMeta time dir = st.home.runs.metas.lookup dir
  queue : (files.loadQueue time).Same st.home.queueJson
  schedules : ∃ entries, files.parseSchedules time = some entries ∧
    ∀ id, entries.lookup id = st.schedules.get id

namespace SavedState
variable {time : Serde DateTime} {st : SavedState} {files files' : HomeContent}

theorem readFrom_init : SavedState.init.ReadFrom time fun _ => none where
  runs _ := rfl
  queue := ⟨fun _ => rfl, fun _ => rfl⟩
  schedules := ⟨∅, rfl, fun _ => rfl⟩

namespace ReadFrom

/-- The tmp files are not read. -/
theorem congr (H : st.ReadFrom time files)
    (hmeta : ∀ dir, files' (.metaJson dir) = files (.metaJson dir))
    (hqueue : files' .queueJson = files .queueJson)
    (hschedules : files' .schedules = files .schedules) : st.ReadFrom time files' := by
  constructor
  · intro dir
    rw [HomeContent.readMeta, hmeta dir]
    exact H.runs dir
  · rw [HomeContent.loadQueue, hqueue]
    exact H.queue
  · rw [HomeContent.parseSchedules, hschedules]
    exact H.schedules

/-- A file was replaced as a whole. -/
theorem write (H : st.ReadFrom time files) {w : HomeWrite} (hw : w.Fits) :
    (st.write w).ReadFrom time
      (Function.update files ((homeWrites time).target w) (some ((homeWrites time).text w))) := by
  cases w with
  | writeMeta entry =>
    have hread := RunEntry.ofJson_toJson time hw
    have hparse := JsonText.fromBytes_toBytes (entry.plain_toJson time)
    constructor
    · intro dir
      rw [SavedState.write, GwHome.write, RunsDir.writeMeta, AList.lookup_insert_eq_ite,
        HomeContent.readMeta, homeWrites]
      by_cases hdir : dir = entry.runId
      · rw [if_pos hdir, hdir, Function.update_self, Option.bind_some, hparse, Option.bind_some,
          hread]
      · have hne : HomeFile.metaJson dir ≠ .metaJson entry.runId := by
          intro heq
          exact hdir (HomeFile.metaJson.inj heq)
        rw [if_neg hdir, Function.update_of_ne hne]
        exact H.runs dir
    · exact H.queue
    · exact H.schedules
  | flushQueue snapshot =>
    have hparse := JsonText.fromBytes_bytesWith (snapshot.wire.plain_toJson time) .pretty
    obtain ⟨wire, hread, hsame⟩ := QueueSnapshotWire.ofJson_toJson time hw
    constructor
    · exact H.runs
    · rw [HomeContent.loadQueue, homeWrites, Function.update_self, Option.bind_some, hparse,
        Option.bind_some, hread]
      exact hsame
    · exact H.schedules
  | save r =>
    have hplain := Json.plain_ofMap (ScheduleEntry.serde time).plain_encode r.entries
    have hparse := JsonText.fromBytes_bytesWith hplain .pretty
    obtain ⟨entries, hread, hlookup⟩ := Json.toMap_ofMap (m := r.entries)
      (f := (ScheduleEntry.serde time).encode) (g := (ScheduleEntry.serde time).decode)
      fun _ e _ => (ScheduleEntry.serde time).decode_encode e
    constructor
    · exact H.runs
    · exact H.queue
    · refine ⟨entries, ?_, hlookup⟩
      simp only [HomeContent.parseSchedules, homeWrites, Function.update_self, hparse,
        Option.bind_some, hread]

/-- Files were replaced one after the other. -/
theorem saved (H : st.ReadFrom time files) {done : List HomeWrite} (hdone : ∀ w ∈ done, w.Fits) :
    (done.foldl SavedState.write st).ReadFrom time ((homeWrites time).saved files done) := by
  induction done generalizing st files with
  | nil => exact H
  | cons w done ih =>
    obtain ⟨hw, hdone⟩ := List.forall_mem_cons.mp hdone
    exact ih (H.write hw) hdone

theorem get_foldl_readMeta (H : st.ReadFrom time files) {id : String} (dirs : List String)
    (r : RunRegistry) :
    (dirs.foldl (fun r dir =>
      match files.readMeta time dir with
      | some run => { r with runs := r.runs.insert run.runId run }
      | none => r) r).get id =
      if id ∈ dirs then (st.home.runs.metas.lookup id).or (r.get id) else r.get id := by
  induction dirs generalizing r with
  | nil => rfl
  | cons dir dirs ih =>
    rw [List.foldl_cons, ih, H.runs dir]
    cases hdir : st.home.runs.metas.lookup dir with
    | none =>
      by_cases hid : id = dir
      · rw [hid, hdir]
        simp
      · simp [hid]
    | some run =>
      obtain rfl := st.home.runs.named dir run hdir
      have hget : ({ r with runs := r.runs.insert run.runId run } : RunRegistry).get id =
          if id = run.runId then some run else r.get id := AList.lookup_insert_eq_ite
      rw [hget]
      by_cases hid : id = run.runId
      · rw [hid, hdir]
        simp
      · simp [hid]

/-- `load_from_disk` finds what was saved of every run. -/
theorem get_loadFromDisk (H : st.ReadFrom time files) {dirs : List String}
    (hdirs : ∀ dir, files (.metaJson dir) ≠ none → dir ∈ dirs) (id : String) :
    (files.loadFromDisk time dirs).get id = st.home.runs.metas.lookup id := by
  have hnew : (RunRegistry.new).get id = none := rfl
  rw [HomeContent.loadFromDisk, H.get_foldl_readMeta, hnew, Option.or_none]
  by_cases hid : id ∈ dirs
  · exact if_pos hid
  · have hnone : files (.metaJson id) = none := by
      by_contra h
      exact hid (hdirs id h)
    rw [if_neg hid, ← H.runs id, HomeContent.readMeta, hnone, Option.bind_none]

end ReadFrom

end SavedState

/-- At every moment, what the daemon reads back is what the writes that were renamed have saved, in
their order. -/
theorem saved_files_read_back (time : Serde DateTime)
    {s s' : ReplacedFiles HomeWrite HomeFile UInt8} {st : SavedState}
    {es : List (ReplaceEvent HomeWrite)} (hquiet : s.Quiet) (hstart : st.ReadFrom time s.content)
    (hrun : exec (ReplacedFiles.step (homeWrites time)) s es = some s')
    (happart : Along (ReplacedFiles.step (homeWrites time))
      (ReplacedFiles.Apart (homeWrites time)) s es)
    (hfit : ∀ w ∈ yields (ReplacedFiles.step (homeWrites time)) ReplacedFiles.renamed s es, w.Fits)
    {dirs : List String} (hdirs : ∀ dir, s'.content (.metaJson dir) ≠ none → dir ∈ dirs) :
    let saved := (yields (ReplacedFiles.step (homeWrites time)) ReplacedFiles.renamed s es).foldl
      SavedState.write st
    saved.ReadFrom time s'.content ∧
      ∀ id, (HomeContent.loadFromDisk time s'.content dirs).get id =
        saved.home.runs.metas.lookup id := by
  intro saved
  have hcontent : ∀ f, (∀ w, (homeWrites time).tmp w ≠ f) → s'.content f =
      (homeWrites time).saved s.content
        (yields (ReplacedFiles.step (homeWrites time)) ReplacedFiles.renamed s es) f := by
    intro f hf
    exact ReplacedFiles.content_of_run hquiet hrun happart hf
  have hread : saved.ReadFrom time s'.content := by
    apply (hstart.saved hfit).congr
    · exact fun dir => hcontent _ (tmp_ne_metaJson time dir)
    · exact hcontent _ fun w => by cases w <;> simp [homeWrites]
    · exact hcontent _ fun w => by cases w <;> simp [homeWrites]
  exact ⟨hread, hread.get_loadFromDisk hdirs⟩

/-- A first write that is done, and a second one that is killed on the way. -/
def doneAndKilled (w w' : HomeWrite) : List (ReplaceEvent HomeWrite) :=
  [.create w, .write 0 ((homeWrites .int).text w).length, .rename 0] ++
    [.create w', .write 0 7, .kill]

/-- The status of a run is the old one after the write of the new one was killed. -/
theorem first_write_read_back :
    let entry := RunEntry.enqueued (.plain "a1b2c3d4" "/repo/plan.md" "/repo")
    let s : ReplacedFiles HomeWrite HomeFile UInt8 := ⟨fun _ => none, fun _ => [], 0, []⟩
    ∃ s', exec (ReplacedFiles.step (homeWrites .int)) s
        (doneAndKilled (.writeMeta entry) (.writeMeta { entry with status := .failed })) = some s' ∧
      (HomeContent.loadFromDisk .int s'.content ["a1b2c3d4"]).get "a1b2c3d4" = some entry := by
  intro entry s
  generalize hw' : HomeWrite.writeMeta { entry with status := .failed } = w'
  have hwriters : s.writers = [] := rfl
  obtain ⟨t, hfirst, ht, hdone, hapart⟩ :=
    ReplacedFiles.exec_alone (r := homeWrites .int) hwriters (.writeMeta entry)
  obtain ⟨u, hsecond, hnone, hapart'⟩ :=
    ReplacedFiles.exec_killed (r := homeWrites .int) ht w' 7
  have hrun : exec (ReplacedFiles.step (homeWrites .int)) s
      (doneAndKilled (.writeMeta entry) w') = some u := exec_append.mpr ⟨t, hfirst, hsecond⟩
  have happart : Along (ReplacedFiles.step (homeWrites .int))
      (ReplacedFiles.Apart (homeWrites .int)) s (doneAndKilled (.writeMeta entry) w') :=
    (Along.append hfirst).mpr ⟨hapart, hapart'⟩
  have hyields : yields (ReplacedFiles.step (homeWrites .int)) ReplacedFiles.renamed s
      (doneAndKilled (.writeMeta entry) w') = [.writeMeta entry] := by
    rw [doneAndKilled, yields_append hfirst, hdone, hnone, List.append_nil]
  have hfits : ∀ w ∈ [HomeWrite.writeMeta entry], w.Fits := by
    intro w hw
    obtain rfl := List.mem_singleton.mp hw
    exact Nat.two_pow_pos 64
  have hquiet : s.Quiet := ⟨rfl, by simp [s], by simp [s]⟩
  have hdirs : ∀ dir, u.content (.metaJson dir) ≠ none → dir ∈ ["a1b2c3d4"] := by
    intro dir hdir
    rw [ReplacedFiles.content_of_run hquiet hrun happart (tmp_ne_metaJson .int dir), hyields]
      at hdir
    by_contra hne
    have htarget : HomeFile.metaJson dir ≠ (homeWrites .int).target (.writeMeta entry) := by
      intro heq
      exact hne (List.mem_singleton.mpr (HomeFile.metaJson.inj heq))
    exact hdir (Function.update_of_ne htarget _ _)
  have hread := (saved_files_read_back .int hquiet SavedState.readFrom_init hrun happart
    (by rw [hyields]; exact hfits) hdirs).2 "a1b2c3d4"
  refine ⟨u, hrun, hread.trans ?_⟩
  rw [hyields]
  exact AList.lookup_insert _

end GreaterWill
