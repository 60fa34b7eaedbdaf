import GreaterWill.Daemon.Protocol
import GreaterWill.Daemon.Schedule

/-!
# Saving the schedules

`save` and `load` of `daemon/schedule.rs`. A save serializes the entries, writes them to a sibling
of the file, syncs it and renames it into place, and each of these steps can fail. An operation on
the entries changes them in memory first and saves them then, and the change stays when the save
fails. A load validates the paths of the Active entries again, and saves what it has changed.
-/

namespace GreaterWill

/-- The file of the schedules and its `.json.tmp` sibling. -/
structure ScheduleFiles where
  file : Option (List UInt8)
  tmp : Option (List UInt8)
  deriving DecidableEq

/-- The file step of `save` that fails. -/
inductive SaveFault where
  | create
  /-- `write_all` after some of the bytes. -/
  | write (written : Nat)
  | sync
  | rename
  deriving DecidableEq, Repr

/-- `validate_repo_dir`. -/
def validateRepoDir (host : Host) (repoDir : PathBuf) : Except String PathBuf :=
  if PathBuf.Component.parentDir ∈ PathBuf.components repoDir then
    .error "repo_dir contains '..' component"
  else
    match host.canonicalize repoDir with
    | none => .error s!"repo_dir does not exist: {repoDir}"
    | some canonical => .ok canonical

/-- `validate_plan_path`. -/
def validatePlanPath (host : Host) (planPath allowedRoot : PathBuf) : Except String PathBuf :=
  if PathBuf.Component.parentDir ∈ PathBuf.components planPath then
    .error "plan_path contains '..' component"
  else
    match host.canonicalize planPath with
    | none => .error s!"plan_path does not exist: {planPath}"
    | some canonical =>
      if (PathBuf.components allowedRoot).isPrefixOf (PathBuf.components canonical) then
        .ok canonical
      else .error s!"plan_path {canonical} is outside allowed root {allowedRoot}"

/-- The repository and the plan of an entry, validated. -/
def ScheduleEntry.validPaths (host : Host) (entry : ScheduleEntry) :
    Except String (PathBuf × PathBuf) :=
  match validateRepoDir host entry.repoDir with
  | .error e => .error e
  | .ok repo =>
    match validatePlanPath host entry.planPath repo with
    | .error e => .error e
    | .ok plan => .ok (repo, plan)

/-- An entry after the migration that follows a load, and whether it has been changed. -/
def ScheduleEntry.migrate (host : Host) (entry : ScheduleEntry) : ScheduleEntry × Bool :=
  if entry.status ≠ .active then (entry, false)
  else
    match entry.validPaths host with
    | .ok (repo, plan) =>
      if PathBuf.eqPath entry.repoDir repo && PathBuf.eqPath entry.planPath plan then (entry, false)
      else ({ entry with repoDir := repo, planPath := plan }, true)
    | .error e =>
      ({ entry with
        status := .rejected
        lastError := some s!"load migration validation failed: {e}" }, true)

section
variable (serde : SerdeJson (Map String ScheduleEntry) String) (host : Host) (path : PathBuf)

namespace ScheduleRegistry

def save (r : ScheduleRegistry) (fault : Option SaveFault) (files : ScheduleFiles) :
    Except String Unit × ScheduleFiles :=
  match serde.toVec r.entries with
  | .error _ => (.error "failed to serialize schedule registry", files)
  | .ok json =>
    let tmpPath := PathBuf.withExtension path "json.tmp"
    match fault with
    | some .create =>
      (.error s!"failed to create schedule registry tempfile at {tmpPath}", files)
    | some (.write written) =>
      (.error s!"failed to write schedule registry tempfile at {tmpPath}",
        { files with tmp := some (json.take written) })
    | some .sync =>
      (.error s!"failed to fsync schedule registry tempfile at {tmpPath}",
        { files with tmp := some json })
    | some .rename =>
      (.error s!"failed to atomically rename schedule registry into {path}",
        { files with tmp := some json })
    | none => (.ok (), { file := some json, tmp := none })

/-- A save of the migrated entries that fails is only logged. -/
def load (fault : Option SaveFault) (files : ScheduleFiles) :
    Except String ScheduleRegistry × ScheduleFiles :=
  match files.file with
  | none => (.ok .new, files)
  | some bytes =>
    match serde.fromSlice bytes with
    | .error _ => (.error s!"failed to parse schedule registry at {path}", files)
    | .ok entries =>
      let registry : ScheduleRegistry := { entries := entries.mapVals fun e => (e.migrate host).1 }
      let dirty := entries.entries.any fun e => (e.2.migrate host).2
      (.ok registry, if dirty then (registry.save serde path fault files).2 else files)

/-- The two registries have the same entries. -/
def SameEntries (r r' : ScheduleRegistry) : Prop := ∀ id, r.get id = r'.get id

end ScheduleRegistry

/-- A call of one of the five operations. -/
inductive ScheduleCall where
  | add (entry : ScheduleEntry)
  | remove (id : String)
  | pause (id : String)
  | resume (id : String) (now : DateTime)
  | recordFired (id : String) (now : DateTime)
  deriving DecidableEq

namespace ScheduleCall

variable (cron : String → DateTime → Option DateTime) (r : ScheduleRegistry)

/-- The operation, with what its save returns. -/
def run (save : Except String Unit) : ScheduleCall → Except String Unit × ScheduleRegistry
  | .add entry => ((r.add entry save).1.map fun _ => (), (r.add entry save).2)
  | .remove id => r.remove id save
  | .pause id => r.pause id save
  | .resume id now => r.resume cron id now save
  | .recordFired id now => r.recordFired cron id now save

/-- The operation comes to its save: it needs no entry, or there is one. -/
def ReachesSave : ScheduleCall → Prop
  | .add _ => True
  | .remove id | .pause id | .resume id _ | .recordFired id _ => (r.get id).isSome = true

instance : ∀ c : ScheduleCall, Decidable (c.ReachesSave r)
  | .add _ => inferInstanceAs (Decidable True)
  | .remove id | .pause id | .resume id _ | .recordFired id _ =>
    inferInstanceAs (Decidable ((r.get id).isSome = true))

/-- The operation writes what is there already. A removal and a firing never do. -/
def Idle : ScheduleCall → Prop
  | .add entry => r.get entry.id = some entry
  | .remove id | .recordFired id _ => r.get id = none
  | .pause id => ∀ e ∈ r.get id, e.status = .paused ∧ e.nextFire = none
  | .resume id now =>
    ∀ e ∈ r.get id, e.status = .active ∧ e.nextFire = computeNextFire cron e.kind now

instance : ∀ c : ScheduleCall, Decidable (c.Idle cron r)
  | .add entry => inferInstanceAs (Decidable (r.get entry.id = some entry))
  | .remove id | .recordFired id _ => inferInstanceAs (Decidable (r.get id = none))
  | .pause id =>
    inferInstanceAs (Decidable (∀ e ∈ r.get id, e.status = .paused ∧ e.nextFire = none))
  | .resume id now =>
    inferInstanceAs (Decidable (∀ e ∈ r.get id,
      e.status = .active ∧ e.nextFire = computeNextFire cron e.kind now))

end ScheduleCall

/-- The registry in memory and the files. -/
structure ScheduleStore where
  registry : ScheduleRegistry
  files : ScheduleFiles

namespace ScheduleStore

/-- One call, with the file step that fails if it comes to its save. -/
def perform (cron : String → DateTime → Option DateTime) (s : ScheduleStore) (c : ScheduleCall)
    (fault : Option SaveFault) : Except String Unit × ScheduleStore :=
  -- the entries that the call saves are those it leaves in memory
  let changed := (c.run cron s.registry (.ok ())).2
  let saved := changed.save serde path fault s.files
  let res := c.run cron s.registry saved.1
  (res.1, { registry := res.2, files := if c.ReachesSave s.registry then saved.2 else s.files })

/-- The call returns an error, and it is the save that failed. -/
structure SaveFails (cron : String → DateTime → Option DateTime) (s : ScheduleStore)
    (c : ScheduleCall) (fault : Option SaveFault) : Prop where
  reached : c.ReachesSave s.registry
  failed : ∃ text, (s.perform serde path cron c fault).1 = .error text

/-- The entries in memory are as before, and the ones a load gives are the same. -/
structure Restored (s s' : ScheduleStore) : Prop where
  memory : s'.registry.SameEntries s.registry
  disk : ∀ fault, ∃ r, (ScheduleRegistry.load serde host path fault s'.files).1 = .ok r ∧
    r.SameEntries s'.registry

/-- The file has the entries that are in memory, up to what the migration makes of them. -/
def FileHolds (s : ScheduleStore) : Prop :=
  match s.files.file with
  | none => ∀ id, s.registry.get id = none
  | some bytes => ∃ entries, serde.fromSlice bytes = .ok entries ∧
    ∀ id, s.registry.get id = (entries.lookup id).map fun e => (e.migrate host).1

end ScheduleStore

end

section
variable {serde : SerdeJson (Map String ScheduleEntry) String} {host : Host} {path : PathBuf}
  {cron : String → DateTime → Option DateTime} {r : ScheduleRegistry} {c : ScheduleCall}
  {e : ScheduleEntry} {id : String} {fault : Option SaveFault} {files : ScheduleFiles}
  {text : String}

/-! ## What a save leaves -/

namespace ScheduleRegistry

theorem SameEntries.symm {r r' : ScheduleRegistry} (h : r.SameEntries r') : r'.SameEntries r :=
  fun id => (h id).symm

theorem SameEntries.trans {r₁ r₂ r₃ : ScheduleRegistry} (h₁ : r₁.SameEntries r₂)
    (h₂ : r₂.SameEntries r₃) : r₁.SameEntries r₃ :=
  fun id => (h₁ id).trans (h₂ id)

/-- Until the rename the file is the previous one. -/
theorem file_save_of_error (h : (r.save serde path fault files).1 = .error text) :
    (r.save serde path fault files).2.file = files.file := by
  revert h
  unfold save
  cases serde.toVec r.entries with
  | error e => exact fun _ => rfl
  | ok json =>
    cases fault with
    | none =>
      intro h
      cases h
    | some fault => cases fault <;> exact fun _ => rfl

/-- A save that succeeds has written the entries. -/
theorem file_save_of_ok (h : (r.save serde path fault files).1 = .ok ()) :
    ∃ json, serde.toVec r.entries = .ok json ∧
      (r.save serde path fault files).2.file = some json := by
  revert h
  unfold save
  cases serde.toVec r.entries with
  | error e =>
    intro h
    cases h
  | ok json =>
    cases fault with
    | none => exact fun _ => ⟨json, rfl, rfl⟩
    | some fault =>
      intro h
      cases fault <;> cases h

theorem load_of_file {files files' : ScheduleFiles} (h : files'.file = files.file)
    (fault fault' : Option SaveFault) :
    (load serde host path fault' files').1 = (load serde host path fault files).1 := by
  unfold load
  rw [h]
  cases files.file with
  | none => rfl
  | some bytes =>
    dsimp only
    cases serde.fromSlice bytes with
    | error e => rfl
    | ok entries => rfl

end ScheduleRegistry

open ScheduleRegistry

/-- A load gives the entries in memory exactly if the file holds them. -/
theorem ScheduleStore.fileHolds_iff {s : ScheduleStore} :
    (∃ r, (load serde host path fault s.files).1 = .ok r ∧ r.SameEntries s.registry) ↔
      s.FileHolds serde host := by
  unfold load FileHolds
  cases s.files.file with
  | none =>
    constructor
    · intro ⟨r, hr, hsame⟩ id
      cases hr
      exact (hsame id).symm
    · intro h
      exact ⟨.new, rfl, fun id => (h id).symm⟩
  | some bytes =>
    dsimp only
    cases serde.fromSlice bytes with
    | error e =>
      constructor
      · intro ⟨r, hr, _⟩
        cases hr
      · intro ⟨entries, hentries, _⟩
        cases hentries
    | ok entries =>
      constructor
      · intro ⟨r, hr, hsame⟩
        cases hr
        refine ⟨entries, rfl, fun id => (hsame id).symm.trans ?_⟩
        exact AList.lookup_mapVals _ entries id
      · intro ⟨entries', hentries, hget⟩
        cases hentries
        refine ⟨_, rfl, fun id => ?_⟩
        rw [hget id]
        exact AList.lookup_mapVals _ entries id

/-! ## What an operation leaves -/

theorem get_remove_eq (save : Except String Unit) (id' : String) :
    (r.remove id save).2.get id' = if id' = id then none else r.get id' := by
  unfold ScheduleRegistry.remove
  cases h : r.get id with
  | none =>
    dsimp only
    split
    · rename_i hid
      rw [hid, h]
    · rfl
  | some e =>
    show (r.entries.erase id).lookup id' = _
    by_cases hid : id' = id
    · rw [if_pos hid, hid]
      exact AList.lookup_erase id r.entries
    · rw [if_neg hid]
      exact AList.lookup_erase_ne hid

theorem modify_snd (save save' : Except String Unit) (f : ScheduleEntry → ScheduleEntry) :
    (r.modify id save f).2 = (r.modify id save' f).2 := by
  unfold ScheduleRegistry.modify
  cases r.get id <;> rfl

theorem modify_fst (h : (r.get id).isSome = true) (save : Except String Unit)
    (f : ScheduleEntry → ScheduleEntry) : (r.modify id save f).1 = save := by
  obtain ⟨e, he⟩ := Option.isSome_iff_exists.mp h
  unfold ScheduleRegistry.modify
  rw [he]

/-- A change of one entry leaves the entries as they are exactly if it leaves that one. -/
theorem sameEntries_modify_iff {save : Except String Unit} {f : ScheduleEntry → ScheduleEntry} :
    (r.modify id save f).2.SameEntries r ↔ ∀ e ∈ r.get id, f e = e := by
  constructor
  · intro h e he
    have hself := h id
    rw [get_modify_self he, he] at hself
    exact Option.some.inj hself
  · intro h id'
    rw [get_modify]
    split
    · rename_i hid
      rw [hid]
      cases hget : r.get id with
      | none => rfl
      | some e => exact congrArg some (h e hget)
    · rfl

/-- A firing is counted. -/
theorem fired_ne (now : DateTime) : e.fired cron now ≠ e := by
  intro h
  have hcount : (e.fired cron now).fireCount = e.fireCount + 1 := by
    unfold ScheduleEntry.fired
    cases e.kind <;> rfl
  rw [h] at hcount
  have hmod := congrArg UInt32.toNat hcount
  rw [UInt32.toNat_add, show UInt32.toNat 1 = 1 from rfl] at hmod
  have hlt := e.fireCount.toNat_lt
  omega

theorem ScheduleEntry.with_eq_iff {status : ScheduleStatus} {nextFire : Option DateTime} :
    { e with status := status, nextFire := nextFire } = e ↔
      e.status = status ∧ e.nextFire = nextFire := by
  constructor
  · intro h
    exact ⟨(congrArg ScheduleEntry.status h).symm, (congrArg ScheduleEntry.nextFire h).symm⟩
  · rintro ⟨rfl, rfl⟩
    rfl

namespace ScheduleCall

/-- The entries in memory do not depend on what the save returns. -/
theorem run_snd (save save' : Except String Unit) :
    (c.run cron r save).2 = (c.run cron r save').2 := by
  cases c with
  | add entry => rfl
  | remove id =>
    show (r.remove id save).2 = (r.remove id save').2
    unfold ScheduleRegistry.remove
    cases r.get id <;> rfl
  | pause | resume | recordFired => exact modify_snd save save' _

/-- A call that comes to its save returns what the save returns. -/
theorem run_fst (h : c.ReachesSave r) (save : Except String Unit) :
    (c.run cron r save).1 = save := by
  cases c with
  | add entry => cases save <;> rfl
  | remove id =>
    obtain ⟨e, he⟩ := Option.isSome_iff_exists.mp h
    show (r.remove id save).1 = save
    unfold ScheduleRegistry.remove
    rw [he]
  | pause | resume | recordFired => exact modify_fst h save _

theorem sameEntries_run_iff {save : Except String Unit} :
    (c.run cron r save).2.SameEntries r ↔ c.Idle cron r := by
  cases c with
  | add entry =>
    constructor
    · intro h
      have hself := h entry.id
      rw [show (run cron r save (.add entry)).2 = (r.add entry save).2 from rfl, get_add,
        if_pos rfl] at hself
      exact hself.symm
    · intro h id
      show (r.add entry save).2.get id = r.get id
      rw [get_add]
      split
      · rename_i hid
        rw [hid]
        exact h.symm
      · rfl
  | remove id =>
    constructor
    · intro h
      have hself := h id
      rw [show (run cron r save (.remove id)).2 = (r.remove id save).2 from rfl, get_remove_eq,
        if_pos rfl] at hself
      exact hself.symm
    · intro h id'
      show (r.remove id save).2.get id' = r.get id'
      rw [get_remove_eq]
      split
      · rename_i hid
        rw [hid]
        exact h.symm
      · rfl
  | pause id =>
    exact sameEntries_modify_iff.trans (forall₂_congr fun e _ => ScheduleEntry.with_eq_iff)
  | resume id now =>
    exact sameEntries_modify_iff.trans (forall₂_congr fun e _ => ScheduleEntry.with_eq_iff)
  | recordFired id now =>
    refine sameEntries_modify_iff.trans ⟨fun h => ?_, fun h e he => ?_⟩
    · exact Option.eq_none_iff_forall_ne_some.mpr fun e he => fired_ne now (h e he)
    · rw [show r.get id = none from h] at he
      cases he

end ScheduleCall

namespace ScheduleStore

variable {s : ScheduleStore}

/-- After a call whose save fails the file is the previous one. -/
theorem SaveFails.file (h : s.SaveFails serde path cron c fault) :
    (s.perform serde path cron c fault).2.files.file = s.files.file := by
  obtain ⟨text, htext⟩ := h.failed
  have hsave := (c.run_fst h.reached _).symm.trans htext
  unfold perform
  dsimp only
  rw [if_pos h.reached]
  exact file_save_of_error hsave

/-- A call that reports a success has written the entries that it leaves in memory. -/
theorem file_perform_of_ok (hreached : c.ReachesSave s.registry)
    (hok : (s.perform serde path cron c fault).1 = .ok ()) :
    ∃ json, serde.toVec (s.perform serde path cron c fault).2.registry.entries = .ok json ∧
      (s.perform serde path cron c fault).2.files.file = some json := by
  have hsave := (c.run_fst hreached _).symm.trans hok
  obtain ⟨json, hjson, hfile⟩ := file_save_of_ok hsave
  refine ⟨json, ?_, ?_⟩
  · rw [← hjson]
    exact congrArg (fun r => serde.toVec (ScheduleRegistry.entries r)) (c.run_snd _ _)
  · unfold perform
    dsimp only
    rw [if_pos hreached]
    exact hfile

theorem sameEntries_perform_iff :
    (s.perform serde path cron c fault).2.registry.SameEntries s.registry ↔
      c.Idle cron s.registry :=
  c.sameEntries_run_iff

end ScheduleStore

end

/-- A call whose save fails leaves memory as it was and as a load gives it exactly if the call
changes no entry and the file holds the entries in memory. -/
theorem ScheduleStore.restored_iff_idle
    (serde : SerdeJson (Map String ScheduleEntry) String) (host : Host) (path : PathBuf)
    (cron : String → DateTime → Option DateTime) (s : ScheduleStore) (c : ScheduleCall)
    (fault : Option SaveFault) (hfails : s.SaveFails serde path cron c fault) :
    Restored serde host path s (s.perform serde path cron c fault).2 ↔
      c.Idle cron s.registry ∧ s.FileHolds serde host := by
  constructor
  · intro h
    refine ⟨sameEntries_perform_iff.mp h.memory, ?_⟩
    obtain ⟨r, hload, hsame⟩ := h.disk none
    rw [ScheduleRegistry.load_of_file hfails.file none] at hload
    exact fileHolds_iff.mp ⟨r, hload, hsame.trans h.memory⟩
  · intro ⟨hidle, hholds⟩
    have hmemory : (s.perform serde path cron c fault).2.registry.SameEntries s.registry :=
      sameEntries_perform_iff.mpr hidle
    refine ⟨hmemory, fun fault' => ?_⟩
    have hloads : ∃ r, (ScheduleRegistry.load serde host path none s.files).1 = .ok r ∧
        r.SameEntries s.registry := fileHolds_iff.mpr hholds
    obtain ⟨r, hload, hsame⟩ := hloads
    rw [ScheduleRegistry.load_of_file hfails.file none]
    exact ⟨r, hload, hsame.trans hmemory.symm⟩

/-! ## A nightly schedule -/

private def nightly (status : ScheduleStatus) (nextFire : Option DateTime) : ScheduleEntry where
  id := "abcd1234"
  planPath := "/repo/plan.md"
  repoDir := "/repo"
  configDir := none
  verbose := 0
  kind := .cron "0 0 3 * * * *"
  status := status
  createdAt := 0
  lastFired := none
  nextFire := nextFire
  fireCount := 0
  label := none
  lastError := none

private def nightlyJson (status nextFire : String) : String :=
  "\n".intercalate [
    "\x7b",
    "  \"abcd1234\": \x7b",
    "    \"id\": \"abcd1234\",",
    "    \"plan_path\": \"/repo/plan.md\",",
    "    \"repo_dir\": \"/repo\",",
    "    \"config_dir\": null,",
    "    \"verbose\": 0,",
    "    \"kind\": \x7b",
    "      \"Cron\": \x7b",
    "        \"expression\": \"0 0 3 * * * *\"",
    "      \x7d",
    "    \x7d,",
    "    \"status\": \"" ++ status ++ "\",",
    "    \"created_at\": \"1970-01-01T00:00:00Z\",",
    "    \"last_fired\": null,",
    "    \"next_fire\": " ++ nextFire ++ ",",
    "    \"fire_count\": 0,",
    "    \"label\": null,",
    "    \"last_error\": null",
    "  \x7d",
    "\x7d"]

/-- `serde_json` as far as it deals with one entry or none. -/
private def nightlySerde (e : ScheduleEntry) (json : String) :
    SerdeJson (Map String ScheduleEntry) String where
  toVec entries :=
    .ok (if (entries.lookup e.id).isSome then json else "\x7b\x7d").toUTF8.toList
  fromSlice bytes :=
    .ok (if bytes = json.toUTF8.toList then (∅ : Map String ScheduleEntry).insert e.id e else ∅)

/-- The entry is in memory and in the file. -/
private def nightlyStore (e : ScheduleEntry) (json : String) : ScheduleStore where
  registry := { entries := (∅ : Map String ScheduleEntry).insert e.id e }
  files := { file := some json.toUTF8.toList, tmp := none }

private theorem fileHolds_nightlyStore {e : ScheduleEntry} {json : String}
    (h : (e.migrate .plain).1 = e) :
    (nightlyStore e json).FileHolds (nightlySerde e json) .plain := by
  refine ⟨(∅ : Map String ScheduleEntry).insert e.id e, congrArg _ (if_pos rfl), fun id => ?_⟩
  show ((∅ : Map String ScheduleEntry).insert e.id e).lookup id = _
  rw [AList.lookup_insert_eq_ite, AList.lookup_empty]
  split
  · exact congrArg some h.symm
  · rfl

/-- A schedule that is paused already is paused again, and the rename fails. -/
theorem ScheduleStore.restored_of_paused_again :
    Restored (nightlySerde (nightly .paused none) (nightlyJson "Paused" "null")) .plain
      "/gw/schedules.json" (nightlyStore (nightly .paused none) (nightlyJson "Paused" "null"))
      ((nightlyStore (nightly .paused none) (nightlyJson "Paused" "null")).perform
        (nightlySerde (nightly .paused none) (nightlyJson "Paused" "null")) "/gw/schedules.json"
        (fun _ _ => none) (.pause "abcd1234") (some .rename)).2 :=
  (restored_iff_idle _ _ _ _ _ (.pause "abcd1234") (some .rename) ⟨by decide, _, rfl⟩).mpr
    ⟨by decide, fileHolds_nightlyStore rfl⟩

/-- A removal whose rename fails has removed the schedule from memory and left it in the file. -/
theorem ScheduleStore.removed_in_memory_only :
    ¬ ∀ (serde : SerdeJson (Map String ScheduleEntry) String) (host : Host) (path : PathBuf)
      (cron : String → DateTime → Option DateTime) (s : ScheduleStore) (c : ScheduleCall)
      (fault : Option SaveFault), s.FileHolds serde host → s.SaveFails serde path cron c fault →
      Restored serde host path s (s.perform serde path cron c fault).2 := by
  intro hclaim
  let e := nightly .active (some 10800000000000)
  let json := nightlyJson "Active" "\"1970-01-01T03:00:00Z\""
  have hholds : (nightlyStore e json).FileHolds (nightlySerde e json) .plain :=
    fileHolds_nightlyStore (by decide)
  have hrestored := hclaim _ .plain "/gw/schedules.json" (fun _ _ => none) _ (.remove "abcd1234")
    (some .rename) hholds ⟨by decide, _, rfl⟩
  have hgone : none = some e := hrestored.memory "abcd1234"
  cases hgone

end GreaterWill
