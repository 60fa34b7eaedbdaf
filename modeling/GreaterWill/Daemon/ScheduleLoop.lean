import GreaterWill.Daemon.Schedule

/-!
# The schedule loop against the commands

`run_schedule_loop` of `daemon/schedule.rs` with the commands of `daemon/server.rs` that pause,
resume and remove a schedule. The loop takes the ready entries as clones, and then for each of them
validates the paths, starts a run and records that the schedule has fired. The schedules are locked
while they are read and while they are written, and a command may come in between. What the file
system, the executor and the clock answer comes with the step.

The world also keeps a log of the commands that found their entry, of the runs started and of the
runs that came up, the last one first; no step looks at it.
-/

namespace GreaterWill

/-- `ErrorCode` of the protocol. -/
inductive ErrorCode where
  | repoLocked
  | runNotFound
  | daemonBusy
  | invalidRequest
  | internalError
  | queueFull
  | scheduleNotFound
  deriving DecidableEq, Repr

inductive ScheduleCommand where
  | pause
  | resume (now : DateTime)
  | remove
  deriving DecidableEq, Repr

namespace ScheduleCommand

/-- What the response says was done. -/
def participle : ScheduleCommand → String
  | .pause => "paused"
  | .resume _ => "resumed"
  | .remove => "removed"

/-- The schedule is not to fire after it. -/
def stops : ScheduleCommand → Bool
  | .pause | .remove => true
  | .resume _ => false

end ScheduleCommand

section
variable (cron : String → DateTime → Option DateTime)

namespace ScheduleRegistry

private def hasPrefix (pfx id : String) : Bool := pfx.toList.isPrefixOf id.toList

/-- `find_by_prefix`: the entry whose id starts with a non-empty prefix, if there is exactly one. -/
def findByPrefix (r : ScheduleRegistry) (pfx : String) : Option ScheduleEntry :=
  if pfx = "" then none
  else
    match (r.entries.entries.map (·.2)).filter fun e => hasPrefix pfx e.id with
    | [e] => some e
    | _ => none

def command (r : ScheduleRegistry) (c : ScheduleCommand) (id : String)
    (save : Except String Unit) : Except String Unit × ScheduleRegistry :=
  match c with
  | .pause => r.pause id save
  | .resume now => r.resume cron id now save
  | .remove => r.remove id save

/-- The arms of `dispatch_request` for the commands: the response, and the schedules after it. -/
def dispatch (r : ScheduleRegistry) (c : ScheduleCommand) (id : String)
    (save : Except String Unit) : Except (ErrorCode × String) String × ScheduleRegistry :=
  match r.findByPrefix id with
  | none => (.error (.scheduleNotFound, s!"no schedule matching: {id}"), r)
  | some entry =>
    match r.command cron c entry.id save with
    | (.ok (), r') => (.ok s!"schedule {entry.id} {c.participle}", r')
    | (.error e, r') => (.error (.internalError, e), r')

/-- The validation of the paths has failed at fire time. -/
def reject (r : ScheduleRegistry) (id error : String) (save : Except String Unit) :
    Except String Unit × ScheduleRegistry :=
  r.modify id save fun entry =>
    { entry with
      status := .rejected
      lastError := some s!"fire-time validation failed: {error}" }

end ScheduleRegistry

/-- Where the loop stands. -/
inductive SchedulePoint where
  /-- Before the next of the ready entries; without one the loop waits for a tick. -/
  | ready (rest : List ScheduleEntry)
  /-- The validation has failed, which is not yet recorded. -/
  | rejecting (entry : ScheduleEntry) (error : String) (rest : List ScheduleEntry)
  /-- `spawn_run` has started. -/
  | spawning (entry : ScheduleEntry) (rest : List ScheduleEntry)
  /-- The run has come up, which is not yet recorded. -/
  | spawned (entry : ScheduleEntry) (rest : List ScheduleEntry)
  deriving DecidableEq

/-- The clones the loop still works on. -/
def SchedulePoint.clones : SchedulePoint → List ScheduleEntry
  | .ready rest => rest
  | .rejecting entry _ rest | .spawning entry rest | .spawned entry rest => entry :: rest

inductive ScheduleEvent where
  | command (id : String) (c : ScheduleCommand)
  | started (id : String)
  | fired (id : String)
  deriving DecidableEq

structure ScheduleWorld where
  registry : ScheduleRegistry
  point : SchedulePoint
  log : List ScheduleEvent

/-- The loop waits for a tick. -/
def ScheduleWorld.start (r : ScheduleRegistry) : ScheduleWorld where
  registry := r
  point := .ready []
  log := []

inductive ScheduleAction where
  /-- A tick: the ready entries, in the order in which the map gives them. -/
  | poll (now : DateTime) (ready : List ScheduleEntry)
  /-- `validate_repo_dir` and `validate_plan_path`, and the start of the run. -/
  | validate (repoDir planPath : Except String PathBuf)
  | reject (save : Except String Unit)
  /-- `spawn_run` returns. -/
  | spawned (result : Except String String)
  | recordFired (now : DateTime) (save : Except String Unit)
  | command (c : ScheduleCommand) (id : String) (save : Except String Unit)

namespace ScheduleWorld

/-- One step of the loop, or a command. -/
def step (w : ScheduleWorld) : ScheduleAction → Option ScheduleWorld
  | .poll now ready =>
    match w.point with
    | .ready [] =>
      if ready.Perm (w.registry.getReadySchedules now) then some { w with point := .ready ready }
      else none
    | _ => none
  | .validate repoDir planPath =>
    match w.point with
    | .ready (entry :: rest) =>
      match repoDir.bind fun _ => planPath with
      | .error e => some { w with point := .rejecting entry e rest }
      | .ok _ =>
        some { w with point := .spawning entry rest, log := .started entry.id :: w.log }
    | _ => none
  | .reject save =>
    match w.point with
    | .rejecting entry e rest =>
      some { w with registry := (w.registry.reject entry.id e save).2, point := .ready rest }
    | _ => none
  | .spawned result =>
    match w.point with
    | .spawning entry rest =>
      match result with
      | .ok _ => some { w with point := .spawned entry rest, log := .fired entry.id :: w.log }
      -- only logged: the entry stays ready
      | .error _ => some { w with point := .ready rest }
    | _ => none
  | .recordFired now save =>
    match w.point with
    | .spawned entry rest =>
      some { w with
        registry := (w.registry.recordFired cron entry.id now save).2, point := .ready rest }
    | _ => none
  | .command c id save =>
    match w.registry.findByPrefix id with
    | none => some w
    | some entry =>
      some { w with
        registry := (w.registry.dispatch cron c id save).2
        log := .command entry.id c :: w.log }

end ScheduleWorld

end

/-! ## What a firing owes to the commands -/

/-- The last command on an entry. -/
def lastCommand (id : String) : List ScheduleEvent → Option ScheduleCommand
  | .command id' c :: log => if id' = id then some c else lastCommand id log
  | .started _ :: log | .fired _ :: log => lastCommand id log
  | [] => none

/-- The last command on an entry paused or removed it. -/
def isStopped (id : String) (log : List ScheduleEvent) : Bool :=
  (lastCommand id log).any (·.stops)

/-- No run was started for an entry that was paused or removed. -/
def StartsRespect : List ScheduleEvent → Prop
  | .started id :: log => isStopped id log = false ∧ StartsRespect log
  | .command _ _ :: log | .fired _ :: log => StartsRespect log
  | [] => True

/-- The claims of the commands on a state that was reached from the schedules `r₀`: no run was
started for an entry that was paused or removed; when no step of the loop is left a Paused entry has
no time to fire; an entry that is to fire once has fired at most once, and not again if it had fired
before. -/
structure CommandsRespected (r₀ : ScheduleRegistry) (w : ScheduleWorld) : Prop where
  started : StartsRespect w.log
  paused : w.point = .ready [] →
    ∀ id e, w.registry.get id = some e → e.status = .paused → e.nextFire = none
  once : ∀ id e, r₀.get id = some e → e.kind.isOnce = true →
    w.log.count (.fired id) ≤ if e.lastFired.isSome then 0 else 1

/-- No command comes between: a run is started for an entry that is still there and Active; a cron
schedule that has fired is not Paused when that is recorded, or has no next time; an entry that has
fired once is not resumed before its time. -/
def ScheduleWorld.Undisturbed (cron : String → DateTime → Option DateTime) (w : ScheduleWorld) :
    ScheduleAction → Prop
  | .validate repoDir planPath =>
    (repoDir.bind fun _ => planPath).isOk = true → ∀ entry ∈ w.point.clones.head?,
      (w.registry.get entry.id).any (·.status = .active) = true
  | .recordFired now _ =>
    ∀ entry ∈ w.point.clones.head?, ∀ e ∈ w.registry.get entry.id,
      e.status = .paused → e.kind.isOnce = false → computeNextFire cron e.kind now = none
  | .command (.resume now) id _ =>
    ∀ e ∈ w.registry.findByPrefix id, e.lastFired.isSome = true → e.kind.isOnce = true →
      computeNextFire cron e.kind now = none
  | .poll _ _ | .reject _ | .spawned _ | .command .pause _ _ | .command .remove _ _ => True

instance ScheduleWorld.Undisturbed.decidable (cron : String → DateTime → Option DateTime)
    (w : ScheduleWorld) : ∀ a, Decidable (w.Undisturbed cron a)
  | .validate repoDir planPath =>
    inferInstanceAs (Decidable ((repoDir.bind fun _ => planPath).isOk = true →
      ∀ entry ∈ w.point.clones.head?, (w.registry.get entry.id).any (·.status = .active) = true))
  | .recordFired now _ =>
    inferInstanceAs (Decidable (∀ entry ∈ w.point.clones.head?, ∀ e ∈ w.registry.get entry.id,
      e.status = .paused → e.kind.isOnce = false → computeNextFire cron e.kind now = none))
  | .command (.resume now) id _ =>
    inferInstanceAs (Decidable (∀ e ∈ w.registry.findByPrefix id, e.lastFired.isSome = true →
      e.kind.isOnce = true → computeNextFire cron e.kind now = none))
  | .poll _ _ | .reject _ | .spawned _ | .command .pause _ _ | .command .remove _ _ =>
    inferInstanceAs (Decidable True)

/-- Schedules at rest: an entry is kept under its id, a Paused entry has no time to fire, and an
entry that is to fire once has none after it has fired. -/
structure ScheduleRegistry.Settled (r : ScheduleRegistry) : Prop where
  keyed : ∀ id e, r.get id = some e → e.id = id
  paused : ∀ id e, r.get id = some e → e.status = .paused → e.nextFire = none
  fired : ∀ id e, r.get id = some e → e.kind.isOnce = true → e.lastFired.isSome = true →
    e.nextFire = none

/-! ## The schedules -/

namespace ScheduleRegistry
variable {cron : String → DateTime → Option DateTime} {r : ScheduleRegistry}
  {id id' pfx : String} {e e' entry : ScheduleEntry} {c : ScheduleCommand}
  {save : Except String Unit}

theorem get_of_findByPrefix (hkeyed : ∀ id e, r.get id = some e → e.id = id)
    (h : r.findByPrefix pfx = some entry) : r.get entry.id = some entry := by
  unfold findByPrefix at h
  split at h
  · cases h
  · split at h
    · next e heq =>
      cases h
      have hmem : entry ∈ (r.entries.entries.map (·.2)).filter fun e => hasPrefix pfx e.id := by
        rw [heq]
        exact List.mem_singleton_self entry
      obtain ⟨⟨key, e⟩, hentry, rfl⟩ := List.mem_map.mp (List.mem_filter.mp hmem).1
      have hget : r.get key = some e := AList.mem_entries_iff.mp hentry
      rwa [hkeyed key e hget]
    · cases h

theorem get_remove_self : (r.remove id save).2.get id = none := by
  unfold remove
  split
  · assumption
  · exact AList.lookup_erase _ _

theorem dispatch_snd (h : r.findByPrefix pfx = some entry) :
    (r.dispatch cron c pfx save).2 = (r.command cron c entry.id save).2 := by
  rw [dispatch, h]
  dsimp only
  split <;> next heq => rw [heq]

/-- An entry after a command. -/
theorem get_command_cases (h : (r.command cron c id' save).2.get id = some e') :
    (id ≠ id' ∧ r.get id = some e') ∨
      id = id' ∧ ∃ e, r.get id = some e ∧
        ((c = .pause ∧ e' = { e with status := .paused, nextFire := none }) ∨
          ∃ now, c = .resume now ∧
            e' = { e with status := .active, nextFire := computeNextFire cron e.kind now }) := by
  cases c with
  | pause =>
    rcases get_modify_cases h with ⟨rfl, e, he, rfl⟩ | hother
    · exact .inr ⟨rfl, e, he, .inl ⟨rfl, rfl⟩⟩
    · exact .inl hother
  | resume now =>
    rcases get_modify_cases h with ⟨rfl, e, he, rfl⟩ | hother
    · exact .inr ⟨rfl, e, he, .inr ⟨now, rfl, rfl⟩⟩
    · exact .inl hother
  | remove =>
    by_cases hid : id = id'
    · rw [hid] at h
      rw [command, get_remove_self] at h
      cases h
    · exact .inl ⟨hid, get_remove h⟩

/-- The ready entries have different ids. -/
theorem nodup_getReadySchedules (hkeyed : ∀ id e, r.get id = some e → e.id = id) (now : DateTime) :
    ((r.getReadySchedules now).map (·.id)).Nodup := by
  have hkeys : (r.entries.entries.map (·.2)).map (·.id) = r.entries.keys := by
    rw [List.map_map]
    refine List.map_congr_left ?_
    rintro ⟨key, e⟩ hmem
    exact hkeyed key e (AList.mem_entries_iff.mp hmem)
  have hsub : ((r.getReadySchedules now).map (·.id)).Sublist
      ((r.entries.entries.map (·.2)).map (·.id)) := List.filter_sublist.map _
  rw [hkeys] at hsub
  exact hsub.nodup r.entries.keys_nodup

theorem fired_kind (now : DateTime) : (e.fired cron now).kind = e.kind := by
  unfold ScheduleEntry.fired
  cases hkind : e.kind <;> rfl

theorem fired_id (now : DateTime) : (e.fired cron now).id = e.id := by
  unfold ScheduleEntry.fired
  cases hkind : e.kind <;> rfl

theorem fired_lastFired (now : DateTime) : (e.fired cron now).lastFired = some now := by
  unfold ScheduleEntry.fired
  cases hkind : e.kind <;> rfl

end ScheduleRegistry

/-! ## The log -/

section
variable {id id' : String} {log : List ScheduleEvent} {c : ScheduleCommand}

@[simp] theorem isStopped_started : isStopped id (.started id' :: log) = isStopped id log := rfl

@[simp] theorem isStopped_fired : isStopped id (.fired id' :: log) = isStopped id log := rfl

theorem isStopped_command : isStopped id (.command id' c :: log) =
    if id' = id then c.stops else isStopped id log := by
  unfold isStopped
  rw [lastCommand]
  split <;> rfl

theorem count_fired_self :
    (ScheduleEvent.fired id :: log).count (.fired id) = log.count (.fired id) + 1 :=
  List.count_cons_self

theorem count_fired_of_ne (h : id' ≠ id) :
    (ScheduleEvent.fired id' :: log).count (.fired id) = log.count (.fired id) :=
  List.count_cons_of_ne fun heq => h (ScheduleEvent.fired.inj heq)

theorem count_fired_started :
    (ScheduleEvent.started id' :: log).count (.fired id) = log.count (.fired id) :=
  List.count_cons_of_ne fun heq => ScheduleEvent.noConfusion heq

theorem count_fired_command :
    (ScheduleEvent.command id' c :: log).count (.fired id) = log.count (.fired id) :=
  List.count_cons_of_ne fun heq => ScheduleEvent.noConfusion heq

end

/-! ## The invariant -/

/-- The one firing of an entry that is to fire once: it is still to come, it is being recorded, or
it has been. -/
inductive Turn (w : ScheduleWorld) (id : String) (e₀ : ScheduleEntry) : Prop
  | ahead (hcount : w.log.count (.fired id) = 0) (hnew : e₀.lastFired.isSome = false)
      (hpoint : ∀ entry rest, w.point = .spawned entry rest → entry.id ≠ id)
  | now (entry : ScheduleEntry) (rest : List ScheduleEntry) (hpoint : w.point = .spawned entry rest)
      (hid : entry.id = id) (hcount : w.log.count (.fired id) = 1)
      (hnew : e₀.lastFired.isSome = false)
  | past (hclones : id ∉ w.point.clones.map (·.id))
      (hcount : w.log.count (.fired id) ≤ if e₀.lastFired.isSome then 0 else 1)
      (hspent : ∀ e, w.registry.get id = some e → e.lastFired.isSome = true ∧ e.nextFire = none)

theorem Turn.count_le {w : ScheduleWorld} {id : String} {e₀ : ScheduleEntry} (h : Turn w id e₀) :
    w.log.count (.fired id) ≤ if e₀.lastFired.isSome then 0 else 1 := by
  cases h with
  | ahead hcount hnew hpoint => simp [hcount, hnew]
  | now entry rest hpoint hid hcount hnew => simp [hcount, hnew]
  | past hclones hcount hspent => exact hcount

/-- What holds in every state of an undisturbed run from the schedules `r₀`. -/
structure LoopInv (r₀ : ScheduleRegistry) (w : ScheduleWorld) : Prop where
  keyed : ∀ id e, w.registry.get id = some e → e.id = id
  kept : ∀ id e, w.registry.get id = some e → ∃ e₀, r₀.get id = some e₀ ∧ e₀.kind = e.kind
  distinct : (w.point.clones.map (·.id)).Nodup
  started : StartsRespect w.log
  stopped : ∀ id, isStopped id w.log = true → ∀ e, w.registry.get id = some e → e.status ≠ .active
  paused : ∀ id e, w.registry.get id = some e → e.status = .paused → e.nextFire = none
  turn : ∀ id e₀, r₀.get id = some e₀ → e₀.kind.isOnce = true → Turn w id e₀

namespace LoopInv
variable {cron : String → DateTime → Option DateTime} {r₀ : ScheduleRegistry} {w w' : ScheduleWorld}

theorem start (h : r₀.Settled) : LoopInv r₀ (.start r₀) where
  keyed := h.keyed
  kept _ e hget := ⟨e, hget, rfl⟩
  distinct := List.nodup_nil
  started := True.intro
  stopped _ hstopped := nomatch hstopped
  paused := h.paused
  turn := by
    intro id e₀ hget honce
    cases hfired : e₀.lastFired.isSome with
    | false =>
      refine .ahead List.count_nil hfired ?_
      intro entry rest hpoint
      cases hpoint
    | true =>
      refine .past List.not_mem_nil (Nat.zero_le _) ?_
      intro e hget'
      obtain rfl : e₀ = e := Option.some.inj (hget.symm.trans hget')
      exact ⟨hfired, h.fired id e₀ hget honce hfired⟩

theorem commandsRespected (h : LoopInv r₀ w) : CommandsRespected r₀ w where
  started := h.started
  paused _ := h.paused
  once id e hget honce := (h.turn id e hget honce).count_le

/-- The ready entries are taken. -/
theorem poll {now : DateTime} {ready : List ScheduleEntry} (h : LoopInv r₀ w)
    (hpoint : w.point = .ready []) (hperm : ready.Perm (w.registry.getReadySchedules now)) :
    LoopInv r₀ { w with point := .ready ready } where
  keyed := h.keyed
  kept := h.kept
  distinct :=
    (hperm.map (·.id)).nodup_iff.mpr (ScheduleRegistry.nodup_getReadySchedules h.keyed now)
  started := h.started
  stopped := h.stopped
  paused := h.paused
  turn := by
    intro id e₀ hget honce
    cases h.turn id e₀ hget honce with
    | ahead hcount hnew hpoint' =>
      refine .ahead hcount hnew ?_
      intro entry rest hpoint''
      cases hpoint''
    | now entry rest hpoint' =>
      rw [hpoint] at hpoint'
      cases hpoint'
    | past hclones hcount hspent =>
      refine .past ?_ hcount hspent
      intro hmem
      obtain ⟨e, he, rfl⟩ := List.mem_map.mp hmem
      obtain ⟨⟨key, hkey⟩, hready⟩ :=
        ScheduleRegistry.mem_getReadySchedules.mp (hperm.mem_iff.mp he)
      obtain rfl := h.keyed key e hkey
      -- an entry that has fired once has no time to fire
      unfold ScheduleRegistry.isReady at hready
      rw [(hspent e hkey).2, Option.any_none, Bool.and_false] at hready
      cases hready

/-- The loop goes to another point with the same clones; what is written to the log is no
firing. -/
theorem move {point : SchedulePoint} {log : List ScheduleEvent} (h : LoopInv r₀ w)
    (hpoint : ∀ entry rest, w.point ≠ .spawned entry rest)
    (hpoint' : ∀ entry rest, point ≠ .spawned entry rest)
    (hclones : (point.clones.map (·.id)).Sublist (w.point.clones.map (·.id)))
    (hcount : ∀ id, log.count (.fired id) = w.log.count (.fired id))
    (hstopped : ∀ id, isStopped id log = isStopped id w.log) (hstarted : StartsRespect log) :
    LoopInv r₀ { w with point, log } where
  keyed := h.keyed
  kept := h.kept
  distinct := hclones.nodup h.distinct
  started := hstarted
  stopped id hstop := h.stopped id ((hstopped id).symm.trans hstop)
  paused := h.paused
  turn := by
    intro id e₀ hget honce
    cases h.turn id e₀ hget honce with
    | ahead hzero hnew _ =>
      exact .ahead ((hcount id).trans hzero) hnew fun entry rest hp =>
        absurd hp (hpoint' entry rest)
    | now entry rest hp => exact absurd hp (hpoint entry rest)
    | past hnot hle hspent =>
      exact .past (fun hmem => hnot (hclones.subset hmem))
        (Nat.le_trans (Nat.le_of_eq (hcount id)) hle) hspent

theorem reject {entry : ScheduleEntry} {error : String} {rest : List ScheduleEntry}
    (h : LoopInv r₀ w) (hpoint : w.point = .rejecting entry error rest)
    (save : Except String Unit) :
    LoopInv r₀ { w with
      registry := (w.registry.reject entry.id error save).2, point := .ready rest } where
  keyed := by
    intro id e' hget
    rcases ScheduleRegistry.get_modify_cases hget with ⟨rfl, e, he, rfl⟩ | ⟨-, he⟩
    · exact h.keyed _ e he
    · exact h.keyed id e' he
  kept := by
    intro id e' hget
    rcases ScheduleRegistry.get_modify_cases hget with ⟨rfl, e, he, rfl⟩ | ⟨-, he⟩
    · exact h.kept _ e he
    · exact h.kept id e' he
  distinct := by
    have hdistinct := h.distinct
    rw [hpoint] at hdistinct
    exact (List.nodup_cons.mp hdistinct).2
  started := h.started
  stopped := by
    intro id hstop e' hget
    rcases ScheduleRegistry.get_modify_cases hget with ⟨rfl, e, he, rfl⟩ | ⟨-, he⟩
    · exact ScheduleStatus.noConfusion
    · exact h.stopped id hstop e' he
  paused := by
    intro id e' hget hpaused
    rcases ScheduleRegistry.get_modify_cases hget with ⟨rfl, e, he, rfl⟩ | ⟨-, he⟩
    · cases hpaused
    · exact h.paused id e' he hpaused
  turn := by
    intro id e₀ hget honce
    cases h.turn id e₀ hget honce with
    | ahead hcount hnew _ =>
      refine .ahead hcount hnew ?_
      intro entry rest hp
      cases hp
    | now entry' rest' hp =>
      rw [hpoint] at hp
      cases hp
    | past hnot hcount hspent =>
      rw [hpoint] at hnot
      obtain ⟨hne, hrest⟩ := List.ne_and_not_mem_of_not_mem_cons hnot
      refine .past hrest hcount ?_
      intro e' hget'
      rcases ScheduleRegistry.get_modify_cases hget' with ⟨hid, -⟩ | ⟨-, he⟩
      · exact absurd hid hne
      · exact hspent e' he

/-- The run has come up. -/
theorem spawned {entry : ScheduleEntry} {rest : List ScheduleEntry} (h : LoopInv r₀ w)
    (hpoint : w.point = .spawning entry rest) :
    LoopInv r₀ { w with point := .spawned entry rest, log := .fired entry.id :: w.log } where
  keyed := h.keyed
  kept := h.kept
  distinct := by
    have hdistinct := h.distinct
    rw [hpoint] at hdistinct
    exact hdistinct
  started := h.started
  stopped := h.stopped
  paused := h.paused
  turn := by
    intro id e₀ hget honce
    have hother (hne : entry.id ≠ id) : ∀ entry' rest',
        SchedulePoint.spawned entry rest = .spawned entry' rest' → entry'.id ≠ id := by
      intro entry' rest' hp
      cases hp
      exact hne
    cases h.turn id e₀ hget honce with
    | ahead hcount hnew _ =>
      by_cases hid : entry.id = id
      · subst hid
        exact .now entry rest rfl rfl (count_fired_self.trans (congrArg (· + 1) hcount)) hnew
      · exact .ahead ((count_fired_of_ne hid).trans hcount) hnew (hother hid)
    | now entry' rest' hp =>
      rw [hpoint] at hp
      cases hp
    | past hnot hcount hspent =>
      rw [hpoint] at hnot
      have hne : entry.id ≠ id := fun hid => (List.ne_and_not_mem_of_not_mem_cons hnot).1 hid.symm
      refine .past hnot ?_ hspent
      exact Nat.le_trans (Nat.le_of_eq (count_fired_of_ne hne)) hcount

/-- The firing is recorded, and a Paused entry stays without a time. -/
theorem recordFired {entry : ScheduleEntry} {rest : List ScheduleEntry} {now : DateTime}
    (h : LoopInv r₀ w) (hpoint : w.point = .spawned entry rest)
    (hgood : ∀ e, w.registry.get entry.id = some e → e.status = .paused → e.kind.isOnce = false →
      computeNextFire cron e.kind now = none) (save : Except String Unit) :
    LoopInv r₀ { w with
      registry := (w.registry.recordFired cron entry.id now save).2, point := .ready rest } where
  keyed := by
    intro id e' hget
    rcases ScheduleRegistry.get_modify_cases hget with ⟨rfl, e, he, rfl⟩ | ⟨-, he⟩
    · exact (ScheduleRegistry.fired_id now).trans (h.keyed _ e he)
    · exact h.keyed id e' he
  kept := by
    intro id e' hget
    rcases ScheduleRegistry.get_modify_cases hget with ⟨rfl, e, he, rfl⟩ | ⟨-, he⟩
    · rw [ScheduleRegistry.fired_kind]
      exact h.kept _ e he
    · exact h.kept id e' he
  distinct := by
    have hdistinct := h.distinct
    rw [hpoint] at hdistinct
    exact (List.nodup_cons.mp hdistinct).2
  started := h.started
  stopped := by
    intro id hstop e' hget
    rcases ScheduleRegistry.get_modify_cases hget with ⟨rfl, e, he, rfl⟩ | ⟨-, he⟩
    · cases honce : e.kind.isOnce with
      | true =>
        rw [(ScheduleRegistry.fired_of_once honce cron now).1]
        exact ScheduleStatus.noConfusion
      | false =>
        rw [(ScheduleRegistry.fired_of_cron honce cron now).1]
        exact h.stopped _ hstop e he
    · exact h.stopped id hstop e' he
  paused := by
    intro id e' hget hpaused
    rcases ScheduleRegistry.get_modify_cases hget with ⟨rfl, e, he, rfl⟩ | ⟨-, he⟩
    · cases honce : e.kind.isOnce with
      | true => exact (ScheduleRegistry.fired_of_once honce cron now).2
      | false =>
        obtain ⟨hstatus, hnext⟩ := ScheduleRegistry.fired_of_cron honce cron now
        rw [hnext]
        exact hgood e he (hstatus.symm.trans hpaused) honce
    · exact h.paused id e' he hpaused
  turn := by
    intro id e₀ hget honce
    have hdistinct := h.distinct
    rw [hpoint] at hdistinct
    cases h.turn id e₀ hget honce with
    | ahead hcount hnew _ =>
      refine .ahead hcount hnew ?_
      intro entry rest hp
      cases hp
    | now entry' rest' hp hid hcount hnew =>
      rw [hpoint] at hp
      cases hp
      subst hid
      refine .past (List.nodup_cons.mp hdistinct).1 ?_ ?_
      · simp [hcount, hnew]
      intro e' hget'
      rcases ScheduleRegistry.get_modify_cases hget' with ⟨-, e, he, rfl⟩ | ⟨hne, -⟩
      · obtain ⟨e₁, he₁, hkind⟩ := h.kept _ e he
        obtain rfl : e₀ = e₁ := Option.some.inj (hget.symm.trans he₁)
        rw [hkind] at honce
        rw [ScheduleRegistry.fired_lastFired]
        exact ⟨rfl, (ScheduleRegistry.fired_of_once honce cron now).2⟩
      · exact absurd rfl hne
    | past hnot hcount hspent =>
      rw [hpoint] at hnot
      obtain ⟨hne, hrest⟩ := List.ne_and_not_mem_of_not_mem_cons hnot
      refine .past hrest hcount ?_
      intro e' hget'
      rcases ScheduleRegistry.get_modify_cases hget' with ⟨hid, -⟩ | ⟨-, he⟩
      · exact absurd hid hne
      · exact hspent e' he

/-- A command on an entry; one that has fired once is not resumed before its time. -/
theorem command {c : ScheduleCommand} {entry : ScheduleEntry} (h : LoopInv r₀ w)
    (hentry : w.registry.get entry.id = some entry)
    (hgood : ∀ now, c = .resume now → entry.lastFired.isSome = true → entry.kind.isOnce = true →
      computeNextFire cron entry.kind now = none) (save : Except String Unit) :
    LoopInv r₀ { w with
      registry := (w.registry.command cron c entry.id save).2
      log := .command entry.id c :: w.log } where
  keyed := by
    intro id e' hget
    rcases ScheduleRegistry.get_command_cases hget with
      ⟨-, he⟩ | ⟨-, e, he, ⟨-, rfl⟩ | ⟨now, -, rfl⟩⟩
    · exact h.keyed id e' he
    · exact h.keyed id e he
    · exact h.keyed id e he
  kept := by
    intro id e' hget
    rcases ScheduleRegistry.get_command_cases hget with
      ⟨-, he⟩ | ⟨-, e, he, ⟨-, rfl⟩ | ⟨now, -, rfl⟩⟩
    · exact h.kept id e' he
    · exact h.kept id e he
    · exact h.kept id e he
  distinct := h.distinct
  started := h.started
  stopped := by
    intro id hstop e' hget
    rw [isStopped_command] at hstop
    rcases ScheduleRegistry.get_command_cases hget with
      ⟨hne, he⟩ | ⟨rfl, e, he, ⟨-, rfl⟩ | ⟨now, rfl, rfl⟩⟩
    · rw [if_neg fun hid => hne hid.symm] at hstop
      exact h.stopped id hstop e' he
    · exact ScheduleStatus.noConfusion
    · rw [if_pos rfl] at hstop
      cases hstop
  paused := by
    intro id e' hget hpaused
    rcases ScheduleRegistry.get_command_cases hget with
      ⟨-, he⟩ | ⟨-, e, he, ⟨-, rfl⟩ | ⟨now, -, rfl⟩⟩
    · exact h.paused id e' he hpaused
    · rfl
    · cases hpaused
  turn := by
    intro id e₀ hget honce
    cases h.turn id e₀ hget honce with
    | ahead hcount hnew hpoint => exact .ahead (count_fired_command.trans hcount) hnew hpoint
    | now entry' rest hpoint hid hcount hnew =>
      exact .now entry' rest hpoint hid (count_fired_command.trans hcount) hnew
    | past hnot hcount hspent =>
      refine .past hnot (Nat.le_trans (Nat.le_of_eq count_fired_command) hcount) ?_
      intro e' hget'
      rcases ScheduleRegistry.get_command_cases hget' with
        ⟨-, he⟩ | ⟨rfl, e, he, ⟨-, rfl⟩ | ⟨now, hc, rfl⟩⟩
      · exact hspent e' he
      · exact ⟨(hspent e he).1, rfl⟩
      · obtain rfl : entry = e := Option.some.inj (hentry.symm.trans he)
        obtain ⟨e₁, he₁, hkind⟩ := h.kept _ entry he
        obtain rfl : e₀ = e₁ := Option.some.inj (hget.symm.trans he₁)
        have hfired := (hspent entry he).1
        exact ⟨hfired, hgood now hc hfired (hkind ▸ honce)⟩

/-- Every undisturbed step keeps the invariant. -/
theorem step {a : ScheduleAction} (h : LoopInv r₀ w) (hstep : w.step cron a = some w')
    (hgood : w.Undisturbed cron a) : LoopInv r₀ w' := by
  cases a with
  | poll now ready =>
    dsimp only [ScheduleWorld.step] at hstep
    split at hstep
    · next hpoint =>
      split at hstep
      · next hperm =>
        cases hstep
        exact h.poll hpoint hperm
      · cases hstep
    · cases hstep
  | validate repoDir planPath =>
    dsimp only [ScheduleWorld.step] at hstep
    split at hstep
    · next entry rest hpoint =>
      dsimp only [ScheduleWorld.Undisturbed] at hgood
      have hnot : ∀ entry rest, w.point ≠ .spawned entry rest := by
        intro entry rest hp
        rw [hpoint] at hp
        cases hp
      split at hstep
      · cases hstep
        refine h.move hnot ?_ ?_ (fun _ => rfl) (fun _ => rfl) h.started
        · intro entry rest hp
          cases hp
        · rw [hpoint]
          exact List.Sublist.refl _
      · next hok =>
        cases hstep
        rw [hok] at hgood
        have hactive := hgood rfl entry (by rw [hpoint]; rfl)
        obtain ⟨e, he, hstatus⟩ := (Option.any_eq_true _ _).mp hactive
        refine h.move hnot ?_ ?_ (fun _ => count_fired_started) (fun _ => isStopped_started)
          ⟨?_, h.started⟩
        · intro entry rest hp
          cases hp
        · rw [hpoint]
          exact List.Sublist.refl _
        · rw [← Bool.not_eq_true]
          intro hstop
          exact h.stopped entry.id hstop e he (of_decide_eq_true hstatus)
    · cases hstep
  | reject save =>
    dsimp only [ScheduleWorld.step] at hstep
    split at hstep
    · next hpoint =>
      cases hstep
      exact h.reject hpoint save
    · cases hstep
  | spawned result =>
    dsimp only [ScheduleWorld.step] at hstep
    split at hstep
    · next entry rest hpoint =>
      split at hstep
      · cases hstep
        exact h.spawned hpoint
      · cases hstep
        refine h.move ?_ ?_ ?_ (fun _ => rfl) (fun _ => rfl) h.started
        · intro entry rest hp
          rw [hpoint] at hp
          cases hp
        · intro entry rest hp
          cases hp
        · rw [hpoint]
          exact List.sublist_cons_self _ _
    · cases hstep
  | recordFired now save =>
    dsimp only [ScheduleWorld.step] at hstep
    split at hstep
    · next entry rest hpoint =>
      cases hstep
      refine h.recordFired hpoint ?_ save
      intro e he
      exact hgood entry (by rw [hpoint]; rfl) e he
    · cases hstep
  | command c id save =>
    dsimp only [ScheduleWorld.step] at hstep
    split at hstep
    · cases hstep
      exact h
    · next entry hfind =>
      cases hstep
      rw [ScheduleRegistry.dispatch_snd hfind]
      refine h.command (ScheduleRegistry.get_of_findByPrefix h.keyed hfind) ?_ save
      rintro now rfl
      exact hgood entry hfind

end LoopInv

/-- In an undisturbed run every state respects the commands. -/
theorem commands_respected (cron : String → DateTime → Option DateTime) (r₀ : ScheduleRegistry)
    (h : r₀.Settled) (actions : List ScheduleAction)
    (hgood : Along (ScheduleWorld.step cron) (ScheduleWorld.Undisturbed cron) (.start r₀) actions) :
    ∀ pre post w, actions = pre ++ post →
      exec (ScheduleWorld.step cron) (.start r₀) pre = some w → CommandsRespected r₀ w := by
  rintro pre post w rfl hrun
  have hpre := ((Along.append hrun).mp hgood).1
  have hinv : LoopInv r₀ w :=
    exec_invariant (fun _ _ _ hstep hgood h => LoopInv.step h hstep hgood) hrun hpre (.start h)
  exact hinv.commandsRespected

private def dailyEntry : ScheduleEntry where
  id := "abcd1234"
  planPath := "/repo/plan.md"
  repoDir := "/repo"
  configDir := none
  verbose := 0
  kind := .cron "0 0 9 * * * *"
  status := .active
  createdAt := 0
  lastFired := none
  nextFire := some 60
  fireCount := 0
  label := none
  lastError := none

private def dailyRegistry : ScheduleRegistry := (ScheduleRegistry.new.add dailyEntry (.ok ())).2

private theorem eq_of_get_daily {id : String} {e : ScheduleEntry}
    (h : dailyRegistry.get id = some e) : id = "abcd1234" ∧ e = dailyEntry := by
  unfold dailyRegistry at h
  rw [ScheduleRegistry.get_add] at h
  split at h
  · next hid =>
    cases h
    exact ⟨hid, rfl⟩
  · cases h

private theorem daily_settled : dailyRegistry.Settled where
  keyed id e h := by
    obtain ⟨rfl, rfl⟩ := eq_of_get_daily h
    rfl
  paused id e h hpaused := by
    obtain ⟨rfl, rfl⟩ := eq_of_get_daily h
    cases hpaused
  fired id e h honce := by
    obtain ⟨rfl, rfl⟩ := eq_of_get_daily h
    cases honce

/-- A cron schedule fires and is paused after that. -/
theorem commands_respected_of_daily :
    ∃ w, exec (ScheduleWorld.step fun _ now => some (now + 60)) (.start dailyRegistry)
        [.poll 60 [dailyEntry], .validate (.ok "/repo") (.ok "/repo/plan.md"),
          .spawned (.ok "run-1"), .recordFired 61 (.ok ()), .command .pause "abcd" (.ok ())] =
        some w ∧ CommandsRespected dailyRegistry w := by
  obtain ⟨w, hrun, -⟩ := exists_of_any (P := fun _ : ScheduleWorld => True)
    (o := exec (ScheduleWorld.step fun _ now => some (now + 60)) (.start dailyRegistry)
      [.poll 60 [dailyEntry], .validate (.ok "/repo") (.ok "/repo/plan.md"),
        .spawned (.ok "run-1"), .recordFired 61 (.ok ()), .command .pause "abcd" (.ok ())])
    (by decide)
  exact ⟨w, hrun, commands_respected _ dailyRegistry daily_settled _ (by decide) _ [] w
    (List.append_nil _).symm hrun⟩

/-- A schedule is paused while the loop holds its clone, and its run is started. -/
theorem paused_schedule_fired :
    ¬ ∀ (cron : String → DateTime → Option DateTime) (r₀ : ScheduleRegistry), r₀.Settled →
      ∀ actions pre post w, actions = pre ++ post →
        exec (ScheduleWorld.step cron) (.start r₀) pre = some w → CommandsRespected r₀ w := by
  intro hclaim
  obtain ⟨w, hrun, hlog⟩ := exists_of_any
    (o := exec (ScheduleWorld.step fun _ now => some (now + 60)) (.start dailyRegistry)
      [.poll 60 [dailyEntry], .command .pause "abcd" (.ok ()),
        .validate (.ok "/repo") (.ok "/repo/plan.md")])
    (P := fun w => w.log = [.started "abcd1234", .command "abcd1234" .pause]) (by decide)
  have hstarted := (hclaim _ dailyRegistry daily_settled _ _ [] w (List.append_nil _).symm hrun).1
  rw [hlog] at hstarted
  cases hstarted.1

end GreaterWill
