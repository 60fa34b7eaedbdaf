import GreaterWill.Daemon.DaemonSpec
import Mathlib.Data.List.Perm.Subperm
import Mathlib.Logic.Function.Basic

/-!
# The monitors of the heartbeat

`HeartbeatMonitor` with its map of monitors. A tick reads the runs under the lock of the registry
(`readRuns`) and then, under the lock of the monitors, cancels, starts and prunes them
(`checkRuns`); between the two every other task of the daemon may act. A spawned task runs a monitor
and then handles its outcome, which includes a recovery. What a tick does for `gw ps` after that is
among the actions of the daemon.
-/

namespace GreaterWill

/-- How far a spawned monitor task has come. -/
inductive MonitorPhase where
  /-- `DaemonRunMonitor::run`. -/
  | watching
  /-- `handle_monitor_outcome`. -/
  | handling
  | finished
  deriving DecidableEq

/-- The task behind a `MonitorHandle`. -/
structure MonitorTask where
  runId : String
  phase : MonitorPhase := .watching
  /-- Its token is cancelled. -/
  cancelled : Bool := false
  deriving DecidableEq

/-- The task is neither cancelled nor finished. -/
def MonitorTask.live (t : MonitorTask) : Bool := !t.cancelled && decide (t.phase ≠ .finished)

/-- What a tick has read of the registry. -/
structure HeartbeatTick where
  running : List (String × RunEntry)
  stopped : List String

/-- Partition the runs, with a copy of the entries that are not terminal. -/
def RunRegistry.readRuns (r : RunRegistry) : HeartbeatTick where
  running := (r.runs.entries.filter (!·.2.status.isTerminal)).map fun e => (e.1, e.2)
  stopped := (r.runs.entries.filter (·.2.status.isTerminal)).map (·.1)

/-- The daemon and its heartbeat. -/
structure Heartbeat where
  daemon : Daemon
  /-- The handles by run; a handle is the number of its task. -/
  monitors : String → Option Nat := fun _ => none
  /-- The monitor tasks in the order they were spawned in. -/
  spawned : List MonitorTask := []
  /-- A tick between its two locks. -/
  tick : Option HeartbeatTick := none

/-- A daemon that has just started. -/
def Heartbeat.init : Heartbeat := { daemon := .init }

/-- The run that a task of the recovery is about. -/
def Task.recovering : Task → Option String
  | .recovery runId | .resolveRestart runId | .spawnRecovery runId => some runId
  | _ => none

/-- The actions that the monitor tasks take. -/
def Action.ofMonitor : Action → Bool
  | .startMonitor _ | .monitorEnds .. => true
  | _ => false

namespace Heartbeat
variable (h : Heartbeat)

/-- Remove the handle of a run and cancel its token: `stop_run`, a detach, or a tick. -/
def cancelMonitor (runId : String) : Heartbeat :=
  match h.monitors runId with
  | none => h
  | some i =>
    { h with
      monitors := Function.update h.monitors runId none
      spawned := h.spawned.modify i fun t => { t with cancelled := true } }

/-- Spawn a monitor for a run that has a session and no handle. -/
def spawnMonitor (runId : String) (entry : RunEntry) : Heartbeat :=
  if (h.monitors runId).isSome || entry.tmuxSession.isNone then h
  else
    { h with
      monitors := Function.update h.monitors runId (some h.spawned.length)
      spawned := h.spawned ++ [{ runId }] }

def spawnMonitors (runs : List (String × RunEntry)) : Heartbeat :=
  runs.foldl (fun h run => h.spawnMonitor run.1 run.2) h

/-- Forget the handles of finished tasks. -/
def pruneFinished : Heartbeat :=
  { h with
    monitors := fun runId => (h.monitors runId).filter fun i =>
      h.spawned[i]?.any (·.phase ≠ .finished) }

def setPhase (i : Nat) (phase : MonitorPhase) : Heartbeat :=
  { h with spawned := h.spawned.modify i fun t => { t with phase } }

/-- `check_all_runs` under the lock of the monitors. -/
def checkRuns (tick : HeartbeatTick) : Heartbeat :=
  ((tick.stopped.foldl cancelMonitor h).spawnMonitors tick.running).pruneFinished

/-- A recovery of the run is under way. -/
def recovers (runId : String) : Bool := h.daemon.tasks.any (·.recovering = some runId)

/-- Another task than the given one handles an outcome of the run. -/
def othersHandle (i : Nat) (runId : String) : Bool :=
  (List.range h.spawned.length).any fun j =>
    j ≠ i && h.spawned[j]?.any fun t => t.runId = runId && t.phase = .handling

end Heartbeat

inductive HeartbeatEvent where
  /-- Any other task of the daemon. -/
  | act (a : Action)
  | readRuns
  | checkRuns
  | cancel (runId : String)
  /-- The monitor of a task returns an outcome. -/
  | ends (i : Nat) (outcome : MonitorOutcome) (now : DateTime)
  /-- A task is done with its outcome. -/
  | finish (i : Nat)

open Heartbeat in
/-- One event. A task that handles an outcome awaits the recovery it starts. -/
def Heartbeat.step (c : DaemonConfig) (h : Heartbeat) : HeartbeatEvent → Option Heartbeat
  | .act a =>
    if a.ofMonitor then none
    else (daemonStep c h.daemon a).map fun d => { h with daemon := d }
  | .readRuns =>
    if h.tick.isSome then none else some { h with tick := some h.daemon.registry.readRuns }
  | .checkRuns => h.tick.map fun tick => { h.checkRuns tick with tick := none }
  | .cancel runId => some (h.cancelMonitor runId)
  | .ends i outcome now =>
    (h.spawned[i]?.filter (·.phase = .watching)).bind fun t =>
      let d : Daemon := { h.daemon with tasks := .monitor t.runId :: h.daemon.tasks }
      (daemonStep c d (.monitorEnds t.runId outcome now)).map fun d =>
        { h.setPhase i .handling with daemon := d }
  | .finish i =>
    (h.spawned[i]?.filter (·.phase = .handling)).bind fun t =>
      if h.recovers t.runId && !h.othersHandle i t.runId then none
      else some (h.setPhase i .finished)

namespace Heartbeat
variable {c : DaemonConfig} {h h' : Heartbeat} {e : HeartbeatEvent}

/-! ## The handles -/

/-- The handles and the tasks agree: a handle is that of a task of its run that is not cancelled,
and every live task has its handle. -/
structure Tracked (h : Heartbeat) : Prop where
  held : ∀ id i, h.monitors id = some i →
    ∃ t, h.spawned[i]? = some t ∧ t.runId = id ∧ t.cancelled = false
  live : ∀ i t, h.spawned[i]? = some t → t.live = true → h.monitors t.runId = some i

theorem getElem?_modify_eq_some {l : List MonitorTask} {i j : Nat} {f : MonitorTask → MonitorTask}
    {t : MonitorTask} : (l.modify i f)[j]? = some t ↔
      ∃ u, l[j]? = some u ∧ t = if i = j then f u else u := by
  rw [List.getElem?_modify]
  cases l[j]? with
  | none => simp
  | some u => simp [eq_comm]

namespace Tracked

theorem cancelMonitor (H : h.Tracked) (runId : String) : (h.cancelMonitor runId).Tracked := by
  rw [Heartbeat.cancelMonitor]
  split
  · exact H
  · next i hi =>
    obtain ⟨u, hu, hrun, -⟩ := H.held runId i hi
    constructor
    · intro id j hj
      by_cases hid : id = runId
      · subst hid
        simp at hj
      · simp only [Function.update_of_ne hid] at hj
        obtain ⟨t, ht, htid, hcancelled⟩ := H.held id j hj
        have hij : i ≠ j := by
          intro hij
          subst hij
          rw [hu] at ht
          cases ht
          exact hid (htid.symm.trans hrun)
        exact ⟨t, getElem?_modify_eq_some.mpr ⟨t, ht, (if_neg hij).symm⟩, htid, hcancelled⟩
    · intro j t ht hlive
      obtain ⟨t', ht', rfl⟩ := getElem?_modify_eq_some.mp ht
      by_cases hij : i = j
      · rw [if_pos hij] at hlive
        cases hlive
      · rw [if_neg hij] at hlive ⊢
        have hmonitor := H.live j t' ht' hlive
        have hne : t'.runId ≠ runId := by
          intro heq
          rw [heq, hi] at hmonitor
          exact hij (Option.some.inj hmonitor)
        exact (Function.update_of_ne hne none h.monitors).trans hmonitor

theorem spawnMonitor (H : h.Tracked) (runId : String) (entry : RunEntry) :
    (h.spawnMonitor runId entry).Tracked := by
  rw [Heartbeat.spawnMonitor]
  split
  · exact H
  · next hnew =>
    have hnone : h.monitors runId = none := by
      rw [Bool.or_eq_true, not_or] at hnew
      exact Option.not_isSome_iff_eq_none.mp hnew.1
    constructor
    · intro id i hi
      by_cases hid : id = runId
      · subst hid
        simp only [Function.update_self] at hi
        cases hi
        exact ⟨{ runId := id }, List.getElem?_concat_length, rfl, rfl⟩
      · simp only [Function.update_of_ne hid] at hi
        obtain ⟨t, ht, hrest⟩ := H.held id i hi
        have hlt : i < h.spawned.length := (List.getElem?_eq_some_iff.mp ht).1
        exact ⟨t, (List.getElem?_append_left hlt).trans ht, hrest⟩
    · intro i t ht hlive
      by_cases hi : i < h.spawned.length
      · rw [List.getElem?_append_left hi] at ht
        have hmonitor := H.live i t ht hlive
        have hne : t.runId ≠ runId := by
          intro heq
          rw [heq, hnone] at hmonitor
          cases hmonitor
        exact (Function.update_of_ne hne _ h.monitors).trans hmonitor
      · obtain rfl : i = h.spawned.length := by
          have hlt := (List.getElem?_eq_some_iff.mp ht).1
          rw [List.length_append, List.length_singleton] at hlt
          omega
        rw [List.getElem?_concat_length] at ht
        cases ht
        exact Function.update_self ..

theorem pruneFinished (H : h.Tracked) : h.pruneFinished.Tracked := by
  constructor
  · intro id i hi
    exact H.held id i (Option.filter_eq_some_iff.mp hi).1
  · intro i t ht hlive
    have hmonitor := H.live i t ht hlive
    rw [MonitorTask.live, Bool.and_eq_true] at hlive
    simp only [Heartbeat.pruneFinished] at ht ⊢
    rw [hmonitor, Option.filter_some, ht]
    exact if_pos hlive.2

theorem setPhase (H : h.Tracked) {i : Nat} {t : MonitorTask} (ht : h.spawned[i]? = some t)
    (hphase : t.phase ≠ .finished) (phase : MonitorPhase) : (h.setPhase i phase).Tracked := by
  constructor
  · intro id j hj
    obtain ⟨u, hu, hrun, hcancelled⟩ := H.held id j hj
    refine ⟨_, getElem?_modify_eq_some.mpr ⟨u, hu, rfl⟩, ?_, ?_⟩
    · split
      · exact hrun
      · exact hrun
    · split
      · exact hcancelled
      · exact hcancelled
  · intro j u hu hlive
    obtain ⟨u', hu', rfl⟩ := getElem?_modify_eq_some.mp hu
    by_cases hij : i = j
    · subst hij
      rw [if_pos rfl] at hlive ⊢
      rw [ht] at hu'
      cases hu'
      rw [MonitorTask.live, Bool.and_eq_true] at hlive
      apply H.live i t ht
      rw [MonitorTask.live, hlive.1]
      exact decide_eq_true hphase
    · rw [if_neg hij] at hlive ⊢
      exact H.live j u' hu' hlive

theorem cancelMonitors (H : h.Tracked) (ids : List String) :
    (ids.foldl Heartbeat.cancelMonitor h).Tracked := by
  induction ids generalizing h with
  | nil => exact H
  | cons id ids ih => exact ih (H.cancelMonitor id)

theorem spawnMonitors (H : h.Tracked) (runs : List (String × RunEntry)) :
    (h.spawnMonitors runs).Tracked := by
  induction runs generalizing h with
  | nil => exact H
  | cons run runs ih => exact ih (H.spawnMonitor run.1 run.2)

theorem checkRuns (H : h.Tracked) (tick : HeartbeatTick) : (h.checkRuns tick).Tracked := by
  exact ((H.cancelMonitors tick.stopped).spawnMonitors tick.running).pruneFinished

end Tracked

/-! ## What a tick does to the handles -/

theorem monitors_cancelMonitor (runId id : String) :
    (h.cancelMonitor runId).monitors id = if id = runId then none else h.monitors id := by
  rw [cancelMonitor]
  split
  · next hnone =>
    split
    · next heq => rw [heq, hnone]
    · rfl
  · exact Function.update_apply ..

theorem monitors_cancelMonitors (ids : List String) (id : String) :
    (ids.foldl cancelMonitor h).monitors id = if id ∈ ids then none else h.monitors id := by
  induction ids generalizing h with
  | nil => rfl
  | cons runId ids ih =>
    rw [List.foldl_cons, ih, monitors_cancelMonitor]
    grind

theorem spawnMonitor_cases (h : Heartbeat) (runId : String) (entry : RunEntry) :
    (h.spawnMonitor runId entry = h ∧
        ((h.monitors runId).isSome = true ∨ entry.tmuxSession.isSome = false)) ∨
      (h.monitors runId = none ∧ entry.tmuxSession.isSome = true ∧
        h.spawnMonitor runId entry =
          { h with
            monitors := Function.update h.monitors runId (some h.spawned.length)
            spawned := h.spawned ++ [{ runId }] }) := by
  rw [spawnMonitor]
  split
  · next hkept => exact .inl ⟨rfl, by simpa using hkept⟩
  · next hnew =>
    rw [Bool.or_eq_true, not_or] at hnew
    refine .inr ⟨Option.not_isSome_iff_eq_none.mp hnew.1, ?_, rfl⟩
    simpa [Option.isSome_iff_ne_none] using hnew.2

/-- A step under the lock of the monitors finishes no task, and new handles are those of tasks that
watch. -/
structure Attends (h h' : Heartbeat) : Prop where
  handle : ∀ id i, h'.monitors id = some i → h.monitors id = some i ∨
    ∃ t, h'.spawned[i]? = some t ∧ t.phase = .watching
  task : ∀ (i : Nat) (t : MonitorTask), h.spawned[i]? = some t →
    ∃ t', h'.spawned[i]? = some t' ∧ t'.runId = t.runId ∧ t'.phase = t.phase

namespace Attends
variable {h'' : Heartbeat}

theorem refl (h : Heartbeat) : Attends h h := 
  ⟨fun _ _ hi => .inl hi, fun _ t ht => ⟨t, ht, rfl, rfl⟩⟩

theorem trans (H : Attends h h') (H' : Attends h' h'') : Attends h h'' := by
  constructor
  · intro id i hi
    rcases H'.handle id i hi with hold | hnew
    · rcases H.handle id i hold with hold | ⟨t, ht, hwatch⟩
      · exact .inl hold
      · obtain ⟨t', ht', -, hphase⟩ := H'.task i t ht
        exact .inr ⟨t', ht', hphase.trans hwatch⟩
    · exact .inr hnew
  · intro i t ht
    obtain ⟨t', ht', hrun, hphase⟩ := H.task i t ht
    obtain ⟨t'', ht'', hrun', hphase'⟩ := H'.task i t' ht'
    exact ⟨t'', ht'', hrun'.trans hrun, hphase'.trans hphase⟩

theorem cancelMonitor (h : Heartbeat) (runId : String) : Attends h (h.cancelMonitor runId) := by
  constructor
  · intro id i hi
    rw [monitors_cancelMonitor] at hi
    split at hi
    · cases hi
    · exact .inl hi
  · intro i t ht
    rw [Heartbeat.cancelMonitor]
    split
    · exact ⟨t, ht, rfl, rfl⟩
    · refine ⟨_, getElem?_modify_eq_some.mpr ⟨t, ht, rfl⟩, ?_⟩
      split
      · exact ⟨rfl, rfl⟩
      · exact ⟨rfl, rfl⟩

theorem spawnMonitor (h : Heartbeat) (runId : String) (entry : RunEntry) :
    Attends h (h.spawnMonitor runId entry) := by
  rcases h.spawnMonitor_cases runId entry with ⟨hkept, -⟩ | ⟨-, -, hnew⟩
  · rw [hkept]
    exact .refl h
  · rw [hnew]
    constructor
    · intro id i hi
      by_cases hid : id = runId
      · subst hid
        simp only [Function.update_self] at hi
        cases hi
        exact .inr ⟨_, List.getElem?_concat_length, rfl⟩
      · simp only [Function.update_of_ne hid] at hi
        exact .inl hi
    · intro i t ht
      have hlt := (List.getElem?_eq_some_iff.mp ht).1
      exact ⟨t, (List.getElem?_append_left hlt).trans ht, rfl, rfl⟩

theorem cancelMonitors (h : Heartbeat) (ids : List String) :
    Attends h (ids.foldl Heartbeat.cancelMonitor h) := by
  induction ids generalizing h with
  | nil => exact .refl h
  | cons id ids ih => exact (cancelMonitor h id).trans (ih _)

theorem spawnMonitors (h : Heartbeat) (runs : List (String × RunEntry)) :
    Attends h (h.spawnMonitors runs) := by
  induction runs generalizing h with
  | nil => exact .refl h
  | cons run runs ih => exact (spawnMonitor h run.1 run.2).trans (ih _)

end Attends

theorem isSome_spawnMonitor {runId id : String} {entry : RunEntry}
    (hid : (h.monitors id).isSome = true ∨ id = runId ∧ entry.tmuxSession.isSome = true) :
    ((h.spawnMonitor runId entry).monitors id).isSome = true := by
  rcases h.spawnMonitor_cases runId entry with ⟨hkept, hreason⟩ | ⟨-, -, hnew⟩
  · rw [hkept]
    grind
  · rw [hnew]
    simp only [Function.update_apply]
    grind

theorem isSome_spawnMonitors {runs : List (String × RunEntry)} {id : String}
    (hid : (h.monitors id).isSome = true ∨
      ∃ entry, (id, entry) ∈ runs ∧ entry.tmuxSession.isSome = true) :
    ((h.spawnMonitors runs).monitors id).isSome = true := by
  induction runs generalizing h with
  | nil =>
    rcases hid with hheld | ⟨_, hmem, -⟩
    · exact hheld
    · cases hmem
  | cons run runs ih =>
    apply ih
    rcases hid with hheld | ⟨entry, hmem, hsession⟩
    · exact .inl (isSome_spawnMonitor (.inl hheld))
    · rcases List.mem_cons.mp hmem with rfl | hmem
      · exact .inl (isSome_spawnMonitor (.inr ⟨rfl, hsession⟩))
      · exact .inr ⟨entry, hmem, hsession⟩

theorem monitors_spawnMonitors_of_notMem {runs : List (String × RunEntry)} {id : String}
    (hid : ∀ entry, (id, entry) ∉ runs) : (h.spawnMonitors runs).monitors id = h.monitors id := by
  induction runs generalizing h with
  | nil => rfl
  | cons run runs ih =>
    have hne : id ≠ run.1 := by
      intro heq
      exact hid run.2 (List.mem_cons.mpr (.inl (by rw [heq])))
    refine (ih fun entry hmem => hid entry (List.mem_cons_of_mem run hmem)).trans ?_
    dsimp only
    rcases h.spawnMonitor_cases run.1 run.2 with ⟨hkept, -⟩ | ⟨-, -, hnew⟩
    · rw [hkept]
    · rw [hnew]
      exact Function.update_of_ne hne _ h.monitors

/-- After a tick no monitor of a run that it read as terminal is live. -/
theorem not_live_checkRuns (H : h.Tracked) {tick : HeartbeatTick} {id : String}
    (hstopped : id ∈ tick.stopped) (hrunning : ∀ entry, (id, entry) ∉ tick.running) {i : Nat}
    {t : MonitorTask} (ht : (h.checkRuns tick).spawned[i]? = some t) (hid : t.runId = id) :
    t.live = false := by
  by_contra hlive
  rw [Bool.not_eq_false] at hlive
  have hmonitor := (H.checkRuns tick).live i t ht hlive
  have hnone : ((tick.stopped.foldl cancelMonitor h).spawnMonitors tick.running).monitors id =
      none := by
    rw [monitors_spawnMonitors_of_notMem hrunning, monitors_cancelMonitors, if_pos hstopped]
  rw [hid, checkRuns, pruneFinished] at hmonitor
  dsimp only at hmonitor
  rw [hnone] at hmonitor
  cases hmonitor

/-- After a tick a run that it read with a session has a live monitor, or its task was finished. -/
theorem live_checkRuns (H : h.Tracked) {tick : HeartbeatTick} {id : String} {entry : RunEntry}
    (hrunning : (id, entry) ∈ tick.running) (hsession : entry.tmuxSession.isSome = true) :
    (∃ (i : Nat) (t : MonitorTask), (h.checkRuns tick).spawned[i]? = some t ∧ t.runId = id ∧ t.live = true) ∨
      ∃ (i : Nat) (t : MonitorTask), h.monitors id = some i ∧ h.spawned[i]? = some t ∧ t.phase = .finished ∧
        (h.checkRuns tick).monitors id = none := by
  have Hspawned := (H.cancelMonitors tick.stopped).spawnMonitors tick.running
  have Hattends := (Attends.cancelMonitors h tick.stopped).trans (.spawnMonitors _ tick.running)
  rw [checkRuns]
  generalize hg : (tick.stopped.foldl cancelMonitor h).spawnMonitors tick.running = g at *
  have hsome : (g.monitors id).isSome = true := by
    rw [← hg]
    exact isSome_spawnMonitors (.inr ⟨entry, hrunning, hsession⟩)
  obtain ⟨i, hi⟩ := Option.isSome_iff_exists.mp hsome
  obtain ⟨t, ht, hid, hcancelled⟩ := Hspawned.held id i hi
  by_cases hphase : t.phase = .finished
  · right
    rcases Hattends.handle id i hi with hold | ⟨t', ht', hwatch⟩
    · obtain ⟨u, hu, -⟩ := H.held id i hold
      obtain ⟨t', ht', -, hphase'⟩ := Hattends.task i u hu
      rw [ht] at ht'
      cases ht'
      refine ⟨i, u, hold, hu, hphase'.symm.trans hphase, ?_⟩
      simp [pruneFinished, hi, ht, hphase]
    · rw [ht] at ht'
      cases ht'
      rw [hphase] at hwatch
      cases hwatch
  · left
    refine ⟨i, t, ht, hid, ?_⟩
    simp [MonitorTask.live, hcancelled, hphase]

/-- What `checkRuns` leaves of the tasks. -/
theorem attends_checkRuns (h : Heartbeat) (tick : HeartbeatTick) :
    Attends h (h.checkRuns tick) := by
  refine ((Attends.cancelMonitors h tick.stopped).trans (.spawnMonitors _ tick.running)).trans ?_
  constructor
  · intro id i hi
    exact .inl (Option.filter_eq_some_iff.mp hi).1
  · intro i t ht
    exact ⟨t, ht, rfl, rfl⟩

/-! ## Over a run -/

theorem watching_of_recovering {t : Task} {id : String} (h : t.recovering = some id) :
    t.watching = some id := by
  cases t with
  | recovery | resolveRestart | spawnRecovery => exact h
  | _ => cases h

theorem recovering_of_follow {a : Action} {r : RunRegistry} {t : Task} {id : String}
    (ht : t ∈ (a.scope c r).follow) (hid : t.recovering = some id) :
    (∃ t', (a.scope c r).actor = some t' ∧ t'.recovering = some id) ∨
      ∃ outcome now, a = .monitorEnds id outcome now := by
  cases a with
  | monitorEnds runId outcome now =>
    right
    refine ⟨outcome, now, ?_⟩
    simp only [Action.scope] at ht
    grind [Task.recovering]
  | gateRecovery | resolveRestart =>
    left
    refine ⟨_, rfl, ?_⟩
    simp only [Action.scope] at ht
    grind [Task.recovering]
  | _ =>
    exfalso
    have hwatching := watching_of_recovering hid
    simp only [Action.scope] at ht
    grind [Task.recovering]

/-- A task of the run handles an outcome. -/
def Handles (h : Heartbeat) (id : String) : Prop :=
  ∃ (i : Nat) (u : MonitorTask), h.spawned[i]? = some u ∧ u.runId = id ∧ u.phase = .handling

/-- What holds of every heartbeat the daemon reaches. -/
structure Inv (h : Heartbeat) : Prop where
  tracked : h.Tracked
  recovering : ∀ t ∈ h.daemon.tasks, ∀ id, t.recovering = some id → h.Handles id
  tick : ∀ tick, h.tick = some tick →
    ∀ id ∈ tick.stopped, ∀ entry, (id, entry) ∉ tick.running

theorem Attends.handles (H : Attends h h') {id : String} (hid : h.Handles id) : h'.Handles id := by
  obtain ⟨i, u, hu, hrun, hphase⟩ := hid
  obtain ⟨u', hu', hrun', hphase'⟩ := H.task i u hu
  exact ⟨i, u', hu', hrun'.trans hrun, hphase'.trans hphase⟩

theorem cancelMonitor_kept (h : Heartbeat) (runId : String) :
    (h.cancelMonitor runId).daemon = h.daemon ∧ (h.cancelMonitor runId).tick = h.tick := by
  rw [cancelMonitor]
  split
  · exact ⟨rfl, rfl⟩
  · exact ⟨rfl, rfl⟩

theorem daemon_checkRuns (h : Heartbeat) (tick : HeartbeatTick) :
    (h.checkRuns tick).daemon = h.daemon := by
  have hcancel : ∀ (ids : List String) (g : Heartbeat),
      (ids.foldl cancelMonitor g).daemon = g.daemon := by
    intro ids
    induction ids with
    | nil => exact fun _ => rfl
    | cons id ids ih => exact fun g => (ih _).trans (cancelMonitor_kept g id).1
  have hspawn : ∀ (runs : List (String × RunEntry)) (g : Heartbeat),
      (g.spawnMonitors runs).daemon = g.daemon := by
    intro runs
    induction runs with
    | nil => exact fun _ => rfl
    | cons run runs ih =>
      intro g
      refine (ih _).trans ?_
      dsimp only
      rcases g.spawnMonitor_cases run.1 run.2 with ⟨hkept, -⟩ | ⟨-, -, hnew⟩
      · rw [hkept]
      · rw [hnew]
  exact (hspawn tick.running _).trans (hcancel tick.stopped h)

theorem disjoint_readRuns (r : RunRegistry) :
    ∀ id ∈ r.readRuns.stopped, ∀ entry, (id, entry) ∉ r.readRuns.running := by
  intro id hstopped entry hrunning
  simp only [RunRegistry.readRuns, List.mem_map, List.mem_filter] at hstopped hrunning
  obtain ⟨⟨k, e⟩, ⟨he, hterminal⟩, rfl⟩ := hstopped
  obtain ⟨⟨k', e'⟩, ⟨he', hactive⟩, heq⟩ := hrunning
  cases heq
  have hsame : e = e' := by
    rw [AList.mem_entries_iff] at he he'
    exact Option.some.inj (he.symm.trans he')
  subst hsame
  dsimp only at hterminal hactive
  rw [hterminal] at hactive
  cases hactive

theorem handles_setPhase {i : Nat} {id : String} (hid : h.Handles id) (phase : MonitorPhase)
    (hother : phase ≠ .handling → ∀ t, h.spawned[i]? = some t → t.runId = id →
      h.othersHandle i id = true) : (h.setPhase i phase).Handles id := by
  obtain ⟨j, u, hu, hrun, hphase⟩ := hid
  by_cases hij : i = j
  · subst hij
    by_cases hp : phase = .handling
    · exact ⟨i, _, getElem?_modify_eq_some.mpr ⟨u, hu, rfl⟩, by simp [hrun], by simp [hp]⟩
    · have hothers := hother hp u hu hrun
      simp only [othersHandle, List.any_eq_true, Bool.and_eq_true, decide_eq_true_eq,
        Option.any_eq_true] at hothers
      obtain ⟨k, -, hne, v, hv, hrun', hphase'⟩ := hothers
      exact ⟨k, v, getElem?_modify_eq_some.mpr ⟨v, hv, (if_neg (Ne.symm hne)).symm⟩, hrun', hphase'⟩
  · exact ⟨j, u, getElem?_modify_eq_some.mpr ⟨u, hu, (if_neg hij).symm⟩, hrun, hphase⟩

theorem Inv.step (H : h.Inv) (hstep : h.step c e = some h') : h'.Inv := by
  cases e with
  | act a =>
    rw [Heartbeat.step] at hstep
    split at hstep
    · cases hstep
    · next hact =>
      obtain ⟨d, hd, rfl⟩ := Option.map_eq_some_iff.mp hstep
      refine ⟨⟨H.tracked.held, H.tracked.live⟩, ?_, H.tick⟩
      intro t ht id hid
      rcases mem_tasks_of_daemonStep hd ht with hfollow | hold
      · rcases recovering_of_follow hfollow hid with ⟨t', hactor, hid'⟩ | ⟨_, _, rfl⟩
        · exact H.recovering t' (actor_mem_of_daemonStep hd hactor) id hid'
        · exact absurd rfl hact
      · exact H.recovering t hold id hid
  | readRuns =>
    rw [Heartbeat.step] at hstep
    split at hstep
    · cases hstep
    · cases hstep
      refine ⟨⟨H.tracked.held, H.tracked.live⟩, H.recovering, ?_⟩
      intro tick htick
      cases htick
      exact disjoint_readRuns _
  | checkRuns =>
    obtain ⟨tick, htick, rfl⟩ := Option.map_eq_some_iff.mp hstep
    have htracked := H.tracked.checkRuns tick
    refine ⟨⟨htracked.held, htracked.live⟩, ?_, fun _ hnone => by cases hnone⟩
    intro t ht id hid
    rw [daemon_checkRuns] at ht
    exact (attends_checkRuns h tick).handles (H.recovering t ht id hid)
  | cancel runId =>
    cases hstep
    refine ⟨H.tracked.cancelMonitor runId, ?_, ?_⟩
    · intro t ht id hid
      rw [(cancelMonitor_kept h runId).1] at ht
      exact (Attends.cancelMonitor h runId).handles (H.recovering t ht id hid)
    · rw [(cancelMonitor_kept h runId).2]
      exact H.tick
  | ends i outcome now =>
    obtain ⟨t, ht, hstep⟩ := Option.bind_eq_some_iff.mp hstep
    obtain ⟨ht, hwatch⟩ := Option.filter_eq_some_iff.mp ht
    obtain ⟨d, hd, rfl⟩ := Option.map_eq_some_iff.mp hstep
    have hphase : t.phase = .watching := of_decide_eq_true hwatch
    have htracked := H.tracked.setPhase ht (by rw [hphase]; intro hne; cases hne) .handling
    refine ⟨⟨htracked.held, htracked.live⟩, ?_, H.tick⟩
    intro task htask id hid
    rcases mem_tasks_of_daemonStep hd htask with hfollow | hold
    · rcases recovering_of_follow hfollow hid with ⟨task', hactor, hid'⟩ | ⟨_, _, heq⟩
      · cases hactor
        cases hid'
      · cases heq
        exact ⟨i, _, getElem?_modify_eq_some.mpr ⟨t, ht, rfl⟩, by simp, by simp⟩
    · rcases List.mem_cons.mp hold with rfl | hold
      · cases hid
      · exact handles_setPhase (H.recovering task hold id hid) .handling (fun hne => absurd rfl hne)
  | finish i =>
    obtain ⟨t, ht, hstep⟩ := Option.bind_eq_some_iff.mp hstep
    obtain ⟨ht, hhandling⟩ := Option.filter_eq_some_iff.mp ht
    have hphase : t.phase = .handling := of_decide_eq_true hhandling
    split at hstep
    · cases hstep
    · next hmay =>
      cases hstep
      have htracked := H.tracked.setPhase ht (by rw [hphase]; intro hne; cases hne) .finished
      refine ⟨htracked, ?_, H.tick⟩
      intro task htask id hid
      apply handles_setPhase (H.recovering task htask id hid)
      intro _ u hu hrun
      rw [ht] at hu
      cases hu
      subst hrun
      -- the recovery is another task's
      have hrecovers : h.recovers t.runId = true :=
        List.any_eq_true.mpr ⟨task, htask, by simpa using hid⟩
      simpa [hrecovers] using hmay

theorem Inv.init : Heartbeat.init.Inv where
  tracked := by
    constructor
    · intro _ _ hnone
      cases hnone
    · intro _ _ hnone
      cases hnone
  recovering _ hmem := by cases hmem
  tick _ hnone := by cases hnone

theorem Inv.run {es : List HeartbeatEvent} (hrun : exec (Heartbeat.step c) .init es = some h) :
    h.Inv :=
  exec_preserves (fun _ _ _ hstep H => Inv.step H hstep) hrun .init

/-- **One monitor for a run.** In every interleaving of the heartbeat with the other tasks of the
daemon, no two monitor tasks of one run are live, their handling of an outcome included. While a
run is recovered, a live monitor watches it only if the one that recovers it was cancelled. A tick
leaves no live monitor of a run that it read as terminal, and a live one of every run that it read
with a session, unless the run's monitor had just finished; then the next tick starts one. -/
theorem one_monitor_per_run (c : DaemonConfig) (es : List HeartbeatEvent) (h : Heartbeat)
    (hrun : exec (Heartbeat.step c) .init es = some h) :
    (∀ (i j : Nat) (t u : MonitorTask), h.spawned[i]? = some t → h.spawned[j]? = some u →
      t.runId = u.runId → t.live = true → u.live = true → i = j) ∧
    (∀ task ∈ h.daemon.tasks, ∀ id, task.recovering = some id → ∀ (i : Nat) (t : MonitorTask),
      h.spawned[i]? = some t → t.runId = id → t.phase = .watching → t.live = true →
      ∃ (j : Nat) (u : MonitorTask), h.spawned[j]? = some u ∧ u.runId = id ∧
        u.phase = .handling ∧ u.cancelled = true) ∧
    ∀ tick h', h.tick = some tick → h.step c .checkRuns = some h' →
      (∀ id ∈ tick.stopped, ∀ (i : Nat) (t : MonitorTask), h'.spawned[i]? = some t →
        t.runId = id → t.live = false) ∧
      ∀ id entry, (id, entry) ∈ tick.running → entry.tmuxSession.isSome = true →
        (∃ (i : Nat) (t : MonitorTask), h'.spawned[i]? = some t ∧ t.runId = id ∧ t.live = true) ∨
          ∃ (i : Nat) (t : MonitorTask), h.monitors id = some i ∧ h.spawned[i]? = some t ∧
            t.phase = .finished ∧ h'.monitors id = none := by
  have H := Inv.run hrun
  refine ⟨?_, ?_, ?_⟩
  · intro i j t u ht hu hsame htlive hulive
    have hi := H.tracked.live i t ht htlive
    have hj := H.tracked.live j u hu hulive
    rw [hsame, hj] at hi
    exact (Option.some.inj hi).symm
  · intro task htask id hid i t ht hrunId hwatch hlive
    obtain ⟨j, u, hu, hrunId', hhandling⟩ := H.recovering task htask id hid
    refine ⟨j, u, hu, hrunId', hhandling, ?_⟩
    by_contra hcancelled
    have hulive : u.live = true := by
      rw [Bool.not_eq_true] at hcancelled
      simp [MonitorTask.live, hcancelled, hhandling]
    have hi := H.tracked.live i t ht hlive
    have hj := H.tracked.live j u hu hulive
    rw [hrunId] at hi
    rw [hrunId', hi] at hj
    cases hj
    rw [ht] at hu
    cases hu
    rw [hwatch] at hhandling
    cases hhandling
  · intro tick h' htick hstep
    obtain ⟨tick', htick', rfl⟩ := Option.map_eq_some_iff.mp hstep
    rw [htick] at htick'
    cases htick'
    constructor
    · intro id hid i t ht hrunId
      exact not_live_checkRuns H.tracked hid (H.tick tick htick id hid) ht hrunId
    · intro id entry hmem hsession
      exact live_checkRuns H.tracked hmem hsession

/-- A run is started, and a tick finds it. -/
def startedRun : List HeartbeatEvent :=
  (PendingRun.plain "a1" "one.md" "/a").startActions.map .act ++ [.readRuns, .checkRuns]

/-- The started run has a monitor, and no second one. -/
theorem one_monitor_for_started_run :
    ∃ h, exec (Heartbeat.step ⟨.plain, 0⟩) .init startedRun = some h ∧
      h.spawned = [{ runId := "a1" }] ∧
      ∀ (i j : Nat) (t u : MonitorTask), h.spawned[i]? = some t → h.spawned[j]? = some u →
        t.runId = u.runId → t.live = true → u.live = true → i = j := by
  obtain ⟨h, hrun, hspawned⟩ := exists_of_any
    (o := exec (Heartbeat.step ⟨.plain, 0⟩) .init startedRun)
    (P := fun h => h.spawned = [{ runId := "a1" }]) (by decide)
  exact ⟨h, hrun, hspawned, (one_monitor_per_run ⟨.plain, 0⟩ startedRun h hrun).1⟩

/-! ## The daemon behind the heartbeat -/

/-- The monitor tasks that have not ended, as tasks of the daemon. -/
def watchTasks (spawned : List MonitorTask) : List Task :=
  (spawned.filter (·.phase = .watching)).map fun t => .monitor t.runId

/-- The runs that a tick may start monitors for. -/
def expectedTasks (tick : HeartbeatTick) : List Task :=
  (tick.running.filter (·.2.tmuxSession.isSome)).map fun run => .monitor run.1

/-- The tasks of the daemon, those the heartbeat runs, and those its tick may start. -/
def allTasks (h : Heartbeat) : List Task :=
  h.daemon.tasks ++ (watchTasks h.spawned ++ (h.tick.map expectedTasks).getD [])

/-- The daemon has the registry and all the tasks. -/
def Simulates (h : Heartbeat) (d : Daemon) : Prop :=
  d.registry = h.daemon.registry ∧ h.allTasks.Subperm d.tasks

/-- A daemon with more tasks can do the same. -/
theorem daemonStep_of_subperm {d d' D : Daemon} {a : Action} {extra : List Task}
    (hstep : daemonStep c d a = some d') (hreg : D.registry = d.registry)
    (hsub : (d.tasks ++ extra).Subperm D.tasks) :
    ∃ D', daemonStep c D a = some D' ∧ D'.registry = d'.registry ∧
      (d'.tasks ++ extra).Subperm D'.tasks := by
  have hexec := exec_of_daemonStep hstep
  have hactor : ∀ t, (a.scope c d.registry).actor = some t → t ∈ d.tasks :=
    fun _ ht => actor_mem_of_daemonStep hstep ht
  have htasks := tasks_of_daemonStep hstep
  refine ⟨⟨d'.registry, (a.scope c d.registry).follow ++
    (a.scope c d.registry).actor.elim D.tasks D.tasks.erase⟩, ?_, rfl, ?_⟩
  · rw [daemonStep, hreg, hexec, if_pos]
    · rfl
    · cases hcase : (a.scope c d.registry).actor with
      | none => rfl
      | some t =>
        rw [Option.all_some, decide_eq_true_eq]
        exact hsub.subset (List.mem_append_left _ (hactor t hcase))
  · rw [htasks, List.append_assoc]
    apply (List.subperm_append_left _).mpr
    cases hcase : (a.scope c d.registry).actor with
    | none => exact hsub
    | some t =>
      have herase := hsub.erase t
      rw [List.erase_append_left _ (hactor t hcase)] at herase
      exact herase

theorem watchTasks_modify {spawned : List MonitorTask} {i : Nat} {f : MonitorTask → MonitorTask}
    (hf : ∀ t, spawned[i]? = some t → (f t).runId = t.runId ∧
      ((f t).phase = .watching ↔ t.phase = .watching)) :
    watchTasks (spawned.modify i f) = watchTasks spawned := by
  induction spawned generalizing i with
  | nil => rw [List.modify_nil]
  | cons t spawned ih =>
    cases i with
    | zero =>
      obtain ⟨hrun, hphase⟩ := hf t rfl
      simp only [watchTasks, List.modify_zero_cons, List.filter_cons, hphase]
      split
      · rw [List.map_cons, List.map_cons, hrun]
      · rfl
    | succ i =>
      have hrest := ih (i := i) hf
      simp only [watchTasks] at hrest
      simp only [watchTasks, List.modify_succ_cons, List.filter_cons]
      split
      · rw [List.map_cons, List.map_cons, hrest]
      · exact hrest

/-- A task that ends leaves the ones that watch. -/
theorem watchTasks_ends {spawned : List MonitorTask} {i : Nat} {t : MonitorTask}
    (ht : spawned[i]? = some t) (hphase : t.phase = .watching) :
    (watchTasks spawned).Perm (.monitor t.runId ::
      watchTasks (spawned.modify i fun t => { t with phase := .handling })) := by
  induction spawned generalizing i with
  | nil => cases ht
  | cons u spawned ih =>
    cases i with
    | zero =>
      cases ht
      simp [watchTasks, hphase]
    | succ i =>
      have hrest := ih (i := i) ht
      simp only [watchTasks] at hrest
      simp only [watchTasks, List.modify_succ_cons, List.filter_cons]
      split
      · rw [List.map_cons, List.map_cons]
        exact (hrest.cons _).trans (.swap _ _ _)
      · exact hrest

theorem watchTasks_cancelMonitor (h : Heartbeat) (runId : String) :
    watchTasks (h.cancelMonitor runId).spawned = watchTasks h.spawned := by
  rw [cancelMonitor]
  split
  · rfl
  · exact watchTasks_modify fun _ _ => ⟨rfl, .rfl⟩

theorem watchTasks_spawnMonitors (h : Heartbeat) (runs : List (String × RunEntry)) :
    (watchTasks (h.spawnMonitors runs).spawned).Sublist
      (watchTasks h.spawned ++
        (runs.filter (·.2.tmuxSession.isSome)).map fun run => .monitor run.1) := by
  induction runs generalizing h with
  | nil =>
    rw [List.filter_nil, List.map_nil, List.append_nil]
    exact .refl _
  | cons run runs ih =>
    have hrest := ih (h.spawnMonitor run.1 run.2)
    rcases h.spawnMonitor_cases run.1 run.2 with ⟨hkept, -⟩ | ⟨-, hsession, hnew⟩
    · rw [hkept] at hrest
      refine List.Sublist.trans ?_ (hrest.trans (List.Sublist.append_left ?_ _))
      · rw [spawnMonitors, List.foldl_cons, hkept]
        exact .refl _
      · exact ((List.sublist_cons_self run runs).filter _).map _
    · rw [hnew] at hrest
      rw [spawnMonitors, List.foldl_cons, hnew, List.filter_cons, if_pos hsession, List.map_cons]
      simpa [watchTasks, spawnMonitors, List.filter_append] using hrest

theorem watchTasks_checkRuns (h : Heartbeat) (tick : HeartbeatTick) :
    (watchTasks (h.checkRuns tick).spawned).Sublist (watchTasks h.spawned ++ expectedTasks tick) := by
  have hcancel : ∀ (ids : List String) (g : Heartbeat),
      watchTasks (ids.foldl cancelMonitor g).spawned = watchTasks g.spawned := by
    intro ids
    induction ids with
    | nil => exact fun _ => rfl
    | cons id ids ih => exact fun g => (ih _).trans (watchTasks_cancelMonitor g id)
  have hspawn := watchTasks_spawnMonitors (tick.stopped.foldl cancelMonitor h) tick.running
  rw [hcancel] at hspawn
  exact hspawn

/-- The daemon can start a monitor for every run that a tick reads. -/
theorem exec_startMonitors (D : Daemon) (runs : List (String × RunEntry))
    (hruns : ∀ run ∈ runs, D.registry.get run.1 = some run.2 ∧ run.2.watchable = true) :
    ∃ as D', exec (daemonStep c) D as = some D' ∧ D'.registry = D.registry ∧
      (D.tasks ++ runs.map fun run => Task.monitor run.1).Subperm D'.tasks := by
  induction runs generalizing D with
  | nil =>
    refine ⟨[], D, rfl, rfl, ?_⟩
    rw [List.map_nil, List.append_nil]
  | cons run runs ih =>
    obtain ⟨⟨hget, hwatch⟩, hrest⟩ := List.forall_mem_cons.mp hruns
    have hfound : (D.registry.get run.1).filter (·.watchable) = some run.2 := by
      rw [hget, Option.filter_some, if_pos hwatch]
    have hstep : daemonStep c D (.startMonitor run.1) =
        some ⟨D.registry, .monitor run.1 :: D.tasks⟩ := by
      simp [daemonStep, Action.scope, hfound]
    obtain ⟨as, D', hexec, hreg, hsub⟩ := ih ⟨D.registry, .monitor run.1 :: D.tasks⟩ hrest
    refine ⟨.startMonitor run.1 :: as, D', exec_cons.mpr ⟨_, hstep, hexec⟩, hreg, ?_⟩
    refine List.Subperm.trans (List.Perm.subperm ?_) hsub
    rw [List.map_cons]
    exact List.perm_middle

theorem watchable_of_readRuns {r : RunRegistry} {run : String × RunEntry}
    (hrun : run ∈ r.readRuns.running) (hsession : run.2.tmuxSession.isSome = true) :
    r.get run.1 = some run.2 ∧ run.2.watchable = true := by
  simp only [RunRegistry.readRuns, List.mem_map, List.mem_filter] at hrun
  obtain ⟨⟨id, entry⟩, ⟨hentry, hactive⟩, rfl⟩ := hrun
  exact ⟨AList.mem_entries_iff.mp hentry, by rw [RunEntry.watchable, hactive, hsession]; rfl⟩

theorem Simulates.step {D : Daemon} (H : h.Simulates D) (hstep : h.step c e = some h') :
    ∃ as D', exec (daemonStep c) D as = some D' ∧ h'.Simulates D' := by
  obtain ⟨hreg, hsub⟩ := H
  cases e with
  | act a =>
    rw [Heartbeat.step] at hstep
    split at hstep
    · cases hstep
    · obtain ⟨d, hd, rfl⟩ := Option.map_eq_some_iff.mp hstep
      obtain ⟨D', hD, hreg', hsub'⟩ := daemonStep_of_subperm hd hreg hsub
      exact ⟨[a], D', by rw [exec_singleton, hD], hreg', hsub'⟩
  | readRuns =>
    rw [Heartbeat.step] at hstep
    split at hstep
    · cases hstep
    · next hnone =>
      cases hstep
      have hruns : ∀ run ∈ h.daemon.registry.readRuns.running.filter (·.2.tmuxSession.isSome),
          D.registry.get run.1 = some run.2 ∧ run.2.watchable = true := by
        intro run hrun
        obtain ⟨hrun, hsession⟩ := List.mem_filter.mp hrun
        rw [hreg]
        exact watchable_of_readRuns hrun hsession
      obtain ⟨as, D', hexec, hreg', hsub'⟩ := exec_startMonitors (c := c) D _ hruns
      refine ⟨as, D', hexec, hreg'.trans hreg, List.Subperm.trans ?_ hsub'⟩
      have hall : h.allTasks = h.daemon.tasks ++ watchTasks h.spawned := by
        rw [allTasks, Option.not_isSome_iff_eq_none.mp hnone, Option.map_none, Option.getD_none,
          List.append_nil]
      rw [hall] at hsub
      rw [allTasks, ← List.append_assoc]
      exact (List.subperm_append_right _).mpr hsub
  | checkRuns =>
    obtain ⟨tick, htick, rfl⟩ := Option.map_eq_some_iff.mp hstep
    refine ⟨[], D, rfl, ?_, List.Subperm.trans ?_ hsub⟩
    · rw [daemon_checkRuns]
      exact hreg
    · rw [allTasks, allTasks, htick, daemon_checkRuns]
      apply (List.subperm_append_left _).mpr
      rw [Option.map_none, Option.getD_none, List.append_nil]
      exact (watchTasks_checkRuns h tick).subperm
  | cancel runId =>
    cases hstep
    refine ⟨[], D, rfl, ?_, ?_⟩
    · rw [(cancelMonitor_kept h runId).1]
      exact hreg
    · rw [allTasks, watchTasks_cancelMonitor, (cancelMonitor_kept h runId).1,
        (cancelMonitor_kept h runId).2]
      exact hsub
  | ends i outcome now =>
    obtain ⟨t, ht, hstep⟩ := Option.bind_eq_some_iff.mp hstep
    obtain ⟨ht, hwatch⟩ := Option.filter_eq_some_iff.mp ht
    obtain ⟨d, hd, rfl⟩ := Option.map_eq_some_iff.mp hstep
    have hends := watchTasks_ends ht (of_decide_eq_true hwatch)
    have hbefore : ((.monitor t.runId :: h.daemon.tasks) ++
        (watchTasks (h.setPhase i .handling).spawned ++
          (h.tick.map expectedTasks).getD [])).Subperm D.tasks := by
      refine List.Subperm.trans (List.Perm.subperm ?_) hsub
      exact List.perm_middle.symm.trans ((hends.symm.append_right _).append_left _)
    obtain ⟨D', hD, hreg', hsub'⟩ := daemonStep_of_subperm hd hreg hbefore
    exact ⟨[_], D', by rw [exec_singleton, hD], hreg', hsub'⟩
  | finish i =>
    obtain ⟨t, ht, hstep⟩ := Option.bind_eq_some_iff.mp hstep
    obtain ⟨ht, hhandling⟩ := Option.filter_eq_some_iff.mp ht
    split at hstep
    · cases hstep
    · cases hstep
      refine ⟨[], D, rfl, hreg, ?_⟩
      have hkept : watchTasks (h.setPhase i .finished).spawned = watchTasks h.spawned := by
        apply watchTasks_modify
        intro u hu
        rw [ht] at hu
        cases hu
        have hphase : t.phase = .handling := of_decide_eq_true hhandling
        exact ⟨rfl, by simp [hphase]⟩
      rw [allTasks, hkept]
      exact hsub

/-- **The heartbeat adds nothing to the daemon.** Whatever the daemon comes to with its heartbeat
and its map of monitors, it comes to with monitors that start and end at any time. -/
theorem heartbeat_refines_daemon (c : DaemonConfig) (es : List HeartbeatEvent) (h : Heartbeat)
    (hrun : exec (Heartbeat.step c) .init es = some h) :
    ∃ as d, exec (daemonStep c) .init as = some d ∧ d.registry = h.daemon.registry ∧
      h.allTasks.Subperm d.tasks := by
  have hreach := exec_preserves
    (I := fun h : Heartbeat => ∃ as d, exec (daemonStep c) .init as = some d ∧ h.Simulates d)
    (fun h e h' hstep ⟨as, d, hexec, H⟩ => by
      obtain ⟨as', d', hexec', H'⟩ := H.step hstep
      exact ⟨as ++ as', d', exec_append.mpr ⟨d, hexec, hexec'⟩, H'⟩)
    hrun ⟨[], .init, rfl, rfl, List.nil_subperm⟩
  exact hreach

/-- The daemon without the map comes to the started run and its monitor. -/
theorem daemon_behind_started_run :
    ∃ h as d, exec (Heartbeat.step ⟨.plain, 0⟩) .init startedRun = some h ∧
      exec (daemonStep ⟨.plain, 0⟩) .init as = some d ∧ d.registry = h.daemon.registry ∧
      Task.monitor "a1" ∈ d.tasks := by
  obtain ⟨h, hrun, hspawned⟩ := exists_of_any
    (o := exec (Heartbeat.step ⟨.plain, 0⟩) .init startedRun)
    (P := fun h => h.spawned = [{ runId := "a1" }]) (by decide)
  obtain ⟨as, d, hexec, hreg, hsub⟩ := heartbeat_refines_daemon ⟨.plain, 0⟩ startedRun h hrun
  refine ⟨h, as, d, hrun, hexec, hreg, hsub.subset ?_⟩
  simp [allTasks, watchTasks, hspawned]

end Heartbeat

end GreaterWill
