import GreaterWill.Daemon.DaemonSpec

/-!
# Queued runs that nobody waits for

A queued run is started by a drain, and drains come after runs that end. So while a run is queued
some run has to be Running, or a drain, spawn or recovery task has to be at work
(`Daemon.Unstranded`). A step keeps this if it leaves such a run or task behind (`GoesOn`); the
paths that end a run without a drain do not.
-/

namespace GreaterWill

open RunRegistry

/-- A drain, a spawn or a recovery. -/
def Task.isWork : Task → Bool
  | .spawnRun .. | .spawnQueued .. | .spawnAfter .. | .warmUp .. | .drainError ..
  | .drainIfAvailable .. | .recovery _ | .resolveRestart _ | .spawnRecovery _ => true
  | .tagSchedule .. | .stopDequeue _ | .stopInspect _ | .stopUpdate .. | .detach _
  | .updatePhase .. | .complete _ | .monitor _ => false

namespace RunRegistry

/-- The runs that a list of operations ends. -/
def endedBy (host : Host) (r : RunRegistry) (ops : List Op) : List String :=
  yields (opStep host) (fun r op => op.endedIds host r) r ops

/-- Some run is Running or is shown as running by the operations, and they do not end it. -/
def KeepsRunning (host : Host) (r : RunRegistry) (ops : List Op) : Prop :=
  ∃ run ∈ r.runs.entries, run.2.status.isTerminal = false ∧ run.1 ∉ r.endedBy host ops ∧
    (run.2.status = .running ∨ run.1 ∈ ops.flatMap Op.runningIds)

instance (host : Host) (r : RunRegistry) (ops : List Op) : Decidable (r.KeepsRunning host ops) :=
  inferInstanceAs (Decidable (∃ run ∈ r.runs.entries, run.2.status.isTerminal = false ∧
    run.1 ∉ r.endedBy host ops ∧
    (run.2.status = .running ∨ run.1 ∈ ops.flatMap Op.runningIds)))

end RunRegistry

/-- The step leaves no run queued, or a run is Running that it does not end or that it shows as
running, or another drain, spawn or recovery is at work, or the step starts one. -/
def GoesOn (c : DaemonConfig) (d : Daemon) (a : Action) : Prop :=
  ((exec (opStep c.host) d.registry (a.scope c d.registry).ops).all
      (·.pendingEntries.isEmpty)) = true ∨
    d.registry.KeepsRunning c.host (a.scope c d.registry).ops ∨
    (∃ t ∈ (a.scope c d.registry).actor.elim d.tasks d.tasks.erase, t.isWork = true) ∨
    ∃ t ∈ (a.scope c d.registry).follow, t.isWork = true

instance GoesOn.decidable (c : DaemonConfig) (d : Daemon) (a : Action) :
    Decidable (GoesOn c d a) :=
  inferInstanceAs (Decidable (_ ∨ _ ∨ _ ∨ _))

section
variable {c : DaemonConfig} {d d' : Daemon} {a : Action} {host : Host} {r r' : RunRegistry}
  {op : Op} {ops : List Op} {id : String} {e : RunEntry}

end

end GreaterWill
