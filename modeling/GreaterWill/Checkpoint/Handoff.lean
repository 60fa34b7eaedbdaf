import GreaterWill.Checkpoint.Schema

/-!
# Handing a checkpoint to a session

What `gw` writes into a checkpoint: a fresh one for a plan, and the phases before the one a session
starts at, which are marked completed, or skipped where the skip map has them, so that the arc
resumes at that phase.
-/

namespace GreaterWill

/-- `SCHEMA_VERSION_MAX`. -/
def SCHEMA_VERSION_MAX : UInt32 := 30

/-- Create a "pending" status. -/
def PhaseStatus.pending : PhaseStatus where
  status := "pending"

namespace Checkpoint

/-- A checkpoint for a plan that has not started; `now` is the time of day as text. -/
def createFresh (id planFile configDir now : String) : Checkpoint where
  id
  schemaVersion := some SCHEMA_VERSION_MAX
  planFile
  configDir
  phases := Dict.ofList (PHASE_ORDER.map fun name => (name, .pending))
  startedAt := now
  phaseSequence := some 0

/-- Completed, skipped, or in the skip map. -/
def isPhaseDoneOrWillSkip (cp : Checkpoint) (phaseName : String) : Bool :=
  if cp.isInSkipMap phaseName then true else (cp.phases.lookup phaseName).any (·.isDone)

/-- One phase before the target. -/
def markPhase (now : String) (cp : Checkpoint) (phaseName : String) : Checkpoint :=
  let status := (cp.phases.lookup phaseName).getD .pending
  let status :=
    { status with
      status := if cp.isInSkipMap phaseName then "skipped" else "completed"
      completedAt := status.completedAt.or (some now) }
  { cp with phases := cp.phases.insert phaseName status }

/-- `mark_phases_completed_before`: an unknown target leaves the checkpoint as it is. -/
def markPhasesCompletedBefore (cp : Checkpoint) (now targetPhase : String) : Checkpoint :=
  match phaseIndex targetPhase with
  | none => cp
  | some targetIdx =>
    let cp := (PHASE_ORDER.take targetIdx).foldl (markPhase now) cp
    let phases :=
      match cp.phases.lookup targetPhase with
      | some _ => cp.phases
      | none => cp.phases.insert targetPhase .pending
    { cp with phases, phaseSequence := some (UInt32.ofNat targetIdx) }

end Checkpoint

/-- The phases before a phase in the canonical order; none for an unknown one. -/
def phasesBefore (phase : String) : List String :=
  match phaseIndex phase with
  | some idx => PHASE_ORDER.take idx
  | none => []

namespace Checkpoint
variable {cp : Checkpoint} {now phase target : String} {names : List String}

/-- The phases that are marked completed when a session starts at the target. -/
def markedCompleted (cp : Checkpoint) (target : String) : List String :=
  (phasesBefore target).filter fun name => !cp.isInSkipMap name

@[simp] theorem skipMap_markPhase : (cp.markPhase now phase).skipMap = cp.skipMap := rfl

theorem isInSkipMap_congr {cp' : Checkpoint} (h : cp'.skipMap = cp.skipMap) :
    cp'.isInSkipMap phase = cp.isInSkipMap phase := by
  rw [isInSkipMap, isInSkipMap, h]

theorem skipMap_foldl_markPhase :
    (names.foldl (markPhase now) cp).skipMap = cp.skipMap := by
  induction names generalizing cp with
  | nil => rfl
  | cons name names ih => exact ih.trans skipMap_markPhase

end Checkpoint

end GreaterWill
