import GreaterWill.Lib.Json
import GreaterWill.Checkpoint.PhaseOrder

/-!
# Arc checkpoints

The checkpoint of a Rune arc and the questions asked of it. Three predicates speak about the end
of the pipeline: `is_complete`, `is_terminal_phase_completed` and `is_near_completion`.
-/

namespace GreaterWill

/-- Status of a single arc phase. -/
structure PhaseStatus where
  /-- "pending", "in_progress", "completed", "skipped", "failed" or "cancelled" -/
  status : String := ""
  artifact : Option String := none
  artifactHash : Option String := none
  startedAt : Option String := none
  completedAt : Option String := none
  teamName : Option String := none
  /-- Phase-specific fields. -/
  extra : Dict Json := ∅

/-- Arc checkpoint: identity and phase progress. -/
structure Checkpoint where
  id : String
  schemaVersion : Option UInt32 := none
  planFile : String
  configDir : String := ""
  ownerPid : String := ""
  sessionId : String := ""
  /-- Status of each phase, keyed by phase name. -/
  phases : Dict PhaseStatus := ∅
  prUrl : Option String := none
  commits : List String := []
  startedAt : String := ""
  completedAt : Option String := none
  /-- Index into `PHASE_ORDER`; often stale. -/
  phaseSequence : Option UInt32 := none
  /-- Phases to skip, with the reason. -/
  skipMap : Option (Dict String) := none
  sessionNonce : Option String := none
  flags : Option Json := none
  arcConfig : Option Json := none
  qa : Option Json := none
  convergence : Option Json := none
  inspectConvergence : Option Json := none
  worktreeMeta : Option Json := none
  parentPlan : Option Json := none
  freshness : Option Json := none
  stagnation : Option Json := none
  codexCascade : Option Json := none
  reactions : Option Json := none
  reactionState : Option Json := none
  totals : Option Json := none
  phaseSkipLog : Option (List Json) := none
  /-- Unknown fields, kept for the write-back. -/
  extra : Dict Json := ∅

/-- Position of the pipeline as derived from the phase statuses. -/
inductive PhasePosition where
  /-- A phase is in progress. -/
  | running (phase : String) (startedAt : Option String)
  /-- Between phases. -/
  | transitioning (lastCompleted : String) (lastCompletedAt : Option String)
      (nextPending : String)
  /-- No phases have started yet. -/
  | waitingToStart (firstPending : String)
  /-- A phase has failed; the arc may be retrying or halted. -/
  | failed (failedPhase : String) (nextPending : Option String)
  | allDone
  | unknown
  deriving DecidableEq

namespace PhasePosition

def isTransitioning : PhasePosition → Bool
  | transitioning .. => true
  | _ => false

def hasFailure : PhasePosition → Bool
  | failed .. => true
  | _ => false

/-- The phase name for display and profile lookup. -/
def effectivePhase : PhasePosition → Option String
  | running phase _ => some phase
  | transitioning _ _ nextPending => if nextPending.isEmpty then none else some nextPending
  | failed failedPhase _ => some failedPhase
  | waitingToStart firstPending => some firstPending
  | _ => none

end PhasePosition

namespace PhaseStatus

/-- Completed or skipped. -/
def isDone (p : PhaseStatus) : Bool := p.status == "completed" || p.status == "skipped"

/-- Completed, skipped or cancelled, as `is_near_completion` asks of every phase. -/
def isTerminal (p : PhaseStatus) : Bool :=
  p.status == "completed" || p.status == "skipped" || p.status == "cancelled"

end PhaseStatus

namespace Checkpoint
variable (cp : Checkpoint)

/-- The phase `phase_sequence` stands for; the value `PHASE_COUNT` stands for the last one. -/
def currentPhase : Option String :=
  cp.phaseSequence.bind fun n =>
    let idx := n.toNat
    (phaseAt idx).or (if idx = PHASE_COUNT then phaseAt (PHASE_COUNT - 1) else none)

def isInSkipMap (phaseName : String) : Bool :=
  match cp.skipMap with
  | some skipMap => (skipMap.lookup phaseName).isSome
  | none => false

/-- Pending, in the map, and not in the skip map. -/
def isPhaseActionable (phaseName : String) : Bool :=
  if cp.isInSkipMap phaseName then false
  else (cp.phases.lookup phaseName).any fun p => p.status == "pending" || p.status.isEmpty

def nextActionablePhase : Option String := PHASE_ORDER.find? cp.isPhaseActionable

def nextActionablePhaseAfter (startIdx : Nat) : Option String :=
  (PHASE_ORDER.drop startIdx).find? cp.isPhaseActionable

/-- The terminal phase is completed or skipped. -/
def isTerminalPhaseCompleted : Bool :=
  ((phaseAt (PHASE_COUNT - 1)).bind cp.phases.lookup).any (·.isDone)

/-- The arc has completed. -/
def isComplete : Bool :=
  if cp.completedAt.isSome then true
  else if cp.isTerminalPhaseCompleted then true
  else !cp.phases.isEmpty && cp.phases.allValues (·.isDone)

/-- The first phase in the canonical order with the given status. -/
def firstWithStatus (status : String) : Option (String × PhaseStatus) :=
  PHASE_ORDER.findSome? fun name =>
    (cp.phases.lookup name).bind fun p => if p.status = status then some (name, p) else none

/-- The last completed phase in the canonical order. -/
def lastCompleted : Option (String × Option String) :=
  PHASE_ORDER.foldl (fun last name =>
    match cp.phases.lookup name with
    | some p => if p.status = "completed" then some (name, p.completedAt) else last
    | none => last) none

/-- Scan the phases in the canonical order to see where the pipeline is. -/
def inferPhasePosition : PhasePosition :=
  if cp.phases.isEmpty then .unknown
  else if cp.isComplete then .allDone
  else
    match cp.firstWithStatus "in_progress" with
    | some (name, p) => .running name p.startedAt
    | none =>
      match cp.firstWithStatus "failed" with
      | some (name, _) => .failed name cp.nextActionablePhase
      | none =>
        let lastCompleted := cp.lastCompleted
        let searchStart :=
          match lastCompleted.bind fun last => phaseIndex last.1 with
          | some i => i + 1
          | none => 0
        match lastCompleted, cp.nextActionablePhaseAfter searchStart with
        | some (last, completedAt), some next => .transitioning last completedAt next
        | some (last, _), none =>
          let lastIdx := (phaseIndex last).getD 0
          let terminalIdx := PHASE_COUNT - 1
          if cp.isComplete || terminalIdx ≤ lastIdx then .allDone
          else .transitioning last ((cp.phases.lookup last).bind (·.completedAt)) ""
        | none, some firstActionable => .waitingToStart firstActionable
        | none, none => .unknown

def inferredPhaseName : Option String := cp.inferPhasePosition.effectivePhase

/-- The index of the inferred phase, or `phase_sequence` where nothing can be inferred. -/
def effectivePhaseSequence : Option UInt32 :=
  ((cp.inferredPhaseName.bind phaseIndex).map UInt32.ofNat).or cp.phaseSequence

/-- Conservative check whether the pipeline is plausibly finishing. -/
def isNearCompletion : Bool :=
  if cp.completedAt.isSome then true
  -- the terminal phase completed; a skipped one proves nothing, `auto_merge=false` pre-writes it
  else if ((phaseAt (PHASE_COUNT - 1)).bind cp.phases.lookup).any (·.status == "completed") then
    true
  else if !cp.phases.isEmpty && cp.phases.allValues (·.isTerminal) then true
  else
    match phaseIndex "ship" with
    | some shipIdx => (cp.inferredPhaseName.bind phaseIndex).any (shipIdx ≤ ·)
    | none => false

end Checkpoint

end GreaterWill
