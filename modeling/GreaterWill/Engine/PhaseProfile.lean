import GreaterWill.Checkpoint.Schema

/-!
# Phase profiles

Every arc phase belongs to a category, and the category decides how long the monitor waits and how
a crash is recovered from.
-/

namespace GreaterWill

/-- Grace buffer added to each phase's expected maximal duration, in seconds. -/
def GRACE_BUFFER_SECS : Nat := 5 * 60

/-- How to recover when a phase crashes. -/
inductive RecoveryStrategy where
  | freshStart
  | resume
  /-- Resume; a pull request may exist already. -/
  | resumeCheckPR
  deriving DecidableEq

inductive PhaseCategory where
  | planning
  | work
  | quality
  | remediation
  | testing
  | deploy
  | ship
  deriving DecidableEq

/-- Monitoring profile of a category; the times are in seconds. -/
structure PhaseProfile where
  category : PhaseCategory
  idleNudgeSecs : Nat
  idleKillSecs : Nat
  phaseTimeoutSecs : Nat
  /-- The phases typically spawn agent teams. -/
  hasAgentTeams : Bool
  recovery : RecoveryStrategy
  deriving DecidableEq

/-- The profile of a category: Rune's expected maximum and the grace buffer. -/
def PhaseCategory.profile : PhaseCategory → PhaseProfile
  | planning => ⟨planning, 180, 600, 15 * 60 + GRACE_BUFFER_SECS, false, .resume⟩
  | work => ⟨work, 600, 3600, 90 * 60 + GRACE_BUFFER_SECS, true, .resume⟩
  | quality => ⟨quality, 300, 1800, 30 * 60 + GRACE_BUFFER_SECS, true, .resume⟩
  | remediation => ⟨remediation, 300, 1800, 20 * 60 + GRACE_BUFFER_SECS, true, .resume⟩
  | testing => ⟨testing, 300, 1800, 30 * 60 + GRACE_BUFFER_SECS, false, .resume⟩
  | deploy => ⟨deploy, 120, 600, 10 * 60 + GRACE_BUFFER_SECS, false, .resume⟩
  | ship => ⟨ship, 300, 1800, 20 * 60 + GRACE_BUFFER_SECS, false, .resumeCheckPR⟩

/-- Resolve a phase name to its category. -/
def phaseCategory (phaseName : String) : Option PhaseCategory :=
  (phaseIndex phaseName).bind fun idx =>
    if idx ≤ 7 then some .planning
    else if idx ≤ 11 then some .work
    else if idx ≤ 26 then some .quality
    else if idx ≤ 30 then some .remediation
    else if idx ≤ 33 then some .testing
    else if idx ≤ 36 then some .deploy
    else if idx ≤ 40 then some .ship
    else none

/-- The monitoring profile for a phase name. -/
def profileForPhase (phaseName : String) : Option PhaseProfile :=
  (phaseCategory phaseName).map (·.profile)

/-- The profile of an unknown phase: long waits, agent teams assumed. -/
def defaultProfile : PhaseProfile :=
  ⟨.work, 300, 1800, 90 * 60 + GRACE_BUFFER_SECS, true, .resume⟩

/-- `Value::as_u64`. -/
def Json.asU64 : Json → Option Nat
  | number (.posInt n) => some n.toNat
  | _ => none

/-- The reaction whose escalation time stands for the time of a phase. -/
def reactionKey (phaseName : String) : Option String :=
  if phaseName ∈ ["work", "task_decomposition", "work_qa", "drift_review"] then
    some "work_incomplete"
  else if phaseName ∈ ["mend", "mend_qa", "verify_mend"] then some "mend_findings_exceeded"
  else if phaseName ∈ ["code_review", "code_review_qa"] then some "review_changes_requested"
  else none

/-- The phase timeout: from the phase times of the checkpoint, else from its reactions, else from
the profile. -/
def resolvePhaseTimeoutFull (phaseName : String) (checkpoint : Checkpoint)
    (profile : PhaseProfile) : Nat :=
  let fromPhaseTimes :=
    ((checkpoint.totals.bind (·.get "phase_times")).bind (·.get phaseName)).bind (·.asU64)
  match fromPhaseTimes with
  | some ms => ms / 1000 + GRACE_BUFFER_SECS
  | none =>
    let escalateMs := (reactionKey phaseName).bind fun key =>
      ((checkpoint.reactions.bind (·.get key)).bind (·.get "escalate_after_ms")).bind (·.asU64)
    match escalateMs with
    | some ms => ms / 1000 + GRACE_BUFFER_SECS
    | none => profile.phaseTimeoutSecs

end GreaterWill
