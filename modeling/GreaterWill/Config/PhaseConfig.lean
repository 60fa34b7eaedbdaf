import Mathlib.Data.List.Nodup
import GreaterWill.Checkpoint.PhaseOrder

/-!
# The configuration of the phase groups

`PhaseConfig` of `config/phase_config.rs` and its validation. A configuration that is accepted has
different group names and a timeout, and none of its phases is unknown or stands twice; it need not
cover the phases or follow their order.
-/

namespace GreaterWill

/-- Global settings for phase execution. -/
structure Settings where
  /-- In minutes. -/
  defaultTimeoutMin : UInt32
  /-- Seconds before nudging an idle session. -/
  idleNudgeAfterSec : UInt64
  /-- Seconds before killing an idle session. -/
  idleKillAfterSec : UInt64

/-- A group of related phases that run together. -/
structure PhaseGroup where
  name : String
  phases : List String
  /-- The skill command to run for this group. -/
  skillCommand : String
  /-- In minutes. -/
  timeoutMin : UInt32
  /-- Optional condition to skip this group. -/
  skipIf : Option String := none

structure PhaseConfig where
  settings : Settings
  groups : List PhaseGroup

/-- All 41 known Rune arc phases. -/
def KNOWN_PHASES : List String := [
  -- Group A: forge → verification
  "forge",
  "forge_qa",
  "plan_review",
  "plan_refine",
  "verification",
  -- Group B: semantic → task_decomp
  "semantic_verification",
  "design_extraction",
  "design_prototype",
  "task_decomposition",
  -- Group C: work
  "work",
  -- Group D: work_qa → verify_inspect
  "work_qa",
  "drift_review",
  "storybook_verification",
  "design_verification",
  "design_verification_qa",
  "ux_verification",
  "gap_analysis",
  "gap_analysis_qa",
  "codex_gap_analysis",
  "gap_remediation",
  "inspect",
  "inspect_fix",
  "verify_inspect",
  -- Group E: goldmask → verify_mend
  "goldmask_verification",
  "code_review",
  "code_review_qa",
  "goldmask_correlation",
  "mend",
  "mend_qa",
  "verify_mend",
  -- Group F: design_iter → test
  "design_iteration",
  "test",
  "test_qa",
  -- Group G: coverage → merge
  "test_coverage_critique",
  "deploy_verify",
  "pre_ship_validation",
  "release_quality_check",
  "ship",
  "bot_review_wait",
  "pr_comment_resolution",
  "merge"]

theorem KNOWN_PHASES_eq : KNOWN_PHASES = PHASE_ORDER := rfl

namespace PhaseConfig

/-- The `Debug` text of the phase names. -/
def debugNames (names : List String) : String :=
  "[" ++ ", ".intercalate (names.map fun name => s!"\"{name}\"") ++ "]"

/-- The check of the group names. -/
def checkNames (seen : List String) : List PhaseGroup → Except String Unit
  | [] => .ok ()
  | group :: groups =>
    if group.name ∈ seen then .error s!"Duplicate group name: {group.name}"
    else checkNames (group.name :: seen) groups

/-- The check of the phases of one group; `seen` are those of the groups before it. -/
def checkPhases (name : String) (seen : List String) : List String → Except String (List String)
  | [] => .ok seen
  | phase :: phases =>
    if phase ∉ KNOWN_PHASES then
      .error (s!"Unknown phase '{phase}' in group '{name}'. Known phases: " ++
        debugNames KNOWN_PHASES)
    else if phase ∈ seen then .error s!"Duplicate phase '{phase}' found in group '{name}'"
    else checkPhases name (phase :: seen) phases

def checkGroups (seen : List String) : List PhaseGroup → Except String Unit
  | [] => .ok ()
  | group :: groups =>
    match checkPhases group.name seen group.phases with
    | .error e => .error e
    | .ok seen => checkGroups seen groups

/-- `validate`; phases without a group and an idle kill before the nudge are only logged. -/
def validate (c : PhaseConfig) : Except String Unit :=
  match checkNames [] c.groups with
  | .error e => .error e
  | .ok () =>
    match checkGroups [] c.groups with
    | .error e => .error e
    | .ok () =>
      if c.settings.defaultTimeoutMin = 0 then .error "default_timeout_min must be greater than 0"
      else .ok ()

end PhaseConfig

/-- A configuration that `validate` accepts. -/
structure ValidConfig extends PhaseConfig where
  validated : toPhaseConfig.validate = .ok ()

namespace PhaseConfig
variable {seen seen' phases : List String} {groups : List PhaseGroup} {name : String}

theorem checkNames_ok : checkNames seen groups = .ok () ↔
    (groups.map (·.name)).Nodup ∧ ∀ group ∈ groups, group.name ∉ seen := by
  induction groups generalizing seen with
  | nil => simp [checkNames]
  | cons group groups ih =>
    rw [checkNames]
    split
    · next hseen => simp [hseen]
    · next hseen =>
      rw [ih, List.map_cons, List.nodup_cons, List.forall_mem_cons]
      constructor
      · rintro ⟨hnodup, hnew⟩
        refine ⟨⟨?_, hnodup⟩, hseen, fun g hg => List.not_mem_of_not_mem_cons (hnew g hg)⟩
        intro hmem
        obtain ⟨g, hg, hname⟩ := List.mem_map.mp hmem
        exact List.ne_of_not_mem_cons (hnew g hg) hname
      · rintro ⟨⟨hother, hnodup⟩, -, hnew⟩
        refine ⟨hnodup, fun g hg => List.not_mem_cons_of_ne_of_not_mem ?_ (hnew g hg)⟩
        intro hname
        exact hother (List.mem_map.mpr ⟨g, hg, hname⟩)

theorem checkPhases_ok : checkPhases name seen phases = .ok seen' ↔
    phases.Nodup ∧ (∀ phase ∈ phases, phase ∈ KNOWN_PHASES ∧ phase ∉ seen) ∧
      seen' = phases.reverse ++ seen := by
  induction phases generalizing seen with
  | nil => simp [checkPhases, eq_comm]
  | cons phase phases ih =>
    rw [checkPhases]
    split
    · next hunknown => simp [hunknown]
    · next hknown =>
      split
      · next hseen => simp [hseen]
      · next hseen =>
        rw [ih, List.nodup_cons, List.forall_mem_cons]
        have hknown' := not_not.mp hknown
        constructor
        · rintro ⟨hnodup, hnew, rfl⟩
          refine ⟨⟨?_, hnodup⟩, ⟨⟨hknown', hseen⟩, ?_⟩, by simp⟩
          · intro hmem
            exact (hnew phase hmem).2 List.mem_cons_self
          · intro p hp
            exact ⟨(hnew p hp).1, fun hmem => (hnew p hp).2 (List.mem_cons_of_mem phase hmem)⟩
        · rintro ⟨⟨hother, hnodup⟩, ⟨-, hnew⟩, rfl⟩
          refine ⟨hnodup, ?_, by simp⟩
          intro p hp
          refine ⟨(hnew p hp).1, fun hmem => ?_⟩
          rcases List.mem_cons.mp hmem with rfl | hmem
          · exact hother hp
          · exact (hnew p hp).2 hmem

theorem checkGroups_ok : checkGroups seen groups = .ok () ↔
    (groups.flatMap (·.phases)).Nodup ∧
      ∀ phase ∈ groups.flatMap (·.phases), phase ∈ KNOWN_PHASES ∧ phase ∉ seen := by
  induction groups generalizing seen with
  | nil => simp [checkGroups]
  | cons group groups ih =>
    rw [checkGroups, List.flatMap_cons, List.nodup_append, List.forall_mem_append]
    split
    · next e herror =>
      refine ⟨nofun, ?_⟩
      rintro ⟨⟨hnodup, -, -⟩, hnew, -⟩
      rw [checkPhases_ok.mpr ⟨hnodup, hnew, rfl⟩] at herror
      cases herror
    · next seen' hok =>
      obtain ⟨hnodup, hnew, rfl⟩ := checkPhases_ok.mp hok
      rw [ih]
      constructor
      · rintro ⟨hrest, hother⟩
        refine ⟨⟨hnodup, hrest, ?_⟩, hnew, ?_⟩
        · rintro p hp q hq rfl
          exact (hother p hq).2 (by simp [hp])
        · intro p hp
          exact ⟨(hother p hp).1, fun hmem => (hother p hp).2 (by simp [hmem])⟩
      · rintro ⟨⟨-, hrest, hdisjoint⟩, -, hother⟩
        refine ⟨hrest, fun p hp => ⟨(hother p hp).1, ?_⟩⟩
        intro hmem
        rcases List.mem_append.mp hmem with hgroup | hseen
        · exact hdisjoint p (List.mem_reverse.mp hgroup) p hp rfl
        · exact (hother p hp).2 hseen

/-- What the validation checks. -/
theorem validate_ok {c : PhaseConfig} : c.validate = .ok () ↔
    (c.groups.map (·.name)).Nodup ∧ (c.groups.flatMap (·.phases)).Nodup ∧
      (∀ phase ∈ c.groups.flatMap (·.phases), phase ∈ PHASE_ORDER) ∧
      c.settings.defaultTimeoutMin ≠ 0 := by
  have hnames : checkNames [] c.groups = .ok () ↔ (c.groups.map (·.name)).Nodup := by
    simp [checkNames_ok]
  have hgroups : checkGroups [] c.groups = .ok () ↔ (c.groups.flatMap (·.phases)).Nodup ∧
      ∀ phase ∈ c.groups.flatMap (·.phases), phase ∈ PHASE_ORDER := by
    rw [← KNOWN_PHASES_eq]
    simp [checkGroups_ok]
  rw [← and_assoc (a := (c.groups.flatMap _).Nodup), ← hnames, ← hgroups, validate]
  split
  · next herror => simp [herror]
  · next hok =>
    split
    · next herror => simp [herror]
    · next hok' =>
      rw [hok, hok']
      simp

end PhaseConfig

end GreaterWill
