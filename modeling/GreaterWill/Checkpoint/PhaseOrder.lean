/-! # The canonical order of the arc phases -/

namespace GreaterWill

/-- Canonical order of all Rune arc phases; `phase_sequence` indexes into it. -/
def PHASE_ORDER : List String := [
  -- Group A: Planning & Forge
  "forge",
  "forge_qa",
  -- Group B: Plan Review
  "plan_review",
  "plan_refine",
  -- Group C: Verification
  "verification",
  "semantic_verification",
  -- Group D: Design
  "design_extraction",
  "design_prototype",
  -- Group E: Work Execution
  "task_decomposition",
  "work",
  "work_qa",
  "drift_review",
  -- Group F: Design Verification
  "storybook_verification",
  "design_verification",
  "design_verification_qa",
  "ux_verification",
  -- Group G: Gap Analysis
  "gap_analysis",
  "gap_analysis_qa",
  "codex_gap_analysis",
  "gap_remediation",
  -- Group H: Inspection
  "inspect",
  "inspect_fix",
  "verify_inspect",
  "goldmask_verification",
  -- Group I: Code Review
  "code_review",
  "code_review_qa",
  "goldmask_correlation",
  -- Group J: Remediation
  "mend",
  "mend_qa",
  "verify_mend",
  "design_iteration",
  -- Group K: Testing
  "test",
  "test_qa",
  "test_coverage_critique",
  -- Group L: Deployment
  "deploy_verify",
  "pre_ship_validation",
  "release_quality_check",
  -- Group M: Ship & Merge
  "ship",
  "bot_review_wait",
  "pr_comment_resolution",
  "merge"]

/-- Total number of phases in the arc pipeline. -/
def PHASE_COUNT : Nat := PHASE_ORDER.length

/-- Find the index of a phase by name. -/
def phaseIndex (phaseName : String) : Option Nat := PHASE_ORDER.findIdx? (· == phaseName)

/-- Get the phase name at a given index. -/
def phaseAt (index : Nat) : Option String := PHASE_ORDER[index]?

theorem phaseAt_terminal : phaseAt (PHASE_COUNT - 1) = some "merge" := rfl

theorem phaseIndex_ship : phaseIndex "ship" = some 37 := by decide

end GreaterWill
