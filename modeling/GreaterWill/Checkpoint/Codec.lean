import GreaterWill.Checkpoint.Schema

/-!
# Reading and writing checkpoints

The derived `Deserialize` and `Serialize` of `PhaseStatus` and `Checkpoint`. A declared field is
read and written with its own `Field`; the members an object has beyond the declared ones are
collected in `extra` and written back as they are.
-/

namespace GreaterWill

/-- A string that may be missing: `#[serde(default)]`. -/
def Field.text : Field String := .default .string "" rfl

namespace PhaseStatus

/-- The keys of the declared fields. -/
def declared : List String := [
  "status", "artifact", "artifact_hash", "started_at", "completed_at", "team_name"]

/-- The declared fields. -/
def fields : List (RecordField PhaseStatus) := [
  ⟨"status", .text, status⟩,
  ⟨"artifact", .skipNone .string, artifact⟩,
  ⟨"artifact_hash", .skipNone .string, artifactHash⟩,
  ⟨"started_at", .skipNone .string, startedAt⟩,
  ⟨"completed_at", .skipNone .string, completedAt⟩,
  ⟨"team_name", .skipNone .string, teamName⟩]

/-- `Deserialize`. -/
def decode (v : Json) : Option PhaseStatus := do
  let _ ← v.asObject
  return {
    status := ← Field.text.read (v.get "status")
    artifact := ← (Field.skipNone .string).read (v.get "artifact")
    artifactHash := ← (Field.skipNone .string).read (v.get "artifact_hash")
    startedAt := ← (Field.skipNone .string).read (v.get "started_at")
    completedAt := ← (Field.skipNone .string).read (v.get "completed_at")
    teamName := ← (Field.skipNone .string).read (v.get "team_name")
    extra := v.others declared }

theorem keys_fields : (fields).map (·.key) = declared := rfl

theorem decode_eq_some {v : Json} {r : PhaseStatus} : decode v = some r ↔
    v.asObject.isSome ∧ (∀ f ∈ fields, f.Reads v r) ∧ r.extra = v.others declared := by
  constructor
  · intro h
    rw [decode] at h
    simp only [↓Option.do_eq_some_iff, Option.pure_def, Option.some.injEq] at h
    obtain ⟨members, hobject, _, status, _, artifact, _, artifactHash, _, startedAt,
        _, completedAt, _, teamName, rfl⟩ := h
    refine ⟨Option.isSome_of_eq_some hobject, ?_, rfl⟩
    simp only [fields, List.forall_mem_cons, RecordField.Reads]
    exact ⟨status, artifact, artifactHash, startedAt,
        completedAt, teamName, List.forall_mem_nil _⟩
  · rintro ⟨hobject, hfields, extra⟩
    obtain ⟨members, hobject⟩ := Option.isSome_iff_exists.mp hobject
    simp only [fields, List.forall_mem_cons, RecordField.Reads] at hfields
    obtain ⟨status, artifact, artifactHash, startedAt, completedAt, teamName,
        -⟩ := hfields
    rw [decode]
    simp only [↓Option.do_eq_some_iff, Option.pure_def, Option.some.injEq]
    exact ⟨members, hobject, _, status, _, artifact, _, artifactHash, _, startedAt,
      _, completedAt, _, teamName, by rw [← extra]⟩

/-- Reading and writing as one. -/
def record : Record PhaseStatus where
  fields := fields
  others := extra
  decode := decode
  nodup_keys := by
    rw [keys_fields]
    decide
  decode_eq_some := by
    rw [keys_fields]
    exact decode_eq_some

end PhaseStatus

namespace Checkpoint

/-- The status of every phase, by its name. -/
def phasesField : Field (Dict PhaseStatus) :=
  .default (.dict PhaseStatus.record.codec) ∅ (Codec.dict_empty _)

def commitsField : Field (List String) := .default (.list .string) [] rfl

variable (display : Json → String)

/-- `string_or_number`: a string, or what another value is displayed as. -/
def stringOrNumber : Codec String where
  decode
    | .string s => some s
    | .number n => some (display (.number n))
    | .null => some ""
    | other => some (display other)
  encode := .string
  stable _ := rfl
  encode_ne_null _ _ h := nomatch h

/-- The keys of the declared fields. -/
def declared : List String := [
  "id", "schema_version", "plan_file", "config_dir", "owner_pid", "session_id", "phases", "pr_url",
  "commits", "started_at", "completed_at", "phase_sequence", "skip_map", "session_nonce", "flags",
  "arc_config", "qa", "convergence", "inspect_convergence", "worktree_meta", "parent_plan",
  "freshness", "stagnation", "codex_cascade", "reactions", "reaction_state", "totals",
  "phase_skip_log"]

/-- The declared fields. -/
def fields : List (RecordField Checkpoint) := [
  ⟨"id", .required .string, id⟩,
  ⟨"schema_version", .optional .u32, schemaVersion⟩,
  ⟨"plan_file", .required .string, planFile⟩,
  ⟨"config_dir", .text, configDir⟩,
  ⟨"owner_pid", .default (stringOrNumber display) "" rfl, ownerPid⟩,
  ⟨"session_id", .text, sessionId⟩,
  ⟨"phases", phasesField, phases⟩,
  ⟨"pr_url", .optional .string, prUrl⟩,
  ⟨"commits", commitsField, commits⟩,
  ⟨"started_at", .text, startedAt⟩,
  ⟨"completed_at", .skipNone .string, completedAt⟩,
  ⟨"phase_sequence", .optional .u32, phaseSequence⟩,
  ⟨"skip_map", .optional (.dict .string), skipMap⟩,
  ⟨"session_nonce", .skipNone .string, sessionNonce⟩,
  ⟨"flags", .skipNone .json, flags⟩,
  ⟨"arc_config", .skipNone .json, arcConfig⟩,
  ⟨"qa", .skipNone .json, qa⟩,
  ⟨"convergence", .skipNone .json, convergence⟩,
  ⟨"inspect_convergence", .skipNone .json, inspectConvergence⟩,
  ⟨"worktree_meta", .skipNone .json, worktreeMeta⟩,
  ⟨"parent_plan", .skipNone .json, parentPlan⟩,
  ⟨"freshness", .skipNone .json, freshness⟩,
  ⟨"stagnation", .skipNone .json, stagnation⟩,
  ⟨"codex_cascade", .skipNone .json, codexCascade⟩,
  ⟨"reactions", .skipNone .json, reactions⟩,
  ⟨"reaction_state", .skipNone .json, reactionState⟩,
  ⟨"totals", .skipNone .json, totals⟩,
  ⟨"phase_skip_log", .skipNone (.list .json), phaseSkipLog⟩]

/-- `Deserialize`. -/
def decode (v : Json) : Option Checkpoint := do
  let _ ← v.asObject
  return {
    id := ← (Field.required .string).read (v.get "id")
    schemaVersion := ← (Field.optional .u32).read (v.get "schema_version")
    planFile := ← (Field.required .string).read (v.get "plan_file")
    configDir := ← Field.text.read (v.get "config_dir")
    ownerPid := ← (Field.default (stringOrNumber display) "" rfl).read (v.get "owner_pid")
    sessionId := ← Field.text.read (v.get "session_id")
    phases := ← phasesField.read (v.get "phases")
    prUrl := ← (Field.optional .string).read (v.get "pr_url")
    commits := ← commitsField.read (v.get "commits")
    startedAt := ← Field.text.read (v.get "started_at")
    completedAt := ← (Field.skipNone .string).read (v.get "completed_at")
    phaseSequence := ← (Field.optional .u32).read (v.get "phase_sequence")
    skipMap := ← (Field.optional (.dict .string)).read (v.get "skip_map")
    sessionNonce := ← (Field.skipNone .string).read (v.get "session_nonce")
    flags := ← (Field.skipNone .json).read (v.get "flags")
    arcConfig := ← (Field.skipNone .json).read (v.get "arc_config")
    qa := ← (Field.skipNone .json).read (v.get "qa")
    convergence := ← (Field.skipNone .json).read (v.get "convergence")
    inspectConvergence := ← (Field.skipNone .json).read (v.get "inspect_convergence")
    worktreeMeta := ← (Field.skipNone .json).read (v.get "worktree_meta")
    parentPlan := ← (Field.skipNone .json).read (v.get "parent_plan")
    freshness := ← (Field.skipNone .json).read (v.get "freshness")
    stagnation := ← (Field.skipNone .json).read (v.get "stagnation")
    codexCascade := ← (Field.skipNone .json).read (v.get "codex_cascade")
    reactions := ← (Field.skipNone .json).read (v.get "reactions")
    reactionState := ← (Field.skipNone .json).read (v.get "reaction_state")
    totals := ← (Field.skipNone .json).read (v.get "totals")
    phaseSkipLog := ← (Field.skipNone (.list .json)).read (v.get "phase_skip_log")
    extra := v.others declared }

theorem keys_fields : (fields display).map (·.key) = declared := rfl

theorem decode_eq_some {v : Json} {r : Checkpoint} : decode display v = some r ↔
    v.asObject.isSome ∧ (∀ f ∈ fields display, f.Reads v r) ∧ r.extra = v.others declared := by
  constructor
  · intro h
    rw [decode] at h
    simp only [↓Option.do_eq_some_iff, Option.pure_def, Option.some.injEq] at h
    obtain ⟨members, hobject, _, id, _, schemaVersion, _, planFile, _, configDir, _, ownerPid,
        _, sessionId, _, phases, _, prUrl, h⟩ := h
    obtain ⟨_, commits, _, startedAt, _, completedAt,
        _, phaseSequence, _, skipMap, _, sessionNonce, _, flags, _, arcConfig, _, qa, h⟩ := h
    obtain ⟨_, convergence, _, inspectConvergence, _, worktreeMeta, _, parentPlan, _, freshness,
        _, stagnation, _, codexCascade, _, reactions, _, reactionState, _, totals, _, phaseSkipLog,
        rfl⟩ := h
    refine ⟨Option.isSome_of_eq_some hobject, ?_, rfl⟩
    simp only [fields, List.forall_mem_cons, RecordField.Reads]
    exact ⟨id, schemaVersion, planFile, configDir, ownerPid,
        sessionId, phases, prUrl, commits, startedAt, completedAt, phaseSequence, skipMap,
        sessionNonce, flags, arcConfig, qa, convergence, inspectConvergence, worktreeMeta,
        parentPlan, freshness, stagnation, codexCascade, reactions, reactionState, totals,
        phaseSkipLog, List.forall_mem_nil _⟩
  · rintro ⟨hobject, hfields, extra⟩
    obtain ⟨members, hobject⟩ := Option.isSome_iff_exists.mp hobject
    simp only [fields, List.forall_mem_cons, RecordField.Reads] at hfields
    obtain ⟨id, schemaVersion, planFile, configDir, ownerPid, sessionId, phases, prUrl,
        commits, startedAt, completedAt, phaseSequence, skipMap, sessionNonce, flags, arcConfig,
        qa, convergence, inspectConvergence, worktreeMeta, parentPlan, freshness, stagnation,
        codexCascade, reactions, reactionState, totals, phaseSkipLog, -⟩ := hfields
    rw [decode]
    simp only [↓Option.do_eq_some_iff, Option.pure_def, Option.some.injEq]
    exact ⟨members, hobject, _, id, _, schemaVersion, _, planFile, _, configDir, _, ownerPid,
      _, sessionId, _, phases, _, prUrl, _, commits, _, startedAt, _, completedAt,
      _, phaseSequence, _, skipMap, _, sessionNonce, _, flags, _, arcConfig, _, qa,
      _, convergence, _, inspectConvergence, _, worktreeMeta, _, parentPlan, _, freshness,
      _, stagnation, _, codexCascade, _, reactions, _, reactionState, _, totals, _, phaseSkipLog,
      by rw [← extra]⟩

/-- Reading and writing as one. -/
def record : Record Checkpoint where
  fields := fields display
  others := extra
  decode := decode display
  nodup_keys := by
    rw [keys_fields]
    decide
  decode_eq_some := by
    rw [keys_fields]
    exact decode_eq_some display

end Checkpoint

end GreaterWill
