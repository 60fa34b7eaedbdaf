import GreaterWill.Checkpoint.PhaseInference
import GreaterWill.Checkpoint.Handoff

/-!
# The near-completion gate around `ship`

`is_near_completion` accepts what a monitor reads off the pane only from `ship` on. That a skipped
terminal phase is no signal is said at each of its questions, and the last of them is still asked of
the inferred position, which a skipped terminal phase ends.
-/

namespace GreaterWill

variable {before after : List String} {name target : String} {idx : Nat}

theorem phasesBefore_eq (h : phaseIndex target = some idx) :
    phasesBefore target = PHASE_ORDER.take idx := by
  rw [phasesBefore, h]

theorem phasesBefore_of_split (hsplit : PHASE_ORDER = before ++ name :: after) :
    phasesBefore name = before := by
  rw [phasesBefore_eq (Checkpoint.phaseIndex_of_split hsplit), hsplit, List.take_left]

theorem mem_phasesBefore_iff (hsplit : PHASE_ORDER = before ++ name :: after)
    (htarget : phaseIndex target = some idx) :
    name ∈ phasesBefore target ↔ before.length < idx := by
  have hfresh : name ∉ before := by
    have hnodup := Checkpoint.nodup_PHASE_ORDER
    rw [hsplit, List.nodup_append] at hnodup
    intro hmem
    exact hnodup.2.2 name hmem name List.mem_cons_self rfl
  rw [phasesBefore_eq htarget, hsplit, List.take_append, List.mem_append]
  constructor
  · rintro (h | h)
    · exact absurd (List.mem_of_mem_take h) hfresh
    · by_contra hle
      rw [Nat.sub_eq_zero_of_le (Nat.le_of_not_lt hle)] at h
      cases h
  · intro hlt
    obtain ⟨n, hn⟩ := Nat.exists_eq_add_of_lt hlt
    have hsub : idx - before.length = n + 1 := by omega
    rw [hsub, List.take_succ_cons]
    exact .inr List.mem_cons_self

/-- There is one place of a phase in the order. -/
theorem after_unique {before' after' : List String} (hsplit : PHASE_ORDER = before ++ name :: after)
    (hsplit' : PHASE_ORDER = before' ++ name :: after') : after = after' := by
  have hlength := Checkpoint.phaseIndex_of_split hsplit
  rw [Checkpoint.phaseIndex_of_split hsplit', Option.some.injEq] at hlength
  rw [← Checkpoint.drop_of_split hsplit, ← Checkpoint.drop_of_split hsplit', hlength]

theorem ne_empty_of_mem (h : name ∈ PHASE_ORDER) : name.isEmpty = false := by
  have hall : ∀ name ∈ PHASE_ORDER, name.isEmpty = false := by decide
  exact hall name h

/-- A known phase splits the order at its index. -/
theorem split_of_phaseIndex (h : phaseIndex target = some idx) :
    ∃ after, PHASE_ORDER = phasesBefore target ++ target :: after ∧
      (phasesBefore target).length = idx := by
  have hmem : target ∈ PHASE_ORDER := by
    rw [phaseIndex, List.findIdx?_eq_some_iff_getElem] at h
    obtain ⟨hlt, heq, -⟩ := h
    rw [← eq_of_beq heq]
    exact List.getElem_mem hlt
  obtain ⟨before, after, hsplit⟩ := List.append_of_mem hmem
  rw [Checkpoint.phaseIndex_of_split hsplit, Option.some.injEq] at h
  rw [phasesBefore_of_split hsplit]
  exact ⟨after, hsplit, h⟩

theorem notMem_phasesBefore : target ∉ phasesBefore target := by
  intro hmem
  cases hidx : phaseIndex target with
  | none =>
    rw [phasesBefore, hidx] at hmem
    cases hmem
  | some idx =>
    obtain ⟨after, hsplit, hlength⟩ := split_of_phaseIndex hidx
    rw [mem_phasesBefore_iff hsplit hidx, hlength] at hmem
    exact lt_irrefl idx hmem

theorem notMem_phasesBefore_of_after (hsplit : PHASE_ORDER = phasesBefore target ++ target :: after)
    (hmem : name ∈ after) : name ∉ phasesBefore target := by
  have hnodup := Checkpoint.nodup_PHASE_ORDER
  rw [hsplit, List.nodup_append] at hnodup
  intro hbefore
  exact hnodup.2.2 name hbefore name (List.mem_cons_of_mem target hmem) rfl

namespace Checkpoint

/-- The gate is shut while a phase before `ship` runs, and open once the first phase that runs is
`ship` or a later one. -/
structure ExactAroundShip (cp : Checkpoint) : Prop where
  before : cp.completedAt = none → ¬ cp.HasStatus "completed" "merge" →
    ∀ phase ∈ phasesBefore "ship", cp.HasStatus "in_progress" phase → cp.isNearCompletion = false
  fromShip : ∀ phase, First (cp.HasStatus "in_progress") PHASE_ORDER (some phase) →
    phase ∉ phasesBefore "ship" → cp.isNearCompletion = true

variable {cp : Checkpoint} {phase : String} {p : PhaseStatus}

theorem hasStatus_iff_any {status : String} :
    (cp.phases.lookup phase).any (·.status == status) = true ↔ cp.HasStatus status phase := by
  rw [Option.any_eq_true, HasStatus]
  simp

/-- A phase in progress has not reached a terminal status. -/
theorem HasStatus.not_all_terminal (h : cp.HasStatus "in_progress" phase) :
    ¬ ∀ name p, cp.phases.lookup name = some p → p.isTerminal = true := by
  obtain ⟨p, hp, hstatus⟩ := h
  intro hall
  have hterminal := hall phase p hp
  rw [PhaseStatus.isTerminal, hstatus] at hterminal
  exact absurd hterminal (by decide)

/-- With a phase in progress only the terminal phase or the timestamp completes the pipeline. -/
theorem isComplete_iff_of_running (h : cp.HasStatus "in_progress" phase) :
    cp.isComplete = true ↔
      cp.completedAt.isSome ∨ cp.HasStatus "completed" "merge" ∨
        cp.HasStatus "skipped" "merge" := by
  rw [isComplete_iff, isTerminalPhaseCompleted_iff]
  constructor
  · rintro (hat | ⟨p, hp, hdone⟩ | ⟨-, hall⟩)
    · exact .inl hat
    · rcases isDone_iff.mp hdone with hstatus | hstatus
      · exact .inr (.inl ⟨p, hp, hstatus⟩)
      · exact .inr (.inr ⟨p, hp, hstatus⟩)
    · exact absurd (fun name p hp => isTerminal_of_isDone (hall name p hp)) h.not_all_terminal
  · rintro (hat | ⟨p, hp, hstatus⟩ | ⟨p, hp, hstatus⟩)
    · exact .inl hat
    · exact .inr (.inl ⟨p, hp, isDone_iff.mpr (.inl hstatus)⟩)
    · exact .inr (.inl ⟨p, hp, isDone_iff.mpr (.inr hstatus)⟩)

/-- While some phase runs, the last question of the gate is about the first one that does. -/
theorem isNearCompletion_iff_of_running
    (h : First (cp.HasStatus "in_progress") PHASE_ORDER (some phase)) :
    cp.isNearCompletion = true ↔
      cp.completedAt.isSome ∨ cp.HasStatus "completed" "merge" ∨
        ¬ cp.HasStatus "skipped" "merge" ∧ phase ∉ phasesBefore "ship" := by
  rw [isNearCompletion_iff]
  have hterminal : ¬ (cp.phases ≠ ∅ ∧ ∀ name p, cp.phases.lookup name = some p →
      p.isTerminal = true) := fun hall => h.holds.not_all_terminal hall.2
  rw [or_iff_right hterminal]
  change _ ∨ cp.HasStatus "completed" "merge" ∨ _ ↔ _
  by_cases hat : cp.completedAt.isSome
  · exact iff_of_true (.inl hat) (.inl hat)
  by_cases hmerge : cp.HasStatus "completed" "merge"
  · exact iff_of_true (.inr (.inl hmerge)) (.inr (.inl hmerge))
  rw [or_iff_right hat, or_iff_right hat, or_iff_right hmerge, or_iff_right hmerge]
  by_cases hskipped : cp.HasStatus "skipped" "merge"
  · -- the skipped terminal phase has ended the inference
    have hcomplete := (isComplete_iff_of_running h.holds).mpr (.inr (.inr hskipped))
    rw [inferredPhaseName_of_isComplete hcomplete]
    simp [hskipped]
  · have hopen : cp.isComplete = false := by
      rw [← Bool.not_eq_true, isComplete_iff_of_running h.holds]
      simp [hat, hmerge, hskipped]
    obtain ⟨p, hp, -⟩ := h.holds
    have hrunning := inferPhasePosition_of_running hopen h hp
    obtain ⟨before, after, hsplit, -, -⟩ := h
    rw [inferredPhaseName, hrunning, PhasePosition.effectivePhase, Option.bind_some,
      phaseIndex_of_split hsplit, mem_phasesBefore_iff hsplit phaseIndex_ship]
    simp [hskipped]

/-- A phase before `ship` that runs stands not before the first one that does. -/
theorem first_mem_phasesBefore {first : String}
    (hfirst : First (cp.HasStatus "in_progress") PHASE_ORDER (some first))
    (hmem : phase ∈ phasesBefore target) (h : cp.HasStatus "in_progress" phase) :
    first ∈ phasesBefore target := by
  obtain ⟨before, after, hsplit, -, hbefore⟩ := hfirst
  cases hidx : phaseIndex target with
  | none =>
    rw [phasesBefore, hidx] at hmem
    cases hmem
  | some idx =>
    rw [mem_phasesBefore_iff hsplit hidx]
    by_contra hle
    rw [phasesBefore_eq hidx, hsplit, List.take_append_of_le_length (Nat.le_of_not_lt hle)] at hmem
    exact hbefore phase (List.mem_of_mem_take hmem) h

/-- Before `ship` the gate is shut whatever the other phases are. -/
theorem isNearCompletion_before_ship (hat : cp.completedAt = none)
    (hmerge : ¬ cp.HasStatus "completed" "merge") (hmem : phase ∈ phasesBefore "ship")
    (h : cp.HasStatus "in_progress" phase) : cp.isNearCompletion = false := by
  obtain ⟨first, hfirst⟩ := exists_first (cp.HasStatus "in_progress") PHASE_ORDER
  cases first with
  | none =>
    rw [phasesBefore_eq phaseIndex_ship] at hmem
    exact absurd h (hfirst phase (List.mem_of_mem_take hmem))
  | some first =>
    rw [← Bool.not_eq_true, isNearCompletion_iff_of_running hfirst, hat]
    have hearly := first_mem_phasesBefore hfirst hmem h
    simp [hmerge, hearly]

/-- The gate is exact around `ship` exactly if no terminal phase is skipped while `ship` or a later
phase is the first that runs, or the completion timestamp is set. -/
theorem exactAroundShip_iff : cp.ExactAroundShip ↔
    (cp.HasStatus "skipped" "merge" → cp.completedAt = none →
      ∀ phase, First (cp.HasStatus "in_progress") PHASE_ORDER (some phase) →
        phase ∈ phasesBefore "ship") := by
  constructor
  · intro hexact hskipped hat phase hfirst
    by_contra hmem
    have hnear := hexact.fromShip phase hfirst hmem
    rw [isNearCompletion_iff_of_running hfirst, hat] at hnear
    rcases hnear with h | h | ⟨h, -⟩
    · cases h
    · exact absurd (h.unique hskipped) (by decide)
    · exact h hskipped
  · intro h
    refine ⟨fun hat hmerge phase hmem => isNearCompletion_before_ship hat hmerge hmem, ?_⟩
    intro phase hfirst hmem
    rw [isNearCompletion_iff_of_running hfirst]
    cases hat : cp.completedAt with
    | some at' => exact .inl rfl
    | none => exact .inr (.inr ⟨fun hskipped => hmem (h hskipped hat phase hfirst), hmem⟩)

/-- An arc that is not to merge, in `ship`. -/
def unmergedShip : Checkpoint where
  id := "arc-1"
  planFile := "plan.md"
  phases := Dict.ofList [("ship", { status := "in_progress" }), ("merge", { status := "skipped" })]

/-- It ships, and the gate is shut. -/
theorem unmergedShip_shut :
    First (unmergedShip.HasStatus "in_progress") PHASE_ORDER (some "ship") ∧
      "ship" ∉ phasesBefore "ship" ∧ unmergedShip.isNearCompletion = false ∧
      ¬ unmergedShip.ExactAroundShip := by
  have hship : First (unmergedShip.HasStatus "in_progress") PHASE_ORDER (some "ship") := by
    refine (first_find? fun _ => hasStatus_iff_any).mpr ?_
    decide
  have hmem : "ship" ∉ phasesBefore "ship" := by decide
  have hshut : unmergedShip.isNearCompletion = false := by decide
  refine ⟨hship, hmem, hshut, fun hexact => ?_⟩
  have hopen := hexact.fromShip "ship" hship hmem
  rw [hshut] at hopen
  cases hopen

end Checkpoint

end GreaterWill
