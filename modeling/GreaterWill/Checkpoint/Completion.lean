import GreaterWill.Checkpoint.Schema

/-!
# The questions about the end of a pipeline

`is_complete` takes a skipped terminal phase for the end; `is_near_completion` does not. A
checkpoint is complete and not near completion exactly if its terminal phase is skipped, it has no
completion timestamp, and some phase has not reached a terminal status (`SkippedEarly`).
-/

namespace GreaterWill.Checkpoint

/-- The terminal phase is skipped although some phase is still to run. -/
structure SkippedEarly (cp : Checkpoint) : Prop where
  completedAt : cp.completedAt = none
  merge : ∃ p, cp.phases.lookup "merge" = some p ∧ p.status = "skipped"
  unfinished : ∃ name p, cp.phases.lookup name = some p ∧ p.isTerminal = false

variable {cp : Checkpoint}

theorem isTerminal_of_isDone {p : PhaseStatus} (h : p.isDone = true) : p.isTerminal = true := by
  rw [PhaseStatus.isDone] at h
  rw [PhaseStatus.isTerminal, h]
  rfl

/-- There are phases, and all of them meet `p`. -/
theorem allPhases_iff {p : PhaseStatus → Bool} :
    (!cp.phases.isEmpty && cp.phases.allValues p) = true ↔
      cp.phases ≠ ∅ ∧ ∀ name q, cp.phases.lookup name = some q → p q = true := by
  rw [Bool.and_eq_true, Bool.not_eq_true', Dict.allValues_iff, ← Bool.not_eq_true,
    Dict.isEmpty_iff]

theorem isTerminalPhaseCompleted_iff : cp.isTerminalPhaseCompleted = true ↔
    ∃ p, cp.phases.lookup "merge" = some p ∧ p.isDone = true := by
  rw [isTerminalPhaseCompleted, phaseAt_terminal, Option.bind_some, Option.any_eq_true]

theorem isComplete_iff : cp.isComplete = true ↔
    cp.completedAt.isSome ∨ cp.isTerminalPhaseCompleted ∨
      cp.phases ≠ ∅ ∧ ∀ name p, cp.phases.lookup name = some p → p.isDone = true := by
  rw [isComplete, ← allPhases_iff]
  split
  · next h => simp [h]
  · next h =>
    split
    · next hterminal => simp [hterminal]
    · next hterminal => simp [h, hterminal]

theorem isNearCompletion_iff : cp.isNearCompletion = true ↔
    cp.completedAt.isSome ∨
      (∃ p, cp.phases.lookup "merge" = some p ∧ p.status = "completed") ∨
      (cp.phases ≠ ∅ ∧ ∀ name p, cp.phases.lookup name = some p → p.isTerminal = true) ∨
      ∃ i, cp.inferredPhaseName.bind phaseIndex = some i ∧ 37 ≤ i := by
  have hmerge : ((phaseAt (PHASE_COUNT - 1)).bind cp.phases.lookup).any
      (·.status == "completed") = true ↔
      ∃ p, cp.phases.lookup "merge" = some p ∧ p.status = "completed" := by
    rw [phaseAt_terminal, Option.bind_some, Option.any_eq_true]
    simp
  rw [isNearCompletion, phaseIndex_ship, ← hmerge, ← allPhases_iff]
  split
  · next h => simp [h]
  · next h =>
    split
    · next hmerged => simp [hmerged]
    · next hmerged =>
      split
      · next hall => simp [hall]
      · next hall => simp [h, hmerged, hall, Option.any_eq_true]

theorem isComplete_of_terminal (h : cp.isTerminalPhaseCompleted = true) :
    cp.isComplete = true :=
  isComplete_iff.mpr (.inr (.inl h))

/-- In a complete pipeline no phase is the current one. -/
theorem inferredPhaseName_of_isComplete (h : cp.isComplete = true) :
    cp.inferredPhaseName = none := by
  rw [inferredPhaseName, inferPhasePosition, h]
  split
  · rfl
  · rfl

/-- Where `is_complete` and `is_near_completion` differ. -/
theorem isComplete_and_not_near_iff :
    cp.isComplete = true ∧ cp.isNearCompletion = false ↔ cp.SkippedEarly := by
  constructor
  · rintro ⟨hcomplete, hnear⟩
    rw [← Bool.not_eq_true, isNearCompletion_iff] at hnear
    push Not at hnear
    obtain ⟨hopen, hmerge, hall, -⟩ := hnear
    have hterminal : cp.isTerminalPhaseCompleted = true := by
      rcases isComplete_iff.mp hcomplete with h | h | ⟨hne, hdone⟩
      · exact absurd h hopen
      · exact h
      · obtain ⟨name, p, hp, hnot⟩ := hall hne
        exact absurd (isTerminal_of_isDone (hdone name p hp)) hnot
    obtain ⟨p, hp, hdone⟩ := isTerminalPhaseCompleted_iff.mp hterminal
    have hne : cp.phases ≠ ∅ := by
      intro hempty
      rw [hempty, Finmap.lookup_empty] at hp
      cases hp
    obtain ⟨name, q, hq, hunfinished⟩ := hall hne
    exact {
      completedAt := by simpa using hopen
      merge := ⟨p, hp, by simpa [PhaseStatus.isDone, hmerge p hp] using hdone⟩
      unfinished := ⟨name, q, hq, by simpa using hunfinished⟩ }
  · rintro ⟨hopen, ⟨p, hp, hskipped⟩, name, q, hq, hunfinished⟩
    have hcomplete : cp.isComplete = true := by
      apply isComplete_of_terminal
      exact isTerminalPhaseCompleted_iff.mpr ⟨p, hp, by simp [PhaseStatus.isDone, hskipped]⟩
    refine ⟨hcomplete, ?_⟩
    rw [← Bool.not_eq_true, isNearCompletion_iff]
    rintro (h | ⟨p', hp', hcompleted⟩ | ⟨-, hall⟩ | ⟨i, hi, -⟩)
    · rw [hopen] at h
      cases h
    · rw [hp] at hp'
      cases hp'
      rw [hskipped] at hcompleted
      exact absurd hcompleted (by decide)
    · rw [hall name q hq] at hunfinished
      cases hunfinished
    · rw [inferredPhaseName_of_isComplete hcomplete] at hi
      cases hi

end GreaterWill.Checkpoint
