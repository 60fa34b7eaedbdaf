import GreaterWill.Lib.Scan
import GreaterWill.Checkpoint.Completion

/-!
# What the inferred phase position means

`infer_phase_position` is documented scan by scan: the first phase in progress, else the first
failed one, else the way from the last completed phase to the first actionable one behind it, else
the first actionable phase; and `AllDone` for a pipeline that has finished. `Documented` states
this of a position. The scans are as documented; what is not is the question asked before them.
`is_complete` takes a skipped terminal phase for the end, and an arc that is not to merge has its
terminal phase skipped from the start.
-/

namespace GreaterWill.Checkpoint

/-! ## The documented position -/

section
variable (cp : Checkpoint)

/-- The phase is in the map, with this status. -/
def HasStatus (status name : String) : Prop :=
  ∃ p, cp.phases.lookup name = some p ∧ p.status = status

/-- To be run: pending, or without a status yet, and not to be skipped. -/
def Actionable (name : String) : Prop :=
  cp.isInSkipMap name = false ∧ (cp.HasStatus "pending" name ∨ cp.HasStatus "" name)

/-- Every phase in the map is completed or skipped. -/
def AllPhasesDone : Prop :=
  ∀ name p, cp.phases.lookup name = some p → p.status = "completed" ∨ p.status = "skipped"

/-- What `AllDone` stands for. -/
def Finished : Prop :=
  cp.completedAt.isSome ∨ cp.HasStatus "completed" "merge" ∨ cp.AllPhasesDone

/-- The position is the documented one: `AllDone` only of a finished pipeline, and otherwise, which
takes in every pipeline that is not finished, what the first of the scans that finds a phase
says. -/
structure Documented (pos : PhasePosition) : Prop where
  allDone : pos = .allDone → cp.Finished
  running : pos ≠ .allDone →
    ∀ phase p, First (cp.HasStatus "in_progress") PHASE_ORDER (some phase) →
      cp.phases.lookup phase = some p → pos = .running phase p.startedAt
  failed : pos ≠ .allDone → First (cp.HasStatus "in_progress") PHASE_ORDER none →
    ∀ phase next, First (cp.HasStatus "failed") PHASE_ORDER (some phase) →
      First cp.Actionable PHASE_ORDER next → pos = .failed phase next
  /-- Without a phase to go to the name of the next one is empty. -/
  transitioning : pos ≠ .allDone → First (cp.HasStatus "in_progress") PHASE_ORDER none →
    First (cp.HasStatus "failed") PHASE_ORDER none →
    ∀ before last after p next, PHASE_ORDER = before ++ last :: after →
      cp.phases.lookup last = some p → p.status = "completed" →
      (∀ name ∈ after, ¬ cp.HasStatus "completed" name) → First cp.Actionable after next →
      pos = .transitioning last p.completedAt (next.getD "")
  waitingToStart : pos ≠ .allDone → First (cp.HasStatus "in_progress") PHASE_ORDER none →
    First (cp.HasStatus "failed") PHASE_ORDER none →
    First (cp.HasStatus "completed") PHASE_ORDER none →
    ∀ phase, First cp.Actionable PHASE_ORDER (some phase) → pos = .waitingToStart phase
  unknown : pos ≠ .allDone → First (cp.HasStatus "in_progress") PHASE_ORDER none →
    First (cp.HasStatus "failed") PHASE_ORDER none →
    First (cp.HasStatus "completed") PHASE_ORDER none →
    First cp.Actionable PHASE_ORDER none → pos = .unknown

end

variable {cp : Checkpoint} {status name phase : String} {p : PhaseStatus}
  {before after : List String} {o : Option String}

theorem hasStatus_iff (h : cp.phases.lookup name = some p) :
    cp.HasStatus status name ↔ p.status = status := by
  rw [HasStatus, h]
  simp

theorem HasStatus.unique {status' : String} (h : cp.HasStatus status name)
    (h' : cp.HasStatus status' name) : status = status' := by
  obtain ⟨p, hp, rfl⟩ := h
  exact (hasStatus_iff hp).mp h'

theorem not_hasStatus_of_absent (h : cp.phases.lookup name = none) :
    ¬ cp.HasStatus status name := by
  rw [HasStatus, h]
  simp

theorem HasStatus.phases_ne (h : cp.HasStatus status name) : cp.phases.isEmpty = false := by
  obtain ⟨p, hp, -⟩ := h
  rw [← Bool.not_eq_true, Dict.isEmpty_iff]
  intro hempty
  rw [hempty, Finmap.lookup_empty] at hp
  cases hp

theorem isPhaseActionable_iff : cp.isPhaseActionable name = true ↔ cp.Actionable name := by
  rw [isPhaseActionable, Actionable]
  cases cp.isInSkipMap name with
  | true => simp
  | false =>
    cases hlookup : cp.phases.lookup name with
    | none => simp [not_hasStatus_of_absent hlookup]
    | some p => simp [hasStatus_iff hlookup]

/-! ## The scans -/

theorem nextActionablePhase_eq (h : First cp.Actionable PHASE_ORDER o) :
    cp.nextActionablePhase = o :=
  (first_find? fun _ => isPhaseActionable_iff).mp h

theorem firstWithStatus_eq (h : First (cp.HasStatus status) PHASE_ORDER o) :
    cp.firstWithStatus status = o.bind fun name => (cp.phases.lookup name).map (name, ·) := by
  have hscan : First (fun name => ((cp.phases.lookup name).bind fun p =>
      if p.status = status then some (name, p) else none).isSome) PHASE_ORDER o := by
    convert h using 2 with name
    cases hlookup : cp.phases.lookup name with
    | none => simp [not_hasStatus_of_absent hlookup]
    | some p => simp [hasStatus_iff hlookup]
  rw [firstWithStatus, hscan.findSome?]
  cases o with
  | none => rfl
  | some name =>
    obtain ⟨p, hp, hstatus⟩ := h.holds
    simp [hp, hstatus]

/-- The loop over the completed phases as one over what it may find. -/
theorem lastCompleted_eq : cp.lastCompleted = PHASE_ORDER.foldl (fun last name =>
    ((cp.phases.lookup name).bind fun p =>
      if p.status = "completed" then some (name, p.completedAt) else none).or last) none := by
  rw [lastCompleted]
  congr 1
  funext last name
  cases cp.phases.lookup name with
  | none => rfl
  | some p =>
    dsimp only
    rw [Option.bind_some]
    split
    · rfl
    · rfl

theorem lastCompleted_of_split (hsplit : PHASE_ORDER = before ++ name :: after)
    (hp : cp.phases.lookup name = some p) (hstatus : p.status = "completed")
    (hafter : ∀ later ∈ after, ¬ cp.HasStatus "completed" later) :
    cp.lastCompleted = some (name, p.completedAt) := by
  rw [lastCompleted_eq, hsplit]
  apply foldl_or_append
  · rw [hp, Option.bind_some, if_pos hstatus]
  · intro later hmem
    cases hlookup : cp.phases.lookup later with
    | none => rfl
    | some q =>
      have hnot := hafter later hmem
      rw [hasStatus_iff hlookup] at hnot
      rw [Option.bind_some, if_neg hnot]

theorem lastCompleted_eq_none (h : First (cp.HasStatus "completed") PHASE_ORDER none) :
    cp.lastCompleted = none := by
  rw [lastCompleted_eq]
  apply foldl_or_eq_none
  intro name hmem
  cases hlookup : cp.phases.lookup name with
  | none => rfl
  | some p =>
    have hnot := h name hmem
    rw [hasStatus_iff hlookup] at hnot
    rw [Option.bind_some, if_neg hnot]

/-- The loop has found nothing, or the last completed phase. -/
theorem lastCompleted_cases (cp : Checkpoint) :
    First (cp.HasStatus "completed") PHASE_ORDER none ∧ cp.lastCompleted = none ∨
    ∃ before name after p, PHASE_ORDER = before ++ name :: after ∧
      cp.phases.lookup name = some p ∧ p.status = "completed" ∧
      (∀ later ∈ after, ¬ cp.HasStatus "completed" later) ∧
      cp.lastCompleted = some (name, p.completedAt) := by
  by_cases h : ∃ name ∈ PHASE_ORDER, cp.HasStatus "completed" name
  · obtain ⟨before, name, after, hsplit, ⟨p, hp, hstatus⟩, hafter⟩ := exists_last h
    exact .inr ⟨before, name, after, p, hsplit, hp, hstatus, hafter,
      lastCompleted_of_split hsplit hp hstatus hafter⟩
  · push Not at h
    exact .inl ⟨h, lastCompleted_eq_none h⟩

theorem nodup_PHASE_ORDER : PHASE_ORDER.Nodup := by decide

theorem phaseIndex_of_split (hsplit : PHASE_ORDER = before ++ name :: after) :
    phaseIndex name = some before.length := by
  have hbefore : name ∉ before := by
    have hnodup := nodup_PHASE_ORDER
    rw [hsplit, List.nodup_append] at hnodup
    intro hmem
    exact hnodup.2.2 name hmem name List.mem_cons_self rfl
  have hnone : before.findIdx? (· == name) = none := by
    rw [List.findIdx?_eq_none_iff]
    intro other hmem
    rw [beq_eq_false_iff_ne]
    rintro rfl
    exact hbefore hmem
  rw [phaseIndex, hsplit, List.findIdx?_append, hnone, List.findIdx?_cons, beq_self_eq_true]
  simp

theorem drop_of_split (hsplit : PHASE_ORDER = before ++ name :: after) :
    PHASE_ORDER.drop (before.length + 1) = after := by
  rw [hsplit, List.drop_append]
  simp

theorem nextActionablePhaseAfter_eq (hsplit : PHASE_ORDER = before ++ name :: after)
    (h : First cp.Actionable after o) : cp.nextActionablePhaseAfter (before.length + 1) = o := by
  rw [nextActionablePhaseAfter, drop_of_split hsplit]
  exact (first_find? fun _ => isPhaseActionable_iff).mp h

theorem nextActionablePhaseAfter_zero (h : First cp.Actionable PHASE_ORDER o) :
    cp.nextActionablePhaseAfter 0 = o :=
  nextActionablePhase_eq h

/-! ## The position -/

theorem inferPhasePosition_of_isComplete (hne : cp.phases.isEmpty = false)
    (h : cp.isComplete = true) : cp.inferPhasePosition = .allDone := by
  rw [inferPhasePosition, hne, h]
  rfl

theorem inferPhasePosition_of_running (hopen : cp.isComplete = false)
    (h : First (cp.HasStatus "in_progress") PHASE_ORDER (some phase))
    (hp : cp.phases.lookup phase = some p) :
    cp.inferPhasePosition = .running phase p.startedAt := by
  rw [inferPhasePosition, h.holds.phases_ne, hopen, firstWithStatus_eq h, Option.bind_some, hp]
  rfl

theorem inferPhasePosition_of_failed (hopen : cp.isComplete = false)
    (hrunning : First (cp.HasStatus "in_progress") PHASE_ORDER none)
    (h : First (cp.HasStatus "failed") PHASE_ORDER (some phase))
    (hnext : First cp.Actionable PHASE_ORDER o) : cp.inferPhasePosition = .failed phase o := by
  obtain ⟨p, hp, -⟩ := h.holds
  rw [inferPhasePosition, h.holds.phases_ne, hopen, firstWithStatus_eq hrunning,
    firstWithStatus_eq h, Option.bind_some, hp, nextActionablePhase_eq hnext]
  rfl

/-- Behind the last phase of all nothing can be pending. -/
theorem inferPhasePosition_of_completed (hopen : cp.isComplete = false)
    (hrunning : First (cp.HasStatus "in_progress") PHASE_ORDER none)
    (hfailed : First (cp.HasStatus "failed") PHASE_ORDER none)
    (hsplit : PHASE_ORDER = before ++ name :: after) (hp : cp.phases.lookup name = some p)
    (hstatus : p.status = "completed") (hafter : ∀ later ∈ after, ¬ cp.HasStatus "completed" later)
    (hnext : First cp.Actionable after o) :
    cp.inferPhasePosition =
      if o = none ∧ PHASE_COUNT - 1 ≤ before.length then .allDone
      else .transitioning name p.completedAt (o.getD "") := by
  have hne : cp.phases.isEmpty = false := HasStatus.phases_ne ⟨p, hp, hstatus⟩
  rw [inferPhasePosition, hne, hopen, firstWithStatus_eq hrunning, firstWithStatus_eq hfailed,
    lastCompleted_of_split hsplit hp hstatus hafter, if_neg Bool.false_ne_true,
    if_neg Bool.false_ne_true, Option.bind_none]
  dsimp only [Option.bind_some]
  rw [phaseIndex_of_split hsplit]
  dsimp only
  rw [nextActionablePhaseAfter_eq hsplit hnext]
  cases o with
  | some next => simp
  | none => simp [hp, phaseIndex_of_split hsplit]

theorem inferPhasePosition_of_none_completed (hne : cp.phases.isEmpty = false)
    (hopen : cp.isComplete = false)
    (hrunning : First (cp.HasStatus "in_progress") PHASE_ORDER none)
    (hfailed : First (cp.HasStatus "failed") PHASE_ORDER none)
    (hcompleted : First (cp.HasStatus "completed") PHASE_ORDER none)
    (hnext : First cp.Actionable PHASE_ORDER o) :
    cp.inferPhasePosition = o.elim .unknown .waitingToStart := by
  rw [inferPhasePosition, hne, hopen, firstWithStatus_eq hrunning, firstWithStatus_eq hfailed,
    lastCompleted_eq_none hcompleted, if_neg Bool.false_ne_true, if_neg Bool.false_ne_true,
    Option.bind_none]
  dsimp only [Option.bind_none]
  rw [nextActionablePhaseAfter_zero hnext]
  cases o with
  | some next => rfl
  | none => rfl

theorem terminal_of_split (hsplit : PHASE_ORDER = before ++ name :: after)
    (h : PHASE_COUNT - 1 ≤ before.length) : name = "merge" := by
  have hlength := congrArg List.length hsplit
  rw [List.length_append, List.length_cons] at hlength
  have hcount : PHASE_ORDER.length = PHASE_COUNT := rfl
  have hpos : before.length = PHASE_COUNT - 1 := by omega
  have hname : phaseAt (PHASE_COUNT - 1) = some name := by
    rw [phaseAt, hsplit, ← hpos]
    simp
  rw [phaseAt_terminal] at hname
  exact (Option.some.inj hname).symm

theorem isDone_iff : p.isDone = true ↔ p.status = "completed" ∨ p.status = "skipped" := by
  rw [PhaseStatus.isDone]
  simp

theorem isComplete_of_finished (hne : cp.phases.isEmpty = false) (h : cp.Finished) :
    cp.isComplete = true := by
  rw [isComplete_iff]
  rcases h with h | ⟨p, hp, hstatus⟩ | h
  · exact .inl h
  · exact .inr (.inl (isTerminalPhaseCompleted_iff.mpr ⟨p, hp, isDone_iff.mpr (.inl hstatus)⟩))
  · refine .inr (.inr ⟨?_, fun name p hp => isDone_iff.mpr (h name p hp)⟩)
    intro hempty
    rw [← Bool.not_eq_true, Dict.isEmpty_iff] at hne
    exact hne hempty

/-- `is_complete` goes beyond the documented end in one case. -/
theorem isComplete_imp (h : cp.isComplete = true) :
    cp.Finished ∨ cp.HasStatus "skipped" "merge" := by
  rcases isComplete_iff.mp h with h | h | ⟨-, h⟩
  · exact .inl (.inl h)
  · obtain ⟨p, hp, hdone⟩ := isTerminalPhaseCompleted_iff.mp h
    rcases isDone_iff.mp hdone with hstatus | hstatus
    · exact .inl (.inr (.inl ⟨p, hp, hstatus⟩))
    · exact .inr ⟨p, hp, hstatus⟩
  · exact .inl (.inr (.inr fun name p hp => isDone_iff.mp (h name p hp)))

theorem inferPhasePosition_of_empty (h : cp.phases.isEmpty = true) :
    cp.inferPhasePosition = .unknown := by
  rw [inferPhasePosition, h]
  rfl

/-- Where the scans end, with what they found. -/
inductive Inferred (cp : Checkpoint) : PhasePosition → Prop
  | allDone (hcomplete : cp.isComplete = true) : Inferred cp .allDone
  | running {phase : String} {p : PhaseStatus} (hopen : cp.isComplete = false)
      (hrunning : First (cp.HasStatus "in_progress") PHASE_ORDER (some phase))
      (hp : cp.phases.lookup phase = some p) : Inferred cp (.running phase p.startedAt)
  | failed {phase : String} {o : Option String} (hopen : cp.isComplete = false)
      (hrunning : First (cp.HasStatus "in_progress") PHASE_ORDER none)
      (hfailed : First (cp.HasStatus "failed") PHASE_ORDER (some phase))
      (hnext : First cp.Actionable PHASE_ORDER o) : Inferred cp (.failed phase o)
  | transitioning {before after : List String} {name : String} {p : PhaseStatus}
      {o : Option String} (hopen : cp.isComplete = false)
      (hsplit : PHASE_ORDER = before ++ name :: after) (hp : cp.phases.lookup name = some p)
      (hstatus : p.status = "completed") (hnext : First cp.Actionable after o) :
      Inferred cp (.transitioning name p.completedAt (o.getD ""))
  | waitingToStart {phase : String} (hopen : cp.isComplete = false)
      (hcompleted : First (cp.HasStatus "completed") PHASE_ORDER none)
      (hnext : First cp.Actionable PHASE_ORDER (some phase)) : Inferred cp (.waitingToStart phase)
  | unknown (hnext : First cp.Actionable PHASE_ORDER none) : Inferred cp .unknown

theorem not_actionable_of_empty (h : cp.phases.isEmpty = true) : ¬ cp.Actionable name := by
  rintro ⟨-, hpending | hnone⟩
  · rw [hpending.phases_ne] at h
    cases h
  · rw [hnone.phases_ne] at h
    cases h

theorem inferred (cp : Checkpoint) : cp.Inferred cp.inferPhasePosition := by
  cases hempty : cp.phases.isEmpty with
  | true =>
    rw [inferPhasePosition_of_empty hempty]
    exact .unknown fun _ _ => not_actionable_of_empty hempty
  | false =>
  cases hopen : cp.isComplete with
  | true =>
    rw [inferPhasePosition_of_isComplete hempty hopen]
    exact .allDone hopen
  | false =>
  obtain ⟨running, hrunning⟩ := exists_first (cp.HasStatus "in_progress") PHASE_ORDER
  cases running with
  | some phase =>
    obtain ⟨p, hp, -⟩ := hrunning.holds
    rw [inferPhasePosition_of_running hopen hrunning hp]
    exact .running hopen hrunning hp
  | none =>
  obtain ⟨failed, hfailed⟩ := exists_first (cp.HasStatus "failed") PHASE_ORDER
  cases failed with
  | some phase =>
    obtain ⟨next, hnext⟩ := exists_first cp.Actionable PHASE_ORDER
    rw [inferPhasePosition_of_failed hopen hrunning hfailed hnext]
    exact .failed hopen hrunning hfailed hnext
  | none =>
  rcases lastCompleted_cases cp with ⟨hcompleted, -⟩ | hlast
  · obtain ⟨next, hnext⟩ := exists_first cp.Actionable PHASE_ORDER
    rw [inferPhasePosition_of_none_completed hempty hopen hrunning hfailed hcompleted hnext]
    cases next with
    | some next => exact .waitingToStart hopen hcompleted hnext
    | none => exact .unknown hnext
  · obtain ⟨before, name, after, p, hsplit, hp, hstatus, hafter, -⟩ := hlast
    obtain ⟨next, hnext⟩ := exists_first cp.Actionable after
    rw [inferPhasePosition_of_completed hopen hrunning hfailed hsplit hp hstatus hafter hnext]
    split
    · next hterminal =>
      -- a completed terminal phase has completed the pipeline
      obtain rfl := terminal_of_split hsplit hterminal.2
      have hfinished : cp.Finished := .inr (.inl ⟨p, hp, hstatus⟩)
      rw [isComplete_of_finished hempty hfinished] at hopen
      cases hopen
    · exact .transitioning hopen hsplit hp hstatus hnext

/-- The scans add nothing to `is_complete`. -/
theorem isComplete_of_allDone (h : cp.inferPhasePosition = .allDone) :
    cp.isComplete = true := by
  have hinferred := inferred cp
  rw [h] at hinferred
  cases hinferred with
  | allDone hcomplete => exact hcomplete

theorem inferPhasePosition_eq_allDone_iff :
    cp.inferPhasePosition = .allDone ↔ cp.phases.isEmpty = false ∧ cp.isComplete = true := by
  constructor
  · intro h
    refine ⟨?_, isComplete_of_allDone h⟩
    rw [← Bool.not_eq_true]
    intro hempty
    rw [inferPhasePosition_of_empty hempty] at h
    cases h
  · rintro ⟨hne, h⟩
    exact inferPhasePosition_of_isComplete hne h

theorem isComplete_eq_false (hne : cp.phases.isEmpty = false)
    (h : cp.inferPhasePosition ≠ .allDone) : cp.isComplete = false := by
  rw [← Bool.not_eq_true]
  intro hcomplete
  exact h (inferPhasePosition_of_isComplete hne hcomplete)

/-- The scans are as documented; a skipped terminal phase is an end only of a finished pipeline. -/
theorem documented_of_finished (h : cp.HasStatus "skipped" "merge" → cp.Finished) :
    cp.Documented cp.inferPhasePosition where
  allDone hpos := by
    rcases isComplete_imp (isComplete_of_allDone hpos) with hfinished | hskipped
    · exact hfinished
    · exact h hskipped
  running hpos phase p hfirst hp :=
    inferPhasePosition_of_running (isComplete_eq_false hfirst.holds.phases_ne hpos) hfirst hp
  failed hpos hrunning phase next hfirst hnext :=
    inferPhasePosition_of_failed (isComplete_eq_false hfirst.holds.phases_ne hpos) hrunning hfirst
      hnext
  transitioning hpos hrunning hfailed before last after p next hsplit hp hstatus hafter hnext := by
    have hne : cp.phases.isEmpty = false := HasStatus.phases_ne ⟨p, hp, hstatus⟩
    have heq := inferPhasePosition_of_completed (isComplete_eq_false hne hpos) hrunning hfailed
      hsplit hp hstatus hafter hnext
    rw [heq] at hpos ⊢
    split
    · next hterminal => exact absurd (if_pos hterminal) hpos
    · rfl
  waitingToStart hpos hrunning hfailed hcompleted phase hnext := by
    have hne : cp.phases.isEmpty = false := by
      rcases hnext.holds.2 with hpending | hempty
      · exact hpending.phases_ne
      · exact hempty.phases_ne
    exact inferPhasePosition_of_none_completed hne (isComplete_eq_false hne hpos) hrunning hfailed
      hcompleted hnext
  unknown hpos hrunning hfailed hcompleted hnext := by
    cases hne : cp.phases.isEmpty with
    | true => exact inferPhasePosition_of_empty hne
    | false =>
      exact inferPhasePosition_of_none_completed hne (isComplete_eq_false hne hpos) hrunning hfailed
        hcompleted hnext

/-- The inferred position is the documented one exactly if the terminal phase is not skipped, or the
pipeline has finished besides. -/
theorem inferPhasePosition_documented_iff :
    cp.Documented cp.inferPhasePosition ↔ (cp.HasStatus "skipped" "merge" → cp.Finished) := by
  refine ⟨?_, documented_of_finished⟩
  rintro hdoc ⟨p, hp, hstatus⟩
  apply hdoc.allDone
  apply inferPhasePosition_of_isComplete (HasStatus.phases_ne ⟨p, hp, hstatus⟩)
  exact isComplete_of_terminal
    (isTerminalPhaseCompleted_iff.mpr ⟨p, hp, isDone_iff.mpr (.inr hstatus)⟩)

/-- An arc that is not to merge, in its first phase. -/
def unmergedForge : Checkpoint where
  id := "arc-1"
  planFile := "plan.md"
  phases := Dict.ofList [("forge", { status := "in_progress" }), ("merge", { status := "skipped" })]

/-- It is taken to have finished, not to run `forge`. -/
theorem unmergedForge_done :
    First (unmergedForge.HasStatus "in_progress") PHASE_ORDER (some "forge") ∧
      ¬ unmergedForge.Finished ∧ unmergedForge.inferPhasePosition = .allDone ∧
      ¬ unmergedForge.Documented unmergedForge.inferPhasePosition := by
  have hforge : unmergedForge.phases.lookup "forge" = some { status := "in_progress" } := rfl
  have hmerge : unmergedForge.phases.lookup "merge" = some { status := "skipped" } := rfl
  have hopen : ¬ unmergedForge.Finished := by
    rintro (h | h | h)
    · cases h
    · rw [hasStatus_iff hmerge] at h
      exact absurd h (by decide)
    · rcases h "forge" _ hforge with h | h
      · exact absurd h (by decide)
      · exact absurd h (by decide)
  have hpos : unmergedForge.inferPhasePosition = .allDone := by decide
  refine ⟨?_, hopen, hpos, fun hdoc => hopen (hdoc.allDone hpos)⟩
  exact ⟨[], PHASE_ORDER.tail, rfl, ⟨_, hforge, rfl⟩, by simp⟩

end GreaterWill.Checkpoint
