import GreaterWill.Checkpoint.NearCompletion

/-!
# Where a handed over checkpoint stands

`mark_phases_completed_before` writes statuses, and the position is inferred from them anew by every
reader. The two agree: with the target and the phases behind it not started, the target is the first
actionable phase and no completed phase stands behind it, so that the inferred position names it.
-/

namespace GreaterWill.Checkpoint

variable {cp : Checkpoint} {now now' phase name target : String} {names before after : List String}
  {idx : Nat}

/-! ## The marking loop -/

/-- The phase is marked as one that a session need not run. -/
def Marked (cp : Checkpoint) (phase : String) : Prop :=
  ∃ p, cp.phases.lookup phase = some p ∧
    p.status = (if cp.isInSkipMap phase then "skipped" else "completed") ∧ p.completedAt.isSome

theorem marked_congr {cp' : Checkpoint} (hskip : cp'.skipMap = cp.skipMap)
    (h : cp'.phases.lookup phase = cp.phases.lookup phase) :
    cp'.Marked phase ↔ cp.Marked phase := by
  rw [Marked, Marked, h, isInSkipMap_congr hskip]

theorem lookup_markPhase_of_ne (h : phase ≠ name) :
    (cp.markPhase now name).phases.lookup phase = cp.phases.lookup phase := by
  dsimp only [markPhase]
  rw [Dict.lookup_insert_eq_ite, if_neg h]

theorem marked_markPhase : (cp.markPhase now phase).Marked phase := by
  have hlookup : ∀ p, (cp.phases.insert phase p).lookup phase = some p := by
    intro p
    rw [Dict.lookup_insert_eq_ite, if_pos rfl]
  refine ⟨_, hlookup _, ?_, ?_⟩
  · rw [isInSkipMap_congr skipMap_markPhase]
  · dsimp only
    cases ((cp.phases.lookup phase).getD .pending).completedAt with
    | some at' => rfl
    | none => rfl

/-- What is marked stays marked. -/
theorem Marked.again (h : cp.Marked phase) : (cp.markPhase now name).Marked phase := by
  by_cases heq : phase = name
  · rw [heq]
    exact marked_markPhase
  · exact (marked_congr skipMap_markPhase (lookup_markPhase_of_ne heq)).mpr h

theorem Marked.foldl (h : cp.Marked phase) : (names.foldl (markPhase now) cp).Marked phase := by
  induction names generalizing cp with
  | nil => exact h
  | cons name names ih => exact ih h.again

theorem marked_foldl (hmem : phase ∈ names) : (names.foldl (markPhase now) cp).Marked phase := by
  induction names generalizing cp with
  | nil => cases hmem
  | cons name names ih =>
    rcases List.mem_cons.mp hmem with rfl | hmem
    · exact marked_markPhase.foldl
    · exact ih hmem

theorem lookup_foldl_markPhase_of_notMem (h : phase ∉ names) :
    (names.foldl (markPhase now) cp).phases.lookup phase = cp.phases.lookup phase := by
  induction names generalizing cp with
  | nil => rfl
  | cons name names ih =>
    rw [List.mem_cons, not_or] at h
    exact (ih h.2).trans (lookup_markPhase_of_ne h.1)

/-- A marked phase is not marked once more. -/
theorem markPhase_of_marked (h : cp.Marked phase) : cp.markPhase now phase = cp := by
  obtain ⟨p, hp, hstatus, hat⟩ := h
  obtain ⟨at', hat⟩ := Option.isSome_iff_exists.mp hat
  have hsame : cp.phases.insert phase p = cp.phases := by
    refine Finmap.ext_lookup fun name => ?_
    rw [Dict.lookup_insert_eq_ite]
    split
    · next heq => rw [heq, hp]
    · rfl
  rw [markPhase, hp, Option.getD_some, ← hstatus, hat, Option.some_or, ← hat, hsame]

theorem foldl_markPhase_of_marked (h : ∀ phase ∈ names, cp.Marked phase) :
    names.foldl (markPhase now) cp = cp := by
  induction names with
  | nil => rfl
  | cons name names ih =>
    obtain ⟨hname, hrest⟩ := List.forall_mem_cons.mp h
    rw [List.foldl_cons, markPhase_of_marked hname]
    exact ih hrest

/-! ## The marked checkpoint -/

/-- What the marking makes of a checkpoint, for a known target. -/
theorem markPhasesCompletedBefore_eq (hidx : phaseIndex target = some idx) :
    cp.markPhasesCompletedBefore now target =
      { (phasesBefore target).foldl (markPhase now) cp with
        phases :=
          let marked := (phasesBefore target).foldl (markPhase now) cp
          if marked.phases.lookup target = none then marked.phases.insert target .pending
          else marked.phases
        phaseSequence := some (UInt32.ofNat idx) } := by
  rw [markPhasesCompletedBefore, phasesBefore_eq hidx, hidx]
  dsimp only
  cases ((PHASE_ORDER.take idx).foldl (markPhase now) cp).phases.lookup target with
  | some p => rfl
  | none => rfl

theorem lookup_markPhasesCompletedBefore (hidx : phaseIndex target = some idx)
    (hmem : phase ∉ phasesBefore target) :
    (cp.markPhasesCompletedBefore now target).phases.lookup phase =
      if phase = target ∧ cp.phases.lookup target = none then some .pending
      else cp.phases.lookup phase := by
  rw [markPhasesCompletedBefore_eq hidx]
  dsimp only
  rw [lookup_foldl_markPhase_of_notMem notMem_phasesBefore]
  by_cases hnone : cp.phases.lookup target = none
  · rw [if_pos hnone, Dict.lookup_insert_eq_ite, lookup_foldl_markPhase_of_notMem hmem]
    simp [hnone]
  · rw [if_neg hnone, lookup_foldl_markPhase_of_notMem hmem, if_neg fun h => hnone h.2]

theorem skipMap_markPhasesCompletedBefore :
    (cp.markPhasesCompletedBefore now target).skipMap = cp.skipMap := by
  rw [markPhasesCompletedBefore]
  split
  · rfl
  · exact skipMap_foldl_markPhase

theorem marked_markPhasesCompletedBefore (hidx : phaseIndex target = some idx)
    (hmem : phase ∈ phasesBefore target) :
    (cp.markPhasesCompletedBefore now target).Marked phase := by
  have hmarked : ((phasesBefore target).foldl (markPhase now) cp).Marked phase := marked_foldl hmem
  have hne : phase ≠ target := by
    rintro rfl
    exact notMem_phasesBefore hmem
  have hskip : (cp.markPhasesCompletedBefore now target).skipMap =
      ((phasesBefore target).foldl (markPhase now) cp).skipMap := by
    rw [skipMap_markPhasesCompletedBefore, skipMap_foldl_markPhase]
  refine (marked_congr hskip ?_).mpr hmarked
  rw [markPhasesCompletedBefore_eq hidx]
  dsimp only
  split
  · rw [Dict.lookup_insert_eq_ite, if_neg hne]
  · rfl

/-- A phase is Completed after the marking exactly if it was marked, or was Completed before and was
not marked Skipped. -/
theorem completed_markPhasesCompletedBefore :
    ((cp.markPhasesCompletedBefore now target).phases.lookup phase).map (·.status) =
        some "completed" ↔
      phase ∈ cp.markedCompleted target ∨
        phase ∉ phasesBefore target ∧
          (cp.phases.lookup phase).map (·.status) = some "completed" := by
  cases hidx : phaseIndex target with
  | none => simp [markPhasesCompletedBefore, markedCompleted, phasesBefore, hidx]
  | some idx =>
    rw [markedCompleted, List.mem_filter]
    by_cases hmem : phase ∈ phasesBefore target
    · have hmarked : (cp.markPhasesCompletedBefore now target).Marked phase :=
        marked_markPhasesCompletedBefore hidx hmem
      obtain ⟨p, hp, hstatus, -⟩ := hmarked
      rw [isInSkipMap_congr skipMap_markPhasesCompletedBefore] at hstatus
      rw [hp, Option.map_some, hstatus]
      cases cp.isInSkipMap phase <;> simp [hmem]
    · rw [lookup_markPhasesCompletedBefore hidx hmem]
      by_cases hpending : phase = target ∧ cp.phases.lookup target = none
      · obtain ⟨rfl, hnone⟩ := hpending
        simp [hmem, hnone, PhaseStatus.pending]
      · simp [hmem, hpending]

/-- Marking once more changes nothing. -/
theorem markPhasesCompletedBefore_again (hidx : phaseIndex target = some idx) :
    (cp.markPhasesCompletedBefore now target).markPhasesCompletedBefore now' target =
      cp.markPhasesCompletedBefore now target := by
  have hmarked : ∀ phase ∈ phasesBefore target,
      (cp.markPhasesCompletedBefore now target).Marked phase := fun _ =>
    marked_markPhasesCompletedBefore hidx
  have hsequence : (cp.markPhasesCompletedBefore now target).phaseSequence =
      some (UInt32.ofNat idx) := by
    rw [markPhasesCompletedBefore_eq hidx]
  have htarget : (cp.markPhasesCompletedBefore now target).phases.lookup target ≠ none := by
    rw [lookup_markPhasesCompletedBefore hidx notMem_phasesBefore]
    split
    · exact Option.some_ne_none _
    · next h => exact fun hnone => h ⟨rfl, hnone⟩
  refine (markPhasesCompletedBefore_eq hidx).trans ?_
  rw [foldl_markPhase_of_marked hmarked, if_neg htarget, ← hsequence]

/-! ## The position inferred from it -/

/-- Not started: without an entry, pending, or without a status yet. -/
def NotStarted (cp : Checkpoint) (name : String) : Prop :=
  ∀ p, cp.phases.lookup name = some p → p.status = "pending" ∨ p.status = ""

theorem not_completed_of_actionable (h : cp.Actionable name) :
    ¬ cp.HasStatus "completed" name := by
  intro hcompleted
  rcases h.2 with hpending | hnone
  · exact absurd (hcompleted.unique hpending) (by decide)
  · exact absurd (hcompleted.unique hnone) (by decide)

theorem Actionable.not_isDone (h : cp.Actionable name) :
    ∃ p, cp.phases.lookup name = some p ∧ p.isDone = false := by
  obtain ⟨-, ⟨p, hp, hstatus⟩ | ⟨p, hp, hstatus⟩⟩ := h
  · refine ⟨p, hp, ?_⟩
    rw [PhaseStatus.isDone, hstatus]
    rfl
  · refine ⟨p, hp, ?_⟩
    rw [PhaseStatus.isDone, hstatus]
    rfl

/-- The inferred position names the first actionable phase if no phase runs or has failed and none
behind it is completed. -/
theorem inferredPhaseName_of_first (hopen : cp.isComplete = false)
    (hrunning : First (cp.HasStatus "in_progress") PHASE_ORDER none)
    (hfailed : First (cp.HasStatus "failed") PHASE_ORDER none)
    (hsplit : PHASE_ORDER = before ++ target :: after) (htarget : cp.Actionable target)
    (hbefore : ∀ name ∈ before, ¬ cp.Actionable name)
    (hafter : ∀ name ∈ after, ¬ cp.HasStatus "completed" name) :
    cp.inferredPhaseName = some target := by
  have hfirst : First cp.Actionable PHASE_ORDER (some target) := by
    rw [hsplit]
    exact First.split hbefore htarget
  have hinferred := cp.inferred
  rw [inferredPhaseName]
  generalize cp.inferPhasePosition = position at hinferred
  cases hinferred with
  | allDone hcomplete =>
    rw [hcomplete] at hopen
    cases hopen
  | running _ h _ => cases h.unique hrunning
  | failed _ _ h _ => cases h.unique hfailed
  | waitingToStart _ _ h =>
    cases h.unique hfirst
    rfl
  | unknown h => cases h.unique hfirst
  | @transitioning _ rest last p o _ hlast hp hstatus hnext =>
    have hcompleted : cp.HasStatus "completed" last := ⟨p, hp, hstatus⟩
    have hmem : last ∈ before := by
      have hmem : last ∈ PHASE_ORDER := hlast ▸ List.mem_append_right _ List.mem_cons_self
      rw [hsplit, List.mem_append, List.mem_cons] at hmem
      rcases hmem with hmem | rfl | hmem
      · exact hmem
      · exact absurd hcompleted (not_completed_of_actionable htarget)
      · exact absurd hcompleted (hafter last hmem)
    obtain ⟨first, between, rfl⟩ := List.append_of_mem hmem
    rw [List.append_assoc, List.cons_append] at hsplit
    rw [after_unique hlast hsplit] at hnext
    have hbetween : First cp.Actionable (between ++ target :: after) (some target) := by
      refine First.split (fun name hname => hbefore name ?_) htarget
      exact List.mem_append_right first (List.mem_cons_of_mem last hname)
    cases hnext.unique hbetween
    rw [PhasePosition.effectivePhase, Option.getD_some, ne_empty_of_mem hfirst.mem]
    rfl

theorem NotStarted.status {status : String} (h : cp.NotStarted name)
    (hstatus : cp.HasStatus status name) : status = "pending" ∨ status = "" := by
  obtain ⟨p, hp, rfl⟩ := hstatus
  exact h p hp

theorem Marked.status {status : String} (h : cp.Marked name) (hstatus : cp.HasStatus status name) :
    status = "skipped" ∨ status = "completed" := by
  obtain ⟨p, hp, hp', -⟩ := h
  rw [← (hasStatus_iff hp).mp hstatus, hp']
  split
  · exact .inl rfl
  · exact .inr rfl

theorem Marked.not_actionable (h : cp.Marked name) : ¬ cp.Actionable name := by
  rintro ⟨-, hpending | hnone⟩
  · exact absurd (h.status hpending) (by decide)
  · exact absurd (h.status hnone) (by decide)

/-- The marking starts no phase. -/
theorem notStarted_markPhasesCompletedBefore (hidx : phaseIndex target = some idx)
    (hmem : name ∉ phasesBefore target) (h : cp.NotStarted name) :
    (cp.markPhasesCompletedBefore now target).NotStarted name := by
  intro p hp
  rw [lookup_markPhasesCompletedBefore hidx hmem] at hp
  split at hp
  · cases hp
    exact .inl rfl
  · exact h p hp

theorem completedAt_foldl_markPhase :
    (names.foldl (markPhase now) cp).completedAt = cp.completedAt := by
  induction names generalizing cp with
  | nil => rfl
  | cons name names ih => exact ih

theorem completedAt_markPhasesCompletedBefore :
    (cp.markPhasesCompletedBefore now target).completedAt = cp.completedAt := by
  rw [markPhasesCompletedBefore]
  split
  · rfl
  · exact completedAt_foldl_markPhase

/-- The terminal phase stands before none. -/
theorem merge_notMem_phasesBefore : "merge" ∉ phasesBefore target := by
  intro hmem
  cases hidx : phaseIndex target with
  | none =>
    rw [phasesBefore, hidx] at hmem
    cases hmem
  | some idx =>
    have hmerge : PHASE_ORDER = PHASE_ORDER.take 40 ++ "merge" :: [] := rfl
    obtain ⟨after, hsplit, hlength⟩ := split_of_phaseIndex hidx
    rw [mem_phasesBefore_iff hmerge hidx] at hmem
    have hcount := congrArg List.length hsplit
    rw [List.length_append, List.length_cons, hlength] at hcount
    have hall : PHASE_ORDER.length = 41 := rfl
    have hlast : (PHASE_ORDER.take 40).length = 40 := rfl
    omega

theorem actionable_markPhasesCompletedBefore (hidx : phaseIndex target = some idx)
    (htarget : cp.NotStarted target) (hskip : cp.isInSkipMap target = false) :
    (cp.markPhasesCompletedBefore now target).Actionable target := by
  rw [Actionable, isInSkipMap_congr skipMap_markPhasesCompletedBefore]
  refine ⟨hskip, ?_⟩
  rw [HasStatus, HasStatus, lookup_markPhasesCompletedBefore hidx notMem_phasesBefore]
  cases hp : cp.phases.lookup target with
  | none =>
    rw [if_pos ⟨rfl, rfl⟩]
    exact .inl ⟨_, rfl, rfl⟩
  | some p =>
    rw [if_neg fun h => Option.some_ne_none p h.2]
    rcases htarget p hp with hpending | hnone
    · exact .inl ⟨p, rfl, hpending⟩
    · exact .inr ⟨p, rfl, hnone⟩

/-- Every phase of the order is marked, or not started. -/
theorem marked_or_notStarted (hidx : phaseIndex target = some idx) (htarget : cp.NotStarted target)
    (hsplit : PHASE_ORDER = phasesBefore target ++ target :: after)
    (hafter : ∀ later ∈ after, cp.NotStarted later) (hmem : name ∈ PHASE_ORDER) :
    name ∈ phasesBefore target ∧ (cp.markPhasesCompletedBefore now target).Marked name ∨
      (cp.markPhasesCompletedBefore now target).NotStarted name := by
  by_cases hbefore : name ∈ phasesBefore target
  · exact .inl ⟨hbefore, marked_markPhasesCompletedBefore hidx hbefore⟩
  · refine .inr (notStarted_markPhasesCompletedBefore hidx hbefore ?_)
    rw [hsplit, List.mem_append, List.mem_cons] at hmem
    rcases hmem with hmem | rfl | hmem
    · exact absurd hmem hbefore
    · exact htarget
    · exact hafter name hmem

/-- The target is not started, so that the pipeline has not come to its end. -/
theorem isComplete_markPhasesCompletedBefore (hidx : phaseIndex target = some idx)
    (htarget : cp.NotStarted target)
    (hsplit : PHASE_ORDER = phasesBefore target ++ target :: after)
    (hafter : ∀ later ∈ after, cp.NotStarted later) (hat : cp.completedAt = none)
    (hskip : cp.isInSkipMap target = false) :
    (cp.markPhasesCompletedBefore now target).isComplete = false := by
  rw [← Bool.not_eq_true, isComplete_iff, completedAt_markPhasesCompletedBefore, hat]
  rintro (h | h | ⟨-, hall⟩)
  · cases h
  · obtain ⟨p, hp, hdone⟩ := isTerminalPhaseCompleted_iff.mp h
    have hmem : "merge" ∈ PHASE_ORDER := by decide
    rcases marked_or_notStarted hidx htarget hsplit hafter hmem with ⟨hbefore, -⟩ | hmerge
    · exact merge_notMem_phasesBefore hbefore
    · rcases isDone_iff.mp hdone with hstatus | hstatus
      · exact absurd (hmerge.status ⟨p, hp, hstatus⟩) (by decide)
      · exact absurd (hmerge.status ⟨p, hp, hstatus⟩) (by decide)
  · have hactionable : (cp.markPhasesCompletedBefore now target).Actionable target :=
      actionable_markPhasesCompletedBefore hidx htarget hskip
    obtain ⟨p, hp, hundone⟩ := hactionable.not_isDone
    rw [hall target p hp] at hundone
    cases hundone

theorem inferredPhaseName_markPhasesCompletedBefore (hidx : phaseIndex target = some idx)
    (htarget : cp.NotStarted target)
    (hsplit : PHASE_ORDER = phasesBefore target ++ target :: after)
    (hafter : ∀ later ∈ after, cp.NotStarted later) (hskip : cp.isInSkipMap target = false)
    (hat : cp.completedAt = none) :
    (cp.markPhasesCompletedBefore now target).inferredPhaseName = some target := by
  have hphase : ∀ {name}, name ∈ PHASE_ORDER →
      name ∈ phasesBefore target ∧ (cp.markPhasesCompletedBefore now target).Marked name ∨
        (cp.markPhasesCompletedBefore now target).NotStarted name :=
    marked_or_notStarted hidx htarget hsplit hafter
  have hopen : (cp.markPhasesCompletedBefore now target).isComplete = false :=
    isComplete_markPhasesCompletedBefore hidx htarget hsplit hafter hat hskip
  apply inferredPhaseName_of_first hopen ?_ ?_ hsplit
    (actionable_markPhasesCompletedBefore hidx htarget hskip)
  · intro name hmem
    exact (marked_markPhasesCompletedBefore hidx hmem).not_actionable
  · intro name hmem hcompleted
    have hname : name ∉ phasesBefore target := notMem_phasesBefore_of_after hsplit hmem
    have hstarted : (cp.markPhasesCompletedBefore now target).NotStarted name :=
      notStarted_markPhasesCompletedBefore hidx hname (hafter name hmem)
    exact absurd (hstarted.status hcompleted) (by decide)
  · intro name hmem hrunning
    rcases hphase hmem with ⟨-, hmarked⟩ | hstarted
    · exact absurd (hmarked.status hrunning) (by decide)
    · exact absurd (hstarted.status hrunning) (by decide)
  · intro name hmem hfailed
    rcases hphase hmem with ⟨-, hmarked⟩ | hstarted
    · exact absurd (hmarked.status hfailed) (by decide)
    · exact absurd (hstarted.status hfailed) (by decide)

/-- What a session is handed for a known target. -/
structure HandedOver (cp marked : Checkpoint) (target : String) (idx : Nat) : Prop where
  before : ∀ phase ∈ phasesBefore target, ∃ p, marked.phases.lookup phase = some p ∧
    p.status = (if cp.isInSkipMap phase then "skipped" else "completed") ∧ p.completedAt.isSome
  existing : ∀ p, cp.phases.lookup target = some p → marked.phases.lookup target = some p
  absent : cp.phases.lookup target = none → marked.phases.lookup target = some .pending
  others : ∀ phase, phase ∉ phasesBefore target → phase ≠ target →
    marked.phases.lookup phase = cp.phases.lookup phase
  again : ∀ now, marked.markPhasesCompletedBefore now target = marked
  phaseSequence : marked.phaseSequence = some (UInt32.ofNat idx)
  inferred : cp.NotStarted target → (∀ later ∈ PHASE_ORDER.drop (idx + 1), cp.NotStarted later) →
    cp.isInSkipMap target = false → cp.completedAt = none →
    marked.inferredPhaseName = some target ∧
      marked.effectivePhaseSequence = some (UInt32.ofNat idx)

theorem handedOver (hidx : phaseIndex target = some idx) :
    HandedOver cp (cp.markPhasesCompletedBefore now target) target idx := by
  have hsequence : (cp.markPhasesCompletedBefore now target).phaseSequence =
      some (UInt32.ofNat idx) := by
    rw [markPhasesCompletedBefore_eq hidx]
  refine ⟨?_, ?_, ?_, ?_, fun _ => markPhasesCompletedBefore_again hidx, hsequence, ?_⟩
  · intro phase hmem
    obtain ⟨p, hp, hstatus, hat⟩ : (cp.markPhasesCompletedBefore now target).Marked phase :=
      marked_markPhasesCompletedBefore hidx hmem
    rw [isInSkipMap_congr skipMap_markPhasesCompletedBefore] at hstatus
    exact ⟨p, hp, hstatus, hat⟩
  · intro p hp
    rw [lookup_markPhasesCompletedBefore hidx notMem_phasesBefore, hp, if_neg]
    exact fun h => Option.some_ne_none p h.2
  · intro hnone
    rw [lookup_markPhasesCompletedBefore hidx notMem_phasesBefore, if_pos ⟨rfl, hnone⟩]
  · intro phase hmem hne
    rw [lookup_markPhasesCompletedBefore hidx hmem, if_neg fun h => hne h.1]
  · intro htarget hlater hskip hat
    obtain ⟨after, hsplit, hlength⟩ := split_of_phaseIndex hidx
    rw [← hlength, drop_of_split hsplit] at hlater
    have hname : (cp.markPhasesCompletedBefore now target).inferredPhaseName = some target :=
      inferredPhaseName_markPhasesCompletedBefore hidx htarget hsplit hlater hskip hat
    refine ⟨hname, ?_⟩
    rw [effectivePhaseSequence, hname, Option.bind_some, hidx]
    rfl

/-- For every checkpoint: a session that starts at a known target is handed a checkpoint that stands
at it, and an unknown target leaves the checkpoint alone. -/
theorem markPhasesCompletedBefore_handsOver :
    (∀ idx, phaseIndex target = some idx →
        HandedOver cp (cp.markPhasesCompletedBefore now target) target idx) ∧
      (phaseIndex target = none → cp.markPhasesCompletedBefore now target = cp) := by
  refine ⟨fun idx => handedOver, fun hunknown => ?_⟩
  rw [markPhasesCompletedBefore, hunknown]

end GreaterWill.Checkpoint
