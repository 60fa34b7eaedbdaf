import GreaterWill.Checkpoint.NearCompletion

/-!
# Phase navigation

Where the pipeline was, is and will be, as the monitors show it. What is shown stands in the
canonical order except in one position: from a failed phase the next one is looked for from the very
start, from a running one only behind it.
-/

namespace GreaterWill

/-- Info about a single phase: name and timing. -/
structure PhaseInfo where
  name : String
  /-- The duration of a completed phase, or the time a running one has taken. -/
  durationSecs : Option Int

/-- Where the pipeline was, is, and will be. -/
structure PhaseNavigation where
  /-- Previous completed phase with its duration. -/
  prev : Option PhaseInfo
  /-- Currently active phase with elapsed time. -/
  current : Option PhaseInfo
  /-- Next pending phase name. -/
  next : Option String
  position : PhasePosition

section
variable (parseRfc3339 : String → Option Int) (utcNow : Int)

/-- `signed_duration_since` in whole seconds; timestamps are in nanoseconds. -/
def signedSecs (stop start : Int) : Int := (stop - start).tdiv 1000000000

/-- Duration of a completed phase. -/
def computePhaseDuration (phase : PhaseStatus) : Option Int := do
  let started ← phase.startedAt
  let completed ← phase.completedAt
  let start ← parseRfc3339 started
  let stop ← parseRfc3339 completed
  some (signedSecs stop start)

/-- What `find_map` asks of a phase when it looks for a completed one. -/
def completedInfo (cp : Checkpoint) (name : String) : Option PhaseInfo :=
  (cp.phases.lookup name).bind fun phase =>
    if phase.status = "completed" then some ⟨name, computePhaseDuration parseRfc3339 phase⟩
    else none

/-- Find the previous completed phase scanning backwards from `beforeIdx`. -/
def findPrevCompleted (cp : Checkpoint) (beforeIdx : Nat) : Option PhaseInfo :=
  (PHASE_ORDER.take beforeIdx).reverse.findSome? (completedInfo parseRfc3339 cp)

/-- Find the next actionable pending phase scanning forward from `startIdx`. -/
def findNextPending (cp : Checkpoint) (startIdx : Nat) : Option String :=
  cp.nextActionablePhaseAfter startIdx

/-- Compute phase navigation from a checkpoint. -/
def computePhaseNavigation (cp : Checkpoint) : PhaseNavigation :=
  let position := cp.inferPhasePosition
  match position with
  | .running phase startedAt =>
    let elapsed := (startedAt.bind parseRfc3339).map (signedSecs utcNow)
    let currentIdx := phaseIndex phase
    { prev := currentIdx.bind (findPrevCompleted parseRfc3339 cp)
      current := some ⟨phase, elapsed⟩
      next := currentIdx.bind fun ci => findNextPending cp (ci + 1)
      position }
  | .transitioning lastCompleted lastCompletedAt nextPending =>
    let prevDuration := lastCompletedAt.bind fun completed => do
      let phase ← cp.phases.lookup lastCompleted
      let started ← phase.startedAt
      let start ← parseRfc3339 started
      let stop ← parseRfc3339 completed
      some (signedSecs stop start)
    { prev := some ⟨lastCompleted, prevDuration⟩
      current := none
      next := if nextPending.isEmpty then none else some nextPending
      position }
  | .waitingToStart firstPending =>
    { prev := none, current := none, next := some firstPending, position }
  | .allDone =>
    { prev := PHASE_ORDER.reverse.findSome? (completedInfo parseRfc3339 cp)
      current := none
      next := none
      position }
  | .failed failedPhase nextPending =>
    let failedIdx := phaseIndex failedPhase
    { prev := failedIdx.bind (findPrevCompleted parseRfc3339 cp)
      current := some ⟨failedPhase, none⟩
      next := nextPending
      position }
  | .unknown => { prev := none, current := none, next := none, position }

end

/-! ## The order of the phases -/

/-- It stands before the other one in the canonical order. -/
def Precedes (phase later : String) : Prop :=
  ∃ i j, phaseIndex phase = some i ∧ phaseIndex later = some j ∧ i < j

variable {before after : List String} {phase name later : String}

theorem Precedes.asymm (h : Precedes phase later) : ¬ Precedes later phase := by
  obtain ⟨i, j, hi, hj, hlt⟩ := h
  rintro ⟨j', i', hj', hi', hlt'⟩
  rw [hi] at hi'
  rw [hj] at hj'
  cases hi'
  cases hj'
  exact absurd hlt (Nat.lt_asymm hlt')

theorem precedes_of_mem_after (hsplit : PHASE_ORDER = before ++ phase :: after)
    (hmem : later ∈ after) : Precedes phase later := by
  obtain ⟨between, rest, rfl⟩ := List.append_of_mem hmem
  have hlater : PHASE_ORDER = (before ++ phase :: between) ++ later :: rest := by
    rw [hsplit, List.append_assoc, List.cons_append]
  refine ⟨_, _, Checkpoint.phaseIndex_of_split hsplit, Checkpoint.phaseIndex_of_split hlater, ?_⟩
  rw [List.length_append, List.length_cons]
  omega

theorem precedes_of_mem_before (hsplit : PHASE_ORDER = before ++ phase :: after)
    (hmem : name ∈ before) : Precedes name phase := by
  obtain ⟨first, rest, rfl⟩ := List.append_of_mem hmem
  rw [List.append_assoc, List.cons_append] at hsplit
  exact precedes_of_mem_after hsplit (List.mem_append_right rest List.mem_cons_self)

theorem Precedes.trans {last : String} (h : Precedes phase later) (h' : Precedes later last) :
    Precedes phase last := by
  obtain ⟨i, j, hi, hj, hlt⟩ := h
  obtain ⟨j', k, hj', hk, hlt'⟩ := h'
  rw [hj] at hj'
  cases hj'
  exact ⟨i, k, hi, hk, hlt.trans hlt'⟩

/-! ## What navigation shows -/

namespace PhaseNavigation

/-- What is shown has the status it is shown for. -/
structure Faithful (cp : Checkpoint) (nav : PhaseNavigation) : Prop where
  prev : ∀ info ∈ nav.prev, cp.HasStatus "completed" info.name
  current : ∀ info ∈ nav.current,
    cp.HasStatus "in_progress" info.name ∨ cp.HasStatus "failed" info.name
  next : ∀ name ∈ nav.next, cp.Actionable name

/-- What is shown stands in the canonical order. -/
structure Ordered (nav : PhaseNavigation) : Prop where
  prev_current : ∀ prev ∈ nav.prev, ∀ current ∈ nav.current, Precedes prev.name current.name
  current_next : ∀ current ∈ nav.current, ∀ next ∈ nav.next, Precedes current.name next
  prev_next : ∀ prev ∈ nav.prev, ∀ next ∈ nav.next, Precedes prev.name next

end PhaseNavigation

variable {parseRfc3339 : String → Option Int} {utcNow : Int} {cp : Checkpoint} {info : PhaseInfo}
  {o : Option String}

theorem completedInfo_spec (h : completedInfo parseRfc3339 cp name = some info) :
    info.name = name ∧ cp.HasStatus "completed" name := by
  rw [completedInfo, Option.bind_eq_some_iff] at h
  obtain ⟨p, hp, h⟩ := h
  split at h
  · next hstatus =>
    cases h
    exact ⟨rfl, p, hp, hstatus⟩
  · cases h

/-- A backward scan ends at a completed phase of the list. -/
theorem findSome?_completedInfo {names : List String}
    (h : names.reverse.findSome? (completedInfo parseRfc3339 cp) = some info) :
    info.name ∈ names ∧ cp.HasStatus "completed" info.name := by
  obtain ⟨name, hmem, hname⟩ := List.exists_of_findSome?_eq_some h
  obtain ⟨hinfo, hstatus⟩ := completedInfo_spec hname
  rw [hinfo]
  exact ⟨List.mem_reverse.mp hmem, hstatus⟩

theorem findPrevCompleted_spec (hsplit : PHASE_ORDER = before ++ phase :: after)
    (h : (phaseIndex phase).bind (findPrevCompleted parseRfc3339 cp) = some info) :
    info.name ∈ before ∧ cp.HasStatus "completed" info.name := by
  rw [Checkpoint.phaseIndex_of_split hsplit, Option.bind_some, findPrevCompleted, hsplit,
    List.take_left] at h
  exact findSome?_completedInfo h

theorem findNextPending_spec (hsplit : PHASE_ORDER = before ++ phase :: after)
    (h : ((phaseIndex phase).bind fun ci => findNextPending cp (ci + 1)) = some name) :
    name ∈ after ∧ cp.Actionable name := by
  obtain ⟨next, hnext⟩ := exists_first cp.Actionable after
  rw [Checkpoint.phaseIndex_of_split hsplit, Option.bind_some, findNextPending,
    Checkpoint.nextActionablePhaseAfter_eq hsplit hnext] at h
  subst h
  exact ⟨hnext.mem, hnext.holds⟩

/-- The name of the next phase, which is empty where there is none. -/
theorem getD_spec (hsplit : PHASE_ORDER = before ++ phase :: after)
    (hnext : First cp.Actionable after o) :
    (if (o.getD "").isEmpty then none else some (o.getD "")) = o := by
  cases o with
  | none => rfl
  | some next =>
    have hmem : next ∈ PHASE_ORDER := by
      rw [hsplit]
      exact List.mem_append_right before (List.mem_cons_of_mem phase hnext.mem)
    rw [Option.getD_some, ne_empty_of_mem hmem]
    rfl

theorem computePhaseNavigation_faithful :
    (computePhaseNavigation parseRfc3339 utcNow cp).Faithful cp := by
  have hinferred := cp.inferred
  rw [computePhaseNavigation]
  generalize cp.inferPhasePosition = position at hinferred
  cases hinferred with
  | allDone _ =>
    refine ⟨?_, nofun, nofun⟩
    intro info hinfo
    exact (findSome?_completedInfo hinfo).2
  | running _ hrunning _ =>
    have hphase := hrunning.holds
    obtain ⟨before, after, hsplit, -, -⟩ := hrunning
    refine ⟨?_, ?_, ?_⟩
    · intro info hinfo
      exact (findPrevCompleted_spec hsplit hinfo).2
    · rintro info ⟨⟩
      exact .inl hphase
    · intro next hnext
      exact (findNextPending_spec hsplit hnext).2
  | failed _ _ hfailed hnext =>
    have hphase := hfailed.holds
    obtain ⟨before, after, hsplit, -, -⟩ := hfailed
    refine ⟨?_, ?_, ?_⟩
    · intro info hinfo
      exact (findPrevCompleted_spec hsplit hinfo).2
    · rintro info ⟨⟩
      exact .inr hphase
    · rintro next ⟨⟩
      exact hnext.holds
  | transitioning _ hsplit hp hstatus hnext =>
    dsimp only
    rw [getD_spec hsplit hnext]
    refine ⟨?_, nofun, ?_⟩
    · rintro info ⟨⟩
      exact ⟨_, hp, hstatus⟩
    · rintro next ⟨⟩
      exact hnext.holds
  | waitingToStart _ _ hnext =>
    refine ⟨nofun, nofun, ?_⟩
    rintro next ⟨⟩
    exact hnext.holds
  | unknown _ => exact ⟨nofun, nofun, nofun⟩

/-- Nothing before the phase the pipeline has failed in is to be run. -/
def NoneBeforeFailed (cp : Checkpoint) : Prop :=
  cp.isComplete = false → First (cp.HasStatus "in_progress") PHASE_ORDER none →
    ∀ failed, First (cp.HasStatus "failed") PHASE_ORDER (some failed) →
      ∀ phase ∈ phasesBefore failed, ¬ cp.Actionable phase

/-- The phase the scan from the very start finds stands behind the failed one exactly if nothing
before it is to be run. -/
theorem precedes_first_iff (hsplit : PHASE_ORDER = before ++ phase :: after)
    (hfailed : cp.HasStatus "failed" phase) (hnext : First cp.Actionable PHASE_ORDER o) :
    (∀ next ∈ o, Precedes phase next) ↔ ∀ name ∈ before, ¬ cp.Actionable name := by
  constructor
  · intro h name hmem hactionable
    cases o with
    | none =>
      refine hnext name ?_ hactionable
      rw [hsplit]
      exact List.mem_append_left _ hmem
    | some next =>
      obtain ⟨first, rest, hfirst, -, hnone⟩ := hnext
      have hlate : before.length < first.length := by
        obtain ⟨i, j, hi, hj, hlt⟩ := h next rfl
        rw [Checkpoint.phaseIndex_of_split hsplit] at hi
        rw [Checkpoint.phaseIndex_of_split hfirst] at hj
        cases hi
        cases hj
        exact hlt
      refine hnone name ?_ hactionable
      have htake : PHASE_ORDER.take before.length = first.take before.length := by
        rw [hfirst, List.take_append_of_le_length (Nat.le_of_lt hlate)]
      rw [hsplit, List.take_left] at htake
      rw [htake] at hmem
      exact List.mem_of_mem_take hmem
  · rintro h next ⟨⟩
    have hmem := hnext.mem
    rw [hsplit, List.mem_append, List.mem_cons] at hmem
    rcases hmem with hmem | rfl | hmem
    · exact absurd hnext.holds (h next hmem)
    · rcases hnext.holds.2 with hpending | hempty
      · exact absurd (hfailed.unique hpending) (by decide)
      · exact absurd (hfailed.unique hempty) (by decide)
    · exact precedes_of_mem_after hsplit hmem

theorem prev_precedes (hsplit : PHASE_ORDER = before ++ phase :: after) :
    ∀ prev ∈ (phaseIndex phase).bind (findPrevCompleted parseRfc3339 cp),
      Precedes prev.name phase := by
  intro prev hprev
  exact precedes_of_mem_before hsplit (findPrevCompleted_spec hsplit hprev).1

/-- Around a current phase the order of the outer two follows. -/
theorem ordered_of_current {nav : PhaseNavigation} (hcurrent : nav.current = some info)
    (hprev : ∀ prev ∈ nav.prev, Precedes prev.name info.name)
    (hnext : ∀ next ∈ nav.next, Precedes info.name next) : nav.Ordered where
  prev_current := by
    rw [hcurrent]
    rintro prev hmem current ⟨⟩
    exact hprev prev hmem
  current_next := by
    rw [hcurrent]
    rintro current ⟨⟩
    exact hnext
  prev_next prev hmem next hmem' := (hprev prev hmem).trans (hnext next hmem')

theorem computePhaseNavigation_ordered (h : NoneBeforeFailed cp) :
    (computePhaseNavigation parseRfc3339 utcNow cp).Ordered := by
  have hinferred := cp.inferred
  rw [computePhaseNavigation]
  generalize cp.inferPhasePosition = position at hinferred
  cases hinferred with
  | allDone _ => exact ⟨nofun, nofun, nofun⟩
  | running _ hrunning _ =>
    obtain ⟨before, after, hsplit, -, -⟩ := hrunning
    refine ordered_of_current rfl (prev_precedes hsplit) ?_
    intro next hnext
    exact precedes_of_mem_after hsplit (findNextPending_spec hsplit hnext).1
  | failed hopen hrunning hfailed hnext =>
    have hnone := h hopen hrunning _ hfailed
    have hphase := hfailed.holds
    obtain ⟨before, after, hsplit, -, -⟩ := hfailed
    rw [phasesBefore_of_split hsplit] at hnone
    exact ordered_of_current rfl (prev_precedes hsplit)
      ((precedes_first_iff hsplit hphase hnext).mpr hnone)
  | transitioning _ hsplit _ _ hnext =>
    dsimp only
    rw [getD_spec hsplit hnext]
    refine ⟨nofun, nofun, ?_⟩
    rintro prev ⟨⟩ next ⟨⟩
    exact precedes_of_mem_after hsplit hnext.mem
  | waitingToStart _ _ _ => exact ⟨nofun, nofun, nofun⟩
  | unknown _ => exact ⟨nofun, nofun, nofun⟩

/-- Navigation shows phases in their statuses, and in order exactly if there is nothing to go back
to from a failed phase. -/
theorem computePhaseNavigation_ordered_iff :
    (computePhaseNavigation parseRfc3339 utcNow cp).Faithful cp ∧
        (computePhaseNavigation parseRfc3339 utcNow cp).Ordered ↔ NoneBeforeFailed cp := by
  rw [and_iff_right computePhaseNavigation_faithful]
  refine ⟨?_, computePhaseNavigation_ordered⟩
  intro hordered hopen hrunning failed hfailed
  obtain ⟨next, hnext⟩ := exists_first cp.Actionable PHASE_ORDER
  have hposition := Checkpoint.inferPhasePosition_of_failed hopen hrunning hfailed hnext
  have hlate := hordered.current_next
  rw [computePhaseNavigation, hposition] at hlate
  have hphase := hfailed.holds
  obtain ⟨before, after, hsplit, -, -⟩ := hfailed
  rw [phasesBefore_of_split hsplit]
  exact (precedes_first_iff hsplit hphase hnext).mp (hlate _ rfl)

/-- An arc that has failed in its second phase and has its first one still to run. -/
def failedForgeQa : Checkpoint where
  id := "arc-1"
  planFile := "plan.md"
  phases := Dict.ofList [("forge", { status := "pending" }), ("forge_qa", { status := "failed" })]

/-- The next phase shown stands before the current one. -/
theorem failedForgeQa_back :
    (computePhaseNavigation (fun _ => none) 0 failedForgeQa).next = some "forge" ∧
      (computePhaseNavigation (fun _ => none) 0 failedForgeQa).current =
        some ⟨"forge_qa", none⟩ ∧
      ¬ (computePhaseNavigation (fun _ => none) 0 failedForgeQa).Ordered := by
  have hposition : failedForgeQa.inferPhasePosition = .failed "forge_qa" (some "forge") := by
    decide
  rw [computePhaseNavigation, hposition]
  refine ⟨rfl, rfl, fun hordered => ?_⟩
  have hback : Precedes "forge" "forge_qa" := ⟨0, 1, rfl, rfl, Nat.zero_lt_one⟩
  exact hback.asymm (hordered.current_next _ rfl _ rfl)

end GreaterWill
