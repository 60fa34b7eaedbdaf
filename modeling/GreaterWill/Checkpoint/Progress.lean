import Mathlib.Logic.Relation
import GreaterWill.Checkpoint.PhaseInference
import GreaterWill.Checkpoint.Handoff

/-!
# The inferred phase goes forward

An arc takes its phases one by one: the phase that is inferred is started, and ends completed or
skipped. The checkpoints it goes through have a frontier (`Frontier`): the phases before it are
done, or pending and to be skipped; the phase at it is pending or in progress and not to be
skipped; those behind it are pending. The inferred phase is the one at the frontier, and a step
leaves the frontier where it is or moves it on, past the phases that are to be skipped.
-/

namespace GreaterWill.Checkpoint

/-- The change of the status of one phase. -/
inductive Moves : String → String → Prop where
  | start : Moves "pending" "in_progress"
  | complete : Moves "in_progress" "completed"
  | skip : Moves "in_progress" "skipped"
  | skipPending : Moves "pending" "skipped"

/-- The inferred phase moves. The arc may rewrite what is not about the phases as it likes. -/
structure Advances (cp cp' : Checkpoint) : Prop where
  moved : ∃ name p q, cp.inferredPhaseName = some name ∧ cp.phases.lookup name = some p ∧
    cp'.phases.lookup name = some q ∧ Moves p.status q.status ∧
    ∀ other, other ≠ name → cp'.phases.lookup other = cp.phases.lookup other
  skipMap : cp'.skipMap = cp.skipMap
  completedAt : cp'.completedAt = cp.completedAt

/-- All phases are pending, with any skip map. -/
structure Fresh (cp : Checkpoint) : Prop where
  pending : ∀ name ∈ PHASE_ORDER, cp.HasStatus "pending" name
  known : ∀ name, (cp.phases.lookup name).isSome → name ∈ PHASE_ORDER
  completedAt : cp.completedAt = none

/-- The place of the inferred phase in `PHASE_ORDER`. -/
def inferredIndex (cp : Checkpoint) : Option Nat := cp.inferredPhaseName.bind phaseIndex

/-- Done, or to be skipped when the arc gets to it. -/
def Passed (cp : Checkpoint) (name : String) : Prop :=
  cp.HasStatus "completed" name ∨ cp.HasStatus "skipped" name ∨
    cp.HasStatus "pending" name ∧ cp.isInSkipMap name = true

/-- The arc has passed the phases of `before`, and is at the first one of `rest`. -/
structure Frontier (cp : Checkpoint) (before rest : List String) : Prop where
  order : PHASE_ORDER = before ++ rest
  known : ∀ name, (cp.phases.lookup name).isSome → name ∈ PHASE_ORDER
  completedAt : cp.completedAt = none
  passed : ∀ name ∈ before, cp.Passed name
  current : ∀ name ∈ rest.head?, cp.isInSkipMap name = false ∧
    (cp.HasStatus "pending" name ∨ cp.HasStatus "in_progress" name)
  untouched : ∀ name ∈ rest.tail, cp.HasStatus "pending" name

variable {cp cp' cp₀ : Checkpoint} {name other status status' : String}
  {before rest after : List String}

theorem Passed.not_running (h : cp.Passed name) : ¬ cp.HasStatus "in_progress" name := by
  intro hrunning
  rcases h with h | h | ⟨h, -⟩
  · exact absurd (h.unique hrunning) (by decide)
  · exact absurd (h.unique hrunning) (by decide)
  · exact absurd (h.unique hrunning) (by decide)

theorem Passed.not_failed (h : cp.Passed name) : ¬ cp.HasStatus "failed" name := by
  intro hfailed
  rcases h with h | h | ⟨h, -⟩
  · exact absurd (h.unique hfailed) (by decide)
  · exact absurd (h.unique hfailed) (by decide)
  · exact absurd (h.unique hfailed) (by decide)

theorem Passed.not_actionable (h : cp.Passed name) : ¬ cp.Actionable name := by
  rintro ⟨hskip, hpending⟩
  rcases h with h | h | ⟨-, hskipped⟩
  · rcases hpending with hpending | hpending
    · exact absurd (h.unique hpending) (by decide)
    · exact absurd (h.unique hpending) (by decide)
  · rcases hpending with hpending | hpending
    · exact absurd (h.unique hpending) (by decide)
    · exact absurd (h.unique hpending) (by decide)
  · rw [hskipped] at hskip
    cases hskip

/-! ## The inferred phase is at the frontier -/

namespace Frontier

theorem phases_ne (h : Frontier cp before rest) : cp.phases.isEmpty = false := by
  cases before with
  | cons name before =>
    rcases h.passed name List.mem_cons_self with hp | hp | ⟨hp, -⟩
    · exact hp.phases_ne
    · exact hp.phases_ne
    · exact hp.phases_ne
  | nil =>
    cases rest with
    | nil => exact absurd h.order (by decide)
    | cons name after =>
      rcases (h.current name rfl).2 with hp | hp
      · exact hp.phases_ne
      · exact hp.phases_ne

/-- The terminal phase is at the frontier or behind it. -/
theorem merge_mem (h : Frontier cp before (name :: after)) : "merge" ∈ name :: after := by
  have hlast : PHASE_ORDER.getLast? = some "merge" := by decide
  rw [h.order, List.getLast?_append, List.getLast?_cons, Option.some_or] at hlast
  apply List.mem_of_getLast?
  rw [List.getLast?_cons, hlast]

theorem status_of_mem (h : Frontier cp before rest) (hmem : name ∈ rest) :
    cp.HasStatus "pending" name ∨ cp.HasStatus "in_progress" name := by
  cases rest with
  | nil => cases hmem
  | cons first after =>
    rcases List.mem_cons.mp hmem with rfl | hmem
    · exact (h.current name rfl).2
    · exact .inl (h.untouched name hmem)

/-- An arc that is not through its phases is not complete. -/
theorem isComplete_eq_false (h : Frontier cp before (name :: after)) : cp.isComplete = false := by
  have hstatus := h.status_of_mem h.merge_mem
  rw [← Bool.not_eq_true]
  intro hcomplete
  rcases isComplete_imp hcomplete with (hat | hmerge | hall) | hmerge
  · rw [h.completedAt] at hat
    cases hat
  · rcases hstatus with hp | hp
    · exact absurd (hp.unique hmerge) (by decide)
    · exact absurd (hp.unique hmerge) (by decide)
  · rcases (h.current name rfl).2 with ⟨p, hp, hstatus⟩ | ⟨p, hp, hstatus⟩
    · have hdone := hall name p hp
      rw [hstatus] at hdone
      exact absurd hdone (by decide)
    · have hdone := hall name p hp
      rw [hstatus] at hdone
      exact absurd hdone (by decide)
  · rcases hstatus with hp | hp
    · exact absurd (hp.unique hmerge) (by decide)
    · exact absurd (hp.unique hmerge) (by decide)

theorem none_failed (h : Frontier cp before rest) :
    First (cp.HasStatus "failed") PHASE_ORDER none := by
  intro name hmem hfailed
  rw [h.order] at hmem
  rcases List.mem_append.mp hmem with hbefore | hrest
  · exact (h.passed name hbefore).not_failed hfailed
  · rcases h.status_of_mem hrest with hp | hp
    · exact absurd (hp.unique hfailed) (by decide)
    · exact absurd (hp.unique hfailed) (by decide)

/-- Unless the phase at the frontier is in progress, none is. -/
theorem none_running (h : Frontier cp before rest)
    (hcurrent : ∀ name ∈ rest.head?, cp.HasStatus "pending" name) :
    First (cp.HasStatus "in_progress") PHASE_ORDER none := by
  intro name hmem hrunning
  rw [h.order] at hmem
  rcases List.mem_append.mp hmem with hbefore | hrest
  · exact (h.passed name hbefore).not_running hrunning
  · have hpending : cp.HasStatus "pending" name := by
      cases rest with
      | nil => cases hrest
      | cons first after =>
        rcases List.mem_cons.mp hrest with rfl | hafter
        · exact hcurrent name rfl
        · exact h.untouched name hafter
    exact absurd (hpending.unique hrunning) (by decide)

/-- The last completed phase is one of those passed. -/
theorem split_of_completed (h : Frontier cp before rest) {front back : List String}
    (hsplit : PHASE_ORDER = front ++ name :: back) (hname : cp.HasStatus "completed" name) :
    ∃ passed, back = passed ++ rest ∧ ∀ other ∈ passed, other ∈ before := by
  have heq := h.order.symm.trans hsplit
  have hopen : name ∉ rest := by
    intro hmem
    rcases h.status_of_mem hmem with hp | hp
    · exact absurd (hp.unique hname) (by decide)
    · exact absurd (hp.unique hname) (by decide)
  rcases List.append_eq_append_iff.mp heq with ⟨between, -, hrest⟩ | ⟨between, hbefore, hback⟩
  · rw [hrest] at hopen
    exact absurd (List.mem_append_right between List.mem_cons_self) hopen
  · cases between with
    | nil =>
      rw [List.nil_append] at hback
      rw [← hback] at hopen
      exact absurd List.mem_cons_self hopen
    | cons first passed =>
      obtain ⟨rfl, rfl⟩ := List.cons.inj hback
      refine ⟨passed, rfl, ?_⟩
      intro other hmem
      rw [hbefore]
      exact List.mem_append_right front (List.mem_cons_of_mem name hmem)

theorem inferredPhaseName_cons (h : Frontier cp before (name :: after)) :
    cp.inferredPhaseName = some name := by
  have hopen := h.isComplete_eq_false
  obtain ⟨hskip, hstatus⟩ := h.current name rfl
  rw [inferredPhaseName]
  rcases hstatus with hpending | hrunning
  · have hcurrent : ∀ other ∈ (name :: after).head?, cp.HasStatus "pending" other := by
      rintro other hother
      cases hother
      exact hpending
    have hactionable : cp.Actionable name := ⟨hskip, .inl hpending⟩
    rcases lastCompleted_cases cp with ⟨hcompleted, -⟩ | hlast
    · have hnext : First cp.Actionable PHASE_ORDER (some name) := by
        rw [h.order]
        exact First.split (fun other hmem => (h.passed other hmem).not_actionable) hactionable
      rw [inferPhasePosition_of_none_completed h.phases_ne hopen (h.none_running hcurrent)
        h.none_failed hcompleted hnext]
      rfl
    · obtain ⟨front, last, back, p, hsplit, hp, hcompleted, hback, -⟩ := hlast
      obtain ⟨passed, rfl, hpassed⟩ := h.split_of_completed hsplit ⟨p, hp, hcompleted⟩
      have hnext : First cp.Actionable (passed ++ name :: after) (some name) :=
        First.split (fun other hmem => (h.passed other (hpassed other hmem)).not_actionable)
          hactionable
      rw [inferPhasePosition_of_completed hopen (h.none_running hcurrent) h.none_failed hsplit hp
        hcompleted hback hnext]
      have hname : name.isEmpty = false := by
        have hnames : ∀ phase ∈ PHASE_ORDER, phase.isEmpty = false := by decide
        apply hnames
        rw [h.order]
        exact List.mem_append_right before List.mem_cons_self
      simp [PhasePosition.effectivePhase, hname]
  · have hfirst : First (cp.HasStatus "in_progress") PHASE_ORDER (some name) := by
      rw [h.order]
      exact First.split (fun other hmem => (h.passed other hmem).not_running) hrunning
    obtain ⟨p, hp, -⟩ := hrunning
    rw [inferPhasePosition_of_running hopen hfirst hp]
    rfl

theorem inferredPhaseName_nil (h : Frontier cp before []) : cp.inferredPhaseName = none := by
  cases hcomplete : cp.isComplete with
  | true => exact inferredPhaseName_of_isComplete hcomplete
  | false =>
    have hrunning := h.none_running fun _ hmem => nomatch hmem
    have hnone : ∀ name ∈ before, ¬ cp.Actionable name :=
      fun name hmem => (h.passed name hmem).not_actionable
    rw [inferredPhaseName]
    rcases lastCompleted_cases cp with ⟨hcompleted, -⟩ | hlast
    · have hnext : First cp.Actionable PHASE_ORDER none := by
        rw [h.order, List.append_nil]
        exact hnone
      rw [inferPhasePosition_of_none_completed h.phases_ne hcomplete hrunning h.none_failed
        hcompleted hnext]
      rfl
    · obtain ⟨front, last, back, p, hsplit, hp, hcompleted, hback, -⟩ := hlast
      obtain ⟨passed, rfl, hpassed⟩ := h.split_of_completed hsplit ⟨p, hp, hcompleted⟩
      have hnext : First cp.Actionable (passed ++ []) none := by
        rw [List.append_nil]
        exact fun name hmem => hnone name (hpassed name hmem)
      rw [inferPhasePosition_of_completed hcomplete hrunning h.none_failed hsplit hp hcompleted
        hback hnext]
      split
      · rfl
      · rfl

theorem inferredPhaseName_eq (h : Frontier cp before rest) :
    cp.inferredPhaseName = rest.head? := by
  cases rest with
  | nil => exact h.inferredPhaseName_nil
  | cons name after => exact h.inferredPhaseName_cons

theorem inferredIndex_cons (h : Frontier cp before (name :: after)) :
    cp.inferredIndex = some before.length := by
  rw [inferredIndex, h.inferredPhaseName_cons, Option.bind_some]
  exact phaseIndex_of_split h.order

end Frontier

/-! ## A step moves the frontier on -/

/-- With all phases pending behind those passed, the frontier is past those to be skipped. -/
theorem exists_frontier_of_pending (horder : PHASE_ORDER = before ++ rest)
    (hknown : ∀ name, (cp.phases.lookup name).isSome → name ∈ PHASE_ORDER)
    (hcompletedAt : cp.completedAt = none) (hpassed : ∀ name ∈ before, cp.Passed name)
    (hpending : ∀ name ∈ rest, cp.HasStatus "pending" name) :
    ∃ skipped rest', Frontier cp (before ++ skipped) rest' := by
  induction rest generalizing before with
  | nil =>
    refine ⟨[], [], ?_⟩
    rw [List.append_nil]
    exact {
      order := horder
      known := hknown
      completedAt := hcompletedAt
      passed := hpassed
      current := fun _ hmem => nomatch hmem
      untouched := fun _ hmem => nomatch hmem }
  | cons name after ih =>
    obtain ⟨hname, hafter⟩ := List.forall_mem_cons.mp hpending
    cases hskip : cp.isInSkipMap name with
    | false =>
      refine ⟨[], name :: after, ?_⟩
      rw [List.append_nil]
      refine {
        order := horder
        known := hknown
        completedAt := hcompletedAt
        passed := hpassed
        current := ?_
        untouched := hafter }
      rintro other hother
      cases hother
      exact ⟨hskip, .inl hname⟩
    | true =>
      have horder' : PHASE_ORDER = (before ++ [name]) ++ after := by
        rw [horder, List.append_assoc, List.singleton_append]
      have hpassed' : ∀ other ∈ before ++ [name], cp.Passed other := by
        rw [List.forall_mem_append, List.forall_mem_singleton]
        exact ⟨hpassed, .inr (.inr ⟨hname, hskip⟩)⟩
      obtain ⟨skipped, rest', hfrontier⟩ := ih horder' hpassed' hafter
      rw [List.append_assoc] at hfrontier
      exact ⟨_, rest', hfrontier⟩

theorem Fresh.exists_frontier (h : cp.Fresh) : ∃ before rest, Frontier cp before rest := by
  have hnone : ∀ name ∈ ([] : List String), cp.Passed name := fun _ hmem => nomatch hmem
  obtain ⟨skipped, rest, hfrontier⟩ :=
    exists_frontier_of_pending rfl h.known h.completedAt hnone h.pending
  exact ⟨_, rest, hfrontier⟩

theorem hasStatus_congr (h : cp'.phases.lookup name = cp.phases.lookup name) :
    cp'.HasStatus status name ↔ cp.HasStatus status name := by
  rw [HasStatus, HasStatus, h]

theorem Passed.congr (hlookup : cp'.phases.lookup name = cp.phases.lookup name)
    (hskip : cp'.skipMap = cp.skipMap) (h : cp.Passed name) : cp'.Passed name := by
  rwa [Passed, hasStatus_congr hlookup, hasStatus_congr hlookup, hasStatus_congr hlookup,
    isInSkipMap_congr hskip]

theorem Frontier.step (h : Frontier cp before rest) (hstep : Advances cp cp') :
    ∃ moved rest', Frontier cp' (before ++ moved) rest' := by
  obtain ⟨name, p, q, hname, hp, hq, hmoves, hothers⟩ := hstep.moved
  rw [h.inferredPhaseName_eq, List.head?_eq_some_iff] at hname
  obtain ⟨after, rfl⟩ := hname
  have hnodup := nodup_PHASE_ORDER
  rw [h.order, List.nodup_append, List.nodup_cons] at hnodup
  obtain ⟨-, ⟨hnot, -⟩, hdisjoint⟩ := hnodup
  have hknown : ∀ other, (cp'.phases.lookup other).isSome → other ∈ PHASE_ORDER := by
    intro other hother
    by_cases heq : other = name
    · rw [heq]
      exact h.known name (by rw [hp]; rfl)
    · rw [hothers other heq] at hother
      exact h.known other hother
  have hcompletedAt : cp'.completedAt = none := hstep.completedAt.trans h.completedAt
  have hpassed : ∀ other ∈ before, cp'.Passed other := by
    intro other hmem
    have hne : other ≠ name := hdisjoint other hmem name List.mem_cons_self
    exact (h.passed other hmem).congr (hothers other hne) hstep.skipMap
  have hafter : ∀ other ∈ after, cp'.HasStatus "pending" other := by
    intro other hmem
    have hne : other ≠ name := ne_of_mem_of_not_mem hmem hnot
    exact (hasStatus_congr (hothers other hne)).mpr (h.untouched other hmem)
  have hdone : q.status = "completed" ∨ q.status = "skipped" →
      ∃ moved rest', Frontier cp' (before ++ moved) rest' := by
    intro hstatus
    have hpassed' : ∀ other ∈ before ++ [name], cp'.Passed other := by
      rw [List.forall_mem_append, List.forall_mem_singleton]
      refine ⟨hpassed, ?_⟩
      rcases hstatus with hstatus | hstatus
      · exact .inl ⟨q, hq, hstatus⟩
      · exact .inr (.inl ⟨q, hq, hstatus⟩)
    have horder : PHASE_ORDER = (before ++ [name]) ++ after := by
      rw [h.order, List.append_assoc, List.singleton_append]
    obtain ⟨skipped, rest', hfrontier⟩ :=
      exists_frontier_of_pending horder hknown hcompletedAt hpassed' hafter
    rw [List.append_assoc] at hfrontier
    exact ⟨_, rest', hfrontier⟩
  generalize hpold : p.status = old at hmoves
  generalize hqnew : q.status = new at hmoves hdone
  cases hmoves with
  | start =>
    refine ⟨[], name :: after, ?_⟩
    rw [List.append_nil]
    refine {
      order := h.order
      known := hknown
      completedAt := hcompletedAt
      passed := hpassed
      current := ?_
      untouched := hafter }
    rintro other hother
    cases hother
    rw [isInSkipMap_congr hstep.skipMap]
    exact ⟨(h.current name rfl).1, .inr ⟨q, hq, hqnew⟩⟩
  | complete => exact hdone (.inl rfl)
  | skip => exact hdone (.inr rfl)
  | skipPending => exact hdone (.inr rfl)

/-- Over any number of steps the frontier only moves on. -/
theorem Frontier.run (h : Frontier cp before rest)
    (hrun : Relation.ReflTransGen Advances cp cp') :
    ∃ moved rest', Frontier cp' (before ++ moved) rest' := by
  induction hrun with
  | refl => exact ⟨[], rest, by rwa [List.append_nil]⟩
  | tail _ hstep ih =>
    obtain ⟨moved, rest', hfrontier⟩ := ih
    obtain ⟨moved', rest'', hfrontier'⟩ := hfrontier.step hstep
    rw [List.append_assoc] at hfrontier'
    exact ⟨_, rest'', hfrontier'⟩

theorem skipMap_run (hrun : Relation.ReflTransGen Advances cp cp') : cp'.skipMap = cp.skipMap := by
  induction hrun with
  | refl => rfl
  | tail _ hstep ih => exact hstep.skipMap.trans ih

/-! ## What the frontier says of the position -/

theorem Frontier.index_le (h : Frontier cp before rest)
    (hrun : Relation.ReflTransGen Advances cp cp') {i j : Nat} (hi : cp.inferredIndex = some i)
    (hj : cp'.inferredIndex = some j) : i ≤ j := by
  obtain ⟨moved, rest', h'⟩ := h.run hrun
  cases rest with
  | nil =>
    rw [inferredIndex, h.inferredPhaseName_nil] at hi
    cases hi
  | cons name after =>
    cases rest' with
    | nil =>
      rw [inferredIndex, h'.inferredPhaseName_nil] at hj
      cases hj
    | cons name' after' =>
      rw [h.inferredIndex_cons] at hi
      rw [h'.inferredIndex_cons, List.length_append] at hj
      cases hi
      cases hj
      exact Nat.le_add_right _ _

theorem Frontier.effectivePhaseSequence_eq (h : Frontier cp before rest)
    (hname : cp.inferredPhaseName = some name) :
    ∃ i, cp.inferredIndex = some i ∧ cp.effectivePhaseSequence.map (·.toNat) = some i := by
  rw [h.inferredPhaseName_eq, List.head?_eq_some_iff] at hname
  obtain ⟨after, rfl⟩ := hname
  have hindex := h.inferredIndex_cons
  refine ⟨before.length, hindex, ?_⟩
  rw [inferredIndex] at hindex
  rw [effectivePhaseSequence, hindex, Option.map_some, Option.some_or, Option.map_some]
  have hlength := congrArg List.length h.order
  rw [List.length_append] at hlength
  have hcount : PHASE_ORDER.length = 41 := rfl
  have hlt : before.length < UInt32.size := by
    rw [UInt32.size]
    omega
  rw [UInt32.toNat_ofNat_of_lt' hlt]

/-- With all phases passed and none to be skipped, all are done. -/
theorem Frontier.allPhasesDone (h : Frontier cp before [])
    (hskip : ∀ name, cp.isInSkipMap name = false) : cp.AllPhasesDone := by
  intro name p hp
  have hmem := h.known name (by rw [hp]; rfl)
  rw [h.order, List.append_nil] at hmem
  rcases h.passed name hmem with hcompleted | hskipped | ⟨-, hmap⟩
  · exact .inl ((hasStatus_iff hp).mp hcompleted)
  · exact .inr ((hasStatus_iff hp).mp hskipped)
  · rw [hskip name] at hmap
    cases hmap

theorem Frontier.allDone_iff (h : Frontier cp before rest)
    (hskip : ∀ name, cp.isInSkipMap name = false) :
    cp.inferPhasePosition = .allDone ↔ cp.AllPhasesDone := by
  rw [inferPhasePosition_eq_allDone_iff]
  constructor
  · rintro ⟨-, hcomplete⟩
    cases rest with
    | cons name after =>
      rw [h.isComplete_eq_false] at hcomplete
      cases hcomplete
    | nil => exact h.allPhasesDone hskip
  · intro hall
    exact ⟨h.phases_ne, isComplete_of_finished h.phases_ne (.inr (.inr hall))⟩

theorem isInSkipMap_of_empty (h : cp.skipMap = none ∨ cp.skipMap = some ∅) (name : String) :
    cp.isInSkipMap name = false := by
  rw [isInSkipMap]
  rcases h with h | h
  · rw [h]
  · rw [h]
    rfl

/-- A checkpoint that `gw` creates is one to start from. -/
theorem fresh_createFresh (id planFile configDir now : String) (skipMap : Option (Dict String)) :
    Fresh { createFresh id planFile configDir now with skipMap } where
  pending name hmem := by
    refine ⟨.pending, ?_, rfl⟩
    exact (Dict.lookup_ofList_const ..).trans (if_pos hmem)
  known name hsome := by
    have hlookup : (createFresh id planFile configDir now).phases.lookup name =
      if name ∈ PHASE_ORDER then some .pending else none := Dict.lookup_ofList_const ..
    dsimp only at hsome
    rw [hlookup] at hsome
    split at hsome
    · next hmem => exact hmem
    · cases hsome
  completedAt := rfl

/-- Of an arc that takes its phases one by one the inferred phase goes forward only,
`effective_phase_sequence` is its index, and where nothing is to be skipped the position is
`AllDone` exactly at the end, with a phase inferred everywhere before. -/
theorem inferred_progress (hfresh : cp₀.Fresh) (hreach : Relation.ReflTransGen Advances cp₀ cp) :
    (∀ cp' i j, Relation.ReflTransGen Advances cp cp' → cp.inferredIndex = some i →
      cp'.inferredIndex = some j → i ≤ j) ∧
    (∀ name, cp.inferredPhaseName = some name →
      ∃ i, cp.inferredIndex = some i ∧ cp.effectivePhaseSequence.map (·.toNat) = some i) ∧
    (cp₀.skipMap = none ∨ cp₀.skipMap = some ∅ →
      (cp.inferPhasePosition = .allDone ↔ cp.AllPhasesDone) ∧
      (¬ cp.AllPhasesDone → cp.inferredPhaseName.isSome)) := by
  obtain ⟨_, _, hstart⟩ := hfresh.exists_frontier
  obtain ⟨moved, rest, hfrontier⟩ := hstart.run hreach
  refine ⟨fun cp' i j hrun hi hj => hfrontier.index_le hrun hi hj,
    fun name hname => hfrontier.effectivePhaseSequence_eq hname, ?_⟩
  intro hempty
  rw [← skipMap_run hreach] at hempty
  have hskip := isInSkipMap_of_empty hempty
  refine ⟨hfrontier.allDone_iff hskip, ?_⟩
  intro hopen
  cases rest with
  | cons name after =>
    rw [hfrontier.inferredPhaseName_cons]
    rfl
  | nil => exact absurd (hfrontier.allPhasesDone hskip) hopen

/-- A new arc whose first phase has been started. -/
def forgeStarted : Checkpoint :=
  let cp := createFresh "arc-1" "plan.md" ".claude" "2026-03-20T00:00:00Z"
  { cp with phases := cp.phases.insert "forge" { status := "in_progress" } }

theorem forgeStarted_progress :
    (∀ name, forgeStarted.inferredPhaseName = some name →
      ∃ i, forgeStarted.inferredIndex = some i ∧
        forgeStarted.effectivePhaseSequence.map (·.toNat) = some i) ∧
    (forgeStarted.inferPhasePosition = .allDone ↔ forgeStarted.AllPhasesDone) := by
  have hfresh := fresh_createFresh "arc-1" "plan.md" ".claude" "2026-03-20T00:00:00Z" none
  have hstep : Advances (createFresh "arc-1" "plan.md" ".claude" "2026-03-20T00:00:00Z")
      forgeStarted := {
    moved := by
      refine ⟨"forge", .pending, { status := "in_progress" }, by decide, ?_,
        Finmap.lookup_insert _, .start, fun other hne => Finmap.lookup_insert_of_ne _ hne⟩
      exact (Dict.lookup_ofList_const ..).trans (if_pos (by decide))
    skipMap := rfl
    completedAt := rfl }
  obtain ⟨-, hsequence, hdone⟩ := inferred_progress hfresh (.single hstep)
  exact ⟨hsequence, (hdone (.inl rfl)).1⟩

end GreaterWill.Checkpoint
