import GreaterWill.Daemon.Ops

/-!
# Admission to the queue

`enqueue_run_without_snapshot` refuses a run when the queues are full, and when an active run of its
repo has its plan. Plans are compared by the files they resolve to and, where these differ, by their
file names: two plans of the same name in one repo count as one.
-/

namespace GreaterWill

/-- Two plan references name the same file under a repository, or files of the same name. -/
def SamePlan (host : Host) (repoDir : PathBuf) (a b : String) : Prop :=
  PathBuf.components (normPlan host repoDir a) = PathBuf.components (normPlan host repoDir b) ∨
    ∃ name, PathBuf.fileName (normPlan host repoDir a) = some name ∧
      PathBuf.fileName (normPlan host repoDir b) = some name

theorem plansMatch_iff {host : Host} {repoDir : PathBuf} {a b : String} :
    plansMatch host a b repoDir = true ↔ SamePlan host repoDir a b := by
  rw [plansMatch, Bool.or_eq_true, Bool.and_eq_true, PathBuf.eqPath, beq_iff_eq, beq_iff_eq,
    Option.isSome_iff_exists]
  refine or_congr_right ?_
  constructor
  · rintro ⟨heq, name, hname⟩
    exact ⟨name, hname, heq ▸ hname⟩
  · rintro ⟨name, ha, hb⟩
    exact ⟨ha.trans hb.symm, name, ha⟩

namespace RunRegistry

section
variable (host : Host) (r : RunRegistry) (p : PendingRun)

/-- The run of an entry is active in the repo of `p` and has its plan. -/
structure Twin (e : RunEntry) : Prop where
  active : e.status.isTerminal = false
  repo : repoHash host e.repoDir = repoHash host p.repoDir
  plan : SamePlan host p.repoDir e.planPath p.planPath

def HasTwin : Prop := ∃ id e, r.get id = some e ∧ Twin host p e

def Refuses : Prop := ∃ e, r.enqueueRunWithoutSnapshot host p = .error e

/-- The registry after `enqueue_run_without_snapshot`. -/
def afterEnqueue : RunRegistry :=
  match r.enqueueRunWithoutSnapshot host p with
  | .ok (_, _, r') => r'
  | .error _ => r

/-- What an accepted run changes: it has an entry and is the last of its repo's queue. -/
structure Accepted (position : Nat) (entry : RunEntry) (r' : RunRegistry) : Prop where
  after : r.afterEnqueue host p = r'
  position_eq : position = (r'.queue (repoHash host p.repoDir)).length
  entry_eq : entry = .enqueued p
  get : ∀ id, r'.get id = if id = p.runId then some (.enqueued p) else r.get id
  entries : r.get p.runId = none → r'.runs.entries.length = r.runs.entries.length + 1
  queue : ∀ hash, r'.queue hash =
    if hash = repoHash host p.repoDir then r.queue hash ++ [p] else r.queue hash
  pending : r'.pendingEntries.Perm (p :: r.pendingEntries)
  order : r'.repoInsertionOrder =
    if repoHash host p.repoDir ∈ r.repoInsertionOrder then r.repoInsertionOrder
    else r.repoInsertionOrder ++ [repoHash host p.repoDir]
  locks : r'.repoLocks = r.repoLocks
  failures : r'.consecutiveFailures = r.consecutiveFailures

structure Admission : Prop where
  refused_iff : r.Refuses host p ↔ MAX_QUEUE_SIZE ≤ r.pendingEntries.length ∨ r.HasTwin host p
  refused : r.Refuses host p → r.afterEnqueue host p = r
  accepted : ∀ position entry r',
    r.enqueueRunWithoutSnapshot host p = .ok (position, entry, r') →
    r.Accepted host p position entry r'
  /-- A run of another plan is refused only for what was there before, or for want of room. -/
  other : ∀ q, ¬ r.Refuses host p → r.get p.runId = none →
    ¬ (repoHash host p.repoDir = repoHash host q.repoDir ∧
      SamePlan host q.repoDir p.planPath q.planPath) →
    ((r.afterEnqueue host p).Refuses host q ↔
      MAX_QUEUE_SIZE ≤ r.pendingEntries.length + 1 ∨ r.HasTwin host q)

end

variable {host : Host} {r : RunRegistry} {p q : PendingRun} {e : RunEntry}

theorem findDuplicate_eq_none : r.findDuplicate host p = none ↔ ¬ r.HasTwin host p := by
  rw [findDuplicate, List.find?_eq_none]
  constructor
  · rintro hnone ⟨id, e, he, hactive, hrepo, hplan⟩
    refine hnone e (List.mem_map.mpr ⟨⟨id, e⟩, AList.mem_entries_iff.mpr he, rfl⟩) ?_
    simp [hactive, hrepo, plansMatch_iff.mpr hplan]
  · intro hnot e he htest
    obtain ⟨⟨id, e'⟩, hmem, rfl⟩ := List.mem_map.mp he
    rw [Bool.and_eq_true, Bool.and_eq_true, Bool.not_eq_true', beq_iff_eq, plansMatch_iff] at htest
    exact hnot ⟨id, e', AList.mem_entries_iff.mp hmem, htest.1.1, htest.1.2, htest.2⟩

theorem refuses_iff :
    r.Refuses host p ↔ MAX_QUEUE_SIZE ≤ r.pendingEntries.length ∨ r.HasTwin host p := by
  rw [Refuses, ← totalPendingCount_eq]
  simp only [enqueueRunWithoutSnapshot]
  by_cases hfull : r.totalPendingCount ≥ MAX_QUEUE_SIZE
  · rw [if_pos hfull]
    exact iff_of_true ⟨_, rfl⟩ (.inl hfull)
  · rw [if_neg hfull, or_iff_right hfull]
    cases hdup : r.findDuplicate host p with
    | some e =>
      have htwin : r.HasTwin host p := by
        by_contra hnot
        rw [findDuplicate_eq_none.mpr hnot] at hdup
        cases hdup
      exact iff_of_true ⟨_, rfl⟩ htwin
    | none =>
      refine iff_of_false ?_ (findDuplicate_eq_none.mp hdup)
      rintro ⟨e, he⟩
      cases he

theorem enqueueRun_of_not_refuses (h : ¬ r.Refuses host p) :
    r.enqueueRunWithoutSnapshot host p =
      .ok ((r.queue (repoHash host p.repoDir)).length + 1, .enqueued p, r.pushed host p) := by
  rcases enqueueRun_cases host r p with hrefused | ⟨-, -, heq⟩
  · exact absurd hrefused h
  · exact heq

theorem afterEnqueue_of_not_refuses (h : ¬ r.Refuses host p) :
    r.afterEnqueue host p = r.pushed host p := by
  rw [afterEnqueue, enqueueRun_of_not_refuses h]

theorem afterEnqueue_of_refuses (h : r.Refuses host p) : r.afterEnqueue host p = r := by
  obtain ⟨e, he⟩ := h
  rw [afterEnqueue, he]

/-- A queued run is the twin of a run of the same repo and plan. -/
theorem twin_enqueued : Twin host q (.enqueued p) ↔
    repoHash host p.repoDir = repoHash host q.repoDir ∧
      SamePlan host q.repoDir p.planPath q.planPath :=
  ⟨fun h => ⟨h.repo, h.plan⟩, fun h => ⟨rfl, h.1, h.2⟩⟩

theorem hasTwin_pushed (hfresh : r.get p.runId = none) : (r.pushed host p).HasTwin host q ↔
    Twin host q (.enqueued p) ∨ r.HasTwin host q := by
  constructor
  · rintro ⟨id, e, he, htwin⟩
    rw [get_pushed] at he
    split at he
    · cases he
      exact .inl htwin
    · exact .inr ⟨id, e, he, htwin⟩
  · rintro (htwin | ⟨id, e, he, htwin⟩)
    · exact ⟨p.runId, _, by rw [get_pushed, if_pos rfl], htwin⟩
    · have hne : id ≠ p.runId := by
        rintro rfl
        rw [hfresh] at he
        cases he
      exact ⟨id, e, by rw [get_pushed, if_neg hne, he], htwin⟩

theorem length_entries_pushed (hfresh : r.get p.runId = none) :
    (r.pushed host p).runs.entries.length = r.runs.entries.length + 1 := by
  have hkey : p.runId ∉ r.runs := AList.lookup_eq_none.mp hfresh
  change (r.runs.insert p.runId _).entries.length = _
  rw [AList.entries_insert_of_notMem hkey, List.length_cons]

theorem accepted_pushed (h : ¬ r.Refuses host p) :
    r.Accepted host p ((r.queue (repoHash host p.repoDir)).length + 1) (.enqueued p)
      (r.pushed host p) where
  after := afterEnqueue_of_not_refuses h
  position_eq := by rw [queue_pushed, if_pos rfl, List.length_append, List.length_singleton]
  entry_eq := rfl
  get _ := get_pushed
  entries := length_entries_pushed
  queue _ := queue_pushed
  pending := pendingEntries_pushed
  order := rfl
  locks := rfl
  failures := rfl

/-- A run is admitted unless the queues are full or an active run has its plan. -/
theorem admission (host : Host) (r : RunRegistry) (p : PendingRun) : r.Admission host p where
  refused_iff := refuses_iff
  refused := afterEnqueue_of_refuses
  accepted position entry r' hok := by
    have hnot : ¬ r.Refuses host p := by
      rintro ⟨e, he⟩
      rw [he] at hok
      cases hok
    rw [enqueueRun_of_not_refuses hnot] at hok
    cases hok
    exact accepted_pushed hnot
  other q hnot hfresh hother := by
    rw [afterEnqueue_of_not_refuses hnot, refuses_iff, pendingEntries_pushed.length_eq,
      List.length_cons, hasTwin_pushed hfresh, twin_enqueued, or_iff_right hother]

/-- Two plans of one repo that have the same name cannot both be queued. -/
theorem same_name_refused :
    ¬ ∀ (host : Host) (r : RunRegistry) (p q : PendingRun),
      repoHash host p.repoDir = repoHash host q.repoDir →
      normPlan host p.repoDir p.planPath ≠ normPlan host q.repoDir q.planPath →
      r.pendingEntries.length + 1 < MAX_QUEUE_SIZE → r.runs.entries = [] →
      ¬ r.Refuses host p ∧ ¬ (r.afterEnqueue host p).Refuses host q := by
  intro hclaim
  obtain ⟨hp, hq⟩ := hclaim .plain .new (.plain "a" "a/x.md" "/repo") (.plain "b" "b/x.md" "/repo")
    rfl (by decide) (by decide) rfl
  refine hq (refuses_iff.mpr (.inr ?_))
  rw [afterEnqueue_of_not_refuses hp]
  exact ⟨"a", _, rfl, rfl, rfl, .inr ⟨"x.md", by decide, by decide⟩⟩

end RunRegistry
end GreaterWill
