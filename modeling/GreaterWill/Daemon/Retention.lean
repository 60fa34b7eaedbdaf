import GreaterWill.Daemon.Entry
import Mathlib.Data.List.Sort

/-!
# Cleaning up old runs

`cleanup_old_runs_in` of `daemon/state.rs`. The number of directories to remove is what exceeds the
retention limit; so many of the oldest ones are candidates, and the candidates that are active are
passed over. An active run among them is not made up for by a younger one.
-/

namespace GreaterWill

/-- An entry of the runs directory. -/
structure RunDirEntry where
  name : String
  isDir : Bool
  /-- `none` where the metadata cannot be read. -/
  modified : Option DateTime
  /-- The text of `meta.json`; `none` where it cannot be read. -/
  metaJson : Option String
  deriving DecidableEq, Repr

/-- The time by which the directories are sorted: `UNIX_EPOCH` where there is none. -/
def RunDirEntry.age (d : RunDirEntry) : DateTime := d.modified.getD 0

/-- What `read_dir` lists. -/
structure RunsListing where
  entries : List RunDirEntry
  nodup : (entries.map (·.name)).Nodup

section
variable (statusOnly : String → Option RunStatus)

/-- `is_run_active`. `statusOnly` is the status that `serde_json` finds in `meta.json`. -/
def isRunActive (d : RunDirEntry) : Bool :=
  match d.metaJson.bind statusOnly with
  | some .running | some .queued => true
  | _ => false

/-- One candidate, with whether `remove_dir_all` succeeds on it. -/
def removeCandidate (removes : RunDirEntry → Bool) (entries : List RunDirEntry) (d : RunDirEntry) :
    List RunDirEntry :=
  if isRunActive statusOnly d then entries
  else if removes d then entries.filter (·.name ≠ d.name)
  else entries

/-- The directories, the oldest first. -/
def sortedDirs (entries : List RunDirEntry) : List RunDirEntry :=
  (entries.filter (·.isDir)).insertionSort fun d d' => d.age ≤ d'.age

/-- The directories that the loop looks at. -/
def cleanupCandidates (entries : List RunDirEntry) (retention : Nat) : List RunDirEntry :=
  (sortedDirs entries).take ((sortedDirs entries).length - retention)

/-- The directories that it does not come to. -/
def youngestDirs (entries : List RunDirEntry) (retention : Nat) : List RunDirEntry :=
  (sortedDirs entries).drop ((sortedDirs entries).length - retention)

/-- What `cleanup_old_runs_in` leaves. -/
def cleanupOldRunsIn (removes : RunDirEntry → Bool) (entries : List RunDirEntry)
    (retention : Nat) : List RunDirEntry :=
  if (entries.filter (·.isDir)).length ≤ retention then entries
  else (cleanupCandidates entries retention).foldl (removeCandidate statusOnly removes) entries

/-- The active directories. -/
def activeDirs (entries : List RunDirEntry) : List RunDirEntry :=
  entries.filter fun d => d.isDir && isRunActive statusOnly d

/-- No active run is removed, and what is removed is not younger than what is kept. -/
structure OldestInactiveRemoved (before after : List RunDirEntry) : Prop where
  active : ∀ d ∈ before, d.isDir = true → isRunActive statusOnly d = true → d ∈ after
  removed : ∀ d ∈ before, d ∉ after → d.isDir = true ∧ isRunActive statusOnly d = false ∧
    ∀ d' ∈ after, d'.isDir = true → isRunActive statusOnly d' = false → d.age ≤ d'.age

/-- There are no more directories than the limit, or than there are active runs. -/
def WithinRetention (retention : Nat) (before after : List RunDirEntry) : Prop :=
  (after.filter (·.isDir)).length ≤ max retention (activeDirs statusOnly before).length

/-- Nothing is to be removed; or no active run is among the oldest directories, which are the
candidates; or the youngest ones, as many as the limit, are all active. -/
def ActiveRunsApart (entries : List RunDirEntry) (retention : Nat) : Prop :=
  (entries.filter (·.isDir)).length ≤ retention ∨
    (∀ d ∈ cleanupCandidates entries retention, isRunActive statusOnly d = false) ∨
    ∀ d ∈ youngestDirs entries retention, isRunActive statusOnly d = true

end

section
variable {statusOnly : String → Option RunStatus} {removes : RunDirEntry → Bool}
  {entries candidates : List RunDirEntry} {d : RunDirEntry} {retention : Nat}

/-! ## The candidates and the rest -/

theorem sortedDirs_perm : (sortedDirs entries).Perm (entries.filter (·.isDir)) :=
  List.perm_insertionSort _ _

theorem mem_sortedDirs : d ∈ sortedDirs entries ↔ d ∈ entries ∧ d.isDir = true :=
  sortedDirs_perm.mem_iff.trans List.mem_filter

theorem candidates_append_youngest (entries : List RunDirEntry) (retention : Nat) :
    cleanupCandidates entries retention ++ youngestDirs entries retention = sortedDirs entries :=
  List.take_append_drop _ _

theorem mem_of_mem_candidates (h : d ∈ cleanupCandidates entries retention) :
    d ∈ entries ∧ d.isDir = true :=
  mem_sortedDirs.mp (List.mem_of_mem_take h)

/-- A directory is a candidate or one of the youngest. -/
theorem mem_candidates_or (hmem : d ∈ entries) (hdir : d.isDir = true) :
    d ∈ cleanupCandidates entries retention ∨ d ∈ youngestDirs entries retention := by
  rw [← List.mem_append, candidates_append_youngest]
  exact mem_sortedDirs.mpr ⟨hmem, hdir⟩

theorem age_le_of_mem {d' : RunDirEntry} (h : d ∈ cleanupCandidates entries retention)
    (h' : d' ∈ youngestDirs entries retention) : d.age ≤ d'.age := by
  have hsorted : (sortedDirs entries).Pairwise fun d d' => d.age ≤ d'.age :=
    List.pairwise_insertionSort _ _
  rw [← candidates_append_youngest entries retention, List.pairwise_append] at hsorted
  exact hsorted.2.2 d h d' h'

theorem length_youngestDirs (h : ¬ (entries.filter (·.isDir)).length ≤ retention) :
    (youngestDirs entries retention).length = retention := by
  rw [← sortedDirs_perm.length_eq] at h
  rw [youngestDirs, List.length_drop]
  omega

/-! ## What the loop leaves -/

/-- The inactive candidates that can be removed are removed. -/
theorem foldl_removeCandidate :
    candidates.foldl (removeCandidate statusOnly removes) entries =
      entries.filter fun x => candidates.all fun d =>
        (isRunActive statusOnly d || !removes d) || decide (x.name ≠ d.name) := by
  induction candidates generalizing entries with
  | nil => exact (List.filter_true entries).symm
  | cons d candidates ih =>
    rw [List.foldl_cons, ih]
    unfold removeCandidate
    cases hactive : isRunActive statusOnly d with
    | true =>
      refine List.filter_congr fun x _ => ?_
      rw [List.all_cons, hactive]
      rfl
    | false =>
      rw [if_neg Bool.false_ne_true]
      cases hremoves : removes d with
      | true =>
        rw [if_pos rfl, List.filter_filter]
        refine List.filter_congr fun x _ => ?_
        rw [List.all_cons, hactive, hremoves, Bool.and_comm]
        rfl
      | false =>
        refine List.filter_congr fun x _ => ?_
        rw [List.all_cons, hactive, hremoves]
        rfl

/-- Entries of the same name are the same. -/
theorem RunsListing.eq_of_name (listing : RunsListing) {d d' : RunDirEntry}
    (h : d ∈ listing.entries) (h' : d' ∈ listing.entries) (hname : d.name = d'.name) : d = d' :=
  List.inj_on_of_nodup_map listing.nodup h h' hname

/-- An entry stays if it is no candidate, or active, or cannot be removed. -/
theorem cleanup_eq_filter {listing : RunsListing}
    (h : ¬ (listing.entries.filter (·.isDir)).length ≤ retention) :
    cleanupOldRunsIn statusOnly removes listing.entries retention =
      listing.entries.filter fun d => decide (d ∈ cleanupCandidates listing.entries retention →
        (isRunActive statusOnly d || !removes d) = true) := by
  unfold cleanupOldRunsIn
  rw [if_neg h, foldl_removeCandidate]
  refine List.filter_congr fun d hmem => ?_
  rw [Bool.eq_iff_iff, List.all_eq_true, decide_eq_true_iff]
  constructor
  · intro hall hcandidate
    have hself := hall d hcandidate
    rw [decide_eq_false (fun h => h rfl), Bool.or_false] at hself
    exact hself
  · intro hkept d' hcandidate
    by_cases hname : d.name = d'.name
    · obtain rfl := listing.eq_of_name hmem (mem_of_mem_candidates hcandidate).1 hname
      rw [hkept hcandidate, Bool.true_or]
    · rw [decide_eq_true hname, Bool.or_true]

theorem mem_cleanup {listing : RunsListing} :
    d ∈ cleanupOldRunsIn statusOnly removes listing.entries retention ↔
      d ∈ listing.entries ∧ ((listing.entries.filter (·.isDir)).length ≤ retention ∨
        (d ∈ cleanupCandidates listing.entries retention →
          (isRunActive statusOnly d || !removes d) = true)) := by
  by_cases hle : (listing.entries.filter (·.isDir)).length ≤ retention
  · rw [cleanupOldRunsIn, if_pos hle]
    exact ⟨fun h => ⟨h, .inl hle⟩, And.left⟩
  · rw [cleanup_eq_filter hle, List.mem_filter, decide_eq_true_iff, or_iff_right hle]

/-- No active run is removed, whatever can be removed. -/
theorem mem_cleanup_of_active {listing : RunsListing} (hmem : d ∈ listing.entries)
    (hactive : isRunActive statusOnly d = true) :
    d ∈ cleanupOldRunsIn statusOnly removes listing.entries retention := by
  refine mem_cleanup.mpr ⟨hmem, .inr fun _ => ?_⟩
  rw [hactive, Bool.true_or]

/-- An entry that is removed is an inactive candidate. -/
theorem candidate_of_removed {listing : RunsListing} (hmem : d ∈ listing.entries)
    (hremoved : d ∉ cleanupOldRunsIn statusOnly removes listing.entries retention) :
    d ∈ cleanupCandidates listing.entries retention ∧ isRunActive statusOnly d = false := by
  rw [mem_cleanup, not_and_or, not_or, Classical.not_imp, Bool.not_eq_true,
    Bool.or_eq_false_iff] at hremoved
  obtain hout | ⟨-, hcandidate, hactive, -⟩ := hremoved
  · exact absurd hmem hout
  · exact ⟨hcandidate, hactive⟩

theorem oldestInactiveRemoved {listing : RunsListing} :
    OldestInactiveRemoved statusOnly listing.entries
      (cleanupOldRunsIn statusOnly (fun _ => true) listing.entries retention) := by
  refine ⟨fun d hmem _ hactive => mem_cleanup_of_active hmem hactive, ?_⟩
  intro d hmem hremoved
  obtain ⟨hcandidate, hinactive⟩ := candidate_of_removed hmem hremoved
  refine ⟨(mem_of_mem_candidates hcandidate).2, hinactive, ?_⟩
  intro d' hkept hdir' hinactive'
  obtain ⟨hmem', hle | hactive'⟩ := mem_cleanup.mp hkept
  · exact absurd (mem_cleanup.mpr ⟨hmem, .inl hle⟩) hremoved
  · rcases mem_candidates_or hmem' hdir' with hcandidate' | hyoung
    · -- an inactive candidate is not kept
      have hkeeps := hactive' hcandidate'
      rw [hinactive'] at hkeeps
      cases hkeeps
    · exact age_le_of_mem hcandidate hyoung

/-! ## How many are left -/

theorem nodup_sortedDirs (listing : RunsListing) : (sortedDirs listing.entries).Nodup :=
  sortedDirs_perm.nodup_iff.mpr (listing.nodup.of_map.filter _)

/-- The active candidates and the youngest directories are left. -/
theorem length_dirs_cleanup {listing : RunsListing}
    (h : ¬ (listing.entries.filter (·.isDir)).length ≤ retention) :
    ((cleanupOldRunsIn statusOnly (fun _ => true) listing.entries retention).filter
        (·.isDir)).length =
      ((cleanupCandidates listing.entries retention).filter (isRunActive statusOnly)).length +
        retention := by
  have hnodup := nodup_sortedDirs listing
  rw [← candidates_append_youngest _ retention, List.nodup_append] at hnodup
  obtain ⟨-, -, hdisjoint⟩ := hnodup
  let kept (d : RunDirEntry) : Bool :=
    decide (d ∈ cleanupCandidates listing.entries retention →
      (isRunActive statusOnly d || !true) = true)
  have hcandidates : (cleanupCandidates listing.entries retention).filter kept =
      (cleanupCandidates listing.entries retention).filter (isRunActive statusOnly) := by
    refine List.filter_congr fun d hcandidate => ?_
    rw [Bool.eq_iff_iff, decide_eq_true_iff, Bool.not_true, Bool.or_false]
    exact ⟨fun h => h hcandidate, fun h _ => h⟩
  have hyoungest : (youngestDirs listing.entries retention).filter kept =
      youngestDirs listing.entries retention := by
    refine List.filter_eq_self.mpr fun d hyoung => decide_eq_true fun hcandidate => ?_
    exact absurd rfl (hdisjoint d hcandidate d hyoung)
  calc ((cleanupOldRunsIn statusOnly (fun _ => true) listing.entries retention).filter
          (·.isDir)).length
      = ((listing.entries.filter (·.isDir)).filter kept).length := by
        rw [cleanup_eq_filter h, List.filter_comm]
    _ = ((sortedDirs listing.entries).filter kept).length :=
        (sortedDirs_perm.filter kept).symm.length_eq
    _ = ((cleanupCandidates listing.entries retention).filter (isRunActive statusOnly)).length +
          retention := by
        rw [← candidates_append_youngest _ retention, List.filter_append,
          hcandidates, hyoungest, List.length_append, length_youngestDirs h]

/-- The active directories are among the candidates and among the youngest. -/
theorem length_activeDirs (retention : Nat) :
    (activeDirs statusOnly entries).length =
      ((cleanupCandidates entries retention).filter (isRunActive statusOnly)).length +
        ((youngestDirs entries retention).filter (isRunActive statusOnly)).length := by
  have hsplit : activeDirs statusOnly entries =
      (entries.filter (·.isDir)).filter (isRunActive statusOnly) := by
    rw [List.filter_filter]
    exact List.filter_congr fun d _ => Bool.and_comm _ _
  rw [hsplit, ← (sortedDirs_perm.filter _).length_eq, ← candidates_append_youngest _ retention,
    List.filter_append, List.length_append]

end

/-- After a cleanup whose removals succeed, no active run is gone, the oldest inactive ones are, and
the limit or the number of active runs is kept, exactly if active runs do not stand in the way. -/
theorem retention_iff_apart (statusOnly : String → Option RunStatus) (listing : RunsListing)
    (retention : Nat) :
    (OldestInactiveRemoved statusOnly listing.entries
        (cleanupOldRunsIn statusOnly (fun _ => true) listing.entries retention) ∧
      WithinRetention statusOnly retention listing.entries
        (cleanupOldRunsIn statusOnly (fun _ => true) listing.entries retention)) ↔
      ActiveRunsApart statusOnly listing.entries retention := by
  rw [and_iff_right oldestInactiveRemoved]
  unfold WithinRetention ActiveRunsApart
  by_cases hle : (listing.entries.filter (·.isDir)).length ≤ retention
  · refine iff_of_true ?_ (.inl hle)
    rw [cleanupOldRunsIn, if_pos hle]
    exact Nat.le_trans hle (Nat.le_max_left _ _)
  · rw [length_dirs_cleanup hle, length_activeDirs retention, or_iff_right hle]
    have hyoung := length_youngestDirs hle
    have hactive := List.length_filter_le (isRunActive statusOnly)
      (youngestDirs listing.entries retention)
    have hnone : (∀ d ∈ cleanupCandidates listing.entries retention,
        isRunActive statusOnly d = false) ↔
        ((cleanupCandidates listing.entries retention).filter (isRunActive statusOnly)).length =
          0 := by
      simp
    have hall : (∀ d ∈ youngestDirs listing.entries retention, isRunActive statusOnly d = true) ↔
        ((youngestDirs listing.entries retention).filter (isRunActive statusOnly)).length =
          (youngestDirs listing.entries retention).length :=
      List.length_filter_eq_length_iff.symm
    rw [hnone, hall]
    omega

private def oldActiveRun : RunsListing where
  entries := [⟨"a", true, some 1, some "\x7b\"status\":\"Running\"\x7d"⟩,
    ⟨"b", true, some 2, none⟩]
  nodup := by decide

/-- The oldest run is active and the younger one is kept as well. -/
theorem limit_exceeded_by_active_run :
    ¬ ∀ (statusOnly : String → Option RunStatus) (listing : RunsListing) (retention : Nat),
      OldestInactiveRemoved statusOnly listing.entries
          (cleanupOldRunsIn statusOnly (fun _ => true) listing.entries retention) ∧
        WithinRetention statusOnly retention listing.entries
          (cleanupOldRunsIn statusOnly (fun _ => true) listing.entries retention) := by
  intro hclaim
  let statusOnly (text : String) : Option RunStatus :=
    if text = "\x7b\"status\":\"Running\"\x7d" then some .running else none
  obtain ⟨-, hwithin⟩ := hclaim statusOnly oldActiveRun 1
  have hleft : (cleanupOldRunsIn statusOnly (fun _ => true) oldActiveRun.entries 1).filter
      (·.isDir) = oldActiveRun.entries := by decide
  have hactive : (activeDirs statusOnly oldActiveRun.entries).length = 1 := by decide
  rw [WithinRetention, hleft, hactive] at hwithin
  exact absurd hwithin (by decide)

end GreaterWill
