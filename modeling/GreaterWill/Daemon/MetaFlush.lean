import GreaterWill.Daemon.RegistrySpec
import GreaterWill.Lib.Run

/-!
# Writing `meta.json`

The entry of a run is changed under the registry mutex and the changed copy is written after the
mutex is released, by `flush_status` or `write_meta_staged`, which are both `write_meta`. The writes
of several copies of one run can be under way at once, and they share the tmp file `meta.json.tmp`.
`metaStep` takes one step of this: a change to the entry, the tmp write of a copy, or its rename.
-/

namespace GreaterWill

/-- What the write of a copy does next. -/
inductive MetaPc where
  | writeTmp
  | rename
  | done
  deriving DecidableEq

/-- A copy of the entry that was handed out for writing. -/
structure MetaWrite where
  entry : RunEntry
  pc : MetaPc
  deriving DecidableEq

/-- The registry, the two files of one run, and the copies of its entry, oldest first. -/
structure MetaState where
  registry : RunRegistry
  tmp : Option RunEntry
  metaJson : Option RunEntry
  writes : List MetaWrite

inductive MetaAction where
  /-- `stage_status_locked`. -/
  | stage (status : RunStatus) (phase error : Option String) (now : DateTime)
  /-- A write through `get_mut`, which hands out no copy. -/
  | modify (p : RunEntry.Patch)
  | writeTmp (i : Nat)
  | rename (i : Nat)

namespace MetaState

/-- The entry `e` was just inserted and its first copy was handed out. -/
def start (r : RunRegistry) (e : RunEntry) (metaJson : Option RunEntry) : MetaState where
  registry := r
  tmp := none
  metaJson := metaJson
  writes := [⟨e, .writeTmp⟩]

/-- `meta.json` has the copy with the greatest epoch. -/
def NewestOnDisk (st : MetaState) : Prop :=
  ∃ w ∈ st.writes, (∀ w' ∈ st.writes, w'.entry.writeEpoch ≤ w.entry.writeEpoch) ∧
    st.metaJson = some w.entry

instance (st : MetaState) : Decidable st.NewestOnDisk := inferInstanceAs (Decidable (∃ _ ∈ _, _))

end MetaState

def metaStep (host : Host) (runId : String) (st : MetaState) : MetaAction → Option MetaState
  | .stage status phase error now =>
    match st.registry.stageStatusLocked host runId status phase error now with
    | .ok (staged, r) =>
      some { st with registry := r, writes := st.writes ++ [⟨staged.entry, .writeTmp⟩] }
    | .error _ => none
  | .modify p => some { st with registry := st.registry.modify runId p }
  | .writeTmp i =>
    match st.writes[i]? with
    | some ⟨e, .writeTmp⟩ =>
      some { st with tmp := some e, writes := st.writes.set i ⟨e, .rename⟩ }
    | _ => none
  | .rename i =>
    match st.writes[i]? with
    | some ⟨e, .rename⟩ =>
      -- the rename fails when another write has renamed the shared tmp file away
      some { st with
        tmp := none
        metaJson := st.tmp.or st.metaJson
        writes := st.writes.set i ⟨e, .done⟩ }
    | _ => none

/-! ## Schedules -/

def MetaAction.tmpIndex : MetaAction → Option Nat
  | .writeTmp i => some i
  | _ => none

def MetaAction.isStage : MetaAction → Bool
  | .stage .. => true
  | _ => false

/-- The copy whose tmp write is the last of the schedule. -/
def lastTmpWrite (acts : List MetaAction) : Option Nat := (acts.filterMap (·.tmpIndex)).getLast?

/-- The copy that is staged last. The copy handed out at the start is copy 0. -/
def lastStaged (acts : List MetaAction) : Nat := acts.countP (·.isStage)

section
variable {acts : List MetaAction} {status : RunStatus} {phase error : Option String}
  {now : DateTime} {p : RunEntry.Patch} {i : Nat}

@[simp] theorem lastTmpWrite_stage :
    lastTmpWrite (acts ++ [.stage status phase error now]) = lastTmpWrite acts := by
  simp [lastTmpWrite, MetaAction.tmpIndex]

@[simp] theorem lastTmpWrite_modify : lastTmpWrite (acts ++ [.modify p]) = lastTmpWrite acts := by
  simp [lastTmpWrite, MetaAction.tmpIndex]

@[simp] theorem lastTmpWrite_writeTmp : lastTmpWrite (acts ++ [.writeTmp i]) = some i := by
  simp [lastTmpWrite, MetaAction.tmpIndex]

@[simp] theorem lastTmpWrite_rename : lastTmpWrite (acts ++ [.rename i]) = lastTmpWrite acts := by
  simp [lastTmpWrite, MetaAction.tmpIndex]

@[simp] theorem lastStaged_stage :
    lastStaged (acts ++ [.stage status phase error now]) = lastStaged acts + 1 := by
  simp [lastStaged, MetaAction.isStage]

@[simp] theorem lastStaged_modify : lastStaged (acts ++ [.modify p]) = lastStaged acts := by
  simp [lastStaged, MetaAction.isStage]

@[simp] theorem lastStaged_writeTmp : lastStaged (acts ++ [.writeTmp i]) = lastStaged acts := by
  simp [lastStaged, MetaAction.isStage]

@[simp] theorem lastStaged_rename : lastStaged (acts ++ [.rename i]) = lastStaged acts := by
  simp [lastStaged, MetaAction.isStage]

end

/-! ## The invariant -/

/-- What holds after a schedule whose last tmp write is of the copy `last` and whose last staged
copy is `newest`, when the first copy had epoch `base`. -/
structure MetaInv (runId : String) (base : Nat) (last : Option Nat) (newest : Nat)
    (st : MetaState) : Prop where
  length_eq : st.writes.length = newest + 1
  epoch_eq : ∀ i w, st.writes[i]? = some w → w.entry.writeEpoch = base + i
  mem_eq : ∃ e w, st.registry.get runId = some e ∧ st.writes[newest]? = some w ∧
    w.entry.writeEpoch = e.writeEpoch ∧ w.entry.status = e.status
  unwritten : last = none → ∀ w ∈ st.writes, w.pc = .writeTmp
  written : ∀ j, last = some j → ∃ w, st.writes[j]? = some w ∧
    ((st.tmp = some w.entry ∧ w.pc = .rename) ∨
      (st.tmp = none ∧ st.metaJson = some w.entry ∧ w.pc ≠ .writeTmp))

namespace MetaInv

variable {host : Host} {runId : String} {base : Nat} {last : Option Nat} {newest : Nat}
  {st st' : MetaState}

theorem start {r : RunRegistry} {e : RunEntry} {m : Option RunEntry} (h : r.get runId = some e) :
    MetaInv runId e.writeEpoch none 0 (.start r e m) where
  length_eq := rfl
  epoch_eq i w hw := by
    obtain ⟨rfl, rfl⟩ : i = 0 ∧ w = ⟨e, .writeTmp⟩ := by
      cases i with
      | zero => exact ⟨rfl, by simpa [MetaState.start, eq_comm] using hw⟩
      | succ i => simp [MetaState.start] at hw
    rfl
  mem_eq := ⟨e, ⟨e, .writeTmp⟩, h, rfl, rfl, rfl⟩
  unwritten _ w hw := by
    rw [MetaState.start, List.mem_singleton] at hw
    rw [hw]
  written j hj := by cases hj

theorem stage {status : RunStatus} {phase error : Option String} {now : DateTime}
    (H : MetaInv runId base last newest st)
    (h : metaStep host runId st (.stage status phase error now) = some st') :
    MetaInv runId base last (newest + 1) st' := by
  simp only [metaStep] at h
  split at h <;> try contradiction
  rename_i staged r hstage
  cases h
  obtain ⟨entry, hget, -, rfl, rfl⟩ := RunRegistry.stageStatusLocked_eq_ok.mp hstage
  obtain ⟨e, w, hmem, hw, hepoch, -⟩ := H.mem_eq
  obtain rfl : e = entry := Option.some_injective _ (hmem.symm.trans hget)
  have hbase := H.epoch_eq _ w hw
  have hold {j : Nat} {w : MetaWrite} (hj : st.writes[j]? = some w) (v : MetaWrite) :
      (st.writes ++ [v])[j]? = some w := by
    rw [List.getElem?_append_left (List.getElem?_eq_some_iff.mp hj).1, hj]
  have hnew (v : MetaWrite) : (st.writes ++ [v])[newest + 1]? = some v := by
    rw [← H.length_eq, List.getElem?_concat_length]
  refine ⟨by simp [H.length_eq], fun i v hv => ?_, ?_, fun hlast v hv => ?_, fun j hj => ?_⟩
  · rcases Nat.lt_or_ge i st.writes.length with hi | hi
    · rw [List.getElem?_append_left hi] at hv
      exact H.epoch_eq i v hv
    · have hi' : i = newest + 1 := by
        have := (List.getElem?_eq_some_iff.mp hv).1
        have := H.length_eq
        simp at *
        omega
      rw [hi', hnew] at hv
      cases hv
      simp only [RunEntry.stage_writeEpoch]
      omega
  · refine ⟨_, _, ?_, hnew _, ?_, rfl⟩
    · rw [RunRegistry.get_staged, if_pos rfl]
    · rfl
  · rcases List.mem_append.mp hv with hv | hv
    · exact H.unwritten hlast v hv
    · rw [List.mem_singleton.mp hv]
  · obtain ⟨v, hv, hfiles⟩ := H.written j hj
    exact ⟨v, hold hv _, hfiles⟩

theorem modify {p : RunEntry.Patch} (H : MetaInv runId base last newest st)
    (h : metaStep host runId st (.modify p) = some st') : MetaInv runId base last newest st' := by
  cases h
  obtain ⟨e, w, hmem, hw, hepoch, hstatus⟩ := H.mem_eq
  refine ⟨H.length_eq, H.epoch_eq, ⟨e.patch p, w, ?_, hw, hepoch, hstatus⟩, H.unwritten, H.written⟩
  rw [RunRegistry.get_modify, if_pos rfl, hmem, Option.map_some]

/-- A step of the write `i` changes only its program counter and the files. -/
theorem of_set {i : Nat} {e : RunEntry} {pc pc' : MetaPc} {tmp metaJson : Option RunEntry}
    {last' : Option Nat} (H : MetaInv runId base last newest st)
    (hi : st.writes[i]? = some ⟨e, pc⟩) (hlast : last' ≠ none)
    (hfiles : ∀ j, last' = some j → ∃ w, (st.writes.set i ⟨e, pc'⟩)[j]? = some w ∧
      ((tmp = some w.entry ∧ w.pc = .rename) ∨
        (tmp = none ∧ metaJson = some w.entry ∧ w.pc ≠ .writeTmp))) :
    MetaInv runId base last' newest
      { st with tmp := tmp, metaJson := metaJson, writes := st.writes.set i ⟨e, pc'⟩ } := by
  have hlt : i < st.writes.length := (List.getElem?_eq_some_iff.mp hi).1
  obtain ⟨m, w, hmem, hw, hepoch, hstatus⟩ := H.mem_eq
  refine ⟨by simp [H.length_eq], fun j v hv => ?_, ?_, fun h => absurd h hlast, hfiles⟩
  · by_cases hij : i = j
    · subst hij
      rw [List.getElem?_set_self hlt] at hv
      cases hv
      exact H.epoch_eq i ⟨e, pc⟩ hi
    · rw [List.getElem?_set_ne hij] at hv
      exact H.epoch_eq j v hv
  · by_cases hin : i = newest
    · subst hin
      rw [hi] at hw
      cases hw
      exact ⟨m, _, hmem, List.getElem?_set_self hlt, hepoch, hstatus⟩
    · refine ⟨m, w, hmem, ?_, hepoch, hstatus⟩
      rw [List.getElem?_set_ne hin, hw]

theorem writeTmp {i : Nat} (H : MetaInv runId base last newest st)
    (h : metaStep host runId st (.writeTmp i) = some st') :
    MetaInv runId base (some i) newest st' := by
  simp only [metaStep] at h
  split at h
  next e hi =>
    cases h
    refine H.of_set hi (by simp) fun j hj => ?_
    cases hj
    have hlt : i < st.writes.length := (List.getElem?_eq_some_iff.mp hi).1
    exact ⟨_, List.getElem?_set_self hlt, .inl ⟨rfl, rfl⟩⟩
  next => cases h

theorem rename {i : Nat} (H : MetaInv runId base last newest st)
    (h : metaStep host runId st (.rename i) = some st') : MetaInv runId base last newest st' := by
  simp only [metaStep] at h
  split at h
  next e hi =>
    cases h
    have hlt : i < st.writes.length := (List.getElem?_eq_some_iff.mp hi).1
    have hlast : last ≠ none := fun hnone => by
      simpa using H.unwritten hnone _ (List.mem_of_getElem? hi)
    refine H.of_set hi hlast fun j hj => ?_
    obtain ⟨w, hw, hfiles⟩ := H.written j hj
    -- whichever write renames, the tmp file holds the copy `j` if it exists
    have hdisk : st.tmp.or st.metaJson = some w.entry := by
      rcases hfiles with ⟨htmp, -⟩ | ⟨htmp, hmeta, -⟩
      · rw [htmp, Option.some_or]
      · rw [htmp, Option.none_or, hmeta]
    by_cases hij : i = j
    · subst hij
      rw [hi] at hw
      cases hw
      exact ⟨_, List.getElem?_set_self hlt, .inr ⟨rfl, hdisk, by simp⟩⟩
    · refine ⟨w, ?_, .inr ⟨rfl, hdisk, ?_⟩⟩
      · rw [List.getElem?_set_ne hij, hw]
      · rcases hfiles with ⟨-, hpc⟩ | ⟨-, -, hpc⟩
        · simp [hpc]
        · exact hpc
  next => cases h

theorem run {r : RunRegistry} {e : RunEntry} {m : Option RunEntry} {acts : List MetaAction}
    (hget : r.get runId = some e)
    (hrun : exec (metaStep host runId) (.start r e m) acts = some st) :
    MetaInv runId e.writeEpoch (lastTmpWrite acts) (lastStaged acts) st := by
  induction acts using List.reverseRecOn generalizing st with
  | nil =>
    cases hrun
    exact start hget
  | append_singleton acts a ih =>
    obtain ⟨t, hrun', hstep⟩ := exec_append.mp hrun
    rw [exec_singleton] at hstep
    have H := ih hrun'
    cases a with
    | stage status phase error now => simpa using H.stage hstep
    | modify p => simpa using H.modify hstep
    | writeTmp i => simpa using H.writeTmp hstep
    | rename i => simpa using H.rename hstep

/-- When every write has finished, `meta.json` has the copy whose tmp write came last. -/
theorem metaJson_eq (H : MetaInv runId base last newest st) (hdone : ∀ w ∈ st.writes, w.pc = .done) :
    ∃ j w, last = some j ∧ st.writes[j]? = some w ∧ st.metaJson = some w.entry := by
  cases last with
  | none =>
    obtain ⟨-, w, -, hw, -⟩ := H.mem_eq
    have hmem := List.mem_of_getElem? hw
    have := H.unwritten rfl w hmem
    rw [hdone w hmem] at this
    cases this
  | some j =>
    obtain ⟨w, hw, hfiles⟩ := H.written j rfl
    refine ⟨j, w, rfl, hw, ?_⟩
    rcases hfiles with ⟨-, hpc⟩ | ⟨-, hmeta, -⟩
    · rw [hdone w (List.mem_of_getElem? hw)] at hpc
      cases hpc
    · exact hmeta

end MetaInv

/-- When every write of a copy has finished, `meta.json` has the newest copy exactly when the last
tmp write was of the copy staged last, and then it has the status of the entry in memory. -/
theorem metaJson_newest_iff {host : Host} {runId : String} {r : RunRegistry} {e : RunEntry}
    {m : Option RunEntry} {acts : List MetaAction} {st : MetaState}
    (hget : r.get runId = some e)
    (hrun : exec (metaStep host runId) (.start r e m) acts = some st)
    (hdone : ∀ w ∈ st.writes, w.pc = .done) :
    (st.NewestOnDisk ↔ lastTmpWrite acts = some (lastStaged acts)) ∧
      (lastTmpWrite acts = some (lastStaged acts) →
        st.metaJson.map (·.status) = (st.registry.get runId).map (·.status)) := by
  have H := MetaInv.run hget hrun
  obtain ⟨j, w, hlast, hw, hmeta⟩ := H.metaJson_eq hdone
  obtain ⟨mem, v, hmem, hv, -, hstatus⟩ := H.mem_eq
  rw [hlast, Option.some.injEq]
  refine ⟨⟨?_, ?_⟩, ?_⟩
  · rintro ⟨u, hu, hmax, hmeta'⟩
    rw [hmeta, Option.some.injEq] at hmeta'
    have hle := hmax v (List.mem_of_getElem? hv)
    rw [← hmeta', H.epoch_eq _ v hv, H.epoch_eq j w hw] at hle
    have hlt := (List.getElem?_eq_some_iff.mp hw).1
    rw [H.length_eq] at hlt
    omega
  · rintro rfl
    refine ⟨w, List.mem_of_getElem? hw, fun u hu => ?_, hmeta⟩
    obtain ⟨i, hi⟩ := List.mem_iff_getElem?.mp hu
    have hlt := (List.getElem?_eq_some_iff.mp hi).1
    rw [H.length_eq] at hlt
    rw [H.epoch_eq i u hi, H.epoch_eq _ w hw]
    omega
  · rintro rfl
    rw [hw, Option.some.injEq] at hv
    rw [hmeta, hmem, Option.map_some, Option.map_some, hv, hstatus]

/-- The registry and the entry after a first run was queued. -/
def afterEnqueue : RunRegistry × RunEntry :=
  let pending := PendingRun.plain "run" "plan.md" "/repo"
  let r := RunRegistry.new
  match r.enqueueRunWithoutSnapshot .plain pending with
  | .ok (_, entry, r') => (r', entry)
  | .error _ => (r, .enqueued pending)

/-- The run is stopped while it is queued, and both copies are written in the order of staging. -/
theorem metaJson_newest_iff_in_order :
    ∃ st, exec (metaStep .plain "run") (.start afterEnqueue.1 afterEnqueue.2 none)
        [.writeTmp 0, .rename 0, .stage .stopped none none 1, .writeTmp 1, .rename 1] = some st ∧
      (st.NewestOnDisk ↔ lastTmpWrite [.writeTmp 0, .rename 0, .stage .stopped none none 1,
        .writeTmp 1, .rename 1] = some (lastStaged [.writeTmp 0, .rename 0,
          .stage .stopped none none 1, .writeTmp 1, .rename 1])) := by
  obtain ⟨st, hrun, hdone⟩ :=
    exists_of_any (o := exec (metaStep .plain "run") (.start afterEnqueue.1 afterEnqueue.2 none)
        [.writeTmp 0, .rename 0, .stage .stopped none none 1, .writeTmp 1, .rename 1])
      (P := fun st => ∀ w ∈ st.writes, w.pc = .done) (by decide)
  exact ⟨st, hrun, (metaJson_newest_iff (by decide) hrun hdone).1⟩

/-- The run is stopped before the submit handler has written the queued entry: the handler's write
comes last, and a restarted daemon reads the run as queued. -/
theorem metaJson_reverts :
    ∃ acts st, exec (metaStep .plain "run") (.start afterEnqueue.1 afterEnqueue.2 none) acts =
        some st ∧
      (∀ w ∈ st.writes, w.pc = .done) ∧ ¬ st.NewestOnDisk ∧
      (st.registry.get "run").map (·.status) = some .stopped ∧
      st.metaJson.map (·.status) = some .queued :=
  ⟨[.stage .stopped none none 1, .writeTmp 1, .rename 1, .writeTmp 0, .rename 0],
    exists_of_any (by decide)⟩

end GreaterWill
