import GreaterWill.Daemon.Registry
import GreaterWill.Lib.Run

/-!
# Writing `queue.json`

`RunRegistry::flush_queue` runs after the registry mutex is released, so several flushes can be
under way at once. `flushStep` takes one step of one of them: the load of the tracker, the write of
the tmp file, the `fetch_max` of the tracker, the rename. `flushQueue` is a whole call with no other
flush under way; `flushQueue_steps` says that it is the four steps in a row.
-/

namespace GreaterWill

/-- The tracker of the flushed epochs, and the files of `~/.gw` a flush writes. -/
structure QueueDisk where
  /-- `queue_last_flushed_epoch`. -/
  tracker : Nat
  /-- The snapshot that `queue.json.tmp.<epoch>` was written from. -/
  tmp : Nat → Option QueueSnapshot
  /-- The snapshot that `queue.json` was written from; `none` until a flush has renamed. -/
  queueJson : Option QueueSnapshot

namespace QueueDisk

/-- The disk of a daemon that has just started. -/
def fresh : QueueDisk := ⟨0, fun _ => none, none⟩

variable (d : QueueDisk) (s : QueueSnapshot)

def Stale : Prop := s.epoch ≤ d.tracker

instance : Decidable (d.Stale s) := inferInstanceAs (Decidable (_ ≤ _))

def writeTmp : QueueDisk := { d with tmp := Function.update d.tmp s.epoch (some s) }

def removeTmp : QueueDisk := { d with tmp := Function.update d.tmp s.epoch none }

def fetchMax : QueueDisk := { d with tracker := max d.tracker s.epoch }

/-- The rename of the tmp file onto `queue.json`. -/
def rename : QueueDisk :=
  { d with queueJson := d.tmp s.epoch, tmp := Function.update d.tmp s.epoch none }

@[simp] theorem writeTmp_tracker : (d.writeTmp s).tracker = d.tracker := rfl
@[simp] theorem writeTmp_queueJson : (d.writeTmp s).queueJson = d.queueJson := rfl
@[simp] theorem removeTmp_tracker : (d.removeTmp s).tracker = d.tracker := rfl
@[simp] theorem removeTmp_queueJson : (d.removeTmp s).queueJson = d.queueJson := rfl
@[simp] theorem fetchMax_tracker : (d.fetchMax s).tracker = max d.tracker s.epoch := rfl
@[simp] theorem fetchMax_queueJson : (d.fetchMax s).queueJson = d.queueJson := rfl
@[simp] theorem rename_tracker : (d.rename s).tracker = d.tracker := rfl
@[simp] theorem rename_queueJson : (d.rename s).queueJson = d.tmp s.epoch := rfl

@[simp] theorem fetchMax_writeTmp_tmp : ((d.writeTmp s).fetchMax s).tmp s.epoch = some s := by
  simp [fetchMax, writeTmp]

/-- `flush_queue` with no other flush under way: `tmpIo` is what the serialization, the write and
the sync of the tmp file answer, `renameIo` what the rename answers. What a failed write leaves in
the tmp file is never read. -/
def flushQueue (tmpIo renameIo : Except String Unit) : Except String Unit × QueueDisk :=
  if d.Stale s then (.ok (), d)
  else
    match tmpIo with
    | .error e => (.error e, d)
    | .ok () =>
      let written := d.writeTmp s
      if written.Stale s then (.ok (), (written.fetchMax s).removeTmp s)
      else
        let won := written.fetchMax s
        match renameIo with
        | .error e => (.error e, won.removeTmp s)
        | .ok () => (.ok (), won.rename s)

end QueueDisk

/-! ## Concurrent flushes -/

/-- What a flush does next. -/
inductive FlushPc where
  | load
  | writeTmp
  | fetchMax
  | rename
  | returned (result : Except String Unit)
  deriving DecidableEq

/-- The flushes of the snapshots `snaps i`, each with its own program counter. -/
structure FlushState (ι : Type*) where
  disk : QueueDisk
  pc : ι → FlushPc

section
variable {ι : Type*} [DecidableEq ι]

def FlushState.init : FlushState ι := ⟨.fresh, fun _ => .load⟩

/-- The flush `i` goes on to `pc` and leaves the disk `d`. -/
def FlushState.goto (st : FlushState ι) (i : ι) (pc : FlushPc) (d : QueueDisk) : FlushState ι :=
  ⟨d, Function.update st.pc i pc⟩

/-- One step of the flush `a.1`; `a.2` is what its file operation answers, if the step has one. -/
def flushStep (snaps : ι → QueueSnapshot) (st : FlushState ι) (a : ι × Except String Unit) :
    Option (FlushState ι) :=
  let i := a.1
  let s := snaps i
  let d := st.disk
  match st.pc i with
  | .load => some (st.goto i (if d.Stale s then .returned (.ok ()) else .writeTmp) d)
  | .writeTmp =>
    match a.2 with
    | .error e => some (st.goto i (.returned (.error e)) d)
    | .ok () => some (st.goto i .fetchMax (d.writeTmp s))
  | .fetchMax =>
    if d.Stale s then some (st.goto i (.returned (.ok ())) ((d.fetchMax s).removeTmp s))
    else some (st.goto i .rename (d.fetchMax s))
  | .rename =>
    match a.2 with
    | .error e => some (st.goto i (.returned (.error e)) (d.removeTmp s))
    | .ok () =>
      -- a rename of a missing file does not answer `ok`
      if (d.tmp s.epoch).isSome then some (st.goto i (.returned (.ok ())) (d.rename s)) else none
  | .returned _ => none

/-- The steps of a flush whose file operations succeed. -/
inductive FlushOk (snaps : ι → QueueSnapshot) (st : FlushState ι) (i : ι) : FlushState ι → Prop
  | skip : st.pc i = .load → st.disk.Stale (snaps i) →
    FlushOk snaps st i (st.goto i (.returned (.ok ())) st.disk)
  | load : st.pc i = .load → ¬ st.disk.Stale (snaps i) →
    FlushOk snaps st i (st.goto i .writeTmp st.disk)
  | writeTmp : st.pc i = .writeTmp →
    FlushOk snaps st i (st.goto i .fetchMax (st.disk.writeTmp (snaps i)))
  | lose : st.pc i = .fetchMax → st.disk.Stale (snaps i) →
    FlushOk snaps st i
      (st.goto i (.returned (.ok ())) ((st.disk.fetchMax (snaps i)).removeTmp (snaps i)))
  | win : st.pc i = .fetchMax → ¬ st.disk.Stale (snaps i) →
    FlushOk snaps st i (st.goto i .rename (st.disk.fetchMax (snaps i)))
  | rename : st.pc i = .rename →
    FlushOk snaps st i (st.goto i (.returned (.ok ())) (st.disk.rename (snaps i)))

variable {snaps : ι → QueueSnapshot} {st st' : FlushState ι} {i : ι}

theorem FlushOk.of_step (h : flushStep snaps st (i, .ok ()) = some st') :
    FlushOk snaps st i st' := by
  cases hpc : st.pc i with
  | load =>
    by_cases hs : st.disk.Stale (snaps i)
    · simp only [flushStep, hpc, if_pos hs, Option.some.injEq] at h
      exact h ▸ .skip hpc hs
    · simp only [flushStep, hpc, if_neg hs, Option.some.injEq] at h
      exact h ▸ .load hpc hs
  | writeTmp =>
    simp only [flushStep, hpc, Option.some.injEq] at h
    exact h ▸ .writeTmp hpc
  | fetchMax =>
    by_cases hs : st.disk.Stale (snaps i)
    · simp only [flushStep, hpc, if_pos hs, Option.some.injEq] at h
      exact h ▸ .lose hpc hs
    · simp only [flushStep, hpc, if_neg hs, Option.some.injEq] at h
      exact h ▸ .win hpc hs
  | rename =>
    simp only [flushStep, hpc, Option.ite_none_right_eq_some, Option.some.injEq] at h
    exact h.2 ▸ .rename hpc
  | returned r => simp [flushStep, hpc] at h

@[simp] theorem FlushState.goto_disk (pc : FlushPc) (d : QueueDisk) :
    (st.goto i pc d).disk = d := rfl

theorem FlushState.goto_pc (pc : FlushPc) (d : QueueDisk) (j : ι) :
    (st.goto i pc d).pc j = if j = i then pc else st.pc j := by
  simp [goto, Function.update_apply]

/-- The flush has passed its `fetch_max`, or has returned before it. -/
def FlushPc.Advanced (pc : FlushPc) : Prop := pc = .rename ∨ ∃ r, pc = .returned r

/-- What holds at every moment of the flushes of snapshots with different epochs, `newest` being
the one with the greatest. -/
structure FlushInv (snaps : ι → QueueSnapshot) (newest : ι) (st : FlushState ι) : Prop where
  tmp_eq : ∀ i, st.pc i = .fetchMax ∨ st.pc i = .rename →
    st.disk.tmp (snaps i).epoch = some (snaps i)
  tracker_lt : ¬ (st.pc newest).Advanced → st.disk.tracker < (snaps newest).epoch
  le_tracker : (st.pc newest).Advanced → (snaps newest).epoch ≤ st.disk.tracker

variable {newest : ι}

namespace FlushInv

omit [DecidableEq ι] in
theorem init : FlushInv snaps newest FlushState.init where
  tmp_eq i h := by simp [FlushState.init] at h
  tracker_lt _ := (snaps newest).epoch_pos
  le_tracker h := by simp [FlushState.init, FlushPc.Advanced] at h

omit [DecidableEq ι] in
/-- The newest flush is neither skipped nor does it lose. -/
theorem not_stale (H : FlushInv snaps newest st)
    (hpc : st.pc newest = .load ∨ st.pc newest = .fetchMax) :
    ¬ st.disk.Stale (snaps newest) := by
  have hlt : st.disk.tracker < (snaps newest).epoch := by
    apply H.tracker_lt
    rcases hpc with hpc | hpc <;> simp [hpc, FlushPc.Advanced]
  simp only [QueueDisk.Stale]
  omega

/-- A step that neither writes tmp files nor moves the tracker keeps the invariant, whether or not
it is taken by the newest flush, as long as it does not count as advanced. -/
theorem of_goto {pc : FlushPc} {d : QueueDisk} (H : FlushInv snaps newest st)
    (htmp : ∀ j, j ≠ i → d.tmp (snaps j).epoch = st.disk.tmp (snaps j).epoch)
    (hown : pc = .fetchMax ∨ pc = .rename → d.tmp (snaps i).epoch = some (snaps i))
    (hadv : i = newest → (pc.Advanced ∧ (snaps newest).epoch ≤ d.tracker) ∨
      (¬ pc.Advanced ∧ d.tracker < (snaps newest).epoch))
    (hother : i ≠ newest → st.disk.tracker ≤ d.tracker ∧
      (st.disk.tracker < (snaps newest).epoch → d.tracker < (snaps newest).epoch)) :
    FlushInv snaps newest (st.goto i pc d) where
  tmp_eq j h := by
    rw [FlushState.goto_pc] at h
    by_cases hj : j = i
    · subst hj
      rw [if_pos rfl] at h
      exact hown h
    · rw [if_neg hj] at h
      rw [FlushState.goto_disk, htmp j hj]
      exact H.tmp_eq j h
  tracker_lt h := by
    rw [FlushState.goto_pc] at h
    by_cases hi : newest = i
    · rw [if_pos hi] at h
      rcases hadv hi.symm with ⟨hpc, -⟩ | ⟨-, hlt⟩
      · exact absurd hpc h
      · exact hlt
    · rw [if_neg hi] at h
      exact (hother (Ne.symm hi)).2 (H.tracker_lt h)
  le_tracker h := by
    rw [FlushState.goto_pc] at h
    by_cases hi : newest = i
    · rw [if_pos hi] at h
      rcases hadv hi.symm with ⟨-, hle⟩ | ⟨hpc, -⟩
      · exact hle
      · exact absurd h hpc
    · rw [if_neg hi] at h
      exact (H.le_tracker h).trans (hother (Ne.symm hi)).1

theorem step (hinj : Function.Injective fun i => (snaps i).epoch)
    (hnewest : ∀ i, (snaps i).epoch ≤ (snaps newest).epoch) (H : FlushInv snaps newest st)
    (h : FlushOk snaps st i st') : FlushInv snaps newest st' := by
  have hne {j : ι} (hj : j ≠ i) : (snaps j).epoch ≠ (snaps i).epoch := fun he => hj (hinj he)
  have hlt : i ≠ newest → (snaps i).epoch < (snaps newest).epoch := fun hi =>
    lt_of_le_of_ne (hnewest i) fun he => hi (hinj he)
  cases h with
  | skip hpc hs =>
    refine H.of_goto (fun _ _ => rfl) (by simp) (fun hi => ?_) (fun _ => ⟨le_rfl, id⟩)
    subst hi
    exact absurd hs (H.not_stale (.inl hpc))
  | load hpc hs =>
    refine H.of_goto (fun _ _ => rfl) (by simp) (fun hi => ?_) (fun _ => ⟨le_rfl, id⟩)
    subst hi
    exact .inr ⟨by simp [FlushPc.Advanced], H.tracker_lt (by simp [hpc, FlushPc.Advanced])⟩
  | writeTmp hpc =>
    refine H.of_goto (fun j hj => ?_) (by simp [QueueDisk.writeTmp]) (fun hi => ?_)
      (fun _ => ⟨le_rfl, id⟩)
    · simp [QueueDisk.writeTmp, Function.update_of_ne (hne hj)]
    · subst hi
      exact .inr ⟨by simp [FlushPc.Advanced], H.tracker_lt (by simp [hpc, FlushPc.Advanced])⟩
  | lose hpc hs =>
    refine H.of_goto (fun j hj => ?_) (by simp) (fun hi => ?_) (fun hi => ?_)
    · simp [QueueDisk.removeTmp, QueueDisk.fetchMax, Function.update_of_ne (hne hj)]
    · subst hi
      exact absurd hs (H.not_stale (.inr hpc))
    · simpa [QueueDisk.removeTmp, QueueDisk.fetchMax] using fun h => ⟨h, hlt hi⟩
  | win hpc hs =>
    refine H.of_goto (fun j hj => rfl) (fun _ => H.tmp_eq i (.inl hpc)) (fun hi => ?_)
      (fun hi => ?_)
    · subst hi
      exact .inl ⟨.inl rfl, by simp [QueueDisk.fetchMax]⟩
    · simpa [QueueDisk.fetchMax] using fun h => ⟨h, hlt hi⟩
  | rename hpc =>
    refine H.of_goto (fun j hj => ?_) (by simp) (fun hi => ?_) (fun _ => ⟨le_rfl, id⟩)
    · simp [QueueDisk.rename, Function.update_of_ne (hne hj)]
    · subst hi
      exact .inl ⟨.inr ⟨_, rfl⟩, H.le_tracker (.inl hpc)⟩

omit [DecidableEq ι] in
/-- Once the newest flush has returned, no other flush wins. -/
theorem stale_of_returned (hnewest : ∀ i, (snaps i).epoch ≤ (snaps newest).epoch)
    (H : FlushInv snaps newest st) (hret : ∃ r, st.pc newest = .returned r) :
    st.disk.Stale (snaps i) :=
  (hnewest i).trans (H.le_tracker (.inr hret))

end FlushInv

theorem FlushInv.run (hinj : Function.Injective fun i => (snaps i).epoch)
    (hnewest : ∀ i, (snaps i).epoch ≤ (snaps newest).epoch) {acts : List (ι × Except String Unit)}
    (hok : ∀ a ∈ acts, a.2 = .ok ()) (hrun : exec (flushStep snaps) st acts = some st')
    (H : FlushInv snaps newest st) : FlushInv snaps newest st' :=
  exec_invariant
    (fun t a t' hstep hio Ht => by
      obtain ⟨i, io⟩ := a
      obtain rfl : io = .ok () := hio
      exact Ht.step hinj hnewest (.of_step hstep))
    hrun (Along.of_forall_mem hok) H

/-- When the flush `newest` renames, no other flush stands between its `fetch_max` and its
rename. -/
def RenamesAlone (newest : ι) (st : FlushState ι) (a : ι × Except String Unit) : Prop :=
  a.1 = newest → st.pc newest = .rename → ∀ j, j ≠ newest → st.pc j ≠ .rename

/-- The newest flush has renamed, and no other flush will. -/
def NewestLast (snaps : ι → QueueSnapshot) (newest : ι) (st : FlushState ι) : Prop :=
  (∃ r, st.pc newest = .returned r) →
    st.disk.queueJson = some (snaps newest) ∧ ∀ j, st.pc j ≠ .rename

/-- The newest flush has renamed, and another flush has renamed after it or will. -/
def NewestOverwritten (snaps : ι → QueueSnapshot) (newest : ι) (st : FlushState ι) : Prop :=
  (∃ r, st.pc newest = .returned r) ∧
    ((∃ j, j ≠ newest ∧ st.pc j = .rename) ∨
      ∃ j, j ≠ newest ∧ st.disk.queueJson = some (snaps j))

theorem NewestLast.step (hnewest : ∀ i, (snaps i).epoch ≤ (snaps newest).epoch)
    (H : FlushInv snaps newest st) (hgood : RenamesAlone newest st (i, .ok ()))
    (hlast : NewestLast snaps newest st) (h : FlushOk snaps st i st') :
    NewestLast snaps newest st' := by
  rintro ⟨r, hr⟩
  by_cases hi : i = newest
  · subst hi
    cases h with
    | skip hpc hs => exact absurd hs (H.not_stale (.inl hpc))
    | lose hpc hs => exact absurd hs (H.not_stale (.inr hpc))
    | load | writeTmp | win => simp [FlushState.goto_pc] at hr
    | rename hpc =>
      refine ⟨H.tmp_eq i (.inr hpc), fun j => ?_⟩
      rw [FlushState.goto_pc]
      split
      · simp
      · next hj => exact hgood rfl hpc j hj
  · have hret : ∃ r, st.pc newest = .returned r := by
      refine ⟨r, ?_⟩
      cases h <;> simpa [FlushState.goto_pc, Ne.symm hi] using hr
    obtain ⟨hdisk, hpcs⟩ := hlast hret
    cases h with
    | rename hpc => exact absurd hpc (hpcs i)
    | win hpc hs => exact absurd (H.stale_of_returned hnewest hret) hs
    | skip | load | writeTmp | lose =>
      refine ⟨hdisk, fun j => ?_⟩
      rw [FlushState.goto_pc]
      split
      · simp
      · exact hpcs j

theorem NewestOverwritten.step (H : FlushInv snaps newest st)
    (hover : NewestOverwritten snaps newest st) (h : FlushOk snaps st i st') :
    NewestOverwritten snaps newest st' := by
  obtain ⟨⟨r, hr⟩, hother⟩ := hover
  have hi : i ≠ newest := by
    rintro rfl
    cases h <;> simp_all
  have hret (pc : FlushPc) (d : QueueDisk) : (st.goto i pc d).pc newest = .returned r := by
    rw [FlushState.goto_pc, if_neg (Ne.symm hi), hr]
  have hkeeps {pc : FlushPc} {d : QueueDisk} (hpc : st.pc i ≠ .rename)
      (hd : d.queueJson = st.disk.queueJson) : NewestOverwritten snaps newest (st.goto i pc d) := by
    refine ⟨⟨r, hret pc d⟩, ?_⟩
    rcases hother with ⟨j, hj, hjpc⟩ | ⟨j, hj, hdisk⟩
    · refine .inl ⟨j, hj, ?_⟩
      have hji : j ≠ i := fun he => hpc (he ▸ hjpc)
      rw [FlushState.goto_pc, if_neg hji, hjpc]
    · exact .inr ⟨j, hj, hd.trans hdisk⟩
  cases h with
  | rename hpc => exact ⟨⟨r, hret _ _⟩, .inr ⟨i, hi, H.tmp_eq i (.inr hpc)⟩⟩
  | skip hpc | load hpc | writeTmp hpc | lose hpc | win hpc => exact hkeeps (by simp [hpc]) rfl

theorem NewestOverwritten.run (hinj : Function.Injective fun i => (snaps i).epoch)
    (hnewest : ∀ i, (snaps i).epoch ≤ (snaps newest).epoch) {acts : List (ι × Except String Unit)}
    (hok : ∀ a ∈ acts, a.2 = .ok ()) (hrun : exec (flushStep snaps) st acts = some st')
    (H : FlushInv snaps newest st) (hover : NewestOverwritten snaps newest st) :
    NewestOverwritten snaps newest st' :=
  (exec_invariant (I := fun t => FlushInv snaps newest t ∧ NewestOverwritten snaps newest t)
    (fun t a t' hstep hio ht => by
      obtain ⟨i, io⟩ := a
      obtain rfl : io = .ok () := hio
      have hstep' := FlushOk.of_step hstep
      exact ⟨ht.1.step hinj hnewest hstep', ht.2.step ht.1 hstep'⟩)
    hrun (Along.of_forall_mem hok) ⟨H, hover⟩).2

/-- When concurrent flushes of snapshots with different epochs have all returned, `queue.json` has
the content of the newest exactly when the newest renamed while no other flush stood between its
`fetch_max` and its rename. -/
theorem queueJson_newest_iff (hinj : Function.Injective fun i => (snaps i).epoch)
    (hnewest : ∀ i, (snaps i).epoch ≤ (snaps newest).epoch) {acts : List (ι × Except String Unit)}
    (hok : ∀ a ∈ acts, a.2 = .ok ())
    (hrun : exec (flushStep snaps) .init acts = some st) (hret : ∀ i, ∃ r, st.pc i = .returned r) :
    st.disk.queueJson = some (snaps newest) ↔
      Along (flushStep snaps) (RenamesAlone newest) .init acts := by
  constructor
  · intro hdisk
    by_contra halong
    obtain ⟨pre, ⟨i, io⟩, post, t, t', rfl, hpre, hbad, hstep, hpost⟩ :=
      exists_of_not_along hrun halong
    simp only [RenamesAlone, not_forall, not_not] at hbad
    obtain ⟨rfl, hpc, j, hj, hjpc⟩ := hbad
    have hok' := List.forall_mem_append.mp hok
    obtain ⟨hio, hokpost⟩ := List.forall_mem_cons.mp hok'.2
    obtain rfl : io = .ok () := hio
    have H := FlushInv.run hinj hnewest hok'.1 hpre .init
    -- the newest flush renames while `j` is about to
    have hstep' := FlushOk.of_step hstep
    have hover : NewestOverwritten snaps i t' := by
      cases hstep' with
      | rename =>
        refine ⟨⟨.ok (), by simp [FlushState.goto_pc]⟩, .inl ⟨j, hj, ?_⟩⟩
        rw [FlushState.goto_pc, if_neg hj, hjpc]
      | skip h | load h | writeTmp h | lose h | win h => simp [hpc] at h
    have hend := NewestOverwritten.run hinj hnewest hokpost hpost (H.step hinj hnewest hstep') hover
    rcases hend.2 with ⟨k, -, hk⟩ | ⟨k, hk, hdisk'⟩
    · obtain ⟨r, hr⟩ := hret k
      simp [hr] at hk
    · rw [hdisk, Option.some.injEq] at hdisk'
      exact hk (hinj (congrArg QueueSnapshot.epoch hdisk').symm)
  · intro halong
    have hgood := halong.and (Along.of_forall_mem hok)
    have hlast := exec_invariant (I := fun t => FlushInv snaps newest t ∧ NewestLast snaps newest t)
      (fun t a t' hstep hg ht => by
        obtain ⟨i, io⟩ := a
        obtain ⟨halone, rfl⟩ := hg
        have hstep' := FlushOk.of_step hstep
        exact ⟨ht.1.step hinj hnewest hstep', ht.2.step hnewest ht.1 halone hstep'⟩)
      hrun hgood ⟨.init, fun ⟨r, hr⟩ => by simp [FlushState.init] at hr⟩
    exact (hlast.2 (hret newest)).1

end

/-- Two snapshots of consecutive stagings, the later one after a spawn failure. -/
def twoSnapshots : Fin 2 → QueueSnapshot
  | 0 => ⟨⟨∅, ∅⟩, 1, by decide⟩
  | 1 => ⟨⟨∅, AList.insert "/repo" 1 ∅⟩, 2, by decide⟩

theorem twoSnapshots_injective : Function.Injective fun i => (twoSnapshots i).epoch := by
  unfold Function.Injective
  decide

/-- Steps of the two flushes whose file operations succeed. -/
def schedule (is : List (Fin 2)) : List (Fin 2 × Except String Unit) := is.map (·, .ok ())

theorem queueJson_newest_iff_in_turn :
    ∃ st, exec (flushStep twoSnapshots) .init (schedule [0, 0, 0, 0, 1, 1, 1, 1]) = some st ∧
      (st.disk.queueJson = some (twoSnapshots 1) ↔
        Along (flushStep twoSnapshots) (RenamesAlone 1) .init
          (schedule [0, 0, 0, 0, 1, 1, 1, 1])) := by
  obtain ⟨st, hrun, hret⟩ :=
    exists_of_any (o := exec (flushStep twoSnapshots) .init (schedule [0, 0, 0, 0, 1, 1, 1, 1]))
      (P := fun st => ∀ i, st.pc i = .returned (.ok ())) (by decide)
  refine ⟨st, hrun, queueJson_newest_iff twoSnapshots_injective (by decide) (by decide) hrun ?_⟩
  exact fun i => ⟨_, hret i⟩

/-- The flush of epoch 1 wins its `fetch_max`, the flush of epoch 2 runs from start to end, and
then the flush of epoch 1 renames: `queue.json` has rolled back. -/
theorem queueJson_rolls_back :
    ∃ (snaps : Fin 2 → QueueSnapshot) (acts : List (Fin 2 × Except String Unit)),
      (Function.Injective fun i => (snaps i).epoch) ∧
      (∀ i, (snaps i).epoch ≤ (snaps 1).epoch) ∧ (∀ a ∈ acts, a.2 = .ok ()) ∧
      ∃ st, exec (flushStep snaps) .init acts = some st ∧
        (∀ i, st.pc i = .returned (.ok ())) ∧
        st.disk.queueJson.map (·.wire) ≠ some (snaps 1).wire := by
  refine ⟨twoSnapshots, schedule [0, 0, 0, 1, 1, 1, 1, 0], twoSnapshots_injective, by decide,
    by decide, ?_⟩
  obtain ⟨st, hrun, hret, hne⟩ :=
    exists_of_any (o := exec (flushStep twoSnapshots) .init (schedule [0, 0, 0, 1, 1, 1, 1, 0]))
      (P := fun st => (∀ i, st.pc i = .returned (.ok ())) ∧
        (st.disk.queueJson.map fun s => s.wire.consecutiveFailures.lookup "/repo") ≠
          some ((twoSnapshots 1).wire.consecutiveFailures.lookup "/repo")) (by decide)
  refine ⟨st, hrun, hret, fun h => hne ?_⟩
  have hlookup := congrArg (Option.map fun w => w.consecutiveFailures.lookup "/repo") h
  simpa using hlookup

/-! ## Flushes one after the other -/

/-- A call of `flush_queue`, with what its file operations answer. -/
structure FlushCall where
  snapshot : QueueSnapshot
  tmpIo : Except String Unit
  renameIo : Except String Unit

/-- A call whose tmp file is written advances the tracker to its epoch, if it was not there yet. -/
def FlushCall.Advances (c : FlushCall) : Prop := c.tmpIo = .ok ()

/-- After the calls `cs`, the call `c` renames its tmp file onto `queue.json`. -/
def FlushCall.Renames (cs : List FlushCall) (c : FlushCall) : Prop :=
  c.tmpIo = .ok () ∧ c.renameIo = .ok () ∧
    ∀ b ∈ cs, b.Advances → b.snapshot.epoch < c.snapshot.epoch

namespace QueueDisk

section
variable (d : QueueDisk) (s : QueueSnapshot) (tmpIo renameIo : Except String Unit)

theorem flushQueue_of_stale (h : s.epoch ≤ d.tracker) :
    d.flushQueue s tmpIo renameIo = (.ok (), d) := if_pos h

theorem flushQueue_tracker : (d.flushQueue s tmpIo renameIo).2.tracker =
    if tmpIo = .ok () then max d.tracker s.epoch else d.tracker := by
  rcases Nat.lt_or_ge d.tracker s.epoch with hlt | hle
  · have hstale : ¬ d.Stale s := Nat.not_le.mpr hlt
    have hstale' : ¬ (d.writeTmp s).Stale s := hstale
    rcases tmpIo with e | ⟨⟨⟩⟩
    · simp [flushQueue, hstale]
    · rcases renameIo with e | ⟨⟨⟩⟩ <;> simp [flushQueue, hstale, hstale']
  · rw [flushQueue_of_stale d s tmpIo renameIo hle, Nat.max_eq_left hle, ite_self]

theorem flushQueue_queueJson : (d.flushQueue s tmpIo renameIo).2.queueJson =
    if tmpIo = .ok () ∧ renameIo = .ok () ∧ d.tracker < s.epoch then some s else d.queueJson := by
  rcases Nat.lt_or_ge d.tracker s.epoch with hlt | hle
  · have hstale : ¬ d.Stale s := Nat.not_le.mpr hlt
    have hstale' : ¬ (d.writeTmp s).Stale s := hstale
    rcases tmpIo with e | ⟨⟨⟩⟩
    · simp [flushQueue, hstale]
    · rcases renameIo with e | ⟨⟨⟩⟩ <;> simp [flushQueue, hstale, hstale', hlt]
  · rw [flushQueue_of_stale d s tmpIo renameIo hle, if_neg]
    omega

theorem flushQueue_ok_iff : (d.flushQueue s tmpIo renameIo).1 = .ok () ↔
    s.epoch ≤ d.tracker ∨ (tmpIo = .ok () ∧ renameIo = .ok ()) := by
  rcases Nat.lt_or_ge d.tracker s.epoch with hlt | hle
  · have hstale : ¬ d.Stale s := Nat.not_le.mpr hlt
    have hstale' : ¬ (d.writeTmp s).Stale s := hstale
    rcases tmpIo with e | ⟨⟨⟩⟩
    · simp [flushQueue, hstale, hlt]
    · rcases renameIo with e | ⟨⟨⟩⟩ <;> simp [flushQueue, hstale, hstale', hlt]
  · simp [flushQueue_of_stale d s tmpIo renameIo hle, hle]

/-- A call with no other flush under way is the steps of `flushStep` in a row. -/
theorem flushQueue_steps {ι : Type*} [DecidableEq ι] {snaps : ι → QueueSnapshot}
    {st : FlushState ι} {i : ι} (hpc : st.pc i = .load) :
    ∃ acts, acts <+: [(i, .ok ()), (i, tmpIo), (i, .ok ()), (i, renameIo)] ∧
      exec (flushStep snaps) st acts =
        some (st.goto i (.returned (st.disk.flushQueue (snaps i) tmpIo renameIo).1)
          (st.disk.flushQueue (snaps i) tmpIo renameIo).2) := by
  by_cases hstale : st.disk.Stale (snaps i)
  · refine ⟨[(i, .ok ())], ⟨_, rfl⟩, ?_⟩
    simp [flushStep, hpc, hstale, flushQueue]
  · have hstale' : ¬ (st.disk.writeTmp (snaps i)).Stale (snaps i) := hstale
    rcases tmpIo with e | ⟨⟨⟩⟩
    · refine ⟨[(i, .ok ()), (i, .error e)], ⟨_, rfl⟩, ?_⟩
      simp [exec, flushStep, hpc, hstale, flushQueue, FlushState.goto]
    · refine ⟨_, List.prefix_rfl, ?_⟩
      rcases renameIo with e | ⟨⟨⟩⟩
      · simp [exec, flushStep, hpc, hstale, hstale', flushQueue, FlushState.goto]
      · simp [exec, flushStep, hpc, hstale, hstale', flushQueue, FlushState.goto]

end

def call (d : QueueDisk) (c : FlushCall) : Except String Unit × QueueDisk :=
  d.flushQueue c.snapshot c.tmpIo c.renameIo

/-- Calls one after the other. -/
def calls (d : QueueDisk) (cs : List FlushCall) : QueueDisk := cs.foldl (fun d c => (d.call c).2) d

variable {cs : List FlushCall} {c : FlushCall} {d : QueueDisk}

theorem calls_concat : d.calls (cs ++ [c]) = ((d.calls cs).call c).2 := by simp [calls]

theorem tracker_calls_lt {n : Nat} : (fresh.calls cs).tracker < n ↔
    0 < n ∧ ∀ b ∈ cs, b.Advances → b.snapshot.epoch < n := by
  induction cs using List.reverseRecOn with
  | nil => simp [calls, fresh]
  | append_singleton cs c ih =>
    rw [calls_concat, call, flushQueue_tracker]
    simp only [List.forall_mem_append, List.forall_mem_singleton, FlushCall.Advances]
    split
    · next h => simp [h, ih, FlushCall.Advances, and_assoc]
    · next h => simp [h, ih, FlushCall.Advances]

theorem renames_iff : c.Renames cs ↔
    c.tmpIo = .ok () ∧ c.renameIo = .ok () ∧ (fresh.calls cs).tracker < c.snapshot.epoch := by
  rw [FlushCall.Renames, tracker_calls_lt, and_iff_right c.snapshot.epoch_pos]

/-- The file has the content of a snapshot of epoch `n` or more exactly when a call for such a
snapshot has renamed: later renames only raise the epoch. -/
theorem queueJson_calls_iff {n : Nat} :
    (∃ t, (fresh.calls cs).queueJson = some t ∧ n ≤ t.epoch) ↔
      ∃ pre b post, cs = pre ++ b :: post ∧ b.Renames pre ∧ n ≤ b.snapshot.epoch := by
  induction cs using List.reverseRecOn with
  | nil => simp [calls, fresh]
  | append_singleton cs c ih =>
    rw [calls_concat, call, flushQueue_queueJson]
    constructor
    · rintro ⟨t, ht, hn⟩
      split at ht
      · next hren =>
        cases ht
        exact ⟨cs, c, [], rfl, renames_iff.mpr hren, hn⟩
      · obtain ⟨pre, b, post, rfl, hb, hle⟩ := ih.mp ⟨t, ht, hn⟩
        exact ⟨pre, b, post ++ [c], by simp, hb, hle⟩
    · rintro ⟨pre, b, post, heq, hb, hle⟩
      rcases List.eq_nil_or_concat post with rfl | ⟨post, c', rfl⟩
      · obtain ⟨rfl, h⟩ := List.append_inj' heq rfl
        cases h
        rw [if_pos (renames_iff.mp hb)]
        exact ⟨_, rfl, hle⟩
      · rw [List.concat_eq_append, ← List.cons_append, ← List.append_assoc] at heq
        obtain ⟨rfl, -⟩ := List.append_inj' heq rfl
        split
        · next hren =>
          refine ⟨_, rfl, hle.trans ?_⟩
          exact ((renames_iff.mpr hren).2.2 b (by simp) hb.1).le
        · exact ih.mpr ⟨pre, b, post, rfl, hb, hle⟩

/-- When a call returns `Ok`, `queue.json` has the content of a snapshot at least as new exactly
when no earlier call for such a snapshot had its tmp file written, or one has renamed. -/
theorem call_durable_iff {d : QueueDisk} (h : (fresh.calls cs).call c = (.ok (), d)) :
    (∃ t, d.queueJson = some t ∧ c.snapshot.epoch ≤ t.epoch) ↔
      (∀ b ∈ cs, b.Advances → b.snapshot.epoch < c.snapshot.epoch) ∨
        ∃ pre b post, cs = pre ++ b :: post ∧ b.Renames pre ∧
          c.snapshot.epoch ≤ b.snapshot.epoch := by
  have hlt : (fresh.calls cs).tracker < c.snapshot.epoch ↔
      ∀ b ∈ cs, b.Advances → b.snapshot.epoch < c.snapshot.epoch :=
    tracker_calls_lt.trans (and_iff_right c.snapshot.epoch_pos)
  obtain rfl : d = ((fresh.calls cs).call c).2 := by rw [h]
  have hok : ((fresh.calls cs).call c).1 = .ok () := by rw [h]
  rw [← queueJson_calls_iff, ← hlt, call, flushQueue_queueJson]
  rw [call, flushQueue_ok_iff] at hok
  rcases hok with hstale | hio
  · have hnot : ¬ (fresh.calls cs).tracker < c.snapshot.epoch := Nat.not_lt.mpr hstale
    simp [hnot]
  · by_cases hnew : (fresh.calls cs).tracker < c.snapshot.epoch
    · simp [hio, hnew]
    · simp [hnew]

/-- A first call whose file operations succeed. -/
theorem call_durable_iff_first :
    (∃ t, (fresh.call ⟨twoSnapshots 0, .ok (), .ok ()⟩).2.queueJson = some t ∧
        (twoSnapshots 0).epoch ≤ t.epoch) ↔
      (∀ b ∈ ([] : List FlushCall), b.Advances → b.snapshot.epoch < (twoSnapshots 0).epoch) ∨
        ∃ pre, ∃ b : FlushCall, ∃ post, [] = pre ++ b :: post ∧ b.Renames pre ∧
          (twoSnapshots 0).epoch ≤ b.snapshot.epoch := by
  have hok : (fresh.calls []).call ⟨twoSnapshots 0, .ok (), .ok ()⟩ =
      (.ok (), (fresh.call ⟨twoSnapshots 0, .ok (), .ok ()⟩).2) := rfl
  exact call_durable_iff hok

/-- The rename of the first call fails after the tracker has advanced; the retry answers `Ok`
without writing. -/
theorem retry_ok_without_write :
    ∃ (cs : List FlushCall) (c : FlushCall) (d : QueueDisk),
      (fresh.calls cs).call c = (.ok (), d) ∧
        ¬ ∃ t, d.queueJson = some t ∧ c.snapshot.epoch ≤ t.epoch := by
  refine ⟨[⟨twoSnapshots 0, .ok (), .error "failed to atomically rename queue.json"⟩],
    ⟨twoSnapshots 0, .ok (), .ok ()⟩, _, rfl, ?_⟩
  rintro ⟨t, ht, -⟩
  cases ht

end QueueDisk
end GreaterWill
