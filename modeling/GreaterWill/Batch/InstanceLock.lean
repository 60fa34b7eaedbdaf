import GreaterWill.Lib.Run
import Mathlib.Logic.Function.Basic

/-!
# The instance lock

`InstanceLock` of `batch/lock.rs` for any number of processes in one directory. The path
`.gw/gw.lock` names an inode or none, and the kernel keeps the exclusive flocks of the inodes. A
step is one system call of one process. The lock is on an inode, and what `release` and `Drop`
unlink is the path: the processes exclude each other as long as no new inode gets the name while
another is open (`CreatesAlone`).

The process ids in the file are left out.
-/

namespace GreaterWill

/-- Where a process is in the code of the lock. -/
inductive LockPhase where
  | idle
  /-- The file is open; `blocking` for `acquire_blocking_at`. -/
  | opened (inode : Nat) (blocking : Bool)
  /-- The flock is granted. -/
  | held (inode : Nat)
  /-- `drop` has returned, the file is still open. -/
  | dropping (inode : Nat)
  deriving DecidableEq

namespace LockPhase

/-- The inode of the file that is open. -/
def inode : LockPhase → Option Nat
  | idle => none
  | opened inode _ | held inode | dropping inode => some inode

/-- Between a successful acquire and the end of the drop. -/
def inside : LockPhase → Bool
  | held _ | dropping _ => true
  | idle | opened .. => false

end LockPhase

/-- A directory with the lock file and the processes that use it. -/
structure LockDir (Pid : Type*) where
  /-- The inode that `.gw/gw.lock` names. -/
  path : Option Nat
  nextInode : Nat
  /-- The exclusive flocks. -/
  flocks : Nat → Option Pid
  phase : Pid → LockPhase

inductive LockCall (Pid : Type*) where
  /-- `File::create`. -/
  | create (p : Pid) (blocking : Bool)
  /-- `try_lock_exclusive` or `lock_exclusive`. -/
  | flock (p : Pid)
  /-- `release`; `removed` unless the file cannot be removed. -/
  | release (p : Pid) (removed : Bool)
  /-- `Drop::drop`. -/
  | drop (p : Pid) (removed : Bool)
  /-- The file is closed after `drop`. -/
  | close (p : Pid)
  /-- The process dies, or the process id cannot be written: the file is closed at once. -/
  | die (p : Pid)

namespace LockDir

variable {Pid : Type*} [DecidableEq Pid] (w : LockDir Pid)

/-- A directory that no process uses yet, with or without a stale lock file. -/
def init (path : Option Nat) : LockDir Pid where
  path := path
  nextInode := (path.map (· + 1)).getD 0
  flocks _ := none
  phase _ := .idle

def set (p : Pid) (phase : LockPhase) : LockDir Pid :=
  { w with phase := Function.update w.phase p phase }

/-- The file is closed, which releases its flock. -/
def closed (p : Pid) (inode : Nat) : LockDir Pid :=
  { w.set p .idle with flocks := Function.update w.flocks inode none }

def unlinked (removed : Bool) : LockDir Pid :=
  if removed then { w with path := none } else w

/-- One system call; `lock_exclusive` waits while the flock is taken. -/
def step : LockCall Pid → Option (LockDir Pid)
  | .create p blocking =>
    if w.phase p = .idle then
      match w.path with
      | some inode => some (w.set p (.opened inode blocking))
      | none =>
        some
          { w.set p (.opened w.nextInode blocking) with
            path := some w.nextInode
            nextInode := w.nextInode + 1 }
    else none
  | .flock p =>
    match w.phase p with
    | .opened inode blocking =>
      if (w.flocks inode).isNone then
        some { w.set p (.held inode) with flocks := Function.update w.flocks inode (some p) }
      else if blocking then none
      else some (w.set p .idle)
    | _ => none
  | .release p removed =>
    match w.phase p with
    | .held _ => some (w.unlinked removed)
    | _ => none
  | .drop p removed =>
    match w.phase p with
    | .held inode => some ((w.unlinked removed).set p (.dropping inode))
    | _ => none
  | .close p =>
    match w.phase p with
    | .dropping inode => some (w.closed p inode)
    | _ => none
  | .die p =>
    match w.phase p with
    | .idle => none
    | .opened _ _ => some (w.set p .idle)
    | .held inode | .dropping inode => some (w.closed p inode)

/-- At most one process is inside. -/
def MutualExclusion : Prop :=
  ∀ p q, (w.phase p).inside = true → (w.phase q).inside = true → p = q

/-- A call creates a new file only when no process has the lock file open. -/
def CreatesAlone : LockCall Pid → Prop
  | .create _ _ => w.path = none → ∀ q, w.phase q = .idle
  | _ => True

/-- The processes have the same file open, the one that the path names if there is one; a process
inside has its flock. -/
structure Coherent : Prop where
  shared : ∀ p q i j, (w.phase p).inode = some i → (w.phase q).inode = some j → i = j
  named : ∀ p i j, w.path = some i → (w.phase p).inode = some j → i = j
  flocked : ∀ p i, (w.phase p).inside = true → (w.phase p).inode = some i → w.flocks i = some p

variable {w} {w' : LockDir Pid} {p q : Pid} {call : LockCall Pid}

theorem phase_set (ph : LockPhase) : (w.set p ph).phase q = if q = p then ph else w.phase q :=
  Function.update_apply ..

omit [DecidableEq Pid] in
theorem coherent_init (path : Option Nat) : (init path : LockDir Pid).Coherent where
  shared _ _ _ _ hp := nomatch hp
  named _ _ _ _ hp := nomatch hp
  flocked _ _ hp := nomatch hp

theorem exists_inode_of_inside {ph : LockPhase} (h : ph.inside = true) :
    ∃ i, ph.inode = some i := by
  cases ph with
  | idle | opened => cases h
  | held i | dropping i => exact ⟨i, rfl⟩

omit [DecidableEq Pid] in
/-- The flock of a shared inode excludes. -/
theorem Coherent.mutualExclusion (h : w.Coherent) : w.MutualExclusion := by
  intro p q hp hq
  obtain ⟨i, hi⟩ := exists_inode_of_inside hp
  obtain ⟨j, hj⟩ := exists_inode_of_inside hq
  obtain rfl := h.shared p q i j hi hj
  have hpq : some p = some q := (h.flocked p i hp hi).symm.trans (h.flocked q i hq hj)
  exact Option.some.inj hpq

namespace Coherent

/-- A process moves on with the file that the others have open. -/
theorem set (h : w.Coherent) {ph : LockPhase}
    (hnamed : ∀ i j, w.path = some i → ph.inode = some j → i = j)
    (hshared : ∀ q i j, q ≠ p → (w.phase q).inode = some i → ph.inode = some j → i = j)
    (hflocked : ∀ i, ph.inside = true → ph.inode = some i → w.flocks i = some p) :
    (w.set p ph).Coherent where
  shared q q' i j hq hq' := by
    rw [phase_set] at hq hq'
    split at hq <;> split at hq'
    · exact Option.some.inj (hq.symm.trans hq')
    · next hne => exact (hshared q' j i hne hq' hq).symm
    · next hne _ => exact hshared q i j hne hq hq'
    · exact h.shared q q' i j hq hq'
  named q i j hpath hq := by
    rw [phase_set] at hq
    split at hq
    · exact hnamed i j hpath hq
    · exact h.named q i j hpath hq
  flocked q i hin hq := by
    rw [phase_set] at hin hq
    split at hin
    · next heq =>
      rw [if_pos heq] at hq
      exact heq ▸ hflocked i hin hq
    · next hne =>
      rw [if_neg hne] at hq
      exact h.flocked q i hin hq

theorem idle (h : w.Coherent) : (w.set p .idle).Coherent :=
  h.set (fun _ _ _ hno => nomatch hno) (fun _ _ _ _ _ hno => nomatch hno) fun _ hno => nomatch hno

omit [DecidableEq Pid] in
theorem unlinked (h : w.Coherent) (removed : Bool) : (w.unlinked removed).Coherent := by
  cases removed with
  | false => exact h
  | true => exact ⟨h.shared, nofun, h.flocked⟩

/-- Nobody else is inside with the file that a process closes. -/
theorem closed (h : w.Coherent) {i : Nat} (hin : (w.phase p).inside = true)
    (hi : (w.phase p).inode = some i) : (w.closed p i).Coherent where
  shared := h.idle.shared
  named := h.idle.named
  flocked q j hq hj := by
    have hqp : q ≠ p := by
      rintro rfl
      rw [LockDir.closed, phase_set, if_pos rfl] at hq
      cases hq
    have hq' : (w.phase q).inside = true := by
      rwa [LockDir.closed, phase_set, if_neg hqp] at hq
    exact absurd (h.mutualExclusion q p hq' hin) hqp

/-- The flock is granted to a process that has the file open: nobody is inside. -/
theorem granted (h : w.Coherent) {i : Nat} {blocking : Bool}
    (hp : w.phase p = .opened i blocking) (hfree : w.flocks i = none) :
    ({ w.set p (.held i) with flocks := Function.update w.flocks i (some p) } :
      LockDir Pid).Coherent := by
  have hi : (w.phase p).inode = some i := by rw [hp]; rfl
  have hnobody : ∀ q, (w.phase q).inside = true → False := by
    intro q hq
    obtain ⟨j, hj⟩ := exists_inode_of_inside hq
    obtain rfl := h.shared p q i j hi hj
    have hflock := h.flocked q i hq hj
    rw [hfree] at hflock
    cases hflock
  have hw : ({ w with flocks := Function.update w.flocks i (some p) } : LockDir Pid).Coherent :=
    ⟨h.shared, h.named, fun q _ hq => (hnobody q hq).elim⟩
  refine hw.set (fun j k hpath hk => ?_) (fun q j k _ hj hk => ?_) fun j _ hj => ?_
  · cases hk
    exact h.named p j i hpath hi
  · cases hk
    exact h.shared q p j i hj hi
  · cases hj
    exact Function.update_self ..

/-- A process that has the file open keeps it. -/
theorem keeps (h : w.Coherent) {ph : LockPhase} (hinode : ph.inode = (w.phase p).inode)
    (hinside : ph.inside = true → (w.phase p).inside = true) : (w.set p ph).Coherent :=
  h.set (fun i j hpath hj => h.named p i j hpath (hinode ▸ hj))
    (fun q i j _ hi hj => h.shared q p i j hi (hinode ▸ hj))
    fun i hin hi => h.flocked p i (hinside hin) (hinode ▸ hi)

end Coherent

/-- A new file that one process has open. -/
theorem coherent_created {ph : LockPhase} (hidle : ∀ q, w.phase q = .idle)
    {w₁ : LockDir Pid} (hphase : w₁.phase = Function.update w.phase p ph)
    (hpath : w₁.path = ph.inode) (houtside : ph.inside = false) : w₁.Coherent := by
  have honly : ∀ q i, (w₁.phase q).inode = some i → ph.inode = some i := by
    intro q i hq
    rw [hphase, Function.update_apply] at hq
    split at hq
    · exact hq
    · rw [hidle q] at hq
      cases hq
  refine ⟨fun q q' i j hq hq' => ?_, fun q i j hi hq => ?_, fun q i hin _ => ?_⟩
  · exact Option.some.inj ((honly q i hq).symm.trans (honly q' j hq'))
  · rw [hpath] at hi
    exact Option.some.inj (hi.symm.trans (honly q j hq))
  · rw [hphase, Function.update_apply] at hin
    split at hin
    · rw [houtside] at hin
      cases hin
    · rw [hidle q] at hin
      cases hin

theorem coherent_step (hs : w.step call = some w') (halone : w.CreatesAlone call)
    (h : w.Coherent) : w'.Coherent := by
  cases call with
  | create p blocking =>
    simp only [step] at hs
    split at hs
    · cases hpath : w.path with
      | some i =>
        rw [hpath] at hs
        cases hs
        refine h.set (fun j k hj hk => ?_) (fun q j k _ hj hk => ?_) nofun
        · rw [hpath] at hj
          cases hj
          cases hk
          rfl
        · cases hk
          exact (h.named q i j hpath hj).symm
      | none =>
        rw [hpath] at hs
        cases hs
        exact coherent_created (halone hpath) rfl rfl rfl
    · cases hs
  | flock p =>
    simp only [step] at hs
    split at hs
    · next i blocking hp =>
      split at hs
      · next hfree =>
        cases hs
        exact h.granted hp (Option.isNone_iff_eq_none.mp hfree)
      · split at hs
        · cases hs
        · cases hs
          exact h.idle
    · cases hs
  | release p removed =>
    simp only [step] at hs
    split at hs
    · cases hs
      exact h.unlinked removed
    · cases hs
  | drop p removed =>
    simp only [step] at hs
    split at hs
    · next i hp =>
      cases hs
      have hphase : (w.unlinked removed).phase p = .held i := by
        rw [← hp]
        cases removed <;> rfl
      exact (h.unlinked removed).keeps (by rw [hphase]; rfl) fun _ => by rw [hphase]; rfl
    · cases hs
  | close p =>
    simp only [step] at hs
    split at hs
    · next i hp =>
      cases hs
      exact h.closed (by rw [hp]; rfl) (by rw [hp]; rfl)
    · cases hs
  | die p =>
    simp only [step] at hs
    split at hs
    · cases hs
    · cases hs
      exact h.idle
    · next i hp =>
      cases hs
      exact h.closed (by rw [hp]; rfl) (by rw [hp]; rfl)
    · next i hp =>
      cases hs
      exact h.closed (by rw [hp]; rfl) (by rw [hp]; rfl)

end LockDir

open LockDir

/-- In every run of any number of processes in which a new lock file is created only when no process
has one open, at most one process is inside in every state. -/
theorem instanceLock_excludes {Pid : Type*} [DecidableEq Pid] (path : Option Nat)
    (calls : List (LockCall Pid)) (w : LockDir Pid)
    (hrun : exec LockDir.step (init path) calls = some w)
    (halone : Along LockDir.step CreatesAlone (init path) calls) : w.MutualExclusion :=
  (exec_invariant (I := Coherent) (fun _ _ _ => coherent_step) hrun halone
    (coherent_init path)).mutualExclusion

/-- Two processes after one another, the second waiting for the first to be killed. -/
theorem instanceLock_excludes_waiter :
    ∃ w : LockDir Nat, exec LockDir.step (init (some 0))
        [.create 0 true, .flock 0, .create 1 true, .die 0, .flock 1] = some w ∧
      (w.phase 1).inside = true ∧ w.MutualExclusion := by
  refine ⟨_, rfl, rfl, ?_⟩
  refine instanceLock_excludes (some 0)
    [.create 0 true, .flock 0, .create 1 true, .die 0, .flock 1] _ rfl ?_
  exact ⟨nofun, trivial, nofun, trivial, trivial, trivial⟩

/-- A process waits for the lock of a file that is unlinked and gets it, and so does one that comes
later and creates a new file. -/
theorem instanceLock_held_twice :
    ∃ w : LockDir Nat, exec LockDir.step (init none)
        [.create 0 true, .flock 0, .create 1 true, .drop 0 true, .close 0, .flock 1,
          .create 2 true, .flock 2] = some w ∧
      w.phase 1 = .held 0 ∧ w.phase 2 = .held 1 ∧ ¬ w.MutualExclusion := by
  refine ⟨_, rfl, rfl, rfl, fun hexcludes => ?_⟩
  exact absurd (hexcludes 1 2 rfl rfl) (by decide)

end GreaterWill
