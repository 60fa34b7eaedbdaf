import GreaterWill.Lib.Run
import Mathlib.Logic.Function.Basic

/-!
# Foreground runs and the daemon in one repository

`run_single` and `run_multi_group` of `commands/run.rs`, with the probe of `check_daemon_repo_lock`,
any number of them beside a daemon that serves the same directory. There are two lock files: the
repo lock of the daemon, which a foreground run takes and lets go of once, and the instance lock,
which the daemon does not look at. Both are proper locks here: nobody unlinks their files.

The daemon has one run of the repo at a time, from `acquire_repo_lock` to the end of its session.
-/

namespace GreaterWill

/-- The ways of a foreground run. -/
inductive RunMode where
  | singleSession
  /-- Multi-group with one plan, `run_real`. -/
  | multiGroup
  | batch
  | batchResume
  deriving DecidableEq

/-- `run_real` takes no instance lock. -/
def RunMode.takesLock : RunMode → Bool
  | singleSession | batch | batchResume => true
  | multiGroup => false

/-- `acquire_run_lock` waits, `BatchRunner` does not. -/
def RunMode.waits : RunMode → Bool
  | singleSession => true
  | multiGroup | batch | batchResume => false

inductive ForegroundPhase where
  | idle
  | started (mode : RunMode)
  /-- `check_daemon_repo_lock` holds the repo lock. -/
  | probing (mode : RunMode)
  | passed (mode : RunMode)
  /-- The instance lock is held. -/
  | locked (mode : RunMode)
  /-- A session is up. -/
  | executing (mode : RunMode)
  deriving DecidableEq

namespace ForegroundPhase

/-- The daemon's lock was free. -/
def pastProbe : ForegroundPhase → Bool
  | passed _ | locked _ | executing _ => true
  | idle | started _ | probing _ => false

def isExecuting : ForegroundPhase → Bool
  | executing _ => true
  | _ => false

/-- The instance lock is held. -/
def holdsLock : ForegroundPhase → Bool
  | locked mode | executing mode => mode.takesLock
  | _ => false

theorem pastProbe_of_isExecuting {ph : ForegroundPhase} (h : ph.isExecuting = true) :
    ph.pastProbe = true := by
  cases ph with
  | executing => rfl
  | _ => cases h

end ForegroundPhase

inductive DaemonPhase where
  | idle
  /-- The repo lock is held. -/
  | locked
  | executing
  deriving DecidableEq

/-- Who holds the flock of the repo lock. -/
inductive RepoLockHolder (Pid : Type*) where
  | daemon
  | probe (p : Pid)

/-- One repository. -/
structure RepoWorld (Pid : Type*) where
  /-- The file of the repo lock exists. -/
  lockFile : Bool
  repoFlock : Option (RepoLockHolder Pid)
  instanceFlock : Option Pid
  daemonRun : DaemonPhase
  phase : Pid → ForegroundPhase

inductive RepoCall (Pid : Type*) where
  | start (p : Pid) (mode : RunMode)
  /-- `check_daemon_repo_lock` up to the `try_lock_exclusive`; `opens` if the file can be opened. -/
  | probe (p : Pid) (opens : Bool)
  /-- Its `unlock`. -/
  | unprobe (p : Pid)
  | acquire (p : Pid)
  | spawn (p : Pid)
  | sessionEnds (p : Pid)
  | exit (p : Pid)
  /-- `acquire_repo_lock` of a submission or a drain. -/
  | daemonAcquire
  | daemonSpawn
  /-- The run of the daemon ends, or does not come up. -/
  | daemonEnds

namespace RepoWorld

variable {Pid : Type*} [DecidableEq Pid] (w : RepoWorld Pid)

/-- Nobody is at work in the repository. -/
def init (lockFile : Bool) : RepoWorld Pid where
  lockFile := lockFile
  repoFlock := none
  instanceFlock := none
  daemonRun := .idle
  phase _ := .idle

def set (p : Pid) (phase : ForegroundPhase) : RepoWorld Pid :=
  { w with phase := Function.update w.phase p phase }

def step : RepoCall Pid → Option (RepoWorld Pid)
  | .start p mode => if w.phase p = .idle then some (w.set p (.started mode)) else none
  | .probe p opens =>
    match w.phase p with
    | .started mode =>
      -- a file that is missing or cannot be opened passes
      if !(w.lockFile && opens) then some (w.set p (.passed mode))
      else if w.repoFlock.isNone then
        some { w.set p (.probing mode) with repoFlock := some (.probe p) }
      else some (w.set p .idle)
    | _ => none
  | .unprobe p =>
    match w.phase p with
    | .probing mode => some { w.set p (.passed mode) with repoFlock := none }
    | _ => none
  | .acquire p =>
    match w.phase p with
    | .passed mode =>
      if !mode.takesLock then none
      else if w.instanceFlock.isNone then
        some { w.set p (.locked mode) with instanceFlock := some p }
      else if mode.waits then none
      else some (w.set p .idle)
    | _ => none
  | .spawn p =>
    match w.phase p with
    | .passed mode => if mode.takesLock then none else some (w.set p (.executing mode))
    | .locked mode => some (w.set p (.executing mode))
    | _ => none
  | .sessionEnds p =>
    match w.phase p with
    | .executing mode => some (w.set p (if mode.takesLock then .locked mode else .passed mode))
    | _ => none
  | .exit p =>
    match w.phase p with
    | .started _ | .passed _ => some (w.set p .idle)
    | .locked _ => some { w.set p .idle with instanceFlock := none }
    | _ => none
  | .daemonAcquire =>
    if w.daemonRun = .idle then
      if w.repoFlock.isNone then
        some { w with lockFile := true, repoFlock := some .daemon, daemonRun := .locked }
      else some { w with lockFile := true }
    else some w
  | .daemonSpawn =>
    if w.daemonRun = .locked then some { w with daemonRun := .executing } else none
  | .daemonEnds =>
    if w.daemonRun = .idle then none
    else some { w with repoFlock := none, daemonRun := .idle }

/-- At most one run is executing. -/
structure Exclusive : Prop where
  foreground : ∀ p q, (w.phase p).isExecuting = true → (w.phase q).isExecuting = true → p = q
  daemon : w.daemonRun = .executing → ∀ p, (w.phase p).isExecuting = false

/-- The call goes through no hole: the daemon takes the repo lock while no foreground run is past
its probe, the probe can open the lock file if the daemon is at work, and of two foreground runs that
execute at once neither is `run_real`. -/
def Guarded : RepoCall Pid → Prop
  | .daemonAcquire => ∀ p, (w.phase p).pastProbe = false
  | .probe _ opens => w.daemonRun ≠ .idle → opens = true
  | .spawn p => ∀ q, q ≠ p → (w.phase q).isExecuting = true →
    (w.phase p).holdsLock = true ∧ (w.phase q).holdsLock = true
  | _ => True

/-- What the locks are worth: the holder of the repo lock is the probe or the daemon, while the
daemon is at work no foreground run is past its probe, and the holder of the instance lock is the
one run that needs it. -/
structure Coherent : Prop where
  probing : ∀ p mode, w.phase p = .probing mode → w.repoFlock = some (.probe p)
  daemon : w.daemonRun ≠ .idle →
    w.repoFlock = some .daemon ∧ w.lockFile = true ∧ ∀ p, (w.phase p).pastProbe = false
  holds : ∀ p, (w.phase p).holdsLock = true → w.instanceFlock = some p
  takes : ∀ p mode, w.phase p = .locked mode → mode.takesLock = true
  alone : ∀ p q, (w.phase p).isExecuting = true → (w.phase q).isExecuting = true → p = q

variable {w} {w' : RepoWorld Pid} {p q : Pid} {mode : RunMode} {call : RepoCall Pid}

omit [DecidableEq Pid] in
theorem coherent_init (lockFile : Bool) : (init lockFile : RepoWorld Pid).Coherent where
  probing _ _ h := nomatch h
  daemon h := absurd rfl h
  holds _ h := nomatch h
  takes _ _ h := nomatch h
  alone _ _ h := nomatch h

namespace Coherent

/-- One foreground run moves on. -/
theorem set (h : w.Coherent) {ph : ForegroundPhase}
    (hprobing : ∀ mode, ph = .probing mode → w.repoFlock = some (.probe p))
    (hpast : ph.pastProbe = true → w.daemonRun = .idle)
    (hholds : ph.holdsLock = true → w.instanceFlock = some p)
    (htakes : ∀ mode, ph = .locked mode → mode.takesLock = true)
    (halone : ph.isExecuting = true → ∀ q, q ≠ p → ¬ (w.phase q).isExecuting = true) :
    (w.set p ph).Coherent := by
  have hphase : ∀ q, (w.set p ph).phase q = if q = p then ph else w.phase q :=
    fun q => Function.update_apply ..
  constructor
  · intro q mode hq
    rw [hphase] at hq
    split at hq
    · next heq => exact heq ▸ hprobing mode hq
    · exact h.probing q mode hq
  · intro hbusy
    obtain ⟨hflock, hfile, hbefore⟩ := h.daemon hbusy
    refine ⟨hflock, hfile, fun q => ?_⟩
    rw [hphase]
    split
    · exact Bool.eq_false_iff.mpr fun hpast' => hbusy (hpast hpast')
    · exact hbefore q
  · intro q hq
    rw [hphase] at hq
    split at hq
    · next heq => exact heq ▸ hholds hq
    · exact h.holds q hq
  · intro q mode hq
    rw [hphase] at hq
    split at hq
    · exact htakes mode hq
    · exact h.takes q mode hq
  · intro q q' hq hq'
    rw [hphase] at hq hq'
    split at hq <;> split at hq'
    · next heq heq' => exact heq.trans heq'.symm
    · next hne => exact absurd hq' (halone hq q' hne)
    · next hne _ => exact absurd hq (halone hq' q hne)
    · exact h.alone q q' hq hq'

/-- A foreground run stops, or starts over. -/
theorem resting (h : w.Coherent) {ph : ForegroundPhase} (hprobing : ∀ mode, ph ≠ .probing mode)
    (hpast : ph.pastProbe = false) : (w.set p ph).Coherent := by
  refine h.set (fun mode hno => absurd hno (hprobing mode)) (fun hno => ?_) (fun hno => ?_)
    (fun mode hno => ?_) fun hno => ?_
  · rw [hpast] at hno
    cases hno
  · cases ph with
    | locked | executing => cases hpast
    | _ => cases hno
  · rw [hno] at hpast
    cases hpast
  · rw [ForegroundPhase.pastProbe_of_isExecuting hno] at hpast
    cases hpast

omit [DecidableEq Pid] in
/-- The repo lock is nobody's. -/
theorem relock (h : w.Coherent) (hnone : ∀ q mode, w.phase q ≠ .probing mode)
    (hidle : w.daemonRun = .idle) (holder : Option (RepoLockHolder Pid)) :
    ({ w with repoFlock := holder } : RepoWorld Pid).Coherent :=
  ⟨fun q mode hq => absurd hq (hnone q mode), fun hbusy => absurd hidle hbusy, h.holds, h.takes,
    h.alone⟩

omit [DecidableEq Pid] in
/-- While a run probes or is past its probe, the daemon is not at work. -/
theorem idle_of_probing (h : w.Coherent) (hp : w.phase p = .probing mode) :
    w.daemonRun = .idle := by
  refine Classical.byContradiction fun hbusy => ?_
  have hflock := h.probing p mode hp
  rw [(h.daemon hbusy).1] at hflock
  cases hflock

omit [DecidableEq Pid] in
theorem idle_of_pastProbe (h : w.Coherent) (hp : (w.phase p).pastProbe = true) :
    w.daemonRun = .idle := by
  refine Classical.byContradiction fun hbusy => ?_
  rw [(h.daemon hbusy).2.2 p] at hp
  cases hp

omit [DecidableEq Pid] in
/-- The instance lock is nobody's. -/
theorem reinstance (h : w.Coherent) (hnone : ∀ q, ¬ (w.phase q).holdsLock = true)
    (holder : Option Pid) : ({ w with instanceFlock := holder } : RepoWorld Pid).Coherent :=
  ⟨h.probing, h.daemon, fun q hq => absurd hq (hnone q), h.takes, h.alone⟩

end Coherent

theorem coherent_probe {opens : Bool} (hs : w.step (.probe p opens) = some w')
    (hguarded : w.Guarded (.probe p opens)) (h : w.Coherent) : w'.Coherent := by
  simp only [step] at hs
  split at hs
  · next mode hp =>
    split at hs
    · next hpasses =>
      cases hs
      -- the daemon at work has made the file, and the guard has opened it
      refine h.set nofun (fun _ => ?_) nofun nofun nofun
      refine Classical.byContradiction fun hbusy => ?_
      rw [(h.daemon hbusy).2.1, hguarded hbusy] at hpasses
      cases hpasses
    · split at hs
      · next hfree =>
        cases hs
        rw [Option.isNone_iff_eq_none] at hfree
        have hnone : ∀ q mode, w.phase q ≠ .probing mode := by
          intro q mode hq
          have hflock := h.probing q mode hq
          rw [hfree] at hflock
          cases hflock
        have hidle : w.daemonRun = .idle := by
          refine Classical.byContradiction fun hbusy => ?_
          rw [(h.daemon hbusy).1] at hfree
          cases hfree
        exact (h.relock hnone hidle (some (.probe p))).set (fun _ _ => rfl) nofun nofun nofun nofun
      · cases hs
        exact h.resting nofun rfl
  · cases hs

theorem coherent_acquire (hs : w.step (.acquire p) = some w') (h : w.Coherent) : w'.Coherent := by
  simp only [step] at hs
  split at hs
  · next mode hp =>
    have hidle : w.daemonRun = .idle := h.idle_of_pastProbe (p := p) (by rw [hp]; rfl)
    split at hs
    · cases hs
    · next htakes =>
      rw [Bool.not_eq_true', Bool.not_eq_false] at htakes
      split at hs
      · next hfree =>
        cases hs
        have hnone : ∀ q, ¬ (w.phase q).holdsLock = true := by
          intro q hq
          rw [h.holds q hq] at hfree
          cases hfree
        refine (h.reinstance hnone (some p)).set nofun (fun _ => hidle) (fun _ => rfl) ?_ nofun
        intro mode' heq
        cases heq
        exact htakes
      · split at hs
        · cases hs
        · cases hs
          exact h.resting nofun rfl
  · cases hs

/-- A session comes up where no other one is, or beside none that holds the instance lock. -/
theorem coherent_spawn (hs : w.step (.spawn p) = some w') (hguarded : w.Guarded (.spawn p))
    (h : w.Coherent) : w'.Coherent := by
  have halone : ∀ q, q ≠ p → ¬ (w.phase q).isExecuting = true := by
    intro q hqp hq
    obtain ⟨hholds, hholds'⟩ := hguarded q hqp hq
    have hsame : some q = some p := (h.holds q hholds').symm.trans (h.holds p hholds)
    exact hqp (Option.some.inj hsame)
  simp only [step] at hs
  split at hs
  · next mode hp =>
    split at hs
    · cases hs
    · next htakes =>
      cases hs
      exact h.set nofun (fun _ => h.idle_of_pastProbe (p := p) (by rw [hp]; rfl))
        (fun hno => absurd hno htakes) nofun fun _ => halone
  · next mode hp =>
    cases hs
    exact h.set nofun (fun _ => h.idle_of_pastProbe (p := p) (by rw [hp]; rfl))
      (fun hholds => h.holds p (by rw [hp]; exact hholds)) nofun fun _ => halone
  · cases hs

theorem coherent_exit (hs : w.step (.exit p) = some w') (h : w.Coherent) : w'.Coherent := by
  simp only [step] at hs
  split at hs
  · cases hs
    exact h.resting nofun rfl
  · cases hs
    exact h.resting nofun rfl
  · next mode hp =>
    cases hs
    have hp' : (w.phase p).holdsLock = true := by
      rw [hp]
      exact h.takes p mode hp
    have hidle : (w.set p .idle).Coherent := h.resting nofun rfl
    refine hidle.reinstance (fun q hq => ?_) none
    have hphase : (w.set p .idle).phase q = if q = p then .idle else w.phase q :=
      Function.update_apply ..
    rw [hphase] at hq
    split at hq
    · cases hq
    · next hne =>
      have hsame : some q = some p := (h.holds q hq).symm.trans (h.holds p hp')
      exact hne (Option.some.inj hsame)
  · cases hs

theorem coherent_step (hs : w.step call = some w') (hguarded : w.Guarded call)
    (h : w.Coherent) : w'.Coherent := by
  cases call with
  | start p mode =>
    simp only [step] at hs
    split at hs
    · cases hs
      exact h.resting nofun rfl
    · cases hs
  | probe p opens => exact coherent_probe hs hguarded h
  | unprobe p =>
    simp only [step] at hs
    split at hs
    · next mode hp =>
      cases hs
      have hidle := h.idle_of_probing hp
      have hset : (w.set p (.passed mode)).Coherent :=
        h.set nofun (fun _ => hidle) nofun nofun nofun
      refine hset.relock (fun q mode' hq => ?_) hidle none
      have hphase : (w.set p (.passed mode)).phase q = if q = p then .passed mode else w.phase q :=
        Function.update_apply ..
      rw [hphase] at hq
      split at hq
      · cases hq
      · next hne =>
        have hsame := (h.probing q mode' hq).symm.trans (h.probing p mode hp)
        cases hsame
        exact hne rfl
    · cases hs
  | acquire p => exact coherent_acquire hs h
  | spawn p => exact coherent_spawn hs hguarded h
  | sessionEnds p =>
    simp only [step] at hs
    split at hs
    · next mode hp =>
      cases hs
      have hidle : w.daemonRun = .idle := h.idle_of_pastProbe (p := p) (by rw [hp]; rfl)
      split
      · next htakes =>
        refine h.set nofun (fun _ => hidle) (fun hholds => h.holds p (by rw [hp]; exact hholds)) ?_
          nofun
        intro mode' heq
        cases heq
        exact htakes
      · exact h.set nofun (fun _ => hidle) nofun nofun nofun
    · cases hs
  | exit p => exact coherent_exit hs h
  | daemonAcquire =>
    simp only [step] at hs
    split at hs
    · next hidle =>
      split at hs
      · next hfree =>
        cases hs
        refine ⟨fun q mode hq => ?_, fun _ => ⟨rfl, rfl, hguarded⟩, h.holds, h.takes, h.alone⟩
        have hflock := h.probing q mode hq
        rw [Option.isNone_iff_eq_none] at hfree
        rw [hfree] at hflock
        cases hflock
      · cases hs
        exact ⟨h.probing, fun hbusy => absurd hidle hbusy, h.holds, h.takes, h.alone⟩
    · cases hs
      exact h
  | daemonSpawn =>
    simp only [step] at hs
    split at hs
    · next hlocked =>
      cases hs
      have hbusy : w.daemonRun ≠ .idle := by
        rw [hlocked]
        exact nofun
      exact ⟨h.probing, fun _ => h.daemon hbusy, h.holds, h.takes, h.alone⟩
    · cases hs
  | daemonEnds =>
    simp only [step] at hs
    split at hs
    · cases hs
    · next hbusy =>
      cases hs
      refine ⟨fun q mode hq => ?_, fun hno => absurd rfl hno, h.holds, h.takes, h.alone⟩
      exact absurd (h.idle_of_probing hq) hbusy

end RepoWorld

open RepoWorld

end GreaterWill
