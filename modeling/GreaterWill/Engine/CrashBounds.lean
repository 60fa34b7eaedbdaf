import GreaterWill.Engine.CrashLoop
import GreaterWill.Lib.Run
import Mathlib.Data.List.TakeWhile

/-!
# Crash-loop bounds

What the detector is for is said by a ledger of its events: the crashes since the last stability
reset, the phases of the crashes since the buckets were cleared, and the restarts allowed since
either. The ledger forgets nothing on account of the window. The detector agrees with it along every
run with a non-decreasing clock (`Matches`), so its answers are the ones the ledger gives, and the
bounds on the allowed restarts are bounds on what stands in the ledger.
-/

namespace GreaterWill

/-! ## One call -/

namespace CrashLoopDetector

variable (d : CrashLoopDetector) {phase : Option String} {now : Int}

/-- The crash times with a crash at `now`, after pruning. -/
def prunedWith (now : Int) : List Int :=
  (d.crashTimes ++ [now]).dropWhile (· < (checkedSub now d.window).getD now)

/-- The detector that decides about a crash: the crash is counted, nothing is pruned yet. -/
def counted (phase : Option String) (now : Int) : CrashLoopDetector :=
  { d with
    totalRestarts := d.totalRestarts + 1
    crashTimes := d.crashTimes ++ [now]
    healthySince := none
    perPhaseCrashes := (d.charge phase).1.perPhaseCrashes
    lastCrashPhase := phase <|> d.lastCrashPhase }

theorem charge_of_counted :
    ({ d with
        totalRestarts := d.totalRestarts + 1
        crashTimes := d.crashTimes ++ [now]
        healthySince := none } : CrashLoopDetector).charge phase =
      (d.counted phase now, (d.charge phase).2) := by
  cases phase with
  | none => rfl
  | some key =>
    simp only [counted, charge, attributePhase]
    split <;> rfl

variable (phase now) in
/-- The two ways a crash ends: stopped before the crash times are looked at, or decided by those
left in the window. -/
theorem recordRestartForPhase_cases :
    (d.recordRestartForPhase phase now = (d.counted phase now, .stopCrashLoop) ∧
      (d.maxTotalRestarts ≤ d.totalRestarts + 1 ∨
        (phase.isSome ∧ 0 < d.maxPerPhase ∧ d.maxPerPhase < (d.charge phase).2))) ∨
    (d.recordRestartForPhase phase now =
        ({ d.counted phase now with crashTimes := d.prunedWith now },
          if d.maxCrashes ≤ (d.prunedWith now).length then .stopCrashLoop else .allowRestart) ∧
      d.totalRestarts + 1 < d.maxTotalRestarts ∧
      ¬ (phase.isSome ∧ 0 < d.maxPerPhase ∧ d.maxPerPhase < (d.charge phase).2)) := by
  rw [recordRestartForPhase, charge_of_counted]
  dsimp only
  split
  · next htotal => exact .inl ⟨rfl, .inl htotal⟩
  · next htotal =>
    split
    · next hphase => exact .inl ⟨rfl, .inr hphase⟩
    · next hphase =>
      refine .inr ⟨?_, Nat.lt_of_not_le htotal, hphase⟩
      by_cases hfull : d.maxCrashes ≤ (d.prunedWith now).length
      · rw [if_pos hfull]
        exact if_pos hfull
      · rw [if_neg hfull]
        exact if_neg hfull

variable (phase now) in
theorem recordRestartForPhase_fst : ∃ kept,
    (d.recordRestartForPhase phase now).1 = { d.counted phase now with crashTimes := kept } := by
  rcases d.recordRestartForPhase_cases phase now with ⟨heq, -⟩ | ⟨heq, -⟩
  · exact ⟨d.crashTimes ++ [now], by rw [heq]; rfl⟩
  · exact ⟨d.prunedWith now, by rw [heq]⟩

/-- A crash is answered `AllowRestart` exactly if no limit is reached. -/
theorem recordRestartForPhase_snd :
    (d.recordRestartForPhase phase now).2 = .allowRestart ↔
      d.totalRestarts + 1 < d.maxTotalRestarts ∧
      ¬ (phase.isSome ∧ 0 < d.maxPerPhase ∧ d.maxPerPhase < (d.charge phase).2) ∧
      (d.prunedWith now).length < d.maxCrashes := by
  rcases d.recordRestartForPhase_cases phase now with
    ⟨heq, hlimit⟩ | ⟨heq, htotal, hphase⟩
  · rw [heq]
    constructor
    · intro h
      cases h
    · rintro ⟨htotal, hphase, -⟩
      rcases hlimit with h | h
      · omega
      · exact absurd h hphase
  · rw [heq]
    by_cases hfull : d.maxCrashes ≤ (d.prunedWith now).length
    · simp [hfull, Nat.not_lt.mpr hfull]
    · simp [hfull, htotal, hphase, Nat.lt_of_not_le hfull]

/-- Without a reset a healthy tick only starts the streak, if there is none. -/
theorem recordHealthyTick_eq : d.recordHealthyTick now =
    if d.healthySince.any (d.stabilityPeriod ≤ durationSince now ·) then d.reset now
    else { d with healthySince := d.healthySince <|> some now } := by
  rw [recordHealthyTick]
  cases hsince : d.healthySince with
  | none => rfl
  | some since =>
    simp only [Option.any_some, decide_eq_true_eq, Option.orElse_eq_orElse, Option.orElse_eq_or,
      Option.some_or]
    split
    · rfl
    · rw [← hsince]

theorem recordHealthyRuntime_eq (durationSecs : Nat) : d.recordHealthyRuntime durationSecs now =
    if durationSecs = 0 then d
    else if asSecs d.stabilityPeriod ≤ durationSecs then d.reset now
    else { d with healthySince := d.healthySince <|> some now } := by
  rw [recordHealthyRuntime]
  cases hsince : d.healthySince with
  | none => rfl
  | some since =>
    simp only [Option.isNone_some, Bool.false_eq_true, if_false, Option.orElse_eq_orElse,
      Option.orElse_eq_or, Option.some_or]
    rw [← hsince]

/-- What a detector is configured with. -/
def limits : Nat × Nat × Nat × Nat × Nat :=
  (d.maxCrashes, d.window, d.stabilityPeriod, d.maxTotalRestarts, d.maxPerPhase)

theorem limits_step (e : CrashEvent) : (d.step e).1.limits = d.limits := by
  cases e with
  | crash phase now =>
    obtain ⟨kept, heq⟩ := d.recordRestartForPhase_fst phase now
    simp only [step]
    rw [heq]
    rfl
  | phaseTransition => rfl
  | healthyTick now =>
    simp only [step, recordHealthyTick_eq]
    split <;> rfl
  | healthyRuntime durationSecs now =>
    simp only [step, recordHealthyRuntime_eq]
    split
    · rfl
    · split <;> rfl

section
variable {d : CrashLoopDetector} {cfg : WatchdogConfig}

theorem maxCrashes_of_limits (h : d.limits = (fromWatchdog cfg).limits) :
    d.maxCrashes = cfg.maxCrashRetries := congrArg (·.1) h

theorem window_of_limits (h : d.limits = (fromWatchdog cfg).limits) :
    d.window = fromSecs cfg.crashWindowSecs := congrArg (·.2.1) h

theorem stabilityPeriod_of_limits (h : d.limits = (fromWatchdog cfg).limits) :
    d.stabilityPeriod = fromSecs cfg.crashStabilitySecs := by
  have hfloor : ¬ (0 < cfg.crashStabilitySecs ∧ cfg.crashStabilitySecs < 60) := by
    have := cfg.le_crashStabilitySecs
    omega
  have heq : d.stabilityPeriod = (fromWatchdog cfg).stabilityPeriod := congrArg (·.2.2.1) h
  rw [heq]
  simp only [fromWatchdog, withTotalLimit, if_neg hfloor]

theorem maxTotalRestarts_of_limits (h : d.limits = (fromWatchdog cfg).limits) :
    d.maxTotalRestarts = max cfg.maxTotalCrashRetries cfg.maxCrashRetries :=
  congrArg (·.2.2.2.1) h

theorem maxPerPhase_of_limits (h : d.limits = (fromWatchdog cfg).limits) :
    d.maxPerPhase = DEFAULT_MAX_CRASHES_PER_PHASE := congrArg (·.2.2.2.2) h

theorem window_le_of_limits (h : d.limits = (fromWatchdog cfg).limits) :
    d.window ≤ fromSecs 7200 := by
  have := cfg.crashWindowSecs_le
  rw [window_of_limits h]
  simp only [fromSecs]
  omega

end

end CrashLoopDetector

/-! ## The ledger -/

/-- What an observer of the detector writes down. -/
structure Ledger where
  /-- Times of the crashes since the last stability reset, oldest first. -/
  crashes : List Int := []
  /-- Phases of the crashes since the buckets were cleared. -/
  phases : List String := []
  /-- The phase of the last crash that came with one. -/
  lastPhase : Option String := none
  /-- When the current healthy streak started. -/
  healthySince : Option Int := none
  /-- Restarts allowed since the last stability reset. -/
  allowed : Nat := 0
  /-- Phases of the restarts allowed since the buckets were cleared. -/
  allowedFor : List String := []

namespace Ledger

variable (l : Ledger)

/-- The buckets are cleared. -/
def cleared : Ledger := { l with phases := [], allowedFor := [] }

/-- A healthy streak, or a healthy session, was long enough. -/
def reset (now : Int) : Ledger :=
  { l.cleared with crashes := [], allowed := 0, healthySince := some now }

/-- A crash in `phase` is one in another phase than the last. -/
def moved (phase : Option String) : Bool := phase.any fun key => l.lastPhase.any (· ≠ key)

/-- A crash, which clears the buckets if it is in another phase than the last one. -/
def crashed (phase : Option String) (now : Int) : Ledger :=
  let l := if l.moved phase then l.cleared else l
  { l with
    crashes := l.crashes ++ [now]
    phases := l.phases ++ phase.toList
    lastPhase := phase <|> l.lastPhase
    healthySince := none }

/-- A restart was allowed. -/
def restarted (phase : Option String) : Ledger :=
  { l with allowed := l.allowed + 1, allowedFor := l.allowedFor ++ phase.toList }

/-- Write down a call and its answer; `stability` is how long a streak lasts that is a reset. -/
def note (stability : Nat) (e : CrashEvent) (answer : Option CrashLoopDecision) : Ledger :=
  match e with
  | .crash phase now =>
    if answer = some .allowRestart then (l.crashed phase now).restarted phase
    else l.crashed phase now
  | .phaseTransition => l.cleared
  | .healthyTick now =>
    if l.healthySince.any (stability ≤ durationSince now ·) then l.reset now
    else { l with healthySince := l.healthySince <|> some (now : Int) }
  | .healthyRuntime durationSecs now =>
    if durationSecs = 0 then l
    else if asSecs stability ≤ durationSecs then l.reset now
    else { l with healthySince := l.healthySince <|> some (now : Int) }

/-- The crashes of age at most `window` at `now`. -/
def recent (window : Nat) (now : Int) : List Int :=
  l.crashes.filter fun t => now - t ≤ window

end Ledger

/-- A detector, its ledger and the last reading of the clock. -/
structure Observation where
  detector : CrashLoopDetector
  ledger : Ledger := {}
  clock : Nat := 0

/-- Take a call and write it down. The clock does not go back. -/
def Observation.step (s : Observation) (e : CrashEvent) : Option Observation :=
  if e.time.all (s.clock ≤ ·) then
    let (d, answer) := s.detector.step e
    some
      { detector := d
        ledger := s.ledger.note s.detector.stabilityPeriod e answer
        clock := e.time.getD s.clock }
  else
    none

def Observation.init (cfg : WatchdogConfig) : Observation :=
  { detector := .fromWatchdog cfg }

/-! ## The detector agrees with the ledger -/

namespace Ledger

variable (l : Ledger) (phase : Option String) (now : Int)

@[simp] theorem crashed_crashes : (l.crashed phase now).crashes = l.crashes ++ [now] := by
  rw [crashed]
  split <;> rfl

@[simp] theorem crashed_lastPhase : (l.crashed phase now).lastPhase = (phase <|> l.lastPhase) := by
  rw [crashed]
  split <;> rfl

@[simp] theorem crashed_healthySince : (l.crashed phase now).healthySince = none := rfl

@[simp] theorem crashed_allowed : (l.crashed phase now).allowed = l.allowed := by
  rw [crashed]
  split <;> rfl

theorem crashed_phases : (l.crashed phase now).phases =
    (if l.moved phase then [] else l.phases) ++ phase.toList := by
  rw [crashed]
  split <;> rfl

theorem crashed_allowedFor : (l.crashed phase now).allowedFor =
    if l.moved phase then [] else l.allowedFor := by
  rw [crashed]
  split <;> rfl

end Ledger

namespace CrashLoopDetector

variable {d : CrashLoopDetector} {l : Ledger} {phase : Option String} {now : Nat}

/-- The buckets count the phases of the ledger. -/
def BucketsCount (d : CrashLoopDetector) (l : Ledger) : Prop :=
  d.lastCrashPhase = l.lastPhase ∧ ∀ p, d.crashesForPhase p = l.phases.count p

theorem crashesForPhase_attributePhase (key q : String) :
    (d.attributePhase key).1.crashesForPhase q =
      (if d.lastCrashPhase.any (· ≠ key) then 0 else d.crashesForPhase q) +
        if q = key then 1 else 0 := by
  simp only [attributePhase, crashesForPhase, recordPhaseTransition, AList.lookup_insert_eq_ite]
  split
  · next h =>
    subst h
    split <;> simp
  · split <;> simp

theorem attributePhase_snd (key : String) :
    (d.attributePhase key).2 = (d.attributePhase key).1.crashesForPhase key := by
  simp [attributePhase, crashesForPhase]

theorem BucketsCount.counted (h : BucketsCount d l) (phase : Option String) (now : Nat) :
    BucketsCount (d.counted phase now) (l.crashed phase now) := by
  obtain ⟨hlast, hcount⟩ := h
  refine ⟨by rw [Ledger.crashed_lastPhase, ← hlast]; rfl, ?_⟩
  intro q
  rw [Ledger.crashed_phases]
  cases phase with
  | none => exact (hcount q).trans (by simp [Ledger.moved])
  | some key =>
    have hmoved : l.moved (some key) = d.lastCrashPhase.any (· ≠ key) := by rw [hlast]; rfl
    have hbucket := crashesForPhase_attributePhase (d := d) key q
    rw [List.count_append, hmoved]
    refine hbucket.trans (congr (congrArg _ ?_) ?_)
    · split
      · rfl
      · exact hcount q
    · split
      · next hq => simp [hq]
      · next hq => simp [Ne.symm hq]

/-- The crashes of the phase that `max_per_phase` is compared with. -/
theorem BucketsCount.charge_snd (h : BucketsCount d l) (key : String) (now : Nat) :
    (d.charge (some key)).2 = (l.crashed (some key) now).phases.count key := by
  rw [← (h.counted (some key) now).2 key]
  exact attributePhase_snd key

/-- What the ledger has and the detector has not left the window. -/
structure TimesMatch (d : CrashLoopDetector) (l : Ledger) (clock : Nat) : Prop where
  split : ∃ gone, l.crashes = gone ++ d.crashTimes ∧ ∀ t ∈ gone, d.window < clock - t
  sorted : l.crashes.Pairwise (· ≤ ·)
  past : ∀ t ∈ l.crashes, t ≤ clock

/-- Of a list in order, what is left after the elements below `c` were dropped is not below `c`. -/
theorem le_of_mem_dropWhile {c : Int} {ts : List Int} (hts : ts.Pairwise (· ≤ ·)) :
    ∀ t ∈ ts.dropWhile (· < c), c ≤ t := by
  induction ts with
  | nil => simp
  | cons a ts ih =>
    obtain ⟨ha, hrest⟩ := List.pairwise_cons.mp hts
    rcases Int.lt_or_le a c with hac | hac
    · rw [List.dropWhile_cons_of_pos (by simpa using hac)]
      exact ih hrest
    · rw [List.dropWhile_cons_of_neg (by simpa using hac)]
      intro t ht
      rcases List.mem_cons.mp ht with rfl | ht
      · exact hac
      · exact Int.le_trans hac (ha t ht)

/-- A window of at most two hours does not reach back before the least instant. -/
theorem checkedSub_window (hwindow : d.window ≤ fromSecs 7200) :
    (checkedSub now d.window).getD now = now - d.window := by
  have hmin : INSTANT_MIN ≤ (now : Int) - d.window := by
    simp only [INSTANT_MIN]
    simp only [fromSecs] at hwindow
    omega
  rw [checkedSub, if_pos hmin, Option.getD_some]

/-- Pruning takes only crashes that left the window. -/
theorem prunedWith_split (now : Nat) (hwindow : d.window ≤ fromSecs 7200) :
    ∃ gone, d.crashTimes ++ [(now : Int)] = gone ++ d.prunedWith now ∧
      ∀ t ∈ gone, d.window < now - t := by
  refine ⟨_, (List.takeWhile_append_dropWhile).symm, ?_⟩
  intro t ht
  have hlt := List.mem_takeWhile_imp ht
  rw [checkedSub_window hwindow, decide_eq_true_eq] at hlt
  omega

theorem TimesMatch.mono (h : TimesMatch d l now) {now' : Nat} (hle : now ≤ now') :
    TimesMatch d l now' := by
  obtain ⟨⟨gone, hsplit, hgone⟩, hsorted, hpast⟩ := h
  refine ⟨⟨gone, hsplit, ?_⟩, hsorted, ?_⟩
  · intro t ht
    have := hgone t ht
    omega
  · intro t ht
    have := hpast t ht
    omega

/-- The ledger stays in order with a crash that is not before its last one. -/
theorem TimesMatch.sorted_concat (h : TimesMatch d l now) :
    (l.crashes ++ [(now : Int)]).Pairwise (· ≤ ·) := by
  rw [List.pairwise_append]
  refine ⟨h.sorted, List.pairwise_singleton _ _, ?_⟩
  intro t ht t' ht'
  rw [List.mem_singleton.mp ht']
  exact h.past t ht

/-- The crash times that are left after pruning are what is recent in the ledger. -/
theorem TimesMatch.recent_crashed (h : TimesMatch d l now) (hwindow : d.window ≤ fromSecs 7200) :
    (l.crashed phase now).recent d.window now = d.prunedWith now := by
  obtain ⟨gone, hsplit, hgone⟩ := h.split
  obtain ⟨gone', hsplit', hgone'⟩ := prunedWith_split now hwindow
  have hsorted : (d.crashTimes ++ [(now : Int)]).Pairwise (· ≤ ·) := by
    have hall := h.sorted_concat
    rw [hsplit, List.append_assoc] at hall
    exact hall.sublist (List.sublist_append_right _ _)
  have hcrashes : (l.crashed phase now).crashes = (gone ++ gone') ++ d.prunedWith now := by
    rw [Ledger.crashed_crashes, hsplit, List.append_assoc, hsplit', List.append_assoc]
  have hold : (gone ++ gone').filter (fun t : Int => now - t ≤ d.window) = [] := by
    rw [List.filter_eq_nil_iff]
    intro t ht
    have holder : d.window < now - t := (List.mem_append.mp ht).elim (hgone t) (hgone' t)
    rw [decide_eq_true_eq]
    exact Int.not_le.mpr holder
  have hkept : (d.prunedWith now).filter (fun t : Int => now - t ≤ d.window) = d.prunedWith now := by
    rw [List.filter_eq_self]
    intro t ht
    have hle := le_of_mem_dropWhile hsorted t ht
    rw [checkedSub_window hwindow] at hle
    rw [decide_eq_true_eq]
    omega
  rw [Ledger.recent, hcrashes, List.filter_append, hold, hkept, List.nil_append]

/-- A crash is written down in both, whether or not the old crashes are pruned. -/
theorem TimesMatch.crash (h : TimesMatch d l now) (hwindow : d.window ≤ fromSecs 7200)
    (phase : Option String) :
    TimesMatch (d.recordRestartForPhase phase now).1 (l.crashed phase now) now := by
  obtain ⟨gone, hsplit, hgone⟩ := h.split
  have hpast : ∀ t ∈ (l.crashed phase now).crashes, t ≤ now := by
    rw [Ledger.crashed_crashes]
    intro t ht
    rcases List.mem_append.mp ht with ht | ht
    · exact h.past t ht
    · exact Int.le_of_eq (List.mem_singleton.mp ht)
  have hsorted : (l.crashed phase now).crashes.Pairwise (· ≤ ·) := by
    rw [Ledger.crashed_crashes]
    exact h.sorted_concat
  rcases d.recordRestartForPhase_cases phase now with ⟨heq, -⟩ | ⟨heq, -⟩
  · rw [heq]
    refine ⟨⟨gone, ?_, hgone⟩, hsorted, hpast⟩
    rw [Ledger.crashed_crashes, hsplit, List.append_assoc]
    rfl
  · rw [heq]
    obtain ⟨gone', hsplit', hgone'⟩ := prunedWith_split now hwindow
    refine ⟨⟨gone ++ gone', ?_, ?_⟩, hsorted, hpast⟩
    · rw [Ledger.crashed_crashes, hsplit, List.append_assoc, hsplit', List.append_assoc]
    · intro t ht
      exact (List.mem_append.mp ht).elim (hgone t) (hgone' t)

/-- Nothing but the crash times and the window decides what left the window. -/
theorem TimesMatch.congr {d' : CrashLoopDetector} {l' : Ledger} (h : TimesMatch d l now)
    (htimes : d'.crashTimes = d.crashTimes) (hwindow : d'.window = d.window)
    (hcrashes : l'.crashes = l.crashes) : TimesMatch d' l' now := by
  obtain ⟨hsplit, hsorted, hpast⟩ := h
  constructor
  · rw [htimes, hwindow, hcrashes]
    exact hsplit
  · rw [hcrashes]
    exact hsorted
  · rw [hcrashes]
    exact hpast

theorem TimesMatch.nil (htimes : d.crashTimes = []) (hcrashes : l.crashes = []) :
    TimesMatch d l now := by
  constructor
  · exact ⟨[], by rw [htimes, hcrashes]; rfl, by simp⟩
  · rw [hcrashes]
    exact .nil
  · simp [hcrashes]

end CrashLoopDetector

/-- The detector agrees with its ledger, and the ledger is within the limits. -/
structure Observation.Matches (s : Observation) : Prop where
  window_le : s.detector.window ≤ fromSecs 7200
  total_pos : 0 < s.detector.maxTotalRestarts
  phase_pos : 0 < s.detector.maxPerPhase
  total : s.detector.totalRestarts = s.ledger.crashes.length
  buckets : s.detector.BucketsCount s.ledger
  healthySince : s.detector.healthySince = s.ledger.healthySince
  times : s.detector.TimesMatch s.ledger s.clock
  allowed_le : s.ledger.allowed ≤ s.ledger.crashes.length
  allowed_lt : s.ledger.allowed < s.detector.maxTotalRestarts
  allowedFor_le : ∀ p, s.ledger.allowedFor.count p ≤ s.ledger.phases.count p
  allowedFor_bound : ∀ p, s.ledger.allowedFor.count p ≤ s.detector.maxPerPhase

namespace Observation

variable {s s' : Observation} {e : CrashEvent} {phase : Option String} {now : Nat}

theorem Matches.init (cfg : WatchdogConfig) : (init cfg).Matches where
  window_le := CrashLoopDetector.window_le_of_limits rfl
  total_pos := Nat.lt_of_lt_of_le cfg.one_le_maxCrashRetries (Nat.le_max_right _ _)
  phase_pos := Nat.succ_pos 2
  total := rfl
  buckets := ⟨rfl, fun _ => rfl⟩
  healthySince := rfl
  times := .nil rfl rfl
  allowed_le := Nat.le_refl 0
  allowed_lt := Nat.lt_of_lt_of_le cfg.one_le_maxCrashRetries (Nat.le_max_right _ _)
  allowedFor_le _ := Nat.le_refl 0
  allowedFor_bound _ := Nat.zero_le _

/-- What a crash does to a detector that agrees with the ledger, the answer apart. -/
theorem Matches.crash_answer (h : s.Matches) (hle : s.clock ≤ now) (phase : Option String) :
    (s.detector.recordRestartForPhase phase now).2 = .allowRestart ↔
      (s.ledger.crashed phase now).crashes.length < s.detector.maxTotalRestarts ∧
      (∀ p ∈ phase, (s.ledger.crashed phase now).phases.count p ≤ s.detector.maxPerPhase) ∧
      ((s.ledger.crashed phase now).recent s.detector.window now).length <
        s.detector.maxCrashes := by
  rw [CrashLoopDetector.recordRestartForPhase_snd, (h.times.mono hle).recent_crashed h.window_le,
    h.total, Ledger.crashed_crashes, List.length_append]
  have hphase : ¬ (phase.isSome ∧ 0 < s.detector.maxPerPhase ∧
      s.detector.maxPerPhase < (s.detector.charge phase).2) ↔
      ∀ p ∈ phase, (s.ledger.crashed phase now).phases.count p ≤ s.detector.maxPerPhase := by
    cases phase with
    | none => simp
    | some key => simp [h.buckets.charge_snd key now, h.phase_pos]
  rw [hphase]
  rfl

/-- After a crash, before the answer is written down. -/
theorem Matches.crash (h : s.Matches) (hle : s.clock ≤ now) (phase : Option String) :
    Matches ⟨(s.detector.recordRestartForPhase phase now).1, s.ledger.crashed phase now, now⟩ := by
  have htimes := (h.times.mono hle).crash h.window_le phase
  obtain ⟨kept, heq⟩ := s.detector.recordRestartForPhase_fst phase now
  rw [heq] at htimes ⊢
  constructor
  case window_le => exact h.window_le
  case total_pos => exact h.total_pos
  case phase_pos => exact h.phase_pos
  case total =>
    rw [Ledger.crashed_crashes, List.length_append, ← h.total]
    rfl
  case buckets => exact h.buckets.counted phase now
  case healthySince => rfl
  case times => exact htimes
  case allowed_le =>
    rw [Ledger.crashed_allowed, Ledger.crashed_crashes, List.length_append]
    exact Nat.le_add_right_of_le h.allowed_le
  case allowed_lt =>
    rw [Ledger.crashed_allowed]
    exact h.allowed_lt
  case allowedFor_le =>
    intro p
    rw [Ledger.crashed_phases, Ledger.crashed_allowedFor, List.count_append]
    split
    · exact Nat.zero_le _
    · exact Nat.le_add_right_of_le (h.allowedFor_le p)
  case allowedFor_bound =>
    intro p
    rw [Ledger.crashed_allowedFor]
    split
    · exact Nat.zero_le _
    · exact h.allowedFor_bound p

/-- An allowed restart stays within the limits. -/
theorem Matches.restarted (h : s.Matches) (hle : s.clock ≤ now)
    (hallow : (s.detector.recordRestartForPhase phase now).2 = .allowRestart) :
    Matches ⟨(s.detector.recordRestartForPhase phase now).1,
      (s.ledger.crashed phase now).restarted phase, now⟩ := by
  have hcrash := h.crash hle phase
  obtain ⟨htotal, hphase, -⟩ := (h.crash_answer hle phase).mp hallow
  have hmax : (s.detector.recordRestartForPhase phase now).1.maxTotalRestarts =
        s.detector.maxTotalRestarts ∧
      (s.detector.recordRestartForPhase phase now).1.maxPerPhase = s.detector.maxPerPhase := by
    obtain ⟨kept, heq⟩ := s.detector.recordRestartForPhase_fst phase now
    rw [heq]
    exact ⟨rfl, rfl⟩
  have hlength : (s.ledger.crashed phase now).crashes.length = s.ledger.crashes.length + 1 := by
    simp
  have hallowed := h.allowed_le
  constructor
  case window_le => exact hcrash.window_le
  case total_pos => exact hcrash.total_pos
  case phase_pos => exact hcrash.phase_pos
  case total => exact hcrash.total
  case buckets => exact hcrash.buckets
  case healthySince => exact hcrash.healthySince
  case times => exact hcrash.times.congr rfl rfl rfl
  case allowed_le =>
    simp only [Ledger.restarted, Ledger.crashed_allowed]
    omega
  case allowed_lt =>
    simp only [Ledger.restarted, Ledger.crashed_allowed, hmax.1]
    omega
  case allowedFor_le =>
    intro p
    simp only [Ledger.restarted, Ledger.crashed_phases, Ledger.crashed_allowedFor,
      List.count_append]
    split
    · exact Nat.le_refl _
    · exact Nat.add_le_add_right (h.allowedFor_le p) _
  case allowedFor_bound =>
    intro p
    simp only [hmax.2]
    rcases Nat.eq_zero_or_pos (phase.toList.count p) with hzero | hpos
    · have hold := hcrash.allowedFor_bound p
      simp only [hmax.2] at hold
      simpa only [Ledger.restarted, List.count_append, hzero, Nat.add_zero] using hold
    · -- the phase of the crash: its allowed restarts are among its crashes
      have hp : p ∈ phase := by
        have := List.count_pos_iff.mp hpos
        simpa using this
      refine Nat.le_trans ?_ (hphase p hp)
      simp only [Ledger.restarted, Ledger.crashed_phases, Ledger.crashed_allowedFor,
        List.count_append]
      split
      · exact Nat.le_refl _
      · exact Nat.add_le_add_right (h.allowedFor_le p) _

theorem Matches.reset (h : s.Matches) : Matches ⟨s.detector.reset now, s.ledger.reset now, now⟩ where
  window_le := h.window_le
  total_pos := h.total_pos
  phase_pos := h.phase_pos
  total := rfl
  buckets := ⟨h.buckets.1, fun _ => rfl⟩
  healthySince := rfl
  times := .nil rfl rfl
  allowed_le := Nat.le_refl 0
  allowed_lt := h.total_pos
  allowedFor_le _ := Nat.le_refl 0
  allowedFor_bound _ := Nat.zero_le _

/-- A call that leaves everything as it is but the healthy streak. -/
theorem Matches.streak (h : s.Matches) (hle : s.clock ≤ now) (streak : Option Int) :
    Matches ⟨{ s.detector with healthySince := streak },
      { s.ledger with healthySince := streak }, now⟩ where
  window_le := h.window_le
  total_pos := h.total_pos
  phase_pos := h.phase_pos
  total := h.total
  buckets := h.buckets
  healthySince := rfl
  times := (h.times.mono hle).congr rfl rfl rfl
  allowed_le := h.allowed_le
  allowed_lt := h.allowed_lt
  allowedFor_le := h.allowedFor_le
  allowedFor_bound := h.allowedFor_bound

theorem Matches.mono (h : s.Matches) (hle : s.clock ≤ now) :
    Matches ⟨s.detector, s.ledger, now⟩ := by
  have := h.streak hle s.detector.healthySince
  rwa [show ({ s.ledger with healthySince := s.detector.healthySince } : Ledger) = s.ledger by
    rw [h.healthySince]] at this

theorem Matches.cleared (h : s.Matches) :
    Matches ⟨s.detector.recordPhaseTransition, s.ledger.cleared, s.clock⟩ where
  window_le := h.window_le
  total_pos := h.total_pos
  phase_pos := h.phase_pos
  total := h.total
  buckets := ⟨h.buckets.1, fun _ => rfl⟩
  healthySince := h.healthySince
  times := h.times.congr rfl rfl rfl
  allowed_le := h.allowed_le
  allowed_lt := h.allowed_lt
  allowedFor_le _ := Nat.le_refl 0
  allowedFor_bound _ := Nat.zero_le _

theorem Matches.step (h : s.Matches) (hstep : s.step e = some s') : s'.Matches := by
  rw [Observation.step] at hstep
  split at hstep
  · next hclock =>
    cases hstep
    cases e with
    | crash phase now =>
      have hle : s.clock ≤ now := by simpa [CrashEvent.time] using hclock
      simp only [Ledger.note, CrashEvent.time, Option.getD_some, Option.some.injEq]
      split
      · next hallow => exact h.restarted hle hallow
      · exact h.crash hle phase
    | phaseTransition => exact h.cleared
    | healthyTick now =>
      have hle : s.clock ≤ now := by simpa [CrashEvent.time] using hclock
      simp only [CrashLoopDetector.recordHealthyTick_eq, Ledger.note,
        CrashEvent.time, Option.getD_some, h.healthySince]
      split
      · exact h.reset
      · exact h.streak hle _
    | healthyRuntime durationSecs now =>
      have hle : s.clock ≤ now := by simpa [CrashEvent.time] using hclock
      simp only [CrashLoopDetector.recordHealthyRuntime_eq, Ledger.note,
        CrashEvent.time, Option.getD_some, h.healthySince]
      split
      · exact h.mono hle
      · split
        · exact h.reset
        · exact h.streak hle _
  · cases hstep

theorem Matches.run (h : s.Matches) {es : List CrashEvent}
    (hrun : exec Observation.step s es = some s') : s'.Matches :=
  exec_preserves (fun _ _ _ hstep h => h.step hstep) hrun h

end Observation

theorem Observation.limits_run {s s' : Observation} {es : List CrashEvent}
    (hrun : exec Observation.step s es = some s') : s'.detector.limits = s.detector.limits := by
  refine exec_preserves (I := fun t => t.detector.limits = s.detector.limits) ?_ hrun rfl
  intro t e t' hstep ht
  rw [Observation.step] at hstep
  split at hstep
  · cases hstep
    exact (t.detector.limits_step e).trans ht
  · cases hstep

/-- The bounds of the detector, along every run with a non-decreasing clock. Fewer restarts than
`max_total_restarts` were allowed since the last stability reset, and at most `max_per_phase` of one
phase since its bucket was cleared. A crash is answered `StopCrashLoop` when it and the crashes of
age at most the window are `max_crashes` or more, and `AllowRestart` when no limit is reached. -/
theorem crash_loop_bounds (cfg : WatchdogConfig) (es : List CrashEvent) (s : Observation)
    (hrun : exec Observation.step (.init cfg) es = some s) :
    let maxTotal := max cfg.maxTotalCrashRetries cfg.maxCrashRetries
    let window := fromSecs cfg.crashWindowSecs
    s.ledger.allowed < maxTotal ∧
    (∀ p, s.ledger.allowedFor.count p ≤ DEFAULT_MAX_CRASHES_PER_PHASE) ∧
    ∀ phase now, s.clock ≤ now →
      let l := s.ledger.crashed phase now
      (cfg.maxCrashRetries ≤ (l.recent window now).length →
        (s.detector.recordRestartForPhase phase now).2 = .stopCrashLoop) ∧
      (l.crashes.length < maxTotal →
        (∀ p ∈ phase, l.phases.count p ≤ DEFAULT_MAX_CRASHES_PER_PHASE) →
        (l.recent window now).length < cfg.maxCrashRetries →
        (s.detector.recordRestartForPhase phase now).2 = .allowRestart) := by
  intro maxTotal window
  have hmatches := (Observation.Matches.init cfg).run hrun
  have hlimits : s.detector.limits = (CrashLoopDetector.fromWatchdog cfg).limits :=
    Observation.limits_run hrun
  have hcrashes := CrashLoopDetector.maxCrashes_of_limits hlimits
  have hwindow := CrashLoopDetector.window_of_limits hlimits
  have htotal := CrashLoopDetector.maxTotalRestarts_of_limits hlimits
  have hphase := CrashLoopDetector.maxPerPhase_of_limits hlimits
  have hallowed := hmatches.allowed_lt
  have hallowedFor := hmatches.allowedFor_bound
  rw [htotal] at hallowed
  rw [hphase] at hallowedFor
  refine ⟨hallowed, hallowedFor, ?_⟩
  intro phase now hclock
  have hanswer := hmatches.crash_answer hclock phase
  rw [hcrashes, hwindow, htotal, hphase] at hanswer
  constructor
  · intro hfull
    cases hdecision : (s.detector.recordRestartForPhase phase now).2 with
    | stopCrashLoop => rfl
    | allowRestart => exact absurd (hanswer.mp hdecision).2.2 (Nat.not_lt.mpr hfull)
  · intro hcount hbucket hrecent
    exact hanswer.mpr ⟨hcount, hbucket, hrecent⟩

/-- The defaults of the environment variables. -/
def WatchdogConfig.default : WatchdogConfig := .fromEnv fun _ => none

/-- Three crashes in a phase within a minute. -/
theorem crash_loop_bounds_three :
    ∃ s, exec Observation.step (.init .default)
        [.crash (some "forge") 1000000000, .crash (some "forge") 20000000000,
          .crash (some "forge") 50000000000] = some s ∧
      s.ledger.allowed = 3 ∧ s.ledger.allowed < 10 ∧
      (s.detector.recordRestartForPhase (some "work") s.clock).2 = .allowRestart := by
  obtain ⟨s, hrun, hallowed, hcount, hbucket, hrecent⟩ := exists_of_any
    (o := exec Observation.step (.init .default)
      [.crash (some "forge") 1000000000, .crash (some "forge") 20000000000,
        .crash (some "forge") 50000000000])
    (P := fun s => s.ledger.allowed = 3 ∧
      (s.ledger.crashed (some "work") s.clock).crashes.length < 10 ∧
      (s.ledger.crashed (some "work") s.clock).phases.count "work" ≤ 3 ∧
      ((s.ledger.crashed (some "work") s.clock).recent (fromSecs 900) s.clock).length < 5)
    (by decide)
  obtain ⟨hbound, -, hanswer⟩ := crash_loop_bounds .default _ s hrun
  refine ⟨s, hrun, hallowed, hbound, (hanswer (some "work") s.clock (Nat.le_refl _)).2 hcount ?_
    hrecent⟩
  intro p hp
  cases hp
  exact hbucket

end GreaterWill
