import GreaterWill.Engine.CrashBounds

/-!
# Crash history on disk

`persist` and `load_history` of `engine/crash_loop.rs`. The history file keeps whole seconds of the
wall clock, and it does not keep the phase of the last crash. A twin run keeps one detector in memory
and reloads another from disk now and then; both take the same calls at the same times.

Every reload moves a crash time by less than two seconds (`restoreTime_near`), so the two detectors
agree on what is recent as long as no crash is that near to the end of the window. The buckets of the
reloaded detector agree with those in memory for the last phase only (`BucketsTrack`): the crash after
a reload does not clear the others.
-/

namespace GreaterWill

/-- The history file. -/
structure CrashHistoryRecord where
  crashEpochs : List Nat
  totalRestarts : Nat
  /-- Only for the log. -/
  windowSecs : Nat
  lastHealthyEpoch : Option Nat
  perPhaseCrashes : Map String Nat

/-- Seconds of the wall clock when the monotonic clock reads `now`; the two run at the same rate, and
`offset` is the wall clock at the start of the monotonic one. -/
def epochSecs (offset now : Nat) : Nat := asSecs (now + offset)

namespace CrashLoopDetector

/-- The history `persist` writes at `now`. -/
def persist (d : CrashLoopDetector) (offset now : Nat) : CrashHistoryRecord :=
  let nowEpoch := epochSecs offset now
  { crashEpochs := d.crashTimes.map fun t => nowEpoch - asSecs (durationSince now t)
    totalRestarts := d.totalRestarts
    windowSecs := asSecs d.window
    lastHealthyEpoch := d.healthySince.map fun since => nowEpoch - asSecs (durationSince now since)
    perPhaseCrashes := d.perPhaseCrashes }

/-- Load a history at `now`: crashes that left the window are not restored, nor is a healthy streak
as long as the stability period. -/
def loadHistory (d : CrashLoopDetector) (record : CrashHistoryRecord) (offset now : Nat) :
    CrashLoopDetector :=
  let nowEpoch := epochSecs offset now
  let windowSecs := asSecs d.window
  let restored := record.crashEpochs.filterMap fun epoch =>
    let ageSecs := nowEpoch - epoch
    if ageSecs < windowSecs then some ((now : Int) - fromSecs ageSecs) else none
  let healthySince :=
    match record.lastHealthyEpoch with
    | some epoch =>
      let age := nowEpoch - epoch
      if age < asSecs d.stabilityPeriod then some ((now : Int) - fromSecs age) else d.healthySince
    | none => d.healthySince
  { d with
    crashTimes := d.crashTimes ++ restored
    totalRestarts := record.totalRestarts
    perPhaseCrashes := record.perPhaseCrashes
    healthySince := healthySince }

end CrashLoopDetector

/-! ## Twin runs -/

/-- A call to both detectors, or a reload of one: persisted at one time, loaded at another. -/
inductive TwinEvent where
  | call (e : CrashEvent)
  | reload (persisted loaded : Nat)

structure Twin where
  inMemory : CrashLoopDetector
  onDisk : CrashLoopDetector
  reloads : Nat := 0
  clock : Nat := 0

section
variable (cfg : WatchdogConfig) (offset : Nat)

def Twin.init : Twin :=
  { inMemory := .fromWatchdog cfg
    onDisk := .fromWatchdog cfg }

/-- One event of a twin run. The clock does not go back. -/
def Twin.step (s : Twin) : TwinEvent → Option Twin
  | .call e =>
    if e.time.all (s.clock ≤ ·) then
      some
        { s with
          inMemory := (s.inMemory.step e).1
          onDisk := (s.onDisk.step e).1
          clock := e.time.getD s.clock }
    else
      none
  | .reload persisted loaded =>
    if s.clock ≤ persisted ∧ persisted ≤ loaded then
      let record := s.onDisk.persist offset persisted
      some
        { s with
          onDisk := (CrashLoopDetector.fromWatchdog cfg).loadHistory record offset loaded
          reloads := s.reloads + 1
          clock := loaded }
    else
      none

end

/-- What the detector in memory answers. -/
def Twin.memoryAnswers (s : Twin) : TwinEvent → List CrashLoopDecision
  | .call e => (s.inMemory.step e).2.toList
  | .reload _ _ => []

/-- What the reloaded detector answers. -/
def Twin.diskAnswers (s : Twin) : TwinEvent → List CrashLoopDecision
  | .call e => (s.onDisk.step e).2.toList
  | .reload _ _ => []

/-- How far the reloads so far can have moved a time. -/
def Twin.slack (s : Twin) : Nat := fromSecs (2 * s.reloads)

/-- The event is one at which the reloaded detector does what the one in memory does.

At a crash, no crash in memory is within the slack of the end of the window, and if a reload lost the
phase of the last crash, a crash in another phase finds no bucket. At a healthy tick the streak is not
within the slack of the stability period, and at a reload it is shorter than that. -/
def Twin.Survives (cfg : WatchdogConfig) (s : Twin) : TwinEvent → Prop
  | .call (.crash phase now) =>
    (∀ t ∈ s.inMemory.crashTimes,
      now - t + s.slack ≤ fromSecs cfg.crashWindowSecs ∨
        fromSecs cfg.crashWindowSecs + s.slack < now - t) ∧
    ∀ key ∈ phase, s.onDisk.lastCrashPhase = none → s.inMemory.lastCrashPhase ≠ some key →
      s.onDisk.crashesForPhase key = 0
  | .call (.healthyTick now) => ∀ since ∈ s.inMemory.healthySince,
    now - since + s.slack < fromSecs cfg.crashStabilitySecs ∨
      fromSecs cfg.crashStabilitySecs + s.slack ≤ now - since
  | .call _ => True
  | .reload _ loaded => ∀ since ∈ s.inMemory.healthySince,
    loaded - since + fromSecs (2 * (s.reloads + 1)) ≤ fromSecs cfg.crashStabilitySecs

instance Twin.Survives.decidable (cfg : WatchdogConfig) (s : Twin) :
    ∀ e, Decidable (s.Survives cfg e)
  | .call (.crash phase now) => inferInstanceAs (Decidable
      ((∀ t ∈ s.inMemory.crashTimes,
        now - t + s.slack ≤ fromSecs cfg.crashWindowSecs ∨
          fromSecs cfg.crashWindowSecs + s.slack < now - t) ∧
      ∀ key ∈ phase, s.onDisk.lastCrashPhase = none → s.inMemory.lastCrashPhase ≠ some key →
        s.onDisk.crashesForPhase key = 0))
  | .call (.healthyTick now) => inferInstanceAs (Decidable
      (∀ since ∈ s.inMemory.healthySince,
        now - since + s.slack < fromSecs cfg.crashStabilitySecs ∨
          fromSecs cfg.crashStabilitySecs + s.slack ≤ now - since))
  | .call .phaseTransition | .call (.healthyRuntime _ _) => isTrue trivial
  | .reload _ loaded => inferInstanceAs (Decidable
      (∀ since ∈ s.inMemory.healthySince,
        loaded - since + fromSecs (2 * (s.reloads + 1)) ≤ fromSecs cfg.crashStabilitySecs))

/-! ## What a reload does to a time -/

/-- The age in seconds that a reload gives a time. -/
def restoredAge (offset persisted loaded : Nat) (t : Int) : Nat :=
  epochSecs offset loaded - (epochSecs offset persisted - asSecs (durationSince persisted t))

/-- The time a reload puts in the place of `t`. -/
def restoredTime (offset persisted loaded : Nat) (t : Int) : Int :=
  loaded - fromSecs (restoredAge offset persisted loaded t)

section
variable {offset persisted loaded : Nat} {t : Int}

theorem restoredTime_le : restoredTime offset persisted loaded t ≤ loaded := by
  rw [restoredTime]
  omega

theorem le_restoredTime : -(offset : Int) ≤ restoredTime offset persisted loaded t := by
  simp only [restoredTime, restoredAge, epochSecs, asSecs, fromSecs]
  omega

/-- A reload moves a time by less than two seconds. -/
theorem restoredTime_near (hle : persisted ≤ loaded) (hlow : -(offset : Int) ≤ t)
    (hhigh : t ≤ persisted) :
    t - fromSecs 2 < restoredTime offset persisted loaded t ∧
      restoredTime offset persisted loaded t < t + fromSecs 2 := by
  simp only [restoredTime, restoredAge, epochSecs, asSecs, durationSince, fromSecs]
  omega

end

/-- Two lists of crash times that are the same up to `slack`, except that the second may lack crashes
that left the window by the slack. -/
inductive TimesTrack (slack window : Nat) (clock : Int) : List Int → List Int → Prop where
  | nil : TimesTrack slack window clock [] []
  | keep {t t' : Int} {ts ts'} : t - slack ≤ t' → t' ≤ t + slack →
    TimesTrack slack window clock ts ts' → TimesTrack slack window clock (t :: ts) (t' :: ts')
  | drop {t : Int} {ts ts'} : window < clock - t + slack →
    TimesTrack slack window clock ts ts' → TimesTrack slack window clock (t :: ts) ts'

namespace TimesTrack

variable {slack window : Nat} {clock : Int} {ts ts' us us' : List Int}

theorem mono (h : TimesTrack slack window clock ts ts') {slack' : Nat} {clock' : Int}
    (hslack : slack ≤ slack') (hclock : clock ≤ clock') :
    TimesTrack slack' window clock' ts ts' := by
  induction h with
  | nil => exact .nil
  | keep hlow hhigh _ ih =>
    apply keep _ _ ih
    · omega
    · omega
  | drop hold _ ih =>
    apply drop _ ih
    omega

theorem append (h : TimesTrack slack window clock ts ts')
    (h' : TimesTrack slack window clock us us') :
    TimesTrack slack window clock (ts ++ us) (ts' ++ us') := by
  induction h with
  | nil => exact h'
  | keep hlow hhigh _ ih => exact .keep hlow hhigh ih
  | drop hold _ ih => exact .drop hold ih

theorem concat (h : TimesTrack slack window clock ts ts') (t : Int) :
    TimesTrack slack window clock (ts ++ [t]) (ts' ++ [t]) := by
  apply h.append
  apply keep _ _ .nil
  · omega
  · omega

/-- A reload widens the slack by two seconds. -/
theorem reload {offset persisted loaded w : Nat} (h : TimesTrack slack (fromSecs w) clock ts ts')
    (hrange : ∀ t ∈ ts', -(offset : Int) ≤ t ∧ t ≤ clock) (hclock : clock ≤ persisted)
    (hle : persisted ≤ loaded) :
    TimesTrack (slack + fromSecs 2) (fromSecs w) loaded ts (ts'.filterMap fun t =>
      if restoredAge offset persisted loaded t < w then some (restoredTime offset persisted loaded t)
      else none) := by
  induction h with
  | nil => exact .nil
  | @keep t t' ts ts' hlow hhigh _ ih =>
    obtain ⟨ht', hts'⟩ := List.forall_mem_cons.mp hrange
    have hnear := restoredTime_near hle ht'.1 (Int.le_trans ht'.2 hclock)
    rw [List.filterMap_cons]
    by_cases hage : restoredAge offset persisted loaded t' < w
    · rw [if_pos hage]
      apply keep _ _ (ih hts')
      · omega
      · omega
    · -- not restored: its restored time is out of the window
      rw [if_neg hage]
      apply drop _ (ih hts')
      have hold : (fromSecs w : Int) ≤ loaded - restoredTime offset persisted loaded t' := by
        simp only [restoredTime, fromSecs]
        omega
      omega
  | drop hold _ ih =>
    apply drop _ (ih hrange)
    omega

/-- Lists of recent crashes have the same length. -/
theorem length_eq (h : TimesTrack slack window clock ts ts')
    (hrecent : ∀ t ∈ ts, clock - t + slack ≤ window) : ts'.length = ts.length := by
  induction h with
  | nil => rfl
  | keep _ _ _ ih =>
    rw [List.length_cons, List.length_cons, ih (List.forall_mem_cons.mp hrecent).2]
  | drop hold _ _ =>
    have := (List.forall_mem_cons.mp hrecent).1
    omega

/-- As long as no crash is within the slack of the end of the window, pruning treats both lists
alike. -/
theorem dropWhile (h : TimesTrack slack window clock ts ts') (hsorted : ts.Pairwise (· ≤ ·))
    (hband : ∀ t ∈ ts, clock - t + slack ≤ window ∨ window + slack < clock - t) :
    TimesTrack slack window clock (ts.dropWhile (· < clock - window))
        (ts'.dropWhile (· < clock - window)) ∧
      (ts'.dropWhile (· < clock - window)).length = (ts.dropWhile (· < clock - window)).length := by
  induction h with
  | nil => exact ⟨.nil, rfl⟩
  | @keep t t' ts ts' hlow hhigh hrest ih =>
    obtain ⟨ht, hts⟩ := List.forall_mem_cons.mp hband
    obtain ⟨hmin, hsorted'⟩ := List.pairwise_cons.mp hsorted
    rcases ht with hrecent | hold
    · -- this crash is recent, so are all after it, and nothing is dropped
      have hkeep : ¬ t < clock - window := by omega
      have hkeep' : ¬ t' < clock - window := by omega
      rw [List.dropWhile_cons_of_neg (by simpa using hkeep),
        List.dropWhile_cons_of_neg (by simpa using hkeep')]
      have hall : TimesTrack slack window clock (t :: ts) (t' :: ts') := .keep hlow hhigh hrest
      refine ⟨hall, hall.length_eq ?_⟩
      intro u hu
      rcases List.mem_cons.mp hu with rfl | hu
      · exact hrecent
      · have := hmin u hu
        omega
    · have hdrop : t < clock - window := by omega
      have hdrop' : t' < clock - window := by omega
      rw [List.dropWhile_cons_of_pos (by simpa using hdrop),
        List.dropWhile_cons_of_pos (by simpa using hdrop')]
      exact ih hsorted' hts
  | @drop t ts ts' hgone _ ih =>
    obtain ⟨ht, hts⟩ := List.forall_mem_cons.mp hband
    have hdrop : t < clock - window := by omega
    rw [List.dropWhile_cons_of_pos (by simpa using hdrop)]
    exact ih (List.pairwise_cons.mp hsorted).2 hts

end TimesTrack

/-! ## What a reload does to the buckets -/

namespace CrashLoopDetector

variable {m d : CrashLoopDetector}

/-- The buckets of `d` agree with those of `m` for the phase of the last crash of `m`, which `d` may
have lost; `m` has no other buckets. -/
structure BucketsTrack (m d : CrashLoopDetector) : Prop where
  last : d.lastCrashPhase = m.lastCrashPhase ∨ d.lastCrashPhase = none
  bucket : ∀ key, m.lastCrashPhase = some key → d.crashesForPhase key = m.crashesForPhase key
  empty : ∀ key, m.lastCrashPhase ≠ some key → m.crashesForPhase key = 0

/-- The crash of a phase finds the same bucket in both, if one in another phase than the last finds
none in a detector that lost the last phase. -/
theorem BucketsTrack.attributePhase (h : BucketsTrack m d) {key : String}
    (hfresh : d.lastCrashPhase = none → m.lastCrashPhase ≠ some key → d.crashesForPhase key = 0) :
    (d.attributePhase key).1.crashesForPhase key =
      (m.attributePhase key).1.crashesForPhase key := by
  rw [crashesForPhase_attributePhase, crashesForPhase_attributePhase]
  by_cases hkey : m.lastCrashPhase = some key
  · -- the phase of the last crash: neither clears it
    have hlast' : m.lastCrashPhase.any (· ≠ key) = false := by simp [hkey]
    have hlast : d.lastCrashPhase.any (· ≠ key) = false := by
      rcases h.last with hd | hd
      · simp [hd, hkey]
      · simp [hd]
    rw [hlast, hlast', if_neg Bool.false_ne_true, if_neg Bool.false_ne_true, h.bucket key hkey]
  · rcases h.last with hd | hd
    · cases hm : m.lastCrashPhase with
      | none => simp [hd, hm, hfresh (hd.trans hm) hkey, h.empty key hkey]
      | some last =>
        have hne : last ≠ key := fun heq => hkey (hm.trans (congrArg some heq))
        simp [hd, hm, hne]
    · simp [hd, hfresh hd hkey, h.empty key hkey]

theorem BucketsTrack.counted (h : BucketsTrack m d) {phase : Option String} (now : Int)
    (hfresh : ∀ key ∈ phase, d.lastCrashPhase = none → m.lastCrashPhase ≠ some key →
      d.crashesForPhase key = 0) :
    BucketsTrack (m.counted phase now) (d.counted phase now) := by
  cases phase with
  | none => exact ⟨h.last, h.bucket, h.empty⟩
  | some key =>
    refine ⟨.inl rfl, ?_, ?_⟩
    · intro key' hkey'
      cases hkey'
      exact h.attributePhase (hfresh key rfl)
    · intro key' hkey'
      have hne : key' ≠ key := fun heq => hkey' (congrArg some heq.symm)
      refine (crashesForPhase_attributePhase key key').trans ?_
      rw [if_neg hne, Nat.add_zero]
      split
      · rfl
      · next hsame =>
        refine h.empty key' fun hlast => hsame ?_
        simp [hlast, hne]

theorem BucketsTrack.charge_snd (h : BucketsTrack m d) {phase : Option String}
    (hfresh : ∀ key ∈ phase, d.lastCrashPhase = none → m.lastCrashPhase ≠ some key →
      d.crashesForPhase key = 0) : (d.charge phase).2 = (m.charge phase).2 := by
  cases phase with
  | none => rfl
  | some key =>
    simp only [charge]
    rw [attributePhase_snd, attributePhase_snd]
    exact h.attributePhase (hfresh key rfl)

theorem BucketsTrack.clear (h : BucketsTrack m d) {m' d' : CrashLoopDetector}
    (hm : m'.lastCrashPhase = m.lastCrashPhase) (hd : d'.lastCrashPhase = d.lastCrashPhase)
    (hm' : m'.perPhaseCrashes = ∅) (hd' : d'.perPhaseCrashes = ∅) : BucketsTrack m' d' := by
  constructor
  · rw [hm, hd]
    exact h.last
  · intro key _
    rw [crashesForPhase, crashesForPhase, hm', hd']
  · intro key _
    rw [crashesForPhase, hm']
    rfl

end CrashLoopDetector

/-! ## The reloaded detector keeps up -/

/-- Two healthy streaks that started at the same time up to `slack`. -/
def StreakTrack (slack : Nat) : Option Int → Option Int → Prop
  | none, none => True
  | some since, some since' => since - slack ≤ since' ∧ since' ≤ since + slack
  | _, _ => False

theorem StreakTrack.moved {slack two : Nat} {since since' since'' : Int}
    (h : StreakTrack slack (some since) (some since'))
    (hnear : since' - two < since'' ∧ since'' < since' + two) :
    StreakTrack (slack + two) (some since) (some since'') := by
  simp only [StreakTrack] at *
  omega

/-- The reloaded detector answers like the one in memory. -/
structure Twin.Close (cfg : WatchdogConfig) (offset : Nat) (s : Twin) : Prop where
  memoryLimits : s.inMemory.limits = (CrashLoopDetector.fromWatchdog cfg).limits
  diskLimits : s.onDisk.limits = (CrashLoopDetector.fromWatchdog cfg).limits
  total : s.onDisk.totalRestarts = s.inMemory.totalRestarts
  buckets : s.inMemory.BucketsTrack s.onDisk
  sorted : s.inMemory.crashTimes.Pairwise (· ≤ ·)
  past : ∀ t ∈ s.inMemory.crashTimes, t ≤ s.clock
  times : TimesTrack s.slack (fromSecs cfg.crashWindowSecs) s.clock s.inMemory.crashTimes
    s.onDisk.crashTimes
  range : ∀ t ∈ s.onDisk.crashTimes, -(offset : Int) ≤ t ∧ t ≤ s.clock
  streak : StreakTrack s.slack s.inMemory.healthySince s.onDisk.healthySince
  streakRange : ∀ since ∈ s.onDisk.healthySince, -(offset : Int) ≤ since ∧ since ≤ s.clock

namespace CrashLoopDetector

variable {d : CrashLoopDetector} {cfg : WatchdogConfig}

@[simp] theorem asSecs_fromSecs (n : Nat) : asSecs (fromSecs n) = n := by
  simp only [asSecs, fromSecs]
  omega

/-- The crash times a reload restores. -/
theorem crashTimes_reload (offset persisted loaded : Nat) :
    ((fromWatchdog cfg).loadHistory (d.persist offset persisted) offset loaded).crashTimes =
      d.crashTimes.filterMap fun t =>
        if restoredAge offset persisted loaded t < cfg.crashWindowSecs then
          some (restoredTime offset persisted loaded t)
        else
          none := by
  have hwindow : asSecs (fromWatchdog cfg).window = cfg.crashWindowSecs := by
    rw [window_of_limits rfl, asSecs_fromSecs]
  simp only [loadHistory, persist, hwindow, List.filterMap_map]
  rfl

/-- The healthy streak a reload restores. -/
theorem healthySince_reload (offset persisted loaded : Nat) :
    ((fromWatchdog cfg).loadHistory (d.persist offset persisted) offset loaded).healthySince =
      d.healthySince.bind fun since =>
        if restoredAge offset persisted loaded since < cfg.crashStabilitySecs then
          some (restoredTime offset persisted loaded since)
        else
          none := by
  have hstability : asSecs (fromWatchdog cfg).stabilityPeriod = cfg.crashStabilitySecs := by
    rw [stabilityPeriod_of_limits rfl, asSecs_fromSecs]
  simp only [loadHistory, persist, hstability]
  cases d.healthySince with
  | none => rfl
  | some since => rfl

/-- A crash stopped before the crash times are looked at. -/
def StopsEarly (d : CrashLoopDetector) (phase : Option String) : Prop :=
  d.maxTotalRestarts ≤ d.totalRestarts + 1 ∨
    (phase.isSome ∧ 0 < d.maxPerPhase ∧ d.maxPerPhase < (d.charge phase).2)

/-- The crash times are pruned unless the crash is stopped before. -/
theorem crashTimes_recordRestartForPhase (phase : Option String) (now : Int) :
    (d.StopsEarly phase ∧
      (d.recordRestartForPhase phase now).1.crashTimes = d.crashTimes ++ [now]) ∨
    (¬ d.StopsEarly phase ∧
      (d.recordRestartForPhase phase now).1.crashTimes = d.prunedWith now) := by
  rcases d.recordRestartForPhase_cases phase now with ⟨heq, hearly⟩ | ⟨heq, htotal, hphase⟩
  · exact .inl ⟨hearly, by rw [heq]; rfl⟩
  · refine .inr ⟨?_, by rw [heq]⟩
    rintro (h | h)
    · omega
    · exact hphase h

theorem crashTimes_sublist (phase : Option String) (now : Int) :
    (d.recordRestartForPhase phase now).1.crashTimes.Sublist (d.crashTimes ++ [now]) := by
  rcases d.crashTimes_recordRestartForPhase phase now with ⟨-, heq⟩ | ⟨-, heq⟩
  · rw [heq]
  · rw [heq]
    exact List.dropWhile_sublist _

/-- Pruning at a crash never takes the crash itself. -/
theorem prunedWith_eq (hlimits : d.limits = (fromWatchdog cfg).limits) (now : Nat) :
    d.prunedWith now =
      d.crashTimes.dropWhile (· < (now : Int) - fromSecs cfg.crashWindowSecs) ++ [(now : Int)] := by
  have hnow : ¬ (now : Int) < now - fromSecs cfg.crashWindowSecs := by omega
  rw [prunedWith, checkedSub_window (window_le_of_limits hlimits), window_of_limits hlimits,
    List.dropWhile_append, List.dropWhile_cons_of_neg (by simpa using hnow)]
  split
  · next hempty => rw [List.isEmpty_iff.mp hempty, List.nil_append]
  · rfl

end CrashLoopDetector

namespace Twin

variable {cfg : WatchdogConfig} {offset : Nat} {s s' : Twin} {e : TwinEvent}

theorem Close.init : (init cfg).Close cfg offset where
  memoryLimits := rfl
  diskLimits := rfl
  total := rfl
  buckets := ⟨.inl rfl, fun _ _ => rfl, fun _ _ => rfl⟩
  sorted := .nil
  past _ h := nomatch h
  times := .nil
  range _ h := nomatch h
  streak := trivial
  streakRange _ h := nomatch h

/-- What is left of the crash times after pruning at a crash. -/
theorem Close.pruned (h : s.Close cfg offset) {now : Nat} (hle : s.clock ≤ now)
    (hband : ∀ t ∈ s.inMemory.crashTimes,
      now - t + s.slack ≤ fromSecs cfg.crashWindowSecs ∨
        fromSecs cfg.crashWindowSecs + s.slack < now - t) :
    TimesTrack s.slack (fromSecs cfg.crashWindowSecs) now (s.inMemory.prunedWith now)
        (s.onDisk.prunedWith now) ∧
      (s.onDisk.prunedWith now).length = (s.inMemory.prunedWith now).length := by
  have hclock : (s.clock : Int) ≤ now := by omega
  obtain ⟨htrack, hlength⟩ :=
    (h.times.mono (Nat.le_refl _) hclock).dropWhile h.sorted hband
  rw [CrashLoopDetector.prunedWith_eq h.memoryLimits, CrashLoopDetector.prunedWith_eq h.diskLimits]
  refine ⟨htrack.concat now, ?_⟩
  rw [List.length_append, List.length_append, hlength]

/-- Both detectors answer a crash alike. -/
theorem Close.answer (h : s.Close cfg offset) {phase : Option String} {now : Nat}
    (hle : s.clock ≤ now) (hsurvives : s.Survives cfg (.call (.crash phase now))) :
    (s.inMemory.recordRestartForPhase phase now).2 =
      (s.onDisk.recordRestartForPhase phase now).2 := by
  obtain ⟨hband, hfresh⟩ := hsurvives
  have hlength := (h.pruned hle hband).2
  have hiff : (s.inMemory.recordRestartForPhase phase now).2 = .allowRestart ↔
      (s.onDisk.recordRestartForPhase phase now).2 = .allowRestart := by
    rw [CrashLoopDetector.recordRestartForPhase_snd, CrashLoopDetector.recordRestartForPhase_snd,
      hlength, h.total, h.buckets.charge_snd hfresh,
      CrashLoopDetector.maxTotalRestarts_of_limits h.memoryLimits,
      CrashLoopDetector.maxTotalRestarts_of_limits h.diskLimits,
      CrashLoopDetector.maxPerPhase_of_limits h.memoryLimits,
      CrashLoopDetector.maxPerPhase_of_limits h.diskLimits,
      CrashLoopDetector.maxCrashes_of_limits h.memoryLimits,
      CrashLoopDetector.maxCrashes_of_limits h.diskLimits]
  cases hm : (s.inMemory.recordRestartForPhase phase now).2 with
  | allowRestart => exact (hiff.mp hm).symm
  | stopCrashLoop =>
    cases hd : (s.onDisk.recordRestartForPhase phase now).2 with
    | stopCrashLoop => rfl
    | allowRestart => rw [hiff.mpr hd] at hm; cases hm

/-- The crash times after a crash. -/
theorem Close.crashTimes (h : s.Close cfg offset) {phase : Option String} {now : Nat}
    (hle : s.clock ≤ now) (hsurvives : s.Survives cfg (.call (.crash phase now))) :
    TimesTrack s.slack (fromSecs cfg.crashWindowSecs) now
      (s.inMemory.recordRestartForPhase phase now).1.crashTimes
      (s.onDisk.recordRestartForPhase phase now).1.crashTimes := by
  obtain ⟨hband, hfresh⟩ := hsurvives
  have hearly : s.inMemory.StopsEarly phase ↔ s.onDisk.StopsEarly phase := by
    simp only [CrashLoopDetector.StopsEarly, h.total, h.buckets.charge_snd hfresh,
      CrashLoopDetector.maxTotalRestarts_of_limits h.memoryLimits,
      CrashLoopDetector.maxTotalRestarts_of_limits h.diskLimits,
      CrashLoopDetector.maxPerPhase_of_limits h.memoryLimits,
      CrashLoopDetector.maxPerPhase_of_limits h.diskLimits]
  rcases s.inMemory.crashTimes_recordRestartForPhase phase now with ⟨hm, hmt⟩ | ⟨hm, hmt⟩
  · rcases s.onDisk.crashTimes_recordRestartForPhase phase now with ⟨-, hdt⟩ | ⟨hd, -⟩
    · rw [hmt, hdt]
      exact (h.times.mono (Nat.le_refl _) (by omega)).concat now
    · exact absurd (hearly.mp hm) hd
  · rcases s.onDisk.crashTimes_recordRestartForPhase phase now with ⟨hd, -⟩ | ⟨-, hdt⟩
    · exact absurd (hearly.mpr hd) hm
    · rw [hmt, hdt]
      exact (h.pruned hle hband).1

theorem Close.crash (h : s.Close cfg offset) {phase : Option String} {now : Nat}
    (hle : s.clock ≤ now) (hsurvives : s.Survives cfg (.call (.crash phase now))) :
    Close cfg offset
      { s with
        inMemory := (s.inMemory.recordRestartForPhase phase now).1
        onDisk := (s.onDisk.recordRestartForPhase phase now).1
        clock := now } := by
  have htimes := h.crashTimes hle hsurvives
  have hsub := s.inMemory.crashTimes_sublist phase now
  have hsub' := s.onDisk.crashTimes_sublist phase now
  have hlimits := s.inMemory.limits_step (.crash phase now)
  have hlimits' := s.onDisk.limits_step (.crash phase now)
  obtain ⟨kept, heq⟩ := s.inMemory.recordRestartForPhase_fst phase now
  obtain ⟨kept', heq'⟩ := s.onDisk.recordRestartForPhase_fst phase now
  constructor
  case memoryLimits => exact hlimits.trans h.memoryLimits
  case diskLimits => exact hlimits'.trans h.diskLimits
  case total =>
    rw [heq, heq']
    exact congrArg (· + 1) h.total
  case buckets =>
    rw [heq, heq']
    have hcounted := h.buckets.counted now hsurvives.2
    exact ⟨hcounted.last, hcounted.bucket, hcounted.empty⟩
  case sorted =>
    refine List.Pairwise.sublist hsub ?_
    rw [List.pairwise_append]
    refine ⟨h.sorted, List.pairwise_singleton _ _, ?_⟩
    intro t ht t' ht'
    have := h.past t ht
    rw [List.mem_singleton.mp ht']
    omega
  case past =>
    intro t ht
    rcases List.mem_append.mp (hsub.subset ht) with ht | ht
    · have := h.past t ht
      dsimp only
      omega
    · exact Int.le_of_eq (List.mem_singleton.mp ht)
  case times => exact htimes
  case range =>
    intro t ht
    rcases List.mem_append.mp (hsub'.subset ht) with ht | ht
    · have := h.range t ht
      dsimp only
      omega
    · rw [List.mem_singleton.mp ht]
      dsimp only
      omega
  case streak =>
    rw [heq, heq']
    trivial
  case streakRange =>
    rw [heq']
    exact fun _ hsince => nomatch hsince

theorem Close.reset (h : s.Close cfg offset) {now : Nat} :
    Close cfg offset
      { s with inMemory := s.inMemory.reset now, onDisk := s.onDisk.reset now, clock := now } where
  memoryLimits := h.memoryLimits
  diskLimits := h.diskLimits
  total := rfl
  buckets := h.buckets.clear rfl rfl rfl rfl
  sorted := .nil
  past _ ht := nomatch ht
  times := .nil
  range _ ht := nomatch ht
  streak := by
    simp only [CrashLoopDetector.reset, StreakTrack]
    omega
  streakRange := by
    rintro since ⟨⟩
    dsimp only
    omega

/-- A call that at most starts the streak. -/
theorem Close.start (h : s.Close cfg offset) {now : Nat} (hle : s.clock ≤ now) :
    Close cfg offset
      { s with
        inMemory := { s.inMemory with healthySince := s.inMemory.healthySince <|> some (now : Int) }
        onDisk := { s.onDisk with healthySince := s.onDisk.healthySince <|> some (now : Int) }
        clock := now } where
  memoryLimits := h.memoryLimits
  diskLimits := h.diskLimits
  total := h.total
  buckets := ⟨h.buckets.last, h.buckets.bucket, h.buckets.empty⟩
  sorted := h.sorted
  past t ht := Int.le_trans (h.past t ht) (by dsimp only; omega)
  times := h.times.mono (Nat.le_refl _) (by dsimp only; omega)
  range t ht := ⟨(h.range t ht).1, Int.le_trans (h.range t ht).2 (by dsimp only; omega)⟩
  streak := by
    have hstreak := h.streak
    revert hstreak
    dsimp only
    cases s.inMemory.healthySince <;> cases s.onDisk.healthySince
    case none.none =>
      intro _
      simp only [Option.orElse_eq_orElse, Option.orElse_eq_or, Option.none_or, StreakTrack]
      omega
    case some.some => exact id
    all_goals exact False.elim
  streakRange := by
    have hrange := h.streakRange
    revert hrange
    dsimp only
    cases s.onDisk.healthySince with
    | none =>
      rintro - since ⟨⟩
      omega
    | some since =>
      intro hrange since' hsince'
      obtain ⟨hlow, hhigh⟩ := hrange since' hsince'
      omega

theorem Close.mono (h : s.Close cfg offset) {now : Nat} (hle : s.clock ≤ now) :
    Close cfg offset { s with clock := now } :=
  { h with
    past := fun t ht => Int.le_trans (h.past t ht) (by dsimp only; omega)
    times := h.times.mono (Nat.le_refl _) (by dsimp only; omega)
    range := fun t ht => ⟨(h.range t ht).1, Int.le_trans (h.range t ht).2 (by dsimp only; omega)⟩
    streakRange := fun since hsince => ⟨(h.streakRange since hsince).1,
      Int.le_trans (h.streakRange since hsince).2 (by dsimp only; omega)⟩ }

/-- A healthy tick resets both detectors or neither. -/
theorem Close.resets_iff (h : s.Close cfg offset) {now : Nat}
    (hsurvives : s.Survives cfg (.call (.healthyTick now))) :
    s.inMemory.healthySince.any (s.inMemory.stabilityPeriod ≤ durationSince now ·) =
      s.onDisk.healthySince.any (s.onDisk.stabilityPeriod ≤ durationSince now ·) := by
  have hstreak := h.streak
  have hband := hsurvives
  have hpos : 0 < fromSecs cfg.crashStabilitySecs := by
    have := cfg.le_crashStabilitySecs
    simp only [fromSecs]
    omega
  rw [CrashLoopDetector.stabilityPeriod_of_limits h.memoryLimits,
    CrashLoopDetector.stabilityPeriod_of_limits h.diskLimits]
  simp only [Survives] at hband
  revert hstreak hband
  cases s.inMemory.healthySince <;> cases s.onDisk.healthySince
  case none.none =>
    intro _ _
    rfl
  case some.some since since' =>
    intro hstreak hband
    simp only [StreakTrack] at hstreak
    have hsince := hband since rfl
    rw [Option.any_some, Option.any_some, decide_eq_decide, durationSince, durationSince]
    omega
  all_goals exact fun hstreak => hstreak.elim

theorem Close.reload (h : s.Close cfg offset) {persisted loaded : Nat}
    (hclock : s.clock ≤ persisted) (hle : persisted ≤ loaded)
    (hsurvives : s.Survives cfg (.reload persisted loaded)) :
    Close cfg offset
      { s with
        onDisk := (CrashLoopDetector.fromWatchdog cfg).loadHistory
          (s.onDisk.persist offset persisted) offset loaded
        reloads := s.reloads + 1
        clock := loaded } := by
  have hslack : fromSecs (2 * (s.reloads + 1)) = s.slack + fromSecs 2 := by
    simp only [slack, fromSecs]
    omega
  have hstreak := h.streak
  have hstreakRange := h.streakRange
  constructor
  case memoryLimits => exact h.memoryLimits
  case diskLimits => rfl
  case total => exact h.total
  case buckets => exact ⟨.inr rfl, h.buckets.bucket, h.buckets.empty⟩
  case sorted => exact h.sorted
  case past => exact fun t ht => Int.le_trans (h.past t ht) (by dsimp only; omega)
  case times =>
    simp only [CrashLoopDetector.crashTimes_reload, slack, hslack]
    exact h.times.reload h.range (by omega) hle
  case range =>
    intro t ht
    simp only [CrashLoopDetector.crashTimes_reload, List.mem_filterMap] at ht
    obtain ⟨t₀, -, ht⟩ := ht
    split at ht
    · cases ht
      exact ⟨le_restoredTime, restoredTime_le⟩
    · cases ht
  case streak =>
    simp only [CrashLoopDetector.healthySince_reload, slack, hslack]
    simp only [Survives, hslack] at hsurvives
    revert hstreak hstreakRange hsurvives
    cases s.inMemory.healthySince <;> cases s.onDisk.healthySince
    case none.none => exact fun _ _ _ => trivial
    case some.some since since' =>
      intro hstreak hrange hshort
      obtain ⟨hlow, hhigh⟩ := hrange since' rfl
      have hnear' := hstreak
      simp only [StreakTrack] at hnear'
      have hnear := restoredTime_near hle hlow (by omega)
      have hshort' := hshort since rfl
      -- the streak is short enough to be restored
      have hage : restoredAge offset persisted loaded since' < cfg.crashStabilitySecs := by
        have hlt : (fromSecs (restoredAge offset persisted loaded since') : Int) <
            fromSecs cfg.crashStabilitySecs := by
          simp only [restoredTime] at hnear
          omega
        simp only [fromSecs] at hlt
        omega
      simp only [Option.bind_some, if_pos hage]
      exact StreakTrack.moved hstreak hnear
    all_goals exact fun hstreak => hstreak.elim
  case streakRange =>
    intro since hsince
    simp only [CrashLoopDetector.healthySince_reload] at hsince
    obtain ⟨since₀, -, hsince⟩ := Option.bind_eq_some_iff.mp hsince
    split at hsince
    · cases hsince
      exact ⟨le_restoredTime, restoredTime_le⟩
    · cases hsince

/-- Every event that the history survives keeps the two detectors close, with the same answer. -/
theorem Close.step (h : s.Close cfg offset) (hsurvives : s.Survives cfg e)
    (hstep : s.step cfg offset e = some s') :
    s'.Close cfg offset ∧ s.memoryAnswers e = s.diskAnswers e := by
  cases e with
  | reload persisted loaded =>
    simp only [Twin.step] at hstep
    split at hstep
    · next hclock =>
      cases hstep
      exact ⟨h.reload hclock.1 hclock.2 hsurvives, rfl⟩
    · cases hstep
  | call e =>
    simp only [Twin.step] at hstep
    split at hstep
    · next hclock =>
      cases hstep
      cases e with
      | crash phase now =>
        have hle : s.clock ≤ now := by simpa [CrashEvent.time] using hclock
        refine ⟨h.crash hle hsurvives, ?_⟩
        exact congrArg (fun a => (some a).toList) (h.answer hle hsurvives)
      | phaseTransition =>
        refine ⟨?_, rfl⟩
        exact
          { h with
            buckets := h.buckets.clear rfl rfl rfl rfl
            times := h.times
            range := h.range
            streak := h.streak
            streakRange := h.streakRange }
      | healthyTick now =>
        have hle : s.clock ≤ now := by simpa [CrashEvent.time] using hclock
        refine ⟨?_, rfl⟩
        simp only [CrashLoopDetector.step, CrashLoopDetector.recordHealthyTick_eq,
          h.resets_iff hsurvives]
        split
        · exact h.reset
        · exact h.start hle
      | healthyRuntime durationSecs now =>
        have hle : s.clock ≤ now := by simpa [CrashEvent.time] using hclock
        refine ⟨?_, rfl⟩
        have hperiod : asSecs s.inMemory.stabilityPeriod = asSecs s.onDisk.stabilityPeriod := by
          rw [CrashLoopDetector.stabilityPeriod_of_limits h.memoryLimits,
            CrashLoopDetector.stabilityPeriod_of_limits h.diskLimits]
        simp only [CrashLoopDetector.step, CrashLoopDetector.recordHealthyRuntime_eq, hperiod]
        split
        · exact h.mono hle
        · split
          · exact h.reset
          · exact h.start hle
    · cases hstep

end Twin

/-- In a run whose events all survive the history file, reloading the detector between any two calls
gives the decisions of one detector kept in memory. -/
theorem decisions_survive_reloads (cfg : WatchdogConfig) (offset : Nat) (es : List TwinEvent)
    (s : Twin) (hrun : exec (Twin.step cfg offset) (.init cfg) es = some s)
    (hsurvives : Along (Twin.step cfg offset) (Twin.Survives cfg) (.init cfg) es) :
    yields (Twin.step cfg offset) Twin.memoryAnswers (.init cfg) es =
      yields (Twin.step cfg offset) Twin.diskAnswers (.init cfg) es := by
  refine yields_congr (I := Twin.Close cfg offset) ?_ hrun hsurvives Twin.Close.init
  intro s e s' hstep hsurvives hclose
  exact hclose.step hsurvives hstep

/-- Two crashes in one phase, the detector reloaded between them. -/
theorem decisions_survive_reload :
    let es := [.call (.crash (some "forge") (fromSecs 1000)),
      .reload (fromSecs 1010) (fromSecs 1020), .call (.crash (some "forge") (fromSecs 1030))]
    let step := Twin.step .default (fromSecs 1700000000)
    yields step Twin.memoryAnswers (.init .default) es =
      yields step Twin.diskAnswers (.init .default) es := by
  intro es step
  obtain ⟨s, hrun, -⟩ := exists_of_any (o := exec step (.init .default) es) (P := fun _ => True)
    (by decide)
  exact decisions_survive_reloads .default _ es s hrun (by decide)

/-- A phase crashes three times, the next phase once, and then the first again, the detector reloaded
after each crash: in memory the crash of the second phase cleared the bucket of the first, on disk it
did not, and the last crash is stopped. -/
theorem reload_keeps_stale_bucket :
    ∃ (cfg : WatchdogConfig) (offset : Nat) (es : List TwinEvent) (s : Twin),
      exec (Twin.step cfg offset) (.init cfg) es = some s ∧
      yields (Twin.step cfg offset) Twin.memoryAnswers (.init cfg) es ≠
        yields (Twin.step cfg offset) Twin.diskAnswers (.init cfg) es := by
  let es : List TwinEvent :=
    [.call (.crash (some "forge") (fromSecs 1000)), .reload (fromSecs 1000) (fromSecs 2000),
      .call (.crash (some "forge") (fromSecs 2000)), .reload (fromSecs 2000) (fromSecs 3000),
      .call (.crash (some "forge") (fromSecs 3000)), .reload (fromSecs 3000) (fromSecs 4000),
      .call (.crash (some "work") (fromSecs 4000)), .reload (fromSecs 4000) (fromSecs 5000),
      .call (.crash (some "forge") (fromSecs 5000))]
  obtain ⟨s, hrun, -⟩ := exists_of_any (P := fun _ => True)
    (o := exec (Twin.step .default (fromSecs 1700000000)) (.init .default) es) (by decide)
  exact ⟨.default, fromSecs 1700000000, es, s, hrun, by decide⟩

end GreaterWill
