import GreaterWill.Daemon.KillGate
import GreaterWill.Daemon.TickFrame
import GreaterWill.Lib.Ladder

/-!
# The escalation of gaps

Between two phases, and after a failed phase, the monitor nudges the session, warns it, and asks for
a kill. Both gaps are escalated by the same ladder: their start is noted when the checkpoint shows
them first, dated back to what the checkpoint says, and it is the age that decides. A gap that is
old when it is seen first is asked to be killed for without a nudge.
-/

namespace GreaterWill

namespace DaemonRunMonitor

/-- The gaps the monitor escalates. -/
inductive GapKind where
  | transition
  | failed

namespace GapKind

/-- The thresholds in seconds. -/
def ladder : GapKind → Ladder
  | transition =>
    ⟨TRANSITION_NUDGE_SECS, TRANSITION_WARN_SECS, TRANSITION_KILL_SECS, by decide, by decide⟩
  | failed => ⟨FAILED_NUDGE_SECS, FAILED_WARN_SECS, FAILED_KILL_SECS, by decide, by decide⟩

def since : GapKind → DaemonRunMonitor → Option Int
  | transition => DaemonRunMonitor.inTransitionSince
  | failed => DaemonRunMonitor.inFailedSince

def nudgeCount : GapKind → DaemonRunMonitor → Nat
  | transition => DaemonRunMonitor.transitionNudgeCount
  | failed => DaemonRunMonitor.failedNudgeCount

/-- Whether the checkpoint shows the gap. -/
def shown : GapKind → PhasePosition → Bool
  | transition, position => !position.hasFailure && position.isTransitioning
  | failed, position => position.hasFailure

/-- The monitor that checks the gap, of the monitor that comes to the escalations. -/
def checkedBy (g : GapKind) (x : DaemonRunMonitor) (w : Surroundings) : DaemonRunMonitor :=
  match g with
  | transition => x.checkPhaseTimeout w
  | failed => (x.checkPhaseTimeout w).checkTransitionGap w

def check (g : GapKind) (m : DaemonRunMonitor) (w : Surroundings) : DaemonRunMonitor :=
  match g with
  | transition => m.checkTransitionGap w
  | failed => m.checkFailedPhase w

end GapKind

section
variable (g : GapKind) (probes : Probes) (m : DaemonRunMonitor) (w : Surroundings)

/-- The tick comes to the check of the gap with the monitor `x`. -/
def ChecksGap (x : DaemonRunMonitor) : Prop :=
  m.PastPane probes w ∧ ∃ y, (m.seen probes w).beforeEscalation probes w = .ok y ∧
    g.checkedBy y w = x

/-- The check asks for a kill. -/
def AsksGapKill : Prop :=
  ∃ x, m.ChecksGap g probes w x ∧ x.pendingKill = none ∧
    (g.check x w).pendingKill.isSome = true

/-- The check sends the nudge. -/
def NudgesGap : Prop :=
  ∃ x, m.ChecksGap g probes w x ∧ g.nudgeCount x = 0 ∧ g.nudgeCount (g.check x w) = 1

/-- The check sends the warning. -/
def WarnsGap : Prop :=
  ∃ x, m.ChecksGap g probes w x ∧ g.nudgeCount x < 2 ∧ g.nudgeCount (g.check x w) = 2

/-- The check finds the gap at the given age, in seconds, with a kill pending or not. -/
def FindsGap (age : Nat) (pending : Bool) : Prop :=
  ∃ x start, m.ChecksGap g probes w x ∧ g.since x = some start ∧ elapsedSecs w.now start = age ∧
    x.pendingKill.isSome = pending

end

/-- The gap of the tick `i` is there until the tick `n`. -/
def SameGap (g : GapKind) (m : Nat → DaemonRunMonitor) (i n : Nat) : Prop :=
  ∀ j, i ≤ j → j < n → (g.since (m (j + 1))).isSome = true

/-- How the gaps of a run that has come to the tick `n` are escalated. -/
structure Escalates (g : GapKind) (probes : Probes) (w : Nat → Surroundings)
    (m : Nat → DaemonRunMonitor) (n : Nat) : Prop where
  nudgeOnce : ∀ i j, i < j → j ≤ n → SameGap g m i j → (m i).NudgesGap g probes (w i) →
    ¬ (m j).NudgesGap g probes (w j)
  warnOnce : ∀ i j, i < j → j ≤ n → SameGap g m i j → (m i).WarnsGap g probes (w i) →
    ¬ (m j).WarnsGap g probes (w j)
  /-- A nudge comes before the warning. -/
  ordered : ∀ i j, i < j → j ≤ n → SameGap g m i j → (m i).WarnsGap g probes (w i) →
    ¬ (m j).NudgesGap g probes (w j)
  /-- A kill is asked for by the age of the gap. -/
  late : (m n).AsksGapKill g probes (w n) →
    ∃ age, (m n).FindsGap g probes (w n) age false ∧ g.ladder.last < age
  /-- A nudge and a warning were sent before exactly if the gap was found at the ages for them. -/
  announced : (∃ i j, i < j ∧ j < n ∧ SameGap g m i n ∧ (m i).NudgesGap g probes (w i) ∧
      (m j).WarnsGap g probes (w j)) ↔
    (∃ i < n, SameGap g m i n ∧ ∃ age pending, (m i).FindsGap g probes (w i) age pending ∧
      g.ladder.first < age ∧ age ≤ g.ladder.second) ∧
    ∃ j < n, SameGap g m j n ∧ ∃ age pending, (m j).FindsGap g probes (w j) age pending ∧
      g.ladder.second < age ∧ (age ≤ g.ladder.last ∨ pending = true)

/-! ## The gap as a state of the ladder -/

/-- When a gap of the checkpoint began: it may have begun before the monitor saw it. -/
def gapStart (probes : Probes) (w : Surroundings) (position : PhasePosition) : Int :=
  ((position.transitionGapSecs probes.parseRfc3339 w.utcNow).bind fun s =>
    checkedSub w.now (fromSecs s)).getD w.now

namespace GapKind

def state (g : GapKind) (m : DaemonRunMonitor) : Ladder.State Int := ⟨g.since m, g.nudgeCount m⟩

/-- What the poll of the checkpoint finds. -/
def finds (g : GapKind) (probes : Probes) (m : DaemonRunMonitor) (w : Surroundings) :
    Ladder.Finds Int :=
  match m.resolvedCheckpoint probes w with
  | none => .nothing
  | some cp =>
    if g.shown cp.inferPhasePosition then .gap (gapStart probes w cp.inferPhasePosition) else .noGap

section
variable (g : GapKind) {probes : Probes} {m x y : DaemonRunMonitor} {w : Surroundings}

theorem state_trackGaps (position : PhasePosition) : g.state (m.trackGaps probes w position) =
    (g.state m).find (if g.shown position then .gap (gapStart probes w position) else .noGap) := by
  rw [trackGaps]
  cases hfailed : position.hasFailure with
  | true =>
    cases g with
    | transition => simp [shown, hfailed, state, since, nudgeCount, Ladder.State.find]
    | failed => simp [shown, hfailed, state, since, nudgeCount, Ladder.State.find, gapStart]
  | false =>
    cases hbetween : position.isTransitioning with
    | true =>
      cases g with
      | transition =>
        simp [shown, hfailed, hbetween, state, since, nudgeCount, Ladder.State.find, gapStart]
      | failed => simp [shown, hfailed, state, since, nudgeCount, Ladder.State.find]
    | false =>
      cases g with
      | transition => simp [shown, hbetween, state, since, nudgeCount, Ladder.State.find]
      | failed => simp [shown, hfailed, state, since, nudgeCount, Ladder.State.find]

theorem state_pollCheckpoint :
    g.state (m.pollCheckpoint probes w) = (g.state m).find (g.finds probes m w) := by
  rw [finds]
  cases hcp : m.resolvedCheckpoint probes w with
  | none =>
    rw [pollCheckpoint_of_none probes m w hcp]
    rfl
  | some cp =>
    dsimp only
    rw [resolvedCheckpoint] at hcp
    rw [pollCheckpoint]
    split
    · next hread =>
      rw [hread] at hcp
      cases hcp
    · next cp' cache hread =>
      rw [hread] at hcp
      obtain rfl : cp' = cp := Option.some.inj hcp
      dsimp only
      rw [state_trackGaps]
      obtain ⟨_, _, _, _, _, hphase⟩ := trackPhase_spec
        { m with cachedCheckpointPath := cache, lastCheckpointActivity := w.now } w cp'
      rw [hphase]
      cases g with
      | transition => rfl
      | failed => rfl

/-- What the check of the gap leads to. -/
def rung (x : DaemonRunMonitor) (w : Surroundings) : Option Ladder.Rung :=
  (g.since x).bind fun start =>
    g.ladder.rung (elapsedSecs w.now start) x.pendingKill.isSome (g.nudgeCount x)

theorem state_requestKill (reason : String) (outcome : KillOutcomeKind) :
    g.state (x.requestKill w reason outcome) = g.state x := by
  obtain ⟨k, hkill, -⟩ := x.requestKill_spec w reason outcome
  rw [hkill]
  cases g with
  | transition => rfl
  | failed => rfl

/-- The conditions of the ladder as the checks have them. -/
theorem rung_of_since {start : Int} (hsince : g.since x = some start) : g.rung x w =
    if g.ladder.last < elapsedSecs w.now start && x.pendingKill.isNone then some .last
    else if g.ladder.second < elapsedSecs w.now start && g.nudgeCount x < 2 then some .second
    else if g.ladder.first < elapsedSecs w.now start && g.nudgeCount x < 1 then some .first
    else none := by
  rw [rung, hsince, Option.bind_some, Ladder.rung]
  simp

/-- What a check leaves of its gap and of the kill. -/
structure Checked (x y : DaemonRunMonitor) (r : Option Ladder.Rung) : Prop where
  state : g.state y = ⟨g.since x, Ladder.givenAfter (g.nudgeCount x) r⟩
  kill : y.pendingKill.isSome = true ↔ x.pendingKill.isSome = true ∨ r = some .last

variable {g} in
theorem Checked.of_kill {reason : String} {outcome : KillOutcomeKind} :
    g.Checked x (x.requestKill w reason outcome) (some .last) where
  state := g.state_requestKill reason outcome
  kill := by
    refine iff_of_true ?_ (.inr rfl)
    rw [requestKill]
    cases h : x.pendingKill with
    | none => rfl
    | some pk => rw [h]; rfl

variable {g} in
theorem Checked.of_kept {r : Option Ladder.Rung} (hstate : g.state y =
    ⟨g.since x, Ladder.givenAfter (g.nudgeCount x) r⟩) (hkill : y.pendingKill = x.pendingKill)
    (hr : r ≠ some .last) : g.Checked x y r where
  state := hstate
  kill := by simp [hkill, hr]

theorem check_of_none (hsince : g.since x = none) : g.check x w = x := by
  cases g with
  | transition =>
    rw [since] at hsince
    rw [check, checkTransitionGap, hsince]
  | failed =>
    rw [since] at hsince
    rw [check, checkFailedPhase, hsince]

theorem check_spec : g.Checked x (g.check x w) (g.rung x w) := by
  cases hsince : g.since x with
  | none =>
    have hrung : g.rung x w = none := by rw [rung, hsince, Option.bind_none]
    rw [g.check_of_none hsince, hrung]
    exact .of_kept rfl rfl (by decide)
  | some start =>
    cases g with
    | transition =>
      have hrung : transition.rung x w =
          if TRANSITION_KILL_SECS < elapsedSecs w.now start && x.pendingKill.isNone then some .last
          else if TRANSITION_WARN_SECS < elapsedSecs w.now start && x.transitionNudgeCount < 2 then
            some .second
          else if TRANSITION_NUDGE_SECS < elapsedSecs w.now start && x.transitionNudgeCount < 1 then
            some .first
          else none := rung_of_since transition hsince
      rw [hrung, check, checkTransitionGap]
      split
      · next hnone => cases hsince.symm.trans hnone
      · next start' hstart =>
        cases hsince.symm.trans hstart
        dsimp only
        split
        · exact .of_kill
        · split
          · exact .of_kept rfl rfl (by decide)
          · split
            · exact .of_kept rfl rfl (by decide)
            · exact .of_kept rfl rfl (by decide)
    | failed =>
      have hrung : failed.rung x w =
          if FAILED_KILL_SECS < elapsedSecs w.now start && x.pendingKill.isNone then some .last
          else if FAILED_WARN_SECS < elapsedSecs w.now start && x.failedNudgeCount < 2 then
            some .second
          else if FAILED_NUDGE_SECS < elapsedSecs w.now start && x.failedNudgeCount < 1 then
            some .first
          else none := rung_of_since failed hsince
      rw [hrung, check, checkFailedPhase]
      split
      · next hnone => cases hsince.symm.trans hnone
      · next start' hstart =>
        cases hsince.symm.trans hstart
        dsimp only
        split
        · exact .of_kill
        · split
          · exact .of_kept rfl rfl (by decide)
          · split
            · exact .of_kept rfl rfl (by decide)
            · exact .of_kept rfl rfl (by decide)

/-! ## The other steps of the escalation -/

theorem state_checkPhaseTimeout : g.state (x.checkPhaseTimeout w) = g.state x := by
  rw [checkPhaseTimeout]
  split
  · rfl
  · dsimp only
    generalize (if 0 < x.effectivePhaseTimeout then x.effectivePhaseTimeout
      else x.currentProfile.phaseTimeoutSecs) = budget
    split
    · exact g.state_requestKill _ _
    · rfl

theorem state_checkIdleOutsideGaps : g.state (x.checkIdleOutsideGaps w) = g.state x := by
  rw [checkIdleOutsideGaps]
  split
  · rw [checkIdle]
    split
    · exact g.state_requestKill _ _
    · split
      · cases g with
        | transition => rfl
        | failed => rfl
      · rfl
  · rfl

theorem failed_checkTransitionGap : failed.state (x.checkTransitionGap w) = failed.state x := by
  rw [checkTransitionGap]
  split
  · rfl
  · dsimp only
    split
    · exact failed.state_requestKill _ _
    · split
      · rfl
      · split
        · rfl
        · rfl

theorem transition_checkFailedPhase :
    transition.state (x.checkFailedPhase w) = transition.state x := by
  rw [checkFailedPhase]
  split
  · rfl
  · dsimp only
    split
    · exact transition.state_requestKill _ _
    · split
      · rfl
      · split
        · rfl
        · rfl

theorem state_checkedBy : g.state (g.checkedBy x w) = g.state x := by
  cases g with
  | transition => exact state_checkPhaseTimeout transition
  | failed => exact failed_checkTransitionGap.trans (state_checkPhaseTimeout failed)

/-- Only its own check moves a gap within the escalations. -/
theorem state_escalate : g.state (x.escalate w) = g.state (g.check (g.checkedBy x w) w) := by
  rw [escalate, state_checkIdleOutsideGaps]
  cases g with
  | transition => exact transition_checkFailedPhase
  | failed => rfl

end

end GapKind

/-! ## A tick -/

section
variable {g : GapKind} {probes : Probes} {m m' x : DaemonRunMonitor} {w : Surroundings}

instance : Decidable (m.PastPane probes w) :=
  decidable_of_iff (durationSince w.now m.runStartedAt < fromSecs m.watchdog.pipelineTimeoutSecs ∧
      (m.probeSession w).1 = false ∧ m.promptAccepted probes w = false)
    ⟨fun h => ⟨h.1, h.2.1, h.2.2⟩, fun h => ⟨h.inBudget, h.sessionThere, h.noPrompt⟩⟩

/-- The monitor that comes to the check of the gap. -/
def checking (g : GapKind) (probes : Probes) (m : DaemonRunMonitor) (w : Surroundings) :
    Option DaemonRunMonitor :=
  if m.PastPane probes w then
    ((m.seen probes w).beforeEscalation probes w).toOption.map (g.checkedBy · w)
  else none

/-- The tick as a look at the gap. -/
def look (g : GapKind) (probes : Probes) (m : DaemonRunMonitor) (w : Surroundings) :
    Option (Ladder.Look Int) :=
  (m.checking g probes w).map fun x =>
    { finds := g.finds probes (m.seen probes w) w
      now := w.now
      held := x.pendingKill.isSome }

/-- The age of a gap in seconds. -/
def gapAge (now start : Int) : Nat := asSecs (durationSince now start)

theorem checking_eq_some : m.checking g probes w = some x ↔ m.ChecksGap g probes w x := by
  rw [checking, ChecksGap]
  by_cases hpast : m.PastPane probes w
  · rw [if_pos hpast]
    cases (m.seen probes w).beforeEscalation probes w with
    | error outcome => simp [Except.toOption]
    | ok y => simp [Except.toOption, hpast]
  · simp [hpast]

/-- What is seen of the pane leaves the gaps. -/
theorem state_seen : g.state (m.seen probes w) = g.state m := by
  obtain ⟨_, _, _, _, _, _, _, _, hseen, -, -⟩ := m.seen_spec probes w
  rw [hseen]
  cases g with
  | transition => rfl
  | failed => rfl

/-- The monitor that comes to the check has what the poll found. -/
theorem ChecksGap.state (h : m.ChecksGap g probes w x) :
    g.state x = (g.state m).find (g.finds probes (m.seen probes w) w) := by
  obtain ⟨-, y, hbefore, rfl⟩ := h
  have hsame := (beforeEscalation_ok hbefore).1
  have hseen : g.state (m.seen probes w) = g.state m := state_seen
  rw [g.state_checkedBy, ← hseen, ← g.state_pollCheckpoint]
  cases g with
  | transition => exact congrArg₂ Ladder.State.mk hsame.inTransitionSince hsame.transitionNudgeCount
  | failed => exact congrArg₂ Ladder.State.mk hsame.inFailedSince hsame.failedNudgeCount

/-- A check goes by the ladder. -/
theorem ChecksGap.rungAt (h : m.ChecksGap g probes w x) :
    (g.state m).rungAt g.ladder gapAge
      { finds := g.finds probes (m.seen probes w) w
        now := w.now
        held := x.pendingKill.isSome } = g.rung x w := by
  rw [Ladder.State.rungAt, ← h.state]
  rfl

theorem ChecksGap.look (h : m.ChecksGap g probes w x) : m.look g probes w =
    some { finds := g.finds probes (m.seen probes w) w
           now := w.now
           held := x.pendingKill.isSome } := by
  rw [DaemonRunMonitor.look, checking_eq_some.mpr h, Option.map_some]

/-- A tick moves the gap as a look moves the ladder. -/
theorem state_tick (h : m.tick probes w = .ok m') :
    g.state m' = (g.state m).next g.ladder gapAge (m.look g probes w) := by
  rcases tick_ok h with ⟨hpast, -⟩ | ⟨haccepted, rfl⟩
  · obtain ⟨z, hz, hgate⟩ := tick_gated h hpast.noPrompt
    obtain ⟨y, hbefore, rfl⟩ := upToGate_ok_iff.mp hz
    obtain ⟨_, rfl⟩ := evaluateKillGate_ok _ w hgate
    have hchecks : m.ChecksGap g probes w (g.checkedBy y w) := ⟨hpast, y, hbefore, rfl⟩
    have hkill (k : Option PendingKillRequest) :
        g.state { y.escalate w with pendingKill := k } = g.state (y.escalate w) := by
      cases g with
      | transition => rfl
      | failed => rfl
    rw [hkill, g.state_escalate, g.check_spec.state, hchecks.look, Ladder.State.next,
      hchecks.rungAt, ← hchecks.state]
    rfl
  · have hno : ¬ m.PastPane probes w := fun hpast => by
      rw [hpast.noPrompt] at haccepted
      cases haccepted
    rw [DaemonRunMonitor.look, checking, if_neg hno]
    exact state_seen

theorem ChecksGap.unique {y : DaemonRunMonitor} (h : m.ChecksGap g probes w x)
    (h' : m.ChecksGap g probes w y) : x = y :=
  Option.some.inj ((checking_eq_some.mpr h).symm.trans (checking_eq_some.mpr h'))

/-- The rung of a tick is that of its check. -/
theorem rung_look {r : Ladder.Rung} :
    (m.look g probes w).bind ((g.state m).rungAt g.ladder gapAge) = some r ↔
      ∃ x, m.ChecksGap g probes w x ∧ g.rung x w = some r := by
  constructor
  · intro h
    obtain ⟨look, hlook, -⟩ := Option.bind_eq_some_iff.mp h
    obtain ⟨x, hx, -⟩ := Option.map_eq_some_iff.mp hlook
    have hchecks : m.ChecksGap g probes w x := checking_eq_some.mp hx
    rw [hchecks.look, Option.bind_some, hchecks.rungAt] at h
    exact ⟨x, hchecks, h⟩
  · rintro ⟨x, hchecks, h⟩
    rw [hchecks.look, Option.bind_some, hchecks.rungAt, h]

theorem nudgeCount_check : g.nudgeCount (g.check x w) =
    Ladder.givenAfter (g.nudgeCount x) (g.rung x w) :=
  congrArg Ladder.State.given g.check_spec.state

theorem rung_eq_some {r : Ladder.Rung} (h : g.rung x w = some r) : ∃ start,
    g.since x = some start ∧
      g.ladder.rung (elapsedSecs w.now start) x.pendingKill.isSome (g.nudgeCount x) = some r :=
  Option.bind_eq_some_iff.mp h

theorem nudgesGap_iff : m.NudgesGap g probes w ↔
    (m.look g probes w).bind ((g.state m).rungAt g.ladder gapAge) = some .first := by
  rw [rung_look]
  refine exists_congr fun x => and_congr_right fun _ => ?_
  rw [nudgeCount_check]
  constructor
  · rintro ⟨hzero, hone⟩
    cases h : g.rung x w with
    | none =>
      rw [h, hzero] at hone
      cases hone
    | some r =>
      rw [h, hzero] at hone
      cases r with
      | first => rfl
      | second => cases hone
      | last => cases hone
  · intro h
    obtain ⟨start, -, hrung⟩ := rung_eq_some h
    rw [h]
    exact ⟨(Ladder.rung_eq_first.mp hrung).2.2, rfl⟩

theorem warnsGap_iff : m.WarnsGap g probes w ↔
    (m.look g probes w).bind ((g.state m).rungAt g.ladder gapAge) = some .second := by
  rw [rung_look]
  refine exists_congr fun x => and_congr_right fun _ => ?_
  rw [nudgeCount_check]
  constructor
  · rintro ⟨hless, htwo⟩
    cases h : g.rung x w with
    | none =>
      rw [h] at htwo
      exact absurd hless (Nat.not_lt.mpr (Nat.le_of_eq htwo.symm))
    | some r =>
      rw [h] at htwo
      cases r with
      | first => cases htwo
      | second => rfl
      | last => exact absurd hless (Nat.not_lt.mpr (Nat.le_of_eq htwo.symm))
  · intro h
    obtain ⟨start, -, hrung⟩ := rung_eq_some h
    rw [h]
    exact ⟨(Ladder.rung_eq_second.mp hrung).2.2, rfl⟩

/-- A kill is asked for by the age of the gap. -/
theorem AsksGapKill.late (h : m.AsksGapKill g probes w) :
    ∃ age, m.FindsGap g probes w age false ∧ g.ladder.last < age := by
  obtain ⟨x, hchecks, hnone, hkill⟩ := h
  have hrung : g.rung x w = some .last := by
    rcases g.check_spec.kill.mp hkill with hpending | hrung
    · rw [hnone] at hpending
      cases hpending
    · exact hrung
  obtain ⟨start, hsince, hrung⟩ := rung_eq_some hrung
  exact ⟨_, ⟨x, start, hchecks, hsince, rfl, by rw [hnone]; rfl⟩, (Ladder.rung_eq_last.mp hrung).1⟩

end

/-! ## A run -/

section
variable {g : GapKind} {probes : Probes} {w : Nat → Surroundings} {m : Nat → DaemonRunMonitor}
  {n : Nat}

theorem MonitorRun.climb (hrun : MonitorRun probes w m n) (g : GapKind) :
    @Ladder.Climb Int g.ladder gapAge Int.instLinearOrder.toPreorder (fun k => g.state (m k))
      (fun k => (m k).look g probes (w k)) n where
  starts := by
    obtain ⟨_, _, _, _, _, _, hnew, -⟩ := hrun.starts
    rw [hnew]
    cases g with
    | transition => rfl
    | failed => rfl
  steps k hk := state_tick (hrun.ticks k hk)
  clock j k hjk look hlook look' hlook' := by
    obtain ⟨_, -, rfl⟩ := Option.map_eq_some_iff.mp hlook
    obtain ⟨_, -, rfl⟩ := Option.map_eq_some_iff.mp hlook'
    exact hrun.now_le hjk
  ages start := by
    intro now now' hle
    exact Nat.div_le_div_right (Int.toNat_le_toNat (Int.sub_le_sub_right hle start))

theorem sees_iff {k age : Nat} {pending : Bool} :
    Ladder.Sees gapAge (fun k => g.state (m k)) (fun k => (m k).look g probes (w k)) k age pending ↔
      (m k).FindsGap g probes (w k) age pending := by
  constructor
  · rintro ⟨look, start, hlook, hstart, rfl, rfl⟩
    obtain ⟨x, hx, rfl⟩ := Option.map_eq_some_iff.mp hlook
    have hchecks : (m k).ChecksGap g probes (w k) x := checking_eq_some.mp hx
    rw [← hchecks.state] at hstart
    exact ⟨x, start, hchecks, hstart, rfl, rfl⟩
  · rintro ⟨x, start, hchecks, hsince, rfl, rfl⟩
    refine ⟨_, start, hchecks.look, ?_, rfl, rfl⟩
    rw [← hchecks.state]
    exact hsince

/-- The gaps of a run are escalated by their age. -/
theorem MonitorRun.escalates (hrun : MonitorRun probes w m n) (g : GapKind) :
    Escalates g probes w m n where
  nudgeOnce i j hij hjn hsame hi hj := by
    have honce := (hrun.climb g).once hij hjn hsame (nudgesGap_iff.mp hi) (nudgesGap_iff.mp hj)
      nofun nofun
    cases honce.2
  warnOnce i j hij hjn hsame hi hj := by
    have honce := (hrun.climb g).once hij hjn hsame (warnsGap_iff.mp hi) (warnsGap_iff.mp hj)
      nofun nofun
    cases honce.1
  ordered i j hij hjn hsame hi hj := by
    have honce := (hrun.climb g).once hij hjn hsame (warnsGap_iff.mp hi) (nudgesGap_iff.mp hj)
      nofun nofun
    cases honce.1
  late := AsksGapKill.late
  announced := by
    have hboth := (hrun.climb g).both_given_iff (Nat.le_refl n)
    simp only [sees_iff] at hboth
    simp only [nudgesGap_iff, warnsGap_iff]
    exact hboth

end

end DaemonRunMonitor

end GreaterWill
