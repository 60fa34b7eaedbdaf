import GreaterWill.Daemon.KillGate
import GreaterWill.Daemon.TickFrame
import GreaterWill.Lib.Run

/-!
# When an error asks for a kill

The error evidence is evaluated at the ticks that capture the pane and answer no prompt. A timer
notes since when the evaluations have found the same class of errors: it starts with the first one,
starts again when the class changes, and is cleared by an evaluation that finds no error. The kill
is asked for when it has run for the confirmation time.
-/

namespace GreaterWill

namespace DaemonRunMonitor

section
variable (probes : Probes) (m : DaemonRunMonitor) (w : Surroundings)

/-- The monitor after the pane text and its prompt. -/
def prompted (content : String) : DaemonRunMonitor :=
  (((m.probed probes w).updateActivityFromPane probes w content).checkPromptAccept probes w
    content).2

/-- The monitor where the error evidence is evaluated. -/
def beforeEvidence (content : String) : DaemonRunMonitor :=
  (m.prompted probes w content).checkPaneCompletion probes w content

/-- The tick evaluates the error evidence, and finds the given class or no error. -/
structure Evaluates (found : Option ErrorClass) : Prop where
  past : m.PastPane probes w
  finds : ∃ content, w.pane = some content ∧
    (((m.beforeEvidence probes w content).refreshSwarmActivity w).errorEvidence probes w
      content).classify = found

/-- No kill is pending where the evidence is evaluated. -/
def NonePending : Prop :=
  ∀ content, w.pane = some content → (m.beforeEvidence probes w content).pendingKill = none

/-- The evaluation of the evidence asks for a kill. -/
structure AsksErrorKill (errorClass : ErrorClass) : Prop where
  past : m.PastPane probes w
  asks : ∃ content pk, w.pane = some content ∧
    (m.beforeEvidence probes w content).pendingKill = none ∧
    ((m.beforeEvidence probes w content).evaluateErrorEvidence probes w content).pendingKill =
      some pk ∧ pk.outcome = .errorDetected errorClass

end

/-- How long an error is confirmed before it asks for a kill, in seconds. -/
def errorConfirmSecs (m : DaemonRunMonitor) : Nat :=
  max m.watchdog.errorConfirmHighSecs KILL_GATE_MIN_SECS

/-- The timer after an evaluation. -/
def confirmedSince (now : Int) (since : Option (Int × ErrorClass)) :
    Option ErrorClass → Option (Int × ErrorClass)
  | none => none
  | some errorClass =>
    match since with
    | none => some (now, errorClass)
    | some (start, prevClass) =>
      if prevClass ≠ errorClass then some (now, errorClass) else some (start, prevClass)

theorem confirmedSince_eq_some {now start : Int} {since : Option (Int × ErrorClass)}
    {found : Option ErrorClass} {errorClass : ErrorClass}
    (h : confirmedSince now since found = some (start, errorClass)) :
    found = some errorClass ∧ (since = some (start, errorClass) ∨ start = now) := by
  cases found with
  | none => cases h
  | some c =>
    cases since with
    | none =>
      cases h
      exact ⟨rfl, .inr rfl⟩
    | some pair =>
      dsimp only [confirmedSince] at h
      split at h
      · cases h
        exact ⟨rfl, .inr rfl⟩
      · next heq =>
        cases h
        exact ⟨congrArg some (not_not.mp heq).symm, .inl rfl⟩

theorem confirmedSince_same {now start : Int} {c : ErrorClass} :
    confirmedSince now (some (start, c)) (some c) = some (start, c) :=
  if_neg (not_not.mpr rfl)

theorem confirmedSince_some (now : Int) (since : Option (Int × ErrorClass))
    (errorClass : ErrorClass) :
    ∃ start, confirmedSince now since (some errorClass) = some (start, errorClass) := by
  cases since with
  | none => exact ⟨now, rfl⟩
  | some pair =>
    obtain ⟨start, prevClass⟩ := pair
    by_cases heq : prevClass = errorClass
    · subst heq
      exact ⟨start, confirmedSince_same⟩
    · exact ⟨now, if_pos heq⟩

/-- Every evaluation from the tick `k` to the tick `n` finds the class; both ticks evaluate. -/
structure Persists (probes : Probes) (w : Nat → Surroundings) (m : Nat → DaemonRunMonitor)
    (errorClass : ErrorClass) (k n : Nat) : Prop where
  first : (m k).Evaluates probes (w k) (some errorClass)
  last : (m n).Evaluates probes (w n) (some errorClass)
  between : ∀ j, k ≤ j → j ≤ n → ∀ found, (m j).Evaluates probes (w j) found →
    found = some errorClass

section
variable {probes : Probes} {m m' : DaemonRunMonitor} {w : Surroundings} {found : Option ErrorClass}
  {errorClass : ErrorClass}

/-! ## One tick -/

theorem refreshSwarmActivity_kept :
    (m.refreshSwarmActivity w).errorConfirmSince = m.errorConfirmSince ∧
    (m.refreshSwarmActivity w).pendingKill = m.pendingKill ∧
    (m.refreshSwarmActivity w).watchdog = m.watchdog := by
  rw [refreshSwarmActivity]
  split
  · exact ⟨rfl, rfl, rfl⟩
  · exact ⟨rfl, rfl, rfl⟩

/-- The steps before the evaluation leave the timer alone. -/
theorem prompted_kept (content : String) :
    (m.prompted probes w content).errorConfirmSince = m.errorConfirmSince ∧
    (m.prompted probes w content).watchdog = m.watchdog := by
  obtain ⟨c, k, u, hprobed, -, -⟩ := m.probed_spec probes w
  have hactivity : ((m.probed probes w).updateActivityFromPane probes w content).errorConfirmSince =
        (m.probed probes w).errorConfirmSince ∧
      ((m.probed probes w).updateActivityFromPane probes w content).watchdog =
        (m.probed probes w).watchdog := by
    rw [updateActivityFromPane]
    split
    · exact ⟨rfl, rfl⟩
    · exact ⟨rfl, rfl⟩
  rw [hprobed] at hactivity
  rw [prompted, hprobed]
  exact hactivity

theorem beforeEvidence_kept (content : String) :
    (m.beforeEvidence probes w content).errorConfirmSince = m.errorConfirmSince ∧
    (m.beforeEvidence probes w content).watchdog = m.watchdog := by
  obtain ⟨d, hcompletion, -⟩ := checkPaneCompletion_spec probes (m.prompted probes w content) w
    content
  rw [beforeEvidence, hcompletion]
  exact prompted_kept content

@[simp] theorem errorConfirmSince_requestKill (reason : String) (outcome : KillOutcomeKind) :
    (m.requestKill w reason outcome).errorConfirmSince = m.errorConfirmSince := by
  obtain ⟨k, hkill, -⟩ := m.requestKill_spec w reason outcome
  rw [hkill]

theorem pendingKill_requestKill {reason : String} {outcome : KillOutcomeKind}
    (hnone : m.pendingKill = none) : (m.requestKill w reason outcome).pendingKill =
      some { reason, outcome, startedAt := w.now } := by
  rw [requestKill, hnone]

/-- An evaluation sets the timer by what it finds. -/
theorem errorConfirmSince_evaluate {content : String}
    (hfound : ((m.refreshSwarmActivity w).errorEvidence probes w content).classify = found) :
    (m.evaluateErrorEvidence probes w content).errorConfirmSince =
      confirmedSince w.now m.errorConfirmSince found := by
  have hkept := (refreshSwarmActivity_kept (m := m) (w := w)).1
  rw [evaluateErrorEvidence]
  dsimp only
  rw [hfound, ← hkept]
  cases found with
  | none => rfl
  | some errorClass =>
    cases hsince : (m.refreshSwarmActivity w).errorConfirmSince with
    | none => rfl
    | some pair =>
      obtain ⟨start, prevClass⟩ := pair
      dsimp only [confirmedSince]
      split
      · rfl
      · split
        · exact (errorConfirmSince_requestKill _ _).trans hsince
        · exact hsince

/-- An evaluation asks for a kill when its class is confirmed for long enough. -/
theorem pendingKill_evaluate {content : String} (hnone : m.pendingKill = none) :
    (∃ pk, (m.evaluateErrorEvidence probes w content).pendingKill = some pk ∧
        pk.outcome = .errorDetected errorClass) ↔
      ((m.refreshSwarmActivity w).errorEvidence probes w content).classify = some errorClass ∧
        ∃ start, m.errorConfirmSince = some (start, errorClass) ∧
          m.errorConfirmSecs ≤ elapsedSecs w.now start := by
  obtain ⟨hsince, hkill, hwatchdog⟩ := refreshSwarmActivity_kept (m := m) (w := w)
  rw [evaluateErrorEvidence, errorConfirmSecs, ← hwatchdog, ← hsince]
  rw [← hkill] at hnone
  dsimp only
  cases hfound : ((m.refreshSwarmActivity w).errorEvidence probes w content).classify with
  | none => simp [hnone]
  | some found =>
    dsimp only
    cases (m.refreshSwarmActivity w).errorConfirmSince with
    | none => simp [hnone]
    | some pair =>
      obtain ⟨start, prevClass⟩ := pair
      dsimp only
      split
      · next hne =>
        refine iff_of_false (by simp [hnone]) ?_
        rintro ⟨hsame, _, hstart, -⟩
        cases hsame
        cases hstart
        exact hne rfl
      · next heq =>
        obtain rfl : prevClass = found := not_not.mp heq
        split
        · next hlong =>
          rw [pendingKill_requestKill hnone]
          simpa using fun _ => hlong
        · next hshort =>
          refine iff_of_false (by simp [hnone]) ?_
          rintro ⟨-, _, hstart, hlong⟩
          cases hstart
          exact hshort hlong

/-! ## The timer over a tick -/

theorem checkPromptAccept_probed (content : String) :
    (((m.probed probes w).updateActivityFromPane probes w content).checkPromptAccept probes w
      content).1 =
      (m.promptAcceptor.checkAndAccept probes.toLowercase content w.enterSent w.now).1 := by
  obtain ⟨c, k, u, hprobed, -, -⟩ := m.probed_spec probes w
  have hacceptor : ((m.probed probes w).updateActivityFromPane probes w content).promptAcceptor =
      m.promptAcceptor := by
    rw [hprobed, updateActivityFromPane]
    dsimp only
    split
    · rfl
    · rfl
  rw [checkPromptAccept, hacceptor]

/-- What a tick sees of a pane: with a prompt to answer nothing is evaluated. -/
theorem seen_of_pane {content : String} (hpane : w.pane = some content) : m.seen probes w =
    if m.promptAccepted probes w then m.prompted probes w content
    else (m.beforeEvidence probes w content).evaluateErrorEvidence probes w content := by
  have haccepted : m.promptAccepted probes w =
      (((m.probed probes w).updateActivityFromPane probes w content).checkPromptAccept probes w
        content).1 := by
    rw [promptAccepted, hpane, checkPromptAccept_probed]
    rfl
  rw [seen, observePane, hpane, haccepted, beforeEvidence, prompted]
  dsimp only
  cases ((m.probed probes w).updateActivityFromPane probes w content).checkPromptAccept probes w
      content with
  | mk accepted m₁ =>
    cases accepted with
    | true => rfl
    | false => rfl

theorem errorConfirmSince_probed :
    (m.probed probes w).errorConfirmSince = m.errorConfirmSince := by
  obtain ⟨c, k, u, hprobed, -, -⟩ := m.probed_spec probes w
  rw [hprobed]

/-- The timer after a tick: an evaluation sets it, and without one it is kept. -/
theorem errorConfirmSince_tick (h : m.tick probes w = .ok m') :
    (∀ found, m.Evaluates probes w found →
      m'.errorConfirmSince = confirmedSince w.now m.errorConfirmSince found) ∧
    ((∀ found, ¬ m.Evaluates probes w found) → m'.errorConfirmSince = m.errorConfirmSince) := by
  have hseen : m'.errorConfirmSince = (m.seen probes w).errorConfirmSince := by
    rcases tick_ok h with ⟨hpast, -⟩ | ⟨-, rfl⟩
    · obtain ⟨g, hg, hgate⟩ := tick_gated h hpast.noPrompt
      obtain ⟨x, hbefore, rfl⟩ := upToGate_ok_iff.mp hg
      obtain ⟨_, rfl⟩ := evaluateKillGate_ok _ w hgate
      obtain ⟨_, _, _, _, hescalate, -⟩ := x.escalate_escalated w
      obtain ⟨_, _, _, _, _, _, _, _, _, _, _, hpoll, -, -⟩ :=
        (m.seen probes w).pollCheckpoint_spec probes w
      rw [hescalate, (beforeEscalation_ok hbefore).1.errorConfirmSince, hpoll]
    · rfl
  rw [hseen]
  constructor
  · rintro found ⟨hpast, content, hpane, hfound⟩
    rw [seen_of_pane hpane, hpast.noPrompt, if_neg Bool.false_ne_true,
      errorConfirmSince_evaluate hfound, (beforeEvidence_kept content).1]
  · intro hno
    cases hpane : w.pane with
    | none =>
      rw [seen, observePane, hpane]
      exact errorConfirmSince_probed
    | some content =>
      have haccepted : m.promptAccepted probes w = true := by
        rcases tick_ok h with ⟨hpast, -⟩ | ⟨haccepted, -⟩
        · exact absurd ⟨hpast, content, hpane, rfl⟩ (hno _)
        · exact haccepted
      rw [seen_of_pane hpane, if_pos haccepted]
      exact (prompted_kept content).1

/-- A tick evaluates once. -/
theorem Evaluates.unique {found' : Option ErrorClass} (h : m.Evaluates probes w found)
    (h' : m.Evaluates probes w found') : found' = found := by
  obtain ⟨content, hpane, hfound⟩ := h.finds
  obtain ⟨content', hpane', hfound'⟩ := h'.finds
  cases hpane.symm.trans hpane'
  exact hfound'.symm.trans hfound

/-- A tick asks for a kill when it finds the class of a timer that has run long enough. -/
theorem asksErrorKill_iff : m.AsksErrorKill probes w errorClass ↔
    m.NonePending probes w ∧ m.Evaluates probes w (some errorClass) ∧
      ∃ start, m.errorConfirmSince = some (start, errorClass) ∧
        m.errorConfirmSecs ≤ elapsedSecs w.now start := by
  have hsecs (content : String) :
      (m.beforeEvidence probes w content).errorConfirmSecs = m.errorConfirmSecs := by
    rw [errorConfirmSecs, errorConfirmSecs, (beforeEvidence_kept content).2]
  constructor
  · rintro ⟨hpast, content, pk, hpane, hnone, hkill, houtcome⟩
    obtain ⟨hfound, start, hsince, hlong⟩ := (pendingKill_evaluate hnone).mp ⟨pk, hkill, houtcome⟩
    rw [(beforeEvidence_kept content).1] at hsince
    rw [hsecs] at hlong
    refine ⟨?_, ⟨hpast, content, hpane, hfound⟩, start, hsince, hlong⟩
    intro content' hpane'
    cases hpane.symm.trans hpane'
    exact hnone
  · rintro ⟨hnone, ⟨hpast, content, hpane, hfound⟩, start, hsince, hlong⟩
    have hnone' := hnone content hpane
    rw [← (beforeEvidence_kept content).1] at hsince
    rw [← hsecs content] at hlong
    obtain ⟨pk, hkill, houtcome⟩ := (pendingKill_evaluate hnone').mpr ⟨hfound, start, hsince, hlong⟩
    exact ⟨hpast, content, pk, hpane, hnone', hkill, houtcome⟩

end

/-! ## The timer over a run -/

section
variable {probes : Probes} {w : Nat → Surroundings} {m : Nat → DaemonRunMonitor} {n : Nat}
  {errorClass : ErrorClass}

/-- A timer started at a tick since when every evaluation found its class. -/
theorem MonitorRun.started_of_since (hrun : MonitorRun probes w m n) {k : Nat} (hk : k ≤ n)
    {start : Int} (hsince : (m k).errorConfirmSince = some (start, errorClass)) :
    ∃ j < k, start = (w j).now ∧ (m j).Evaluates probes (w j) (some errorClass) ∧
      ∀ i, j ≤ i → i < k → ∀ found, (m i).Evaluates probes (w i) found →
        found = some errorClass := by
  induction k generalizing start with
  | zero =>
    obtain ⟨_, _, _, _, _, _, hnew, -⟩ := hrun.starts
    rw [hnew] at hsince
    cases hsince
  | succ k ih =>
    by_cases hany : ∃ found, (m k).Evaluates probes (w k) found
    · obtain ⟨found, hfound⟩ := hany
      rw [(errorConfirmSince_tick (hrun.ticks k hk)).1 _ hfound] at hsince
      obtain ⟨rfl, hbefore | rfl⟩ := confirmedSince_eq_some hsince
      · obtain ⟨j, hjk, hstart, hfirst, hbetween⟩ := ih (Nat.le_of_lt hk) hbefore
        refine ⟨j, Nat.lt_succ_of_lt hjk, hstart, hfirst, fun i hji hi found' hfound' => ?_⟩
        rcases Nat.lt_succ_iff_lt_or_eq.mp hi with hik | rfl
        · exact hbetween i hji hik found' hfound'
        · exact hfound.unique hfound'
      · refine ⟨k, Nat.lt_succ_self k, rfl, hfound, fun i hki hi found' hfound' => ?_⟩
        obtain rfl : i = k := Nat.le_antisymm (Nat.le_of_lt_succ hi) hki
        exact hfound.unique hfound'
    · have hno : ∀ found, ¬ (m k).Evaluates probes (w k) found := not_exists.mp hany
      rw [(errorConfirmSince_tick (hrun.ticks k hk)).2 hno] at hsince
      obtain ⟨j, hjk, hstart, hfirst, hbetween⟩ := ih (Nat.le_of_lt hk) hsince
      refine ⟨j, Nat.lt_succ_of_lt hjk, hstart, hfirst, fun i hji hi found' hfound' => ?_⟩
      rcases Nat.lt_succ_iff_lt_or_eq.mp hi with hik | rfl
      · exact hbetween i hji hik found' hfound'
      · exact absurd hfound' (hno found')

/-- A class found by every evaluation since a tick has a timer from then or before. -/
theorem MonitorRun.since_of_evaluates (hrun : MonitorRun probes w m n) {j k : Nat} (hjk : j + 1 ≤ k)
    (hk : k ≤ n) (hfirst : (m j).Evaluates probes (w j) (some errorClass))
    (hbetween : ∀ i, j ≤ i → i < k → ∀ found, (m i).Evaluates probes (w i) found →
      found = some errorClass) :
    ∃ start, (m k).errorConfirmSince = some (start, errorClass) ∧ start ≤ (w j).now := by
  induction k, hjk using Nat.le_induction with
  | base =>
    rw [(errorConfirmSince_tick (hrun.ticks j hk)).1 _ hfirst]
    obtain ⟨start, hstart⟩ :=
      confirmedSince_some (w j).now (m j).errorConfirmSince errorClass
    refine ⟨start, hstart, ?_⟩
    rcases (confirmedSince_eq_some hstart).2 with hbefore | rfl
    · obtain ⟨i, hij, rfl, -⟩ := hrun.started_of_since (Nat.le_of_lt hk) hbefore
      exact hrun.now_le (Nat.le_of_lt hij)
    · exact Int.le_refl _
  | succ k hjk ih =>
    obtain ⟨start, hsince, hstart⟩ := ih (Nat.le_of_lt hk)
      fun i hji hik => hbetween i hji (Nat.lt_succ_of_lt hik)
    refine ⟨start, ?_, hstart⟩
    by_cases hany : ∃ found, (m k).Evaluates probes (w k) found
    · obtain ⟨found, hfound⟩ := hany
      rw [(errorConfirmSince_tick (hrun.ticks k hk)).1 _ hfound, hsince,
        hbetween k (Nat.le_of_succ_le hjk) (Nat.lt_succ_self k) found hfound]
      exact confirmedSince_same
    · have hkept := (errorConfirmSince_tick (hrun.ticks k hk)).2
        (not_exists.mp hany)
      exact hkept.trans hsince

/-- An error asks for a kill exactly if no other is pending and its class was found by every
evaluation of the confirmation time. -/
theorem error_kill_iff (hrun : MonitorRun probes w m n) (errorClass : ErrorClass) :
    (m n).AsksErrorKill probes (w n) errorClass ↔
      (m n).NonePending probes (w n) ∧ ∃ k ≤ n, Persists probes w m errorClass k n ∧
        (m n).errorConfirmSecs ≤ elapsedSecs (w n).now (w k).now := by
  rw [asksErrorKill_iff]
  refine and_congr_right fun _ => ?_
  constructor
  · rintro ⟨hlast, start, hsince, hlong⟩
    obtain ⟨k, hkn, rfl, hfirst, hbetween⟩ := hrun.started_of_since (Nat.le_refl n) hsince
    refine ⟨k, Nat.le_of_lt hkn, ⟨hfirst, hlast, fun j hkj hjn found hfound => ?_⟩, hlong⟩
    rcases Nat.lt_or_eq_of_le hjn with hlt | rfl
    · exact hbetween j hkj hlt found hfound
    · exact hlast.unique hfound
  · rintro ⟨k, hkn, ⟨hfirst, hlast, hbetween⟩, hlong⟩
    have hlt : k < n := by
      refine Nat.lt_of_le_of_ne hkn ?_
      rintro rfl
      -- the confirmation takes five minutes at least
      rw [elapsedSecs_self, errorConfirmSecs] at hlong
      exact absurd ((Nat.le_max_right _ _).trans hlong) (by decide)
    obtain ⟨start, hsince, hstart⟩ := hrun.since_of_evaluates hlt (Nat.le_refl n) hfirst
      fun i hki hin => hbetween i hki (Nat.le_of_lt hin)
    refine ⟨hlast, start, hsince, hlong.trans ?_⟩
    exact elapsedSecs_anti hstart

end

end DaemonRunMonitor

open DaemonRunMonitor

/-! A session whose screen stays at an overload of the API. -/

private def overloadProbes : Probes where
  serde := { fromStr := fun _ => none, toPretty := fun _ => "", display := fun _ => "" }
  hashStr text := if text = "529" then 1 else 0
  toLowercase := id
  paneErrorClass text := if text = "529" then some .apiOverload else none
  parseRfc3339 _ := none

/-- The ticks are 400 s apart. -/
private def overloadWorld (n : Nat) : Surroundings where
  now := fromSecs (400 * n)
  utcNow := 0
  files := ∅
  permissionPending := false
  probe := .present
  pane := some "529"
  enterSent := false
  pidAlive _ := true
  swarm _ := false
  online := true
  scanArtifactDir _ := none

private def overloadMonitor : Nat → DaemonRunMonitor
  | 0 => .new "/repo" none 0 (.fromEnv fun _ => none) 0 0
  | n + 1 =>
    ((overloadMonitor n).tick overloadProbes (overloadWorld n)).toOption.getD (overloadMonitor n)

private theorem overload_tick {n : Nat}
    (h : ((overloadMonitor n).tick overloadProbes (overloadWorld n)).toOption.isSome = true) :
    (overloadMonitor n).tick overloadProbes (overloadWorld n) = .ok (overloadMonitor (n + 1)) := by
  rw [overloadMonitor]
  exact Except.eq_ok_getD h _

private theorem overload_run : MonitorRun overloadProbes overloadWorld overloadMonitor 2 where
  starts := ⟨"/repo", none, 0, .fromEnv fun _ => none, 0, 0, rfl, Nat.zero_le _⟩
  ticks k hk := by
    apply overload_tick
    match k, hk with
    | 0, _ => decide +kernel
    | 1, _ => decide +kernel
  clock := by
    intro j k hjk
    exact Nat.mul_le_mul_right _ (Nat.mul_le_mul_left 400 hjk)

private theorem overload_asks :
    (overloadMonitor 2).AsksErrorKill overloadProbes (overloadWorld 2) .apiOverload where
  past := ⟨by decide +kernel, rfl, by decide +kernel⟩
  asks := by
    obtain ⟨pk, hkill, houtcome⟩ : ∃ pk, (((overloadMonitor 2).beforeEvidence overloadProbes
        (overloadWorld 2) "529").evaluateErrorEvidence overloadProbes (overloadWorld 2)
          "529").pendingKill = some pk ∧ pk.outcome = .errorDetected .apiOverload :=
      exists_of_any (by decide +kernel)
    exact ⟨"529", pk, rfl, by decide +kernel, hkill, houtcome⟩

/-- The third tick asks for a kill, and the overload was found since the second one. -/
theorem overload_confirmed : ∃ k ≤ 2,
    Persists overloadProbes overloadWorld overloadMonitor .apiOverload k 2 ∧
      (overloadMonitor 2).errorConfirmSecs ≤
        elapsedSecs (overloadWorld 2).now (overloadWorld k).now :=
  ((error_kill_iff overload_run .apiOverload).mp overload_asks).2

end GreaterWill
