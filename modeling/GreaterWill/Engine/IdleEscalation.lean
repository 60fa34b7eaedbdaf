import GreaterWill.Engine.CompletionSpec

/-!
# The idle escalation of the detector

A session whose pane does not change is nudged and then killed. What the detector looks at before
the idle times can come back at every tick. The checkpoint and the phase timeout end the monitoring,
and so does the evidence of an error; a prompt that has returned does not: once its grace period is
over it is all the detector reports while it stands there.
-/

namespace GreaterWill

namespace GroupMonitor

variable {probes : DetectorProbes} {m m' : GroupMonitor} {t : DetectorTick}

/-- What the rounds report, one after the other. -/
def events (probes : DetectorProbes) (m : GroupMonitor) (ts : List DetectorTick) :
    List CompletionEvent :=
  yields (step probes) (fun m t => [m.event probes t]) m ts

/-! ## What is remembered -/

/-- What the loop has set up, and no time it remembers after `v`. -/
structure SetUp (config : CompletionConfig) (groupPhases : List String) (startedAt v : Nat)
    (d : CompletionDetector) : Prop where
  config : d.config = config
  groupPhases : d.groupPhases = groupPhases
  startedAt : d.state.startedAt = startedAt
  lastActivity : d.state.lastActivity ≤ v
  promptDetectedAt : ∀ at' ∈ d.state.promptDetectedAt, at' ≤ v

section
variable {config : CompletionConfig} {groupPhases : List String} {startedAt v : Nat}
  {d d' : CompletionDetector}

theorem SetUp.congr (h : SetUp config groupPhases startedAt v d) (hsame : d.SameTimers d') :
    SetUp config groupPhases startedAt v d' where
  config := hsame.config.trans h.config
  groupPhases := hsame.groupPhases.trans h.groupPhases
  startedAt := hsame.startedAt.trans h.startedAt
  lastActivity := by
    rw [hsame.lastActivity]
    exact h.lastActivity
  promptDetectedAt := by
    rw [hsame.promptDetectedAt]
    exact h.promptDetectedAt

theorem SetUp.seePane (h : SetUp config groupPhases startedAt v d) (hnow : t.now ≤ v) :
    SetUp config groupPhases startedAt v (d.seePane probes t) := by
  rw [CompletionDetector.seePane]
  split
  · refine ⟨h.config, h.groupPhases, h.startedAt, hnow, ?_⟩
    intro at' hat
    cases hat
  · exact ⟨h.config, h.groupPhases, h.startedAt, h.lastActivity, h.promptDetectedAt⟩

theorem SetUp.noting (h : SetUp config groupPhases startedAt v d) (hnow : t.now ≤ v) :
    SetUp config groupPhases startedAt v (d.noting t) := by
  unfold CompletionDetector.noting
  refine ⟨h.config, h.groupPhases, h.startedAt, h.lastActivity, ?_⟩
  dsimp only
  rw [CompletionDetector.noted]
  split
  · cases hat : d.state.promptDetectedAt with
    | none =>
      rintro at' ⟨⟩
      exact hnow
    | some since =>
      rintro at' ⟨⟩
      exact h.promptDetectedAt since hat
  · exact h.promptDetectedAt

theorem SetUp.tick (h : SetUp config groupPhases startedAt v d) (hnow : t.now ≤ v) :
    SetUp config groupPhases startedAt v (d.tick probes t).1 := by
  rcases d.tick_sameTimers probes t with heq | hsame | hsame
  · rw [heq]
    exact h
  · exact (h.seePane hnow).congr hsame
  · exact ((h.seePane hnow).noting hnow).congr hsame

theorem SetUp.markNudged (h : SetUp config groupPhases startedAt v d) :
    SetUp config groupPhases startedAt v d.markNudged :=
  ⟨h.config, h.groupPhases, h.startedAt, h.lastActivity, h.promptDetectedAt⟩

theorem SetUp.step (h : SetUp config groupPhases startedAt v m.detector) (hnow : t.now ≤ v)
    (hstep : m.step probes t = some m') : SetUp config groupPhases startedAt v m'.detector := by
  obtain ⟨-, rfl⟩ := step_eq_some.mp hstep
  rcases m.detector_next probes t with heq | ⟨-, heq⟩
  · rw [heq]
    exact h.tick hnow
  · rw [heq]
    exact (h.tick hnow).markNudged

/-- The first tick on a pane: its hash is remembered, and its prompt. -/
theorem step_first (h : SetUp config groupPhases startedAt t.now m.detector)
    (hstep : m.step probes t = some m') :
    SetUp config groupPhases startedAt t.now m'.detector ∧
      m'.detector.state.lastPaneHash = some (probes.computePaneHash t.pane) ∧
      (detectPrompt t.pane = true → m'.detector.state.promptDetectedAt.isSome) := by
  obtain ⟨htime, hnone⟩ := goes_on hstep
  have hsame := CompletionDetector.tick_open_sameTimers htime hnone
  have hticked : (m.detector.tick probes t).1.state.lastPaneHash =
        some (probes.computePaneHash t.pane) ∧
      (detectPrompt t.pane = true →
        (m.detector.tick probes t).1.state.promptDetectedAt.isSome) := by
    rw [hsame.lastPaneHash, hsame.promptDetectedAt, CompletionDetector.noting]
    refine ⟨rfl, fun hprompt => ?_⟩
    dsimp only
    rw [CompletionDetector.noted, if_pos hprompt]
    cases (m.detector.seePane probes t).state.promptDetectedAt with
    | none => rfl
    | some since => rfl
  refine ⟨h.step le_rfl hstep, ?_⟩
  obtain ⟨-, rfl⟩ := step_eq_some.mp hstep
  rcases m.detector_next probes t with heq | ⟨-, heq⟩
  · rw [heq]
    exact hticked
  · rw [heq]
    exact hticked

end

/-- The detector as it was, but for the checkpoint and the nudge. -/
structure Stalled (d d' : CompletionDetector) : Prop where
  config : d'.config = d.config
  groupPhases : d'.groupPhases = d.groupPhases
  startedAt : d'.state.startedAt = d.state.startedAt
  lastPaneHash : d'.state.lastPaneHash = d.state.lastPaneHash
  lastActivity : d'.state.lastActivity = d.state.lastActivity
  promptDetectedAt : d'.state.promptDetectedAt = d.state.promptDetectedAt

section
variable {d : CompletionDetector} {pane : String} {ts : List DetectorTick}

theorem Stalled.refl : Stalled d d := ⟨rfl, rfl, rfl, rfl, rfl, rfl⟩

theorem Stalled.paneChanged (h : Stalled d m.detector)
    (hhash : d.state.lastPaneHash = some (probes.computePaneHash t.pane)) :
    m.detector.paneChanged probes t = false := by
  rw [CompletionDetector.paneChanged, h.lastPaneHash, hhash]
  simp

/-- On the same pane the detector stays as it was. -/
theorem Stalled.step (h : Stalled d m.detector)
    (hhash : d.state.lastPaneHash = some (probes.computePaneHash t.pane))
    (hprompt : detectPrompt t.pane = true → d.state.promptDetectedAt.isSome)
    (hstep : m.step probes t = some m') : Stalled d m'.detector := by
  obtain ⟨htime, hnone⟩ := goes_on hstep
  have hsame := CompletionDetector.tick_open_sameTimers htime hnone
  rw [CompletionDetector.seePane_unchanged (h.paneChanged hhash),
    CompletionDetector.noting] at hsame
  have hnoted : m.detector.noted t = d.state.promptDetectedAt := by
    rw [CompletionDetector.noted, h.promptDetectedAt]
    split
    · next hp =>
      obtain ⟨since, hsince⟩ := Option.isSome_iff_exists.mp (hprompt hp)
      rw [hsince, Option.some_or]
    · rfl
  have hticked : Stalled d (m.detector.tick probes t).1 := {
    config := hsame.config.trans h.config
    groupPhases := hsame.groupPhases.trans h.groupPhases
    startedAt := hsame.startedAt.trans h.startedAt
    lastPaneHash := hsame.lastPaneHash.trans h.lastPaneHash
    lastActivity := hsame.lastActivity.trans h.lastActivity
    promptDetectedAt := hsame.promptDetectedAt.trans hnoted }
  obtain ⟨-, rfl⟩ := step_eq_some.mp hstep
  rcases m.detector_next probes t with heq | ⟨-, heq⟩
  · rw [heq]
    exact hticked
  · rw [heq]
    exact ⟨hticked.config, hticked.groupPhases, hticked.startedAt, hticked.lastPaneHash,
      hticked.lastActivity, hticked.promptDetectedAt⟩

theorem stalled_exec (h : Stalled d m.detector)
    (hhash : d.state.lastPaneHash = some (probes.computePaneHash pane))
    (hprompt : detectPrompt pane = true → d.state.promptDetectedAt.isSome)
    (hrun : exec (step probes) m ts = some m') (hpane : ∀ t ∈ ts, t.pane = pane) :
    Stalled d m'.detector := by
  refine exec_invariant (I := fun m => Stalled d m.detector) ?_ hrun
    (Along.of_forall_mem hpane) h
  rintro m t m' hstep rfl hm
  exact hm.step hhash hprompt hstep

end

/-! ## The nudge -/

theorem nudged_tick {d : CompletionDetector} (h : (d.tick probes t).1.state.nudged = true) :
    d.state.nudged = true := by
  have hpane : (d.seePane probes t).state.nudged = true → d.state.nudged = true := by
    rw [CompletionDetector.seePane]
    split
    · exact fun h => Bool.noConfusion h
    · exact id
  rcases d.tick_sameTimers probes t with heq | hsame | hsame
  · rwa [heq] at h
  · rw [hsame.nudged] at h
    exact hpane h
  · rw [hsame.nudged] at h
    exact hpane h

/-- Only a nudge that was reported is remembered. -/
theorem nudge_mem_events {ts : List DetectorTick} (hrun : exec (step probes) m ts = some m')
    (hfresh : m.detector.state.nudged = false) (h : m'.detector.state.nudged = true) :
    .nudge ∈ events probes m ts := by
  have hinv : m'.detector.state.nudged = true → .nudge ∈ [] ++ events probes m ts := by
    rw [events]
    refine exec_invariant_yields (f := fun m t => [m.event probes t])
      (I := fun bs (m : GroupMonitor) =>
        m.detector.state.nudged = true → CompletionEvent.nudge ∈ bs)
      ?_ hrun Along.trivial ?_
    · intro bs m t m' hstep _ hbs hnudged
      rw [List.mem_append]
      obtain ⟨-, rfl⟩ := step_eq_some.mp hstep
      rcases m.detector_next probes t with heq | ⟨hevent, -⟩
      · rw [heq] at hnudged
        exact .inl (hbs (nudged_tick hnudged))
      · rw [hevent]
        exact .inr List.mem_cons_self
    · rw [hfresh]
      nofun
  exact hinv h

end GroupMonitor

/-! ## The escalation -/

/-- A run of the monitor loop in which the pane stays as it is at one tick until the idle kill is
due, and the tick that comes then. -/
structure FrozenRun (probes : DetectorProbes) where
  config : CompletionConfig
  groupPhases : List String
  startedAt : Nat
  /-- The ticks before the pane is as it stays. -/
  before : List DetectorTick
  first : DetectorTick
  frozen : List DetectorTick
  last : DetectorTick
  /-- The loop when the last tick comes. -/
  monitor : GroupMonitor
  run : exec (GroupMonitor.step probes) (.new config groupPhases startedAt)
    (before ++ first :: frozen) = some monitor
  started : startedAt ≤ first.now
  clock : (before ++ first :: (frozen ++ [last])).Pairwise fun t t' => t.now ≤ t'.now
  pane : ∀ t ∈ frozen ++ [last], t.pane = first.pane
  inTime : last.now - startedAt ≤ limit config.phaseTimeout
  undecided : last.Undecided groupPhases
  due : limit config.idleKillAfter < last.now - first.now

namespace FrozenRun

variable {probes : DetectorProbes}

/-- The session is killed when that is due, and was nudged before if a tick came between the
nudge and the kill. -/
structure Escalates (r : FrozenRun probes) : Prop where
  kill : r.monitor.event probes r.last = .stuck ∨
    ∃ errorClass, r.monitor.event probes r.last = .errorDetected errorClass
  nudge : r.config.idleNudgeAfter < r.config.idleKillAfter →
    (∃ t ∈ r.frozen, limit r.config.idleNudgeAfter < t.now - r.first.now ∧
      t.now - r.first.now ≤ limit r.config.idleKillAfter) →
    CompletionEvent.nudge ∈ GroupMonitor.events probes
      (.new r.config r.groupPhases r.startedAt) (r.before ++ r.first :: r.frozen)

theorem pane_frozen (r : FrozenRun probes) {t : DetectorTick} (ht : t ∈ r.frozen) :
    t.pane = r.first.pane :=
  r.pane t (List.mem_append_left _ ht)

theorem pane_last (r : FrozenRun probes) : r.last.pane = r.first.pane :=
  r.pane r.last (List.mem_append_right _ List.mem_cons_self)

/-- What holds from the first tick on the pane. -/
theorem stalls (r : FrozenRun probes) :
    ∃ m, exec (GroupMonitor.step probes) (.new r.config r.groupPhases r.startedAt)
        (r.before ++ [r.first]) = some m ∧
      exec (GroupMonitor.step probes) m r.frozen = some r.monitor ∧
      GroupMonitor.SetUp r.config r.groupPhases r.startedAt r.first.now m.detector ∧
      m.detector.state.lastPaneHash = some (probes.computePaneHash r.first.pane) ∧
      (detectPrompt r.first.pane = true → m.detector.state.promptDetectedAt.isSome) := by
  obtain ⟨m₀, hbefore, hrest⟩ := exec_append.mp r.run
  obtain ⟨m, hfirst, hfrozen⟩ := exec_cons.mp hrest
  have hearlier : ∀ t ∈ r.before, t.now ≤ r.first.now := fun t ht =>
    (List.pairwise_append.mp r.clock).2.2 t ht r.first List.mem_cons_self
  have hstart : GroupMonitor.SetUp r.config r.groupPhases r.startedAt r.first.now
      (GroupMonitor.new r.config r.groupPhases r.startedAt).detector :=
    ⟨rfl, rfl, rfl, r.started, nofun⟩
  have hset : GroupMonitor.SetUp r.config r.groupPhases r.startedAt r.first.now m₀.detector := by
    refine exec_invariant
      (I := fun m => GroupMonitor.SetUp r.config r.groupPhases r.startedAt r.first.now m.detector)
      ?_ hbefore (Along.of_forall_mem hearlier) hstart
    intro m t m' hstep hnow hm
    exact hm.step hnow hstep
  refine ⟨m, exec_append.mpr ⟨m₀, hbefore, by rw [exec_singleton, hfirst]⟩, hfrozen, ?_⟩
  exact GroupMonitor.step_first hset hfirst

/-- The detector is at the last tick as it was after the first one on the pane. -/
theorem stalled (r : FrozenRun probes) {m : GroupMonitor}
    (hfrozen : exec (GroupMonitor.step probes) m r.frozen = some r.monitor)
    (hhash : m.detector.state.lastPaneHash = some (probes.computePaneHash r.first.pane))
    (hprompt : detectPrompt r.first.pane = true → m.detector.state.promptDetectedAt.isSome) :
    GroupMonitor.Stalled m.detector r.monitor.detector :=
  GroupMonitor.stalled_exec .refl hhash hprompt hfrozen fun _ ht => r.pane_frozen ht

theorem idleEvent_of_due {d : CompletionDetector} {t : DetectorTick}
    (h : limit d.config.idleKillAfter < t.now - d.state.lastActivity) : d.idleEvent t = .stuck := by
  rw [CompletionDetector.idleEvent, if_pos h]

/-- Between the thresholds the session is nudged, or was nudged before. -/
theorem idleEvent_of_idle {d : CompletionDetector} {t : DetectorTick}
    (h : limit d.config.idleNudgeAfter < t.now - d.state.lastActivity) :
    d.idleEvent t = .stuck ∨ d.idleEvent t = .nudge ∨ d.state.nudged = true := by
  rw [CompletionDetector.idleEvent]
  split
  · exact .inl rfl
  · cases hnudged : d.state.nudged with
    | true => exact .inr (.inr rfl)
    | false =>
      rw [if_pos ⟨h, rfl⟩]
      exact .inr (.inl rfl)

/-- At the last tick nothing comes in front of the prompt. -/
theorem last_open (r : FrozenRun probes) :
    r.monitor.detector.timedOut r.last = false ∧
      r.monitor.detector.paneChanged probes r.last = false ∧
      ((r.monitor.detector.seePane probes r.last).seeCheckpoint probes r.last).2 = none ∧
      r.monitor.detector.groupPhases = r.groupPhases ∧
      limit r.monitor.detector.config.idleKillAfter <
        r.last.now - r.monitor.detector.state.lastActivity := by
  obtain ⟨m, -, hfrozen, hset, hhash, hprompt⟩ := r.stalls
  have hstalled := r.stalled hfrozen hhash hprompt
  have hphases : r.monitor.detector.groupPhases = r.groupPhases :=
    hstalled.groupPhases.trans hset.groupPhases
  have hsame : r.monitor.detector.paneChanged probes r.last = false := by
    refine hstalled.paneChanged ?_
    rw [r.pane_last]
    exact hhash
  refine ⟨?_, hsame, ?_, hphases, ?_⟩
  · have htime := r.inTime
    rw [CompletionDetector.timedOut, hstalled.config, hset.config, hstalled.startedAt,
      hset.startedAt]
    simpa using htime
  · rw [CompletionDetector.seePane_unchanged hsame]
    refine CompletionDetector.seeCheckpoint_open ?_
    rw [hphases]
    exact r.undecided.checkpoint
  · rw [hstalled.config, hset.config, hstalled.lastActivity]
    have hdue := r.due
    have hactivity := hset.lastActivity
    omega

/-- The kill comes unless the prompt is over. -/
theorem kill_iff (r : FrozenRun probes) :
    (r.monitor.event probes r.last = .stuck ∨
        ∃ errorClass, r.monitor.event probes r.last = .errorDetected errorClass) ↔
      ¬ r.monitor.detector.PromptOver r.last := by
  obtain ⟨htime, hsame, hnone, hphases, hdue⟩ := r.last_open
  constructor
  · intro hkill hover
    have hopen : GroupOpen r.monitor.detector.groupPhases r.last.recheck := by
      rw [hphases]
      exact r.undecided.recheck
    have hevent : r.monitor.event probes r.last = .promptReturned :=
      CompletionDetector.event_of_over htime hnone hsame hover hopen
    rw [hevent] at hkill
    rcases hkill with hkill | ⟨errorClass, hkill⟩
    · cases hkill
    · cases hkill
  · intro hover
    have hevent : r.monitor.event probes r.last = r.monitor.detector.idleEvent r.last ∨
        ∃ errorClass, r.monitor.event probes r.last = .errorDetected errorClass :=
      CompletionDetector.event_of_not_over htime hnone hsame hover
    rwa [idleEvent_of_due hdue] at hevent

/-- A round of the loop on the stalled pane that the prompt does not take nudges, or finds that the
session was nudged. -/
theorem nudge_of_round {m m' : GroupMonitor} {t : DetectorTick}
    (hsame : m.detector.paneChanged probes t = false) (hover : ¬ m.detector.PromptOver t)
    (hidle : limit m.detector.config.idleNudgeAfter < t.now - m.detector.state.lastActivity)
    (hstep : m.step probes t = some m') :
    m.event probes t = .nudge ∨ m.detector.state.nudged = true := by
  obtain ⟨htime, hnone⟩ := GroupMonitor.goes_on hstep
  obtain ⟨hended, -⟩ := GroupMonitor.step_eq_some.mp hstep
  rw [GroupMonitor.ended] at hended
  have hevent : m.event probes t = m.detector.idleEvent t ∨
      ∃ errorClass, m.event probes t = .errorDetected errorClass :=
    CompletionDetector.event_of_not_over htime hnone hsame hover
  rcases hevent with hevent | ⟨errorClass, hevent⟩
  · rw [hevent] at hended ⊢
    rcases idleEvent_of_idle hidle with hstuck | hnudge | hnudged
    · rw [hstuck] at hended
      cases hended
    · exact .inl hnudge
    · exact .inr hnudged
  · rw [hevent] at hended
    cases hended

theorem nudge_of_not_over (r : FrozenRun probes)
    (hover : ¬ r.monitor.detector.PromptOver r.last) {t : DetectorTick} (ht : t ∈ r.frozen)
    (hidle : limit r.config.idleNudgeAfter < t.now - r.first.now) :
    CompletionEvent.nudge ∈ GroupMonitor.events probes
      (.new r.config r.groupPhases r.startedAt) (r.before ++ r.first :: r.frozen) := by
  obtain ⟨m, hfirst, hfrozen, hset, hhash, hprompt⟩ := r.stalls
  have hpane : ∀ t ∈ r.frozen, t.pane = r.first.pane := fun t ht => r.pane_frozen ht
  have hend := r.stalled hfrozen hhash hprompt
  have hclock : t.now ≤ r.last.now := by
    have hlate := (List.pairwise_cons.mp (List.pairwise_append.mp r.clock).2.1).2
    exact (List.pairwise_append.mp hlate).2.2 t ht r.last List.mem_cons_self
  obtain ⟨pre, post, hsplit⟩ := List.append_of_mem ht
  rw [hsplit] at hfrozen hpane
  obtain ⟨u, hpre, hrest⟩ := exec_append.mp hfrozen
  obtain ⟨u', hstep, -⟩ := exec_cons.mp hrest
  have hstalled : GroupMonitor.Stalled m.detector u.detector :=
    GroupMonitor.stalled_exec .refl hhash hprompt hpre fun t ht =>
      hpane t (List.mem_append_left _ ht)
  have htpane : t.pane = r.first.pane := hpane t (List.mem_append_right _ List.mem_cons_self)
  have hsame : u.detector.paneChanged probes t = false := by
    refine hstalled.paneChanged ?_
    rw [htpane]
    exact hhash
  have hearly : ¬ u.detector.PromptOver t := by
    rintro ⟨hdetect, since, hsince, hgrace⟩
    refine hover ⟨?_, since, ?_, ?_⟩
    · rw [r.pane_last, ← htpane]
      exact hdetect
    · rw [hend.promptDetectedAt, ← hstalled.promptDetectedAt]
      exact hsince
    · rw [hend.config, ← hstalled.config]
      omega
  have hidle' : limit u.detector.config.idleNudgeAfter <
      t.now - u.detector.state.lastActivity := by
    rw [hstalled.config, hset.config, hstalled.lastActivity]
    have hactivity := hset.lastActivity
    omega
  have hreached : exec (GroupMonitor.step probes) (.new r.config r.groupPhases r.startedAt)
      (r.before ++ r.first :: pre) = some u := by
    rw [List.append_cons]
    exact exec_append.mpr ⟨m, hfirst, hpre⟩
  have hevents : CompletionEvent.nudge ∈ GroupMonitor.events probes
      (.new r.config r.groupPhases r.startedAt) (r.before ++ r.first :: pre) ++
        GroupMonitor.events probes u (t :: post) := by
    rw [List.mem_append]
    rcases nudge_of_round hsame hearly hidle' hstep with hevent | hnudged
    · right
      rw [GroupMonitor.events, yields_cons hstep, hevent]
      exact List.mem_append_left _ List.mem_cons_self
    · exact .inl (GroupMonitor.nudge_mem_events hreached rfl hnudged)
  rw [GroupMonitor.events, GroupMonitor.events, ← yields_append hreached] at hevents
  rw [hsplit, GroupMonitor.events]
  simpa using hevents

/-- The escalation is exact but for the prompt: it comes exactly if the last line of the pane shows
no prompt, or the grace period of the prompt is not over when the kill is due. -/
theorem escalates_iff (r : FrozenRun probes) :
    r.Escalates ↔ ¬ r.monitor.detector.PromptOver r.last := by
  constructor
  · intro h
    exact r.kill_iff.mp h.kill
  · intro hover
    refine ⟨r.kill_iff.mpr hover, ?_⟩
    rintro - ⟨t, ht, hidle, -⟩
    exact r.nudge_of_not_over hover ht hidle

/-- With a grace period that is over before the kill is due the prompt alone decides. -/
theorem escalates_iff_no_prompt (r : FrozenRun probes)
    (h : r.config.promptGracePeriod ≤ r.config.idleKillAfter) :
    r.Escalates ↔ detectPrompt r.first.pane = false := by
  obtain ⟨m, -, hfrozen, hset, hhash, hprompt⟩ := r.stalls
  have hend := r.stalled hfrozen hhash hprompt
  rw [escalates_iff, CompletionDetector.PromptOver, r.pane_last, hend.config, hset.config,
    hend.promptDetectedAt, ← Bool.not_eq_true]
  refine not_congr ⟨fun hover => hover.1, fun hdetect => ⟨hdetect, ?_⟩⟩
  obtain ⟨since, hsince⟩ := Option.isSome_iff_exists.mp (hprompt hdetect)
  refine ⟨since, hsince, ?_⟩
  have hseen := hset.promptDetectedAt since hsince
  have hdue := r.due
  have hgrace : limit r.config.promptGracePeriod ≤ limit r.config.idleKillAfter :=
    Nat.mul_le_mul_left _ h
  omega

end FrozenRun

/-- A session that stands at its prompt with its phase in progress. -/
def promptTick (secs : Nat) : DetectorTick :=
  let checkpoint := .ok {
    id := "arc-1"
    planFile := "plan.md"
    phases := Dict.ofList [("work", { status := "in_progress" })] }
  { now := fromSecs secs, pane := "done\n❯ ", checkpoint, recheck := checkpoint,
    reread := checkpoint }

/-- The idle times of a group by default. -/
def groupConfig : CompletionConfig where
  pollInterval := 3
  idleNudgeAfter := 180
  idleKillAfter := 300
  promptGracePeriod := 5
  phaseTimeout := 3600

theorem promptTick_open (secs : Nat) : GroupOpen ["work"] (promptTick secs).checkpoint := by
  rintro cp ⟨⟩
  exact ⟨by decide, by decide⟩

/-- A session at its prompt is not killed: ten minutes after the last change the prompt is
reported. -/
theorem prompt_starves : ∃ r : FrozenRun plainProbes, r.config = groupConfig ∧ ¬ r.Escalates := by
  have hsome : (exec (GroupMonitor.step plainProbes) (.new groupConfig ["work"] 0)
      ([] ++ promptTick 0 :: [promptTick 10, promptTick 200])).isSome = true := by decide +kernel
  obtain ⟨m, hm⟩ := Option.isSome_iff_exists.mp hsome
  have hevent : ((exec (GroupMonitor.step plainProbes) (.new groupConfig ["work"] 0)
      ([] ++ promptTick 0 :: [promptTick 10, promptTick 200])).any fun m =>
        decide (m.event plainProbes (promptTick 600) = .promptReturned)) = true := by decide +kernel
  rw [hm, Option.any_some, decide_eq_true_eq] at hevent
  refine ⟨⟨groupConfig, ["work"], 0, [], promptTick 0, [promptTick 10, promptTick 200],
    promptTick 600, m, hm, Nat.zero_le _, ?_, ?_, ?_, ?_, ?_⟩, rfl, ?_⟩
  · decide
  · decide
  · decide
  · exact ⟨promptTick_open 600, promptTick_open 600, promptTick_open 600⟩
  · decide
  · rintro ⟨hkill, -⟩
    rw [hevent] at hkill
    rcases hkill with hkill | ⟨errorClass, hkill⟩
    · cases hkill
    · cases hkill

end GreaterWill
